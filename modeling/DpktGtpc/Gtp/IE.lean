import DpktGtpc.Packet

/-! The information elements of GTP-C, `IEv1` and `IEv2` of `gtp_c.py`: their objects, `unpack`,
`pack_hdr`, `bytes()` and `len()`, and the IE loops that `GTPv1C.unpack` and `GTPv2C.unpack` run
over a message body; and the attribute values that the two message classes share. -/

namespace DpktGtpc.Gtp

/-- An attribute that holds an integer, or the bytes that `pack_hdr` packed it to. -/
inductive PyVal where
  | int (n : Int)
  | bytes (b : Bytes)
  deriving DecidableEq, Repr

/-- An attribute read for `>>` and `&`: an `AttributeError` when it was never set, a `TypeError`
when it holds bytes. -/
def PyVal.toInt (name : String) : Option PyVal → Except PyError Int
  | none => .error (.attributeError name)
  | some (.int n) => .ok n
  | some (.bytes _) => .error .typeError

theorem PyVal.toInt_eq_ok {name : String} {v : Option PyVal} {i : Int} :
    PyVal.toInt name v = .ok i ↔ v = some (.int i) := by
  rcases v with _ | _ | _ <;> simp [PyVal.toInt]

/-- `self.data` of a message: bytes, or the list of IEs. -/
inductive Payload (α : Type) where
  | bytes (b : Bytes)
  | list (ies : List α)
  deriving DecidableEq, Repr

/-- `len(self.data)`: the number of bytes, or of IEs while `data` holds the IE list. -/
def Payload.pyLen {α : Type} : Payload α → Nat
  | .bytes b => b.length
  | .list ies => ies.length

/-- `TV_LEN_DICT`: the value length of each GTPv1 TV type, from `TV_RESERVED` to
`TV_CHARGING_ID`. -/
def TV_LEN_DICT : List (Nat × Nat) :=
  [(0, 0), (1, 1), (2, 8), (3, 6), (4, 4), (5, 4), (8, 1), (9, 28), (11, 1), (12, 3), (13, 1),
    (14, 1), (15, 1), (16, 4), (17, 4), (18, 5), (19, 1), (20, 1), (21, 1), (22, 9), (23, 1),
    (24, 1), (25, 2), (26, 2), (27, 2), (28, 2), (29, 1), (127, 4)]

/-! ### The IE loop -/

/-- What the IE loop of a message needs of an IE class: its constructor from bytes, `IE(buf)`,
and `len()`, which is never 0. -/
structure IEClass (α : Type) where
  init : Bytes → Except PyError α
  length : α → Nat
  one_le_length : ∀ ie, 1 ≤ length ie

namespace IEClass

variable {α : Type} (C : IEClass α)

/-- The IE loop of `GTPv1C.unpack` and `GTPv2C.unpack`: `while self.data: ie = IE(self.data);
l.append(ie); self.data = self.data[len(ie):]`. Each turn consumes `len(ie) ≥ 1` bytes, so
`fuel ≥ len(data)` turns always suffice. -/
def loop : (fuel : Nat) → (data : Bytes) → data.length ≤ fuel → Except PyError (List α)
  | _, [], _ => .ok []
  | 0, _ :: _, h => absurd h (by simp)
  | fuel + 1, b :: bs, h => do
    let ie ← C.init (b :: bs)
    let rest ← loop fuel ((b :: bs).drop (C.length ie))
      (by have := C.one_le_length ie; simp only [List.length_drop, List.length_cons] at h ⊢; omega)
    pure (ie :: rest)

/-- The IE loop run on the bytes `data`. -/
def unpackAll (data : Bytes) : Except PyError (List α) := C.loop data.length data (Nat.le_refl _)

theorem loop_fuel (fuel fuel' : Nat) (data : Bytes) (h : data.length ≤ fuel)
    (h' : data.length ≤ fuel') : C.loop fuel data h = C.loop fuel' data h' := by
  induction fuel generalizing fuel' data with
  | zero => cases data with
    | nil => cases fuel' <;> rfl
    | cons b bs => simp at h
  | succ fuel ih => cases data with
    | nil => cases fuel' <;> rfl
    | cons b bs =>
      cases fuel' with
      | zero => simp at h'
      | succ fuel' =>
        simp only [loop]
        congr 1; funext ie; congr 1
        exact ih _ _ _ _

@[simp] theorem unpackAll_nil : C.unpackAll [] = .ok [] := rfl

/-- One turn of the IE loop. -/
theorem unpackAll_cons (b : UInt8) (bs : Bytes) :
    C.unpackAll (b :: bs) = (do
      let ie ← C.init (b :: bs)
      let rest ← C.unpackAll ((b :: bs).drop (C.length ie))
      pure (ie :: rest)) := by
  simp only [unpackAll, List.length_cons, loop]
  congr 1; funext ie; congr 1
  exact C.loop_fuel _ _ _ _ _

theorem loop_raisesOnly {P : PyError → Prop} (hC : ∀ b, RaisesOnly P (C.init b)) :
    ∀ fuel data h, RaisesOnly P (C.loop fuel data h)
  | fuel, [], _ => by cases fuel <;> exact RaisesOnly.ok _ _
  | 0, _ :: _, h => absurd h (by simp)
  | _ + 1, _ :: _, _ =>
    (hC _).bind fun _ _ => (loop_raisesOnly hC _ _ _).bind fun _ _ => RaisesOnly.ok _ _

/-- The IE loop raises only what the IE constructor raises. -/
theorem unpackAll_raisesOnly {P : PyError → Prop} (hC : ∀ b, RaisesOnly P (C.init b))
    (data : Bytes) : RaisesOnly P (C.unpackAll data) :=
  C.loop_raisesOnly hC _ _ _

end IEClass

/-! ### `IEv1` -/

/-- An `IEv1` object: the header field `type`, the attribute `len` (`none` when it was never set,
or when `unpack` stored `None` for a TV type outside `TV_LEN_DICT`), and `data`. -/
structure IEv1 where
  type : Nat
  len : Option Nat
  data : Bytes
  deriving DecidableEq, Repr

namespace IEv1

/-- The `encoding` property: the top bit of `type`, set for a TLV IE. -/
def encoding (ie : IEv1) : Nat := (ie.type >>> 7) &&& 1

/-- `IEv1(type=t, data=d)`. -/
def build (type : Nat) (data : Bytes) : IEv1 := { type, len := none, data }

/-- `IEv1.unpack`. -/
def unpack (buf : Bytes) : Except PyError IEv1 := do
  let ([type], data) ← Packet.unpack [1] buf | throw .structError
  if (type >>> 7) &&& 1 ≠ 0 then
    let len ← unpackUInt 2 (data.take 2)
    pure { type, len := some len, data := (data.drop 2).take len }
  else
    let len := TV_LEN_DICT.lookup type
    pure { type, len, data := match len with | some n => data.take n | none => data }

/-- `IEv1(buf)`. -/
def init (buf : Bytes) : Except PyError IEv1 := Packet.init unpack buf

/-- `IEv1.unpack` on the type octet `t` and the bytes after it. -/
theorem unpack_cons (t : UInt8) (rest : Bytes) :
    unpack (t :: rest) =
      if (t.toNat >>> 7) &&& 1 ≠ 0 then
        (unpackUInt 2 (rest.take 2)).map fun len =>
          { type := t.toNat, len := some len, data := (rest.drop 2).take len }
      else .ok { type := t.toNat, len := TV_LEN_DICT.lookup t.toNat,
                 data := match TV_LEN_DICT.lookup t.toNat with
                   | some n => rest.take n
                   | none => rest } := by
  simp [unpack, Packet.unpack_of_le (show [1].sum ≤ (t :: rest).length by simp), beFields,
    beValue]
  split <;> rfl

/-- The only exception of `IEv1(buf)` is `NeedData`, on an empty buffer or a TLV IE cut inside its
length field. -/
theorem init_raisesOnly (buf : Bytes) : RaisesOnly (· = .needData) (init buf) := by
  refine Packet.init_raisesOnly (P := (· = .structError)) ?_ (fun e h h' => absurd h h') rfl
  refine (Packet.unpack_raisesOnly _ _).bind fun r _ => ?_
  split
  · split
    · exact (unpackUInt_raisesOnly _ _).bind fun _ _ => RaisesOnly.ok _ _
    · exact RaisesOnly.ok _ _
  · exact RaisesOnly.error rfl

/-- `IEv1.pack_hdr`: the type byte, then for a TLV IE the two bytes of `self.len`. -/
def packHdr (ie : IEv1) : Except PyError Bytes := do
  let hdr ← Packet.packHdr [(1, ie.type)]
  if ie.encoding ≠ 0 then
    match ie.len with
    | none => throw (.attributeError "len")
    | some n => pure (hdr ++ (← packUInt 2 n))
  else pure hdr

/-- `bytes(ie)`, `Packet.__bytes__`: the header, then `data`. -/
def bytes (ie : IEv1) : Except PyError Bytes := do
  let hdr ← ie.packHdr
  pure (hdr ++ ie.data)

/-- `len(ie)`, `IEv1.__len__`. -/
def length (ie : IEv1) : Nat :=
  if ie.encoding ≠ 0 then 1 + 2 + ie.data.length else 1 + ie.data.length

theorem one_le_length (ie : IEv1) : 1 ≤ ie.length := by
  unfold length; split <;> omega

/-- `IEv1` as the IE class of `GTPv1C`'s loop. -/
def cls : IEClass IEv1 := ⟨init, length, one_le_length⟩

end IEv1

/-- The IE loop of `GTPv1C.unpack`. -/
def unpackIEsV1 (data : Bytes) : Except PyError (List IEv1) := IEv1.cls.unpackAll data

/-! ### `IEv2` -/

/-- An `IEv2` object: its header fields and `data`. -/
structure IEv2 where
  type : Nat
  len : Nat
  flags : Nat
  data : Bytes
  deriving DecidableEq, Repr

namespace IEv2

/-- The `cr_flag` property. -/
def crFlag (ie : IEv2) : Nat := (ie.flags >>> 4) &&& 0xf

/-- The `instance` property. -/
def «instance» (ie : IEv2) : Nat := ie.flags &&& 0xf

/-- The `cr_flag` setter, whose body is `pass`. -/
def setCrFlag (ie : IEv2) (_c : Nat) : IEv2 := ie

/-- The `instance` setter, whose body is `pass`. -/
def setInstance (ie : IEv2) (_i : Nat) : IEv2 := ie

/-- `IEv2(type=t, cr_flag=c, instance=i, data=d)`: the header defaults, then each keyword in
turn. -/
def build (type crFlag inst : Nat) (data : Bytes) : IEv2 :=
  let ie : IEv2 := { type, len := 0, flags := 0, data := [] }
  { (ie.setCrFlag crFlag).setInstance inst with data }

/-- `IEv2.unpack`. -/
def unpack (buf : Bytes) : Except PyError IEv2 := do
  let ([type, len, flags], data) ← Packet.unpack [1, 2, 1] buf | throw .structError
  pure { type, len, flags, data := data.take len }

/-- `IEv2(buf)`. -/
def init (buf : Bytes) : Except PyError IEv2 := Packet.init unpack buf

theorem unpack_of_le {buf : Bytes} (h : 4 ≤ buf.length) :
    unpack buf =
      .ok { type := beValue (buf.take 1), len := beValue ((buf.drop 1).take 2),
            flags := beValue ((buf.drop 3).take 1),
            data := (buf.drop 4).take (beValue ((buf.drop 1).take 2)) } := by
  simp [unpack, Packet.unpack_of_le (show [1, 2, 1].sum ≤ buf.length by simpa using h), beFields,
    List.drop_drop]

theorem unpack_of_lt {buf : Bytes} (h : buf.length < 4) : unpack buf = .error .structError := by
  simp [unpack, Packet.unpack_of_lt (show buf.length < [1, 2, 1].sum by simpa using h)]

/-- The only exception of `IEv2(buf)` is `NeedData`, on a buffer shorter than the IE header. -/
theorem init_raisesOnly (buf : Bytes) : RaisesOnly (· = .needData) (init buf) := by
  refine Packet.init_raisesOnly (P := (· = .structError)) ?_ (fun e h h' => absurd h h') rfl
  refine (Packet.unpack_raisesOnly _ _).bind fun r _ => ?_
  split
  · exact RaisesOnly.ok _ _
  · exact RaisesOnly.error rfl

/-- `len(ie)`, `Packet.__len__`. -/
def length (ie : IEv2) : Nat := 4 + ie.data.length

/-- `IEv2.pack_hdr`: stores `len(self.data)` in `len`, then packs the header. -/
def packHdr : EStateM PyError IEv2 Bytes := do
  modify fun ie => { ie with len := ie.data.length }
  let ie ← get
  liftE (Packet.packHdr [(1, ie.type), (2, ie.len), (1, ie.flags)])

/-- `bytes(ie)`, `Packet.__bytes__`. -/
def bytes : EStateM PyError IEv2 Bytes := do
  let hdr ← packHdr
  pure (hdr ++ (← get).data)

/-- The IE as `pack_hdr` leaves it: `len` holds `len(self.data)`. -/
def setLen (ie : IEv2) : IEv2 := { ie with len := ie.data.length }

/-- What an IE carries apart from its derived `len`. -/
def value (ie : IEv2) : Nat × Nat × Bytes := (ie.type, ie.flags, ie.data)

/-- `bytes(ie)`: the header with the length of `data`, then `data`; the IE is left with `len` set,
whether `struct.pack` succeeds or not. -/
theorem bytes_apply (ie : IEv2) :
    bytes ie = match structPack [(1, ie.type), (2, ie.data.length), (1, ie.flags)] with
      | .ok hdr => .ok (hdr ++ ie.data) ie.setLen
      | .error e => .error e ie.setLen := by
  cases h : structPack [(1, ie.type), (2, ie.data.length), (1, ie.flags)] <;>
    simp [bytes, packHdr, Packet.packHdr, h, setLen]

theorem value_finalState_bytes (ie : IEv2) : (finalState (bytes ie)).value = ie.value := by
  rw [bytes_apply]; split <;> rfl

/-- A second `bytes(ie)` returns what the first returned. -/
theorem bytes_rerun {ie ie' : IEv2} {b : Bytes} (h : bytes ie = .ok b ie') :
    bytes ie' = .ok b ie' := by
  rw [bytes_apply] at h
  split at h
  · cases h; rw [bytes_apply]; simp_all [setLen]
  · cases h

/-- `IEv2` as the IE class of `GTPv2C`'s loop. -/
def cls : IEClass IEv2 := ⟨init, length, fun ie => by unfold length; omega⟩

end IEv2

/-- The IE loop of `GTPv2C.unpack`. -/
def unpackIEsV2 (data : Bytes) : Except PyError (List IEv2) := IEv2.cls.unpackAll data

end DpktGtpc.Gtp
