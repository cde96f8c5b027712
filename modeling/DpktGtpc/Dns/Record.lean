import DpktGtpc.Dns.Name

/-! The questions and resource records of `dns.py`, `DNS.Q` and `DNS.RR`, with the two halves of
the record codec: `pack_rdata`, which writes the type-specific fields (compressing the names among
them against `label_ptrs`) unless `rdata` is already set, and `unpack_rdata`, which reads them back
from the message buffer. -/

namespace DpktGtpc.Dns

/-! ### Constants -/

def DNS_A : Nat := 1
def DNS_NS : Nat := 2
def DNS_CNAME : Nat := 5
def DNS_SOA : Nat := 6
def DNS_NULL : Nat := 10
def DNS_PTR : Nat := 12
def DNS_HINFO : Nat := 13
def DNS_MX : Nat := 15
def DNS_TXT : Nat := 16
def DNS_AAAA : Nat := 28
def DNS_SRV : Nat := 33
def DNS_OPT : Nat := 41
def DNS_IN : Nat := 1
def DNS_RD : Nat := 0x0100

/-- The `preference` attribute of an MX record: an integer when a caller sets it, the 1-tuple that
`struct.unpack('>H', ...)` returns when `unpack_rdata` sets it. -/
inductive Preference where
  | int (n : Nat)
  | tuple (n : Nat)
  deriving DecidableEq, Repr

/-- A `DNS.Q` object. -/
structure Q where
  name : PyText
  type : Nat
  cls : Nat
  deriving DecidableEq, Repr

/-- `DNS.Q()`: the header defaults, `name` the `bytes` value `b''`. -/
def Q.default : Q := { name := .bytes [], type := DNS_A, cls := DNS_IN }

/-- A `DNS.RR` object: the header fields and the type-specific attributes, `none` when never
set. -/
structure RR where
  name : PyText
  type : Nat
  cls : Nat
  ttl : Nat
  rlen : Nat
  rdata : Bytes
  ip : Option Bytes := none
  ip6 : Option Bytes := none
  nsname : Option PyText := none
  cname : Option PyText := none
  ptrname : Option PyText := none
  mname : Option PyText := none
  rname : Option PyText := none
  serial : Option Nat := none
  refresh : Option Nat := none
  retry : Option Nat := none
  expire : Option Nat := none
  minimum : Option Nat := none
  preference : Option Preference := none
  mxname : Option PyText := none
  text : Option (List Bytes) := none
  null : Option Bytes := none
  priority : Option Nat := none
  weight : Option Nat := none
  port : Option Nat := none
  srvname : Option PyText := none
  deriving DecidableEq, Repr

/-- `DNS.RR()`: the header defaults. -/
def RR.default : RR :=
  { name := .bytes [], type := DNS_A, cls := DNS_IN, ttl := 0, rlen := 4, rdata := [] }

/-- Reading the attribute `name`: an `AttributeError` when it was never set. -/
def attr (name : String) : Option α → Except PyError α
  | some a => .ok a
  | none => .error (.attributeError name)

theorem attr_eq_ok {α : Type} {s : String} {o : Option α} {a : α} : attr s o = .ok a ↔ o = some a := by
  cases o <;> simp [attr]

/-! ### `pack_rdata` -/

/-- `struct.pack('>H', self.preference)`: a `struct.error` on the tuple `unpack_rdata` stores. -/
def packPreference : Preference → Except PyError Bytes
  | .int n => packUInt 2 n
  | .tuple _ => .error .structError

/-- `chr(n)`: `ValueError` from `0x110000` on. -/
def pyChr (n : Nat) : Except PyError Unit := if n < 0x110000 then .ok () else .error .valueError

/-- `b''.join(['%s%s' % (chr(len(x)), x) for x in self.text])`: the list is built first, each
segment's `chr(len(x))` raising on a segment of `0x110000` bytes or more; its items are `str`s,
which `bytes.join` refuses, so only an empty `text` packs. -/
def packText (text : List Bytes) : Except PyError Bytes := do
  let items ← text.mapM fun x => pyChr x.length
  match items with
  | [] => .ok []
  | _ :: _ => .error .typeError

@[simp] theorem packText_nil : packText [] = .ok [] := rfl

/-- Only an empty `text` packs. -/
theorem packText_eq_ok {text : List Bytes} {b : Bytes} : packText text = .ok b ↔ text = [] ∧ b = [] := by
  cases text with
  | nil => simp [eq_comm]
  | cons x xs =>
    simp only [packText, List.mapM_cons, reduceCtorEq, false_and, iff_false]
    cases pyChr x.length <;> cases xs.mapM fun x => pyChr x.length <;> simp [bind, Except.bind]

/-- `struct.pack` of integer attributes, each read (raising on the first one never set) before any
is packed. -/
def packAttrs (width : Nat) (attrs : List (String × Option Nat)) : Except PyError Bytes := do
  let vs ← attrs.mapM fun (n, v) => attr n v
  structPack (vs.map fun v => (width, (v : Int)))

/-- `RR.pack_rdata(off, label_ptrs)`: the record's `rdata` when it is set, the type-specific
fields otherwise; names are written by `pack_name` at their own offsets. -/
def RR.packRdata (rr : RR) (off : Int) : EStateM PyError LabelPtrs Bytes :=
  if rr.rdata ≠ [] then pure rr.rdata
  else if rr.type = DNS_A then liftE (attr "ip" rr.ip)
  else if rr.type = DNS_NS then do packName (← liftE (attr "nsname" rr.nsname)) off
  else if rr.type = DNS_CNAME then do packName (← liftE (attr "cname" rr.cname)) off
  else if rr.type = DNS_PTR then do packName (← liftE (attr "ptrname" rr.ptrname)) off
  else if rr.type = DNS_SOA then do
    let m ← packName (← liftE (attr "mname" rr.mname)) off
    let r ← packName (← liftE (attr "rname" rr.rname)) (off + m.length)
    let ints ← liftE (packAttrs 4 [("serial", rr.serial), ("refresh", rr.refresh),
      ("retry", rr.retry), ("expire", rr.expire), ("minimum", rr.minimum)])
    pure (m ++ r ++ ints)
  else if rr.type = DNS_MX then do
    let p ← liftE (do packPreference (← attr "preference" rr.preference))
    let n ← packName (← liftE (attr "mxname" rr.mxname)) (off + 2)
    pure (p ++ n)
  else if rr.type = DNS_TXT ∨ rr.type = DNS_HINFO then
    liftE (do packText (← attr "text" rr.text))
  else if rr.type = DNS_AAAA then liftE (attr "ip6" rr.ip6)
  else if rr.type = DNS_SRV then do
    let ints ← liftE (packAttrs 2 [("priority", rr.priority), ("weight", rr.weight),
      ("port", rr.port)])
    let n ← packName (← liftE (attr "srvname" rr.srvname)) (off + 6)
    pure (ints ++ n)
  else if rr.type = DNS_OPT then pure []
  else liftE (.error (.packError ("RR type " ++ toString rr.type ++ " is not supported")))

/-- A record with `rdata` packs it as it is. -/
theorem RR.packRdata_of_ne {rr : RR} (h : rr.rdata ≠ []) (off : Int) (T : LabelPtrs) :
    rr.packRdata off T = .ok rr.rdata T := by
  rw [RR.packRdata, if_pos h]; rfl

/-- What `pack_rdata` can return, branch by branch: `rdata` itself when it is set; otherwise the
attributes of the record's type, each name packed by `pack_name` at the offset after the fields
before it, and the table left alone by the branches without names. -/
theorem RR.packRdata_cases {rr : RR} {off : Int} {T T' : LabelPtrs} {r : Bytes}
    (h : rr.packRdata off T = .ok r T') :
    rr.rdata ≠ [] ∧ r = rr.rdata ∧ T' = T ∨
    rr.rdata = [] ∧
      ((rr.type = DNS_A ∧ rr.ip = some r ∨ rr.type = DNS_AAAA ∧ rr.ip6 = some r) ∧ T' = T ∨
       (∃ n, (rr.type = DNS_NS ∧ rr.nsname = some n ∨ rr.type = DNS_CNAME ∧ rr.cname = some n ∨
           rr.type = DNS_PTR ∧ rr.ptrname = some n) ∧ packName n off T = .ok r T') ∨
       rr.type = DNS_SOA ∧ (∃ mn rn mb rb ints T₁, rr.mname = some mn ∧ rr.rname = some rn ∧
         packName mn off T = .ok mb T₁ ∧ packName rn (off + mb.length) T₁ = .ok rb T' ∧
         packAttrs 4 [("serial", rr.serial), ("refresh", rr.refresh), ("retry", rr.retry),
           ("expire", rr.expire), ("minimum", rr.minimum)] = .ok ints ∧ r = mb ++ rb ++ ints) ∨
       rr.type = DNS_MX ∧ (∃ p n pb nb, rr.preference = some (.int p) ∧ packUInt 2 p = .ok pb ∧
         rr.mxname = some n ∧ packName n (off + 2) T = .ok nb T' ∧ r = pb ++ nb) ∨
       (rr.type = DNS_TXT ∨ rr.type = DNS_HINFO) ∧ rr.text = some [] ∧ r = [] ∧ T' = T ∨
       rr.type = DNS_SRV ∧ (∃ n ib nb, packAttrs 2 [("priority", rr.priority),
           ("weight", rr.weight), ("port", rr.port)] = .ok ib ∧ rr.srvname = some n ∧
         packName n (off + 6) T = .ok nb T' ∧ r = ib ++ nb) ∨
       rr.type = DNS_OPT ∧ r = [] ∧ T' = T) := by
  unfold RR.packRdata at h
  by_cases c : rr.rdata ≠ []
  · rw [if_pos c] at h; cases h; exact .inl ⟨c, rfl, rfl⟩
  rw [if_neg c] at h
  refine .inr ⟨not_not.mp c, ?_⟩
  by_cases c : rr.type = DNS_A
  · rw [if_pos c] at h
    obtain ⟨ha, rfl⟩ := liftE_eq_ok h
    exact .inl ⟨.inl ⟨c, attr_eq_ok.mp ha⟩, rfl⟩
  rw [if_neg c] at h
  by_cases c : rr.type = DNS_NS
  · rw [if_pos c] at h
    obtain ⟨n, hn, h⟩ := liftE_bind_eq_ok h
    exact .inr (.inl ⟨n, .inl ⟨c, attr_eq_ok.mp hn⟩, h⟩)
  rw [if_neg c] at h
  by_cases c : rr.type = DNS_CNAME
  · rw [if_pos c] at h
    obtain ⟨n, hn, h⟩ := liftE_bind_eq_ok h
    exact .inr (.inl ⟨n, .inr (.inl ⟨c, attr_eq_ok.mp hn⟩), h⟩)
  rw [if_neg c] at h
  by_cases c : rr.type = DNS_PTR
  · rw [if_pos c] at h
    obtain ⟨n, hn, h⟩ := liftE_bind_eq_ok h
    exact .inr (.inl ⟨n, .inr (.inr ⟨c, attr_eq_ok.mp hn⟩), h⟩)
  rw [if_neg c] at h
  by_cases c : rr.type = DNS_SOA
  · rw [if_pos c] at h
    obtain ⟨mn, hm, h⟩ := liftE_bind_eq_ok h
    obtain ⟨mb, T₁, hmb, h⟩ := estate_bind_eq_ok h
    obtain ⟨rn, hr, h⟩ := liftE_bind_eq_ok h
    obtain ⟨rb, T₂, hrb, h⟩ := estate_bind_eq_ok h
    obtain ⟨ints, hi, h⟩ := liftE_bind_eq_ok h
    cases h
    exact .inr (.inr (.inl ⟨c, mn, rn, mb, rb, ints, T₁, attr_eq_ok.mp hm, attr_eq_ok.mp hr, hmb,
      hrb, hi, rfl⟩))
  rw [if_neg c] at h
  by_cases c : rr.type = DNS_MX
  · rw [if_pos c] at h
    obtain ⟨pb, hpb, h⟩ := liftE_bind_eq_ok h
    obtain ⟨pr, hpr, hpb⟩ := except_bind_eq_ok.mp hpb
    obtain ⟨n, hn, h⟩ := liftE_bind_eq_ok h
    obtain ⟨nb, T₁, hnb, h⟩ := estate_bind_eq_ok h
    cases h
    cases pr with
    | int p =>
      exact .inr (.inr (.inr (.inl ⟨c, p, n, pb, nb, attr_eq_ok.mp hpr, hpb, attr_eq_ok.mp hn, hnb,
        rfl⟩)))
    | tuple _ => cases hpb
  rw [if_neg c] at h
  by_cases c : rr.type = DNS_TXT ∨ rr.type = DNS_HINFO
  · rw [if_pos c] at h
    obtain ⟨ht, rfl⟩ := liftE_eq_ok h
    obtain ⟨t, htx, ht⟩ := except_bind_eq_ok.mp ht
    obtain ⟨rfl, rfl⟩ := packText_eq_ok.mp ht
    exact .inr (.inr (.inr (.inr (.inl ⟨c, attr_eq_ok.mp htx, rfl, rfl⟩))))
  rw [if_neg c] at h
  by_cases c : rr.type = DNS_AAAA
  · rw [if_pos c] at h
    obtain ⟨ha, rfl⟩ := liftE_eq_ok h
    exact .inl ⟨.inr ⟨c, attr_eq_ok.mp ha⟩, rfl⟩
  rw [if_neg c] at h
  by_cases c : rr.type = DNS_SRV
  · rw [if_pos c] at h
    obtain ⟨ib, hib, h⟩ := liftE_bind_eq_ok h
    obtain ⟨n, hn, h⟩ := liftE_bind_eq_ok h
    obtain ⟨nb, T₁, hnb, h⟩ := estate_bind_eq_ok h
    cases h
    exact .inr (.inr (.inr (.inr (.inr (.inl ⟨c, n, ib, nb, hib, attr_eq_ok.mp hn, hnb, rfl⟩)))))
  rw [if_neg c] at h
  by_cases c : rr.type = DNS_OPT
  · rw [if_pos c] at h; cases h; exact .inr (.inr (.inr (.inr (.inr (.inr ⟨c, rfl, rfl⟩)))))
  rw [if_neg c] at h
  cases h

/-! ### `unpack_rdata` -/

/-- The loop of `unpack_rdata` over TXT and HINFO `rdata`: `n = buf[0]`, the segment
`buf[1:1 + n]` decoded as UTF-8, then `buf = buf[1 + n:]`. A segment cut short by the end of
`rdata` is taken as it is. -/
def textLoop : (fuel : Nat) → (buf : Bytes) → buf.length ≤ fuel → Except PyError (List Bytes)
  | _, [], _ => .ok []
  | 0, _ :: _, h => absurd h (by simp)
  | fuel + 1, n :: rest, h => do
    let seg ← utf8Decode (rest.take n.toNat)
    let more ← textLoop fuel (rest.drop n.toNat) (by simp at h ⊢; omega)
    pure (seg :: more)

/-- The segments of TXT or HINFO `rdata`. -/
def unpackText (rdata : Bytes) : Except PyError (List Bytes) :=
  textLoop rdata.length rdata (Nat.le_refl _)

/-- `RR.unpack_rdata(buf, off)`, with `off` the offset of `rdata` in the message `buf`: names are
read from `buf`, the MX and SRV integers from `rdata`, the SOA integers from `buf` after the two
names. -/
def RR.unpackRdata (rr : RR) (buf : Bytes) (off : Int) : Except PyError RR :=
  if rr.type = DNS_A then pure { rr with ip := some rr.rdata }
  else if rr.type = DNS_NS then do
    let (n, _) ← unpackName buf off
    pure { rr with nsname := some (.str n) }
  else if rr.type = DNS_CNAME then do
    let (n, _) ← unpackName buf off
    pure { rr with cname := some (.str n) }
  else if rr.type = DNS_PTR then do
    let (n, _) ← unpackName buf off
    pure { rr with ptrname := some (.str n) }
  else if rr.type = DNS_SOA then do
    let (m, off) ← unpackName buf off
    let (r, off) ← unpackName buf off
    let [serial, refresh, retry, expire, minimum] ← structUnpack [4, 4, 4, 4, 4]
      (pySlice buf off (off + 20)) | throw .structError
    pure { rr with mname := some (.str m), rname := some (.str r), serial, refresh, retry,
                   expire, minimum }
  else if rr.type = DNS_MX then do
    let [p] ← structUnpack [2] (rr.rdata.take 2) | throw .structError
    let (n, _) ← unpackName buf (off + 2)
    pure { rr with preference := some (.tuple p), mxname := some (.str n) }
  else if rr.type = DNS_TXT ∨ rr.type = DNS_HINFO then do
    pure { rr with text := some (← unpackText rr.rdata) }
  else if rr.type = DNS_AAAA then pure { rr with ip6 := some rr.rdata }
  else if rr.type = DNS_NULL then pure { rr with null := some (hexlify rr.rdata) }
  else if rr.type = DNS_SRV then do
    let [priority, weight, port] ← structUnpack [2, 2, 2] (rr.rdata.take 6) | throw .structError
    let (n, _) ← unpackName buf (off + 6)
    pure { rr with priority, weight, port, srvname := some (.str n) }
  else if rr.type = DNS_OPT then pure rr
  else .error (.unpackError ("RR type " ++ toString rr.type ++ " is not supported"))

/-- `unpack_rdata` reads neither `name` nor `rlen` and leaves them as they are. -/
theorem RR.unpackRdata_rename (rr : RR) (n : PyText) (l : Nat) (buf : Bytes) (off : Int) :
    ({ rr with name := n, rlen := l } : RR).unpackRdata buf off =
      (rr.unpackRdata buf off).map fun r => { r with name := n, rlen := l } := by
  simp only [RR.unpackRdata, apply_ite (Except.map _)]
  refine ite_congr rfl (fun _ => rfl) fun _ => ite_congr rfl (fun _ => ?ns) fun _ =>
    ite_congr rfl (fun _ => ?cname) fun _ => ite_congr rfl (fun _ => ?ptr) fun _ =>
    ite_congr rfl (fun _ => ?soa) fun _ => ite_congr rfl (fun _ => ?mx) fun _ =>
    ite_congr rfl (fun _ => ?txt) fun _ => ite_congr rfl (fun _ => rfl) fun _ =>
    ite_congr rfl (fun _ => rfl) fun _ => ite_congr rfl (fun _ => ?srv) fun _ =>
    ite_congr rfl (fun _ => rfl) fun _ => rfl
  case ns | cname | ptr => cases unpackName buf off <;> rfl
  case txt => cases unpackText rr.rdata <;> rfl
  case soa =>
    cases unpackName buf off with
    | error => rfl
    | ok p =>
      simp only [except_ok_bind]
      cases unpackName buf p.2 with
      | error => rfl
      | ok p' =>
        simp only [except_ok_bind]
        cases structUnpack [4, 4, 4, 4, 4] (pySlice buf p'.2 (p'.2 + 20)) with
        | error => rfl
        | ok l => rcases l with _ | ⟨_, _ | ⟨_, _ | ⟨_, _ | ⟨_, _ | ⟨_, _ | ⟨_, _⟩⟩⟩⟩⟩⟩ <;> rfl
  case mx =>
    cases structUnpack [2] (rr.rdata.take 2) with
    | error => rfl
    | ok l =>
      rcases l with _ | ⟨_, _ | ⟨_, _⟩⟩ <;> try rfl
      simp only [except_ok_bind]
      cases unpackName buf (off + 2) <;> rfl
  case srv =>
    cases structUnpack [2, 2, 2] (rr.rdata.take 6) with
    | error => rfl
    | ok l =>
      rcases l with _ | ⟨_, _ | ⟨_, _ | ⟨_, _ | ⟨_, _⟩⟩⟩⟩ <;> try rfl
      simp only [except_ok_bind]
      cases unpackName buf (off + 6) <;> rfl

/-- `unpack_rdata` sets type-specific attributes only: the `__hdr__` fields come back as they
were. -/
theorem RR.unpackRdata_hdr (rr : RR) (buf : Bytes) (off : Int) :
    ReturnsOnly (fun r : RR => r.name = rr.name ∧ r.type = rr.type ∧ r.cls = rr.cls ∧
      r.ttl = rr.ttl ∧ r.rlen = rr.rlen ∧ r.rdata = rr.rdata) (rr.unpackRdata buf off) := by
  unfold RR.unpackRdata
  repeat' refine ReturnsOnly.ite (fun _ => ?_) fun _ => ?_
  all_goals
    repeat' refine ReturnsOnly.bind fun _ _ => ?_
    try split
    all_goals first
      | exact .ok ⟨rfl, rfl, rfl, rfl, rfl, rfl⟩
      | exact .error _ _
      | exact .bind fun _ _ => .ok ⟨rfl, rfl, rfl, rfl, rfl, rfl⟩

end DpktGtpc.Dns
