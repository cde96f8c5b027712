import DpktGtpc.Packet
import DpktGtpc.Dns.Record

/-! The `DNS` message of `dns.py`: the object, `unpack` (the header, then the questions and the
three record sections, each entry read where the previous one ended), and `bytes()`, which writes
the header with the section counts and then every entry, compressing names against the table
`label_ptrs` that it keeps on the object for the length of the call. An MX preference that
`bytes()` wrote comes back from `DNS()` as the 1-tuple `struct.unpack` returns. -/

namespace DpktGtpc.Dns

/-- A `DNS` object: the header fields `id` and `op`, the four sections, and the attribute
`label_ptrs` (`none` when absent). -/
structure DNS where
  id : Nat
  op : Nat
  qd : List Q
  an : List RR
  ns : List RR
  ar : List RR
  labelPtrs : Option LabelPtrs
  deriving DecidableEq, Repr

namespace DNS

/-- `DNS()`: the header defaults. -/
def default : DNS :=
  { id := 0, op := DNS_RD, qd := [], an := [], ns := [], ar := [], labelPtrs := none }

/-! ### `unpack` -/

/-- `DNS.unpack_q(buf, off)`. -/
def unpackQ (buf : Bytes) (off : Int) : Except PyError (Q × Int) := do
  let (name, off) ← unpackName buf off
  let [type, cls] ← structUnpack [2, 2] (pySlice buf off (off + 4)) | throw .structError
  pure ({ Q.default with name := .str name, type, cls }, off + 4)

/-- `DNS.unpack_rr(buf, off)`: `rdata` is the `rdlen` bytes after the fixed fields, fewer when the
buffer ends first. -/
def unpackRr (buf : Bytes) (off : Int) : Except PyError (RR × Int) := do
  let (name, off) ← unpackName buf off
  let [type, cls, ttl, rdlen] ← structUnpack [2, 2, 4, 2] (pySlice buf off (off + 10))
    | throw .structError
  let off := off + 10
  let rr : RR := { RR.default with name := .str name, type, cls, ttl,
                                   rdata := pySlice buf off (off + rdlen), rlen := rdlen }
  let rr ← rr.unpackRdata buf off
  pure (rr, off + rdlen)

/-- `for _ in range(cnt): x, off = f(buf, off); l.append(x)`. -/
def unpackMany (f : Bytes → Int → Except PyError (α × Int)) (buf : Bytes) :
    Nat → Int → Except PyError (List α × Int)
  | 0, off => .ok ([], off)
  | cnt + 1, off => do
    let (x, off) ← f buf off
    let (xs, off) ← unpackMany f buf cnt off
    pure (x :: xs, off)

/-- `DNS.unpack`: the header's counts say how many entries each section holds. -/
def unpack (buf : Bytes) : Except PyError DNS := do
  let ([id, op, qd, an, ns, ar], _) ← Packet.unpack [2, 2, 2, 2, 2, 2] buf | throw .structError
  let (qd, off) ← unpackMany unpackQ buf qd 12
  let (an, off) ← unpackMany unpackRr buf an off
  let (ns, off) ← unpackMany unpackRr buf ns off
  let (ar, _) ← unpackMany unpackRr buf ar off
  pure { id, op, qd, an, ns, ar, labelPtrs := none }

/-- `DNS(buf)`. -/
def init (buf : Bytes) : Except PyError DNS := Packet.init unpack buf

/-- `unpack` reads the header, then each section from where the one before ended. -/
theorem unpack_sections {buf rest : Bytes} {id op nq na nn nr : Nat} {qd : List Q}
    {an ns ar : List RR} {o1 o2 o3 o4 : Int}
    (hh : Packet.unpack [2, 2, 2, 2, 2, 2] buf = .ok ([id, op, nq, na, nn, nr], rest))
    (hq : unpackMany unpackQ buf nq 12 = .ok (qd, o1))
    (ha : unpackMany unpackRr buf na o1 = .ok (an, o2))
    (hn : unpackMany unpackRr buf nn o2 = .ok (ns, o3))
    (hr : unpackMany unpackRr buf nr o3 = .ok (ar, o4)) :
    unpack buf = .ok { id, op, qd, an, ns, ar, labelPtrs := none } := by
  simp only [unpack, hh, hq, ha, hn, hr, except_ok_bind]
  rfl

/-! ### `bytes()` -/

/-- `DNS.pack_q(buf, q)`, with `self.label_ptrs` as the state. -/
def packQ (buf : Bytes) (q : Q) : EStateM PyError LabelPtrs Bytes := do
  let name ← packName q.name buf.length
  let fixed ← liftE (structPack [(2, q.type), (2, q.cls)])
  pure (buf ++ name ++ fixed)

/-- `DNS.pack_rr(buf, rr)`: the owner name, then `rdata` packed at the offset it will have after
the ten bytes of fixed fields. -/
def packRr (buf : Bytes) (rr : RR) : EStateM PyError LabelPtrs Bytes := do
  let name ← packName rr.name buf.length
  let rdata ← rr.packRdata (buf.length + name.length + 10)
  let fixed ← liftE (structPack [(2, rr.type), (2, rr.cls), (4, rr.ttl), (2, rdata.length)])
  pure (buf ++ name ++ fixed ++ rdata)

/-- The body of `__bytes__` between `self.label_ptrs = {}` and `del self.label_ptrs`. -/
def packSections (m : DNS) : EStateM PyError LabelPtrs Bytes := do
  let hdr ← liftE (structPack [(2, m.id), (2, m.op), (2, m.qd.length), (2, m.an.length),
    (2, m.ns.length), (2, m.ar.length)])
  let buf ← m.qd.foldlM packQ hdr
  let buf ← m.an.foldlM packRr buf
  let buf ← m.ns.foldlM packRr buf
  m.ar.foldlM packRr buf

/-- The end of `__bytes__`: `del self.label_ptrs` after the sections are packed; an exception
skips it, leaving the table on the object. -/
def delLabelPtrs (m : DNS) :
    EStateM.Result PyError LabelPtrs Bytes → EStateM.Result PyError DNS Bytes
  | .ok buf _ => .ok buf { m with labelPtrs := none }
  | .error e t => .error e { m with labelPtrs := some t }

/-- `bytes(m)`, `DNS.__bytes__`: `self.label_ptrs = {}`, then the sections packed against it. -/
def bytes : EStateM PyError DNS Bytes := fun m => delLabelPtrs m (packSections m [])

/-! ### What `bytes()` changes -/

/-- `packSections` never reads `label_ptrs` off the object. -/
theorem packSections_labelPtrs (m : DNS) (t : Option LabelPtrs) :
    packSections { m with labelPtrs := t } = packSections m := rfl

/-- `bytes()` changes `label_ptrs` and nothing else, whether it returns or raises. -/
theorem bytes_frame (m : DNS) : ∃ t, finalState (bytes m) = { m with labelPtrs := t } := by
  unfold bytes
  cases packSections m [] with
  | ok b t => exact ⟨none, rfl⟩
  | error e t => exact ⟨some t, rfl⟩

/-- After a `bytes()` that returns, `label_ptrs` is gone, and a second `bytes()` returns the same
bytes. -/
theorem bytes_ok {m m' : DNS} {b : Bytes} (h : bytes m = .ok b m') :
    m' = { m with labelPtrs := none } ∧ bytes m' = .ok b m' := by
  unfold bytes at h ⊢
  cases hr : packSections m [] with
  | ok b' t =>
    rw [hr] at h
    cases h
    rw [packSections_labelPtrs, hr]
    exact ⟨rfl, rfl⟩
  | error e t => rw [hr] at h; cases h

/-- A `bytes()` that raises leaves the table it had built on the object. -/
theorem bytes_error {m m' : DNS} {e : PyError} (h : bytes m = .error e m') :
    ∃ t, packSections m [] = .error e t ∧ m' = { m with labelPtrs := some t } := by
  unfold bytes at h
  cases hr : packSections m [] with
  | ok b' t => rw [hr] at h; cases h
  | error e' t => rw [hr] at h; cases h; exact ⟨t, rfl, rfl⟩

/-! ### Decoding what `bytes()` wrote -/

/-- An MX record built with the integer preference 10: `DNS(bytes(m))` holds the 1-tuple `(10,)`
that `struct.unpack('>H', ...)` returns. -/
theorem mx_preference_decodes_as_tuple :
    ∃ b d, bytes.run' { DNS.default with
        an := [{ RR.default with name := .str [0x61], type := DNS_MX, preference := some (.int 10),
                                 mxname := some (.str [0x62]) }] } = some b ∧
      init b = .ok d ∧ d.an.map RR.preference = [some (.tuple 10)] := by
  have hh : Packet.unpack [2, 2, 2, 2, 2, 2]
      [0, 0, 1, 0, 0, 0, 0, 1, 0, 0, 0, 0, 1, 0x61, 0, 0, 15, 0, 1, 0, 0, 0, 0, 0, 5, 0, 10, 1, 0x62, 0] =
      .ok ([0, 0x100, 0, 1, 0, 0], [1, 0x61, 0, 0, 15, 0, 1, 0, 0, 0, 0, 0, 5, 0, 10, 1, 0x62, 0]) := by
    decide
  exact ⟨_,
    { id := 0, op := 0x100, qd := [], ns := [], ar := [], labelPtrs := none,
      an := [{ RR.default with
        name := .str [0x61], type := 15, cls := 1, ttl := 0, rlen := 5, rdata := [0, 10, 1, 0x62, 0],
        preference := some (.tuple 10), mxname := some (.str [0x62]) }] },
    by decide, Packet.init_ok (unpack_sections hh rfl (by decide : unpackMany _ _ 1 12 = .ok (_, 30)) rfl rfl),
    rfl⟩

end DNS

end DpktGtpc.Dns
