import DpktGtpc.Python

/-! `dpkt.Packet`, the header codec that every packet class of `gtp_c.py` and `dns.py` is built on.
Its module `dpkt.py` is not among the repository's sources: what it does is modelled from the
spec's Field Codec (§4.1) and error taxonomy (§7). -/

namespace DpktGtpc.Packet

/-- Modelled from the spec: `dpkt.Packet.unpack`, the Field Codec's `decode_header`. The header
fields of widths `widths` and the payload after them; a length error when `buf` is shorter than the
header. -/
def unpack (widths : List Nat) (buf : Bytes) : Except PyError (List Nat × Bytes) :=
  if buf.length < widths.sum then .error .structError
  else .ok (beFields widths buf, buf.drop widths.sum)

/-- Modelled from the spec: `Packet.__init__(buf)`, which runs the class's `unpack` on `buf`; a
buffer shorter than a fixed field it reads is a `NeedData`. -/
def init (unpack : Bytes → Except PyError α) (buf : Bytes) : Except PyError α :=
  match unpack buf with
  | .error .structError => .error .needData
  | r => r

/-- Modelled from the spec: `dpkt.Packet.pack_hdr`, the Field Codec's `encode_header`: the current
value of each field, of the given width, in network order. -/
def packHdr (fields : List (Nat × Int)) : Except PyError Bytes := structPack fields

/-- Modelled from the spec: `dpkt.Packet.__len__`, the length of the fixed header plus
`len(self.data)`, the length convention that §4.5 gives for an IE (header size plus value
length). -/
def length (hdrLen dataLen : Nat) : Nat := hdrLen + dataLen

theorem unpack_of_le {widths : List Nat} {buf : Bytes} (h : widths.sum ≤ buf.length) :
    unpack widths buf = .ok (beFields widths buf, buf.drop widths.sum) := by
  simp [unpack, Nat.not_lt.mpr h]

theorem unpack_of_lt {widths : List Nat} {buf : Bytes} (h : buf.length < widths.sum) :
    unpack widths buf = .error .structError := by
  simp [unpack, h]

theorem init_ok {unpack : Bytes → Except PyError α} {buf : Bytes} {a : α}
    (h : unpack buf = .ok a) : init unpack buf = .ok a := by
  simp [init, h]

theorem init_error {unpack : Bytes → Except PyError α} {buf : Bytes} {e : PyError}
    (h : unpack buf = .error e) : init unpack buf = .error (if e = .structError then .needData else e) := by
  cases e <;> simp [init, h]

theorem unpack_eq_ok {widths : List Nat} {buf : Bytes} {r : List Nat × Bytes}
    (h : unpack widths buf = .ok r) :
    widths.sum ≤ buf.length ∧ r = (beFields widths buf, buf.drop widths.sum) := by
  unfold unpack at h
  split at h
  · cases h
  · cases h; exact ⟨by omega, rfl⟩

theorem unpack_raisesOnly (widths : List Nat) (buf : Bytes) :
    RaisesOnly (· = .structError) (unpack widths buf) := by
  intro e h; unfold unpack at h; split at h <;> cases h; rfl

/-- `init` raises what `unpack` raises, with `NeedData` in place of `struct.error`. -/
theorem init_raisesOnly {P Q : PyError → Prop} {unpack : Bytes → Except PyError α} {buf : Bytes}
    (h : RaisesOnly P (unpack buf)) (hPQ : ∀ e, P e → e ≠ .structError → Q e)
    (hQ : Q .needData) : RaisesOnly Q (init unpack buf) := by
  intro e he
  unfold init at he
  split at he
  · cases he; exact hQ
  · exact hPQ e (h e he) (by rintro rfl; contradiction)

end DpktGtpc.Packet
