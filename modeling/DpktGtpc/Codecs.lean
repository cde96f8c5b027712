import DpktGtpc.Python

/-! The `codecs` calls of `dns.py`: `codecs.encode(s, 'utf-8')`, the strict decoder
`codecs.decode(b, 'utf-8')`, and `codecs.encode(b, 'hex')`. A Python `str` is represented by its
UTF-8 encoding; strings that hold lone surrogates, on which `codecs.encode` raises, are not
represented. -/

namespace DpktGtpc

/-- A Python `str` (by its UTF-8 bytes) or `bytes` value. -/
inductive PyText where
  | str (b : Bytes)
  | bytes (b : Bytes)
  deriving DecidableEq, Repr

/-- `codecs.encode(s, 'utf-8')`, a `TypeError` on `bytes`. -/
def PyText.encodeUtf8 : PyText → Except PyError Bytes
  | .str b => .ok b
  | .bytes _ => .error .typeError

/-- Whether `c` continues a multi-byte sequence. -/
def isCont (c : UInt8) : Bool := 0x80 ≤ c && c ≤ 0xBF

/-- The lead bytes of the multi-byte sequences a strict UTF-8 decoder accepts: the range of the
second byte and the number of continuation bytes after it (Unicode Table 3-7). -/
def leadRange (b : UInt8) : Option (UInt8 × UInt8 × Nat) :=
  if 0xC2 ≤ b && b ≤ 0xDF then some (0x80, 0xBF, 0)
  else if b = 0xE0 then some (0xA0, 0xBF, 1)
  else if (0xE1 ≤ b && b ≤ 0xEC) || b = 0xEE || b = 0xEF then some (0x80, 0xBF, 1)
  else if b = 0xED then some (0x80, 0x9F, 1)
  else if b = 0xF0 then some (0x90, 0xBF, 2)
  else if 0xF1 ≤ b && b ≤ 0xF3 then some (0x80, 0xBF, 2)
  else if b = 0xF4 then some (0x80, 0x8F, 2)
  else none

/-- Whether `b` is well-formed UTF-8, as the strict decoder of `codecs` requires. -/
def utf8Valid : Bytes → Bool
  | [] => true
  | b :: rest =>
    if b < 0x80 then utf8Valid rest
    else match leadRange b, rest with
      | some (lo, hi, 0), c :: r => lo ≤ c && c ≤ hi && utf8Valid r
      | some (lo, hi, 1), c :: d :: r => lo ≤ c && c ≤ hi && isCont d && utf8Valid r
      | some (lo, hi, 2), c :: d :: e :: r =>
        lo ≤ c && c ≤ hi && isCont d && isCont e && utf8Valid r
      | _, _ => false

/-- Well-formed UTF-8 stays well-formed when more of it follows. -/
theorem utf8Valid_append {a b : Bytes} (ha : utf8Valid a) (hb : utf8Valid b) :
    utf8Valid (a ++ b) := by
  induction a using utf8Valid.induct with
  | case1 => exact hb
  | case2 x rest hx ih =>
    unfold utf8Valid at ha; rw [if_pos hx] at ha
    rw [List.cons_append]; unfold utf8Valid; rw [if_pos hx]
    exact ih ha
  | case3 x hx lo hi c r hl ih =>
    unfold utf8Valid at ha; rw [if_neg hx] at ha
    rw [List.cons_append, List.cons_append]; unfold utf8Valid; rw [if_neg hx]
    simp only [hl, Bool.and_eq_true] at ha ⊢
    exact ⟨ha.1, ih ha.2⟩
  | case4 x hx lo hi c d r hl ih =>
    unfold utf8Valid at ha; rw [if_neg hx] at ha
    rw [List.cons_append, List.cons_append, List.cons_append]; unfold utf8Valid; rw [if_neg hx]
    simp only [hl, Bool.and_eq_true] at ha ⊢
    exact ⟨ha.1, ih ha.2⟩
  | case5 x hx lo hi c d e r hl ih =>
    unfold utf8Valid at ha; rw [if_neg hx] at ha
    rw [List.cons_append, List.cons_append, List.cons_append, List.cons_append]
    unfold utf8Valid; rw [if_neg hx]
    simp only [hl, Bool.and_eq_true] at ha ⊢
    exact ⟨ha.1, ih ha.2⟩
  | case6 x rest hx h0 h1 h2 =>
    unfold utf8Valid at ha; rw [if_neg hx] at ha
    split at ha
    · exact (h0 _ _ _ _ ‹_› rfl).elim
    · exact (h1 _ _ _ _ _ ‹_› rfl).elim
    · exact (h2 _ _ _ _ _ _ ‹_› rfl).elim
    · cases ha

/-- Labels that are each well-formed UTF-8 join into well-formed UTF-8. -/
theorem utf8Valid_joinDot : ∀ {ls : List Bytes}, (∀ l ∈ ls, utf8Valid l) → utf8Valid (joinDot ls)
  | [], _ => rfl
  | [l], h => by simpa using h l (by simp)
  | l :: l' :: ls, h => by
    rw [joinDot_cons_cons]
    refine utf8Valid_append (h l (by simp)) ?_
    unfold utf8Valid
    rw [if_pos (by decide)]
    exact utf8Valid_joinDot fun x hx => h x (List.mem_cons_of_mem _ hx)

/-- `codecs.decode(b, 'utf-8')`: the `str` whose encoding is `b`, or `UnicodeDecodeError`. -/
def utf8Decode (b : Bytes) : Except PyError Bytes :=
  if utf8Valid b then .ok b else .error .unicodeDecodeError

/-- The lowercase hex digit of `n < 16`. -/
def hexDigit (n : Nat) : UInt8 := if n < 10 then (0x30 + n).toUInt8 else (0x57 + n).toUInt8

/-- `codecs.encode(b, 'hex')`. -/
def hexlify (b : Bytes) : Bytes := b.flatMap fun c => [hexDigit (c.toNat / 16), hexDigit (c.toNat % 16)]

theorem utf8Decode_ok_iff {b r : Bytes} : utf8Decode b = .ok r ↔ utf8Valid b ∧ r = b := by
  unfold utf8Decode; split <;> simp [*, eq_comm]

theorem utf8Decode_error {b : Bytes} {e : PyError} (h : utf8Decode b = .error e) :
    e = .unicodeDecodeError := by
  unfold utf8Decode at h; split at h <;> simp_all

end DpktGtpc
