import DpktGtpc.Dns.Traffic
import DpktGtpc.Gtp.Framing

/-! The value encoders of `gtpc_factory.py`: `_encode_imsi`, `_encode_apn`, `_encode_bearer_qos`
with its `_br`, and `_encode_ambr`, with the `int(c, 16)` and `bytes([...])` calls they make. A
`str` is represented by its UTF-8 bytes, as in `Codecs`; `len` and indexing of a `str` count its
characters (`chars`).

`_encode_imsi` packs a decimal string two digits a byte, low nibble first, with an `F` filler after
an odd count. `_encode_apn` writes each dot-separated label after a length octet; the octet counts
characters, not bytes, so the result is what `pack_name` writes for the name with an empty table,
less the root octet, exactly when the name is ASCII. `_encode_bearer_qos` lays out 22 bytes whose
fields read back as the arguments, masked, each bit rate modulo `2 ^ 40`. -/

namespace DpktGtpc.Factory

open Dns

/-! ### Exceptions, `bytes([...])` and the characters of a `str` -/

/-- The exceptions of the factory: the `ValueError` of `int(c, 16)` and `bytes([n])`, the
`NameError` of a global it never binds, and those of the codecs below them, such as
`struct.error`. -/
inductive FactoryError where
  | valueError
  | nameError (name : String)
  | py (e : PyError)
  deriving DecidableEq, Repr

/-- A codec call inside a factory helper. -/
def liftPy {α : Type} (x : Except PyError α) : Except FactoryError α := x.mapError .py

/-- `bytes(ns)` of a list of integers: `ValueError` unless each is in `range(256)`. -/
def pyBytes (ns : List Int) : Except FactoryError Bytes :=
  if ∀ n ∈ ns, 0 ≤ n ∧ n < 256 then .ok (ns.map fun n => n.toNat.toUInt8) else .error .valueError

theorem toNat_toUInt8 (n : Nat) : n.toUInt8.toNat = n % 256 := rfl

theorem toUInt8_inj {m n : Nat} (hm : m < 256) (hn : n < 256) : m.toUInt8 = n.toUInt8 ↔ m = n :=
  ⟨fun h => by
    simpa [toNat_toUInt8, Nat.mod_eq_of_lt hm, Nat.mod_eq_of_lt hn] using congrArg UInt8.toNat h,
   congrArg _⟩

/-- `struct.pack('B', n)` writes the octet `bytes([n])` does. -/
theorem beBytes_one (n : Nat) : beBytes 1 n = [n.toUInt8] := by
  simp [beBytes, UInt8.toNat.inj (by simp only [toNat_toUInt8, Nat.mod_mod] :
    (n % 256).toUInt8.toNat = n.toUInt8.toNat)]

/-- The characters of a `str`, each by its UTF-8 bytes: a byte and the continuation bytes that
follow it. -/
def chars : Bytes → List Bytes
  | [] => []
  | c :: rest =>
    match chars rest with
    | (d :: g) :: more => if isCont d then (c :: d :: g) :: more else [c] :: (d :: g) :: more
    | cs => [c] :: cs

theorem chars_cons_eq (c : UInt8) (rest : Bytes) : ∃ g more, chars (c :: rest) = (c :: g) :: more := by
  rw [chars.eq_2]
  split
  · split_ifs <;> exact ⟨_, _, rfl⟩
  · exact ⟨_, _, rfl⟩

theorem length_chars_cons_le (c : UInt8) (rest : Bytes) :
    (chars (c :: rest)).length ≤ (chars rest).length + 1 := by
  rw [chars.eq_2]
  split
  · next h => rw [h]; split_ifs <;> simp
  · simp

theorem length_chars_le : ∀ s : Bytes, (chars s).length ≤ s.length
  | [] => le_refl _
  | c :: rest => (length_chars_cons_le c rest).trans (Nat.succ_le_succ (length_chars_le rest))

/-- A continuation byte after another byte joins it in one character: such a `str` has fewer
characters than bytes. -/
theorem length_chars_lt {y : UInt8} (hy : isCont y) (x : UInt8) (r : Bytes) :
    ∀ a : Bytes, (chars (a ++ x :: y :: r)).length < (a ++ x :: y :: r).length
  | [] => by
    obtain ⟨g, more, h⟩ := chars_cons_eq y r
    have hxy : (chars (x :: y :: r)).length = (chars (y :: r)).length := by
      rw [chars.eq_2, h]; simp [hy]
    have := length_chars_le (y :: r)
    simp only [List.nil_append, List.length_cons] at this ⊢
    omega
  | c :: a => by
    have := length_chars_lt hy x r a
    have := length_chars_cons_le c (a ++ x :: y :: r)
    simp only [List.cons_append, List.length_cons] at this ⊢
    omega

theorem isCont_of_ascii {c : UInt8} (h : c.toNat < 0x80) : isCont c = false := by
  unfold isCont
  simp only [Bool.and_eq_false_iff, decide_eq_false_iff_not]
  exact .inl fun h' => absurd (BitVec.le_def.mp (UInt8.le_def.mp h')) (by change ¬128 ≤ c.toNat; omega)

/-- An ASCII `str` has a character per byte. -/
theorem chars_ascii : ∀ {s : Bytes}, (∀ c ∈ s, c.toNat < 0x80) → chars s = s.map ([·])
  | [], _ => rfl
  | [_], _ => rfl
  | c :: d :: r, h => by
    have ih := chars_ascii (s := d :: r) fun x hx => h x (List.mem_cons_of_mem _ hx)
    rw [chars.eq_2, ih]
    simp [isCont_of_ascii (h d (by simp))]

/-! ### `_encode_imsi` -/

/-- The code point that the UTF-8 bytes of one character spell; `0x110000`, no code point, for a
group of bytes no character has. -/
def codePoint : Bytes → Nat
  | [a] => a.toNat
  | [a, b] => a.toNat % 0x20 * 0x40 + b.toNat % 0x40
  | [a, b, c] => a.toNat % 0x10 * 0x1000 + b.toNat % 0x40 * 0x40 + c.toNat % 0x40
  | [a, b, c, d] =>
    a.toNat % 0x08 * 0x40000 + b.toNat % 0x40 * 0x1000 + c.toNat % 0x40 * 0x40 + d.toNat % 0x40
  | _ => 0x110000

/-- The digit zero of each run of ten decimal digits (general category `Nd`) outside ASCII, as
Unicode 14.0 has them: each run holds the digits zero to nine in order. -/
def decimalZeros : List Nat :=
  [0x660, 0x6F0, 0x7C0, 0x966, 0x9E6, 0xA66, 0xAE6, 0xB66, 0xBE6, 0xC66, 0xCE6, 0xD66, 0xDE6,
   0xE50, 0xED0, 0xF20, 0x1040, 0x1090, 0x17E0, 0x1810, 0x1946, 0x19D0, 0x1A80, 0x1A90, 0x1B50,
   0x1BB0, 0x1C40, 0x1C50, 0xA620, 0xA8D0, 0xA900, 0xA9D0, 0xA9F0, 0xAA50, 0xABF0, 0xFF10, 0x104A0,
   0x10D30, 0x11066, 0x110F0, 0x11136, 0x111D0, 0x112F0, 0x11450, 0x114D0, 0x11650, 0x116C0,
   0x11730, 0x118E0, 0x11950, 0x11C50, 0x11D50, 0x11DA0, 0x16A60, 0x16AC0, 0x16B50, 0x1D7CE,
   0x1D7D8, 0x1D7E2, 0x1D7EC, 0x1D7F6, 0x1E140, 0x1E2F0, 0x1E950, 0x1FBF0]

/-- `unicodedata.decimal(c)` of a character outside ASCII: its place in the run of decimal digits
it belongs to, if any. -/
def decimalValue (cp : Nat) : Option Nat :=
  (decimalZeros.find? fun z => z ≤ cp && cp < z + 10).map (cp - ·)

theorem decimalValue_lt {cp d : Nat} (h : decimalValue cp = some d) : d < 10 := by
  obtain ⟨z, hz, rfl⟩ := Option.map_eq_some'.mp h
  have := List.find?_some hz
  simp only [Bool.and_eq_true, decide_eq_true_eq] at this
  omega

/-- `int(c, 16)` on a one-character `str` `c`: an ASCII hexadecimal digit, or a decimal digit of
another script, which `int` first turns into its ASCII digit. Any other character raises
`ValueError`. -/
def hexValue : Bytes → Except FactoryError Nat
  | [c] =>
    if 0x30 ≤ c.toNat ∧ c.toNat ≤ 0x39 then .ok (c.toNat - 0x30)
    else if 0x41 ≤ c.toNat ∧ c.toNat ≤ 0x46 then .ok (c.toNat - 0x37)
    else if 0x61 ≤ c.toNat ∧ c.toNat ≤ 0x66 then .ok (c.toNat - 0x57)
    else .error .valueError
  | c =>
    match decimalValue (codePoint c) with
    | some d => .ok d
    | none => .error .valueError

theorem hexValue_lt {cs : Bytes} {v : Nat} (h : hexValue cs = .ok v) : v < 16 := by
  unfold hexValue at h
  split at h
  · split_ifs at h <;> cases h <;> omega
  · split at h
    · cases h; exact (decimalValue_lt ‹_›).trans (by decide)
    · cases h

/-- The loop of `_encode_imsi` over the padded characters, two at a time:
`int(s[i + 1], 16) << 4 | int(s[i], 16)`. -/
def packSemiOctets : List Bytes → Except FactoryError Bytes
  | lo :: hi :: rest => do
    let h ← hexValue hi
    let l ← hexValue lo
    let more ← packSemiOctets rest
    pure (((h <<< 4) ||| l).toUInt8 :: more)
  | _ => pure []

/-- `_encode_imsi(imsi_str)` on a `str`: an `F` appended to an odd number of characters, then two
characters a byte. -/
def encodeImsi (imsi : Bytes) : Except FactoryError Bytes :=
  let s := chars imsi
  packSemiOctets (if s.length % 2 = 1 then s ++ [[0x46]] else s)

/-- The semi-octets of `b`, low nibble first. -/
def semiOctets (b : Bytes) : List Nat := b.flatMap fun x => [x.toNat % 16, x.toNat / 16]

theorem semiOctet_pack : ∀ h < 16, ∀ l < 16,
    ((h <<< 4) ||| l) < 256 ∧ ((h <<< 4) ||| l) % 16 = l ∧ ((h <<< 4) ||| l) / 16 = h := by
  decide

/-- The loop packs hexadecimal digits, an even number of them, in semi-octets, low nibble first. -/
theorem packSemiOctets_ok {v : Bytes → Nat} : ∀ {cs : List Bytes},
    (∀ c ∈ cs, hexValue c = .ok (v c)) → cs.length % 2 = 0 →
    ∃ b, packSemiOctets cs = .ok b ∧ b.length = cs.length / 2 ∧ semiOctets b = cs.map v
  | [], _, _ => ⟨[], rfl, rfl, rfl⟩
  | [_], _, h => absurd h (by simp)
  | lo :: hi :: rest, hv, h2 => by
    obtain ⟨b, hb, hlen, hso⟩ := packSemiOctets_ok
      (fun c hc => hv c (List.mem_cons_of_mem _ (List.mem_cons_of_mem _ hc)))
      (by simp only [List.length_cons] at h2; omega)
    have hl := hv lo (List.mem_cons_self _ _)
    have hh := hv hi (List.mem_cons_of_mem _ (List.mem_cons_self _ _))
    obtain ⟨h256, hmod, hdiv⟩ := semiOctet_pack (v hi) (hexValue_lt hh) (v lo) (hexValue_lt hl)
    refine ⟨((v hi <<< 4) ||| v lo).toUInt8 :: b, ?_, ?_, ?_⟩
    · rw [packSemiOctets, hh, hl, hb]; rfl
    · simp only [List.length_cons, hlen]; omega
    · simp [semiOctets, toNat_toUInt8, Nat.mod_eq_of_lt h256, hmod, hdiv, ← hso]

theorem hexValue_digit {c : UInt8} (h : 0x30 ≤ c.toNat ∧ c.toNat ≤ 0x39) :
    hexValue [c] = .ok (c.toNat - 0x30) := by
  simp [hexValue, h]

theorem length_packSemiOctets : ∀ {cs : List Bytes} {b : Bytes}, packSemiOctets cs = .ok b →
    b.length = cs.length / 2
  | [], _, h => by cases h; rfl
  | [_], _, h => by cases h; simp
  | _ :: _ :: rest, _, h => by
    simp only [packSemiOctets, except_bind_eq_ok, except_pure, Except.ok.injEq] at h
    obtain ⟨_, -, _, -, more, hm, rfl⟩ := h
    simp only [List.length_cons, length_packSemiOctets hm]
    omega

/-- `_encode_imsi` returns a byte for every two characters, the last one padded. -/
theorem length_encodeImsi {s b : Bytes} (h : encodeImsi s = .ok b) :
    b.length = ((chars s).length + 1) / 2 := by
  have := length_packSemiOctets h
  split_ifs at this with hodd
  · rw [List.length_append, List.length_singleton] at this; omega
  · omega

/-- The padding and loop of `_encode_imsi`: characters that `int(c, 16)` all accepts, an `F` appended
to an odd count, are packed two a byte, low nibble first, each as its value. -/
theorem packSemiOctets_padded {v : Bytes → Nat} {cs : List Bytes}
    (hv : ∀ c ∈ cs, hexValue c = .ok (v c)) :
    ∃ b, packSemiOctets (if cs.length % 2 = 1 then cs ++ [[0x46]] else cs) = .ok b ∧
      b.length = (cs.length + 1) / 2 ∧
      semiOctets b = cs.map v ++ if cs.length % 2 = 1 then [15] else [] := by
  let w : Bytes → Nat := fun g => if g = [0x46] then 15 else v g
  have hw : ∀ g ∈ cs, hexValue g = .ok (w g) := fun g hg => by
    by_cases hF : g = [0x46]
    · subst hF; rfl
    · simp only [w, if_neg hF, hv g hg]
  have hmap : cs.map w = cs.map v :=
    List.map_congr_left fun g hg => Except.ok.inj ((hw g hg).symm.trans (hv g hg))
  split_ifs with hodd
  · obtain ⟨b, hb, hlen, hso⟩ := @packSemiOctets_ok w (cs ++ [[0x46]])
      (fun g hm => (List.mem_append.mp hm).elim (hw g) fun h => by
        rw [List.mem_singleton.mp h]; rfl)
      (by simp only [List.length_append, List.length_singleton]; omega)
    refine ⟨b, hb, by simp only [hlen, List.length_append, List.length_singleton], ?_⟩
    rw [hso, List.map_append, hmap]; rfl
  · obtain ⟨b, hb, hlen, hso⟩ := packSemiOctets_ok hw (by omega)
    exact ⟨b, hb, by omega, by rw [hso, hmap, List.append_nil]⟩

/-- A decimal string is packed two digits a byte, low nibble first, with a filler `F` in the high
nibble of the last byte when the count is odd; the digits, and so the string, can be read back. -/
theorem encodeImsi_semiOctets {s : Bytes} (hs : ∀ c ∈ s, 0x30 ≤ c.toNat ∧ c.toNat ≤ 0x39) :
    ∃ b, encodeImsi s = .ok b ∧ b.length = (s.length + 1) / 2 ∧
      semiOctets b = s.map (fun c => c.toNat - 0x30) ++ if s.length % 2 = 1 then [15] else [] := by
  have hc : chars s = s.map ([·]) := chars_ascii fun c hc => by have := hs c hc; omega
  have hv : ∀ g ∈ s.map ([·]), hexValue g = .ok ((g.headD 0).toNat - 0x30) :=
    List.forall_mem_map.mpr fun c hm => hexValue_digit (hs c hm)
  obtain ⟨b, hb, hlen, hso⟩ := packSemiOctets_padded hv
  simp only [encodeImsi, hc]
  exact ⟨b, hb, by rw [hlen, List.length_map], by rw [hso, List.map_map, List.length_map]; rfl⟩

/-- The IMSI `001011234567890` of the repository's tests. -/
theorem encodeImsi_semiOctets_test_imsi :
    (∀ c ∈ [0x30, 0x30, 0x31, 0x30, 0x31, 0x31, 0x32, 0x33, 0x34, 0x35, 0x36, 0x37, 0x38, 0x39, 0x30],
      0x30 ≤ UInt8.toNat c ∧ UInt8.toNat c ≤ 0x39) ∧
    ∃ b, encodeImsi [0x30, 0x30, 0x31, 0x30, 0x31, 0x31, 0x32, 0x33, 0x34, 0x35, 0x36, 0x37, 0x38,
        0x39, 0x30] = .ok b ∧ b.length = (15 + 1) / 2 ∧
      semiOctets b = [0, 0, 1, 0, 1, 1, 2, 3, 4, 5, 6, 7, 8, 9, 0] ++ [15] :=
  ⟨by decide, encodeImsi_semiOctets (by decide)⟩

/-- `_encode_imsi` packs every `str` whose characters `int(c, 16)` all accepts, whatever their
script: two characters a byte, low nibble first, each as its value, with a filler `F` after an odd
count. -/
theorem encodeImsi_values {s : Bytes} {v : Bytes → Nat} (hv : ∀ g ∈ chars s, hexValue g = .ok (v g)) :
    ∃ b, encodeImsi s = .ok b ∧ b.length = ((chars s).length + 1) / 2 ∧
      semiOctets b = (chars s).map v ++ if (chars s).length % 2 = 1 then [15] else [] :=
  packSemiOctets_padded hv

/-- The Arabic-Indic digit three, U+0663, as an IMSI: `int` reads it as `3`, and the byte is
`0xf3`. -/
theorem encodeImsi_values_arabic_three :
    (∀ g ∈ chars [0xd9, 0xa3], hexValue g = .ok 3) ∧
    ∃ b, encodeImsi [0xd9, 0xa3] = .ok b ∧ b.length = ((chars [0xd9, 0xa3]).length + 1) / 2 ∧
      semiOctets b = (chars [0xd9, 0xa3]).map (fun _ => 3) ++
        if (chars [0xd9, 0xa3]).length % 2 = 1 then [15] else [] :=
  ⟨by decide, encodeImsi_values (v := fun _ => 3) (by decide)⟩

/-- Of the ASCII characters, `int(c, 16)` accepts exactly the hexadecimal digits. -/
theorem hexValue_ok_iff {c : UInt8} :
    (∃ v, hexValue [c] = .ok v) ↔ (0x30 ≤ c.toNat ∧ c.toNat ≤ 0x39) ∨
      (0x41 ≤ c.toNat ∧ c.toNat ≤ 0x46) ∨ (0x61 ≤ c.toNat ∧ c.toNat ≤ 0x66) := by
  simp only [hexValue]
  split_ifs <;> simp_all

/-- The loop returns exactly when each of an even number of characters is a hexadecimal digit. -/
theorem packSemiOctets_ok_iff : ∀ {cs : List Bytes}, cs.length % 2 = 0 →
    ((∃ b, packSemiOctets cs = .ok b) ↔ ∀ c ∈ cs, ∃ v, hexValue c = .ok v)
  | [], _ => by simp [packSemiOctets]
  | [_], h => absurd h (by simp)
  | lo :: hi :: rest, h => by
    rw [List.forall_mem_cons, List.forall_mem_cons,
      ← packSemiOctets_ok_iff (by simp only [List.length_cons] at h; omega)]
    simp only [packSemiOctets, except_bind_eq_ok, except_pure, Except.ok.injEq]
    constructor
    · rintro ⟨_, vh, hh, vl, hl, more, hm, -⟩
      exact ⟨⟨vl, hl⟩, ⟨vh, hh⟩, more, hm⟩
    · rintro ⟨⟨vl, hl⟩, ⟨vh, hh⟩, more, hm⟩
      exact ⟨_, vh, hh, vl, hl, more, hm, rfl⟩

/-- On an ASCII string, `_encode_imsi` returns exactly when every character is a hexadecimal
digit; any other character, such as the `+` of an international MSISDN, raises `ValueError`. The
`F` filler it appends itself is always accepted. -/
theorem encodeImsi_ok_iff {s : Bytes} (ha : ∀ c ∈ s, c.toNat < 0x80) :
    (∃ b, encodeImsi s = .ok b) ↔ ∀ c ∈ s, (0x30 ≤ c.toNat ∧ c.toNat ≤ 0x39) ∨
      (0x41 ≤ c.toNat ∧ c.toNat ≤ 0x46) ∨ (0x61 ≤ c.toNat ∧ c.toNat ≤ 0x66) := by
  have hc : chars s = s.map ([·]) := chars_ascii ha
  have hs : (∀ c ∈ s.map ([·]), ∃ v, hexValue c = .ok v) ↔ ∀ c ∈ s, ∃ v, hexValue [c] = .ok v :=
    List.forall_mem_map
  simp only [encodeImsi, hc, List.length_map, ← hexValue_ok_iff]
  split_ifs with hodd
  · have h2 : (s.map ([·]) ++ [[0x46]]).length % 2 = 0 := by
      simp only [List.length_append, List.length_map, List.length_singleton]; omega
    rw [packSemiOctets_ok_iff h2, List.forall_mem_append, hs, List.forall_mem_singleton]
    exact and_iff_left ⟨15, rfl⟩
  · have h2 : (s.map ([·])).length % 2 = 0 := by simp only [List.length_map]; omega
    rw [packSemiOctets_ok_iff h2, hs]

/-- An MSISDN in international format, `+4412`: the `+` makes `_encode_imsi` raise. -/
theorem encodeImsi_ok_iff_plus :
    (∀ c ∈ [0x2b, 0x34, 0x34, 0x31, 0x32], UInt8.toNat c < 0x80) ∧
    ((∃ b, encodeImsi [0x2b, 0x34, 0x34, 0x31, 0x32] = .ok b) ↔
      ∀ c ∈ [0x2b, 0x34, 0x34, 0x31, 0x32], (0x30 ≤ UInt8.toNat c ∧ UInt8.toNat c ≤ 0x39) ∨
        (0x41 ≤ UInt8.toNat c ∧ UInt8.toNat c ≤ 0x46) ∨ (0x61 ≤ UInt8.toNat c ∧ UInt8.toNat c ≤ 0x66)) :=
  ⟨by decide, encodeImsi_ok_iff (by decide)⟩

/-! ### `_encode_apn` -/

/-- One turn of `_encode_apn`'s loop: `out += bytes([len(label)]) + label.encode()`. -/
def apnStep (out label : Bytes) : Except FactoryError Bytes := do
  let len ← pyBytes [↑(chars label).length]
  pure (out ++ (len ++ label))

/-- `_encode_apn(apn_str)`: each dot-separated label after an octet that counts its characters. -/
def encodeApn (apn : Bytes) : Except FactoryError Bytes := (splitDot apn).foldlM apnStep []

theorem foldlM_apnStep : ∀ (ls : List Bytes) (out : Bytes),
    ls.foldlM apnStep out = if ∀ l ∈ ls, (chars l).length < 256 then
      .ok (out ++ ls.flatMap fun l => (chars l).length.toUInt8 :: l) else .error .valueError
  | [], out => by simp
  | l :: ls, out => by
    rw [List.foldlM_cons]
    by_cases hl : (chars l).length < 256
    · rw [show apnStep out l = .ok (out ++ ((chars l).length.toUInt8 :: l)) by
        simp [apnStep, pyBytes, hl], except_ok_bind, foldlM_apnStep ls]
      simp [hl]
    · rw [show apnStep out l = .error .valueError by simp [apnStep, pyBytes, hl]]
      simp [hl]

theorem encodeApn_ok {apn : Bytes} (h : ∀ l ∈ splitDot apn, (chars l).length < 256) :
    encodeApn apn = .ok ((splitDot apn).flatMap fun l => (chars l).length.toUInt8 :: l) := by
  rw [encodeApn, foldlM_apnStep, if_pos h, List.nil_append]

/-- With a table holding only keys longer than those of the labels left, no lookup hits, and
`pack_name`'s loop writes every label in full after its length octet, then the root octet. -/
theorem packLabels_full {off : Int} : ∀ (ls : List Bytes) (buf : Bytes) (T : LabelPtrs),
    (∀ l ∈ ls, l.length < 256) → (∀ K t, (K, t) ∈ T → (labelKey (ls ++ [[]])).length < K.length) →
    ∃ T', packLabels off (ls ++ [[]]) buf T =
      .ok (buf ++ (ls.flatMap fun l => l.length.toUInt8 :: l) ++ [0]) T'
  | [], buf, T, _, hT => by
    have h : hitOf T [[]] = none := by simpa [hitOf] using @hitOf_append_of_short [] T [[]] hT
    exact ⟨T, by simpa using packLabels_root h⟩
  | l :: ls, buf, T, hl, hT => by
    have hmiss : hitOf T (l :: (ls ++ [[]])) = none := by
      simpa [hitOf] using @hitOf_append_of_short [] T (l :: ls ++ [[]]) hT
    have hkey := length_labelKey_cons l ls
    obtain ⟨T', hT'⟩ := packLabels_full ls (buf ++ beBytes 1 l.length ++ l)
      (keyEntry off buf.length (labelKey (l :: (ls ++ [[]]))) ++ T)
      (fun x hx => hl x (List.mem_cons_of_mem _ hx)) fun K t hm => by
        rcases List.mem_append.mp hm with hm | hm
        · obtain ⟨hK, -⟩ := mem_keyEntry.mp hm
          cases hK
          simp only [List.cons_append] at hkey
          omega
        · have := hT K t hm
          omega
    refine ⟨T', ?_⟩
    rw [List.cons_append, packLabels_miss hmiss,
      packUInt_ofNat (show l.length < 256 ^ 1 from hl l (List.mem_cons_self _ _))]
    simpa [beBytes_one] using hT'

/-- `pack_name` with an empty table writes a nonempty name's labels in full, each after its length
octet, then the root octet. -/
theorem packName_full {n : Bytes} (hne : n ≠ []) (hl : ∀ l ∈ splitDot n, l.length < 256)
    (off : Int) :
    ∃ T, packName (.str n) off [] =
      .ok ((splitDot n).flatMap (fun l => l.length.toUInt8 :: l) ++ [0]) T := by
  have hp : nameParts n = splitDot n := if_pos hne
  obtain ⟨T, hT⟩ := @packLabels_full off (nameParts n) [] [] (hp ▸ hl)
    fun _ _ h => absurd h (List.not_mem_nil _)
  exact ⟨T, by rw [← hp]; simpa using hT⟩

/-- Labels each after an octet: the octets agree exactly when the counts they spell do. -/
theorem flatMap_octets_iff {f g : Bytes → Nat} : ∀ {ls : List Bytes},
    (∀ l ∈ ls, f l < 256 ∧ g l < 256) →
    (((ls.flatMap fun l => (f l).toUInt8 :: l) = ls.flatMap fun l => (g l).toUInt8 :: l) ↔
      ∀ l ∈ ls, f l = g l)
  | [], _ => by simp
  | l :: ls, h => by
    obtain ⟨hf, hg⟩ := h l (List.mem_cons_self _ _)
    simp only [List.flatMap_cons, List.cons_append, List.cons.injEq, List.append_cancel_left_eq,
      toUInt8_inj hf hg, List.forall_mem_cons,
      flatMap_octets_iff fun x hx => h x (List.mem_cons_of_mem _ hx)]

theorem toNat_le_of_le {a b : UInt8} (h : a ≤ b) : a.toNat ≤ b.toNat :=
  BitVec.le_def.mp (UInt8.le_def.mp h)

theorem leadRange_cont {b lo hi : UInt8} {n : Nat} (h : leadRange b = some (lo, hi, n)) :
    0x80 ≤ lo ∧ hi ≤ 0xBF := by
  unfold leadRange at h
  iterate 7
    rcases ite_eq_iff.mp h with ⟨-, h⟩ | ⟨-, h⟩
    · cases h; decide
  cases h

theorem isCont_of_leadRange {b lo hi c : UInt8} {n : Nat} (h : leadRange b = some (lo, hi, n))
    (hc : lo ≤ c ∧ c ≤ hi) : isCont c := by
  obtain ⟨h1, h2⟩ := leadRange_cont h
  simp [isCont, UInt8.le_trans h1 hc.1, UInt8.le_trans hc.2 h2]

/-- Well-formed UTF-8 with a byte from `0x80` on has a lead byte followed by a continuation byte. -/
theorem utf8Valid_multibyte {s : Bytes} (hv : utf8Valid s) (h : ∃ c ∈ s, 0x80 ≤ c.toNat) :
    ∃ a x y r, s = a ++ x :: y :: r ∧ 0x80 ≤ x.toNat ∧ isCont y := by
  induction s using utf8Valid.induct with
  | case1 => obtain ⟨c, hc, -⟩ := h; cases hc
  | case2 x rest hx ih =>
    unfold utf8Valid at hv; rw [if_pos hx] at hv
    obtain ⟨c, hc, h8⟩ := h
    rcases List.mem_cons.mp hc with rfl | hc
    · exact absurd (BitVec.lt_def.mp (UInt8.lt_def.mp hx)) (by change ¬c.toNat < 128; omega)
    · obtain ⟨a, x', y, r, rfl, hx', hy⟩ := ih hv ⟨c, hc, h8⟩
      exact ⟨x :: a, x', y, r, rfl, hx', hy⟩
  | case3 x hx lo hi c r hl =>
    unfold utf8Valid at hv; rw [if_neg hx] at hv
    simp only [hl, Bool.and_eq_true, decide_eq_true_eq] at hv
    exact ⟨[], x, c, r, rfl, toNat_le_of_le (UInt8.not_lt.mp hx), isCont_of_leadRange hl hv.1⟩
  | case4 x hx lo hi c d r hl =>
    unfold utf8Valid at hv; rw [if_neg hx] at hv
    simp only [hl, Bool.and_eq_true, decide_eq_true_eq] at hv
    exact ⟨[], x, c, d :: r, rfl, toNat_le_of_le (UInt8.not_lt.mp hx),
      isCont_of_leadRange hl hv.1.1⟩
  | case5 x hx lo hi c d e r hl =>
    unfold utf8Valid at hv; rw [if_neg hx] at hv
    simp only [hl, Bool.and_eq_true, decide_eq_true_eq] at hv
    exact ⟨[], x, c, d :: e :: r, rfl, toNat_le_of_le (UInt8.not_lt.mp hx),
      isCont_of_leadRange hl hv.1.1.1⟩
  | case6 x rest hx h0 h1 h2 =>
    unfold utf8Valid at hv; rw [if_neg hx] at hv
    split at hv
    · exact (h0 _ _ _ _ ‹_› rfl).elim
    · exact (h1 _ _ _ _ _ ‹_› rfl).elim
    · exact (h2 _ _ _ _ _ _ ‹_› rfl).elim
    · cases hv

/-- Two bytes, neither a dot, stay together in one label of `split(b'.')`. -/
theorem splitDot_pair {x y : UInt8} (hx : x ≠ 0x2E) (hy : y ≠ 0x2E) (r : Bytes) :
    ∀ a : Bytes, ∃ l ∈ splitDot (a ++ x :: y :: r), ∃ a' r', l = a' ++ x :: y :: r'
  | [] => by
    obtain ⟨p, ps, hp⟩ := List.exists_cons_of_ne_nil (splitDot_ne_nil r)
    refine ⟨x :: y :: p, ?_, [], p, rfl⟩
    simp [splitDot, hx, hy, hp]
  | c :: a => by
    obtain ⟨l, hl, a', r', rfl⟩ := splitDot_pair hx hy r a
    rw [List.cons_append, splitDot]
    split_ifs
    · exact ⟨_, List.mem_cons_of_mem _ hl, a', r', rfl⟩
    · split
      · next p ps hp =>
        rw [hp] at hl
        rcases List.mem_cons.mp hl with rfl | hl
        · exact ⟨_, List.mem_cons_self _ _, c :: a', r', rfl⟩
        · exact ⟨_, List.mem_cons_of_mem _ hl, a', r', rfl⟩
      · next hp => exact absurd hp (splitDot_ne_nil _)

theorem mem_joinDot {c : UInt8} {l : Bytes} : ∀ {ls : List Bytes}, l ∈ ls → c ∈ l → c ∈ joinDot ls
  | [], hl, _ => absurd hl (List.not_mem_nil _)
  | [_], hl, hc => by rw [List.mem_singleton.mp hl] at hc; simpa using hc
  | _ :: _ :: _, hl, hc => by
    rw [joinDot_cons_cons]
    rcases List.mem_cons.mp hl with rfl | hl
    · exact List.mem_append_left _ hc
    · exact List.mem_append_right _ (List.mem_cons_of_mem _ (mem_joinDot hl hc))

/-- For a nonempty name of well-formed UTF-8 whose labels are shorter than 256 bytes, `_encode_apn`
followed by the root octet writes what `pack_name` writes with an empty table exactly when the name
is ASCII: on a label with a multi-byte character, the length octet counts characters, not bytes. -/
theorem encodeApn_dns_labels {apn : Bytes} (hne : apn ≠ []) (hv : utf8Valid apn)
    (hl : ∀ l ∈ splitDot apn, l.length < 256) (off : Int) :
    ∃ b d T, encodeApn apn = .ok b ∧ packName (.str apn) off [] = .ok d T ∧
      (d = b ++ [0] ↔ ∀ c ∈ apn, c.toNat < 0x80) := by
  have hc : ∀ l ∈ splitDot apn, (chars l).length < 256 := fun l hm =>
    (length_chars_le l).trans_lt (hl l hm)
  obtain ⟨T, hT⟩ := packName_full hne hl off
  refine ⟨_, _, T, encodeApn_ok hc, hT, ?_⟩
  rw [List.append_left_inj, flatMap_octets_iff fun l hm => ⟨hl l hm, hc l hm⟩]
  constructor
  · intro heq
    by_contra hna
    push_neg at hna
    obtain ⟨a, x, y, r, rfl, hx, hy⟩ := utf8Valid_multibyte hv hna
    have hxd : x ≠ 0x2E := by rintro rfl; exact absurd hx (by decide)
    have hyd : y ≠ 0x2E := by rintro rfl; exact absurd hy (by decide)
    obtain ⟨l, hm, a', r', rfl⟩ := splitDot_pair hxd hyd r a
    exact absurd (heq _ hm) (length_chars_lt hy x r' a').ne'
  · intro ha l hm
    rw [chars_ascii fun c hc => ha c (joinDot_splitDot apn ▸ mem_joinDot hm hc), List.length_map]

/-- The APN `internet.epc` of the repository's tests. -/
theorem encodeApn_dns_labels_internet_epc :
    [0x69, 0x6e, 0x74, 0x65, 0x72, 0x6e, 0x65, 0x74, 0x2e, 0x65, 0x70, 0x63] ≠ ([] : Bytes) ∧
      utf8Valid [0x69, 0x6e, 0x74, 0x65, 0x72, 0x6e, 0x65, 0x74, 0x2e, 0x65, 0x70, 0x63] ∧
      (∀ l ∈ splitDot [0x69, 0x6e, 0x74, 0x65, 0x72, 0x6e, 0x65, 0x74, 0x2e, 0x65, 0x70, 0x63],
        l.length < 256) ∧
      ∃ b d T, encodeApn [0x69, 0x6e, 0x74, 0x65, 0x72, 0x6e, 0x65, 0x74, 0x2e, 0x65, 0x70, 0x63] =
          .ok b ∧
        packName (.str [0x69, 0x6e, 0x74, 0x65, 0x72, 0x6e, 0x65, 0x74, 0x2e, 0x65, 0x70, 0x63]) 12 [] =
          .ok d T ∧
        (d = b ++ [0] ↔ ∀ c ∈ [0x69, 0x6e, 0x74, 0x65, 0x72, 0x6e, 0x65, 0x74, 0x2e, 0x65, 0x70, 0x63],
          UInt8.toNat c < 0x80) :=
  ⟨by decide, by decide, by decide, encodeApn_dns_labels (by decide) (by decide) (by decide) 12⟩

/-! ### `_encode_bearer_qos` and `_encode_ambr` -/

/-- `_br(v)`: `struct.pack('!Q', v)[-5:]`, the last five bytes of a 64-bit field. -/
def br (v : Int) : Except FactoryError Bytes := do
  let q ← liftPy (packUInt 8 v)
  pure (pySlice q (-5) q.length)

/-- `_encode_bearer_qos(qci, pci, pl, pvi, mbr_ul, mbr_dl, gbr_ul, gbr_dl)`: the flags octet and
the QCI, then the four bit rates in five bytes each. -/
def encodeBearerQos (qci : Int) (pci pl pvi : Nat) (mbr_ul mbr_dl gbr_ul gbr_dl : Int) :
    Except FactoryError Bytes := do
  let flags := ((pci &&& 0x1) <<< 6) ||| ((pl &&& 0xf) <<< 2) ||| ((pvi &&& 0x1) <<< 1)
  let hdr ← liftPy (structPack [(1, flags), (1, qci)])
  let a ← br mbr_ul
  let b ← br mbr_dl
  let c ← br gbr_ul
  let d ← br gbr_dl
  pure (hdr ++ a ++ b ++ c ++ d)

/-- `_encode_ambr(ambr_ul, ambr_dl)`: `struct.pack('!II', ambr_ul, ambr_dl)`. -/
def encodeAmbr (ambr_ul ambr_dl : Int) : Except FactoryError Bytes :=
  liftPy (structPack [(4, ambr_ul), (4, ambr_dl)])

theorem beBytes_add (k : Nat) : ∀ m n : Nat, beBytes (k + m) n = beBytes k (n / 256 ^ m) ++ beBytes m n
  | 0, n => by simp [beBytes]
  | m + 1, n => by
    rw [← Nat.add_assoc, beBytes, beBytes_add k m, beBytes, List.append_assoc, Nat.div_div_eq_div_mul,
      ← Nat.pow_succ']

theorem liftPy_eq_ok {α : Type} {x : Except PyError α} {a : α} : liftPy x = .ok a ↔ x = .ok a := by
  cases x <;> simp [liftPy, Except.mapError]

theorem packUInt_eq_ok {n : Nat} {v : Int} {b : Bytes} :
    packUInt n v = .ok b ↔ (0 ≤ v ∧ v < 256 ^ n) ∧ b = beBytes n v.toNat := by
  unfold packUInt; split_ifs with h <;> simp [h, eq_comm]

theorem pySlice_last_five {b : Bytes} (h : b.length = 8) : pySlice b (-5) b.length = b.drop 3 := by
  simp [pySlice, sliceBound, h]

/-- `_br` keeps the low 40 bits of a rate that `struct.pack('!Q')` accepts. -/
theorem br_eq_ok {v : Int} {a : Bytes} :
    br v = .ok a ↔ (0 ≤ v ∧ v < 2 ^ 64) ∧ a = beBytes 5 v.toNat := by
  have hs : ∀ n, pySlice (beBytes 8 n) (-5) (beBytes 8 n).length = beBytes 5 n := fun n => by
    rw [pySlice_last_five (length_beBytes 8 n), beBytes_add 3 5 n,
      List.drop_left' (length_beBytes 3 _)]
  simp only [br, except_bind_eq_ok, liftPy_eq_ok, packUInt_eq_ok, and_assoc, exists_and_left,
    exists_eq_left, except_pure, Except.ok.injEq, hs]
  norm_num [eq_comm]

theorem qos_flags_fields : ∀ a < 2, ∀ b < 16, ∀ c < 2,
    ((a <<< 6) ||| (b <<< 2) ||| (c <<< 1)) < 256 ∧
    (((a <<< 6) ||| (b <<< 2) ||| (c <<< 1)) >>> 6) &&& 1 = a ∧
    (((a <<< 6) ||| (b <<< 2) ||| (c <<< 1)) >>> 2) &&& 0xf = b ∧
    (((a <<< 6) ||| (b <<< 2) ||| (c <<< 1)) >>> 1) &&& 1 = c ∧
    ((a <<< 6) ||| (b <<< 2) ||| (c <<< 1)) &&& 0x81 = 0 := by
  decide

/-- The flags octet of `_encode_bearer_qos` carries PCI in bit 6, PL in bits 2 to 5 and PVI in bit
1, each masked, and nothing in the spare bits. -/
theorem qos_flags_of (pci pl pvi : Nat) :
    (((pci &&& 1) <<< 6) ||| ((pl &&& 0xf) <<< 2) ||| ((pvi &&& 1) <<< 1)) < 256 ∧
    ((((pci &&& 1) <<< 6) ||| ((pl &&& 0xf) <<< 2) ||| ((pvi &&& 1) <<< 1)) >>> 6) &&& 1 =
      pci &&& 1 ∧
    ((((pci &&& 1) <<< 6) ||| ((pl &&& 0xf) <<< 2) ||| ((pvi &&& 1) <<< 1)) >>> 2) &&& 0xf =
      pl &&& 0xf ∧
    ((((pci &&& 1) <<< 6) ||| ((pl &&& 0xf) <<< 2) ||| ((pvi &&& 1) <<< 1)) >>> 1) &&& 1 =
      pvi &&& 1 ∧
    (((pci &&& 1) <<< 6) ||| ((pl &&& 0xf) <<< 2) ||| ((pvi &&& 1) <<< 1)) &&& 0x81 = 0 :=
  qos_flags_fields (pci &&& 1) (Nat.lt_succ_of_le Nat.and_le_right) (pl &&& 0xf)
    (Nat.lt_succ_of_le Nat.and_le_right) (pvi &&& 1) (Nat.lt_succ_of_le Nat.and_le_right)

theorem encodeBearerQos_eq_ok {qci : Int} {pci pl pvi : Nat} {mbr_ul mbr_dl gbr_ul gbr_dl : Int}
    {b : Bytes} :
    encodeBearerQos qci pci pl pvi mbr_ul mbr_dl gbr_ul gbr_dl = .ok b ↔
      ((0 ≤ qci ∧ qci < 256) ∧ ∀ r ∈ [mbr_ul, mbr_dl, gbr_ul, gbr_dl], 0 ≤ r ∧ r < 2 ^ 64) ∧
      b = beBytes 1 (((pci &&& 0x1) <<< 6) ||| ((pl &&& 0xf) <<< 2) ||| ((pvi &&& 0x1) <<< 1)) ++
        beBytes 1 qci.toNat ++ beBytes 5 mbr_ul.toNat ++ beBytes 5 mbr_dl.toNat ++
        beBytes 5 gbr_ul.toNat ++ beBytes 5 gbr_dl.toNat := by
  have hf := (qos_flags_of pci pl pvi).1
  have hf' : (((((pci &&& 0x1) <<< 6) ||| ((pl &&& 0xf) <<< 2) ||| ((pvi &&& 0x1) <<< 1) : Nat) :
    Int) < 256) := by exact_mod_cast hf
  simp only [encodeBearerQos, except_bind_eq_ok, liftPy_eq_ok, structPack, br_eq_ok,
    packUInt_eq_ok, and_assoc, exists_and_left, exists_eq_left, except_pure, Except.ok.injEq,
    List.forall_mem_cons, pow_one]
  constructor
  · rintro ⟨-, -, hq0, hq, _, ⟨_, ⟨_, rfl, rfl⟩, rfl⟩, h1, h2, h3, h4, h5, h6, h7, h8, rfl⟩
    exact ⟨hq0, hq, h1, h2, h3, h4, h5, h6, h7, h8, fun _ h => absurd h (List.not_mem_nil _),
      by simp⟩
  · rintro ⟨hq0, hq, h1, h2, h3, h4, h5, h6, h7, h8, -, rfl⟩
    exact ⟨by omega, hf', hq0, hq, _, ⟨_, ⟨_, rfl, rfl⟩, rfl⟩, h1, h2, h3, h4, h5, h6, h7, h8,
      by simp⟩

/-- `_encode_bearer_qos` returns exactly when the QCI fits an octet and every bit rate fits
`struct.pack('!Q')`. What it returns is 22 bytes: the flags octet, with PCI in bit 6, PL in bits 2 to
5, PVI in bit 1, each masked, and nothing in the spare bits; then the QCI; then the four rates in
five bytes each, which keep only the low 40 bits of a rate. -/
theorem encodeBearerQos_fields (qci : Int) (pci pl pvi : Nat) (mbr_ul mbr_dl gbr_ul gbr_dl : Int) :
    ((∃ b, encodeBearerQos qci pci pl pvi mbr_ul mbr_dl gbr_ul gbr_dl = .ok b) ↔
      (0 ≤ qci ∧ qci < 256) ∧ ∀ r ∈ [mbr_ul, mbr_dl, gbr_ul, gbr_dl], 0 ≤ r ∧ r < 2 ^ 64) ∧
    ∀ b, encodeBearerQos qci pci pl pvi mbr_ul mbr_dl gbr_ul gbr_dl = .ok b →
      b.length = 22 ∧ ∃ x, beFields [1, 1, 5, 5, 5, 5] b =
          [x, qci.toNat, mbr_ul.toNat % 2 ^ 40, mbr_dl.toNat % 2 ^ 40, gbr_ul.toNat % 2 ^ 40,
            gbr_dl.toNat % 2 ^ 40] ∧
        (x >>> 6) &&& 1 = pci &&& 1 ∧ (x >>> 2) &&& 0xf = pl &&& 0xf ∧
        (x >>> 1) &&& 1 = pvi &&& 1 ∧ x &&& 0x81 = 0 := by
  refine ⟨⟨fun ⟨_, hb⟩ => (encodeBearerQos_eq_ok.mp hb).1,
    fun h => ⟨_, encodeBearerQos_eq_ok.mpr ⟨h, rfl⟩⟩⟩, fun b hb => ?_⟩
  obtain ⟨⟨⟨-, hq⟩, -⟩, rfl⟩ := encodeBearerQos_eq_ok.mp hb
  obtain ⟨hf, h6, h2, h1, hs⟩ := qos_flags_of pci pl pvi
  refine ⟨by simp, _, ?_, h6, h2, h1, hs⟩
  simp only [List.append_assoc, Gtp.beFields_cons_append (length_beBytes _ _), beValue_beBytes,
    pow_one, Nat.mod_eq_of_lt hf, Nat.mod_eq_of_lt (show qci.toNat < 256 by omega)]
  norm_num [beFields, List.take_of_length_le, beValue_beBytes]

/-- `_encode_ambr` returns exactly when both rates fit `struct.pack('!I')`, and `struct.unpack`
reads them back. -/
theorem encodeAmbr_eq_ok {ambr_ul ambr_dl : Int} {b : Bytes} :
    encodeAmbr ambr_ul ambr_dl = .ok b ↔ (0 ≤ ambr_ul ∧ ambr_ul < 2 ^ 32) ∧
      (0 ≤ ambr_dl ∧ ambr_dl < 2 ^ 32) ∧ b = beBytes 4 ambr_ul.toNat ++ beBytes 4 ambr_dl.toNat := by
  simp only [encodeAmbr, liftPy_eq_ok, structPack, except_bind_eq_ok, packUInt_eq_ok, and_assoc,
    exists_and_left, exists_eq_left, except_pure, Except.ok.injEq, List.append_nil]
  norm_num [eq_comm]

end DpktGtpc.Factory
