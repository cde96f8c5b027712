import DpktGtpc.Dns.Name

/-! The names that `unpack_name` reads. `NameRuns` is the loop of `unpack_name` as a relation, a
constructor a turn, so that a run is an induction rather than a matter of fuel. `Spells` says what
the bytes at an offset spell: labels, then the zero octet or a pointer to an earlier offset that
spells the rest. Every name that `Spells` describes, `unpack_name` reads back. -/

namespace DpktGtpc.Dns

/-! ### The loop as a relation -/

/-- The loop of `unpack_name` goes from the cursor `c` to the cursor `c'` of its `break`. -/
inductive NameRuns (buf : Bytes) : NameCursor → NameCursor → Prop
  | done {c c' : NameCursor} : nameStep buf c = .ok (.done c') → NameRuns buf c c'
  | next {c c' c'' : NameCursor} :
      nameStep buf c = .ok (.next c') → NameRuns buf c' c'' → NameRuns buf c c''

section Loop

variable {buf : Bytes} {c c' : NameCursor}

theorem nameLoop_done {fuel : Nat} {hf : nameMeasure buf c < fuel + 1}
    (h : nameStep buf c = .ok (.done c')) : nameLoop buf (fuel + 1) c hf = .ok c' := by
  unfold nameLoop
  split <;> simp_all

theorem nameLoop_next {fuel : Nat} {hf : nameMeasure buf c < fuel + 1}
    (h : nameStep buf c = .ok (.next c')) :
    nameLoop buf (fuel + 1) c hf =
      nameLoop buf fuel c' (Nat.lt_of_lt_of_le (nameStep_measure h) (Nat.lt_succ_iff.mp hf)) := by
  conv_lhs => unfold nameLoop
  split <;> rename_i heq <;> rw [h] at heq <;> cases heq
  rfl

theorem NameRuns.nameLoop_eq (h : NameRuns buf c c') {fuel : Nat} (hf : nameMeasure buf c < fuel) :
    nameLoop buf fuel c hf = .ok c' := by
  induction h generalizing fuel with
  | done hs =>
    cases fuel with
    | zero => exact absurd hf (Nat.not_lt_zero _)
    | succ fuel => exact nameLoop_done hs
  | next hs _ ih =>
    cases fuel with
    | zero => exact absurd hf (Nat.not_lt_zero _)
    | succ fuel => rw [nameLoop_next hs]; exact ih _

theorem nameRuns_of_nameLoop {fuel : Nat} {hf : nameMeasure buf c < fuel}
    (h : nameLoop buf fuel c hf = .ok c') : NameRuns buf c c' := by
  induction fuel generalizing c with
  | zero => exact absurd hf (Nat.not_lt_zero _)
  | succ fuel ih =>
    unfold nameLoop at h
    split at h
    · cases h
    · cases h; exact .done ‹_›
    · exact .next ‹_› (ih h)

theorem nameRun_eq_ok {off : Int} : nameRun buf off = .ok c ↔ NameRuns buf (.init off) c :=
  ⟨nameRuns_of_nameLoop, fun h => h.nameLoop_eq _⟩

end Loop

/-! ### One turn, forward -/

section Step

variable {buf : Bytes} {c : NameCursor} {q : Nat} {b hi lo : UInt8}

/-- A length octet below 64 has the two top bits clear. -/
theorem and_c0_of_lt {n : Nat} (h : n < 64) : n &&& 0xc0 = 0 := by
  have : ∀ n < 64, n &&& 0xc0 = 0 := by decide
  exact this n h

theorem take_two_drop {l : List α} {a a' : α} (ha : l[q]? = some a) (ha' : l[q + 1]? = some a') :
    (l.drop q).take 2 = [a, a'] := by
  obtain ⟨h1, rfl⟩ := List.getElem?_eq_some_iff.mp ha
  obtain ⟨h2, rfl⟩ := List.getElem?_eq_some_iff.mp ha'
  rw [List.drop_eq_getElem_cons h1, List.drop_eq_getElem_cons h2]
  rfl

theorem nameStep_zero (hq : c.off = q) (hb : buf[q]? = some 0) :
    nameStep buf c = .ok (.done { c with off := c.off + 1 }) := by
  have hlt := (List.getElem?_eq_some_iff.mp hb).1
  unfold nameStep
  rw [if_neg (by omega), hq, pyIndex_ofNat, hb, except_ok_bind]
  rfl

theorem nameStep_label (hq : c.off = q) (hb : buf[q]? = some b) (h0 : 0 < b.toNat)
    (h64 : b.toNat < 64) (hlen : c.nameLength + b.toNat + 1 ≤ 255) :
    nameStep buf c = .ok (.next (c.addLabel buf b.toNat)) := by
  have hlt := (List.getElem?_eq_some_iff.mp hb).1
  unfold nameStep
  rw [if_neg (by omega), hq, pyIndex_ofNat, hb, except_ok_bind]
  dsimp only
  rw [if_neg (by omega), if_neg (by rw [and_c0_of_lt h64]; decide), if_pos (and_c0_of_lt h64),
    if_neg (by omega)]
  rfl

theorem nameStep_pointer (hq : c.off = q) (hb : buf[q]? = some hi) (hb' : buf[q + 1]? = some lo)
    (hhi : hi.toNat &&& 0xc0 = 0xc0) (ht : (((hi.toNat * 256 + lo.toNat) &&& 0x3fff : Nat) : Int) < c.startOff) :
    nameStep buf c = .ok (.next (c.follow ((hi.toNat * 256 + lo.toNat) &&& 0x3fff))) := by
  have hlt := (List.getElem?_eq_some_iff.mp hb).1
  have h0 : hi.toNat ≠ 0 := fun h => by rw [h] at hhi; exact absurd hhi (by decide)
  have hslice : pySlice buf c.off (c.off + 2) = [hi, lo] := by
    rw [hq, show (q : Int) + 2 = ((q + 2 : Nat) : Int) by push_cast; rfl, pySlice_ofNat,
      Nat.add_sub_cancel_left, take_two_drop hb hb']
  unfold nameStep
  rw [if_neg (by omega), hq, pyIndex_ofNat, hb, except_ok_bind]
  dsimp only
  rw [if_neg h0, if_pos hhi, ← hq, hslice, unpackUInt_of_length (show [hi, lo].length = 2 from rfl),
    except_ok_bind]
  rw [if_neg (by simp only [beValue, List.foldl, Nat.zero_mul, Nat.zero_add]; omega)]
  simp [beValue]

end Step

/-! ### One turn, backward -/

section Back

variable {buf : Bytes} {c c' : NameCursor}

/-- A byte whose two top bits are clear is below 64. -/
theorem lt_64_of_and_c0 {n : Nat} (hn : n < 256) (h : n &&& 0xc0 = 0) : n < 64 := by
  refine (Nat.lt_pow_two_of_testBit (n := 6) n fun i hi => ?_ : n < 2 ^ 6)
  rcases Nat.lt_or_ge i 8 with h8 | h8
  · have hb := congrArg (Nat.testBit · i) h
    simp only [Nat.testBit_and, Nat.zero_testBit] at hb
    interval_cases i
    · simpa [show Nat.testBit 192 6 = true by decide] using hb
    · simpa [show Nat.testBit 192 7 = true by decide] using hb
  · exact Nat.testBit_eq_false_of_lt
      (lt_of_lt_of_le hn (Nat.pow_le_pow_right (n := 2) (by norm_num) h8))

/-- `buf[i]` that returns reads the element at `i` of the list. -/
theorem getElem?_of_pyIndex {buf : Bytes} {i : Int} {x : UInt8} (h0 : 0 ≤ i)
    (h : pyIndex buf i = .ok x) : buf[i.toNat]? = some x := by
  rw [show i = ((i.toNat : Nat) : Int) by omega, pyIndex_ofNat] at h
  split at h <;> cases h
  assumption

/-- What a turn reads at a cursor inside the buffer: the zero octet that ends the name, a label
octet of 1 to 63 and the label after it, or the two bytes of a pointer below the segment start. -/
theorem nameStep_cases {s : NameStep} (h : nameStep buf c = .ok s) (h0 : 0 ≤ c.off) :
    ∃ b : UInt8, buf[c.off.toNat]? = some b ∧
      ((b.toNat = 0 ∧ s = .done { c with off := c.off + 1 }) ∨
       (0 < b.toNat ∧ b.toNat < 64 ∧ s = .next (c.addLabel buf b.toNat)) ∨
       ∃ lo : UInt8, buf[c.off.toNat + 1]? = some lo ∧ b.toNat &&& 0xc0 = 0xc0 ∧
         (((b.toNat * 256 + lo.toNat) &&& 0x3fff : Nat) : Int) < c.startOff ∧
         s = .next (c.follow ((b.toNat * 256 + lo.toNat) &&& 0x3fff))) := by
  unfold nameStep at h
  split_ifs at h with hend
  obtain ⟨x, hx, h⟩ := except_bind_eq_ok.mp h
  have hx' := getElem?_of_pyIndex h0 hx
  refine ⟨x, hx', ?_⟩
  dsimp only at h
  split_ifs at h with h1 h2 h3
  · cases h; exact .inl ⟨h1, rfl⟩
  · obtain ⟨v, hv, h⟩ := except_bind_eq_ok.mp h
    obtain ⟨q, hq⟩ : ∃ q : Nat, c.off = q := ⟨c.off.toNat, by omega⟩
    rw [hq, show (q : Int) + 2 = ((q + 2 : Nat) : Int) by omega, pySlice_ofNat,
      Nat.add_sub_cancel_left] at hv
    have hlen : ((buf.drop q).take 2).length = 2 := by
      unfold unpackUInt at hv; split_ifs at hv with hl; exact hl
    have hlt : q + 1 < buf.length := by simp at hlen; omega
    rw [hq, Int.toNat_ofNat] at hx'
    rw [take_two_drop hx' (List.getElem?_eq_getElem hlt),
      unpackUInt_of_length (show [x, buf[q + 1]].length = 2 from rfl)] at hv
    cases hv
    split_ifs at h with hp
    cases h
    refine .inr (.inr ⟨_, by rw [hq, Int.toNat_ofNat]; exact List.getElem?_eq_getElem hlt, h2, ?_,
      by simp [beValue]⟩)
    simp only [beValue, List.foldl, Nat.zero_mul, Nat.zero_add] at hp
    omega
  · cases h
    exact .inr (.inl ⟨by omega, lt_64_of_and_c0 x.toNat_lt_size h3, rfl⟩)

/-- A run starts inside the buffer. -/
theorem NameRuns.off_lt (h : NameRuns buf c c') : c.off < buf.length := by
  cases h with
  | done hs => exact (nameStep_done hs).1
  | next hs _ => exact (nameStep_next hs).1

/-- Once a pointer saved an offset, it stays saved. -/
theorem NameRuns.savedOff_ne (h : NameRuns buf c c') (hc : c.savedOff ≠ 0) : c'.savedOff ≠ 0 := by
  induction h with
  | done hs => rw [(nameStep_done hs).2]; exact hc
  | next hs _ ih =>
    apply ih
    obtain ⟨-, ⟨ptr, -, -, rfl⟩ | ⟨n, -, rfl⟩⟩ := nameStep_next hs
    · simp [NameCursor.follow, hc]
    · exact hc

end Back

/-! ### Names on the wire -/

/-- The encoded length of labels: each label and its length octet. -/
def wireLength (ls : List Bytes) : Nat := (ls.map (·.length + 1)).sum

@[simp] theorem wireLength_nil : wireLength [] = 0 := rfl

@[simp] theorem wireLength_cons (l : Bytes) (ls : List Bytes) :
    wireLength (l :: ls) = l.length + 1 + wireLength ls := by
  simp [wireLength]

/-- The bytes of `buf` at `q` spell the labels `ls`, read as `unpack_name` reads them in a segment
that starts at `s`; `e` is the offset after the bytes read before the first pointer, where
`unpack_name` returns. A pointer must lie below the start of its segment, and starts one of its
own. -/
inductive Spells (buf : Bytes) : Nat → Nat → List Bytes → Nat → Prop
  | root {s q : Nat} : buf[q]? = some 0 → Spells buf s q [] (q + 1)
  | label {s q : Nat} {l : Bytes} {ls : List Bytes} {e : Nat} (b : UInt8) :
      buf[q]? = some b → b.toNat = l.length → 0 < l.length → l.length < 64 →
      (buf.drop (q + 1)).take l.length = l → Spells buf s (q + 1 + l.length) ls e →
      Spells buf s q (l :: ls) e
  | pointer {s q t : Nat} {ls : List Bytes} {e : Nat} (hi lo : UInt8) :
      buf[q]? = some hi → buf[q + 1]? = some lo → hi.toNat &&& 0xc0 = 0xc0 →
      (hi.toNat * 256 + lo.toNat) &&& 0x3fff = t → t < s → Spells buf t t ls e →
      Spells buf s q ls (q + 2)

namespace Spells

variable {buf : Bytes} {s q e : Nat} {ls : List Bytes}

/-- A segment that starts later allows every pointer an earlier one does. -/
theorem mono (h : Spells buf s q ls e) {s' : Nat} (hs : s ≤ s') : Spells buf s' q ls e := by
  induction h with
  | root hb => exact .root hb
  | label b hb hl h0 h64 hsl _ ih => exact .label b hb hl h0 h64 hsl (ih hs)
  | pointer hi lo hb hb' hhi ht hts hrest _ => exact .pointer hi lo hb hb' hhi ht (by omega) hrest

/-- A spelled name takes at least one byte. -/
theorem lt_end (h : Spells buf s q ls e) : q < e := by
  induction h with
  | root => omega
  | label => omega
  | pointer => omega

/-- The run of `unpack_name`'s loop over a spelled name, from any cursor at its first byte: it
appends the labels, counts their encoded length, and returns the offset `e` unless a pointer was
followed before. -/
theorem runs (h : Spells buf s q ls e) (c : NameCursor) (hq : c.off = q) (hs : c.startOff = s)
    (hl : c.nameLength + wireLength ls ≤ 255) :
    ∃ c', NameRuns buf c c' ∧ c'.name = c.name ++ ls ∧
      c'.endOff = if c.savedOff = 0 then (e : Int) else c.savedOff := by
  induction h generalizing c with
  | root hb =>
    refine ⟨_, .done (nameStep_zero hq hb), by simp, ?_⟩
    simp only [NameCursor.endOff, hq]
    split_ifs <;> omega
  | @label s₀ q₀ l ls₀ e₀ b hb hbl h0 h64 hsl _ ih =>
    simp only [wireLength_cons] at hl
    obtain ⟨c', hr, hn, he⟩ := ih (c.addLabel buf b.toNat)
      (by simp only [NameCursor.addLabel, hq, hbl]; omega) hs
      (by simp only [NameCursor.addLabel, hbl]; omega)
    refine ⟨c', .next (nameStep_label hq hb (by omega) (by omega) (by omega)) hr, ?_, he⟩
    have hslice : pySlice buf (c.off + 1) (c.off + 1 + b.toNat) = l := by
      rw [hq, hbl, show (q₀ : Int) + 1 + l.length = ((q₀ + 1 + l.length : Nat) : Int) by omega,
        show (q₀ : Int) + 1 = ((q₀ + 1 : Nat) : Int) by omega, pySlice_ofNat,
        Nat.add_sub_cancel_left, hsl]
    simp only [hn, NameCursor.addLabel, hslice, List.append_assoc, List.singleton_append]
  | @pointer s₀ q₀ t ls₀ e₀ hi lo hb hb' hhi ht hts _ ih =>
    subst ht
    obtain ⟨c', hr, hn, he⟩ := ih (c.follow _) rfl rfl (by simpa [NameCursor.follow] using hl)
    refine ⟨c', .next (nameStep_pointer hq hb hb' hhi (by rw [hs]; exact_mod_cast hts)) hr,
      by simpa [NameCursor.follow] using hn, ?_⟩
    rw [he]
    simp only [NameCursor.follow, hq]
    split_ifs <;> omega

end Spells

/-- `unpack_name` reads back a name spelled at `p`, when its labels are UTF-8 and take at most 255
encoded bytes. -/
theorem unpackName_of_spells {buf : Bytes} {p e : Nat} {ls : List Bytes}
    (h : Spells buf p p ls e) (hl : wireLength ls ≤ 255) (hv : utf8Valid (joinDot ls)) :
    unpackName buf p = .ok (joinDot ls, e) := by
  obtain ⟨c', hr, hn, he⟩ := h.runs (.init p) rfl rfl (by simpa [NameCursor.init] using hl)
  simp only [NameCursor.init, if_true] at hn he
  simp only [unpackName, nameRun_eq_ok.mpr hr, except_ok_bind, hn, List.nil_append, utf8Decode, hv,
    if_true, he]
  rfl

/-! ### Names read without a pointer -/

section Plain

variable {buf : Bytes} {c c' : NameCursor}

/-- A run of the loop that ends with no offset saved followed no pointer: the bytes at its first
cursor spell its labels whatever segment they are read in, up to the zero octet before its last
cursor. -/
theorem NameRuns.plain (h : NameRuns buf c c') (h0 : 0 ≤ c.off) (hs : c'.savedOff = 0) :
    ∃ ls, c'.name = c.name ++ ls ∧ 0 ≤ c'.off ∧ ∀ s, Spells buf s c.off.toNat ls c'.off.toNat := by
  induction h with
  | @done c₀ c₁ hst =>
    obtain ⟨b, hb, ⟨hb0, hd⟩ | ⟨-, -, hd⟩ | ⟨lo, -, -, -, hd⟩⟩ := nameStep_cases hst h0 <;> cases hd
    obtain rfl : b = 0 := UInt8.toNat.inj hb0
    refine ⟨[], by simp, by dsimp only; omega, fun s => ?_⟩
    rw [show (c₀.off + 1).toNat = c₀.off.toNat + 1 by omega]
    exact .root hb
  | @next c₀ c₁ c₂ hst hr ih =>
    obtain ⟨b, hb, ⟨-, hd⟩ | ⟨hpos, h64, hd⟩ | ⟨lo, -, -, -, hd⟩⟩ := nameStep_cases hst h0 <;> cases hd
    · obtain ⟨ls, hn, hoff, hsp⟩ := ih (by simp only [NameCursor.addLabel]; omega) hs
      have hlt := hr.off_lt
      simp only [NameCursor.addLabel] at hlt hn hsp
      obtain ⟨q, hq⟩ : ∃ q : Nat, c₀.off = q := ⟨c₀.off.toNat, by omega⟩
      rw [hq, show (q : Int) + 1 + b.toNat = ((q + 1 + b.toNat : Nat) : Int) by omega] at hn hsp
      rw [show (q : Int) + 1 = ((q + 1 : Nat) : Int) by omega, pySlice_ofNat,
        Nat.add_sub_cancel_left] at hn
      rw [hq] at hlt hb ⊢
      simp only [Int.toNat_ofNat] at hb hsp ⊢
      have hl : ((buf.drop (q + 1)).take b.toNat).length = b.toNat := by simp; omega
      refine ⟨_ :: ls, by simpa using hn, hoff, fun s => .label b hb hl.symm (by omega) (by omega)
        (by rw [hl]) (by rw [hl]; exact hsp s)⟩
    · exact absurd hs (hr.savedOff_ne (by simp only [NameCursor.follow]; split_ifs <;> omega))

theorem getElem?_middle {X r Y : Bytes} {q : Nat} (h : q < r.length) :
    (X ++ r ++ Y)[X.length + q]? = r[q]? := by
  rw [List.append_assoc, List.getElem?_append_right (by omega), Nat.add_sub_cancel_left,
    List.getElem?_append_left h]

/-- Labels spelled without a pointer are spelled by the same bytes wherever they stand, in any
segment. -/
theorem Spells.moved {r : Bytes} {s q e : Nat} {ls : List Bytes} (h : Spells r s q ls e)
    (hs : s = 0) (X Y : Bytes) (s' : Nat) :
    Spells (X ++ r ++ Y) s' (X.length + q) ls (X.length + e) := by
  induction h with
  | @root s q hb =>
    rw [← Nat.add_assoc]
    exact .root (by rw [getElem?_middle (List.getElem?_eq_some_iff.mp hb).1, hb])
  | @label s q l ls e b hb hl h0 h64 hsl _ ih =>
    have hlen := congrArg List.length hsl
    simp only [List.length_take, List.length_drop] at hlen
    have hrest := ih hs
    rw [show X.length + (q + 1 + l.length) = X.length + q + 1 + l.length by omega] at hrest
    refine .label b (by rw [getElem?_middle (List.getElem?_eq_some_iff.mp hb).1, hb]) hl h0 h64 ?_
      hrest
    rw [Nat.add_assoc, List.append_assoc, List.drop_append,
      List.drop_append_of_le_length (by omega), List.take_append_of_le_length (by simp; omega), hsl]
  | pointer _ _ _ _ _ _ hts => omega

/-- A name that `unpack_name` reads at `q` of `r` without following a pointer reads the same at
the same place of `r` inside any longer buffer, and ends as many bytes further on. -/
theorem unpackName_moved {r : Bytes} {q : Nat} {c : NameCursor} {n : Bytes} {e : Int}
    (hr : nameRun r q = .ok c) (hp : c.savedOff = 0) (hu : unpackName r q = .ok (n, e))
    (X Y : Bytes) : unpackName (X ++ r ++ Y) (X.length + q) = .ok (n, X.length + e) := by
  obtain ⟨ls, hn, hoff, hsp⟩ := (nameRun_eq_ok.mp hr).plain (by simp [NameCursor.init]) hp
  simp only [NameCursor.init, List.nil_append, Int.toNat_ofNat] at hn hsp
  have hsum := (nameLoop_inv nameInv_init hr).1
  rw [unpackName, hr, except_ok_bind] at hu
  obtain ⟨n', hd, hu⟩ := except_bind_eq_ok.mp hu
  obtain ⟨hv, rfl⟩ := utf8Decode_ok_iff.mp hd
  cases hu
  rw [hn] at hsum hv ⊢
  have := unpackName_of_spells (hsp 0 |>.moved rfl X Y (X.length + q)) hsum hv
  simp only [NameCursor.endOff, hp, if_true]
  push_cast at this
  rwa [show (c.off.toNat : Int) = c.off by omega] at this

end Plain

/-! ### What `unpack_name` accepts -/

section Accepts

variable {buf : Bytes} {c c' : NameCursor}

/-- Every run of the loop that breaks, from a cursor inside the buffer, read labels that the bytes
at the cursor spell within the current segment, and ends with the offset after them unless a pointer
was followed before. -/
theorem NameRuns.spells (h : NameRuns buf c c') (h0 : 0 ≤ c.off) :
    ∃ (ls : List Bytes) (e : Nat), c'.name = c.name ++ ls ∧ Spells buf c.startOff.toNat c.off.toNat ls e ∧
      c'.endOff = if c.savedOff = 0 then (e : Int) else c.savedOff := by
  induction h with
  | @done c₀ c₁ hst =>
    obtain ⟨b, hb, ⟨hb0, hd⟩ | ⟨-, -, hd⟩ | ⟨lo, -, -, -, hd⟩⟩ := nameStep_cases hst h0 <;> cases hd
    obtain rfl : b = 0 := UInt8.toNat.inj hb0
    refine ⟨[], c₀.off.toNat + 1, by simp, .root hb, ?_⟩
    simp only [NameCursor.endOff]
    split_ifs <;> omega
  | @next c₀ c₁ c₂ hst hr ih =>
    obtain ⟨b, hb, ⟨-, hd⟩ | ⟨hpos, h64, hd⟩ | ⟨lo, hlo, hhi, hpt, hd⟩⟩ := nameStep_cases hst h0 <;>
      cases hd
    · obtain ⟨ls, e, hn, hsp, he⟩ := ih (by simp only [NameCursor.addLabel]; omega)
      have hlt := hr.off_lt
      simp only [NameCursor.addLabel] at hlt hn hsp he
      obtain ⟨q, hq⟩ : ∃ q : Nat, c₀.off = q := ⟨c₀.off.toNat, by omega⟩
      rw [hq, show (q : Int) + 1 + b.toNat = ((q + 1 + b.toNat : Nat) : Int) by omega] at hn hsp
      rw [show (q : Int) + 1 = ((q + 1 : Nat) : Int) by omega, pySlice_ofNat,
        Nat.add_sub_cancel_left] at hn
      rw [hq] at hlt hb ⊢
      simp only [Int.toNat_ofNat] at hb hsp ⊢
      have hl : ((buf.drop (q + 1)).take b.toNat).length = b.toNat := by simp; omega
      exact ⟨_ :: ls, e, by simpa using hn, .label b hb hl.symm (by omega) (by omega) (by rw [hl])
        (by rw [hl]; exact hsp), he⟩
    · obtain ⟨ls, e, hn, hsp, he⟩ := ih (by simp only [NameCursor.follow]; omega)
      simp only [NameCursor.follow, Int.toNat_ofNat] at hn hsp he
      refine ⟨ls, c₀.off.toNat + 2, hn, .pointer b lo hb hlo hhi rfl (by omega) hsp, ?_⟩
      rw [he, if_neg (by split_ifs <;> omega)]
      split_ifs <;> omega

/-- `unpack_name` at an offset `off ≥ 0` returns exactly on bytes that spell labels there, each
pointer to an offset before the segment it stands in, of at most 255 encoded bytes, whose dotted
join is UTF-8: it returns that join, and the offset after the name where it was read. -/
theorem unpackName_eq_ok_iff {off : Int} (h0 : 0 ≤ off) {n : Bytes} {e : Int} :
    unpackName buf off = .ok (n, e) ↔
      ∃ (ls : List Bytes) (q : Nat), Spells buf off.toNat off.toNat ls q ∧ wireLength ls ≤ 255 ∧
        utf8Valid (joinDot ls) ∧ n = joinDot ls ∧ e = q := by
  constructor
  · intro h
    obtain ⟨c, hr, h⟩ := except_bind_eq_ok.mp h
    obtain ⟨n', hd, h⟩ := except_bind_eq_ok.mp h
    obtain ⟨hv, rfl⟩ := utf8Decode_ok_iff.mp hd
    cases h
    have hsum := (nameLoop_inv nameInv_init hr).1
    obtain ⟨ls, q, hn, hsp, he⟩ := (nameRun_eq_ok.mp hr).spells h0
    simp only [NameCursor.init, List.nil_append, if_true] at hn hsp he
    rw [hn] at hsum hv ⊢
    exact ⟨ls, q, hsp, hsum, hv, rfl, he⟩
  · rintro ⟨ls, q, hsp, hl, hv, rfl, rfl⟩
    have := unpackName_of_spells hsp hl hv
    rwa [show ((off.toNat : Nat) : Int) = off by omega] at this

/-- The name `a.b` at offset 0 and, at offset 5, a pointer to it: `unpack_name` at 5 follows the
pointer and returns `a.b` with the offset 7 after the pointer. -/
theorem unpackName_eq_ok_iff_pointer :
    0 ≤ (5 : Int) ∧
      (unpackName [1, 0x61, 1, 0x62, 0, 0xc0, 0] 5 = .ok ([0x61, 0x2e, 0x62], 7) ↔
        ∃ (ls : List Bytes) (q : Nat), Spells [1, 0x61, 1, 0x62, 0, 0xc0, 0] (5 : Int).toNat
          (5 : Int).toNat ls q ∧ wireLength ls ≤ 255 ∧ utf8Valid (joinDot ls) ∧
          [0x61, 0x2e, 0x62] = joinDot ls ∧ (7 : Int) = q) :=
  ⟨by decide, unpackName_eq_ok_iff (by decide)⟩

end Accepts

end DpktGtpc.Dns
