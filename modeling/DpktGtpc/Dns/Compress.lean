import DpktGtpc.Dns.Wire

/-! `pack_name` against the table `label_ptrs`. A name is written at some offset `p` of the message
`B` that `bytes()` returns; `TableBelow` says that every entry of the table that `pack_name` would
follow names an offset below `p` at which `B` spells labels whose key the entry has. From such a
table, `pack_name` writes a name that `B` spells at `p`, its labels equal to the name's up to ASCII
case, and makes entries at offsets of the bytes it wrote, whose keys `B` spells there. -/

namespace DpktGtpc.Dns

/-! ### Labels and keys -/

/-- Labels that `pack_name` writes and `unpack_name` reads back unchanged: one to 63 bytes, no dot,
well-formed UTF-8. -/
def GoodLabels (ls : List Bytes) : Prop :=
  ∀ l ∈ ls, 0 < l.length ∧ l.length < 64 ∧ 0x2E ∉ l ∧ utf8Valid l

/-- The key that `pack_name` looks up for the labels left, the empty one included:
`b'.'.join(labels[i:]).upper()`. -/
def labelKey (ls : List Bytes) : Bytes := bytesUpper (joinDot ls)

instance : DecidablePred GoodLabels := fun ls => inferInstanceAs (Decidable (∀ l ∈ ls, _))

theorem GoodLabels.cons {l : Bytes} {ls : List Bytes} (h : GoodLabels (l :: ls)) :
    (0 < l.length ∧ l.length < 64 ∧ 0x2E ∉ l ∧ utf8Valid l) ∧ GoodLabels ls :=
  ⟨h l (List.mem_cons_self _ _), fun x hx => h x (List.mem_cons_of_mem _ hx)⟩

theorem GoodLabels.of_cons {l : Bytes} {ls ls' : List Bytes} (h : GoodLabels (l :: ls))
    (h' : GoodLabels ls') : GoodLabels (l :: ls') :=
  fun x hx => (List.mem_cons.mp hx).elim (fun e => e ▸ h l (List.mem_cons_self _ _)) (h' x)

theorem labelKey_root : labelKey [[]] = [] := rfl

/-- The key of a name depends on its labels only up to ASCII case. -/
theorem labelKey_append_root (ls : List Bytes) :
    labelKey (ls ++ [[]]) = joinDot (ls.map bytesUpper ++ [[]]) := by
  rw [labelKey, bytesUpper_joinDot, List.map_append]
  rfl

/-- Labels equal up to ASCII case have the same key. -/
theorem labelKey_congr {a b : List Bytes} (h : a.map bytesUpper = b.map bytesUpper) :
    labelKey (a ++ [[]]) = labelKey (b ++ [[]]) := by
  rw [labelKey_append_root, labelKey_append_root, h]

theorem length_labelKey_cons (l : Bytes) (ls : List Bytes) :
    (labelKey (l :: ls ++ [[]])).length = l.length + 1 + (labelKey (ls ++ [[]])).length := by
  simp only [labelKey, List.cons_append, length_bytesUpper]
  obtain ⟨x, xs, hx⟩ := List.exists_cons_of_ne_nil (List.append_ne_nil_of_right_ne_nil ls
    (List.cons_ne_nil [] []))
  rw [hx, joinDot_cons_cons]
  simp only [List.length_append, List.length_cons]
  omega

/-- The key of labels and the empty one is as long as their encoding. -/
theorem length_labelKey_append_root : ∀ ls : List Bytes, (labelKey (ls ++ [[]])).length = wireLength ls
  | [] => rfl
  | l :: ls => by rw [length_labelKey_cons, length_labelKey_append_root ls, wireLength_cons]

/-- Dropping the first label shortens the key. -/
theorem length_labelKey_le_cons (l : Bytes) : ∀ ls : List Bytes,
    (labelKey ls).length ≤ (labelKey (l :: ls)).length
  | [] => Nat.zero_le _
  | l' :: ls => by
    simp only [labelKey, length_bytesUpper, joinDot_cons_cons, List.length_append, List.length_cons]
    omega

theorem one_lt_length_labelKey {l : Bytes} {ls : List Bytes} (h : 0 < l.length) :
    1 < (labelKey (l :: ls ++ [[]])).length := by
  rw [length_labelKey_cons]; omega

/-- Two names of good labels with the same key have the same labels up to ASCII case. -/
theorem labelKey_inj {a b : List Bytes} (ha : GoodLabels a) (hb : GoodLabels b)
    (h : labelKey (a ++ [[]]) = labelKey (b ++ [[]])) : a.map bytesUpper = b.map bytesUpper := by
  have hdot : ∀ {c : List Bytes}, GoodLabels c → ∀ l ∈ c.map bytesUpper, 0x2E ∉ l := by
    intro c hc l hl
    obtain ⟨l', hl', rfl⟩ := List.mem_map.mp hl
    exact fun h => (hc l' hl').2.2.1 (dot_mem_bytesUpper.mp h)
  rcases a with _ | ⟨x, a⟩ <;> rcases b with _ | ⟨y, b⟩
  · rfl
  · have : 1 < (labelKey (y :: b ++ [[]])).length :=
      one_lt_length_labelKey (hb y (List.mem_cons_self _ _)).1
    rw [← h] at this; cases this
  · have : 1 < (labelKey (x :: a ++ [[]])).length :=
      one_lt_length_labelKey (ha x (List.mem_cons_self _ _)).1
    rw [h] at this; cases this
  · rw [labelKey_append_root, labelKey_append_root, joinDot_append_nil (by simp),
      joinDot_append_nil (by simp)] at h
    rw [← splitDot_joinDot (by simp) (hdot ha), ← splitDot_joinDot (by simp) (hdot hb),
      List.append_cancel_right h]

/-! ### Bytes in place -/

/-- The bytes `w` stand in `B` from offset `p` on. -/
def WrittenAt (B : Bytes) (p : Nat) (w : Bytes) : Prop := w <+: B.drop p

namespace WrittenAt

variable {B a b : Bytes} {p : Nat}

theorem left (h : WrittenAt B p (a ++ b)) : WrittenAt B p a := (List.prefix_append a b).trans h

theorem right (h : WrittenAt B p (a ++ b)) : WrittenAt B (p + a.length) b := by
  obtain ⟨R, hR⟩ := h
  refine ⟨R, ?_⟩
  rw [← List.drop_drop, ← hR, List.append_assoc, List.drop_left]

theorem getElem {x : UInt8} (h : WrittenAt B p (x :: b)) : B[p]? = some x := by
  obtain ⟨R, hR⟩ := h
  have : (B.drop p)[0]? = some x := by rw [← hR]; simp
  rwa [List.getElem?_drop, Nat.add_zero] at this

theorem take_eq (h : WrittenAt B p a) : (B.drop p).take a.length = a :=
  (List.prefix_iff_eq_take.mp h).symm

/-- `B[i:j]` over bytes that stand in `B`. -/
theorem pySlice_eq (h : WrittenAt B p a) {i j : Int} (hi : i = p) (hj : j = p + a.length) :
    pySlice B i j = a := by
  rw [hi, hj, ← Nat.cast_add, pySlice_ofNat, Nat.add_sub_cancel_left, h.take_eq]

end WrittenAt

/-! ### Pointers -/

/-- A pointer to an offset below `0x4000` is two bytes, the top two bits set, that `unpack_name`
reads back as the offset. -/
theorem packPointer_ok {t : Int} (h0 : 0 ≤ t) (h : t < 0x4000) :
    ∃ hi lo : UInt8, packPointer t = .ok [hi, lo] ∧ hi.toNat &&& 0xc0 = 0xc0 ∧
      (hi.toNat * 256 + lo.toNat) &&& 0x3fff = t.toNat := by
  have hor : (0xc000 ||| t.toNat : Nat) = 0xc000 + t.toNat :=
    (Nat.mul_add_lt_is_or (i := 14) (show t.toNat < 2 ^ 14 by omega) 3).symm
  obtain ⟨hi, lo, hb⟩ : ∃ hi lo, beBytes 2 (0xc000 + t.toNat) = [hi, lo] := ⟨_, _, rfl⟩
  have hv : hi.toNat * 256 + lo.toNat = 0xc000 + t.toNat := by
    have := beValue_beBytes 2 (0xc000 + t.toNat)
    rw [hb] at this
    simp only [beValue, List.foldl, Nat.zero_mul, Nat.zero_add] at this
    omega
  have hlo : lo.toNat < 256 := lo.toNat_lt_size
  refine ⟨hi, lo, ?_, ?_, ?_⟩
  · rw [packPointer, if_neg (by omega), hor, packUInt_ofNat (by omega), hb]
  · have hhi : hi.toNat = 0xc0 + t.toNat / 256 := by omega
    have : ∀ x < 64, (0xc0 + x) &&& 0xc0 = 0xc0 := by decide
    rw [hhi]
    exact this _ (by omega)
  · rw [hv, show (0x3fff : Nat) = 2 ^ 14 - 1 by norm_num, Nat.and_pow_two_sub_one_eq_mod]
    omega

/-! ### The table -/

/-- `B` spells at `t`, as a segment of its own, good labels with the key `K`. -/
def Spelt (B : Bytes) (K : Bytes) (t : Int) : Prop :=
  ∃ ls e, Spells B t.toNat t.toNat ls e ∧ GoodLabels ls ∧ labelKey (ls ++ [[]]) = K

/-- An entry of `label_ptrs` that the message `B` bears out: a key of two bytes or more, an offset
in `(0, 0x4000)`, and at that offset, as a segment of its own, good labels with that key. -/
def EntryOK (B : Bytes) (K : Bytes) (t : Int) : Prop :=
  1 < K.length ∧ 0 < t ∧ t < 0x4000 ∧ Spelt B K t

/-- A table that `pack_name` may be given at offset `p` of `B`: every entry it would follow, one
with a truthy offset, is borne out by `B` and points below `p`. -/
def TableBelow (B : Bytes) (p : Nat) (T : LabelPtrs) : Prop :=
  ∀ K t, (K, t) ∈ T → t ≠ 0 → EntryOK B K t ∧ t < p

/-! ### Lookups -/

/-- `label_ptrs.get(key)` when it is truthy: what `pack_name` finds for the labels `ls` left, the
empty one included. -/
def hitOf (T : LabelPtrs) (ls : List Bytes) : Option Int := (T.lookup (labelKey ls)).filter (· ≠ 0)

section Lookups

variable {T N : LabelPtrs} {ls : List Bytes}

theorem mem_of_hitOf {t : Int} (h : hitOf T ls = some t) : (labelKey ls, t) ∈ T ∧ t ≠ 0 := by
  obtain ⟨hl, ht⟩ := Option.filter_eq_some.mp h
  obtain ⟨l₁, l₂, hT, -⟩ := List.lookup_eq_some_iff.mp (Option.mem_def.mp hl)
  exact ⟨by rw [hT]; simp, by simpa using ht⟩

/-- Labels whose key is shorter than every key of `N` find in `N ++ T` what they find in `T`. -/
theorem hitOf_append_of_short (hN : ∀ K t, (K, t) ∈ N → (labelKey ls).length < K.length) :
    hitOf (N ++ T) ls = hitOf T ls := by
  have : N.lookup (labelKey ls) = none := List.lookup_eq_none_iff.mpr fun x hx => by
    have := hN x.1 x.2 hx
    simp only [bne_iff_ne, ne_eq]
    rintro h
    rw [← h] at this
    omega
  rw [hitOf, hitOf, List.lookup_append, this]
  rfl

/-- The empty label finds nothing while every live entry has a key of two bytes or more. -/
theorem hitOf_root (hT : ∀ K t, (K, t) ∈ T → t ≠ 0 → 1 < K.length) : hitOf T [[]] = none := by
  cases h : hitOf T [[]] with
  | none => rfl
  | some t =>
    obtain ⟨hm, ht⟩ := mem_of_hitOf h
    exact absurd (hT _ _ hm ht) (by rw [labelKey_root]; decide)

end Lookups

/-! ### `pack_name`, a label at a time -/

section Labels

variable {off : Int} {label : Bytes} {more : List Bytes} {buf : Bytes} {T : LabelPtrs}

/-- A key with a live entry ends the name with a pointer to the entry's offset. -/
theorem packLabels_hit {ptr : Int} (h : hitOf T (label :: more) = some ptr) :
    packLabels off (label :: more) buf T = match packPointer ptr with
      | .ok pb => .ok (buf ++ pb) T
      | .error e => .error e T := by
  have h' : (T.lookup (bytesUpper (joinDot (label :: more)))).filter (· ≠ 0) = some ptr := h
  simp only [packLabels, estate_bind_apply, estate_get_apply, h']
  cases packPointer ptr <;> rfl

/-- The entry a miss makes for the key `key` at the offset `off + n`: none for a key of one byte
or less, or at an offset from `0xc000` on. -/
def keyEntry (off : Int) (n : Nat) (key : Bytes) : LabelPtrs :=
  if 1 < key.length ∧ off + n < 0xc000 then [(key, off + n)] else []

theorem mem_keyEntry {off : Int} {n : Nat} {key : Bytes} {x : Bytes × Int} :
    x ∈ keyEntry off n key ↔ x = (key, off + n) ∧ 1 < key.length ∧ off + n < 0xc000 := by
  unfold keyEntry
  split_ifs with h <;> simp [h]

/-- Any other key is entered in front of the table, if it is long enough and its offset low
enough, and its label is written out. -/
theorem packLabels_miss (h : hitOf T (label :: more) = none) :
    packLabels off (label :: more) buf T = match packUInt 1 label.length with
      | .ok lb => packLabels off more (buf ++ lb ++ label)
          (keyEntry off buf.length (labelKey (label :: more)) ++ T)
      | .error e => .error e (keyEntry off buf.length (labelKey (label :: more)) ++ T) := by
  have h' : (T.lookup (bytesUpper (joinDot (label :: more)))).filter (· ≠ 0) = none := h
  simp only [packLabels, labelKey, keyEntry, estate_bind_apply, estate_get_apply, h']
  split_ifs <;> simp only [estate_bind_apply, estate_modify_apply, estate_pure_apply] <;>
    cases packUInt 1 label.length <;> rfl

/-- The empty label, when it finds nothing, is written as a zero octet. -/
theorem packLabels_root (h : hitOf T [[]] = none) : packLabels off [[]] buf T = .ok (buf ++ [0]) T := by
  rw [packLabels_miss h, show packUInt 1 ([] : Bytes).length = .ok [0] by decide,
    show keyEntry off buf.length (labelKey [[]]) = [] from if_neg fun h => absurd h.1 (by decide)]
  simp only [packLabels, List.append_nil]
  rfl

theorem packLabels_nil {T' : LabelPtrs} {out : Bytes} (h : packLabels off [] buf T = .ok out T') :
    out = buf ∧ T' = T := by
  simp only [packLabels, estate_pure_apply, EStateM.Result.ok.injEq] at h
  exact ⟨h.1.symm, h.2.symm⟩

/-- What `pack_name` returns extends the bytes it started from. -/
theorem packLabels_extends : ∀ {ls : List Bytes} {buf out : Bytes} {T T' : LabelPtrs},
    packLabels off ls buf T = .ok out T' → buf <+: out
  | [], _, _, _, _, h => by rw [(packLabels_nil h).1]
  | label :: more, buf, out, T, T', h => by
    cases hl : hitOf T (label :: more) with
    | some ptr =>
      rw [packLabels_hit hl] at h
      split at h <;> cases h
      exact List.prefix_append _ _
    | none =>
      rw [packLabels_miss hl] at h
      split at h
      · exact ((List.prefix_append _ _).trans (List.prefix_append _ _)).trans (packLabels_extends h)
      · cases h

/-- The entries `pack_name`'s loop makes go in front of the table, at offsets of the bytes it
writes, with keys no longer than the key of the labels it starts from. -/
theorem packLabels_entries : ∀ {ls : List Bytes} {buf out : Bytes} {T T' : LabelPtrs},
    packLabels off ls buf T = .ok out T' → ∃ N, T' = N ++ T ∧ ∀ K t, (K, t) ∈ N →
      off + buf.length ≤ t ∧ t < off + out.length ∧ K.length ≤ (labelKey ls).length
  | [], _, _, _, _, h => by
    obtain ⟨rfl, rfl⟩ := packLabels_nil h
    exact ⟨[], rfl, fun _ _ h => (List.not_mem_nil _ h).elim⟩
  | label :: more, buf, out, T, T', h => by
    cases hl : hitOf T (label :: more) with
    | some ptr =>
      rw [packLabels_hit hl] at h
      split at h <;> cases h
      exact ⟨[], rfl, fun _ _ h => (List.not_mem_nil _ h).elim⟩
    | none =>
      rw [packLabels_miss hl] at h
      split at h
      · rename_i lb hlb
        have hout := (packLabels_extends h).length_le
        simp only [List.length_append, length_packUInt hlb] at hout
        have hmore := length_labelKey_le_cons label more
        obtain ⟨N, rfl, hN⟩ := packLabels_entries h
        refine ⟨N ++ keyEntry off buf.length (labelKey (label :: more)), by simp, fun K t hm => ?_⟩
        rcases List.mem_append.mp hm with hm | hm
        · obtain ⟨h1, h2, h3⟩ := hN K t hm
          simp only [List.length_append, length_packUInt hlb] at h1
          exact ⟨by omega, h2, by omega⟩
        · obtain ⟨he, -, -⟩ := mem_keyEntry.mp hm
          obtain ⟨rfl, rfl⟩ := Prod.mk.inj he
          exact ⟨le_rfl, by omega, le_rfl⟩
      · cases h

end Labels

/-! ### `pack_name` writes what `unpack_name` reads -/

theorem packUInt_length_octet {l : Bytes} (h : l.length < 64) :
    ∃ b : UInt8, packUInt 1 l.length = .ok [b] ∧ b.toNat = l.length := by
  refine ⟨_, packUInt_ofNat (by omega), ?_⟩
  simp [Nat.toUInt8, UInt8.toNat, UInt8.ofNat, Fin.ofNat]
  omega

/-- How the labels `ls` that `B` spells where `pack_name` wrote `rest` against the table `T` relate
to `rest`: up to the first key with an entry they are `rest`'s own labels, and from there on they
are the labels at the entry's offset, equal to `rest`'s up to ASCII case. -/
inductive Copies (T : LabelPtrs) : List Bytes → List Bytes → Prop
  | root : Copies T [] []
  | label {l : Bytes} {rest ls : List Bytes} :
      hitOf T (l :: rest ++ [[]]) = none → Copies T rest ls → Copies T (l :: rest) (l :: ls)
  | pointer {rest ls : List Bytes} :
      (hitOf T (rest ++ [[]])).isSome → ls.map bytesUpper = rest.map bytesUpper → Copies T rest ls

theorem Copies.upper {T : LabelPtrs} {rest ls : List Bytes} (h : Copies T rest ls) :
    ls.map bytesUpper = rest.map bytesUpper := by
  induction h with
  | root => rfl
  | label _ _ ih => rw [List.map_cons, List.map_cons, ih]
  | pointer _ hu => exact hu

section Spelling

variable {B : Bytes} {p : Nat} {T0 : LabelPtrs}

/-- The empty label finds nothing in such a table, nor in the entries made for the longer keys
of the same name. -/
theorem TableBelow.root_miss {N : LabelPtrs} (hT0 : TableBelow B p T0)
    (hN : ∀ K t, (K, t) ∈ N → (labelKey ([] ++ [[]])).length < K.length) :
    hitOf (N ++ T0) [[]] = none :=
  (hitOf_append_of_short hN).trans (hitOf_root fun K t hm ht => (hT0 K t hm ht).1.1)

/-- `pack_name`'s loop, from the labels `rest` and the empty one on, at offset `p` of `B`: with a
table `T0` whose live entries `B` bears out below `p`, and the entries `N` already made for longer
keys of this name, it returns, writing a pointer only to an entry of `T0`. When its bytes stand at
`p` in `B`, `B` spells them as labels that copy `rest`, and the entries it made lie at offsets of
those bytes, where `B` spells their keys. -/
theorem packLabels_spells (hT0 : TableBelow B p T0) :
    ∀ {rest : List Bytes} {buf : Bytes} {N : LabelPtrs}, GoodLabels rest →
      (∀ K t, (K, t) ∈ N → (labelKey (rest ++ [[]])).length < K.length) →
      ∃ out T', packLabels p (rest ++ [[]]) buf (N ++ T0) = .ok out T' ∧ (WrittenAt B p out →
        ∃ ls N', T' = N' ++ N ++ T0 ∧
          (∀ K t, (K, t) ∈ N' →
            p + buf.length ≤ t ∧ t < p + out.length ∧ 1 < K.length ∧ Spelt B K t) ∧
          Spells B p (p + buf.length) ls (p + out.length) ∧ GoodLabels ls ∧ Copies T0 rest ls)
  | [], buf, N, _, hN => by
    refine ⟨_, _, by rw [List.nil_append, packLabels_root (hT0.root_miss hN)], fun hw => ?_⟩
    refine ⟨[], [], by simp, fun _ _ h => (List.not_mem_nil _ h).elim, ?_,
      fun _ h => (List.not_mem_nil _ h).elim, .root⟩
    rw [List.length_append, List.length_singleton, ← Nat.add_assoc]
    exact .root (WrittenAt.right (b := [0]) hw).getElem
  | l :: rest, buf, N, hg, hN => by
    obtain ⟨⟨hl0, hl64, -, -⟩, hrest⟩ := hg.cons
    rw [List.cons_append]
    have hkey : labelKey (l :: (rest ++ [[]])) = labelKey (l :: rest ++ [[]]) := rfl
    cases hlk : hitOf T0 (l :: rest ++ [[]]) with
    | some ptr =>
      obtain ⟨hmem, hne⟩ := mem_of_hitOf hlk
      obtain ⟨⟨-, hpos, hlt, ls, e, hsp, hgl, hk⟩, hbelow⟩ := hT0 _ _ hmem hne
      obtain ⟨hi, lo, hpp, hhi, hval⟩ := packPointer_ok hpos.le hlt
      rw [packLabels_hit (show hitOf (N ++ T0) (l :: (rest ++ [[]])) = some ptr from
        (hitOf_append_of_short hN).trans hlk), hpp]
      refine ⟨_, _, rfl, fun hw => ⟨ls, [], by simp, fun _ _ h => (List.not_mem_nil _ h).elim, ?_,
        hgl, .pointer (by rw [hlk]; rfl) (labelKey_inj hgl hg hk)⟩⟩
      have hw' := hw.right (a := buf)
      have he : p + (buf ++ [hi, lo]).length = p + buf.length + 2 := by simp; omega
      rw [he]
      exact .pointer hi lo hw'.getElem (hw'.right (a := [hi]) (b := [lo])).getElem hhi hval
        (by omega) hsp
    | none =>
      obtain ⟨b, hpk, hb⟩ := packUInt_length_octet hl64
      rw [packLabels_miss (show hitOf (N ++ T0) (l :: (rest ++ [[]])) = none from
        (hitOf_append_of_short hN).trans hlk), hpk, ← List.append_assoc]
      set new := keyEntry p buf.length (labelKey (l :: (rest ++ [[]])))
      have hlen := length_labelKey_cons l rest
      obtain ⟨out, T', h, hspells⟩ := packLabels_spells hT0 (N := new ++ N) hrest fun K t hm => by
        rcases List.mem_append.mp hm with hm | hm
        · cases (mem_keyEntry.mp hm).1; rw [hkey]; omega
        · have := hN K t hm; omega
      refine ⟨out, T', h, fun hw => ?_⟩
      obtain ⟨ls, N', rfl, hent, hsp, hgl, hcop⟩ := hspells hw
      have hwl : WrittenAt B p (buf ++ b :: l) := by simpa using (packLabels_extends h).trans hw
      have hout := (packLabels_extends h).length_le
      simp only [List.length_append, List.length_singleton, List.length_cons] at hout
      have hw' : WrittenAt B (p + buf.length) (b :: l) := hwl.right
      have hsp' : Spells B p (p + buf.length) (l :: ls) (p + out.length) :=
        .label b hw'.getElem hb hl0 hl64 (by simpa [Nat.add_assoc] using
          (hw'.right (a := [b]) (b := l)).take_eq) (by
          rwa [show p + buf.length + 1 + l.length = p + (buf ++ [b] ++ l).length by simp; omega])
      have hgl' : GoodLabels (l :: ls) := hg.of_cons hgl
      have hkeq : labelKey (l :: ls ++ [[]]) = labelKey (l :: rest ++ [[]]) :=
        labelKey_congr (Copies.label hlk hcop).upper
      refine ⟨l :: ls, N' ++ new, by simp, fun K t hm => ?_, hsp', hgl', .label hlk hcop⟩
      rcases List.mem_append.mp hm with hm | hm
      · obtain ⟨h1, h2, hK⟩ := hent K t hm
        simp only [List.length_append, List.length_singleton] at h1
        exact ⟨by omega, h2, hK⟩
      · obtain ⟨he, hK, -⟩ := mem_keyEntry.mp hm
        obtain ⟨rfl, rfl⟩ := Prod.mk.inj he
        refine ⟨le_rfl, by omega, hK, l :: ls, p + out.length, ?_, hgl', hkeq⟩
        simpa using hsp'.mono (Nat.le_add_right p buf.length)

end Spelling

/-! ### `pack_name` on a name -/

/-- The labels of the encoded name `n` before the empty one: none for the empty name, its
dot-separated parts otherwise. -/
def nameParts (n : Bytes) : List Bytes := if n ≠ [] then splitDot n else []

/-- Labels equal up to ASCII case take the same encoded length. -/
theorem wireLength_congr {a b : List Bytes} (h : a.map bytesUpper = b.map bytesUpper) :
    wireLength a = wireLength b := by
  have hw : ∀ c : List Bytes, wireLength c = ((c.map bytesUpper).map (·.length + 1)).sum := by
    intro c
    simp only [wireLength, List.map_map, Function.comp_def, length_bytesUpper]
  rw [hw, hw b, h]

/-- Good labels joined with dots split back into themselves. -/
theorem nameParts_joinDot {ls : List Bytes} (h : GoodLabels ls) : nameParts (joinDot ls) = ls := by
  cases ls with
  | nil => rfl
  | cons l ls =>
    have hs := splitDot_joinDot (List.cons_ne_nil l ls) fun x hx => (h x hx).2.2.1
    have hne : joinDot (l :: ls) ≠ [] := fun e => by
      rw [e] at hs
      obtain ⟨rfl, -⟩ := List.cons.inj hs
      exact absurd (h [] (List.mem_cons_self _ _)).1 (by decide)
    rw [nameParts, if_pos hne, hs]

/-- Where the bytes `b` of `pack_name` stay at `off`, after every suffix its table would point at,
`B` spells there good labels that copy the name's against the table, and `unpack_name` reads them
back as one name that ends at `off + len(b)`. -/
theorem packName_spells {B b n : Bytes} {off : Nat} {T T' : LabelPtrs}
    (hg : GoodLabels (nameParts n)) (hl : wireLength (nameParts n) ≤ 255) (hT : TableBelow B off T)
    (h : packName (.str n) off T = .ok b T') (hw : WrittenAt B off b) :
    ∃ ls, Copies T (nameParts n) ls ∧ GoodLabels ls ∧ Spells B off off ls (off + b.length) ∧
      unpackName B off = .ok (joinDot ls, off + b.length) := by
  obtain ⟨_, _, hpk, hspells⟩ := packLabels_spells hT hg (N := [])
    fun _ _ h => (List.not_mem_nil _ h).elim
  obtain ⟨rfl, rfl⟩ := EStateM.Result.ok.inj (h.symm.trans hpk)
  obtain ⟨ls, -, -, -, hsp, hgl, hcop⟩ := hspells hw
  have hsp' : Spells B off off ls (off + b.length) := by simpa using hsp
  exact ⟨ls, hcop, hgl, hsp', unpackName_of_spells hsp' (wireLength_congr hcop.upper ▸ hl)
    (utf8Valid_joinDot fun l hm => (hgl l hm).2.2.2)⟩

/-- `pack_name` on a name of good labels that takes at most 255 encoded bytes, at an offset `off`
of the message `B` after every suffix its table would point at: it returns bytes `b`, and with `b`
at `off`, `B` spells there the name's labels up to ASCII case, which `unpack_name` reads back as
one name that ends at `off + len(b)`. -/
theorem packName_reads_back {B n : Bytes} {off : Nat} {T : LabelPtrs}
    (hg : GoodLabels (nameParts n)) (hl : wireLength (nameParts n) ≤ 255)
    (hT : TableBelow B off T) :
    ∃ b T', packName (.str n) off T = .ok b T' ∧
      (WrittenAt B off b → ∃ ls, Spells B off off ls (off + b.length) ∧
        ls.map bytesUpper = (nameParts n).map bytesUpper ∧
        unpackName B off = .ok (joinDot ls, off + b.length)) := by
  obtain ⟨b, T', hpk, -⟩ := packLabels_spells hT hg (N := []) fun _ _ h => (List.not_mem_nil _ h).elim
  refine ⟨b, T', hpk, fun hw => ?_⟩
  obtain ⟨ls, hcop, -, hsp, hu⟩ := packName_spells hg hl hT hpk hw
  exact ⟨ls, hsp, hcop.upper, hu⟩

/-- The name `x.a.b` at offset 17, after a twelve-byte header and the name `a.b` at 12, which the
table holds under the key `A.B.`: `pack_name` writes the label `x` and a pointer to 12. -/
theorem packName_reads_back_pointer :
    (packName (.str [0x78, 0x2e, 0x61, 0x2e, 0x62]) 17).run' [([0x41, 0x2e, 0x42, 0x2e], 12)] =
        some [1, 0x78, 0xc0, 12] ∧
      GoodLabels (nameParts [0x78, 0x2e, 0x61, 0x2e, 0x62]) ∧
      wireLength (nameParts [0x78, 0x2e, 0x61, 0x2e, 0x62]) ≤ 255 ∧
      TableBelow (List.replicate 12 0 ++ [1, 0x61, 1, 0x62, 0, 1, 0x78, 0xc0, 12]) 17
        [([0x41, 0x2e, 0x42, 0x2e], 12)] ∧
      ∃ b T', packName (.str [0x78, 0x2e, 0x61, 0x2e, 0x62]) 17 [([0x41, 0x2e, 0x42, 0x2e], 12)] =
          .ok b T' ∧
        (WrittenAt (List.replicate 12 0 ++ [1, 0x61, 1, 0x62, 0, 1, 0x78, 0xc0, 12]) 17 b →
          ∃ ls, Spells (List.replicate 12 0 ++ [1, 0x61, 1, 0x62, 0, 1, 0x78, 0xc0, 12]) 17 17 ls
              (17 + b.length) ∧
            ls.map bytesUpper = (nameParts [0x78, 0x2e, 0x61, 0x2e, 0x62]).map bytesUpper ∧
            unpackName (List.replicate 12 0 ++ [1, 0x61, 1, 0x62, 0, 1, 0x78, 0xc0, 12]) 17 =
              .ok (joinDot ls, 17 + b.length)) := by
  have hT : TableBelow (List.replicate 12 0 ++ [1, 0x61, 1, 0x62, 0, 1, 0x78, 0xc0, 12]) 17
      [([0x41, 0x2e, 0x42, 0x2e], 12)] := fun K t hm _ => by
    obtain ⟨rfl, rfl⟩ := Prod.mk.inj (List.mem_singleton.mp hm)
    exact ⟨⟨by decide, by decide, by decide, [[0x61], [0x62]], _,
      .label 1 rfl rfl (by decide) (by decide) rfl (.label 1 rfl rfl (by decide) (by decide) rfl
        (.root rfl)), by decide, by decide⟩, by decide⟩
  exact ⟨by decide, by decide, by decide, hT, packName_reads_back (by decide) (by decide) hT⟩

set_option maxRecDepth 20000 in
/-- Names that `pack_name` writes and `unpack_name` does not read back as a name that ends where
they do: `a..b` and `a.`, whose empty label ends the name early, a label of 64 bytes, whose length
octet is not a length, and four labels of 63 bytes, 256 encoded bytes. -/
theorem packName_misparses :
    (packName (.str [0x61, 0x2e, 0x2e, 0x62]) 0).run' [] = some [1, 0x61, 0, 1, 0x62, 0] ∧
      unpackName [1, 0x61, 0, 1, 0x62, 0] 0 = .ok ([0x61], 3) ∧
    (packName (.str [0x61, 0x2e]) 0).run' [] = some [1, 0x61, 0, 0] ∧
      unpackName [1, 0x61, 0, 0] 0 = .ok ([0x61], 3) ∧
    (packName (.str (List.replicate 64 0x61)) 0).run' [] = some (64 :: List.replicate 64 0x61 ++ [0]) ∧
      unpackName (64 :: List.replicate 64 0x61 ++ [0]) 0 =
        .error (.unpackError "Invalid label length 40") ∧
    (packName (.str (joinDot (List.replicate 4 (List.replicate 63 0x61)))) 0).run' [] =
      some ((List.replicate 4 (63 :: List.replicate 63 0x61)).flatten ++ [0]) ∧
      unpackName ((List.replicate 4 (63 :: List.replicate 63 0x61)).flatten ++ [0]) 0 =
        .error (.unpackError "name longer than 255 bytes") :=
  ⟨by decide, by decide, by decide, by decide, by decide, by decide, by decide, by decide⟩

end DpktGtpc.Dns
