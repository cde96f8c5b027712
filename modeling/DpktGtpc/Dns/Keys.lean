import DpktGtpc.Dns.Compress

/-! The keys of `label_ptrs`, and `pack_name` against two tables. `pack_name` looks up a name's
suffixes longest first and stops at the first one with an entry, entering the ones before it. So a
table whose keys are the suffix keys of the names written against it keeps that form, and a key a
name enters is a key of no earlier name. And `pack_name` reads the table only through those
lookups: against a second table that answers them alike, it writes the same bytes and makes the
same entries. -/

namespace DpktGtpc.Dns

/-! ### Suffix keys -/

/-- The keys of the suffixes of the labels `ls` that still hold a label, longest first. -/
def suffixKeys : List Bytes → List Bytes
  | [] => []
  | l :: ls => labelKey (l :: ls ++ [[]]) :: suffixKeys ls

theorem suffixKeys_congr : ∀ {a b : List Bytes}, a.map bytesUpper = b.map bytesUpper →
    suffixKeys a = suffixKeys b
  | [], [], _ => rfl
  | _ :: _, _ :: _, h => by
    rw [suffixKeys, suffixKeys, labelKey_congr h, suffixKeys_congr (List.cons.inj h).2]
  | [], _ :: _, h => nomatch h
  | _ :: _, [], h => nomatch h

theorem one_lt_of_mem_suffixKeys : ∀ {n : List Bytes} {K : Bytes}, GoodLabels n →
    K ∈ suffixKeys n → 1 < K.length
  | _ :: _, _, hn, h => by
    rcases List.mem_cons.mp h with rfl | h
    · exact one_lt_length_labelKey hn.cons.1.1
    · exact one_lt_of_mem_suffixKeys hn.cons.2 h

/-- Labels whose key is among the suffix keys of good labels `n` have all their suffix keys among
`n`'s. -/
theorem suffixKeys_subset {n rest : List Bytes} (hn : GoodLabels n) (hr : GoodLabels rest)
    (h : labelKey (rest ++ [[]]) ∈ suffixKeys n) : ∀ K ∈ suffixKeys rest, K ∈ suffixKeys n := by
  induction n with
  | nil => exact absurd h (List.not_mem_nil _)
  | cons x n ih =>
    rcases List.mem_cons.mp h with h | h
    · rw [suffixKeys_congr (labelKey_inj hr hn h)]
      exact fun K hK => hK
    · exact fun K hK => List.mem_cons_of_mem _ (ih hn.cons.2 h K hK)

/-! ### The keys a table holds -/

/-- The keys of `T` are the suffix keys of the labels `D` of the names written against it. -/
def Keyed (T : LabelPtrs) (D : List (List Bytes)) : Prop :=
  ∀ K, K ∈ T.map Prod.fst ↔ ∃ n ∈ D, K ∈ suffixKeys n

/-- A key that finds nothing in a table of truthy offsets has no entry there. -/
theorem labelKey_not_mem_of_hitOf {T : LabelPtrs} {ls : List Bytes}
    (hT : ∀ K t, (K, t) ∈ T → t ≠ 0) (h : hitOf T ls = none) : labelKey ls ∉ T.map Prod.fst := by
  intro hm
  obtain ⟨⟨_, t⟩, hm, rfl⟩ := List.mem_map.mp hm
  cases hl : T.lookup (labelKey ls) with
  | none =>
    have := List.lookup_eq_none_iff.mp hl
    simp only [bne_iff_ne, ne_eq] at this
    exact this _ hm rfl
  | some t' =>
    obtain ⟨l₁, l₂, hT', -⟩ := List.lookup_eq_some_iff.mp hl
    have ht' := hT (labelKey ls) t' (by rw [hT']; simp)
    simp [hitOf, hl, ht'] at h

section Entering

variable {p : Int} {T : LabelPtrs} {D : List (List Bytes)}

/-- `pack_name`'s loop over `rest` and the empty label, against a table of truthy offsets keyed by
the good names `D`, with the entries `N` already made for longer keys: the keys it enters are
suffix keys of `rest` that `T` lacks, and every suffix key of `rest` ends up with an entry,
provided it writes below `0xc000`. -/
theorem packLabels_keys (hT : ∀ K t, (K, t) ∈ T → t ≠ 0) (hD : ∀ n ∈ D, GoodLabels n)
    (hK : Keyed T D) :
    ∀ {rest : List Bytes} {buf out : Bytes} {N T' : LabelPtrs}, GoodLabels rest →
      (∀ K t, (K, t) ∈ N → (labelKey (rest ++ [[]])).length < K.length) →
      p + out.length ≤ 0xc000 → packLabels p (rest ++ [[]]) buf (N ++ T) = .ok out T' →
      ∃ N', T' = N' ++ N ++ T ∧ (∀ K t, (K, t) ∈ N' → K ∈ suffixKeys rest ∧ K ∉ T.map Prod.fst) ∧
        ∀ K ∈ suffixKeys rest, K ∈ N'.map Prod.fst ∨ K ∈ T.map Prod.fst
  | [], buf, out, N, T', _, hN, _, h => by
    have hroot : hitOf T [[]] = none := hitOf_root fun K t hm _ => by
      obtain ⟨n, hn, hKn⟩ := (hK K).mp (List.mem_map.mpr ⟨_, hm, rfl⟩)
      exact one_lt_of_mem_suffixKeys (hD n hn) hKn
    rw [List.nil_append, packLabels_root ((hitOf_append_of_short
      (by simpa [labelKey_root] using hN)).trans hroot)] at h
    cases h
    exact ⟨[], by simp, fun _ _ h => absurd h (List.not_mem_nil _),
      fun _ h => absurd h (List.not_mem_nil _)⟩
  | l :: rest, buf, out, N, T', hg, hN, hle, h => by
    obtain ⟨⟨hl0, hl64, -, -⟩, hrest⟩ := hg.cons
    rw [List.cons_append] at h
    cases hlk : hitOf T (l :: rest ++ [[]]) with
    | some ptr =>
      rw [packLabels_hit (show hitOf (N ++ T) (l :: (rest ++ [[]])) = some ptr from
        (hitOf_append_of_short hN).trans hlk)] at h
      split at h <;> cases h
      refine ⟨[], by simp, fun _ _ h => absurd h (List.not_mem_nil _), fun K hKr => .inr ?_⟩
      obtain ⟨n, hn, hkn⟩ := (hK _).mp (List.mem_map.mpr ⟨_, (mem_of_hitOf hlk).1, rfl⟩)
      exact (hK K).mpr ⟨n, hn, suffixKeys_subset (hD n hn) hg hkn K hKr⟩
    | none =>
      obtain ⟨b, hpk, -⟩ := packUInt_length_octet hl64
      rw [packLabels_miss (show hitOf (N ++ T) (l :: (rest ++ [[]])) = none from
        (hitOf_append_of_short hN).trans hlk), hpk, ← List.append_assoc] at h
      have hout := (packLabels_extends h).length_le
      simp only [List.length_append, List.length_singleton] at hout
      have hnew : keyEntry p buf.length (labelKey (l :: (rest ++ [[]]))) =
          [(labelKey (l :: rest ++ [[]]), p + buf.length)] :=
        if_pos ⟨one_lt_length_labelKey hl0, by omega⟩
      rw [hnew] at h
      have hlen := length_labelKey_cons l rest
      obtain ⟨N', rfl, hent, hcov⟩ := packLabels_keys hT hD hK hrest (fun K t hm => by
          rcases List.mem_append.mp hm with hm | hm
          · cases List.mem_singleton.mp hm; omega
          · have := hN K t hm; omega) hle h
      refine ⟨N' ++ [(labelKey (l :: rest ++ [[]]), p + buf.length)], by simp, fun K t hm => ?_,
        fun K hKr => ?_⟩
      · rcases List.mem_append.mp hm with hm | hm
        · exact ⟨List.mem_cons_of_mem _ (hent K t hm).1, (hent K t hm).2⟩
        · obtain ⟨rfl, rfl⟩ := Prod.mk.inj (List.mem_singleton.mp hm)
          exact ⟨List.mem_cons_self _ _, labelKey_not_mem_of_hitOf hT hlk⟩
      · rcases List.mem_cons.mp hKr with rfl | hKr
        · exact .inl (by simp)
        · exact (hcov K hKr).imp (fun h => by simp [h]) id

/-- `pack_name` on a name of good labels, against a table of truthy offsets keyed by the good names
`D`, writing below `0xc000`: it enters suffix keys of the name that the table lacks, and leaves a
table keyed by the name and `D`. -/
theorem packName_keys {n b : Bytes} {T' : LabelPtrs} (hT : ∀ K t, (K, t) ∈ T → t ≠ 0)
    (hD : ∀ n ∈ D, GoodLabels n) (hK : Keyed T D) (hg : GoodLabels (nameParts n))
    (hle : p + b.length ≤ 0xc000) (h : packName (.str n) p T = .ok b T') :
    ∃ X, T' = X ++ T ∧ (∀ K t, (K, t) ∈ X → K ∈ suffixKeys (nameParts n) ∧ K ∉ T.map Prod.fst) ∧
      Keyed T' (nameParts n :: D) := by
  have h' : packLabels p (nameParts n ++ [[]]) [] ([] ++ T) = .ok b T' := h
  obtain ⟨X, rfl, hX, hcov⟩ := packLabels_keys hT hD hK hg
    (fun _ _ h => (List.not_mem_nil _ h).elim) hle h'
  refine ⟨X, by simp, hX, fun K => ?_⟩
  simp only [List.append_nil, List.map_append, List.mem_append, List.mem_cons, exists_eq_or_imp,
    ← hK K]
  constructor
  · rintro (hx | ht)
    · obtain ⟨⟨K', t⟩, hm, rfl⟩ := List.mem_map.mp hx
      exact .inl (hX K' t hm).1
    · exact .inr ht
  · rintro (hs | ht)
    · exact hcov K hs
    · exact .inr ht

end Entering

/-! ### Two tables that answer alike -/

section Lockstep

variable {p : Int} {T1 T2 : LabelPtrs}

/-- Labels with the same key find the same in two tables that answer that key alike. -/
theorem hitOf_eq_of_lookup {ls ls' : List Bytes} (hk : labelKey ls = labelKey ls')
    (h : T1.lookup (labelKey ls') = T2.lookup (labelKey ls')) : hitOf T2 ls = hitOf T1 ls' := by
  show (T2.lookup (labelKey ls)).filter _ = (T1.lookup (labelKey ls')).filter _
  rw [hk, h]

/-- `pack_name`'s loop over labels `ls` that copy `rest` against `T1`, run against a table `T2`
that answers every suffix key of `rest` as `T1` does, writes what the loop over `rest` writes
against `T1`, and makes the same entries. -/
theorem packLabels_lockstep {rest ls : List Bytes} (hc : Copies T1 rest ls)
    (hk : ∀ K ∈ suffixKeys rest, T1.lookup K = T2.lookup K)
    (h1 : hitOf T1 [[]] = none) (h2 : hitOf T2 [[]] = none) :
    ∀ {buf out : Bytes} {N T1' : LabelPtrs},
      (∀ K t, (K, t) ∈ N → (labelKey (rest ++ [[]])).length < K.length) →
      packLabels p (rest ++ [[]]) buf (N ++ T1) = .ok out T1' →
      ∃ X, T1' = X ++ N ++ T1 ∧ packLabels p (ls ++ [[]]) buf (N ++ T2) = .ok out (X ++ N ++ T2) := by
  induction hc with
  | root =>
    intro buf out N T1' hN h
    have hN' : ∀ K t, (K, t) ∈ N → (labelKey [[]]).length < K.length := by simpa using hN
    rw [List.nil_append, packLabels_root ((hitOf_append_of_short hN').trans h1)] at h
    cases h
    exact ⟨[], by simp, by
      rw [List.nil_append, packLabels_root ((hitOf_append_of_short hN').trans h2)]; rfl⟩
  | @label l rest ls hl _ ih =>
    intro buf out N T1' hN h
    have hkey : labelKey (l :: (ls ++ [[]])) = labelKey (l :: (rest ++ [[]])) :=
      labelKey_congr (Copies.label hl ‹_›).upper
    have hl2 : hitOf T2 (l :: (ls ++ [[]])) = none :=
      (hitOf_eq_of_lookup hkey (hk _ (List.mem_cons_self _ _))).trans hl
    have hlen : (labelKey (l :: (rest ++ [[]]))).length = _ := length_labelKey_cons l rest
    replace hN : ∀ K t, (K, t) ∈ N → (labelKey (l :: (rest ++ [[]]))).length < K.length := hN
    rw [List.cons_append, packLabels_miss (show hitOf (N ++ T1) (l :: (rest ++ [[]])) = none from
      (hitOf_append_of_short hN).trans hl)] at h
    rw [List.cons_append, packLabels_miss ((hitOf_append_of_short (hkey ▸ hN)).trans hl2), hkey]
    split at h
    · rw [← List.append_assoc]
      rw [← List.append_assoc] at h
      obtain ⟨X, rfl, h'⟩ := ih (fun K hK => hk K (List.mem_cons_of_mem _ hK)) (fun K t hm => by
          rcases List.mem_append.mp hm with hm | hm
          · cases (mem_keyEntry.mp hm).1; omega
          · have := hN K t hm; omega) h
      exact ⟨X ++ keyEntry p buf.length (labelKey (l :: (rest ++ [[]]))), by simp, by simpa using h'⟩
    · cases h
  | @pointer rest ls hs hu =>
    intro buf out N T1' hN h
    obtain ⟨ptr, hptr⟩ := Option.isSome_iff_exists.mp hs
    cases rest with
    | nil => rw [List.nil_append, h1] at hptr; cases hptr
    | cons l0 rest0 =>
      cases ls with
      | nil => cases hu
      | cons l0' ls0 =>
        have hkey : labelKey (l0' :: (ls0 ++ [[]])) = labelKey (l0 :: (rest0 ++ [[]])) :=
          labelKey_congr hu
        have hp2 : hitOf T2 (l0' :: (ls0 ++ [[]])) = some ptr :=
          (hitOf_eq_of_lookup hkey (hk _ (List.mem_cons_self _ _))).trans hptr
        rw [List.cons_append, packLabels_hit (show hitOf (N ++ T1) (l0 :: (rest0 ++ [[]])) = some ptr
          from (hitOf_append_of_short hN).trans hptr)] at h
        rw [List.cons_append, packLabels_hit ((hitOf_append_of_short (hkey ▸ hN)).trans hp2)]
        split at h
        · cases h; exact ⟨[], by simp, rfl⟩
        · cases h

end Lockstep

end DpktGtpc.Dns
