import DpktGtpc.Dns.Keys
import DpktGtpc.Dns.Pointers

/-! Encoding a message, decoding the result, and encoding the decoded message again. `DNS()` reads
back every name, fixed field and `rdata` that `bytes()` wrote, when the message fits below
`0x4000`, where the pointers `pack_name` writes are right. Every decoded record keeps its `rdata`,
so the second `bytes()` takes `pack_rdata`'s verbatim branch and enters only the suffixes of
question and owner names into `label_ptrs`: its table is the first run's cut down to their keys
(`ownedPtrs`). Against it each question and owner name is written as before, by
`packLabels_lockstep`, as long as no suffix of such a name is first written inside `rdata`
(`FreshOrder`). Where a suffix is first written inside `rdata`, the second `bytes()` writes the
owner name in full; and where a decoded `rdata` points into a name the second `bytes()` moves, the
copied pointer lands elsewhere. -/

namespace DpktGtpc

/-- The labels `pack_name` writes for a name before the empty one; none for a `bytes` name, on
which it raises. -/
def PyText.parts : PyText → List Bytes
  | .str n => Dns.nameParts n
  | .bytes _ => []

end DpktGtpc

namespace DpktGtpc.Dns

/-! ### The names in the order `bytes()` writes them -/

/-- The names `pack_rr` writes, in order, each marked when it is written inside `rdata`. -/
def RR.writes (rr : RR) : List (Bool × List Bytes) :=
  (false, rr.name.parts) :: rr.rdataNames.map fun n => (true, n.parts)

/-- The names `bytes()` writes, in order, each marked when it is written inside `rdata`. -/
def DNS.writes (m : DNS) : List (Bool × List Bytes) :=
  m.qd.map (fun q => (false, q.name.parts)) ++ (m.an ++ m.ns ++ m.ar).flatMap RR.writes

/-- The suffix keys of the question and owner names of a message. -/
def DNS.ownerKeys (m : DNS) : List Bytes :=
  (m.qd.map (·.name) ++ (m.an ++ m.ns ++ m.ar).map (·.name)).flatMap fun n => suffixKeys n.parts

/-- Along the names `W` written in order, after names with the labels `D`: each suffix key in `OK`
of a name written inside `rdata` is a suffix key of a name written before it. -/
def FreshOrder (OK : List Bytes) : List (List Bytes) → List (Bool × List Bytes) → Prop
  | _, [] => True
  | D, (r, n) :: W =>
    (r = true → ∀ K ∈ suffixKeys n, K ∈ OK → ∃ d ∈ D, K ∈ suffixKeys d) ∧ FreshOrder OK (n :: D) W

instance instDecidableFreshOrder (OK : List Bytes) :
    (D : List (List Bytes)) → (W : List (Bool × List Bytes)) → Decidable (FreshOrder OK D W)
  | _, [] => isTrue trivial
  | D, (_, n) :: W =>
    have := instDecidableFreshOrder OK (n :: D) W
    inferInstanceAs (Decidable (_ ∧ _))

/-! ### The second run's table -/

/-- The entries of `T` whose keys are in `OK`. -/
def ownedPtrs (OK : List Bytes) (T : LabelPtrs) : LabelPtrs := T.filter fun e => e.1 ∈ OK

section Owned

variable {OK : List Bytes}

theorem ownedPtrs_append (X T : LabelPtrs) :
    ownedPtrs OK (X ++ T) = ownedPtrs OK X ++ ownedPtrs OK T :=
  List.filter_append X T

/-- The entries kept answer every lookup of a key in `OK` as the whole table does. -/
theorem lookup_ownedPtrs {K : Bytes} (hK : K ∈ OK) :
    ∀ T : LabelPtrs, (ownedPtrs OK T).lookup K = T.lookup K
  | [] => rfl
  | (K', t) :: T => by
    have ih := lookup_ownedPtrs hK T
    by_cases h : K' ∈ OK
    · simp [ownedPtrs, List.filter_cons, h, List.lookup_cons] at ih ⊢
      rw [ih]
    · have hne : (K == K') = false := beq_false_of_ne fun e => h (e ▸ hK)
      simp [ownedPtrs, List.filter_cons, h, List.lookup_cons, hne] at ih ⊢
      exact ih

theorem ownedPtrs_of_owned {X : LabelPtrs} (h : ∀ K t, (K, t) ∈ X → K ∈ OK) : ownedPtrs OK X = X :=
  List.filter_eq_self.mpr fun e he => decide_eq_true (h e.1 e.2 he)

theorem ownedPtrs_of_unowned {X : LabelPtrs} (h : ∀ K t, (K, t) ∈ X → K ∉ OK) :
    ownedPtrs OK X = [] :=
  List.filter_eq_nil_iff.mpr fun e he => by simpa using h e.1 e.2 he

theorem TableUpTo.ownedPtrs {B : Bytes} {cur : Nat} {T : LabelPtrs} (h : TableUpTo B cur T) :
    TableUpTo B cur (ownedPtrs OK T) :=
  fun K t hm => h K t (List.mem_of_mem_filter hm)

end Owned

/-! ### The names written so far -/

/-- After names with the labels `D` were written against `T`, with `W` still to come: `T` is keyed
by `D`, and from here on no suffix key in `OK` is first written inside `rdata`. -/
def Done (OK : List Bytes) (T : LabelPtrs) (W : List (Bool × List Bytes)) : Prop :=
  ∃ D, Keyed T D ∧ (∀ d ∈ D, GoodLabels d) ∧ FreshOrder OK D W

theorem Done.nil {OK : List Bytes} {W : List (Bool × List Bytes)} (h : FreshOrder OK [] W) :
    Done OK [] W :=
  ⟨[], fun _ => by simp, fun _ h => (List.not_mem_nil _ h).elim, h⟩

section Names

variable {OK : List Bytes} {B b : Bytes} {name : PyText} {off : Nat} {T T' : LabelPtrs}
  {r : Bool} {W : List (Bool × List Bytes)}

/-- `pack_name` enters suffix keys of the name that the table lacked, none of them in `OK` when the
name is written inside `rdata`; the names still to come keep their order. -/
theorem packName_done (hn : GoodName name) (hT : ∀ K t, (K, t) ∈ T → t ≠ 0)
    (hle : off + b.length ≤ 0xc000) (h : packName name off T = .ok b T')
    (hd : Done OK T ((r, name.parts) :: W)) :
    ∃ X, T' = X ++ T ∧ (∀ K t, (K, t) ∈ X → K ∈ suffixKeys name.parts ∧ (r = true → K ∉ OK)) ∧
      Done OK T' W := by
  cases name with
  | bytes _ => cases h
  | str n =>
    obtain ⟨D, hK, hD, hfresh, hf⟩ := hd
    obtain ⟨X, rfl, hX, hK'⟩ := packName_keys hT hD hK hn.1 (by exact_mod_cast hle) h
    refine ⟨X, rfl, fun K t hm => ⟨(hX K t hm).1, fun hr hO => ?_⟩, _, hK',
      fun d hd' => (List.mem_cons.mp hd').elim (· ▸ hn.1) (hD d), hf⟩
    obtain ⟨d, hd', hKd⟩ := hfresh hr K (hX K t hm).1 hO
    exact (hX K t hm).2 ((hK K).mpr ⟨d, hd', hKd⟩)

variable (hn : GoodName name) (h0 : 0 < off) (hT : TableUpTo B off T) (hle : off + b.length ≤ 0x4000)
  (h : packName name off T = .ok b T') (hw : WrittenAt B off b)
include hn h0 hT hle h hw

/-- A question or owner name written at `off`: `unpack_name` reads back labels that the second run
writes against the entries kept of the table as the first run wrote the name. -/
theorem packName_owner (hok : ∀ K ∈ suffixKeys name.parts, K ∈ OK)
    (hd : Done OK T ((false, name.parts) :: W)) :
    ∃ ls, unpackName B off = .ok (joinDot ls, off + b.length) ∧
      packName (.str (joinDot ls)) off (ownedPtrs OK T) = .ok b (ownedPtrs OK T') ∧
      TableUpTo B (off + b.length) T' ∧ Done OK T' W := by
  have hTpos : ∀ K t, (K, t) ∈ T → t ≠ 0 := fun K t hm => (hT K t hm).1.ne'
  obtain ⟨X, hX, hXk, hd'⟩ := packName_done hn hTpos (by omega) h hd
  cases name with
  | bytes _ => cases h
  | str n =>
    have hB := hT.below (by omega)
    obtain ⟨ls, hcop, hgl, -, hu⟩ := packName_spells hn.1 hn.2 hB h hw
    have h1 : hitOf T [[]] = none := hitOf_root fun K t hm ht => (hB K t hm ht).1.1
    have h2 : hitOf (ownedPtrs OK T) [[]] = none :=
      hitOf_root fun K t hm ht => (hB K t (List.mem_of_mem_filter hm) ht).1.1
    have h' : packLabels off (nameParts n ++ [[]]) [] ([] ++ T) = .ok b T' := h
    obtain ⟨X', hX', h2'⟩ := packLabels_lockstep hcop
      (fun K hK => (lookup_ownedPtrs (hok K hK) T).symm) h1 h2
      (fun _ _ h => (List.not_mem_nil _ h).elim) h'
    obtain rfl : X' = X := by simpa using hX'.symm.trans hX
    refine ⟨ls, hu, ?_, packName_table hn h0 hT h hw, hd'⟩
    rw [hX, ownedPtrs_append, ownedPtrs_of_owned fun K t hm => hok K (hXk K t hm).1]
    show packLabels off (nameParts (joinDot ls) ++ [[]]) [] ([] ++ ownedPtrs OK T) = _
    rw [nameParts_joinDot hgl, h2']
    simp

/-- A name written inside `rdata` at `off`: `unpack_name` reads a name there that ends where the
bytes do, and the table gains no entry the second run keeps. -/
theorem packName_rdata (hd : Done OK T ((true, name.parts) :: W)) :
    (∃ s, unpackName B off = .ok (s, off + b.length)) ∧ 0 < b.length ∧
      ownedPtrs OK T' = ownedPtrs OK T ∧ TableUpTo B (off + b.length) T' ∧ Done OK T' W := by
  have hTpos : ∀ K t, (K, t) ∈ T → t ≠ 0 := fun K t hm => (hT K t hm).1.ne'
  obtain ⟨X, rfl, hXk, hd'⟩ := packName_done hn hTpos (by omega) h hd
  cases name with
  | bytes _ => cases h
  | str n =>
    obtain ⟨ls, -, -, hsp, hu⟩ := packName_spells hn.1 hn.2 (hT.below (by omega)) h hw
    have := hsp.lt_end
    refine ⟨⟨_, hu⟩, by omega, ?_, packName_table hn h0 hT h hw, hd'⟩
    rw [ownedPtrs_append, ownedPtrs_of_unowned fun K t hm => (hXk K t hm).2 rfl, List.nil_append]

end Names

/-! ### One record's data -/

section Rdata

variable {OK : List Bytes} {B r : Bytes} {off : Nat} {T T' : LabelPtrs} {W : List (Bool × List Bytes)}

/-- `pack_rdata` on a record without `rdata`, at the offset `off` of `B` where its bytes `r` stay:
on a record that holds `r` as `rdata`, `unpack_rdata` returns one with the same fixed fields, on
which `pack_rdata` returns `r` at any offset and against any table; and the names written inside
`r` enter no entry the second run keeps. -/
theorem packRdata_twin {rr rr0 : RR} (hr : rr.rdata = []) (hn : ∀ n ∈ rr.rdataNames, GoodName n)
    (h0 : 0 < off) (hT : TableUpTo B off T) (hle : off + r.length ≤ 0x4000)
    (h : rr.packRdata off T = .ok r T') (hw : WrittenAt B off r)
    (hd : Done OK T (rr.rdataNames.map (fun n => (true, n.parts)) ++ W))
    (ht : rr0.type = rr.type) (hrd : rr0.rdata = r) :
    (∃ rr1, rr0.unpackRdata B off = .ok rr1 ∧ rr1.name = rr0.name ∧ rr1.type = rr0.type ∧
      rr1.cls = rr0.cls ∧ rr1.ttl = rr0.ttl ∧ ∀ o S, rr1.packRdata o S = .ok r S) ∧
    ownedPtrs OK T' = ownedPtrs OK T ∧ Done OK T' W := by
  -- a decoded record that keeps a nonempty `rdata` packs it verbatim
  have verbatim : 0 < r.length → (∃ rr1, rr0.unpackRdata B off = .ok rr1 ∧ rr1.name = rr0.name ∧
      rr1.type = rr0.type ∧ rr1.cls = rr0.cls ∧ rr1.ttl = rr0.ttl ∧ rr1.rdata = rr0.rdata) →
      ∃ rr1, rr0.unpackRdata B off = .ok rr1 ∧ rr1.name = rr0.name ∧ rr1.type = rr0.type ∧
        rr1.cls = rr0.cls ∧ rr1.ttl = rr0.ttl ∧ ∀ o S, rr1.packRdata o S = .ok r S :=
    fun hp ⟨rr1, hu, e1, e2, e3, e4, e5⟩ => ⟨rr1, hu, e1, e2, e3, e4, fun o S => by
      rw [RR.packRdata_of_ne (by rw [e5, hrd]; exact List.ne_nil_of_length_pos hp), e5, hrd]⟩
  rcases RR.packRdata_cases h with ⟨c, -, -⟩ | ⟨-, ⟨hx, rfl⟩ | ⟨n, hx, hp⟩ |
      ⟨c, mn, rn, mb, rb, ints, T₁, hm, hrn, hmb, hrb, hi, rfl⟩ |
      ⟨c, p, n, pb, nb, -, hpb, hx, hnb, rfl⟩ | ⟨c, hx, rfl, rfl⟩ | ⟨c, n, ib, nb, hib, hx, hnb, rfl⟩ |
      ⟨c, rfl, rfl⟩⟩
  · exact absurd hr c
  · -- A and AAAA: the address is `rdata`
    rw [RR.rdataNames_of_unnamed hr (by rcases hx with ⟨c, -⟩ | ⟨c, -⟩ <;> simp [c]), List.map_nil,
      List.nil_append] at hd
    refine ⟨?_, rfl, hd⟩
    rcases hx with ⟨c, -⟩ | ⟨c, -⟩
    · refine ⟨{ rr0 with ip := some r }, by simp [RR.unpackRdata, ht, c, hrd], rfl, rfl, rfl, rfl,
        fun o S => ?_⟩
      by_cases hr0 : r = []
      · subst hr0; simp [RR.packRdata, hrd, ht, c, attr]
      · rw [RR.packRdata_of_ne (by simpa [hrd] using hr0)]; simp [hrd]
    · refine ⟨{ rr0 with ip6 := some r }, by
        simp [RR.unpackRdata, ht, c, hrd, DNS_A, DNS_NS, DNS_CNAME, DNS_PTR, DNS_SOA, DNS_MX,
          DNS_TXT, DNS_HINFO, DNS_AAAA], rfl, rfl, rfl, rfl, fun o S => ?_⟩
      by_cases hr0 : r = []
      · subst hr0
        simp [RR.packRdata, hrd, ht, c, attr, DNS_A, DNS_NS, DNS_CNAME, DNS_PTR, DNS_SOA, DNS_MX,
          DNS_TXT, DNS_HINFO, DNS_AAAA]
      · rw [RR.packRdata_of_ne (by simpa [hrd] using hr0)]; simp [hrd]
  · -- NS, CNAME, PTR: one name
    have hnames := RR.rdataNames_of_name hr hx
    rw [hnames, List.map_singleton, List.singleton_append] at hd
    obtain ⟨⟨s, hu⟩, hpos, ho, -, hd'⟩ :=
      packName_rdata (hn n (hnames ▸ List.mem_singleton_self n)) h0 hT hle hp hw hd
    refine ⟨verbatim hpos ?_, ho, hd'⟩
    rcases hx with ⟨c, -⟩ | ⟨c, -⟩ | ⟨c, -⟩ <;>
      simp only [RR.unpackRdata, ht, c, hu, except_ok_bind, DNS_A, DNS_NS, DNS_CNAME, DNS_PTR,
        Nat.reduceEqDiff, reduceIte] <;>
      exact ⟨_, rfl, rfl, rfl, rfl, rfl, rfl⟩
  · -- SOA: two names, then five integers
    rw [RR.rdataNames_of_soa hr c hm hrn] at hd hn
    simp only [List.map_cons, List.map_nil, List.cons_append, List.nil_append] at hd
    simp only [List.length_append] at hle
    have hi20 : ints.length = 20 := length_packAttrs hi
    obtain ⟨⟨s1, hu1⟩, hpos, ho1, hT1, hd1⟩ :=
      packName_rdata (hn mn (by simp)) h0 hT (by omega) hmb hw.left.left hd
    obtain ⟨⟨s2, hu2⟩, -, ho2, -, hd2⟩ := packName_rdata (hn rn (by simp)) (by omega) hT1
      (by omega) (by rwa [Nat.cast_add]) hw.left.right hd1
    rw [Nat.cast_add] at hu2
    have hs := hw.right.pySlice_eq (i := off + mb.length + rb.length)
      (j := off + mb.length + rb.length + 20) (by simp; ring) (by simp [hi20]; ring)
    obtain ⟨v1, v2, v3, v4, v5, hv⟩ : ∃ v1 v2 v3 v4 v5,
        structUnpack [4, 4, 4, 4, 4] ints = .ok [v1, v2, v3, v4, v5] :=
      ⟨_, _, _, _, _, structUnpack_of_length hi20⟩
    refine ⟨verbatim (by simp; omega) ?_, ho2.trans ho1, hd2⟩
    simp only [RR.unpackRdata, ht, c, hu1, hu2, hs, hv, except_ok_bind, DNS_A, DNS_NS, DNS_CNAME,
      DNS_PTR, DNS_SOA, Nat.reduceEqDiff, reduceIte]
    exact ⟨_, rfl, rfl, rfl, rfl, rfl, rfl⟩
  · -- MX: the preference, then a name
    rw [RR.rdataNames_of_mx hr c hx, List.map_singleton, List.singleton_append] at hd
    have hp2 := length_packUInt hpb
    simp only [List.length_append] at hle
    obtain ⟨⟨s, hu⟩, hpos, ho, -, hd'⟩ := packName_rdata
      (hn n (by rw [RR.rdataNames_of_mx hr c hx]; exact List.mem_singleton_self n)) (by omega)
      (hT.mono (Nat.le_add_right off 2)) (by omega) (by rwa [Nat.cast_add]) (hp2 ▸ hw.right) hd
    rw [Nat.cast_add, Nat.cast_ofNat] at hu
    obtain ⟨v, hv⟩ : ∃ v, structUnpack [2] pb = .ok [v] := ⟨_, structUnpack_of_length hp2⟩
    refine ⟨verbatim (by simp; omega) ?_, ho, hd'⟩
    simp only [RR.unpackRdata, ht, c, hu, hrd, List.take_left' hp2, hv, except_ok_bind, DNS_A,
      DNS_NS, DNS_CNAME, DNS_PTR, DNS_SOA, DNS_MX, Nat.reduceEqDiff, reduceIte]
    exact ⟨_, rfl, rfl, rfl, rfl, rfl, rfl⟩
  · -- TXT and HINFO: only empty text packs
    rw [RR.rdataNames_of_unnamed hr (by rcases c with c | c <;> simp [c]), List.map_nil,
      List.nil_append] at hd
    refine ⟨⟨{ rr0 with text := some [] }, ?_, rfl, rfl, rfl, rfl, fun o S => ?_⟩, rfl, hd⟩ <;>
      rcases c with c | c <;>
      simp [RR.unpackRdata, RR.packRdata, unpackText, textLoop, attr, ht, c, hrd, hx,
        DNS_A, DNS_NS, DNS_CNAME, DNS_PTR, DNS_SOA, DNS_MX, DNS_TXT, DNS_HINFO]
  · -- SRV: three integers, then a name
    rw [RR.rdataNames_of_srv hr c hx, List.map_singleton, List.singleton_append] at hd
    have hi6 : ib.length = 6 := length_packAttrs hib
    simp only [List.length_append] at hle
    obtain ⟨⟨s, hu⟩, hpos, ho, -, hd'⟩ := packName_rdata
      (hn n (by rw [RR.rdataNames_of_srv hr c hx]; exact List.mem_singleton_self n)) (by omega)
      (hT.mono (Nat.le_add_right off 6)) (by omega) (by rwa [Nat.cast_add]) (hi6 ▸ hw.right) hd
    rw [Nat.cast_add, Nat.cast_ofNat] at hu
    obtain ⟨v1, v2, v3, hv⟩ : ∃ v1 v2 v3, structUnpack [2, 2, 2] ib = .ok [v1, v2, v3] :=
      ⟨_, _, _, structUnpack_of_length hi6⟩
    refine ⟨verbatim (by simp; omega) ?_, ho, hd'⟩
    simp only [RR.unpackRdata, ht, c, hu, hrd, List.take_left' hi6, hv, except_ok_bind, DNS_A,
      DNS_NS, DNS_CNAME, DNS_PTR, DNS_SOA, DNS_MX, DNS_TXT, DNS_HINFO, DNS_AAAA, DNS_NULL, DNS_SRV,
      Nat.reduceEqDiff, reduceIte, or_self]
    exact ⟨_, rfl, rfl, rfl, rfl, rfl, rfl⟩
  · -- OPT: nothing
    rw [RR.rdataNames_of_unnamed hr (by simp [c]), List.map_nil, List.nil_append] at hd
    refine ⟨⟨rr0, ?_, rfl, rfl, rfl, rfl, fun o S => ?_⟩, rfl, hd⟩ <;>
      simp [RR.unpackRdata, RR.packRdata, ht, c, hrd, DNS_A, DNS_NS, DNS_CNAME, DNS_PTR, DNS_SOA,
        DNS_MX, DNS_TXT, DNS_HINFO, DNS_AAAA, DNS_NULL, DNS_SRV, DNS_OPT]

end Rdata

/-! ### A question or a record -/

/-- The first run of `bytes()` when it has written `buf` of the message `B`, with the table `T`
and the names `W` still to write. -/
structure Twin (OK : List Bytes) (B buf : Bytes) (T : LabelPtrs) (W : List (Bool × List Bytes)) :
    Prop where
  sofar : Sofar B buf T
  done : Done OK T W

section Entries

variable {OK : List Bytes} {B buf b : Bytes} {T T' : LabelPtrs} {W : List (Bool × List Bytes)}

/-- `pack_q` in the first run: `unpack_q` reads a question back where it was written, and
`pack_q` writes that question against the second run's table as the first run wrote its own. -/
theorem packQ_twin {q : Q} (hq : GoodName q.name) (hok : ∀ K ∈ suffixKeys q.name.parts, K ∈ OK)
    (hB : B.length ≤ 0x4000) (h : DNS.packQ buf q T = .ok b T') (hb : b <+: B)
    (hs : Twin OK B buf T ((false, q.name.parts) :: W)) :
    ∃ q', DNS.unpackQ B buf.length = .ok (q', b.length) ∧
      DNS.packQ buf q' (ownedPtrs OK T) = .ok b (ownedPtrs OK T') ∧ Twin OK B b T' W := by
  obtain ⟨nb, T1, hnm, h'⟩ := estate_bind_eq_ok h
  obtain ⟨fx, hfx, h'⟩ := liftE_bind_eq_ok h'
  cases h'
  have hfx4 : fx.length = 4 := length_structPack hfx
  have hw : WrittenAt B buf.length (nb ++ fx) := .of_append (by simpa using hb)
  have hlen := hb.length_le
  simp only [List.length_append] at hlen
  obtain ⟨ls, hu, h2, -, hd⟩ := packName_owner hq hs.sofar.started hs.sofar.table (by omega) hnm
    hw.left hok hs.done
  have hsl := hw.right.pySlice_eq (i := buf.length + nb.length) (j := buf.length + nb.length + 4)
    (by simp) (by simp [hfx4])
  have hsu := structUnpack_structPack hfx
  simp only [List.map_cons, List.map_nil, Int.toNat_ofNat] at hsu
  refine ⟨{ name := .str (joinDot ls), type := q.type, cls := q.cls }, ?_, ?_,
    ⟨packQ_sofar hq h hb hs.sofar, hd⟩⟩
  · simp only [DNS.unpackQ, hu, hsl, hsu, except_ok_bind]
    simp [Q.default, hfx4, add_assoc]
  · simp [DNS.packQ, h2, hfx]

/-- `pack_rr` in the first run, on a record without `rdata`: `unpack_rr` reads a record back where
it was written, and `pack_rr` writes that record against the second run's table as the first run
wrote its own, `rdata` verbatim. -/
theorem packRr_twin {rr : RR} (hn : ∀ n ∈ rr.name :: rr.rdataNames, GoodName n)
    (hr : rr.rdata = []) (hok : ∀ K ∈ suffixKeys rr.name.parts, K ∈ OK) (hB : B.length ≤ 0x4000)
    (h : DNS.packRr buf rr T = .ok b T') (hb : b <+: B) (hs : Twin OK B buf T (rr.writes ++ W)) :
    ∃ rr', DNS.unpackRr B buf.length = .ok (rr', b.length) ∧
      DNS.packRr buf rr' (ownedPtrs OK T) = .ok b (ownedPtrs OK T') ∧ Twin OK B b T' W := by
  obtain ⟨nb, T1, hnm, h'⟩ := estate_bind_eq_ok h
  obtain ⟨rd, T2, hrd, h'⟩ := estate_bind_eq_ok h'
  obtain ⟨fx, hfx, h'⟩ := liftE_bind_eq_ok h'
  cases h'
  have hfx10 : fx.length = 10 := length_structPack hfx
  have hw : WrittenAt B buf.length (nb ++ fx ++ rd) := .of_append (by simpa using hb)
  have hw' : WrittenAt B (buf.length + nb.length + 10) rd := by
    have := hw.right
    rwa [List.length_append, hfx10, ← Nat.add_assoc] at this
  have hlen := hb.length_le
  simp only [List.length_append] at hlen
  obtain ⟨ls, hu, h2, hT1, hd1⟩ := packName_owner (hn _ (List.mem_cons_self _ _))
    hs.sofar.started hs.sofar.table (by omega) hnm hw.left.left hok hs.done
  obtain ⟨⟨rr1, hdec, e1, e2, e3, e4, hre⟩, ho, hd2⟩ := packRdata_twin hr
    (fun n hm => hn n (List.mem_cons_of_mem _ hm)) (by omega) (hT1.mono (Nat.le_add_right _ 10))
    (by omega) (by exact_mod_cast hrd) hw' hd1
    (show ({ RR.default with
        name := .str (joinDot ls), type := rr.type, cls := rr.cls, ttl := rr.ttl, rdata := rd,
        rlen := rd.length } : RR).type = rr.type from rfl) rfl
  have hsl := hw.left.right.pySlice_eq (i := buf.length + nb.length)
    (j := buf.length + nb.length + 10) (by simp) (by simp [hfx10])
  have hsd := hw'.pySlice_eq (i := buf.length + nb.length + 10)
    (j := buf.length + nb.length + 10 + rd.length) (by simp) (by simp)
  have hsu := structUnpack_structPack hfx
  simp only [List.map_cons, List.map_nil, Int.toNat_ofNat] at hsu
  push_cast at hdec
  refine ⟨rr1, ?_, ?_, ⟨packRr_sofar hn h hb hs.sofar, hd2⟩⟩
  · simp only [DNS.unpackRr, hu, hsl, hsu, except_ok_bind, hsd, hdec]
    simp [hfx10]
    ring
  · simp [DNS.packRr, e1, h2, e2, e3, e4, hre, hfx, ho]

end Entries

/-! ### The whole message -/

section Run

variable {OK : List Bytes} {B : Bytes} {α : Type} {f : Bytes → α → EStateM PyError LabelPtrs Bytes}
  {g : Bytes → Int → Except PyError (α × Int)} {w : α → List (Bool × List Bytes)}
  {P : α → Prop}

/-- A section written entry by entry by `f`, where the reader `g` reads each entry back where it
was written and the second run writes the decoded entry as the first wrote its own: `unpackMany`
reads the section back, and the second run writes the decoded section as the first wrote it. -/
theorem Twin.foldlM (hext : ∀ {buf a T b T'}, f buf a T = .ok b T' → buf <+: b)
    (hstep : ∀ {buf a T b T' W}, P a → f buf a T = .ok b T' → b <+: B →
      Twin OK B buf T (w a ++ W) → ∃ a', g B buf.length = .ok (a', b.length) ∧
        f buf a' (ownedPtrs OK T) = .ok b (ownedPtrs OK T') ∧ Twin OK B b T' W) :
    ∀ {xs : List α} {buf b : Bytes} {T T' : LabelPtrs} {W : List (Bool × List Bytes)},
      (∀ a ∈ xs, P a) → xs.foldlM f buf T = .ok b T' → b <+: B →
      Twin OK B buf T (xs.flatMap w ++ W) →
      ∃ xs', DNS.unpackMany g B xs.length buf.length = .ok (xs', b.length) ∧
        xs'.length = xs.length ∧ xs'.foldlM f buf (ownedPtrs OK T) = .ok b (ownedPtrs OK T') ∧
        Twin OK B b T' W
  | [], _, _, _, _, _, _, h, _, hs => by cases h; exact ⟨[], rfl, rfl, rfl, hs⟩
  | x :: xs, _, _, _, _, _, hP, h, hb, hs => by
    rw [List.foldlM_cons] at h
    obtain ⟨_, _, h1, h⟩ := estate_bind_eq_ok h
    rw [List.flatMap_cons, List.append_assoc] at hs
    obtain ⟨x', hu, hp, hs1⟩ := hstep (hP x (List.mem_cons_self x xs)) h1
      ((foldlM_extends hext h).trans hb) hs
    obtain ⟨xs', hus, hlen, hps, hs'⟩ :=
      Twin.foldlM hext hstep (fun a ha => hP a (List.mem_cons_of_mem x ha)) h hb hs1
    exact ⟨x' :: xs', by simp [DNS.unpackMany, hu, hus], by simp [hlen],
      by simp [List.foldlM_cons, hp, hps], hs'⟩

end Run

/-- The header `bytes()` writes reads back as the message's `id`, `op` and section counts. -/
theorem DNS.unpack_header {m : DNS} {hdr rest : Bytes}
    (hh : structPack [(2, m.id), (2, m.op), (2, m.qd.length), (2, m.an.length), (2, m.ns.length),
      (2, m.ar.length)] = .ok hdr) :
    Packet.unpack [2, 2, 2, 2, 2, 2] (hdr ++ rest) =
      .ok ([m.id, m.op, m.qd.length, m.an.length, m.ns.length, m.ar.length], rest) := by
  have hl : hdr.length = 12 := length_structPack hh
  have hv := beFields_structPack hh rest
  simp only [List.map_cons, List.map_nil, Int.toNat_ofNat] at hv
  rw [Packet.unpack_of_le (by simp [hl]), hv, show [2, 2, 2, 2, 2, 2].sum = 12 from rfl,
    List.drop_left' hl]

/-- The run of `__bytes__` on a message of good names whose records have no `rdata`, where no
suffix of a question or owner name is first written inside `rdata`, returning at most `0x4000`
bytes: `unpack` decodes those bytes, and the run on the decoded message returns them again, with
the first run's table cut down to the question and owner suffixes. -/
theorem DNS.packSections_reencodes {m : DNS} {B : Bytes} {T : LabelPtrs}
    (hm : ∀ n ∈ m.names, GoodName n) (hr : ∀ rr ∈ m.an ++ m.ns ++ m.ar, rr.rdata = [])
    (hf : FreshOrder m.ownerKeys [] m.writes) (hB : B.length ≤ 0x4000)
    (h : m.packSections [] = .ok B T) :
    ∃ d : DNS, DNS.unpack B = .ok d ∧ d.labelPtrs = none ∧
      d.packSections [] = .ok B (ownedPtrs m.ownerKeys T) := by
  have hq : ∀ q ∈ m.qd, GoodName q.name ∧ ∀ K ∈ suffixKeys q.name.parts, K ∈ m.ownerKeys :=
    fun q hq => ⟨hm _ (List.mem_append_left _ (List.mem_map_of_mem _ hq)), fun K hK =>
      List.mem_flatMap.mpr ⟨q.name, List.mem_append_left _ (List.mem_map_of_mem _ hq), hK⟩⟩
  have hrr : ∀ rr ∈ m.an ++ m.ns ++ m.ar, (∀ n ∈ rr.name :: rr.rdataNames, GoodName n) ∧
      rr.rdata = [] ∧ ∀ K ∈ suffixKeys rr.name.parts, K ∈ m.ownerKeys :=
    fun rr hrm => ⟨fun n hn => hm n (List.mem_append_right _ (List.mem_flatMap.mpr ⟨rr, hrm, hn⟩)),
      hr rr hrm, fun K hK =>
        List.mem_flatMap.mpr ⟨rr.name, List.mem_append_right _ (List.mem_map_of_mem _ hrm), hK⟩⟩
  obtain ⟨hdr, hh, h'⟩ := liftE_bind_eq_ok h
  obtain ⟨b1, T1, h1, h'⟩ := estate_bind_eq_ok h'
  obtain ⟨b2, T2, h2, h'⟩ := estate_bind_eq_ok h'
  obtain ⟨b3, T3, h3, h4⟩ := estate_bind_eq_ok h'
  have e3 := foldlM_extends packRr_extends h4
  have e2 := (foldlM_extends packRr_extends h3).trans e3
  have e1 := (foldlM_extends packRr_extends h2).trans e2
  have e0 := (foldlM_extends packQ_extends h1).trans e1
  have hhdr : hdr.length = 12 := length_structPack hh
  -- the first run, section by section, read back and written again
  have s0 : Twin m.ownerKeys B hdr [] (m.qd.flatMap (fun q => [(false, q.name.parts)]) ++
      (m.an.flatMap RR.writes ++ (m.ns.flatMap RR.writes ++ (m.ar.flatMap RR.writes ++ [])))) := by
    refine ⟨⟨e0, by omega, .nil⟩, .nil ?_⟩
    simpa [DNS.writes, List.map_eq_flatMap, List.flatMap_append] using hf
  have rstep := fun {buf rr T b T' W} (hP : (∀ n ∈ rr.name :: rr.rdataNames, GoodName n) ∧
      rr.rdata = [] ∧ ∀ K ∈ suffixKeys rr.name.parts, K ∈ m.ownerKeys)
      (h : DNS.packRr buf rr T = .ok b T') (hb : b <+: B)
      (hs : Twin m.ownerKeys B buf T (rr.writes ++ W)) => packRr_twin hP.1 hP.2.1 hP.2.2 hB h hb hs
  have hin : ∀ {l : List RR}, l ⊆ m.an ++ m.ns ++ m.ar → ∀ rr ∈ l, _ :=
    fun hl rr hm => hrr rr (hl hm)
  obtain ⟨qd', uq, lq, pq, s1⟩ := Twin.foldlM (f := DNS.packQ) (g := DNS.unpackQ)
    (w := fun q : Q => [(false, q.name.parts)]) packQ_extends
    (fun hP h hb hs => packQ_twin hP.1 hP.2 hB h hb hs) hq h1 e1 s0
  obtain ⟨an', ua, la, pa, s2⟩ :=
    Twin.foldlM packRr_extends rstep (hin fun _ hm => by simp [hm]) h2 e2 s1
  obtain ⟨ns', un, ln, pn, s3⟩ :=
    Twin.foldlM packRr_extends rstep (hin fun _ hm => by simp [hm]) h3 e3 s2
  obtain ⟨ar', ur, lr, pr, -⟩ :=
    Twin.foldlM packRr_extends rstep (hin fun _ hm => by simp [hm]) h4 (List.prefix_refl B) s3
  rw [hhdr] at uq
  rw [show ownedPtrs m.ownerKeys [] = [] from rfl] at pq
  obtain ⟨rest, rfl⟩ := e0
  refine ⟨{ id := m.id, op := m.op, qd := qd', an := an', ns := ns', ar := ar', labelPtrs := none },
    DNS.unpack_sections (DNS.unpack_header hh) uq ua un ur, rfl, ?_⟩
  simp only [DNS.packSections, lq, la, ln, lr, hh, estate_bind_apply, liftE_ok, pq, pa, pn, pr]

/-- `bytes()` on a message of good names whose records have no `rdata`, where no suffix of a
question or owner name is first written inside `rdata`, returning at most `0x4000` bytes: `DNS()`
decodes those bytes, and `bytes()` on the decoded message returns them again. -/
theorem DNS.reencode_reproduces {m m' : DNS} {B : Bytes} (hm : ∀ n ∈ m.names, GoodName n)
    (hr : ∀ rr ∈ m.an ++ m.ns ++ m.ar, rr.rdata = []) (hf : FreshOrder m.ownerKeys [] m.writes)
    (h : DNS.bytes m = .ok B m') (hB : B.length ≤ 0x4000) :
    ∃ d, DNS.init B = .ok d ∧ DNS.bytes d = .ok B d := by
  obtain ⟨T, hp⟩ : ∃ T, m.packSections [] = .ok B T := by
    unfold DNS.bytes at h
    cases hp : m.packSections [] with
    | ok B' T => rw [hp] at h; cases h; exact ⟨T, rfl⟩
    | error e T => rw [hp] at h; cases h
  obtain ⟨d, hu, hd, hps⟩ := DNS.packSections_reencodes hm hr hf hB hp
  refine ⟨d, Packet.init_ok hu, ?_⟩
  show DNS.delLabelPtrs d (d.packSections []) = _
  rw [hps]
  cases d
  cases hd
  rfl

/-- A question for `a.b` and a CNAME record from `x.a.b` to `a.b`: both names in the record end in a
pointer to the question's name, and re-encoding the decoded message gives the same 37 bytes. -/
theorem DNS.reencode_reproduces_cname :
    (∀ n ∈ DNS.names
        { DNS.default with
          qd := [{ name := .str [0x61, 0x2e, 0x62], type := DNS_A, cls := DNS_IN }]
          an := [{ RR.default with
                   name := .str [0x78, 0x2e, 0x61, 0x2e, 0x62]
                   type := DNS_CNAME
                   cname := some (.str [0x61, 0x2e, 0x62]) }] }, GoodName n) ∧
    (∀ rr ∈ [{ RR.default with
               name := .str [0x78, 0x2e, 0x61, 0x2e, 0x62]
               type := DNS_CNAME
               cname := some (.str [0x61, 0x2e, 0x62]) }] ++ [] ++ [], rr.rdata = []) ∧
    FreshOrder
      (DNS.ownerKeys
        { DNS.default with
          qd := [{ name := .str [0x61, 0x2e, 0x62], type := DNS_A, cls := DNS_IN }]
          an := [{ RR.default with
                   name := .str [0x78, 0x2e, 0x61, 0x2e, 0x62]
                   type := DNS_CNAME
                   cname := some (.str [0x61, 0x2e, 0x62]) }] }) []
      (DNS.writes
        { DNS.default with
          qd := [{ name := .str [0x61, 0x2e, 0x62], type := DNS_A, cls := DNS_IN }]
          an := [{ RR.default with
                   name := .str [0x78, 0x2e, 0x61, 0x2e, 0x62]
                   type := DNS_CNAME
                   cname := some (.str [0x61, 0x2e, 0x62]) }] }) ∧
    DNS.bytes
        { DNS.default with
          qd := [{ name := .str [0x61, 0x2e, 0x62], type := DNS_A, cls := DNS_IN }]
          an := [{ RR.default with
                   name := .str [0x78, 0x2e, 0x61, 0x2e, 0x62]
                   type := DNS_CNAME
                   cname := some (.str [0x61, 0x2e, 0x62]) }] } =
      .ok [0, 0, 1, 0, 0, 1, 0, 1, 0, 0, 0, 0, 1, 0x61, 1, 0x62, 0, 0, 1, 0, 1, 1, 0x78, 0xc0, 12,
          0, 5, 0, 1, 0, 0, 0, 0, 0, 2, 0xc0, 12]
        { DNS.default with
          qd := [{ name := .str [0x61, 0x2e, 0x62], type := DNS_A, cls := DNS_IN }]
          an := [{ RR.default with
                   name := .str [0x78, 0x2e, 0x61, 0x2e, 0x62]
                   type := DNS_CNAME
                   cname := some (.str [0x61, 0x2e, 0x62]) }] } ∧
    List.length [0, 0, 1, 0, 0, 1, 0, 1, 0, 0, 0, 0, 1, 0x61, 1, 0x62, 0, 0, 1, 0, 1, 1, 0x78, 0xc0,
      12, 0, 5, 0, 1, 0, 0, 0, 0, 0, 2, 0xc0, (12 : UInt8)] ≤ 0x4000 ∧
    ∃ d, DNS.init [0, 0, 1, 0, 0, 1, 0, 1, 0, 0, 0, 0, 1, 0x61, 1, 0x62, 0, 0, 1, 0, 1, 1, 0x78, 0xc0,
        12, 0, 5, 0, 1, 0, 0, 0, 0, 0, 2, 0xc0, 12] = .ok d ∧
      DNS.bytes d = .ok [0, 0, 1, 0, 0, 1, 0, 1, 0, 0, 0, 0, 1, 0x61, 1, 0x62, 0, 0, 1, 0, 1, 1, 0x78,
        0xc0, 12, 0, 5, 0, 1, 0, 0, 0, 0, 0, 2, 0xc0, 12] d := by
  refine ⟨?names, ?rdata, ?fresh, ?run, ?fits, DNS.reencode_reproduces ?names ?rdata ?fresh ?run ?fits⟩
  all_goals decide

/-! ### Where the second `bytes()` differs -/

/-- An NS record whose name server `a` is written inside its `rdata`, then a record owned by `a`,
which `bytes()` compresses to a pointer into that `rdata`. Decoded, the NS record keeps its `rdata`,
which the second `bytes()` copies without entering `a` into `label_ptrs`, so the owner name is
written in full. -/
theorem DNS.reencode_expands_owner_name :
    ∃ b d b', bytes.run' { DNS.default with
        an := [{ RR.default with name := .str [0x62], type := DNS_NS, nsname := some (.str [0x61]) },
               { RR.default with name := .str [0x61], ip := some [1, 2, 3, 4] }] } = some b ∧
      init b = .ok d ∧ bytes.run' d = some b' ∧ b' ≠ b := by
  have hh : Packet.unpack [2, 2, 2, 2, 2, 2]
      [0, 0, 1, 0, 0, 0, 0, 2, 0, 0, 0, 0, 1, 0x62, 0, 0, 2, 0, 1, 0, 0, 0, 0, 0, 3, 1, 0x61, 0, 0xc0,
        25, 0, 1, 0, 1, 0, 0, 0, 0, 0, 4, 1, 2, 3, 4] =
      .ok ([0, 0x100, 0, 2, 0, 0], [1, 0x62, 0, 0, 2, 0, 1, 0, 0, 0, 0, 0, 3, 1, 0x61, 0, 0xc0, 25, 0,
        1, 0, 1, 0, 0, 0, 0, 0, 4, 1, 2, 3, 4]) := by
    decide
  exact ⟨_,
    { id := 0, op := 0x100, qd := [], ns := [], ar := [], labelPtrs := none,
      an := [{ RR.default with
               name := .str [0x62], type := 2, cls := 1, ttl := 0, rlen := 3, rdata := [1, 0x61, 0],
               nsname := some (.str [0x61]) },
             { RR.default with
               name := .str [0x61], type := 1, cls := 1, ttl := 0, rlen := 4, rdata := [1, 2, 3, 4],
               ip := some [1, 2, 3, 4] }] },
    [0, 0, 1, 0, 0, 0, 0, 2, 0, 0, 0, 0, 1, 0x62, 0, 0, 2, 0, 1, 0, 0, 0, 0, 0, 3, 1, 0x61, 0, 1, 0x61,
      0, 0, 1, 0, 1, 0, 0, 0, 0, 0, 4, 1, 2, 3, 4],
    by decide, Packet.init_ok (unpack_sections hh rfl (by decide : unpackMany _ _ 2 12 = .ok (_, 44))
      rfl rfl), by decide, by decide⟩

/-- A message that `dns.py` decodes, in which an NS name points back into an owner name that an
earlier, uncompressed question name puts at offset 26. `bytes()` compresses that question name, the
owner name moves up one byte, and the pointer copied inside `rdata` now lands inside a label:
`DNS(bytes(d))` raises. -/
theorem DNS.reencode_breaks_rdata_pointer :
    ∃ d b, init [0, 0, 1, 0, 0, 2, 0, 1, 0, 0, 0, 0, 1, 0x61, 0, 0, 1, 0, 1, 1, 0x61, 0, 0, 1, 0, 1, 1,
        0x78, 0, 0, 2, 0, 1, 0, 0, 0, 0, 0, 4, 1, 0x62, 0xc0, 26] = .ok d ∧ bytes.run' d = some b ∧
      init b = .error (.unpackError "Invalid label length 78") := by
  have hh : Packet.unpack [2, 2, 2, 2, 2, 2]
      [0, 0, 1, 0, 0, 2, 0, 1, 0, 0, 0, 0, 1, 0x61, 0, 0, 1, 0, 1, 1, 0x61, 0, 0, 1, 0, 1, 1, 0x78, 0, 0,
        2, 0, 1, 0, 0, 0, 0, 0, 4, 1, 0x62, 0xc0, 26] =
      .ok ([0, 0x100, 2, 1, 0, 0], [1, 0x61, 0, 0, 1, 0, 1, 1, 0x61, 0, 0, 1, 0, 1, 1, 0x78, 0, 0, 2, 0,
        1, 0, 0, 0, 0, 0, 4, 1, 0x62, 0xc0, 26]) := by
    decide
  have hh' : Packet.unpack [2, 2, 2, 2, 2, 2]
      [0, 0, 1, 0, 0, 2, 0, 1, 0, 0, 0, 0, 1, 0x61, 0, 0, 1, 0, 1, 0xc0, 12, 0, 1, 0, 1, 1, 0x78, 0, 0, 2,
        0, 1, 0, 0, 0, 0, 0, 4, 1, 0x62, 0xc0, 26] =
      .ok ([0, 0x100, 2, 1, 0, 0], [1, 0x61, 0, 0, 1, 0, 1, 0xc0, 12, 0, 1, 0, 1, 1, 0x78, 0, 0, 2, 0, 1,
        0, 0, 0, 0, 0, 4, 1, 0x62, 0xc0, 26]) := by
    decide
  have hq' : unpackMany unpackQ
      [0, 0, 1, 0, 0, 2, 0, 1, 0, 0, 0, 0, 1, 0x61, 0, 0, 1, 0, 1, 0xc0, 12, 0, 1, 0, 1, 1, 0x78, 0, 0, 2,
        0, 1, 0, 0, 0, 0, 0, 4, 1, 0x62, 0xc0, 26] 2 12 =
      .ok ([{ name := .str [0x61], type := 1, cls := 1 }, { name := .str [0x61], type := 1, cls := 1 }],
        25) := by
    decide
  have ha' : unpackMany unpackRr
      [0, 0, 1, 0, 0, 2, 0, 1, 0, 0, 0, 0, 1, 0x61, 0, 0, 1, 0, 1, 0xc0, 12, 0, 1, 0, 1, 1, 0x78, 0, 0, 2,
        0, 1, 0, 0, 0, 0, 0, 4, 1, 0x62, 0xc0, 26] 1 25 =
      .error (.unpackError "Invalid label length 78") := by
    decide
  refine ⟨{ id := 0, op := 0x100, ns := [], ar := [], labelPtrs := none,
            qd := [{ name := .str [0x61], type := 1, cls := 1 }, { name := .str [0x61], type := 1, cls := 1 }],
            an := [{ RR.default with
                     name := .str [0x78], type := 2, cls := 1, ttl := 0, rlen := 4,
                     rdata := [1, 0x62, 0xc0, 26], nsname := some (.str [0x62, 0x2e, 0x78]) }] },
    [0, 0, 1, 0, 0, 2, 0, 1, 0, 0, 0, 0, 1, 0x61, 0, 0, 1, 0, 1, 0xc0, 12, 0, 1, 0, 1, 1, 0x78, 0, 0, 2, 0,
      1, 0, 0, 0, 0, 0, 4, 1, 0x62, 0xc0, 26],
    Packet.init_ok (unpack_sections hh (by decide) (by decide : unpackMany _ _ 1 26 = .ok (_, 43))
      rfl rfl), by decide, ?_⟩
  simp only [init, Packet.init, unpack, hh', hq', ha', except_ok_bind, except_error_bind]

end DpktGtpc.Dns
