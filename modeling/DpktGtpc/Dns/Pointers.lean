import DpktGtpc.Dns.Compress
import DpktGtpc.Dns.Message

/-! The compression pointers of `bytes()`. Every caller of `pack_name` in a run of `__bytes__`
passes the offset at which the name ends up in the message `B` that the run returns: `len(buf)`
for an owner or question name, `len(buf) + len(name) + 10` for `rdata`, and within `rdata` the
offset after the fields before the name. So every entry of `label_ptrs` lies inside the bytes
written so far, and each entry below `0x4000` names an offset at which `B` spells the suffix of its
key, which `unpack_name` reads back. -/

namespace DpktGtpc.Dns

/-! ### The names `bytes()` writes -/

/-- A name that `pack_name` writes and `unpack_name` reads back: labels of 1 to 63 bytes, at most
255 bytes with their length octets. A `bytes` name makes `pack_name` raise. -/
def GoodName : PyText → Prop
  | .str n => GoodLabels (nameParts n) ∧ wireLength (nameParts n) ≤ 255
  | .bytes _ => True

instance : DecidablePred GoodName
  | .str _ => inferInstanceAs (Decidable (_ ∧ _))
  | .bytes _ => inferInstanceAs (Decidable True)

/-- The names `pack_rdata` passes to `pack_name`, branch by branch. -/
def RR.rdataNames (rr : RR) : List PyText :=
  if rr.rdata ≠ [] then []
  else if rr.type = DNS_A then []
  else if rr.type = DNS_NS then rr.nsname.toList
  else if rr.type = DNS_CNAME then rr.cname.toList
  else if rr.type = DNS_PTR then rr.ptrname.toList
  else if rr.type = DNS_SOA then rr.mname.toList ++ rr.rname.toList
  else if rr.type = DNS_MX then rr.mxname.toList
  else if rr.type = DNS_TXT ∨ rr.type = DNS_HINFO then []
  else if rr.type = DNS_AAAA then []
  else if rr.type = DNS_SRV then rr.srvname.toList
  else []

section RdataNames

variable {rr : RR} (hr : rr.rdata = [])
include hr

theorem RR.rdataNames_of_name {n : PyText} (h : rr.type = DNS_NS ∧ rr.nsname = some n ∨
    rr.type = DNS_CNAME ∧ rr.cname = some n ∨ rr.type = DNS_PTR ∧ rr.ptrname = some n) :
    rr.rdataNames = [n] := by
  rcases h with ⟨c, e⟩ | ⟨c, e⟩ | ⟨c, e⟩ <;>
    simp [RR.rdataNames, hr, c, e, DNS_A, DNS_NS, DNS_CNAME, DNS_PTR]

theorem RR.rdataNames_of_soa {mn rn : PyText} (c : rr.type = DNS_SOA) (hm : rr.mname = some mn)
    (hn : rr.rname = some rn) : rr.rdataNames = [mn, rn] := by
  simp [RR.rdataNames, hr, c, hm, hn, DNS_A, DNS_NS, DNS_CNAME, DNS_PTR, DNS_SOA]

theorem RR.rdataNames_of_mx {n : PyText} (c : rr.type = DNS_MX) (hn : rr.mxname = some n) :
    rr.rdataNames = [n] := by
  simp [RR.rdataNames, hr, c, hn, DNS_A, DNS_NS, DNS_CNAME, DNS_PTR, DNS_SOA, DNS_MX]

theorem RR.rdataNames_of_srv {n : PyText} (c : rr.type = DNS_SRV) (hn : rr.srvname = some n) :
    rr.rdataNames = [n] := by
  simp [RR.rdataNames, hr, c, hn, DNS_A, DNS_NS, DNS_CNAME, DNS_PTR, DNS_SOA, DNS_MX, DNS_TXT,
    DNS_HINFO, DNS_AAAA, DNS_SRV]

theorem RR.rdataNames_of_unnamed (h : rr.type = DNS_A ∨ rr.type = DNS_AAAA ∨ rr.type = DNS_TXT ∨
    rr.type = DNS_HINFO ∨ rr.type = DNS_OPT) : rr.rdataNames = [] := by
  rcases h with c | c | c | c | c <;>
    simp [RR.rdataNames, hr, c, DNS_A, DNS_NS, DNS_CNAME, DNS_PTR, DNS_SOA, DNS_MX, DNS_TXT,
      DNS_HINFO, DNS_AAAA, DNS_SRV, DNS_OPT]

end RdataNames

/-- The names of a message: of its questions, and of its records with those of their `rdata`. -/
def DNS.names (m : DNS) : List PyText :=
  m.qd.map (·.name) ++ (m.an ++ m.ns ++ m.ar).flatMap fun rr => rr.name :: rr.rdataNames

/-! ### The table along a run -/

/-- `label_ptrs` while `cur` bytes of the message `B` are written: every entry lies inside them,
and one below `0x4000` is borne out by `B`, with a key of at most 255 bytes. -/
def TableUpTo (B : Bytes) (cur : Nat) (T : LabelPtrs) : Prop :=
  ∀ K t, (K, t) ∈ T → 0 < t ∧ t < cur ∧ (t < 0x4000 → EntryOK B K t ∧ K.length ≤ 255)

section Table

variable {B : Bytes} {cur : Nat} {T : LabelPtrs}

theorem TableUpTo.nil : TableUpTo B cur [] := fun _ _ h => (List.not_mem_nil _ h).elim

theorem TableUpTo.mono (h : TableUpTo B cur T) {cur' : Nat} (hc : cur ≤ cur') :
    TableUpTo B cur' T :=
  fun K t hm => have := h K t hm; ⟨this.1, by omega, this.2.2⟩

/-- Below `0x4000`, the table is one `pack_name` can be given at the cursor. -/
theorem TableUpTo.below (h : TableUpTo B cur T) (hc : cur ≤ 0x4000) : TableBelow B cur T :=
  fun K t hm _ => have := h K t hm; ⟨(this.2.2 (by omega)).1, this.2.1⟩

end Table

/-! ### One name -/

/-- `pack_name` at the offset `off` of `B` where its bytes end up keeps the table up to the end of
them: its entries lie in the bytes it writes, and those below `0x4000` are borne out by `B`,
since the name then starts below `0x4000` and every entry it can follow is. -/
theorem packName_table {B b : Bytes} {name : PyText} {off : Nat} {T T' : LabelPtrs}
    (hn : GoodName name) (h0 : 0 < off) (hT : TableUpTo B off T)
    (h : packName name off T = .ok b T') (hw : WrittenAt B off b) :
    TableUpTo B (off + b.length) T' := by
  cases name with
  | bytes _ => cases h
  | str n =>
    obtain ⟨hg, hl⟩ := hn
    have h' : packLabels off (nameParts n ++ [[]]) [] ([] ++ T) = .ok b T' := h
    obtain ⟨N, rfl, hN⟩ := packLabels_entries h'
    intro K t hm
    rcases List.mem_append.mp hm with hm | hm
    · obtain ⟨h1, h2, h3⟩ := hN K t hm
      rw [length_labelKey_append_root] at h3
      simp only [List.length_nil, Nat.cast_zero, add_zero] at h1
      refine ⟨by omega, h2, fun ht => ⟨?_, by omega⟩⟩
      obtain ⟨_, _, h'', hspells⟩ := packLabels_spells (hT.below (by omega)) hg (N := [])
        fun _ _ h => (List.not_mem_nil _ h).elim
      obtain ⟨rfl, rfl⟩ := EStateM.Result.ok.inj (h'.symm.trans h'')
      obtain ⟨ls, N', hNN, hent, -⟩ := hspells hw
      obtain rfl : N = N' := by simpa using hNN
      obtain ⟨-, -, hK, hs⟩ := hent K t hm
      exact ⟨hK, by omega, ht, hs⟩
    · obtain ⟨h1, h2, h3⟩ := hT K t hm
      exact ⟨h1, by omega, h3⟩

/-! ### The fixed fields before a name -/

theorem length_of_mapM_ok {α β : Type} {f : α → Except PyError β} :
    ∀ {l : List α} {r : List β}, l.mapM f = .ok r → r.length = l.length
  | [], _, h => by cases h; rfl
  | a :: l, r, h => by
    rw [List.mapM_cons] at h
    obtain ⟨b, -, h⟩ := except_bind_eq_ok.mp h
    obtain ⟨bs, hbs, h⟩ := except_bind_eq_ok.mp h
    cases h
    simp [length_of_mapM_ok hbs]

/-- `struct.pack` of integer attributes: one field of `width` bytes each. -/
theorem length_packAttrs {width : Nat} {attrs : List (String × Option Nat)} {b : Bytes}
    (h : packAttrs width attrs = .ok b) : b.length = width * attrs.length := by
  obtain ⟨vs, hvs, h⟩ := except_bind_eq_ok.mp h
  rw [length_structPack h, ← length_of_mapM_ok hvs]
  simp [Function.comp_def, Nat.mul_comm]

/-! ### One record's data -/

section Rdata

variable {B r : Bytes} {off : Nat} {T T' : LabelPtrs}

/-- `pack_rdata` at the offset `off` of `B` where its bytes end up keeps the table up to the end of
them: each name goes where the caller's offset and the fields before it put it. -/
theorem packRdata_table {rr : RR} (hn : ∀ n ∈ rr.rdataNames, GoodName n) (h0 : 0 < off)
    (hT : TableUpTo B off T) (h : rr.packRdata off T = .ok r T') (hw : WrittenAt B off r) :
    TableUpTo B (off + r.length) T' := by
  have keep : T' = T → TableUpTo B (off + r.length) T' := fun e => e ▸ hT.mono (by omega)
  rcases RR.packRdata_cases h with ⟨-, -, e⟩ | ⟨hr, ⟨-, e⟩ | ⟨n, hx, hp⟩ |
      ⟨c, mn, rn, mb, rb, ints, T₁, hm, hrn, hmb, hrb, hi, rfl⟩ |
      ⟨c, p, n, pb, nb, -, hpb, hx, hnb, rfl⟩ | ⟨-, -, -, e⟩ | ⟨c, n, ib, nb, hib, hx, hnb, rfl⟩ |
      ⟨-, -, e⟩⟩
  · exact keep e
  · exact keep e
  · rw [RR.rdataNames_of_name hr hx] at hn
    exact packName_table (hn n (List.mem_singleton_self n)) h0 hT hp hw
  · rw [RR.rdataNames_of_soa hr c hm hrn] at hn
    have h1 := packName_table (hn mn (by simp)) h0 hT hmb hw.left.left
    have h2 := packName_table (hn rn (by simp)) (by omega) h1 (by rwa [Nat.cast_add]) hw.left.right
    exact h2.mono (by simp only [List.length_append]; omega)
  · rw [RR.rdataNames_of_mx hr c hx] at hn
    have hp2 := length_packUInt hpb
    have h1 := packName_table (hn n (List.mem_singleton_self n)) (by omega)
      (hT.mono (Nat.le_add_right off 2)) (by rwa [Nat.cast_add]) (hp2 ▸ hw.right)
    exact h1.mono (by simp only [List.length_append]; omega)
  · exact keep e
  · rw [RR.rdataNames_of_srv hr c hx] at hn
    have hi6 : ib.length = 6 := length_packAttrs hib
    have h1 := packName_table (hn n (List.mem_singleton_self n)) (by omega)
      (hT.mono (Nat.le_add_right off 6)) (by rwa [Nat.cast_add]) (hi6 ▸ hw.right)
    exact h1.mono (by simp only [List.length_append]; omega)
  · exact keep e

end Rdata

/-! ### The sections -/

/-- A run of `bytes()` that returns the message `B`, after it wrote `buf`: `buf` begins `B`, holds
the header at least, and `label_ptrs` is kept up to its end. -/
structure Sofar (B buf : Bytes) (T : LabelPtrs) : Prop where
  written : buf <+: B
  started : 0 < buf.length
  table : TableUpTo B buf.length T

theorem WrittenAt.of_append {B a w : Bytes} (h : a ++ w <+: B) : WrittenAt B a.length w := by
  obtain ⟨c, rfl⟩ := h
  simp only [WrittenAt, List.append_assoc, List.drop_left]
  exact List.prefix_append w c

section Sections

variable {B buf b : Bytes} {T T' : LabelPtrs}

theorem packQ_extends {q : Q} (h : DNS.packQ buf q T = .ok b T') : buf <+: b := by
  obtain ⟨nb, T1, -, h⟩ := estate_bind_eq_ok h
  obtain ⟨fx, -, h⟩ := liftE_bind_eq_ok h
  cases h
  exact ⟨nb ++ fx, by simp⟩

theorem packRr_extends {rr : RR} (h : DNS.packRr buf rr T = .ok b T') : buf <+: b := by
  obtain ⟨nb, T1, -, h⟩ := estate_bind_eq_ok h
  obtain ⟨rd, T2, -, h⟩ := estate_bind_eq_ok h
  obtain ⟨fx, -, h⟩ := liftE_bind_eq_ok h
  cases h
  exact ⟨nb ++ fx ++ rd, by simp⟩

/-- `pack_q` writes the question's name at `len(buf)`, where it stays. -/
theorem packQ_sofar {q : Q} (hq : GoodName q.name) (h : DNS.packQ buf q T = .ok b T')
    (hb : b <+: B) (hs : Sofar B buf T) : Sofar B b T' := by
  obtain ⟨nb, T1, hn, h⟩ := estate_bind_eq_ok h
  obtain ⟨fx, -, h⟩ := liftE_bind_eq_ok h
  cases h
  have hw : WrittenAt B buf.length (nb ++ fx) := .of_append (by simpa using hb)
  have ht := packName_table hq hs.started hs.table hn hw.left
  have := hs.started
  exact ⟨hb, by simp only [List.length_append]; omega,
    ht.mono (by simp only [List.length_append]; omega)⟩

/-- `pack_rr` writes the owner name at `len(buf)` and `rdata` after it and the ten bytes of fixed
fields, where they stay. -/
theorem packRr_sofar {rr : RR} (hn : ∀ n ∈ rr.name :: rr.rdataNames, GoodName n)
    (h : DNS.packRr buf rr T = .ok b T') (hb : b <+: B) (hs : Sofar B buf T) : Sofar B b T' := by
  obtain ⟨nb, T1, hnm, h⟩ := estate_bind_eq_ok h
  obtain ⟨rd, T2, hrd, h⟩ := estate_bind_eq_ok h
  obtain ⟨fx, hfx, h⟩ := liftE_bind_eq_ok h
  cases h
  have hfx10 : fx.length = 10 := length_structPack hfx
  have hw : WrittenAt B buf.length (nb ++ fx ++ rd) := .of_append (by simpa using hb)
  have hw' : WrittenAt B (buf.length + nb.length + 10) rd := by
    have := hw.right
    rwa [List.length_append, hfx10, ← Nat.add_assoc] at this
  have h1 := packName_table (hn _ (List.mem_cons_self _ _)) hs.started hs.table hnm hw.left.left
  have h2 := packRdata_table (fun n hm => hn n (List.mem_cons_of_mem _ hm)) (by omega)
    (h1.mono (Nat.le_add_right _ 10)) (by exact_mod_cast hrd) hw'
  have := hs.started
  exact ⟨hb, by simp only [List.length_append]; omega,
    h2.mono (by simp only [List.length_append]; omega)⟩

variable {α : Type} {f : Bytes → α → EStateM PyError LabelPtrs Bytes}

theorem foldlM_extends (hf : ∀ {buf a T b T'}, f buf a T = .ok b T' → buf <+: b) :
    ∀ {xs : List α} {buf b : Bytes} {T T' : LabelPtrs}, xs.foldlM f buf T = .ok b T' → buf <+: b
  | [], _, _, _, _, h => by cases h; exact List.prefix_refl _
  | _ :: _, _, _, _, _, h => by
    rw [List.foldlM_cons] at h
    obtain ⟨_, _, h1, h⟩ := estate_bind_eq_ok h
    exact (hf h1).trans (foldlM_extends hf h)

/-- A section written entry by entry keeps the run's invariant when each entry does. -/
theorem Sofar.foldlM {P : α → Prop} (hext : ∀ {buf a T b T'}, f buf a T = .ok b T' → buf <+: b)
    (hstep : ∀ {buf a T b T'}, P a → f buf a T = .ok b T' → b <+: B → Sofar B buf T →
      Sofar B b T') :
    ∀ {xs : List α} {buf b : Bytes} {T T' : LabelPtrs}, (∀ a ∈ xs, P a) →
      xs.foldlM f buf T = .ok b T' → b <+: B → Sofar B buf T → Sofar B b T'
  | [], _, _, _, _, _, h, _, hs => by cases h; exact hs
  | x :: _, _, _, _, _, hP, h, hb, hs => by
    rw [List.foldlM_cons] at h
    obtain ⟨_, _, h1, h⟩ := estate_bind_eq_ok h
    exact Sofar.foldlM hext hstep (fun a ha => hP a (List.mem_cons_of_mem x ha)) h hb
      (hstep (hP x (List.mem_cons_self x _)) h1 ((foldlM_extends hext h).trans hb) hs)

end Sections

/-- The run of `__bytes__` between `self.label_ptrs = {}` and `del self.label_ptrs`, on a message
of good names: the table it ends with is kept up to the end of the message it returns. -/
theorem packSections_sofar {m : DNS} {B : Bytes} {T : LabelPtrs} (hm : ∀ n ∈ m.names, GoodName n)
    (h : m.packSections [] = .ok B T) : Sofar B B T := by
  have hq : ∀ q ∈ m.qd, GoodName q.name := fun q hq =>
    hm _ (List.mem_append_left _ (List.mem_map_of_mem _ hq))
  have hrr : ∀ rr ∈ m.an ++ m.ns ++ m.ar, ∀ n ∈ rr.name :: rr.rdataNames, GoodName n :=
    fun rr hr n hn => hm n (List.mem_append_right _ (List.mem_flatMap.mpr ⟨rr, hr, hn⟩))
  obtain ⟨hdr, hh, h⟩ := liftE_bind_eq_ok h
  obtain ⟨b1, T1, h1, h⟩ := estate_bind_eq_ok h
  obtain ⟨b2, T2, h2, h⟩ := estate_bind_eq_ok h
  obtain ⟨b3, T3, h3, h⟩ := estate_bind_eq_ok h
  have e3 := foldlM_extends packRr_extends h
  have e2 := (foldlM_extends packRr_extends h3).trans e3
  have e1 := (foldlM_extends packRr_extends h2).trans e2
  have e0 := (foldlM_extends packQ_extends h1).trans e1
  have s0 : Sofar B hdr [] := ⟨e0, by rw [length_structPack hh]; simp, .nil⟩
  have s1 := Sofar.foldlM packQ_extends packQ_sofar hq h1 e1 s0
  have s2 := Sofar.foldlM packRr_extends packRr_sofar (fun rr hr => hrr rr (by simp [hr])) h2 e2 s1
  have s3 := Sofar.foldlM packRr_extends packRr_sofar (fun rr hr => hrr rr (by simp [hr])) h3 e3 s2
  exact Sofar.foldlM packRr_extends packRr_sofar (fun rr hr => hrr rr (by simp [hr])) h
    (List.prefix_refl B) s3

/-- `bytes()` on a message whose names have labels of 1 to 63 bytes and at most 255 bytes encoded:
every entry of `label_ptrs` below `0x4000` names an offset of the message at which it spells the
suffix of the entry's key, and `unpack_name` reads that suffix back there. -/
theorem DNS.labelPtrs_spell_suffixes {m : DNS} {B : Bytes} {T : LabelPtrs}
    (hm : ∀ n ∈ m.names, GoodName n) (h : m.packSections [] = .ok B T) :
    ∀ K t, (K, t) ∈ T → t < 0x4000 → EntryOK B K t ∧
      ∃ ls e, unpackName B t = .ok (joinDot ls, e) ∧ labelKey (ls ++ [[]]) = K := by
  intro K t hmem ht
  obtain ⟨hE, hK⟩ := ((packSections_sofar hm h).table K t hmem).2.2 ht
  refine ⟨hE, ?_⟩
  obtain ⟨-, hpos, -, ls, e, hsp, hgl, hk⟩ := hE
  refine ⟨ls, e, ?_, hk⟩
  have hu := unpackName_of_spells hsp (by rw [← length_labelKey_append_root, hk]; exact hK)
    (utf8Valid_joinDot fun l hl => (hgl l hl).2.2.2)
  rwa [Int.toNat_of_nonneg hpos.le] at hu

/-- A question for `a.b` and a CNAME record from `x.a.b` to `a.b`: the owner name ends in a pointer
to the question's name, and so does the `rdata`. -/
theorem DNS.labelPtrs_spell_suffixes_cname :
    (∀ n ∈ DNS.names
        { DNS.default with
          qd := [{ name := .str [0x61, 0x2e, 0x62], type := DNS_A, cls := DNS_IN }]
          an := [{ RR.default with
                   name := .str [0x78, 0x2e, 0x61, 0x2e, 0x62]
                   type := DNS_CNAME
                   cname := some (.str [0x61, 0x2e, 0x62]) }] }, GoodName n) ∧
    DNS.packSections
        { DNS.default with
          qd := [{ name := .str [0x61, 0x2e, 0x62], type := DNS_A, cls := DNS_IN }]
          an := [{ RR.default with
                   name := .str [0x78, 0x2e, 0x61, 0x2e, 0x62]
                   type := DNS_CNAME
                   cname := some (.str [0x61, 0x2e, 0x62]) }] } [] =
      .ok [0, 0, 1, 0, 0, 1, 0, 1, 0, 0, 0, 0, 1, 0x61, 1, 0x62, 0, 0, 1, 0, 1, 1, 0x78, 0xc0, 12,
          0, 5, 0, 1, 0, 0, 0, 0, 0, 2, 0xc0, 12]
        [([0x58, 0x2e, 0x41, 0x2e, 0x42, 0x2e], 21), ([0x42, 0x2e], 14), ([0x41, 0x2e, 0x42, 0x2e], 12)] ∧
    ∀ K t, (K, t) ∈ [([0x58, 0x2e, 0x41, 0x2e, 0x42, 0x2e], (21 : Int)), ([0x42, 0x2e], 14),
        ([0x41, 0x2e, 0x42, 0x2e], 12)] → t < 0x4000 →
      EntryOK [0, 0, 1, 0, 0, 1, 0, 1, 0, 0, 0, 0, 1, 0x61, 1, 0x62, 0, 0, 1, 0, 1, 1, 0x78, 0xc0, 12,
          0, 5, 0, 1, 0, 0, 0, 0, 0, 2, 0xc0, 12] K t ∧
        ∃ ls e, unpackName [0, 0, 1, 0, 0, 1, 0, 1, 0, 0, 0, 0, 1, 0x61, 1, 0x62, 0, 0, 1, 0, 1, 1, 0x78,
          0xc0, 12, 0, 5, 0, 1, 0, 0, 0, 0, 0, 2, 0xc0, 12] t = .ok (joinDot ls, e) ∧
          labelKey (ls ++ [[]]) = K :=
  by
  refine ⟨?names, ?run, DNS.labelPtrs_spell_suffixes ?names ?run⟩
  all_goals decide

set_option maxRecDepth 20000 in
/-- Two questions for the name of four labels of 63 bytes, 256 bytes encoded: the second is a
pointer to the first, at offset 12, where `unpack_name` raises. -/
theorem DNS.pointer_to_long_name :
    DNS.packSections
        { DNS.default with
          qd := List.replicate 2
            { name := .str (joinDot (List.replicate 4 (List.replicate 63 0x61))), type := 1, cls := 1 } }
        [] =
      .ok ([0, 0, 1, 0, 0, 2, 0, 0, 0, 0, 0, 0] ++ (List.replicate 4 (63 :: List.replicate 63 0x61)).flatten ++
          [0, 0, 1, 0, 1, 0xc0, 0x0c, 0, 1, 0, 1])
        [(bytesUpper (joinDot [List.replicate 63 0x61, []]), 204),
         (bytesUpper (joinDot (List.replicate 2 (List.replicate 63 0x61) ++ [[]])), 140),
         (bytesUpper (joinDot (List.replicate 3 (List.replicate 63 0x61) ++ [[]])), 76),
         (bytesUpper (joinDot (List.replicate 4 (List.replicate 63 0x61) ++ [[]])), 12)] ∧
    unpackName ([0, 0, 1, 0, 0, 2, 0, 0, 0, 0, 0, 0] ++
        (List.replicate 4 (63 :: List.replicate 63 0x61)).flatten ++
        [0, 0, 1, 0, 1, 0xc0, 0x0c, 0, 1, 0, 1]) 12 =
      .error (.unpackError "name longer than 255 bytes") :=
  ⟨by decide, by decide⟩

end DpktGtpc.Dns
