import DpktGtpc.Dns.Decode
import DpktGtpc.Dns.Reencode

/-! Traffic through `dns.py`: a message that `DNS()` decoded, encoded again with `bytes()` and
decoded once more. A decoded record keeps the `rdata` it was read from, so `pack_rdata` writes
those bytes as they are, at a new offset. `unpack_rdata` reads them there as it did before when
every name in them is written out in full (`RR.SelfContained`): a compression pointer inside
`rdata` would name an offset of the first message. -/

namespace DpktGtpc.Dns

/-! ### Records that their `rdata` describes -/

/-- `unpack_name` reads the name at `off` of `buf` without following a compression pointer:
`saved_off` is still `0` when the loop breaks. -/
def readsPlain (buf : Bytes) (off : Int) : Bool :=
  match nameRun buf off with
  | .ok c => c.savedOff == 0
  | .error _ => false

/-- A name read without a pointer at `off` of `r` reads the same at the same place of `r` inside
any longer buffer. -/
theorem unpackName_of_readsPlain {r : Bytes} {off e : Int} {n : Bytes} (hp : readsPlain r off)
    (h0 : 0 ≤ off) (hu : unpackName r off = .ok (n, e)) (X Y : Bytes) :
    unpackName (X ++ r ++ Y) (X.length + off) = .ok (n, X.length + e) := by
  obtain ⟨q, rfl⟩ : ∃ q : Nat, off = q := ⟨off.toNat, by omega⟩
  unfold readsPlain at hp
  split at hp
  · exact unpackName_moved ‹_› (by simpa using hp) hu X Y
  · cases hp

/-- The offsets in `rdata` at which `unpack_rdata`, reading `rdata` alone, reads a name. -/
def RR.rdataNameOffs (rr : RR) : List Int :=
  if rr.type = DNS_NS ∨ rr.type = DNS_CNAME ∨ rr.type = DNS_PTR then [0]
  else if rr.type = DNS_SOA then
    0 :: match unpackName rr.rdata 0 with
      | .ok (_, e) => [e]
      | .error _ => []
  else if rr.type = DNS_MX then [2]
  else if rr.type = DNS_SRV then [6]
  else []

theorem pySlice_middle {X r Y : Bytes} {i j : Int} (hi : 0 ≤ i) (hij : i ≤ j) (hj : j ≤ r.length) :
    pySlice (X ++ r ++ Y) (X.length + i) (X.length + j) = pySlice r i j := by
  obtain ⟨i, rfl⟩ : ∃ i' : Nat, i = i' := ⟨i.toNat, by omega⟩
  obtain ⟨j, rfl⟩ : ∃ j' : Nat, j = j' := ⟨j.toNat, by omega⟩
  rw [← Nat.cast_add, ← Nat.cast_add, pySlice_ofNat, pySlice_ofNat, List.append_assoc,
    List.drop_append, List.drop_append_of_le_length (by omega),
    List.take_append_of_le_length (by simp; omega), Nat.add_sub_add_left]

/-- `rdata` read where it stands in any buffer decodes as it does alone, when every name in it is
read without a pointer. -/
theorem RR.unpackRdata_moved {rr rr' : RR} (h : rr.unpackRdata rr.rdata 0 = .ok rr')
    (hp : ∀ o ∈ rr.rdataNameOffs, readsPlain rr.rdata o) (X Y : Bytes) :
    rr.unpackRdata (X ++ rr.rdata ++ Y) X.length = .ok rr' := by
  have hmv : ∀ {o e : Int} {n : Bytes}, o ∈ rr.rdataNameOffs → 0 ≤ o →
      unpackName rr.rdata o = .ok (n, e) →
      unpackName (X ++ rr.rdata ++ Y) (X.length + o) = .ok (n, X.length + e) :=
    fun ho h0 hu => unpackName_of_readsPlain (hp _ ho) h0 hu X Y
  have hname : ∀ {f : Bytes → RR}, 0 ∈ rr.rdataNameOffs →
      (do let (n, _) ← unpackName rr.rdata 0; pure (f n)) = .ok rr' →
      (do let (n, _) ← unpackName (X ++ rr.rdata ++ Y) X.length; pure (f n)) =
        (do let (n, _) ← unpackName rr.rdata 0; pure (f n)) := fun ho h => by
    obtain ⟨⟨n, e⟩, hu, -⟩ := except_bind_eq_ok.mp h
    have hb := hmv ho le_rfl hu
    rw [Int.add_zero] at hb
    simp only [hu, hb, except_ok_bind]
  rw [← h]
  unfold RR.unpackRdata at h ⊢
  refine ite_congr rfl (fun _ => rfl) fun hA => ite_congr rfl (fun hNS => ?ns) fun hNS =>
    ite_congr rfl (fun hC => ?cname) fun hC => ite_congr rfl (fun hP => ?ptr) fun hP =>
    ite_congr rfl (fun h5 => ?soa) fun h5 => ite_congr rfl (fun h6 => ?mx) fun h6 =>
    ite_congr rfl (fun _ => rfl) fun hT => ite_congr rfl (fun _ => rfl) fun h8 =>
    ite_congr rfl (fun _ => rfl) fun h9 => ite_congr rfl (fun h10 => ?srv) fun _ => rfl
  case ns =>
    rw [if_neg hA, if_pos hNS] at h
    exact hname (f := fun n => { rr with nsname := some (.str n) }) (by simp [RR.rdataNameOffs, hNS]) h
  case cname =>
    rw [if_neg hA, if_neg hNS, if_pos hC] at h
    exact hname (f := fun n => { rr with cname := some (.str n) }) (by simp [RR.rdataNameOffs, hC]) h
  case ptr =>
    rw [if_neg hA, if_neg hNS, if_neg hC, if_pos hP] at h
    exact hname (f := fun n => { rr with ptrname := some (.str n) }) (by simp [RR.rdataNameOffs, hP]) h
  case soa =>
    rw [if_neg hA, if_neg hNS, if_neg hC, if_neg hP, if_pos h5] at h
    obtain ⟨⟨m, o1⟩, hu1, h⟩ := except_bind_eq_ok.mp h
    obtain ⟨⟨rn, o2⟩, hu2, h⟩ := except_bind_eq_ok.mp h
    obtain ⟨l, hs, -⟩ := except_bind_eq_ok.mp h
    have hoffs : rr.rdataNameOffs = [0, o1] := by
      simp [RR.rdataNameOffs, h5, hu1, DNS_NS, DNS_CNAME, DNS_PTR, DNS_SOA]
    have hb1 := hmv (by simp [hoffs]) le_rfl hu1
    rw [Int.add_zero] at hb1
    have h01 := unpackName_advances hu1
    have hb2 := hmv (by simp [hoffs]) h01.le hu2
    have h12 := unpackName_advances hu2
    have hlen : (pySlice rr.rdata o2 (o2 + 20)).length = 20 := by
      unfold structUnpack at hs; split_ifs at hs with hl; exact hl
    have hsl := pySlice_middle (X := X) (Y := Y) (by omega) (by omega : o2 ≤ o2 + 20)
      (le_length_of_length_pySlice (by omega) (by norm_num) hlen)
    rw [← add_assoc] at hsl
    simp only [hu1, hu2, hb1, hb2, hsl, except_ok_bind]
  case mx =>
    rw [if_neg hA, if_neg hNS, if_neg hC, if_neg hP, if_neg h5, if_pos h6] at h
    obtain ⟨l, hs, h⟩ := except_bind_eq_ok.mp h
    rcases l with _ | ⟨p, _ | ⟨_, _⟩⟩ <;> try cases h
    simp only [zero_add] at h
    obtain ⟨⟨n, e⟩, hu, -⟩ := except_bind_eq_ok.mp h
    have hb := hmv (by simp [RR.rdataNameOffs, h6, DNS_NS, DNS_CNAME, DNS_PTR, DNS_SOA, DNS_MX])
      (by norm_num) hu
    simp only [hs, hu, hb, zero_add, except_ok_bind]
  case srv =>
    rw [if_neg hA, if_neg hNS, if_neg hC, if_neg hP, if_neg h5, if_neg h6, if_neg hT, if_neg h8,
      if_neg h9, if_pos h10] at h
    obtain ⟨l, hs, h⟩ := except_bind_eq_ok.mp h
    rcases l with _ | ⟨_, _ | ⟨_, _ | ⟨_, _ | ⟨_, _⟩⟩⟩⟩ <;> try cases h
    simp only [zero_add] at h
    obtain ⟨⟨n, e⟩, hu, -⟩ := except_bind_eq_ok.mp h
    have hb := hmv (by simp [RR.rdataNameOffs, h10, DNS_NS, DNS_CNAME, DNS_PTR, DNS_SOA, DNS_MX,
      DNS_SRV]) (by norm_num) hu
    simp only [hs, hu, hb, zero_add, except_ok_bind]

/-- The record's `__hdr__` fields alone, the type-specific attributes unset: what `unpack_rr`
builds before it calls `unpack_rdata`. -/
def RR.header (rr : RR) : RR :=
  { RR.default with name := rr.name, type := rr.type, cls := rr.cls, ttl := rr.ttl, rdata := rr.rdata,
                    rlen := rr.rlen }

@[simp] theorem RR.header_type (rr : RR) : rr.header.type = rr.type := rfl

@[simp] theorem RR.header_rdata (rr : RR) : rr.header.rdata = rr.rdata := rfl

/-- A record that its `rdata` describes on its own: read alone, `rdata` decodes to the record, and
every name in it is written out in full, without a compression pointer. -/
def RR.SelfContained (rr : RR) : Prop :=
  rr.header.unpackRdata rr.rdata 0 = .ok rr ∧ ∀ o ∈ rr.rdataNameOffs, readsPlain rr.rdata o

instance : DecidablePred RR.SelfContained := fun _ => inferInstanceAs (Decidable (_ ∧ _))

/-- A record that its `rdata` describes, written anywhere under another owner name, reads back as
the same record with that name and the length of its `rdata`. -/
theorem RR.unpackRdata_reread {rr : RR} (hs : rr.SelfContained) (n : PyText) (X Y : Bytes) :
    ({ RR.default with name := n, type := rr.type, cls := rr.cls, ttl := rr.ttl, rdata := rr.rdata,
                       rlen := rr.rdata.length } : RR).unpackRdata (X ++ rr.rdata ++ Y) X.length =
      .ok { rr with name := n, rlen := rr.rdata.length } := by
  have hm : rr.header.unpackRdata (X ++ rr.rdata ++ Y) X.length = .ok rr :=
    @RR.unpackRdata_moved rr.header rr hs.1 hs.2 X Y
  have h := RR.unpackRdata_rename rr.header n rr.rdata.length (X ++ rr.rdata ++ Y) X.length
  rw [hm] at h
  exact h

/-- What `unpack_rdata` returns for empty `rdata` in an empty buffer: an A, AAAA, TXT, HINFO,
NULL or OPT record with the empty value. Every type that reads a name or integers fails. -/
theorem RR.unpackRdata_empty (rr : RR) (hr : rr.rdata = []) :
    ReturnsOnly (fun r : RR => (r.type = DNS_A ∧ r.ip = some []) ∨ (r.type = DNS_AAAA ∧ r.ip6 = some []) ∨
      ((r.type = DNS_TXT ∨ r.type = DNS_HINFO) ∧ r.text = some []) ∨
      (r.type = DNS_NULL ∧ r.null = some []) ∨ r.type = DNS_OPT) (rr.unpackRdata [] 0) := by
  have hnm : unpackName [] 0 = .error .needData := by decide
  unfold RR.unpackRdata
  simp only [hr, hnm, List.take_nil, except_error_bind, except_ok_bind,
    show structUnpack [2] [] = .error .structError from rfl,
    show structUnpack [2, 2, 2] [] = .error .structError from rfl,
    show unpackText [] = .ok [] from rfl, show hexlify [] = [] from rfl]
  repeat' refine ReturnsOnly.ite (fun h => ?_) fun h => ?_
  all_goals first
    | exact .error _ _
    | exact .ok (.inl ⟨h, rfl⟩)
    | exact .ok (.inr (.inl ⟨h, rfl⟩))
    | exact .ok (.inr (.inr (.inl ⟨h, rfl⟩)))
    | exact .ok (.inr (.inr (.inr (.inl ⟨h, rfl⟩))))
    | exact .ok (.inr (.inr (.inr (.inr h))))

/-- `pack_rdata` on a record that its `rdata` describes writes the `rdata` and makes no entry, but
for an empty NULL record, which it does not support. -/
theorem RR.packRdata_of_selfContained {rr : RR} (hs : rr.header.unpackRdata rr.rdata 0 = .ok rr)
    (hN : rr.rdata = [] → rr.type ≠ DNS_NULL) (off : Int) (T : LabelPtrs) :
    rr.packRdata off T = .ok rr.rdata T := by
  by_cases hr : rr.rdata = []
  · rw [hr] at hs
    rcases RR.unpackRdata_empty rr.header hr rr hs with ⟨ht, hv⟩ | ⟨ht, hv⟩ | ⟨ht, hv⟩ | ⟨ht, -⟩ | ht
    · simp only [RR.packRdata, hr, ht, hv, ne_eq, not_true_eq_false, reduceIte, attr]; rfl
    · simp only [RR.packRdata, hr, ht, hv, ne_eq, not_true_eq_false, reduceIte, attr, DNS_A, DNS_NS,
        DNS_CNAME, DNS_PTR, DNS_SOA, DNS_MX, DNS_TXT, DNS_HINFO, DNS_AAAA, Nat.reduceEqDiff, or_self]
      rfl
    · have h1 : ¬ (rr.type = DNS_A ∨ rr.type = DNS_NS ∨ rr.type = DNS_CNAME ∨ rr.type = DNS_PTR ∨
          rr.type = DNS_SOA ∨ rr.type = DNS_MX) := by rcases ht with ht | ht <;> rw [ht] <;> decide
      simp only [not_or] at h1
      simp only [RR.packRdata, hr, h1, hv, ne_eq, not_true_eq_false, reduceIte, attr, if_pos ht]
      rfl
    · exact absurd ht (hN hr)
    · simp only [RR.packRdata, hr, ht, ne_eq, not_true_eq_false, reduceIte, DNS_A, DNS_NS,
        DNS_CNAME, DNS_PTR, DNS_SOA, DNS_MX, DNS_TXT, DNS_HINFO, DNS_AAAA, DNS_SRV, DNS_OPT,
        Nat.reduceEqDiff, or_self]
      rfl
  · exact RR.packRdata_of_ne hr off T

/-! ### What `DNS()` returns -/

/-- Every field `struct.unpack` reads fits its width. -/
theorem beFields_lt : ∀ (ws : List Nat) (b : Bytes),
    List.Forall₂ (fun w v => v < 256 ^ w) ws (beFields ws b)
  | [], _ => .nil
  | w :: ws, b => .cons ((beValue_lt _).trans_le (Nat.pow_le_pow_right (by norm_num)
      (List.length_take_le _ _))) (beFields_lt ws _)

theorem structUnpack_lt {ws vs : List Nat} {b : Bytes} (h : structUnpack ws b = .ok vs) :
    List.Forall₂ (fun w v => v < 256 ^ w) ws vs := by
  unfold structUnpack at h
  split_ifs at h
  cases h
  exact beFields_lt ws b

/-- A question as `unpack_q` returns it: a `str` name, and the fields within the widths `pack_q`
writes them in. -/
structure Q.Decoded (q : Q) : Prop where
  str : ∃ n, q.name = .str n
  type : q.type < 256 ^ 2
  cls : q.cls < 256 ^ 2

/-- A record as `unpack_rr` returns it: a `str` name, and the fields within the widths `pack_rr`
writes them in, the length of `rdata` included. -/
structure RR.Decoded (rr : RR) : Prop where
  str : ∃ n, rr.name = .str n
  type : rr.type < 256 ^ 2
  cls : rr.cls < 256 ^ 2
  ttl : rr.ttl < 256 ^ 4
  rdata : rr.rdata.length < 256 ^ 2

/-- A message as `DNS()` returns it: the header fields and section counts within the widths of the
header, every entry within its own, and no `label_ptrs` attribute. -/
structure DNS.Decoded (m : DNS) : Prop where
  id : m.id < 256 ^ 2
  op : m.op < 256 ^ 2
  qd : m.qd.length < 256 ^ 2
  an : m.an.length < 256 ^ 2
  ns : m.ns.length < 256 ^ 2
  ar : m.ar.length < 256 ^ 2
  questions : ∀ q ∈ m.qd, q.Decoded
  records : ∀ rr ∈ m.an ++ m.ns ++ m.ar, rr.Decoded
  labelPtrs : m.labelPtrs = none

theorem DNS.unpackQ_decoded (buf : Bytes) (off : Int) :
    ReturnsOnly (fun r : Q × Int => r.1.Decoded) (DNS.unpackQ buf off) := by
  refine .bind fun _ _ => .bind fun l hl => ?_
  obtain _ | ⟨h1, _ | ⟨h2, ⟨⟩⟩⟩ := structUnpack_lt hl
  exact .ok ⟨⟨_, rfl⟩, h1, h2⟩

theorem DNS.unpackRr_decoded (buf : Bytes) (off : Int) :
    ReturnsOnly (fun r : RR × Int => r.1.Decoded) (DNS.unpackRr buf off) := by
  refine .bind fun _ _ => .bind fun l hl => ?_
  obtain _ | ⟨h1, _ | ⟨h2, _ | ⟨h3, _ | ⟨h4, ⟨⟩⟩⟩⟩⟩ := structUnpack_lt hl
  refine .bind fun rr hrr => .ok ?_
  obtain ⟨e0, e1, e2, e3, -, e5⟩ := RR.unpackRdata_hdr _ buf _ rr hrr
  exact ⟨⟨_, e0⟩, e1 ▸ h1, e2 ▸ h2, e3 ▸ h3, e5 ▸ (length_pySlice_add_le _ _ _).trans_lt h4⟩

theorem DNS.unpackMany_returnsOnly {f : Bytes → Int → Except PyError (α × Int)} {P : α → Prop}
    {buf : Bytes} (hf : ∀ off, ReturnsOnly (fun r : α × Int => P r.1) (f buf off)) :
    ∀ cnt off, ReturnsOnly (fun r : List α × Int => r.1.length = cnt ∧ ∀ x ∈ r.1, P x)
      (DNS.unpackMany f buf cnt off)
  | 0, _ => .ok ⟨rfl, fun _ h => (List.not_mem_nil _ h).elim⟩
  | cnt + 1, off => .bind fun x hx => .bind fun xs hxs => by
    obtain ⟨hl, hP⟩ := DNS.unpackMany_returnsOnly hf cnt _ xs hxs
    exact .ok ⟨by simp [hl], List.forall_mem_cons.mpr ⟨hf off x hx, hP⟩⟩

/-- `DNS()` returns a message whose fields all fit the widths `bytes()` writes them in. -/
theorem DNS.unpack_decoded (buf : Bytes) : ReturnsOnly DNS.Decoded (DNS.unpack buf) := by
  refine .bind fun r hr => ?_
  obtain ⟨-, rfl⟩ := Packet.unpack_eq_ok hr
  have hl := beFields_lt [2, 2, 2, 2, 2, 2] buf
  generalize beFields _ buf = l at hl ⊢
  obtain _ | ⟨hi, _ | ⟨ho, _ | ⟨hq, _ | ⟨ha, _ | ⟨hn, _ | ⟨hr, ⟨⟩⟩⟩⟩⟩⟩⟩ := hl
  have hq' := DNS.unpackMany_returnsOnly (DNS.unpackQ_decoded buf)
  have hr' := DNS.unpackMany_returnsOnly (DNS.unpackRr_decoded buf)
  refine .bind fun qd h1 => .bind fun an h2 => .bind fun ns h3 => .bind fun ar h4 => .ok ?_
  obtain ⟨l1, p1⟩ := hq' _ _ qd h1
  obtain ⟨l2, p2⟩ := hr' _ _ an h2
  obtain ⟨l3, p3⟩ := hr' _ _ ns h3
  obtain ⟨l4, p4⟩ := hr' _ _ ar h4
  refine ⟨hi, ho, l1 ▸ hq, l2 ▸ ha, l3 ▸ hn, l4 ▸ hr, p1, fun rr hm => ?_, rfl⟩
  simp only [List.mem_append] at hm
  rcases hm with (hm | hm) | hm
  exacts [p2 rr hm, p3 rr hm, p4 rr hm]

theorem Packet.init_returnsOnly {P : α → Prop} {unpack : Bytes → Except PyError α} {buf : Bytes}
    (h : ReturnsOnly P (unpack buf)) : ReturnsOnly P (Packet.init unpack buf) := by
  intro a ha
  unfold Packet.init at ha
  split at ha
  · cases ha
  · exact h a ha

/-- Every message `DNS()` returns has its header fields and section counts within two bytes, the
fields of each entry within their widths, each record's `rdata` shorter than `0x10000` bytes, `str`
names, and no `label_ptrs` attribute. -/
theorem DNS.init_decoded (buf : Bytes) : ReturnsOnly DNS.Decoded (DNS.init buf) :=
  Packet.init_returnsOnly (DNS.unpack_decoded buf)

/-! ### `bytes()` on what `DNS()` returns -/

/-- `struct.pack` of fields that fit their widths. -/
theorem structPack_ok : ∀ {fs : List (Nat × Int)}, (∀ f ∈ fs, 0 ≤ f.2 ∧ f.2 < 256 ^ f.1) →
    ∃ b, structPack fs = .ok b
  | [], _ => ⟨[], rfl⟩
  | (w, v) :: fs, h => by
    obtain ⟨h0, hv⟩ := h (w, v) (List.mem_cons_self _ _)
    obtain ⟨b, hb⟩ := structPack_ok fun f hf => h f (List.mem_cons_of_mem _ hf)
    exact ⟨_, by simp only [structPack, packUInt, h0, hv, and_self, reduceIte, hb, except_ok_bind]; rfl⟩

/-- Every offset of the table lies where a pointer can be written to it: `pack_name` enters only
offsets below `0xc000`, from an offset that is not negative. -/
def PtrsFit (T : LabelPtrs) : Prop := ∀ K t, (K, t) ∈ T → 0 ≤ t ∧ t < 0xc000

theorem packPointer_of_lt {t : Int} (h0 : 0 ≤ t) (h : t < 0xc000) : ∃ p, packPointer t = .ok p := by
  have hor : 0xc000 ||| t.toNat < 2 ^ 16 := Nat.or_lt_two_pow (by norm_num) (by omega)
  exact ⟨_, by rw [packPointer, if_neg (by omega), packUInt_ofNat hor]⟩

/-- `pack_name`'s loop over labels of fewer than 256 bytes, from an offset that is not negative,
returns, and keeps the table's offsets where pointers can be written to them. -/
theorem packLabels_ok {off : Int} (h0 : 0 ≤ off) : ∀ {ls : List Bytes} {buf : Bytes} {T : LabelPtrs},
    (∀ l ∈ ls, l.length < 256) → PtrsFit T →
      ∃ out T', packLabels off ls buf T = .ok out T' ∧ PtrsFit T'
  | [], buf, T, _, hT => ⟨buf, T, rfl, hT⟩
  | l :: more, buf, T, hl, hT => by
    cases hh : hitOf T (l :: more) with
    | some ptr =>
      obtain ⟨hm, -⟩ := mem_of_hitOf hh
      obtain ⟨p, hp⟩ := packPointer_of_lt (hT _ _ hm).1 (hT _ _ hm).2
      exact ⟨_, _, by rw [packLabels_hit hh, hp], hT⟩
    | none =>
      rw [packLabels_miss hh, packUInt_ofNat (n := 1) (hl l (List.mem_cons_self _ _))]
      refine packLabels_ok h0 (fun l' h => hl l' (List.mem_cons_of_mem _ h)) fun K t hm => ?_
      rcases List.mem_append.mp hm with hm | hm
      · obtain ⟨he, -, hlt⟩ := mem_keyEntry.mp hm
        cases he
        exact ⟨by omega, hlt⟩
      · exact hT K t hm


theorem packName_ok {n : Bytes} {off : Int} {T : LabelPtrs} (hn : GoodName (.str n)) (h0 : 0 ≤ off)
    (hT : PtrsFit T) : ∃ b T', packName (.str n) off T = .ok b T' ∧ PtrsFit T' :=
  @packLabels_ok off h0 (nameParts n ++ [[]]) [] T (fun l hl => by
    rcases List.mem_append.mp hl with hl | hl
    · have := (hn.1 l hl).2.1; omega
    · rw [List.mem_singleton.mp hl]; decide) hT

/-- A record `bytes()` writes so that `DNS()` reads it back: a good owner name, `rdata` that
describes the record on its own, and not an empty NULL record, which `pack_rdata` refuses. -/
structure RR.Resendable (rr : RR) : Prop where
  name : GoodName rr.name
  selfContained : rr.SelfContained
  null : rr.rdata = [] → rr.type ≠ DNS_NULL

instance : DecidablePred RR.Resendable := fun rr =>
  decidable_of_iff (GoodName rr.name ∧ rr.SelfContained ∧ (rr.rdata = [] → rr.type ≠ DNS_NULL))
    ⟨fun ⟨a, b, c⟩ => ⟨a, b, c⟩, fun ⟨a, b, c⟩ => ⟨a, b, c⟩⟩

section Encode

variable {buf : Bytes} {T : LabelPtrs}

theorem DNS.packQ_ok {q : Q} (hq : GoodName q.name) (hd : q.Decoded) (hT : PtrsFit T) :
    ∃ b T', DNS.packQ buf q T = .ok b T' ∧ PtrsFit T' := by
  obtain ⟨n, hn⟩ := hd.str
  obtain ⟨nb, T1, hp, hT1⟩ := packName_ok (hn ▸ hq) (Int.natCast_nonneg buf.length) hT
  obtain ⟨fx, hfx⟩ := @structPack_ok [(2, q.type), (2, q.cls)] (by
    have := hd.type; have := hd.cls; simp; omega)
  exact ⟨buf ++ nb ++ fx, T1, by
    simp only [DNS.packQ, hn, estate_bind_apply, hp, hfx, liftE_ok, estate_pure_apply], hT1⟩

theorem DNS.packRr_ok {rr : RR} (hr : rr.Resendable) (hd : rr.Decoded) (hT : PtrsFit T) :
    ∃ b T', DNS.packRr buf rr T = .ok b T' ∧ PtrsFit T' := by
  obtain ⟨n, hn⟩ := hd.str
  obtain ⟨nb, T1, hp, hT1⟩ := packName_ok (hn ▸ hr.name) (Int.natCast_nonneg buf.length) hT
  obtain ⟨fx, hfx⟩ := @structPack_ok [(2, rr.type), (2, rr.cls), (4, rr.ttl), (2, rr.rdata.length)]
    (by have := hd.type; have := hd.cls; have := hd.ttl; have := hd.rdata; simp; omega)
  refine ⟨buf ++ nb ++ fx ++ rr.rdata, T1, ?_, hT1⟩
  simp only [DNS.packRr, hn, estate_bind_apply, hp,
    RR.packRdata_of_selfContained hr.selfContained.1 hr.null, hfx, liftE_ok, estate_pure_apply]

theorem foldlM_ok {α : Type} {f : Bytes → α → EStateM PyError LabelPtrs Bytes} {P : α → Prop}
    (hf : ∀ {buf a T}, P a → PtrsFit T → ∃ b T', f buf a T = .ok b T' ∧ PtrsFit T') :
    ∀ {xs : List α} (buf : Bytes) {T : LabelPtrs}, (∀ a ∈ xs, P a) → PtrsFit T →
      ∃ b T', xs.foldlM f buf T = .ok b T' ∧ PtrsFit T'
  | [], buf, T, _, hT => ⟨buf, T, rfl, hT⟩
  | x :: _, _, _, hP, hT => by
    obtain ⟨b, T1, h1, hT1⟩ := hf (hP x (List.mem_cons_self _ _)) hT
    obtain ⟨c, T2, h2, hT2⟩ := foldlM_ok hf b (fun a h => hP a (List.mem_cons_of_mem _ h)) hT1
    exact ⟨c, T2, by rw [List.foldlM_cons, estate_bind_apply, h1]; exact h2, hT2⟩

end Encode

/-- `bytes()` returns on a message as `DNS()` returns it, when its question names are good and its
records can be sent again. -/
theorem DNS.packSections_ok {m : DNS} (hd : m.Decoded) (hq : ∀ q ∈ m.qd, GoodName q.name)
    (hr : ∀ rr ∈ m.an ++ m.ns ++ m.ar, rr.Resendable) : ∃ B T, m.packSections [] = .ok B T := by
  have hrr : ∀ l : List RR, l ⊆ m.an ++ m.ns ++ m.ar → ∀ rr ∈ l, rr.Resendable ∧ rr.Decoded :=
    fun _ hl rr hm => ⟨hr rr (hl hm), hd.records rr (hl hm)⟩
  have hT : PtrsFit [] := fun _ _ h => (List.not_mem_nil _ h).elim
  obtain ⟨hdr, hh⟩ := @structPack_ok [(2, m.id), (2, m.op), (2, m.qd.length), (2, m.an.length),
    (2, m.ns.length), (2, m.ar.length)] (by
    have := hd.id; have := hd.op; have := hd.qd; have := hd.an; have := hd.ns; have := hd.ar
    simp; omega)
  obtain ⟨b1, T1, h1, hT1⟩ := foldlM_ok (f := DNS.packQ) (P := fun q => GoodName q.name ∧ q.Decoded)
    (fun hP hT => DNS.packQ_ok hP.1 hP.2 hT) hdr (fun q hm => ⟨hq q hm, hd.questions q hm⟩) hT
  have hstep : ∀ {buf : Bytes} {rr : RR} {T : LabelPtrs}, rr.Resendable ∧ rr.Decoded → PtrsFit T →
      ∃ b T', DNS.packRr buf rr T = .ok b T' ∧ PtrsFit T' := fun hP hT => DNS.packRr_ok hP.1 hP.2 hT
  obtain ⟨b2, T2, h2, hT2⟩ := foldlM_ok (f := DNS.packRr) hstep b1 (hrr m.an (by simp)) hT1
  obtain ⟨b3, T3, h3, hT3⟩ := foldlM_ok (f := DNS.packRr) hstep b2 (hrr m.ns (by simp)) hT2
  obtain ⟨b4, T4, h4, -⟩ := foldlM_ok (f := DNS.packRr) hstep b3 (hrr m.ar (by simp)) hT3
  exact ⟨b4, T4, by simp only [DNS.packSections, estate_bind_apply, hh, liftE_ok, h1, h2, h3, h4]⟩

/-! ### What `DNS()` reads back -/

theorem joinDot_cons_head (c : UInt8) (l : Bytes) (ls : List Bytes) :
    joinDot ((c :: l) :: ls) = c :: joinDot (l :: ls) := by
  cases ls <;> simp [joinDot_cons_cons]

theorem splitDot_ne_nil : ∀ b : Bytes, splitDot b ≠ []
  | [] => List.cons_ne_nil _ _
  | c :: rest => by
    unfold splitDot
    split_ifs
    · exact List.cons_ne_nil _ _
    · split <;> exact List.cons_ne_nil _ _

/-- `b'.'.join` undoes `split(b'.')`. -/
theorem joinDot_splitDot : ∀ b : Bytes, joinDot (splitDot b) = b
  | [] => rfl
  | c :: rest => by
    have ih := joinDot_splitDot rest
    unfold splitDot
    split_ifs with hc
    · obtain ⟨p, ps, hp⟩ := List.exists_cons_of_ne_nil (splitDot_ne_nil rest)
      rw [hp] at ih ⊢
      rw [joinDot_cons_cons, ih, hc]
      rfl
    · split
      · next p ps hp => rw [joinDot_cons_head, ← hp, ih]
      · next hp => exact absurd hp (splitDot_ne_nil rest)

theorem joinDot_nameParts (n : Bytes) : joinDot (nameParts n) = n := by
  unfold nameParts
  split_ifs with h
  · exact joinDot_splitDot n
  · exact (not_not.mp h).symm

/-- Two names that `pack_name` looks up under one key: `str` names equal up to ASCII case. -/
def SameName : PyText → PyText → Prop
  | .str a, .str b => bytesUpper a = bytesUpper b
  | _, _ => False

instance : ∀ a b : PyText, Decidable (SameName a b)
  | .str a, .str b => inferInstanceAs (Decidable (bytesUpper a = bytesUpper b))
  | .str _, .bytes _ => isFalse id
  | .bytes _, .str _ => isFalse id
  | .bytes _, .bytes _ => isFalse id

/-- Labels that spell a name's own up to ASCII case join into the same name up to ASCII case. -/
theorem SameName.of_upper {n : Bytes} {ls : List Bytes}
    (h : ls.map bytesUpper = (nameParts n).map bytesUpper) : SameName (.str n) (.str (joinDot ls)) :=
  calc bytesUpper n = bytesUpper (joinDot (nameParts n)) := by rw [joinDot_nameParts]
    _ = bytesUpper (joinDot ls) := by rw [bytesUpper_joinDot, bytesUpper_joinDot, h]

/-- A question read back: its name up to ASCII case, its other fields as they were. -/
def Q.Same (q q' : Q) : Prop := SameName q.name q'.name ∧ q' = { q with name := q'.name }

/-- A record read back: its owner name up to ASCII case, `rlen` the length of its `rdata`, every
other field and attribute as it was. -/
def RR.Same (rr rr' : RR) : Prop :=
  SameName rr.name rr'.name ∧ rr' = { rr with name := rr'.name, rlen := rr.rdata.length }

instance : ∀ q q' : Q, Decidable (q.Same q') := fun _ _ => inferInstanceAs (Decidable (_ ∧ _))

instance : ∀ rr rr' : RR, Decidable (rr.Same rr') := fun _ _ => inferInstanceAs (Decidable (_ ∧ _))

/-- A message read back: the header fields, and each section entry by entry. -/
structure DNS.Same (m m' : DNS) : Prop where
  id : m'.id = m.id
  op : m'.op = m.op
  qd : List.Forall₂ Q.Same m.qd m'.qd
  an : List.Forall₂ RR.Same m.an m'.an
  ns : List.Forall₂ RR.Same m.ns m'.ns
  ar : List.Forall₂ RR.Same m.ar m'.ar
  labelPtrs : m'.labelPtrs = none

theorem WrittenAt.split {B w : Bytes} {p : Nat} (h : WrittenAt B p w) (hp : p ≤ B.length) :
    ∃ X Y, B = X ++ w ++ Y ∧ X.length = p := by
  obtain ⟨Y, hY⟩ := h
  exact ⟨B.take p, Y, by rw [List.append_assoc, hY, List.take_append_drop], List.length_take_of_le hp⟩

/-- `pack_rdata` writes no name for a record `bytes()` can send again. -/
theorem RR.rdataNames_of_resendable {rr : RR} (hr : rr.Resendable) : rr.rdataNames = [] := by
  by_cases h : rr.rdata = []
  · have hs := hr.selfContained.1
    rw [h] at hs
    rcases RR.unpackRdata_empty rr.header h rr hs with ⟨ht, -⟩ | ⟨ht, -⟩ | ⟨ht, -⟩ | ⟨ht, -⟩ | ht
    · exact RR.rdataNames_of_unnamed h (.inl ht)
    · exact RR.rdataNames_of_unnamed h (.inr (.inl ht))
    · exact RR.rdataNames_of_unnamed h (ht.elim (.inr ∘ .inr ∘ .inl) (.inr ∘ .inr ∘ .inr ∘ .inl))
    · exact absurd ht (hr.null h)
    · exact RR.rdataNames_of_unnamed h (.inr (.inr (.inr (.inr ht))))
  · simp [RR.rdataNames, h]

section Entries

variable {B buf b : Bytes} {T T' : LabelPtrs}

theorem name_str_of_pack {name : PyText} {off : Int} {nb : Bytes} (h : packName name off T = .ok nb T') :
    ∃ n, name = .str n := by
  cases name with
  | str n => exact ⟨n, rfl⟩
  | bytes _ => cases h

/-- `pack_q` in a run of `bytes()` that returns at most `0x4000` bytes: `unpack_q` reads the
question back where it was written. -/
theorem DNS.packQ_reads {q : Q} (hq : GoodName q.name) (hB : B.length ≤ 0x4000)
    (h : DNS.packQ buf q T = .ok b T') (hb : b <+: B) (hs : Sofar B buf T) :
    ∃ q', q.Same q' ∧ DNS.unpackQ B buf.length = .ok (q', b.length) := by
  obtain ⟨nb, T1, hnm, h'⟩ := estate_bind_eq_ok h
  obtain ⟨fx, hfx, h'⟩ := liftE_bind_eq_ok h'
  cases h'
  have hfx4 : fx.length = 4 := length_structPack hfx
  have hw : WrittenAt B buf.length (nb ++ fx) := .of_append (by simpa using hb)
  have hlen := hb.length_le
  simp only [List.length_append] at hlen
  obtain ⟨n, hn⟩ := name_str_of_pack hnm
  rw [hn] at hq hnm
  obtain ⟨ls, hcop, -, -, hu⟩ := packName_spells hq.1 hq.2 (hs.table.below (by omega)) hnm hw.left
  have hsl := hw.right.pySlice_eq (i := buf.length + nb.length) (j := buf.length + nb.length + 4)
    (by simp) (by simp [hfx4])
  have hsu := structUnpack_structPack hfx
  simp only [List.map_cons, List.map_nil, Int.toNat_ofNat] at hsu
  refine ⟨{ q with name := .str (joinDot ls) }, ⟨hn ▸ SameName.of_upper hcop.upper, rfl⟩, ?_⟩
  simp only [DNS.unpackQ, hu, hsl, hsu, except_ok_bind]
  simp [Q.default, hfx4, add_assoc]

/-- `pack_rr` on a record it can send again, in a run of `bytes()` that returns at most `0x4000`
bytes: `unpack_rr` reads the record back where it was written. -/
theorem DNS.packRr_reads {rr : RR} (hr : rr.Resendable) (hB : B.length ≤ 0x4000)
    (h : DNS.packRr buf rr T = .ok b T') (hb : b <+: B) (hs : Sofar B buf T) :
    ∃ rr', rr.Same rr' ∧ DNS.unpackRr B buf.length = .ok (rr', b.length) := by
  obtain ⟨nb, T1, hnm, h'⟩ := estate_bind_eq_ok h
  obtain ⟨rd, T2, hrd, h'⟩ := estate_bind_eq_ok h'
  rw [RR.packRdata_of_selfContained hr.selfContained.1 hr.null] at hrd
  cases hrd
  obtain ⟨fx, hfx, h'⟩ := liftE_bind_eq_ok h'
  cases h'
  have hfx10 : fx.length = 10 := length_structPack hfx
  have hw : WrittenAt B buf.length (nb ++ fx ++ rr.rdata) := .of_append (by simpa using hb)
  have hw' : WrittenAt B (buf.length + nb.length + 10) rr.rdata := by
    have := hw.right
    rwa [List.length_append, hfx10, ← Nat.add_assoc] at this
  have hlen := hb.length_le
  simp only [List.length_append] at hlen
  obtain ⟨n, hn⟩ := name_str_of_pack hnm
  have hq := hr.name
  rw [hn] at hq hnm
  obtain ⟨ls, hcop, -, -, hu⟩ := packName_spells hq.1 hq.2 (hs.table.below (by omega)) hnm
    hw.left.left
  have hsl := hw.left.right.pySlice_eq (i := buf.length + nb.length)
    (j := buf.length + nb.length + 10) (by simp) (by simp [hfx10])
  have hsd := hw'.pySlice_eq (i := buf.length + nb.length + 10)
    (j := buf.length + nb.length + 10 + rr.rdata.length) (by simp) (by simp)
  have hsu := structUnpack_structPack hfx
  simp only [List.map_cons, List.map_nil, Int.toNat_ofNat] at hsu
  obtain ⟨X, Y, hXY, hX⟩ := hw'.split (by omega)
  have hdec := RR.unpackRdata_reread hr.selfContained (.str (joinDot ls)) X Y
  rw [← hXY, hX] at hdec
  refine ⟨{ rr with name := .str (joinDot ls), rlen := rr.rdata.length },
    ⟨hn ▸ SameName.of_upper hcop.upper, rfl⟩, ?_⟩
  push_cast at hdec
  simp only [DNS.unpackRr, hu, hsl, hsu, except_ok_bind, hsd, hdec]
  simp [hfx10, add_assoc]

end Entries

section Run

variable {B : Bytes} {α : Type} {f : Bytes → α → EStateM PyError LabelPtrs Bytes}
  {g : Bytes → Int → Except PyError (α × Int)} {P : α → Prop} {R : α → α → Prop}

/-- A section written entry by entry by `f`, where the reader `g` reads each entry back where it
was written as one related to it by `R`: `unpackMany` reads the section back entry by entry. -/
theorem Sofar.reads (hext : ∀ {buf a T b T'}, f buf a T = .ok b T' → buf <+: b)
    (hstep : ∀ {buf a T b T'}, P a → f buf a T = .ok b T' → b <+: B → Sofar B buf T →
      Sofar B b T' ∧ ∃ a', R a a' ∧ g B buf.length = .ok (a', b.length)) :
    ∀ {xs : List α} {buf b : Bytes} {T T' : LabelPtrs}, (∀ a ∈ xs, P a) →
      xs.foldlM f buf T = .ok b T' → b <+: B → Sofar B buf T →
      Sofar B b T' ∧ ∃ xs', List.Forall₂ R xs xs' ∧
        DNS.unpackMany g B xs.length buf.length = .ok (xs', b.length)
  | [], _, _, _, _, _, h, _, hs => by cases h; exact ⟨hs, [], .nil, rfl⟩
  | x :: xs, _, _, _, _, hP, h, hb, hs => by
    rw [List.foldlM_cons] at h
    obtain ⟨_, _, h1, h⟩ := estate_bind_eq_ok h
    obtain ⟨hs1, x', hR, hu⟩ := hstep (hP x (List.mem_cons_self x xs)) h1
      ((foldlM_extends hext h).trans hb) hs
    obtain ⟨hs', xs', hRs, hus⟩ :=
      Sofar.reads hext hstep (fun a ha => hP a (List.mem_cons_of_mem x ha)) h hb hs1
    exact ⟨hs', x' :: xs', .cons hR hRs, by simp [DNS.unpackMany, hu, hus]⟩

end Run

/-- The run of `__bytes__` on a message of good question names and of records it can send again,
returning at most `0x4000` bytes: `unpack` reads the message back. -/
theorem DNS.packSections_reads {m : DNS} {B : Bytes} {T : LabelPtrs}
    (hq : ∀ q ∈ m.qd, GoodName q.name) (hr : ∀ rr ∈ m.an ++ m.ns ++ m.ar, rr.Resendable)
    (hB : B.length ≤ 0x4000) (h : m.packSections [] = .ok B T) :
    ∃ d, DNS.unpack B = .ok d ∧ m.Same d := by
  obtain ⟨hdr, hh, h'⟩ := liftE_bind_eq_ok h
  obtain ⟨b1, T1, h1, h'⟩ := estate_bind_eq_ok h'
  obtain ⟨b2, T2, h2, h'⟩ := estate_bind_eq_ok h'
  obtain ⟨b3, T3, h3, h4⟩ := estate_bind_eq_ok h'
  have e3 := foldlM_extends packRr_extends h4
  have e2 := (foldlM_extends packRr_extends h3).trans e3
  have e1 := (foldlM_extends packRr_extends h2).trans e2
  have e0 := (foldlM_extends packQ_extends h1).trans e1
  have hhdr : hdr.length = 12 := length_structPack hh
  have s0 : Sofar B hdr [] := ⟨e0, by omega, .nil⟩
  have rstep : ∀ {buf : Bytes} {rr : RR} {T : LabelPtrs} {b : Bytes} {T' : LabelPtrs},
      rr.Resendable → DNS.packRr buf rr T = .ok b T' → b <+: B → Sofar B buf T →
      Sofar B b T' ∧ ∃ rr', rr.Same rr' ∧ DNS.unpackRr B buf.length = .ok (rr', b.length) :=
    fun hP h hb hs => ⟨packRr_sofar (by simp [RR.rdataNames_of_resendable hP, hP.name]) h hb hs,
      DNS.packRr_reads hP hB h hb hs⟩
  have hin : ∀ {l : List RR}, l ⊆ m.an ++ m.ns ++ m.ar → ∀ rr ∈ l, rr.Resendable :=
    fun hl rr hm => hr rr (hl hm)
  obtain ⟨s1, qd', rq, uq⟩ := Sofar.reads (f := DNS.packQ) (g := DNS.unpackQ) packQ_extends
    (fun hP h hb hs => ⟨packQ_sofar hP h hb hs, DNS.packQ_reads hP hB h hb hs⟩) hq h1 e1 s0
  obtain ⟨s2, an', ra, ua⟩ :=
    Sofar.reads packRr_extends rstep (hin fun _ hm => by simp [hm]) h2 e2 s1
  obtain ⟨s3, ns', rn, un⟩ :=
    Sofar.reads packRr_extends rstep (hin fun _ hm => by simp [hm]) h3 e3 s2
  obtain ⟨-, ar', rr, ur⟩ :=
    Sofar.reads packRr_extends rstep (hin fun _ hm => by simp [hm]) h4 (List.prefix_refl B) s3
  rw [hhdr] at uq
  obtain ⟨rest, rfl⟩ := e0
  exact ⟨{ id := m.id, op := m.op, qd := qd', an := an', ns := ns', ar := ar', labelPtrs := none },
    DNS.unpack_sections (DNS.unpack_header hh) uq ua un ur, ⟨rfl, rfl, rq, ra, rn, rr, rfl⟩⟩

/-- A message that `DNS()` decoded, whose question names are good and whose records `bytes()` can
send again: `bytes()` returns, leaving the message as it was, and when it returns at most
`0x4000` bytes, `DNS()` decodes them as the same message, names up to ASCII case and each `rlen`
the length of its record's `rdata`. -/
theorem DNS.resend {s : Bytes} {d : DNS} (hd : DNS.init s = .ok d)
    (hq : ∀ q ∈ d.qd, GoodName q.name) (hr : ∀ rr ∈ d.an ++ d.ns ++ d.ar, rr.Resendable) :
    ∃ B, DNS.bytes d = .ok B d ∧ (B.length ≤ 0x4000 → ∃ d', DNS.init B = .ok d' ∧ d.Same d') := by
  have hdec := Packet.init_returnsOnly (DNS.unpack_decoded s) d hd
  obtain ⟨B, T, hp⟩ := DNS.packSections_ok hdec hq hr
  refine ⟨B, ?_, fun hB => ?_⟩
  · show DNS.delLabelPtrs d (d.packSections []) = _
    rw [hp, DNS.delLabelPtrs, ← hdec.labelPtrs]
  · obtain ⟨d', hu, hs⟩ := DNS.packSections_reads hq hr hB hp
    exact ⟨d', Packet.init_ok hu, hs⟩

/-- A response to a question for MX records of `a.b`, each name in it written in full: `bytes()`
writes the answer's owner name as a pointer to the question's, and `DNS()` reads the message back. -/
theorem DNS.resend_mx :
    DNS.init [0, 0, 0x81, 0x80, 0, 1, 0, 1, 0, 0, 0, 0, 1, 0x61, 1, 0x62, 0, 0, 15, 0, 1, 1, 0x61, 1,
        0x62, 0, 0, 15, 0, 1, 0, 0, 0, 60, 0, 7, 0, 10, 1, 0x6d, 1, 0x62, 0] =
      .ok { id := 0, op := 0x8180, qd := [{ name := .str [0x61, 0x2e, 0x62], type := DNS_MX, cls := DNS_IN }],
            an := [{ RR.default with
                     name := .str [0x61, 0x2e, 0x62], type := DNS_MX, ttl := 60, rlen := 7
                     rdata := [0, 10, 1, 0x6d, 1, 0x62, 0], preference := some (.tuple 10)
                     mxname := some (.str [0x6d, 0x2e, 0x62]) }],
            ns := [], ar := [], labelPtrs := none } ∧
    (∀ q ∈ [({ name := .str [0x61, 0x2e, 0x62], type := DNS_MX, cls := DNS_IN } : Q)], GoodName q.name) ∧
    (∀ rr ∈ [{ RR.default with
               name := .str [0x61, 0x2e, 0x62], type := DNS_MX, ttl := 60, rlen := 7
               rdata := [0, 10, 1, 0x6d, 1, 0x62, 0], preference := some (.tuple 10)
               mxname := some (.str [0x6d, 0x2e, 0x62]) }] ++ [] ++ [], rr.Resendable) ∧
    ∃ B, DNS.bytes { id := 0, op := 0x8180,
                     qd := [{ name := .str [0x61, 0x2e, 0x62], type := DNS_MX, cls := DNS_IN }],
                     an := [{ RR.default with
                              name := .str [0x61, 0x2e, 0x62], type := DNS_MX, ttl := 60, rlen := 7
                              rdata := [0, 10, 1, 0x6d, 1, 0x62, 0], preference := some (.tuple 10)
                              mxname := some (.str [0x6d, 0x2e, 0x62]) }],
                     ns := [], ar := [], labelPtrs := none } =
        .ok B { id := 0, op := 0x8180,
                qd := [{ name := .str [0x61, 0x2e, 0x62], type := DNS_MX, cls := DNS_IN }],
                an := [{ RR.default with
                         name := .str [0x61, 0x2e, 0x62], type := DNS_MX, ttl := 60, rlen := 7
                         rdata := [0, 10, 1, 0x6d, 1, 0x62, 0], preference := some (.tuple 10)
                         mxname := some (.str [0x6d, 0x2e, 0x62]) }],
                ns := [], ar := [], labelPtrs := none } ∧
      (B.length ≤ 0x4000 → ∃ d', DNS.init B = .ok d' ∧
        DNS.Same { id := 0, op := 0x8180,
                   qd := [{ name := .str [0x61, 0x2e, 0x62], type := DNS_MX, cls := DNS_IN }],
                   an := [{ RR.default with
                            name := .str [0x61, 0x2e, 0x62], type := DNS_MX, ttl := 60, rlen := 7
                            rdata := [0, 10, 1, 0x6d, 1, 0x62, 0], preference := some (.tuple 10)
                            mxname := some (.str [0x6d, 0x2e, 0x62]) }],
                   ns := [], ar := [], labelPtrs := none } d') := by
  have hh : Packet.unpack [2, 2, 2, 2, 2, 2] [0, 0, 0x81, 0x80, 0, 1, 0, 1, 0, 0, 0, 0, 1, 0x61, 1,
      0x62, 0, 0, 15, 0, 1, 1, 0x61, 1, 0x62, 0, 0, 15, 0, 1, 0, 0, 0, 60, 0, 7, 0, 10, 1, 0x6d, 1,
      0x62, 0] =
      .ok ([0, 0x8180, 1, 1, 0, 0], [1, 0x61, 1, 0x62, 0, 0, 15, 0, 1, 1, 0x61, 1, 0x62, 0, 0, 15, 0,
        1, 0, 0, 0, 60, 0, 7, 0, 10, 1, 0x6d, 1, 0x62, 0]) := by
    decide
  refine ⟨?init, ?names, ?records, DNS.resend ?init ?names ?records⟩
  case init => exact Packet.init_ok (unpack_sections hh (by decide : unpackMany _ _ 1 12 = .ok (_, 21))
    (by decide : unpackMany _ _ 1 21 = .ok (_, 43)) rfl rfl)
  all_goals decide

end DpktGtpc.Dns
