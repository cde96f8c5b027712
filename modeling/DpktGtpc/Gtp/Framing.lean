import DpktGtpc.Gtp.Decode

/-! The IE framing of `GTPv1C.unpack` and `GTPv2C.unpack`: the IE loop reads back, one IE after the
other, what `bytes()` of each IE wrote, and `bytes()` of what it read gives back the bytes it read.
A grouped GTPv2 IE, whose value is the encoding of inner IEs, decodes to them at any depth. -/

namespace DpktGtpc.Gtp

theorem beFields_cons_append {w : Nat} {ws : List Nat} {a r : Bytes} (h : a.length = w) :
    beFields (w :: ws) (a ++ r) = beValue a :: beFields ws r := by
  subst h; simp [beFields]

/-- One byte spelled as the one-byte field it is. -/
theorem beBytes_one_toNat (x : UInt8) : beBytes 1 x.toNat = [x] := by
  simpa [beValue] using beBytes_beValue [x]

/-! ### The IE loop over encoded IEs -/

namespace IEClass

variable {α : Type} (C : IEClass α)

/-- The IE loop reads an IE off the front of `b ++ rest` when `C.init` reads it there with length
`b.length`, and goes on with `rest`. -/
theorem unpackAll_append {b rest : Bytes} {ie : α} (hb : b ≠ [])
    (h : C.init (b ++ rest) = .ok ie) (hl : C.length ie = b.length) :
    C.unpackAll (b ++ rest) = (C.unpackAll rest).map (ie :: ·) := by
  obtain ⟨x, xs, rfl⟩ := List.exists_cons_of_ne_nil hb
  rw [List.cons_append, C.unpackAll_cons, ← List.cons_append, h, except_ok_bind, hl,
    List.drop_left]
  cases C.unpackAll rest <;> rfl

/-- The IE loop over the encodings `enc x` of a list, each of which `C.init` reads back as `dec x`
whatever follows it, returns the `dec x`. -/
theorem unpackAll_flatten {β : Type} (enc : β → Bytes) (dec : β → α) :
    ∀ L : List β, (∀ x ∈ L, enc x ≠ [] ∧ (∀ rest, C.init (enc x ++ rest) = .ok (dec x)) ∧
      C.length (dec x) = (enc x).length) →
      C.unpackAll (L.map enc).flatten = .ok (L.map dec)
  | [], _ => rfl
  | x :: L, h => by
    obtain ⟨hne, hinit, hlen⟩ := h x (List.mem_cons_self _ _)
    rw [List.map_cons, List.flatten_cons, C.unpackAll_append hne (hinit _) hlen,
      unpackAll_flatten enc dec L fun y hy => h y (List.mem_cons_of_mem _ hy)]
    rfl

end IEClass

/-! ### `IEv2` -/

namespace IEv2

/-- The bytes `bytes()` writes for an IE: type, the length of `data`, flags, then `data`. -/
def wire (ie : IEv2) : Bytes :=
  beBytes 1 ie.type ++ beBytes 2 ie.data.length ++ beBytes 1 ie.flags ++ ie.data

/-- An IE that `struct.pack` can write: octet type and flags, a value shorter than `2 ^ 16`. -/
def Packable (ie : IEv2) : Prop := ie.type < 256 ∧ ie.flags < 256 ∧ ie.data.length < 65536

variable {ie : IEv2}

theorem length_wire (ie : IEv2) : ie.wire.length = ie.length := by
  simp [wire, length]; omega

@[simp] theorem wire_setLen (ie : IEv2) : ie.setLen.wire = ie.wire := rfl

theorem Packable.setLen (h : ie.Packable) : ie.setLen.Packable := h

theorem bytes_packable (h : ie.Packable) : bytes ie = .ok ie.wire ie.setLen := by
  obtain ⟨ht, hf, hd⟩ := h
  rw [bytes_apply]
  simp [structPack, packUInt_ofNat (show ie.type < 256 ^ 1 by omega),
    packUInt_ofNat (show ie.data.length < 256 ^ 2 by omega),
    packUInt_ofNat (show ie.flags < 256 ^ 1 by omega), wire]

/-- `IEv2(buf)` on an IE's bytes and whatever follows reads the IE back, `len` set to the length of
its value. -/
theorem init_wire (h : ie.Packable) (rest : Bytes) : init (ie.wire ++ rest) = .ok ie.setLen := by
  obtain ⟨ht, hf, hd⟩ := h
  refine Packet.init_ok ?_
  rw [unpack_of_le (by simp [wire]; omega)]
  simp [wire, List.append_assoc, List.take_append_eq_append_take, List.drop_append_eq_append_drop,
    beValue_beBytes, Nat.mod_eq_of_lt ht, Nat.mod_eq_of_lt hf, Nat.mod_eq_of_lt hd, setLen,
    List.drop_eq_nil_of_le]

theorem mapMut_bytes : ∀ {L : List IEv2}, (∀ ie ∈ L, ie.Packable) →
    mapMut bytes L = .ok (L.map wire) (L.map setLen)
  | [], _ => rfl
  | ie :: L, h => by
    rw [mapMut_cons, bytes_packable (h ie (List.mem_cons_self _ _)),
      mapMut_bytes fun x hx => h x (List.mem_cons_of_mem _ hx)]
    rfl

theorem unpackIEsV2_wire {L : List IEv2} (h : ∀ ie ∈ L, ie.Packable) :
    unpackIEsV2 (L.map wire).flatten = .ok (L.map setLen) :=
  cls.unpackAll_flatten wire setLen L fun ie hi =>
    ⟨List.ne_nil_of_length_pos (by rw [length_wire, length]; omega), init_wire (h ie hi),
      (length_wire ie).symm⟩

end IEv2

/-- Bytes that are complete GTPv2 IEs one after the other: a type octet, a two-octet length, a
flags octet, then exactly that many value bytes. -/
inductive IEsV2 : Bytes → Prop
  | nil : IEsV2 []
  | cons {t hi lo f : UInt8} {v rest : Bytes} :
      v.length = beValue [hi, lo] → IEsV2 rest → IEsV2 (t :: hi :: lo :: f :: (v ++ rest))

/-- Such bytes are the encodings of a list of IEs that `struct.pack` can write. -/
theorem IEsV2.exists_wire {s : Bytes} (h : IEsV2 s) :
    ∃ L : List IEv2, (∀ ie ∈ L, ie.Packable) ∧ (L.map IEv2.wire).flatten = s := by
  induction h with
  | nil => exact ⟨[], fun _ h => (List.not_mem_nil _ h).elim, rfl⟩
  | @cons t hi lo f v rest hv _ ih =>
    obtain ⟨L, hL, rfl⟩ := ih
    have hlt := beValue_lt [hi, lo]
    simp only [List.length_cons, List.length_nil] at hlt
    refine ⟨{ type := t.toNat, len := 0, flags := f.toNat, data := v } :: L, ?_, ?_⟩
    · refine fun ie hie => (List.mem_cons.mp hie).elim (fun e => e ▸ ?_) (hL ie)
      exact ⟨t.toNat_lt, f.toNat_lt, by simp only; omega⟩
    · have h2 : beBytes 2 v.length = [hi, lo] := by rw [hv]; exact beBytes_beValue [hi, lo]
      simp [IEv2.wire, beBytes_one_toNat, h2]

/-- `bytes()` of each IE that the IE loop reads off exact IE bytes gives back those bytes. -/
theorem IEsV2.rewire {s : Bytes} (h : IEsV2 s) :
    ∃ L bs L', unpackIEsV2 s = .ok L ∧ mapMut IEv2.bytes L = .ok bs L' ∧ bs.flatten = s := by
  obtain ⟨L, hL, rfl⟩ := h.exists_wire
  have hL' : ∀ ie ∈ L.map IEv2.setLen, ie.Packable := by
    simpa using fun ie hi => (hL ie hi).setLen
  refine ⟨_, _, _, IEv2.unpackIEsV2_wire hL, IEv2.mapMut_bytes hL', ?_⟩
  simp [Function.comp_def]

/-! ### Grouped IEs -/

/-- A GTPv2 IE as a tree: a leaf with its value, or a grouped IE over inner IEs. -/
inductive IETree where
  | leaf (type flags : Nat) (value : Bytes)
  | group (type flags : Nat) (children : List IETree)

mutual

/-- The IE object of a tree: a grouped IE's value is its children's bytes one after the other. -/
def IETree.toIE : IETree → IEv2
  | .leaf type flags value => { type, len := 0, flags, data := value }
  | .group type flags cs => { type, len := 0, flags, data := IETree.wireAll cs }

/-- The bytes of a list of trees, each as `bytes()` writes its IE. -/
def IETree.wireAll : List IETree → Bytes
  | [] => []
  | c :: cs => c.toIE.wire ++ IETree.wireAll cs

end

mutual

/-- Every IE of the tree, inner ones included, is one `struct.pack` can write. -/
def IETree.Packable : IETree → Prop
  | .leaf type flags value => (IETree.leaf type flags value).toIE.Packable
  | .group type flags cs => (IETree.group type flags cs).toIE.Packable ∧ IETree.AllPackable cs

/-- `IETree.Packable` of every tree of a list. -/
def IETree.AllPackable : List IETree → Prop
  | [] => True
  | c :: cs => c.Packable ∧ IETree.AllPackable cs

end

/-- An IE read back as the tree `t`: a leaf's type, flags and value; for a group, its type and
flags, and IEs read back as its children when the IE loop is run again on its value. -/
inductive Decodes : IETree → IEv2 → Prop
  | leaf {type flags : Nat} {value : Bytes} {ie : IEv2} :
      ie.value = (type, flags, value) → Decodes (.leaf type flags value) ie
  | group {type flags : Nat} {cs : List IETree} {ie : IEv2} {ies : List IEv2} :
      ie.type = type → ie.flags = flags → unpackIEsV2 ie.data = .ok ies →
      List.Forall₂ Decodes cs ies → Decodes (.group type flags cs) ie

theorem IETree.wireAll_eq : ∀ cs : List IETree, IETree.wireAll cs = (cs.map (·.toIE.wire)).flatten
  | [] => rfl
  | c :: cs => by rw [IETree.wireAll, IETree.wireAll_eq cs]; rfl

theorem IETree.Packable.toIE : ∀ {t : IETree}, t.Packable → t.toIE.Packable
  | .leaf .., h => h
  | .group .., h => h.1

theorem IETree.AllPackable.forall : ∀ {cs : List IETree}, IETree.AllPackable cs →
    ∀ c ∈ cs, c.Packable
  | _ :: _, h, _, .head _ => h.1
  | _ :: _, h, c, .tail _ hc => IETree.AllPackable.forall h.2 c hc

/-- The IE loop over the bytes of a list of trees reads back each tree's IE. -/
theorem IETree.unpack_wireAll {cs : List IETree} (h : IETree.AllPackable cs) :
    unpackIEsV2 (IETree.wireAll cs) = .ok (cs.map (·.toIE.setLen)) := by
  have := IEv2.unpackIEsV2_wire (L := cs.map IETree.toIE) (by
    simpa using fun c hc => (h.forall c hc).toIE)
  rw [IETree.wireAll_eq]
  simpa only [List.map_map, Function.comp_def] using this

mutual

/-- The IE of a tree, read back, decodes as the tree at every depth. -/
theorem IETree.decodes : ∀ t : IETree, t.Packable → Decodes t t.toIE.setLen
  | .leaf _ _ _, _ => .leaf rfl
  | .group _ _ cs, h => .group rfl rfl (IETree.unpack_wireAll h.2) (IETree.decodes_all cs h.2)

/-- Each tree of a list decodes as itself. -/
theorem IETree.decodes_all : ∀ cs : List IETree, IETree.AllPackable cs →
    List.Forall₂ Decodes cs (cs.map (·.toIE.setLen))
  | [], _ => .nil
  | c :: cs, h => .cons (IETree.decodes c h.1) (IETree.decodes_all cs h.2)

end

/-! ### `IEv1` -/

/-- A type from `0x80` on, below `0x100`, has the TLV encoding bit set. -/
theorem tlv_encoding_bit {t : Nat} (h1 : 0x80 ≤ t) (h2 : t < 0x100) : (t >>> 7) &&& 1 = 1 := by
  rw [Nat.shiftRight_eq_div_pow, show t / 2 ^ 7 = 1 by omega]
  rfl

/-- Bytes that are complete GTPv1 IEs one after the other: a TV IE, a type below `0x80` that
`TV_LEN_DICT` lists and exactly that many value bytes, or a TLV IE, a type from `0x80` on, a
two-octet length and exactly that many value bytes. -/
inductive IEsV1 : Bytes → Prop
  | nil : IEsV1 []
  | tv {t : UInt8} {v rest : Bytes} : t.toNat < 0x80 → TV_LEN_DICT.lookup t.toNat = some v.length →
      IEsV1 rest → IEsV1 (t :: (v ++ rest))
  | tlv {t hi lo : UInt8} {v rest : Bytes} : 0x80 ≤ t.toNat → v.length = beValue [hi, lo] →
      IEsV1 rest → IEsV1 (t :: hi :: lo :: (v ++ rest))

namespace IEv1

theorem packHdr_type (t : UInt8) : Packet.packHdr [(1, (t.toNat : Int))] = .ok [t] := by
  simp [Packet.packHdr, structPack, packUInt_ofNat (show t.toNat < 256 ^ 1 from t.toNat_lt),
    beBytes_one_toNat]

/-- A TV IE read from its type octet, its value and whatever follows. -/
theorem init_tv {t : UInt8} {v : Bytes} (rest : Bytes) (ht : t.toNat < 0x80)
    (hl : TV_LEN_DICT.lookup t.toNat = some v.length) :
    init (t :: (v ++ rest)) = .ok { type := t.toNat, len := some v.length, data := v } :=
  Packet.init_ok (by rw [unpack_cons, if_neg (by rw [tv_encoding_bit ht]; decide), hl]; simp)

/-- A TLV IE read from its type octet, its length octets, its value and whatever follows. -/
theorem init_tlv {t hi lo : UInt8} {v : Bytes} (rest : Bytes) (ht : 0x80 ≤ t.toNat)
    (hl : v.length = beValue [hi, lo]) :
    init (t :: hi :: lo :: (v ++ rest)) = .ok { type := t.toNat, len := some v.length, data := v } := by
  refine Packet.init_ok ?_
  rw [unpack_cons, if_pos (by rw [tlv_encoding_bit ht t.toNat_lt]; decide)]
  simp [unpackUInt_of_length, ← hl, Except.map]

theorem bytes_tv {t : UInt8} {v : Bytes} (ht : t.toNat < 0x80) :
    bytes { type := t.toNat, len := some v.length, data := v } = .ok (t :: v) := by
  simp [bytes, packHdr, packHdr_type, encoding, tv_encoding_bit ht]

theorem bytes_tlv {t hi lo : UInt8} {v : Bytes} (ht : 0x80 ≤ t.toNat)
    (hl : v.length = beValue [hi, lo]) :
    bytes { type := t.toNat, len := some v.length, data := v } = .ok (t :: hi :: lo :: v) := by
  have h2 : packUInt 2 v.length = .ok [hi, lo] := by
    rw [hl, packUInt_ofNat (show beValue [hi, lo] < 256 ^ 2 from beValue_lt [hi, lo])]
    exact congrArg _ (beBytes_beValue [hi, lo])
  simp [bytes, packHdr, packHdr_type, encoding, tlv_encoding_bit ht t.toNat_lt, h2]

/-- What `bytes()` returns is as long as `len()` says. -/
theorem length_bytes {ie : IEv1} {b : Bytes} (h : bytes ie = .ok b) : b.length = ie.length := by
  obtain ⟨hdr, hh, hb⟩ := except_bind_eq_ok.mp h
  cases hb
  obtain ⟨t, ht, hh⟩ := except_bind_eq_ok.mp hh
  have h1 : t.length = 1 := length_structPack ht
  unfold length
  split_ifs at hh ⊢ with he
  · split at hh
    · cases hh
    · obtain ⟨n, hn, hb⟩ := except_bind_eq_ok.mp hh
      cases hb
      unfold packUInt at hn; split_ifs at hn; cases hn
      simp [h1]; omega
  · cases hh; simp [h1]

end IEv1

/-- What `bytes()` returns is as long as `len()` says, before and after the call. -/
theorem IEv2.length_bytes {ie ie' : IEv2} {b : Bytes} (h : IEv2.bytes ie = .ok b ie') :
    b.length = ie.length ∧ ie'.length = ie.length := by
  rw [IEv2.bytes_apply] at h
  split at h
  · next hdr hh =>
    cases h
    have := length_structPack hh
    simp only [List.map_cons, List.map_nil, List.sum_cons, List.sum_nil] at this
    exact ⟨by simp [this, IEv2.length], rfl⟩
  · cases h

/-- `bytes()` of each IE that the IE loop of `GTPv1C.unpack` reads off exact IE bytes gives back
those bytes. -/
theorem IEsV1.rewire {s : Bytes} (h : IEsV1 s) :
    ∃ L bs, unpackIEsV1 s = .ok L ∧ L.mapM IEv1.bytes = .ok bs ∧ bs.flatten = s := by
  induction h with
  | nil => exact ⟨[], [], rfl, rfl, rfl⟩
  | @tv t v rest ht hl _ ih =>
    obtain ⟨L, bs, hL, hbs, rfl⟩ := ih
    have := IEv1.cls.unpackAll_append (b := t :: v) (List.cons_ne_nil _ _)
      (IEv1.init_tv bs.flatten ht hl) (by simp [IEv1.cls, IEv1.length, IEv1.encoding, tv_encoding_bit ht]; omega)
    refine ⟨_ :: L, (t :: v) :: bs, by
      rw [unpackIEsV1] at hL ⊢; simp only [List.cons_append] at this; rw [this, hL]; rfl,
      by rw [List.mapM_cons, IEv1.bytes_tv ht, hbs]; rfl, rfl⟩
  | @tlv t hi lo v rest ht hl _ ih =>
    obtain ⟨L, bs, hL, hbs, rfl⟩ := ih
    have := IEv1.cls.unpackAll_append (b := t :: hi :: lo :: v) (List.cons_ne_nil _ _)
      (IEv1.init_tlv bs.flatten ht hl)
      (by simp [IEv1.cls, IEv1.length, IEv1.encoding, tlv_encoding_bit ht t.toNat_lt]; omega)
    refine ⟨_ :: L, (t :: hi :: lo :: v) :: bs, by
      rw [unpackIEsV1] at hL ⊢; simp only [List.cons_append] at this; rw [this, hL]; rfl,
      by rw [List.mapM_cons, IEv1.bytes_tlv ht hl, hbs]; rfl, rfl⟩

/-- `IEv1(type=0x83, data=b'internet')`, the TLV IE of the repository's test: `pack_hdr` packs
`self.len`, which nothing set, so `bytes()` raises `AttributeError`. -/
theorem IEv1.bytes_tlv_build_raises :
    IEv1.bytes (IEv1.build 0x83 [0x69, 0x6e, 0x74, 0x65, 0x72, 0x6e, 0x65, 0x74]) =
      .error (.attributeError "len") := by
  decide

/-- GTPv2 IE framing. `bytes()` writes each IE of a list as its header and value, as long as
`len()` says, and the IE loop reads the list back with `len` set to each value's length; `bytes()`
of the IEs the loop reads off exact IE bytes gives back those bytes; and an IE tree's bytes read
back as the tree, the loop run again on the value of each grouped IE at every depth. -/
theorem ie_framing_v2 :
    (∀ L : List IEv2, (∀ ie ∈ L, ie.Packable) →
      mapMut IEv2.bytes L = .ok (L.map IEv2.wire) (L.map IEv2.setLen) ∧
        (∀ ie ∈ L, ie.wire.length = ie.length) ∧
        unpackIEsV2 (L.map IEv2.wire).flatten = .ok (L.map IEv2.setLen)) ∧
    (∀ s : Bytes, IEsV2 s →
      ∃ L bs L', unpackIEsV2 s = .ok L ∧ mapMut IEv2.bytes L = .ok bs L' ∧ bs.flatten = s) ∧
    (∀ t : IETree, t.Packable →
      IEv2.bytes t.toIE = .ok t.toIE.wire t.toIE.setLen ∧
        unpackIEsV2 t.toIE.wire = .ok [t.toIE.setLen] ∧ Decodes t t.toIE.setLen) :=
  ⟨fun _ hL => ⟨IEv2.mapMut_bytes hL, fun ie _ => IEv2.length_wire ie, IEv2.unpackIEsV2_wire hL⟩,
   fun _ h => h.rewire,
   fun t ht => ⟨IEv2.bytes_packable ht.toIE,
     by simpa using IEv2.unpackIEsV2_wire (L := [t.toIE]) (by simpa using ht.toIE),
     t.decodes ht⟩⟩

/-- A grouped IE two levels deep: a Bearer Context holding an EBI and a grouped IE of type 180,
which holds a Cause. Its 19 bytes read back as the tree. -/
theorem ie_framing_v2_nested :
    (IETree.group 93 0 [.leaf 73 0 [5], .group 180 0 [.leaf 2 0 [16, 0]]]).toIE.wire =
        [93, 0, 15, 0, 73, 0, 1, 0, 5, 180, 0, 6, 0, 2, 0, 2, 0, 16, 0] ∧
      IEv2.bytes (IETree.group 93 0 [.leaf 73 0 [5], .group 180 0 [.leaf 2 0 [16, 0]]]).toIE =
        .ok (IETree.group 93 0 [.leaf 73 0 [5], .group 180 0 [.leaf 2 0 [16, 0]]]).toIE.wire
          (IETree.group 93 0 [.leaf 73 0 [5], .group 180 0 [.leaf 2 0 [16, 0]]]).toIE.setLen ∧
      unpackIEsV2 (IETree.group 93 0 [.leaf 73 0 [5], .group 180 0 [.leaf 2 0 [16, 0]]]).toIE.wire =
        .ok [(IETree.group 93 0 [.leaf 73 0 [5], .group 180 0 [.leaf 2 0 [16, 0]]]).toIE.setLen] ∧
      Decodes (IETree.group 93 0 [.leaf 73 0 [5], .group 180 0 [.leaf 2 0 [16, 0]]])
        (IETree.group 93 0 [.leaf 73 0 [5], .group 180 0 [.leaf 2 0 [16, 0]]]).toIE.setLen :=
  ⟨by decide, ie_framing_v2.2.2 _ (by
    simp [IETree.Packable, IETree.AllPackable, IEv2.Packable, IETree.toIE, IETree.wireAll]; decide)⟩

end DpktGtpc.Gtp
