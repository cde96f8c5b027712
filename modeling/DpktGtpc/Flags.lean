import DpktGtpc.Gtp.Framing
import DpktGtpc.Dns.Message

/-! The header properties of `gtp_c.py` and `dns.py`. Each is a view of one header word: a bit
field, read as `(x >> shift) & width` and written as `(x & ~mask) | ((v & width) << shift)`, or a
one-bit DNS flag, read as `int((op & mask) == mask)` and written with `|=` or `&= ~`. Every setter
writes its own bits and no other, so the properties of one class are independent views of the word
(`Views.get_set_ne`). The setters of `IEv2` are `pass`, and what they are given is never sent. -/

namespace DpktGtpc

/-- `x & ~mask` of a nonnegative integer: `x` with the bits of `mask` cleared. -/
def clearBits (x mask : Nat) : Nat := x ^^^ (x &&& mask)

theorem testBit_clearBits (x mask i : Nat) :
    (clearBits x mask).testBit i = (x.testBit i && !mask.testBit i) := by
  simp only [clearBits, Nat.testBit_xor, Nat.testBit_and]
  cases x.testBit i <;> cases mask.testBit i <;> rfl

/-- A bit field of a header word: `width` wide and `shift` bits up, over the bits of `mask`. -/
structure BitField where
  mask : Nat
  width : Nat
  shift : Nat
  mask_eq : mask = width <<< shift

namespace BitField

variable (f : BitField)

/-- The getter `(x >> shift) & width`. -/
def get (x : Nat) : Nat := (x >>> f.shift) &&& f.width

/-- The setter `(x & ~mask) | ((v & width) << shift)`. -/
def set (x v : Nat) : Nat := clearBits x f.mask ||| ((v &&& f.width) <<< f.shift)

theorem testBit_mask (i : Nat) :
    f.mask.testBit i = (decide (f.shift ≤ i) && f.width.testBit (i - f.shift)) := by
  rw [f.mask_eq, Nat.testBit_shiftLeft]

theorem testBit_set (x v i : Nat) : (f.set x v).testBit i =
    ((x.testBit i && !f.mask.testBit i) || (f.mask.testBit i && v.testBit (i - f.shift))) := by
  simp only [set, Nat.testBit_or, testBit_clearBits, Nat.testBit_shiftLeft, Nat.testBit_and,
    testBit_mask]
  cases decide (f.shift ≤ i) <;> cases f.width.testBit (i - f.shift) <;> simp [Bool.and_comm]

/-- The getter reads back what the setter wrote, cut to the field's width. -/
theorem get_set (x v : Nat) : f.get (f.set x v) = v &&& f.width := by
  apply Nat.eq_of_testBit_eq
  intro i
  simp only [get, Nat.testBit_and, Nat.testBit_shiftRight, testBit_set, testBit_mask,
    Nat.le_add_right, decide_True, Bool.true_and, Nat.add_sub_cancel_left]
  cases x.testBit (f.shift + i) <;> cases f.width.testBit i <;> cases v.testBit i <;> rfl

/-- The setter changes no bit outside the field. -/
theorem clearBits_set (x v : Nat) : clearBits (f.set x v) f.mask = clearBits x f.mask := by
  apply Nat.eq_of_testBit_eq
  intro i
  simp only [testBit_clearBits, testBit_set]
  cases x.testBit i <;> cases f.mask.testBit i <;> simp

/-- The setter keeps the word below `2 ^ n` when the word and the mask are. -/
theorem set_lt {x n : Nat} (hx : x < 2 ^ n) (hm : f.mask < 2 ^ n) (v : Nat) : f.set x v < 2 ^ n := by
  refine Nat.lt_pow_two_of_testBit _ fun i hi => ?_
  have hle : 2 ^ n ≤ 2 ^ i := Nat.pow_le_pow_right (by norm_num) hi
  simp only [testBit_set, Nat.testBit_lt_two_pow (hx.trans_le hle),
    Nat.testBit_lt_two_pow (hm.trans_le hle), Bool.false_and, Bool.or_self]

/-- The getter reads only the bits of the mask. -/
theorem get_congr {x y : Nat} (h : x &&& f.mask = y &&& f.mask) : f.get x = f.get y := by
  apply Nat.eq_of_testBit_eq
  intro i
  have hi := congrArg (Nat.testBit · (f.shift + i)) h
  simp only [Nat.testBit_and, testBit_mask, Nat.le_add_right, decide_True, Bool.true_and,
    Nat.add_sub_cancel_left] at hi
  simp only [get, Nat.testBit_and, Nat.testBit_shiftRight]
  cases hw : f.width.testBit i <;> simp_all

end BitField

/-- Words whose bits outside `M` agree, agree on every mask disjoint from `M`. -/
theorem and_eq_of_clearBits_eq {x y M M' : Nat} (h : clearBits x M = clearBits y M)
    (hd : M &&& M' = 0) : x &&& M' = y &&& M' := by
  apply Nat.eq_of_testBit_eq
  intro i
  have hi := congrArg (Nat.testBit · i) h
  have hdi := congrArg (Nat.testBit · i) hd
  simp only [testBit_clearBits, Nat.testBit_and, Nat.zero_testBit] at hi hdi ⊢
  cases hM : M.testBit i <;> cases hM' : M'.testBit i <;> simp_all

/-- A setter leaves every field whose mask is disjoint from its own as it was. -/
theorem BitField.get_set_of_disjoint (f g : BitField) (h : f.mask &&& g.mask = 0) (x v : Nat) :
    g.get (f.set x v) = g.get x :=
  g.get_congr (and_eq_of_clearBits_eq (f.clearBits_set x v) h)

/-! ### One-bit flags -/

/-- A one-bit flag, read as `int((x & mask) == mask)`. -/
def getFlag (mask x : Nat) : Nat := if x &&& mask = mask then 1 else 0

/-- Its setter: `x |= mask` for a true value, `x &= ~mask` for a false one. -/
def setFlag (mask x v : Nat) : Nat := if v ≠ 0 then x ||| mask else clearBits x mask

section Flag

variable {M x y v : Nat}

theorem getFlag_congr (h : x &&& M = y &&& M) : getFlag M x = getFlag M y := by
  simp only [getFlag, h]

theorem clearBits_and_self (x M : Nat) : clearBits x M &&& M = 0 := by
  apply Nat.eq_of_testBit_eq
  intro i
  simp only [Nat.testBit_and, testBit_clearBits, Nat.zero_testBit]
  cases M.testBit i <;> simp

theorem getFlag_setFlag (hM : M ≠ 0) : getFlag M (setFlag M x v) = if v ≠ 0 then 1 else 0 := by
  have hor : (x ||| M) &&& M = M := by
    apply Nat.eq_of_testBit_eq
    intro i
    simp only [Nat.testBit_and, Nat.testBit_or]
    cases M.testBit i <;> simp
  unfold setFlag
  split_ifs
  · rw [getFlag, if_pos hor]
  · rw [getFlag, clearBits_and_self, if_neg (Ne.symm hM)]

theorem clearBits_setFlag : clearBits (setFlag M x v) M = clearBits x M := by
  apply Nat.eq_of_testBit_eq
  intro i
  unfold setFlag
  split_ifs <;> simp only [testBit_clearBits, Nat.testBit_or] <;>
    cases x.testBit i <;> cases M.testBit i <;> rfl

theorem setFlag_lt {n : Nat} (hx : x < 2 ^ n) (hM : M < 2 ^ n) : setFlag M x v < 2 ^ n := by
  unfold setFlag
  split_ifs
  · exact Nat.or_lt_two_pow hx hM
  · refine Nat.lt_pow_two_of_testBit _ fun i hi => ?_
    simp only [testBit_clearBits,
      Nat.testBit_lt_two_pow (hx.trans_le (Nat.pow_le_pow_right (by norm_num) hi)), Bool.false_and]
end Flag

/-! ### Properties that are views of one word -/

/-- Properties `ι` of an object `σ`, each a view of the word `word`: a property reads only the
bits of its mask and its setter writes no other bit, and the masks of two properties are
disjoint. -/
structure Views (σ ι : Type) where
  word : σ → Nat
  mask : ι → Nat
  get : ι → σ → Nat
  set : ι → σ → Nat → σ
  get_congr : ∀ p s s', word s &&& mask p = word s' &&& mask p → get p s = get p s'
  clearBits_set : ∀ p s v, clearBits (word (set p s v)) (mask p) = clearBits (word s) (mask p)
  disjoint : ∀ p p', p ≠ p' → mask p &&& mask p' = 0

/-- Writing one property leaves every other property as it was. -/
theorem Views.get_set_ne {σ ι : Type} (V : Views σ ι) {p p' : ι} (h : p' ≠ p) (s : σ) (v : Nat) :
    V.get p' (V.set p s v) = V.get p' s :=
  V.get_congr p' _ _ (and_eq_of_clearBits_eq (V.clearBits_set p s v) (V.disjoint p p' h.symm))

/-! ### The flag properties of `GTPv1C` -/

namespace Gtp

namespace GTPv1C

/-- The `version` setter: `flags & ~0xe0 | (v & 0x7) << 5`. -/
def setVersion (m : GTPv1C) (v : Nat) : GTPv1C :=
  { m with flags := BitField.set ⟨0xe0, 0x7, 5, rfl⟩ m.flags v }

/-- The `proto_type` setter: `flags & ~0x10 | (p & 0x1) << 4`. -/
def setProtoType (m : GTPv1C) (p : Nat) : GTPv1C :=
  { m with flags := BitField.set ⟨0x10, 0x1, 4, rfl⟩ m.flags p }

/-- The `e_flag` setter: `flags & ~0x4 | (e & 0x1) << 2`. -/
def setEFlag (m : GTPv1C) (e : Nat) : GTPv1C :=
  { m with flags := BitField.set ⟨0x4, 0x1, 2, rfl⟩ m.flags e }

/-- The `s_flag` setter: `flags & ~0x2 | (s & 0x1) << 1`. -/
def setSFlag (m : GTPv1C) (s : Nat) : GTPv1C :=
  { m with flags := BitField.set ⟨0x2, 0x1, 1, rfl⟩ m.flags s }

/-- The `np_flag` setter: `flags & ~0x1 | n & 0x1`. -/
def setNpFlag (m : GTPv1C) (n : Nat) : GTPv1C :=
  { m with flags := BitField.set ⟨0x1, 0x1, 0, rfl⟩ m.flags n }

/-- The flag properties of `GTPv1C`. -/
inductive Flag where
  | version
  | protoType
  | eFlag
  | sFlag
  | npFlag
  deriving DecidableEq, Repr

namespace Flag

/-- The bits of `flags` that each property reads and writes. -/
def bits : Flag → BitField
  | version => ⟨0xe0, 0x7, 5, rfl⟩
  | protoType => ⟨0x10, 0x1, 4, rfl⟩
  | eFlag => ⟨0x4, 0x1, 2, rfl⟩
  | sFlag => ⟨0x2, 0x1, 1, rfl⟩
  | npFlag => ⟨0x1, 0x1, 0, rfl⟩

/-- The property's getter. -/
def get : Flag → GTPv1C → Nat
  | version => GTPv1C.version
  | protoType => GTPv1C.protoType
  | eFlag => GTPv1C.eFlag
  | sFlag => GTPv1C.sFlag
  | npFlag => GTPv1C.npFlag

/-- The property's setter. -/
def set : Flag → GTPv1C → Nat → GTPv1C
  | version => setVersion
  | protoType => setProtoType
  | eFlag => setEFlag
  | sFlag => setSFlag
  | npFlag => setNpFlag

theorem get_eq (p : Flag) (m : GTPv1C) : p.get m = p.bits.get m.flags := by
  cases p <;> rfl

theorem set_eq (p : Flag) (m : GTPv1C) (v : Nat) : p.set m v = { m with flags := p.bits.set m.flags v } := by
  cases p <;> rfl

theorem disjoint (p p' : Flag) (h : p ≠ p') : p.bits.mask &&& p'.bits.mask = 0 := by
  cases p <;> cases p' <;> first | exact absurd rfl h | decide

/-- The flag properties as views of `flags`. -/
def views : Views GTPv1C Flag where
  word := GTPv1C.flags
  mask p := p.bits.mask
  get := get
  set := set
  get_congr p _ _ h := by simp only [get_eq]; exact p.bits.get_congr h
  clearBits_set p m v := by rw [set_eq]; exact p.bits.clearBits_set m.flags v
  disjoint := disjoint

end Flag

/-- Each flag property's setter writes its value cut to the width of its field, leaves every other
flag property as it was, and keeps `flags` an octet. -/
theorem flag_setters (p : Flag) (m : GTPv1C) (v : Nat) :
    p.get (p.set m v) = v &&& p.bits.width ∧
    (∀ p', p' ≠ p → p'.get (p.set m v) = p'.get m) ∧
    (m.flags < 2 ^ 8 → (p.set m v).flags < 2 ^ 8) := by
  refine ⟨?_, fun p' h => Flag.views.get_set_ne h m v, fun h => ?_⟩
  · rw [Flag.get_eq, Flag.set_eq]
    exact p.bits.get_set _ _
  · rw [Flag.set_eq]
    exact p.bits.set_lt h (by cases p <;> decide) v

end GTPv1C

/-! ### The `encoding` property of `IEv1` and the setters of `IEv2` -/

/-- The `encoding` setter of `IEv1`: `type & ~0x80 | (e & 0x1) << 7`. -/
def IEv1.setEncoding (ie : IEv1) (e : Nat) : IEv1 :=
  { ie with type := BitField.set ⟨0x80, 0x1, 7, rfl⟩ ie.type e }

/-- Setting `encoding` decides whether `len()` counts a two-byte length field: an odd value makes
the IE a TLV IE, an even one a TV IE. -/
theorem IEv1.length_setEncoding (ie : IEv1) (e : Nat) :
    (ie.setEncoding e).length = if e &&& 0x1 ≠ 0 then 1 + 2 + ie.data.length else 1 + ie.data.length :=
  congrArg (fun b => if b ≠ 0 then 1 + 2 + ie.data.length else 1 + ie.data.length)
    (BitField.get_set ⟨0x80, 0x1, 7, rfl⟩ ie.type e)

/-- `IEv2(type=t, cr_flag=c, instance=i, data=d)` goes out with a zero flags octet: whatever `c` and
`i`, `IEv2()` reads back from what `bytes()` wrote an IE of type `t` and value `d` whose `cr_flag` and
`instance` are 0, both setters being `pass`. -/
theorem IEv2.build_drops_instance {t : Nat} {d : Bytes} (ht : t < 256) (hd : d.length < 65536)
    (c i : Nat) :
    ∃ b ie, IEv2.bytes (IEv2.build t c i d) = .ok b (IEv2.build t c i d).setLen ∧
      IEv2.init b = .ok ie ∧ ie.type = t ∧ ie.data = d ∧ ie.crFlag = 0 ∧ ie.instance = 0 := by
  have hp : (IEv2.build t c i d).Packable := ⟨ht, show 0 < 256 by decide, hd⟩
  exact ⟨_, (IEv2.build t c i d).setLen, IEv2.bytes_packable hp, by simpa using IEv2.init_wire hp [],
    rfl, rfl, show (0 >>> 4) &&& 0xf = 0 from rfl, show 0 &&& 0xf = 0 from rfl⟩

/-- An F-TEID IE (type 87) built with `instance=2`, as `gtpc_factory.py` builds the data-plane
F-TEID of a bearer context: it is read back with instance 0. -/
theorem IEv2.build_drops_instance_fteid :
    87 < 256 ∧ ([] : Bytes).length < 65536 ∧
      ∃ b ie, IEv2.bytes (IEv2.build 87 0 2 []) = .ok b (IEv2.build 87 0 2 []).setLen ∧
        IEv2.init b = .ok ie ∧ ie.type = 87 ∧ ie.data = [] ∧ ie.crFlag = 0 ∧ ie.instance = 0 :=
  ⟨by decide, by decide, IEv2.build_drops_instance (by decide) (by decide) 0 2⟩

/-! ### The flag properties of `GTPv2C` -/

namespace GTPv2C

/-- The flag properties of `GTPv2C`. -/
inductive Flag where
  | version
  | pFlag
  | tFlag
  deriving DecidableEq, Repr

namespace Flag

/-- The bits of `flags` that each property reads and writes. -/
def bits : Flag → BitField
  | version => ⟨0xe0, 0x7, 5, rfl⟩
  | pFlag => ⟨0x10, 0x1, 4, rfl⟩
  | tFlag => ⟨0x8, 0x1, 3, rfl⟩

/-- The property's getter. -/
def get : Flag → GTPv2C → Nat
  | version => GTPv2C.version
  | pFlag => GTPv2C.pFlag
  | tFlag => GTPv2C.tFlag

/-- The property's setter. -/
def set : Flag → GTPv2C → Nat → GTPv2C
  | version => setVersion
  | pFlag => setPFlag
  | tFlag => setTFlag

theorem get_eq (p : Flag) (m : GTPv2C) : p.get m = p.bits.get m.flags := by
  cases p <;> rfl

theorem set_eq (p : Flag) (m : GTPv2C) (v : Nat) :
    p.set m v = { m with flags := p.bits.set m.flags v } := by
  cases p <;> rfl

theorem get_set (p : Flag) (m : GTPv2C) (v : Nat) : p.get (p.set m v) = v &&& p.bits.width := by
  rw [get_eq, set_eq]
  exact p.bits.get_set _ _

theorem set_lt (p : Flag) {m : GTPv2C} (h : m.flags < 2 ^ 8) (v : Nat) : (p.set m v).flags < 2 ^ 8 := by
  rw [set_eq]
  exact p.bits.set_lt h (by cases p <;> decide) v

/-- The flag properties as views of `flags`. -/
def views : Views GTPv2C Flag where
  word := GTPv2C.flags
  mask p := p.bits.mask
  get := get
  set := set
  get_congr p _ _ h := by simp only [get_eq]; exact p.bits.get_congr h
  clearBits_set p m v := by rw [set_eq]; exact p.bits.clearBits_set m.flags v
  disjoint p p' h := by cases p <;> cases p' <;> first | exact absurd rfl h | decide

end Flag

/-- `GTPv2C(version=v, p_flag=p, t_flag=t, ...)` reads back each flag property as its keyword cut
to the width of its field, and its `flags` is an octet. -/
theorem build_flags (version p t type : Nat) (teid seqnum : Int) (ies : List IEv2) :
    (build version p t type teid seqnum ies).version = version &&& 0x7 ∧
    (build version p t type teid seqnum ies).pFlag = p &&& 0x1 ∧
    (build version p t type teid seqnum ies).tFlag = t &&& 0x1 ∧
    (build version p t type teid seqnum ies).flags < 2 ^ 8 := by
  let m : GTPv2C := { flags := 0, type := 0, len := 0, teid := none, seqnum := none,
                      priority := none, data := .bytes [], ies := none }
  have hb : ∀ q : Flag, q.get (build version p t type teid seqnum ies) =
      q.get (Flag.tFlag.set (Flag.pFlag.set (Flag.version.set m version) p) t) := by
    intro q; cases q <;> rfl
  refine ⟨?_, ?_, ?_, ?_⟩
  · calc (build version p t type teid seqnum ies).version
        = Flag.version.get (Flag.tFlag.set (Flag.pFlag.set (Flag.version.set m version) p) t) :=
          hb .version
      _ = Flag.version.get (Flag.pFlag.set (Flag.version.set m version) p) :=
          Flag.views.get_set_ne (by decide : Flag.version ≠ Flag.tFlag) _ _
      _ = Flag.version.get (Flag.version.set m version) :=
          Flag.views.get_set_ne (by decide : Flag.version ≠ Flag.pFlag) _ _
      _ = version &&& 0x7 := Flag.get_set _ _ _
  · calc (build version p t type teid seqnum ies).pFlag
        = Flag.pFlag.get (Flag.tFlag.set (Flag.pFlag.set (Flag.version.set m version) p) t) :=
          hb .pFlag
      _ = Flag.pFlag.get (Flag.pFlag.set (Flag.version.set m version) p) :=
          Flag.views.get_set_ne (by decide : Flag.pFlag ≠ Flag.tFlag) _ _
      _ = p &&& 0x1 := Flag.get_set _ _ _
  · exact (hb .tFlag).trans (Flag.get_set _ _ _)
  · exact Flag.set_lt .tFlag (Flag.set_lt .pFlag (Flag.set_lt .version (m := m) (by decide) version) p) t

end GTPv2C

end Gtp

/-! ### The header properties of `DNS` -/

namespace Dns

def DNS_QR : Nat := 0x8000
def DNS_AA : Nat := 0x0400
def DNS_TC : Nat := 0x0200
def DNS_RA : Nat := 0x0080
def DNS_Z : Nat := 0x0040

namespace DNS

/-- The `qr` property: `int((op & DNS_QR) == DNS_QR)`. -/
def qr (m : DNS) : Nat := getFlag DNS_QR m.op

/-- The `qr` setter: `op |= DNS_QR` for a true value, `op &= ~DNS_QR` otherwise. -/
def setQr (m : DNS) (v : Nat) : DNS := { m with op := setFlag DNS_QR m.op v }

/-- The `opcode` property: `(op >> 11) & 0xf`. -/
def opcode (m : DNS) : Nat := BitField.get ⟨0x7800, 0xf, 11, rfl⟩ m.op

/-- The `opcode` setter: `(op & ~0x7800) | ((v & 0xf) << 11)`. -/
def setOpcode (m : DNS) (v : Nat) : DNS := { m with op := BitField.set ⟨0x7800, 0xf, 11, rfl⟩ m.op v }

/-- The `aa` property: `int((op & DNS_AA) == DNS_AA)`. -/
def aa (m : DNS) : Nat := getFlag DNS_AA m.op

/-- The `aa` setter. -/
def setAa (m : DNS) (v : Nat) : DNS := { m with op := setFlag DNS_AA m.op v }

/-- The `tc` property: `int((op & DNS_TC) == DNS_TC)`. -/
def tc (m : DNS) : Nat := getFlag DNS_TC m.op

/-- The `tc` setter. -/
def setTc (m : DNS) (v : Nat) : DNS := { m with op := setFlag DNS_TC m.op v }

/-- The `rd` property: `int((op & DNS_RD) == DNS_RD)`. -/
def rd (m : DNS) : Nat := getFlag DNS_RD m.op

/-- The `rd` setter. -/
def setRd (m : DNS) (v : Nat) : DNS := { m with op := setFlag DNS_RD m.op v }

/-- The `ra` property: `int((op & DNS_RA) == DNS_RA)`. -/
def ra (m : DNS) : Nat := getFlag DNS_RA m.op

/-- The `ra` setter. -/
def setRa (m : DNS) (v : Nat) : DNS := { m with op := setFlag DNS_RA m.op v }

/-- The `zero` property: `int((op & DNS_Z) == DNS_Z)`. -/
def zero (m : DNS) : Nat := getFlag DNS_Z m.op

/-- The `zero` setter. -/
def setZero (m : DNS) (v : Nat) : DNS := { m with op := setFlag DNS_Z m.op v }

/-- The `rcode` property: `op & 0xf`. -/
def rcode (m : DNS) : Nat := BitField.get ⟨0xf, 0xf, 0, rfl⟩ m.op

/-- The `rcode` setter: `(op & ~0xf) | (v & 0xf)`. -/
def setRcode (m : DNS) (v : Nat) : DNS := { m with op := BitField.set ⟨0xf, 0xf, 0, rfl⟩ m.op v }

/-- The header properties of `DNS`: six one-bit flags and the two four-bit fields `opcode` and
`rcode`, all of them views of `op`. -/
inductive Header where
  | qr
  | opcode
  | aa
  | tc
  | rd
  | ra
  | zero
  | rcode
  deriving DecidableEq, Repr

namespace Header

/-- The bits of `op` that each property reads and writes. -/
def mask : Header → Nat
  | qr => DNS_QR
  | opcode => 0x7800
  | aa => DNS_AA
  | tc => DNS_TC
  | rd => DNS_RD
  | ra => DNS_RA
  | zero => DNS_Z
  | rcode => 0xf

/-- The property's getter. -/
def get : Header → DNS → Nat
  | qr => DNS.qr
  | opcode => DNS.opcode
  | aa => DNS.aa
  | tc => DNS.tc
  | rd => DNS.rd
  | ra => DNS.ra
  | zero => DNS.zero
  | rcode => DNS.rcode

/-- The property's setter. -/
def set : Header → DNS → Nat → DNS
  | qr => setQr
  | opcode => setOpcode
  | aa => setAa
  | tc => setTc
  | rd => setRd
  | ra => setRa
  | zero => setZero
  | rcode => setRcode

/-- What the property reads after its setter wrote `v`: the truth of `v` for a flag, `v & 0xf` for
`opcode` and `rcode`. -/
def written : Header → Nat → Nat
  | opcode, v => v &&& 0xf
  | rcode, v => v &&& 0xf
  | _, v => if v ≠ 0 then 1 else 0

theorem set_op (p : Header) (m : DNS) (v : Nat) : p.set m v = { m with op := (p.set m v).op } := by
  cases p <;> rfl

theorem get_set (p : Header) (m : DNS) (v : Nat) : p.get (p.set m v) = p.written v := by
  cases p
  case opcode => exact BitField.get_set _ _ _
  case rcode => exact BitField.get_set _ _ _
  all_goals exact getFlag_setFlag (by decide)

theorem set_lt (p : Header) {m : DNS} (h : m.op < 2 ^ 16) (v : Nat) : (p.set m v).op < 2 ^ 16 := by
  cases p
  case opcode => exact BitField.set_lt _ h (by decide) v
  case rcode => exact BitField.set_lt _ h (by decide) v
  all_goals exact setFlag_lt h (by decide)

/-- The header properties as views of `op`. -/
def views : Views DNS Header where
  word := DNS.op
  mask := mask
  get := get
  set := set
  get_congr p _ _ h := by
    cases p
    case opcode => exact BitField.get_congr _ h
    case rcode => exact BitField.get_congr _ h
    all_goals exact getFlag_congr h
  clearBits_set p m v := by
    cases p
    case opcode => exact BitField.clearBits_set _ _ _
    case rcode => exact BitField.clearBits_set _ _ _
    all_goals exact clearBits_setFlag
  disjoint p p' h := by cases p <;> cases p' <;> first | exact absurd rfl h | decide

end Header

/-- Each header property's setter writes the truth of its value for a flag, or the value cut to four
bits for `opcode` and `rcode`; it leaves every other header property and every field but `op` as it
was, and keeps `op` within two bytes. -/
theorem header_setters (p : Header) (m : DNS) (v : Nat) :
    p.get (p.set m v) = p.written v ∧
    (∀ p', p' ≠ p → p'.get (p.set m v) = p'.get m) ∧
    p.set m v = { m with op := (p.set m v).op } ∧
    (m.op < 2 ^ 16 → (p.set m v).op < 2 ^ 16) :=
  ⟨p.get_set m v, fun _ h => Header.views.get_set_ne h m v, p.set_op m v, fun h => p.set_lt h v⟩

end DNS

end Dns

end DpktGtpc
