import Mathlib

/-! The parts of the Python runtime that `dns.py` and `gtp_c.py` rely on: byte strings, the
exceptions that can leave the codecs, slicing and indexing with Python's rules for negative and
out-of-range bounds, the `struct` formats the codecs use, the `bytes` methods of the DNS name code,
and the combinators for code that mutates the object it runs on. -/

namespace DpktGtpc

/-- A Python `bytes` value. -/
abbrev Bytes := List UInt8

/-- The exceptions that can leave the codecs. `NeedData` is a subclass of `UnpackError`. -/
inductive PyError where
  | needData
  | unpackError (msg : String)
  | packError (msg : String)
  | structError
  | indexError
  | typeError
  | valueError
  | attributeError (name : String)
  | unicodeDecodeError
  deriving DecidableEq, Repr

/-- `isinstance(e, dpkt.UnpackError)`. -/
def PyError.isUnpackError : PyError → Bool
  | .needData | .unpackError _ => true
  | _ => false

/-! ### Slicing and indexing -/

/-- A slice bound `i` against a sequence of length `n`, normalised as CPython does. -/
def sliceBound (n : Nat) (i : Int) : Nat :=
  if i < 0 then (i + n).toNat else min i.toNat n

/-- `b[i:j]`. -/
def pySlice (b : List α) (i j : Int) : List α :=
  (b.drop (sliceBound b.length i)).take (sliceBound b.length j - sliceBound b.length i)

theorem pySlice_ofNat (b : List α) (i j : Nat) : pySlice b i j = (b.drop i).take (j - i) := by
  simp only [pySlice, sliceBound, Int.not_lt.mpr (Int.ofNat_nonneg _), if_false, Int.toNat_ofNat]
  rcases Nat.le_total i b.length with hi | hi <;> rcases Nat.le_total j b.length with hj | hj
  · rw [Nat.min_eq_left hi, Nat.min_eq_left hj]
  · rw [Nat.min_eq_left hi, Nat.min_eq_right hj, List.take_of_length_le (by simp),
      List.take_of_length_le (by simp; omega)]
  all_goals simp [List.drop_of_length_le hi, Nat.min_eq_right hi]

theorem length_pySlice_le (b : List α) (i j : Int) :
    (pySlice b i j).length ≤ sliceBound b.length j - sliceBound b.length i :=
  List.length_take_le _ _

/-- A slice `b[i:i + n]` has at most `n` elements. -/
theorem length_pySlice_add_le (b : List α) (i : Int) (n : Nat) : (pySlice b i (i + n)).length ≤ n := by
  refine (length_pySlice_le _ _ _).trans ?_
  unfold sliceBound; split_ifs <;> omega

/-- A slice `b[i:i + n]` from `i ≥ 0` that has all `n > 0` elements lies inside `b`. -/
theorem le_length_of_length_pySlice {b : List α} {i : Int} {n : Nat} (hi : 0 ≤ i) (hn : 0 < n)
    (h : (pySlice b i (i + n)).length = n) : i + n ≤ b.length := by
  have := length_pySlice_le b i (i + n)
  unfold sliceBound at this; split_ifs at this <;> omega

/-- `b[i]`: an `IndexError` unless `-len(b) ≤ i < len(b)`. -/
def pyIndex (b : List α) (i : Int) : Except PyError α :=
  let k := if i < 0 then i + b.length else i
  if 0 ≤ k then
    match b[k.toNat]? with
    | some x => .ok x
    | none => .error .indexError
  else .error .indexError

theorem pyIndex_ofNat (b : List α) (i : Nat) :
    pyIndex b i = match b[i]? with | some x => .ok x | none => .error .indexError := by
  have h0 : ¬ ((i : Int) < 0) := by omega
  have h1 : (0 : Int) ≤ i := by omega
  simp [pyIndex, h0, h1]

theorem pyIndex_of_lt {b : List α} {i : Int} (h0 : 0 ≤ i) (h : i < b.length) :
    pyIndex b i = .ok (b.get ⟨i.toNat, by omega⟩) := by
  simp [pyIndex, Int.not_lt.mpr h0, h0, List.getElem?_eq_getElem (show i.toNat < b.length by omega)]

/-- `compat_ord(b[i])` at an index `i ≥ 0`. -/
def ordAt (b : Bytes) (i : Nat) : Except PyError Nat :=
  match b[i]? with
  | some x => .ok x.toNat
  | none => .error .indexError

theorem ordAt_of_lt {b : Bytes} {i : Nat} (h : i < b.length) : ordAt b i = .ok b[i].toNat := by
  simp [ordAt, List.getElem?_eq_getElem h]

theorem ordAt_of_le {b : Bytes} {i : Nat} (h : b.length ≤ i) : ordAt b i = .error .indexError := by
  simp [ordAt, List.getElem?_eq_none h]

/-! ### `struct` -/

/-- The `n` bytes of `v % 256 ^ n` in network order. -/
def beBytes : Nat → Nat → Bytes
  | 0, _ => []
  | n + 1, v => beBytes n (v / 256) ++ [(v % 256).toUInt8]

/-- The number that `b` spells in network order. -/
def beValue (b : Bytes) : Nat := b.foldl (fun acc x => acc * 256 + x.toNat) 0

@[simp] theorem length_beBytes (n v : Nat) : (beBytes n v).length = n := by
  induction n generalizing v with
  | zero => rfl
  | succ n ih => simp [beBytes, ih]

theorem beValue_append_single (b : Bytes) (x : UInt8) :
    beValue (b ++ [x]) = beValue b * 256 + x.toNat := by
  simp [beValue, List.foldl_append]

theorem beValue_beBytes (n v : Nat) : beValue (beBytes n v) = v % 256 ^ n := by
  induction n generalizing v with
  | zero => simp [beBytes, beValue, Nat.mod_one]
  | succ n ih =>
    have hbyte : ((v % 256).toUInt8).toNat = v % 256 := by
      simp [Nat.toUInt8, UInt8.toNat, UInt8.ofNat, Fin.ofNat, Nat.mod_mod]
    rw [beBytes, beValue_append_single, ih, hbyte, Nat.pow_succ', Nat.mod_mul, Nat.add_comm,
      Nat.mul_comm]

theorem beValue_lt (b : Bytes) : beValue b < 256 ^ b.length := by
  induction b using List.reverseRecOn with
  | nil => simp [beValue]
  | append_singleton b x ih =>
    rw [beValue_append_single, List.length_append, List.length_singleton, Nat.pow_succ]
    have hx : x.toNat < 256 := x.val.isLt
    have := Nat.mul_le_mul_right 256 (Nat.succ_le_of_lt ih)
    rw [Nat.succ_mul] at this
    omega

theorem beBytes_beValue (b : Bytes) : beBytes b.length (beValue b) = b := by
  induction b using List.reverseRecOn with
  | nil => rfl
  | append_singleton b x ih =>
    have hx : x.toNat < 256 := x.val.isLt
    have hdiv : (beValue b * 256 + x.toNat) / 256 = beValue b := by omega
    have hmod : (beValue b * 256 + x.toNat) % 256 = x.toNat := by omega
    rw [List.length_append, List.length_singleton, beBytes, beValue_append_single, hdiv, hmod, ih]
    exact congrArg (b ++ [·]) (UInt8.toNat.inj (UInt8.toNat_ofNat_of_lt hx))

/-- `struct.pack` of one unsigned field of `n` bytes (`'B'`, `'>H'`, `'>I'`). -/
def packUInt (n : Nat) (v : Int) : Except PyError Bytes :=
  if 0 ≤ v ∧ v < 256 ^ n then .ok (beBytes n v.toNat) else .error .structError

/-- `struct.unpack` of one unsigned field of `n` bytes. -/
def unpackUInt (n : Nat) (b : Bytes) : Except PyError Nat :=
  if b.length = n then .ok (beValue b) else .error .structError

theorem unpackUInt_of_length {n : Nat} {b : Bytes} (h : b.length = n) :
    unpackUInt n b = .ok (beValue b) := by
  simp [unpackUInt, h]

theorem packUInt_ofNat {n v : Nat} (h : v < 256 ^ n) : packUInt n v = .ok (beBytes n v) := by
  have hv : (v : Int) < 256 ^ n := by exact_mod_cast h
  have h0 : (0 : Int) ≤ v := by omega
  simp [packUInt, hv, h0]

/-- The fields of widths `ws`, read in network order from the start of `b`. -/
def beFields : List Nat → Bytes → List Nat
  | [], _ => []
  | w :: ws, b => beValue (b.take w) :: beFields ws (b.drop w)

/-- `struct.unpack` of unsigned fields of widths `ws`: `struct.error` unless `b` has exactly their
total width. -/
def structUnpack (ws : List Nat) (b : Bytes) : Except PyError (List Nat) :=
  if b.length = ws.sum then .ok (beFields ws b) else .error .structError

theorem structUnpack_of_length {ws : List Nat} {b : Bytes} (h : b.length = ws.sum) :
    structUnpack ws b = .ok (beFields ws b) := by
  simp [structUnpack, h]

/-- `struct.pack` of unsigned fields, each a width and a value. -/
def structPack : List (Nat × Int) → Except PyError Bytes
  | [] => .ok []
  | (w, v) :: fs => do
    let b ← packUInt w v
    let rest ← structPack fs
    pure (b ++ rest)

/-- `(v >> 8 * k) & 0xff` of a Python integer. -/
def byteOf (v : Int) (k : Nat) : UInt8 := ((v / 256 ^ k) % 256).toNat.toUInt8

/-! ### `bytes` methods used on DNS names -/

/-- `bytes.upper` on one byte: ASCII `a`–`z` only. -/
def upperByte (c : UInt8) : UInt8 := if 0x61 ≤ c ∧ c ≤ 0x7A then c - 0x20 else c

/-- `bytes.upper()`. -/
def bytesUpper (b : Bytes) : Bytes := b.map upperByte

/-- `b'.'.join(parts)`. -/
def joinDot (parts : List Bytes) : Bytes := [0x2E].intercalate parts

/-- `b.split(b'.')`. -/
def splitDot : Bytes → List Bytes
  | [] => [[]]
  | c :: rest =>
    if c = 0x2E then [] :: splitDot rest
    else match splitDot rest with
      | part :: parts => (c :: part) :: parts
      | [] => [[c]]

theorem upperByte_eq_dot {c : UInt8} : upperByte c = 0x2E ↔ c = 0x2E := by
  unfold upperByte
  split_ifs with h
  · have h1 : 97 ≤ c.toNat := BitVec.le_def.mp (UInt8.le_def.mp h.1)
    have hs := UInt8.toNat_sub_of_le c 0x20 (UInt8.le_trans (by decide) h.1)
    constructor
    · intro h'
      have h2 := congrArg UInt8.toNat h'
      rw [hs] at h2
      change c.toNat - 32 = 46 at h2
      omega
    · rintro rfl; exact absurd h.1 (by decide)
  · rfl

@[simp] theorem length_bytesUpper (b : Bytes) : (bytesUpper b).length = b.length :=
  List.length_map _ _

theorem dot_mem_bytesUpper {b : Bytes} : 0x2E ∈ bytesUpper b ↔ 0x2E ∈ b := by
  simp only [bytesUpper, List.mem_map, upperByte_eq_dot, exists_eq_right]

@[simp] theorem joinDot_nil : joinDot [] = [] := rfl

@[simp] theorem joinDot_singleton (l : Bytes) : joinDot [l] = l := by
  simp [joinDot, List.intercalate]

theorem joinDot_cons_cons (a b : Bytes) (ls : List Bytes) :
    joinDot (a :: b :: ls) = a ++ 0x2E :: joinDot (b :: ls) := by
  simp [joinDot, List.intercalate]

theorem joinDot_append_nil : ∀ {ls : List Bytes}, ls ≠ [] →
    joinDot (ls ++ [[]]) = joinDot ls ++ [0x2E]
  | [l], _ => by simp [joinDot_cons_cons]
  | l :: l' :: ls, _ => by
    rw [List.cons_append, List.cons_append, joinDot_cons_cons, ← List.cons_append,
      joinDot_append_nil (List.cons_ne_nil _ _), joinDot_cons_cons]
    simp

theorem bytesUpper_joinDot : ∀ ls : List Bytes, bytesUpper (joinDot ls) = joinDot (ls.map bytesUpper)
  | [] => rfl
  | [l] => by simp
  | l :: l' :: ls => by
    have ih := bytesUpper_joinDot (l' :: ls)
    rw [List.map_cons, List.map_cons, joinDot_cons_cons, joinDot_cons_cons, ← List.map_cons, ← ih]
    simp only [bytesUpper, List.map_append, List.map_cons]
    rfl

theorem splitDot_of_dot_not_mem {l : Bytes} (h : 0x2E ∉ l) : splitDot l = [l] := by
  induction l with
  | nil => rfl
  | cons c l ih =>
    simp only [List.mem_cons, not_or] at h
    simp [splitDot, Ne.symm h.1, ih h.2]

theorem splitDot_append_dot {l : Bytes} (h : 0x2E ∉ l) (rest : Bytes) :
    splitDot (l ++ 0x2E :: rest) = l :: splitDot rest := by
  induction l with
  | nil => simp [splitDot]
  | cons c l ih =>
    simp only [List.mem_cons, not_or] at h
    simp [splitDot, Ne.symm h.1, ih h.2]

/-- `split(b'.')` undoes `b'.'.join` on labels without a dot. -/
theorem splitDot_joinDot : ∀ {ls : List Bytes}, ls ≠ [] → (∀ l ∈ ls, 0x2E ∉ l) →
    splitDot (joinDot ls) = ls
  | [l], _, h => by simp [splitDot_of_dot_not_mem (h l (by simp))]
  | l :: l' :: ls, _, h => by
    rw [joinDot_cons_cons, splitDot_append_dot (h l (by simp)),
      splitDot_joinDot (List.cons_ne_nil _ _) fun x hx => h x (List.mem_cons_of_mem _ hx)]

/-! ### Failure and mutation -/

instance instDecidableEqExcept [DecidableEq ε] [DecidableEq α] : DecidableEq (Except ε α)
  | .ok a, .ok b => decidable_of_iff (a = b) ⟨congrArg _, fun h => by cases h; rfl⟩
  | .error a, .error b => decidable_of_iff (a = b) ⟨congrArg _, fun h => by cases h; rfl⟩
  | .ok _, .error _ => isFalse nofun
  | .error _, .ok _ => isFalse nofun

instance instDecidableEqResult [DecidableEq ε] [DecidableEq σ] [DecidableEq α] :
    DecidableEq (EStateM.Result ε σ α)
  | .ok a s, .ok b t =>
    decidable_of_iff (a = b ∧ s = t) ⟨fun ⟨ha, hs⟩ => ha ▸ hs ▸ rfl, fun h => by cases h; simp⟩
  | .error a s, .error b t =>
    decidable_of_iff (a = b ∧ s = t) ⟨fun ⟨ha, hs⟩ => ha ▸ hs ▸ rfl, fun h => by cases h; simp⟩
  | .ok .., .error .. => isFalse nofun
  | .error .., .ok .. => isFalse nofun

@[simp] theorem except_ok_bind (a : α) (f : α → Except ε β) : (Except.ok a >>= f) = f a := rfl

@[simp] theorem except_error_bind (e : ε) (f : α → Except ε β) :
    (Except.error e >>= f) = Except.error e := rfl

@[simp] theorem except_pure (a : α) : (pure a : Except ε α) = Except.ok a := rfl

@[simp] theorem except_throw (e : ε) : (throw e : Except ε α) = Except.error e := rfl

theorem except_bind_eq_ok {x : Except ε α} {f : α → Except ε β} {b : β} :
    (x >>= f) = .ok b ↔ ∃ a, x = .ok a ∧ f a = .ok b := by
  cases x <;> simp

@[simp] theorem except_map_ok (f : α → β) (a : α) : (f <$> Except.ok a : Except ε β) = .ok (f a) :=
  rfl

@[simp] theorem except_map_error (f : α → β) (e : ε) :
    (f <$> Except.error e : Except ε β) = .error e := rfl

/-- Every exception that `x` raises satisfies `P`. -/
def RaisesOnly (P : PyError → Prop) (x : Except PyError α) : Prop :=
  ∀ e, x = .error e → P e

theorem RaisesOnly.ok (P : PyError → Prop) (a : α) : RaisesOnly P (.ok a) := by
  intro e h; cases h

theorem RaisesOnly.error {P : PyError → Prop} {e : PyError} (h : P e) :
    RaisesOnly P (.error e : Except PyError α) := by
  intro e' h'; cases h'; exact h

theorem RaisesOnly.mono {P Q : PyError → Prop} {x : Except PyError α} (h : RaisesOnly P x)
    (hPQ : ∀ e, P e → Q e) : RaisesOnly Q x := fun e he => hPQ e (h e he)

theorem RaisesOnly.bind {P : PyError → Prop} {x : Except PyError α}
    {f : α → Except PyError β} (hx : RaisesOnly P x) (hf : ∀ a, x = .ok a → RaisesOnly P (f a)) :
    RaisesOnly P (x >>= f) := by
  intro e h
  cases hxa : x with
  | error e' =>
    rw [hxa] at h
    exact Except.error.inj h ▸ hx e' hxa
  | ok a => rw [hxa] at h; exact hf a hxa e h

theorem RaisesOnly.ite {P : PyError → Prop} {c : Prop} [Decidable c] {x y : Except PyError α}
    (hx : c → RaisesOnly P x) (hy : ¬c → RaisesOnly P y) : RaisesOnly P (if c then x else y) := by
  split_ifs with h
  exacts [hx h, hy h]

/-- Every value that `x` returns satisfies `P`. -/
def ReturnsOnly (P : α → Prop) (x : Except PyError α) : Prop :=
  ∀ a, x = .ok a → P a

theorem ReturnsOnly.ok {P : α → Prop} {a : α} (h : P a) : ReturnsOnly P (.ok a) := by
  intro a' h'; cases h'; exact h

theorem ReturnsOnly.error (P : α → Prop) (e : PyError) : ReturnsOnly P (.error e) := by
  intro a h; cases h

theorem ReturnsOnly.bind {P : β → Prop} {x : Except PyError α} {f : α → Except PyError β}
    (hf : ∀ a, x = .ok a → ReturnsOnly P (f a)) : ReturnsOnly P (x >>= f) := by
  intro b h
  obtain ⟨a, ha, h⟩ := except_bind_eq_ok.mp h
  exact hf a ha b h

theorem ReturnsOnly.ite {P : α → Prop} {c : Prop} [Decidable c] {x y : Except PyError α}
    (hx : c → ReturnsOnly P x) (hy : ¬c → ReturnsOnly P y) : ReturnsOnly P (if c then x else y) := by
  split_ifs with h
  exacts [hx h, hy h]

theorem ordAt_raisesOnly (b : Bytes) (i : Nat) : RaisesOnly (· = .indexError) (ordAt b i) := by
  intro e h; unfold ordAt at h; split at h <;> cases h; rfl

theorem unpackUInt_raisesOnly (n : Nat) (b : Bytes) :
    RaisesOnly (· = .structError) (unpackUInt n b) := by
  intro e h; unfold unpackUInt at h; split at h <;> cases h; rfl

theorem structUnpack_raisesOnly (ws : List Nat) (b : Bytes) :
    RaisesOnly (· = .structError) (structUnpack ws b) := by
  intro e h; unfold structUnpack at h; split at h <;> cases h; rfl

/-- An `Except` computation run inside an `EStateM` one, the state untouched. -/
def liftE (x : Except ε α) : EStateM ε σ α := fun s =>
  match x with
  | .ok a => .ok a s
  | .error e => .error e s

/-- `x` run on the part `get s` of the state, the part written back whatever `x` ends with. -/
def zoom (get : σ → τ) (set : σ → τ → σ) (x : EStateM ε τ α) : EStateM ε σ α := fun s =>
  match x (get s) with
  | .ok a t => .ok a (set s t)
  | .error e t => .error e (set s t)

/-- `[f(x) for x in xs]` when `f` mutates the `x` it runs on: the results, and every element as
`f` left it; an exception leaves the elements after it untouched. -/
def mapMut (f : EStateM ε σ α) : EStateM ε (List σ) (List α)
  | [] => .ok [] []
  | x :: xs =>
    match f x with
    | .error e x' => .error e (x' :: xs)
    | .ok a x' =>
      match mapMut f xs with
      | .ok as xs' => .ok (a :: as) (x' :: xs')
      | .error e xs' => .error e (x' :: xs')

theorem length_packUInt {n : Nat} {v : Int} {b : Bytes} (h : packUInt n v = .ok b) :
    b.length = n := by
  unfold packUInt at h; split_ifs at h; cases h; exact length_beBytes n _

theorem length_structPack {fs : List (Nat × Int)} {b : Bytes} (h : structPack fs = .ok b) :
    b.length = (fs.map Prod.fst).sum := by
  induction fs generalizing b with
  | nil => cases h; rfl
  | cons f fs ih =>
    obtain ⟨p, hp, h⟩ := except_bind_eq_ok.mp h
    obtain ⟨r, hr, h⟩ := except_bind_eq_ok.mp h
    cases h
    simp [length_packUInt hp, ih hr]

/-- `struct.unpack` reads back, from the front of any buffer, the values `struct.pack` wrote. -/
theorem beFields_structPack : ∀ {fs : List (Nat × Int)} {b : Bytes}, structPack fs = .ok b →
    ∀ r : Bytes, beFields (fs.map Prod.fst) (b ++ r) = fs.map fun f => f.2.toNat
  | [], _, _, _ => rfl
  | (w, v) :: fs, b, h, r => by
    obtain ⟨p, hp, h⟩ := except_bind_eq_ok.mp h
    obtain ⟨q, hq, h⟩ := except_bind_eq_ok.mp h
    cases h
    have hpl := length_packUInt hp
    unfold packUInt at hp
    split_ifs at hp with hv
    cases hp
    have hpow : (((256 ^ w : Nat) : Int)) = 256 ^ w := by push_cast; rfl
    rw [List.map_cons, List.map_cons, beFields, List.append_assoc, List.take_left' hpl,
      List.drop_left' hpl, beFields_structPack hq r, beValue_beBytes, Nat.mod_eq_of_lt (by omega)]

theorem structUnpack_structPack {fs : List (Nat × Int)} {b : Bytes} (h : structPack fs = .ok b) :
    structUnpack (fs.map Prod.fst) b = .ok (fs.map fun f => f.2.toNat) := by
  rw [structUnpack_of_length (length_structPack h), ← beFields_structPack h [], List.append_nil]

/-! ### Running mutating code -/

/-- The state that an `EStateM` run ends in, whether it returns or raises. -/
def finalState : EStateM.Result ε σ α → σ
  | .ok _ s => s
  | .error _ s => s

@[simp] theorem finalState_ok (a : α) (s : σ) :
    finalState (.ok a s : EStateM.Result ε σ α) = s := rfl

@[simp] theorem finalState_error (e : ε) (s : σ) :
    finalState (.error e s : EStateM.Result ε σ α) = s := rfl

@[simp] theorem estate_bind_apply (x : EStateM ε σ α) (f : α → EStateM ε σ β) (s : σ) :
    (x >>= f) s = match x s with
      | .ok a s' => f a s'
      | .error e s' => .error e s' := rfl

@[simp] theorem estate_map_apply (f : α → β) (x : EStateM ε σ α) (s : σ) :
    (f <$> x) s = match x s with
      | .ok a s' => .ok (f a) s'
      | .error e s' => .error e s' := by
  show EStateM.map f x s = _
  unfold EStateM.map; cases x s <;> rfl

@[simp] theorem estate_pure_apply (a : α) (s : σ) : (pure a : EStateM ε σ α) s = .ok a s := rfl

@[simp] theorem estate_get_apply (s : σ) : (get : EStateM ε σ σ) s = .ok s s := rfl

@[simp] theorem estate_modify_apply (f : σ → σ) (s : σ) :
    (modify f : EStateM ε σ PUnit) s = .ok ⟨⟩ (f s) := rfl

@[simp] theorem liftE_ok (a : α) (s : σ) : (liftE (.ok a) : EStateM ε σ α) s = .ok a s := rfl

@[simp] theorem liftE_error (e : ε) (s : σ) : (liftE (.error e) : EStateM ε σ α) s = .error e s :=
  rfl

/-- A run of `x >>= f` that returns runs `x` to a value, then `f` on it to the end. -/
theorem estate_bind_eq_ok {x : EStateM ε σ α} {f : α → EStateM ε σ β} {s s' : σ} {b : β}
    (h : (x >>= f) s = .ok b s') : ∃ a s₁, x s = .ok a s₁ ∧ f a s₁ = .ok b s' := by
  rw [estate_bind_apply] at h
  cases hx : x s with
  | ok a s₁ => rw [hx] at h; exact ⟨a, s₁, rfl, h⟩
  | error e s₁ => rw [hx] at h; cases h

theorem liftE_eq_ok {x : Except ε α} {s s' : σ} {a : α}
    (h : (liftE x : EStateM ε σ α) s = .ok a s') : x = .ok a ∧ s' = s := by
  cases x <;> cases h; exact ⟨rfl, rfl⟩

theorem liftE_bind_eq_ok {x : Except ε α} {f : α → EStateM ε σ β} {s s' : σ} {b : β}
    (h : (liftE x >>= f) s = .ok b s') : ∃ a, x = .ok a ∧ f a s = .ok b s' := by
  cases x with
  | ok a => exact ⟨a, rfl, h⟩
  | error e => cases h

@[simp] theorem zoom_apply (get : σ → τ) (set : σ → τ → σ) (x : EStateM ε τ α) (s : σ) :
    zoom get set x s = match x (get s) with
      | .ok a t => .ok a (set s t)
      | .error e t => .error e (set s t) := rfl

@[simp] theorem mapMut_nil (f : EStateM ε σ α) : mapMut f [] = .ok [] [] := rfl

theorem mapMut_cons (f : EStateM ε σ α) (x : σ) (xs : List σ) :
    mapMut f (x :: xs) = match f x with
      | .error e x' => .error e (x' :: xs)
      | .ok a x' =>
        match mapMut f xs with
        | .ok as xs' => .ok (a :: as) (x' :: xs')
        | .error e xs' => .error e (x' :: xs') := rfl

/-- What `f` keeps of each element, `mapMut f` keeps of the list, whether it returns or
raises. -/
theorem mapMut_keeps {f : EStateM ε σ α} {K : σ → κ} (hf : ∀ x, K (finalState (f x)) = K x) :
    ∀ l, (finalState (mapMut f l)).map K = l.map K
  | [] => rfl
  | x :: xs => by
    have hx := hf x
    have ih := mapMut_keeps hf xs
    rw [mapMut_cons]
    cases hfx : f x with
    | error e x' => simp_all
    | ok a x' => cases hm : mapMut f xs <;> simp_all

/-- When `f` returns the same on an element it already ran on, a second run of `mapMut f` returns
the same and changes nothing. -/
theorem mapMut_rerun {f : EStateM ε σ α} (hf : ∀ x a x', f x = .ok a x' → f x' = .ok a x') :
    ∀ {l : List σ} {as : List α} {l' : List σ}, mapMut f l = .ok as l' → mapMut f l' = .ok as l'
  | [], _, _, h => by cases h; rfl
  | x :: xs, as, l', h => by
    rw [mapMut_cons] at h
    cases hfx : f x with
    | error e x' => simp [hfx] at h
    | ok a x' =>
      cases hm : mapMut f xs with
      | error e xs' => simp [hfx, hm] at h
      | ok as' xs' =>
        simp only [hfx, hm, EStateM.Result.ok.injEq] at h
        obtain ⟨rfl, rfl⟩ := h
        rw [mapMut_cons, hf _ _ _ hfx, mapMut_rerun hf hm]

/-! ### Frames -/

/-- `x` leaves `K` of the state as it was, whether it returns or raises. -/
def Keeps (K : σ → κ) (x : EStateM ε σ α) : Prop := ∀ s, K (finalState (x s)) = K s

namespace Keeps

variable {K : σ → κ}

theorem of_pure (a : α) : Keeps (ε := ε) K (pure a : EStateM ε σ α) := fun _ => rfl

theorem of_get : Keeps (ε := ε) K (get : EStateM ε σ σ) := fun _ => rfl

theorem of_liftE (x : Except ε α) : Keeps K (liftE x : EStateM ε σ α) := by
  intro s; cases x <;> rfl

theorem of_modify {f : σ → σ} (h : ∀ s, K (f s) = K s) :
    Keeps (ε := ε) K (modify f : EStateM ε σ PUnit) :=
  fun s => h s

theorem of_bind {x : EStateM ε σ α} {f : α → EStateM ε σ β} (hx : Keeps K x)
    (hf : ∀ a, Keeps K (f a)) : Keeps K (x >>= f) := by
  intro s
  have := hx s
  simp only [estate_bind_apply]
  cases hxs : x s with
  | ok a s' => rw [hxs] at this; exact (hf a s').trans this
  | error e s' => rw [hxs] at this; exact this

theorem of_zoom {get : σ → τ} {set : σ → τ → σ} (h : ∀ s t, K (set s t) = K s)
    (x : EStateM ε τ α) : Keeps K (zoom get set x) := by
  intro s; simp only [zoom_apply]; cases x (get s) <;> exact h _ _

end Keeps

/-- Every return of `x` satisfies `Q`, of the value and the state it returns with. -/
def Ensures (Q : α → σ → Prop) (x : EStateM ε σ α) : Prop := ∀ s a s', x s = .ok a s' → Q a s'

theorem Ensures.of_bind {Q : β → σ → Prop} {x : EStateM ε σ α} {f : α → EStateM ε σ β}
    (hf : ∀ a, Ensures Q (f a)) : Ensures Q (x >>= f) := by
  intro s b s' h
  simp only [estate_bind_apply] at h
  cases hx : x s with
  | ok a s1 => rw [hx] at h; exact hf a s1 b s' h
  | error e s1 => rw [hx] at h; cases h

/-- The last step of a method that stores its results with `modify f` and returns what `g` makes
of the object then. -/
theorem Ensures.of_modify_liftE {Q : α → σ → Prop} {f : σ → σ} {g : σ → Except ε α}
    (h : ∀ s a, g (f s) = .ok a → Q a (f s)) :
    Ensures Q (modify f >>= fun _ => get >>= fun s => liftE (g s)) := by
  intro s a s' hs
  simp only [estate_bind_apply, estate_modify_apply, estate_get_apply] at hs
  cases hg : g (f s) with
  | ok b => rw [hg] at hs; cases hs; exact h s a hg
  | error e => rw [hg] at hs; cases hs

end DpktGtpc
