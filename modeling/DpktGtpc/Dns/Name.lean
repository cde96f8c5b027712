import DpktGtpc.Codecs

/-! The DNS name codec of `dns.py`: `pack_name`, which compresses a name against the table
`label_ptrs` of suffixes already written, and `unpack_name`, which follows compression pointers.
`unpack_name` is a loop over a cursor; `nameStep` is one turn of it, and `nameMeasure`, which
every turn that goes on decreases, is the reason the loop ends: a pointer must lie below the start
of the segment it was read from, and between pointers the cursor moves forward in the buffer. -/

namespace DpktGtpc.Dns

/-! ### `pack_name` -/

/-- `label_ptrs`: upper-cased suffix keys and the offsets they were written at. `lookup` is
`dict.get`; a new entry goes in front, so that it hides an older one for the same key, as a dict
assignment replaces it. -/
abbrev LabelPtrs := List (Bytes × Int)

/-- `struct.pack('>H', 0xc000 | ptr)`; `0xc000 | ptr` is negative, and out of range, when `ptr`
is. -/
def packPointer (ptr : Int) : Except PyError Bytes :=
  if ptr < 0 then .error .structError else packUInt 2 ((0xc000 ||| ptr.toNat : Nat) : Int)

/-- The loop of `pack_name` over `labels[i:]`: `rest` is `labels[i:]` and `buf` the bytes written
so far. A key with a truthy entry ends the name with a pointer; otherwise the key's offset is
recorded, when the key is longer than one byte and the offset below `0xc000`, and the label is
written out. -/
def packLabels (off : Int) : List Bytes → Bytes → EStateM PyError LabelPtrs Bytes
  | [], buf => pure buf
  | label :: more, buf => do
    let key := bytesUpper (joinDot (label :: more))
    match ((← get).lookup key).filter (· ≠ 0) with
    | some ptr =>
      let p ← liftE (packPointer ptr)
      pure (buf ++ p)
    | none =>
      if 1 < key.length ∧ off + buf.length < 0xc000 then
        modify ((key, off + buf.length) :: ·)
      let len ← liftE (packUInt 1 label.length)
      packLabels off more (buf ++ len ++ label)

/-- The labels `pack_name` writes for the encoded name `name`: its dot-separated parts, none for
the empty name, then the empty label. -/
def nameLabels (name : Bytes) : List Bytes := (if name ≠ [] then splitDot name else []) ++ [[]]

/-- `pack_name(name, off, label_ptrs)`, with `label_ptrs` as the state. -/
def packName (name : PyText) (off : Int) : EStateM PyError LabelPtrs Bytes := do
  let name ← liftE name.encodeUtf8
  packLabels off (nameLabels name) []

/-! ### `unpack_name` -/

/-- The local variables of `unpack_name`'s loop: the cursor `off`, the start `start_off` of the
segment being read, the offset `saved_off` after the first pointer (`0` before it), the labels
`name` and their encoded length `name_length`. -/
structure NameCursor where
  off : Int
  startOff : Int
  savedOff : Int
  name : List Bytes
  nameLength : Nat
  deriving DecidableEq, Repr

/-- The cursor before the first turn of `unpack_name buf off`. -/
def NameCursor.init (off : Int) : NameCursor :=
  { off, startOff := off, savedOff := 0, name := [], nameLength := 0 }

/-- How a turn of the loop ends: with `break`, or with the next turn. -/
inductive NameStep where
  | done (c : NameCursor)
  | next (c : NameCursor)
  deriving DecidableEq, Repr

/-- `'%02x' % n`. -/
def hex2 (n : Nat) : String := (if n < 16 then "0" else "") ++ String.mk (Nat.toDigits 16 n)

/-- The cursor after following a compression pointer to `ptr`; the first pointer saves the offset
after it. -/
def NameCursor.follow (c : NameCursor) (ptr : Nat) : NameCursor :=
  let savedOff := if c.savedOff = 0 then c.off + 2 else c.savedOff
  { c with off := ptr, startOff := ptr, savedOff }

/-- The cursor after the label of length `n` that starts at the cursor. -/
def NameCursor.addLabel (c : NameCursor) (buf : Bytes) (n : Nat) : NameCursor :=
  { c with off := c.off + 1 + n, name := c.name ++ [pySlice buf (c.off + 1) (c.off + 1 + n)],
           nameLength := c.nameLength + n + 1 }

/-- One turn of the `while True` loop of `unpack_name`. -/
def nameStep (buf : Bytes) (c : NameCursor) : Except PyError NameStep :=
  if (buf.length : Int) ≤ c.off then .error .needData else do
  let n := (← pyIndex buf c.off).toNat
  if n = 0 then
    pure (.done { c with off := c.off + 1 })
  else if n &&& 0xc0 = 0xc0 then do
    let ptr := (← unpackUInt 2 (pySlice buf c.off (c.off + 2))) &&& 0x3fff
    if c.startOff ≤ ptr then .error (.unpackError "Invalid label compression pointer")
    else pure (.next (c.follow ptr))
  else if n &&& 0xc0 = 0 then
    if 255 < c.nameLength + n + 1 then .error (.unpackError "name longer than 255 bytes")
    else pure (.next (c.addLabel buf n))
  else .error (.unpackError ("Invalid label length " ++ hex2 n))

/-- A turn that breaks reads the terminating zero octet inside the buffer and moves past it. -/
theorem nameStep_done {buf : Bytes} {c c' : NameCursor} (h : nameStep buf c = .ok (.done c')) :
    c.off < buf.length ∧ c' = { c with off := c.off + 1 } := by
  unfold nameStep at h
  split_ifs at h with hend
  obtain ⟨x, -, h⟩ := except_bind_eq_ok.mp h
  dsimp only at h
  split_ifs at h
  · cases h; exact ⟨by omega, rfl⟩
  · obtain ⟨v, -, h⟩ := except_bind_eq_ok.mp h
    split_ifs at h; cases h
  all_goals cases h

/-- A turn that goes on either follows a pointer below the segment start, read from two bytes of
the buffer, or appends a label and keeps `name_length` at most 255. -/
theorem nameStep_next {buf : Bytes} {c c' : NameCursor} (h : nameStep buf c = .ok (.next c')) :
    c.off < buf.length ∧
    ((∃ ptr : Nat, (ptr : Int) < c.startOff ∧ (pySlice buf c.off (c.off + 2)).length = 2 ∧
      c' = c.follow ptr) ∨
     (∃ n : Nat, c.nameLength + n + 1 ≤ 255 ∧ c' = c.addLabel buf n)) := by
  unfold nameStep at h
  split_ifs at h with hend
  obtain ⟨x, -, h⟩ := except_bind_eq_ok.mp h
  dsimp only at h
  split_ifs at h
  · cases h
  · obtain ⟨v, hp, h⟩ := except_bind_eq_ok.mp h
    have hlen2 : (pySlice buf c.off (c.off + 2)).length = 2 := by
      unfold unpackUInt at hp; split_ifs at hp with hl; exact hl
    split_ifs at h
    cases h
    exact ⟨by omega, .inl ⟨v &&& 0x3fff, by omega, hlen2, rfl⟩⟩
  · cases h
    exact ⟨by omega, .inr ⟨_, by omega, rfl⟩⟩

/-- The termination measure of `unpack_name`'s loop: the start of the current segment first, then
the bytes left after the cursor. -/
def nameMeasure (buf : Bytes) (c : NameCursor) : Nat :=
  c.startOff.toNat * (buf.length + 1) + ((buf.length : Int) - c.off).toNat

/-- A turn that goes on decreases the measure: a pointer moves the segment start strictly down,
and a label moves the cursor strictly forward inside the buffer. -/
theorem nameStep_measure {buf : Bytes} {c c' : NameCursor} (h : nameStep buf c = .ok (.next c')) :
    nameMeasure buf c' < nameMeasure buf c := by
  obtain ⟨hin, ⟨ptr, hptr, -, rfl⟩ | ⟨n, -, rfl⟩⟩ := nameStep_next h
  · have hmul := Nat.mul_le_mul_right (buf.length + 1) (show ptr + 1 ≤ c.startOff.toNat by omega)
    rw [Nat.succ_mul] at hmul
    simp only [nameMeasure, NameCursor.follow, Int.toNat_ofNat]
    generalize ptr * (buf.length + 1) = A at *
    generalize c.startOff.toNat * (buf.length + 1) = B at *
    omega
  · simp only [nameMeasure, NameCursor.addLabel]
    omega

/-- The loop of `unpack_name`, run for at most `fuel` turns; `fuel` above the measure always
suffices. -/
def nameLoop (buf : Bytes) : (fuel : Nat) → (c : NameCursor) → nameMeasure buf c < fuel →
    Except PyError NameCursor
  | 0, _, h => absurd h (Nat.not_lt_zero _)
  | fuel + 1, c, h =>
    match hs : nameStep buf c with
    | .error e => .error e
    | .ok (.done c') => .ok c'
    | .ok (.next c') =>
      nameLoop buf fuel c' (Nat.lt_of_lt_of_le (nameStep_measure hs) (Nat.lt_succ_iff.mp h))

/-- The loop of `unpack_name buf off`, from its first turn to its `break`. -/
def nameRun (buf : Bytes) (off : Int) : Except PyError NameCursor :=
  nameLoop buf (nameMeasure buf (.init off) + 1) (.init off) (Nat.lt_succ_self _)

/-- `saved_off` after the loop, `if not saved_off: saved_off = off`: the offset after the name
where it was read, before the first pointer. -/
def NameCursor.endOff (c : NameCursor) : Int := if c.savedOff = 0 then c.off else c.savedOff

/-- `unpack_name(buf, off)`: the name (as the UTF-8 bytes of the `str` returned) and the offset
after it. -/
def unpackName (buf : Bytes) (off : Int) : Except PyError (Bytes × Int) := do
  let c ← nameRun buf off
  let name ← utf8Decode (joinDot c.name)
  pure (name, c.endOff)

/-! ### What every run of `unpack_name` keeps -/

section Run

variable {buf : Bytes} {off : Int} {c c' : NameCursor}

/-- What holds before every turn of `unpack_name buf off`: the labels collected take no more
encoded bytes than `name_length` counts, which is at most 255; and either no pointer was followed
yet, so the segment starts at `off` with the cursor at or after it, or the offset saved at the
first pointer lies after `off` and inside the buffer. -/
structure NameInv (buf : Bytes) (off : Int) (c : NameCursor) : Prop where
  labels_le : (c.name.map (·.length + 1)).sum ≤ c.nameLength
  nameLength_le : c.nameLength ≤ 255
  saved : (c.savedOff = 0 ∧ c.startOff = off ∧ off ≤ c.off) ∨
    (c.savedOff ≠ 0 ∧ off < c.savedOff ∧ c.savedOff ≤ buf.length)

theorem nameInv_init : NameInv buf off (.init off) :=
  ⟨by simp [NameCursor.init], by simp [NameCursor.init], .inl ⟨rfl, rfl, Int.le_refl off⟩⟩

/-- A pointer can only be followed from a segment that starts after it, hence at an offset
`≥ 0` from which the slice of two bytes lies inside the buffer; the first one saves an offset past
`off`. A label adds its encoded length, at most its length octet plus one, to the labels. -/
theorem nameInv_next (hc : NameInv buf off c) (h : nameStep buf c = .ok (.next c')) :
    NameInv buf off c' := by
  obtain ⟨-, ⟨ptr, hptr, h2, rfl⟩ | ⟨n, hn, rfl⟩⟩ := nameStep_next h
  · refine ⟨hc.labels_le, hc.nameLength_le, .inr ?_⟩
    rcases hc.saved with ⟨h0, hs, ho⟩ | ⟨h0, hlt, hle⟩
    · have : c.off + 2 ≤ buf.length := le_length_of_length_pySlice (n := 2) (by omega) (by decide) h2
      simp only [NameCursor.follow, h0, if_true]
      omega
    · simpa only [NameCursor.follow, h0, if_false] using ⟨h0, hlt, hle⟩
  · have hlabel := length_pySlice_add_le buf (c.off + 1) n
    have hc0 := hc.labels_le
    refine ⟨?_, hn, ?_⟩
    · simp only [NameCursor.addLabel, List.map_append, List.sum_append, List.map_cons,
        List.map_nil, List.sum_cons, List.sum_nil]
      omega
    · rcases hc.saved with ⟨h0, hs, ho⟩ | h
      · exact .inl ⟨h0, hs, by simp only [NameCursor.addLabel]; omega⟩
      · exact .inr h

/-- The `break` reads a zero octet inside the buffer, so the offset returned lies past `off` and
at most at the end of the buffer. -/
theorem nameInv_done (hc : NameInv buf off c) (h : nameStep buf c = .ok (.done c')) :
    (c'.name.map (·.length + 1)).sum ≤ 255 ∧ off < c'.endOff ∧ c'.endOff ≤ buf.length := by
  obtain ⟨hin, rfl⟩ := nameStep_done h
  refine ⟨hc.labels_le.trans hc.nameLength_le, ?_⟩
  rcases hc.saved with ⟨h0, -, ho⟩ | ⟨h0, hlt, hle⟩
  · simp only [NameCursor.endOff, h0, if_true]; omega
  · simpa only [NameCursor.endOff, h0, if_false] using ⟨hlt, hle⟩

/-- Every run of the loop that breaks ends as `nameInv_done` says. -/
theorem nameLoop_inv {fuel : Nat} {hf : nameMeasure buf c < fuel} (hc : NameInv buf off c)
    (h : nameLoop buf fuel c hf = .ok c') :
    (c'.name.map (·.length + 1)).sum ≤ 255 ∧ off < c'.endOff ∧ c'.endOff ≤ buf.length := by
  induction fuel generalizing c with
  | zero => exact absurd hf (Nat.not_lt_zero _)
  | succ fuel ih =>
    unfold nameLoop at h
    split at h
    · cases h
    · cases h; exact nameInv_done hc ‹_›
    · exact ih (nameInv_next hc ‹_›) h

end Run

/-- `unpack_name` stops on every buffer and offset: it raises, or it returns the labels its loop
collected, which take at most 255 encoded bytes, and an offset after `off` inside the buffer. -/
theorem unpackName_terminates (buf : Bytes) (off : Int) :
    (∃ e, unpackName buf off = .error e) ∨
    ∃ c, nameRun buf off = .ok c ∧ unpackName buf off = .ok (joinDot c.name, c.endOff) ∧
      off < c.endOff ∧ c.endOff ≤ buf.length ∧ (c.name.map (·.length + 1)).sum ≤ 255 := by
  unfold unpackName
  cases hr : nameRun buf off with
  | error e => exact .inl ⟨e, rfl⟩
  | ok c =>
    cases hd : utf8Decode (joinDot c.name) with
    | error e => exact .inl ⟨e, by simp [hd]⟩
    | ok name =>
      obtain ⟨-, rfl⟩ := utf8Decode_ok_iff.mp hd
      obtain ⟨hsum, hlt, hle⟩ := nameLoop_inv nameInv_init hr
      exact .inr ⟨c, rfl, by simp [hd], hlt, hle, hsum⟩

end DpktGtpc.Dns
