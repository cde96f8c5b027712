import DpktGtpc.Gtp.GTPv1C
import DpktGtpc.Gtp.GTPv2C

/-! `bytes()` of the GTP-C messages. `__bytes__` returns `pack_hdr()` followed by the encoded IEs
of `ies`. On a message whose `data` is an IE list, `pack_hdr` packs the optional header fields and
the IEs into `data`, stores the packed fields back on the object and counts `data` in `len`, but
returns the fixed header alone: the optional fields never reach the output. A second `bytes()`
then finds `data` packed and returns the same bytes again. And `ies`, which only `unpack` sets, is
missing on a message built from its fields. -/

namespace DpktGtpc.Gtp

/-! ### `GTPv2C` -/

namespace GTPv2C

/-- `bytes(m)`, step by step: `ies` is read, each of its IEs encoded (and left with its `len`
set), then `pack_hdr` runs. -/
theorem bytes_apply (m : GTPv2C) :
    bytes m = match m.ies with
      | none => .error (.attributeError "ies") m
      | some l =>
        match mapMut IEv2.bytes l with
        | .error e l' => .error e { m with ies := some l' }
        | .ok ieb l' =>
          match packHdr { m with ies := some l' } with
          | .ok hdr m' => .ok (hdr ++ ieb.flatten) m'
          | .error e m' => .error e m' := by
  obtain ⟨flags, type, len, teid, seqnum, priority, data, _ | l⟩ := m
  · rfl
  · simp only [bytes, Option.elim, estate_bind_apply, estate_get_apply, liftE_ok, zoom_apply]
    cases mapMut IEv2.bytes l with
    | error e l' => rfl
    | ok ieb l' =>
      simp only [estate_pure_apply]
      cases packHdr { flags, type, len, teid, seqnum, priority, data, ies := some l' } <;> rfl

/-- A message built from its fields has no `ies`: `bytes()` raises `AttributeError`. -/
theorem bytes_build (version p t type : Nat) (teid seqnum : Int) (ies : List IEv2) :
    bytes (build version p t type teid seqnum ies) =
      .error (.attributeError "ies") (build version p t type teid seqnum ies) := by
  rw [bytes_apply]; rfl

/-- The parts of a `GTPv2C` that `pack_hdr` leaves as they were. -/
def fixedPart (m : GTPv2C) : Nat × Nat × Option Nat × Option (List IEv2) :=
  (m.flags, m.type, m.priority, m.ies)

theorem packHdr_keeps : Keeps fixedPart packHdr := by
  unfold packHdr
  repeat' first
    | with_reducible exact Keeps.of_get | with_reducible exact Keeps.of_pure _
    | with_reducible apply Keeps.of_liftE
    | with_reducible refine Keeps.of_modify fun _ => ?_
    | with_reducible refine Keeps.of_zoom (fun _ _ => ?_) _
    | with_reducible refine Keeps.of_bind ?_ fun _ => ?_ | split | rfl

theorem packHdr_of_bytes {m : GTPv2C} {d : Bytes} (hd : m.data = .bytes d) :
    packHdr m = liftE (packHeader m) m := by
  obtain ⟨flags, type, len, teid, seqnum, priority, data, ies⟩ := m
  cases hd
  unfold packHdr
  simp only [estate_bind_apply, estate_get_apply]

/-- What `pack_hdr` returns is the fixed header of the object it leaves, whose `data` is packed. -/
theorem packHdr_ok {m m' : GTPv2C} {hdr : Bytes} (h : packHdr m = .ok hdr m') :
    packHeader m' = .ok hdr ∧ ∃ d, m'.data = .bytes d := by
  cases hd : m.data with
  | bytes d =>
    rw [packHdr_of_bytes hd] at h
    cases hp : packHeader m <;> rw [hp] at h <;> cases h
    exact ⟨hp, d, hd⟩
  | list ds =>
    obtain ⟨flags, type, len, teid, seqnum, priority, data, ies⟩ := m
    cases hd
    unfold packHdr at h
    rw [estate_bind_apply, estate_get_apply] at h
    dsimp only at h
    refine (show Ensures (fun hdr m' => packHeader m' = .ok hdr ∧ ∃ d, m'.data = .bytes d) _ by
      repeat' first
        | with_reducible refine Ensures.of_modify_liftE fun s a h => ⟨h, _, rfl⟩
        | with_reducible refine Ensures.of_bind fun _ => ?_
        | split) _ _ _ h

/-- The object `pack_hdr` leaves on a `GTPv2C` `m` whose `data` is the IE list `ds`: the IEs
encoded, each left with its `len`; `seqnum` read as an `int` and replaced by its three packed bytes;
when `t_flag` is set, `teid` read and replaced by its four packed bytes as well; `data` the packed
TEID, if any, sequence number and spare octet, followed by the IEs' bytes; `len` its length. -/
def Packed (m : GTPv2C) (ds : List IEv2) (m' : GTPv2C) : Prop :=
  ∃ s body ds', m.seqnum = some (.int s) ∧ mapMut IEv2.bytes ds = .ok body ds' ∧
    (m.tFlag = 0 ∧
        m' = { m with seqnum := some (.bytes [byteOf s 2, byteOf s 1, byteOf s 0]),
                      data := .bytes ([byteOf s 2, byteOf s 1, byteOf s 0, 0] ++ body.flatten),
                      len := body.flatten.length + 4 } ∨
      ∃ t, m.tFlag ≠ 0 ∧ m.teid = some (.int t) ∧
        m' = { m with teid := some (.bytes [byteOf t 3, byteOf t 2, byteOf t 1, byteOf t 0]),
                      seqnum := some (.bytes [byteOf s 2, byteOf s 1, byteOf s 0]),
                      data := .bytes ([byteOf t 3, byteOf t 2, byteOf t 1, byteOf t 0,
                        byteOf s 2, byteOf s 1, byteOf s 0, 0] ++ body.flatten),
                      len := body.flatten.length + 8 })

theorem packHdr_list {m m' : GTPv2C} {ds : List IEv2} {hdr : Bytes} (hd : m.data = .list ds)
    (h : packHdr m = .ok hdr m') : Packed m ds m' := by
  unfold packHdr at h
  simp only [estate_bind_apply, estate_get_apply, hd, zoom_apply] at h
  cases hm : mapMut IEv2.bytes ds with
  | error e ds' => simp [hm] at h
  | ok body ds' =>
    cases hs : PyVal.toInt "seqnum" m.seqnum with
    | error e => simp [hm, hs] at h
    | ok s =>
      refine ⟨s, body, ds', PyVal.toInt_eq_ok.mp hs, hm, ?_⟩
      simp only [hm, hs, estate_bind_apply, estate_get_apply, estate_modify_apply, estate_pure_apply,
        liftE_ok, tFlag] at h
      by_cases hc : m.flags >>> 3 &&& 1 ≠ 0
      · rw [if_pos hc] at h
        cases ht : PyVal.toInt "teid" m.teid with
        | error e =>
          simp only [ht, estate_bind_apply, estate_get_apply, liftE_error, reduceCtorEq] at h
        | ok t =>
          simp only [ht, estate_bind_apply, estate_get_apply, estate_modify_apply, estate_pure_apply,
            liftE_ok] at h
          obtain ⟨-, rfl⟩ := liftE_eq_ok h
          exact .inr ⟨t, hc, PyVal.toInt_eq_ok.mp ht, by simp⟩
      · rw [if_neg hc] at h
        simp only [estate_bind_apply, estate_get_apply, estate_modify_apply, estate_pure_apply] at h
        obtain ⟨-, rfl⟩ := liftE_eq_ok h
        exact .inl ⟨not_not.mp hc, by simp⟩

/-- A `bytes()` that returns ends with the `pack_hdr` it runs on the object with its IEs of `ies`
encoded. -/
theorem bytes_packHdr {m m' : GTPv2C} {b : Bytes} (h : bytes m = .ok b m') :
    ∃ l hdr, packHdr { m with ies := some l } = .ok hdr m' := by
  rw [bytes_apply] at h
  split at h
  · cases h
  · split at h
    · cases h
    · rename_i l _
      split at h
      · rename_i hdr _ hp
        cases h
        exact ⟨l, hdr, hp⟩
      · cases h

/-- The output of `bytes()` is the 4-byte fixed header, `flags`, `type` and `len`, followed by
the encoded IEs of `ies`: never the TEID, sequence number and spare octet. -/
theorem bytes_ok {m m' : GTPv2C} {b : Bytes} (h : bytes m = .ok b m') :
    ∃ l ieb l' hdr, m.ies = some l ∧ mapMut IEv2.bytes l = .ok ieb l' ∧
      packHeader m' = .ok hdr ∧ hdr.length = 4 ∧ b = hdr ++ ieb.flatten := by
  rw [bytes_apply] at h
  split at h
  · cases h
  · rename_i l hl
    split at h
    · cases h
    · rename_i ieb l' hm
      split at h
      · rename_i hdr m'' hp
        cases h
        have hh := (packHdr_ok hp).1
        exact ⟨l, ieb, l', hdr, hl, hm, hh, length_structPack hh, rfl⟩
      · cases h

/-- What `bytes()` keeps of a `GTPv2C`, whether it returns or raises: the header fields `flags`
and `type`, `priority`, and the type, flags and value of each IE of `ies`. -/
structure Frame (m m' : GTPv2C) : Prop where
  flags : m'.flags = m.flags
  type : m'.type = m.type
  priority : m'.priority = m.priority
  ies : m'.ies.map (List.map IEv2.value) = m.ies.map (List.map IEv2.value)

theorem bytes_frame (m : GTPv2C) : Frame m (finalState (bytes m)) := by
  rw [bytes_apply]
  split
  · exact ⟨rfl, rfl, rfl, rfl⟩
  · rename_i l hl
    have hkeep := mapMut_keeps IEv2.value_finalState_bytes l
    split
    · rename_i e l' hm
      rw [hm] at hkeep
      exact ⟨rfl, rfl, rfl, by simp [hl, ← hkeep]⟩
    · rename_i ieb l' hm
      rw [hm] at hkeep
      have hp := packHdr_keeps { m with ies := some l' }
      simp only [fixedPart, Prod.mk.injEq] at hp
      obtain ⟨hf, ht, hpr, hi⟩ := hp
      split <;> rename_i hpk <;> simp only [hpk, finalState_ok, finalState_error] at hf ht hpr hi <;>
        exact ⟨hf, ht, hpr, by simp [hi, hl, ← hkeep]⟩

/-- After a `bytes()` that returns, a second one returns the same bytes and changes nothing. -/
theorem bytes_rerun {m m' : GTPv2C} {b : Bytes} (h : bytes m = .ok b m') : bytes m' = .ok b m' := by
  rw [bytes_apply] at h
  split at h
  · cases h
  · rename_i l hl
    split at h
    · cases h
    · rename_i ieb l' hm
      split at h
      · rename_i hdr m'' hp
        cases h
        obtain ⟨hh, d, hd⟩ := packHdr_ok hp
        have hies : m'.ies = some l' := by
          have := packHdr_keeps { m with ies := some l' }
          rw [hp] at this
          exact (Prod.mk.inj (Prod.mk.inj (Prod.mk.inj this).2).2).2
        have hself : { m' with ies := some l' } = m' := by rw [← hies]
        rw [bytes_apply, hies]
        simp only [mapMut_rerun (fun _ _ _ => IEv2.bytes_rerun) hm, hself, packHdr_of_bytes hd, hh,
          liftE_ok]
      · cases h

/-- A `GTPv2C` with the T flag set, TEID 16 and sequence number `0x1000a`, and no IEs: it
decodes, and `bytes()` returns its first four bytes only. -/
theorem bytes_drops_teid_block :
    ∃ m m', init [0x48, 0x20, 0x00, 0x08, 0x00, 0x00, 0x00, 0x10, 0x01, 0x00, 0x0a, 0x00] = .ok m ∧
      bytes m = .ok [0x48, 0x20, 0x00, 0x08] m' :=
  ⟨{ flags := 0x48, type := 0x20, len := 8, teid := some (.int 16), seqnum := some (.int 0x1000a),
     priority := some 0, data := .list [], ies := some [] },
   { flags := 0x48, type := 0x20, len := 8, teid := some (.bytes [0, 0, 0, 0x10]),
     seqnum := some (.bytes [0x01, 0, 0x0a]), priority := some 0,
     data := .bytes [0, 0, 0, 0x10, 0x01, 0, 0x0a, 0], ies := some [] }, by decide, by decide⟩

end GTPv2C

/-! ### `GTPv1C` -/

namespace GTPv1C

/-- `bytes(m)`, step by step: `ies` is read and its IEs encoded, then `pack_hdr` runs. -/
theorem bytes_apply (m : GTPv1C) :
    bytes m = match m.ies with
      | none => .error (.attributeError "ies") m
      | some l =>
        match l.mapM IEv1.bytes with
        | .error e => .error e m
        | .ok ieb =>
          match packHdr m with
          | .ok hdr m' => .ok (hdr ++ ieb.flatten) m'
          | .error e m' => .error e m' := by
  obtain ⟨flags, type, len, teid, seqnum, npdu, nextType, data, _ | l⟩ := m
  · rfl
  · simp only [bytes, Option.elim, estate_bind_apply, estate_get_apply, liftE_ok]
    cases l.mapM IEv1.bytes with
    | error e => rfl
    | ok ieb =>
      simp only [liftE_ok, estate_pure_apply]
      cases packHdr { flags, type, len, teid, seqnum, npdu, nextType, data, ies := some l } <;>
        rfl

/-- A message built from its fields has no `ies`: `bytes()` raises `AttributeError`. -/
theorem bytes_build (flags type teid : Nat) (seqnum npdu nextType : Int) (ies : List IEv1) :
    bytes (build flags type teid seqnum npdu nextType ies) =
      .error (.attributeError "ies") (build flags type teid seqnum npdu nextType ies) := by
  rw [bytes_apply]; rfl

/-- The parts of a `GTPv1C` that `pack_hdr` leaves as they were. -/
def fixedPart (m : GTPv1C) : Nat × Nat × Nat × Option (List IEv1) :=
  (m.flags, m.type, m.teid, m.ies)

theorem packHdr_keeps : Keeps fixedPart packHdr := by
  unfold packHdr
  repeat' first
    | with_reducible exact Keeps.of_get | with_reducible exact Keeps.of_pure _
    | with_reducible apply Keeps.of_liftE
    | with_reducible refine Keeps.of_modify fun _ => ?_
    | with_reducible refine Keeps.of_bind ?_ fun _ => ?_ | split | rfl

theorem packHdr_of_bytes {m : GTPv1C} {d : Bytes} (hd : m.data = .bytes d) :
    packHdr m = liftE (packHeader m) m := by
  obtain ⟨flags, type, len, teid, seqnum, npdu, nextType, data, ies⟩ := m
  cases hd
  unfold packHdr
  simp only [estate_bind_apply, estate_get_apply]

/-- What `pack_hdr` returns is the fixed header of the object it leaves, whose `data` is packed. -/
theorem packHdr_ok {m m' : GTPv1C} {hdr : Bytes} (h : packHdr m = .ok hdr m') :
    packHeader m' = .ok hdr ∧ ∃ d, m'.data = .bytes d := by
  cases hd : m.data with
  | bytes d =>
    rw [packHdr_of_bytes hd] at h
    cases hp : packHeader m <;> rw [hp] at h <;> cases h
    exact ⟨hp, d, hd⟩
  | list ds =>
    obtain ⟨flags, type, len, teid, seqnum, npdu, nextType, data, ies⟩ := m
    cases hd
    unfold packHdr at h
    rw [estate_bind_apply, estate_get_apply] at h
    dsimp only at h
    refine (show Ensures (fun hdr m' => packHeader m' = .ok hdr ∧ ∃ d, m'.data = .bytes d) _ by
      repeat' first
        | with_reducible refine Ensures.of_modify_liftE fun s a h => ⟨h, _, rfl⟩
        | with_reducible refine Ensures.of_bind fun _ => ?_
        | split) _ _ _ h

/-- The object `pack_hdr` leaves on a `GTPv1C` `m` whose `data` is the IE list `ds`: when an E, S
or PN bit is set, `seqnum`, `npdu` and `next_type` read as `int`s and replaced by their packed
bytes, and `b''` in all three otherwise; `data` the packed fields followed by the IEs' bytes; `len`
its length. -/
def Packed (m : GTPv1C) (ds : List IEv1) (m' : GTPv1C) : Prop :=
  ∃ body, ds.mapM IEv1.bytes = .ok body ∧
    (m.flags &&& 0x7 = 0 ∧
        m' = { m with seqnum := some (.bytes []), npdu := some (.bytes []),
                      nextType := some (.bytes []), data := .bytes body.flatten,
                      len := body.flatten.length } ∨
      ∃ s n t, m.flags &&& 0x7 ≠ 0 ∧ m.seqnum = some (.int s) ∧ m.npdu = some (.int n) ∧
        m.nextType = some (.int t) ∧
        m' = { m with seqnum := some (.bytes [byteOf s 1, byteOf s 0]),
                      npdu := some (.bytes [byteOf n 0]), nextType := some (.bytes [byteOf t 0]),
                      data := .bytes ([byteOf s 1, byteOf s 0, byteOf n 0, byteOf t 0] ++
                        body.flatten),
                      len := body.flatten.length + 4 })

theorem packHdr_list {m m' : GTPv1C} {ds : List IEv1} {hdr : Bytes} (hd : m.data = .list ds)
    (h : packHdr m = .ok hdr m') : Packed m ds m' := by
  unfold packHdr at h
  simp only [estate_bind_apply, estate_get_apply, hd] at h
  obtain ⟨body, hb, h⟩ := liftE_bind_eq_ok h
  refine ⟨body, hb, ?_⟩
  by_cases hc : m.flags &&& 0x7 ≠ 0
  · rw [if_pos hc] at h
    cases hs : PyVal.toInt "seqnum" m.seqnum with
    | error e => simp only [estate_bind_apply, estate_get_apply, hs, liftE_error, reduceCtorEq] at h
    | ok s =>
      cases hn : PyVal.toInt "npdu" m.npdu with
      | error e =>
        simp only [estate_bind_apply, estate_get_apply, estate_modify_apply, hs, hn, liftE_ok,
          liftE_error, reduceCtorEq] at h
      | ok n =>
        cases ht : PyVal.toInt "next_type" m.nextType with
        | error e =>
          simp only [estate_bind_apply, estate_get_apply, estate_modify_apply, hs, hn, ht, liftE_ok,
            liftE_error, reduceCtorEq] at h
        | ok t =>
          simp only [estate_bind_apply, estate_get_apply, estate_modify_apply, estate_pure_apply, hs,
            hn, ht, hb, liftE_ok] at h
          obtain ⟨-, rfl⟩ := liftE_eq_ok h
          exact .inr ⟨s, n, t, hc, PyVal.toInt_eq_ok.mp hs, PyVal.toInt_eq_ok.mp hn,
            PyVal.toInt_eq_ok.mp ht, by simp⟩
  · rw [if_neg hc] at h
    simp only [estate_bind_apply, estate_get_apply, estate_modify_apply, estate_pure_apply, hb,
      liftE_ok] at h
    obtain ⟨-, rfl⟩ := liftE_eq_ok h
    exact .inl ⟨not_not.mp hc, by simp⟩

/-- A `bytes()` that returns ends with the `pack_hdr` it runs on the object as it was. -/
theorem bytes_packHdr {m m' : GTPv1C} {b : Bytes} (h : bytes m = .ok b m') :
    ∃ hdr, packHdr m = .ok hdr m' := by
  rw [bytes_apply] at h
  split at h
  · cases h
  · split at h
    · cases h
    · split at h
      · rename_i hdr _ hp
        cases h
        exact ⟨hdr, hp⟩
      · cases h

/-- The output of `bytes()` is the 8-byte fixed header, `flags`, `type`, `len` and `teid`,
followed by the encoded IEs of `ies`: never the sequence number, N-PDU number and next extension
type. -/
theorem bytes_ok {m m' : GTPv1C} {b : Bytes} (h : bytes m = .ok b m') :
    ∃ l ieb hdr, m.ies = some l ∧ l.mapM IEv1.bytes = .ok ieb ∧
      packHeader m' = .ok hdr ∧ hdr.length = 8 ∧ b = hdr ++ ieb.flatten := by
  rw [bytes_apply] at h
  split at h
  · cases h
  · rename_i l hl
    split at h
    · cases h
    · rename_i ieb hm
      split at h
      · rename_i hdr m'' hp
        cases h
        have hh := (packHdr_ok hp).1
        exact ⟨l, ieb, hdr, hl, hm, hh, length_structPack hh, rfl⟩
      · cases h

/-- What `bytes()` keeps of a `GTPv1C`, whether it returns or raises: the header fields `flags`,
`type` and `teid`, and `ies`. -/
structure Frame (m m' : GTPv1C) : Prop where
  flags : m'.flags = m.flags
  type : m'.type = m.type
  teid : m'.teid = m.teid
  ies : m'.ies = m.ies

theorem bytes_frame (m : GTPv1C) : Frame m (finalState (bytes m)) := by
  have hp := packHdr_keeps m
  simp only [fixedPart, Prod.mk.injEq] at hp
  obtain ⟨hf, ht, htd, hi⟩ := hp
  rw [bytes_apply]
  split
  · exact ⟨rfl, rfl, rfl, rfl⟩
  · split
    · exact ⟨rfl, rfl, rfl, rfl⟩
    · split <;> rename_i hpk <;> rw [hpk] at hf ht htd hi <;> exact ⟨hf, ht, htd, hi⟩

/-- After a `bytes()` that returns, a second one returns the same bytes and changes nothing. -/
theorem bytes_rerun {m m' : GTPv1C} {b : Bytes} (h : bytes m = .ok b m') : bytes m' = .ok b m' := by
  have hies := (bytes_frame m).ies
  rw [h] at hies
  obtain ⟨l, ieb, hdr, hl, hm, hh, -, rfl⟩ := bytes_ok h
  rw [bytes_apply] at h
  simp only [hl, hm] at h
  split at h
  · rename_i hdr' m'' hp
    obtain ⟨-, d, hd⟩ := packHdr_ok hp
    simp only [EStateM.Result.ok.injEq] at h
    obtain ⟨-, rfl⟩ := h
    rw [bytes_apply]
    simp only [finalState_ok] at hies
    simp only [hies, hl, hm, packHdr_of_bytes hd, hh, liftE_ok]
  · cases h

/-- A `GTPv1C` with the S flag set, sequence number 1 and no IEs: it decodes, and `bytes()`
returns its first eight bytes only. -/
theorem bytes_drops_optional_fields :
    ∃ m m', init [0x32, 0x10, 0x00, 0x04, 0x00, 0x00, 0x00, 0x00, 0x00, 0x01, 0x00, 0x00] = .ok m ∧
      bytes m = .ok [0x32, 0x10, 0x00, 0x04, 0x00, 0x00, 0x00, 0x00] m' :=
  ⟨{ flags := 0x32, type := 0x10, len := 4, teid := 0, seqnum := some (.int 1),
     npdu := some (.int 0), nextType := some (.int 0), data := .list [], ies := some [] },
   { flags := 0x32, type := 0x10, len := 4, teid := 0, seqnum := some (.bytes [0, 1]),
     npdu := some (.bytes [0]), nextType := some (.bytes [0]), data := .bytes [0, 1, 0, 0],
     ies := some [] }, by decide, by decide⟩

end GTPv1C

end DpktGtpc.Gtp
