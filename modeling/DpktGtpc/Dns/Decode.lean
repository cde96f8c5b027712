import DpktGtpc.Dns.Message

/-! What `DNS(buf)` raises. Each reader of `dns.py` (`unpack_name`, `unpack_q`, `unpack_rr`,
`unpack_rdata`) raises a `dpkt.UnpackError`, a `struct.error` on a fixed field cut short, which
`DNS(buf)` turns into `NeedData`, or the `UnicodeDecodeError` of `codecs.decode`, which nothing in
the decoder catches. Every reader also returns an offset no smaller than the one it was given, so
that from the header on every read starts at an offset `≥ 0`. -/

namespace DpktGtpc.Dns

/-- The exceptions of the readers of `dns.py`. -/
def DecodeError (e : PyError) : Prop :=
  e.isUnpackError ∨ e = .structError ∨ e = .unicodeDecodeError

theorem utf8Decode_raisesOnly (b : Bytes) : RaisesOnly DecodeError (utf8Decode b) :=
  fun _ h => .inr (.inr (utf8Decode_error h))

theorem structUnpack_decodeError (ws : List Nat) (b : Bytes) :
    RaisesOnly DecodeError (structUnpack ws b) :=
  (structUnpack_raisesOnly ws b).mono fun _ h => .inr (.inl h)

/-! ### `unpack_name` -/

section Name

variable {buf : Bytes} {c c' : NameCursor}

theorem nameStep_raisesOnly (h0 : 0 ≤ c.off) : RaisesOnly DecodeError (nameStep buf c) := by
  unfold nameStep
  split_ifs with hend
  · exact .error (.inl rfl)
  · obtain ⟨x, hx⟩ : ∃ x, pyIndex buf c.off = .ok x := ⟨_, pyIndex_of_lt h0 (by omega)⟩
    rw [hx, except_ok_bind]
    dsimp only
    split_ifs
    · exact .ok _ _
    · refine ((unpackUInt_raisesOnly _ _).mono fun _ h => .inr (.inl h)).bind fun _ _ => ?_
      split_ifs
      · exact .error (.inl rfl)
      · exact .ok _ _
    · exact .error (.inl rfl)
    · exact .ok _ _
    · exact .error (.inl rfl)

/-- Every turn leaves the cursor at an offset `≥ 0`: a pointer target is a 14-bit value, and a
label moves the cursor forward. -/
theorem nameStep_off_nonneg (h0 : 0 ≤ c.off) (h : nameStep buf c = .ok (.next c')) :
    0 ≤ c'.off := by
  obtain ⟨-, ⟨ptr, -, -, rfl⟩ | ⟨n, -, rfl⟩⟩ := nameStep_next h
  · exact Int.ofNat_nonneg ptr
  · simp only [NameCursor.addLabel]; omega

theorem nameLoop_raisesOnly {fuel : Nat} {hf : nameMeasure buf c < fuel} (h0 : 0 ≤ c.off) :
    RaisesOnly DecodeError (nameLoop buf fuel c hf) := by
  induction fuel generalizing c with
  | zero => exact absurd hf (Nat.not_lt_zero _)
  | succ fuel ih =>
    unfold nameLoop
    split
    · exact .error (nameStep_raisesOnly h0 _ ‹_›)
    · exact .ok _ _
    · exact ih (nameStep_off_nonneg h0 ‹_›)

theorem unpackName_raisesOnly {off : Int} (h0 : 0 ≤ off) :
    RaisesOnly DecodeError (unpackName buf off) :=
  (nameLoop_raisesOnly (c := .init off) h0).bind fun _ _ =>
    (utf8Decode_raisesOnly _).bind fun _ _ => .ok _ _

theorem unpackName_advances {off off' : Int} {name : Bytes}
    (h : unpackName buf off = .ok (name, off')) : off < off' := by
  obtain ⟨c, hc, h⟩ := except_bind_eq_ok.mp h
  obtain ⟨_, -, h⟩ := except_bind_eq_ok.mp h
  cases h
  exact (nameLoop_inv nameInv_init hc).2.1

end Name

/-! ### The readers -/

/-- What each reader of `DNS.unpack` guarantees: from an offset `≥ 0` it raises only a
`DecodeError`, and the offset it returns is not before the one it was given. -/
structure Reader (f : Bytes → Int → Except PyError (α × Int)) : Prop where
  raises : ∀ buf off, 0 ≤ off → RaisesOnly DecodeError (f buf off)
  advances : ∀ {buf off x off'}, f buf off = .ok (x, off') → off ≤ off'

theorem unpackQ_reader : Reader DNS.unpackQ := by
  refine ⟨fun buf off h0 => ?_, fun h => ?_⟩
  · refine (unpackName_raisesOnly h0).bind fun _ _ => ?_
    refine (structUnpack_decodeError _ _).bind fun _ _ => ?_
    split
    · exact .ok _ _
    · exact .error (.inr (.inl rfl))
  · obtain ⟨⟨name, o⟩, hn, h⟩ := except_bind_eq_ok.mp h
    obtain ⟨r, -, h⟩ := except_bind_eq_ok.mp h
    have := unpackName_advances hn
    split at h <;> cases h
    omega

/-- The segments of TXT and HINFO `rdata` raise only `UnicodeDecodeError`. -/
theorem textLoop_raisesOnly : ∀ fuel (b : Bytes) h, RaisesOnly DecodeError (textLoop fuel b h)
  | fuel, [], _ => by cases fuel <;> exact .ok _ _
  | 0, _ :: _, h => absurd h (by simp)
  | _ + 1, _ :: _, _ =>
    (utf8Decode_raisesOnly _).bind fun _ _ => (textLoop_raisesOnly _ _ _).bind fun _ _ => .ok _ _

theorem RR.unpackRdata_raisesOnly (rr : RR) {buf : Bytes} {off : Int} (h0 : 0 ≤ off) :
    RaisesOnly DecodeError (rr.unpackRdata buf off) := by
  have name : ∀ {o}, 0 ≤ o → RaisesOnly DecodeError (unpackName buf o) := unpackName_raisesOnly
  unfold RR.unpackRdata
  have fixed : ∀ {ws b} {k : List Nat → Except PyError RR}, (∀ r, RaisesOnly DecodeError (k r)) →
      RaisesOnly DecodeError (structUnpack ws b >>= k) :=
    fun hk => (structUnpack_decodeError _ _).bind fun r _ => hk r
  repeat' refine RaisesOnly.ite (fun _ => ?_) fun _ => ?_
  · exact .ok _ _
  iterate 3 exact (name h0).bind fun _ _ => .ok _ _
  · refine (name h0).bind fun ⟨_, o⟩ h1 => (name ?_).bind fun _ _ => fixed fun _ => ?_
    · exact h0.trans (unpackName_advances h1).le
    · split
      · exact .ok _ _
      · exact .error (.inr (.inl rfl))
  · refine fixed fun _ => ?_
    split
    · exact (name (by omega)).bind fun _ _ => .ok _ _
    · exact .error (.inr (.inl rfl))
  · exact (textLoop_raisesOnly _ _ _).bind fun _ _ => .ok _ _
  iterate 2 exact .ok _ _
  · refine fixed fun _ => ?_
    split
    · exact (name (by omega)).bind fun _ _ => .ok _ _
    · exact .error (.inr (.inl rfl))
  · exact .ok _ _
  · exact .error (.inl rfl)

theorem unpackRr_reader : Reader DNS.unpackRr := by
  refine ⟨fun buf off h0 => ?_, fun h => ?_⟩
  · refine (unpackName_raisesOnly h0).bind fun ⟨_, o⟩ hn => ?_
    have := unpackName_advances hn
    refine (structUnpack_decodeError _ _).bind fun _ _ => ?_
    split
    · exact (RR.unpackRdata_raisesOnly _ (by omega)).bind fun _ _ => .ok _ _
    · exact .error (.inr (.inl rfl))
  · obtain ⟨⟨name, o⟩, hn, h⟩ := except_bind_eq_ok.mp h
    obtain ⟨r, -, h⟩ := except_bind_eq_ok.mp h
    have := unpackName_advances hn
    split at h
    · obtain ⟨_, -, h⟩ := except_bind_eq_ok.mp h
      cases h
      omega
    · cases h

/-- `for _ in range(cnt)` over a reader is a reader. -/
theorem unpackMany_reader {f : Bytes → Int → Except PyError (α × Int)} (hf : Reader f) (cnt : Nat) :
    Reader fun buf off => DNS.unpackMany f buf cnt off := by
  induction cnt with
  | zero => exact ⟨fun _ _ _ => .ok _ _, fun h => by cases h; exact le_refl _⟩
  | succ cnt ih =>
    refine ⟨fun buf off h0 => ?_, fun h => ?_⟩
    · exact (hf.raises buf off h0).bind fun ⟨_, o⟩ h1 =>
        (ih.raises buf o (h0.trans (hf.advances h1))).bind fun _ _ => .ok _ _
    · obtain ⟨⟨x, o⟩, h1, h⟩ := except_bind_eq_ok.mp h
      obtain ⟨⟨xs, o'⟩, h2, h⟩ := except_bind_eq_ok.mp h
      cases h
      exact (hf.advances h1).trans (ih.advances h2)

/-! ### `DNS(buf)` -/

theorem DNS.unpack_raisesOnly (buf : Bytes) : RaisesOnly DecodeError (DNS.unpack buf) := by
  refine ((Packet.unpack_raisesOnly _ _).mono fun _ h => .inr (.inl h)).bind fun _ _ => ?_
  split
  · have q := unpackMany_reader unpackQ_reader
    have rr := unpackMany_reader unpackRr_reader
    refine ((q _).raises buf 12 (by decide)).bind fun ⟨_, o1⟩ h1 => ?_
    have := (q _).advances h1
    refine ((rr _).raises buf o1 (by omega)).bind fun ⟨_, o2⟩ h2 => ?_
    have := (rr _).advances h2
    refine ((rr _).raises buf o2 (by omega)).bind fun ⟨_, o3⟩ h3 => ?_
    have := (rr _).advances h3
    exact ((rr _).raises buf o3 (by omega)).bind fun _ _ => .ok _ _
  · exact .error (.inr (.inl rfl))

/-- `DNS(buf)` raises a `dpkt.UnpackError` or a `UnicodeDecodeError`, and nothing else. -/
theorem DNS.init_raisesOnly (buf : Bytes) :
    RaisesOnly (fun e => e.isUnpackError ∨ e = .unicodeDecodeError) (DNS.init buf) :=
  Packet.init_raisesOnly (DNS.unpack_raisesOnly buf)
    (fun _ h hs => h.imp_right fun h => h.resolve_left hs) (.inl rfl)

/-- A question whose one label is the byte `0xff`, not UTF-8: `DNS(buf)` raises
`UnicodeDecodeError`, which is not a `dpkt.UnpackError`. -/
theorem DNS.init_invalid_utf8_label :
    DNS.init [0, 0, 0, 0, 0, 1, 0, 0, 0, 0, 0, 0, 1, 0xff, 0, 0, 1, 0, 1] =
        .error .unicodeDecodeError ∧ PyError.isUnpackError .unicodeDecodeError = false := by
  decide

end DpktGtpc.Dns
