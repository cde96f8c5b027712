import DpktGtpc.Gtp.GTPv1C
import DpktGtpc.Gtp.GTPv2C

/-! What the decoders `GTPv1C(buf)` and `GTPv2C(buf)` raise, and what they take for an IE. Both
read the block of optional header fields one byte at a time with `compat_ord(self.data[k])`, so a
buffer that ends inside the block raises `IndexError`, outside the `UnpackError` family; every
other exception is a `NeedData`. An IE whose value is cut short by the end of the buffer is taken
as it is, and so is a GTPv1 TV IE of a type missing from `TV_LEN_DICT`, whose value is then
everything after its type octet. -/

namespace DpktGtpc.Gtp

/-! ### `GTPv2C(buf)` -/

/-- The exceptions of `GTPv2C(buf)`: `NeedData`, or `IndexError` when the T flag is set and the
buffer ends inside the TEID and sequence number block. -/
def V2Error (buf : Bytes) (e : PyError) : Prop :=
  e = .needData ∨
    (e = .indexError ∧ 4 ≤ buf.length ∧ buf.length < 12 ∧ (beValue (buf.take 1) >>> 3) &&& 1 ≠ 0)

theorem GTPv2C.init_raisesOnly (buf : Bytes) : RaisesOnly (V2Error buf) (GTPv2C.init buf) := by
  have hies : ∀ d, RaisesOnly (fun e => e = .structError ∨ V2Error buf e) (unpackIEsV2 d) :=
    IEv2.cls.unpackAll_raisesOnly fun b => (IEv2.init_raisesOnly b).mono fun _ h => .inr (.inl h)
  refine Packet.init_raisesOnly (P := fun e => e = .structError ∨ V2Error buf e) ?_
    (fun e h h' => h.resolve_left h') (.inl rfl)
  refine ((Packet.unpack_raisesOnly _ _).mono fun e h => .inl h).bind fun r hr => ?_
  obtain ⟨hlen, rfl⟩ := Packet.unpack_eq_ok hr
  simp only [beFields]
  split_ifs with ht
  · have hord : ∀ i < 8, RaisesOnly (fun e => e = .structError ∨ V2Error buf e)
        (ordAt (buf.drop [1, 1, 2].sum) i) := fun i hi => by
      by_cases hin : i < (buf.drop [1, 1, 2].sum).length
      · rw [ordAt_of_lt hin]; exact RaisesOnly.ok _ _
      · rw [ordAt_of_le (by omega)]
        simp only [List.length_drop, List.sum_cons, List.sum_nil] at hin hlen
        exact RaisesOnly.error (.inr (.inr ⟨rfl, by omega, by omega, ht⟩))
    exact (hord 0 (by omega)).bind fun _ _ => (hord 1 (by omega)).bind fun _ _ =>
      (hord 2 (by omega)).bind fun _ _ => (hord 3 (by omega)).bind fun _ _ =>
      (hord 4 (by omega)).bind fun _ _ => (hord 5 (by omega)).bind fun _ _ =>
      (hord 6 (by omega)).bind fun _ _ => (hord 7 (by omega)).bind fun _ _ =>
      (hies _).bind fun _ _ => RaisesOnly.ok _ _
  · exact (hies _).bind fun _ _ => RaisesOnly.ok _ _

/-- A GTPv2-C header with the T flag set and nothing after it: the TEID read raises
`IndexError`. -/
theorem GTPv2C.init_short_teid_block :
    GTPv2C.init [0x48, 0x00, 0x00, 0x00] = .error .indexError := by
  decide

/-! ### `GTPv1C(buf)` -/

/-- The exceptions of `GTPv1C(buf)`: `NeedData`, or `IndexError` when an E, S or PN bit is set
and the buffer ends inside the block of optional fields. -/
def V1Error (buf : Bytes) (e : PyError) : Prop :=
  e = .needData ∨
    (e = .indexError ∧ 8 ≤ buf.length ∧ buf.length < 12 ∧ beValue (buf.take 1) &&& 0x7 ≠ 0)

theorem GTPv1C.init_raisesOnly (buf : Bytes) : RaisesOnly (V1Error buf) (GTPv1C.init buf) := by
  have hies : ∀ d, RaisesOnly (fun e => e = .structError ∨ V1Error buf e) (unpackIEsV1 d) :=
    IEv1.cls.unpackAll_raisesOnly fun b => (IEv1.init_raisesOnly b).mono fun _ h => .inr (.inl h)
  refine Packet.init_raisesOnly (P := fun e => e = .structError ∨ V1Error buf e) ?_
    (fun e h h' => h.resolve_left h') (.inl rfl)
  refine ((Packet.unpack_raisesOnly _ _).mono fun e h => .inl h).bind fun r hr => ?_
  obtain ⟨hlen, rfl⟩ := Packet.unpack_eq_ok hr
  simp only [beFields]
  split_ifs with ht
  · have hord : ∀ i < 4, RaisesOnly (fun e => e = .structError ∨ V1Error buf e)
        (ordAt (buf.drop [1, 1, 2, 4].sum) i) := fun i hi => by
      by_cases hin : i < (buf.drop [1, 1, 2, 4].sum).length
      · rw [ordAt_of_lt hin]; exact RaisesOnly.ok _ _
      · rw [ordAt_of_le (by omega)]
        simp only [List.length_drop, List.sum_cons, List.sum_nil] at hin hlen
        exact RaisesOnly.error (.inr (.inr ⟨rfl, by omega, by omega, ht⟩))
    exact (hord 0 (by omega)).bind fun _ _ => (hord 1 (by omega)).bind fun _ _ =>
      (hord 2 (by omega)).bind fun _ _ => (hord 3 (by omega)).bind fun _ _ =>
      (hies _).bind fun _ _ => RaisesOnly.ok _ _
  · exact (hies _).bind fun _ _ => RaisesOnly.ok _ _

/-- A type below `0x80` has the TV encoding bit clear. -/
theorem tv_encoding_bit {t : Nat} (ht : t < 0x80) : (t >>> 7) &&& 1 = 0 := by
  rw [Nat.shiftRight_eq_div_pow, Nat.div_eq_of_lt (show t < 2 ^ 7 by omega)]
  rfl

/-- A TV IE of a type missing from `TV_LEN_DICT` is not rejected: its value is every byte after
its type octet. -/
theorem IEv1.init_unknown_tv {t : UInt8} (rest : Bytes) (ht : t.toNat < 0x80)
    (hu : TV_LEN_DICT.lookup t.toNat = none) :
    IEv1.init (t :: rest) = .ok { type := t.toNat, len := none, data := rest } := by
  refine Packet.init_ok ?_
  rw [IEv1.unpack_cons, if_neg (by rw [tv_encoding_bit ht]; decide), hu]

/-- Such an IE ends the IE loop, whatever bytes follow it. -/
theorem unpackIEsV1_unknown_tv {t : UInt8} (rest : Bytes) (ht : t.toNat < 0x80)
    (hu : TV_LEN_DICT.lookup t.toNat = none) :
    unpackIEsV1 (t :: rest) = .ok [{ type := t.toNat, len := none, data := rest }] := by
  have hlen : IEv1.length { type := t.toNat, len := none, data := rest } = (t :: rest).length := by
    simp only [IEv1.length, IEv1.encoding, tv_encoding_bit ht, ne_eq, not_true_eq_false, if_false,
      List.length_cons]
    omega
  unfold unpackIEsV1
  rw [IEClass.unpackAll_cons]
  simp only [IEv1.cls, IEv1.init_unknown_tv rest ht hu, except_ok_bind, hlen, List.drop_length,
    IEClass.unpackAll_nil, except_pure]

/-- The IE `b'\x1e\x00'` of the repository's own test, type 30 being missing from `TV_LEN_DICT`,
inside a GTPv1-C message: the message decodes, with the IE taking the byte after it. -/
theorem GTPv1C.init_unknown_tv_accepted :
    GTPv1C.init [0x30, 0x10, 0x00, 0x02, 0x00, 0x00, 0x00, 0x00, 0x1e, 0x00] =
      .ok { flags := 0x30, type := 0x10, len := 2, teid := 0, seqnum := none, npdu := none,
            nextType := none, data := .list [{ type := 0x1e, len := none, data := [0x00] }],
            ies := some [{ type := 0x1e, len := none, data := [0x00] }] } := by
  refine Packet.init_ok ?_
  have hh : Packet.unpack [1, 1, 2, 4] [0x30, 0x10, 0x00, 0x02, 0x00, 0x00, 0x00, 0x00, 0x1e, 0x00] =
      .ok ([0x30, 0x10, 2, 0], [0x1e, 0x00]) := by decide
  simp only [GTPv1C.unpack, hh, except_ok_bind,
    unpackIEsV1_unknown_tv (t := 0x1e) [0x00] (by decide) (by decide)]
  rfl

end DpktGtpc.Gtp
