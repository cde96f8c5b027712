import DpktGtpc.Gtp.Encode
import DpktGtpc.Gtp.Framing
import DpktGtpc.Dns.Decode

/-! The three message classes, `DNS`, `GTPv1C` and `GTPv2C`, side by side: what their decoders raise,
and what `bytes()` does to the object. -/

namespace DpktGtpc

open Gtp Dns

/-- What the decoders raise, for every buffer: `DNS(buf)` a `dpkt.UnpackError` or a
`UnicodeDecodeError`; `GTPv1C(buf)` and `GTPv2C(buf)` a `NeedData`, or an `IndexError` when the
buffer ends inside the block of optional header fields that the flags announce. -/
theorem decoders_raise :
    (∀ buf, RaisesOnly (fun e => e.isUnpackError ∨ e = .unicodeDecodeError) (DNS.init buf)) ∧
    (∀ buf, RaisesOnly (V1Error buf) (GTPv1C.init buf)) ∧
    (∀ buf, RaisesOnly (V2Error buf) (GTPv2C.init buf)) :=
  ⟨DNS.init_raisesOnly, GTPv1C.init_raisesOnly, GTPv2C.init_raisesOnly⟩

/-- What `bytes(m)` does to the object `m`. A `DNS` changes only in `labelPtrs`, which a `bytes()`
that returns deletes. A `GTPv1C` keeps `flags`, `type`, `teid` and `ies`, and a `GTPv2C` `flags`,
`type`, `priority` and the IEs of `ies`, whether `bytes()` returns or raises. When it returns on a
GTP message whose `data` is its IE list, `pack_hdr` has replaced the optional header fields by their
packed bytes, `data` by the packed body and `len` by its length (`Packed`). After a `bytes()` that
returns, a second one returns the same bytes. -/
theorem bytes_side_effects :
    (∀ m : DNS, (∃ t, finalState (DNS.bytes m) = { m with labelPtrs := t }) ∧
      ∀ b m', DNS.bytes m = .ok b m' → m' = { m with labelPtrs := none } ∧ DNS.bytes m' = .ok b m') ∧
    (∀ m : GTPv1C, GTPv1C.Frame m (finalState (GTPv1C.bytes m)) ∧
      ∀ b m', GTPv1C.bytes m = .ok b m' →
        (∀ ds, m.data = .list ds → GTPv1C.Packed m ds m') ∧ GTPv1C.bytes m' = .ok b m') ∧
    (∀ m : GTPv2C, GTPv2C.Frame m (finalState (GTPv2C.bytes m)) ∧
      ∀ b m', GTPv2C.bytes m = .ok b m' →
        (∀ ds, m.data = .list ds → ∃ l, GTPv2C.Packed { m with ies := some l } ds m') ∧
        GTPv2C.bytes m' = .ok b m') :=
  ⟨fun m => ⟨DNS.bytes_frame m, fun _ _ => DNS.bytes_ok⟩,
   fun m => ⟨GTPv1C.bytes_frame m, fun _ _ h =>
     ⟨fun _ hd => (GTPv1C.bytes_packHdr h).elim fun _ hp => GTPv1C.packHdr_list hd hp,
      GTPv1C.bytes_rerun h⟩⟩,
   fun m => ⟨GTPv2C.bytes_frame m, fun _ _ h =>
     ⟨fun _ hd => (GTPv2C.bytes_packHdr h).elim fun l ⟨_, hp⟩ => ⟨l, GTPv2C.packHdr_list hd hp⟩,
      GTPv2C.bytes_rerun h⟩⟩⟩

/-- A decoded `GTPv1C` with the S flag set and sequence number 1: `bytes()` leaves the packed bytes
`b'\x00\x01'` in `seqnum`. -/
theorem Gtp.GTPv1C.bytes_packs_seqnum :
    ∃ m, GTPv1C.init [0x32, 0x10, 0x00, 0x04, 0, 0, 0, 0, 0x00, 0x01, 0x00, 0x00] = .ok m ∧
      m.seqnum = some (.int 1) ∧ (finalState (GTPv1C.bytes m)).seqnum = some (.bytes [0, 1]) :=
  ⟨{ flags := 0x32, type := 0x10, len := 4, teid := 0, seqnum := some (.int 1),
     npdu := some (.int 0), nextType := some (.int 0), data := .list [], ies := some [] },
   by decide, rfl, by decide⟩

/-! ### `len()` -/

/-- A decoded `GTPv1C` and a decoded `GTPv2C`, each with one IE: `len(m)` counts the IE list that
`data` holds, and after `bytes()` the body that `pack_hdr` stored there, and neither is the length
of what `bytes(m)` returns. -/
theorem Gtp.len_counts_data :
    (∃ m b m', GTPv1C.init [0x32, 0x10, 0, 6, 0, 0, 0, 0, 0, 1, 0, 0, 0x0e, 0x05] = .ok m ∧
      GTPv1C.bytes m = .ok b m' ∧ m.length = 9 ∧ b.length = 10 ∧ m'.length = 14) ∧
    (∃ m b m', GTPv2C.init [0x48, 0x20, 0, 13, 0, 0, 0, 0, 0, 0, 1, 0, 3, 0, 1, 0, 5] = .ok m ∧
      GTPv2C.bytes m = .ok b m' ∧ m.length = 5 ∧ b.length = 9 ∧ m'.length = 17) := by
  refine ⟨⟨{ flags := 0x32, type := 0x10, len := 6, teid := 0, seqnum := some (.int 1),
             npdu := some (.int 0), nextType := some (.int 0),
             data := .list [{ type := 14, len := some 1, data := [5] }],
             ies := some [{ type := 14, len := some 1, data := [5] }] },
      _, _, by decide, rfl, rfl, rfl, rfl⟩,
    ⟨{ flags := 0x48, type := 0x20, len := 13, teid := some (.int 0), seqnum := some (.int 1),
       priority := some 0, data := .list [{ type := 3, len := 1, flags := 0, data := [5] }],
       ies := some [{ type := 3, len := 1, flags := 0, data := [5] }] },
      _, _, by decide, rfl, rfl, rfl, rfl⟩⟩

/-- `len(ie) = len(bytes(ie))` for every `IEv1` and `IEv2` on which `bytes()` returns, the length
convention that the IE loops rely on; an `IEv2` has the same `len()` after the call. -/
theorem Gtp.ie_length_bytes :
    (∀ (ie : IEv1) (b : Bytes), IEv1.bytes ie = .ok b → b.length = ie.length) ∧
    (∀ (ie ie' : IEv2) (b : Bytes), IEv2.bytes ie = .ok b ie' →
      b.length = ie.length ∧ ie'.length = ie.length) :=
  ⟨fun _ _ => IEv1.length_bytes, fun _ _ _ => IEv2.length_bytes⟩

end DpktGtpc
