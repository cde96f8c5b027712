import DpktGtpc.Gtp.IE

/-! `GTPv1C` of `gtp_c.py`: the message object, its flag properties, `unpack` (the optional-field
block, then the IE loop), `pack_hdr` and `bytes()`. -/

namespace DpktGtpc.Gtp

/-- A `GTPv1C` object: the header fields, the attributes `unpack` and `pack_hdr` set (`none` when
never set), `data`, and `ies`. -/
structure GTPv1C where
  flags : Nat
  type : Nat
  len : Nat
  teid : Nat
  seqnum : Option PyVal
  npdu : Option PyVal
  nextType : Option PyVal
  data : Payload IEv1
  ies : Option (List IEv1)
  deriving DecidableEq, Repr

namespace GTPv1C

/-- The `version` property. -/
def version (m : GTPv1C) : Nat := (m.flags >>> 5) &&& 0x7

/-- The `proto_type` property. -/
def protoType (m : GTPv1C) : Nat := (m.flags >>> 4) &&& 0x1

/-- The `e_flag` property. -/
def eFlag (m : GTPv1C) : Nat := (m.flags >>> 2) &&& 0x1

/-- The `s_flag` property. -/
def sFlag (m : GTPv1C) : Nat := (m.flags >>> 1) &&& 0x1

/-- The `np_flag` property. -/
def npFlag (m : GTPv1C) : Nat := m.flags &&& 0x1

/-- The private property `__additionals`: the E, S and PN bits. -/
def additionals (m : GTPv1C) : Nat := m.flags &&& 0x7

/-- `len(m)`: `GTPv1C` has no `__len__`, so `Packet.__len__` over its 8-byte header. -/
def length (m : GTPv1C) : Nat := Packet.length 8 m.data.pyLen

/-- `GTPv1C(flags=f, type=ty, teid=te, seqnum=sq, npdu=np, next_type=nt)` followed by
`m.data = ies`. -/
def build (flags type teid : Nat) (seqnum npdu nextType : Int) (ies : List IEv1) : GTPv1C :=
  { flags, type, len := 0, teid, seqnum := some (.int seqnum), npdu := some (.int npdu),
    nextType := some (.int nextType), data := .list ies, ies := none }

/-- `GTPv1C.unpack`. -/
def unpack (buf : Bytes) : Except PyError GTPv1C := do
  let ([flags, type, len, teid], data) ← Packet.unpack [1, 1, 2, 4] buf | throw .structError
  if flags &&& 0x7 ≠ 0 then
    let seqnum := ((← ordAt data 0) <<< 8) ||| (← ordAt data 1)
    let npdu ← ordAt data 2
    let nextType ← ordAt data 3
    let ies ← unpackIEsV1 (data.drop 4)
    pure
      { flags, type, len, teid, seqnum := some (.int seqnum), npdu := some (.int npdu),
        nextType := some (.int nextType), data := .list ies, ies := some ies }
  else
    let ies ← unpackIEsV1 data
    pure
      { flags, type, len, teid, seqnum := none, npdu := none, nextType := none,
        data := .list ies, ies := some ies }

/-- `GTPv1C(buf)`. -/
def init (buf : Bytes) : Except PyError GTPv1C := Packet.init unpack buf

/-- `dpkt.Packet.pack_hdr` of the header `flags`, `type`, `len`, `teid`. -/
def packHeader (m : GTPv1C) : Except PyError Bytes :=
  Packet.packHdr [(1, m.flags), (1, m.type), (2, m.len), (4, m.teid)]

/-- `GTPv1C.pack_hdr`: on an IE list, packs the optional fields when an E, S or PN bit is set
(storing the packed bytes back in `seqnum`, `npdu` and `next_type`, or `b''` in all three), stores
them and the IEs' bytes in `data` and the body's length in `len`. The `data` the first join
computes is overwritten before use. -/
def packHdr : EStateM PyError GTPv1C Bytes := do
  match (← get).data with
  | .bytes _ => liftE (packHeader (← get))
  | .list ds =>
    let _ ← liftE (ds.mapM IEv1.bytes)
    let optional ← if (← get).flags &&& 0x7 ≠ 0 then do
        let s ← liftE (PyVal.toInt "seqnum" (← get).seqnum)
        let seqnum := [byteOf s 1, byteOf s 0]
        modify fun m => { m with seqnum := some (.bytes seqnum) }
        let n ← liftE (PyVal.toInt "npdu" (← get).npdu)
        let npdu := [byteOf n 0]
        modify fun m => { m with npdu := some (.bytes npdu) }
        let t ← liftE (PyVal.toInt "next_type" (← get).nextType)
        let nextType := [byteOf t 0]
        modify fun m => { m with nextType := some (.bytes nextType) }
        pure (seqnum ++ npdu ++ nextType)
      else do
        modify fun m =>
          { m with seqnum := some (.bytes []), npdu := some (.bytes []),
                   nextType := some (.bytes []) }
        pure []
    let body ← liftE (ds.mapM IEv1.bytes)
    let data := optional ++ body.flatten
    modify fun m => { m with data := .bytes data, len := data.length }
    liftE (packHeader (← get))

/-- `bytes(m)`, `GTPv1C.__bytes__`: the bytes of every IE of `ies`, then `pack_hdr()` followed by
them. -/
def bytes : EStateM PyError GTPv1C Bytes := do
  let ies ← liftE ((← get).ies.elim (.error (.attributeError "ies")) .ok)
  let ieBytes ← liftE (ies.mapM IEv1.bytes)
  let hdr ← packHdr
  pure (hdr ++ ieBytes.flatten)

end GTPv1C

end DpktGtpc.Gtp
