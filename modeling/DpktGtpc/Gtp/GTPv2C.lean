import DpktGtpc.Gtp.IE

/-! `GTPv2C` of `gtp_c.py`: the message object, its flag properties, `unpack` (the TEID and sequence
number block, then the IE loop), `pack_hdr` and `bytes()`. -/

namespace DpktGtpc.Gtp

/-- A `GTPv2C` object: the header fields, the attributes `unpack` and `pack_hdr` set (`none` when
never set), `data`, and `ies`. -/
structure GTPv2C where
  flags : Nat
  type : Nat
  len : Nat
  teid : Option PyVal
  seqnum : Option PyVal
  priority : Option Nat
  data : Payload IEv2
  ies : Option (List IEv2)
  deriving DecidableEq, Repr

namespace GTPv2C

/-- The `version` property. -/
def version (m : GTPv2C) : Nat := (m.flags >>> 5) &&& 0x7

/-- The `p_flag` property. -/
def pFlag (m : GTPv2C) : Nat := (m.flags >>> 4) &&& 0x1

/-- The `t_flag` property. -/
def tFlag (m : GTPv2C) : Nat := (m.flags >>> 3) &&& 0x1

/-- The `version` setter: `flags & ~0xe0 | (v & 0x7) << 5`. -/
def setVersion (m : GTPv2C) (v : Nat) : GTPv2C :=
  { m with flags := (m.flags ^^^ (m.flags &&& 0xe0)) ||| ((v &&& 0x7) <<< 5) }

/-- The `p_flag` setter. -/
def setPFlag (m : GTPv2C) (p : Nat) : GTPv2C :=
  { m with flags := (m.flags ^^^ (m.flags &&& 0x10)) ||| ((p &&& 0x1) <<< 4) }

/-- The `t_flag` setter. -/
def setTFlag (m : GTPv2C) (t : Nat) : GTPv2C :=
  { m with flags := (m.flags ^^^ (m.flags &&& 0x8)) ||| ((t &&& 0x1) <<< 3) }

/-- `len(m)`: `GTPv2C` has no `__len__`, so `Packet.__len__` over its 4-byte header. -/
def length (m : GTPv2C) : Nat := Packet.length 4 m.data.pyLen

/-- `GTPv2C(version=v, p_flag=p, t_flag=t, type=ty, teid=te, seqnum=sq)` followed by
`m.data = ies`: the header defaults, then each keyword in turn. -/
def build (version p t type : Nat) (teid seqnum : Int) (ies : List IEv2) : GTPv2C :=
  let m : GTPv2C :=
    { flags := 0, type := 0, len := 0, teid := none, seqnum := none, priority := none,
      data := .bytes [], ies := none }
  { ((m.setVersion version).setPFlag p).setTFlag t with
    type, teid := some (.int teid), seqnum := some (.int seqnum), data := .list ies }

/-- `GTPv2C.unpack`. -/
def unpack (buf : Bytes) : Except PyError GTPv2C := do
  let ([flags, type, len], data) ← Packet.unpack [1, 1, 2] buf | throw .structError
  if (flags >>> 3) &&& 0x1 ≠ 0 then
    let teid := ((← ordAt data 0) <<< 24) ||| ((← ordAt data 1) <<< 16) |||
      ((← ordAt data 2) <<< 8) ||| (← ordAt data 3)
    let seqnum := ((← ordAt data 4) <<< 16) ||| ((← ordAt data 5) <<< 8) ||| (← ordAt data 6)
    let priority := ((← ordAt data 7) >>> 4) &&& 0xf
    let ies ← unpackIEsV2 (data.drop 8)
    pure
      { flags, type, len, teid := some (.int teid), seqnum := some (.int seqnum),
        priority := some priority, data := .list ies, ies := some ies }
  else
    let ies ← unpackIEsV2 (data.drop 5)
    pure
      { flags, type, len, teid := none, seqnum := some (.bytes (data.take 3)), priority := none,
        data := .list ies, ies := some ies }

/-- `GTPv2C(buf)`. -/
def init (buf : Bytes) : Except PyError GTPv2C := Packet.init unpack buf

/-- `dpkt.Packet.pack_hdr` of the header `flags`, `type`, `len`. -/
def packHeader (m : GTPv2C) : Except PyError Bytes :=
  Packet.packHdr [(1, m.flags), (1, m.type), (2, m.len)]

/-- `GTPv2C.pack_hdr`: on an IE list, packs the sequence number, a zero octet and, when `t_flag`
is set, the TEID before the IEs, storing the packed bytes back in `seqnum`, `teid` and `data`, and
the body's length in `len`. -/
def packHdr : EStateM PyError GTPv2C Bytes := do
  match (← get).data with
  | .bytes _ => liftE (packHeader (← get))
  | .list ds =>
    let body ← zoom (fun _ => ds) (fun m ds' => { m with data := .list ds' }) (mapMut IEv2.bytes)
    let s ← liftE (PyVal.toInt "seqnum" (← get).seqnum)
    let seq := [byteOf s 2, byteOf s 1, byteOf s 0]
    modify fun m => { m with seqnum := some (.bytes seq) }
    let data := seq ++ [0] ++ body.flatten
    let data ← if (← get).tFlag ≠ 0 then do
        let t ← liftE (PyVal.toInt "teid" (← get).teid)
        let teid := [byteOf t 3, byteOf t 2, byteOf t 1, byteOf t 0]
        modify fun m => { m with teid := some (.bytes teid) }
        pure (teid ++ data)
      else pure data
    modify fun m => { m with data := .bytes data, len := data.length }
    liftE (packHeader (← get))

/-- `bytes(m)`, `GTPv2C.__bytes__`: the bytes of every IE of `ies`, then `pack_hdr()` followed by
them. -/
def bytes : EStateM PyError GTPv2C Bytes := do
  let ies ← liftE ((← get).ies.elim (.error (.attributeError "ies")) .ok)
  let ieBytes ← zoom (fun _ => ies) (fun m l => { m with ies := some l }) (mapMut IEv2.bytes)
  let hdr ← packHdr
  pure (hdr ++ ieBytes.flatten)

end GTPv2C

end DpktGtpc.Gtp
