import DpktGtpc.Factory.Builders

/-! The GTPv2 message builders of `gtpc_factory.py`: `_ie2`, the bearer-context builders and the
static methods of `GTPv2CFactory`. `gtpc_factory.py` imports from `gtp_c.py` the types of the Delete
Bearer messages and `encode_fteid`, which `gtp_c.py` does not define (`Unresolved`), so the module
cannot be imported as it stands; each builder is modelled as its body runs once those names resolve,
for any values of them.

Every message has version 2, no piggyback flag, the T flag exactly when a TEID was given, and no
`ies`, so `bytes()` raises `AttributeError`. Its type is the constant its method passes to `_hdr`:
for `modify_bearer_req` and `modify_bearer_res` that is 99 and 100, the second bindings of their
constants in `gtp_c.py`. Every IE has CR flag and instance zero, whatever `_ie2` was given, and a
bearer context's value is read by the IE loop of `GTPv2C.unpack` as the IEs it groups.

The type constants of four optional IEs, `GTPV2_IE_EPC_TIMER`, `GTPV2_IE_BEARER_TFT`,
`GTPV2_INDICATION` and `GTPV2_IE_THROTTLING`, are not among the names `gtpc_factory.py` imports:
asking for one of those IEs raises `NameError`. `create_session_req` inserts the MSISDN at index 1
and then the MEI at index 2, so the MEI follows the RAT type when no MSISDN is given and precedes it
otherwise. -/

namespace DpktGtpc.Factory

open Gtp

/-! ### Constants of `gtp_c.py` for GTPv2 -/

def V2_ECHO_REQ : Nat := 1
def V2_ECHO_RES : Nat := 2
def V2_CREATE_SESSION_REQ : Nat := 32
def V2_CREATE_SESSION_RES : Nat := 33
def V2_DELETE_SESSION_REQ : Nat := 36
def V2_DELETE_SESSION_RES : Nat := 37
def V2_CREATE_BEARER_REQ : Nat := 95
def V2_CREATE_BEARER_RES : Nat := 96
/-- `V2_MODIFY_BEARER_REQ`, which `gtp_c.py` binds twice, to 34 and then to 99: the second
binding stands. -/
def V2_MODIFY_BEARER_REQ : Nat := 99
/-- `V2_MODIFY_BEARER_RES`, bound to 35 and then to 100; the second binding stands. -/
def V2_MODIFY_BEARER_RES : Nat := 100
def V2_RELEASE_ACCESS_BEARERS_REQ : Nat := 170
def V2_RELEASE_ACCESS_BEARERS_RES : Nat := 171
def V2_DL_DATA_NOTIFY : Nat := 176
def V2_DL_DATA_NOTIFY_ACK : Nat := 177

def GTPV2_IE_IMSI : Nat := 1
def GTPV2_IE_CAUSE : Nat := 2
def GTPV2_REC_REST_CNT : Nat := 3
def GTPV2_IE_APN : Nat := 71
def GTPV2_AMBR : Nat := 72
def GTPV2_EBI : Nat := 73
def GTPV2_IE_MEI : Nat := 75
def GTPV2_IE_MSISDN : Nat := 76
def GTPV2_BEARER_QOS : Nat := 80
def GTPV2_IE_RAT_TYPE : Nat := 82
def GTPV2_IE_F_TEID : Nat := 87
def GTPV2_IE_BEARER_CTX : Nat := 93
def GTPV2_IE_PDN_TYPE : Nat := 99
def GTPV2_IE_ARP : Nat := 155

/-! ### What the import leaves unresolved -/

/-- The arguments of one call `encode_fteid(teid, interface, ipv4=ipv4, ipv6=ipv6)`; the addresses
are `str`s or `None`. -/
structure Fteid where
  teid : Int
  interface : Nat
  ipv4 : Option Bytes
  ipv6 : Option Bytes
  deriving DecidableEq, Repr

/-- The names `gtpc_factory.py` imports from `gtp_c.py` that `gtp_c.py` does not define: the
message types of the Delete Bearer messages and `encode_fteid`. -/
structure Unresolved where
  V2_DELETE_BEARER_REQ : Nat
  V2_DELETE_BEARER_RES : Nat
  encodeFteid : Fteid → Except FactoryError Bytes

/-- The control-plane F-TEID of a session message: `sender_ipv4` becomes `'0.0.0.0'` when neither
address is given. -/
def senderFteid (sender_teid : Int) (sender_ipv4 sender_ipv6 : Option Bytes) (sender_interface : Nat) :
    Fteid :=
  { teid := sender_teid, interface := sender_interface, ipv6 := sender_ipv6,
    ipv4 := if sender_ipv4 = none ∧ sender_ipv6 = none then
      some [0x30, 0x2e, 0x30, 0x2e, 0x30, 0x2e, 0x30] else sender_ipv4 }

/-! ### `_ie2` and the IEs it builds -/

/-- `_ie2(type_, instance, data)`: `IEv2(type=type_, instance=instance, data=data)`, whose
`instance` setter is `pass`. -/
def ie2 (type inst : Nat) (data : Bytes) : IEv2 :=
  { (({ type, len := 0, flags := 0, data := [] } : IEv2).setInstance inst) with data }

/-- `_ie2(t, i, d)` of a value `d` that may raise. -/
def ie2Of (t i : Nat) (d : Except FactoryError Bytes) : Except FactoryError IEv2 := ie2 t i <$> d

/-- `_ie2(name, instance, data)` where `name` is a constant of `gtp_c.py` that `gtpc_factory.py`
does not import: the first argument raises `NameError` before the others are evaluated. -/
def ie2Unbound (name : String) (_i : Nat) (_d : Except FactoryError Bytes) :
    Except FactoryError IEv2 :=
  .error (.nameError name)

/-- `ies.insert(i, x)` of a Python list: `x` goes before the element at index `i`, or last when
there is none. -/
def pyInsert {α : Type} (i : Nat) (x : α) (l : List α) : List α := l.insertIdx (min i l.length) x

/-- `if x is not None: ies.insert(i, x)` for an IE that may raise. -/
def insertOpt (i : Nat) : Option (Except FactoryError IEv2) → List IEv2 →
    Except FactoryError (List IEv2)
  | none, ies => pure ies
  | some x, ies => do
    let ie ← x
    pure (pyInsert i ie ies)

theorem ie2Of_eq_ok {t i : Nat} {d : Except FactoryError Bytes} {e : IEv2} :
    ie2Of t i d = .ok e ↔ ∃ b, d = .ok b ∧ e = ie2 t i b := by
  cases d <;> simp [ie2Of, eq_comm]

theorem ie2_packable {t i : Nat} {d : Bytes} (ht : t < 256) (hd : d.length < 65536) :
    (ie2 t i d).Packable :=
  ⟨ht, show 0 < 256 by decide, hd⟩

theorem mem_pyInsert {α : Type} {i : Nat} {x y : α} {l : List α} :
    y ∈ pyInsert i x l ↔ y = x ∨ y ∈ l :=
  List.mem_insertIdx (min_le_right _ _)

theorem map_pyInsert {α β : Type} (f : α → β) (i : Nat) (x : α) (l : List α) :
    (pyInsert i x l).map f = pyInsert i (f x) (l.map f) := by
  unfold pyInsert
  rw [List.length_map]
  induction l generalizing i with
  | nil => cases i <;> rfl
  | cons a l ih =>
    cases i with
    | zero => rfl
    | succ i => simpa [Nat.succ_min_succ] using ih i

/-- An IE as `_ie2` builds it: an octet type, CR flag and instance zero. -/
def Plain (e : IEv2) : Prop := e.type < 256 ∧ e.flags = 0

/-- An element of an IE list that, if it returns, returns a plain IE. -/
def Elem (x : Except FactoryError IEv2) : Prop := ∀ e, x = .ok e → Plain e

theorem Plain.packable {e : IEv2} (h : Plain e) (hl : e.data.length < 65536) : e.Packable :=
  ⟨h.1, by rw [h.2]; decide, hl⟩

theorem ie2Of_elem {t i : Nat} {d : Except FactoryError Bytes} (ht : t < 256) : Elem (ie2Of t i d) :=
  fun _ he => by obtain ⟨_, -, rfl⟩ := ie2Of_eq_ok.mp he; exact ⟨ht, rfl⟩

theorem ie2Unbound_elem {n : String} {i : Nat} {d : Except FactoryError Bytes} :
    Elem (ie2Unbound n i d) :=
  fun _ he => nomatch he

/-- An element of an IE list that, if it returns, returns an IE of type `t`. -/
def OfType (x : Except FactoryError IEv2) (t : Nat) : Prop := ∀ e, x = .ok e → e.type = t

theorem forall_mem_opt {α β : Type} {P : β → Prop} {f : α → β} (hf : ∀ a, P (f a)) :
    ∀ o : Option α, ∀ x ∈ (o.map f).toList, P x
  | none, _, hx => absurd hx (List.not_mem_nil _)
  | some a, _, hx => by rw [List.mem_singleton.mp hx]; exact hf a

theorem evalList_plain {xs : List (Except FactoryError IEv2)} {ies : List IEv2}
    (hx : ∀ x ∈ xs, Elem x) (h : evalList xs = .ok ies) : ∀ e ∈ ies, Plain e := fun e he => by
  obtain ⟨x, hx', hxe⟩ := evalList_mem h e he
  exact hx x hx' e hxe

theorem insertOpt_plain {i : Nat} {x : Option (Except FactoryError IEv2)} {ies ies' : List IEv2}
    (hx : ∀ y ∈ x.toList, Elem y) (hi : ∀ e ∈ ies, Plain e) (h : insertOpt i x ies = .ok ies') :
    ∀ e ∈ ies', Plain e := by
  cases x with
  | none => cases h; exact hi
  | some y =>
    simp only [insertOpt, except_bind_eq_ok, except_pure, Except.ok.injEq] at h
    obtain ⟨ie, hy, rfl⟩ := h
    intro e he
    rcases mem_pyInsert.mp he with rfl | he
    · exact hx y (List.mem_singleton_self _) e hy
    · exact hi e he

/-! ### The bearer contexts -/

/-- `b''.join(bytes(ie) for ie in inner)`. -/
def joinIEs (inner : List IEv2) : Except FactoryError Bytes :=
  match mapMut IEv2.bytes inner with
  | .ok bs _ => .ok bs.flatten
  | .error e _ => .error (.py e)

/-- What the bearer-context builders share: the IEs `inner` built in order, then
`_ie2(GTPV2_IE_BEARER_CTX, 0, b''.join(bytes(ie) for ie in inner))`. -/
def bearerCtx (inner : List (Except FactoryError IEv2)) : Except FactoryError IEv2 := do
  let inner ← evalList inner
  let data ← joinIEs inner
  pure (ie2 GTPV2_IE_BEARER_CTX 0 data)

section Bearer

variable (u : Unresolved)

/-- The data-plane F-TEID a bearer-context builder appends when `fteid_data_teid` is given:
`_ie2(GTPV2_IE_F_TEID, inst, encode_fteid(fteid_data_teid, fteid_data_interface, ...))`, where
`fteid_data` holds the `fteid_data_*` arguments. -/
def dataFteid (inst : Nat) (fteid_data : Option Fteid) : List (Except FactoryError IEv2) :=
  (fteid_data.map fun f => ie2Of GTPV2_IE_F_TEID inst (u.encodeFteid f)).toList

/-- `_build_bearer_ctx_create(ebi, qci, pci, pl, pvi, mbr_ul, mbr_dl, gbr_ul, gbr_dl,
fteid_data_*)`. -/
def buildBearerCtxCreate (ebi : Nat) (qci : Int) (pci pl pvi : Nat)
    (mbr_ul mbr_dl gbr_ul gbr_dl : Int) (fteid_data : Option Fteid) : Except FactoryError IEv2 :=
  bearerCtx ([ie2Of GTPV2_EBI 0 (pyBytes [↑(ebi &&& 0x0f : Nat)]),
    ie2Of GTPV2_BEARER_QOS 0 (encodeBearerQos qci pci pl pvi mbr_ul mbr_dl gbr_ul gbr_dl)] ++
    dataFteid u 2 fteid_data)

/-- `_build_bearer_ctx_modify(ebi, fteid_data_*)`. -/
def buildBearerCtxModify (ebi : Nat) (fteid_data : Option Fteid) : Except FactoryError IEv2 :=
  bearerCtx ([ie2Of GTPV2_EBI 0 (pyBytes [↑(ebi &&& 0x0f : Nat)])] ++ dataFteid u 0 fteid_data)

/-- `_build_bearer_ctx_response(ebi, cause, fteid_data_*)`; unlike the cause IEs of the messages,
the cause is not masked, so `bytes([cause])` raises on a negative `int` as on one from 256 on. -/
def buildBearerCtxResponse (ebi : Nat) (cause : Int) (fteid_data : Option Fteid) :
    Except FactoryError IEv2 :=
  bearerCtx ([ie2Of GTPV2_EBI 0 (pyBytes [↑(ebi &&& 0x0f : Nat)]), ie2Of GTPV2_IE_CAUSE 0 (pyBytes [cause])] ++
    dataFteid u 0 fteid_data)

theorem dataFteid_elem (inst : Nat) (fteid_data : Option Fteid) :
    ∀ x ∈ dataFteid u inst fteid_data, Elem x :=
  forall_mem_opt (fun _ => ie2Of_elem (by decide)) fteid_data

/-- A bearer context of IEs that `struct.pack` can write is a Bearer Context IE, CR flag and
instance zero, whose value the IE loop of `GTPv2C.unpack` reads as those IEs. -/
theorem bearerCtx_reads_back {xs : List (Except FactoryError IEv2)} {inner : List IEv2}
    (hx : evalList xs = .ok inner) (hp : ∀ ie ∈ inner, ie.Packable) :
    ∃ ie, bearerCtx xs = .ok ie ∧ ie.type = GTPV2_IE_BEARER_CTX ∧ ie.flags = 0 ∧
      unpackIEsV2 ie.data = .ok (inner.map IEv2.setLen) := by
  refine ⟨ie2 GTPV2_IE_BEARER_CTX 0 (inner.map IEv2.wire).flatten, ?_, rfl, rfl,
    IEv2.unpackIEsV2_wire hp⟩
  simp only [bearerCtx, hx, except_ok_bind, joinIEs, IEv2.mapMut_bytes hp]
  rfl

/-- The same, for the builders' own IEs followed by their data-plane F-TEID. -/
theorem bearerCtx_fteid_reads_back {base : List (Except FactoryError IEv2)} {inner fs : List IEv2}
    {inst : Nat} {fteid_data : Option Fteid} (hb : evalList base = .ok inner)
    (hp : ∀ ie ∈ inner, ie.Packable) (hf : evalList (dataFteid u inst fteid_data) = .ok fs)
    (hl : ∀ f ∈ fs, f.data.length < 65536) :
    ∃ ie, bearerCtx (base ++ dataFteid u inst fteid_data) = .ok ie ∧
      ie.type = GTPV2_IE_BEARER_CTX ∧ ie.flags = 0 ∧
      unpackIEsV2 ie.data = .ok ((inner ++ fs).map IEv2.setLen) :=
  bearerCtx_reads_back (evalList_append_ok hb hf) (List.forall_mem_append.mpr ⟨hp,
    fun f hf' => (evalList_plain (dataFteid_elem u inst fteid_data) hf f hf').packable (hl f hf')⟩)

theorem ebi_packable (ebi : Nat) : (ie2 GTPV2_EBI 0 [(ebi &&& 0x0f).toUInt8]).Packable :=
  ie2_packable (by decide) (show 1 < 65536 by decide)

/-- The bearer-context builders return a Bearer Context IE, CR flag and instance zero, whose value
the IE loop of `GTPv2C.unpack` reads as the IEs it groups: the EBI, `ebi & 0x0f`, with the Bearer
QoS when `_encode_bearer_qos` returns, with the cause when it is in `range(256)`, or alone,
followed by the data-plane F-TEID, if one was asked for and fits. A cause outside `range(256)`,
negative or from 256 on, both of which the messages mask, makes `_build_bearer_ctx_response` raise
`ValueError` before any F-TEID is encoded. -/
theorem bearer_ctx_groups (ebi : Nat) (qci : Int) (pci pl pvi : Nat)
    (mbr_ul mbr_dl gbr_ul gbr_dl : Int) (cause : Int) (fteid_data : Option Fteid) :
    (∀ q fs, encodeBearerQos qci pci pl pvi mbr_ul mbr_dl gbr_ul gbr_dl = .ok q →
      evalList (dataFteid u 2 fteid_data) = .ok fs → (∀ f ∈ fs, f.data.length < 65536) →
      ∃ ie, buildBearerCtxCreate u ebi qci pci pl pvi mbr_ul mbr_dl gbr_ul gbr_dl fteid_data =
          .ok ie ∧ ie.type = GTPV2_IE_BEARER_CTX ∧ ie.flags = 0 ∧
        unpackIEsV2 ie.data = .ok (([ie2 GTPV2_EBI 0 [(ebi &&& 0x0f).toUInt8],
          ie2 GTPV2_BEARER_QOS 0 q] ++ fs).map IEv2.setLen)) ∧
    (∀ fs, evalList (dataFteid u 0 fteid_data) = .ok fs → (∀ f ∈ fs, f.data.length < 65536) →
      ∃ ie, buildBearerCtxModify u ebi fteid_data = .ok ie ∧ ie.type = GTPV2_IE_BEARER_CTX ∧
        ie.flags = 0 ∧
        unpackIEsV2 ie.data = .ok (([ie2 GTPV2_EBI 0 [(ebi &&& 0x0f).toUInt8]] ++ fs).map
          IEv2.setLen)) ∧
    (0 ≤ cause → cause < 256 → ∀ fs, evalList (dataFteid u 0 fteid_data) = .ok fs →
      (∀ f ∈ fs, f.data.length < 65536) →
      ∃ ie, buildBearerCtxResponse u ebi cause fteid_data = .ok ie ∧
        ie.type = GTPV2_IE_BEARER_CTX ∧ ie.flags = 0 ∧
        unpackIEsV2 ie.data = .ok (([ie2 GTPV2_EBI 0 [(ebi &&& 0x0f).toUInt8],
          ie2 GTPV2_IE_CAUSE 0 [cause.toNat.toUInt8]] ++ fs).map IEv2.setLen)) ∧
    (cause < 0 ∨ 256 ≤ cause →
      buildBearerCtxResponse u ebi cause fteid_data = .error .valueError) := by
  have he := pyBytes_and (show 0x0f < 256 by decide)
  refine ⟨fun q fs hq hf hl => ?_, fun fs hf hl => ?_, fun h0 hc fs hf hl => ?_, fun hc => ?_⟩
  · have hq22 : q.length = 22 := by rw [(encodeBearerQos_eq_ok.mp hq).2]; simp
    exact bearerCtx_fteid_reads_back u (by simp [evalList, ie2Of, he, hq])
      (by simpa using ⟨ebi_packable ebi, ie2_packable (by decide) (by omega)⟩) hf hl
  · exact bearerCtx_fteid_reads_back u (by simp [evalList, ie2Of, he])
      (by simpa using ebi_packable ebi) hf hl
  · have hcb : pyBytes [cause] = .ok [cause.toNat.toUInt8] := by simp [pyBytes, h0, hc]
    exact bearerCtx_fteid_reads_back u (by simp [evalList, ie2Of, he, hcb])
      (by simpa using ⟨ebi_packable ebi, ie2_packable (by decide) (show 1 < 65536 by decide)⟩) hf hl
  · have hce : pyBytes [cause] = .error .valueError := by
      simp only [pyBytes, List.mem_singleton, forall_eq]; rw [if_neg (by omega)]
    simp [buildBearerCtxResponse, bearerCtx, evalList, ie2Of, he, hce]

end Bearer

/-! ### `GTPv2CFactory` -/

namespace GTPv2CFactory

/-- `GTPv2CFactory._hdr(msg_type, teid, seqnum)`: with a TEID, `GTPv2C(version=2, p_flag=0,
t_flag=1, type=msg_type, teid=teid, seqnum=seqnum)`; without one, `t_flag=0` and no `teid`. -/
def hdr (msg_type : Nat) (teid : Option Int) (seqnum : Int) : GTPv2C :=
  let m : GTPv2C :=
    { flags := 0, type := 0, len := 0, teid := none, seqnum := none, priority := none,
      data := .bytes [], ies := none }
  match teid with
  | some t => { ((m.setVersion 2).setPFlag 0).setTFlag 1 with
      type := msg_type, teid := some (.int t), seqnum := some (.int seqnum) }
  | none => { ((m.setVersion 2).setPFlag 0).setTFlag 0 with
      type := msg_type, seqnum := some (.int seqnum) }

theorem hdr_flags (t : Nat) (te : Option Int) (s : Int) :
    (hdr t te s).flags = if te.isSome then 0x48 else 0x40 := by
  cases te <;> rfl

theorem hdr_type (t : Nat) (te : Option Int) (s : Int) : (hdr t te s).type = t := by
  cases te <;> rfl

theorem hdr_teid (t : Nat) (te : Option Int) (s : Int) : (hdr t te s).teid = te.map .int := by
  cases te <;> rfl

theorem hdr_ies (t : Nat) (te : Option Int) (s : Int) : (hdr t te s).ies = none := by
  cases te <;> rfl

/-- What every method of `GTPv2CFactory` does: `pkt = _hdr(...)`, the IEs built, `pkt.data = ies`. -/
def message (msg_type : Nat) (teid : Option Int) (seqnum : Int)
    (ies : Except FactoryError (List IEv2)) : Except FactoryError GTPv2C := do
  let pkt := hdr msg_type teid seqnum
  let ies ← ies
  pure { pkt with data := .list ies }

theorem message_eq_ok {msg_type : Nat} {teid : Option Int} {seqnum : Int}
    {ies? : Except FactoryError (List IEv2)} {m : GTPv2C} :
    message msg_type teid seqnum ies? = .ok m ↔
      ∃ ies, ies? = .ok ies ∧ m = { hdr msg_type teid seqnum with data := .list ies } := by
  simp only [message, except_bind_eq_ok, except_pure, Except.ok.injEq]
  exact exists_congr fun _ => and_congr_right fun _ => eq_comm

section Methods

variable (u : Unresolved)

/-- `GTPv2CFactory.echo_req(seqnum)`. -/
def echoReq (seqnum : Int) : Except FactoryError GTPv2C :=
  message V2_ECHO_REQ none seqnum (evalList [])

/-- `GTPv2CFactory.echo_res(seqnum, recovery)`. -/
def echoRes (seqnum : Int) (recovery : Nat) : Except FactoryError GTPv2C :=
  message V2_ECHO_RES none seqnum <| evalList
    [ie2Of GTPV2_REC_REST_CNT 0 (pyBytes [↑(recovery &&& 0xff : Nat)])]

/-- `GTPv2CFactory.create_session_req(teid, seqnum, imsi, msisdn, mei, rat_type, apn, pdn_type,
sender_teid, sender_ipv4, sender_ipv6, sender_interface, ebi, qci, pci, pl, pvi, mbr_ul, mbr_dl,
gbr_ul, gbr_dl, ambr_ul, ambr_dl, fteid_data_*, recovery)`: seven IEs, then the MSISDN inserted at
index 1, the MEI at index 2 and the restart counter appended. -/
def createSessionReq (teid : Option Int) (seqnum : Int) (imsi : Bytes) (msisdn mei : Option Bytes)
    (rat_type : Nat) (apn : Bytes) (pdn_type : Nat) (sender_teid : Int)
    (sender_ipv4 sender_ipv6 : Option Bytes) (sender_interface ebi : Nat) (qci : Int)
    (pci pl pvi : Nat) (mbr_ul mbr_dl gbr_ul gbr_dl ambr_ul ambr_dl : Int)
    (fteid_data : Option Fteid) (recovery : Option Nat) : Except FactoryError GTPv2C :=
  message V2_CREATE_SESSION_REQ teid seqnum do
    let ies ← evalList
      [ie2Of GTPV2_IE_IMSI 0 (encodeImsi imsi),
       ie2Of GTPV2_IE_RAT_TYPE 0 (pyBytes [↑(rat_type &&& 0xff : Nat)]),
       ie2Of GTPV2_IE_APN 0 (encodeApn apn),
       ie2Of GTPV2_IE_PDN_TYPE 0 (pyBytes [↑(pdn_type &&& 0x07 : Nat)]),
       ie2Of GTPV2_AMBR 0 (encodeAmbr ambr_ul ambr_dl),
       ie2Of GTPV2_IE_F_TEID 0
         (u.encodeFteid (senderFteid sender_teid sender_ipv4 sender_ipv6 sender_interface)),
       buildBearerCtxCreate u ebi qci pci pl pvi mbr_ul mbr_dl gbr_ul gbr_dl fteid_data]
    let ies ← insertOpt 1 (msisdn.map fun s => ie2Of GTPV2_IE_MSISDN 0 (encodeImsi s)) ies
    let ies ← insertOpt 2 (mei.map fun s => ie2Of GTPV2_IE_MEI 0 (encodeImsi s)) ies
    let restart ← evalList
      (recovery.map fun r => ie2Of GTPV2_REC_REST_CNT 0 (pyBytes [↑(r &&& 0xff : Nat)])).toList
    pure (ies ++ restart)

/-- `GTPv2CFactory.create_session_res(teid, seqnum, cause, sender_teid, sender_ipv4, sender_ipv6,
sender_interface, ebi, fteid_data_*, ambr_ul, ambr_dl, recovery)`. The `cause`, an `int` that the
bearer context packs unmasked, is masked by `cause & 0xff` in the message's own cause IE. -/
def createSessionRes (teid : Option Int) (seqnum : Int) (cause : Int) (sender_teid : Int)
    (sender_ipv4 sender_ipv6 : Option Bytes) (sender_interface ebi : Nat) (fteid_data : Option Fteid)
    (ambr_ul ambr_dl : Int) (recovery : Option Nat) : Except FactoryError GTPv2C :=
  message V2_CREATE_SESSION_RES teid seqnum <| evalList <|
    [ie2Of GTPV2_IE_CAUSE 0 (pyBytes [Int.land cause 0xff]),
     ie2Of GTPV2_AMBR 0 (encodeAmbr ambr_ul ambr_dl),
     ie2Of GTPV2_IE_F_TEID 1
       (u.encodeFteid (senderFteid sender_teid sender_ipv4 sender_ipv6 sender_interface)),
     buildBearerCtxResponse u ebi cause fteid_data] ++
    (recovery.map fun r => ie2Of GTPV2_REC_REST_CNT 0 (pyBytes [↑(r &&& 0xff : Nat)])).toList

/-- `GTPv2CFactory.modify_bearer_req(teid, seqnum, ebi, rat_type, fteid_data_*,
delay_dl_packet_notif_req)`: the bearer context, the RAT type inserted before it, and the timer,
whose type is an unbound name, appended. -/
def modifyBearerReq (teid : Option Int) (seqnum : Int) (ebi : Nat) (rat_type : Option Nat)
    (fteid_data : Option Fteid) (delay_dl_packet_notif_req : Option Nat) :
    Except FactoryError GTPv2C :=
  message V2_MODIFY_BEARER_REQ teid seqnum do
    let ies ← evalList [buildBearerCtxModify u ebi fteid_data]
    let ies ← insertOpt 0 (rat_type.map fun r =>
      ie2Of GTPV2_IE_RAT_TYPE 0 (pyBytes [↑(r &&& 0xff : Nat)])) ies
    let back ← evalList (delay_dl_packet_notif_req.map fun d =>
      ie2Unbound "GTPV2_IE_EPC_TIMER" 0 (pyBytes [↑(d &&& 0xff : Nat)])).toList
    pure (ies ++ back)

/-- `GTPv2CFactory.modify_bearer_res(teid, seqnum, cause, ebi, recovery)`, `cause` an `int` as in
`create_session_res`. -/
def modifyBearerRes (teid : Option Int) (seqnum : Int) (cause : Int) (ebi : Nat)
    (recovery : Option Nat) : Except FactoryError GTPv2C :=
  message V2_MODIFY_BEARER_RES teid seqnum <| evalList <|
    [ie2Of GTPV2_IE_CAUSE 0 (pyBytes [Int.land cause 0xff]), buildBearerCtxResponse u ebi cause none] ++
    (recovery.map fun r => ie2Of GTPV2_REC_REST_CNT 0 (pyBytes [↑(r &&& 0xff : Nat)])).toList

/-- `GTPv2CFactory.delete_session_req(teid, seqnum, ebi, sender_teid, sender_ipv4, sender_ipv6,
sender_interface)`. -/
def deleteSessionReq (teid : Option Int) (seqnum : Int) (ebi : Nat) (sender_teid : Int)
    (sender_ipv4 sender_ipv6 : Option Bytes) (sender_interface : Nat) : Except FactoryError GTPv2C :=
  message V2_DELETE_SESSION_REQ teid seqnum <| evalList
    [ie2Of GTPV2_EBI 0 (pyBytes [↑(ebi &&& 0x0f : Nat)]),
     ie2Of GTPV2_IE_F_TEID 0
       (u.encodeFteid (senderFteid sender_teid sender_ipv4 sender_ipv6 sender_interface))]

/-- `GTPv2CFactory.delete_session_res(teid, seqnum, cause, recovery)`. -/
def deleteSessionRes (teid : Option Int) (seqnum : Int) (cause : Nat) (recovery : Option Nat) :
    Except FactoryError GTPv2C :=
  message V2_DELETE_SESSION_RES teid seqnum <| evalList <|
    [ie2Of GTPV2_IE_CAUSE 0 (pyBytes [↑(cause &&& 0xff : Nat)])] ++
    (recovery.map fun r => ie2Of GTPV2_REC_REST_CNT 0 (pyBytes [↑(r &&& 0xff : Nat)])).toList

/-- `GTPv2CFactory.create_bearer_req(teid, seqnum, linked_ebi, ebi, qci, pci, pl, pvi, mbr_ul,
mbr_dl, gbr_ul, gbr_dl, tft, fteid_data_*)`. -/
def createBearerReq (teid : Option Int) (seqnum : Int) (linked_ebi ebi : Nat) (qci : Int)
    (pci pl pvi : Nat) (mbr_ul mbr_dl gbr_ul gbr_dl : Int) (tft : Option Bytes)
    (fteid_data : Option Fteid) : Except FactoryError GTPv2C :=
  message V2_CREATE_BEARER_REQ teid seqnum <| evalList <|
    [ie2Of GTPV2_EBI 0 (pyBytes [↑(linked_ebi &&& 0x0f : Nat)]),
     buildBearerCtxCreate u ebi qci pci pl pvi mbr_ul mbr_dl gbr_ul gbr_dl fteid_data] ++
    (tft.map fun t => ie2Unbound "GTPV2_IE_BEARER_TFT" 0 (pure t)).toList

/-- `GTPv2CFactory.create_bearer_res(teid, seqnum, cause, ebi, fteid_data_*)`, `cause` an `int` as
in `create_session_res`. -/
def createBearerRes (teid : Option Int) (seqnum : Int) (cause : Int) (ebi : Nat)
    (fteid_data : Option Fteid) : Except FactoryError GTPv2C :=
  message V2_CREATE_BEARER_RES teid seqnum <| evalList
    [ie2Of GTPV2_IE_CAUSE 0 (pyBytes [Int.land cause 0xff]),
     buildBearerCtxResponse u ebi cause fteid_data]

/-- `GTPv2CFactory.delete_bearer_req(teid, seqnum, ebi, cause)`. -/
def deleteBearerReq (teid : Option Int) (seqnum : Int) (ebi : Nat) (cause : Option Nat) :
    Except FactoryError GTPv2C :=
  message u.V2_DELETE_BEARER_REQ teid seqnum <| evalList <|
    [ie2Of GTPV2_EBI 0 (pyBytes [↑(ebi &&& 0x0f : Nat)])] ++
    (cause.map fun c => ie2Of GTPV2_IE_CAUSE 0 (pyBytes [↑(c &&& 0xff : Nat)])).toList

/-- `GTPv2CFactory.delete_bearer_res(teid, seqnum, cause, ebi)`, `cause` an `int` as in
`create_session_res`. -/
def deleteBearerRes (teid : Option Int) (seqnum : Int) (cause : Int) (ebi : Nat) :
    Except FactoryError GTPv2C :=
  message u.V2_DELETE_BEARER_RES teid seqnum <| evalList
    [ie2Of GTPV2_IE_CAUSE 0 (pyBytes [Int.land cause 0xff]), buildBearerCtxResponse u ebi cause none]

/-- `GTPv2CFactory.release_access_bearers_req(teid, seqnum, indication_flags)`. -/
def releaseAccessBearersReq (teid : Option Int) (seqnum : Int) (indication_flags : Option Bytes) :
    Except FactoryError GTPv2C :=
  message V2_RELEASE_ACCESS_BEARERS_REQ teid seqnum <| evalList
    (indication_flags.map fun f => ie2Unbound "GTPV2_INDICATION" 0 (pure f)).toList

/-- `GTPv2CFactory.release_access_bearers_res(teid, seqnum, cause, recovery)`. -/
def releaseAccessBearersRes (teid : Option Int) (seqnum : Int) (cause : Nat)
    (recovery : Option Nat) : Except FactoryError GTPv2C :=
  message V2_RELEASE_ACCESS_BEARERS_RES teid seqnum <| evalList <|
    [ie2Of GTPV2_IE_CAUSE 0 (pyBytes [↑(cause &&& 0xff : Nat)])] ++
    (recovery.map fun r => ie2Of GTPV2_REC_REST_CNT 0 (pyBytes [↑(r &&& 0xff : Nat)])).toList

/-- `GTPv2CFactory.dl_data_notification(teid, seqnum, ebi, arp_pci, arp_pl, arp_pvi)`. -/
def dlDataNotification (teid : Option Int) (seqnum : Int) (ebi arp_pci arp_pl arp_pvi : Nat) :
    Except FactoryError GTPv2C :=
  let arp_byte := ((arp_pci &&& 0x1) <<< 6) ||| ((arp_pl &&& 0xf) <<< 2) ||| ((arp_pvi &&& 0x1) <<< 1)
  message V2_DL_DATA_NOTIFY teid seqnum <| evalList
    [ie2Of GTPV2_EBI 0 (pyBytes [↑(ebi &&& 0x0f : Nat)]), ie2Of GTPV2_IE_ARP 0 (pyBytes [↑arp_byte])]

/-- `GTPv2CFactory.dl_data_notification_ack(teid, seqnum, cause,
dl_low_prio_traffic_throttling)`. -/
def dlDataNotificationAck (teid : Option Int) (seqnum : Int) (cause : Nat)
    (dl_low_prio_traffic_throttling : Option Nat) : Except FactoryError GTPv2C :=
  message V2_DL_DATA_NOTIFY_ACK teid seqnum <| evalList <|
    [ie2Of GTPV2_IE_CAUSE 0 (pyBytes [↑(cause &&& 0xff : Nat)])] ++
    (dl_low_prio_traffic_throttling.map fun t =>
      ie2Unbound "GTPV2_IE_THROTTLING" 0 (pyBytes [↑(t &&& 0xff : Nat)])).toList

/-- The messages the methods of `GTPv2CFactory` return, each with the message type its method
passes to `_hdr`. -/
inductive Returns : Nat → GTPv2C → Prop
  | echoReq {m seqnum} : echoReq seqnum = .ok m → Returns V2_ECHO_REQ m
  | echoRes {m seqnum recovery} : echoRes seqnum recovery = .ok m → Returns V2_ECHO_RES m
  | createSessionReq {m teid seqnum imsi msisdn mei rat_type apn pdn_type sender_teid sender_ipv4
      sender_ipv6 sender_interface ebi qci pci pl pvi mbr_ul mbr_dl gbr_ul gbr_dl ambr_ul ambr_dl
      fteid_data recovery} :
      createSessionReq u teid seqnum imsi msisdn mei rat_type apn pdn_type sender_teid sender_ipv4
        sender_ipv6 sender_interface ebi qci pci pl pvi mbr_ul mbr_dl gbr_ul gbr_dl ambr_ul ambr_dl
        fteid_data recovery = .ok m → Returns V2_CREATE_SESSION_REQ m
  | createSessionRes {m teid seqnum cause sender_teid sender_ipv4 sender_ipv6 sender_interface ebi
      fteid_data ambr_ul ambr_dl recovery} :
      createSessionRes u teid seqnum cause sender_teid sender_ipv4 sender_ipv6 sender_interface ebi
        fteid_data ambr_ul ambr_dl recovery = .ok m → Returns V2_CREATE_SESSION_RES m
  | modifyBearerReq {m teid seqnum ebi rat_type fteid_data delay_dl_packet_notif_req} :
      modifyBearerReq u teid seqnum ebi rat_type fteid_data delay_dl_packet_notif_req = .ok m →
        Returns V2_MODIFY_BEARER_REQ m
  | modifyBearerRes {m teid seqnum cause ebi recovery} :
      modifyBearerRes u teid seqnum cause ebi recovery = .ok m → Returns V2_MODIFY_BEARER_RES m
  | deleteSessionReq {m teid seqnum ebi sender_teid sender_ipv4 sender_ipv6 sender_interface} :
      deleteSessionReq u teid seqnum ebi sender_teid sender_ipv4 sender_ipv6 sender_interface =
        .ok m → Returns V2_DELETE_SESSION_REQ m
  | deleteSessionRes {m teid seqnum cause recovery} :
      deleteSessionRes teid seqnum cause recovery = .ok m → Returns V2_DELETE_SESSION_RES m
  | createBearerReq {m teid seqnum linked_ebi ebi qci pci pl pvi mbr_ul mbr_dl gbr_ul gbr_dl tft
      fteid_data} :
      createBearerReq u teid seqnum linked_ebi ebi qci pci pl pvi mbr_ul mbr_dl gbr_ul gbr_dl tft
        fteid_data = .ok m → Returns V2_CREATE_BEARER_REQ m
  | createBearerRes {m teid seqnum cause ebi fteid_data} :
      createBearerRes u teid seqnum cause ebi fteid_data = .ok m → Returns V2_CREATE_BEARER_RES m
  | deleteBearerReq {m teid seqnum ebi cause} :
      deleteBearerReq u teid seqnum ebi cause = .ok m → Returns u.V2_DELETE_BEARER_REQ m
  | deleteBearerRes {m teid seqnum cause ebi} :
      deleteBearerRes u teid seqnum cause ebi = .ok m → Returns u.V2_DELETE_BEARER_RES m
  | releaseAccessBearersReq {m teid seqnum indication_flags} :
      releaseAccessBearersReq teid seqnum indication_flags = .ok m →
        Returns V2_RELEASE_ACCESS_BEARERS_REQ m
  | releaseAccessBearersRes {m teid seqnum cause recovery} :
      releaseAccessBearersRes teid seqnum cause recovery = .ok m →
        Returns V2_RELEASE_ACCESS_BEARERS_RES m
  | dlDataNotification {m teid seqnum ebi arp_pci arp_pl arp_pvi} :
      dlDataNotification teid seqnum ebi arp_pci arp_pl arp_pvi = .ok m → Returns V2_DL_DATA_NOTIFY m
  | dlDataNotificationAck {m teid seqnum cause dl_low_prio_traffic_throttling} :
      dlDataNotificationAck teid seqnum cause dl_low_prio_traffic_throttling = .ok m →
        Returns V2_DL_DATA_NOTIFY_ACK m

end Methods

/-! ### What every method returns -/

theorem ie2Of_type {t i : Nat} {d : Except FactoryError Bytes} : OfType (ie2Of t i d) t :=
  fun _ he => by obtain ⟨_, -, rfl⟩ := ie2Of_eq_ok.mp he; rfl

theorem bearerCtx_elem {xs : List (Except FactoryError IEv2)} : Elem (bearerCtx xs) := fun e he => by
  simp only [bearerCtx, except_bind_eq_ok, except_pure, Except.ok.injEq] at he
  obtain ⟨_, -, _, -, rfl⟩ := he
  exact ⟨show GTPV2_IE_BEARER_CTX < 256 by decide, rfl⟩

theorem bearerCtx_type {xs : List (Except FactoryError IEv2)} :
    OfType (bearerCtx xs) GTPV2_IE_BEARER_CTX := fun e he => by
  simp only [bearerCtx, except_bind_eq_ok, except_pure, Except.ok.injEq] at he
  obtain ⟨_, -, _, -, rfl⟩ := he
  rfl

/-- What a method returns: `_hdr`'s header with the IEs, each plain when every element is. -/
theorem message_plain {msg_type : Nat} {teid : Option Int} {seqnum : Int}
    {ies? : Except FactoryError (List IEv2)} {m : GTPv2C}
    (hx : ∀ ies, ies? = .ok ies → ∀ e ∈ ies, Plain e)
    (h : message msg_type teid seqnum ies? = .ok m) :
    (∃ te s, m = { hdr msg_type te s with data := m.data }) ∧
      ∃ ies, m.data = .list ies ∧ ∀ e ∈ ies, Plain e := by
  obtain ⟨ies, hies, rfl⟩ := message_eq_ok.mp h
  exact ⟨⟨_, _, rfl⟩, ies, rfl, hx ies hies⟩

theorem message_list_plain {msg_type : Nat} {teid : Option Int} {seqnum : Int}
    {xs : List (Except FactoryError IEv2)} {m : GTPv2C} (hx : ∀ x ∈ xs, Elem x)
    (h : message msg_type teid seqnum (evalList xs) = .ok m) :
    (∃ te s, m = { hdr msg_type te s with data := m.data }) ∧
      ∃ ies, m.data = .list ies ∧ ∀ e ∈ ies, Plain e :=
  message_plain (fun _ => evalList_plain hx) h

section Proofs

variable (u : Unresolved)

theorem returns_plain {t : Nat} {m : GTPv2C} (h : Returns u t m) :
    (∃ te s, m = { hdr t te s with data := m.data }) ∧
      ∃ ies, m.data = .list ies ∧ ∀ e ∈ ies, Plain e := by
  have hc : ∀ d, Elem (ie2Of GTPV2_IE_CAUSE 0 d) := fun _ => ie2Of_elem (by decide)
  have hr : ∀ o : Option Nat,
      ∀ x ∈ (o.map fun r => ie2Of GTPV2_REC_REST_CNT 0 (pyBytes [↑(r &&& 0xff : Nat)])).toList, Elem x :=
    forall_mem_opt fun _ => ie2Of_elem (by decide)
  cases h with
  | echoReq h => exact message_list_plain (fun _ hx => absurd hx (List.not_mem_nil _)) h
  | echoRes h => exact message_list_plain (List.forall_mem_singleton.mpr (ie2Of_elem (by decide))) h
  | createSessionReq h =>
    refine message_plain (fun ies hi => ?_) h
    simp only [except_bind_eq_ok, except_pure, Except.ok.injEq] at hi
    obtain ⟨ies₀, h₀, ies₁, h₁, ies₂, h₂, rs, hrs, rfl⟩ := hi
    have p₀ := evalList_plain (by
      simp only [List.forall_mem_cons, List.not_mem_nil, false_imp_iff, implies_true, and_true]
      exact ⟨ie2Of_elem (by decide), ie2Of_elem (by decide), ie2Of_elem (by decide),
        ie2Of_elem (by decide), ie2Of_elem (by decide), ie2Of_elem (by decide), bearerCtx_elem⟩) h₀
    have p₂ := insertOpt_plain (forall_mem_opt (fun _ => ie2Of_elem (by decide)) _)
      (insertOpt_plain (forall_mem_opt (fun _ => ie2Of_elem (by decide)) _) p₀ h₁) h₂
    exact List.forall_mem_append.mpr ⟨p₂, evalList_plain (hr _) hrs⟩
  | createSessionRes h =>
    refine message_list_plain (List.forall_mem_append.mpr ⟨?_, hr _⟩) h
    simp only [List.forall_mem_cons, List.not_mem_nil, false_imp_iff, implies_true, and_true]
    exact ⟨hc _, ie2Of_elem (by decide), ie2Of_elem (by decide), bearerCtx_elem⟩
  | modifyBearerReq h =>
    refine message_plain (fun ies hi => ?_) h
    simp only [except_bind_eq_ok, except_pure, Except.ok.injEq] at hi
    obtain ⟨ies₀, h₀, ies₁, h₁, back, hb, rfl⟩ := hi
    have p₁ := insertOpt_plain (forall_mem_opt (fun _ => ie2Of_elem (by decide)) _)
      (evalList_plain (List.forall_mem_singleton.mpr bearerCtx_elem) h₀) h₁
    exact List.forall_mem_append.mpr ⟨p₁, evalList_plain (forall_mem_opt (fun _ => ie2Unbound_elem) _) hb⟩
  | modifyBearerRes h =>
    refine message_list_plain (List.forall_mem_append.mpr ⟨?_, hr _⟩) h
    simp only [List.forall_mem_cons, List.not_mem_nil, false_imp_iff, implies_true, and_true]
    exact ⟨hc _, bearerCtx_elem⟩
  | deleteSessionReq h =>
    refine message_list_plain ?_ h
    simp only [List.forall_mem_cons, List.not_mem_nil, false_imp_iff, implies_true, and_true]
    exact ⟨ie2Of_elem (by decide), ie2Of_elem (by decide)⟩
  | deleteSessionRes h =>
    exact message_list_plain (List.forall_mem_append.mpr
      ⟨List.forall_mem_singleton.mpr (hc _), hr _⟩) h
  | createBearerReq h =>
    refine message_list_plain (List.forall_mem_append.mpr
      ⟨?_, forall_mem_opt (fun _ => ie2Unbound_elem) _⟩) h
    simp only [List.forall_mem_cons, List.not_mem_nil, false_imp_iff, implies_true, and_true]
    exact ⟨ie2Of_elem (by decide), bearerCtx_elem⟩
  | createBearerRes h =>
    refine message_list_plain ?_ h
    simp only [List.forall_mem_cons, List.not_mem_nil, false_imp_iff, implies_true, and_true]
    exact ⟨hc _, bearerCtx_elem⟩
  | deleteBearerReq h =>
    exact message_list_plain (List.forall_mem_append.mpr
      ⟨List.forall_mem_singleton.mpr (ie2Of_elem (by decide)), forall_mem_opt (fun _ => hc _) _⟩) h
  | deleteBearerRes h =>
    refine message_list_plain ?_ h
    simp only [List.forall_mem_cons, List.not_mem_nil, false_imp_iff, implies_true, and_true]
    exact ⟨hc _, bearerCtx_elem⟩
  | releaseAccessBearersReq h =>
    exact message_list_plain (forall_mem_opt (fun _ => ie2Unbound_elem) _) h
  | releaseAccessBearersRes h =>
    exact message_list_plain (List.forall_mem_append.mpr
      ⟨List.forall_mem_singleton.mpr (hc _), hr _⟩) h
  | dlDataNotification h =>
    refine message_list_plain ?_ h
    simp only [List.forall_mem_cons, List.not_mem_nil, false_imp_iff, implies_true, and_true]
    exact ⟨ie2Of_elem (by decide), ie2Of_elem (by decide)⟩
  | dlDataNotificationAck h =>
    exact message_list_plain (List.forall_mem_append.mpr ⟨List.forall_mem_singleton.mpr (hc _),
      forall_mem_opt (fun _ => ie2Unbound_elem) _⟩) h

/-- Every message of `GTPv2CFactory` has the type its method passes to `_hdr`, version 2, no
piggyback flag, and the T flag exactly when a TEID was given; it has no `ies`, so `bytes()` raises
`AttributeError` and leaves it as it was. Every IE it holds has CR flag and instance zero, and, when
the values fit the length field, the IE loop of `GTPv2C.unpack` reads the IEs back from their
bytes. -/
theorem returns_header_ies {t : Nat} {m : GTPv2C} (h : Returns u t m) :
    m.type = t ∧ m.version = 2 ∧ m.pFlag = 0 ∧ (m.tFlag = 1 ↔ m.teid ≠ none) ∧
      GTPv2C.bytes m = .error (.attributeError "ies") m ∧
      ∃ ies, m.data = .list ies ∧ (∀ e ∈ ies, e.crFlag = 0 ∧ e.instance = 0) ∧
        ((∀ e ∈ ies, e.data.length < 65536) →
          unpackIEsV2 (ies.map IEv2.wire).flatten = .ok (ies.map IEv2.setLen)) := by
  obtain ⟨⟨te, s, hm⟩, ies, hd, hp⟩ := returns_plain u h
  have hf : m.flags = if te.isSome then 0x48 else 0x40 := by rw [hm]; exact hdr_flags t te s
  have ht : m.teid = te.map .int := by rw [hm]; exact hdr_teid t te s
  have hi : m.ies = none := by rw [hm]; exact hdr_ies t te s
  refine ⟨by rw [hm]; exact hdr_type t te s, ?_, ?_, ?_, by rw [GTPv2C.bytes_apply, hi], ies, hd,
    fun e he => by simp [IEv2.crFlag, IEv2.instance, (hp e he).2],
    fun hl => IEv2.unpackIEsV2_wire fun e he => (hp e he).packable (hl e he)⟩ <;>
    simp only [GTPv2C.version, GTPv2C.pFlag, GTPv2C.tFlag, hf, ht] <;> cases te <;> simp <;> decide

end Proofs

theorem returns_header_ies_createBearerRes :
    ∃ m, createBearerRes ⟨99, 100, fun _ => .ok []⟩ (some 0x1234) 7 16 5 none = .ok m ∧
      m.type = V2_CREATE_BEARER_RES ∧ m.version = 2 ∧ m.pFlag = 0 ∧
      (m.tFlag = 1 ↔ m.teid ≠ none) ∧ GTPv2C.bytes m = .error (.attributeError "ies") m ∧
      ∃ ies, m.data = .list ies ∧ (∀ e ∈ ies, e.crFlag = 0 ∧ e.instance = 0) ∧
        ((∀ e ∈ ies, e.data.length < 65536) →
          unpackIEsV2 (ies.map IEv2.wire).flatten = .ok (ies.map IEv2.setLen)) :=
  ⟨_, rfl, returns_header_ies ⟨99, 100, fun _ => .ok []⟩
    (@Returns.createBearerRes ⟨99, 100, fun _ => .ok []⟩ _ (some 0x1234) 7 16 5 none rfl)⟩

/-! ### The order of `create_session_req`'s IEs -/

theorem evalList_types {xs : List (Except FactoryError IEv2)} {ts : List Nat} {ies : List IEv2}
    (hx : List.Forall₂ OfType xs ts) (h : evalList xs = .ok ies) : ies.map IEv2.type = ts := by
  rw [evalList_eq_ok] at h
  subst h
  induction ies generalizing ts with
  | nil => cases hx; rfl
  | cons e ies ih =>
    cases hx with
    | cons he hrest => rw [List.map_cons, he e rfl, ih hrest]

theorem opt_types {α : Type} {f : α → Except FactoryError IEv2} {t : Nat} (hf : ∀ a, OfType (f a) t) :
    ∀ o : Option α, List.Forall₂ OfType (o.map f).toList (o.map fun _ => t).toList
  | none => .nil
  | some a => .cons (hf a) .nil

theorem insertOpt_types {i t : Nat} {x : Option (Except FactoryError IEv2)} {ies ies' : List IEv2}
    (hx : ∀ y ∈ x.toList, OfType y t) (h : insertOpt i x ies = .ok ies') :
    ies'.map IEv2.type = if x.isSome then pyInsert i t (ies.map IEv2.type) else ies.map IEv2.type := by
  cases x with
  | none => cases h; rfl
  | some y =>
    simp only [insertOpt, except_bind_eq_ok, except_pure, Except.ok.injEq] at h
    obtain ⟨ie, hy, rfl⟩ := h
    rw [map_pyInsert, hx y (List.mem_singleton_self _) ie hy]
    rfl

section Layout

variable (u : Unresolved)

/-- `create_session_req` puts the IMSI first and the MSISDN, if given, second; the MEI, if given,
is inserted at index 2 after that, so it follows the RAT type without an MSISDN and precedes it with
one. The APN, PDN type, AMBR, sender F-TEID and bearer context follow in that order, then the
restart counter, if given. -/
theorem createSessionReq_ie_order {teid : Option Int} {seqnum : Int} {imsi : Bytes}
    {msisdn mei : Option Bytes} {rat_type : Nat} {apn : Bytes} {pdn_type : Nat} {sender_teid : Int}
    {sender_ipv4 sender_ipv6 : Option Bytes} {sender_interface ebi : Nat} {qci : Int}
    {pci pl pvi : Nat} {mbr_ul mbr_dl gbr_ul gbr_dl ambr_ul ambr_dl : Int}
    {fteid_data : Option Fteid} {recovery : Option Nat} {m : GTPv2C}
    (h : createSessionReq u teid seqnum imsi msisdn mei rat_type apn pdn_type sender_teid
      sender_ipv4 sender_ipv6 sender_interface ebi qci pci pl pvi mbr_ul mbr_dl gbr_ul gbr_dl ambr_ul
      ambr_dl fteid_data recovery = .ok m) :
    ∃ ies, m.data = .list ies ∧ ies.map IEv2.type =
      GTPV2_IE_IMSI :: (msisdn.map fun _ => GTPV2_IE_MSISDN).toList ++
        (if msisdn.isSome then (mei.map fun _ => GTPV2_IE_MEI).toList ++ [GTPV2_IE_RAT_TYPE]
          else GTPV2_IE_RAT_TYPE :: (mei.map fun _ => GTPV2_IE_MEI).toList) ++
        [GTPV2_IE_APN, GTPV2_IE_PDN_TYPE, GTPV2_AMBR, GTPV2_IE_F_TEID, GTPV2_IE_BEARER_CTX] ++
        (recovery.map fun _ => GTPV2_REC_REST_CNT).toList := by
  obtain ⟨ies, hies, rfl⟩ := message_eq_ok.mp h
  simp only [except_bind_eq_ok, except_pure, Except.ok.injEq] at hies
  obtain ⟨ies₀, h₀, ies₁, h₁, ies₂, h₂, rs, hrs, rfl⟩ := hies
  have t₀ : ies₀.map IEv2.type = [GTPV2_IE_IMSI, GTPV2_IE_RAT_TYPE, GTPV2_IE_APN, GTPV2_IE_PDN_TYPE,
      GTPV2_AMBR, GTPV2_IE_F_TEID, GTPV2_IE_BEARER_CTX] :=
    evalList_types (.cons ie2Of_type <| .cons ie2Of_type <| .cons ie2Of_type <| .cons ie2Of_type <|
      .cons ie2Of_type <| .cons ie2Of_type <| .cons bearerCtx_type .nil) h₀
  have t₁ := insertOpt_types
    (forall_mem_opt (P := fun y => OfType y GTPV2_IE_MSISDN) (fun _ => ie2Of_type) msisdn) h₁
  refine ⟨ies₂ ++ rs, rfl, ?_⟩
  rw [List.map_append, insertOpt_types
    (forall_mem_opt (P := fun y => OfType y GTPV2_IE_MEI) (fun _ => ie2Of_type) mei) h₂, t₁, t₀,
    evalList_types (opt_types (fun _ => ie2Of_type) recovery) hrs]
  cases msisdn <;> cases mei <;> rfl

end Layout

theorem createSessionReq_ie_order_mei :
    ∃ m, createSessionReq ⟨99, 100, fun _ => .ok [0x01]⟩ none 1 [0x30, 0x30] none
        (some [0x33, 0x35]) 6 [0x61] 1 0 none none 10 5 9 0 15 0 0 0 0 0 50000 100000 none none =
        .ok m ∧
      ∃ ies, m.data = .list ies ∧ ies.map IEv2.type =
        GTPV2_IE_IMSI :: ((none : Option Bytes).map fun _ => GTPV2_IE_MSISDN).toList ++
          (if (none : Option Bytes).isSome then
            ((some [0x33, 0x35] : Option Bytes).map fun _ => GTPV2_IE_MEI).toList ++ [GTPV2_IE_RAT_TYPE]
          else GTPV2_IE_RAT_TYPE ::
            ((some [0x33, 0x35] : Option Bytes).map fun _ => GTPV2_IE_MEI).toList) ++
          [GTPV2_IE_APN, GTPV2_IE_PDN_TYPE, GTPV2_AMBR, GTPV2_IE_F_TEID, GTPV2_IE_BEARER_CTX] ++
          ((none : Option Nat).map fun _ => GTPV2_REC_REST_CNT).toList :=
  ⟨_, rfl, @createSessionReq_ie_order ⟨99, 100, fun _ => .ok [0x01]⟩ none 1 [0x30, 0x30] none
    (some [0x33, 0x35]) 6 [0x61] 1 0 none none 10 5 9 0 15 0 0 0 0 0 50000 100000 none none _ rfl⟩

end GTPv2CFactory

end DpktGtpc.Factory
