import DpktGtpc.Factory.Encode
import DpktGtpc.Flags
import DpktGtpc.Gtp.Encode

/-! The GTPv1 message builders of `gtpc_factory.py` over the `gtp_c.py` classes: `_hdr` and the
static methods of `GTPv1CFactory`, with the list literals of IEs they build. Each method builds its
header with `_hdr`, then its IEs in order, any of which may raise, and stores them in `data`.

Every message has its flags written through the properties and no `ies`, so `bytes()` raises
`AttributeError` on each. Every TV IE but the IMSI has the length `TV_LEN_DICT` gives its type; the
IMSI has that length only for 15 or 16 digits, and otherwise the IE loop of `GTPv1C.unpack` reads it
with bytes of the IEs after it. -/

namespace DpktGtpc.Factory

open Gtp

/-! ### Constants of `gtp_c.py` and `gtpc_factory.py` for GTPv1 -/

def V1_ECHO_REQ : Nat := 1
def V1_ECHO_RES : Nat := 2
def V1_CREATE_PDP_CXT_REQ : Nat := 16
def V1_CREATE_PDP_CXT_RES : Nat := 17
def V1_UPDATE_PDP_CXT_REQ : Nat := 18
def V1_UPDATE_PDP_CXT_RES : Nat := 19
def V1_DELETE_PDP_CXT_REQ : Nat := 20
def V1_DELETE_PDP_CXT_RES : Nat := 21

def TV_CAUSE : Nat := 1
def TV_IMSI : Nat := 2
def TV_RECOVERY : Nat := 14
def TV_SELECTION_MODE : Nat := 15
def TV_TEID_DATA_1 : Nat := 16
def TV_TEID_C_PLANE : Nat := 17
def TV_TEARDOWN_IND : Nat := 19
def TV_NSAPI : Nat := 20
def TV_CHARGING_CHARS : Nat := 26
def TV_CHARGING_ID : Nat := 127

/-- `_V1_IE_APN`, a TLV type. -/
def V1_IE_APN : Nat := 0x83
/-- `_V1_IE_MSISDN`, a TLV type. -/
def V1_IE_MSISDN : Nat := 0x86
/-- `_V1_IE_QOS_PROFILE`, a TLV type. -/
def V1_IE_QOS_PROFILE : Nat := 0x87

/-! ### List literals whose elements may raise -/

/-- A list literal `[e1, e2, ...]` whose elements may raise, evaluated left to right. -/
def evalList {ε α : Type} : List (Except ε α) → Except ε (List α)
  | [] => pure []
  | x :: xs => do
    let a ← x
    let as ← evalList xs
    pure (a :: as)

/-- Each value of an evaluated list literal is the value of one of its elements. -/
theorem evalList_mem {ε α : Type} : ∀ {xs : List (Except ε α)} {as : List α},
    evalList xs = .ok as → ∀ a ∈ as, ∃ x ∈ xs, x = .ok a
  | [], _, h, a, ha => by cases h; cases ha
  | x :: xs, as, h, a, ha => by
    simp only [evalList, except_bind_eq_ok, except_pure, Except.ok.injEq] at h
    obtain ⟨b, hb, bs, hbs, rfl⟩ := h
    rcases List.mem_cons.mp ha with rfl | ha
    · exact ⟨x, List.mem_cons_self _ _, hb⟩
    · obtain ⟨y, hy, hya⟩ := evalList_mem hbs a ha
      exact ⟨y, List.mem_cons_of_mem _ hy, hya⟩

/-- A list literal of elements that cannot raise evaluates to their values. -/
theorem evalList_ok {ε α : Type} : ∀ (as : List α), evalList (as.map (.ok : α → Except ε α)) = .ok as
  | [] => rfl
  | a :: as => by simp [evalList, evalList_ok as]

/-- A list literal returns exactly when each of its elements does, with their values in order. -/
theorem evalList_eq_ok {ε α : Type} : ∀ {xs : List (Except ε α)} {as : List α},
    evalList xs = .ok as ↔ xs = as.map .ok
  | [], as => by cases as <;> simp [evalList]
  | x :: xs, as => by
    simp only [evalList, except_bind_eq_ok, except_pure, Except.ok.injEq, evalList_eq_ok]
    cases as <;> simp [eq_comm]

theorem evalList_append_ok {ε α : Type} {xs ys : List (Except ε α)} {as bs : List α}
    (hx : evalList xs = .ok as) (hy : evalList ys = .ok bs) : evalList (xs ++ ys) = .ok (as ++ bs) := by
  rw [evalList_eq_ok] at *
  rw [hx, hy, List.map_append]

/-- A value built by `bytes([n])` for an `n` in `range(256)`: one byte. -/
theorem pyBytes_single {n : Nat} (h : n < 256) : pyBytes [↑n] = .ok [n.toUInt8] := by
  simp [pyBytes, h]

theorem pyBytes_and {m : Nat} (hm : m < 256) (x : Nat) :
    pyBytes [↑(x &&& m)] = .ok [(x &&& m).toUInt8] :=
  pyBytes_single (lt_of_le_of_lt Nat.and_le_right hm)

theorem length_of_pyBytes_single {n : Int} {b : Bytes} (h : pyBytes [n] = .ok b) : b.length = 1 := by
  unfold pyBytes at h; split_ifs at h; cases h; rfl

theorem length_of_structPack_single {w : Nat} {v : Int} {b : Bytes}
    (h : liftPy (structPack [(w, v)]) = .ok b) : b.length = w := by
  simpa using length_structPack (liftPy_eq_ok.mp h)

/-! ### `GTPv1CFactory` -/

namespace GTPv1CFactory

/-- `GTPv1CFactory._hdr(msg_type, teid, seqnum, npdu, next_type)`: a `GTPv1C` built with
`version=1, proto_type=1, e_flag=0, s_flag=1, np_flag=0`, each through its property, then the other
keywords. -/
def hdr (msg_type teid : Nat) (seqnum npdu nextType : Int) : GTPv1C :=
  let m : GTPv1C :=
    { flags := 0, type := 0, len := 0, teid := 0, seqnum := none, npdu := none,
      nextType := none, data := .bytes [], ies := none }
  { ((((m.setVersion 1).setProtoType 1).setEFlag 0).setSFlag 1).setNpFlag 0 with
    type := msg_type, teid, seqnum := some (.int seqnum), npdu := some (.int npdu),
    nextType := some (.int nextType) }

/-- What every method of `GTPv1CFactory` does: `pkt = _hdr(...)`, the IEs built, `pkt.data = ies`. -/
def message (msg_type teid : Nat) (seqnum npdu nextType : Int)
    (ies : Except FactoryError (List IEv1)) : Except FactoryError GTPv1C := do
  let pkt := hdr msg_type teid seqnum npdu nextType
  let ies ← ies
  pure { pkt with data := .list ies }

/-- `IEv1(type=t, data=d)` of a value `d` that may raise. -/
def ie (t : Nat) (d : Except FactoryError Bytes) : Except FactoryError IEv1 := IEv1.build t <$> d

/-- `GTPv1CFactory.echo_req(teid, seqnum, npdu, next_type)`. -/
def echoReq (teid : Nat) (seqnum npdu nextType : Int) : Except FactoryError GTPv1C :=
  message V1_ECHO_REQ teid seqnum npdu nextType (evalList [])

/-- `GTPv1CFactory.echo_res(teid, seqnum, npdu, next_type, recovery)`. -/
def echoRes (teid : Nat) (seqnum npdu nextType : Int) (recovery : Nat) :
    Except FactoryError GTPv1C :=
  message V1_ECHO_RES teid seqnum npdu nextType <| evalList
    [ie TV_RECOVERY (pyBytes [↑(recovery &&& 0xff : Nat)])]

/-- `GTPv1CFactory.create_pdp_ctx_req(teid, seqnum, npdu, next_type, imsi, nsapi, teid_data,
teid_cplane, selection_mode, charging_chars, apn, qos_profile, msisdn, recovery)`. -/
def createPdpCtxReq (teid : Nat) (seqnum npdu nextType : Int) (imsi : Bytes) (nsapi : Nat)
    (teid_data teid_cplane : Int) (selection_mode : Nat) (charging_chars : Int)
    (apn qos_profile : Bytes) (msisdn : Option Bytes) (recovery : Option Nat) :
    Except FactoryError GTPv1C :=
  message V1_CREATE_PDP_CXT_REQ teid seqnum npdu nextType <| evalList <|
    [ie TV_IMSI (encodeImsi imsi),
     ie TV_SELECTION_MODE (pyBytes [↑(selection_mode &&& 0x03 : Nat)]),
     ie TV_TEID_DATA_1 (liftPy (structPack [(4, teid_data)])),
     ie TV_TEID_C_PLANE (liftPy (structPack [(4, teid_cplane)])),
     ie TV_NSAPI (pyBytes [↑(nsapi &&& 0x0f : Nat)]),
     ie TV_CHARGING_CHARS (liftPy (structPack [(2, charging_chars)])),
     ie V1_IE_APN (encodeApn apn),
     ie V1_IE_QOS_PROFILE (pure qos_profile)] ++
    (msisdn.map fun s => ie V1_IE_MSISDN (encodeImsi s)).toList ++
    (recovery.map fun r => ie TV_RECOVERY (pyBytes [↑(r &&& 0xff : Nat)])).toList

/-- `GTPv1CFactory.create_pdp_ctx_res(teid, seqnum, npdu, next_type, cause, nsapi, teid_data,
teid_cplane, charging_id, qos_profile, recovery)`. -/
def createPdpCtxRes (teid : Nat) (seqnum npdu nextType : Int) (cause nsapi : Nat)
    (teid_data teid_cplane charging_id : Int) (qos_profile : Bytes) (recovery : Option Nat) :
    Except FactoryError GTPv1C :=
  message V1_CREATE_PDP_CXT_RES teid seqnum npdu nextType <| evalList <|
    [ie TV_CAUSE (pyBytes [↑(cause &&& 0xff : Nat)]),
     ie TV_TEID_DATA_1 (liftPy (structPack [(4, teid_data)])),
     ie TV_TEID_C_PLANE (liftPy (structPack [(4, teid_cplane)])),
     ie TV_NSAPI (pyBytes [↑(nsapi &&& 0x0f : Nat)]),
     ie TV_CHARGING_ID (liftPy (structPack [(4, charging_id)])),
     ie V1_IE_QOS_PROFILE (pure qos_profile)] ++
    (recovery.map fun r => ie TV_RECOVERY (pyBytes [↑(r &&& 0xff : Nat)])).toList

/-- `GTPv1CFactory.update_pdp_ctx_req(teid, seqnum, npdu, next_type, nsapi, teid_data, teid_cplane,
qos_profile, recovery)`. -/
def updatePdpCtxReq (teid : Nat) (seqnum npdu nextType : Int) (nsapi : Nat)
    (teid_data teid_cplane : Int) (qos_profile : Bytes) (recovery : Option Nat) :
    Except FactoryError GTPv1C :=
  message V1_UPDATE_PDP_CXT_REQ teid seqnum npdu nextType <| evalList <|
    [ie TV_TEID_DATA_1 (liftPy (structPack [(4, teid_data)])),
     ie TV_TEID_C_PLANE (liftPy (structPack [(4, teid_cplane)])),
     ie TV_NSAPI (pyBytes [↑(nsapi &&& 0x0f : Nat)]),
     ie V1_IE_QOS_PROFILE (pure qos_profile)] ++
    (recovery.map fun r => ie TV_RECOVERY (pyBytes [↑(r &&& 0xff : Nat)])).toList

/-- `GTPv1CFactory.update_pdp_ctx_res(teid, seqnum, npdu, next_type, cause, teid_data,
teid_cplane, qos_profile, charging_id, recovery)`. -/
def updatePdpCtxRes (teid : Nat) (seqnum npdu nextType : Int) (cause : Nat)
    (teid_data teid_cplane : Int) (qos_profile : Bytes) (charging_id : Int)
    (recovery : Option Nat) : Except FactoryError GTPv1C :=
  message V1_UPDATE_PDP_CXT_RES teid seqnum npdu nextType <| evalList <|
    [ie TV_CAUSE (pyBytes [↑(cause &&& 0xff : Nat)]),
     ie TV_TEID_DATA_1 (liftPy (structPack [(4, teid_data)])),
     ie TV_TEID_C_PLANE (liftPy (structPack [(4, teid_cplane)])),
     ie TV_CHARGING_ID (liftPy (structPack [(4, charging_id)])),
     ie V1_IE_QOS_PROFILE (pure qos_profile)] ++
    (recovery.map fun r => ie TV_RECOVERY (pyBytes [↑(r &&& 0xff : Nat)])).toList

/-- `GTPv1CFactory.delete_pdp_ctx_req(teid, seqnum, npdu, next_type, nsapi, teardown_ind)`. -/
def deletePdpCtxReq (teid : Nat) (seqnum npdu nextType : Int) (nsapi : Nat)
    (teardown_ind : Bool) : Except FactoryError GTPv1C :=
  message V1_DELETE_PDP_CXT_REQ teid seqnum npdu nextType <| evalList <|
    [ie TV_NSAPI (pyBytes [↑(nsapi &&& 0x0f : Nat)])] ++
    (if teardown_ind then [ie TV_TEARDOWN_IND (pure [0x01])] else [])

/-- `GTPv1CFactory.delete_pdp_ctx_res(teid, seqnum, npdu, next_type, cause)`. -/
def deletePdpCtxRes (teid : Nat) (seqnum npdu nextType : Int) (cause : Nat) :
    Except FactoryError GTPv1C :=
  message V1_DELETE_PDP_CXT_RES teid seqnum npdu nextType <| evalList
    [ie TV_CAUSE (pyBytes [↑(cause &&& 0xff : Nat)])]

/-- The messages the methods of `GTPv1CFactory` return. -/
inductive Returns : GTPv1C → Prop
  | echoReq {m teid seqnum npdu nextType} :
      echoReq teid seqnum npdu nextType = .ok m → Returns m
  | echoRes {m teid seqnum npdu nextType recovery} :
      echoRes teid seqnum npdu nextType recovery = .ok m → Returns m
  | createPdpCtxReq {m teid seqnum npdu nextType imsi nsapi teid_data teid_cplane selection_mode
      charging_chars apn qos_profile msisdn recovery} :
      createPdpCtxReq teid seqnum npdu nextType imsi nsapi teid_data teid_cplane selection_mode
        charging_chars apn qos_profile msisdn recovery = .ok m → Returns m
  | createPdpCtxRes {m teid seqnum npdu nextType cause nsapi teid_data teid_cplane charging_id
      qos_profile recovery} :
      createPdpCtxRes teid seqnum npdu nextType cause nsapi teid_data teid_cplane charging_id
        qos_profile recovery = .ok m → Returns m
  | updatePdpCtxReq {m teid seqnum npdu nextType nsapi teid_data teid_cplane qos_profile
      recovery} :
      updatePdpCtxReq teid seqnum npdu nextType nsapi teid_data teid_cplane qos_profile
        recovery = .ok m → Returns m
  | updatePdpCtxRes {m teid seqnum npdu nextType cause teid_data teid_cplane qos_profile
      charging_id recovery} :
      updatePdpCtxRes teid seqnum npdu nextType cause teid_data teid_cplane qos_profile
        charging_id recovery = .ok m → Returns m
  | deletePdpCtxReq {m teid seqnum npdu nextType nsapi teardown_ind} :
      deletePdpCtxReq teid seqnum npdu nextType nsapi teardown_ind = .ok m → Returns m
  | deletePdpCtxRes {m teid seqnum npdu nextType cause} :
      deletePdpCtxRes teid seqnum npdu nextType cause = .ok m → Returns m

/-- A GTPv1 IE as the IE loop of `GTPv1C.unpack` frames it: a TV IE other than the IMSI has the
length `TV_LEN_DICT` gives its type. -/
def TVSized (e : IEv1) : Prop :=
  e.encoding = 0 → e.type ≠ TV_IMSI → TV_LEN_DICT.lookup e.type = some e.data.length

/-- An element of a method's IE list that, if it returns, returns a sized IE. -/
def Sized (x : Except FactoryError IEv1) : Prop := ∀ e, x = .ok e → TVSized e

/-- An IE of type `t` from a value of `n` bytes, when `t`, if a TV type other than the IMSI, has
that length in `TV_LEN_DICT`. -/
theorem ie_sized {t n : Nat} {d : Except FactoryError Bytes}
    (hd : ∀ b, d = .ok b → b.length = n)
    (ht : (t >>> 7) &&& 1 = 0 → t ≠ TV_IMSI → TV_LEN_DICT.lookup t = some n) : Sized (ie t d) := by
  intro e he
  cases hd' : d with
  | error _ => rw [ie, hd'] at he; cases he
  | ok b =>
    rw [ie, hd'] at he
    cases he
    exact fun h1 h2 => by simpa [IEv1.build, hd b hd'] using ht h1 h2

/-- A TLV IE, or the IMSI: nothing to check. -/
theorem ie_unsized {t : Nat} {d : Except FactoryError Bytes}
    (ht : ¬((t >>> 7) &&& 1 = 0 ∧ t ≠ TV_IMSI)) : Sized (ie t d) := by
  intro e he
  cases hd' : d with
  | error _ => rw [ie, hd'] at he; cases he
  | ok b => rw [ie, hd'] at he; cases he; exact fun h1 h2 => absurd ⟨h1, h2⟩ ht

theorem byte_sized {t : Nat} {n : Int}
    (ht : (t >>> 7) &&& 1 = 0 → t ≠ TV_IMSI → TV_LEN_DICT.lookup t = some 1) :
    Sized (ie t (pyBytes [n])) :=
  ie_sized (fun _ hb => length_of_pyBytes_single hb) ht

theorem packed_sized {t w : Nat} {v : Int}
    (ht : (t >>> 7) &&& 1 = 0 → t ≠ TV_IMSI → TV_LEN_DICT.lookup t = some w) :
    Sized (ie t (liftPy (structPack [(w, v)]))) :=
  ie_sized (fun _ hb => length_of_structPack_single hb) ht

theorem sized_opt {α : Type} {f : α → Except FactoryError IEv1} (hf : ∀ a, Sized (f a)) :
    ∀ o : Option α, ∀ x ∈ (o.map f).toList, Sized x
  | none, _, hx => absurd hx (List.not_mem_nil _)
  | some a, _, hx => by rw [List.mem_singleton.mp hx]; exact hf a

/-- What a method returns: `_hdr`'s header with the IEs, each sized when every element is. -/
theorem message_sized {msg_type teid : Nat} {seqnum npdu nextType : Int}
    {xs : List (Except FactoryError IEv1)} {m : GTPv1C} (hx : ∀ x ∈ xs, Sized x)
    (h : message msg_type teid seqnum npdu nextType (evalList xs) = .ok m) :
    (∃ t te s n nt, m = { hdr t te s n nt with data := m.data }) ∧
      ∃ ies, m.data = .list ies ∧ ∀ e ∈ ies, TVSized e := by
  simp only [message, except_bind_eq_ok, except_pure, Except.ok.injEq] at h
  obtain ⟨ies, hies, rfl⟩ := h
  refine ⟨⟨_, _, _, _, _, rfl⟩, ies, rfl, fun e he => ?_⟩
  obtain ⟨x, hx', hxe⟩ := evalList_mem hies e he
  exact hx x hx' e hxe

theorem returns_sized {m : GTPv1C} (h : Returns m) :
    (∃ t te s n nt, m = { hdr t te s n nt with data := m.data }) ∧
      ∃ ies, m.data = .list ies ∧ ∀ e ∈ ies, TVSized e := by
  cases h with
  | echoReq h => exact message_sized (fun _ hx => absurd hx (List.not_mem_nil _)) h
  | echoRes h =>
    exact message_sized (List.forall_mem_singleton.mpr (byte_sized (by decide))) h
  | createPdpCtxReq h =>
    refine message_sized (List.forall_mem_append.mpr ⟨List.forall_mem_append.mpr ⟨?_,
      sized_opt (fun _ => ie_unsized (by decide)) _⟩, sized_opt (fun _ => byte_sized (by decide)) _⟩) h
    simp only [List.forall_mem_cons, List.not_mem_nil, false_imp_iff, implies_true, and_true]
    exact ⟨ie_unsized (by decide), byte_sized (by decide), packed_sized (by decide),
      packed_sized (by decide), byte_sized (by decide), packed_sized (by decide),
      ie_unsized (by decide), ie_unsized (by decide)⟩
  | createPdpCtxRes h =>
    refine message_sized (List.forall_mem_append.mpr ⟨?_,
      sized_opt (fun _ => byte_sized (by decide)) _⟩) h
    simp only [List.forall_mem_cons, List.not_mem_nil, false_imp_iff, implies_true, and_true]
    exact ⟨byte_sized (by decide), packed_sized (by decide), packed_sized (by decide),
      byte_sized (by decide), packed_sized (by decide), ie_unsized (by decide)⟩
  | updatePdpCtxReq h =>
    refine message_sized (List.forall_mem_append.mpr ⟨?_,
      sized_opt (fun _ => byte_sized (by decide)) _⟩) h
    simp only [List.forall_mem_cons, List.not_mem_nil, false_imp_iff, implies_true, and_true]
    exact ⟨packed_sized (by decide), packed_sized (by decide), byte_sized (by decide),
      ie_unsized (by decide)⟩
  | updatePdpCtxRes h =>
    refine message_sized (List.forall_mem_append.mpr ⟨?_,
      sized_opt (fun _ => byte_sized (by decide)) _⟩) h
    simp only [List.forall_mem_cons, List.not_mem_nil, false_imp_iff, implies_true, and_true]
    exact ⟨byte_sized (by decide), packed_sized (by decide), packed_sized (by decide),
      packed_sized (by decide), ie_unsized (by decide)⟩
  | @deletePdpCtxReq _ _ _ _ _ teardown_ind h =>
    refine message_sized (List.forall_mem_append.mpr
      ⟨List.forall_mem_singleton.mpr (byte_sized (by decide)), ?_⟩) h
    cases teardown_ind
    · exact fun _ hx => absurd hx (List.not_mem_nil _)
    · exact List.forall_mem_singleton.mpr
        (ie_sized (fun _ hb => by cases hb; rfl) (by decide))
  | deletePdpCtxRes h =>
    exact message_sized (List.forall_mem_singleton.mpr (byte_sized (by decide))) h

/-- Every message of `GTPv1CFactory` has flags `0x32`, version 1, protocol type 1 and the S flag
alone, and no `ies`: `bytes()` raises `AttributeError` and leaves it as it was. Each of its TV IEs
but the IMSI has the length `TV_LEN_DICT` gives its type, so that the IE loop of `GTPv1C.unpack`
frames it. -/
theorem returns_tv_sized {m : GTPv1C} (h : Returns m) :
    m.flags = 0x32 ∧ GTPv1C.bytes m = .error (.attributeError "ies") m ∧
      ∃ ies, m.data = .list ies ∧ ∀ e ∈ ies, TVSized e := by
  obtain ⟨⟨t, te, s, n, nt, hm⟩, hs⟩ := returns_sized h
  refine ⟨by rw [hm]; rfl, ?_, hs⟩
  rw [GTPv1C.bytes_apply, hm]
  rfl

theorem returns_tv_sized_echoRes :
    ∃ m, echoRes 0 1 0 0 7 = .ok m ∧ m.flags = 0x32 ∧
      GTPv1C.bytes m = .error (.attributeError "ies") m ∧
      ∃ ies, m.data = .list ies ∧ ∀ e ∈ ies, TVSized e :=
  ⟨_, rfl, returns_tv_sized (@Returns.echoRes _ 0 1 0 0 7 rfl)⟩

theorem ie_eq_ok {t : Nat} {d : Except FactoryError Bytes} {e : IEv1} :
    ie t d = .ok e ↔ ∃ b, d = .ok b ∧ e = IEv1.build t b := by
  cases d <;> simp [ie, eq_comm]

/-- The value of a TV IE of type 2, which `TV_LEN_DICT` gives 8 bytes, read back from its bytes
and at least eight more after them: exactly when it has 8 bytes. -/
theorem init_imsi_data {d rest : Bytes} (hr : 8 ≤ rest.length) :
    (IEv1.init (0x02 :: d ++ rest)).map IEv1.data = .ok d ↔ d.length = 8 := by
  rw [List.cons_append, IEv1.init, Packet.init, IEv1.unpack_cons, if_neg (by decide),
    show TV_LEN_DICT.lookup (0x02 : UInt8).toNat = some 8 from rfl]
  simp only [Except.map, Except.ok.injEq]
  constructor
  · intro h
    have := congrArg List.length h
    simp only [List.length_take, List.length_append] at this
    omega
  · intro h
    exact List.take_left' h

/-- `create_pdp_ctx_req` puts the IMSI first, as a TV IE of `(len(imsi) + 1) // 2` bytes where
`TV_LEN_DICT` gives 8. Followed by at least eight more bytes, as the IEs after it are, `IEv1(buf)`
reads its value back exactly when the IMSI has 15 or 16 characters; otherwise it reads the value
short or with bytes of the next IEs. -/
theorem createPdpCtxReq_imsi {teid nsapi selection_mode : Nat}
    {seqnum npdu nextType teid_data teid_cplane charging_chars : Int} {imsi apn qos_profile : Bytes}
    {msisdn : Option Bytes} {recovery : Option Nat} {m : GTPv1C}
    (h : createPdpCtxReq teid seqnum npdu nextType imsi nsapi teid_data teid_cplane
      selection_mode charging_chars apn qos_profile msisdn recovery = .ok m) :
    ∃ d ies, m.data = .list (IEv1.build TV_IMSI d :: ies) ∧ d.length = ((chars imsi).length + 1) / 2 ∧
      IEv1.bytes (IEv1.build TV_IMSI d) = .ok (0x02 :: d) ∧
      ∀ rest : Bytes, 8 ≤ rest.length → ((IEv1.init (0x02 :: d ++ rest)).map IEv1.data = .ok d ↔
        (chars imsi).length = 15 ∨ (chars imsi).length = 16) := by
  simp only [createPdpCtxReq, message, except_bind_eq_ok, except_pure, Except.ok.injEq,
    List.cons_append, evalList] at h
  obtain ⟨_, ⟨e, he, _, -, rfl⟩, rfl⟩ := h
  obtain ⟨d, hd, rfl⟩ := ie_eq_ok.mp he
  have hl := length_encodeImsi hd
  refine ⟨d, _, rfl, hl, by simp [IEv1.bytes, IEv1.packHdr, IEv1.build, IEv1.encoding, TV_IMSI,
    Packet.packHdr, structPack, packUInt, beBytes_one]; rfl, fun rest hr => ?_⟩
  rw [init_imsi_data hr]
  omega

/-- The test IMSI `001011234567890`, APN `internet` and the other defaults. -/
theorem createPdpCtxReq_imsi_defaults :
    ∃ m, createPdpCtxReq 0 0 0 0
        [0x30, 0x30, 0x31, 0x30, 0x31, 0x31, 0x32, 0x33, 0x34, 0x35, 0x36, 0x37, 0x38, 0x39, 0x30]
        5 0 0 0 0x0800 [0x69, 0x6e, 0x74, 0x65, 0x72, 0x6e, 0x65, 0x74] [0x0b, 0x9b, 0x1f] none
        none = .ok m ∧
      ∃ d ies, m.data = .list (IEv1.build TV_IMSI d :: ies) ∧
        d.length = ((chars [0x30, 0x30, 0x31, 0x30, 0x31, 0x31, 0x32, 0x33, 0x34, 0x35, 0x36, 0x37,
          0x38, 0x39, 0x30]).length + 1) / 2 ∧
        IEv1.bytes (IEv1.build TV_IMSI d) = .ok (0x02 :: d) ∧
        ∀ rest : Bytes, 8 ≤ rest.length → ((IEv1.init (0x02 :: d ++ rest)).map IEv1.data = .ok d ↔
          (chars [0x30, 0x30, 0x31, 0x30, 0x31, 0x31, 0x32, 0x33, 0x34, 0x35, 0x36, 0x37, 0x38, 0x39,
            0x30]).length = 15 ∨
          (chars [0x30, 0x30, 0x31, 0x30, 0x31, 0x31, 0x32, 0x33, 0x34, 0x35, 0x36, 0x37, 0x38, 0x39,
            0x30]).length = 16) :=
  ⟨_, rfl, @createPdpCtxReq_imsi 0 5 0 0 0 0 0 0 0x0800
    [0x30, 0x30, 0x31, 0x30, 0x31, 0x31, 0x32, 0x33, 0x34, 0x35, 0x36, 0x37, 0x38, 0x39, 0x30]
    [0x69, 0x6e, 0x74, 0x65, 0x72, 0x6e, 0x65, 0x74] [0x0b, 0x9b, 0x1f] none none _ rfl⟩

end GTPv1CFactory

end DpktGtpc.Factory
