import PipelineProfile.Stall.Probe

/-!
# What the head of the reorder buffer waits for

The finer causes of a stall in the category `robBackpressure`: a full reorder buffer waits for
its head. A store at the head waits for the store buffer, an instruction of a computing unit
for its result, and a load for one of the steps of its access. A load that waits to send its
request, or for its response, is followed further to what stands in its way.
-/

namespace PipelineProfile

/-! ## Stores -/

/-- What a store at the head waits for. -/
inductive StoreWait where
  /-- To become the head of the store buffer. -/
  | bufferHead
  | commit
  | address
  | data
  | dcache
  | issue
  | other
  deriving DecidableEq, Repr

namespace StoreWait

/-- The name of a wait inside a label. -/
def name : StoreWait → String
  | bufferHead => "sb_head"
  | commit => "commit"
  | address => "addr"
  | data => "data"
  | dcache => "dcache"
  | issue => "issue"
  | other => "other"

/-- What the store waits for: the first step that is missing. -/
def ofProbe (p : StallProbe) : StoreWait :=
  if p.storeHead.any fun h => !h.valid then bufferHead
  else if p.storeHead.any fun h => !h.committed then commit
  else if p.storeHead.any fun h => !h.hasAddress then address
  else if p.storeHead.any fun h => !h.hasData then data
  else if p.storeBlocked then dcache
  else if p.storeRequest.any fun h => !h.valid then issue
  else other

end StoreWait

/-- The name of a computing unit inside a label. -/
def ComputeUnit.name : ComputeUnit → String
  | alu => "alu"
  | branch => "branch"
  | mulDiv => "mdu"
  | csr => "csr"
  | unknown => "unknown"

/-! ## Loads -/

/-- How far the response for the load that owns the data cache has come. -/
inductive OwnerResponse where
  | fire
  | valid
  | ready
  deriving DecidableEq, Repr

namespace OwnerResponse

/-- The name of a step inside a label. -/
def name : OwnerResponse → String
  | fire => "fire"
  | valid => "valid"
  | ready => "ready"

/-- The step that the response waits for, if either half of the handshake is there. -/
def ofProbe? (p : StallProbe) : Option OwnerResponse :=
  p.loadResponse.bind fun h =>
    match h.valid, h.ready with
    | true, true => some fire
    | false, true => some valid
    | true, false => some ready
    | false, false => none

end OwnerResponse

/-- Why the data cache does not take the request of a load. -/
inductive RequestBlocker where
  | owner (response : OwnerResponse)
  | storeConflict
  | mshr
  | missPort
  | unknown
  deriving DecidableEq, Repr

/-- Why the data cache does not take the request: the first reason that the probe shows. -/
def RequestBlocker.ofProbe (p : StallProbe) : RequestBlocker :=
  match if p.loadOwned then OwnerResponse.ofProbe? p else none with
  | some response => owner response
  | none =>
    if p.storeBlocked then storeConflict
    else if p.mshrFull.any id || p.mshrReady.any (! ·) then mshr
    else if p.dcacheMiss.any Handshake.blocked then missPort
    else unknown

/-- What a load at the head of a full reorder buffer waits for. -/
inductive LoadWait where
  | noState
  | idle
  | requestUnknown
  | requestNotReady (blocker : RequestBlocker)
  /-- Another load owns the data cache and waits for its own response. -/
  | ownerResponse (response : OwnerResponse)
  | ownerHold
  | noGrant
  | requestNotFired
  | responseUnknown
  | responseNotValid
  | responseNotReady
  | responseNotFired
  | writeback
  | illegal
  deriving DecidableEq, Repr

namespace LoadWait

/-- What a load waits for that is to send its request. -/
def ofRequest (p : StallProbe) : LoadWait :=
  match p.loadRequest with
  | none => requestUnknown
  | some h =>
    if h.valid && !h.ready then requestNotReady (RequestBlocker.ofProbe p)
    else if !h.valid && !h.ready && p.loadOwned then
      match OwnerResponse.ofProbe? p with
      | some response => ownerResponse response
      | none => ownerHold
    else if !h.valid && !h.ready && p.lanes.any fun g => !g.allocFire then noGrant
    else if p.requestFires then requestUnknown
    else requestNotFired

/-- What a load waits for that is to get its response. -/
def ofResponse (p : StallProbe) : LoadWait :=
  match p.loadResponse with
  | none => responseUnknown
  | some h =>
    if !h.valid then responseNotValid
    else if !h.ready then responseNotReady
    else if p.responseFires then responseUnknown
    else responseNotFired

/-- What a load waits for. -/
def ofProbe (p : StallProbe) : LoadWait :=
  match p.loadState with
  | none => noState
  | some .idle => idle
  | some .request => ofRequest p
  | some .response => ofResponse p
  | some .writeback => writeback
  | some .illegal => illegal

/-- The name of a wait in reports. -/
def label : LoadWait → String
  | noState => "rob_lsu_incomplete_no_sm"
  | idle => "rob_lsu_incomplete_sm_idle"
  | requestUnknown => "rob_lsu_incomplete_sm_req_unknown"
  | requestNotReady (.owner response) => "rob_lsu_wait_ld_req_ready_owner_rsp_" ++ response.name
  | requestNotReady .storeConflict => "rob_lsu_wait_ld_req_ready_sb_conflict"
  | requestNotReady .mshr => "rob_lsu_wait_ld_req_ready_mshr_blocked"
  | requestNotReady .missPort => "rob_lsu_wait_ld_req_ready_miss_port_busy"
  | requestNotReady .unknown => "rob_lsu_wait_ld_req_ready"
  | ownerResponse response => "rob_lsu_wait_ld_owner_rsp_" ++ response.name
  | ownerHold => "rob_lsu_wait_ld_owner_hold"
  | noGrant => "rob_lsu_wait_ld_arb_no_grant"
  | requestNotFired => "rob_lsu_wait_ld_req_fire"
  | responseUnknown => "rob_lsu_incomplete_sm_rsp_unknown"
  | responseNotValid => "rob_lsu_wait_ld_rsp_valid"
  | responseNotReady => "rob_lsu_wait_ld_rsp_ready"
  | responseNotFired => "rob_lsu_wait_ld_rsp_fire"
  | writeback => "rob_lsu_wait_wb"
  | illegal => "rob_lsu_incomplete_sm_illegal"

end LoadWait

/-! ## The head -/

/-- What the head of a full reorder buffer waits for. -/
inductive RobBackpressureCause where
  | store (wait : StoreWait)
  | completeNotReady
  | compute (unit : ComputeUnit)
  | load (wait : LoadWait)
  /-- The line does not show the head. -/
  | other
  deriving DecidableEq, Repr

namespace RobBackpressureCause

/-- The name of a cause in reports. -/
def label : RobBackpressureCause → String
  | store wait => "rob_store_wait_" ++ wait.name
  | completeNotReady => "rob_head_complete_but_not_ready"
  | compute unit => "rob_head_fu_" ++ unit.name ++ "_incomplete"
  | load wait => wait.label
  | other => "other"

/-- The cause that the probe of a line shows. -/
def ofProbe (p : StallProbe) : RobBackpressureCause :=
  match p.head with
  | none => other
  | some head =>
    if head.isStore then store (StoreWait.ofProbe p)
    else if head.complete then completeNotReady
    else
      match head.unit with
      | .compute unit => compute unit
      | .loadStore => load (LoadWait.ofProbe p)

end RobBackpressureCause

end PipelineProfile
