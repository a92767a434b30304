import PipelineProfile.Stall.RobHead

/-!
# Why nothing retires without a blockage

The finer causes of a stall in the category `other`, in which no part of the pipeline is blocked
by another. The reorder buffer may just be filling up again, a result may be on its way to its
register, the head of the reorder buffer may not be complete, or rename may have nothing to
send. The first condition that holds, in the order of `rules`, is the cause.

The labels of causes at the head of the reorder buffer end in `_nonbp`, which sets them apart
from those of the category `robBackpressure`.
-/

namespace PipelineProfile

/-- How far an empty reorder buffer has come in filling up again. -/
inductive RefillStep where
  | renameNotReady
  | renameFires
  | frontendResponse
  | responseCapture
  | other
  deriving DecidableEq, Repr

/-- What the reorder buffer shows while a load result is being written back. -/
inductive WritebackHead where
  | loadIncomplete
  | loadComplete
  | secondIncomplete
  | other
  /-- The line does not show the head. -/
  | unseen
  deriving DecidableEq, Repr

/-- What an incomplete load at the head waits for when nothing is blocked. -/
inductive HeadLoadWait where
  | noState
  | idle
  | requestUnknown
  | requestNotReady
  | ownerOrAlloc
  | requestFireGap
  | responseUnknown
  | responseNotValid
  | responseNotReady
  | responseFireGap
  | otherState
  deriving DecidableEq, Repr

namespace HeadLoadWait

/-- What a load waits for that is to send its request. -/
def ofRequest (p : StallProbe) : HeadLoadWait :=
  match p.loadRequest with
  | none => requestUnknown
  | some h =>
    if h.valid && !h.ready then requestNotReady
    else if !h.valid && !h.ready then ownerOrAlloc
    else if p.requestFires then requestUnknown
    else requestFireGap

/-- What a load waits for that is to get its response. -/
def ofResponse (p : StallProbe) : HeadLoadWait :=
  match p.loadResponse with
  | none => responseUnknown
  | some h =>
    if !h.valid then responseNotValid
    else if !h.ready then responseNotReady
    else if p.responseFires then responseUnknown
    else responseFireGap

/-- What a load waits for. -/
def ofProbe (p : StallProbe) : HeadLoadWait :=
  match p.loadState with
  | none => noState
  | some .idle => idle
  | some .request => ofRequest p
  | some .response => ofResponse p
  | some .writeback => otherState
  | some .illegal => otherState

/-- The name of a wait inside a label. -/
def name : HeadLoadWait → String
  | noState => "no_sm"
  | idle => "sm_idle"
  | requestUnknown => "sm_req_unknown"
  | requestNotReady => "wait_req_ready"
  | ownerOrAlloc => "wait_owner_or_alloc"
  | requestFireGap => "req_fire_gap"
  | responseUnknown => "sm_rsp_unknown"
  | responseNotValid => "wait_rsp_valid"
  | responseNotReady => "wait_rsp_ready"
  | responseFireGap => "rsp_fire_gap"
  | otherState => "sm_other"

end HeadLoadWait

/-- Why nothing retires although nothing is blocked. -/
inductive OtherCause where
  | refill (step : RefillStep)
  | writeback (head : WritebackHead)
  | headStore (wait : StoreWait)
  | headCompute (unit : ComputeUnit)
  | headLoad (wait : HeadLoadWait)
  | secondIncomplete
  | renameNotReady
  | renameIdle
  | requestFireGap
  | responseFireGap
  | other
  deriving DecidableEq, Repr

namespace OtherCause

/-- The name of a cause in reports. -/
def label : OtherCause → String
  | refill .renameNotReady => "rob_empty_refill_ren_not_ready"
  | refill .renameFires => "rob_empty_refill_ren_fire"
  | refill .frontendResponse => "rob_empty_refill_wait_frontend_rsp"
  | refill .responseCapture => "rob_empty_refill_rsp_capture"
  | refill .other => "rob_empty_refill_other"
  | writeback .loadIncomplete => "lsu_wait_wb_head_lsu_incomplete"
  | writeback .loadComplete => "lsu_wait_wb_head_lsu_complete"
  | writeback .secondIncomplete => "lsu_wait_wb_q2_incomplete"
  | writeback .other => "lsu_wait_wb_other"
  | writeback .unseen => "lsu_wait_wb"
  | headStore wait => "rob_head_store_wait_" ++ wait.name ++ "_nonbp"
  | headCompute unit => "rob_head_" ++ unit.name ++ "_incomplete_nonbp"
  | headLoad wait => "rob_head_lsu_incomplete_" ++ wait.name ++ "_nonbp"
  | secondIncomplete => "rob_q2_not_complete_nonstall"
  | renameNotReady => "ren_not_ready"
  | renameIdle => "ren_no_fire"
  | requestFireGap => "lsu_req_fire_gap"
  | responseFireGap => "lsu_rsp_fire_gap"
  | other => "other"

/-! ## The conditions -/

/-- The reorder buffer is empty. -/
def refill? (p : StallProbe) : Option OtherCause :=
  if p.robCount = some 0 then
    some (refill
      (if p.rename.any fun r => !r.ready then .renameNotReady
      else if p.rename.any fun r => r.fire then .renameFires
      else if p.fetchInFlight.any id then .frontendResponse
      else if p.fetchResponse.any fun r => r.valid && r.captured then .responseCapture
      else .other))
  else none

/-- A load result is being written back. -/
def writeback? (p : StallProbe) : Option OtherCause :=
  if p.loadState = some .writeback then
    let onLoad := p.head.filter fun h => h.unit = .loadStore
    some (writeback
      (match onLoad with
      | some h => if h.complete then .loadComplete else .loadIncomplete
      | none =>
        if p.secondIncomplete then .secondIncomplete
        else if p.head.isSome then .other
        else .unseen))
  else none

/-- A store is at the head of the reorder buffer. -/
def headStore? (p : StallProbe) : Option OtherCause :=
  if p.head.any HeadProbe.isStore then some (headStore (StoreWait.ofProbe p)) else none

/-- What an incomplete head of the reorder buffer waits for, by its unit. -/
def ofIncompleteHead (p : StallProbe) : HeadUnit → OtherCause
  | .compute unit => headCompute unit
  | .loadStore => headLoad (HeadLoadWait.ofProbe p)

/-- The head of the reorder buffer is not complete. -/
def headIncomplete? (p : StallProbe) : Option OtherCause :=
  p.head.bind fun h => if h.complete then none else some (ofIncompleteHead p h.unit)

/-- The instruction behind the head of the reorder buffer is not complete. -/
def second? (p : StallProbe) : Option OtherCause :=
  if p.secondIncomplete then some secondIncomplete else none

/-- Rename sends nothing. -/
def rename? (p : StallProbe) : Option OtherCause :=
  p.rename.bind fun r =>
    if !r.ready then some renameNotReady
    else if !r.fire then some renameIdle
    else none

/-- A load request is taken without being sent. -/
def requestGap? (p : StallProbe) : Option OtherCause :=
  if p.loadState = some .request && p.loadRequest = some ⟨true, true⟩ && !p.requestFires then
    some requestFireGap
  else none

/-- A load response is offered and wanted without being taken. -/
def responseGap? (p : StallProbe) : Option OtherCause :=
  if p.loadState = some .response && p.loadResponse = some ⟨true, true⟩ && !p.responseFires then
    some responseFireGap
  else none

/-- The conditions in the order in which they are asked. -/
def rules : List (StallProbe → Option OtherCause) :=
  [refill?, writeback?, headStore?, headIncomplete?, second?, rename?, requestGap?, responseGap?]

/-- The cause that the probe of a line shows. -/
def ofProbe (p : StallProbe) : OtherCause :=
  (rules.findSome? fun rule => rule p).getD other

end OtherCause

end PipelineProfile
