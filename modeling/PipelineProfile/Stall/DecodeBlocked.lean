import PipelineProfile.Stall.Probe

/-!
# Why decode is blocked

The finer causes of a stall in the category `decodeBlocked`. Each cause has a condition on the
probe of the line; the first that holds, in the order of `rules`, is the cause. Without any the
cause is `other`.

When rename has to replay pending instructions, it counts as full from a set number of sources
on, which is the parameter `lanes`.
-/

namespace PipelineProfile

/-- Why decode is blocked. -/
inductive DecodeBlockedCause where
  /-- Rename replays instructions: whether some make progress, and whether it is full. -/
  | pendingReplay (progress full : Bool)
  /-- The load/store group takes nothing in: for want of a lane if a load owns the data cache,
  else for want of the data cache. -/
  | loadGroup (owned : Bool)
  | storeSameLine
  | storeMshrFull
  | storeBufferFull
  | lsuOperand
  | lsuQueueBusy
  | secondOperand
  | dispatchGate (unit : DispatchUnit)
  | loadRequest
  | loadResponse
  | other
  deriving DecidableEq, Repr

namespace DecodeBlockedCause

/-- The name of a unit in the label of its gate. -/
def gateName : DispatchUnit → String
  | .alu => "alu"
  | .bru => "bru"
  | .lsu => "lsu"
  | .mdu => "mdu"
  | .csr => "csr"

/-- The name of a cause in reports. -/
def label : DecodeBlockedCause → String
  | pendingReplay true true => "pending_replay_progress_full"
  | pendingReplay true false => "pending_replay_progress_has_room"
  | pendingReplay false true => "pending_replay_wait_full"
  | pendingReplay false false => "pending_replay_wait_has_room"
  | loadGroup false => "lsug_wait_dcache_owner"
  | loadGroup true => "lsug_no_free_lane"
  | storeSameLine => "dc_store_wait_same_line"
  | storeMshrFull => "dc_store_wait_mshr_full"
  | storeBufferFull => "sb_alloc_blocked"
  | lsuOperand => "lsu_operand_wait"
  | lsuQueueBusy => "lsu_rs_pressure"
  | secondOperand => "rob_q2_wait"
  | dispatchGate unit => "dispatch_gate_" ++ gateName unit
  | loadRequest => "lsu_wait_ld_req"
  | loadResponse => "lsu_wait_ld_rsp"
  | other => "other"

/-! ## The conditions -/

/-- Instructions wait in rename to be replayed. -/
def pendingReplay? (lanes : Nat) (p : StallProbe) : Option DecodeBlockedCause :=
  p.rename.bind fun r =>
    if r.pending then
      some (pendingReplay (r.fire && 0 < r.selected) (lanes ≤ r.sources))
    else none

/-- The load/store group is busy and takes nothing in. -/
def loadGroup? (p : StallProbe) : Option DecodeBlockedCause :=
  p.lanes.bind fun g =>
    if g.busy && !g.allocFire then some (loadGroup g.loadOwner) else none

/-- The data cache holds a store back. -/
def storeHold? (p : StallProbe) : Option DecodeBlockedCause :=
  p.storeHold.bind fun w =>
    if w.sameLine then some storeSameLine
    else if w.mshrFull then some storeMshrFull
    else none

/-- The store buffer has no room. -/
def storeBuffer? (p : StallProbe) : Option DecodeBlockedCause :=
  if p.storeAlloc.any Handshake.blocked then some storeBufferFull else none

/-- The oldest waiting load or store lacks an operand. -/
def operand? (p : StallProbe) : Option DecodeBlockedCause :=
  p.lsuQueueHead.bind fun valid =>
    p.operands.bind fun o =>
      if valid && (o.has1 && !o.ready1 || o.has2 && !o.ready2) then some lsuOperand else none

/-- The queue of the load/store unit is busy and has nothing ready. -/
def queue? (p : StallProbe) : Option DecodeBlockedCause :=
  if p.lsuQueue.any Handshake.blocked then some lsuQueueBusy else none

/-- A store waits for its data behind an incomplete instruction. -/
def secondOperand? (p : StallProbe) : Option DecodeBlockedCause :=
  p.operands.bind fun o =>
    if p.secondIncomplete && o.has2 && !o.ready2 then some secondOperand else none

/-- The order in which closed gates are blamed. -/
def gateOrder : List DispatchUnit := [.lsu, .alu, .bru, .csr, .mdu]

/-- A unit accepts nothing. One that instructions wait for is blamed before all others. -/
def gate? (p : StallProbe) : Option DecodeBlockedCause :=
  p.gateOpen.bind fun g =>
    let closed := gateOrder.filter fun u => !g.get u
    let needed := closed.find? fun u => p.unitNeeded.any fun n => n.get u
    (needed.or closed.head?).map dispatchGate

/-- A load waits to send its request or for its response. -/
def load? (p : StallProbe) : Option DecodeBlockedCause :=
  match p.loadState with
  | some .request => if p.requestFires then none else some loadRequest
  | some .response => if p.responseFires then none else some loadResponse
  | _ => none

/-- The conditions in the order in which they are asked. -/
def rules (lanes : Nat) : List (StallProbe → Option DecodeBlockedCause) :=
  [pendingReplay? lanes, loadGroup?, storeHold?, storeBuffer?, operand?, queue?, secondOperand?,
    gate?, load?]

/-- The cause that the probe of a line shows. -/
def ofProbe (lanes : Nat) (p : StallProbe) : DecodeBlockedCause :=
  ((rules lanes).findSome? fun rule => rule p).getD other

end DecodeBlockedCause

end PipelineProfile
