import PipelineProfile.Stall.Category

/-!
# The probe of a stall line

Besides the signals that decide its category, a stall line carries groups of signals from all
over the pipeline, which tell the finer cause. The probe of a line holds those groups. A group
that the line does not carry is absent, and a condition that asks for something in a group fails if
the group is absent. So the two flags that a load has gone on, `requestFires` and `responseFires`,
read as not set without their group, and a cause that asks for a load that has not gone on does not
need the flag to be there. Inside a group that is there, a missing slot reads as zero.
-/

namespace PipelineProfile

/-! ## The groups -/

/-- Rename: whether instructions are pending, how many sources they come from, how many are
selected, and whether the stage fires and is ready. -/
structure RenameProbe where
  pending : Bool
  sources : Nat
  selected : Nat
  fire : Bool
  ready : Bool
  deriving DecidableEq, Repr

/-- The lanes of the load/store group. -/
structure LaneProbe where
  busy : Bool
  allocFire : Bool
  /-- Whether some load owns the data cache. -/
  loadOwner : Bool
  deriving DecidableEq, Repr

/-- Why the data cache holds a store back. -/
structure StoreHoldProbe where
  sameLine : Bool
  mshrFull : Bool
  deriving DecidableEq, Repr

/-- The operands of the oldest waiting load or store. -/
structure OperandProbe where
  ready1 : Bool
  ready2 : Bool
  has1 : Bool
  has2 : Bool
  deriving DecidableEq, Repr

/-- The instruction behind the head of the reorder buffer. -/
structure SecondProbe where
  valid : Bool
  complete : Bool
  deriving DecidableEq, Repr

/-- The units that instructions are dispatched to. -/
inductive DispatchUnit where
  | alu
  | bru
  | lsu
  | mdu
  | csr
  deriving DecidableEq, Repr

/-- One bit for each dispatch unit. -/
structure UnitBits where
  alu : Bool
  bru : Bool
  lsu : Bool
  mdu : Bool
  csr : Bool
  deriving DecidableEq, Repr

/-- The bit of a unit. -/
def UnitBits.get (b : UnitBits) : DispatchUnit → Bool
  | .alu => b.alu
  | .bru => b.bru
  | .lsu => b.lsu
  | .mdu => b.mdu
  | .csr => b.csr

/-- Where the load/store unit is with the access at its head. -/
inductive LoadState where
  | idle
  | request
  | response
  | writeback
  | illegal
  deriving DecidableEq, Repr

/-- The state with the given number. -/
def LoadState.ofNumber : Nat → LoadState
  | 0 => idle
  | 1 => request
  | 2 => response
  | 3 => writeback
  | _ => illegal

/-- The units that compute without accessing memory. -/
inductive ComputeUnit where
  | alu
  | branch
  | mulDiv
  | csr
  | unknown
  deriving DecidableEq, Repr

/-- The unit that executes the head of the reorder buffer. -/
inductive HeadUnit where
  | loadStore
  | compute (unit : ComputeUnit)
  deriving DecidableEq, Repr

/-- The unit with the given number. -/
def HeadUnit.ofNumber : Nat → HeadUnit
  | 1 => compute .alu
  | 2 => compute .branch
  | 3 => loadStore
  | 4 => compute .mulDiv
  | 5 => compute .mulDiv
  | 6 => compute .csr
  | _ => compute .unknown

/-- The head of the reorder buffer. -/
structure HeadProbe where
  unit : HeadUnit
  complete : Bool
  isStore : Bool
  deriving DecidableEq, Repr

/-- The head of the store buffer. -/
structure StoreProbe where
  valid : Bool
  committed : Bool
  hasAddress : Bool
  hasData : Bool
  deriving DecidableEq, Repr

/-- A response to the front end, and whether it is being captured. -/
structure FetchResponseProbe where
  valid : Bool
  captured : Bool
  deriving DecidableEq, Repr

/-! ## The probe -/

/-- The groups of signals that a stall line carries. -/
structure StallProbe where
  rename : Option RenameProbe
  lanes : Option LaneProbe
  storeHold : Option StoreHoldProbe
  /-- Allocation in the store buffer: whether one is requested, and whether there is room. -/
  storeAlloc : Option Handshake
  /-- The queue of the load/store unit: whether entries are busy, and whether one is ready. -/
  lsuQueue : Option Handshake
  /-- Whether the queue of the load/store unit has a valid head. -/
  lsuQueueHead : Option Bool
  operands : Option OperandProbe
  second : Option SecondProbe
  /-- The units that accept instructions. -/
  gateOpen : Option UnitBits
  /-- The units that instructions wait for. -/
  unitNeeded : Option UnitBits
  loadState : Option LoadState
  loadRequest : Option Handshake
  loadResponse : Option Handshake
  loadRequestFire : Option Bool
  loadResponseFire : Option Bool
  head : Option HeadProbe
  /-- How many instructions the reorder buffer holds. -/
  robCount : Option Nat
  storeHead : Option StoreProbe
  /-- Stores offered to the data cache. -/
  storeRequest : Option Handshake
  /-- Whether the miss registers of the data cache are full. -/
  mshrFull : Option Bool
  /-- Whether the data cache can allocate a miss register. -/
  mshrReady : Option Bool
  /-- Misses that the data cache sends on. -/
  dcacheMiss : Option Handshake
  /-- Whether a fetch request is in flight. -/
  fetchInFlight : Option Bool
  fetchResponse : Option FetchResponseProbe
  deriving DecidableEq, Repr

namespace StallProbe

/-- The group of signals under a key. -/
def group? {α : Type} (f : Facts) (key : String) (decode : Slots → α) : Option α :=
  (f.slots? key).map decode

/-- The unit bits in the first five slots of a value. -/
def unitBits (s : Slots) : UnitBits :=
  { alu := s.bit 0, bru := s.bit 1, lsu := s.bit 2, mdu := s.bit 3, csr := s.bit 4 }

/-- The probe that the facts of a line carry. -/
def ofFacts (f : Facts) : StallProbe where
  rename := group? f "ren(pend/src/sel/fire/rdy)" fun s =>
    { pending := s.bit 0, sources := s.get 1, selected := s.get 2, fire := s.bit 3
      ready := s.bit 4 }
  lanes := group? f "lsug(busy/alloc_fire/alloc_lane/ld_owner)" fun s =>
    { busy := s.bit 0, allocFire := s.bit 1, loadOwner := s.bit 3 }
  storeHold := group? f "dc_store_wait(same/full)" fun s =>
    { sameLine := s.bit 0, mshrFull := s.bit 1 }
  storeAlloc := group? f "sb_alloc(req/ready/fire)" Handshake.ofSlots
  lsuQueue := group? f "lsu_rs(b/r)" Handshake.ofSlots
  lsuQueueHead := group? f "lsu_rs_head(v/idx/dst)" fun s => s.bit 0
  operands := group? f "lsu_rs_head(rs1r/rs2r/has1/has2)" fun s =>
    { ready1 := s.bit 0, ready2 := s.bit 1, has1 := s.bit 2, has2 := s.bit 3 }
  second := group? f "rob_q2(v/idx/fu/comp/st/pc)" fun s =>
    { valid := s.bit 0, complete := s.bit 3 }
  gateOpen := group? f "gate(alu/bru/lsu/mdu/csr)" unitBits
  unitNeeded := group? f "need(alu/bru/lsu/mdu/csr)" unitBits
  loadState := (f.num? "lsu_sm").map LoadState.ofNumber
  loadRequest := group? f "lsu_ld(v/r/addr)" Handshake.ofSlots
  loadResponse := group? f "lsu_rsp(v/r)" Handshake.ofSlots
  loadRequestFire := f.flag? "lsu_ld_fire"
  loadResponseFire := f.flag? "lsu_rsp_fire"
  head := group? f "rob_head(fu/comp/is_store/pc)" fun s =>
    { unit := HeadUnit.ofNumber (s.get 0), complete := s.bit 1, isStore := s.bit 2 }
  robCount := f.num? "rob_cnt"
  storeHead := group? f "sb_head(v/c/a/d/addr)" fun s =>
    { valid := s.bit 0, committed := s.bit 1, hasAddress := s.bit 2, hasData := s.bit 3 }
  storeRequest := group? f "sb_dcache(v/r/addr)" Handshake.ofSlots
  mshrFull := group? f "dc_mshr(cnt/full/empty)" fun s => s.bit 1
  mshrReady := group? f "dc_mshr(alloc_rdy/line_hit)" fun s => s.bit 0
  dcacheMiss := group? f "dc_miss(v/r)" Handshake.ofSlots
  fetchInFlight := group? f "ifu_req(v/r/fire/inflight)" fun s => s.bit 3
  fetchResponse := group? f "ifu_rsp(v/cap)" fun s =>
    { valid := s.bit 0, captured := s.bit 1 }

/-! ## Conditions that several causes share -/

/-- Whether a load request is being sent. -/
def requestFires (p : StallProbe) : Bool := p.loadRequestFire.getD false

/-- Whether a load response is being taken. -/
def responseFires (p : StallProbe) : Bool := p.loadResponseFire.getD false

/-- Whether some load owns the data cache. -/
def loadOwned (p : StallProbe) : Bool := p.lanes.any LaneProbe.loadOwner

/-- Whether the instruction behind the head of the reorder buffer is there and not complete. -/
def secondIncomplete (p : StallProbe) : Bool := p.second.any fun q => q.valid && !q.complete

/-- Whether a store is offered to the data cache and not taken. -/
def storeBlocked (p : StallProbe) : Bool := p.storeRequest.any Handshake.blocked

end StallProbe

end PipelineProfile
