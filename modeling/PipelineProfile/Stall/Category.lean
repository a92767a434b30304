import PipelineProfile.Line.Facts

/-!
# Stall categories

The simulator prints a stall line when no instruction has retired for a while. The line is
attributed to one of eight categories by the signals on it. Seven categories have a condition
each; they are asked in order of priority, blockages at the front of the pipeline before those
at its back, and the first whose condition holds is the category of the line. A line on which
no condition holds is `other`.

A signal that is missing from the line is no cause: it reads as the value with which no
condition holds. The same goes for a handshake of which one half is missing or garbled.
-/

namespace PipelineProfile

/-- What a cycle without retirement is attributed to. -/
inductive StallCategory where
  | flushRecovery
  | icacheMissWait
  | dcacheMissWait
  | robBackpressure
  | frontendEmpty
  | decodeBlocked
  | lsuRequestBlocked
  | other
  deriving DecidableEq, Repr

/-- The two halves of a valid/ready handshake. -/
structure Handshake where
  valid : Bool
  ready : Bool
  deriving DecidableEq, Repr

/-- The handshake in the first two slots of a value. -/
def Handshake.ofSlots (s : Slots) : Handshake := ⟨s.bit 0, s.bit 1⟩

/-- Whether something is offered that is not taken. -/
def Handshake.blocked (h : Handshake) : Bool := h.valid && !h.ready

/-- The signals that decide the category of a stall line. -/
structure StallSignals where
  flush : Bool
  icacheMiss : Bool
  dcacheMiss : Bool
  robReady : Bool
  /-- Instructions coming to decode. -/
  decode : Option Handshake
  /-- Requests issued to the load/store unit. -/
  lsuIssue : Option Handshake
  deriving DecidableEq, Repr

namespace StallSignals

/-- The handshake under a key, if both halves are there. -/
def handshake? (f : Facts) (key : String) : Option Handshake :=
  (f.completeSlots? key 2).map Handshake.ofSlots

/-- The signals that the facts of a line carry. -/
def ofFacts (f : Facts) : StallSignals where
  flush := (f.flag? "flush").getD false
  icacheMiss := (handshake? f "ic_miss(v/r)").any Handshake.valid
  dcacheMiss := (handshake? f "dc_miss(v/r)").any Handshake.valid
  robReady := (f.flag? "rob_ready").getD true
  decode := handshake? f "dec(v/r)"
  lsuIssue := handshake? f "lsu_issue(v/r)"

end StallSignals

namespace StallCategory

/-- Every category, in the order of reports. -/
def all : List StallCategory :=
  [flushRecovery, icacheMissWait, dcacheMissWait, robBackpressure, frontendEmpty, decodeBlocked,
    lsuRequestBlocked, other]

theorem mem_all (c : StallCategory) : c ∈ all := by cases c <;> decide

/-- The name of a category on summary lines and in reports. -/
def label : StallCategory → String
  | flushRecovery => "flush_recovery"
  | icacheMissWait => "icache_miss_wait"
  | dcacheMissWait => "dcache_miss_wait"
  | robBackpressure => "rob_backpressure"
  | frontendEmpty => "frontend_empty"
  | decodeBlocked => "decode_blocked"
  | lsuRequestBlocked => "lsu_req_blocked"
  | other => "other"

/-- Whether a category is broken down by finer causes. -/
def hasDetail : StallCategory → Bool
  | decodeBlocked | robBackpressure | frontendEmpty | other => true
  | flushRecovery | icacheMissWait | dcacheMissWait | lsuRequestBlocked => false

/-- The condition of a category. -/
def holds (s : StallSignals) : StallCategory → Bool
  | flushRecovery => s.flush
  | icacheMissWait => s.icacheMiss
  | dcacheMissWait => s.dcacheMiss
  | robBackpressure => !s.robReady
  | frontendEmpty => s.decode.any fun h => !h.valid
  | decodeBlocked => s.decode.any Handshake.blocked
  | lsuRequestBlocked => s.lsuIssue.any Handshake.blocked
  | other => true

/-- The categories with a condition of their own, in order of priority. -/
def priority : List StallCategory :=
  [flushRecovery, icacheMissWait, dcacheMissWait, robBackpressure, frontendEmpty, decodeBlocked,
    lsuRequestBlocked]

/-- The first category of a list whose condition holds. -/
def firstOf (order : List StallCategory) (s : StallSignals) : StallCategory :=
  (order.find? fun c => holds s c).getD other

/-- The category of a stall line with the given signals. -/
def ofSignals (s : StallSignals) : StallCategory := firstOf priority s

end StallCategory

end PipelineProfile
