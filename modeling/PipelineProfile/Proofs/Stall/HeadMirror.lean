import Mathlib.Data.List.Basic
import PipelineProfile.Stall.Other

/-!
# The head of the reorder buffer with and without backpressure

What the head of the reorder buffer waits for is worked out twice, in the category
`robBackpressure` and in the category `other`, and both follow a load through the same steps.  The
second does not look for what stands in the way of a load, and its labels end in `_nonbp`.

On causes the correspondence is `RobBackpressureCause.counterpart?`, on labels it is `mirror?`, and
`mirror?_label` says that they are the same.  Step by step the two trees then agree
(`LoadWait.counterpart?_ofRequest`, `LoadWait.counterpart?_ofResponse`), but for one state of a
load: it is to send its request, and neither half of the handshake is there
(`StallProbe.AwaitsOwner`).  Backpressure tells apart what it waits for then, and the other tree
puts all of it under one label.  The main result is `StallProbe.mirrorsHead_of_waits`.
-/

namespace PipelineProfile

/-! ## Causes -/

/-- What a load waits for, as it is reported without backpressure.  Waits for another load or for
a grant have no report of their own there. -/
def LoadWait.counterpart? : LoadWait → Option HeadLoadWait
  | noState => some .noState
  | idle => some .idle
  | requestUnknown => some .requestUnknown
  | requestNotReady _ => some .requestNotReady
  | ownerResponse _ | ownerHold | noGrant => none
  | requestNotFired => some .requestFireGap
  | responseUnknown => some .responseUnknown
  | responseNotValid => some .responseNotValid
  | responseNotReady => some .responseNotReady
  | responseNotFired => some .responseFireGap
  | writeback | illegal => some .otherState

/-- What the head waits for, as it is reported without backpressure. -/
def RobBackpressureCause.counterpart? : RobBackpressureCause → Option OtherCause
  | store wait => some (.headStore wait)
  | compute unit => some (.headCompute unit)
  | load wait => wait.counterpart?.map .headLoad
  | completeNotReady | other => none

/-! ## Labels -/

/-- The label of an incomplete load at the head without backpressure. -/
def headLoadLabel (wait : String) : String := "rob_head_lsu_incomplete_" ++ wait ++ "_nonbp"

/-- The labels of loads under backpressure, and what the loads wait for in the other tree.  The
requests that are not taken are missing, since they have a label for each reason. -/
def loadLabels : List (String × String) := [
  ("rob_lsu_incomplete_no_sm", "no_sm"),
  ("rob_lsu_incomplete_sm_idle", "sm_idle"),
  ("rob_lsu_incomplete_sm_req_unknown", "sm_req_unknown"),
  ("rob_lsu_incomplete_sm_rsp_unknown", "sm_rsp_unknown"),
  ("rob_lsu_wait_ld_req_fire", "req_fire_gap"),
  ("rob_lsu_wait_ld_rsp_valid", "wait_rsp_valid"),
  ("rob_lsu_wait_ld_rsp_ready", "wait_rsp_ready"),
  ("rob_lsu_wait_ld_rsp_fire", "rsp_fire_gap"),
  ("rob_lsu_wait_wb", "sm_other"),
  ("rob_lsu_incomplete_sm_illegal", "sm_other")]

/-- The label with a new start and the ending `_nonbp`, if it has the old start. -/
def restart? (old new label : String) : Option String :=
  (old.toList.isPrefixOf? label.toList).map fun rest =>
    new ++ String.ofList rest ++ "_nonbp"

/-- The label of the other tree that mirrors a label of backpressure. -/
def mirror? (label : String) : Option String :=
  if "rob_lsu_wait_ld_req_ready".toList.isPrefixOf label.toList then
    some (headLoadLabel "wait_req_ready")
  else
    match loadLabels.lookup label with
    | some wait => some (headLoadLabel wait)
    | none =>
      (restart? "rob_store_wait_" "rob_head_store_wait_" label).or
        (restart? "rob_head_fu_" "rob_head_" label)

lemma mirror?_store (wait : StoreWait) :
    mirror? (RobBackpressureCause.store wait).label = some (OtherCause.headStore wait).label := by
  cases wait <;> decide +kernel

lemma mirror?_compute (unit : ComputeUnit) :
    mirror? (RobBackpressureCause.compute unit).label =
      some (OtherCause.headCompute unit).label := by
  cases unit <;> decide +kernel

lemma mirror?_requestNotReady (blocker : RequestBlocker) :
    mirror? (LoadWait.requestNotReady blocker).label =
      some (OtherCause.headLoad .requestNotReady).label := by
  cases blocker with
  | owner response => cases response <;> decide +kernel
  | _ => decide +kernel

lemma mirror?_load {wait : LoadWait} {n : HeadLoadWait} (h : wait.counterpart? = some n) :
    mirror? wait.label = some (OtherCause.headLoad n).label := by
  cases wait with
  | requestNotReady blocker =>
    obtain rfl := Option.some.inj h
    exact mirror?_requestNotReady blocker
  | ownerResponse | ownerHold | noGrant => cases h
  | _ =>
    obtain rfl := Option.some.inj h
    decide +kernel

/-- A cause and its counterpart have labels that mirror each other. -/
lemma mirror?_label {c : RobBackpressureCause} {n : OtherCause} (h : c.counterpart? = some n) :
    mirror? c.label = some n.label := by
  cases c with
  | store wait =>
    obtain rfl := Option.some.inj h
    exact mirror?_store wait
  | compute unit =>
    obtain rfl := Option.some.inj h
    exact mirror?_compute unit
  | load wait =>
    obtain ⟨n, hn, rfl⟩ := Option.map_eq_some_iff.mp h
    exact mirror?_load hn
  | completeNotReady | other => cases h

/-! ## The two trees -/

variable {p : StallProbe} {head : HeadProbe}

/-- What a head that is a store, or is not complete, waits for without backpressure. -/
def OtherCause.ofHead (p : StallProbe) (head : HeadProbe) : OtherCause :=
  if head.isStore then headStore (StoreWait.ofProbe p) else ofIncompleteHead p head.unit

/-- The head is a load that is to send its request, and neither half of the handshake is there. -/
def StallProbe.AwaitsOwner (p : StallProbe) (head : HeadProbe) : Prop :=
  head.isStore = false ∧ head.unit = .loadStore ∧ p.loadState = some .request ∧
    p.loadRequest = some ⟨false, false⟩

instance (p : StallProbe) (head : HeadProbe) : Decidable (p.AwaitsOwner head) :=
  inferInstanceAs (Decidable (_ ∧ _))

lemma LoadWait.counterpart?_ofRequest (h : p.loadRequest ≠ some ⟨false, false⟩) :
    (LoadWait.ofRequest p).counterpart? = some (HeadLoadWait.ofRequest p) := by
  rw [LoadWait.ofRequest, HeadLoadWait.ofRequest]
  cases hrequest : p.loadRequest with
  | none => rfl
  | some request =>
    obtain ⟨valid, ready⟩ := request
    cases valid <;> cases ready
    -- With a half of the handshake there, no owner and no grant is looked for.
    case false.false => exact absurd hrequest h
    all_goals cases p.requestFires <;> rfl

lemma LoadWait.counterpart?_ofResponse :
    (LoadWait.ofResponse p).counterpart? = some (HeadLoadWait.ofResponse p) := by
  rw [LoadWait.ofResponse, HeadLoadWait.ofResponse]
  cases p.loadResponse with
  | none => rfl
  | some response =>
    obtain ⟨valid, ready⟩ := response
    cases valid <;> cases ready <;> cases p.responseFires <;> rfl

lemma LoadWait.counterpart?_ofProbe
    (h : ¬ (p.loadState = some .request ∧ p.loadRequest = some ⟨false, false⟩)) :
    (LoadWait.ofProbe p).counterpart? = some (HeadLoadWait.ofProbe p) := by
  rw [LoadWait.ofProbe, HeadLoadWait.ofProbe]
  cases hstate : p.loadState with
  | none => rfl
  | some state =>
    cases state with
    | request => exact counterpart?_ofRequest fun hrequest => h ⟨hstate, hrequest⟩
    | response => exact counterpart?_ofResponse
    | idle | writeback | illegal => rfl

/-- The two trees report counterparts, unless a load awaits its owner. -/
lemma RobBackpressureCause.counterpart?_ofProbe (hhead : p.head = some head)
    (hwaits : head.isStore = true ∨ head.complete = false) (h : ¬ p.AwaitsOwner head) :
    (ofProbe p).counterpart? = some (OtherCause.ofHead p head) := by
  rw [ofProbe, hhead]
  obtain ⟨unit, complete, isStore⟩ := head
  cases isStore with
  | true => rfl
  | false =>
    obtain rfl : complete = false := hwaits.resolve_left Bool.false_ne_true
    cases unit with
    | compute unit => rfl
    | loadStore =>
      have hload := LoadWait.counterpart?_ofProbe fun hidle => h ⟨rfl, rfl, hidle⟩
      change (LoadWait.ofProbe p).counterpart?.map OtherCause.headLoad = _
      rw [hload]
      rfl

lemma OtherCause.ofHead_of_awaitsOwner (h : p.AwaitsOwner head) :
    ofHead p head = headLoad .ownerOrAlloc := by
  obtain ⟨hstore, hunit, hstate, hrequest⟩ := h
  rw [ofHead, hstore, if_neg Bool.false_ne_true, hunit, ofIncompleteHead, HeadLoadWait.ofProbe,
    hstate, HeadLoadWait.ofRequest, hrequest]
  rfl

/-- The conditions on the head of the reorder buffer find the cause. -/
lemma OtherCause.ofProbe_eq_ofHead (hhead : p.head = some head)
    (hwaits : head.isStore = true ∨ head.complete = false) (hrefill : refill? p = none)
    (hwriteback : writeback? p = none) : ofProbe p = ofHead p head := by
  simp only [ofProbe, rules, List.findSome?_cons, hrefill, hwriteback, headStore?, headIncomplete?,
    hhead]
  obtain ⟨unit, complete, isStore⟩ := head
  cases isStore with
  | true => rfl
  | false =>
    obtain rfl : complete = false := hwaits.resolve_left Bool.false_ne_true
    rfl

/-! ## Lines -/

lemma HeadUnit.ofNumber_eq_loadStore_iff {n : Nat} : ofNumber n = loadStore ↔ n = 3 := by
  unfold ofNumber
  split <;> simp_all

lemma LoadState.ofNumber_eq_request_iff {n : Nat} : ofNumber n = request ↔ n = 1 := by
  unfold ofNumber
  split <;> simp_all

/-- The line shows a load at the head that is to send its request, and neither half of the
handshake is there. -/
def Facts.AwaitsOwner (f : Facts) : Prop :=
  (∃ s ∈ f.slots? "rob_head(fu/comp/is_store/pc)", s.get 0 = 3 ∧ s.get 2 = 0) ∧
    f.num? "lsu_sm" = some 1 ∧ ∃ s ∈ f.slots? "lsu_ld(v/r/addr)", s.get 0 = 0 ∧ s.get 1 = 0

lemma Slots.bit_eq_false_iff {s : Slots} {i : Nat} : s.bit i = false ↔ s.get i = 0 := by
  simp [bit]

lemma Handshake.ofSlots_eq_idle_iff {s : Slots} :
    ofSlots s = ⟨false, false⟩ ↔ s.get 0 = 0 ∧ s.get 1 = 0 := by
  rw [ofSlots, Handshake.mk.injEq, Slots.bit_eq_false_iff, Slots.bit_eq_false_iff]

lemma Facts.awaitsOwner_iff {f : Facts} (hhead : (StallProbe.ofFacts f).head = some head) :
    (StallProbe.ofFacts f).AwaitsOwner head ↔ f.AwaitsOwner := by
  obtain ⟨s, hs, rfl⟩ := Option.map_eq_some_iff.mp hhead
  have hstate : (StallProbe.ofFacts f).loadState = some .request ↔ f.num? "lsu_sm" = some 1 := by
    simp [StallProbe.ofFacts, LoadState.ofNumber_eq_request_iff]
  have hrequest : (StallProbe.ofFacts f).loadRequest = some ⟨false, false⟩ ↔
      ∃ s ∈ f.slots? "lsu_ld(v/r/addr)", s.get 0 = 0 ∧ s.get 1 = 0 := by
    simp [StallProbe.ofFacts, StallProbe.group?, Handshake.ofSlots_eq_idle_iff]
  have hfirst : (∃ s ∈ f.slots? "rob_head(fu/comp/is_store/pc)", s.get 0 = 3 ∧ s.get 2 = 0) ↔
      s.get 0 = 3 ∧ s.get 2 = 0 := by
    simp [hs]
  rw [StallProbe.AwaitsOwner, Facts.AwaitsOwner, hstate, hrequest, hfirst,
    HeadUnit.ofNumber_eq_loadStore_iff, Slots.bit_eq_false_iff]
  exact and_left_comm.trans and_assoc.symm

/-! ## The result -/

namespace StallProbe

/-- The two trees have the same to say about the head. -/
structure MirrorsHead (p : StallProbe) (head : HeadProbe) : Prop where
  /-- Without backpressure the cause is counted, unless the reorder buffer is empty or a load
  result is being written back. -/
  counted : OtherCause.refill? p = none → OtherCause.writeback? p = none →
    OtherCause.ofProbe p = OtherCause.ofHead p head
  mirrored : ¬ p.AwaitsOwner head →
    mirror? (RobBackpressureCause.ofProbe p).label = some (OtherCause.ofHead p head).label
  awaitsOwner : p.AwaitsOwner head →
    (OtherCause.ofHead p head).label = "rob_head_lsu_incomplete_wait_owner_or_alloc_nonbp"
  /-- The exception in the numbers of a line. -/
  numbers : ∀ f, p = .ofFacts f → (p.AwaitsOwner head ↔ f.AwaitsOwner)

/-- **Without backpressure the head has the labels of backpressure under other names.**  If the
head of the reorder buffer is a store or is not complete, the label that the category `other` has
for it is the mirror of the one that `robBackpressure` has.  The exception is a load that is to send
its request, with neither half of the handshake there: it always awaits its owner or an
allocation. -/
theorem mirrorsHead_of_waits (hhead : p.head = some head)
    (hwaits : head.isStore = true ∨ head.complete = false) : p.MirrorsHead head where
  counted := OtherCause.ofProbe_eq_ofHead hhead hwaits
  mirrored h := mirror?_label (RobBackpressureCause.counterpart?_ofProbe hhead hwaits h)
  awaitsOwner h := by
    rw [OtherCause.ofHead_of_awaitsOwner h]
    rfl
  numbers f hf := by
    subst hf
    exact Facts.awaitsOwner_iff hhead

/-- A load at the head whose request the data cache does not take. -/
def blockedLoad : StallProbe := .ofFacts <| .read
  " rob_head(fu/comp/is_store/pc)=3/0/0/0x10 lsu_sm=1 lsu_ld(v/r/addr)=1/0 dc_miss(v/r)=1/0".toList

/-- A load at the head that waits for a grant. -/
def idleLoad : StallProbe := .ofFacts <| .read
  (" rob_head(fu/comp/is_store/pc)=0x3/0/0 lsu_sm=1 lsu_ld(v/r/addr)=0/0".toList ++
    " lsug(busy/alloc_fire/alloc_lane/ld_owner)=1/0".toList)

/-- The reason why the first request is not taken is lost, and the second load is the exception. -/
theorem mirrorsHead_blockedLoad :
    ((RobBackpressureCause.ofProbe blockedLoad).label = "rob_lsu_wait_ld_req_ready_miss_port_busy" ∧
      mirror? "rob_lsu_wait_ld_req_ready_miss_port_busy" =
        some (OtherCause.ofHead blockedLoad ⟨.loadStore, false, false⟩).label) ∧
    (RobBackpressureCause.ofProbe idleLoad).label = "rob_lsu_wait_ld_arb_no_grant" ∧
      (OtherCause.ofHead idleLoad ⟨.loadStore, false, false⟩).label =
        "rob_head_lsu_incomplete_wait_owner_or_alloc_nonbp" := by
  have hblocked : blockedLoad.head = some ⟨.loadStore, false, false⟩ ∧
      ¬ blockedLoad.AwaitsOwner ⟨.loadStore, false, false⟩ ∧
      (RobBackpressureCause.ofProbe blockedLoad).label =
        "rob_lsu_wait_ld_req_ready_miss_port_busy" := by
    decide +kernel
  have hidle : idleLoad.head = some ⟨.loadStore, false, false⟩ ∧
      idleLoad.AwaitsOwner ⟨.loadStore, false, false⟩ ∧
      (RobBackpressureCause.ofProbe idleLoad).label = "rob_lsu_wait_ld_arb_no_grant" := by
    decide +kernel
  have hmirrored := (mirrorsHead_of_waits hblocked.1 (.inr rfl)).mirrored hblocked.2.1
  rw [hblocked.2.2] at hmirrored
  exact ⟨⟨hblocked.2.2, hmirrored⟩, hidle.2.2,
    (mirrorsHead_of_waits hidle.1 (.inr rfl)).awaitsOwner hidle.2.1⟩

end StallProbe

end PipelineProfile
