import Mathlib.Data.List.Basic
import PipelineProfile.Stall.DecodeBlocked

/-!
# What the causes of a blocked decode rest on

A group of signals that a line does not carry is no evidence for a cause.  This module says how far
that goes for the causes of a blocked decode.  Each of them is decided on certain groups (`groups`),
and the line carries all of these, but for one kind: whether a load that waits to send its request,
or for its response, has done so by now.  There a flag that is absent reads as one that is not set,
so the state of the load is enough for the cause (`supported_ofProbe`).

The rules are asked in an order and the first that gives a cause decides, so what holds of the cause
that any single rule gives holds of the result (`supported_of_rule`).
-/

namespace PipelineProfile.DecodeBlockedCause

/-! ## Groups -/

/-- The keys of the groups that a cause is decided on. -/
def groups : DecodeBlockedCause → List String
  | pendingReplay _ _ => ["ren(pend/src/sel/fire/rdy)"]
  | loadGroup _ => ["lsug(busy/alloc_fire/alloc_lane/ld_owner)"]
  | storeSameLine | storeMshrFull => ["dc_store_wait(same/full)"]
  | storeBufferFull => ["sb_alloc(req/ready/fire)"]
  | lsuOperand => ["lsu_rs_head(v/idx/dst)", "lsu_rs_head(rs1r/rs2r/has1/has2)"]
  | lsuQueueBusy => ["lsu_rs(b/r)"]
  | secondOperand => ["rob_q2(v/idx/fu/comp/st/pc)", "lsu_rs_head(rs1r/rs2r/has1/has2)"]
  | dispatchGate _ => ["gate(alu/bru/lsu/mdu/csr)"]
  | loadRequest => ["lsu_sm", "lsu_ld_fire"]
  | loadResponse => ["lsu_sm", "lsu_rsp_fire"]
  | other => []

/-- The key of the flag that a load has gone on, for the causes that are decided on one. -/
def fireKey? : DecodeBlockedCause → Option String
  | loadRequest => some "lsu_ld_fire"
  | loadResponse => some "lsu_rsp_fire"
  | _ => none

/-- The line carries the groups that the cause is decided on, except perhaps for the flag that the
load has gone on, and that flag is not set. -/
structure Supported (f : Facts) (c : DecodeBlockedCause) : Prop where
  carried : ∀ key ∈ c.groups, c.fireKey? ≠ some key → f.contains key = true
  notFired : ∀ key ∈ c.fireKey?, f.flag? key ≠ some true

variable {f : Facts} {c : DecodeBlockedCause} {key : String}

lemma Supported.of_groups (hfire : c.fireKey? = none)
    (hgroups : ∀ key ∈ c.groups, f.contains key = true) : c.Supported f where
  carried key hkey _ := hgroups key hkey
  notFired key hkey := by
    rw [hfire] at hkey
    cases hkey

lemma Supported.of_single (hfire : c.fireKey? = none) (hgroups : c.groups = [key])
    (hkey : f.contains key = true) : c.Supported f := by
  refine .of_groups hfire ?_
  rw [hgroups, List.forall_mem_singleton]
  exact hkey

lemma Supported.of_pair {key' : String} (hfire : c.fireKey? = none)
    (hgroups : c.groups = [key, key']) (hkey : f.contains key = true)
    (hkey' : f.contains key' = true) : c.Supported f := by
  refine .of_groups hfire ?_
  rw [hgroups, List.forall_mem_cons, List.forall_mem_singleton]
  exact ⟨hkey, hkey'⟩

/-- All that a cause with a flag needs besides the flag is the state of the load. -/
lemma Supported.of_waiting {fire : String} (hfire : c.fireKey? = some fire)
    (hgroups : c.groups = ["lsu_sm", fire]) (hstate : f.contains "lsu_sm" = true)
    (hflag : (f.flag? fire).getD false = false) : c.Supported f where
  carried key hkey hne := by
    rw [hgroups, List.mem_pair] at hkey
    obtain rfl | rfl := hkey
    · exact hstate
    · exact absurd hfire hne
  notFired key hkey := by
    obtain rfl : fire = key := Option.some.inj (hfire.symm.trans hkey)
    intro hset
    rw [hset] at hflag
    cases hflag

/-! ## What a rule finds on the line -/

lemma contains_of_get? {value : String} (h : f.get? key = some value) : f.contains key = true := by
  obtain ⟨x, hx, -⟩ := Option.map_eq_some_iff.mp h
  rw [Facts.contains, hx, Option.isSome_some]

lemma contains_of_num? {n : Nat} (h : f.num? key = some n) : f.contains key = true := by
  obtain ⟨value, hvalue, -⟩ := Option.map_eq_some_iff.mp h
  exact contains_of_get? hvalue

section Groups

variable {α : Type} {decode : Slots → α}

lemma contains_of_group? {a : α} (h : StallProbe.group? f key decode = some a) :
    f.contains key = true := by
  obtain ⟨s, hs, -⟩ := Option.map_eq_some_iff.mp h
  obtain ⟨value, hvalue, -⟩ := Option.map_eq_some_iff.mp hs
  exact contains_of_get? hvalue

lemma contains_of_any {p : α → Bool} (h : (StallProbe.group? f key decode).any p = true) :
    f.contains key = true := by
  obtain ⟨a, ha, -⟩ := (Option.any_eq_true ..).mp h
  exact contains_of_group? ha

/-- A rule that looks at one group. -/
lemma supported_of_bind {rule : α → Option DecodeBlockedCause}
    (hrule : ∀ a, ∀ c ∈ rule a, c.fireKey? = none ∧ c.groups = [key])
    (h : (StallProbe.group? f key decode).bind rule = some c) : c.Supported f := by
  obtain ⟨a, ha, hc⟩ := Option.bind_eq_some_iff.mp h
  obtain ⟨hfire, hgroups⟩ := hrule a c hc
  exact .of_single hfire hgroups (contains_of_group? ha)

end Groups

/-! ## The rules -/

variable {lanes : Nat}

lemma supported_of_pendingReplay (h : pendingReplay? lanes (.ofFacts f) = some c) :
    c.Supported f := by
  refine supported_of_bind (fun r c hc => ?_) h
  obtain ⟨-, ⟨⟩⟩ := Option.ite_none_right_eq_some.mp hc
  exact ⟨rfl, rfl⟩

lemma supported_of_loadGroup (h : loadGroup? (.ofFacts f) = some c) : c.Supported f := by
  refine supported_of_bind (fun g c hc => ?_) h
  obtain ⟨-, ⟨⟩⟩ := Option.ite_none_right_eq_some.mp hc
  exact ⟨rfl, rfl⟩

lemma supported_of_storeHold (h : storeHold? (.ofFacts f) = some c) : c.Supported f := by
  refine supported_of_bind (fun w c hc => ?_) h
  split at hc
  case isTrue =>
    obtain rfl := Option.some.inj hc
    exact ⟨rfl, rfl⟩
  case isFalse =>
    obtain ⟨-, ⟨⟩⟩ := Option.ite_none_right_eq_some.mp hc
    exact ⟨rfl, rfl⟩

lemma supported_of_storeBuffer (h : storeBuffer? (.ofFacts f) = some c) : c.Supported f := by
  obtain ⟨hblocked, ⟨⟩⟩ := Option.ite_none_right_eq_some.mp h
  exact .of_single rfl rfl (contains_of_any hblocked)

lemma supported_of_operand (h : operand? (.ofFacts f) = some c) : c.Supported f := by
  obtain ⟨valid, hvalid, h⟩ := Option.bind_eq_some_iff.mp h
  obtain ⟨o, ho, h⟩ := Option.bind_eq_some_iff.mp h
  obtain ⟨-, ⟨⟩⟩ := Option.ite_none_right_eq_some.mp h
  exact .of_pair rfl rfl (contains_of_group? hvalid) (contains_of_group? ho)

lemma supported_of_queue (h : queue? (.ofFacts f) = some c) : c.Supported f := by
  obtain ⟨hblocked, ⟨⟩⟩ := Option.ite_none_right_eq_some.mp h
  exact .of_single rfl rfl (contains_of_any hblocked)

lemma supported_of_secondOperand (h : secondOperand? (.ofFacts f) = some c) :
    c.Supported f := by
  obtain ⟨o, ho, h⟩ := Option.bind_eq_some_iff.mp h
  obtain ⟨hwaits, ⟨⟩⟩ := Option.ite_none_right_eq_some.mp h
  simp only [Bool.and_eq_true, and_assoc] at hwaits
  have hsecond : (StallProbe.ofFacts f).secondIncomplete = true := hwaits.1
  exact .of_pair rfl rfl (contains_of_any hsecond) (contains_of_group? ho)

/-- Which gate is blamed depends on the units that instructions wait for, if the line says so, but
a gate is closed only where the line says which are open. -/
lemma supported_of_gate (h : gate? (.ofFacts f) = some c) : c.Supported f := by
  refine supported_of_bind (fun g c hc => ?_) h
  obtain ⟨u, -, rfl⟩ := Option.map_eq_some_iff.mp hc
  exact ⟨rfl, rfl⟩

lemma contains_of_loadState {state : LoadState}
    (h : (StallProbe.ofFacts f).loadState = some state) : f.contains "lsu_sm" = true := by
  obtain ⟨n, hn, -⟩ := Option.map_eq_some_iff.mp h
  exact contains_of_num? hn

/-- The rule that takes a flag which is absent for one that is not set. -/
lemma supported_of_load (h : load? (.ofFacts f) = some c) : c.Supported f := by
  rw [load?] at h
  split at h
  case h_1 hstate =>
    obtain ⟨hfires, ⟨⟩⟩ := Option.ite_none_left_eq_some.mp h
    exact .of_waiting rfl rfl (contains_of_loadState hstate) (Bool.eq_false_iff.mpr hfires)
  case h_2 hstate =>
    obtain ⟨hfires, ⟨⟩⟩ := Option.ite_none_left_eq_some.mp h
    exact .of_waiting rfl rfl (contains_of_loadState hstate) (Bool.eq_false_iff.mpr hfires)
  case h_3 => cases h

lemma supported_of_rule {rule : StallProbe → Option DecodeBlockedCause} (hrule : rule ∈ rules lanes)
    (h : rule (.ofFacts f) = some c) : c.Supported f := by
  simp only [rules, List.mem_cons, List.not_mem_nil, or_false] at hrule
  obtain rfl | rfl | rfl | rfl | rfl | rfl | rfl | rfl | rfl := hrule
  · exact supported_of_pendingReplay h
  · exact supported_of_loadGroup h
  · exact supported_of_storeHold h
  · exact supported_of_storeBuffer h
  · exact supported_of_operand h
  · exact supported_of_queue h
  · exact supported_of_secondOperand h
  · exact supported_of_gate h
  · exact supported_of_load h

/-! ## The result -/

lemma fireKey_mem_groups (h : c.fireKey? = some key) : key ∈ c.groups := by
  unfold fireKey? at h
  split at h
  case h_1 =>
    obtain rfl := Option.some.inj h
    decide
  case h_2 =>
    obtain rfl := Option.some.inj h
    decide
  case h_3 => cases h

lemma supported_cause (lanes : Nat) (f : Facts) : (ofProbe lanes (.ofFacts f)).Supported f := by
  rw [ofProbe]
  cases hfound : (rules lanes).findSome? fun rule => rule (.ofFacts f) with
  | none => exact .of_groups rfl (List.forall_mem_nil _)
  | some c =>
    obtain ⟨rule, hrule, h⟩ := List.exists_of_findSome?_eq_some hfound
    exact supported_of_rule hrule h

/-- A line carries every group that the cause of a blocked decode is decided on if and only if it
carries the flag that the load has gone on, where the cause is decided on one.  It need not carry
the flag, but if it does the flag is not set. -/
theorem supported_ofProbe (lanes : Nat) (f : Facts) :
    (ofProbe lanes (.ofFacts f)).Supported f ∧
      ((∀ key ∈ (ofProbe lanes (.ofFacts f)).groups, f.contains key = true) ↔
        ∀ key ∈ (ofProbe lanes (.ofFacts f)).fireKey?, f.contains key = true) := by
  have hsupported := supported_cause lanes f
  refine ⟨hsupported, fun hall key hkey => hall key (fireKey_mem_groups hkey),
    fun hfire key hkey => ?_⟩
  by_cases hflag : (ofProbe lanes (.ofFacts f)).fireKey? = some key
  · exact hfire key hflag
  · exact hsupported.carried key hkey hflag

/-- A line about a load in the state of sending its request, without the flag that says whether the
request is sent. -/
def flaglessRegion : List Char := " dec(v/r)=1/0 lsu_sm=1".toList

/-- The load on the line waits to send its request, which no group on the line says. -/
theorem not_carried_flaglessRegion :
    StallCategory.ofSignals (.ofFacts (.read flaglessRegion)) = .decodeBlocked ∧
      (ofProbe 4 (.ofFacts (.read flaglessRegion))).label = "lsu_wait_ld_req" ∧
      ¬ ∀ key ∈ (ofProbe 4 (.ofFacts (.read flaglessRegion))).groups,
        (Facts.read flaglessRegion).contains key = true := by
  decide +kernel

end PipelineProfile.DecodeBlockedCause
