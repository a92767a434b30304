import PipelineProfile.Commit.ControlFlow
import PipelineProfile.Number.Register

/-!
# Branch prediction

The counters of the branch predictor, as a predictor line reports them, and the rates that
follow from them. Conditional branches are predicted by several providers, of which each update
selects one. So the counts of the providers together cannot exceed the updates, and no provider
can have been right instead of the selected one more often than any was; `violations` lists what
contradicts this.

Without a predictor line the totals can be rebuilt from the retired instructions and the misses
from the flushes that corrected mispredictions.
-/

namespace PipelineProfile

/-! ## Counters -/

/-- The predictions for one kind of control transfer. -/
structure PredictionCounts where
  total : Nat
  miss : Nat
  hit : Nat
  deriving DecidableEq, Repr

namespace PredictionCounts

/-- The counters whose names begin with `stem`. Hits that are not given are what is left of the
total. -/
def ofFacts (f : Facts) (stem : String) : PredictionCounts :=
  let total := f.numD (stem ++ "_total") 0
  let miss := f.numD (stem ++ "_miss") 0
  { total, miss, hit := (f.num? (stem ++ "_hit")).getD (total - miss) }

/-- Counters with what is left of the total as hits. -/
def rebuilt (total miss : Nat) : PredictionCounts := ⟨total, miss, total - miss⟩

/-- The share of misses. -/
def missRate (c : PredictionCounts) : Float := Binary64.ratio c.miss c.total

end PredictionCounts

/-- The choice between the local and the global prediction of a conditional branch. -/
structure ChooserCounts where
  updates : Nat
  localCorrect : Nat
  globalCorrect : Nat
  selectedCorrect : Nat
  choseLocal : Nat
  choseGlobal : Nat
  deriving DecidableEq, Repr

namespace ChooserCounts

/-- The share of updates for which the local prediction was correct. -/
def localAccuracy (c : ChooserCounts) : Float := Binary64.ratio c.localCorrect c.updates

/-- The share of updates for which the global prediction was correct. -/
def globalAccuracy (c : ChooserCounts) : Float := Binary64.ratio c.globalCorrect c.updates

/-- The share of updates for which the prediction that was made was correct. -/
def selectedAccuracy (c : ChooserCounts) : Float := Binary64.ratio c.selectedCorrect c.updates

/-- The share of choices for the global prediction. -/
def globalRatio (c : ChooserCounts) : Float :=
  Binary64.ratio c.choseGlobal (Register.add c.choseLocal c.choseGlobal)

end ChooserCounts

/-- The tagged predictor. -/
structure TageCounts where
  lookups : Nat
  hits : Nat
  overrides : Nat
  overridesCorrect : Nat
  deriving DecidableEq, Repr

namespace TageCounts

/-- The share of lookups that hit. -/
def hitRate (c : TageCounts) : Float := Binary64.ratio c.hits c.lookups

/-- The share of lookups that override the prediction. -/
def overrideRatio (c : TageCounts) : Float := Binary64.ratio c.overrides c.lookups

/-- The share of overrides that were correct. -/
def overrideAccuracy (c : TageCounts) : Float := Binary64.ratio c.overridesCorrect c.overrides

end TageCounts

/-- The statistical corrector. -/
structure CorrectorCounts where
  lookups : Nat
  confident : Nat
  overrides : Nat
  overridesCorrect : Nat
  deriving DecidableEq, Repr

namespace CorrectorCounts

/-- The share of lookups with confidence in the result. -/
def confidentRatio (c : CorrectorCounts) : Float := Binary64.ratio c.confident c.lookups

/-- The share of lookups that override the prediction. -/
def overrideRatio (c : CorrectorCounts) : Float := Binary64.ratio c.overrides c.lookups

/-- The share of overrides that were correct. -/
def overrideAccuracy (c : CorrectorCounts) : Float := Binary64.ratio c.overridesCorrect c.overrides

end CorrectorCounts

/-- The loop predictor. -/
structure LoopCounts where
  lookups : Nat
  hits : Nat
  confident : Nat
  overrides : Nat
  overridesCorrect : Nat
  deriving DecidableEq, Repr

namespace LoopCounts

/-- The share of lookups that hit. -/
def hitRate (c : LoopCounts) : Float := Binary64.ratio c.hits c.lookups

/-- The share of lookups with confidence in the result. -/
def confidentRatio (c : LoopCounts) : Float := Binary64.ratio c.confident c.lookups

/-- The share of lookups that override the prediction. -/
def overrideRatio (c : LoopCounts) : Float := Binary64.ratio c.overrides c.lookups

/-- The share of overrides that were correct. -/
def overrideAccuracy (c : LoopCounts) : Float := Binary64.ratio c.overridesCorrect c.overrides

end LoopCounts

/-- The providers of a prediction for a conditional branch. -/
inductive Provider where
  | legacy
  | tage
  | corrector
  | loop
  deriving DecidableEq, Repr

namespace Provider

/-- Every provider. -/
def all : List Provider := [legacy, tage, corrector, loop]

/-- The name of a provider in counters and messages. -/
def label : Provider → String
  | legacy => "legacy"
  | tage => "tage"
  | corrector => "sc"
  | loop => "loop"

end Provider

/-- One provider: how often it was selected, was selected and correct, and was correct when the
selected one was wrong. -/
structure ProviderCounts where
  selected : Nat
  correct : Nat
  correctInstead : Nat
  deriving DecidableEq, Repr

/-- The counters of the branch predictor. -/
structure PredictCounters where
  cond : PredictionCounts
  jump : PredictionCounts
  jumpDirect : PredictionCounts
  jumpIndirect : PredictionCounts
  ret : PredictionCounts
  calls : Nat
  chooser : ChooserCounts
  tage : TageCounts
  corrector : CorrectorCounts
  loop : LoopCounts
  provider : Provider → ProviderCounts
  /-- How often any provider was correct when the selected one was wrong. -/
  anyCorrectInstead : Nat

/-- How many mispredictions flushes corrected, by kind. -/
structure MispredictCounts where
  cond : Nat
  jump : Nat
  jumpDirect : Nat
  jumpIndirect : Nat
  ret : Nat
  deriving DecidableEq, Repr

namespace PredictCounters

/-- The counters that the facts of a predictor line report. -/
def ofFacts (f : Facts) : PredictCounters :=
  let n (key : String) : Nat := f.numD key 0
  { cond := .ofFacts f "cond"
    jump := .ofFacts f "jump"
    jumpDirect := .ofFacts f "jump_direct"
    jumpIndirect := .ofFacts f "jump_indirect"
    ret := .ofFacts f "ret"
    calls := n "call_total"
    chooser :=
      { updates := n "cond_update_total"
        localCorrect := n "cond_local_correct"
        globalCorrect := n "cond_global_correct"
        selectedCorrect := n "cond_selected_correct"
        choseLocal := n "cond_choose_local"
        choseGlobal := n "cond_choose_global" }
    tage :=
      { lookups := n "tage_lookup_total"
        hits := n "tage_hit_total"
        overrides := n "tage_override_total"
        overridesCorrect := n "tage_override_correct" }
    corrector :=
      { lookups := n "sc_lookup_total"
        confident := n "sc_confident_total"
        overrides := n "sc_override_total"
        overridesCorrect := n "sc_override_correct" }
    loop :=
      { lookups := n "loop_lookup_total"
        hits := n "loop_hit_total"
        confident := n "loop_confident_total"
        overrides := n "loop_override_total"
        overridesCorrect := n "loop_override_correct" }
    provider := fun p =>
      { selected := n ("cond_provider_" ++ p.label ++ "_selected")
        correct := n ("cond_provider_" ++ p.label ++ "_correct")
        correctInstead := n ("cond_selected_wrong_alt_" ++ p.label ++ "_correct") }
    anyCorrectInstead := n "cond_selected_wrong_alt_any_correct" }

/-- The counters as far as retired instructions and corrected mispredictions tell them. -/
def rebuilt (mix : TransferMix) (misses : MispredictCounts) : PredictCounters where
  cond := .rebuilt mix.cond misses.cond
  jump := .rebuilt mix.jump misses.jump
  jumpDirect := .rebuilt mix.jumpDirect misses.jumpDirect
  jumpIndirect := .rebuilt mix.jumpIndirect misses.jumpIndirect
  ret := .rebuilt mix.ret misses.ret
  calls := mix.call
  chooser := ⟨0, 0, 0, 0, 0, 0⟩
  tage := ⟨0, 0, 0, 0⟩
  corrector := ⟨0, 0, 0, 0⟩
  loop := ⟨0, 0, 0, 0, 0⟩
  provider := fun _ => ⟨0, 0, 0⟩
  anyCorrectInstead := 0

/-- No predictions. -/
def zero : PredictCounters := rebuilt ⟨0, 0, 0, 0, 0, 0⟩ ⟨0, 0, 0, 0, 0⟩

/-! ## Figures that follow -/

/-- How often some provider was selected. -/
def selected (c : PredictCounters) : Nat :=
  Register.sum (Provider.all.map fun p => (c.provider p).selected)

/-- How often the selected provider was wrong. -/
def selectedWrong (c : PredictCounters) : Nat := c.chooser.updates - c.chooser.selectedCorrect

/-- How often a provider was correct when it was selected, as a share. -/
def accuracy (c : PredictCounters) (p : Provider) : Float :=
  Binary64.ratio (c.provider p).correct (c.provider p).selected

/-- How often a provider was selected, as a share of all selections. -/
def share (c : PredictCounters) (p : Provider) : Float :=
  Binary64.ratio (c.provider p).selected c.selected

/-- How often some provider was selected, as a share of all updates. -/
def coverage (c : PredictCounters) : Float := Binary64.ratio c.selected c.chooser.updates

/-- How often some provider was correct when the selected one was wrong, as a share. -/
def correctInsteadRatio (c : PredictCounters) : Float :=
  Binary64.ratio c.anyCorrectInstead c.selectedWrong

end PredictCounters

/-! ## Contradictions -/

/-- A contradiction among the counters of the providers. -/
inductive ProviderViolation where
  /-- The providers were selected more often than there were updates. -/
  | overlap (selected updates : Nat)
  /-- One provider was correct instead more often than any was. -/
  | exceedsAny (provider : Provider) (count any : Nat)
  deriving DecidableEq, Repr

/-- The text of a contradiction. -/
def ProviderViolation.message : ProviderViolation → String
  | overlap selected updates =>
    "predictor providers overlap: selected total " ++ Numeral.decimal selected ++
      " exceeds cond_update_total " ++ Numeral.decimal updates
  | exceedsAny provider count any =>
    "predictor wrong-alt accounting inconsistent: " ++ provider.label ++ " alt-correct " ++
      Numeral.decimal count ++ " exceeds any " ++ Numeral.decimal any

/-- The contradictions among the counters of the providers. -/
def PredictCounters.violations (c : PredictCounters) : List ProviderViolation :=
  let any := c.anyCorrectInstead
  (if c.chooser.updates < c.selected then [.overlap c.selected c.chooser.updates] else []) ++
    (Provider.all.filter fun p => any < (c.provider p).correctInstead).map fun p =>
      .exceedsAny p (c.provider p).correctInstead any

end PipelineProfile
