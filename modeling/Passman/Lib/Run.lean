import Mathlib.Algebra.Ring.Nat
import Mathlib.Tactic.Common

/-!
# Runs of a step function

A run applies a step function to a list of events. A condition may be required of
every step at the state it is taken in. Invariants are carried along runs once one
step keeps them, and a step that simulates an abstract step makes every run
simulate the abstract run.
-/
namespace Transition

variable {σ ε τ : Type}

/-- The state after all events, in order. -/
def run (step : σ → ε → σ) (state : σ) (events : List ε) : σ := events.foldl step state

/-- Every event is taken in a state that allows it. -/
def Along (step : σ → ε → σ) (allowed : σ → ε → Prop) : σ → List ε → Prop
  | _, [] => True
  | state, event :: rest => allowed state event ∧ Along step allowed (step state event) rest

/-- A condition that can be decided for each step can be decided for a run. -/
instance Along.decidable {step : σ → ε → σ} {allowed : σ → ε → Prop}
    [decideStep : ∀ state event, Decidable (allowed state event)] :
    ∀ state events, Decidable (Along step allowed state events)
  | _, [] => .isTrue trivial
  | state, event :: rest =>
    have : Decidable (Along step allowed (step state event) rest) := Along.decidable _ rest
    inferInstanceAs (Decidable (allowed state event ∧ Along step allowed (step state event) rest))

section Runs

variable {step : σ → ε → σ} {allowed : σ → ε → Prop}

/-- The empty run stays. -/
@[simp] theorem run_nil (state : σ) : run step state [] = state := rfl

/-- A run takes its first event first. -/
@[simp] theorem run_cons (state : σ) (event : ε) (rest : List ε) :
    run step state (event :: rest) = run step (step state event) rest := rfl

/-- Runs compose. -/
theorem run_append (state : σ) (early late : List ε) :
    run step state (early ++ late) = run step (run step state early) late := by
  rw [run, List.foldl_append]
  rfl

/-- A condition on a composed run splits. -/
theorem along_append {state : σ} {early late : List ε} :
    Along step allowed state (early ++ late) ↔
      Along step allowed state early ∧ Along step allowed (run step state early) late := by
  induction early generalizing state with
  | nil => simp [Along]
  | cons event rest ih => simp only [List.cons_append, Along, ih, run_cons, and_assoc]

/-- A weaker condition holds along the same run. -/
theorem Along.mono {weaker : σ → ε → Prop} (weaken : ∀ s e, allowed s e → weaker s e) {state : σ}
    {events : List ε} (along : Along step allowed state events) :
    Along step weaker state events := by
  induction events generalizing state with
  | nil => trivial
  | cons event rest ih => exact ⟨weaken _ _ along.1, ih along.2⟩

/-- A condition on the events themselves joins a condition on the steps. -/
theorem Along.and_forall {chosen : ε → Prop} {state : σ} {events : List ε}
    (along : Along step allowed state events) (each : ∀ event ∈ events, chosen event) :
    Along step (fun s e => allowed s e ∧ chosen e) state events := by
  induction events generalizing state with
  | nil => trivial
  | cons event rest ih =>
    rw [List.forall_mem_cons] at each
    exact ⟨⟨along.1, each.1⟩, ih along.2 each.2⟩

/-- What every allowed step keeps, every run of allowed steps keeps. -/
theorem run_invariant {invariant : σ → Prop}
    (kept : ∀ s e, invariant s → allowed s e → invariant (step s e)) {state : σ} {events : List ε}
    (start : invariant state) (along : Along step allowed state events) :
    invariant (run step state events) := by
  induction events generalizing state with
  | nil => exact start
  | cons event rest ih => exact ih (kept _ _ start along.1) along.2

/-- What every step keeps, every run keeps. -/
theorem run_keeps {invariant : σ → Prop} (kept : ∀ s e, invariant s → invariant (step s e))
    {state : σ} (start : invariant state) (events : List ε) :
    invariant (run step state events) := by
  induction events generalizing state with
  | nil => exact start
  | cons event rest ih => exact ih (kept _ _ start)

/-- A step that simulates an abstract step under an invariant simulates it along runs. -/
theorem run_simulates {invariant : σ → Prop} {view : σ → τ} {abstract : τ → ε → τ}
    (kept : ∀ s e, invariant s → allowed s e → invariant (step s e))
    (simulated : ∀ s e, invariant s → allowed s e → view (step s e) = abstract (view s) e)
    {state : σ} {events : List ε} (start : invariant state)
    (along : Along step allowed state events) :
    view (run step state events) = run abstract (view state) events := by
  induction events generalizing state with
  | nil => rfl
  | cons event rest ih =>
    rw [run_cons, run_cons, ← simulated _ _ start along.1]
    exact ih (kept _ _ start along.1) along.2

/-- Abstract steps, each taken for an event in the state it occurs in, follow a run from one
abstract state to another. -/
inductive Follows (step : σ → ε → σ) (takes : σ → ε → τ → τ → Prop) :
    σ → List ε → τ → τ → Prop
  /-- The empty run is followed by no step. -/
  | nil {state : σ} {held : τ} : Follows step takes state [] held held
  /-- The first event is followed by a step, and the rest of the run from where it led. -/
  | cons {state : σ} {event : ε} {rest : List ε} {held next ending : τ}
    (first : takes state event held next)
    (later : Follows step takes (step state event) rest next ending) :
    Follows step takes state (event :: rest) held ending

/-- Where every allowed step can be followed from an abstract state it shows to one its result
shows, every run of allowed steps can be followed. -/
theorem run_refines {shown : σ → τ → Prop} {takes : σ → ε → τ → τ → Prop}
    (followed : ∀ s e held, shown s held → allowed s e →
      ∃ next, takes s e held next ∧ shown (step s e) next) {state : σ} {events : List ε} {held : τ}
    (start : shown state held) (along : Along step allowed state events) :
    ∃ ending, Follows step takes state events held ending ∧
      shown (run step state events) ending := by
  induction events generalizing state held with
  | nil => exact ⟨held, .nil, start⟩
  | cons event rest ih =>
    obtain ⟨next, first, shows⟩ := followed state event held start along.1
    obtain ⟨ending, later, ended⟩ := ih shows along.2
    exact ⟨ending, .cons first later, ended⟩

end Runs

end Transition
