import Mathlib.Algebra.Ring.Nat
import Mathlib.Tactic.Common

/-!
# Computations that keep their state when they fail

An operation reads and writes a state and either returns a value or stops with an
error; what it wrote before stopping stays written. Sequencing has one rule for
each way a run can go, and a relation that holds across every primitive step and
composes holds across every run built from them.
-/
namespace Fallible

variable {σ ε η α β : Type}

/-- An operation on a state that may stop with an error. -/
def Op (σ ε α : Type) := σ → Except ε α × σ

namespace Op

/-- Run the rest on success; stop with the error and the state reached otherwise. -/
def andThen (first : Op σ ε α) (next : α → Op σ ε β) : Op σ ε β := fun state =>
  match first state with
  | (.ok value, reached) => next value reached
  | (.error error, reached) => (.error error, reached)

instance : Monad (Op σ ε) where
  pure value state := (.ok value, state)
  bind := andThen

/-- Stop with an error. -/
def fail (error : ε) : Op σ ε α := fun state => (.error error, state)

/-- Read the state. -/
def get : Op σ ε σ := fun state => (.ok state, state)

/-- Change the state. -/
def modify (change : σ → σ) : Op σ ε Unit := fun state => (.ok (), change state)

/-- Return a result that needs no state. -/
def lift (result : Except ε α) : Op σ ε α := fun state => (result, state)

/-- Translate the error. -/
def mapError (translate : ε → η) (operation : Op σ ε α) : Op σ η α := fun state =>
  match operation state with
  | (.ok value, reached) => (.ok value, reached)
  | (.error error, reached) => (.error (translate error), reached)

/-- Return the outcome instead of stopping. -/
def attempt (operation : Op σ ε α) : Op σ η (Except ε α) := fun state =>
  let (outcome, reached) := operation state
  (.ok outcome, reached)

/-- Run an operation that never stops. -/
def total (operation : σ → α × σ) : Op σ ε α := fun state =>
  let (value, reached) := operation state
  (.ok value, reached)

/-- Act on the first part of a paired state. -/
def onFirst {τ : Type} (operation : Op σ ε α) : Op (σ × τ) ε α := fun (state, other) =>
  let (outcome, reached) := operation state
  (outcome, (reached, other))

/-- Act on the second part of a paired state. -/
def onSecond {τ : Type} (operation : Op τ ε α) : Op (σ × τ) ε α := fun (other, state) =>
  let (outcome, reached) := operation state
  (outcome, (other, reached))

/-- Append an entry for the outcome of an operation to a log. -/
def logged {ι : Type} (entry : Except ε α → ι) (operation : Op σ ε α) : Op (σ × List ι) ε α :=
  fun (state, log) =>
    let (outcome, reached) := operation state
    (outcome, (reached, log ++ [entry outcome]))

/-- A value is returned without touching the state. -/
@[simp] theorem pure_run (value : α) (state : σ) :
    (pure value : Op σ ε α) state = (.ok value, state) := rfl

/-- Stopping keeps the state. -/
@[simp] theorem fail_run (error : ε) (state : σ) :
    (fail error : Op σ ε α) state = (.error error, state) := rfl

/-- Reading returns the state. -/
@[simp] theorem get_run (state : σ) : (get : Op σ ε σ) state = (.ok state, state) := rfl

/-- A change takes effect and succeeds. -/
@[simp] theorem modify_run (change : σ → σ) (state : σ) :
    (modify change : Op σ ε Unit) state = (.ok (), change state) := rfl

/-- A lifted result keeps the state. -/
@[simp] theorem lift_run (result : Except ε α) (state : σ) : lift result state = (result, state) :=
  rfl

/-- A caught operation succeeds with its outcome. -/
@[simp] theorem attempt_run (operation : Op σ ε α) (state : σ) :
    (attempt operation : Op σ η (Except ε α)) state =
      (.ok (operation state).1, (operation state).2) := rfl

/-- A total operation succeeds with its value. -/
@[simp] theorem total_run (operation : σ → α × σ) (state : σ) :
    (total operation : Op σ ε α) state = (.ok (operation state).1, (operation state).2) := rfl

/-- Acting on the first part keeps the second. -/
@[simp] theorem onFirst_run {τ : Type} (operation : Op σ ε α) (state : σ) (other : τ) :
    onFirst operation (state, other) = ((operation state).1, (operation state).2, other) := rfl

/-- Acting on the second part keeps the first. -/
@[simp] theorem onSecond_run {τ : Type} (operation : Op τ ε α) (other : σ) (state : τ) :
    onSecond operation (other, state) = ((operation state).1, other, (operation state).2) := rfl

/-- Logging an operation appends its outcome and changes nothing else. -/
@[simp] theorem logged_run {ι : Type} (entry : Except ε α → ι) (operation : Op σ ε α) (state : σ)
    (log : List ι) : logged entry operation (state, log) =
      ((operation state).1, (operation state).2, log ++ [entry (operation state).1]) := rfl

/-- Sequencing after a success continues from the state reached. -/
theorem bind_ok {first : Op σ ε α} {next : α → Op σ ε β} {state reached : σ} {value : α}
    (ran : first state = (.ok value, reached)) : (first >>= next) state = next value reached := by
  change andThen first next state = _
  rw [andThen, ran]

/-- Sequencing after an error stops there. -/
theorem bind_error {first : Op σ ε α} {next : α → Op σ ε β} {state reached : σ} {error : ε}
    (ran : first state = (.error error, reached)) :
    (first >>= next) state = (.error error, reached) := by
  change andThen first next state = _
  rw [andThen, ran]

/-- Sequencing after a returned value. -/
@[simp] theorem pure_bind_run (value : α) (next : α → Op σ ε β) (state : σ) :
    ((pure value : Op σ ε α) >>= next) state = next value state := rfl

/-- Sequencing after an error stops. -/
@[simp] theorem fail_bind_run (error : ε) (next : α → Op σ ε β) (state : σ) :
    ((fail error : Op σ ε α) >>= next) state = (.error error, state) := rfl

/-- Sequencing after a read. -/
@[simp] theorem get_bind_run (next : σ → Op σ ε β) (state : σ) :
    ((get : Op σ ε σ) >>= next) state = next state state := rfl

/-- Sequencing after a change. -/
@[simp] theorem modify_bind_run (change : σ → σ) (next : Unit → Op σ ε β) (state : σ) :
    ((modify change : Op σ ε Unit) >>= next) state = next () (change state) := rfl

/-- Sequencing after a caught operation. -/
@[simp] theorem attempt_bind_run (operation : Op σ η α) (next : Except η α → Op σ ε β) (state : σ) :
    (attempt operation >>= next) state = next (operation state).1 (operation state).2 := rfl

/-- Sequencing after a total operation. -/
@[simp] theorem total_bind_run (operation : σ → α × σ) (next : α → Op σ ε β) (state : σ) :
    (total operation >>= next) state = next (operation state).1 (operation state).2 := rfl

/-- Sequencing after a lifted result. -/
theorem lift_bind_run (result : Except ε α) (next : α → Op σ ε β) (state : σ) :
    (lift result >>= next) state =
      match result with
      | .ok value => next value state
      | .error error => (.error error, state) := by
  cases result <;> rfl

/-- Every run of a sequence either passes through a success of the first part or is its error. -/
theorem bind_cases {first : Op σ ε α} {next : α → Op σ ε β} {state final : σ}
    {outcome : Except ε β} (ran : (first >>= next) state = (outcome, final)) :
    (∃ value reached, first state = (.ok value, reached) ∧ next value reached = (outcome, final)) ∨
      (∃ error, first state = (.error error, final) ∧ outcome = .error error) := by
  cases inner : first state with
  | mk result reached =>
    cases result with
    | ok value => exact .inl ⟨value, reached, rfl, by rwa [bind_ok inner] at ran⟩
    | error error =>
      rw [bind_error inner] at ran
      obtain ⟨rfl, rfl⟩ := Prod.mk.inj ran
      exact .inr ⟨error, rfl, rfl⟩

/-- A successful sequence passes through a success of the first part. -/
theorem bind_ok_cases {first : Op σ ε α} {next : α → Op σ ε β} {state final : σ} {result : β}
    (ran : (first >>= next) state = (.ok result, final)) :
    ∃ value reached, first state = (.ok value, reached) ∧
      next value reached = (.ok result, final) := by
  rcases bind_cases ran with passed | ⟨error, _, clash⟩
  · exact passed
  · cases clash

/-- A successful sequence after a lifted result continues from its value in the same state. -/
theorem lift_bind_ok {result : Except ε α} {next : α → Op σ ε β} {state final : σ} {value : β}
    (ran : (lift result >>= next) state = (.ok value, final)) :
    ∃ found, result = .ok found ∧ next found state = (.ok value, final) := by
  obtain ⟨found, reached, lifted, rest⟩ := bind_ok_cases ran
  obtain ⟨same, rfl⟩ := Prod.mk.inj lifted
  exact ⟨found, same, rest⟩

/-- A success under a translated error is a success. -/
theorem mapError_ok {translate : ε → η} {operation : Op σ ε α} {state final : σ} {value : α} :
    mapError translate operation state = (.ok value, final) ↔
      operation state = (.ok value, final) := by
  rw [mapError]
  cases operation state with
  | mk outcome reached => cases outcome <;> simp

/-- A translated error comes from an error. -/
theorem mapError_error {translate : ε → η} {operation : Op σ ε α} {state final : σ} {error : η} :
    mapError translate operation state = (.error error, final) ↔
      ∃ source, operation state = (.error source, final) ∧ translate source = error := by
  rw [mapError]
  cases operation state with
  | mk outcome reached => cases outcome <;> simp [and_comm, eq_comm]

/-- An outcome that is known to be a value. -/
theorem ok_of_returned {outcome : Except ε α} {value : α}
    (returned : outcome.toOption = some value) : outcome = .ok value := by
  cases outcome with
  | error error => cases returned
  | ok found => exact congrArg Except.ok (Option.some.inj returned)

/-- A list of results that all succeeded pairs each item with its result. -/
theorem mapM_ok {act : α → Except ε β} {items : List α} {results : List β}
    (ran : items.mapM act = .ok results) :
    List.Forall₂ (fun item result => act item = .ok result) items results := by
  induction items generalizing results with
  | nil =>
    obtain rfl := Except.ok.inj ran
    exact .nil
  | cons item items ih =>
    rw [List.mapM_cons] at ran
    cases first : act item with
    | error error =>
      rw [first] at ran
      cases ran
    | ok result =>
      rw [first] at ran
      change (items.mapM act >>= fun others => pure (result :: others)) = _ at ran
      cases rest : items.mapM act with
      | error error =>
        rw [rest] at ran
        cases ran
      | ok others =>
        rw [rest] at ran
        obtain rfl := Except.ok.inj ran
        exact .cons first (ih rest)

/-- A run that is known to have returned a value. -/
theorem ran_of_returned {run : Except ε α × σ} {value : α}
    (returned : run.1.toOption = some value) : run = (.ok value, run.2) :=
  Prod.ext (ok_of_returned returned) rfl

/-- A run on the first part is a run of the operation, beside the second part. -/
theorem onFirst_cases {τ : Type} {operation : Op σ ε α} {state : σ} {other : τ}
    {outcome : Except ε α} {final : σ × τ}
    (ran : onFirst operation (state, other) = (outcome, final)) :
    ∃ reached, operation state = (outcome, reached) ∧ final = (reached, other) := by
  obtain ⟨rfl, rfl⟩ := Prod.mk.inj ran
  exact ⟨_, rfl, rfl⟩

/-- Changing the value changes nothing else. -/
theorem map_state (operation : Op σ ε α) (change : α → β) (state : σ) :
    (Functor.map change operation state).2 = (operation state).2 := by
  change (andThen operation (fun value => pure (change value)) state).2 = _
  rw [andThen]
  rcases operation state with ⟨value | error, reached⟩ <;> rfl

/-- Changing the value of an error is the error. -/
theorem map_error {operation : Op σ ε α} {state final : σ} {error : ε} (change : α → β)
    (ran : operation state = (.error error, final)) :
    Functor.map change operation state = (.error error, final) := bind_error ran

/-- Sequencing satisfies the monad laws. -/
instance : LawfulMonad (Op σ ε) := LawfulMonad.mk' _
  (by
    intro α operation
    funext state
    change andThen operation (fun value => pure value) state = operation state
    rw [andThen]
    rcases operation state with ⟨value | error, reached⟩ <;> rfl)
  (fun _ _ => rfl)
  (by
    intro α β γ first second third
    funext state
    change andThen (andThen first second) third state =
      andThen first (fun value => andThen (second value) third) state
    simp only [andThen]
    rcases first state with ⟨value | error, reached⟩ <;> rfl)

/-- The relation holds between the states before and after every run. -/
def Keeps (relation : σ → σ → Prop) (operation : Op σ ε α) : Prop :=
  ∀ state, relation state (operation state).2

/-- A run of an operation that keeps a relation relates its ends. -/
theorem Keeps.ran {relation : σ → σ → Prop} {operation : Op σ ε α} (kept : Keeps relation operation)
    {before after : σ} {outcome : Except ε α} (result : operation before = (outcome, after)) :
    relation before after := by
  have ends := kept before
  rwa [result] at ends

/-- An error leaves the state as it was. -/
def Atomic (operation : Op σ ε α) (state : σ) : Prop :=
  ∀ error, (operation state).1 = .error error → (operation state).2 = state

/-- An operation that stopped is atomic exactly when the state it reached is the one it
started from. -/
theorem atomic_of_error {operation : Op σ ε α} {state reached : σ} {error : ε}
    (ran : operation state = (.error error, reached)) :
    Atomic operation state ↔ reached = state := by
  unfold Atomic
  rw [ran]
  exact ⟨fun kept => kept error rfl, fun same _ _ => same⟩

/-- An operation that succeeded is atomic. -/
theorem atomic_of_ok {operation : Op σ ε α} {state reached : σ} {value : α}
    (ran : operation state = (.ok value, reached)) : Atomic operation state := by
  intro error failed
  rw [ran] at failed
  cases failed

section Rules

variable {relation : σ → σ → Prop}

/-- A returned value keeps every reflexive relation. -/
theorem keeps_pure (refl : ∀ state, relation state state) (value : α) :
    Keeps relation (pure value : Op σ ε α) := refl

/-- An error keeps every reflexive relation. -/
theorem keeps_fail (refl : ∀ state, relation state state) (error : ε) :
    Keeps relation (fail error : Op σ ε α) := refl

/-- A lifted result keeps every reflexive relation. -/
theorem keeps_lift (refl : ∀ state, relation state state) (result : Except ε α) :
    Keeps relation (lift result : Op σ ε α) := refl

/-- Sequencing keeps every transitive relation its parts keep. -/
theorem keeps_bind (trans : ∀ first second third, relation first second → relation second third →
    relation first third) {first : Op σ ε α} {next : α → Op σ ε β} (head : Keeps relation first)
    (tail : ∀ value, Keeps relation (next value)) : Keeps relation (first >>= next) := by
  intro state
  cases ran : first state with
  | mk outcome reached =>
    have step : relation state reached := by simpa only [ran] using head state
    cases outcome with
    | ok value =>
      rw [bind_ok ran]
      exact trans _ _ _ step (tail value reached)
    | error error =>
      rw [bind_error ran]
      exact step

/-- Translating errors keeps what the operation keeps. -/
theorem keeps_mapError {translate : ε → η} {operation : Op σ ε α}
    (kept : Keeps relation operation) : Keeps relation (mapError translate operation) := by
  intro state
  have step := kept state
  rw [mapError]
  cases ran : operation state with
  | mk outcome reached =>
    rw [ran] at step
    cases outcome <;> exact step

/-- Changing the value keeps what the operation keeps. -/
theorem keeps_map {operation : Op σ ε α} (kept : Keeps relation operation) (change : α → β) :
    Keeps relation (Functor.map change operation) := by
  intro state
  have step := kept state
  change relation state (andThen operation (fun value => pure (change value)) state).2
  rw [andThen]
  cases ran : operation state with
  | mk outcome reached =>
    rw [ran] at step
    cases outcome <;> exact step

/-- Catching errors keeps what the operation keeps. -/
theorem keeps_attempt {operation : Op σ ε α} (kept : Keeps relation operation) :
    Keeps relation (attempt operation : Op σ η (Except ε α)) := kept

/-- Acting on the first part keeps, of the first parts, what the operation keeps. -/
theorem keeps_onFirst {τ : Type} {operation : Op σ ε α} (kept : Keeps relation operation) :
    Keeps (fun before after => relation before.1 after.1)
      (onFirst operation : Op (σ × τ) ε α) := fun state => kept state.1

/-- Acting on the second part keeps every reflexive relation of the first parts. -/
theorem keeps_onSecond {τ : Type} (refl : ∀ state, relation state state) (operation : Op τ ε α) :
    Keeps (fun before after => relation before.1 after.1)
      (onSecond operation : Op (σ × τ) ε α) := fun state => refl state.1

end Rules

end Op

end Fallible
