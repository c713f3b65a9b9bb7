import Passman.Lib.Op

/-!
# Pre- and postconditions of operations that may stop

A triple speaks about both ends of an operation: a returned value satisfies one
postcondition and an error another, each with the state it left behind. The rules
follow the ways operations are composed, so a program is proved by citing the triple of
every operation it calls, and what an error leaves is carried to the end of the program.
-/
namespace Fallible

variable {σ ε η α β : Type}

/-- Started where `pre` holds, the operation returns a value for which `post` holds or stops with an
error for which `stop` holds. -/
structure Triple (pre : σ → Prop) (operation : Op σ ε α) (post : α → σ → Prop)
    (stop : ε → σ → Prop) : Prop where
  /-- A value that is returned. -/
  returns : ∀ {state value after}, pre state → operation state = (.ok value, after) →
    post value after
  /-- An error that stops the operation. -/
  stops : ∀ {state error after}, pre state → operation state = (.error error, after) →
    stop error after

namespace Triple

variable {pre : σ → Prop} {post : α → σ → Prop} {stop : ε → σ → Prop}

/-- A value is returned in the state it was returned in. -/
theorem pure {value : α} (holds : ∀ state, pre state → post value state) :
    Triple pre (Pure.pure value : Op σ ε α) post stop where
  returns held ran := by
    obtain ⟨same, rfl⟩ := Prod.mk.inj ran
    obtain rfl := Except.ok.inj same
    exact holds _ held
  stops _ ran := by cases ran

/-- Stopping leaves the state. -/
theorem fail {error : ε} (holds : ∀ state, pre state → stop error state) :
    Triple pre (Op.fail error : Op σ ε α) post stop where
  returns _ ran := by cases ran
  stops held ran := by
    obtain ⟨same, rfl⟩ := Prod.mk.inj ran
    obtain rfl := Except.error.inj same
    exact holds _ held

/-- A change is made. -/
theorem modify {change : σ → σ} {post : Unit → σ → Prop}
    (holds : ∀ state, pre state → post () (change state)) :
    Triple pre (Op.modify change : Op σ ε Unit) post stop where
  returns held ran := by
    obtain ⟨_, rfl⟩ := Prod.mk.inj ran
    exact holds _ held
  stops _ ran := by cases ran

/-- The second operation starts where the first one returned; an error of either stops both. -/
theorem bind {middle : α → σ → Prop} {post : β → σ → Prop} {first : Op σ ε α}
    {next : α → Op σ ε β} (head : Triple pre first middle stop)
    (tail : ∀ value, Triple (middle value) (next value) post stop) :
    Triple pre (first >>= next) post stop where
  returns held ran := by
    obtain ⟨value, reached, begun, rest⟩ := Op.bind_ok_cases ran
    exact (tail value).returns (head.returns held begun) rest
  stops held ran := by
    rcases Op.bind_cases ran with ⟨value, reached, begun, rest⟩ | ⟨error, failed, same⟩
    · exact (tail value).stops (head.returns held begun) rest
    · obtain rfl := Except.error.inj same
      exact head.stops held failed

/-- Two operations meet in a condition that is named. -/
theorem through (middle : α → σ → Prop) {post : β → σ → Prop} {first : Op σ ε α}
    {next : α → Op σ ε β} (head : Triple pre first middle stop)
    (tail : ∀ value, Triple (middle value) (next value) post stop) :
    Triple pre (first >>= next) post stop := head.bind tail

/-- The state is read before an operation that depends on it. -/
theorem get {next : σ → Op σ ε α}
    (tail : ∀ start, Triple (fun state => start = state ∧ pre state) (next start) post stop) :
    Triple pre (Op.get >>= next) post stop where
  returns held ran := (tail _).returns ⟨rfl, held⟩ ran
  stops held ran := (tail _).stops ⟨rfl, held⟩ ran

/-- An operation whose outcome is handed on never stops. -/
theorem attempt {post : Except ε α → σ → Prop} {stop : η → σ → Prop} {operation : Op σ ε α}
    (holds : ∀ state, pre state → post (operation state).1 (operation state).2) :
    Triple pre (Op.attempt operation : Op σ η (Except ε α)) post stop where
  returns held ran := by
    obtain ⟨same, rfl⟩ := Prod.mk.inj ran
    obtain rfl := Except.ok.inj same
    exact holds _ held
  stops _ ran := by cases ran

/-- A stronger precondition and weaker postconditions. -/
theorem weaken {before : σ → Prop} {after : α → σ → Prop} {refused : ε → σ → Prop}
    {operation : Op σ ε α} (spec : Triple pre operation post stop)
    (strengthen : ∀ state, before state → pre state)
    (returned : ∀ value state, post value state → after value state)
    (stopped : ∀ error state, stop error state → refused error state) :
    Triple before operation after refused where
  returns held ran := returned _ _ (spec.returns (strengthen _ held) ran)
  stops held ran := stopped _ _ (spec.stops (strengthen _ held) ran)

/-- An operation is entered through a condition that is named. -/
theorem entered {before : σ → Prop} (pre : σ → Prop) {operation : Op σ ε α}
    (strengthen : ∀ state, before state → pre state) (spec : Triple pre operation post stop) :
    Triple before operation post stop :=
  spec.weaken strengthen (fun _ _ held => held) fun _ _ held => held

/-- Only the value that is returned is described further. -/
theorem returning {after : α → σ → Prop} {operation : Op σ ε α}
    (spec : Triple pre operation post stop)
    (returned : ∀ value state, post value state → after value state) :
    Triple pre operation after stop :=
  spec.weaken (fun _ held => held) returned fun _ _ held => held

/-- The errors of an operation are translated. -/
theorem mapError {translate : ε → η} {refused : η → σ → Prop} {operation : Op σ ε α}
    (spec : Triple pre operation post fun error => refused (translate error)) :
    Triple pre (Op.mapError translate operation) post refused where
  returns held ran := spec.returns held (Op.mapError_ok.mp ran)
  stops held ran := by
    obtain ⟨_, failed, rfl⟩ := Op.mapError_error.mp ran
    exact spec.stops held failed

/-- What does not depend on the state is known before the operation is run. -/
theorem given {operation : Op σ ε α} {fact : Prop} (spec : fact → Triple pre operation post stop) :
    Triple (fun state => pre state ∧ fact) operation post stop where
  returns held ran := (spec held.2).returns held.1 ran
  stops held ran := (spec held.2).stops held.1 ran

/-- What is known to exist is fixed before the operation is run. -/
theorem any {ι : Type} {operation : Op σ ε α} {pre : ι → σ → Prop}
    (each : ∀ index, Triple (pre index) operation post stop) :
    Triple (fun state => ∃ index, pre index state) operation post stop where
  returns held ran := by
    obtain ⟨index, held⟩ := held
    exact (each index).returns held ran
  stops held ran := by
    obtain ⟨index, held⟩ := held
    exact (each index).stops held ran

end Triple

end Fallible
