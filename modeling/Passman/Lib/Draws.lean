import Passman.Lib.Op

/-!
# Computations that draw from a stream

A computation takes draws from the front of a stream and either returns a value, panics, or is
still waiting for another draw when the stream ends. What it returns can be bounded from both
sides: a computation is paced by loops if it returns a value that satisfies a condition exactly
where each of the loops in turn finds a draw it accepts, and a value can be returned if some draws
lead to it whatever follows them.
-/
namespace Drawing

open Fallible

/-- Why a computation did not return. -/
inductive Halt where
  /-- The stream ended before the computation did. -/
  | waiting
  /-- The computation panicked. -/
  | panicked
  deriving DecidableEq

/-- A computation that takes draws from the front of a stream. -/
abbrev Draws (ω α : Type) := Op (List ω) Halt α

variable {ω α β : Type}

/-- Draw until a draw is accepted. -/
def firstThat (accept : ω → Option α) : Draws ω α
  | [] => (.error .waiting, [])
  | draw :: rest =>
    match accept draw with
    | some value => (.ok value, rest)
    | none => firstThat accept rest

/-- What is left of a stream behind some loops, each of which passes draws over until it takes one
that it accepts; there is nothing where one of them does not end. -/
def behind : List (ω → Bool) → List ω → Option (List ω)
  | [], draws => some draws
  | _ :: _, [] => none
  | accepts :: later, draw :: draws =>
    if accepts draw then behind later draws else behind (accepts :: later) draws

/-- Whether all of the loops end. -/
def loopsEnd (loops : List (ω → Bool)) (draws : List ω) : Bool := (behind loops draws).isSome

/-- If the loops end, the computation returns a value that satisfies the condition in front of what
they leave; otherwise it waits. -/
def Paced (loops : List (ω → Bool)) (condition : α → Prop) (computation : Draws ω α) : Prop :=
  ∀ draws, match behind loops draws with
    | some rest => ∃ value, computation draws = (.ok value, rest) ∧ condition value
    | none => (computation draws).1 = .error .waiting

/-- Some draws lead to the value, whatever follows them. -/
def CanReturn (computation : Draws ω α) (value : α) : Prop :=
  ∃ draws, ∀ rest, computation (draws ++ rest) = (.ok value, rest)

section Paced

variable {loops : List (ω → Bool)} {condition weaker : α → Prop} {computation : Draws ω α}

/-- Nothing is taken where no loop is. -/
@[simp] theorem behind_nil (draws : List ω) : behind [] draws = some draws := by
  cases draws <;> rfl

/-- Loops follow each other. -/
theorem behind_append (early late : List (ω → Bool)) (draws : List ω) :
    behind (early ++ late) draws = (behind early draws).bind (behind late) := by
  induction draws generalizing early with
  | nil =>
    cases early with
    | nil => rfl
    | cons accepts later => rfl
  | cons draw draws ih =>
    cases early with
    | nil => rfl
    | cons accepts later =>
      rw [List.cons_append, behind, behind]
      by_cases accepted : accepts draw = true
      · rw [if_pos accepted, if_pos accepted]
        exact ih later
      · rw [if_neg accepted, if_neg accepted]
        exact ih (accepts :: later)

/-- Where the loops end, a value is returned. -/
theorem Paced.returns (paced : Paced loops condition computation) {draws : List ω}
    (ends : loopsEnd loops draws = true) :
    ∃ value, (computation draws).1 = .ok value ∧ condition value := by
  have holds := paced draws
  obtain ⟨rest, left⟩ := Option.isSome_iff_exists.mp ends
  rw [left] at holds
  obtain ⟨value, ran, satisfied⟩ := holds
  exact ⟨value, congrArg Prod.fst ran, satisfied⟩

/-- Where a loop does not end, the computation waits. -/
theorem Paced.waits (paced : Paced loops condition computation) {draws : List ω}
    (waits : loopsEnd loops draws = false) : (computation draws).1 = .error .waiting := by
  have holds := paced draws
  have nothing : behind loops draws = none :=
    Option.isNone_iff_eq_none.mp (Option.isSome_eq_false_iff.mp waits)
  rwa [nothing] at holds

/-- There is no panic. -/
theorem Paced.no_panic (paced : Paced loops condition computation) (draws : List ω) :
    (computation draws).1 ≠ .error .panicked := by
  cases ends : loopsEnd loops draws with
  | true =>
    obtain ⟨value, returned, _⟩ := paced.returns ends
    rw [returned]
    exact nofun
  | false =>
    rw [paced.waits ends]
    exact nofun

/-- A returned value satisfies the condition. -/
theorem Paced.returned (paced : Paced loops condition computation) {draws rest : List ω}
    {value : α} (ran : computation draws = (.ok value, rest)) : condition value := by
  cases ends : loopsEnd loops draws with
  | true =>
    obtain ⟨found, returned, satisfied⟩ := paced.returns ends
    rw [ran] at returned
    obtain rfl := Except.ok.inj returned
    exact satisfied
  | false =>
    have waits := paced.waits ends
    rw [ran] at waits
    cases waits

/-- A condition may be weakened. -/
theorem Paced.mono (paced : Paced loops condition computation)
    (weaken : ∀ value, condition value → weaker value) : Paced loops weaker computation := by
  intro draws
  have holds := paced draws
  cases left : behind loops draws with
  | none =>
    rw [left] at holds
    exact holds
  | some rest =>
    rw [left] at holds
    obtain ⟨value, ran, satisfied⟩ := holds
    exact ⟨value, ran, weaken value satisfied⟩

/-- A value that satisfies the condition is returned without a draw. -/
theorem paced_pure {value : α} (holds : condition value) :
    Paced [] condition (pure value : Draws ω α) := by
  intro draws
  rw [behind_nil]
  exact ⟨value, rfl, holds⟩

/-- What the first computation returns is what the second one starts from. -/
theorem paced_bind {late : List (ω → Bool)} {next : α → Draws ω β} {final : β → Prop}
    (first : Paced loops condition computation)
    (second : ∀ value, condition value → Paced late final (next value)) :
    Paced (loops ++ late) final (computation >>= next) := by
  intro draws
  have holds := first draws
  rw [behind_append]
  cases left : behind loops draws with
  | none =>
    rw [left] at holds
    rcases ran : computation draws with ⟨halt | value, rest⟩
    · rw [ran] at holds
      obtain rfl : halt = .waiting := Except.error.inj holds
      rw [Op.bind_error ran, Option.bind_none]
    · rw [ran] at holds
      cases holds
  | some rest =>
    rw [left] at holds
    obtain ⟨value, ran, satisfied⟩ := holds
    rw [Op.bind_ok ran, Option.bind_some]
    exact second value satisfied rest

/-- Drawing until a draw is accepted is one loop. -/
theorem paced_firstThat {accept : ω → Option α}
    (accepted : ∀ draw value, accept draw = some value → condition value) :
    Paced [fun draw => (accept draw).isSome] condition (firstThat accept) := by
  intro draws
  induction draws with
  | nil => rfl
  | cons draw rest ih =>
    rw [behind, firstThat]
    cases found : accept draw with
    | none => exact ih
    | some value =>
      rw [Option.isSome_some, if_pos rfl, behind_nil]
      exact ⟨value, rfl, accepted draw value found⟩

/-- An invariant of one step is an invariant of a walk over a list, whose loops are those of the
steps. -/
theorem paced_foldlM {step : β → α → Draws ω β} {paces : α → List (ω → Bool)}
    (invariant : List α → β → Prop) {items : List α} {start : β} (holds : invariant [] start)
    (preserves : ∀ front item value, front ++ [item] <+: items → invariant front value →
      Paced (paces item) (invariant (front ++ [item])) (step value item)) :
    Paced (items.flatMap paces) (invariant items) (items.foldlM step start) := by
  have walk (front rest : List α) (value : β) (split : front ++ rest = items)
      (holds : invariant front value) :
      Paced (rest.flatMap paces) (invariant items) (rest.foldlM step value) := by
    induction rest generalizing front value with
    | nil =>
      rw [List.append_nil] at split
      rw [List.foldlM_nil]
      exact paced_pure (split ▸ holds)
    | cons item rest ih =>
      have next : front ++ [item] ++ rest = items := by
        rw [List.append_assoc, List.singleton_append]
        exact split
      rw [List.foldlM_cons, List.flatMap_cons]
      exact paced_bind (preserves front item value ⟨rest, next⟩ holds) fun value holds =>
        ih (front ++ [item]) value next holds
  exact walk [] items start rfl holds

end Paced

section Returns

variable {computation : Draws ω α}

/-- What can be returned is returned on some draws. -/
theorem CanReturn.ran {value : α} (returns : CanReturn computation value) :
    ∃ draws, computation draws = (.ok value, []) := by
  obtain ⟨draws, ran⟩ := returns
  have alone := ran []
  rw [List.append_nil] at alone
  exact ⟨draws, alone⟩

/-- A value is returned without a draw. -/
theorem canReturn_pure (value : α) : CanReturn (pure value : Draws ω α) value := ⟨[], fun _ => rfl⟩

/-- The draws of two computations follow each other. -/
theorem canReturn_bind {next : α → Draws ω β} {middle : α} {value : β}
    (first : CanReturn computation middle) (second : CanReturn (next middle) value) :
    CanReturn (computation >>= next) value := by
  obtain ⟨early, ranFirst⟩ := first
  obtain ⟨late, ranSecond⟩ := second
  refine ⟨early ++ late, fun rest => ?_⟩
  rw [List.append_assoc, Op.bind_ok (ranFirst (late ++ rest)), ranSecond]

/-- An accepted draw can be returned. -/
theorem canReturn_firstThat {accept : ω → Option α} (draw : ω) {value : α}
    (accepted : accept draw = some value) : CanReturn (firstThat accept) value := by
  refine ⟨[draw], fun rest => ?_⟩
  rw [List.singleton_append, firstThat, accepted]

end Returns

end Drawing
