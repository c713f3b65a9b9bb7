import Passman.Lib.Op
import Passman.Totp.Verifier
import Mathlib.Data.List.Induction
import Mathlib.Order.Bounds.Defs

/-!
# Windowed acceptance

What a verification decides, in terms of the steps whose code was presented. The
greatest step of the window with that code is the one compared with the replay
cache, so along any sequence of verifications the accepted steps increase, however
the clock moves.
-/
namespace Passman

open Bytewise Fallible Words

/-- The number of the current step. -/
theorem currentStep_toNat (config : TotpConfig) (now : Timestamp) :
    (currentStep now config.period).toNat = now.toNat / config.period.toNat := by
  have positive := config.positive
  have one : (1 : UInt64).toNat = 1 := rfl
  rw [currentStep, UInt64.toNat_div, max_toNat, one, Nat.max_eq_left positive]

/-- The steps a code is compared with lie within the skew of the current one. -/
theorem TotpConfig.mem_window (config : TotpConfig) (now : Timestamp) (step : UInt64) :
    step ∈ config.window now ↔
      now.toNat / config.period.toNat - config.skewSteps.toNat ≤ step.toNat ∧
        step.toNat ≤ now.toNat / config.period.toNat + config.skewSteps.toNat := by
  have center := currentStep_toNat config now
  have skew : config.skewSteps.toUInt64.toNat = config.skewSteps.toNat := rfl
  have low : (config.firstStep now).toNat =
      now.toNat / config.period.toNat - config.skewSteps.toNat := by
    rw [firstStep, saturatingSub_toNat, center, skew]
  have high : (config.lastStep now).toNat =
      min (now.toNat / config.period.toNat + config.skewSteps.toNat) (2 ^ 64 - 1) := by
    rw [lastStep, saturatingAdd_toNat, center, skew]
  have bound := step.toNat_lt
  have lowBound := (config.firstStep now).toNat_lt
  have ofNat (count : Nat) : (UInt64.ofNat count).toNat = count % 2 ^ 64 := rfl
  rw [window, List.mem_map]
  constructor
  · rintro ⟨offset, member, rfl⟩
    rw [List.mem_range, high] at member
    have value : (config.firstStep now + UInt64.ofNat offset).toNat =
        (config.firstStep now).toNat + offset := by
      rw [UInt64.toNat_add, ofNat]
      omega
    rw [value]
    omega
  · rintro ⟨above, below⟩
    refine ⟨step.toNat - (config.firstStep now).toNat, ?_, ?_⟩
    · rw [List.mem_range, high]
      omega
    · rw [← UInt64.toNat_inj, UInt64.toNat_add, ofNat]
      omega

/-- The window is ascending. -/
theorem TotpConfig.window_ascending (config : TotpConfig) (now : Timestamp) :
    (config.window now).Pairwise (· < ·) := by
  have ofNat (count : Nat) : (UInt64.ofNat count).toNat = count % 2 ^ 64 := rfl
  have lastBound := (config.lastStep now).toNat_lt
  rw [window, List.pairwise_map]
  refine List.pairwise_lt_range.imp_of_mem ?_
  intro early late earlyMem lateMem ordered
  rw [List.mem_range] at earlyMem lateMem
  rw [UInt64.lt_iff_toNat_lt, UInt64.toNat_add, UInt64.toNat_add, ofNat, ofNat]
  omega

/-- Over an ascending list, the hit kept last is the greatest one. -/
theorem foldl_hit_greatest (hit : UInt64 → Prop) [DecidablePred hit] {items : List UInt64}
    (ascending : items.Pairwise (· < ·)) (found : UInt64)
    (result : items.foldl (fun best item => if hit item then some item else best) none =
      some found) : IsGreatest {item | item ∈ items ∧ hit item} found := by
  induction items using List.reverseRecOn with
  | nil => cases result
  | append_singleton items last ih =>
    obtain ⟨before, _, below⟩ := List.pairwise_append.mp ascending
    rw [List.foldl_append] at result
    change (if hit last then some last else _) = some found at result
    by_cases holds : hit last
    · rw [if_pos holds] at result
      obtain rfl : last = found := Option.some.inj result
      refine ⟨⟨List.mem_append_right _ (List.mem_singleton_self _), holds⟩, ?_⟩
      rintro item ⟨member, _⟩
      rcases List.mem_append.mp member with early | late
      · exact UInt64.le_of_lt (below item early last (List.mem_singleton_self _))
      · rw [List.mem_singleton.mp late]
        exact UInt64.le_refl _
    · rw [if_neg holds] at result
      obtain ⟨⟨member, isHit⟩, greatest⟩ := ih before result
      refine ⟨⟨List.mem_append_left _ member, isHit⟩, ?_⟩
      rintro item ⟨among, itemHit⟩
      rcases List.mem_append.mp among with early | late
      · exact greatest ⟨early, itemHit⟩
      · rw [List.mem_singleton.mp late] at itemHit
        exact absurd itemHit holds

/-- A set of steps has at most one greatest member. -/
theorem greatest_unique {steps : Set UInt64} {left right : UInt64}
    (leftMost : IsGreatest steps left)
    (rightMost : IsGreatest steps right) : left = right :=
  UInt64.le_antisymm (rightMost.2 leftMost.1) (leftMost.2 rightMost.1)

/-- The code is of the configured width and consists of ASCII digits. -/
def TotpConfig.Decimal (config : TotpConfig) (code : String) : Prop :=
  code.length = config.digits.toNat ∧ code.toList.all Char.isDigit

/-- A code parses to its bytes when it is decimal, and is malformed otherwise. -/
theorem parseCode_cases (config : TotpConfig) (code : String) :
    config.Decimal code ∧ parseCode code config.digits = .ok (utf8 code) ∨
      ¬config.Decimal code ∧ parseCode code config.digits = .error .malformedCode := by
  obtain ⟨digits, width⟩ := utf8_all_digits code
  unfold TotpConfig.Decimal parseCode
  change _ ∨ _ ∧ (if _ then _ else if (utf8 code).all isAsciiDigit then _ else _) = _
  change _ ∧ (if _ then _ else if (utf8 code).all isAsciiDigit then _ else _) = _ ∨ _
  by_cases decimal : code.toList.all Char.isDigit = true
  · rw [digits, if_pos decimal, width decimal]
    by_cases sized : code.length = config.digits.toNat
    · rw [if_neg (not_not.mpr sized)]
      exact .inl ⟨⟨sized, decimal⟩, rfl⟩
    · rw [if_pos sized]
      exact .inr ⟨fun both => sized both.1, rfl⟩
  · rw [digits, if_neg decimal]
    refine .inr ⟨fun both => decimal both.2, ?_⟩
    split <;> rfl

section Decisions

variable [Crates]

/-- The steps within the skew of the current one whose code was presented. -/
def TotpConfig.Matching (config : TotpConfig) (seed : Bytes) (code : String) (now : Timestamp) :
    Set UInt64 :=
  {step | now.toNat / config.period.toNat - config.skewSteps.toNat ≤ step.toNat ∧
    step.toNat ≤ now.toNat / config.period.toNat + config.skewSteps.toNat ∧
    utf8 code = config.codeAt seed step}

/-- The search finds the greatest matching step, or nothing when no step matches. -/
theorem TotpConfig.matched_cases (config : TotpConfig) (seed : Bytes) (code : String)
    (now : Timestamp) :
    (∃ step, config.matched seed (utf8 code) now = some step ∧
        IsGreatest (config.Matching seed code now) step) ∨
      config.matched seed (utf8 code) now = none ∧ config.Matching seed code now = ∅ := by
  have same : {step | step ∈ config.window now ∧ utf8 code = config.codeAt seed step} =
      config.Matching seed code now := by
    ext step
    change step ∈ config.window now ∧ _ ↔ _ ∧ _ ∧ _
    rw [config.mem_window, and_assoc]
  cases found : config.matched seed (utf8 code) now with
  | some step =>
    have greatest := foldl_hit_greatest (fun step => utf8 code = config.codeAt seed step)
      (config.window_ascending now) step found
    rw [same] at greatest
    exact .inl ⟨step, rfl, greatest⟩
  | none =>
    refine .inr ⟨rfl, ?_⟩
    rw [← same, Set.eq_empty_iff_forall_notMem]
    intro step member
    have isSome := foldl_hit_isSome (fun step => utf8 code = config.codeAt seed step) none
      (.inr ⟨step, member⟩)
    change (config.matched seed (utf8 code) now).isSome at isSome
    rw [found] at isSome
    cases isSome

namespace TotpVerifier

/-- The step is later than the last accepted one. -/
def Fresh (verifier : TotpVerifier) (step : UInt64) : Prop :=
  ∀ last ∈ verifier.lastAcceptedStep, last < step

/-- Verification parses the code, searches the window and refuses a stale step. -/
theorem verify_eq (verifier : TotpVerifier) (seed : Bytes) (code : String) (now : Timestamp) :
    verifier.verify seed code now =
      (parseCode code verifier.config.digits >>= fun candidate =>
        match verifier.config.matched seed candidate now with
        | none => .error .rejected
        | some step =>
          if verifier.lastAcceptedStep.any fun last => step ≤ last then .error .replayed
          else .ok { verifier with lastAcceptedStep := some step }) := rfl

/-- The four outcomes of a verification and when each occurs. -/
theorem verify_cases (verifier : TotpVerifier) (seed : Bytes) (code : String) (now : Timestamp) :
    ¬verifier.config.Decimal code ∧
        verifier.verify seed code now = .error .malformedCode ∨
      verifier.config.Decimal code ∧
        (verifier.config.Matching seed code now = ∅ ∧
            verifier.verify seed code now = .error .rejected ∨
          ∃ step, IsGreatest (verifier.config.Matching seed code now) step ∧
            (¬verifier.Fresh step ∧ verifier.verify seed code now = .error .replayed ∨
              verifier.Fresh step ∧ verifier.verify seed code now =
                .ok { verifier with lastAcceptedStep := some step })) := by
  have unfolded := verifier.verify_eq seed code now
  rcases parseCode_cases verifier.config code with ⟨decimal, parsed⟩ | ⟨malformed, parsed⟩
  · refine .inr ⟨decimal, ?_⟩
    rw [parsed] at unfolded
    dsimp only [bind, Except.bind] at unfolded
    rcases verifier.config.matched_cases seed code now with ⟨step, found, greatest⟩ | ⟨none, empty⟩
    · refine .inr ⟨step, greatest, ?_⟩
      rw [found] at unfolded
      dsimp only at unfolded
      have stale : (verifier.lastAcceptedStep.any fun last => step ≤ last) = true ↔
          ¬verifier.Fresh step := by
        rw [Option.any_eq_true]
        simp only [Fresh, Option.mem_def, not_forall, UInt64.not_lt, decide_eq_true_eq,
          exists_prop]
      by_cases fresh : verifier.Fresh step
      · rw [if_neg fun any => stale.mp any fresh] at unfolded
        exact .inr ⟨fresh, unfolded⟩
      · rw [if_pos (stale.mpr fresh)] at unfolded
        exact .inl ⟨fresh, unfolded⟩
    · rw [none] at unfolded
      exact .inl ⟨empty, unfolded⟩
  · rw [parsed] at unfolded
    exact .inl ⟨malformed, unfolded⟩

/-- Exactly one of the four outcomes occurs, each under its own condition. -/
theorem verify_decides (verifier : TotpVerifier) (seed : Bytes) (code : String)
    (now : Timestamp) :
    (∀ next, verifier.verify seed code now = .ok next ↔
      verifier.config.Decimal code ∧
        ∃ step, IsGreatest (verifier.config.Matching seed code now) step ∧ verifier.Fresh step ∧
          next = { verifier with lastAcceptedStep := some step }) ∧
    (∀ error, verifier.verify seed code now = .error error ↔
      error = .malformedCode ∧ ¬verifier.config.Decimal code ∨
      error = .rejected ∧ verifier.config.Decimal code ∧
        verifier.config.Matching seed code now = ∅ ∨
      error = .replayed ∧ verifier.config.Decimal code ∧
        ∃ step, IsGreatest (verifier.config.Matching seed code now) step ∧
          ¬verifier.Fresh step) := by
  rcases verifier.verify_cases seed code now with
    ⟨malformed, outcome⟩ | ⟨decimal, ⟨empty, outcome⟩ | ⟨step, greatest, decided⟩⟩
  · rw [outcome]
    refine ⟨fun next => ⟨nofun, fun accepted => absurd accepted.1 malformed⟩, fun error => ?_⟩
    constructor
    · intro same
      exact .inl ⟨(Except.error.inj same).symm, malformed⟩
    · rintro (⟨rfl, _⟩ | ⟨_, decimal, _⟩ | ⟨_, decimal, _⟩)
      · rfl
      · exact absurd decimal malformed
      · exact absurd decimal malformed
  · have unmatched (step : UInt64) : ¬IsGreatest (verifier.config.Matching seed code now) step := by
      intro greatest
      have member := greatest.1
      rw [empty] at member
      exact member
    rw [outcome]
    refine ⟨fun next => ⟨nofun, fun ⟨_, step, greatest, _⟩ => absurd greatest (unmatched step)⟩,
      fun error => ?_⟩
    constructor
    · intro same
      exact .inr (.inl ⟨(Except.error.inj same).symm, decimal, empty⟩)
    · rintro (⟨_, malformed⟩ | ⟨rfl, _⟩ | ⟨_, _, step, greatest, _⟩)
      · exact absurd decimal malformed
      · rfl
      · exact absurd greatest (unmatched step)
  · have matching : verifier.config.Matching seed code now ≠ ∅ := by
      intro empty
      have member := greatest.1
      rw [empty] at member
      exact member
    rcases decided with ⟨stale, outcome⟩ | ⟨fresh, outcome⟩
    · rw [outcome]
      refine ⟨fun next => ⟨nofun, ?_⟩, fun error => ?_⟩
      · rintro ⟨_, other, otherGreatest, fresh, _⟩
        rw [greatest_unique otherGreatest greatest] at fresh
        exact absurd fresh stale
      · constructor
        · intro same
          exact .inr (.inr ⟨(Except.error.inj same).symm, decimal, step, greatest, stale⟩)
        · rintro (⟨_, malformed⟩ | ⟨_, _, empty⟩ | ⟨rfl, _⟩)
          · exact absurd decimal malformed
          · exact absurd empty matching
          · rfl
    · rw [outcome]
      refine ⟨fun next => ?_, fun error => ⟨nofun, ?_⟩⟩
      · constructor
        · intro same
          exact ⟨decimal, step, greatest, fresh, (Except.ok.inj same).symm⟩
        · rintro ⟨_, other, otherGreatest, _, rfl⟩
          rw [greatest_unique otherGreatest greatest]
      · rintro (⟨_, malformed⟩ | ⟨_, _, empty⟩ | ⟨_, _, other, otherGreatest, stale⟩)
        · exact absurd decimal malformed
        · exact absurd empty matching
        · rw [greatest_unique otherGreatest greatest] at stale
          exact absurd fresh stale

/-- One call of `verify`: the seed, the presented code and the clock reading. -/
structure Attempt where
  /-- The raw HMAC key. -/
  seed : Bytes
  /-- The presented code. -/
  code : String
  /-- The clock reading. -/
  now : Timestamp

/-- The verifier after a call: only an accepted code moves the replay cache. -/
def attempt (verifier : TotpVerifier) (call : Attempt) : TotpVerifier :=
  match verifier.verify call.seed call.code call.now with
  | .ok next => next
  | .error _ => verifier

/-- The step a call accepts, if it accepts one. -/
def acceptedStep (verifier : TotpVerifier) (call : Attempt) : Option UInt64 :=
  match verifier.verify call.seed call.code call.now with
  | .ok next => next.lastAcceptedStep
  | .error _ => none

/-- The steps accepted along a sequence of calls, in order. -/
def acceptedSteps : TotpVerifier → List Attempt → List UInt64
  | _, [] => []
  | verifier, call :: rest =>
    (verifier.acceptedStep call).toList ++ (verifier.attempt call).acceptedSteps rest

/-- A call either leaves the cache alone or moves it to the fresh step it accepts. -/
theorem attempt_cases (verifier : TotpVerifier) (call : Attempt) :
    verifier.acceptedStep call = none ∧ verifier.attempt call = verifier ∨
      ∃ step, verifier.acceptedStep call = some step ∧ verifier.Fresh step ∧
        (verifier.attempt call).lastAcceptedStep = some step := by
  unfold acceptedStep attempt
  cases outcome : verifier.verify call.seed call.code call.now with
  | error error => exact .inl ⟨rfl, rfl⟩
  | ok next =>
    obtain ⟨_, step, _, fresh, rfl⟩ := ((verifier.verify_decides _ _ _).1 next).mp outcome
    exact .inr ⟨step, rfl, fresh, rfl⟩

/-- Every step accepted along a run is later than the cache it started from and than the
steps accepted before it. -/
theorem acceptedSteps_increase (verifier : TotpVerifier) (calls : List Attempt) :
    (∀ step ∈ verifier.acceptedSteps calls, verifier.Fresh step) ∧
      (verifier.acceptedSteps calls).Pairwise (· < ·) := by
  induction calls generalizing verifier with
  | nil => exact ⟨nofun, List.Pairwise.nil⟩
  | cons call rest ih =>
    obtain ⟨later, ordered⟩ := ih (verifier.attempt call)
    rw [acceptedSteps]
    rcases verifier.attempt_cases call with ⟨none, same⟩ | ⟨step, accepted, fresh, cached⟩
    · rw [same] at later ordered
      rw [none, same]
      exact ⟨later, ordered⟩
    · have beyond : ∀ other ∈ (verifier.attempt call).acceptedSteps rest, step < other :=
        fun other member => later other member step cached
      rw [accepted]
      refine ⟨?_, List.pairwise_cons.mpr ⟨beyond, ordered⟩⟩
      intro other member
      rcases List.mem_cons.mp member with rfl | member
      · exact fresh
      · intro last present
        exact UInt64.lt_trans (fresh last present) (beyond other member)

/-- Verification is windowed and protected from replay: it accepts exactly a decimal code whose
greatest matching step in the window is later than the last accepted one, moves the cache only
then and to that step, names the first condition that fails otherwise, and along every run of
calls, with any seeds, codes and clock readings, the accepted steps strictly increase. -/
theorem windowed_with_replay_protection :
    (∀ (verifier : TotpVerifier) (call : Attempt),
      let outcome := verifier.verify call.seed call.code call.now
      let matching := verifier.config.Matching call.seed call.code call.now
      (outcome.toOption.isSome ↔ verifier.config.Decimal call.code ∧
        ∃ step, IsGreatest matching step ∧ verifier.Fresh step) ∧
      (outcome = .error .malformedCode ↔ ¬verifier.config.Decimal call.code) ∧
      (outcome = .error .rejected ↔ verifier.config.Decimal call.code ∧ matching = ∅) ∧
      (outcome = .error .replayed ↔ verifier.config.Decimal call.code ∧
        ∃ step, IsGreatest matching step ∧ ¬verifier.Fresh step) ∧
      (∀ error, outcome = .error error →
        error ∈ [TotpError.malformedCode, .rejected, .replayed] ∧
          verifier.attempt call = verifier) ∧
      ∀ next, outcome = .ok next → ∃ step, IsGreatest matching step ∧
        next = { verifier with lastAcceptedStep := some step }) ∧
    ∀ (verifier : TotpVerifier) (calls : List Attempt),
      (verifier.acceptedSteps calls).Pairwise (· < ·) := by
  refine ⟨fun verifier call => ?_, fun verifier calls => (verifier.acceptedSteps_increase calls).2⟩
  obtain ⟨accepts, refuses⟩ := verifier.verify_decides call.seed call.code call.now
  refine ⟨?_, ?_, ?_, ?_, ?_, ?_⟩
  · rw [Option.isSome_iff_exists]
    constructor
    · rintro ⟨next, some⟩
      have ok := Op.ok_of_returned some
      obtain ⟨decimal, step, greatest, fresh, _⟩ := (accepts next).mp ok
      exact ⟨decimal, step, greatest, fresh⟩
    · rintro ⟨decimal, step, greatest, fresh⟩
      have ok := (accepts _).mpr ⟨decimal, step, greatest, fresh, rfl⟩
      exact ⟨_, by rw [ok]; rfl⟩
  · simpa using refuses .malformedCode
  · simpa using refuses .rejected
  · simpa using refuses .replayed
  · intro error failed
    refine ⟨?_, ?_⟩
    · rcases (refuses error).mp failed with ⟨rfl, _⟩ | ⟨rfl, _⟩ | ⟨rfl, _⟩
      · exact List.mem_cons_self
      · exact List.mem_cons_of_mem _ List.mem_cons_self
      · exact List.mem_cons_of_mem _ (List.mem_cons_of_mem _ List.mem_cons_self)
    · unfold attempt
      rw [failed]
  · intro next ok
    obtain ⟨_, step, greatest, _, moved⟩ := (accepts next).mp ok
    exact ⟨step, greatest, moved⟩

end TotpVerifier

end Decisions

end Passman
