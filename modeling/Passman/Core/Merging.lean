import Passman.Core.App

/-!
# Merging lockout states

The remaining time of a lockout is an exact number of seconds, whatever the counter, the failure
time and the clock are: no step of its computation overflows or is clamped. It grows with the
counter and with the failure time and shrinks with the clock, so the merge of two states lasts at
least as long as either.
-/
namespace Passman

open Fallible Words

/-- Nanoseconds of a span. -/
def Duration.toNanos (span : Duration) : Nat := span.secs.toNat * 10 ^ 9 + span.nanos.toNat

/-- Nanoseconds that remain of a lockout; none when there is none. -/
def remainingNanos (remaining : Option Duration) : Nat := remaining.elim 0 Duration.toNanos

/-- The seconds that remain of a window since a last event: all of it while the clock stands before
the event. -/
def secondsLeft (window last now : Nat) : Nat := min window (last + window - now)

/-- No more than the window remains. -/
theorem secondsLeft_le (window last now : Nat) : secondsLeft window last now ≤ window :=
  Nat.min_le_left _ _

/-- A longer window since a later event leaves more at an earlier time. -/
theorem secondsLeft_mono {window longer last later now earlier : Nat} (windows : window ≤ longer)
    (events : last ≤ later) (clocks : earlier ≤ now) :
    secondsLeft window last now ≤ secondsLeft longer later earlier := by
  unfold secondsLeft
  omega

/-- The window, with every step of its computation in range. -/
def lockoutMinutesChecked (counter : UInt64) : Option UInt64 :=
  if counter < freeAttempts then some 0
  else if counter ≥ capAtAttempts then some maxLockoutMin
  else do
    let places ← checkedSub counter freeAttempts
    let shifted ← checkedShl 1 places
    let product ← checkedMul 10 shifted
    return min product maxLockoutMin

/-- No step of the computation of a window leaves the range. -/
theorem lockoutMinutesChecked_eq (counter : UInt64) :
    lockoutMinutesChecked counter = some (lockoutMinutes counter) := by
  unfold lockoutMinutesChecked lockoutMinutes
  by_cases free : counter < freeAttempts
  · rw [if_pos free, if_pos free]
  · rw [if_neg free, if_neg free]
    by_cases capped : counter ≥ capAtAttempts
    · rw [if_pos capped, if_pos capped]
    · rw [if_neg capped, if_neg capped]
      -- Only eight counters lie between the free attempts and the cap.
      have between : ∀ index : Fin 11, ¬ UInt64.ofNat index.val < freeAttempts →
          (do
            let places ← checkedSub (UInt64.ofNat index.val) freeAttempts
            let shifted ← checkedShl 1 places
            let product ← checkedMul 10 shifted
            return min product maxLockoutMin : Option UInt64) =
          some (min (10 * ((1 : UInt64) <<< (UInt64.ofNat index.val - freeAttempts)))
            maxLockoutMin) := by decide
      have below : counter.toNat < 11 := by
        rw [ge_iff_le, UInt64.le_iff_toNat_le] at capped
        have cap : capAtAttempts.toNat = 11 := rfl
        omega
      have named : UInt64.ofNat counter.toNat = counter := UInt64.ofNat_toNat
      have exactly := between ⟨counter.toNat, below⟩
      dsimp only at exactly
      rw [named] at exactly
      exact exactly free

namespace LockoutState

/-- The window of a state, in seconds. -/
def windowSecs (state : LockoutState) : Nat := (lockoutMinutes state.counter).toNat * 60

/-- The seconds that remain of a lockout: none without a recorded failure. -/
def secsLeft (state : LockoutState) (now : Timestamp) : Nat :=
  if state.lastFailure.toInt ≤ 0 then 0
  else secondsLeft state.windowSecs state.lastFailure.toInt.toNat now.toNat

/-- The remaining time, with every step of its computation in range and none clamped. -/
def remainingChecked (state : LockoutState) (now : Timestamp) : Option (Option Duration) := do
  let windowMin ← lockoutMinutesChecked state.counter
  if windowMin = 0 then return none
  else
    let windowSecs ← checkedMul windowMin secsPerMin
    if state.lastFailure ≤ 0 then return none
    else
      let last := state.lastFailure.toUInt64
      let unlockAt ← checkedAdd last windowSecs
      if now ≥ unlockAt then return none
      else if now < last then return some (.fromSecs windowSecs)
      else
        let left ← checkedSub unlockAt now
        return some (.fromSecs left)

/-- The seconds of a window fit a word. -/
theorem windowSecs_toNat (state : LockoutState) :
    (saturatingMul (lockoutMinutes state.counter) secsPerMin).toNat = state.windowSecs := by
  have minute : secsPerMin.toNat = 60 := rfl
  have most := lockoutMinutes_le state.counter
  rw [saturatingMul_toNat, minute, windowSecs]
  omega

/-- The end of a window fits a word. -/
theorem unlockAt_toNat {state : LockoutState} (failed : ¬ state.lastFailure.toInt ≤ 0) :
    (saturatingAdd state.lastFailure.toUInt64
      (saturatingMul (lockoutMinutes state.counter) secsPerMin)).toNat =
        state.lastFailure.toInt.toNat + state.windowSecs := by
  have most := lockoutMinutes_le state.counter
  have bound := state.lastFailure.toInt_lt
  have reading := toUInt64_toNat (Int.not_le.mp failed)
  rw [saturatingAdd_toNat, windowSecs_toNat]
  unfold windowSecs
  omega

/-- No step of the computation of the remaining time leaves the range or is clamped. -/
theorem remainingChecked_eq (state : LockoutState) (now : Timestamp) :
    state.remainingChecked now = some (state.remaining now) := by
  have minute : secsPerMin.toNat = 60 := rfl
  have most := lockoutMinutes_le state.counter
  have product : (lockoutMinutes state.counter).toNat * secsPerMin.toNat < 2 ^ 64 := by
    rw [minute]
    omega
  unfold remainingChecked remaining
  rw [lockoutMinutesChecked_eq]
  simp only [Option.bind_eq_bind, Option.bind_some, Option.pure_def]
  by_cases none : lockoutMinutes state.counter = 0
  · rw [if_pos none, if_pos none]
  · rw [if_neg none, if_neg none, checkedMul_of_fits product, Option.bind_some]
    by_cases unfailed : state.lastFailure ≤ 0
    · rw [if_pos unfailed, if_pos unfailed]
    · rw [if_neg unfailed, if_neg unfailed]
      have failed : ¬ state.lastFailure.toInt ≤ 0 := by
        rw [Int64.le_iff_toInt_le] at unfailed
        exact unfailed
      have reading := toUInt64_toNat (Int.not_le.mp failed)
      have bound := state.lastFailure.toInt_lt
      have sum : state.lastFailure.toUInt64.toNat +
          (saturatingMul (lockoutMinutes state.counter) secsPerMin).toNat < 2 ^ 64 := by
        rw [windowSecs_toNat]
        unfold windowSecs
        omega
      rw [checkedAdd_of_fits sum, Option.bind_some]
      by_cases passed : now ≥ saturatingAdd state.lastFailure.toUInt64
          (saturatingMul (lockoutMinutes state.counter) secsPerMin)
      · rw [if_pos passed, if_pos passed]
      · rw [if_neg passed, if_neg passed]
        have early : now ≤ saturatingAdd state.lastFailure.toUInt64
            (saturatingMul (lockoutMinutes state.counter) secsPerMin) := by
          rw [ge_iff_le, UInt64.not_le] at passed
          exact UInt64.le_of_lt passed
        rw [checkedSub_of_le early, Option.bind_some]
        split <;> rfl

/-- The remaining time is exactly the seconds that are left. -/
theorem remaining_nanos (state : LockoutState) (now : Timestamp) :
    remainingNanos (state.remaining now) = state.secsLeft now * 10 ^ 9 := by
  have spans (secs : UInt64) :
      remainingNanos (some (.fromSecs secs)) = secs.toNat * 10 ^ 9 := by
    simp only [remainingNanos, Option.elim_some, Duration.toNanos, Duration.fromSecs,
      UInt32.toNat_zero, Nat.add_zero]
  unfold remaining secsLeft
  by_cases none : lockoutMinutes state.counter = 0
  · rw [if_pos none]
    have empty : state.windowSecs = 0 := by
      unfold windowSecs
      rw [none]
      rfl
    have nothing : secondsLeft state.windowSecs state.lastFailure.toInt.toNat now.toNat = 0 := by
      rw [empty]
      exact Nat.zero_min _
    rw [nothing, ite_self]
    rfl
  · rw [if_neg none]
    by_cases unfailed : state.lastFailure ≤ 0
    · have unset : state.lastFailure.toInt ≤ 0 := Int64.le_iff_toInt_le.mp unfailed
      rw [if_pos unfailed, if_pos unset]
      rfl
    · have failed : ¬ state.lastFailure.toInt ≤ 0 := by
        rw [Int64.le_iff_toInt_le] at unfailed
        exact unfailed
      have reading := toUInt64_toNat (Int.not_le.mp failed)
      have unlockAt := unlockAt_toNat failed
      have window := windowSecs_toNat state
      rw [if_neg unfailed, if_neg failed]
      unfold secondsLeft
      by_cases passed : now ≥ saturatingAdd state.lastFailure.toUInt64
          (saturatingMul (lockoutMinutes state.counter) secsPerMin)
      · rw [if_pos passed]
        rw [ge_iff_le, UInt64.le_iff_toNat_le, unlockAt] at passed
        have spent : min state.windowSecs
            (state.lastFailure.toInt.toNat + state.windowSecs - now.toNat) = 0 := by omega
        rw [spent]
        rfl
      · rw [if_neg passed]
        rw [ge_iff_le, UInt64.le_iff_toNat_le, unlockAt] at passed
        by_cases rewound : now < state.lastFailure.toUInt64
        · rw [if_pos rewound, spans, window]
          rw [UInt64.lt_iff_toNat_lt] at rewound
          have whole : min state.windowSecs
              (state.lastFailure.toInt.toNat + state.windowSecs - now.toNat) =
                state.windowSecs := by omega
          rw [whole]
        · rw [if_neg rewound, spans]
          rw [UInt64.lt_iff_toNat_lt] at rewound
          have early : now ≤ saturatingAdd state.lastFailure.toUInt64
              (saturatingMul (lockoutMinutes state.counter) secsPerMin) := by
            rw [UInt64.le_iff_toNat_le, unlockAt]
            omega
          rw [UInt64.toNat_sub_of_le _ _ early, unlockAt]
          have part : min state.windowSecs
              (state.lastFailure.toInt.toNat + state.windowSecs - now.toNat) =
                state.lastFailure.toInt.toNat + state.windowSecs - now.toNat := by omega
          rw [part]

/-- More failures, a later last failure and an earlier clock leave a longer lockout. -/
theorem secsLeft_mono {state later : LockoutState} {now earlier : Timestamp}
    (counters : state.counter ≤ later.counter) (failures : state.lastFailure ≤ later.lastFailure)
    (clocks : earlier ≤ now) : state.secsLeft now ≤ later.secsLeft earlier := by
  have windows : state.windowSecs ≤ later.windowSecs :=
    Nat.mul_le_mul_right 60 (lockoutMinutes_mono counters)
  have failureTimes := Int64.le_iff_toInt_le.mp failures
  unfold secsLeft
  by_cases none : state.lastFailure.toInt ≤ 0
  · rw [if_pos none]
    exact Nat.zero_le _
  · have recorded : ¬ later.lastFailure.toInt ≤ 0 := by omega
    rw [if_neg none, if_neg recorded]
    exact secondsLeft_mono windows (by omega) (UInt64.le_iff_toNat_le.mp clocks)

/-- No lockout lasts longer than its window. -/
theorem secsLeft_le (state : LockoutState) (now : Timestamp) :
    state.secsLeft now ≤ state.windowSecs := by
  unfold secsLeft
  by_cases none : state.lastFailure.toInt ≤ 0
  · rw [if_pos none]
    exact Nat.zero_le _
  · rw [if_neg none]
    exact secondsLeft_le _ _ _

/-- A state is determined by the numbers of its counter and its failure time. -/
theorem ext_numbers {left right : LockoutState}
    (counters : left.counter.toNat = right.counter.toNat)
    (failures : left.lastFailure.toInt = right.lastFailure.toInt) : left = right := by
  cases left
  cases right
  exact congr (congrArg mk (UInt64.toNat_inj.mp counters)) (Int64.toInt_inj.mp failures)

/-- A merge has the larger of the counters. -/
theorem merge_counter (disk mem : LockoutState) :
    (disk.merge mem).counter.toNat = max disk.counter.toNat mem.counter.toNat := max_toNat _ _

/-- A merge has the later of the failures. -/
theorem merge_lastFailure (disk mem : LockoutState) :
    (disk.merge mem).lastFailure.toInt = max disk.lastFailure.toInt mem.lastFailure.toInt :=
  max_toInt _ _

/-- A merge is at least as strict as its left state. -/
theorem le_merge_left (disk mem : LockoutState) :
    disk.counter ≤ (disk.merge mem).counter ∧ disk.lastFailure ≤ (disk.merge mem).lastFailure := by
  rw [UInt64.le_iff_toNat_le, Int64.le_iff_toInt_le, merge_counter, merge_lastFailure]
  exact ⟨Nat.le_max_left _ _, Int.le_max_left _ _⟩

/-- Merging is commutative. -/
theorem merge_comm (disk mem : LockoutState) : disk.merge mem = mem.merge disk := by
  apply ext_numbers
  · rw [merge_counter, merge_counter, Nat.max_comm]
  · rw [merge_lastFailure, merge_lastFailure, Int.max_comm]

/-- Merging is associative. -/
theorem merge_assoc (first second third : LockoutState) :
    (first.merge second).merge third = first.merge (second.merge third) := by
  apply ext_numbers
  · simp only [merge_counter]
    omega
  · simp only [merge_lastFailure]
    omega

/-- Merging is idempotent. -/
theorem merge_self (state : LockoutState) : state.merge state = state := by
  apply ext_numbers
  · rw [merge_counter, Nat.max_self]
  · rw [merge_lastFailure, Int.max_self]

end LockoutState

/-- The remaining time of a lockout is computed without overflow, grows with the counter and the
failure time, shrinks with the clock and stays within the window; so the merged state an instance
adopts remains locked out for at least as long as the stored state and the in-process state, and
merging is idempotent, commutative and associative. -/
theorem merging_lengthens_lockouts {δ ε : Type} :
    (∀ (state : LockoutState) (now : Timestamp),
      state.remainingChecked now = some (state.remaining now) ∧
        remainingNanos (state.remaining now) ≤
          (lockoutMinutes state.counter).toNat * 60 * 10 ^ 9) ∧
    (∀ (few many : UInt64) (last : Int64) (now : Timestamp), few ≤ many →
      remainingNanos ((LockoutState.mk few last).remaining now) ≤
        remainingNanos ((LockoutState.mk many last).remaining now)) ∧
    (∀ (counter : UInt64) (last later : Int64) (now : Timestamp), last ≤ later →
      remainingNanos ((LockoutState.mk counter last).remaining now) ≤
        remainingNanos ((LockoutState.mk counter later).remaining now)) ∧
    (∀ (state : LockoutState) (earlier now : Timestamp), earlier ≤ now →
      remainingNanos (state.remaining now) ≤ remainingNanos (state.remaining earlier)) ∧
    (∀ (disk : LockoutState) (world : World δ), ∃ merged,
      (mergeLockout disk : Act δ ε LockoutState) world =
        (.ok merged, { world with lockoutMem := merged }) ∧
      ∀ now, remainingNanos (disk.remaining now) ≤ remainingNanos (merged.remaining now) ∧
        remainingNanos (world.lockoutMem.remaining now) ≤ remainingNanos (merged.remaining now)) ∧
    (∀ first second third : LockoutState, first.merge first = first ∧
      first.merge second = second.merge first ∧
      (first.merge second).merge third = first.merge (second.merge third)) := by
  have ordered {state later : LockoutState} {now earlier : Timestamp}
      (counters : state.counter ≤ later.counter)
      (failures : state.lastFailure ≤ later.lastFailure) (clocks : earlier ≤ now) :
      remainingNanos (state.remaining now) ≤ remainingNanos (later.remaining earlier) := by
    rw [LockoutState.remaining_nanos, LockoutState.remaining_nanos]
    exact Nat.mul_le_mul_right _ (LockoutState.secsLeft_mono counters failures clocks)
  refine ⟨fun state now => ⟨state.remainingChecked_eq now, ?_⟩, ?_, ?_, ?_, ?_, ?_⟩
  · rw [state.remaining_nanos]
    exact Nat.mul_le_mul_right _ (state.secsLeft_le now)
  · intro few many last now counters
    exact ordered counters (Int64.le_refl _) (UInt64.le_refl _)
  · intro counter last later now failures
    exact ordered (UInt64.le_refl _) failures (UInt64.le_refl _)
  · intro state earlier now clocks
    exact ordered (UInt64.le_refl _) (Int64.le_refl _) clocks
  · intro disk world
    refine ⟨disk.merge world.lockoutMem, rfl, fun now => ?_⟩
    have stored := LockoutState.le_merge_left disk world.lockoutMem
    have kept := LockoutState.le_merge_left world.lockoutMem disk
    rw [LockoutState.merge_comm] at kept
    exact ⟨ordered stored.1 stored.2 (UInt64.le_refl _), ordered kept.1 kept.2 (UInt64.le_refl _)⟩
  · intro first second third
    exact ⟨first.merge_self, first.merge_comm second, first.merge_assoc second third⟩

end Passman
