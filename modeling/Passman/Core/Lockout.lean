import Passman.Hsm.Store
import Passman.Lib.Words
import Passman.Totp.Verifier

/-!
# The advisory lockout

A counter of consecutive failures and the time of the last one determine a window in
which attempts are refused. A clock set back before the last failure leaves the whole
window in effect.
-/
namespace Passman

open Words

/-- Seconds in a minute. -/
def secsPerMin : UInt64 := 60

/-- The longest window, in minutes. -/
def maxLockoutMin : UInt64 := 1440

/-- Failures below this count carry no window. -/
def freeAttempts : UInt64 := 3

/-- Failures from this count on carry the longest window. -/
def capAtAttempts : UInt64 := 11

/-- The window of a number of consecutive failures, in minutes. -/
def lockoutMinutes (counter : UInt64) : UInt64 :=
  if counter < freeAttempts then 0
  else if counter ≥ capAtAttempts then maxLockoutMin
  else min (10 * ((1 : UInt64) <<< (counter - freeAttempts))) maxLockoutMin

/-- No window is longer than the longest. -/
theorem lockoutMinutes_le (counter : UInt64) : (lockoutMinutes counter).toNat ≤ 1440 := by
  unfold lockoutMinutes
  have longest : maxLockoutMin.toNat = 1440 := rfl
  split
  · decide
  · split
    · exact longest.le
    · have smaller (left : UInt64) : min left maxLockoutMin ≤ maxLockoutMin := by
        change (if left ≤ maxLockoutMin then left else maxLockoutMin) ≤ _
        split
        · assumption
        · exact UInt64.le_refl _
      exact UInt64.le_iff_toNat_le.mp (smaller _)

/-- From the first counter that carries a window on, windows do not shrink. -/
theorem lockoutMinutes_mono {few many : UInt64} (ordered : few ≤ many) :
    (lockoutMinutes few).toNat ≤ (lockoutMinutes many).toNat := by
  have small : ∀ left right : Fin 11, left ≤ right →
      (lockoutMinutes (UInt64.ofNat left.val)).toNat ≤
        (lockoutMinutes (UInt64.ofNat right.val)).toNat := by decide
  have named (word : UInt64) : word = UInt64.ofNat word.toNat := (UInt64.ofNat_toNat).symm
  rw [UInt64.le_iff_toNat_le] at ordered
  by_cases capped : capAtAttempts ≤ many
  · have longest : lockoutMinutes many = maxLockoutMin := by
      have counted : ¬ many < freeAttempts := by
        rw [UInt64.le_iff_toNat_le] at capped
        rw [UInt64.lt_iff_toNat_lt]
        have cap : capAtAttempts.toNat = 11 := rfl
        have free : freeAttempts.toNat = 3 := rfl
        omega
      rw [lockoutMinutes, if_neg counted, if_pos capped]
    rw [longest]
    exact lockoutMinutes_le few
  · have below : many.toNat < 11 := by
      rw [UInt64.le_iff_toNat_le] at capped
      have cap : capAtAttempts.toNat = 11 := rfl
      omega
    have smaller := small ⟨few.toNat, by omega⟩ ⟨many.toNat, below⟩ ordered
    rwa [← named, ← named] at smaller

/-- A counter with a window. -/
theorem lockoutMinutes_pos {counter : UInt64} (enough : 3 ≤ counter.toNat) :
    10 ≤ (lockoutMinutes counter).toNat := by
  have first : (lockoutMinutes 3).toNat = 10 := rfl
  have ordered : (3 : UInt64) ≤ counter := UInt64.le_iff_toNat_le.mpr enough
  rw [← first]
  exact lockoutMinutes_mono ordered

/-- The advisory rate-limit state; a failure time of zero means none. -/
structure LockoutState where
  /-- Consecutive failures. -/
  counter : UInt64
  /-- Unix seconds of the last failure. -/
  lastFailure : Int64
  deriving DecidableEq

namespace LockoutState

/-- The state without failures. -/
def reset : LockoutState := ⟨0, 0⟩

/-- How long a lockout remains in effect at a time, if one is. -/
def remaining (state : LockoutState) (now : Timestamp) : Option Duration :=
  let windowMin := lockoutMinutes state.counter
  if windowMin = 0 then none
  else
    let windowSecs := saturatingMul windowMin secsPerMin
    if state.lastFailure ≤ 0 then none
    else
      let last := state.lastFailure.toUInt64
      let unlockAt := saturatingAdd last windowSecs
      if now ≥ unlockAt then none
      else if now < last then some (.fromSecs windowSecs)
      else some (.fromSecs (unlockAt - now))

/-- The state after one more failure. -/
def afterFailure (state : LockoutState) (now : Timestamp) : LockoutState :=
  ⟨saturatingAdd state.counter 1, toI64 now⟩

/-- The conservative merge of two states: the larger counter and the later failure. -/
def merge (disk mem : LockoutState) : LockoutState :=
  ⟨max disk.counter mem.counter, max disk.lastFailure mem.lastFailure⟩

/-- A window is in effect until it has passed since the last failure, whatever the clock did. -/
theorem remaining_ne_none {state : LockoutState} {now last : Timestamp} {minutes : Nat}
    (stamped : state.lastFailure = toI64 last) (positive : 0 < last.toNat)
    (small : last.toNat < 2 ^ 63) (counted : 3 ≤ state.counter.toNat)
    (covers : minutes ≤ (lockoutMinutes state.counter).toNat)
    (inside : now.toNat < last.toNat + 60 * minutes) : state.remaining now ≠ none := by
  have some : 10 ≤ (lockoutMinutes state.counter).toNat := lockoutMinutes_pos counted
  have most : (lockoutMinutes state.counter).toNat ≤ 1440 := lockoutMinutes_le _
  have window : ¬ lockoutMinutes state.counter = 0 := by
    intro zero
    rw [zero] at some
    have none : (0 : UInt64).toNat = 0 := rfl
    omega
  have unlockAt : (saturatingAdd last (saturatingMul (lockoutMinutes state.counter)
      secsPerMin)).toNat = last.toNat + (lockoutMinutes state.counter).toNat * 60 := by
    have minute : secsPerMin.toNat = 60 := rfl
    rw [saturatingAdd_toNat, saturatingMul_toNat, minute]
    omega
  have early : ¬ now ≥ saturatingAdd last (saturatingMul (lockoutMinutes state.counter)
      secsPerMin) := by
    rw [ge_iff_le, UInt64.le_iff_toNat_le, unlockAt]
    omega
  have positiveStamp : ¬ state.lastFailure ≤ 0 := by
    rw [stamped]
    exact toI64_pos last positive small
  have unstamped : state.lastFailure.toUInt64 = last := by
    rw [stamped, toUInt64_toI64 last small]
  rw [remaining, if_neg window, if_neg positiveStamp]
  simp only [unstamped]
  rw [if_neg early]
  split <;> simp

end LockoutState

end Passman
