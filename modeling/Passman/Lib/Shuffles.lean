import Mathlib.Algebra.Group.End
import Mathlib.Logic.Equiv.Fin.Basic

/-!
# Arrangements by descending exchanges

From the last place down to the second, each place is exchanged with one that is not behind it.
Every arrangement of the places comes from exactly one choice of these exchanges: the image of the
last place is the place chosen for it, and the exchanges that remain leave the last place alone.
-/
namespace Shuffling

open Equiv (Perm)

/-- For each place from the given one down to the second, a place that is not behind it. -/
def SwapChoices : Nat → Type
  | 0 => Unit
  | i + 1 => Fin (i + 2) × SwapChoices i

/-- The exchange of two places; nothing happens when one is outside. -/
def exchange (n i j : Nat) : Perm (Fin n) :=
  if inside : i < n ∧ j < n then Equiv.swap ⟨i, inside.1⟩ ⟨j, inside.2⟩ else 1

/-- The arrangement of the chosen exchanges, the last place first. -/
def arrangement (n : Nat) : (i : Nat) → SwapChoices i → Perm (Fin n)
  | 0, _ => 1
  | i + 1, (j, rest) => exchange n (i + 1) j * arrangement n i rest

variable {n : Nat}

/-- An exchange of places inside. -/
theorem exchange_of_lt {i j : Nat} (first : i < n) (second : j < n) :
    exchange n i j = Equiv.swap ⟨i, first⟩ ⟨j, second⟩ := dif_pos ⟨first, second⟩

/-- An exchange undoes itself. -/
theorem exchange_mul_self (i j : Nat) : exchange n i j * exchange n i j = 1 := by
  unfold exchange
  by_cases inside : i < n ∧ j < n
  · rw [dif_pos inside, Equiv.swap_mul_self]
  · rw [dif_neg inside, one_mul]

/-- The exchanges leave the places behind them alone. -/
theorem arrangement_fixes {i : Nat} (inside : i < n) (choices : SwapChoices i) (k : Fin n)
    (behind : i < k.val) : arrangement n i choices k = k := by
  induction i with
  | zero => rfl
  | succ i ih =>
    obtain ⟨j, rest⟩ := choices
    have below : j.val < n := by omega
    have first : k ≠ ⟨i + 1, inside⟩ := fun same => by
      have values := congrArg Fin.val same
      dsimp only at values
      omega
    have second : k ≠ ⟨j.val, below⟩ := fun same => by
      have values := congrArg Fin.val same
      dsimp only at values
      omega
    have kept := ih (Nat.lt_of_succ_lt inside) rest (Nat.lt_of_succ_lt behind)
    rw [arrangement, Equiv.Perm.mul_apply, kept, exchange_of_lt inside below,
      Equiv.swap_apply_of_ne_of_ne first second]

/-- The image of the last place is the place chosen for it. -/
theorem arrangement_last {i : Nat} (inside : i + 1 < n) (j : Fin (i + 2)) (rest : SwapChoices i) :
    (arrangement n (i + 1) (j, rest) ⟨i + 1, inside⟩).val = j.val := by
  have below : j.val < n := by omega
  have kept :=
    arrangement_fixes (Nat.lt_of_succ_lt inside) rest ⟨i + 1, inside⟩ (Nat.lt_succ_self i)
  rw [arrangement, Equiv.Perm.mul_apply, kept, exchange_of_lt inside below, Equiv.swap_apply_left]

/-- A permutation that leaves the places behind one alone takes none of the others behind it. -/
theorem apply_le {i : Nat} {σ : Perm (Fin n)} (fixes : ∀ k : Fin n, i < k.val → σ k = k)
    {k : Fin n} (front : k.val ≤ i) : (σ k).val ≤ i := by
  by_contra beyond
  have fixed := fixes (σ k) (Nat.lt_of_not_le beyond)
  have same := σ.injective fixed
  rw [same] at beyond
  exact beyond front

/-- Every permutation that leaves the places behind one alone comes from exactly one choice of
exchanges down from it. -/
theorem existsUnique_arrangement {i : Nat} (inside : i < n) (σ : Perm (Fin n))
    (fixes : ∀ k : Fin n, i < k.val → σ k = k) :
    ∃! choices : SwapChoices i, arrangement n i choices = σ := by
  induction i generalizing σ with
  | zero =>
    have identity : σ = 1 := by
      ext k
      rw [Equiv.Perm.one_apply]
      by_cases front : k.val ≤ 0
      · have stays := apply_le fixes front
        omega
      · rw [fixes k (Nat.lt_of_not_le front)]
    exact ⟨(), identity.symm, fun _ _ => rfl⟩
  | succ i ih =>
    let last : Fin n := ⟨i + 1, inside⟩
    have image : (σ last).val ≤ i + 1 := apply_le fixes (Nat.le_refl _)
    let j : Fin (i + 2) := ⟨(σ last).val, Nat.lt_succ_of_le image⟩
    let rest := exchange n (i + 1) j * σ
    have swaps : exchange n (i + 1) j = Equiv.swap last (σ last) :=
      exchange_of_lt inside (σ last).isLt
    have restFixes : ∀ k : Fin n, i < k.val → rest k = k := by
      intro k behind
      have applied : rest k = Equiv.swap last (σ last) (σ k) := by
        rw [← swaps]
        rfl
      rw [applied]
      by_cases top : k = last
      · rw [top, Equiv.swap_apply_right]
      · have higher : i + 1 < k.val := by
          have differ : k.val ≠ i + 1 := fun same => top (Fin.ext same)
          omega
        rw [fixes k higher]
        have apart : k ≠ σ last := fun same => by
          have values := congrArg Fin.val same
          omega
        rw [Equiv.swap_apply_of_ne_of_ne top apart]
    obtain ⟨choices, made, unique⟩ := ih (Nat.lt_of_succ_lt inside) rest restFixes
    refine ⟨(j, choices), ?_, ?_⟩
    · change exchange n (i + 1) j * arrangement n i choices = σ
      rw [made, ← mul_assoc, exchange_mul_self, one_mul]
    · rintro ⟨other, others⟩ same
      have chosen : other = j := by
        have value := arrangement_last inside other others
        rw [same] at value
        exact Fin.ext value.symm
      subst chosen
      have remaining : arrangement n i others = rest := by
        change exchange n (i + 1) j * arrangement n i others = σ at same
        change arrangement n i others = exchange n (i + 1) j * σ
        rw [← same, ← mul_assoc, exchange_mul_self, one_mul]
      rw [unique others remaining]

/-- The choices of exchanges are in one-to-one correspondence with all arrangements. -/
theorem arrangement_bijective (n : Nat) : Function.Bijective (arrangement n (n - 1)) := by
  rw [Function.bijective_iff_existsUnique]
  intro σ
  cases n with
  | zero => exact ⟨(), Subsingleton.elim _ _, fun _ _ => rfl⟩
  | succ n =>
    refine existsUnique_arrangement (Nat.lt_succ_self n) σ fun k behind => ?_
    exact absurd k.isLt (by omega)

end Shuffling
