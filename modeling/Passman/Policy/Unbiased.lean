import Mathlib.Algebra.BigOperators.Group.Finset.Basic
import Mathlib.Data.Set.Card
import Passman.Lib.Shuffles
import Passman.Policy.Generate

/-!
# Sampling and shuffling without bias

A bound accepts the draws below its largest multiple, so every index below it is hit by the same
number of draws, and at least half of all draws are accepted. A shuffle applies one exchange for
each accepted draw, and every arrangement comes from one choice of exchanges, so every arrangement
is hit by the same number of sequences of accepted draws.
-/
namespace Passman

open Fallible Drawing Shuffling
open Equiv (Perm)

/-- How many draws a bound accepts for each index. -/
def drawsPerIndex (bound : Nat) : Nat := (2 ^ 32 - 1) / bound

/-- The index a draw is accepted for. -/
def acceptBelow (bound : Nat) (draw : UInt32) : Option Nat :=
  if draw.toNat < bound * drawsPerIndex bound then some (draw.toNat % bound) else none

/-- The draws that are accepted at once and give the index. -/
def acceptedAs (bound index : Nat) : Set UInt32 :=
  {draw | drawBelow (saturate bound) [draw] = (.ok index, [])}

/-- The sequences of accepted draws that give the chosen exchanges, one draw for each. -/
def acceptedSequences : (i : Nat) → SwapChoices i → Set (List UInt32)
  | 0, _ => {[]}
  | i + 1, (j, rest) =>
    (fun pair : UInt32 × List UInt32 => pair.1 :: pair.2) ''
      (acceptedAs (i + 2) j ×ˢ acceptedSequences i rest)

/-- The buffer with the places arranged: each place holds what its image held. -/
def rearranged {n : Nat} (σ : Perm (Fin n)) (buf : Vector Char n) : Vector Char n :=
  Vector.ofFn fun k => buf[(σ k).val]

section Index

variable {bound : Nat}

/-- A bound in range draws the first index that is accepted. -/
theorem drawBelow_eq_firstThat (positive : 0 < bound) (small : bound < 2 ^ 32) :
    drawBelow (saturate bound) = firstThat (acceptBelow bound) := by
  have exact' : (saturate bound).toNat = bound := by
    rw [saturate_toNat]
    omega
  have nonzero : saturate bound ≠ 0 := by
    intro zero
    rw [zero] at exact'
    have none : (0 : UInt32).toNat = 0 := rfl
    omega
  have top : u32Max.toNat = 2 ^ 32 - 1 := rfl
  have multiple := Nat.div_add_mod (2 ^ 32 - 1) bound
  have zone : (u32Max - u32Max % saturate bound).toNat = bound * drawsPerIndex bound := by
    rw [UInt32.toNat_sub_of_le, UInt32.toNat_mod, exact', top, drawsPerIndex]
    · omega
    · rw [UInt32.le_iff_toNat_le, UInt32.toNat_mod, exact', top]
      omega
  rw [drawBelow, if_neg nonzero]
  refine congrArg firstThat (funext fun draw => ?_)
  rw [acceptBelow, UInt32.toNat_mod, exact', ← zone]
  by_cases low : draw < u32Max - u32Max % saturate bound
  · rw [if_pos low, if_pos (UInt32.lt_iff_toNat_lt.mp low)]
  · rw [if_neg low, if_neg (fun below => low (UInt32.lt_iff_toNat_lt.mpr below))]

/-- A single draw is accepted for its index. -/
theorem mem_acceptedAs (positive : 0 < bound) (small : bound < 2 ^ 32) {index : Nat}
    {draw : UInt32} : draw ∈ acceptedAs bound index ↔ acceptBelow bound draw = some index := by
  change drawBelow (saturate bound) [draw] = (.ok index, []) ↔ _
  rw [drawBelow_eq_firstThat positive small, firstThat]
  cases acceptBelow bound draw with
  | none =>
    rw [firstThat]
    simp
  | some found => simp

/-- An accepted draw is taken from the front of any draws. -/
theorem drawBelow_accepted (positive : 0 < bound) (small : bound < 2 ^ 32) {index : Nat}
    {draw : UInt32} (accepted : draw ∈ acceptedAs bound index) (rest : List UInt32) :
    drawBelow (saturate bound) (draw :: rest) = (.ok index, rest) := by
  rw [mem_acceptedAs positive small] at accepted
  rw [drawBelow_eq_firstThat positive small, firstThat, accepted]

/-- The zone of a bound lies in the range of draws. -/
theorem zone_lt (bound : Nat) : bound * drawsPerIndex bound < 2 ^ 32 := by
  have most := Nat.mul_div_le (2 ^ 32 - 1) bound
  rw [drawsPerIndex]
  omega

/-- The draws accepted for an index are spaced by the bound. -/
theorem acceptedAs_eq_image (positive : 0 < bound) (small : bound < 2 ^ 32) {index : Nat}
    (below : index < bound) : acceptedAs bound index =
      (fun k => UInt32.ofNat (index + bound * k)) ''
        (Finset.range (drawsPerIndex bound) : Set Nat) := by
  have inside := zone_lt bound
  ext draw
  rw [mem_acceptedAs positive small, acceptBelow, Set.mem_image]
  constructor
  · intro accepted
    split at accepted
    · next low =>
      obtain rfl := Option.some.inj accepted
      refine ⟨draw.toNat / bound, ?_, ?_⟩
      · rw [Finset.mem_coe, Finset.mem_range]
        exact Nat.div_lt_of_lt_mul low
      · rw [Nat.mod_add_div]
        exact UInt32.ofNat_toNat
    · cases accepted
  · rintro ⟨k, member, rfl⟩
    rw [Finset.mem_coe, Finset.mem_range] at member
    have low : index + bound * k < bound * drawsPerIndex bound := by
      calc
        index + bound * k < bound + bound * k := Nat.add_lt_add_right below _
        _ = bound * (k + 1) := by rw [Nat.mul_succ, Nat.add_comm]
        _ ≤ bound * drawsPerIndex bound := Nat.mul_le_mul_left _ member
    have same : (UInt32.ofNat (index + bound * k)).toNat = index + bound * k := by
      rw [UInt32.toNat_ofNat']
      exact Nat.mod_eq_of_lt (low.trans inside)
    rw [same, if_pos low, Nat.add_mul_mod_self_left, Nat.mod_eq_of_lt below]

/-- Every index below a bound is hit by the same number of draws. -/
theorem ncard_acceptedAs (positive : 0 < bound) (small : bound < 2 ^ 32) {index : Nat}
    (below : index < bound) : (acceptedAs bound index).ncard = drawsPerIndex bound := by
  have inside := zone_lt bound
  have low (k : Nat) (member : k ∈ (Finset.range (drawsPerIndex bound) : Set Nat)) :
      index + bound * k < 2 ^ 32 := by
    rw [Finset.mem_coe, Finset.mem_range] at member
    have most : bound * (k + 1) ≤ bound * drawsPerIndex bound := Nat.mul_le_mul_left _ member
    rw [Nat.mul_succ] at most
    omega
  have injective : Set.InjOn (fun k => UInt32.ofNat (index + bound * k))
      (Finset.range (drawsPerIndex bound) : Set Nat) := by
    intro left leftMember right rightMember same
    have values := congrArg UInt32.toNat same
    dsimp only at values
    rw [UInt32.toNat_ofNat', UInt32.toNat_ofNat', Nat.mod_eq_of_lt (low left leftMember),
      Nat.mod_eq_of_lt (low right rightMember)] at values
    exact Nat.eq_of_mul_eq_mul_left positive (Nat.add_left_cancel values)
  rw [acceptedAs_eq_image positive small below, injective.ncard_image, Set.ncard_coe_finset,
    Finset.card_range]

/-- The accepted draws are those in the zone. -/
theorem accepted_eq_image (positive : 0 < bound) (small : bound < 2 ^ 32) :
    {draw | ∃ index, draw ∈ acceptedAs bound index} =
      UInt32.ofNat '' (Finset.range (bound * drawsPerIndex bound) : Set Nat) := by
  have inside := zone_lt bound
  ext draw
  rw [Set.mem_ofPred_eq, Set.mem_image]
  constructor
  · rintro ⟨index, accepted⟩
    rw [mem_acceptedAs positive small, acceptBelow] at accepted
    split at accepted
    · next low =>
      refine ⟨draw.toNat, ?_, UInt32.ofNat_toNat⟩
      rw [Finset.mem_coe, Finset.mem_range]
      exact low
    · cases accepted
  · rintro ⟨value, member, rfl⟩
    rw [Finset.mem_coe, Finset.mem_range] at member
    have same : (UInt32.ofNat value).toNat = value := by
      rw [UInt32.toNat_ofNat']
      exact Nat.mod_eq_of_lt (member.trans inside)
    refine ⟨value % bound, ?_⟩
    rw [mem_acceptedAs positive small, acceptBelow, same, if_pos member]

/-- At least half of all draws are accepted. -/
theorem half_accepted (positive : 0 < bound) (small : bound < 2 ^ 32) :
    2 ^ 32 ≤ 2 * {draw | ∃ index, draw ∈ acceptedAs bound index}.ncard := by
  have inside := zone_lt bound
  have injective : Set.InjOn UInt32.ofNat
      (Finset.range (bound * drawsPerIndex bound) : Set Nat) := by
    intro left leftMember right rightMember same
    rw [Finset.mem_coe, Finset.mem_range] at leftMember rightMember
    have values := congrArg UInt32.toNat same
    rw [UInt32.toNat_ofNat', UInt32.toNat_ofNat', Nat.mod_eq_of_lt (leftMember.trans inside),
      Nat.mod_eq_of_lt (rightMember.trans inside)] at values
    exact values
  rw [accepted_eq_image positive small, injective.ncard_image, Set.ncard_coe_finset,
    Finset.card_range]
  -- One multiple of the bound fits, and one more than fit exceeds the largest draw.
  have once : 1 ≤ drawsPerIndex bound := Nat.div_pos (Nat.le_pred_of_lt small) positive
  have several : bound ≤ bound * drawsPerIndex bound := Nat.le_mul_of_pos_right bound once
  have division := Nat.div_add_mod (2 ^ 32 - 1) bound
  have remainder : (2 ^ 32 - 1) % bound < bound := Nat.mod_lt _ positive
  rw [← drawsPerIndex] at division
  omega

/-- A character is selected at the index of an accepted draw. -/
theorem uniformFrom_accepted {pool : List Char} {index : Nat} (inside : index < pool.length)
    {draw : UInt32} (accepted : draw ∈ acceptedAs pool.length index) :
    uniformFrom pool [draw] = (.ok pool[index], []) := by
  rw [uniformFrom, Op.bind_ok accepted, List.getElem?_eq_getElem inside]
  rfl

end Index

section Shuffle

variable {n : Nat}

/-- Each place holds what its image held. -/
theorem rearranged_getElem (σ : Perm (Fin n)) (buf : Vector Char n) {k : Nat} (inside : k < n) :
    (rearranged σ buf)[k] = buf[(σ ⟨k, inside⟩).val] := Vector.getElem_ofFn inside

/-- Arranging nothing keeps the buffer. -/
theorem rearranged_one (buf : Vector Char n) : rearranged 1 buf = buf :=
  Vector.ext fun _ inside => rearranged_getElem 1 buf inside

/-- Arrangements of a buffer compose. -/
theorem rearranged_mul (σ τ : Perm (Fin n)) (buf : Vector Char n) :
    rearranged (σ * τ) buf = rearranged τ (rearranged σ buf) := by
  refine Vector.ext fun k inside => ?_
  rw [rearranged_getElem, rearranged_getElem, rearranged_getElem]
  rfl

/-- The arrangement of every buffer determines the permutation. -/
theorem rearranged_injective {σ τ : Perm (Fin n)}
    (same : ∀ buf : Vector Char n, rearranged σ buf = rearranged τ buf) : σ = τ := by
  ext k
  -- The buffer marks one place only.
  let marks : Vector Char n := Vector.ofFn fun place => if place = σ k then 'x' else 'o'
  have placed : (rearranged σ marks)[k.val] = (rearranged τ marks)[k.val] := by rw [same marks]
  rw [rearranged_getElem, rearranged_getElem, Vector.getElem_ofFn, Vector.getElem_ofFn] at placed
  by_contra differ
  rw [if_pos rfl, if_neg (fun equal => differ (congrArg Fin.val equal).symm)] at placed
  exact absurd placed (by decide)

/-- An exchange of two places arranges the buffer. -/
theorem swapAt_run {i j : Nat} (first : i < n) (second : j < n) (buf : Vector Char n)
    (draws : List UInt32) : swapAt buf.toArray i j draws =
      (.ok (rearranged (exchange n i j) buf).toArray, draws) := by
  have both : i < buf.toArray.size ∧ j < buf.toArray.size := by
    rw [buf.size_toArray]
    exact ⟨first, second⟩
  have swapped : buf.swap i j first second = rearranged (exchange n i j) buf := by
    refine Vector.ext fun k inside => ?_
    rw [rearranged_getElem, exchange_of_lt first second, Vector.getElem_swap]
    simp only [Equiv.swap_apply_def, Fin.mk.injEq]
    by_cases here : k = i
    · simp only [if_pos here]
    · by_cases there : k = j
      · simp only [if_neg here, if_pos there]
      · simp only [if_neg here, if_neg there]
  rw [swapAt, dif_pos both, ← swapped]
  rfl

/-- Accepted draws give the arrangement of their exchanges. -/
theorem shuffleDown_accepted {i : Nat} (inside : i ≤ n - 1) (small : n < 2 ^ 32)
    {choices : SwapChoices i} {draws : List UInt32}
    (accepted : draws ∈ acceptedSequences i choices) (buf : Vector Char n) :
    shuffleDown i buf.toArray draws =
      (.ok (rearranged (arrangement n i choices) buf).toArray, []) := by
  induction i generalizing draws buf with
  | zero =>
    obtain rfl := accepted
    rw [arrangement, rearranged_one]
    rfl
  | succ i ih =>
    obtain ⟨j, rest⟩ := choices
    obtain ⟨⟨draw, draws⟩, ⟨here, there⟩, rfl⟩ := accepted
    have place : i + 1 < n := by omega
    have below : j.val < n := by omega
    have first := drawBelow_accepted (by omega) (by omega) here draws
    have swapped := swapAt_run place below buf draws
    have later := ih (by omega) there (rearranged (exchange n (i + 1) j) buf)
    rw [shuffleDown, Op.bind_ok first, Op.bind_ok swapped, later, arrangement, rearranged_mul]

/-- A draw leaves fewer draws than there were; one that leaves one fewer is accepted. -/
theorem firstThat_shorter {accept : UInt32 → Option Nat} {draws rest : List UInt32} {index : Nat}
    (ran : firstThat accept draws = (.ok index, rest)) : rest.length < draws.length ∧
      (rest.length + 1 = draws.length →
        ∃ draw, draws = draw :: rest ∧ accept draw = some index) := by
  induction draws with
  | nil => cases ran
  | cons draw draws ih =>
    rw [firstThat] at ran
    cases found : accept draw with
    | none =>
      rw [found] at ran
      obtain ⟨shorter, _⟩ := ih ran
      rw [List.length_cons]
      exact ⟨by omega, fun tight => by omega⟩
    | some value =>
      rw [found] at ran
      obtain ⟨same, rfl⟩ := Prod.mk.inj ran
      obtain rfl := Except.ok.inj same
      exact ⟨Nat.lt_succ_self _, fun _ => ⟨draw, rfl, found⟩⟩

/-- A shuffle takes a draw for each exchange at least; one that takes no more takes accepted draws
of some choice of exchanges. -/
theorem shuffleDown_tight {i : Nat} (inside : i ≤ n - 1) (small : n < 2 ^ 32) {buf : Vector Char n}
    {draws rest : List UInt32} {after : Array Char}
    (ran : shuffleDown i buf.toArray draws = (.ok after, rest)) :
    rest.length + i ≤ draws.length ∧ (rest.length + i = draws.length →
      ∃ choices, ∃ taken ∈ acceptedSequences i choices, draws = taken ++ rest) := by
  induction i generalizing draws buf with
  | zero =>
    obtain ⟨_, rfl⟩ := Prod.mk.inj ran
    exact ⟨Nat.le_refl _, fun _ => ⟨(), [], rfl, rfl⟩⟩
  | succ i ih =>
    obtain ⟨index, middle, drawn, continued⟩ := Op.bind_ok_cases ran
    have bound : i + 2 < 2 ^ 32 := by omega
    have below : index < i + 2 := (drawBelow_paced (by omega)).returned drawn
    obtain ⟨buf', middle', swapped, later⟩ := Op.bind_ok_cases continued
    have place : i + 1 < n := by omega
    rw [swapAt_run place (by omega) buf middle] at swapped
    obtain ⟨same, rfl⟩ := Prod.mk.inj swapped
    obtain rfl := Except.ok.inj same
    obtain ⟨enough, tight⟩ := ih (by omega) later
    rw [drawBelow_eq_firstThat (by omega) bound] at drawn
    obtain ⟨shorter, front⟩ := firstThat_shorter drawn
    refine ⟨by omega, fun exact' => ?_⟩
    obtain ⟨draw, rfl, accepted⟩ := front (by omega)
    rw [List.length_cons] at exact'
    obtain ⟨choices, taken, member, rfl⟩ := tight (by omega)
    have here : draw ∈ acceptedAs (i + 2) index := (mem_acceptedAs (by omega) bound).mpr accepted
    exact ⟨(⟨index, below⟩, choices), draw :: taken, ⟨(draw, taken), ⟨here, member⟩, rfl⟩, rfl⟩

/-- A sequence of accepted draws has one for each exchange. -/
theorem acceptedSequences_length {i : Nat} {choices : SwapChoices i} {draws : List UInt32}
    (member : draws ∈ acceptedSequences i choices) : draws.length = i := by
  induction i generalizing draws with
  | zero =>
    obtain rfl := member
    rfl
  | succ i ih =>
    obtain ⟨j, rest⟩ := choices
    obtain ⟨⟨draw, draws⟩, ⟨_, there⟩, rfl⟩ := member
    rw [List.length_cons, ih there]

/-- Every choice of exchanges has the same number of sequences of accepted draws. -/
theorem ncard_acceptedSequences {i : Nat} (small : i + 1 < 2 ^ 32) (choices : SwapChoices i) :
    (acceptedSequences i choices).ncard =
      ∏ k ∈ Finset.range i, drawsPerIndex (k + 2) := by
  induction i with
  | zero => exact Set.ncard_singleton []
  | succ i ih =>
    obtain ⟨j, rest⟩ := choices
    have injective : Function.Injective (fun pair : UInt32 × List UInt32 => pair.1 :: pair.2) := by
      intro left right same
      obtain ⟨heads, tails⟩ := List.cons.inj same
      exact Prod.ext heads tails
    rw [acceptedSequences, Set.ncard_image_of_injective _ injective, Set.ncard_prod,
      ncard_acceptedAs (by omega) (by omega) j.isLt, ih (by omega) rest, Finset.prod_range_succ,
      Nat.mul_comm]

/-- A shuffle runs down from the last place. -/
theorem shuffle_eq (buf : Vector Char n) :
    shuffle buf.toArray = shuffleDown (n - 1) buf.toArray := by
  rw [shuffle, buf.size_toArray]
  by_cases single : n < 2
  · have none : n - 1 = 0 := by omega
    rw [if_pos single, none]
    rfl
  · rw [if_neg single]

/-- The sequences of draws that arrange every buffer by a permutation, one draw for each exchange,
are the accepted sequences of its choice of exchanges. -/
theorem sequences_eq (small : n < 2 ^ 32) (choices : SwapChoices (n - 1)) :
    {draws : List UInt32 | draws.length = n - 1 ∧ ∀ buf : Vector Char n,
      shuffle buf.toArray draws =
        (.ok (rearranged (arrangement n (n - 1) choices) buf).toArray, [])} =
      acceptedSequences (n - 1) choices := by
  ext draws
  rw [Set.mem_ofPred_eq]
  constructor
  · rintro ⟨counted, arranges⟩
    have ran := arranges (Vector.replicate n 'x')
    rw [shuffle_eq] at ran
    have tight := (shuffleDown_tight (Nat.le_refl _) small ran).2
    rw [List.length_nil, Nat.zero_add] at tight
    obtain ⟨found, taken, member, same⟩ := tight counted.symm
    rw [List.append_nil] at same
    obtain rfl := same
    have equal : arrangement n (n - 1) found = arrangement n (n - 1) choices := by
      refine rearranged_injective fun buf => ?_
      have given := arranges buf
      rw [shuffle_eq, shuffleDown_accepted (Nat.le_refl _) small member] at given
      exact Vector.toArray_inj.mp (Except.ok.inj (Prod.mk.inj given).1)
    rw [← (arrangement_bijective n).injective equal]
    exact member
  · intro member
    refine ⟨acceptedSequences_length member, fun buf => ?_⟩
    rw [shuffle_eq]
    exact shuffleDown_accepted (Nat.le_refl _) small member buf

end Shuffle

/-- Sampling and shuffling have no bias. For a pool of a size in range, every index is hit by the
same number of draws, its character is selected by each of them, and at least half of all draws are
accepted. For a buffer of a length in range, the choices of exchanges are in one-to-one
correspondence with the arrangements, each exchange again has the same number of draws for every
place it may choose, accepted draws give the arrangement of their exchanges whatever the buffer
holds, and every arrangement is given by the same number of sequences of accepted draws. -/
theorem sampling_is_unbiased :
    (∀ n : Nat, 1 ≤ n → n < 2 ^ 32 →
      (∀ index < n, (acceptedAs n index).ncard = drawsPerIndex n) ∧
      (∀ (pool : List Char) (index : Nat) (inside : index < pool.length), pool.length = n →
        ∀ draw ∈ acceptedAs n index, uniformFrom pool [draw] = (.ok pool[index], [])) ∧
      2 ^ 32 ≤ 2 * {draw | ∃ index, draw ∈ acceptedAs n index}.ncard) ∧
    (∀ n < 2 ^ 32, Function.Bijective (arrangement n (n - 1)) ∧
      (∀ i, 1 ≤ i → i < n → ∀ j ≤ i, (acceptedAs (i + 1) j).ncard = drawsPerIndex (i + 1)) ∧
      (∀ (choices : SwapChoices (n - 1)), ∀ draws ∈ acceptedSequences (n - 1) choices,
        ∀ buf : Vector Char n, shuffle buf.toArray draws =
          (.ok (rearranged (arrangement n (n - 1) choices) buf).toArray, [])) ∧
      ∀ σ : Perm (Fin n), {draws : List UInt32 | draws.length = n - 1 ∧
        ∀ buf : Vector Char n, shuffle buf.toArray draws =
          (.ok (rearranged σ buf).toArray, [])}.ncard =
        ∏ k ∈ Finset.range (n - 1), drawsPerIndex (k + 2)) := by
  refine ⟨fun n positive small => ⟨fun index below => ncard_acceptedAs positive small below, ?_,
    half_accepted positive small⟩, fun n small => ⟨arrangement_bijective n, ?_, ?_, fun σ => ?_⟩⟩
  · rintro pool index inside rfl draw accepted
    exact uniformFrom_accepted inside accepted
  · intro i _ inside j below
    exact ncard_acceptedAs (by omega) (by omega) (by omega)
  · intro choices draws accepted buf
    rw [shuffle_eq]
    exact shuffleDown_accepted (Nat.le_refl _) small accepted buf
  · obtain ⟨choices, rfl⟩ := (arrangement_bijective n).surjective σ
    rw [sequences_eq small]
    cases n with
    | zero => exact ncard_acceptedSequences (by decide) choices
    | succ n => exact ncard_acceptedSequences (by omega) choices

end Passman
