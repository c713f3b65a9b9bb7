import Mathlib.Algebra.Ring.Nat
import Mathlib.Data.List.Sort
import Mathlib.Data.List.Nodup
import Mathlib.Data.List.Perm.Basic
import Mathlib.Tactic.Common

/-!
# Lists keyed by an identifier

A list whose elements carry a key behaves as a finite map under three operations:
the first match, replacement in place or append, and removal of every match. Two
such lists agree when neither repeats a key and both carry the same keys, and the
operations keep that agreement. A check by sorting decides it.
-/
namespace Keyed

variable {κ α β : Type} [DecidableEq κ]

/-- The first element with the given key. -/
def lookup (key : α → κ) (k : κ) (xs : List α) : Option α := xs.find? fun x => key x = k

/-- Replace the first element with the same key, or append. -/
def upsert (key : α → κ) (x : α) : List α → List α
  | [] => [x]
  | y :: ys => if key y = key x then x :: ys else y :: upsert key x ys

/-- Drop every element with the given key. -/
def remove (key : α → κ) (k : κ) (xs : List α) : List α := xs.filter fun x => key x ≠ k

section Single

variable (key : α → κ)

/-- Nothing is found in the empty list. -/
@[simp] theorem lookup_nil (k : κ) : lookup key k [] = none := rfl

/-- The head answers for its own key. -/
theorem lookup_cons (k : κ) (x : α) (xs : List α) :
    lookup key k (x :: xs) = if key x = k then some x else lookup key k xs := by
  by_cases same : key x = k <;> simp [lookup, same]

/-- A found element carries the key and belongs to the list. -/
theorem lookup_some {k : κ} {x : α} {xs : List α} (found : lookup key k xs = some x) :
    x ∈ xs ∧ key x = k :=
  ⟨List.mem_of_find?_eq_some found, by simpa using List.find?_some found⟩

/-- A lookup fails exactly on absent keys. -/
theorem lookup_eq_none {k : κ} {xs : List α} : lookup key k xs = none ↔ k ∉ xs.map key := by
  simp [lookup, List.find?_eq_none]

/-- A lookup succeeds exactly on present keys. -/
theorem lookup_isSome {k : κ} {xs : List α} : (lookup key k xs).isSome ↔ k ∈ xs.map key := by
  rw [← not_iff_not, ← lookup_eq_none key, Option.not_isSome_iff_eq_none]

/-- Without repeated keys, a lookup finds every member at its own key. -/
theorem lookup_mem {xs : List α} (distinct : (xs.map key).Nodup) {x : α} (member : x ∈ xs) :
    lookup key (key x) xs = some x := by
  cases found : lookup key (key x) xs with
  | none => exact absurd (List.mem_map_of_mem member) ((lookup_eq_none key).mp found)
  | some other =>
    obtain ⟨belongs, same⟩ := lookup_some key found
    rw [List.inj_on_of_nodup_map distinct belongs member same]

/-- After a replacement only the written key answers differently. -/
theorem lookup_upsert (k : κ) (x : α) (xs : List α) :
    lookup key k (upsert key x xs) = if key x = k then some x else lookup key k xs := by
  induction xs with
  | nil => rw [upsert, lookup_cons]
  | cons y ys ih =>
    rw [upsert]
    by_cases same : key y = key x
    · rw [if_pos same, lookup_cons, lookup_cons, same]
      split <;> rfl
    · rw [if_neg same, lookup_cons, ih, lookup_cons]
      by_cases hit : key y = k
      · rw [if_pos hit, if_pos hit, if_neg (fun other => same (hit.trans other.symm))]
      · rw [if_neg hit, if_neg hit]

/-- A replacement changes nothing exactly when the element is the one found already. -/
theorem upsert_eq_self {x : α} {xs : List α} :
    upsert key x xs = xs ↔ lookup key (key x) xs = some x := by
  induction xs with
  | nil => simp [upsert]
  | cons y ys ih =>
    rw [upsert, lookup_cons]
    by_cases same : key y = key x
    · rw [if_pos same, if_pos same, List.cons.injEq, Option.some.injEq, eq_comm]
      exact and_iff_left rfl
    · rw [if_neg same, if_neg same, List.cons.injEq, ih]
      exact and_iff_right rfl

/-- After a removal only the removed key answers differently. -/
theorem lookup_remove (k gone : κ) (xs : List α) :
    lookup key k (remove key gone xs) = if gone = k then none else lookup key k xs := by
  induction xs with
  | nil => simp [remove]
  | cons y ys ih =>
    by_cases dropped : key y = gone
    · have skip : remove key gone (y :: ys) = remove key gone ys := by simp [remove, dropped]
      rw [skip, ih, lookup_cons, dropped]
      split <;> rfl
    · have keep : remove key gone (y :: ys) = y :: remove key gone ys := by simp [remove, dropped]
      rw [keep, lookup_cons, ih, lookup_cons]
      by_cases hit : key y = k
      · rw [if_pos hit, if_pos hit, if_neg (fun other => dropped (hit.trans other.symm))]
      · rw [if_neg hit, if_neg hit]

/-- Replacement keeps the key sequence, or appends a key that was absent. -/
theorem keys_upsert (x : α) (xs : List α) :
    (upsert key x xs).map key =
      if key x ∈ xs.map key then xs.map key else xs.map key ++ [key x] := by
  induction xs with
  | nil => simp [upsert]
  | cons y ys ih =>
    by_cases same : key y = key x
    · simp [upsert, same]
    · have other : key x ≠ key y := fun equal => same equal.symm
      simp only [upsert, if_neg same, List.map_cons, ih, List.mem_cons, other, false_or]
      split <;> rfl

/-- Removal filters the key sequence. -/
theorem keys_remove (gone : κ) (xs : List α) :
    (remove key gone xs).map key = (xs.map key).filter (· ≠ gone) := by
  simp [remove, List.filter_map, Function.comp_def]

/-- Replacement keeps keys distinct. -/
theorem nodup_upsert {x : α} {xs : List α} (distinct : (xs.map key).Nodup) :
    ((upsert key x xs).map key).Nodup := by
  rw [keys_upsert]
  split
  · exact distinct
  · next absent =>
    rw [List.nodup_append]
    exact ⟨distinct, List.nodup_singleton _, by
      rintro k present _ (member : _ ∈ [key x]) rfl
      rw [List.mem_singleton] at member
      exact absent (member ▸ present)⟩

/-- Keys that are distinct after a replacement were distinct before it. -/
theorem nodup_of_upsert {x : α} {xs : List α} (distinct : ((upsert key x xs).map key).Nodup) :
    (xs.map key).Nodup := by
  rw [keys_upsert] at distinct
  by_cases present : key x ∈ xs.map key
  · rwa [if_pos present] at distinct
  · rw [if_neg present, List.nodup_append] at distinct
    exact distinct.1

/-- Removal keeps keys distinct. -/
theorem nodup_remove {gone : κ} {xs : List α} (distinct : (xs.map key).Nodup) :
    ((remove key gone xs).map key).Nodup := by
  rw [keys_remove]
  exact distinct.filter _

/-- The keys after a replacement. -/
theorem mem_keys_upsert {k : κ} {x : α} {xs : List α} :
    k ∈ (upsert key x xs).map key ↔ k = key x ∨ k ∈ xs.map key := by
  rw [keys_upsert]
  split
  · next present => exact ⟨Or.inr, fun either => either.elim (fun same => same ▸ present) id⟩
  · rw [List.mem_append, List.mem_singleton, or_comm]

/-- The keys after a removal. -/
theorem mem_keys_remove {k gone : κ} {xs : List α} :
    k ∈ (remove key gone xs).map key ↔ k ≠ gone ∧ k ∈ xs.map key := by
  rw [keys_remove, List.mem_filter, decide_eq_true_eq, and_comm]

/-- A member after an insertion is the inserted one or was a member before. -/
theorem mem_of_mem_upsert {x y : α} {xs : List α} (member : y ∈ upsert key x xs) :
    y = x ∨ y ∈ xs := by
  induction xs with
  | nil => exact .inl (List.mem_singleton.mp member)
  | cons head tail ih =>
    rw [upsert] at member
    by_cases same : key head = key x
    · rw [if_pos same] at member
      exact (List.mem_cons.mp member).imp id fun later => List.mem_cons_of_mem _ later
    · rw [if_neg same] at member
      rcases List.mem_cons.mp member with rfl | later
      · exact .inr List.mem_cons_self
      · exact (ih later).imp id fun older => List.mem_cons_of_mem _ older

/-- The members after a replacement in a list with distinct keys. -/
theorem mem_upsert {x y : α} {xs : List α} (distinct : (xs.map key).Nodup) :
    y ∈ upsert key x xs ↔ y = x ∨ (y ∈ xs ∧ key y ≠ key x) := by
  induction xs with
  | nil => simp [upsert]
  | cons head tail ih =>
    simp only [List.map_cons, List.nodup_cons, List.mem_map, not_exists, not_and] at distinct
    obtain ⟨fresh, rest⟩ := distinct
    by_cases same : key head = key x
    · simp only [upsert, if_pos same, List.mem_cons]
      constructor
      · rintro (equal | member)
        · exact .inl equal
        · exact .inr ⟨.inr member, fun clash => fresh y member (clash.trans same.symm)⟩
      · rintro (equal | ⟨rfl | member, other⟩)
        · exact .inl equal
        · exact absurd same other
        · exact .inr member
    · simp only [upsert, if_neg same, List.mem_cons, ih rest]
      constructor
      · rintro (rfl | equal | ⟨member, other⟩)
        · exact .inr ⟨.inl rfl, same⟩
        · exact .inl equal
        · exact .inr ⟨.inr member, other⟩
      · rintro (equal | ⟨rfl | member, other⟩)
        · exact .inr (.inl equal)
        · exact .inl rfl
        · exact .inr (.inr ⟨member, other⟩)

/-- The members after a removal. -/
theorem mem_remove {gone : κ} {y : α} {xs : List α} :
    y ∈ remove key gone xs ↔ y ∈ xs ∧ key y ≠ gone := by
  simp [remove]

/-- A map that keeps the keys maps a replacement to a replacement. -/
theorem map_upsert {other : β → κ} {change : α → β} (keeps : ∀ x, other (change x) = key x) (x : α)
    (xs : List α) : (upsert key x xs).map change = upsert other (change x) (xs.map change) := by
  induction xs with
  | nil => rfl
  | cons y ys ih =>
    by_cases same : key y = key x
    · simp [upsert, keeps, same]
    · simp [upsert, keeps, same, ih]

/-- A map that keeps the keys maps a removal to a removal. -/
theorem map_remove {other : β → κ} {change : α → β} (keeps : ∀ x, other (change x) = key x)
    (gone : κ) (xs : List α) :
    (remove key gone xs).map change = remove other gone (xs.map change) := by
  rw [remove, remove, List.filter_map]
  simp only [Function.comp_def, keeps]

/-- Removing an absent key changes nothing. -/
theorem remove_absent {gone : κ} {xs : List α} (absent : gone ∉ xs.map key) :
    remove key gone xs = xs := by
  apply List.filter_eq_self.mpr
  intro x member
  have other : key x ≠ gone := fun same => absent (same ▸ List.mem_map_of_mem member)
  exact decide_eq_true other

/-- A removal that keeps the length removed nothing. -/
theorem remove_length_eq {gone : κ} {xs : List α} :
    (remove key gone xs).length = xs.length ↔ gone ∉ xs.map key := by
  rw [remove, List.length_filter_eq_length_iff]
  simp

end Single

/-- Neither list repeats a key, and both carry the same keys. -/
structure Agree (left : α → κ) (right : β → κ) (xs : List α) (ys : List β) : Prop where
  /-- The left keys are distinct. -/
  leftDistinct : (xs.map left).Nodup
  /-- The right keys are distinct. -/
  rightDistinct : (ys.map right).Nodup
  /-- The keys coincide as sets. -/
  same : ∀ k, k ∈ xs.map left ↔ k ∈ ys.map right

namespace Agree

variable {left : α → κ} {right : β → κ} {xs : List α} {ys : List β}

omit [DecidableEq κ] in
/-- Two empty lists agree. -/
theorem empty : Agree left right ([] : List α) ([] : List β) :=
  ⟨List.nodup_nil, List.nodup_nil, fun _ => Iff.rfl⟩

omit [DecidableEq κ] in
/-- Agreement is symmetric. -/
theorem symm (agree : Agree left right xs ys) : Agree right left ys xs :=
  ⟨agree.rightDistinct, agree.leftDistinct, fun k => (agree.same k).symm⟩

/-- Writing the same key on both sides keeps agreement. -/
theorem upsert {x : α} {y : β} (agree : Agree left right xs ys) (paired : left x = right y) :
    Agree left right (Keyed.upsert left x xs) (Keyed.upsert right y ys) where
  leftDistinct := nodup_upsert left agree.leftDistinct
  rightDistinct := nodup_upsert right agree.rightDistinct
  same k := by rw [mem_keys_upsert, mem_keys_upsert, agree.same, paired]

/-- After writing the same key on both sides they agree exactly when neither repeated a key and
both carried the same keys, the written one apart. -/
theorem upsert_iff {x : α} {y : β} (paired : left x = right y) :
    Agree left right (Keyed.upsert left x xs) (Keyed.upsert right y ys) ↔
      (xs.map left).Nodup ∧ (ys.map right).Nodup ∧
        ∀ k, k ≠ left x → (k ∈ xs.map left ↔ k ∈ ys.map right) := by
  constructor
  · intro agree
    refine ⟨nodup_of_upsert left agree.leftDistinct, nodup_of_upsert right agree.rightDistinct, ?_⟩
    intro k other
    have same := agree.same k
    rw [mem_keys_upsert, mem_keys_upsert, ← paired] at same
    constructor
    · intro present
      exact (same.mp (.inr present)).resolve_left other
    · intro present
      exact (same.mpr (.inr present)).resolve_left other
  · rintro ⟨leftDistinct, rightDistinct, same⟩
    refine ⟨nodup_upsert left leftDistinct, nodup_upsert right rightDistinct, fun k => ?_⟩
    rw [mem_keys_upsert, mem_keys_upsert, ← paired]
    by_cases written : k = left x
    · exact iff_of_true (.inl written) (.inl written)
    · rw [same k written]

/-- Removing the same key on both sides keeps agreement. -/
theorem remove (agree : Agree left right xs ys) (gone : κ) :
    Agree left right (Keyed.remove left gone xs) (Keyed.remove right gone ys) where
  leftDistinct := nodup_remove left agree.leftDistinct
  rightDistinct := nodup_remove right agree.rightDistinct
  same k := by rw [mem_keys_remove, mem_keys_remove, agree.same]

omit [DecidableEq κ] in
/-- Agreement is equality of the key multisets, without repetition. -/
theorem iff_perm : Agree left right xs ys ↔
    (xs.map left).Nodup ∧ (xs.map left).Perm (ys.map right) := by
  constructor
  · intro agree
    exact ⟨agree.leftDistinct,
      (List.perm_ext_iff_of_nodup agree.leftDistinct agree.rightDistinct).mpr agree.same⟩
  · rintro ⟨distinct, perm⟩
    exact ⟨distinct, perm.nodup_iff.mp distinct, fun k => perm.mem_iff⟩

end Agree

section Sorting

variable (le : κ → κ → Bool)

/-- Two neighbours in the list are equal. -/
def hasEqualNeighbours : List κ → Bool
  | first :: second :: rest => first = second || hasEqualNeighbours (second :: rest)
  | _ => false

/-- In a sorted list equal keys stand next to each other. -/
theorem hasEqualNeighbours_sorted (antisymm : ∀ a b, le a b → le b a → a = b) {xs : List κ}
    (sorted : xs.Pairwise fun a b => le a b) : hasEqualNeighbours xs = false ↔ xs.Nodup := by
  induction xs with
  | nil => simp [hasEqualNeighbours]
  | cons first rest ih =>
    cases rest with
    | nil => simp [hasEqualNeighbours]
    | cons second tail =>
      rw [List.pairwise_cons] at sorted
      obtain ⟨below, sortedRest⟩ := sorted
      rw [hasEqualNeighbours, Bool.or_eq_false_iff, decide_eq_false_iff_not, ih sortedRest,
        List.nodup_cons (a := first)]
      refine and_congr_left fun _ => not_congr ⟨fun same => ?_, fun member => ?_⟩
      · exact same ▸ List.mem_cons_self
      · rcases List.mem_cons.mp member with same | later
        · exact same
        · exact antisymm _ _ (below second List.mem_cons_self)
            ((List.pairwise_cons.mp sortedRest).1 first later)

/-- The list in ascending order. -/
def sortBy (xs : List κ) : List κ := xs.insertionSort fun a b => le a b

omit [DecidableEq κ] in
/-- Sorting keeps the length. -/
theorem sortBy_length (xs : List κ) : (sortBy le xs).length = xs.length :=
  List.length_insertionSort (fun a b => le a b) xs

/-- Sorting decides agreement: no equal neighbours on either side, and equal sorted keys. -/
theorem agree_iff_sorted {left : α → κ} {right : β → κ} {xs : List α} {ys : List β}
    (antisymm : ∀ a b, le a b → le b a → a = b) (trans : ∀ a b c, le a b → le b c → le a c)
    (total : ∀ a b, le a b || le b a) :
    Agree left right xs ys ↔
      hasEqualNeighbours (sortBy le (xs.map left)) = false ∧
      hasEqualNeighbours (sortBy le (ys.map right)) = false ∧
      sortBy le (xs.map left) = sortBy le (ys.map right) := by
  have transitive : IsTrans κ fun a b => le a b := ⟨trans⟩
  have totality : Std.Total fun a b : κ => (le a b : Prop) :=
    ⟨fun a b => by simpa only [Bool.or_eq_true] using total a b⟩
  have sortedLeft := List.pairwise_insertionSort (fun a b => le a b) (xs.map left)
  have sortedRight := List.pairwise_insertionSort (fun a b => le a b) (ys.map right)
  have permLeft := List.perm_insertionSort (fun a b => le a b) (xs.map left)
  have permRight := List.perm_insertionSort (fun a b => le a b) (ys.map right)
  rw [sortBy, sortBy, hasEqualNeighbours_sorted le antisymm sortedLeft,
    hasEqualNeighbours_sorted le antisymm sortedRight, permLeft.nodup_iff, permRight.nodup_iff]
  constructor
  · intro agree
    have perm := (Agree.iff_perm.mp agree).2
    exact ⟨agree.leftDistinct, agree.rightDistinct,
      (permLeft.trans (perm.trans permRight.symm)).eq_of_pairwise
        (fun a b _ _ => antisymm a b) sortedLeft sortedRight⟩
  · rintro ⟨distinct, _, equal⟩
    exact Agree.iff_perm.mpr ⟨distinct, permLeft.symm.trans (equal ▸ permRight)⟩

end Sorting

end Keyed
