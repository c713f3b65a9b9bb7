import Passman.Lib.Bytes

/-!
# Byte strings with concealed parts

A byte string is laid out in segments, each of which is concealed or in the open. Two layouts
are alike when they conceal the same segments, all lengths agree, and the open bytes agree; the
byte strings are then as long as each other and differ in concealed places only.
-/
namespace Bytewise

/-- A part of a byte string. -/
structure Segment where
  /-- Whether the bytes are concealed. -/
  hidden : Bool
  /-- The bytes. -/
  bytes : Bytes

/-- The byte string of a layout. -/
def written (layout : List Segment) : Bytes := layout.flatMap Segment.bytes

/-- Which places of the byte string are concealed. -/
def concealed (layout : List Segment) : List Bool :=
  layout.flatMap fun part => List.replicate part.bytes.length part.hidden

/-- Segments of one length that are both concealed, or in the open and equal. -/
structure Segment.Alike (left right : Segment) : Prop where
  /-- Both are concealed, or neither. -/
  hidden : left.hidden = right.hidden
  /-- They have one length. -/
  length : left.bytes.length = right.bytes.length
  /-- What is in the open is equal. -/
  shown : left.hidden = false → left.bytes = right.bytes

/-- Segments in the open are alike when they are equal. -/
theorem Segment.Alike.open {left right : Bytes} (same : left = right) :
    Segment.Alike ⟨false, left⟩ ⟨false, right⟩ := ⟨rfl, congrArg List.length same, fun _ => same⟩

/-- Concealed segments are alike when they have one length. -/
theorem Segment.Alike.concealed {left right : Bytes} (same : left.length = right.length) :
    Segment.Alike ⟨true, left⟩ ⟨true, right⟩ := ⟨rfl, same, fun shown => by cases shown⟩

/-- Every place of the byte string is concealed or not. -/
theorem concealed_length (layout : List Segment) :
    (concealed layout).length = (written layout).length := by
  induction layout with
  | nil => rfl
  | cons part rest ih =>
    rw [concealed, written, List.flatMap_cons, List.flatMap_cons, List.length_append,
      List.length_append, List.length_replicate]
    exact congrArg (part.bytes.length + ·) ih

/-- Layouts that are alike segment by segment conceal the same places, and their byte strings agree
in all others. -/
theorem alike_layouts {left right : List Segment} (alike : List.Forall₂ Segment.Alike left right) :
    concealed left = concealed right ∧
      ∀ i : Nat, (concealed left)[i]? = some false → (written left)[i]? = (written right)[i]? := by
  induction alike with
  | nil => exact ⟨rfl, fun _ _ => rfl⟩
  | @cons first second left right same rest ih =>
    obtain ⟨places, agree⟩ := ih
    have length := same.length
    simp only [concealed, written, List.flatMap_cons] at places agree ⊢
    rw [← same.hidden, ← length, places]
    refine ⟨rfl, fun i shown => ?_⟩
    by_cases early : i < first.bytes.length
    · rw [List.getElem?_append_left (by rwa [List.length_replicate]),
        List.getElem?_replicate_of_lt early] at shown
      have equal := same.shown (Option.some.inj shown)
      rw [List.getElem?_append_left early, List.getElem?_append_left (by rwa [← length]), equal]
    · have late : first.bytes.length ≤ i := Nat.le_of_not_lt early
      rw [List.getElem?_append_right (by rwa [List.length_replicate]), List.length_replicate,
        ← places] at shown
      rw [List.getElem?_append_right late, List.getElem?_append_right (by rwa [← length]),
        ← length]
      exact agree _ shown

end Bytewise
