import Passman.Lib.Bytes

/-!
# Slices split off the front of a byte string

A slice reader splits bytes off the front of what is left and returns the rest. It is
described by an equation: it succeeds exactly on the concatenation of what it returned.
-/
namespace Bytewise

variable {ε : Type}

/-- The first `count` bytes and the rest, when there are that many. -/
def splitAtChecked (count : Nat) (bytes : Bytes) : Option (Block count × Bytes) :=
  if enough : count ≤ bytes.length then
    some (⟨bytes.take count, List.length_take_of_le enough⟩, bytes.drop count)
  else none

/-- A split succeeds exactly on a front of the wanted length and any rest. -/
theorem splitAtChecked_eq_some {count : Nat} {bytes rest : Bytes} {front : Block count} :
    splitAtChecked count bytes = some (front, rest) ↔ bytes = front.val ++ rest := by
  have sized := front.property
  unfold splitAtChecked
  by_cases enough : count ≤ bytes.length
  · rw [dif_pos enough]
    constructor
    · intro split
      have parts := Prod.mk.inj (Option.some.inj split)
      have taken : bytes.take count = front.val := congrArg Subtype.val parts.1
      rw [← taken, ← parts.2, List.take_append_drop]
    · rintro rfl
      have taken : (front.val ++ rest).take count = front.val := List.take_left' sized
      have dropped : (front.val ++ rest).drop count = rest := List.drop_left' sized
      exact congrArg some (Prod.ext (Subtype.ext taken) dropped)
  · rw [dif_neg enough]
    constructor
    · intro split
      cases split
    · rintro rfl
      rw [List.length_append] at enough
      omega

/-- The bytes in front of a position and those behind it, when the position lies in the slice. -/
def splitSlice (count : Nat) (bytes : Bytes) : Option (Bytes × Bytes) :=
  if count ≤ bytes.length then some (bytes.take count, bytes.drop count) else none

/-- The split of a slice is the split into a front of known length and the rest. -/
theorem splitSlice_eq (count : Nat) (bytes : Bytes) :
    splitSlice count bytes = (splitAtChecked count bytes).map fun parts =>
      (parts.1.val, parts.2) := by
  unfold splitSlice splitAtChecked
  by_cases enough : count ≤ bytes.length
  · rw [if_pos enough, dif_pos enough]
    rfl
  · rw [if_neg enough, dif_neg enough]
    rfl

/-- Read a two-byte length and that many bytes from the front. -/
def readLenPrefixed (short long : ε) (cursor : Bytes) : Except ε (Bytes × Bytes) :=
  match splitAtChecked 2 cursor with
  | none => .error short
  | some (lenBytes, rest) =>
    match splitAtChecked (leNat lenBytes.val) rest with
    | none => .error long
    | some (data, rest) => .ok (data.val, rest)

/-- The writing of a length that fits two bytes. -/
theorem lePrefix_word16 {length : Nat} (fits : length ≤ 65535) :
    lePrefix UInt16 length = leBytes 2 length := by
  have width : LeWord.width UInt16 = 2 := rfl
  have bound : length < 256 ^ LeWord.width UInt16 := by
    rw [width]
    omega
  rw [lePrefix_of_lt UInt16 length bound, toLe, LeWord.toNat_ofNat length bound, width]

/-- A prefixed read succeeds exactly on a string whose length fits the prefix, behind that
length. -/
theorem readLenPrefixed_eq_ok {short long : ε} {cursor data rest : Bytes} :
    readLenPrefixed short long cursor = .ok (data, rest) ↔
      data.length ≤ 65535 ∧ cursor = lePrefix UInt16 data.length ++ data ++ rest := by
  unfold readLenPrefixed
  constructor
  · intro read
    cases first : splitAtChecked 2 cursor with
    | none =>
      rw [first] at read
      cases read
    | some parts =>
      obtain ⟨lenBytes, body⟩ := parts
      rw [first] at read
      dsimp only at read
      cases second : splitAtChecked (leNat lenBytes.val) body with
      | none =>
        rw [second] at read
        cases read
      | some halves =>
        obtain ⟨found, others⟩ := halves
        rw [second] at read
        obtain ⟨rfl, rfl⟩ := Prod.mk.inj (Except.ok.inj read)
        have whole := splitAtChecked_eq_some.mp first
        have split := splitAtChecked_eq_some.mp second
        have small := leNat_lt lenBytes.val
        have two := lenBytes.property
        have sized := found.property
        rw [two] at small
        have fits : found.val.length ≤ 65535 := by omega
        have announced : leBytes 2 (leNat lenBytes.val) = lenBytes.val := by
          have written := leBytes_leNat lenBytes.val
          rwa [two] at written
        refine ⟨fits, ?_⟩
        rw [whole, split, lePrefix_word16 fits, sized, announced, List.append_assoc]
  · rintro ⟨fits, rfl⟩
    let lenBytes : Block 2 := ⟨lePrefix UInt16 data.length, lePrefix_length UInt16 _⟩
    have first : splitAtChecked 2 (lePrefix UInt16 data.length ++ data ++ rest) =
        some (lenBytes, data ++ rest) :=
      splitAtChecked_eq_some.mpr (List.append_assoc _ _ _)
    have announced : data.length = leNat lenBytes.val := by
      change data.length = leNat (lePrefix UInt16 data.length)
      rw [lePrefix_word16 fits, leNat_leBytes 2 _ (by omega)]
    have second : splitAtChecked (leNat lenBytes.val) (data ++ rest) =
        some (⟨data, announced⟩, rest) := splitAtChecked_eq_some.mpr rfl
    rw [first]
    dsimp only
    rw [second]

/-- What stands behind a two-byte length is determined by the string. -/
theorem lenPrefixed_inj {left right leftRest rightRest : Bytes} (leftFits : left.length ≤ 65535)
    (rightFits : right.length ≤ 65535)
    (same : lePrefix UInt16 left.length ++ left ++ leftRest =
      lePrefix UInt16 right.length ++ right ++ rightRest) :
    left = right ∧ leftRest = rightRest := by
  have first : readLenPrefixed () () (lePrefix UInt16 left.length ++ left ++ leftRest) =
      .ok (left, leftRest) := readLenPrefixed_eq_ok.mpr ⟨leftFits, rfl⟩
  have second : readLenPrefixed () () (lePrefix UInt16 left.length ++ left ++ leftRest) =
      .ok (right, rightRest) := readLenPrefixed_eq_ok.mpr ⟨rightFits, same⟩
  exact Prod.mk.inj (Except.ok.inj (first.symm.trans second))

end Bytewise
