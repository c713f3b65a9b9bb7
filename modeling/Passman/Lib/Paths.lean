import Passman.Lib.Bytes

/-!
# Paths and the text of their names

A path is a list of components, and a name is a byte string that need not be a text. The text of a
name replaces every ill-formed part of it by a replacement character, which is never shorter.
-/
namespace Filing

open Bytewise

/-- A component of a path. -/
inductive Component where
  /-- The root directory. -/
  | rootDir
  /-- The directory itself. -/
  | curDir
  /-- The directory above. -/
  | parentDir
  /-- A name inside the directory. -/
  | normal (name : Bytes)
  deriving DecidableEq

/-- A path by its components. -/
abbrev Path := List Component

namespace Path

/-- The path without its last component, unless that is the root. -/
def parent (path : Path) : Option Path :=
  match path.getLast? with
  | none => none
  | some .rootDir => none
  | some _ => some path.dropLast

/-- The last component, when it is a name. -/
def fileName (path : Path) : Option Bytes :=
  match path.getLast? with
  | some (.normal name) => some name
  | _ => none

/-- The path of a name inside a directory. -/
def join (path : Path) (name : Bytes) : Path := path ++ [.normal name]

/-- The last component of a joined path is the name. -/
@[simp] theorem fileName_join (path : Path) (name : Bytes) :
    (path.join name).fileName = some name := by
  rw [fileName, join, List.getLast?_concat]

end Path

/-- A byte that continues a UTF-8 sequence. -/
def isContinuation (byte : UInt8) : Bool := 0x80 ≤ byte && byte ≤ 0xBF

/-- The number of bytes of a sequence by its first byte; zero when no sequence begins with it. -/
def utf8CharWidth (first : UInt8) : Nat :=
  if first < 0x80 then 1
  else if first < 0xC2 then 0
  else if first < 0xE0 then 2
  else if first < 0xF0 then 3
  else if first < 0xF5 then 4
  else 0

/-- Whether a sequence may continue with the second byte. -/
def mayFollow (first second : UInt8) : Bool :=
  if first = 0xE0 then 0xA0 ≤ second && second ≤ 0xBF
  else if first = 0xED then 0x80 ≤ second && second ≤ 0x9F
  else if first = 0xF0 then 0x90 ≤ second && second ≤ 0xBF
  else if first = 0xF4 then 0x80 ≤ second && second ≤ 0x8F
  else isContinuation second

/-- How many of the wanted bytes behind the first continue its sequence. -/
def continued (first : UInt8) (wanted : Nat) : Bytes → Nat
  | [] => 0
  | second :: rest =>
    if wanted = 0 || !mayFollow first second then 0
    else 1 + ((rest.take (wanted - 1)).takeWhile isContinuation).length

/-- The replacement character. -/
def replacement : Bytes := [0xEF, 0xBF, 0xBD]

/-- The text of a name: well-formed sequences are copied, and the longest beginning of a sequence
that breaks off is replaced. -/
def toStringLossy (name : Bytes) : Bytes :=
  match name with
  | [] => []
  | first :: rest =>
    let wanted := utf8CharWidth first - 1
    let found := continued first wanted rest
    if utf8CharWidth first ≠ 0 ∧ found = wanted then
      first :: rest.take found ++ toStringLossy (rest.drop found)
    else replacement ++ toStringLossy (rest.drop found)
termination_by name.length
decreasing_by
  all_goals
    rw [List.length_drop, List.length_cons]
    omega

/-- No more bytes continue a sequence than are wanted and there. -/
theorem continued_le (first : UInt8) (wanted : Nat) (rest : Bytes) :
    continued first wanted rest ≤ wanted ∧ continued first wanted rest ≤ rest.length := by
  cases rest with
  | nil => exact ⟨Nat.zero_le _, Nat.le_refl _⟩
  | cons second rest =>
    rw [continued]
    split
    · exact ⟨Nat.zero_le _, Nat.zero_le _⟩
    · next follows =>
      have positive : wanted ≠ 0 := by
        intro zero
        simp [zero] at follows
      have shorter := (List.takeWhile_prefix isContinuation (l := rest.take (wanted - 1))).length_le
      rw [List.length_take] at shorter
      rw [List.length_cons]
      omega

/-- A sequence has at most four bytes. -/
theorem utf8CharWidth_le (first : UInt8) : utf8CharWidth first ≤ 4 := by
  unfold utf8CharWidth
  split_ifs <;> decide

/-- The text of a name is no shorter than the name. -/
theorem length_le_toStringLossy (name : Bytes) : name.length ≤ (toStringLossy name).length := by
  induction sized : name.length using Nat.strong_induction_on generalizing name with
  | _ size ih =>
    cases name with
    | nil => exact sized ▸ Nat.zero_le _
    | cons first rest =>
      have bounds := continued_le first (utf8CharWidth first - 1) rest
      have width := utf8CharWidth_le first
      rw [List.length_cons] at sized
      have left := ih (rest.drop (continued first (utf8CharWidth first - 1) rest)).length
        (by rw [List.length_drop]; omega) _ rfl
      rw [List.length_drop] at left
      rw [toStringLossy]
      split
      · simp only [List.cons_append, List.length_cons, List.length_append, List.length_take]
        omega
      · next broken =>
        -- A sequence that breaks off has at most three bytes.
        have short : continued first (utf8CharWidth first - 1) rest ≤ 2 := by omega
        simp only [replacement, List.length_cons, List.length_append, List.length_nil]
        omega

end Filing
