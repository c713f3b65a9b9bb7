import Passman.Lib.Bytes

/-!
# Computations that may leave a buffer

Indexing, slicing and arithmetic on positions panic outside their range. A checked computation
keeps a panic apart from an error it returns, so that a computation which equals a lifted result
is known not to panic.
-/
namespace Bytewise

/-- Why a checked computation did not return a value. -/
inductive Fault (ε : Type) where
  /-- It panicked: a read out of range, or an overflow. -/
  | panicked
  /-- It returned an error. -/
  | refused (error : ε)
  deriving DecidableEq

/-- A computation that may panic or return an error. -/
abbrev Checked (ε : Type) := Except (Fault ε)

namespace Checked

variable {ε α : Type}

/-- Panic. -/
def panic : Checked ε α := .error .panicked

/-- Return an error. -/
def refuse (error : ε) : Checked ε α := .error (.refused error)

/-- A result that was computed without a panic. -/
def ofExcept : Except ε α → Checked ε α
  | .ok value => .ok value
  | .error error => .error (.refused error)

/-- The byte at an index. -/
def byteAt (bytes : Bytes) (index : Nat) : Checked ε UInt8 :=
  if inside : index < bytes.length then .ok bytes[index] else panic

/-- The bytes from a start up to a stop. -/
def slice (bytes : Bytes) (start stop : Nat) : Checked ε Bytes :=
  if start ≤ stop ∧ stop ≤ bytes.length then .ok ((bytes.drop start).take (stop - start))
  else panic

/-- The difference of two positions. -/
def sub (left right : Nat) : Checked ε Nat := if right ≤ left then .ok (left - right) else panic

/-- The sum of two positions. -/
def add (left right : Nat) : Checked ε Nat :=
  if left + right < 2 ^ 64 then .ok (left + right) else panic

/-- A slice copied into an array, whose length it must have. -/
def intoArray (n : Nat) (bytes : Bytes) : Checked ε (Block n) :=
  if sized : bytes.length = n then .ok ⟨bytes, sized⟩ else panic

/-- A buffer with bytes copied over those from an index on. -/
def writeAt (buffer : Bytes) (start : Nat) (data : Bytes) : Checked ε Bytes :=
  if start + data.length ≤ buffer.length then
    .ok (buffer.take start ++ data ++ buffer.drop (start + data.length))
  else panic

/-- The bytes in front of a position, when it lies in the slice. -/
def sliceTo (stop : Nat) (bytes : Bytes) : Option Bytes :=
  if stop ≤ bytes.length then some (bytes.take stop) else none

/-- The bytes behind a position, when it lies in the slice. -/
def sliceFrom (start : Nat) (bytes : Bytes) : Option Bytes :=
  if start ≤ bytes.length then some (bytes.drop start) else none

/-- Two bytes of a slice as a little-endian number. -/
def word16At (bytes : Bytes) (index : Nat) : Checked ε Nat := do
  let low ← byteAt bytes index
  let high ← byteAt bytes (index + 1)
  return leNat [low, high]

/-- The four bytes at an index as a little-endian number. -/
def word32At (bytes : Bytes) (index : Nat) : Checked ε Nat := do
  let first ← byteAt bytes index
  let second ← byteAt bytes (index + 1)
  let third ← byteAt bytes (index + 2)
  let fourth ← byteAt bytes (index + 3)
  return leNat [first, second, third, fourth]

/-- A computation continues from a value. -/
theorem ok_bind {β : Type} (value : α) (next : α → Checked ε β) :
    ((.ok value : Checked ε α) >>= next) = next value := rfl

/-- An index in range is read. -/
theorem byteAt_of_lt {bytes : Bytes} {index : Nat} (inside : index < bytes.length) :
    (byteAt bytes index : Checked ε UInt8) = .ok bytes[index] := dif_pos inside

/-- A slice in range is read. -/
theorem slice_of_le {bytes : Bytes} {start stop : Nat} (ordered : start ≤ stop)
    (inside : stop ≤ bytes.length) :
    (slice bytes start stop : Checked ε Bytes) = .ok ((bytes.drop start).take (stop - start)) :=
  if_pos ⟨ordered, inside⟩

/-- A difference that is not negative is computed. -/
theorem sub_of_le {left right : Nat} (ordered : right ≤ left) :
    (sub left right : Checked ε Nat) = .ok (left - right) := if_pos ordered

/-- A sum in range is computed. -/
theorem add_of_lt {left right : Nat} (fits : left + right < 2 ^ 64) :
    (add left right : Checked ε Nat) = .ok (left + right) := if_pos fits

/-- A slice of the right length is copied. -/
theorem intoArray_of_length {n : Nat} {bytes : Bytes} (sized : bytes.length = n) :
    (intoArray n bytes : Checked ε (Block n)) = .ok ⟨bytes, sized⟩ := dif_pos sized

/-- Bytes written right behind what a zeroed buffer already holds extend it. -/
theorem writeAt_behind (written : Bytes) {data : Bytes} {room : Nat} {byte : UInt8}
    (fits : data.length ≤ room) :
    (writeAt (written ++ List.replicate room byte) written.length data : Checked ε Bytes) =
      .ok (written ++ data ++ List.replicate (room - data.length) byte) := by
  have inside : written.length + data.length ≤ (written ++ List.replicate room byte).length := by
    rw [List.length_append, List.length_replicate]
    omega
  rw [writeAt, if_pos inside, List.take_left', List.drop_append, List.drop_of_length_le (by omega),
    Nat.add_sub_cancel_left, List.drop_replicate, List.nil_append]
  rfl

/-- Two bytes in range are read as the number they write. -/
theorem word16At_of_le {bytes : Bytes} {index : Nat} (inside : index + 2 ≤ bytes.length) :
    (word16At bytes index : Checked ε Nat) = .ok (leNat ((bytes.drop index).take 2)) := by
  have first : index < bytes.length := by omega
  have second : index + 1 < bytes.length := by omega
  have two : (bytes.drop index).take 2 = [bytes[index], bytes[index + 1]] := by
    rw [List.drop_eq_getElem_cons first, List.drop_eq_getElem_cons second]
    rfl
  rw [word16At, byteAt_of_lt first, byteAt_of_lt second, two]
  rfl

/-- Four bytes in range are read as the number they write. -/
theorem word32At_of_le {bytes : Bytes} {index : Nat} (inside : index + 4 ≤ bytes.length) :
    (word32At bytes index : Checked ε Nat) = .ok (leNat ((bytes.drop index).take 4)) := by
  have first : index < bytes.length := by omega
  have second : index + 1 < bytes.length := by omega
  have third : index + 2 < bytes.length := by omega
  have fourth : index + 3 < bytes.length := by omega
  have four : (bytes.drop index).take 4 =
      [bytes[index], bytes[index + 1], bytes[index + 2], bytes[index + 3]] := by
    rw [List.drop_eq_getElem_cons first, List.drop_eq_getElem_cons second,
      List.drop_eq_getElem_cons third, List.drop_eq_getElem_cons fourth]
    rfl
  rw [word32At, byteAt_of_lt first, byteAt_of_lt second, byteAt_of_lt third, byteAt_of_lt fourth,
    four]
  rfl

/-- A computation that equals a lifted result does not panic. -/
theorem ofExcept_ne_panicked (result : Except ε α) : ofExcept result ≠ .error .panicked := by
  cases result with
  | ok value =>
    intro clash
    cases clash
  | error error =>
    intro clash
    cases clash

/-- A lifted result is a value exactly when the result is. -/
theorem ofExcept_eq_ok {result : Except ε α} {value : α} :
    ofExcept result = .ok value ↔ result = .ok value := by
  cases result with
  | ok found => exact ⟨fun same => congrArg Except.ok (Except.ok.inj same),
      fun same => congrArg Except.ok (Except.ok.inj same)⟩
  | error error =>
    constructor
    · intro clash
      cases clash
    · intro clash
      cases clash

end Checked

end Bytewise
