import Mathlib.Algebra.Ring.Nat
import Mathlib.Data.Nat.Basic
import Mathlib.Tactic.Common

/-!
# Byte strings and fixed-width little-endian words

Byte strings are lists of octets, and a block is a byte string whose length is
part of its type. Machine words are written least significant octet first; the
reader and the writer are mutually inverse on the whole domain of the word.
-/
namespace Bytewise

/-- A byte string. -/
abbrev Bytes := List UInt8

/-- A byte string of exactly `n` bytes. -/
abbrev Block (n : Nat) := { bytes : Bytes // bytes.length = n }

/-- The block of `n` copies of one byte. -/
def Block.replicate (n : Nat) (byte : UInt8) : Block n :=
  ⟨List.replicate n byte, List.length_replicate⟩

/-- A piece is no longer than the concatenation it is part of. -/
theorem length_le_flatMap {α : Type} (piece : α → Bytes) {items : List α} {item : α}
    (member : item ∈ items) : (piece item).length ≤ (items.flatMap piece).length := by
  induction items with
  | nil => cases member
  | cons head tail ih =>
    rw [List.flatMap_cons, List.length_append]
    rcases List.mem_cons.mp member with rfl | later
    · omega
    · have rest := ih later
      omega

/-- Base-256 digits of `value`, least significant first, in exactly `width` bytes. -/
def leBytes : Nat → Nat → Bytes
  | 0, _ => []
  | width + 1, value => UInt8.ofNat value :: leBytes width (value / 256)

/-- The number a little-endian byte string denotes. -/
def leNat : Bytes → Nat
  | [] => 0
  | byte :: rest => byte.toNat + 256 * leNat rest

/-- The writer always emits `width` bytes. -/
@[simp] theorem leBytes_length (width value : Nat) : (leBytes width value).length = width := by
  induction width generalizing value with
  | zero => rfl
  | succ width ih => simp only [leBytes, List.length_cons, ih]

/-- A byte string denotes a number below the capacity of its length. -/
theorem leNat_lt (bytes : Bytes) : leNat bytes < 256 ^ bytes.length := by
  induction bytes with
  | nil => simp [leNat]
  | cons byte rest ih =>
    have digit : byte.toNat < 256 := byte.toNat_lt
    simp only [leNat, List.length_cons, Nat.pow_succ]
    omega

/-- Reading back written digits gives the value whenever it fits the width. -/
theorem leNat_leBytes (width value : Nat) (fits : value < 256 ^ width) :
    leNat (leBytes width value) = value := by
  induction width generalizing value with
  | zero => simp only [Nat.pow_zero] at fits; simp only [leBytes, leNat]; omega
  | succ width ih =>
    have rest : value / 256 < 256 ^ width := by
      rw [Nat.pow_succ] at fits
      exact Nat.div_lt_of_lt_mul (by rwa [Nat.mul_comm])
    have digit : (UInt8.ofNat value).toNat = value % 256 := UInt8.toNat_ofNat'
    simp only [leBytes, leNat, ih _ rest, digit]
    omega

/-- Every byte string is the writing of the number it denotes at its own length. -/
theorem leBytes_leNat (bytes : Bytes) : leBytes bytes.length (leNat bytes) = bytes := by
  induction bytes with
  | nil => rfl
  | cons byte rest ih =>
    have digit : byte.toNat < 256 := byte.toNat_lt
    have high : (byte.toNat + 256 * leNat rest) / 256 = leNat rest := by omega
    have low : UInt8.ofNat (byte.toNat + 256 * leNat rest) = byte := by
      apply UInt8.toNat_inj.mp
      rw [UInt8.toNat_ofNat']
      omega
    simp only [List.length_cons, leNat, leBytes, high, low, ih]

/-- A machine word with a fixed byte width and a bijection onto the numbers below its capacity. -/
class LeWord (α : Type) where
  /-- The number of bytes in the encoding. -/
  width : Nat
  /-- The unsigned reading of the word. -/
  toNat : α → Nat
  /-- The word with a given unsigned reading. -/
  ofNat : Nat → α
  /-- Readings stay below the capacity of the width. -/
  toNat_lt : ∀ word, toNat word < 256 ^ width
  /-- Every word is recovered from its reading. -/
  ofNat_toNat : ∀ word, ofNat (toNat word) = word
  /-- Every number below the capacity is the reading of its word. -/
  toNat_ofNat : ∀ value, value < 256 ^ width → toNat (ofNat value) = value

instance : LeWord UInt8 where
  width := 1
  toNat := UInt8.toNat
  ofNat := UInt8.ofNat
  toNat_lt word := word.toNat_lt
  ofNat_toNat _ := UInt8.ofNat_toNat
  toNat_ofNat _ bound := UInt8.toNat_ofNat_of_lt' bound

instance : LeWord UInt16 where
  width := 2
  toNat := UInt16.toNat
  ofNat := UInt16.ofNat
  toNat_lt word := word.toNat_lt
  ofNat_toNat _ := UInt16.ofNat_toNat
  toNat_ofNat _ bound := UInt16.toNat_ofNat_of_lt' bound

instance : LeWord UInt32 where
  width := 4
  toNat := UInt32.toNat
  ofNat := UInt32.ofNat
  toNat_lt word := word.toNat_lt
  ofNat_toNat _ := UInt32.ofNat_toNat
  toNat_ofNat _ bound := UInt32.toNat_ofNat_of_lt' bound

instance : LeWord UInt64 where
  width := 8
  toNat := UInt64.toNat
  ofNat := UInt64.ofNat
  toNat_lt word := word.toNat_lt
  ofNat_toNat _ := UInt64.ofNat_toNat
  toNat_ofNat _ bound := UInt64.toNat_ofNat_of_lt' bound

/-- Signed words are carried by their two's-complement pattern. -/
instance : LeWord Int64 where
  width := 8
  toNat word := word.toUInt64.toNat
  ofNat value := (UInt64.ofNat value).toInt64
  toNat_lt word := word.toUInt64.toNat_lt
  ofNat_toNat word := by simp
  toNat_ofNat value bound := by simpa using UInt64.toNat_ofNat_of_lt' bound

/-- The little-endian encoding of a machine word. -/
def toLe {α : Type} [LeWord α] (word : α) : Bytes := leBytes (LeWord.width α) (LeWord.toNat word)

/-- The machine word a byte string denotes. -/
def ofLe {α : Type} [LeWord α] (bytes : Bytes) : α := LeWord.ofNat (leNat bytes)

section Words

variable {α : Type} [LeWord α]

/-- A word's encoding has the word's width. -/
@[simp] theorem toLe_length (word : α) : (toLe word).length = LeWord.width α :=
  leBytes_length _ _

/-- Decoding inverts encoding on every word. -/
@[simp] theorem ofLe_toLe (word : α) : ofLe (toLe word) = word := by
  rw [ofLe, toLe, leNat_leBytes _ _ (LeWord.toNat_lt word), LeWord.ofNat_toNat]

/-- Encoding inverts decoding on byte strings of the word's width. -/
theorem toLe_ofLe (bytes : Bytes) (sized : bytes.length = LeWord.width α) :
    toLe (ofLe bytes : α) = bytes := by
  have bound : leNat bytes < 256 ^ LeWord.width α := by rw [← sized]; exact leNat_lt bytes
  rw [ofLe, toLe, LeWord.toNat_ofNat _ bound, ← sized, leBytes_leNat]

/-- Distinct words have distinct encodings. -/
theorem toLe_injective : Function.Injective (toLe : α → Bytes) := by
  intro left right same
  rw [← ofLe_toLe left, same, ofLe_toLe]

/-- A length as a word, clamped at the word's capacity. -/
def lePrefix (α : Type) [LeWord α] (length : Nat) : Bytes :=
  toLe (LeWord.ofNat (min length (256 ^ LeWord.width α - 1)) : α)

variable (α) in
/-- A length that fits is written as it is. -/
theorem lePrefix_of_lt (length : Nat) (fits : length < 256 ^ LeWord.width α) :
    lePrefix α length = toLe (LeWord.ofNat length : α) := by
  rw [lePrefix, Nat.min_eq_left (by omega)]

variable (α) in
/-- A length prefix has the width of its word. -/
@[simp] theorem lePrefix_length (length : Nat) : (lePrefix α length).length = LeWord.width α :=
  toLe_length _

end Words

/-- The UTF-8 bytes of a string. -/
def utf8 (text : String) : Bytes := text.toByteArray.data.toList

/-- The string a byte sequence encodes, when it is valid UTF-8. -/
def ofUtf8 (bytes : Bytes) : Option String := String.fromUTF8? ⟨bytes.toArray⟩

/-- Decoding succeeds exactly on the encoding of its result. -/
theorem ofUtf8_eq_some {bytes : Bytes} {text : String} :
    ofUtf8 bytes = some text ↔ bytes = utf8 text := by
  rw [ofUtf8, String.fromUTF8?]
  constructor
  · intro decoded
    split at decoded
    · cases decoded
      simp [utf8, String.fromUTF8]
    · cases decoded
  · rintro rfl
    have whole : (⟨(utf8 text).toArray⟩ : ByteArray) = text.toByteArray := by simp [utf8]
    rw [dif_pos (whole ▸ text.isValidUTF8)]
    exact congrArg some (String.toByteArray_inj.mp whole)

/-- Every string survives encoding and decoding. -/
@[simp] theorem ofUtf8_utf8 (text : String) : ofUtf8 (utf8 text) = some text :=
  ofUtf8_eq_some.mpr rfl

/-- The smallest multiple of `bucket` that is at least `length`. -/
def roundUp (bucket length : Nat) : Nat := (length + bucket - 1) / bucket * bucket

/-- Rounding up never loses bytes. -/
theorem le_roundUp (bucket length : Nat) (positive : 0 < bucket) :
    length ≤ roundUp bucket length := by
  have division := Nat.div_add_mod (length + bucket - 1) bucket
  have remainder := Nat.mod_lt (length + bucket - 1) positive
  rw [roundUp, Nat.mul_comm]
  omega

/-- Rounding up adds less than one bucket. -/
theorem roundUp_lt (bucket length : Nat) (positive : 0 < bucket) :
    roundUp bucket length < length + bucket := by
  have division := Nat.div_mul_le_self (length + bucket - 1) bucket
  rw [roundUp]
  omega

/-- A rounded length is a multiple of the bucket. -/
theorem dvd_roundUp (bucket length : Nat) : bucket ∣ roundUp bucket length := Nat.dvd_mul_left _ _

/-- No smaller multiple of the bucket covers the length. -/
theorem roundUp_le {bucket length multiple : Nat} (positive : 0 < bucket)
    (divides : bucket ∣ multiple) (covers : length ≤ multiple) :
    roundUp bucket length ≤ multiple := by
  obtain ⟨count, rfl⟩ := divides
  have above := roundUp_lt bucket length positive
  rw [roundUp] at above ⊢
  have fewer : (length + bucket - 1) / bucket < count + 1 := by
    apply Nat.lt_of_mul_lt_mul_right (a := bucket)
    rw [Nat.add_mul, Nat.one_mul, Nat.mul_comm count]
    omega
  rw [Nat.mul_comm bucket]
  exact Nat.mul_le_mul_right _ (Nat.le_of_lt_succ fewer)

/-- Append zero bytes up to a multiple of `bucket`. -/
def zeroPad (bucket : Nat) (bytes : Bytes) : Bytes :=
  bytes ++ List.replicate (roundUp bucket bytes.length - bytes.length) 0

/-- A padded byte string has the rounded length. -/
theorem zeroPad_length (bucket : Nat) (bytes : Bytes) (positive : 0 < bucket) :
    (zeroPad bucket bytes).length = roundUp bucket bytes.length := by
  have covers := le_roundUp bucket bytes.length positive
  simp only [zeroPad, List.length_append, List.length_replicate]
  omega

/-- A body behind its clamped four-byte length, zero-padded to a multiple of `bucket`. -/
def padWithLength (bucket : Nat) (body : Bytes) : Bytes :=
  zeroPad bucket (lePrefix UInt32 body.length ++ body)

/-- The body a padded buffer carries: the length prefix must be there and must not overrun. -/
def stripPadding {ε : Type} (short long : ε) (buffer : Bytes) : Except ε Bytes :=
  if buffer.length < 4 then .error short
  else
    let length := leNat (buffer.take 4)
    if 4 + length > buffer.length then .error long else .ok ((buffer.drop 4).take length)

/-- A buffer is stripped exactly to the bytes its prefix announces, when it holds them. -/
theorem stripPadding_eq_ok {ε : Type} {short long : ε} {buffer body : Bytes} :
    stripPadding short long buffer = .ok body ↔
      4 ≤ buffer.length ∧ 4 + leNat (buffer.take 4) ≤ buffer.length ∧
        (buffer.drop 4).take (leNat (buffer.take 4)) = body := by
  rw [stripPadding]
  by_cases headless : buffer.length < 4
  · rw [if_pos headless]
    constructor
    · intro stripped
      cases stripped
    · rintro ⟨headed, _, _⟩
      omega
  · rw [if_neg headless]
    dsimp only
    by_cases overruns : 4 + leNat (buffer.take 4) > buffer.length
    · rw [if_pos overruns]
      constructor
      · intro stripped
        cases stripped
      · rintro ⟨_, inside, _⟩
        omega
    · rw [if_neg overruns]
      constructor
      · intro stripped
        exact ⟨by omega, by omega, Except.ok.inj stripped⟩
      · rintro ⟨_, _, rfl⟩
        rfl

/-- A body is no longer than the buffer it is stripped from. -/
theorem stripPadding_length {ε : Type} {short long : ε} {buffer body : Bytes}
    (stripped : stripPadding short long buffer = .ok body) : body.length ≤ buffer.length := by
  obtain ⟨_, _, rfl⟩ := stripPadding_eq_ok.mp stripped
  rw [List.length_take, List.length_drop]
  omega

/-- Stripping a padded body returns as much of it as its length prefix can announce. -/
theorem stripPadding_padWithLength_clamped {ε : Type} (short long : ε) (bucket : Nat)
    (body : Bytes) : stripPadding short long (padWithLength bucket body) =
      .ok (body.take (min body.length (2 ^ 32 - 1))) := by
  have wide : 256 ^ LeWord.width UInt32 = 2 ^ 32 := by decide
  have capacity : min body.length (2 ^ 32 - 1) < 256 ^ LeWord.width UInt32 := by omega
  have head : (lePrefix UInt32 body.length).length = 4 := lePrefix_length UInt32 _
  have value : leNat (lePrefix UInt32 body.length) = min body.length (2 ^ 32 - 1) := by
    rw [lePrefix, wide, toLe, LeWord.toNat_ofNat _ capacity, leNat_leBytes _ _ capacity]
  have front : (padWithLength bucket body).take 4 = lePrefix UInt32 body.length := by
    rw [padWithLength, zeroPad, List.append_assoc, List.take_left' head]
  have after : ∃ zeros, (padWithLength bucket body).drop 4 = body ++ zeros := by
    rw [padWithLength, zeroPad, List.append_assoc, List.drop_left' head]
    exact ⟨_, rfl⟩
  obtain ⟨zeros, behind⟩ := after
  have total : (padWithLength bucket body).length = 4 + body.length + zeros.length := by
    rw [← List.take_append_drop 4 (padWithLength bucket body), front, behind, List.length_append,
      head, List.length_append]
    omega
  rw [stripPadding, if_neg (by omega), front, value]
  simp only [gt_iff_lt]
  rw [if_neg (by omega), behind, List.take_append_of_le_length (Nat.min_le_left _ _)]

/-- Stripping inverts padding whenever the length fits its prefix. -/
theorem stripPadding_padWithLength {ε : Type} (short long : ε) (bucket : Nat) (body : Bytes)
    (fits : body.length < 2 ^ 32) :
    stripPadding short long (padWithLength bucket body) = .ok body := by
  have whole : min body.length (2 ^ 32 - 1) = body.length := by omega
  rw [stripPadding_padWithLength_clamped, whole, List.take_length]

/-- The length of a padded buffer is the rounded length of prefix and body. -/
theorem padWithLength_length (bucket : Nat) (body : Bytes) (positive : 0 < bucket) :
    (padWithLength bucket body).length = roundUp bucket (4 + body.length) := by
  rw [padWithLength, zeroPad_length _ _ positive, List.length_append, lePrefix_length]
  rfl

/-- Whether a byte is an ASCII decimal digit. -/
def isAsciiDigit (byte : UInt8) : Bool := 0x30 ≤ byte && byte ≤ 0x39

/-- A character outside ASCII is encoded from a byte with its top bit set. -/
theorem utf8EncodeChar_wide {char : Char} (wide : 127 < char.toNat) :
    ∃ first rest, String.utf8EncodeChar char = first :: rest ∧ 128 ≤ first.toNat := by
  have value : char.val.toNat = char.toNat := rfl
  unfold String.utf8EncodeChar
  dsimp only
  rw [if_neg (by omega)]
  split
  · refine ⟨_, _, rfl, ?_⟩
    rw [UInt8.toNat_ofNat']
    omega
  · split
    · refine ⟨_, _, rfl, ?_⟩
      rw [UInt8.toNat_ofNat']
      omega
    · refine ⟨_, _, rfl, ?_⟩
      rw [UInt8.toNat_ofNat']
      omega

/-- The encoding of a string starts with the encoding of its first character. -/
theorem utf8_cons (char : Char) (rest : List Char) :
    utf8 (String.ofList (char :: rest)) =
      String.utf8EncodeChar char ++ utf8 (String.ofList rest) := by
  unfold utf8
  rw [String.toByteArray_ofList, String.toByteArray_ofList, List.utf8Encode_cons,
    List.utf8Encode_singleton]
  simp

/-- A string is encoded character by character. -/
theorem utf8_ofList (chars : List Char) :
    utf8 (String.ofList chars) = chars.flatMap String.utf8EncodeChar := by
  induction chars with
  | nil => rfl
  | cons char rest ih => rw [utf8_cons, ih, List.flatMap_cons]

/-- Strings with the same encoding are the same. -/
theorem utf8_injective {left right : String} (same : utf8 left = utf8 right) : left = right := by
  have decoded : ofUtf8 (utf8 left) = some right := by rw [same, ofUtf8_utf8]
  rw [ofUtf8_utf8] at decoded
  exact Option.some.inj decoded

/-- An ASCII character is encoded in one byte. -/
theorem utf8EncodeChar_narrow {char : Char} (narrow : char.toNat ≤ 127) :
    String.utf8EncodeChar char = [UInt8.ofNat char.toNat] := by
  have value : char.val.toNat = char.toNat := rfl
  unfold String.utf8EncodeChar
  dsimp only
  rw [if_pos (by omega)]
  rfl

/-- A string of ASCII characters is encoded in as many bytes. -/
theorem utf8_length_of_narrow {chars : List Char} (narrow : ∀ char ∈ chars, char.toNat ≤ 127) :
    (utf8 (String.ofList chars)).length = chars.length := by
  induction chars with
  | nil => rfl
  | cons char rest ih =>
    have one := utf8EncodeChar_narrow (narrow char List.mem_cons_self)
    have others := ih fun other member => narrow other (List.mem_cons_of_mem _ member)
    rw [utf8_cons, one, List.length_append, others, List.length_singleton, List.length_cons]
    omega

/-- The encoding of a digit is one digit byte. -/
theorem utf8EncodeChar_digit (char : Char) :
    (String.utf8EncodeChar char).all isAsciiDigit = char.isDigit ∧
      (char.isDigit → (String.utf8EncodeChar char).length = 1) := by
  have value : char.val.toNat = char.toNat := rfl
  have digit : char.isDigit = true ↔ 48 ≤ char.toNat ∧ char.toNat ≤ 57 := by
    simp [Char.isDigit, UInt32.le_iff_toNat_le, value]
  by_cases wide : 127 < char.toNat
  · obtain ⟨first, rest, encoded, high⟩ := utf8EncodeChar_wide wide
    have notDigit : char.isDigit = false := by
      rw [Bool.eq_false_iff]
      intro is
      have range := digit.mp is
      omega
    have outside : isAsciiDigit first = false := by
      rw [isAsciiDigit, Bool.and_eq_false_iff]
      right
      rw [decide_eq_false_iff_not, UInt8.le_iff_toNat_le]
      have top : (0x39 : UInt8).toNat = 57 := rfl
      omega
    rw [encoded, List.all_cons, outside, notDigit]
    exact ⟨rfl, nofun⟩
  · have encoded := utf8EncodeChar_narrow (Nat.not_lt.mp wide)
    have inside : isAsciiDigit (UInt8.ofNat char.toNat) = char.isDigit := by
      rw [Bool.eq_iff_iff, digit, isAsciiDigit, Bool.and_eq_true, decide_eq_true_eq,
        decide_eq_true_eq, UInt8.le_iff_toNat_le, UInt8.le_iff_toNat_le, UInt8.toNat_ofNat',
        Nat.mod_eq_of_lt (by omega)]
      rfl
    rw [encoded, List.all_cons, inside]
    exact ⟨Bool.and_true _, fun _ => rfl⟩

/-- A string is encoded in digit bytes exactly when its characters are digits. -/
theorem utf8_all_digits (text : String) :
    (utf8 text).all isAsciiDigit = text.toList.all Char.isDigit ∧
      (text.toList.all Char.isDigit → (utf8 text).length = text.length) := by
  have chars (items : List Char) :
      (utf8 (String.ofList items)).all isAsciiDigit = items.all Char.isDigit ∧
        (items.all Char.isDigit → (utf8 (String.ofList items)).length = items.length) := by
    induction items with
    | nil => exact ⟨rfl, fun _ => rfl⟩
    | cons char rest ih =>
      obtain ⟨same, one⟩ := utf8EncodeChar_digit char
      rw [utf8_cons, List.all_append, same, ih.1, List.all_cons]
      refine ⟨rfl, fun digits => ?_⟩
      rw [Bool.and_eq_true] at digits
      rw [List.length_append, one digits.1, ih.2 digits.2, List.length_cons, Nat.add_comm]
  have whole := chars text.toList
  rwa [String.ofList_toList] at whole

end Bytewise
