import Passman.Lib.Checked
import Passman.Totp.Verifier
import Mathlib.Data.List.Induction

/-!
# Digits of one-time codes

Truncation indexes the tag at an offset the tag itself selects, reduction looks up a power of ten,
and formatting fills the slots of a buffer from the last to the first. None of them leaves its
buffer, and what they write is the decimal form of the value, so comparing codes is comparing
numbers.
-/
namespace Passman

open Bytewise Checked

/-- The powers of ten, with a slot that no width of a code reaches. -/
def pow10 : List UInt32 :=
  [1, 10, 100, 1000, 10000, 100000, 1000000, 10000000, 100000000, 1000000000, 0]

/-- The power of ten at an index. -/
def pow10At (index : Nat) : Checked TotpError UInt32 :=
  if inside : index < pow10.length then .ok pow10[index] else panic

/-- Truncate a tag, indexing it. -/
def truncateAt (tag : Bytes) : Checked TotpError UInt32 :=
  if tag.length < 20 then panic
  else do
    let last ← byteAt tag (← sub tag.length 1)
    let offset := (last &&& 0x0f).toNat
    let first ← byteAt tag offset
    let second ← byteAt tag (offset + 1)
    let third ← byteAt tag (offset + 2)
    let fourth ← byteAt tag (offset + 3)
    return UInt32.ofNat (leNat [fourth, third, second, first &&& 0x7f])

/-- The remainder of a division, which panics for zero. -/
def remainder (value divisor : UInt32) : Checked TotpError UInt32 :=
  if divisor = 0 then panic else .ok (value % divisor)

/-- The HOTP value of a counter, with the lookup of its divisor. -/
def hotpValueAt [Crates] (algorithm : TotpAlgorithm) (seed : Bytes) (counter : UInt64)
    (digits : UInt8) : Checked TotpError UInt32 :=
  if 1 ≤ digits.toNat ∧ digits.toNat ≤ 8 then do
    let truncated ← truncateAt (Crates.hmac algorithm seed (counterBytes counter)).val
    remainder truncated (← pow10At digits.toNat)
  else panic

/-- A word as a byte, or zero when it does not fit. -/
def tryByte (word : UInt32) : UInt8 := if word.toNat < 256 then word.toUInt8 else 0

/-- Fill slots, the last one first, with the digits of what remains of a value. -/
def fillSlots : Bytes → UInt32 → Bytes
  | [], _ => []
  | _ :: earlier, remaining =>
    (0x30 + tryByte (remaining % 10)) :: fillSlots earlier (remaining / 10)

/-- Write the decimal form of a value over a buffer, which must have a slot for each digit. -/
def formatPaddedAt (value : UInt32) (digits : UInt8) (out : Bytes) : Checked TotpError Bytes :=
  if out.length = digits.toNat then .ok (fillSlots out.reverse value).reverse else panic

/-- Truncation reads inside every tag of 20 bytes. -/
theorem truncateAt_eq (tag : HmacTag) : truncateAt tag.val = .ok (truncate tag) := by
  have sized := tag.property
  have low : (tag.val[tag.val.length - 1] &&& 0x0f).toNat < 16 := by
    rw [UInt8.toNat_and]
    exact Nat.lt_succ_of_le Nat.and_le_right
  unfold truncateAt
  rw [if_neg (by omega), sub_of_le (by omega), ok_bind, byteAt_of_lt (by omega), ok_bind]
  dsimp only
  rw [byteAt_of_lt (by omega), ok_bind, byteAt_of_lt (by omega), ok_bind, byteAt_of_lt (by omega),
    ok_bind, byteAt_of_lt (by omega), ok_bind]
  have word : ∀ first second third fourth : UInt8, leNat [fourth, third, second, first] =
      first.toNat * 2 ^ 24 + second.toNat * 2 ^ 16 + third.toNat * 2 ^ 8 + fourth.toNat := by
    intro first second third fourth
    simp only [leNat]
    omega
  rw [word]
  rfl

/-- A truncated tag has its top bit clear. -/
theorem truncate_lt (tag : HmacTag) : (truncate tag).toNat < 2 ^ 31 := by
  have masked : ∀ byte : UInt8, (byte &&& 0x7f).toNat ≤ 127 := by
    intro byte
    rw [UInt8.toNat_and]
    exact Nat.and_le_right
  have word : ∀ first second third fourth : UInt8, first.toNat ≤ 127 →
      (UInt32.ofNat (first.toNat * 2 ^ 24 + second.toNat * 2 ^ 16 + third.toNat * 2 ^ 8 +
        fourth.toNat)).toNat < 2 ^ 31 := by
    intro first second third fourth top
    have secondByte := second.toNat_lt
    have thirdByte := third.toNat_lt
    have fourthByte := fourth.toNat_lt
    rw [UInt32.toNat_ofNat_of_lt' (by change _ < 4294967296; omega)]
    omega
  exact word _ _ _ _ (masked _)

/-- The table holds the powers of ten for every width of a code. -/
theorem pow10At_eq {digits : Nat} (narrow : digits ≤ 8) :
    pow10At digits = .ok (UInt32.ofNat (10 ^ digits)) := by
  have all : ∀ index < 9, pow10At index = .ok (UInt32.ofNat (10 ^ index)) := by decide
  exact all digits (by omega)

/-- Filling the slots from the last to the first writes the decimal form. -/
theorem fillSlots_reverse (slots : Bytes) (value : UInt32) :
    (fillSlots slots value).reverse = formatPadded slots.length value := by
  induction slots generalizing value with
  | nil => rfl
  | cons slot earlier ih =>
    have small : (value % 10).toNat < 256 := by
      rw [UInt32.toNat_mod]
      exact Nat.lt_of_lt_of_le (Nat.mod_lt _ (by decide)) (by decide)
    rw [fillSlots, List.reverse_cons, ih, List.length_cons, formatPadded, tryByte, if_pos small]

/-- The decimal writing of a number, padded with zeros to a width. -/
def decimalForm (width value : Nat) : List Char := (Nat.toDigits 10 value).leftpad width '0'

/-- The last digit of a padded writing, behind the padded writing of the others. -/
theorem decimalForm_succ (width value : Nat) :
    decimalForm (width + 1 + 1) value =
      decimalForm (width + 1) (value / 10) ++ [Nat.digitChar (value % 10)] := by
  unfold decimalForm List.leftpad
  by_cases short : value < 10
  · have none : value / 10 = 0 := by omega
    have last : value % 10 = value := by omega
    rw [none, last, Nat.toDigits_zero, Nat.toDigits_of_lt_base short, List.length_singleton,
      List.length_singleton, Nat.add_sub_cancel, Nat.add_sub_cancel, List.replicate_succ']
  · rw [Nat.toDigits_of_base_le (by decide) (by omega), List.length_append, List.length_singleton,
      Nat.add_sub_add_right, List.append_assoc]

/-- A padded writing denotes its number. -/
theorem ofDigitChars_decimalForm (width value : Nat) :
    Nat.ofDigitChars 10 (decimalForm width value) 0 = value := by
  rw [decimalForm, List.leftpad, Nat.ofDigitChars_append, Nat.ofDigitChars_replicate_zero,
    Nat.mul_zero, Nat.ofDigitChars_ten_toDigits]

/-- A digit is the character of its value. -/
theorem digitChar_of_isDigit {char : Char} (digit : char.isDigit) :
    Nat.digitChar (char.toNat - 48) = char ∧ char.toNat - 48 < 10 := by
  have value : char.val.toNat = char.toNat := rfl
  have range : 48 ≤ char.toNat ∧ char.toNat ≤ 57 := by
    simpa [Char.isDigit, UInt32.le_iff_toNat_le, value] using digit
  have small : char.toNat - 48 < 10 := by omega
  refine ⟨?_, small⟩
  apply Char.toNat_inj.mp
  rw [Nat.toNat_digitChar_of_lt_ten small]
  omega

/-- A string of digits is the padded writing of the number it denotes. -/
theorem decimalForm_ofDigitChars {width : Nat} {chars : List Char}
    (sized : chars.length = width + 1) (digits : ∀ char ∈ chars, char.isDigit) :
    decimalForm (width + 1) (Nat.ofDigitChars 10 chars 0) = chars := by
  induction chars using List.reverseRecOn generalizing width with
  | nil => cases sized
  | append_singleton front last ih =>
    obtain ⟨written, small⟩ := digitChar_of_isDigit (digits last (by simp))
    have value : Nat.ofDigitChars 10 (front ++ [last]) 0 =
        10 * Nat.ofDigitChars 10 front 0 + (last.toNat - 48) := by
      rw [Nat.ofDigitChars_append, Nat.ofDigitChars_cons, Nat.ofDigitChars_nil]
      rfl
    have quotient : (10 * Nat.ofDigitChars 10 front 0 + (last.toNat - 48)) / 10 =
        Nat.ofDigitChars 10 front 0 := by omega
    have residue : (10 * Nat.ofDigitChars 10 front 0 + (last.toNat - 48)) % 10 =
        last.toNat - 48 := by omega
    rw [List.length_append, List.length_singleton] at sized
    rw [value]
    cases width with
    | zero =>
      obtain rfl := List.length_eq_zero_iff.mp (Nat.succ.inj sized)
      rw [Nat.ofDigitChars_nil, Nat.mul_zero, Nat.zero_add (last.toNat - 48), decimalForm,
        List.leftpad, Nat.toDigits_of_lt_base small, written]
      rfl
    | succ width =>
      have others := ih (Nat.succ.inj sized) fun char member =>
        digits char (List.mem_append_left _ member)
      rw [decimalForm_succ, quotient, residue, written, others]

/-- The byte of a digit is its encoding. -/
theorem utf8EncodeChar_digitChar {digit : Nat} (small : digit < 10) :
    String.utf8EncodeChar (Nat.digitChar digit) = [0x30 + UInt8.ofNat digit] := by
  have code := Nat.toNat_digitChar_of_lt_ten small
  rw [utf8EncodeChar_narrow (by omega), code, UInt8.ofNat_add]
  rfl

/-- Formatting writes the padded decimal form of a value that has no more digits. -/
theorem formatPadded_eq (width : Nat) (value : UInt32) (fits : value.toNat < 10 ^ (width + 1)) :
    formatPadded (width + 1) value =
      utf8 (String.ofList (decimalForm (width + 1) value.toNat)) := by
  have digit : ∀ word : UInt32, (0x30 : UInt8) + (word % 10).toUInt8 =
      0x30 + UInt8.ofNat (word.toNat % 10) := by
    intro word
    have byte : (word % 10).toUInt8 = UInt8.ofNat (word.toNat % 10) := by
      rw [← UInt8.toNat_inj, UInt32.toNat_toUInt8, UInt32.toNat_mod, UInt8.toNat_ofNat']
      rfl
    rw [byte]
  have encoded : ∀ word : UInt32, [(0x30 : UInt8) + (word % 10).toUInt8] =
      String.utf8EncodeChar (Nat.digitChar (word.toNat % 10)) := by
    intro word
    rw [utf8EncodeChar_digitChar (Nat.mod_lt _ (by decide)), digit]
  induction width generalizing value with
  | zero =>
    have small : value.toNat < 10 := by omega
    have same : value.toNat % 10 = value.toNat := Nat.mod_eq_of_lt small
    rw [formatPadded, formatPadded, encoded, same, utf8_ofList, decimalForm,
      Nat.toDigits_of_lt_base small]
    exact (List.append_nil _).symm
  | succ width ih =>
    have quotient : (value / 10).toNat = value.toNat / 10 := UInt32.toNat_div value 10
    have shorter : (value / 10).toNat < 10 ^ (width + 1) := by
      rw [Nat.pow_succ] at fits
      omega
    rw [formatPadded, ih (value / 10) shorter, quotient, decimalForm_succ, utf8_ofList, utf8_ofList,
      List.flatMap_append, encoded]
    congr 1
    exact (List.append_nil _).symm

/-- A parsed code is as long as the width and consists of digits. -/
theorem parseCode_ok {code : String} {digits : UInt8} {candidate : Bytes}
    (parsed : parseCode code digits = .ok candidate) :
    candidate = utf8 code ∧ code.toList.length = digits.toNat ∧
      ∀ char ∈ code.toList, char.isDigit := by
  obtain ⟨ascii, sized⟩ := utf8_all_digits code
  simp only [parseCode] at parsed
  by_cases other : (utf8 code).length ≠ digits.toNat
  · rw [if_pos other] at parsed
    cases parsed
  rw [if_neg other] at parsed
  change (if (utf8 code).all isAsciiDigit then _ else _) = _ at parsed
  rw [ascii] at parsed
  by_cases decimal : code.toList.all Char.isDigit = true
  · rw [if_pos decimal] at parsed
    refine ⟨(Except.ok.inj parsed).symm, ?_, List.all_eq_true.mp decimal⟩
    rw [String.length_toList, ← sized decimal]
    exact not_not.mp other
  · rw [if_neg decimal] at parsed
    cases parsed

section Codes

variable [Crates]

/-- The HOTP value is below the power of ten of its width. -/
theorem hotpValue_toNat (algorithm : TotpAlgorithm) (seed : Bytes) (counter : UInt64)
    {digits : UInt8} (narrow : digits.toNat ≤ 8) :
    (hotpValue algorithm seed counter digits).toNat =
      (truncate (Crates.hmac algorithm seed (counterBytes counter))).toNat % 10 ^ digits.toNat := by
  have bound : 10 ^ digits.toNat ≤ 10 ^ 8 := Nat.pow_le_pow_right (by decide) narrow
  have power : (UInt32.ofNat (10 ^ digits.toNat)).toNat = 10 ^ digits.toNat :=
    UInt32.toNat_ofNat_of_lt' (by change _ < 4294967296; omega)
  rw [hotpValue, UInt32.toNat_mod, power]

/-- The value is computed with a divisor from the table, without a panic. -/
theorem hotpValueAt_eq (algorithm : TotpAlgorithm) (seed : Bytes) (counter : UInt64)
    {digits : UInt8} (positive : 1 ≤ digits.toNat) (narrow : digits.toNat ≤ 8) :
    hotpValueAt algorithm seed counter digits = .ok (hotpValue algorithm seed counter digits) := by
  have nonzero : UInt32.ofNat (10 ^ digits.toNat) ≠ 0 := by
    have all : ∀ width < 9, UInt32.ofNat (10 ^ width) ≠ 0 := by decide
    exact all _ (by omega)
  rw [hotpValueAt, if_pos ⟨positive, narrow⟩, truncateAt_eq, ok_bind, pow10At_eq narrow, ok_bind,
    remainder, if_neg nonzero]
  rfl

/-- Truncation and formatting are exact. Every tag of at least 20 bytes is truncated inside the tag,
to a value below `2 ^ 31`; the HOTP value of 6 to 8 digits is that value modulo the power of ten;
it is formatted over any buffer of that length as its zero-padded decimal form; and a well-formed
code has the same bytes exactly when it denotes the same number. -/
theorem hotp_digits_exact :
    (∀ tag : Bytes, 20 ≤ tag.length → ∃ truncated, truncateAt tag = .ok truncated ∧
      truncated.toNat < 2 ^ 31) ∧
    ∀ (algorithm : TotpAlgorithm) (seed : Bytes) (counter : UInt64) (digits : UInt8),
      6 ≤ digits.toNat → digits.toNat ≤ 8 → ∃ truncated value,
        truncateAt (Crates.hmac algorithm seed (counterBytes counter)).val = .ok truncated ∧
        hotpValueAt algorithm seed counter digits = .ok value ∧
        value = hotpValue algorithm seed counter digits ∧
        value.toNat = truncated.toNat % 10 ^ digits.toNat ∧
        ∀ out : Bytes, out.length = digits.toNat → ∃ written,
          formatPaddedAt value digits out = .ok written ∧
          written = formatPadded digits.toNat value ∧
          written = utf8 (String.ofList (decimalForm digits.toNat value.toNat)) ∧
          written.length = digits.toNat ∧
          ∀ code candidate, parseCode code digits = .ok candidate →
            (candidate = written ↔ Nat.ofDigitChars 10 code.toList 0 = value.toNat) := by
  refine ⟨?_, ?_⟩
  · intro tag sized
    exact ⟨_, truncateAt_eq ⟨tag, sized⟩, truncate_lt ⟨tag, sized⟩⟩
  · intro algorithm seed counter digits wide narrow
    let value := hotpValue algorithm seed counter digits
    have reduced := hotpValue_toNat algorithm seed counter narrow
    have small : value.toNat < 10 ^ digits.toNat := by
      rw [reduced]
      exact Nat.mod_lt _ (Nat.pow_pos (by decide))
    refine ⟨_, value, truncateAt_eq _, hotpValueAt_eq algorithm seed counter (by omega) narrow, rfl,
      reduced, ?_⟩
    intro out sized
    have filled : formatPaddedAt value digits out = .ok (formatPadded digits.toNat value) := by
      rw [formatPaddedAt, if_pos sized, fillSlots_reverse, List.length_reverse, sized]
    obtain ⟨width, shape⟩ : ∃ width, digits.toNat = width + 1 := ⟨digits.toNat - 1, by omega⟩
    have written : formatPadded digits.toNat value =
        utf8 (String.ofList (decimalForm digits.toNat value.toNat)) := by
      rw [shape] at small ⊢
      exact formatPadded_eq width value small
    refine ⟨_, filled, rfl, written, formatPadded_length _ _, ?_⟩
    intro code candidate parsed
    obtain ⟨rfl, counted, decimal⟩ := parseCode_ok parsed
    rw [written]
    constructor
    · intro same
      have text := utf8_injective same
      rw [text, String.toList_ofList, ofDigitChars_decimalForm]
    · intro same
      have form := decimalForm_ofDigitChars (counted.trans shape) decimal
      rw [same] at form
      rw [shape, form, String.ofList_toList]

end Codes

end Passman
