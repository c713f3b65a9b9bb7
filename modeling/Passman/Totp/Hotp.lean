import Passman.Lib.Bytes

/-!
# HOTP values

The keyed hash of an eight-byte counter is truncated to 31 bits at an offset its
last byte selects, reduced to the configured number of decimal digits, and
written as zero-padded ASCII.
-/
namespace Passman

open Bytewise

/-- The hash function behind a code. -/
inductive TotpAlgorithm where
  /-- HMAC-SHA1. -/
  | sha1
  /-- HMAC-SHA256. -/
  | sha256
  /-- HMAC-SHA512. -/
  | sha512
  deriving DecidableEq

/-- A keyed-hash tag; every supported hash emits at least 20 bytes. -/
abbrev HmacTag := { tag : Bytes // 20 ≤ tag.length }

/-- The big-endian eight-byte counter. -/
def counterBytes (counter : UInt64) : Bytes := (toLe counter).reverse

/-- The four-byte window the last byte selects, with the top bit masked. -/
def truncate (tag : HmacTag) : UInt32 :=
  have sized := tag.property
  let offset := (tag.val[tag.val.length - 1] &&& 0x0f).toNat
  have low : offset < 16 := by
    have masked := Nat.and_le_right (n := (tag.val[tag.val.length - 1]).toNat) (m := 15)
    simp only [offset, UInt8.toNat_and]
    exact Nat.lt_succ_of_le masked
  let first := (tag.val[offset] &&& 0x7f).toNat
  let second := tag.val[offset + 1].toNat
  let third := tag.val[offset + 2].toNat
  let fourth := tag.val[offset + 3].toNat
  UInt32.ofNat (first * 2 ^ 24 + second * 2 ^ 16 + third * 2 ^ 8 + fourth)

/-- The zero-padded ASCII decimal form of a value, in exactly `digits` bytes. -/
def formatPadded : Nat → UInt32 → Bytes
  | 0, _ => []
  | digits + 1, value => formatPadded digits (value / 10) ++ [0x30 + (value % 10).toUInt8]

/-- The form has exactly the requested width. -/
@[simp] theorem formatPadded_length (digits : Nat) (value : UInt32) :
    (formatPadded digits value).length = digits := by
  induction digits generalizing value with
  | zero => rfl
  | succ digits ih => rw [formatPadded, List.length_append, ih, List.length_singleton]

/-- The form consists of ASCII digits. -/
theorem formatPadded_ascii (digits : Nat) (value : UInt32) :
    (formatPadded digits value).all fun byte => 0x30 ≤ byte && byte ≤ 0x39 := by
  induction digits generalizing value with
  | zero => rfl
  | succ digits ih =>
    have digit : ∀ rest : UInt32, rest.toNat < 10 →
        (0x30 ≤ (0x30 + rest.toUInt8 : UInt8) && (0x30 + rest.toUInt8 : UInt8) ≤ 0x39) = true := by
      intro rest small
      have bytes : ∀ low : Fin 10, (0x30 ≤ (0x30 + UInt8.ofNat low.val) &&
          (0x30 + UInt8.ofNat low.val) ≤ 0x39) = true := by decide
      have named : rest.toUInt8 = UInt8.ofNat rest.toNat := by
        rw [← UInt8.toNat_inj]
        simp
      rw [named]
      exact bytes ⟨rest.toNat, small⟩
    have small : (value % 10).toNat < 10 := by
      rw [UInt32.toNat_mod]
      exact Nat.mod_lt _ (by decide)
    rw [formatPadded, List.all_append, ih, List.all_cons, digit _ small]
    rfl

end Passman
