import Mathlib.Algebra.Ring.Nat
import Mathlib.Tactic.Common

/-!
# Password policies

A per-entry policy overrides parts of the vault's default request and travels
inside the sealed index, so its fields are part of what every vault operation
must carry forward. Character sets are ordered sets: the representation is sorted
and carries the proof, so equal sets are equal values.
-/
namespace Passman

/-- An ordered set of characters, as a strictly increasing list. -/
structure CharSet where
  /-- The members in ascending order. -/
  chars : List Char
  /-- The order is strict, so no member repeats. -/
  sorted : chars.Pairwise (· < ·)
  deriving DecidableEq

/-- The set without members. -/
def CharSet.empty : CharSet := ⟨[], List.Pairwise.nil⟩

/-- Which symbol characters a charset may include. -/
inductive SymbolSet where
  /-- No symbols. -/
  | none
  /-- A small, broadly accepted safe subset. -/
  | basic
  /-- All 32 ASCII punctuation characters. -/
  | full
  /-- A caller-supplied explicit set. -/
  | custom (set : CharSet)
  deriving DecidableEq

/-- The character classes a generated password may draw from. -/
structure Charset where
  /-- Whether lowercase letters are selected. -/
  lowercase : Bool
  /-- Whether uppercase letters are selected. -/
  uppercase : Bool
  /-- Whether digits are selected. -/
  digits : Bool
  /-- The selected symbol set. -/
  symbols : SymbolSet
  /-- Characters removed from whatever the flags selected. -/
  disallow : CharSet
  deriving DecidableEq

/-- The default vault charset: every class, the full symbol set and nothing disallowed. -/
def Charset.defaultVault : Charset where
  lowercase := true
  uppercase := true
  digits := true
  symbols := .full
  disallow := .empty

/-- Minimum count of each character class a generated password must contain. -/
structure RequiredClasses where
  /-- Minimum number of lowercase letters. -/
  minLowercase : UInt8
  /-- Minimum number of uppercase letters. -/
  minUppercase : UInt8
  /-- Minimum number of digits. -/
  minDigits : UInt8
  /-- Minimum number of symbols. -/
  minSymbols : UInt8
  deriving DecidableEq

/-- One of each class: the vault default minimum. -/
def RequiredClasses.oneOfEach : RequiredClasses := ⟨1, 1, 1, 1⟩

/-- Optional per-entry overrides applied over the vault default; `none` inherits. -/
structure EntryPolicy where
  /-- The generated length. -/
  length : Option UInt16
  /-- The character set. -/
  charsetOverride : Option Charset
  /-- The required-class minimums. -/
  requiredClassesOverride : Option RequiredClasses
  /-- A free-form note. -/
  userNote : Option String
  deriving DecidableEq

/-- The policy without overrides. -/
def EntryPolicy.default : EntryPolicy := ⟨none, none, none, none⟩

/-- A fully resolved request to generate one password. -/
structure GenerationRequest where
  /-- The requested length. -/
  length : UInt16
  /-- The resolved character set. -/
  charset : Charset
  /-- The resolved class minimums. -/
  requiredClasses : RequiredClasses
  deriving DecidableEq

/-- Why a password could not be generated. -/
inductive PolicyError where
  /-- The effective character set has fewer than two characters. -/
  | emptyCharset
  /-- The class minimums exceed the requested length. -/
  | impossibleConstraints (required : UInt32) (length : UInt16)
  /-- A required class has no characters left. -/
  | requiredClassUnavailable (cls : String) (minimum : UInt8)
  /-- The requested length is outside the supported range. -/
  | lengthOutOfRange (length : UInt16)
  deriving DecidableEq

end Passman
