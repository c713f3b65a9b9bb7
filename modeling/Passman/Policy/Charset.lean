import Mathlib.Data.List.Nodup
import Passman.Policy.Policy

/-!
# Effective character sets

The flags of a charset select classes, and its disallow list removes characters from them. The
effective set is the union of what is left, without repetition, because an explicit symbol set
can overlap the other classes.
-/
namespace Passman

/-- The lowercase ASCII letters. -/
def lowercase : List Char :=
  ['a', 'b', 'c', 'd', 'e', 'f', 'g', 'h', 'i', 'j', 'k', 'l', 'm', 'n', 'o', 'p', 'q', 'r', 's',
    't', 'u', 'v', 'w', 'x', 'y', 'z']

/-- The uppercase ASCII letters. -/
def uppercase : List Char :=
  ['A', 'B', 'C', 'D', 'E', 'F', 'G', 'H', 'I', 'J', 'K', 'L', 'M', 'N', 'O', 'P', 'Q', 'R', 'S',
    'T', 'U', 'V', 'W', 'X', 'Y', 'Z']

/-- The digits. -/
def digits : List Char := ['0', '1', '2', '3', '4', '5', '6', '7', '8', '9']

/-- A small symbol subset that is safe in shells and forms. -/
def basicSymbols : List Char := ['!', '@', '#', '$', '%', '^', '&', '*', '-', '_', '=', '+']

/-- All 32 ASCII punctuation characters. -/
def fullSymbols : List Char :=
  ['!', '"', '#', '$', '%', '&', '\'', '(', ')', '*', '+', ',', '-', '.', '/', ':', ';', '<', '=',
    '>', '?', '@', '[', '\\', ']', '^', '_', '`', '{', '|', '}', '~']

/-- The symbols of a set, before the disallow list is applied. -/
def SymbolSet.chars : SymbolSet → List Char
  | .none => []
  | .basic => basicSymbols
  | .full => fullSymbols
  | .custom set => set.chars

/-- Keep the first occurrence of each character that was not seen yet. -/
def keepFirst (seen : List Char) : List Char → List Char
  | [] => []
  | c :: rest => if c ∈ seen then keepFirst seen rest else c :: keepFirst (c :: seen) rest

namespace Charset

/-- The characters of a class that survive the disallow list, none if the class is off. -/
def filterClass (charset : Charset) (enabled : Bool) (cls : List Char) : List Char :=
  if enabled then cls.filter fun c => c ∉ charset.disallow.chars else []

/-- The lowercase letters that survive. -/
def effectiveLowercase (charset : Charset) : List Char :=
  charset.filterClass charset.lowercase Passman.lowercase

/-- The uppercase letters that survive. -/
def effectiveUppercase (charset : Charset) : List Char :=
  charset.filterClass charset.uppercase Passman.uppercase

/-- The digits that survive. -/
def effectiveDigits (charset : Charset) : List Char :=
  charset.filterClass charset.digits Passman.digits

/-- The symbols that survive. -/
def effectiveSymbols (charset : Charset) : List Char :=
  charset.symbols.chars.filter fun c => c ∉ charset.disallow.chars

/-- The union of the surviving classes, each character once. -/
def effectiveSet (charset : Charset) : List Char :=
  keepFirst [] (charset.effectiveLowercase ++ charset.effectiveUppercase ++
    charset.effectiveDigits ++ charset.effectiveSymbols)

end Charset

/-- What is kept was offered and not seen before. -/
theorem mem_keepFirst {seen offered : List Char} {c : Char} :
    c ∈ keepFirst seen offered ↔ c ∈ offered ∧ c ∉ seen := by
  induction offered generalizing seen with
  | nil => simp [keepFirst]
  | cons head rest ih =>
    by_cases known : head ∈ seen
    · rw [keepFirst, if_pos known, ih, List.mem_cons]
      constructor
      · exact fun kept => ⟨.inr kept.1, kept.2⟩
      · rintro ⟨rfl | later, fresh⟩
        · exact absurd known fresh
        · exact ⟨later, fresh⟩
    · rw [keepFirst, if_neg known, List.mem_cons, ih, List.mem_cons, List.mem_cons, not_or]
      constructor
      · rintro (rfl | ⟨later, _, fresh⟩)
        · exact ⟨.inl rfl, known⟩
        · exact ⟨.inr later, fresh⟩
      · rintro ⟨first | later, fresh⟩
        · exact .inl first
        · by_cases first : c = head
          · exact .inl first
          · exact .inr ⟨later, first, fresh⟩

/-- Nothing is kept twice. -/
theorem nodup_keepFirst (seen offered : List Char) : (keepFirst seen offered).Nodup := by
  induction offered generalizing seen with
  | nil => exact List.nodup_nil
  | cons head rest ih =>
    by_cases known : head ∈ seen
    · rw [keepFirst, if_pos known]
      exact ih seen
    · rw [keepFirst, if_neg known, List.nodup_cons]
      exact ⟨fun member => (mem_keepFirst.mp member).2 List.mem_cons_self, ih _⟩

/-- The members of an explicit set do not repeat. -/
theorem CharSet.nodup (set : CharSet) : set.chars.Nodup := by
  refine set.sorted.imp fun below same => ?_
  exact Char.lt_irrefl _ (same ▸ below)

namespace Charset

/-- The effective set is the union of the surviving classes. -/
theorem mem_effectiveSet {charset : Charset} {c : Char} :
    c ∈ charset.effectiveSet ↔ c ∈ charset.effectiveLowercase ∨ c ∈ charset.effectiveUppercase ∨
      c ∈ charset.effectiveDigits ∨ c ∈ charset.effectiveSymbols := by
  simp [effectiveSet, mem_keepFirst]

/-- The effective set has no repetition. -/
theorem effectiveSet_nodup (charset : Charset) : charset.effectiveSet.Nodup := nodup_keepFirst _ _

/-- No symbol survives twice. -/
theorem effectiveSymbols_nodup (charset : Charset) : charset.effectiveSymbols.Nodup := by
  have distinct : charset.symbols.chars.Nodup := by
    cases charset.symbols with
    | none => exact List.nodup_nil
    | basic => decide
    | full => decide
    | custom set => exact set.nodup
  exact distinct.filter _

/-- What survives of a class belongs to it. -/
theorem mem_of_filterClass {charset : Charset} {enabled : Bool} {cls : List Char} {c : Char}
    (survives : c ∈ charset.filterClass enabled cls) : c ∈ cls := by
  cases enabled with
  | false => cases survives
  | true => exact (List.mem_filter.mp survives).1

end Charset

end Passman
