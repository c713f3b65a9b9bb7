import Passman.Lib.Bytes

/-!
# Prefix codes

A prefix code writes each value so that its reader stops exactly behind the
writing, whatever follows. Values are combined by concatenation, by a tag, by a
count, and through a checked change of representation.
-/
namespace Bytewise

/-- A writer and a reader that stops behind the writing. -/
structure PrefixCode (α : Type) where
  /-- The bytes of a value. -/
  write : α → Bytes
  /-- Read one value and return the bytes behind it. -/
  read : Bytes → Option (α × Bytes)
  /-- A written value is read back in front of anything. -/
  reads : ∀ value rest, read (write value ++ rest) = some (value, rest)

namespace PrefixCode

variable {α β : Type}

/-- Read one byte. -/
def readByte : Bytes → Option (UInt8 × Bytes)
  | [] => none
  | head :: rest => some (head, rest)

/-- One byte. -/
def byte : PrefixCode UInt8 where
  write value := [value]
  read := readByte
  reads _ _ := rfl

/-- Seven bits a byte, least significant first; a set top bit announces another byte. The fuel
bounds the number of bytes. -/
def writeVarint : Nat → Nat → Bytes
  | 0, _ => [0]
  | fuel + 1, value =>
    if value < 128 then [UInt8.ofNat value]
    else UInt8.ofNat (value % 128 + 128) :: writeVarint fuel (value / 128)

/-- Read bytes up to the first without a top bit. -/
def readVarint : Bytes → Option (Nat × Bytes)
  | [] => none
  | head :: rest =>
    if head.toNat < 128 then some (head.toNat, rest)
    else
      match readVarint rest with
      | none => none
      | some (high, behind) => some (head.toNat - 128 + 128 * high, behind)

/-- A variable-length number is read back as written when the fuel covers it. -/
theorem readVarint_writeVarint (fuel value : Nat) (covered : value < fuel + 1) (rest : Bytes) :
    readVarint (writeVarint fuel value ++ rest) = some (value, rest) := by
  induction fuel generalizing value with
  | zero =>
    obtain rfl : value = 0 := by omega
    rfl
  | succ fuel ih =>
    by_cases small : value < 128
    · have single : (UInt8.ofNat value).toNat = value := UInt8.toNat_ofNat_of_lt' (by
        change value < 256
        omega)
      simp [writeVarint, readVarint, small, single]
    · have digit : (UInt8.ofNat (value % 128 + 128)).toNat = value % 128 + 128 :=
        UInt8.toNat_ofNat_of_lt' (by
          change value % 128 + 128 < 256
          omega)
      have later := ih (value / 128) (by omega)
      simp only [writeVarint, small, if_false, List.cons_append, readVarint, digit, later]
      rw [if_neg (by omega)]
      have whole : value % 128 + 128 - 128 + 128 * (value / 128) = value := by omega
      rw [whole]

/-- A variable-length number. -/
def varint : PrefixCode Nat where
  write value := writeVarint value value
  read := readVarint
  reads value rest := readVarint_writeVarint value value (by omega) rest

/-- Exactly `n` bytes. -/
def block (n : Nat) : PrefixCode (Block n) where
  write value := value.val
  read bytes :=
    if enough : n ≤ bytes.length then
      some (⟨bytes.take n, List.length_take_of_le enough⟩, bytes.drop n)
    else none
  reads value rest := by
    have enough : n ≤ (value.val ++ rest).length := by
      rw [List.length_append, value.property]
      omega
    rw [dif_pos enough]
    exact congrArg some (Prod.ext (Subtype.ext (List.take_left' value.property))
      (List.drop_left' value.property))

/-- Two values, one behind the other. -/
def pair (first : PrefixCode α) (second : PrefixCode β) : PrefixCode (α × β) where
  write value := first.write value.1 ++ second.write value.2
  read bytes := do
    let (left, rest) ← first.read bytes
    let (right, rest) ← second.read rest
    return ((left, right), rest)
  reads value rest := by simp [List.append_assoc, first.reads, second.reads]

/-- A value through its representation; reading checks the representation. -/
def via (code : PrefixCode α) (pack : α → Option β) (unpack : β → α)
    (inverse : ∀ value, pack (unpack value) = some value) : PrefixCode β where
  write value := code.write (unpack value)
  read bytes := do
    let (raw, rest) ← code.read bytes
    let value ← pack raw
    return (value, rest)
  reads value rest := by simp [code.reads, inverse]

/-- An optional value behind a presence byte. -/
def optional (code : PrefixCode α) : PrefixCode (Option α) where
  write
    | none => [0]
    | some value => 1 :: code.write value
  read bytes := do
    let (tag, rest) ← readByte bytes
    if tag = 0 then return (none, rest)
    else if tag = 1 then
      let (value, rest) ← code.read rest
      return (some value, rest)
    else none
  reads value rest := by
    cases value with
    | none => rfl
    | some value => simp [readByte, code.reads]

/-- Read a fixed number of values. -/
def readItems (code : PrefixCode α) : Nat → Bytes → Option (List α × Bytes)
  | 0, bytes => some ([], bytes)
  | count + 1, bytes => do
    let (head, rest) ← code.read bytes
    let (tail, rest) ← readItems code count rest
    return (head :: tail, rest)

/-- Written values are read back in order. -/
theorem readItems_flatMap (code : PrefixCode α) (values : List α) (rest : Bytes) :
    code.readItems values.length (values.flatMap code.write ++ rest) = some (values, rest) := by
  induction values with
  | nil => rfl
  | cons head tail ih =>
    simp only [List.flatMap_cons, List.length_cons, List.append_assoc, readItems, code.reads,
      Option.bind_eq_bind, Option.bind_some, ih]
    rfl

/-- Values behind their count. -/
def counted (code : PrefixCode α) : PrefixCode (List α) where
  write values := varint.write values.length ++ values.flatMap code.write
  read bytes := do
    let (count, rest) ← varint.read bytes
    code.readItems count rest
  reads values rest := by
    rw [List.append_assoc, varint.reads]
    exact code.readItems_flatMap values rest

/-- UTF-8 text behind its length in bytes. -/
def text : PrefixCode String :=
  byte.counted.via ofUtf8 utf8 ofUtf8_utf8

/-- A single character, as text. -/
def char : PrefixCode Char :=
  text.via (fun string => match string.toList with | [c] => some c | _ => none)
    (fun c => String.singleton c) (by simp)

/-- A truth value as one byte. -/
def flag : PrefixCode Bool :=
  byte.via (fun value => if value = 0 then some false else if value = 1 then some true else none)
    (fun value => if value then 1 else 0) (by decide)

/-- A 16-bit word as a variable-length number. -/
def word16 : PrefixCode UInt16 :=
  varint.via (fun value => if value < 65536 then some (UInt16.ofNat value) else none)
    UInt16.toNat (fun value => by
      have bound : value.toNat < 65536 := value.toNat_lt
      rw [if_pos bound, UInt16.ofNat_toNat])

/-- What is read is read in front of anything. -/
def Settles (code : PrefixCode α) : Prop := ∀ bytes value rest,
  code.read bytes = some (value, rest) →
    ∀ more, code.read (bytes ++ more) = some (value, rest ++ more)

namespace Settles

variable {code : PrefixCode α}

/-- A writing that was cut short is not read. -/
theorem cut (settles : code.Settles) (value : α) {length : Nat}
    (short : length < (code.write value).length) :
    code.read ((code.write value).take length) = none := by
  cases found : code.read ((code.write value).take length) with
  | none => rfl
  | some result =>
    obtain ⟨other, rest⟩ := result
    have whole := settles _ _ _ found ((code.write value).drop length)
    have read := code.reads value []
    rw [List.append_nil] at read
    rw [List.take_append_drop, read] at whole
    have behind : rest ++ (code.write value).drop length = [] :=
      (congrArg Prod.snd (Option.some.inj whole)).symm
    have counted := congrArg List.length behind
    rw [List.length_append, List.length_drop, List.length_nil] at counted
    omega

/-- One byte is settled. -/
theorem byte : PrefixCode.byte.Settles := by
  intro bytes value rest found more
  cases bytes with
  | nil => cases found
  | cons head tail =>
    obtain ⟨rfl, rfl⟩ := Prod.mk.inj (Option.some.inj found)
    rfl

/-- A variable-length number is settled. -/
theorem varint : PrefixCode.varint.Settles := by
  intro bytes
  change ∀ value rest, readVarint bytes = some (value, rest) →
    ∀ more, readVarint (bytes ++ more) = some (value, rest ++ more)
  induction bytes with
  | nil =>
    intro value rest found
    cases found
  | cons head tail ih =>
    intro value rest found more
    rw [List.cons_append]
    rw [readVarint] at found ⊢
    by_cases last : head.toNat < 128
    · rw [if_pos last] at found ⊢
      obtain ⟨rfl, rfl⟩ := Prod.mk.inj (Option.some.inj found)
      rfl
    · rw [if_neg last] at found ⊢
      cases later : readVarint tail with
      | none =>
        rw [later] at found
        cases found
      | some result =>
        rw [later] at found
        obtain ⟨rfl, rfl⟩ := Prod.mk.inj (Option.some.inj found)
        rw [ih result.1 result.2 later more]

/-- A block is settled. -/
theorem block (n : Nat) : (PrefixCode.block n).Settles := by
  intro bytes value rest found more
  change (if enough : n ≤ bytes.length then _ else none) = _ at found
  by_cases enough : n ≤ bytes.length
  · rw [dif_pos enough] at found
    obtain ⟨rfl, rfl⟩ := Prod.mk.inj (Option.some.inj found)
    have longer : n ≤ (bytes ++ more).length := by
      rw [List.length_append]
      omega
    change (if enough : n ≤ (bytes ++ more).length then _ else none) = _
    rw [dif_pos longer]
    exact congrArg some (Prod.ext (Subtype.ext (List.take_append_of_le_length enough))
      (List.drop_append_of_le_length enough))
  · rw [dif_neg enough] at found
    cases found

/-- Two settled values are settled. -/
theorem pair {second : PrefixCode β} (settles : code.Settles) (later : second.Settles) :
    (code.pair second).Settles := by
  intro bytes value rest found more
  obtain ⟨⟨left, middle⟩, first, found⟩ := Option.bind_eq_some_iff.mp found
  obtain ⟨⟨right, behind⟩, next, found⟩ := Option.bind_eq_some_iff.mp found
  obtain ⟨rfl, rfl⟩ := Prod.mk.inj (Option.some.inj found)
  refine Option.bind_eq_some_iff.mpr ⟨_, settles _ _ _ first more, ?_⟩
  exact Option.bind_eq_some_iff.mpr ⟨_, later _ _ _ next more, rfl⟩

/-- A value whose representation is settled is settled. -/
theorem via (settles : code.Settles) (pack : α → Option β) (unpack : β → α)
    (inverse : ∀ value, pack (unpack value) = some value) :
    (code.via pack unpack inverse).Settles := by
  intro bytes value rest found more
  obtain ⟨⟨raw, behind⟩, first, found⟩ := Option.bind_eq_some_iff.mp found
  obtain ⟨packed, checked, found⟩ := Option.bind_eq_some_iff.mp found
  obtain ⟨rfl, rfl⟩ := Prod.mk.inj (Option.some.inj found)
  refine Option.bind_eq_some_iff.mpr ⟨_, settles _ _ _ first more, ?_⟩
  exact Option.bind_eq_some_iff.mpr ⟨_, checked, rfl⟩

/-- An optional settled value is settled. -/
theorem optional (settles : code.Settles) : code.optional.Settles := by
  intro bytes value rest found more
  obtain ⟨⟨tag, behind⟩, first, found⟩ := Option.bind_eq_some_iff.mp found
  refine Option.bind_eq_some_iff.mpr ⟨_, byte _ _ _ first more, ?_⟩
  dsimp only at found ⊢
  by_cases absent : tag = 0
  · rw [if_pos absent] at found ⊢
    obtain ⟨rfl, rfl⟩ := Prod.mk.inj (Option.some.inj found)
    rfl
  · rw [if_neg absent] at found ⊢
    by_cases present : tag = 1
    · rw [if_pos present] at found ⊢
      obtain ⟨⟨inner, last⟩, read, found⟩ := Option.bind_eq_some_iff.mp found
      obtain ⟨rfl, rfl⟩ := Prod.mk.inj (Option.some.inj found)
      exact Option.bind_eq_some_iff.mpr ⟨_, settles _ _ _ read more, rfl⟩
    · rw [if_neg present] at found
      cases found

/-- Counted settled values are settled. -/
theorem counted (settles : code.Settles) : code.counted.Settles := by
  have items : ∀ (count : Nat) (bytes : Bytes) (values : List α) (rest : Bytes),
      code.readItems count bytes = some (values, rest) →
        ∀ more, code.readItems count (bytes ++ more) = some (values, rest ++ more) := by
    intro count
    induction count with
    | zero =>
      intro bytes values rest found more
      obtain ⟨rfl, rfl⟩ := Prod.mk.inj (Option.some.inj found)
      rfl
    | succ count ih =>
      intro bytes values rest found more
      obtain ⟨⟨head, middle⟩, first, found⟩ := Option.bind_eq_some_iff.mp found
      obtain ⟨⟨tail, behind⟩, next, found⟩ := Option.bind_eq_some_iff.mp found
      obtain ⟨rfl, rfl⟩ := Prod.mk.inj (Option.some.inj found)
      refine Option.bind_eq_some_iff.mpr ⟨_, settles _ _ _ first more, ?_⟩
      exact Option.bind_eq_some_iff.mpr ⟨_, ih _ _ _ next more, rfl⟩
  intro bytes values rest found more
  obtain ⟨⟨count, behind⟩, first, found⟩ := Option.bind_eq_some_iff.mp found
  exact Option.bind_eq_some_iff.mpr ⟨_, varint _ _ _ first more, items _ _ _ _ found more⟩

/-- UTF-8 text is settled. -/
theorem text : PrefixCode.text.Settles := byte.counted.via _ _ _

/-- A character is settled. -/
theorem char : PrefixCode.char.Settles := text.via _ _ _

/-- A truth value is settled. -/
theorem flag : PrefixCode.flag.Settles := byte.via _ _ _

/-- A 16-bit word is settled. -/
theorem word16 : PrefixCode.word16.Settles := varint.via _ _ _

end Settles

end PrefixCode

end Bytewise
