import Passman.Core.World

/-!
# The clipboard

The platform computes digests; the core compares them. A cookie stands for one value
the program wrote, so a clear overwrites the clipboard only while it still holds that
value.
-/
namespace Passman

open Bytewise Fallible

/-- What a copy leaves with the caller: the digest of the value and when it was written. -/
structure ClipboardCookie where
  /-- The digest of the written value. -/
  digest : Block 32
  /-- When it was written. -/
  writtenAt : Timestamp
  deriving DecidableEq

/-- What a clear did. -/
inductive ClearOutcome where
  /-- The value was overwritten. -/
  | cleared
  /-- The value is still there and was left. -/
  | stillOurs
  /-- The clipboard holds another value. -/
  | replaced
  /-- The clipboard is empty. -/
  | empty
  /-- The clipboard could not be used. -/
  | unavailable
  deriving DecidableEq

/-- A platform clipboard, answering from its own state. -/
class Clipboard (κ : Type) where
  /-- Write a secret and return its cookie. -/
  write : String → Op κ CoreError ClipboardCookie
  /-- The digest of the current value, if there is one. -/
  readDigest : Op κ CoreError (Option (Block 32))
  /-- Write a plain text. -/
  setText : String → Op κ CoreError Unit

/-- The texts a clear writes. -/
def facts : List String := [
  "Honey never spoils.",
  "Octopuses have three hearts.",
  "A group of flamingos is called a flamboyance.",
  "Bananas are botanically berries.",
  "Sharks predate trees.",
  "Wombat droppings are cube-shaped.",
  "The Eiffel Tower grows taller in summer.",
  "A bolt of lightning is hotter than the Sun's surface.",
  "Sea otters hold hands while they sleep.",
  "Honeybees can recognize human faces.",
  "There are more stars than grains of sand on Earth.",
  "A day on Venus is longer than its year."]

/-- The text a drawn byte selects. -/
def factOf (byte : Block 1) : String := facts.getD (leNat byte.val % facts.length) ""

/-- A drawn text. -/
def randomFact {δ ε : Type} [Platform δ] : Act δ ε String := do
  let byte ← ask (Platform.randomBlock 1)
  return factOf byte

/-- A clipboard that holds at most one text and never fails. A mark tells a value that was written
as a secret from anything else. -/
structure TextClipboard (digest : String → Block 32) where
  /-- The current text. -/
  text : Option String
  /-- Whether the text was written as a secret. -/
  fromCopy : Bool
  /-- The clock that stamps cookies. -/
  clock : Timestamp

instance (digest : String → Block 32) : Clipboard (TextClipboard digest) where
  write value clipboard :=
    (.ok ⟨digest value, clipboard.clock⟩, ⟨some value, true, clipboard.clock⟩)
  readDigest clipboard := (.ok (clipboard.text.map digest), clipboard)
  setText text clipboard := (.ok (), ⟨some text, false, clipboard.clock⟩)

section Clear

variable {δ κ ε : Type} [Platform δ] [Clipboard κ]

/-- Overwrite the clipboard if it still holds the cookie's value. -/
def clearClipboardImpl (cookie : ClipboardCookie) (factOverwrite : Bool) :
    Op (World δ × κ) ε ClearOutcome := do
  match ← Op.attempt (Op.onSecond Clipboard.readDigest) with
  | .error _ => return .unavailable
  | .ok none => return .empty
  | .ok (some current) =>
    if current ≠ cookie.digest then return .replaced
    else if !factOverwrite then return .stillOurs
    else
      let fact ← Op.onFirst randomFact
      match ← Op.attempt (Op.onSecond (Clipboard.setText fact)) with
      | .ok () => return .cleared
      | .error _ => return .unavailable

end Clear

end Passman
