import Passman.Lib.Bytes
import Passman.Lib.Keyed
import Passman.Policy.Policy

/-!
# Entry identifiers and the sealed index

Every entry has a 16-byte identifier. The index is the list of rows, one per
entry, that is sealed as a whole; each row carries the label and the policy.
-/
namespace Passman

open Bytewise

/-- Length of an entry identifier. -/
def entryIdLen : Nat := 16

/-- The identity of an entry. -/
structure EntryId where
  /-- The raw identifier. -/
  bytes : Block entryIdLen
  deriving DecidableEq

/-- The derived order on identifiers: lexicographic on the raw bytes. -/
def EntryId.le (left right : EntryId) : Bool := left.bytes.val ≤ right.bytes.val

/-- The order is antisymmetric. -/
theorem EntryId.le_antisymm (left right : EntryId) (below : left.le right) (above : right.le left) :
    left = right := by
  have same : left.bytes.val = right.bytes.val :=
    List.le_antisymm (of_decide_eq_true below) (of_decide_eq_true above)
  cases left
  cases right
  exact congrArg EntryId.mk (Subtype.ext same)

/-- The order is transitive. -/
theorem EntryId.le_trans (first second third : EntryId) (low : first.le second)
    (high : second.le third) : first.le third :=
  decide_eq_true (List.le_trans (of_decide_eq_true low) (of_decide_eq_true high))

/-- The order is total. -/
theorem EntryId.le_total (left right : EntryId) : left.le right || right.le left := by
  rw [Bool.or_eq_true]
  exact (List.le_total left.bytes.val right.bytes.val).imp decide_eq_true decide_eq_true

/-- The derivation label of the index key. -/
def indexInfo : Bytes := utf8 "index-v0"

/-- The prefix of every entry key's derivation label. -/
def entryInfoPrefix : Bytes := utf8 "entry-v0:"

/-- The derivation label of one entry's key. -/
def entryInfo (id : EntryId) : Bytes := entryInfoPrefix ++ id.bytes.val

/-- One index row. -/
structure IndexEntry where
  /-- The entry the row describes. -/
  id : EntryId
  /-- Its display label. -/
  label : String
  /-- Its generation policy. -/
  policy : EntryPolicy
  deriving DecidableEq

/-- The decrypted index: its rows in stored order. -/
abbrev Index := List IndexEntry

namespace Index

/-- The row of an identifier. -/
def get (index : Index) (id : EntryId) : Option IndexEntry := Keyed.lookup IndexEntry.id id index

/-- Replace the row with the same identifier, or append. -/
def upsert (index : Index) (entry : IndexEntry) : Index := Keyed.upsert IndexEntry.id entry index

/-- Drop the rows with the identifier. -/
def remove (index : Index) (id : EntryId) : Index := Keyed.remove IndexEntry.id id index

end Index

end Passman
