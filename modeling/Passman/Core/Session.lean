import Passman.Core.Instance
import Passman.Lib.Run

/-!
# The operations of one session

Every operation of a session is one call with one reply, whatever it returns. A call on a
session is the call of the instance with the session's number.
-/
namespace Passman

open Bytewise Fallible

/-- An operation of an open session. -/
inductive SessionCall where
  /-- List the entries. -/
  | listEntries
  /-- Generate a password. -/
  | generatePassword (request : GenerationRequest)
  /-- Show an entry. -/
  | withRevealed (id : EntryId)
  /-- Estimate a master password under the parameters of the stored vault. -/
  | estimateMasterStrength
  /-- Copy a field to the clipboard. -/
  | copyToClipboard (id : EntryId) (field : RevealField)
  /-- Clear the clipboard. -/
  | clearClipboard (cookie : ClipboardCookie) (factOverwrite : Bool)
  /-- Add an entry. -/
  | addEntry (label : String) (policy : EntryPolicy) (record : EntryRecord)
  /-- Update an entry. -/
  | updateEntry (id : EntryId) (label : String) (policy : EntryPolicy) (record : EntryRecord)
  /-- Remove an entry. -/
  | removeEntry (id : EntryId)
  /-- Check a code. -/
  | verifyTotpCode (code : String)
  /-- Change the master password. -/
  | changeMasterPassword (old new : String) (kdf : KdfParams)
  /-- Export a recovery file. -/
  | exportRecovery (password code : String) (preset : RecoveryPreset)

/-- What an operation of a session returns. -/
inductive SessionReply where
  /-- The entries. -/
  | entries (handles : List EntryHandle)
  /-- A generated password. -/
  | generated (password : String)
  /-- The entry that was shown. -/
  | revealed (record : EntryRecord)
  /-- The parameters an estimate was made with. -/
  | estimated (kdf : KdfParams)
  /-- The cookie of a copy. -/
  | copied (cookie : ClipboardCookie)
  /-- What a clear did. -/
  | cleared (outcome : ClearOutcome)
  /-- The identifier of a new entry. -/
  | added (id : EntryId)
  /-- The entry was updated. -/
  | updated
  /-- The entry was removed. -/
  | removed
  /-- Whether a code is valid. -/
  | checked (valid : Bool)
  /-- The password was changed. -/
  | changed (outcome : PasswordChangeOutcome)
  /-- The bytes of a recovery file. -/
  | exported (file : Bytes)
  deriving DecidableEq

/-- Whether the call opens a session when it succeeds. -/
def Call.opens : Call → Bool
  | createVault _ _ _ => true
  | importRecovery _ _ _ _ => true
  | unlock _ _ => true
  | _ => false

/-- Whether the call clears the clipboard, which needs no unlocked session. -/
def SessionCall.isClear : SessionCall → Bool
  | clearClipboard _ _ => true
  | _ => false

/-- A session with the world and the clipboard it acts on. -/
abbrev SessionState (δ κ : Type) := (World δ × UnlockedApp) × κ

namespace SessionCall

/-- The call of an instance that performs the operation on one of its sessions. -/
def on (session : Nat) : SessionCall → Call
  | listEntries => .listEntries session
  | generatePassword request => .generatePassword session request
  | withRevealed id => .withRevealed session id
  | estimateMasterStrength => .estimateMasterStrength session
  | copyToClipboard id field => .copyToClipboard session id field
  | clearClipboard cookie factOverwrite => .clearClipboard session cookie factOverwrite
  | addEntry label policy record => .addEntry session label policy record
  | updateEntry id label policy record => .updateEntry session id label policy record
  | removeEntry id => .removeEntry session id
  | verifyTotpCode code => .verifyTotpCode session code
  | changeMasterPassword old new kdf => .changeMasterPassword session old new kdf
  | exportRecovery password code preset => .exportRecovery session password code preset

variable {δ κ : Type} [Platform δ] [Clipboard κ] [Crates]

/-- Perform the operation and wrap its result. -/
def perform : SessionCall → Op (SessionState δ κ) CoreError SessionReply
  | listEntries => Functor.map .entries (Op.onFirst Passman.listEntries)
  | generatePassword request =>
    Functor.map .generated (Op.onFirst (Passman.generatePassword request))
  | withRevealed id =>
    Functor.map .revealed (Op.onFirst (Passman.withRevealed id fun record => record))
  | estimateMasterStrength =>
    Functor.map .estimated (Op.onFirst (Passman.estimateMasterStrength fun kdf => kdf))
  | copyToClipboard id field => Functor.map .copied (Passman.copyToClipboard id field)
  | clearClipboard cookie factOverwrite =>
    Functor.map .cleared (clearClipboardWith cookie factOverwrite)
  | addEntry label policy record =>
    Functor.map .added (Op.onFirst (Passman.addEntry label policy record))
  | updateEntry id label policy record =>
    Functor.map (fun _ => .updated) (Op.onFirst (Passman.updateEntry id label policy record))
  | removeEntry id => Functor.map (fun _ => .removed) (Op.onFirst (Passman.removeEntry id))
  | verifyTotpCode code =>
    Functor.map .checked (Op.onFirst (Op.total (Passman.verifyTotpCode code)))
  | changeMasterPassword old new kdf =>
    Functor.map .changed (Op.onFirst (Passman.changeMasterPassword old new kdf))
  | exportRecovery password code preset =>
    Functor.map .exported (Op.onFirst (Passman.exportRecovery password code preset))

end SessionCall

section Instances

variable {δ κ ε α β : Type}

/-- Wrapping the result of an operation does not change what it does. -/
theorem performWith_map (inst : Instance δ κ) (session : Nat) (wrap : α → β)
    (operation : Op (SessionState δ κ) ε α) :
    inst.performWith session (Functor.map wrap operation) = inst.performWith session operation := by
  rw [Instance.performWith, Instance.performWith]
  cases inst.sessions[session]? with
  | none => rfl
  | some app =>
    have same := Op.map_state operation wrap ((inst.world, app), inst.clipboard)
    simp only [same]

/-- An operation that does not use the clipboard leaves it as it is. -/
theorem performWith_onFirst (inst : Instance δ κ) (session : Nat) (operation : SessionAct δ ε α) :
    inst.performWith session (Op.onFirst operation) = inst.perform session operation := by
  rw [Instance.performWith, Instance.perform]
  cases inst.sessions[session]? with
  | none => rfl
  | some app => rfl

variable [Platform δ] [Clipboard κ] [Crates]

/-- An operation of a session is the call of the instance. -/
theorem step_on (inst : Instance δ κ) (session : Nat) (call : SessionCall) :
    inst.step (call.on session) = inst.performWith session call.perform := by
  cases call with
  | copyToClipboard id field =>
    rw [SessionCall.perform, performWith_map]
    rfl
  | clearClipboard cookie factOverwrite =>
    rw [SessionCall.perform, performWith_map]
    rfl
  | _ =>
    rw [SessionCall.perform, performWith_map, performWith_onFirst]
    rfl

omit [Platform δ] [Clipboard κ] [Crates] in
/-- Performing an operation on one session leaves the number of sessions. -/
theorem performWith_length (inst : Instance δ κ) (session : Nat)
    (operation : Op (SessionState δ κ) ε α) :
    (inst.performWith session operation).sessions.length = inst.sessions.length := by
  rw [Instance.performWith]
  cases inst.sessions[session]? with
  | none => rfl
  | some app => exact List.length_set

omit [Crates] in
/-- A call that opens no session is an operation of a session. -/
theorem Call.on_of_opens {call : Call} (other : call.opens = false) :
    ∃ session operation, call = SessionCall.on session operation := by
  cases call with
  | createVault => cases other
  | importRecovery => cases other
  | unlock => cases other
  | listEntries session => exact ⟨session, .listEntries, rfl⟩
  | generatePassword session request => exact ⟨session, .generatePassword request, rfl⟩
  | withRevealed session id => exact ⟨session, .withRevealed id, rfl⟩
  | estimateMasterStrength session => exact ⟨session, .estimateMasterStrength, rfl⟩
  | copyToClipboard session id field => exact ⟨session, .copyToClipboard id field, rfl⟩
  | clearClipboard session cookie factOverwrite =>
    exact ⟨session, .clearClipboard cookie factOverwrite, rfl⟩
  | addEntry session label policy record => exact ⟨session, .addEntry label policy record, rfl⟩
  | updateEntry session id label policy record =>
    exact ⟨session, .updateEntry id label policy record, rfl⟩
  | removeEntry session id => exact ⟨session, .removeEntry id, rfl⟩
  | verifyTotpCode session code => exact ⟨session, .verifyTotpCode code, rfl⟩
  | changeMasterPassword session old new kdf =>
    exact ⟨session, .changeMasterPassword old new kdf, rfl⟩
  | exportRecovery session password code preset =>
    exact ⟨session, .exportRecovery password code preset, rfl⟩

end Instances

end Passman
