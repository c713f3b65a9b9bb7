import Passman.Core.Footprint

/-!
# One application instance with its sessions

An instance can be asked to create, unlock and restore while sessions are open on it, so
any number of sessions share its world. Every call completes before the next one starts;
a call on a session that was never opened does nothing.
-/
namespace Passman

open Bytewise Fallible

/-- An application instance, its clipboard and the sessions opened on it, oldest first. -/
structure Instance (δ κ : Type) where
  /-- What the instance reads and writes. -/
  world : World δ
  /-- The clipboard. -/
  clipboard : κ
  /-- The open sessions. -/
  sessions : List UnlockedApp

/-- A completed operation of the instance or of one of its sessions. -/
inductive Call where
  /-- Create a vault. -/
  | createVault (password : String) (kdf : KdfParams) (config : TotpConfig)
  /-- Restore a vault from a recovery file. -/
  | importRecovery (file : Bytes) (password : String) (kdf : KdfParams) (config : TotpConfig)
  /-- Unlock the vault. -/
  | unlock (password code : String)
  /-- List the entries. -/
  | listEntries (session : Nat)
  /-- Generate a password. -/
  | generatePassword (session : Nat) (request : GenerationRequest)
  /-- Show an entry. -/
  | withRevealed (session : Nat) (id : EntryId)
  /-- Estimate a master password under the parameters of the stored vault. -/
  | estimateMasterStrength (session : Nat)
  /-- Copy a field to the clipboard. -/
  | copyToClipboard (session : Nat) (id : EntryId) (field : RevealField)
  /-- Clear the clipboard. -/
  | clearClipboard (session : Nat) (cookie : ClipboardCookie) (factOverwrite : Bool)
  /-- Add an entry. -/
  | addEntry (session : Nat) (label : String) (policy : EntryPolicy) (record : EntryRecord)
  /-- Update an entry. -/
  | updateEntry (session : Nat) (id : EntryId) (label : String) (policy : EntryPolicy)
      (record : EntryRecord)
  /-- Remove an entry. -/
  | removeEntry (session : Nat) (id : EntryId)
  /-- Check a code. -/
  | verifyTotpCode (session : Nat) (code : String)
  /-- Change the master password. -/
  | changeMasterPassword (session : Nat) (old new : String) (kdf : KdfParams)
  /-- Export a recovery file. -/
  | exportRecovery (session : Nat) (password code : String) (preset : RecoveryPreset)

/-- Whether the call records a TOTP configuration when it succeeds. -/
def Call.installs : Call → Bool
  | createVault _ _ _ => true
  | importRecovery _ _ _ _ => true
  | _ => false

namespace Instance

variable {δ κ : Type}

/-- Keep the world an operation reached, and the session it opened if it did. -/
def opens {ε : Type} (inst : Instance δ κ) (ran : Except ε UnlockedApp × World δ) :
    Instance δ κ :=
  { inst with world := ran.2, sessions := inst.sessions ++ ran.1.toOption.toList }

/-- Perform an operation of a session, if the session exists. -/
def perform {ε α : Type} (inst : Instance δ κ) (session : Nat) (operation : SessionAct δ ε α) :
    Instance δ κ :=
  match inst.sessions[session]? with
  | none => inst
  | some app =>
    let (_, world, app) := operation (inst.world, app)
    { inst with world, sessions := inst.sessions.set session app }

/-- Perform an operation of a session that uses the clipboard, if the session exists. -/
def performWith {ε α : Type} (inst : Instance δ κ) (session : Nat)
    (operation : Op ((World δ × UnlockedApp) × κ) ε α) : Instance δ κ :=
  match inst.sessions[session]? with
  | none => inst
  | some app =>
    let (_, (world, app), clipboard) := operation ((inst.world, app), inst.clipboard)
    ⟨world, clipboard, inst.sessions.set session app⟩

variable [Platform δ] [Clipboard κ] [Crates]

/-- Complete a call. -/
def step (inst : Instance δ κ) : Call → Instance δ κ
  | .createVault password kdf config =>
    inst.opens (Functor.map Prod.fst (createVault password kdf config) inst.world)
  | .importRecovery file password kdf config =>
    inst.opens (Functor.map Prod.fst (importRecovery file password kdf config) inst.world)
  | .unlock password code => inst.opens (Passman.unlock password code inst.world)
  | .listEntries session => inst.perform session listEntries
  | .generatePassword session request => inst.perform session (generatePassword request)
  | .withRevealed session id => inst.perform session (withRevealed id fun record => record)
  | .estimateMasterStrength session => inst.perform session (estimateMasterStrength fun kdf => kdf)
  | .copyToClipboard session id field => inst.performWith session (copyToClipboard id field)
  | .clearClipboard session cookie factOverwrite =>
    inst.performWith session (clearClipboardWith (ε := CoreError) cookie factOverwrite)
  | .addEntry session label policy record => inst.perform session (addEntry label policy record)
  | .updateEntry session id label policy record =>
    inst.perform session (updateEntry id label policy record)
  | .removeEntry session id => inst.perform session (removeEntry id)
  | .verifyTotpCode session code =>
    inst.perform session (Op.total (ε := CoreError) (verifyTotpCode code))
  | .changeMasterPassword session old new kdf =>
    inst.perform session (changeMasterPassword old new kdf)
  | .exportRecovery session password code preset =>
    inst.perform session (exportRecovery password code preset)

/-- An instance that was just opened. -/
def start (world : World δ) (clipboard : κ) : Instance δ κ := ⟨world, clipboard, []⟩

end Instance

section Footprint

variable {δ κ ε α : Type} {relation : World δ → World δ → Prop}

/-- What an operation of a session keeps, performing it keeps. -/
theorem perform_keeps (inst : Instance δ κ) (session : Nat) {operation : SessionAct δ ε α}
    (refl : ∀ world, relation world world) (kept : Op.Keeps (onWorld relation) operation) :
    relation inst.world (inst.perform session operation).world := by
  rw [Instance.perform]
  cases inst.sessions[session]? with
  | none => exact refl inst.world
  | some app => exact kept (inst.world, app)

/-- What an operation of a session with the clipboard keeps, performing it keeps. -/
theorem performWith_keeps (inst : Instance δ κ) (session : Nat)
    {operation : Op ((World δ × UnlockedApp) × κ) ε α} (refl : ∀ world, relation world world)
    (kept : Op.Keeps (fun before after => onWorld relation before.1 after.1) operation) :
    relation inst.world (inst.performWith session operation).world := by
  rw [Instance.performWith]
  cases inst.sessions[session]? with
  | none => exact refl inst.world
  | some app => exact kept ((inst.world, app), inst.clipboard)

variable [Platform δ] [Clipboard κ] [Crates]

/-- A call other than a creation or a restoration keeps every relation that its primitive steps
keep. -/
theorem step_keeps (inst : Instance δ κ) {call : Call} (other : call.installs = false)
    (writes : Writes relation)
    (verified : ∀ seed code (world : World δ), relation world (verifyTotp seed code world).2) :
    relation inst.world (inst.step call).world := by
  have refl := writes.refl
  cases call with
  | createVault => cases other
  | importRecovery => cases other
  | unlock password code => exact keeps_unlock writes verified password code inst.world
  | listEntries session => exact perform_keeps inst session refl (keeps_listEntries writes)
  | generatePassword session request =>
    exact perform_keeps inst session refl (keeps_generatePassword writes request)
  | withRevealed session id =>
    exact perform_keeps inst session refl (keeps_withRevealed writes id _)
  | estimateMasterStrength session =>
    exact perform_keeps inst session refl (keeps_estimateMasterStrength writes _)
  | copyToClipboard session id field =>
    exact performWith_keeps inst session refl (keeps_copyToClipboard writes id field)
  | clearClipboard session cookie factOverwrite =>
    exact performWith_keeps inst session refl
      (keeps_clearClipboardWith writes.toSteps cookie factOverwrite)
  | addEntry session label policy record =>
    exact perform_keeps inst session refl (keeps_addEntry writes label policy record)
  | updateEntry session id label policy record =>
    exact perform_keeps inst session refl (keeps_updateEntry writes id label policy record)
  | removeEntry session id => exact perform_keeps inst session refl (keeps_removeEntry writes id)
  | verifyTotpCode session code =>
    exact perform_keeps inst session refl fun state => verified state.2.totpSeed code state.1
  | changeMasterPassword session old new kdf =>
    exact perform_keeps inst session refl (keeps_changeMasterPassword writes old new kdf)
  | exportRecovery session password code preset =>
    exact perform_keeps inst session refl
      (keeps_exportRecovery writes verified password code preset)

/-- A creation or a restoration keeps every relation that its primitive steps keep. -/
theorem install_keeps (inst : Instance δ κ) {call : Call} (installs : call.installs = true)
    (writes : Writes relation) (configured : ∀ (world : World δ) (config : TotpConfig),
      relation world { world with totpConfig := config, verifier := none }) :
    relation inst.world (inst.step call).world := by
  cases call with
  | createVault password kdf config =>
    have kept := keeps_createVault writes configured password kdf config
    exact Op.keeps_map kept Prod.fst inst.world
  | importRecovery file password kdf config =>
    have kept := keeps_importRecovery writes configured file password kdf config
    exact Op.keeps_map kept Prod.fst inst.world
  | _ => cases installs

end Footprint

end Passman
