import Passman.Core.App
import Passman.Core.Clipboard

/-!
# The unlocked session

Every operation first compares the clock with the session's expiry. Passwords are
decrypted on demand from the vault file as it is now; the session itself keeps the
master key, the seed and the index. A mutation writes the file and then adopts the
index of what it wrote.
-/
namespace Passman

open Bytewise Fallible Words

/-- Seconds a session survives a copy. -/
def postCopySecs : UInt64 := 30

/-- A field of an entry. -/
inductive RevealField where
  /-- The username. -/
  | username
  /-- The password. -/
  | password
  /-- The address. -/
  | url
  /-- The notes. -/
  | notes
  deriving DecidableEq

/-- The value of a field. -/
def selectField (record : EntryRecord) : RevealField → String
  | .username => record.username
  | .password => record.password
  | .url => record.url
  | .notes => record.notes

/-- An entry as a listing shows it. -/
structure EntryHandle where
  /-- The identifier. -/
  id : EntryId
  /-- The label. -/
  label : String
  deriving DecidableEq

/-- What a password change reports. -/
structure PasswordChangeOutcome where
  /-- An earlier recovery export no longer matches the vault. -/
  existingExportNowStale : Bool
  deriving DecidableEq

/-- An operation on an open session. -/
abbrev SessionAct (δ ε α : Type) := Op (World δ × UnlockedApp) ε α

section Session

variable {δ ε : Type} [Platform δ]

/-- Fail when the session has expired. -/
def ensureUnlocked : SessionAct δ CoreError Unit := do
  let now ← Op.onFirst clockNow
  let (_, app) ← Op.get
  if now ≥ app.sessionExpiry then Op.fail .locked else return

/-- Whether the session has expired. -/
def isExpired (state : World δ × UnlockedApp) : Bool × World δ × UnlockedApp :=
  let (world, app) := state
  let (now, device) := Platform.now world.device
  (now ≥ app.sessionExpiry, { world with device }, app)

/-- The entries of the session's index. -/
def listEntries : SessionAct δ CoreError (List EntryHandle) := do
  ensureUnlocked
  let (_, app) ← Op.get
  return app.index.map fun row => ⟨row.id, row.label⟩

/-- Generate a password. -/
def generatePassword (request : GenerationRequest) : SessionAct δ CoreError String := do
  ensureUnlocked
  Op.onFirst (Op.mapError .policy (askFallible (Platform.generate request)))

/-- Estimate the strength of a master password under the parameters of the stored vault. -/
def estimateMasterStrength {α : Type} (estimate : KdfParams → α) : SessionAct δ CoreError α := do
  ensureUnlocked
  let vault ← Op.onFirst loadVault
  return estimate vault.kdfParams

variable [Crates]

/-- Decrypt an entry and show it to the caller. -/
def withRevealed {α : Type} (id : EntryId) (view : EntryRecord → α) : SessionAct δ CoreError α := do
  ensureUnlocked
  let vault ← Op.onFirst loadVault
  let (_, app) ← Op.get
  let record ← Op.mapError .vault (Op.lift (vault.decryptEntry app.kMaster id))
  return view record

/-- Write a vault and adopt its index. -/
def persistAndRefresh (vault : Vault) : SessionAct δ CoreError Unit := do
  Op.onFirst (atomicWrite vault.toBytes)
  let (_, app) ← Op.get
  let index ← Op.mapError .vault (Op.lift (vault.openIndex app.kMaster))
  Op.modify fun (world, app) => (world, { app with index })

/-- Insert or update an entry of the stored vault. -/
def upsertEntry (id : EntryId) (label : String) (policy : EntryPolicy) (record : EntryRecord) :
    SessionAct δ CoreError Unit := do
  let vault ← Op.onFirst loadVault
  let (_, app) ← Op.get
  let changed ← Op.onFirst (putEntry app.kMaster id label policy record vault)
  persistAndRefresh changed

/-- Add an entry under a new identifier. -/
def addEntry (label : String) (policy : EntryPolicy) (record : EntryRecord) :
    SessionAct δ CoreError EntryId := do
  ensureUnlocked
  let id ← Op.onFirst (ask Platform.newUuid)
  upsertEntry ⟨id⟩ label policy record
  return ⟨id⟩

/-- Update an entry the session's index lists. -/
def updateEntry (id : EntryId) (label : String) (policy : EntryPolicy) (record : EntryRecord) :
    SessionAct δ CoreError Unit := do
  ensureUnlocked
  let (_, app) ← Op.get
  match app.index.get id with
  | none => Op.fail (.vault .entryNotFound)
  | some _ => upsertEntry id label policy record

/-- Remove an entry of a vault in memory, drawing its nonce. -/
def dropEntry (kMaster : MasterKey) (id : EntryId) (vault : Vault) : Act δ CoreError Vault := do
  let indexNonce ← ask (Platform.randomBlock 24)
  match Vault.removeEntry kMaster id indexNonce vault with
  | (.ok (), changed) => return changed
  | (.error error, _) => Op.fail (.vault error)

/-- Remove an entry of the stored vault. -/
def removeEntry (id : EntryId) : SessionAct δ CoreError Unit := do
  ensureUnlocked
  let vault ← Op.onFirst loadVault
  let (_, app) ← Op.get
  let changed ← Op.onFirst (dropEntry app.kMaster id vault)
  persistAndRefresh changed

/-- Check a code against the session's seed; the session may have expired. -/
def verifyTotpCode (code : String) (state : World δ × UnlockedApp) :
    Bool × World δ × UnlockedApp :=
  let (world, app) := state
  let (valid, world) := verifyTotp app.totpSeed code world
  (valid, world, app)

/-- Carry one row of an index over into a rebuilt vault. -/
def reencryptEntry (source : Vault) (oldMaster newMaster : MasterKey) (rebuilt : Vault)
    (row : IndexEntry) : Act δ CoreError Vault := do
  let record ← Op.mapError .vault (Op.lift (source.decryptEntry oldMaster row.id))
  putEntry newMaster row.id row.label row.policy record rebuilt

/-- Rebuild a vault under a new key, walking the session's index. -/
def reencryptVault (app : UnlockedApp) (source : Vault) (salt : Block 32) (kdf : KdfParams)
    (newMaster : MasterKey) : Act δ CoreError Vault := do
  let changedAt ← nowUnixSecs
  let rebuilt ← createSealed kdf salt source.kHsmWrapBlob.val source.totpSeedWrapBlob.val
    { source.metadata with lastPasswordChange := changedAt } newMaster
  app.index.foldlM (reencryptEntry source app.kMaster newMaster) rebuilt

/-- Change the master password: prove the old one, re-encrypt under the new one, write, and adopt
the new key. -/
def changeMasterPassword (old new : String) (kdf : KdfParams) :
    SessionAct δ CoreError PasswordChangeOutcome := do
  ensureUnlocked
  let vault ← Op.onFirst loadVault
  let kHsm ← Op.onFirst (unwrapSlotCore .vaultKey vault.kHsmWrapBlob.val)
  let oldMaster ← Op.onFirst (deriveMasterFromBytes old vault.salt vault.kdfParams kHsm)
  Op.mapError .vault (Op.lift (vault.verifyProbe oldMaster))
  let newSalt ← Op.onFirst (ask (Platform.randomBlock 32))
  let newMaster ← Op.onFirst (deriveMasterFromBytes new newSalt kdf kHsm)
  let (_, app) ← Op.get
  let rebuilt ← Op.onFirst (reencryptVault app vault newSalt kdf newMaster)
  Op.onFirst (atomicWrite rebuilt.toBytes)
  Op.modify fun (world, app) => (world, { app with kMaster := newMaster })
  let index ← Op.mapError .vault (Op.lift (rebuilt.openIndex newMaster))
  Op.modify fun (world, app) => (world, { app with index })
  return ⟨vault.metadata.lastExportAt.isSome⟩

/-- The recovery entry of a row and its record. -/
def recoveryEntryFrom (row : IndexEntry) (record : EntryRecord) : Except CoreError RecoveryEntry :=
  match Crates.policyToBytes row.policy with
  | none => .error (.vault (.malformedRecord "failed to serialize EntryPolicy for export"))
  | some policy =>
    .ok ⟨row.id.bytes, row.label, record.username, record.password, record.url, record.notes,
      policy⟩

/-- Decrypt one row for an export. -/
def exportEntry (vault : Vault) (kMaster : MasterKey) (row : IndexEntry) :
    Except CoreError RecoveryEntry := do
  let record ← (vault.decryptEntry kMaster row.id).mapError .vault
  recoveryEntryFrom row record

/-- Authenticate afresh and return the derived key and the seed. -/
def reauthenticate (vault : Vault) (password code : String) :
    Act δ CoreError (MasterKey × Bytes) := do
  let kHsm ← unwrapSlotCore .vaultKey vault.kHsmWrapBlob.val
  let seed ← unwrapSlotCore .totpSeed vault.totpSeedWrapBlob.val
  let valid ← Op.total (verifyTotp seed code)
  if !valid then Op.fail (.vault (.crypto .aeadAuth))
  else
    let kMaster ← deriveMasterFromBytes password vault.salt vault.kdfParams kHsm
    Op.mapError .vault (Op.lift (vault.verifyProbe kMaster))
    return (kMaster, seed)

/-- Export a recovery file after a fresh authentication, and record when. -/
def exportRecovery (password code : String) (preset : RecoveryPreset) :
    SessionAct δ CoreError Bytes := do
  ensureUnlocked
  let vault ← Op.onFirst loadVault
  if !Crates.allowsExport password then Op.fail .weakPasswordForExport
  else
    let (kMaster, seed) ← Op.onFirst (reauthenticate vault password code)
    match intoKey seed with
    | none => Op.fail (.hsm (.malformedBlob "unwrapped TOTP seed is not 32 bytes"))
    | some seed =>
      let (_, app) ← Op.get
      let entries ← Op.lift (app.index.mapM (exportEntry vault kMaster))
      let available ← Op.onFirst (ask Platform.availableMemoryKib)
      let salt ← Op.onFirst (ask (Platform.randomBlock 32))
      let nonce ← Op.onFirst (ask (Platform.randomBlock 24))
      let file ← Op.onFirst (Op.mapError .recovery (startExport
        ⟨seed, vault.kdfParams, entries⟩ password preset.params available salt nonce))
      let exportedAt ← Op.onFirst nowUnixSecs
      let metadata := { vault.metadata with lastExportAt := some exportedAt }
      Op.onFirst (atomicWrite (vault.setMetadata metadata).toBytes)
      return file

end Session

section Clipboards

variable {δ κ ε : Type} [Platform δ] [Clipboard κ]

/-- Copy a field of an entry to the clipboard and shorten the session. -/
def copyToClipboard [Crates] (id : EntryId) (field : RevealField) :
    Op ((World δ × UnlockedApp) × κ) CoreError ClipboardCookie := do
  let value ← Op.onFirst (withRevealed id fun record => selectField record field)
  let cookie ← Op.onSecond (Clipboard.write value)
  let now ← Op.onFirst (Op.onFirst clockNow)
  Op.modify fun ((world, app), clipboard) =>
    let clampTo := saturatingAdd now postCopySecs
    ((world, { app with sessionExpiry := min app.sessionExpiry clampTo }), clipboard)
  return cookie

/-- Clear the clipboard, whether or not the session has expired. -/
def clearClipboardWith (cookie : ClipboardCookie) (factOverwrite : Bool) :
    Op ((World δ × UnlockedApp) × κ) ε ClearOutcome := fun ((world, app), clipboard) =>
  let (outcome, world, clipboard) := clearClipboardImpl cookie factOverwrite (world, clipboard)
  (outcome, (world, app), clipboard)

end Clipboards

end Passman
