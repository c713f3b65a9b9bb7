import Mathlib.Data.String.Basic
import Passman.Cli.Shell
import Passman.Policy.Validate
import Passman.Worker.Worker

/-!
# The commands

Every command but the generation of a password opens the application afresh, under the
instance lock, unlocks the vault with what is typed, performs one operation and ends. Each
stops at its first failure, and what it printed and stored until then stays.
-/
namespace Passman.Cli

open Bytewise Fallible

/-- The fields a command reveals. -/
inductive Field where
  /-- The username. -/
  | username
  /-- The password. -/
  | password
  /-- The address. -/
  | url
  /-- The notes. -/
  | notes
  deriving DecidableEq

/-- The field of the core. -/
def Field.into : Field → RevealField
  | username => .username
  | password => .password
  | url => .url
  | notes => .notes

/-- The cost presets of a master key. -/
inductive Preset where
  /-- The weakest preset. -/
  | low
  /-- The preset used unless another is named. -/
  | medium
  /-- The strongest preset. -/
  | high
  deriving DecidableEq

/-- The parameters of a preset. -/
def Preset.params : Preset → KdfParams
  | low => .low
  | medium => .medium
  | high => .high

/-- The cost presets of a recovery file. -/
inductive RecPreset where
  /-- The preset used unless another is named. -/
  | floor
  /-- The preset in between. -/
  | default
  /-- The strongest preset. -/
  | paranoid
  deriving DecidableEq

/-- The preset of the recovery format. -/
def RecPreset.into : RecPreset → RecoveryPreset
  | floor => .floor
  | default => .default
  | paranoid => .paranoid

/-- The commands. -/
inductive Command where
  /-- Create a vault. -/
  | init (preset : Preset)
  /-- List the labels. -/
  | list
  /-- Add an entry. -/
  | add (label : String) (generate : Bool) (length : Option UInt16)
  /-- Print or copy a field. -/
  | get (label : String) (show_ : Bool) (field : Field)
  /-- Remove an entry. -/
  | rm (label : String)
  /-- Generate a password. -/
  | gen (length : Option UInt16)
  /-- Write a recovery file. -/
  | export (file : Path) (preset : RecPreset)
  /-- Restore a vault from a recovery file. -/
  | import (file : Path) (preset : Preset)
  /-- Change the master password. -/
  | passwd (preset : Preset)
  deriving DecidableEq

/-- The length of a generated password when none is named. -/
def defaultLength : UInt16 := Passman.defaultLength

/-- The parameters of a derivation: the override of tests, or those of the preset. -/
def CliEnv.kdf (env : CliEnv) (preset : Preset) : KdfParams :=
  env.kdfOverride.getD preset.params

/-- Extract one field of a record. -/
def fieldString (record : EntryRecord) : Field → String
  | .username => record.username
  | .password => record.password
  | .url => record.url
  | .notes => record.notes

/-- A line for what a clear did. -/
def clearStatusMessage : ClearOutcome → String
  | .cleared => "Clipboard cleared."
  | .stillOurs => "Clipboard left in place (fact-overwrite is disabled in settings)."
  | .replaced => "Clipboard left unchanged — its contents were no longer ours."
  | .empty => "Clipboard was already empty."
  | .unavailable => "Clipboard could not be accessed to clear it."

/-- How long one tick of a wait sleeps, in milliseconds. -/
def clearTick : Nat := 200

section Helpers

variable {δ σ κ : Type} [Host σ]

/-- Open the application, acquiring the instance lock. -/
def openApp (env : CliEnv) (kind : HsmKind) : Run δ σ κ Unit := do
  match ← askHost Host.acquireLock with
  | some .alreadyRunning => Op.fail .alreadyRunning
  | some error => Op.fail (.openVault error)
  | none => Op.modify fun shell =>
    { shell with
      world := .opened shell.world.device shell.world.file kind env.allowSoftware
        shell.world.trace }

/-- Fail unless there is a vault file. -/
def requireVault (env : CliEnv) : Run δ σ κ Unit := do
  if ← pathExists env env.vault then return else Op.fail (.noVault env.vault)

/-- Fail if there is a vault file. -/
def refuseVault (env : CliEnv) (failure : Path → Failure) : Run δ σ κ Unit := do
  if ← pathExists env env.vault then Op.fail (failure env.vault) else return

/-- Create the directories of the vault. -/
def ensureDirs : Run δ σ κ Unit := do
  match ← askHost Host.ensureDirs with
  | some error => Op.fail (.directory error)
  | none => return

/-- Read a new password twice. -/
def readNewPassword (prompt : String) : Run δ σ κ String := do
  let first ← readSecret prompt
  let again ← readSecret "Confirm: "
  if first ≠ again then Op.fail .mismatch else return first

/-- Wait until the time is up or an interrupt arrived. -/
def waitForClear [Desktop σ κ] (budget waited : Nat) : Run δ σ κ Unit :=
  if waited < budget then do
    if ← askHost Host.interrupted then return
    else
      let tick := min clearTick (budget - waited)
      Op.modify fun shell =>
        let (host, clipboard) := Desktop.sleep tick (shell.host, shell.clipboard)
        { shell with host, clipboard }
      waitForClear budget (waited + tick)
  else return
termination_by budget - waited
decreasing_by
  have positive : 0 < clearTick := by decide
  omega

omit [Host σ] in
/-- Print a line of status under a condition. -/
def noteIf (condition : Bool) (notice : Notice) : Run δ σ κ Unit :=
  if condition then err notice else return

variable [Platform δ] [Crates]

omit [Platform δ] [Host σ] in
/-- Warn if a master password is too weak for an export. -/
def warnIfWeak (password : String) : Run δ σ κ Unit :=
  noteIf (!Crates.allowsExport password) .weakPassword

/-- Unlock the vault with what is typed. -/
def unlock (env : CliEnv) : Run δ σ κ UnlockedApp := do
  requireVault env
  let master ← readSecret "Master password: "
  let code ← readLine "TOTP code: "
  Op.mapError .unlock (inApp (Passman.unlock master (trim code)))

omit [Host σ] [Crates] in
/-- Resolve the identifier of the only entry with a label. -/
def findEntry (app : UnlockedApp) (label : String) : Run δ σ κ EntryId := do
  let (handles, _) ← Op.mapError .session (inSession app listEntries)
  match handles.filter fun handle => handle.label = label with
  | [] => Op.fail (.noEntry label)
  | [handle] => return handle.id
  | _ => Op.fail (.severalEntries label)

/-- Generate a password without a vault. -/
def generate (length : Option UInt16) : Run δ σ κ Unit := do
  let request := match length with
    | some n => ⟨n, .defaultVault, .oneOfEach⟩
    | none => .defaultVault
  let password ← Op.mapError .generation (inApp (askFallible (Platform.generate request)))
  out password

/-- The password of a new entry: generated, or typed twice. -/
def newEntryPassword (app : UnlockedApp) (length : UInt16) (generatePw : Bool) :
    Run δ σ κ (String × UnlockedApp) :=
  if generatePw then do
    let (password, app) ← Op.mapError .session
      (inSession app (generatePassword ⟨length, .defaultVault, .oneOfEach⟩))
    err (.plain "Generated a password for this entry.")
    return (password, app)
  else do
    let password ← readNewPassword "Password: "
    return (password, app)

end Helpers

section Commands

variable {δ σ κ : Type} [Platform δ] [Host σ] [Crates]

/-- Create a new vault. -/
def cmdInit (env : CliEnv) (preset : Preset) : Run δ σ κ Unit := do
  refuseVault env .vaultExists
  ensureDirs
  let master ← readNewPassword "New master password: "
  warnIfWeak master
  err (.plain "Deriving the vault key (this is deliberately slow)…")
  let (_, uri) ← Op.mapError .createVault
    (inApp (createVault master (env.kdf preset) .default))
  err (.plain "Add this TOTP secret to your authenticator app NOW — it is shown only once:")
  out uri
  err (.vaultCreated env.vault)

/-- List the labels, sorted. -/
def cmdList (env : CliEnv) : Run δ σ κ Unit := do
  let app ← unlock env
  let (handles, _) ← Op.mapError .session (inSession app listEntries)
  let sorted := handles.mergeSort fun a b => a.label ≤ b.label
  noteIf sorted.isEmpty (.plain "(no entries)")
  sorted.forM fun handle => out handle.label

/-- Add an entry. -/
def cmdAdd (env : CliEnv) (label : String) (generatePw : Bool) (length : Option UInt16) :
    Run δ σ κ Unit := do
  let app ← unlock env
  let resolvedLen := length.getD defaultLength
  let username ← readLine "Username: "
  let (password, app) ← newEntryPassword app resolvedLen generatePw
  let url ← readLine "URL (optional): "
  let notes ← readLine "Notes (optional): "
  let policy := { EntryPolicy.default with length := some resolvedLen }
  let _ ← Op.mapError .session
    (inSession app (addEntry label policy ⟨username, password, url, notes⟩))
  err (.added label)

/-- Print a field of an entry. -/
def showField (app : UnlockedApp) (id : EntryId) (field : Field) : Run δ σ κ Unit := do
  let (value, _) ← Op.mapError .session
    (inSession app (withRevealed id fun record => fieldString record field))
  out value

/-- Copy a field of an entry, wait, and clear the clipboard. -/
def copyField [Desktop σ κ] [Clipboard κ] (env : CliEnv) (app : UnlockedApp) (id : EntryId)
    (field : Field) : Run δ σ κ Unit := do
  let (cookie, app) ← Op.mapError .session (withClipboard app (copyToClipboard id field.into))
  err (.copied (env.clipboardClear / 1000))
  waitForClear env.clipboardClear 0
  let (outcome, _) ← withClipboard app (clearClipboardWith cookie env.factOverwrite)
  err (.plain (clearStatusMessage outcome))

/-- Print or copy a field of an entry. -/
def cmdGet [Desktop σ κ] [Clipboard κ] (env : CliEnv) (label : String) (field : Field)
    (show_ : Bool) : Run δ σ κ Unit := do
  let app ← unlock env
  let id ← findEntry app label
  if show_ then showField app id field else copyField env app id field

/-- Remove an entry. -/
def cmdRm (env : CliEnv) (label : String) : Run δ σ κ Unit := do
  let app ← unlock env
  let id ← findEntry app label
  let _ ← Op.mapError .session (inSession app (removeEntry id))
  err (.removed label)

/-- Fail if there is a file. -/
def refuseFile (env : CliEnv) (file : Path) : Run δ σ κ Unit := do
  if ← pathExists env file then Op.fail (.fileExists file) else return

/-- Write a recovery file, after a fresh authentication. -/
def cmdExport (env : CliEnv) (file : Path) (preset : RecPreset) : Run δ σ κ Unit := do
  refuseFile env file
  let app ← unlock env
  err (.plain ("Recovery export needs a fresh re-authentication " ++
    "(a NEW code, not the one you just used)."))
  let reauthMaster ← readSecret "Master password (again): "
  let reauthCode ← readLine "Fresh TOTP code: "
  err (.plain "Deriving the recovery key (this is deliberately very slow)…")
  let (bytes, _) ← Op.mapError .exportRecovery
    (inSession app (exportRecovery reauthMaster (trim reauthCode) preset.into))
  writeNewFile0600 env file bytes
  err (.recoveryWritten file)

/-- Create a vault from a recovery file. -/
def cmdImport (env : CliEnv) (file : Path) (preset : Preset) : Run δ σ κ Unit := do
  refuseVault env .vaultExistsOnImport
  ensureDirs
  let bytes ← readFile env file
  let recoveryPw ← readSecret "Recovery password: "
  err (.plain "Deriving keys from the recovery file (this is deliberately very slow)…")
  let (app, uri) ← Op.mapError .importRecovery
    (inApp (importRecovery bytes recoveryPw (env.kdf preset) .default))
  err (.plain "Re-provision your authenticator with this TOTP secret (shown once):")
  out uri
  let (handles, _) ← Op.mapError .session (inSession app listEntries)
  err (.vaultRestored env.vault handles.length)

/-- Change the master password. -/
def cmdPasswd (env : CliEnv) (preset : Preset) : Run δ σ κ Unit := do
  let app ← unlock env
  let old ← readSecret "Current master password: "
  let new ← readNewPassword "New master password: "
  warnIfWeak new
  err (.plain "Re-deriving and re-encrypting the vault…")
  let (outcome, _) ← Op.mapError .changePassword
    (inSession app (changeMasterPassword old new (env.kdf preset)))
  noteIf outcome.existingExportNowStale
    (.plain "note: your previous recovery export no longer works; create a new one.")
  err (.plain "Master password changed.")

/-- Run one command over a backend of some kind. -/
def run [Desktop σ κ] [Clipboard κ] (env : CliEnv) (kind : HsmKind) : Command → Run δ σ κ Unit
  | .gen length => generate length
  | .init preset => do openApp env kind; cmdInit env preset
  | .list => do openApp env kind; cmdList env
  | .add label generatePw length => do openApp env kind; cmdAdd env label generatePw length
  | .get label show_ field => do openApp env kind; cmdGet env label field show_
  | .rm label => do openApp env kind; cmdRm env label
  | .export file preset => do openApp env kind; cmdExport env file preset
  | .import file preset => do openApp env kind; cmdImport env file preset
  | .passwd preset => do openApp env kind; cmdPasswd env preset

end Commands

end Passman.Cli
