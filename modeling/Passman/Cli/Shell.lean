import Passman.Core.Unlocked

/-!
# The command-line shell

What one process of the command-line program reads and writes besides the vault: the
terminal, the other files and the clipboard. The host answers every query from a state of
its own, so what is typed, which signals arrive and which file operations fail are
arbitrary. Other programs use the clipboard while the process sleeps.
-/
namespace Passman.Cli

open Bytewise Fallible

/-- A path, taken for the file it names. -/
abbrev Path := String

/-- The categories of failure that the exit code tells apart. -/
inductive ExitClass where
  /-- An unspecified failure. -/
  | general
  /-- The requested entry does not exist. -/
  | notFound
  /-- The master password or the code is wrong. -/
  | authFailed
  /-- A lockout is in effect. -/
  | lockedOut
  /-- Another instance holds the vault. -/
  | alreadyRunning
  deriving DecidableEq

/-- The exit code of a category. -/
def ExitClass.code : ExitClass → UInt8
  | general => 1
  | notFound => 3
  | authFailed => 4
  | lockedOut => 5
  | alreadyRunning => 6

/-- Why a command failed. -/
inductive Failure where
  /-- Another instance holds the vault. -/
  | alreadyRunning
  /-- The application could not be opened. -/
  | openVault (error : CoreError)
  /-- There is no vault file. -/
  | noVault (path : Path)
  /-- The terminal could not be read. -/
  | input (error : String)
  /-- The vault could not be unlocked. -/
  | unlock (error : UnlockError)
  /-- No entry has the label. -/
  | noEntry (label : String)
  /-- Several entries have the label. -/
  | severalEntries (label : String)
  /-- The two entries of a new password differ. -/
  | mismatch
  /-- An operation of the session failed. -/
  | session (error : CoreError)
  /-- A password could not be generated. -/
  | generation (error : PolicyError)
  /-- A vault is in the way of a creation. -/
  | vaultExists (path : Path)
  /-- A vault is in the way of a restoration. -/
  | vaultExistsOnImport (path : Path)
  /-- The directory of the vault could not be created. -/
  | directory (error : String)
  /-- The vault could not be created. -/
  | createVault (error : CoreError)
  /-- A file is in the way of a recovery file. -/
  | fileExists (path : Path)
  /-- The recovery file could not be written. -/
  | fileWrite (path : Path) (error : String)
  /-- The recovery file could not be read. -/
  | fileRead (path : Path) (error : String)
  /-- The export failed. -/
  | exportRecovery (error : CoreError)
  /-- The restoration failed. -/
  | importRecovery (error : CoreError)
  /-- The master password could not be changed. -/
  | changePassword (error : CoreError)
  deriving DecidableEq

/-- The message of a failure to unlock. -/
def unlockMessage : UnlockError → String
  | .badCredentials => "incorrect master password or TOTP code"
  | .lockedOut remaining =>
    "locked out; try again in about " ++ toString (max remaining.secs 1) ++ " s"
  | .cancelled => "unlock cancelled"
  | .retryable => "transient hardware error during unlock; please retry"
  | .routeToRecovery => "the hardware key is unavailable; recover with `passman import <file>`"
  | .softwareHsmRefused =>
    "this vault uses a software backend; pass --allow-software-hsm to proceed"
  | .hsm _ => "the vault could not be unlocked (corrupt or tampered data)"
  | .malformedVault _ => "the vault could not be unlocked (corrupt or tampered data)"

/-- The message of a failure, in front of that of its cause, with labels quoted. -/
def Failure.message (quote : String → String) : Failure → String
  | alreadyRunning => "another passman instance is already using this vault"
  | openVault _ => "could not open the vault"
  | noVault path => "no vault at " ++ path ++ "; create one with `passman init`"
  | input error => error
  | unlock error => unlockMessage error
  | noEntry label => "no entry labelled " ++ quote label
  | severalEntries label => "several entries are labelled " ++ quote label ++
      "; labels must be unique to address one by name"
  | mismatch => "the passwords do not match"
  | session _ => ""
  | generation _ => "password generation failed"
  | vaultExists path => "a vault already exists at " ++ path ++ "; refusing to overwrite it"
  | vaultExistsOnImport path =>
    "a vault already exists at " ++ path ++ "; refusing to overwrite it on import"
  | directory _ => "could not create the vault directory"
  | createVault _ => "could not create the vault"
  | fileExists path => path ++ " already exists; choose a different path"
  | fileWrite path _ => "could not write " ++ path
  | fileRead path _ => "could not read " ++ path
  | exportRecovery .weakPasswordForExport =>
    "the master password is not Strong enough for a recovery export; " ++
      "change it with `passman passwd` first"
  | exportRecovery _ => "recovery export failed (re-authentication?)"
  | importRecovery _ =>
    "recovery import failed: wrong recovery password, a corrupt file, or not " ++
      "enough memory on this machine for the recovery file's Argon2 cost — a file " ++
      "created at a high preset must be restored on a machine with comparable RAM"
  | changePassword _ => "could not change the master password (wrong current password?)"

/-- A line of status. -/
inductive Notice where
  /-- A fixed text. -/
  | plain (text : String)
  /-- The new master password is too weak for an export. -/
  | weakPassword
  /-- A vault was created. -/
  | vaultCreated (path : Path)
  /-- An entry was added. -/
  | added (label : String)
  /-- A field was copied, and will be cleared. -/
  | copied (secs : Nat)
  /-- An entry was removed. -/
  | removed (label : String)
  /-- A recovery file was written. -/
  | recoveryWritten (path : Path)
  /-- A vault was restored with some entries. -/
  | vaultRestored (path : Path) (entries : Nat)
  deriving DecidableEq

/-- A line the process printed. -/
inductive Line where
  /-- Data, on the standard output. -/
  | out (text : String)
  /-- Status, on the standard error. -/
  | err (notice : Notice)
  deriving DecidableEq

/-- The text of a line of data. -/
def Line.data : Line → Option String
  | out text => some text
  | err _ => none

/-- What the terminal and the file system answer, from their own state. -/
class Host (σ : Type) where
  /-- Why the instance lock is not acquired, if it is not. -/
  acquireLock : σ → Option CoreError × σ
  /-- Read a secret after a prompt. -/
  readSecret : String → σ → Except String String × σ
  /-- Read a line after a prompt. -/
  readLine : String → σ → Except String String × σ
  /-- Whether an interrupt has arrived. -/
  interrupted : σ → Bool × σ
  /-- Why the directories cannot be created, if they cannot. -/
  ensureDirs : σ → Option String × σ
  /-- Whether the path cannot be queried. -/
  statFault : Path → σ → Bool × σ
  /-- Why the file cannot be read, if it cannot. -/
  readFault : Path → σ → Option String × σ
  /-- Why the file cannot be created, if it cannot. -/
  createFault : Path → σ → Option String × σ
  /-- After how many bytes and why the write stops, if it does. -/
  writeFault : Path → σ → Option (Nat × String) × σ
  /-- Why the file cannot be flushed, if it cannot. -/
  syncFault : Path → σ → Option String × σ

/-- What happens to the host and to the clipboard while the process sleeps. -/
class Desktop (σ κ : Type) where
  /-- Sleep for some milliseconds. -/
  sleep : Nat → σ × κ → σ × κ

/-- What a process reads and writes. -/
structure Shell (δ σ κ : Type) where
  /-- The application and the vault file. -/
  world : World δ
  /-- The terminal and the file system. -/
  host : σ
  /-- The clipboard. -/
  clipboard : κ
  /-- The other files. -/
  files : Path → Option Bytes
  /-- What was typed, oldest answer first. -/
  typed : List String
  /-- What the process printed, oldest line first. -/
  printed : List Line

/-- What a process was told, what data it printed and what other files there are. -/
structure Transcript where
  /-- What was typed. -/
  typed : List String
  /-- The data. -/
  data : List String
  /-- The other files. -/
  files : Path → Option Bytes

/-- The transcript of a process. -/
def Shell.transcript {δ σ κ : Type} (shell : Shell δ σ κ) : Transcript :=
  ⟨shell.typed, shell.printed.filterMap Line.data, shell.files⟩

/-- What a process is started with. -/
structure CliEnv where
  /-- The path of the vault file. -/
  vault : Path
  /-- Whether a software backend is permitted. -/
  allowSoftware : Bool
  /-- How long a copied secret stays on the clipboard, in milliseconds. -/
  clipboardClear : Nat
  /-- The key-derivation parameters that override the preset, in tests. -/
  kdfOverride : Option KdfParams
  /-- Whether the clipboard is overwritten when it is cleared. -/
  factOverwrite : Bool

/-- An operation of a process. -/
abbrev Run (δ σ κ α : Type) := Op (Shell δ σ κ) Failure α

section Primitives

variable {δ σ κ ε α : Type}

/-- Perform an operation of the application. -/
def inApp (operation : Act δ ε α) : Op (Shell δ σ κ) ε α := fun shell =>
  let (outcome, world) := operation shell.world
  (outcome, { shell with world })

/-- Perform an operation of a session, and return the session it leaves. -/
def inSession (app : UnlockedApp) (operation : SessionAct δ ε α) :
    Op (Shell δ σ κ) ε (α × UnlockedApp) := fun shell =>
  let (outcome, world, app) := operation (shell.world, app)
  (outcome.map (·, app), { shell with world })

/-- Perform an operation of a session that uses the clipboard. -/
def withClipboard (app : UnlockedApp) (operation : Op ((World δ × UnlockedApp) × κ) ε α) :
    Op (Shell δ σ κ) ε (α × UnlockedApp) := fun shell =>
  let (outcome, (world, app), clipboard) := operation ((shell.world, app), shell.clipboard)
  (outcome.map (·, app), { shell with world, clipboard })

/-- Ask the host. -/
def askHost (query : σ → α × σ) : Op (Shell δ σ κ) ε α := Op.total fun shell =>
  let (answer, host) := query shell.host
  (answer, { shell with host })

/-- Print a line. -/
def print (line : Line) : Op (Shell δ σ κ) ε Unit :=
  Op.modify fun shell => { shell with printed := shell.printed ++ [line] }

/-- Write a line of data. -/
def out (text : String) : Op (Shell δ σ κ) ε Unit := print (.out text)

/-- Write a line of status. -/
def err (notice : Notice) : Op (Shell δ σ κ) ε Unit := print (.err notice)

/-- The file at a path. -/
def Shell.file (env : CliEnv) (path : Path) (shell : Shell δ σ κ) : Option Bytes :=
  if path = env.vault then shell.world.file else shell.files path

/-- Another file at a path. -/
def Shell.withFile (env : CliEnv) (path : Path) (bytes : Bytes) (shell : Shell δ σ κ) :
    Shell δ σ κ :=
  if path = env.vault then { shell with world := { shell.world with file := some bytes } }
  else { shell with files := Function.update shell.files path (some bytes) }

variable [Host σ]

/-- Take an answer of the terminal. -/
def readAnswer (query : σ → Except String String × σ) : Run δ σ κ String := do
  match ← askHost query with
  | .ok answer =>
    Op.modify fun shell => { shell with typed := shell.typed ++ [answer] }
    return answer
  | .error error => Op.fail (.input error)

/-- Read a secret. -/
def readSecret (prompt : String) : Run δ σ κ String := readAnswer (Host.readSecret prompt)

/-- Read a line. -/
def readLine (prompt : String) : Run δ σ κ String := readAnswer (Host.readLine prompt)

/-- Whether a file is found at a path; a path that cannot be queried counts as free. -/
def pathExists (env : CliEnv) (path : Path) : Run δ σ κ Bool := do
  let fault ← askHost (Host.statFault path)
  let shell ← Op.get
  return !fault && (shell.file env path).isSome

/-- Read a file. -/
def readFile (env : CliEnv) (path : Path) : Run δ σ κ Bytes := do
  let fault ← askHost (Host.readFault path)
  let shell ← Op.get
  match fault, shell.file env path with
  | some error, _ => Op.fail (.fileRead path error)
  | none, none => Op.fail (.fileRead path "No such file or directory")
  | none, some bytes => return bytes

/-- Create a file that does not exist and write it; what was written before a failure stays. -/
def writeNewFile0600 (env : CliEnv) (path : Path) (bytes : Bytes) : Run δ σ κ Unit := do
  let shell ← Op.get
  if (shell.file env path).isSome then Op.fail (.fileExists path)
  else
    match ← askHost (Host.createFault path) with
    | some error => Op.fail (.fileWrite path error)
    | none =>
      match ← askHost (Host.writeFault path) with
      | some (written, error) =>
        Op.modify (Shell.withFile env path (bytes.take written))
        Op.fail (.fileWrite path error)
      | none =>
        Op.modify (Shell.withFile env path bytes)
        match ← askHost (Host.syncFault path) with
        | some error => Op.fail (.fileWrite path error)
        | none => return

end Primitives

end Passman.Cli
