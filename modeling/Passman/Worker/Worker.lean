import Passman.Core.Unlocked
import Passman.Lib.Run

/-!
# The session worker

A worker owns the application instance and, while unlocked, the open session. It takes
one request at a time from a queue. While locked it waits; while unlocked it also
wakes on idle ticks to enforce the session's expiry. Leaving the unlocked loop wipes a
copied secret that is still on the clipboard.
-/
namespace Passman

open Bytewise Fallible

/-- A message to the worker. -/
inductive Request where
  /-- Create a vault and open a session. -/
  | create (master : String) (kdf : KdfParams)
  /-- Unlock the vault. -/
  | unlock (master code : String)
  /-- List the entries. -/
  | refresh
  /-- Show a field of an entry. -/
  | reveal (id : EntryId) (field : RevealField)
  /-- Copy a field of an entry. -/
  | copy (id : EntryId) (field : RevealField)
  /-- Clear the clipboard if it still holds the cookie's value. -/
  | clearClipboard (cookie : ClipboardCookie)
  /-- Generate a password. -/
  | generate (length : UInt16)
  /-- Add an entry. -/
  | add (label username password url notes : String)
  /-- Remove an entry. -/
  | remove (id : EntryId)
  /-- Export a recovery file. -/
  | exportRecovery (master code : String) (preset : RecoveryPreset)
  /-- Check a code against the session's seed. -/
  | verifyTotp (code : String)
  /-- Lock the session. -/
  | lock
  /-- Stop the worker. -/
  | quit
  deriving DecidableEq

/-- A message from the worker. -/
inductive Response where
  /-- A vault was created. -/
  | created (provisioningUri : String) (entries : List EntryHandle)
  /-- No vault was created. -/
  | createFailed (message : String)
  /-- The vault was unlocked. -/
  | unlocked (entries : List EntryHandle)
  /-- The vault was not unlocked. -/
  | unlockFailed (message : String)
  /-- The current entries. -/
  | entries (entries : List EntryHandle)
  /-- The value of a field. -/
  | revealed (field : RevealField) (value : String)
  /-- A field was copied. -/
  | copied (cookie : ClipboardCookie)
  /-- A generated password. -/
  | generated (password : String)
  /-- The session is locked. -/
  | locked
  /-- A recovery file. -/
  | recoveryExported (file : Bytes)
  /-- No recovery file was exported. -/
  | recoveryExportFailed (message : String)
  /-- Whether a code is valid. -/
  | totpChecked (valid : Bool)
  /-- An operation failed. -/
  | error (message : String)
  deriving DecidableEq

/-- What follows a request in the unlocked loop. -/
inductive Flow where
  /-- Stay unlocked. -/
  | continue
  /-- Return to the locked loop. -/
  | lock
  /-- Stop the worker. -/
  | quit
  deriving DecidableEq

/-- Whether a character is white space in the Unicode sense. -/
def isWhiteSpace (char : Char) : Bool :=
  (0x0009 ≤ char.val && char.val ≤ 0x000D) || char.val = 0x0020 || char.val = 0x0085 ||
    char.val = 0x00A0 || char.val = 0x1680 || (0x2000 ≤ char.val && char.val ≤ 0x200A) ||
    char.val = 0x2028 || char.val = 0x2029 || char.val = 0x202F || char.val = 0x205F ||
    char.val = 0x3000

/-- A text without the white space at its ends. -/
def trim (text : String) : String :=
  String.ofList (((text.toList.dropWhile isWhiteSpace).reverse.dropWhile isWhiteSpace).reverse)

/-- The message of a key store that failed without saying more. -/
def keystoreRefused : String :=
  "This device's secure storage refused to use the vault key. Please try again."

/-- The message of a failed creation. -/
def createMessage : CoreError → String
  | .alreadyRunning => "Another passman instance is using this vault."
  | .softwareHsmRefused => "This device has no acceptable hardware key store."
  | .hsm .hardwareAbsent =>
    "Set a screen lock (PIN, pattern or password) on this device first. " ++
      "passman needs it to protect its secure key."
  | .hsm (.backend _) => keystoreRefused
  | _ => "The vault could not be created."

/-- The message of a failed unlock. -/
def unlockMessage : UnlockError → String
  | .badCredentials => "Incorrect master password or TOTP code."
  | .lockedOut remaining =>
    "Locked out; try again in about " ++ toString (max remaining.secs 1) ++ " s."
  | .cancelled => "Unlock cancelled."
  | .retryable => "Transient hardware error; please retry."
  | .routeToRecovery => "The hardware key is unavailable; recover from a backup."
  | .softwareHsmRefused =>
    "This vault uses a software backend (run with --allow-software-hsm)."
  | .hsm (.backend _) => keystoreRefused
  | _ => "The vault could not be unlocked."

/-- The message of a failed operation. -/
def operationMessage : CoreError → String
  | .vault .entryNotFound => "That entry no longer exists."
  | .weakPasswordForExport => "The master password is too weak for a recovery export."
  | _ => "The operation failed."

/-- An expired session locks; any other failure is reported. -/
def onOpError : CoreError → Flow × List Response
  | .locked => (.lock, [])
  | error => (.continue, [.error (operationMessage error)])

/-- Answer a request with the outcome of its operation. -/
def answer {α : Type} (respond : α → Response) : Except CoreError α → Flow × List Response
  | .ok value => (.continue, [respond value])
  | .error error => onOpError error

/-- An open session in the worker's hands. -/
structure Live (δ κ : Type) where
  /-- The application instance. -/
  world : World δ
  /-- The session. -/
  app : UnlockedApp
  /-- The clipboard, when one is available. -/
  clipboard : Option κ
  /-- The cookie of the last copy that is believed to be on the clipboard. -/
  liveCookie : Option ClipboardCookie

namespace Live

variable {δ κ : Type}

/-- Run an operation of the session. -/
def perform {α ε : Type} (operation : SessionAct δ ε α) (live : Live δ κ) :
    Except ε α × Live δ κ :=
  let (outcome, world, app) := operation (live.world, live.app)
  (outcome, { live with world, app })

/-- Ask the session a question that cannot fail. -/
def inspect {α : Type} (question : World δ × UnlockedApp → α × World δ × UnlockedApp)
    (live : Live δ κ) : α × Live δ κ :=
  let (value, world, app) := question (live.world, live.app)
  (value, { live with world, app })

/-- Answer a request with an operation of the session. -/
def serve {α : Type} (operation : SessionAct δ CoreError α) (respond : α → Response)
    (live : Live δ κ) : (Flow × List Response) × Live δ κ :=
  let (outcome, live) := live.perform operation
  (answer respond outcome, live)

variable [Platform δ] [Clipboard κ]

/-- Clear the clipboard, when there is one. -/
def clear (factOverwrite : Bool) (cookie : ClipboardCookie) (live : Live δ κ) : Live δ κ :=
  match live.clipboard with
  | none => live
  | some clipboard =>
    let (_, (world, app), clipboard) :=
      clearClipboardWith (ε := CoreError) cookie factOverwrite ((live.world, live.app), clipboard)
    { live with world, app, clipboard := some clipboard }

/-- Wipe a copied secret on the way out. -/
def wipeClipboardOnExit (factOverwrite : Bool) (live : Live δ κ) : Live δ κ :=
  match live.liveCookie with
  | none => live
  | some cookie => live.clear factOverwrite cookie

variable [Crates]

/-- Copy a field; a successful copy is remembered by its cookie. -/
def copy (id : EntryId) (field : RevealField) (live : Live δ κ) :
    (Flow × List Response) × Live δ κ :=
  match live.clipboard with
  | none => ((.continue, [.error "the clipboard is unavailable"]), live)
  | some clipboard =>
    let (outcome, (world, app), clipboard) :=
      copyToClipboard id field ((live.world, live.app), clipboard)
    (answer .copied outcome,
      ⟨world, app, some clipboard, outcome.toOption.or live.liveCookie⟩)

/-- Handle one request in the unlocked loop. -/
def handleUnlocked (factOverwrite : Bool) (request : Request) (live : Live δ κ) :
    (Flow × List Response) × Live δ κ :=
  match request with
  | .lock => ((.lock, []), live)
  | .quit => ((.quit, []), live)
  -- A stray creation or unlock is ignored and gets no response.
  | .create _ _ => ((.continue, []), live)
  | .unlock _ _ => ((.continue, []), live)
  | .refresh => live.serve listEntries .entries
  | .reveal id field =>
    live.serve (withRevealed id fun record => selectField record field) (.revealed field)
  | .copy id field => live.copy id field
  | .clearClipboard cookie =>
    ((.continue, []), { live.clear factOverwrite cookie with liveCookie := none })
  | .generate length =>
    live.serve (generatePassword ⟨length, .defaultVault, .oneOfEach⟩) .generated
  | .add label username password url notes =>
    live.serve (do
      let _ ← addEntry label .default ⟨username, password, url, notes⟩
      listEntries) .entries
  | .remove id =>
    live.serve (do
      removeEntry id
      listEntries) .entries
  | .exportRecovery master code preset =>
    match live.perform (exportRecovery master (trim code) preset) with
    | (.ok file, live) => ((.continue, [.recoveryExported file]), live)
    | (.error .locked, live) => ((.lock, []), live)
    | (.error error, live) => ((.continue, [.recoveryExportFailed (operationMessage error)]), live)
  | .verifyTotp code =>
    let (valid, live) := live.inspect (verifyTotpCode (trim code))
    ((.continue, [.totpChecked valid]), live)

end Live

/-- Which loop the worker is in. -/
inductive Phase where
  /-- The locked outer loop. -/
  | locked
  /-- The unlocked inner loop. -/
  | unlocked (app : UnlockedApp) (liveCookie : Option ClipboardCookie)
  /-- The worker has returned. -/
  | stopped

/-- The state of a worker between two requests. -/
structure Worker (δ κ : Type) where
  /-- The application instance. -/
  world : World δ
  /-- The clipboard, when one is available. -/
  clipboard : Option κ
  /-- Whether clears overwrite. -/
  factOverwrite : Bool
  /-- The current loop. -/
  phase : Phase

/-- What wakes the worker. -/
inductive Event where
  /-- A request is taken from the queue. -/
  | taken (request : Request)
  /-- The queue stayed empty for a poll interval. -/
  | timeout
  /-- The queue was closed. -/
  | disconnected
  deriving DecidableEq

namespace Worker

variable {δ κ : Type}

/-- The session of an unlocked worker. -/
def live (worker : Worker δ κ) (app : UnlockedApp) (liveCookie : Option ClipboardCookie) :
    Live δ κ :=
  ⟨worker.world, app, worker.clipboard, liveCookie⟩

/-- Put a session back into the worker. -/
def resume (worker : Worker δ κ) (live : Live δ κ) (phase : Phase) : Worker δ κ :=
  { worker with world := live.world, clipboard := live.clipboard, phase }

variable [Platform δ] [Clipboard κ]

/-- Act on the flow a request leaves: stay, or wipe and return to the locked loop or stop. -/
def follow (worker : Worker δ κ) (flow : Flow) (responses : List Response) (live : Live δ κ) :
    List Response × Worker δ κ :=
  match flow with
  | .continue => (responses, worker.resume live (.unlocked live.app live.liveCookie))
  | .lock =>
    (responses ++ [.locked], worker.resume (live.wipeClipboardOnExit worker.factOverwrite) .locked)
  | .quit =>
    (responses, worker.resume (live.wipeClipboardOnExit worker.factOverwrite) .stopped)

/-- Enter the unlocked loop, listing the entries for the first response. -/
def enter (worker : Worker δ κ) (world : World δ) (app : UnlockedApp)
    (respond : List EntryHandle → Response) : List Response × Worker δ κ :=
  let (outcome, world, app) := listEntries (world, app)
  ([respond (outcome.toOption.getD [])], { worker with world, phase := .unlocked app none })

variable [Crates]

/-- Handle one request in the locked loop. -/
def handleLocked (worker : Worker δ κ) (request : Request) : List Response × Worker δ κ :=
  match request with
  | .create master kdf =>
    match createVault master kdf .default worker.world with
    | (.ok (app, uri), world) => worker.enter world app (.created uri)
    | (.error error, world) => ([.createFailed (createMessage error)], { worker with world })
  | .unlock master code =>
    match Passman.unlock master (trim code) worker.world with
    | (.ok app, world) => worker.enter world app .unlocked
    | (.error error, world) => ([.unlockFailed (unlockMessage error)], { worker with world })
  | .quit => ([], { worker with phase := .stopped })
  | .clearClipboard _ => ([], worker)
  | _ => ([.locked], worker)

/-- One step: what a wake-up sends and leaves. -/
def step (worker : Worker δ κ) (event : Event) : List Response × Worker δ κ :=
  match worker.phase with
  | .stopped => ([], worker)
  | .locked =>
    match event with
    | .taken request => worker.handleLocked request
    | .timeout => ([], worker)
    | .disconnected => ([], { worker with phase := .stopped })
  | .unlocked app liveCookie =>
    let live := worker.live app liveCookie
    match event with
    | .taken request =>
      let ((flow, responses), live) := live.handleUnlocked worker.factOverwrite request
      worker.follow flow responses live
    | .timeout =>
      let (expired, live) := live.inspect isExpired
      worker.follow (if expired then .lock else .continue) [] live
    | .disconnected => worker.follow .quit [] live

/-- The state after a step. -/
def next (worker : Worker δ κ) (event : Event) : Worker δ κ := (worker.step event).2

/-- A request in the unlocked loop is handled and its flow followed. -/
theorem step_taken (worker : Worker δ κ) {app : UnlockedApp} {liveCookie : Option ClipboardCookie}
    (unlocked : worker.phase = .unlocked app liveCookie) (request : Request) :
    worker.step (.taken request) =
      let handled := (worker.live app liveCookie).handleUnlocked worker.factOverwrite request
      worker.follow handled.1.1 handled.1.2 handled.2 := by
  simp only [step, unlocked]

/-- An idle tick in the unlocked loop locks an expired session. -/
theorem step_timeout (worker : Worker δ κ) {app : UnlockedApp}
    {liveCookie : Option ClipboardCookie} (unlocked : worker.phase = .unlocked app liveCookie) :
    worker.step .timeout =
      let asked := (worker.live app liveCookie).inspect isExpired
      worker.follow (if asked.1 then .lock else .continue) [] asked.2 := by
  simp only [step, unlocked]

/-- A closed queue in the unlocked loop stops the worker. -/
theorem step_disconnected (worker : Worker δ κ) {app : UnlockedApp}
    {liveCookie : Option ClipboardCookie} (unlocked : worker.phase = .unlocked app liveCookie) :
    worker.step .disconnected = worker.follow .quit [] (worker.live app liveCookie) := by
  simp only [step, unlocked]

/-- A worker that just started. -/
def start (world : World δ) (clipboard : Option κ) (factOverwrite : Bool) : Worker δ κ :=
  ⟨world, clipboard, factOverwrite, .locked⟩

end Worker

end Passman
