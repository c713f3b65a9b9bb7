import Mathlib.Data.String.Basic
import Passman.Worker.Worker

/-!
# The desktop window

The window has a gate page, a vault page and a page for a new entry. Its widgets are changed by
what the user does, by the responses of the worker and by timers, all on one main loop; requests
go to the worker through a queue and its responses come back through another. The worker runs on
a thread of its own, so the main loop and the worker take their steps in any order.
-/
namespace Passman.Gtk

open Bytewise Fallible

/-- What stands for a hidden secret. -/
def obscured : String := "••••••••••"

/-- Seconds a copied secret stays on the clipboard. -/
def clipboardClearSecs : Nat := 30

/-- A page of the window. -/
inductive Page where
  /-- The gate, where a vault is created or unlocked. -/
  | unlock
  /-- The entries of the open vault. -/
  | vault
  /-- The form of a new entry. -/
  | add
  deriving DecidableEq

/-- A change that was asked for and not confirmed yet. -/
inductive PendingMutation where
  /-- An entry with the label is added. -/
  | add (label : String)
  /-- An entry with the label is removed. -/
  | remove (label : String)

/-- What confirms a change. -/
def PendingMutation.confirmation : PendingMutation → String
  | add label => "Added \"" ++ label ++ "\"."
  | remove label => "Removed \"" ++ label ++ "\"."

/-- How strong a master password is estimated to be. -/
inductive StrengthTier where
  /-- Below thirty bits. -/
  | dangerous
  /-- Below forty-five bits. -/
  | weak
  /-- Below fifty-five bits. -/
  | acceptable
  /-- Below sixty-two bits. -/
  | strong
  /-- Sixty-two bits or more. -/
  | excellent
  deriving DecidableEq

/-- The text for an estimate. -/
def tierLabel : StrengthTier → String
  | .dangerous => "Strength: Dangerous — choose a longer passphrase"
  | .weak => "Strength: Weak — consider a longer passphrase"
  | .acceptable => "Strength: Acceptable"
  | .strong => "Strength: Strong"
  | .excellent => "Strength: Excellent"

/-- Whether an estimate is below strong. -/
def tierNeedsWarning (tier : StrengthTier) : Bool :=
  match tier with
  | .strong => false
  | .excellent => false
  | _ => true

/-- What is wrong with the passwords of a new vault. -/
inductive CreateForm where
  /-- Nothing. -/
  | ok
  /-- There is none. -/
  | empty
  /-- They differ. -/
  | mismatch
  deriving DecidableEq

/-- Check the passwords of a new vault. -/
def validateCreateForm (master confirm : String) : CreateForm :=
  if master = "" then .empty else if master ≠ confirm then .mismatch else .ok

/-- The cost of a recovery file for a row of its menu. -/
def presetFromIndex : Nat → RecoveryPreset
  | 1 => .default
  | 2 => .paranoid
  | _ => .floor

/-- The widgets, with what they show, and the state behind them. -/
structure Ui where
  /-- The visible page. -/
  page : Page
  /-- Whether the gate offers to unlock a vault, or else to create one. -/
  gateUnlocks : Bool
  /-- The master password. -/
  master : String
  /-- The repeated master password of a new vault. -/
  createConfirm : String
  /-- The estimate of a new master password. -/
  createStrength : String
  /-- Whether the estimate is shown as a warning. -/
  strengthWarning : Bool
  /-- The code. -/
  totp : String
  /-- Whether the unlock button is sensitive. -/
  unlockSensitive : Bool
  /-- Whether the create button is sensitive. -/
  createSensitive : Bool
  /-- The hint of the gate. -/
  unlockHint : String
  /-- Whether the spinner turns. -/
  unlockSpinning : Bool
  /-- The error of the gate. -/
  unlockError : String
  /-- The status line. -/
  status : String
  /-- The label that shows secrets. -/
  reveal : String
  /-- The label of a new entry. -/
  addLabel : String
  /-- The username of a new entry. -/
  addUser : String
  /-- The password of a new entry. -/
  addPass : String
  /-- The address of a new entry. -/
  addUrl : String
  /-- The notes of a new entry. -/
  addNotes : String
  /-- Whether the nudge to make a backup is visible. -/
  backupBanner : Bool
  /-- Whether the confirmation of the authenticator is visible. -/
  confirmBox : Bool
  /-- The code that confirms the authenticator. -/
  confirmTotp : String
  /-- The result of the confirmation. -/
  confirmResult : String
  /-- Whether the result is shown as an error. -/
  confirmError : Bool
  /-- The listed entries. -/
  entries : List EntryHandle
  /-- The selected row. -/
  selected : Option Nat
  /-- Whether the lock that was asked for was not answered yet. -/
  userInitiatedLock : Bool
  /-- The change to be confirmed. -/
  pendingMutation : Option PendingMutation
  /-- Whether the buttons for a row are sensitive. -/
  actionsEnabled : Bool

namespace Ui

/-- The hint of the gate. -/
def hint (vaultExists : Bool) : String :=
  if vaultExists then "Unlock your vault."
  else "Welcome — choose a master password to create your vault."

/-- The widgets of a new window. -/
def build (vaultExists : Bool) : Ui where
  page := .unlock
  gateUnlocks := vaultExists
  master := ""
  createConfirm := ""
  createStrength := ""
  strengthWarning := false
  totp := ""
  unlockSensitive := true
  createSensitive := true
  unlockHint := hint vaultExists
  unlockSpinning := false
  unlockError := ""
  status := ""
  reveal := obscured
  addLabel := ""
  addUser := ""
  addPass := ""
  addUrl := ""
  addNotes := ""
  backupBanner := false
  confirmBox := false
  confirmTotp := ""
  confirmResult := ""
  confirmError := false
  entries := []
  selected := none
  userInitiatedLock := false
  pendingMutation := none
  actionsEnabled := false

/-- The selected entry. -/
def selectedEntry (ui : Ui) : Option EntryHandle := ui.selected.bind fun row => ui.entries[row]?

/-- The identifier of the selected entry. -/
def selectedId (ui : Ui) : Option EntryId := ui.selectedEntry.map EntryHandle.id

/-- The label of the selected entry. -/
def selectedLabel (ui : Ui) : Option String := ui.selectedEntry.map EntryHandle.label

/-- Show the controls to unlock a vault or to create one, with empty entries. -/
def refreshGate (vaultExists : Bool) (ui : Ui) : Ui :=
  { ui with
    gateUnlocks := vaultExists
    unlockHint := hint vaultExists
    master := ""
    createConfirm := ""
    createStrength := ""
    totp := ""
    unlockError := "" }

/-- List other entries. -/
def setEntries (entries : List EntryHandle) (ui : Ui) : Ui :=
  { ui with entries, selected := none, reveal := obscured, actionsEnabled := false }

/-- Empty the form of a new entry. -/
def clearAddForm (ui : Ui) : Ui :=
  { ui with addLabel := "", addUser := "", addPass := "", addUrl := "", addNotes := "" }

/-- Show whether a code confirmed the authenticator. -/
def applyTotpChecked (valid : Bool) (ui : Ui) : Ui :=
  if valid then
    { ui with
      confirmError := false
      confirmResult := "Authenticator confirmed ✓"
      reveal := obscured
      confirmTotp := ""
      confirmBox := false
      status := "Authenticator confirmed. Back up your vault now (recovery export)." }
  else
    { ui with
      confirmError := true
      confirmResult := "That code didn't match — check your authenticator and try again."
      confirmTotp := "" }

end Ui

/-- What the main loop does after a delay. -/
inductive Timer where
  /-- A revealed secret is hidden. -/
  | hideReveal
  /-- A copied secret is cleared from the clipboard. -/
  | clearClipboard (cookie : ClipboardCookie)
  deriving DecidableEq

/-- The window with what its main loop waits for. -/
structure Window where
  /-- The widgets. -/
  ui : Ui
  /-- The armed timers. -/
  timers : List Timer
  /-- Whether the form of a recovery export is open. -/
  exportOpen : Bool
  /-- The recovery files for which a dialog asks for a place. -/
  saving : List Bytes
  /-- The requests that were sent and not taken yet. -/
  requests : List Request
  /-- Whether responses are polled for. -/
  polling : Bool

/-- Where a recovery file is to be saved, and how that goes. -/
inductive SaveChoice where
  /-- The dialog was dismissed. -/
  | cancelled
  /-- The place is not a local file. -/
  | noPath
  /-- The file was written. -/
  | written
  /-- There is a file of that name. -/
  | alreadyExists
  /-- The file could not be written. -/
  | failed (error : String)

/-- What a user can do. -/
inductive Action where
  /-- Edit the master password, which is estimated. -/
  | typeMaster (text : String) (tier : StrengthTier)
  /-- Edit the repeated password. -/
  | typeConfirm (text : String)
  /-- Edit the code. -/
  | typeTotp (text : String)
  /-- Click the unlock button. -/
  | unlock
  /-- Click the create button; the password is estimated. -/
  | create (tier : StrengthTier)
  /-- Press enter at the gate. -/
  | submit (tier : StrengthTier)
  /-- Select a row, or none. -/
  | select (row : Option Nat)
  /-- Reveal the password of the selected entry. -/
  | reveal
  /-- Copy the password of the selected entry. -/
  | copyPassword
  /-- Copy the username of the selected entry. -/
  | copyUsername
  /-- Remove the selected entry. -/
  | remove
  /-- Lock the vault. -/
  | lock
  /-- Open the form of a new entry. -/
  | openAdd
  /-- Edit the form of a new entry. -/
  | editAdd (label username password url notes : String)
  /-- Generate the password of a new entry, or fail. -/
  | generate (outcome : Except String String)
  /-- Save the new entry. -/
  | save
  /-- Leave the form of a new entry. -/
  | cancel
  /-- Open the form of a recovery export. -/
  | openExport
  /-- Leave the form of a recovery export. -/
  | closeExport
  /-- Export a recovery file. -/
  | confirmExport (master code : String) (index : Nat)
  /-- Edit the code that confirms the authenticator. -/
  | typeConfirmTotp (text : String)
  /-- Confirm the authenticator. -/
  | confirmTotp
  /-- Dismiss the confirmation. -/
  | dismiss
  /-- Answer the oldest dialog that asks for a place. -/
  | saveFile (choice : SaveChoice)
  /-- Close the window. -/
  | close

namespace Window

/-- Send a request to the worker. -/
def send (request : Request) (window : Window) : Window :=
  { window with requests := window.requests ++ [request] }

/-- Change the widgets. -/
def update (change : Ui → Ui) (window : Window) : Window := { window with ui := change window.ui }

/-- Arm a timer. -/
def arm (timer : Timer) (window : Window) : Window :=
  { window with timers := window.timers ++ [timer] }

/-- Ask the worker to unlock the vault. -/
def askUnlock (window : Window) : Window :=
  (window.update fun ui =>
    { ui with unlockError := "", unlockSpinning := true, unlockSensitive := false }).send
      (.unlock window.ui.master window.ui.totp)

/-- Ask the worker to create a vault, if the two passwords agree. -/
def askCreate (tier : StrengthTier) (window : Window) : Window :=
  match validateCreateForm window.ui.master window.ui.createConfirm with
  | .empty => window.update fun ui => { ui with unlockError := "Choose a master password first." }
  | .mismatch =>
    window.update fun ui =>
      { ui with unlockError := "The passwords do not match — re-enter both." }
  | .ok =>
    let warned := window.update fun ui =>
      if tierNeedsWarning tier then
        { ui with
          createStrength := "Warning: " ++ tierLabel tier ++ " — vault will still be created."
          strengthWarning := true }
      else ui
    (warned.update fun ui =>
      { ui with unlockError := "", unlockSpinning := true, createSensitive := false }).send
        (.create window.ui.master .medium)

/-- Ask the worker to do something with the selected entry. -/
def askSelected (request : EntryId → Request) (window : Window) : Window :=
  match window.ui.selectedId with
  | none => window
  | some id => window.send (request id)

/-- Note the label of the selected entry, to confirm its removal. -/
def noteRemoval (window : Window) : Window :=
  match window.ui.selectedLabel with
  | none => window
  | some label => window.update fun ui => { ui with pendingMutation := some (.remove label) }

/-- Ask the worker to add the entry of the form. -/
def askAdd (window : Window) : Window :=
  if trim window.ui.addLabel = "" then
    window.update fun ui => { ui with status := "A label is required.", page := .vault }
  else
    let noted := window.update fun ui => { ui with pendingMutation := some (.add ui.addLabel) }
    (noted.send (.add window.ui.addLabel window.ui.addUser window.ui.addPass window.ui.addUrl
      window.ui.addNotes)).update fun ui => { ui.clearAddForm with page := .vault }

/-- Whether a widget for the action is there and sensitive. -/
def enabled (window : Window) : Action → Bool
  | .typeMaster _ _ => window.ui.page = .unlock
  | .typeConfirm _ => window.ui.page = .unlock && !window.ui.gateUnlocks
  | .typeTotp _ => window.ui.page = .unlock && window.ui.gateUnlocks
  | .unlock => window.ui.page = .unlock && window.ui.gateUnlocks && window.ui.unlockSensitive
  | .create _ => window.ui.page = .unlock && !window.ui.gateUnlocks && window.ui.createSensitive
  | .submit _ => window.ui.page = .unlock
  | .select _ => window.ui.page = .vault
  | .reveal => window.ui.page = .vault && window.ui.actionsEnabled
  | .copyPassword => window.ui.page = .vault && window.ui.actionsEnabled
  | .copyUsername => window.ui.page = .vault && window.ui.actionsEnabled
  | .remove => window.ui.page = .vault && window.ui.actionsEnabled
  | .lock => window.ui.page = .vault
  | .openAdd => window.ui.page = .vault
  | .openExport => window.ui.page = .vault
  | .typeConfirmTotp _ => window.ui.page = .vault && window.ui.confirmBox
  | .confirmTotp => window.ui.page = .vault && window.ui.confirmBox
  | .dismiss => window.ui.page = .vault && window.ui.confirmBox
  | .editAdd _ _ _ _ _ => window.ui.page = .add
  | .generate _ => window.ui.page = .add
  | .save => window.ui.page = .add
  | .cancel => window.ui.page = .add
  | .closeExport => window.exportOpen
  | .confirmExport _ _ _ => window.exportOpen
  | .saveFile _ => !window.saving.isEmpty
  | .close => true

/-- Show how the saving of a recovery file went. -/
def saveRecoveryFile (choice : SaveChoice) (ui : Ui) : Ui :=
  match choice with
  | .cancelled => { ui with status := "Recovery backup not saved." }
  | .noPath => { ui with status := "That location has no file path — choose a local file." }
  | .written => { ui with status := "Recovery backup saved.", backupBanner := false }
  | .alreadyExists =>
    { ui with status := "A file of that name already exists — choose a new name." }
  | .failed error => { ui with status := "Could not save the recovery backup: " ++ error }

/-- What the handler of an action does. -/
def handle (window : Window) : Action → Window
  | .typeMaster text tier =>
    -- The estimate follows the typing only while a vault is being created.
    window.update fun ui =>
      if text = "" then { ui with master := text, createStrength := "" }
      else if ui.gateUnlocks then { ui with master := text }
      else { ui with
        master := text
        createStrength := tierLabel tier
        strengthWarning := tierNeedsWarning tier }
  | .typeConfirm text => window.update fun ui => { ui with createConfirm := text }
  | .typeTotp text => window.update fun ui => { ui with totp := text }
  | .unlock => window.askUnlock
  | .create tier => window.askCreate tier
  -- Enter fires the visible button, whether or not it is sensitive.
  | .submit tier => if window.ui.gateUnlocks then window.askUnlock else window.askCreate tier
  | .select row =>
    window.update fun ui =>
      { ui with selected := row, actionsEnabled := row.isSome, reveal := obscured, status := "" }
  | .reveal => window.askSelected fun id => .reveal id .password
  | .copyPassword => window.askSelected fun id => .copy id .password
  | .copyUsername => window.askSelected fun id => .copy id .username
  | .remove => window.noteRemoval.askSelected .remove
  | .lock => (window.update fun ui => { ui with userInitiatedLock := true }).send .lock
  | .openAdd =>
    window.update fun ui => { ui.clearAddForm with reveal := obscured, page := .add }
  | .editAdd label username password url notes =>
    window.update fun ui =>
      { ui with
        addLabel := label
        addUser := username
        addPass := password
        addUrl := url
        addNotes := notes }
  | .generate (.ok password) => window.update fun ui => { ui with addPass := password }
  | .generate (.error error) =>
    window.update fun ui => { ui with status := "Could not generate a password: " ++ error }
  | .save => window.askAdd
  | .cancel => window.update fun ui => { ui.clearAddForm with page := .vault }
  | .openExport => { window with exportOpen := true }
  | .closeExport => { window with exportOpen := false }
  | .confirmExport master code index =>
    let sent := window.send (.exportRecovery master code (presetFromIndex index))
    { sent.update fun ui => { ui with status := "Deriving recovery key (slow)…" } with
      exportOpen := false }
  | .typeConfirmTotp text => window.update fun ui => { ui with confirmTotp := text }
  | .confirmTotp =>
    if trim window.ui.confirmTotp = "" then
      window.update fun ui =>
        { ui with confirmResult := "Enter the code your authenticator shows." }
    else
      (window.update fun ui => { ui with confirmError := false, confirmResult := "Checking…" }).send
        (.verifyTotp window.ui.confirmTotp)
  | .dismiss =>
    window.update fun ui =>
      { ui with
        reveal := obscured
        confirmTotp := ""
        confirmResult := ""
        confirmBox := false
        status := "TOTP URI hidden. If you did not save it, lock and recreate the vault." }
  | .saveFile choice =>
    { window.update (saveRecoveryFile choice) with saving := window.saving.tail }
  | .close => window.send .quit

/-- Act on what the user does; a widget that is hidden or insensitive does nothing. -/
def act (action : Action) (window : Window) : Window :=
  if window.enabled action then window.handle action else window

/-- Apply a response to the widgets; a lock looks again whether there is a vault file. -/
def handleResponse (vaultExists : Bool) (response : Response) (window : Window) : Window :=
  match response with
  | .created uri entries =>
    window.update fun ui =>
      { ui.setEntries entries with
        unlockSpinning := false
        createSensitive := true
        master := ""
        createConfirm := ""
        createStrength := ""
        reveal := uri
        backupBanner := true
        confirmTotp := ""
        confirmResult := ""
        confirmError := false
        confirmBox := true
        status := "Vault created. Scan this TOTP URI in your authenticator, then " ++
          "confirm a code below to prove it works."
        page := .vault }
  | .createFailed message =>
    window.update fun ui =>
      { ui with unlockSpinning := false, createSensitive := true, unlockError := message }
  | .unlocked entries =>
    window.update fun ui =>
      { ui.setEntries entries with
        unlockSpinning := false
        unlockSensitive := true
        -- Emptying the password empties its estimate.
        master := ""
        createStrength := ""
        totp := ""
        backupBanner := false
        confirmBox := false
        page := .vault }
  | .unlockFailed message =>
    window.update fun ui =>
      { ui with unlockSpinning := false, unlockSensitive := true, unlockError := message }
  | .entries entries =>
    window.update fun ui =>
      { ui.setEntries entries with
        pendingMutation := none
        status := (ui.pendingMutation.map PendingMutation.confirmation).getD "" }
  | .revealed _ value => (window.update fun ui => { ui with reveal := value }).arm .hideReveal
  | .copied cookie =>
    (window.update fun ui =>
      { ui with
        status := "Copied — auto-clears in " ++ toString clipboardClearSecs ++ " s." }).arm
          (.clearClipboard cookie)
  | .generated password => window.update fun ui => { ui with addPass := password }
  | .locked =>
    window.update fun ui =>
      let gate := Ui.refreshGate vaultExists
        { ui.setEntries [] with
          userInitiatedLock := false
          status := ""
          backupBanner := false
          confirmBox := false }
      { gate with
        page := .unlock
        unlockError := if ui.userInitiatedLock then gate.unlockError
          else "Locked automatically after 2 minutes of inactivity — unlock to continue." }
  | .error message => window.update fun ui => { ui with status := message }
  | .recoveryExportFailed message => window.update fun ui => { ui with status := message }
  | .recoveryExported file => { window with saving := window.saving ++ [file] }
  | .totpChecked valid => window.update (Ui.applyTotpChecked valid)

/-- What a timer does when it fires. -/
def fire (window : Window) : Timer → Window
  | .hideReveal => window.update fun ui => { ui with reveal := obscured }
  | .clearClipboard cookie =>
    (window.send (.clearClipboard cookie)).update fun ui =>
      { ui with status := "Clipboard cleared." }

/-- What is shown once the worker is gone. -/
def reportStopped (window : Window) : Window :=
  let message := "The background worker stopped unexpectedly. Please restart passman."
  { window.update fun ui => { ui with unlockError := message, status := message } with
    polling := false }

/-- What an action leaves of a window: the list, the timers and the requests that were sent. -/
structure Leaves (before after : Window) : Prop where
  /-- The list is left. -/
  entries : after.ui.entries = before.ui.entries
  /-- No timer is armed or disarmed. -/
  timers : after.timers = before.timers
  /-- No request is taken back. -/
  requests : ∃ sent, after.requests = before.requests ++ sent

/-- A window that sends nothing and keeps its list and timers leaves what it has to. -/
theorem Leaves.of_same {before after : Window} (entries : after.ui.entries = before.ui.entries)
    (timers : after.timers = before.timers) (requests : after.requests = before.requests) :
    before.Leaves after :=
  ⟨entries, timers, [], requests.trans (List.append_nil _).symm⟩

/-- A request for the selected entry is sent or not. -/
theorem askSelected_leaves (window : Window) (request : EntryId → Request) :
    window.Leaves (window.askSelected request) := by
  rw [askSelected]
  cases window.ui.selectedId with
  | none => exact .of_same rfl rfl rfl
  | some id => exact ⟨rfl, rfl, _, rfl⟩

/-- A vault is asked for or not. -/
theorem askCreate_leaves (window : Window) (tier : StrengthTier) :
    window.Leaves (window.askCreate tier) := by
  rw [askCreate]
  cases validateCreateForm window.ui.master window.ui.createConfirm with
  | empty => exact .of_same rfl rfl rfl
  | mismatch => exact .of_same rfl rfl rfl
  | ok => cases tierNeedsWarning tier <;> exact ⟨rfl, rfl, _, rfl⟩

/-- An action leaves the list and the timers, and takes no request back. -/
theorem act_leaves (window : Window) (action : Action) : window.Leaves (window.act action) := by
  rw [act]
  by_cases enabled : window.enabled action = true
  swap
  · rw [if_neg enabled]
    exact .of_same rfl rfl rfl
  rw [if_pos enabled]
  cases action with
  | typeMaster text tier =>
    rw [handle, update]
    split_ifs <;> exact .of_same rfl rfl rfl
  | unlock => exact ⟨rfl, rfl, _, rfl⟩
  | create tier => exact window.askCreate_leaves tier
  | submit tier =>
    rw [handle]
    split_ifs
    · exact ⟨rfl, rfl, _, rfl⟩
    · exact window.askCreate_leaves tier
  | reveal => exact window.askSelected_leaves _
  | copyPassword => exact window.askSelected_leaves _
  | copyUsername => exact window.askSelected_leaves _
  | remove =>
    have noted : window.noteRemoval.ui.entries = window.ui.entries ∧
        window.noteRemoval.timers = window.timers ∧
        window.noteRemoval.requests = window.requests := by
      rw [noteRemoval]
      cases window.ui.selectedLabel <;> exact ⟨rfl, rfl, rfl⟩
    obtain ⟨entries, timers, sent, requests⟩ := window.noteRemoval.askSelected_leaves .remove
    rw [noted.1] at entries
    rw [noted.2.1] at timers
    rw [noted.2.2] at requests
    exact ⟨entries, timers, sent, requests⟩
  | lock => exact ⟨rfl, rfl, _, rfl⟩
  | generate outcome => cases outcome <;> exact .of_same rfl rfl rfl
  | save =>
    rw [handle, askAdd]
    split_ifs
    · exact .of_same rfl rfl rfl
    · exact ⟨rfl, rfl, _, rfl⟩
  | confirmExport master code index => exact ⟨rfl, rfl, _, rfl⟩
  | confirmTotp =>
    rw [handle]
    split_ifs
    · exact .of_same rfl rfl rfl
    · exact ⟨rfl, rfl, _, rfl⟩
  | saveFile choice => cases choice <;> exact .of_same rfl rfl rfl
  | close => exact ⟨rfl, rfl, _, rfl⟩
  | _ => exact .of_same rfl rfl rfl

end Window

/-- The program: the window, the worker, and the responses on their way. -/
structure Desktop (δ κ : Type) where
  /-- The window. -/
  window : Window
  /-- The worker. -/
  worker : Worker δ κ
  /-- The responses that were sent and not polled yet. -/
  responses : List Response

/-- What can happen next. -/
inductive Occurrence where
  /-- The user does something. -/
  | user (action : Action)
  /-- The worker takes the next request, or wakes up without one. -/
  | work
  /-- The main loop takes the next response; it sees whether there is a vault file. -/
  | poll (vaultExists : Bool)
  /-- One of the armed timers fires. -/
  | fire (index : Nat)

namespace Desktop

variable {δ κ : Type}

/-- What wakes the worker up next. -/
def wakeUp (desktop : Desktop δ κ) : Event :=
  match desktop.window.requests with
  | [] => .timeout
  | request :: _ => .taken request

/-- Take the next response, or notice that there will be none. -/
def poll (vaultExists : Bool) (desktop : Desktop δ κ) : Desktop δ κ :=
  match desktop.responses with
  | response :: later =>
    { desktop with
      window := desktop.window.handleResponse vaultExists response
      responses := later }
  | [] =>
    match desktop.worker.phase with
    | .stopped =>
      if desktop.window.polling then { desktop with window := desktop.window.reportStopped }
      else desktop
    | _ => desktop

/-- Let a timer fire, which disarms it. -/
def fire (index : Nat) (desktop : Desktop δ κ) : Desktop δ κ :=
  match desktop.window.timers[index]? with
  | none => desktop
  | some timer =>
    { desktop with
      window := Window.fire { desktop.window with timers := desktop.window.timers.eraseIdx index }
        timer }

variable [Platform δ] [Clipboard κ] [Crates]

/-- The program after one step. -/
def step (desktop : Desktop δ κ) : Occurrence → Desktop δ κ
  | .user action => { desktop with window := desktop.window.act action }
  | .work =>
    let (sent, worker) := desktop.worker.step desktop.wakeUp
    { window := { desktop.window with requests := desktop.window.requests.tail }
      worker
      responses := desktop.responses ++ sent }
  | .poll vaultExists => desktop.poll vaultExists
  | .fire index => desktop.fire index

omit [Platform δ] [Clipboard κ] [Crates] in
/-- The program that was just started. -/
def start (world : World δ) (clipboard : Option κ) (factOverwrite vaultExists : Bool) :
    Desktop δ κ where
  window :=
    { ui := .build vaultExists
      timers := []
      exportOpen := false
      saving := []
      requests := []
      polling := true }
  worker := .start world clipboard factOverwrite
  responses := []

end Desktop

end Passman.Gtk
