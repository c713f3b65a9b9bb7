import Passman.Gtk.Ui
import Passman.Worker.Responses

/-!
# What a locked window shows

The worker sends what is found in a vault only between the response that opened a session and the
one that locked it, and responses are handled in the order they were sent. So whatever the order of
the user's actions, the worker's wake-ups, the responses and the timers, the gate never shows
anything of a vault, and a secret that is shown is hidden again.
-/
namespace Passman.Gtk

open Fallible Transition

/-- Where a response leads from the gate, or from an open vault, if it can be sent there. -/
def leads (opened : Bool) : Response → Option Bool
  | .created _ _ => if opened then none else some true
  | .createFailed _ => if opened then none else some false
  | .unlocked _ => if opened then none else some true
  | .unlockFailed _ => if opened then none else some false
  | .locked => some false
  | _ => if opened then some true else none

/-- Whether a response is sent from within an open session only. -/
def isInner : Response → Bool
  | .created _ _ => false
  | .createFailed _ => false
  | .unlocked _ => false
  | .unlockFailed _ => false
  | .locked => false
  | _ => true

/-- An inner response is sent from an open vault and leaves it open. -/
theorem leads_of_inner {response : Response} (inner : isInner response = true) (opened : Bool) :
    leads opened response = if opened then some true else none := by
  cases response <;> first | rfl | cases inner

/-- Inner responses leave a vault open. -/
theorem leads_inner {responses : List Response}
    (inner : ∀ response ∈ responses, isInner response = true) :
    responses.foldlM leads true = some true := by
  induction responses with
  | nil => rfl
  | cons response later ih =>
    rw [List.forall_mem_cons] at inner
    rw [List.foldlM_cons, leads_of_inner inner.1]
    exact ih inner.2

section Worker

variable {δ κ : Type} [Platform δ] [Clipboard κ] [Crates]

omit [Platform δ] [Clipboard κ] [Crates] in
/-- An answer is an inner response. -/
theorem answer_inner {α : Type} {respond : α → Response}
    (inner : ∀ value, isInner (respond value) = true) (outcome : Except CoreError α) :
    ∀ response ∈ (answer respond outcome).2, isInner response = true := by
  intro response sent
  cases outcome with
  | ok value =>
    obtain rfl := List.mem_singleton.mp sent
    exact inner value
  | error error =>
    cases error with
    | locked => cases sent
    | _ =>
      obtain rfl := List.mem_singleton.mp sent
      rfl

/-- An open session sends inner responses. -/
theorem handleUnlocked_inner (live : Live δ κ) (factOverwrite : Bool) (request : Request) :
    ∀ response ∈ (live.handleUnlocked factOverwrite request).1.2, isInner response = true := by
  cases request with
  | refresh => exact answer_inner (fun _ => rfl) _
  | reveal id field => exact answer_inner (fun _ => rfl) _
  | generate length => exact answer_inner (fun _ => rfl) _
  | add label username password url notes => exact answer_inner (fun _ => rfl) _
  | remove id => exact answer_inner (fun _ => rfl) _
  | copy id field =>
    rw [Live.handleUnlocked, Live.copy]
    cases live.clipboard with
    | none =>
      intro response sent
      obtain rfl := List.mem_singleton.mp sent
      rfl
    | some clipboard => exact answer_inner (fun _ => rfl) _
  | exportRecovery master code preset =>
    rw [Live.handleUnlocked]
    rcases live.perform (exportRecovery master (trim code) preset) with ⟨outcome, after⟩
    intro response sent
    cases outcome with
    | ok file =>
      obtain rfl := List.mem_singleton.mp sent
      rfl
    | error error =>
      cases error with
      | locked => cases sent
      | _ =>
        obtain rfl := List.mem_singleton.mp sent
        rfl
  | verifyTotp code =>
    intro response sent
    obtain rfl := List.mem_singleton.mp sent
    rfl
  | _ =>
    intro response sent
    cases sent

/-- The worker is in its unlocked loop where its responses lead, unless it has stopped. -/
def Arrives (worker : Worker δ κ) (opened : Bool) : Prop :=
  worker.phase.isRunning = true → opened = worker.phase.isUnlocked

omit [Crates] in
/-- Following a flow after inner responses leads where the worker goes. -/
theorem follow_leads (worker : Worker δ κ) (flow : Flow) {responses : List Response}
    (inner : ∀ response ∈ responses, isInner response = true) (live : Live δ κ) :
    ∃ ended, (worker.follow flow responses live).1.foldlM leads true = some ended ∧
      Arrives (worker.follow flow responses live).2 ended := by
  cases flow with
  | «continue» => exact ⟨true, leads_inner inner, fun _ => rfl⟩
  | lock =>
    refine ⟨false, ?_, fun _ => rfl⟩
    change (responses ++ [Response.locked]).foldlM leads true = some false
    rw [List.foldlM_append, leads_inner inner]
    rfl
  | quit => exact ⟨true, leads_inner inner, fun clash => by cases clash⟩

/-- What a wake-up sends leads from the loop the worker was in to the one it is in. -/
theorem step_leads (worker : Worker δ κ) (event : Event) {opened : Bool}
    (arrives : Arrives worker opened) :
    ∃ ended, (worker.step event).1.foldlM leads opened = some ended ∧
      Arrives (worker.next event) ended := by
  rw [Worker.next]
  cases phase : worker.phase with
  | stopped =>
    simp only [Worker.step, phase]
    exact ⟨opened, rfl, arrives⟩
  | locked =>
    have gate : opened = false := by
      rw [Arrives, phase] at arrives
      exact arrives rfl
    subst gate
    have stays : Arrives worker false := arrives
    simp only [Worker.step, phase]
    cases event with
    | timeout => exact ⟨false, rfl, stays⟩
    | disconnected => exact ⟨false, rfl, fun clash => by cases clash⟩
    | taken request =>
      dsimp only
      cases request with
      | create master kdf =>
        rw [Worker.handleLocked]
        rcases createVault master kdf .default worker.world with ⟨outcome, world⟩
        cases outcome with
        | ok opened => exact ⟨true, rfl, fun _ => rfl⟩
        | error error => exact ⟨false, rfl, stays⟩
      | unlock master code =>
        rw [Worker.handleLocked]
        rcases Passman.unlock master (trim code) worker.world with ⟨outcome, world⟩
        cases outcome with
        | ok app => exact ⟨true, rfl, fun _ => rfl⟩
        | error error => exact ⟨false, rfl, stays⟩
      | quit => exact ⟨false, rfl, fun clash => by cases clash⟩
      | _ => exact ⟨false, rfl, stays⟩
  | unlocked app liveCookie =>
    have open' : opened = true := by
      rw [Arrives, phase] at arrives
      exact arrives rfl
    subst open'
    cases event with
    | taken request =>
      rw [Worker.step_taken _ phase]
      exact follow_leads worker _ (handleUnlocked_inner _ _ request) _
    | timeout =>
      rw [Worker.step_timeout _ phase]
      exact follow_leads worker _ (fun _ sent => by cases sent) _
    | disconnected =>
      rw [Worker.step_disconnected _ phase]
      exact follow_leads worker _ (fun _ sent => by cases sent) _

end Worker

namespace Window

/-- Whether a page other than the gate is visible. -/
def isOpen (window : Window) : Bool := window.ui.page ≠ .unlock

/-- What the invariant of a window looks at. -/
def shown (window : Window) :
    Page × String × String × List EntryHandle × Option Nat × Bool × Bool × List Timer :=
  (window.ui.page, window.ui.master, window.ui.reveal, window.ui.entries, window.ui.selected,
    window.ui.confirmBox, window.ui.actionsEnabled, window.timers)

/-- A window whose gate shows nothing of a vault, whose other pages show no master password, and
which is going to hide every secret it shows. -/
structure Safe (window : Window) : Prop where
  /-- The gate lists no entry. -/
  entries : window.ui.page = .unlock → window.ui.entries = []
  /-- The gate has no entry selected. -/
  selected : window.ui.page = .unlock → window.ui.selected = none
  /-- The gate shows no secret. -/
  reveal : window.ui.page = .unlock → window.ui.reveal = obscured
  /-- The gate does not ask to confirm an authenticator. -/
  confirmBox : window.ui.page = .unlock → window.ui.confirmBox = false
  /-- The gate offers nothing to do with an entry. -/
  actions : window.ui.page = .unlock → window.ui.actionsEnabled = false
  /-- The master password is only typed at the gate. -/
  master : window.ui.page ≠ .unlock → window.ui.master = ""
  /-- A secret that is shown is going to be hidden, or is the one that is to be confirmed. -/
  hides : window.ui.reveal ≠ obscured → .hideReveal ∈ window.timers ∨ window.ui.confirmBox = true

variable {window after : Window}

/-- Only what is shown matters. -/
theorem Safe.of_shown (safe : window.Safe) (same : after.shown = window.shown) : after.Safe := by
  simp only [shown, Prod.mk.injEq] at same
  obtain ⟨page, master, reveal, entries, selected, confirmBox, actions, timers⟩ := same
  constructor
  · rw [page, entries]
    exact safe.entries
  · rw [page, selected]
    exact safe.selected
  · rw [page, reveal]
    exact safe.reveal
  · rw [page, confirmBox]
    exact safe.confirmBox
  · rw [page, actions]
    exact safe.actions
  · rw [page, master]
    exact safe.master
  · rw [reveal, timers, confirmBox]
    exact safe.hides

/-- Another page than the gate is safe without a master password, if it is going to hide what it
shows. -/
theorem Safe.of_open (page : after.ui.page ≠ .unlock) (master : after.ui.master = "")
    (hides : after.ui.reveal ≠ obscured →
      .hideReveal ∈ after.timers ∨ after.ui.confirmBox = true) : after.Safe where
  entries gate := absurd gate page
  selected gate := absurd gate page
  reveal gate := absurd gate page
  confirmBox gate := absurd gate page
  actions gate := absurd gate page
  master _ := master
  hides := hides

/-- The gate is safe with another master password. -/
theorem Safe.of_gate (safe : window.Safe) (gate : window.ui.page = .unlock) {text : String}
    (same : after.shown = { window with ui := { window.ui with master := text } }.shown) :
    after.Safe := by
  have typed : Safe { window with ui := { window.ui with master := text } } :=
    ⟨safe.entries, safe.selected, safe.reveal, safe.confirmBox, safe.actions,
      fun out => absurd gate out, safe.hides⟩
  exact typed.of_shown same

/-- A request that is sent keeps the window safe. -/
theorem Safe.send (safe : window.Safe) (request : Request) : (window.send request).Safe :=
  safe.of_shown rfl

/-- What is asked of the worker about the selected entry keeps the window safe. -/
theorem Safe.askSelected (safe : window.Safe) (request : EntryId → Request) :
    (window.askSelected request).Safe ∧ (window.askSelected request).isOpen = window.isOpen := by
  rw [Window.askSelected]
  cases window.ui.selectedId with
  | none => exact ⟨safe, rfl⟩
  | some id => exact ⟨safe.send _, rfl⟩

/-- Asking for a vault to be unlocked keeps the window safe. -/
theorem Safe.askUnlock (safe : window.Safe) :
    window.askUnlock.Safe ∧ window.askUnlock.isOpen = window.isOpen :=
  ⟨safe.of_shown rfl, rfl⟩

/-- Asking for a vault to be created keeps the window safe. -/
theorem Safe.askCreate (safe : window.Safe) (tier : StrengthTier) :
    (window.askCreate tier).Safe ∧ (window.askCreate tier).isOpen = window.isOpen := by
  rw [Window.askCreate]
  cases validateCreateForm window.ui.master window.ui.createConfirm with
  | empty => exact ⟨safe.of_shown rfl, rfl⟩
  | mismatch => exact ⟨safe.of_shown rfl, rfl⟩
  | ok =>
    cases warns : tierNeedsWarning tier with
    | true =>
      simp only [if_true]
      exact ⟨safe.of_shown rfl, rfl⟩
    | false => exact ⟨safe.of_shown rfl, rfl⟩

/-- What the user does keeps the window safe, and neither opens nor leaves the gate. -/
theorem Safe.act (safe : window.Safe) (action : Action) :
    (window.act action).Safe ∧ (window.act action).isOpen = window.isOpen := by
  rw [Window.act]
  by_cases enabled : window.enabled action = true
  swap
  · rw [if_neg enabled]
    exact ⟨safe, rfl⟩
  rw [if_pos enabled]
  have beyond {page : Page} (visible : window.ui.page = page) (other : page ≠ .unlock) :
      window.ui.page ≠ .unlock := visible ▸ other
  have vault : Page.vault ≠ .unlock := by decide
  have add : Page.add ≠ .unlock := by decide
  cases action with
  | typeMaster text tier =>
    have gate : window.ui.page = .unlock := of_decide_eq_true enabled
    have typed : (window.handle (.typeMaster text tier)).shown =
        { window with ui := { window.ui with master := text } }.shown := by
      rw [handle, update]
      split_ifs with empty <;> rfl
    have page := congrArg Prod.fst typed
    refine ⟨safe.of_gate gate typed, ?_⟩
    rw [isOpen, isOpen, show (window.handle (.typeMaster text tier)).ui.page = window.ui.page
      from page]
  | unlock => exact safe.askUnlock
  | create tier => exact safe.askCreate tier
  | submit tier =>
    rw [handle]
    split_ifs
    · exact safe.askUnlock
    · exact safe.askCreate tier
  | select row =>
    have out : window.ui.page ≠ .unlock := beyond (of_decide_eq_true enabled) vault
    exact ⟨.of_open out (safe.master out) fun secret => absurd rfl secret, rfl⟩
  | reveal => exact safe.askSelected _
  | copyPassword => exact safe.askSelected _
  | copyUsername => exact safe.askSelected _
  | remove =>
    have noted : window.noteRemoval.Safe ∧ window.noteRemoval.isOpen = window.isOpen := by
      rw [noteRemoval]
      cases window.ui.selectedLabel with
      | none => exact ⟨safe, rfl⟩
      | some label => exact ⟨safe.of_shown rfl, rfl⟩
    obtain ⟨kept, same⟩ := noted.1.askSelected .remove
    exact ⟨kept, same.trans noted.2⟩
  | openAdd =>
    have out : window.ui.page ≠ .unlock := beyond (of_decide_eq_true enabled) vault
    refine ⟨.of_open add (safe.master out) fun secret => absurd rfl secret, ?_⟩
    exact (decide_eq_true out).symm
  | generate outcome => cases outcome <;> exact ⟨safe.of_shown rfl, rfl⟩
  | save =>
    have out : window.ui.page ≠ .unlock := beyond (of_decide_eq_true enabled) add
    rw [handle, askAdd]
    split_ifs
    · exact ⟨.of_open vault (safe.master out) safe.hides, (decide_eq_true out).symm⟩
    · exact ⟨.of_open vault (safe.master out) safe.hides, (decide_eq_true out).symm⟩
  | cancel =>
    have out : window.ui.page ≠ .unlock := beyond (of_decide_eq_true enabled) add
    exact ⟨.of_open vault (safe.master out) safe.hides, (decide_eq_true out).symm⟩
  | confirmTotp =>
    rw [handle]
    split_ifs <;> exact ⟨safe.of_shown rfl, rfl⟩
  | dismiss =>
    have out : window.ui.page ≠ .unlock :=
      beyond (of_decide_eq_true (Bool.and_eq_true_iff.mp enabled).1) vault
    exact ⟨.of_open out (safe.master out) fun secret => absurd rfl secret, rfl⟩
  | saveFile choice => cases choice <;> exact ⟨safe.of_shown rfl, rfl⟩
  | _ => exact ⟨safe.of_shown rfl, rfl⟩

/-- A response that can be sent where the window is keeps it safe, and leads where it says. -/
theorem Safe.handleResponse (safe : window.Safe) (vaultExists : Bool) {response : Response}
    {opened : Bool} (led : leads window.isOpen response = some opened) :
    (window.handleResponse vaultExists response).Safe ∧
      (window.handleResponse vaultExists response).isOpen = opened := by
  have vault : Page.vault ≠ .unlock := by decide
  have within (inner : isInner response = true) : window.ui.page ≠ .unlock ∧ opened = true := by
    rw [leads_of_inner inner] at led
    cases place : window.isOpen with
    | true =>
      rw [place] at led
      exact ⟨of_decide_eq_true place, (Option.some.inj led).symm⟩
    | false =>
      rw [place] at led
      cases led
  have gate {next : Bool} (led : (if window.isOpen then none else some next) = some opened) :
      window.isOpen = false ∧ opened = next := by
    cases place : window.isOpen with
    | true =>
      rw [place] at led
      cases led
    | false =>
      rw [place] at led
      exact ⟨rfl, (Option.some.inj led).symm⟩
  cases response with
  | created uri entries =>
    obtain ⟨_, rfl⟩ := gate led
    exact ⟨.of_open vault rfl fun _ => .inr rfl, rfl⟩
  | unlocked entries =>
    obtain ⟨_, rfl⟩ := gate led
    exact ⟨.of_open vault rfl fun secret => absurd rfl secret, rfl⟩
  | createFailed message =>
    obtain ⟨place, rfl⟩ := gate led
    exact ⟨safe.of_shown rfl, place⟩
  | unlockFailed message =>
    obtain ⟨place, rfl⟩ := gate led
    exact ⟨safe.of_shown rfl, place⟩
  | locked =>
    cases led
    exact ⟨⟨fun _ => rfl, fun _ => rfl, fun _ => rfl, fun _ => rfl, fun _ => rfl,
      fun out => absurd rfl out, fun secret => absurd rfl secret⟩, rfl⟩
  | entries entries =>
    obtain ⟨out, rfl⟩ := within rfl
    exact ⟨.of_open out (safe.master out) fun secret => absurd rfl secret, decide_eq_true out⟩
  | revealed field value =>
    obtain ⟨out, rfl⟩ := within rfl
    exact ⟨.of_open out (safe.master out) fun _ =>
      .inl (List.mem_append_right _ (List.mem_singleton.mpr rfl)), decide_eq_true out⟩
  | copied cookie =>
    obtain ⟨out, rfl⟩ := within rfl
    exact ⟨.of_open out (safe.master out) fun secret =>
      (safe.hides secret).imp_left (List.mem_append_left _), decide_eq_true out⟩
  | totpChecked valid =>
    obtain ⟨out, rfl⟩ := within rfl
    cases valid with
    | true =>
      exact ⟨.of_open out (safe.master out) fun secret => absurd rfl secret, decide_eq_true out⟩
    | false => exact ⟨safe.of_shown rfl, decide_eq_true out⟩
  | generated password =>
    obtain ⟨out, rfl⟩ := within rfl
    exact ⟨safe.of_shown rfl, decide_eq_true out⟩
  | recoveryExported file =>
    obtain ⟨out, rfl⟩ := within rfl
    exact ⟨safe.of_shown rfl, decide_eq_true out⟩
  | recoveryExportFailed message =>
    obtain ⟨out, rfl⟩ := within rfl
    exact ⟨safe.of_shown rfl, decide_eq_true out⟩
  | error message =>
    obtain ⟨out, rfl⟩ := within rfl
    exact ⟨safe.of_shown rfl, decide_eq_true out⟩

/-- A timer that fires keeps the window safe, and neither opens nor leaves the gate. -/
theorem Safe.fire (safe : window.Safe) {index : Nat} {timer : Timer}
    (armed : window.timers[index]? = some timer) :
    (Window.fire { window with timers := window.timers.eraseIdx index } timer).Safe ∧
      (Window.fire { window with timers := window.timers.eraseIdx index } timer).isOpen =
        window.isOpen := by
  cases timer with
  | hideReveal =>
    exact ⟨⟨safe.entries, safe.selected, fun _ => rfl, safe.confirmBox, safe.actions, safe.master,
      fun secret => absurd rfl secret⟩, rfl⟩
  | clearClipboard cookie =>
    refine ⟨⟨safe.entries, safe.selected, safe.reveal, safe.confirmBox, safe.actions, safe.master,
      fun secret => (safe.hides secret).imp_left fun pending => ?_⟩, rfl⟩
    obtain ⟨other, found⟩ := List.mem_iff_getElem?.mp pending
    refine List.mem_eraseIdx_iff_getElem?.mpr ⟨other, fun same => ?_, found⟩
    rw [same, armed] at found
    cases found

end Window

namespace Desktop

variable {δ κ : Type} [Platform δ] [Clipboard κ] [Crates]

omit [Platform δ] [Clipboard κ] [Crates] in
/-- The window is safe, and the responses on their way lead from its page to the worker's loop. -/
structure Gated (desktop : Desktop δ κ) : Prop where
  /-- The window is safe. -/
  safe : desktop.window.Safe
  /-- The responses lead to the worker's loop. -/
  leads : ∃ ended, desktop.responses.foldlM leads desktop.window.isOpen = some ended ∧
    Arrives desktop.worker ended

omit [Platform δ] [Clipboard κ] [Crates] in
/-- A poll handles the next response, or nothing but the status line changes. -/
theorem poll_cases (desktop : Desktop δ κ) (vaultExists : Bool) :
    (∃ response later, desktop.responses = response :: later ∧
      desktop.poll vaultExists =
        ⟨desktop.window.handleResponse vaultExists response, desktop.worker, later⟩) ∨
      desktop.responses = [] ∧
        (desktop.poll vaultExists = desktop ∨
          desktop.poll vaultExists = ⟨desktop.window.reportStopped, desktop.worker, []⟩) := by
  rcases desktop with ⟨window, worker, responses⟩
  cases responses with
  | cons response later => exact .inl ⟨response, later, rfl, rfl⟩
  | nil =>
    refine .inr ⟨rfl, ?_⟩
    rcases worker with ⟨world, clipboard, factOverwrite, phase⟩
    cases phase with
    | stopped =>
      cases polling : window.polling with
      | true =>
        right
        simp only [poll, polling, if_true]
      | false =>
        left
        simp only [poll, polling, Bool.false_eq_true, if_false]
    | locked => exact .inl rfl
    | unlocked app liveCookie => exact .inl rfl

/-- Every step keeps the window safe. -/
theorem Gated.step {desktop : Desktop δ κ} (gated : desktop.Gated) (occurrence : Occurrence) :
    (desktop.step occurrence).Gated := by
  obtain ⟨safe, ended, led, arrives⟩ := gated
  cases occurrence with
  | user action =>
    obtain ⟨kept, same⟩ := safe.act action
    refine ⟨kept, ended, ?_, arrives⟩
    change desktop.responses.foldlM Gtk.leads (desktop.window.act action).isOpen = some ended
    rw [same]
    exact led
  | work =>
    obtain ⟨last, later, arrived⟩ := step_leads desktop.worker desktop.wakeUp arrives
    refine ⟨safe.of_shown rfl, last, ?_, arrived⟩
    change (desktop.responses ++ (desktop.worker.step desktop.wakeUp).1).foldlM Gtk.leads
      desktop.window.isOpen = some last
    rw [List.foldlM_append, led]
    exact later
  | poll vaultExists =>
    rw [Desktop.step]
    rcases desktop.poll_cases vaultExists with
      ⟨response, later, same, polled⟩ | ⟨same, polled | polled⟩
    · rw [same, List.foldlM_cons] at led
      cases first : Gtk.leads desktop.window.isOpen response with
      | none =>
        rw [first] at led
        cases led
      | some opened =>
        rw [first] at led
        obtain ⟨kept, place⟩ := safe.handleResponse vaultExists first
        rw [polled]
        refine ⟨kept, ended, ?_, arrives⟩
        change later.foldlM Gtk.leads
          (desktop.window.handleResponse vaultExists response).isOpen = _
        rw [place]
        exact led
    · rw [polled]
      exact ⟨safe, ended, led, arrives⟩
    · rw [polled]
      rw [same] at led
      exact ⟨safe.of_shown rfl, ended, led, arrives⟩
  | fire index =>
    rw [Desktop.step, Desktop.fire]
    cases armed : desktop.window.timers[index]? with
    | none => exact ⟨safe, ended, led, arrives⟩
    | some timer =>
      obtain ⟨kept, same⟩ := safe.fire armed
      refine ⟨kept, ended, ?_, arrives⟩
      change desktop.responses.foldlM Gtk.leads (Window.isOpen _) = some ended
      rw [same]
      exact led

omit [Platform δ] [Clipboard κ] [Crates] in
/-- The program starts with a safe window. -/
theorem gated_start (world : World δ) (clipboard : Option κ) (factOverwrite vaultExists : Bool) :
    (Desktop.start world clipboard factOverwrite vaultExists).Gated :=
  ⟨⟨fun _ => rfl, fun _ => rfl, fun _ => rfl, fun _ => rfl, fun _ => rfl,
    fun out => absurd rfl out, fun secret => absurd rfl secret⟩, false, rfl, fun _ => rfl⟩

/-- Whatever the order of the user's actions, the worker's wake-ups, the responses and the timers,
the gate shows nothing of a vault, and every secret that is shown is going to be hidden. -/
theorem secrets_stay_behind_the_gate (world : World δ) (clipboard : Option κ)
    (factOverwrite vaultExists : Bool) (occurrences : List Occurrence) :
    (run Desktop.step (Desktop.start world clipboard factOverwrite vaultExists)
      occurrences).window.Safe :=
  (run_keeps (fun _ occurrence gated => gated.step occurrence)
    (gated_start world clipboard factOverwrite vaultExists) occurrences).safe

end Desktop

end Passman.Gtk
