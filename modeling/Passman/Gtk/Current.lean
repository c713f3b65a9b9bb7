import Passman.Gtk.Gate
import Passman.Worker.Books

/-!
# What an open window shows

The service behind the worker has a book, and the window shows a list of entries. The responses on
their way turn the list that is shown into the one of the book; so once they are handled, the
window shows the gate if the book is put away, and the entries of the book if it lies open.
-/
namespace Passman.Gtk

open Fallible Transition

/-- What a response makes of the list that is shown, if one is. -/
def viewAfter (view : Option (List EntryHandle)) : Response → Option (List EntryHandle)
  | .created _ entries => some entries
  | .unlocked entries => some entries
  | .entries entries => view.map fun _ => entries
  | .locked => none
  | _ => view

/-- A view is the one of a service: no list while the book is put away, and the entries of a book
that lies open. -/
def ShowsService (view : Option (List EntryHandle)) : Service → Prop
  | .locked _ => view = none
  | .serving book => ∃ handles, view = some handles ∧ book.Listed handles
  | .stopped _ => True

section Steps

variable {κ : Type} [Clipboard κ] [Crates]

/-- The responses to a request lead to a view of the book that it leaves. -/
theorem served_shows {book next : Book} {request : Request} {flow : Flow}
    {responses : List Response} (served : Served κ book request (flow, responses) next)
    {view : Option (List EntryHandle)} (shows : ShowsService view (.serving book)) :
    ShowsService ((flow.sends responses).foldl viewAfter view) (flow.leaves next) := by
  obtain ⟨handles, rfl, listed⟩ := shows
  cases served with
  | listed listed => exact ⟨_, rfl, listed⟩
  | added listed => exact ⟨_, rfl, listed⟩
  | removed listed => exact ⟨_, rfl, listed⟩
  | failed reports =>
    refine ⟨handles, ?_, listed⟩
    cases request <;> cases reports <;> rfl
  | lock => exact rfl
  | addedUnlisted => exact rfl
  | removedUnlisted => exact rfl
  | expired => exact rfl
  | quit => trivial
  | _ => exact ⟨handles, rfl, listed⟩

/-- The responses of a step of the service lead to a view of what it leaves. -/
theorem step_shows {event : Event} {responses : List Response} {service next : Service}
    (step : Service.Step κ event responses service next) {view : Option (List EntryHandle)}
    (shows : ShowsService view service) : ShowsService (responses.foldl viewAfter view) next := by
  cases step with
  | created => exact ⟨[], rfl, [], ⟨List.nodup_nil, fun _ => rfl⟩, rfl⟩
  | unlocked listed => exact ⟨_, rfl, listed⟩
  | served served => exact served_shows served shows
  | expired => exact rfl
  | closed => trivial
  | ended => trivial
  | quit => trivial
  | refused => exact rfl
  | _ => exact shows

end Steps

namespace Window

/-- The list that is shown, unless the gate is. -/
def view (window : Window) : Option (List EntryHandle) :=
  if window.isOpen then some window.ui.entries else none

/-- Neither an action of the user nor a timer changes what is shown of the list. -/
theorem view_of_same {before after : Window} (place : after.isOpen = before.isOpen)
    (entries : after.ui.entries = before.ui.entries) : after.view = before.view := by
  rw [view, view, place, entries]

/-- A response changes the view as it says. -/
theorem handleResponse_view (window : Window) (vaultExists : Bool) (response : Response) :
    (window.handleResponse vaultExists response).view = viewAfter window.view response := by
  cases response with
  | entries entries =>
    cases place : window.isOpen with
    | true =>
      have kept : (window.handleResponse vaultExists (.entries entries)).isOpen = true := place
      rw [view, kept, view, place]
      rfl
    | false =>
      have kept : (window.handleResponse vaultExists (.entries entries)).isOpen = false := place
      rw [view, kept, view, place]
      rfl
  | totpChecked valid => cases valid <;> rfl
  | _ => rfl

end Window

namespace Desktop

variable {δ κ : Type} [Platform δ] [Clipboard κ] [Crates] {passwords : String → Prop}

omit [Clipboard κ] in
/-- What a step relies on: the worker is woken up regularly. -/
def Regular (passwords : String → Prop) (desktop : Desktop δ κ) (occurrence : Occurrence) : Prop :=
  occurrence = .work → desktop.worker.Regular passwords desktop.wakeUp

omit [Clipboard κ] in
/-- The worker presents a service, and the responses on their way lead to a view of it. -/
structure Presents (passwords : String → Prop) (desktop : Desktop δ κ) (service : Service) : Prop
    extends desktop.Gated where
  /-- The worker presents the service. -/
  presents : desktop.worker.Presents passwords service
  /-- The responses lead to a view of the service. -/
  shows : ShowsService (desktop.responses.foldl viewAfter desktop.window.view) service

omit [Clipboard κ] in
/-- A gated program presents a service if its worker does and its responses lead to a view of it. -/
theorem Presents.of_parts {desktop : Desktop δ κ} {service : Service} (gated : desktop.Gated)
    (parts : desktop.worker.Presents passwords service ∧
      ShowsService (desktop.responses.foldl viewAfter desktop.window.view) service) :
    desktop.Presents passwords service := ⟨gated, parts.1, parts.2⟩

/-- Every regular step keeps the worker's service in view. -/
theorem Presents.step (aead : AeadLaws) (laws : PostcardLaws) (policies : PolicyLaws)
    (strict : StrictLaws) (fits : IndexFits .current []) {desktop : Desktop δ κ}
    {service : Service} (presents : desktop.Presents passwords service) (occurrence : Occurrence)
    (regular : desktop.Regular passwords occurrence) :
    ∃ next, (desktop.step occurrence).Presents passwords next := by
  have gated := presents.toGated.step occurrence
  obtain ⟨⟨safe, _⟩, presents, shows⟩ := presents
  cases occurrence with
  | user action =>
    refine ⟨service, gated, presents, ?_⟩
    change ShowsService (desktop.responses.foldl viewAfter (desktop.window.act action).view) service
    rw [Window.view_of_same (safe.act action).2 (desktop.window.act_leaves action).entries]
    exact shows
  | work =>
    obtain ⟨next, stepped, presented⟩ := Worker.step_steps aead laws policies strict fits
      desktop.worker desktop.wakeUp service presents (regular rfl)
    refine ⟨next, gated, presented, ?_⟩
    change ShowsService ((desktop.responses ++ (desktop.worker.step desktop.wakeUp).1).foldl
      viewAfter desktop.window.view) next
    rw [List.foldl_append]
    exact step_shows stepped shows
  | poll vaultExists =>
    refine ⟨service, .of_parts gated ?_⟩
    rw [Desktop.step]
    rcases desktop.poll_cases vaultExists with
      ⟨response, later, same, polled⟩ | ⟨same, polled | polled⟩
    · rw [polled]
      refine ⟨presents, ?_⟩
      dsimp only
      rw [Window.handleResponse_view]
      rwa [same] at shows
    · rw [polled]
      exact ⟨presents, shows⟩
    · rw [polled]
      rw [same] at shows
      exact ⟨presents, shows⟩
  | fire index =>
    refine ⟨service, .of_parts gated ?_⟩
    rw [Desktop.step, Desktop.fire]
    cases armed : desktop.window.timers[index]? with
    | none => exact ⟨presents, shows⟩
    | some timer =>
      refine ⟨presents, ?_⟩
      dsimp only
      rw [Window.view_of_same (safe.fire armed).2 (by cases timer <;> rfl)]
      exact shows

/-- In every regular run of the program, once no response is on its way, the window shows the gate
if the book behind the worker is put away, and the entries of the book if it lies open. -/
theorem window_shows_the_book (aead : AeadLaws) (laws : PostcardLaws) (policies : PolicyLaws)
    (strict : StrictLaws) (fits : IndexFits .current []) {world : World δ} {held : Option Book}
    (shown : world.Shows passwords held) (clipboard : Option κ) (factOverwrite vaultExists : Bool)
    (occurrences : List Occurrence)
    (regular : Along Desktop.step (Desktop.Regular passwords)
      (Desktop.start world clipboard factOverwrite vaultExists) occurrences) :
    let ended := run Desktop.step (Desktop.start world clipboard factOverwrite vaultExists)
      occurrences
    ∃ service, ended.worker.Presents passwords service ∧ (ended.responses = [] →
      (∀ held, service = .locked held → ended.window.ui.page = .unlock) ∧
        ∀ book, service = .serving book → ended.window.ui.page ≠ .unlock ∧
          book.Listed ended.window.ui.entries) := by
  have started : (Desktop.start world clipboard factOverwrite vaultExists).Presents passwords
      (.locked held) :=
    ⟨gated_start world clipboard factOverwrite vaultExists, ⟨rfl, shown⟩, rfl⟩
  have kept (desktop : Desktop δ κ) (occurrence : Occurrence)
      (held : ∃ service, desktop.Presents passwords service)
      (allowed : desktop.Regular passwords occurrence) :
      ∃ service, (desktop.step occurrence).Presents passwords service := by
    obtain ⟨service, presents⟩ := held
    exact presents.step aead laws policies strict fits occurrence allowed
  obtain ⟨service, _, presents, shows⟩ := run_invariant kept ⟨_, started⟩ regular
  refine ⟨service, presents, fun settled => ?_⟩
  rw [settled, List.foldl_nil, Window.view] at shows
  constructor
  · rintro held rfl
    by_contra out
    rw [Window.isOpen, decide_eq_true out] at shows
    cases shows
  · rintro book rfl
    obtain ⟨handles, same, listed⟩ := shows
    split_ifs at same with place
    obtain rfl := Option.some.inj same
    exact ⟨of_decide_eq_true place, listed⟩

end Desktop

end Passman.Gtk

namespace Passman.Reference

open Gtk Transition

/-- The user creates a vault and adds an entry. -/
def opening : List Occurrence :=
  [.user (.typeMaster "pw" .weak), .user (.typeConfirm "pw"), .user (.create .weak), .work,
    .poll true, .user .openAdd, .user (.editAdd "mail" "ann" "secret" "" ""), .user .save, .work,
    .poll true]

/-- The program after the first of these steps. -/
@[irreducible] def openedDesktop (count : Nat) : Desktop Device (TextClipboard textDigest) :=
  letI := crates
  run Desktop.step (.start world (some clipboard) true false) (opening.take count)

/-- The program under its name. -/
theorem openedDesktop_run (count : Nat) : @run _ _ (@Desktop.step Device _ _ _ crates)
    (.start world (some clipboard) true false) (opening.take count) = openedDesktop count := by
  unfold openedDesktop
  rfl

/-- The steps of the example are regular. -/
theorem opening_regular : letI := crates
    Along Desktop.step (Desktop.Regular (· = "pw")) (.start world (some clipboard) true false)
      opening := by
  let _ := crates
  have quiet (desktop : Desktop Device (TextClipboard textDigest)) {occurrence : Occurrence}
      (other : occurrence ≠ .work) : desktop.Regular (· = "pw") occurrence :=
    fun same => absurd same other
  have asked (desktop : Desktop Device (TextClipboard textDigest)) {request : Request}
      (taken : desktop.wakeUp = .taken request)
      (uses : ∀ password, request.password = some password → password = "pw")
      (other : ∀ master code, request ≠ .unlock master code) :
      desktop.Regular (· = "pw") .work := by
    intro _
    rw [taken]
    refine regular_plain ?_ (fun _ _ same => other _ _ (Event.taken.inj same)) _
    rintro _ password ⟨⟩ carried
    exact uses password carried
  rw [← List.take_append_drop 8 opening, along_append, openedDesktop_run 8]
  refine ⟨⟨quiet _ (by simp), quiet _ (by simp), quiet _ (by simp), asked _ rfl ?_ (by simp),
    quiet _ (by simp), quiet _ (by simp), quiet _ (by simp), quiet _ (by simp), trivial⟩,
    asked _ (show _ = Event.taken (.add "mail" "ann" "secret" "" "") by decide +kernel) ?_
      (by simp), quiet _ (by simp), trivial⟩
  · rintro _ ⟨⟩
    rfl
  · rintro _ ⟨⟩

end Passman.Reference

namespace Passman.Gtk

/-- The window of the example lists the book with its entry. -/
theorem window_shows_the_book_opening :
    letI := Reference.crates
    ∃ book, (Reference.openedDesktop 10).worker.Presents (· = "pw") (.serving book) ∧
      book.Listed (Reference.openedDesktop 10).window.ui.entries ∧
      (Reference.openedDesktop 10).window.ui.entries.map EntryHandle.label = ["mail"] := by
  let _ := Reference.crates
  have reached := Desktop.window_shows_the_book Reference.aeadLaws Reference.postcardLaws
    Reference.policyLaws Reference.strictLaws Reference.emptyIndex_fits
    (show Reference.world.Shows (· = "pw") none from rfl) (some Reference.clipboard) true false
    Reference.opening Reference.opening_regular
  have same := Reference.openedDesktop_run 10
  rw [show Reference.opening.take 10 = Reference.opening from rfl] at same
  rw [same] at reached
  obtain ⟨service, presents, settled⟩ := reached
  have opened : (Reference.openedDesktop 10).worker.phase.isUnlocked = true := by decide +kernel
  obtain ⟨_, shows⟩ := settled (by decide +kernel)
  obtain ⟨book, rfl⟩ := presents.serving opened
  exact ⟨book, presents, (shows book rfl).2, by decide +kernel⟩

end Passman.Gtk
