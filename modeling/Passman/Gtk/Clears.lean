import Passman.Gtk.Ui
import Passman.Worker.Wipe

/-!
# Copied secrets are going to be cleared

A copied secret is cleared by a request that the window sends when a timer fires, and the timer is
armed by the response to the copy. In between, the cookie of the copy is on its way as a response,
a timer or a request, and whatever interleaves, it does not get lost: only its own clear takes it
from the queue. Leaving the session wipes the clipboard by the cookie the worker remembers, so at
that point that cookie must be the one of the copied value.
-/
namespace Passman.Gtk

open Bytewise Fallible Transition

variable {digest : String → Block 32} {δ : Type} [Platform δ]

/-- The clipboard holds the text whose digest is in the cookie, if there is a clipboard. -/
def Identifies (clipboard : Option (TextClipboard digest)) (cookie : ClipboardCookie) : Prop :=
  ∀ held ∈ clipboard, held.text.map digest = some cookie.digest

section Requests

variable [Crates]

/-- A request leaves the clipboard and the cookie, or it is a clear, or it is a copy whose cookie
is sent. -/
theorem handleUnlocked_clipboard (live : Live δ (TextClipboard digest)) (request : Request) :
    let handled := live.handleUnlocked true request
    (handled.2.clipboard = live.clipboard ∧ handled.2.liveCookie = live.liveCookie ∧
        ∀ cookie, request ≠ .clearClipboard cookie) ∨
      (∃ cookie, request = .clearClipboard cookie ∧ handled.1.1 = .continue ∧
        handled.2.clipboard = (live.clear true cookie).clipboard) ∨
      ∃ cookie, handled.1 = (.continue, [.copied cookie]) ∧
        Identifies handled.2.clipboard cookie := by
  intro handled
  cases request with
  | copy id field =>
    rcases live with ⟨world, app, clipboard, liveCookie⟩
    cases clipboard with
    | none => exact .inl ⟨rfl, rfl, fun _ clash => (by cases clash)⟩
    | some held =>
      rcases ran : copyToClipboard id field ((world, app), held) with
        ⟨outcome, ⟨newWorld, newApp⟩, left⟩
      have copied : handled = ((answer .copied outcome),
          ⟨newWorld, newApp, some left, outcome.toOption.or liveCookie⟩) := by
        simp only [handled, Live.handleUnlocked, Live.copy, ran]
      rw [copied]
      rcases copyToClipboard_cases ran with ⟨value, cookie, rfl, same, rfl⟩ | ⟨error, rfl, rfl⟩
      · refine .inr (.inr ⟨cookie, rfl, ?_⟩)
        rintro other ⟨⟩
        exact congrArg some same.symm
      · exact .inl ⟨rfl, rfl, fun _ clash => (by cases clash)⟩
  | clearClipboard cookie => exact .inr (.inl ⟨cookie, rfl, rfl, rfl⟩)
  | exportRecovery master code preset =>
    refine .inl ?_
    simp only [handled, Live.handleUnlocked]
    rcases ran : live.perform (exportRecovery master (trim code) preset) with ⟨outcome, after⟩
    obtain ⟨clipboard, cookie⟩ := live.perform_keeps ran
    rcases outcome with error | file
    · cases error <;> exact ⟨clipboard, cookie, fun _ clash => (by cases clash)⟩
    · exact ⟨clipboard, cookie, fun _ clash => (by cases clash)⟩
  | verifyTotp code =>
    refine .inl ?_
    simp only [handled, Live.handleUnlocked, Live.inspect]
    exact ⟨trivial, trivial, fun _ clash => (by cases clash)⟩
  | _ => exact .inl ⟨rfl, rfl, fun _ clash => (by cases clash)⟩

omit [Crates] in
/-- Following a flow stays in the unlocked loop with the clipboard as it is, or leaves it without a
copy if the cookie covers it. -/
theorem follow_clipboard (worker : Worker δ (TextClipboard digest))
    (overwrites : worker.factOverwrite = true) (flow : Flow) (responses : List Response)
    (live : Live δ (TextClipboard digest))
    (covered : (worker.follow flow responses live).2.phase.isUnlocked = false →
      TextClipboard.Covers live.clipboard live.liveCookie) :
    ((worker.follow flow responses live).2.phase.isUnlocked = true ∧
        (worker.follow flow responses live).2.clipboard = live.clipboard) ∨
      TextClipboard.holdsCopy (worker.follow flow responses live).2.clipboard = false := by
  cases flow with
  | «continue» => exact .inl ⟨rfl, rfl⟩
  | lock | quit =>
    have wiped := live.wipe_holdsCopy (covered rfl)
    rw [← overwrites] at wiped
    exact .inr wiped

omit [Crates] in
/-- A clear leaves the clipboard and is for another text, or there is no copy behind it. -/
theorem clear_clipboard_cases (live : Live δ (TextClipboard digest)) (cookie : ClipboardCookie) :
    ((live.clear true cookie).clipboard = live.clipboard ∧ ¬ Identifies live.clipboard cookie) ∨
      TextClipboard.holdsCopy (live.clear true cookie).clipboard = false := by
  obtain ⟨fact, cleared⟩ := live.clear_clipboard cookie
  rw [cleared]
  cases present : live.clipboard with
  | none => exact .inr rfl
  | some held =>
    rw [Option.map_some]
    by_cases same : held.text.map digest = some cookie.digest
    · rw [if_pos same]
      exact .inr rfl
    · rw [if_neg same]
      exact .inl ⟨rfl, fun identifies => same (identifies held rfl)⟩

/-- What a wake-up in the unlocked loop does to the clipboard: it is left, and a clear that was
taken is for another text; or it holds a text whose cookie is sent; or it holds no copy. A session
is only left with a cookie that covers the clipboard. -/
theorem step_clipboard {worker : Worker δ (TextClipboard digest)} {app : UnlockedApp}
    {liveCookie : Option ClipboardCookie} (unlocked : worker.phase = .unlocked app liveCookie)
    (overwrites : worker.factOverwrite = true) (event : Event)
    (covered : (worker.next event).phase.isUnlocked = false →
      TextClipboard.Covers worker.clipboard liveCookie) :
    ((worker.next event).phase.isUnlocked = true ∧
        (worker.next event).clipboard = worker.clipboard ∧
        ∀ cookie, event = .taken (.clearClipboard cookie) →
          ¬ Identifies worker.clipboard cookie) ∨
      ((worker.next event).phase.isUnlocked = true ∧ ∃ cookie,
        .copied cookie ∈ (worker.step event).1 ∧
          Identifies (worker.next event).clipboard cookie) ∨
      TextClipboard.holdsCopy (worker.next event).clipboard = false := by
  rw [Worker.next] at covered ⊢
  cases event with
  | taken request =>
    have handling := handleUnlocked_clipboard (worker.live app liveCookie) request
    rw [Worker.step_taken _ unlocked, overwrites] at covered ⊢
    rcases ran : (worker.live app liveCookie).handleUnlocked true request with
      ⟨⟨flow, responses⟩, after⟩
    rw [ran] at handling covered
    dsimp only at handling covered ⊢
    rcases handling with
      ⟨clipboard, cookie, other⟩ | ⟨cookie, rfl, rfl, cleared⟩ | ⟨cookie, sent, identifies⟩
    · have followed := follow_clipboard worker overwrites flow responses after fun left => by
        rw [clipboard, cookie]
        exact covered left
      rcases followed with ⟨stays, same⟩ | clean
      · refine .inl ⟨stays, same.trans clipboard, fun cookie clash => ?_⟩
        exact absurd (Event.taken.inj clash) (other cookie)
      · exact .inr (.inr clean)
    · rcases clear_clipboard_cases (worker.live app liveCookie) cookie with ⟨same, another⟩ | clean
      · refine .inl ⟨rfl, cleared.trans same, ?_⟩
        rintro _ ⟨⟩
        exact another
      · refine .inr (.inr ?_)
        rw [← cleared] at clean
        exact clean
    · obtain ⟨rfl, rfl⟩ := Prod.mk.inj sent
      exact .inr (.inl ⟨rfl, cookie, List.mem_singleton.mpr rfl, identifies⟩)
  | timeout =>
    rw [Worker.step_timeout _ unlocked] at covered ⊢
    rcases follow_clipboard worker overwrites _ [] _ covered with ⟨stays, same⟩ | clean
    · exact .inl ⟨stays, same, fun _ clash => (by cases clash)⟩
    · exact .inr (.inr clean)
  | disconnected =>
    rw [Worker.step_disconnected _ unlocked] at covered ⊢
    rcases follow_clipboard worker overwrites _ [] _ covered with ⟨stays, same⟩ | clean
    · exact .inl ⟨stays, same, fun _ clash => (by cases clash)⟩
    · exact .inr (.inr clean)

/-- Outside the unlocked loop the clipboard is left. -/
theorem step_clipboard_outside (worker : Worker δ (TextClipboard digest)) (event : Event)
    (outside : worker.phase.isUnlocked = false) :
    (worker.next event).clipboard = worker.clipboard := by
  rw [Worker.next]
  cases phase : worker.phase with
  | unlocked app liveCookie =>
    rw [phase] at outside
    cases outside
  | stopped => simp only [Worker.step, phase]
  | locked =>
    simp only [Worker.step, phase]
    cases event with
    | taken request =>
      cases request with
      | create master kdf =>
        simp only [Worker.handleLocked]
        rcases createVault master kdf .default worker.world with ⟨outcome, after⟩
        cases outcome <;> rfl
      | unlock master code =>
        simp only [Worker.handleLocked]
        rcases unlock master (trim code) worker.world with ⟨outcome, after⟩
        cases outcome <;> rfl
      | _ => rfl
    | timeout => rfl
    | disconnected => rfl

end Requests

namespace Window

/-- A response disarms no timer, takes no request back, and arms the timer of a copy. -/
theorem handleResponse_queues (window : Window) (vaultExists : Bool) (response : Response) :
    (∀ timer ∈ window.timers, timer ∈ (window.handleResponse vaultExists response).timers) ∧
      (window.handleResponse vaultExists response).requests = window.requests ∧
      ∀ cookie, response = .copied cookie →
        .clearClipboard cookie ∈ (window.handleResponse vaultExists response).timers := by
  cases response with
  | revealed field value =>
    exact ⟨fun _ => List.mem_append_left _, rfl, fun _ clash => (by cases clash)⟩
  | copied cookie =>
    refine ⟨fun _ => List.mem_append_left _, rfl, ?_⟩
    rintro _ ⟨⟩
    exact List.mem_append_right _ (List.mem_singleton.mpr rfl)
  | totpChecked valid =>
    cases valid <;> exact ⟨fun _ => id, rfl, fun _ clash => (by cases clash)⟩
  | _ => exact ⟨fun _ => id, rfl, fun _ clash => (by cases clash)⟩

end Window

namespace Desktop

/-- The cookie is on its way: to the window, in a timer, or to the worker. -/
def Pending {κ : Type} (desktop : Desktop δ κ) (cookie : ClipboardCookie) : Prop :=
  .copied cookie ∈ desktop.responses ∨ .clearClipboard cookie ∈ desktop.window.timers ∨
    .clearClipboard cookie ∈ desktop.window.requests

omit [Platform δ] in
/-- An action keeps what is on its way. -/
theorem Pending.act {κ : Type} {desktop : Desktop δ κ} {cookie : ClipboardCookie}
    (pending : desktop.Pending cookie) (action : Action) :
    Pending { desktop with window := desktop.window.act action } cookie := by
  obtain ⟨_, timers, sent, requests⟩ := desktop.window.act_leaves action
  rcases pending with sending | armed | asked
  · exact .inl sending
  · refine .inr (.inl ?_)
    rwa [timers]
  · refine .inr (.inr ?_)
    rw [requests]
    exact List.mem_append_left _ asked

omit [Platform δ] in
/-- A poll keeps what is on its way. -/
theorem Pending.poll {κ : Type} {desktop : Desktop δ κ} {cookie : ClipboardCookie}
    (pending : desktop.Pending cookie) (vaultExists : Bool) :
    (desktop.poll vaultExists).Pending cookie := by
  rcases desktop with ⟨window, worker, responses⟩
  cases responses with
  | cons response later =>
    obtain ⟨timers, requests, copied⟩ := window.handleResponse_queues vaultExists response
    rcases pending with sending | armed | asked
    · rcases List.mem_cons.mp sending with same | late
      · exact .inr (.inl (copied cookie same.symm))
      · exact .inl late
    · exact .inr (.inl (timers _ armed))
    · refine .inr (.inr ?_)
      change _ ∈ (window.handleResponse vaultExists response).requests
      rwa [requests]
  | nil =>
    rw [Desktop.poll]
    dsimp only
    split
    · split_ifs
      · exact pending
      · exact pending
    · exact pending

omit [Platform δ] in
/-- A timer that fires keeps what is on its way. -/
theorem Pending.fire {κ : Type} {desktop : Desktop δ κ} {cookie : ClipboardCookie}
    (pending : desktop.Pending cookie) (index : Nat) : (desktop.fire index).Pending cookie := by
  rw [Desktop.fire]
  cases armed : desktop.window.timers[index]? with
  | none => exact pending
  | some timer =>
    rcases pending with sending | waits | asked
    · exact .inl sending
    · by_cases same : timer = .clearClipboard cookie
      · subst same
        exact .inr (.inr (List.mem_append_right _ (List.mem_singleton.mpr rfl)))
      · obtain ⟨other, found⟩ := List.mem_iff_getElem?.mp waits
        have stays : .clearClipboard cookie ∈ desktop.window.timers.eraseIdx index := by
          refine List.mem_eraseIdx_iff_getElem?.mpr ⟨other, fun clash => same ?_, found⟩
          rw [clash, armed] at found
          exact Option.some.inj found
        cases timer <;> exact .inr (.inl stays)
    · refine .inr (.inr ?_)
      cases timer with
      | hideReveal => exact asked
      | clearClipboard cookie => exact List.mem_append_left _ asked

variable [Crates]

/-- A wake-up keeps what is on its way, except the clear that it takes. -/
theorem Pending.work {desktop : Desktop δ (TextClipboard digest)} {cookie : ClipboardCookie}
    (pending : desktop.Pending cookie) (other : desktop.wakeUp ≠ .taken (.clearClipboard cookie)) :
    (desktop.step .work).Pending cookie := by
  rcases pending with sending | armed | asked
  · exact .inl (List.mem_append_left _ sending)
  · exact .inr (.inl armed)
  · refine .inr (.inr ?_)
    change _ ∈ desktop.window.requests.tail
    rw [wakeUp] at other
    cases queue : desktop.window.requests with
    | nil =>
      rw [queue] at asked
      cases asked
    | cons request later =>
      rw [queue] at asked other
      rcases List.mem_cons.mp asked with same | late
      · exact absurd (congrArg Event.taken same.symm) other
      · exact late

omit [Crates] in
/-- Clears overwrite, no copy is on the clipboard outside the unlocked loop, and the cookie of a
copy is on its way. -/
structure Clears (desktop : Desktop δ (TextClipboard digest)) : Prop where
  /-- Clears overwrite. -/
  overwrites : desktop.worker.factOverwrite = true
  /-- No copy is on the clipboard outside the unlocked loop. -/
  outside : desktop.worker.phase.isUnlocked = false →
    TextClipboard.holdsCopy desktop.worker.clipboard = false
  /-- The cookie of a copy is on its way. -/
  pending : TextClipboard.holdsCopy desktop.worker.clipboard = true →
    ∃ cookie, Identifies desktop.worker.clipboard cookie ∧ desktop.Pending cookie

omit [Platform δ] [Crates] in
/-- A clipboard without a copy needs no clear. -/
theorem clears_of_clean {desktop : Desktop δ (TextClipboard digest)}
    (overwrites : desktop.worker.factOverwrite = true)
    (clean : TextClipboard.holdsCopy desktop.worker.clipboard = false) : desktop.Clears := by
  refine ⟨overwrites, fun _ => clean, fun copy => ?_⟩
  rw [clean] at copy
  cases copy

/-- What can happen around the program. -/
inductive Happening where
  /-- The program takes a step. -/
  | program (occurrence : Occurrence)
  /-- Another program writes or empties the clipboard. -/
  | foreign (text : Option String)

/-- The program after something happened. -/
def meet (desktop : Desktop δ (TextClipboard digest)) :
    Happening → Desktop δ (TextClipboard digest)
  | .program occurrence => desktop.step occurrence
  | .foreign text => { desktop with worker := desktop.worker.desktop (.foreign text) }

/-- If the worker leaves a session, the cookie it remembers covers the clipboard. -/
def LeavesCovered (desktop : Desktop δ (TextClipboard digest)) (happening : Happening) : Prop :=
  happening = .program .work → ∀ app liveCookie,
    desktop.worker.phase = .unlocked app liveCookie →
      (desktop.worker.next desktop.wakeUp).phase.isUnlocked = false →
        TextClipboard.Covers desktop.worker.clipboard liveCookie

/-- A wake-up keeps every copy going to be cleared. -/
theorem Clears.work {desktop : Desktop δ (TextClipboard digest)} (clears : desktop.Clears)
    (covered : desktop.LeavesCovered (.program .work)) : (desktop.step .work).Clears := by
  have overwrites : (desktop.step .work).worker.factOverwrite = true :=
    (desktop.worker.desktop_factOverwrite (.worker desktop.wakeUp)).trans clears.overwrites
  have left_as_it_is (outside : desktop.worker.phase.isUnlocked = false) :
      (desktop.step .work).Clears := by
    have same := step_clipboard_outside desktop.worker desktop.wakeUp outside
    exact clears_of_clean overwrites
      ((congrArg TextClipboard.holdsCopy same).trans (clears.outside outside))
  cases phase : desktop.worker.phase with
  | locked => exact left_as_it_is (by rw [phase]; rfl)
  | stopped => exact left_as_it_is (by rw [phase]; rfl)
  | unlocked app liveCookie =>
    rcases step_clipboard phase clears.overwrites desktop.wakeUp
        (covered rfl app liveCookie phase) with
      ⟨stays, same, another⟩ | ⟨stays, cookie, sent, identifies⟩ | clean
    · refine ⟨overwrites, fun left => ?_, fun copy => ?_⟩
      · cases stays.symm.trans left
      · change TextClipboard.holdsCopy (desktop.worker.next desktop.wakeUp).clipboard = true at copy
        rw [same] at copy
        obtain ⟨cookie, identifies, pending⟩ := clears.pending copy
        refine ⟨cookie, ?_, pending.work fun taken => another cookie taken identifies⟩
        change Identifies (desktop.worker.next desktop.wakeUp).clipboard cookie
        rwa [same]
    · refine ⟨overwrites, fun left => ?_, fun _ => ⟨cookie, identifies, ?_⟩⟩
      · cases stays.symm.trans left
      · exact .inl (List.mem_append_right _ sent)
    · exact clears_of_clean overwrites clean

omit [Platform δ] [Crates] in
/-- A step that leaves the worker and keeps what is on its way keeps every copy going to be
cleared. -/
theorem Clears.of_pending {before after : Desktop δ (TextClipboard digest)} (clears : before.Clears)
    (same : after.worker = before.worker)
    (keeps : ∀ cookie, before.Pending cookie → after.Pending cookie) : after.Clears := by
  refine ⟨?_, ?_, ?_⟩
  · rw [same]
    exact clears.overwrites
  · rw [same]
    exact clears.outside
  · rw [same]
    intro copy
    obtain ⟨cookie, identifies, pending⟩ := clears.pending copy
    exact ⟨cookie, identifies, keeps cookie pending⟩

omit [Platform δ] [Crates] in
/-- A poll leaves the worker. -/
theorem poll_worker {κ : Type} (desktop : Desktop δ κ) (vaultExists : Bool) :
    (desktop.poll vaultExists).worker = desktop.worker := by
  rw [poll]
  split
  · rfl
  · split
    · split_ifs <;> rfl
    · rfl

/-- Whatever happens keeps every copy going to be cleared, if sessions are left covered. -/
theorem Clears.meet {desktop : Desktop δ (TextClipboard digest)} (clears : desktop.Clears)
    (happening : Happening) (covered : desktop.LeavesCovered happening) :
    (desktop.meet happening).Clears := by
  cases happening with
  | program occurrence =>
    cases occurrence with
    | user action => exact clears.of_pending rfl fun _ pending => pending.act action
    | work => exact clears.work covered
    | poll vaultExists =>
      exact clears.of_pending (desktop.poll_worker vaultExists) fun _ pending =>
        pending.poll vaultExists
    | fire index =>
      refine clears.of_pending ?_ fun _ pending => pending.fire index
      rw [Desktop.meet, Desktop.step, Desktop.fire]
      cases desktop.window.timers[index]? <;> rfl
  | foreign text =>
    refine clears_of_clean clears.overwrites ?_
    change TextClipboard.holdsCopy (desktop.worker.clipboard.map _) = false
    cases desktop.worker.clipboard <;> rfl

end Desktop

end Passman.Gtk

namespace Passman.Reference

open Gtk Transition

end Passman.Reference

namespace Passman.Gtk

end Passman.Gtk
