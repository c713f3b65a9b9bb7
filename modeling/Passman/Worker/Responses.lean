import Passman.Reference.Device

/-!
# One response for each request

What each wake-up of the worker sends. Every arm of the two loops answers once, with
one exception: a creation or an unlock that reaches the unlocked loop is dropped
without an answer.
-/
namespace Passman

open Fallible Transition

/-- Whether a request is fire-and-forget. -/
def Request.isSilent : Request → Bool
  | .clearClipboard _ => true
  | .quit => true
  | _ => false

/-- Whether a request opens a session. -/
def Request.opensSession : Request → Bool
  | .create _ _ => true
  | .unlock _ _ => true
  | _ => false

/-- Whether the worker is in the unlocked loop. -/
def Phase.isUnlocked : Phase → Bool
  | .unlocked _ _ => true
  | _ => false

/-- Whether the worker takes requests. -/
def Phase.isRunning : Phase → Bool
  | .stopped => false
  | _ => true

section Answers

variable {δ κ : Type} [Platform δ]

/-- Whether an idle tick finds an unlocked session expired. -/
def Worker.foundExpired (worker : Worker δ κ) : Bool :=
  match worker.phase with
  | .unlocked app liveCookie => ((worker.live app liveCookie).inspect isExpired).1
  | _ => false

variable [Clipboard κ] [Crates]

/-- What a wake-up has to send: one response for a request, none for a fire-and-forget request,
one locked response for an idle tick that finds the session expired, and nothing else. -/
def Worker.Answers (worker : Worker δ κ) : Event → Prop
  | .taken request => worker.phase.isRunning = true →
      (worker.step (.taken request)).1.length = if request.isSilent then 0 else 1
  | .timeout => (worker.step .timeout).1 = if worker.foundExpired then [.locked] else []
  | .disconnected => (worker.step .disconnected).1 = []

omit [Platform δ] [Clipboard κ] [Crates] in
/-- Whether a request that opens a session is taken in the unlocked loop. -/
def Worker.takesStray (worker : Worker δ κ) : Event → Bool
  | .taken request => worker.phase.isUnlocked && request.opensSession
  | _ => false

omit [Crates] in
/-- Following an answered operation sends exactly one response. -/
theorem follow_answer_length {α : Type} (worker : Worker δ κ) (respond : α → Response)
    (outcome : Except CoreError α) (live : Live δ κ) :
    (worker.follow (answer respond outcome).1 (answer respond outcome).2 live).1.length = 1 := by
  cases outcome with
  | ok value => rfl
  | error error => cases error <;> rfl

omit [Crates] in
/-- Serving an operation sends exactly one response. -/
theorem follow_serve_length {α : Type} (worker : Worker δ κ) (live : Live δ κ)
    (operation : SessionAct δ CoreError α) (respond : α → Response) :
    (worker.follow (live.serve operation respond).1.1 (live.serve operation respond).1.2
      (live.serve operation respond).2).1.length = 1 :=
  follow_answer_length worker respond (live.perform operation).1 (live.perform operation).2

omit [Clipboard κ] in
/-- The locked loop answers every request but the fire-and-forget ones once. -/
theorem handleLocked_length (worker : Worker δ κ) (request : Request) :
    (worker.handleLocked request).1.length = if request.isSilent then 0 else 1 := by
  cases request with
  | create master kdf =>
    rw [Worker.handleLocked]
    rcases createVault master kdf .default worker.world with ⟨outcome, world⟩
    cases outcome <;> rfl
  | unlock master code =>
    rw [Worker.handleLocked]
    rcases unlock master (trim code) worker.world with ⟨outcome, world⟩
    cases outcome <;> rfl
  | _ => rfl

/-- The unlocked loop answers every request once, but the fire-and-forget ones and those that
open a session. -/
theorem handleUnlocked_length (worker : Worker δ κ) (live : Live δ κ) (request : Request) :
    (worker.follow (live.handleUnlocked worker.factOverwrite request).1.1
      (live.handleUnlocked worker.factOverwrite request).1.2
      (live.handleUnlocked worker.factOverwrite request).2).1.length =
        if request.isSilent || request.opensSession then 0 else 1 := by
  cases request with
  | refresh => exact follow_serve_length _ _ _ _
  | reveal id field => exact follow_serve_length _ _ _ _
  | generate length => exact follow_serve_length _ _ _ _
  | add label username password url notes => exact follow_serve_length _ _ _ _
  | remove id => exact follow_serve_length _ _ _ _
  | copy id field =>
    rw [Live.handleUnlocked, Live.copy]
    cases live.clipboard with
    | none => rfl
    | some clipboard => exact follow_answer_length _ _ _ _
  | exportRecovery master code preset =>
    rw [Live.handleUnlocked]
    rcases live.perform (exportRecovery master (trim code) preset) with ⟨outcome, after⟩
    cases outcome with
    | ok file => rfl
    | error error => cases error <;> rfl
  | _ => rfl

/-- A wake-up sends what it has to exactly when it does not take a stray request. -/
theorem Worker.answers_iff (worker : Worker δ κ) (event : Event) :
    worker.Answers event ↔ ¬ worker.takesStray event = true := by
  rcases worker with ⟨world, clipboard, factOverwrite, phase⟩
  cases phase with
  | stopped => cases event <;> simp [Answers, step, foundExpired, takesStray, Phase.isRunning,
      Phase.isUnlocked]
  | locked =>
    cases event with
    | taken request =>
      have once := handleLocked_length ⟨world, clipboard, factOverwrite, .locked⟩ request
      simpa [Answers, step, takesStray, Phase.isRunning, Phase.isUnlocked] using once
    | timeout => simp [Answers, step, foundExpired, takesStray]
    | disconnected => simp [Answers, step, takesStray]
  | unlocked app liveCookie =>
    let worker : Worker δ κ := ⟨world, clipboard, factOverwrite, .unlocked app liveCookie⟩
    cases event with
    | taken request =>
      have sent := handleUnlocked_length worker (worker.live app liveCookie) request
      rw [Answers, step_taken worker rfl, sent]
      cases request <;> simp [Request.isSilent, Request.opensSession, takesStray, Phase.isRunning,
        Phase.isUnlocked]
    | timeout =>
      refine iff_of_true ?_ (by simp [takesStray])
      rw [Answers, step_timeout worker rfl]
      change (worker.follow (if worker.foundExpired then .lock else .continue) [] _).1 =
        if worker.foundExpired then [.locked] else []
      cases worker.foundExpired <;> rfl
    | disconnected => exact iff_of_true rfl (by simp [takesStray])

/-- A clear sends nothing and leaves the worker in its loop. -/
theorem Worker.step_clear (worker : Worker δ κ) (cookie : ClipboardCookie) :
    (worker.step (.taken (.clearClipboard cookie))).1 = [] ∧
      (worker.next (.taken (.clearClipboard cookie))).phase.isUnlocked =
        worker.phase.isUnlocked := by
  rw [next]
  cases phase : worker.phase with
  | stopped => simp [step, phase]
  | locked => simp [step, phase, handleLocked]
  | unlocked app liveCookie =>
    rw [step_taken _ phase]
    exact ⟨rfl, rfl⟩

omit [Platform δ] [Clipboard κ] [Crates] in
/-- Answering never stops the worker. -/
theorem answer_flow {α : Type} (respond : α → Response) (outcome : Except CoreError α) :
    (answer respond outcome).1 ≠ .quit := by
  cases outcome with
  | ok value => simp [answer]
  | error error => cases error <;> simp [answer, onOpError]

/-- Only a quit stops the unlocked loop. -/
theorem handleUnlocked_flow (live : Live δ κ) (factOverwrite : Bool) (request : Request)
    (stays : request ≠ .quit) : (live.handleUnlocked factOverwrite request).1.1 ≠ .quit := by
  cases request with
  | quit => exact absurd rfl stays
  | refresh => exact answer_flow _ _
  | reveal id field => exact answer_flow _ _
  | generate length => exact answer_flow _ _
  | add label username password url notes => exact answer_flow _ _
  | remove id => exact answer_flow _ _
  | copy id field =>
    rw [Live.handleUnlocked, Live.copy]
    cases live.clipboard with
    | none => simp
    | some clipboard => exact answer_flow _ _
  | exportRecovery master code preset =>
    rw [Live.handleUnlocked]
    rcases live.perform (exportRecovery master (trim code) preset) with ⟨outcome, after⟩
    cases outcome with
    | ok file => simp
    | error error => cases error <;> simp
  | _ => simp [Live.handleUnlocked]

omit [Crates] in
/-- Following any flow but quit leaves the worker running. -/
theorem follow_running (worker : Worker δ κ) {flow : Flow} (responses : List Response)
    (live : Live δ κ) (stays : flow ≠ .quit) :
    (worker.follow flow responses live).2.phase.isRunning = true := by
  cases flow with
  | «continue» => rfl
  | lock => rfl
  | quit => exact absurd rfl stays

/-- A request other than quit, and an idle tick, leave the worker running. -/
theorem Worker.next_running (worker : Worker δ κ) (running : worker.phase.isRunning = true) :
    (∀ request ≠ Request.quit, (worker.next (.taken request)).phase.isRunning = true) ∧
      (worker.next .timeout).phase.isRunning = true := by
  cases phase : worker.phase with
  | stopped =>
    rw [phase] at running
    cases running
  | locked =>
    refine ⟨fun request stays => ?_, by simp [next, step, phase, Phase.isRunning]⟩
    simp only [next, step, phase]
    cases request with
    | quit => exact absurd rfl stays
    | create master kdf =>
      simp only [handleLocked]
      rcases createVault master kdf .default worker.world with ⟨outcome, world⟩
      cases outcome <;> simp [enter, Phase.isRunning, phase]
    | unlock master code =>
      simp only [handleLocked]
      rcases unlock master (trim code) worker.world with ⟨outcome, world⟩
      cases outcome <;> simp [enter, Phase.isRunning, phase]
    | _ => simp [handleLocked, Phase.isRunning, phase]
  | unlocked app liveCookie =>
    constructor
    · intro request stays
      rw [next, step_taken _ phase]
      exact follow_running _ _ _ (handleUnlocked_flow _ _ _ stays)
    · rw [next, step_timeout _ phase]
      refine follow_running _ _ _ ?_
      split <;> simp

/-- Along every run from the locked loop, each wake-up sends exactly what it has to if and only if
no creation and no unlock is taken in the unlocked loop. -/
theorem worker_answers_once_iff (world : World δ) (clipboard : Option κ) (factOverwrite : Bool)
    (events : List Event) :
    Along Worker.next Worker.Answers (Worker.start world clipboard factOverwrite) events ↔
      Along Worker.next (fun worker event => ¬ worker.takesStray event = true)
        (Worker.start world clipboard factOverwrite) events :=
  ⟨Along.mono fun worker event => (worker.answers_iff event).mp,
    Along.mono fun worker event => (worker.answers_iff event).mpr⟩

end Answers

/-- A second creation, taken while the first one's session is open, gets no response. -/
theorem stray_creation_is_not_answered :
    letI := Reference.crates
    ¬ Along Worker.next Worker.Answers
      (Worker.start Reference.world (some Reference.clipboard) true)
      [.taken (.create "pw" Reference.kdfParams), .taken (.create "pw" Reference.kdfParams)] := by
  let _ := Reference.crates
  intro along
  have second := along.2.1 (by decide +kernel)
  exact absurd second (by decide +kernel)

end Passman
