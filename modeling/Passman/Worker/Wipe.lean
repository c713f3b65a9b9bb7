import Passman.Worker.Responses

/-!
# No copied secret survives the session

The clipboard here is one whose operations succeed. While a copied value is on the clipboard the
worker must hold the cookie of that very value, since the wipe on the way out goes by the cookie. A
clear forgets the cookie whatever it did, so it must not be for an older copy.
-/
namespace Passman

open Bytewise Fallible Transition

/-- What happens around a shared clipboard. -/
inductive DesktopEvent where
  /-- The worker wakes up. -/
  | worker (event : Event)
  /-- Another program writes or empties the clipboard. -/
  | foreign (text : Option String)
  deriving DecidableEq

section Wipe

variable {digest : String → Block 32} {δ : Type} [Platform δ]

/-- The clipboard holds a value the session copied. -/
def TextClipboard.holdsCopy (clipboard : Option (TextClipboard digest)) : Bool :=
  clipboard.any TextClipboard.fromCopy

/-- The cookie identifies the copied value on the clipboard, if there is one. -/
def TextClipboard.Covers (clipboard : Option (TextClipboard digest))
    (cookie : Option ClipboardCookie) : Prop :=
  ∀ held ∈ clipboard, held.fromCopy = true →
    ∃ found ∈ cookie, held.text.map digest = some found.digest

/-- Clearing by a cookie overwrites a clipboard whose digest it carries and leaves any other. -/
theorem clearClipboardImpl_clipboard {ε : Type} (cookie : ClipboardCookie) (world : World δ)
    (held : TextClipboard digest) :
    (clearClipboardImpl (ε := ε) cookie true (world, held)).2.2 =
      if held.text.map digest = some cookie.digest then
        ⟨some (factOf (Platform.randomBlock 1 world.device).1), false, held.clock⟩
      else held := by
  rcases held with ⟨text, fromCopy, clock⟩
  rw [clearClipboardImpl, Op.attempt_bind_run, Op.onSecond_run]
  simp only [Clipboard.readDigest]
  cases text with
  | none => rfl
  | some text =>
    simp only [Option.map_some, Option.some.injEq]
    by_cases same : digest text = cookie.digest
    · rw [if_neg (not_not_intro same), if_pos same]
      rfl
    · rw [if_pos same, if_neg same]
      rfl

/-- Clearing by a cookie overwrites a copied value whose digest it carries. -/
theorem Live.clear_clipboard (cookie : ClipboardCookie) (live : Live δ (TextClipboard digest)) :
    ∃ fact, (live.clear true cookie).clipboard = live.clipboard.map fun held =>
      if held.text.map digest = some cookie.digest then ⟨some fact, false, held.clock⟩
      else held := by
  rcases live with ⟨world, app, clipboard, liveCookie⟩
  refine ⟨factOf (Platform.randomBlock 1 world.device).1, ?_⟩
  cases clipboard with
  | none => rfl
  | some held =>
    exact congrArg some (clearClipboardImpl_clipboard (ε := CoreError) cookie world held)

/-- A clear for the copied value on the clipboard leaves no copied value. -/
theorem Live.clear_holdsCopy (cookie : ClipboardCookie) (live : Live δ (TextClipboard digest))
    (current : ∀ held ∈ live.clipboard, held.fromCopy = true →
      held.text.map digest = some cookie.digest) :
    TextClipboard.holdsCopy (live.clear true cookie).clipboard = false := by
  obtain ⟨fact, cleared⟩ := live.clear_clipboard cookie
  rw [cleared]
  cases present : live.clipboard with
  | none => rfl
  | some held =>
    have marked := current held present
    rw [Option.map_some, TextClipboard.holdsCopy, Option.any_some]
    split
    · rfl
    · next differs =>
      cases copied : held.fromCopy with
      | false => rfl
      | true => exact absurd (marked copied) differs

omit [Platform δ] in
/-- Without a copied value on the clipboard there is nothing to cover. -/
theorem TextClipboard.covers_of_clean {clipboard : Option (TextClipboard digest)}
    (clean : holdsCopy clipboard = false) (cookie : Option ClipboardCookie) :
    Covers clipboard cookie := by
  intro held present copied
  rw [Option.mem_def] at present
  rw [holdsCopy, present, Option.any_some, copied] at clean
  cases clean

/-- The wipe on the way out leaves no copied value that the cookie covered. -/
theorem Live.wipe_holdsCopy (live : Live δ (TextClipboard digest))
    (covered : TextClipboard.Covers live.clipboard live.liveCookie) :
    TextClipboard.holdsCopy (live.wipeClipboardOnExit true).clipboard = false := by
  rw [wipeClipboardOnExit]
  cases remembered : live.liveCookie with
  | none =>
    change TextClipboard.holdsCopy live.clipboard = false
    cases present : live.clipboard with
    | none => rfl
    | some held =>
      rw [TextClipboard.holdsCopy, Option.any_some]
      cases copied : held.fromCopy with
      | false => rfl
      | true =>
        obtain ⟨found, missing, _⟩ := covered held present copied
        rw [remembered] at missing
        cases missing
  | some cookie =>
    refine live.clear_holdsCopy cookie fun held present copied => ?_
    obtain ⟨found, same, carried⟩ := covered held present copied
    rw [remembered] at same
    obtain rfl := Option.some.inj same
    exact carried

variable [Crates]

/-- A copy either puts a value on the clipboard and returns its cookie, or fails and leaves the
clipboard. -/
theorem copyToClipboard_cases {id : EntryId} {field : RevealField}
    {before after : World δ × UnlockedApp} {held left : TextClipboard digest}
    {outcome : Except CoreError ClipboardCookie}
    (ran : copyToClipboard id field (before, held) = (outcome, after, left)) :
    (∃ value cookie, outcome = .ok cookie ∧ cookie.digest = digest value ∧
      left = ⟨some value, true, held.clock⟩) ∨ ∃ error, outcome = .error error ∧ left = held := by
  rcases Op.bind_cases ran with ⟨value, reached, revealed, rest⟩ | ⟨error, failed, rfl⟩
  · rcases reached with ⟨middle, unchanged⟩
    rw [Op.onFirst_run] at revealed
    obtain ⟨_, rfl⟩ := Prod.mk.inj (Prod.mk.inj revealed).2
    obtain ⟨rfl, same⟩ := Prod.mk.inj rest
    obtain ⟨_, rfl⟩ := Prod.mk.inj same
    exact .inl ⟨value, _, rfl, rfl, rfl⟩
  · rw [Op.onFirst_run] at failed
    obtain ⟨_, rfl⟩ := Prod.mk.inj (Prod.mk.inj failed).2
    exact .inr ⟨error, rfl, rfl⟩

/-- After a copy the cookie covers the clipboard if it did before. -/
theorem Live.copy_covers (id : EntryId) (field : RevealField)
    (live : Live δ (TextClipboard digest))
    (covered : TextClipboard.Covers live.clipboard live.liveCookie) :
    TextClipboard.Covers (live.copy id field).2.clipboard (live.copy id field).2.liveCookie := by
  rcases live with ⟨world, app, clipboard, liveCookie⟩
  cases clipboard with
  | none => exact covered
  | some held =>
    rcases ran : copyToClipboard id field ((world, app), held) with
      ⟨outcome, ⟨newWorld, newApp⟩, left⟩
    simp only [copy, ran]
    rcases copyToClipboard_cases ran with ⟨value, cookie, rfl, same, rfl⟩ | ⟨error, rfl, rfl⟩
    · intro other found _
      obtain rfl := Option.some.inj found
      exact ⟨cookie, rfl, congrArg some same.symm⟩
    · exact covered

/-- Whether a clear is for the copied value that is on the clipboard, if one is. -/
def Live.clearsCurrent (live : Live δ (TextClipboard digest)) : Request → Bool
  | .clearClipboard cookie => live.clipboard.all fun held =>
      !held.fromCopy || held.text.map digest = some cookie.digest
  | _ => true

omit [Platform δ] [Crates] in
/-- An operation of the session touches neither the clipboard nor the cookie. -/
theorem Live.perform_keeps {α ε : Type} {operation : SessionAct δ ε α}
    (live : Live δ (TextClipboard digest)) {after : Live δ (TextClipboard digest)}
    {outcome : Except ε α} (ran : live.perform operation = (outcome, after)) :
    after.clipboard = live.clipboard ∧ after.liveCookie = live.liveCookie := by
  obtain ⟨_, rfl⟩ := Prod.mk.inj ran
  exact ⟨rfl, rfl⟩

/-- Every request keeps the cookie covering the clipboard, if clears are for the current copy. -/
theorem Live.handleUnlocked_covers (request : Request) (live : Live δ (TextClipboard digest))
    (current : live.clearsCurrent request = true)
    (covered : TextClipboard.Covers live.clipboard live.liveCookie) :
    TextClipboard.Covers (live.handleUnlocked true request).2.clipboard
      (live.handleUnlocked true request).2.liveCookie := by
  cases request with
  | copy id field => exact live.copy_covers id field covered
  | clearClipboard cookie =>
    refine TextClipboard.covers_of_clean
      (live.clear_holdsCopy cookie fun held found copied => ?_) none
    rw [Option.mem_def] at found
    simpa [clearsCurrent, found, copied] using current
  | exportRecovery master code preset =>
    rw [handleUnlocked]
    rcases ran : live.perform (exportRecovery master (trim code) preset) with ⟨outcome, after⟩
    obtain ⟨clipboard, cookie⟩ := live.perform_keeps ran
    rw [← clipboard, ← cookie] at covered
    rcases outcome with error | file
    · cases error <;> exact covered
    · exact covered
  | verifyTotp code => simpa only [handleUnlocked, inspect] using covered
  | _ => exact covered

/-- The worker and the other programs on the desktop, one step at a time. -/
def Worker.desktop (worker : Worker δ (TextClipboard digest)) :
    DesktopEvent → Worker δ (TextClipboard digest)
  | .worker event => worker.next event
  | .foreign text =>
    { worker with clipboard := worker.clipboard.map fun held => ⟨text, false, held.clock⟩ }

/-- Whether a step is not a clear taken in the unlocked loop for another value than the copied one
on the clipboard. -/
def Worker.clearsCurrent (worker : Worker δ (TextClipboard digest)) : DesktopEvent → Bool
  | .worker (.taken request) =>
    match worker.phase with
    | .unlocked app liveCookie => (worker.live app liveCookie).clearsCurrent request
    | _ => true
  | _ => true

/-- In the unlocked loop the cookie covers the clipboard; outside it nothing copied is left. -/
def Worker.Covered (worker : Worker δ (TextClipboard digest)) : Prop :=
  match worker.phase with
  | .unlocked _ liveCookie => TextClipboard.Covers worker.clipboard liveCookie
  | _ => TextClipboard.holdsCopy worker.clipboard = false

omit [Crates] in
/-- Following any flow keeps the clipboard covered. -/
theorem Worker.follow_covered (worker : Worker δ (TextClipboard digest)) (flow : Flow)
    (responses : List Response) (live : Live δ (TextClipboard digest))
    (overwrites : worker.factOverwrite = true)
    (covered : TextClipboard.Covers live.clipboard live.liveCookie) :
    (worker.follow flow responses live).2.Covered := by
  have wiped := live.wipe_holdsCopy covered
  cases flow with
  | «continue» => exact covered
  | lock =>
    change TextClipboard.holdsCopy (live.wipeClipboardOnExit worker.factOverwrite).clipboard = false
    rw [overwrites, wiped]
  | quit =>
    change TextClipboard.holdsCopy (live.wipeClipboardOnExit worker.factOverwrite).clipboard = false
    rw [overwrites, wiped]

/-- The locked loop leaves a clipboard without a copied value as it is. -/
theorem Worker.handleLocked_covered (worker : Worker δ (TextClipboard digest)) (request : Request)
    (clean : TextClipboard.holdsCopy worker.clipboard = false)
    (locked : worker.phase = .locked) : (worker.handleLocked request).2.Covered := by
  have same : worker.Covered := by
    rw [Covered, locked]
    exact clean
  cases request with
  | create master kdf =>
    rw [handleLocked]
    rcases createVault master kdf .default worker.world with ⟨outcome, world⟩
    rcases outcome with error | ⟨app, uri⟩
    · rw [Covered, locked]
      exact clean
    · exact TextClipboard.covers_of_clean clean none
  | unlock master code =>
    rw [handleLocked]
    rcases unlock master (trim code) worker.world with ⟨outcome, world⟩
    rcases outcome with error | app
    · rw [Covered, locked]
      exact clean
    · exact TextClipboard.covers_of_clean clean none
  | quit => exact clean
  | _ => exact same

/-- A wake-up keeps the clipboard covered, if clears are for the current copy. -/
theorem Worker.next_covered (worker : Worker δ (TextClipboard digest)) (event : Event)
    (overwrites : worker.factOverwrite = true) (covered : worker.Covered)
    (current : worker.clearsCurrent (.worker event) = true) : (worker.next event).Covered := by
  rw [next]
  cases phase : worker.phase with
  | stopped =>
    simp only [step, phase]
    exact covered
  | locked =>
    have clean : TextClipboard.holdsCopy worker.clipboard = false := by
      rwa [Covered, phase] at covered
    simp only [step, phase]
    cases event with
    | taken request => exact worker.handleLocked_covered request clean phase
    | timeout => exact covered
    | disconnected => exact clean
  | unlocked app liveCookie =>
    have held : TextClipboard.Covers worker.clipboard liveCookie := by
      rwa [Covered, phase] at covered
    cases event with
    | taken request =>
      simp only [clearsCurrent, phase] at current
      have handled := (worker.live app liveCookie).handleUnlocked_covers request current held
      rw [step_taken _ phase]
      refine worker.follow_covered _ _ _ overwrites ?_
      rwa [overwrites]
    | timeout =>
      rw [step_timeout _ phase]
      exact worker.follow_covered _ _ _ overwrites held
    | disconnected =>
      rw [step_disconnected _ phase]
      exact worker.follow_covered _ _ _ overwrites held

/-- Another program's write leaves nothing to cover. -/
theorem Worker.foreign_covered (worker : Worker δ (TextClipboard digest)) (text : Option String) :
    (worker.desktop (.foreign text)).Covered := by
  have clean : TextClipboard.holdsCopy (worker.desktop (.foreign text)).clipboard = false := by
    change TextClipboard.holdsCopy (worker.clipboard.map _) = false
    cases worker.clipboard <;> rfl
  rw [Covered]
  split
  · exact TextClipboard.covers_of_clean clean _
  · exact clean

omit [Crates] in
/-- Following a flow keeps whether clears overwrite. -/
theorem Worker.follow_factOverwrite (worker : Worker δ (TextClipboard digest)) (flow : Flow)
    (responses : List Response) (live : Live δ (TextClipboard digest)) :
    (worker.follow flow responses live).2.factOverwrite = worker.factOverwrite := by
  cases flow <;> rfl

/-- No step changes whether clears overwrite. -/
theorem Worker.desktop_factOverwrite (worker : Worker δ (TextClipboard digest))
    (event : DesktopEvent) : (worker.desktop event).factOverwrite = worker.factOverwrite := by
  cases event with
  | foreign text => rfl
  | worker event =>
    change (worker.next event).factOverwrite = _
    rw [next]
    cases phase : worker.phase with
    | stopped => simp only [step, phase]
    | unlocked app liveCookie =>
      cases event with
      | taken request => rw [step_taken _ phase, follow_factOverwrite]
      | timeout => rw [step_timeout _ phase, follow_factOverwrite]
      | disconnected => rw [step_disconnected _ phase, follow_factOverwrite]
    | locked =>
      simp only [step, phase]
      cases event with
      | taken request =>
        cases request with
        | create master kdf =>
          simp only [handleLocked]
          rcases createVault master kdf .default worker.world with ⟨outcome, after⟩
          cases outcome <;> rfl
        | unlock master code =>
          simp only [handleLocked]
          rcases unlock master (trim code) worker.world with ⟨outcome, after⟩
          cases outcome <;> rfl
        | _ => rfl
      | timeout => rfl
      | disconnected => rfl

/-- In every run in which each clear taken in the unlocked loop is for the copied value that is on
the clipboard at that time, if one is, the clipboard holds no copied value whenever the worker is
outside the unlocked loop. -/
theorem exit_overwrites_copied_secret (world : World δ) (clipboard : Option (TextClipboard digest))
    (clean : TextClipboard.holdsCopy clipboard = false) (events : List DesktopEvent)
    (current : Along Worker.desktop (fun worker event => worker.clearsCurrent event = true)
      (Worker.start world clipboard true) events) :
    let final := run Worker.desktop (Worker.start world clipboard true) events
    final.phase.isUnlocked = false → TextClipboard.holdsCopy final.clipboard = false := by
  intro final outside
  have kept : ∀ (worker : Worker δ (TextClipboard digest)) event,
      (worker.factOverwrite = true ∧ worker.Covered) → worker.clearsCurrent event = true →
        (worker.desktop event).factOverwrite = true ∧ (worker.desktop event).Covered :=
    fun worker event invariant allowed => by
      refine ⟨(worker.desktop_factOverwrite event).trans invariant.1, ?_⟩
      cases event with
      | worker event => exact worker.next_covered event invariant.1 invariant.2 allowed
      | foreign text => exact worker.foreign_covered text
  have start : (Worker.start world clipboard true).factOverwrite = true ∧
      (Worker.start world clipboard true).Covered := ⟨rfl, clean⟩
  obtain ⟨_, covered⟩ := run_invariant kept start current
  change final.Covered at covered
  rw [Worker.Covered] at covered
  cases phase : final.phase with
  | unlocked app liveCookie =>
    rw [phase] at outside
    cases outside
  | locked => rwa [phase] at covered
  | stopped => rwa [phase] at covered

end Wipe

namespace Reference

/-- Two entries are added and both passwords copied, then the clear of one copy is processed and
the session is locked. -/
def copyTwiceClearLock (cleared : String) : List DesktopEvent :=
  [.taken (.create "pw" kdfParams), .taken (.add "x" "" "a" "" ""),
    .taken (.add "y" "" "b" "" ""), .taken (.copy ⟨(draw 16 ⟨0, 6, none⟩).1⟩ .password),
    .taken (.copy ⟨(draw 16 ⟨0, 9, none⟩).1⟩ .password),
    .taken (.clearClipboard ⟨textDigest cleared, device.clock⟩), .taken .lock].map .worker

end Reference

/-- A clear for the first of two copies leaves the second on the clipboard when the session
locks. -/
theorem stale_clear_leaves_copied_secret :
    letI := Reference.crates
    let final := run Worker.desktop (Worker.start Reference.world (some Reference.clipboard) true)
      (Reference.copyTwiceClearLock "a")
    ¬ (final.phase.isUnlocked = false → TextClipboard.holdsCopy final.clipboard = false) := by
  decide +kernel

/-- A clear for the second of two copies satisfies the condition. -/
theorem exit_overwrites_copied_secret_current :
    letI := Reference.crates
    let final := run Worker.desktop (Worker.start Reference.world (some Reference.clipboard) true)
      (Reference.copyTwiceClearLock "b")
    TextClipboard.holdsCopy final.clipboard = false := by
  let _ := Reference.crates
  exact exit_overwrites_copied_secret Reference.world (some Reference.clipboard) (by decide)
    (Reference.copyTwiceClearLock "b") (by decide +kernel) (by decide +kernel)

end Passman
