import Passman.Ffi
import Passman.Worker.Books

/-!
# What the calls of a foreign shell return

The steps of the worker are those of the service behind it, whatever the callers do in between.
Beside the calls a trace records the requests in the order of their numbers and the wake-ups of the
worker with the responses they sent. The recorded wake-ups are a run of the service, and what a
call returns is what the service answered its own request with in that run.
-/
namespace Passman

open Transition

/-- A run of the service: its wake-ups in order, each with the responses that are sent. -/
inductive Service.Runs (κ : Type) [Clipboard κ] [Crates] (start : Service) :
    List (Work × List Response) → Service → Prop
  /-- The empty run stays. -/
  | nil : Runs κ start [] start
  /-- A run takes one more step. -/
  | snoc {history : List (Work × List Response)} {middle ending : Service} {work : Work}
    {sent : List Response} (earlier : Runs κ start history middle)
    (step : Service.Step κ work.event sent middle ending) :
    Runs κ start (history ++ [(work, sent)]) ending

/-- Calls with a trace beside them. -/
structure Traced (δ κ : Type) where
  /-- The calls. -/
  calls : Calls δ κ
  /-- The requests that were sent, in the order of their numbers. -/
  asked : List Request
  /-- The wake-ups of the worker with the responses they sent; one without a request is an idle
  tick. -/
  history : List (Work × List Response)

namespace Calls

variable {δ κ : Type}

/-- The request that a step sends. -/
def sends (calls : Calls δ κ) : CallAction → Option Request
  | .send =>
    match calls.caller with
    | .drained request => some request
    | _ => none
  | .lock =>
    match calls.caller with
    | .idle => some .lock
    | _ => none
  | .clearClipboard cookie =>
    match calls.caller with
    | .idle => some (.clearClipboard cookie)
    | _ => none
  | _ => none

variable [Platform δ] [Clipboard κ] [Crates]

/-- The wake-up that a step finishes. -/
def wakes (calls : Calls δ κ) : CallAction → Option (Work × List Response)
  | .emit => calls.working.map fun work => (work, (calls.worker.step work.event).1)
  | .tick =>
    match calls.working, calls.requests with
    | none, [] =>
      if calls.worker.foundExpired then none
      else some (.autoLock, (calls.worker.step .timeout).1)
    | _, _ => none
  | _ => none

omit [Platform δ] [Clipboard κ] [Crates] in
/-- Behind a step that sends nothing and wakes nobody up there is no new request or response. -/
structure Quieter (before after : Calls δ κ) : Prop where
  /-- The worker is left. -/
  worker : after.worker = before.worker
  /-- No number is issued. -/
  issued : after.issued = before.issued
  /-- No request is new. -/
  pipeline : ∀ tag request, .request tag request ∈ after.pipeline →
    .request tag request ∈ before.pipeline
  /-- No response is new. -/
  responses : ∀ pair ∈ after.responses, pair ∈ before.responses
  /-- What is returned was received. -/
  returned : ∀ reply ∈ after.returned, reply ∈ before.returned ∨
    (reply.origin, reply.response) ∈ before.responses

omit [Platform δ] [Clipboard κ] [Crates] in
/-- Nothing is new where nothing changes. -/
theorem Quieter.refl (calls : Calls δ κ) : calls.Quieter calls :=
  ⟨rfl, rfl, fun _ _ => id, fun _ => id, fun _ => .inl⟩

/-- A step that sends nothing and wakes nobody up brings nothing new. -/
theorem step_quieter (calls : Calls δ κ) (action : CallAction)
    (sends : calls.sends action = none) (wakes : calls.wakes action = none) :
    calls.Quieter (calls.step action) := by
  rcases calls with ⟨worker, working, requests, responses, caller, issued, returned⟩
  cases action with
  | callStart request =>
    cases caller with
    | idle =>
      simp only [Calls.step]
      split_ifs
      · exact ⟨rfl, rfl, fun _ _ => id, fun _ => id, fun _ => .inl⟩
      · exact .refl _
    | _ => exact .refl _
  | drain =>
    cases caller with
    | draining request =>
      cases responses with
      | nil => exact .refl _
      | cons first rest =>
        exact ⟨rfl, rfl, fun _ _ => id, fun _ => List.mem_cons_of_mem _, fun _ => .inl⟩
    | _ => exact .refl _
  | drainEnd =>
    cases caller with
    | draining request =>
      cases responses with
      | nil => exact ⟨rfl, rfl, fun _ _ => id, fun _ => id, fun _ => .inl⟩
      | cons first rest => exact .refl _
    | _ => exact .refl _
  | send =>
    cases caller with
    | drained request => cases sends
    | _ => exact .refl _
  | receive =>
    cases caller with
    | waiting tag =>
      cases responses with
      | nil => exact .refl _
      | cons first rest =>
        refine ⟨rfl, rfl, fun _ _ => id, fun _ => List.mem_cons_of_mem _, fun reply member => ?_⟩
        rcases List.mem_cons.mp member with rfl | old
        · exact .inr List.mem_cons_self
        · exact .inl old
    | _ => exact .refl _
  | lock =>
    cases caller with
    | idle => cases sends
    | _ => exact .refl _
  | clearClipboard cookie =>
    cases caller with
    | idle => cases sends
    | _ => exact .refl _
  | take =>
    cases working with
    | some work => exact .refl _
    | none =>
      cases requests with
      | nil => exact .refl _
      | cons first rest => exact ⟨rfl, rfl, fun _ _ => id, fun _ => id, fun _ => .inl⟩
  | tick =>
    cases working with
    | some work => exact .refl _
    | none =>
      cases requests with
      | cons first rest => exact .refl _
      | nil =>
        simp only [Calls.wakes] at wakes
        simp only [Calls.step]
        split_ifs at wakes ⊢
        refine ⟨rfl, rfl, fun _ _ member => ?_, fun _ => id, fun _ => .inl⟩
        cases List.mem_singleton.mp member
  | emit =>
    cases working with
    | none => exact .refl _
    | some work => cases wakes

/-- A step that sends a request puts it behind the others and wakes nobody up. -/
theorem step_sends (calls : Calls δ κ) (action : CallAction) {request : Request}
    (sends : calls.sends action = some request) :
    (∃ caller, calls.step action = { calls.push request with caller }) ∧
      calls.wakes action = none := by
  rcases calls with ⟨worker, working, requests, responses, caller, issued, returned⟩
  cases action with
  | send =>
    cases caller with
    | drained asked =>
      obtain rfl := Option.some.inj sends
      exact ⟨⟨_, rfl⟩, rfl⟩
    | _ => cases sends
  | lock =>
    cases caller with
    | idle =>
      obtain rfl := Option.some.inj sends
      exact ⟨⟨.idle, rfl⟩, rfl⟩
    | _ => cases sends
  | clearClipboard cookie =>
    cases caller with
    | idle =>
      obtain rfl := Option.some.inj sends
      exact ⟨⟨.idle, rfl⟩, rfl⟩
    | _ => cases sends
  | _ => cases sends

omit [Platform δ] [Clipboard κ] [Crates] in
/-- What the worker does behind a wake-up with the piece of work: it is next to work, and what it
sent joins the responses. -/
structure Woken (before after : Calls δ κ) (work : Work) (sent : List Response)
    (next : Worker δ κ) : Prop where
  /-- The worker took its step. -/
  worker : after.worker = next
  /-- No number is issued. -/
  issued : after.issued = before.issued
  /-- A request that was taken was in front of the worker. -/
  taken : ∀ tag request, work = .request tag request → work ∈ before.pipeline
  /-- No request is new. -/
  pipeline : ∀ waiting ∈ after.pipeline, waiting ∈ before.pipeline
  /-- The responses that were sent are new. -/
  responses : ∀ pair ∈ after.responses, pair ∈ before.responses ∨
    pair.1 = work.origin ∧ pair.2 ∈ sent
  /-- Nothing is returned. -/
  returned : after.returned = before.returned

/-- A step that wakes the worker up sends no request. -/
theorem step_wakes (calls : Calls δ κ) (action : CallAction) {work : Work} {sent : List Response}
    (wakes : calls.wakes action = some (work, sent)) :
    calls.sends action = none ∧ sent = (calls.worker.step work.event).1 ∧
      Woken calls (calls.step action) work sent (calls.worker.next work.event) := by
  rcases calls with ⟨worker, working, requests, responses, caller, issued, returned⟩
  cases action with
  | emit =>
    cases working with
    | none => cases wakes
    | some busy =>
      obtain ⟨rfl, rfl⟩ := Prod.mk.inj (Option.some.inj wakes)
      refine ⟨rfl, rfl, rfl, rfl, fun _ _ _ => List.mem_cons_self,
        fun _ => List.mem_cons_of_mem _, fun pair member => ?_, rfl⟩
      rcases List.mem_append.mp member with old | new
      · exact .inl old
      · obtain ⟨response, given, rfl⟩ := List.mem_map.mp new
        exact .inr ⟨rfl, given⟩
  | tick =>
    cases working with
    | some busy => cases wakes
    | none =>
      cases requests with
      | cons first rest => cases wakes
      | nil =>
        simp only [Calls.wakes] at wakes
        split_ifs at wakes with found
        obtain ⟨rfl, rfl⟩ := Prod.mk.inj (Option.some.inj wakes)
        refine ⟨rfl, rfl, ?_⟩
        simp only [Calls.step, if_neg found]
        exact ⟨rfl, rfl, fun _ _ clash => (by cases clash), fun _ => id, fun _ => .inl, rfl⟩
  | _ => cases wakes

/-- What a step relies on: the worker is woken up regularly. -/
def Regular (passwords : String → Prop) (calls : Calls δ κ) (action : CallAction) : Prop :=
  ∀ wake ∈ calls.wakes action, calls.worker.Regular passwords wake.1.event

end Calls

namespace Traced

variable {δ κ : Type} [Platform δ] [Clipboard κ] [Crates]

/-- The calls with their trace after a step. -/
def step (traced : Traced δ κ) (action : CallAction) : Traced δ κ where
  calls := traced.calls.step action
  asked := traced.asked ++ (traced.calls.sends action).toList
  history := traced.history ++ (traced.calls.wakes action).toList

/-- The trace leaves the calls as they are. -/
theorem run_calls (traced : Traced δ κ) (actions : List CallAction) :
    (run step traced actions).calls = run Calls.step traced.calls actions := by
  induction actions generalizing traced with
  | nil => rfl
  | cons action rest ih => exact ih (traced.step action)

omit [Platform δ] [Clipboard κ] [Crates] in
/-- The response was sent for the request with the number. -/
def Given (traced : Traced δ κ) (tag : Nat) (response : Response) : Prop :=
  ∃ request sent, traced.asked[tag]? = some request ∧
    (.request tag request, sent) ∈ traced.history ∧ response ∈ sent

omit [Platform δ] [Clipboard κ] [Crates] in
/-- What was given stays given when a request is sent. -/
theorem Given.push {traced : Traced δ κ} {tag : Nat} {response : Response}
    (given : traced.Given tag response) (calls : Calls δ κ) (request : Request) :
    Given ⟨calls, traced.asked ++ [request], traced.history⟩ tag response := by
  obtain ⟨own, sent, asked, taken, member⟩ := given
  refine ⟨own, sent, ?_, taken, member⟩
  rw [List.getElem?_append_left (List.getElem?_eq_some_iff.mp asked).1]
  exact asked

omit [Platform δ] [Clipboard κ] [Crates] in
/-- What was given stays given when the worker is woken up. -/
theorem Given.wake {traced : Traced δ κ} {tag : Nat} {response : Response}
    (given : traced.Given tag response) (calls : Calls δ κ) (woken : Work × List Response) :
    Given ⟨calls, traced.asked, traced.history ++ [woken]⟩ tag response := by
  obtain ⟨own, sent, asked, taken, member⟩ := given
  exact ⟨own, sent, asked, List.mem_append_left _ taken, member⟩

/-- The trace is a run of the service that the worker presents, and every response on its way or
returned was given for the request it names. -/
structure Told (passwords : String → Prop) (start : Service) (traced : Traced δ κ) : Prop where
  /-- The calls are aligned with the worker. -/
  aligned : traced.calls.Aligned
  /-- Every request that was sent is recorded. -/
  count : traced.asked.length = traced.calls.issued
  /-- Requests are recorded under their numbers. -/
  pipeline : ∀ tag request, .request tag request ∈ traced.calls.pipeline →
    traced.asked[tag]? = some request
  /-- The trace is a run of the service that the worker presents. -/
  runs : ∃ ending, Service.Runs κ start traced.history ending ∧
    traced.calls.worker.Presents passwords ending
  /-- Responses on their way were given for the request they name. -/
  sent : ∀ tag response, (.request tag, response) ∈ traced.calls.responses →
    traced.Given tag response
  /-- Returned responses were given for the request they name. -/
  returned : ∀ reply ∈ traced.calls.returned, ∀ tag, reply.origin = .request tag →
    traced.Given tag reply.response

variable {passwords : String → Prop} {start : Service} {traced : Traced δ κ}

/-- A step that brings nothing new keeps what is told. -/
theorem Told.same (told : traced.Told passwords start) {calls : Calls δ κ}
    (aligned : calls.Aligned) (quieter : traced.calls.Quieter calls) :
    Told passwords start ⟨calls, traced.asked, traced.history⟩ where
  aligned := aligned
  count := told.count.trans quieter.issued.symm
  pipeline tag request member := told.pipeline tag request (quieter.pipeline tag request member)
  runs := by
    obtain ⟨ending, runs, presents⟩ := told.runs
    exact ⟨ending, runs, quieter.worker ▸ presents⟩
  sent tag response member := told.sent tag response (quieter.responses _ member)
  returned reply member tag named := by
    rcases quieter.returned reply member with old | received
    · exact told.returned reply old tag named
    · rw [named] at received
      exact told.sent tag reply.response received

/-- A request that is sent is recorded under its number. -/
theorem Told.push (told : traced.Told passwords start) {request : Request} {caller : Caller}
    (aligned : Calls.Aligned { traced.calls.push request with caller }) :
    Told passwords start ⟨{ traced.calls.push request with caller }, traced.asked ++ [request],
      traced.history⟩ where
  aligned := aligned
  count := by
    rw [List.length_append, told.count]
    rfl
  pipeline tag asked member := by
    have found : .request tag asked ∈ (traced.calls.push request).pipeline := member
    rw [Calls.pipeline_push] at found
    rcases List.mem_append.mp found with old | new
    · have recorded := told.pipeline tag asked old
      rw [List.getElem?_append_left (List.getElem?_eq_some_iff.mp recorded).1]
      exact recorded
    · obtain ⟨rfl, rfl⟩ := Work.request.inj (List.mem_singleton.mp new)
      rw [← told.count, List.getElem?_concat_length]
  runs := told.runs
  sent tag response member := (told.sent tag response member).push _ request
  returned reply member tag named := (told.returned reply member tag named).push _ request

/-- A wake-up takes a step of the service, and its responses are given for the request it took. -/
theorem Told.wake (aead : AeadLaws) (laws : PostcardLaws) (policies : PolicyLaws)
    (strict : StrictLaws) (fits : IndexFits .current []) (told : traced.Told passwords start)
    {work : Work} (regular : traced.calls.worker.Regular passwords work.event)
    {calls : Calls δ κ} (aligned : calls.Aligned)
    (woken : traced.calls.Woken calls work (traced.calls.worker.step work.event).1
      (traced.calls.worker.next work.event)) :
    Told passwords start ⟨calls, traced.asked,
      traced.history ++ [(work, (traced.calls.worker.step work.event).1)]⟩ where
  aligned := aligned
  count := told.count.trans woken.issued.symm
  pipeline tag request member := told.pipeline tag request (woken.pipeline _ member)
  runs := by
    obtain ⟨middle, runs, presents⟩ := told.runs
    obtain ⟨ending, stepped, presented⟩ := Worker.step_steps aead laws policies strict fits
      traced.calls.worker work.event middle presents regular
    exact ⟨ending, .snoc runs stepped, woken.worker ▸ presented⟩
  sent tag response member := by
    rcases woken.responses _ member with old | ⟨origin, given⟩
    · exact (told.sent tag response old).wake calls _
    · cases work with
      | autoLock => cases origin
      | request other request =>
        obtain rfl := Origin.request.inj origin
        exact ⟨request, _, told.pipeline _ _ (woken.taken _ _ rfl),
          List.mem_append_right _ (List.mem_singleton.mpr rfl), given⟩
  returned reply member tag named := by
    have old : reply ∈ traced.calls.returned := woken.returned ▸ member
    exact (told.returned reply old tag named).wake calls _

/-- Every step keeps what is told, if requests are sent alone and the worker is woken up
regularly. -/
theorem Told.step (aead : AeadLaws) (laws : PostcardLaws) (policies : PolicyLaws)
    (strict : StrictLaws) (fits : IndexFits .current []) (told : traced.Told passwords start)
    (action : CallAction) (alone : traced.calls.sendsAlone action = true)
    (regular : traced.calls.Regular passwords action) :
    (traced.step action).Told passwords start := by
  have aligned := told.aligned.step action alone
  rw [Traced.step]
  cases wakes : traced.calls.wakes action with
  | some wake =>
    obtain ⟨work, sent⟩ := wake
    obtain ⟨silent, rfl, woken⟩ := traced.calls.step_wakes action wakes
    rw [silent, Option.toList_none, Option.toList_some, List.append_nil]
    exact told.wake aead laws policies strict fits (regular _ wakes) aligned woken
  | none =>
    cases sends : traced.calls.sends action with
    | some request =>
      obtain ⟨⟨caller, pushed⟩, _⟩ := traced.calls.step_sends action sends
      rw [pushed] at aligned ⊢
      rw [Option.toList_none, Option.toList_some, List.append_nil]
      exact told.push aligned
    | none =>
      rw [Option.toList_none, Option.toList_none, List.append_nil, List.append_nil]
      exact told.same aligned (traced.calls.step_quieter action sends wakes)

/-- In every interleaving of calls and worker in which requests are sent alone and the worker is
woken up regularly, the wake-ups are a run of the service that the worker presents, and every call
returns what the service answered its own request with in that run. -/
theorem calls_return_the_book (aead : AeadLaws) (laws : PostcardLaws) (policies : PolicyLaws)
    (strict : StrictLaws) (fits : IndexFits .current []) {world : World δ} {held : Option Book}
    (shown : world.Shows passwords held) (clipboard : Option κ) (factOverwrite : Bool)
    (actions : List CallAction)
    (regular : Along Traced.step (fun traced action => traced.calls.sendsAlone action = true ∧
      traced.calls.Regular passwords action)
      ⟨.start (.start world clipboard factOverwrite), [], []⟩ actions) :
    let ended := run Calls.step (.start (.start world clipboard factOverwrite)) actions
    let trace := run Traced.step ⟨.start (.start world clipboard factOverwrite), [], []⟩ actions
    (∃ ending, Service.Runs κ (.locked held) trace.history ending ∧
      ended.worker.Presents passwords ending) ∧
      ∀ reply ∈ ended.returned, trace.Given reply.tag reply.response := by
  have started : Told passwords (.locked held)
      (⟨.start (.start world clipboard factOverwrite), [], []⟩ : Traced δ κ) :=
    { aligned := ⟨rfl, rfl, by simp [Calls.pipeline, Calls.start], by simp [Calls.start],
        by simp [Calls.start]⟩
      count := rfl
      pipeline := fun tag request member => by cases member
      runs := ⟨_, .nil, rfl, shown⟩
      sent := fun tag response member => by cases member
      returned := fun reply member => by cases member }
  have kept (traced : Traced δ κ) (action : CallAction)
      (told : traced.Told passwords (.locked held))
      (allowed : traced.calls.sendsAlone action = true ∧ traced.calls.Regular passwords action) :
      (traced.step action).Told passwords (.locked held) :=
    told.step aead laws policies strict fits action allowed.1 allowed.2
  intro ended trace
  have told : trace.Told passwords (.locked held) := run_invariant kept started regular
  have same : trace.calls = ended := run_calls _ actions
  rw [← same]
  refine ⟨told.runs, fun reply member => told.returned reply member reply.tag ?_⟩
  have paired := told.aligned.returned
  rw [Calls.paired, List.all_eq_true] at paired
  exact of_decide_eq_true (paired reply member)

end Traced

namespace Reference

/-- A foreign shell creates a vault and asks for a password. -/
def calling : List CallAction :=
  [.callStart (.create "pw" kdfParams), .drainEnd, .send, .take, .emit, .receive,
    .callStart (.generate 20), .drainEnd, .send, .take, .emit, .receive]

/-- The calls of the example with their trace after the first steps. -/
@[irreducible] def calledTrace (count : Nat) : Traced Device (TextClipboard textDigest) :=
  letI := crates
  run Traced.step ⟨.start (.start world (some clipboard) true), [], []⟩ (calling.take count)

/-- The trace under its name. -/
theorem calledTrace_run (count : Nat) : @run _ _ (@Traced.step Device _ _ _ crates)
    ⟨.start (.start world (some clipboard) true), [], []⟩ (calling.take count) =
      calledTrace count := by
  unfold calledTrace
  rfl

/-- Whether a piece of work of the example gives the one password and does not unlock. -/
def givesPassword : Work → Bool
  | .request _ (.unlock _ _) => false
  | .request _ request => request.password.all (· = "pw")
  | .autoLock => true

/-- Such a piece of work is regular. -/
theorem regular_givesPassword (worker : Worker Device (TextClipboard textDigest)) {work : Work}
    (gives : givesPassword work = true) :
    @Worker.Regular Device _ _ crates (· = "pw") worker work.event := by
  cases work with
  | autoLock => exact regular_plain (fun _ _ clash => by cases clash) (by simp [Work.event]) worker
  | request tag request =>
    refine regular_plain ?_ ?_ worker
    · rintro _ password ⟨⟩ carried
      cases request with
      | unlock master code => cases gives
      | _ =>
        rw [givesPassword, carried] at gives
        · exact of_decide_eq_true gives
        · simp
    · rintro master code unlocks
      obtain rfl := Event.taken.inj unlocks
      cases gives

/-- The calls of the example are regular. -/
theorem calling_regular : letI := crates
    Along Traced.step (fun traced action => traced.calls.sendsAlone action = true ∧
      traced.calls.Regular (· = "pw") action)
      ⟨.start (.start world (some clipboard) true), [], []⟩ calling := by
  let _ := crates
  have checked : Along Traced.step (fun traced action =>
      traced.calls.sendsAlone action = true ∧
        ((traced.calls.wakes action).all fun wake => givesPassword wake.1) = true)
      (⟨.start (.start world (some clipboard) true), [], []⟩ :
        Traced Device (TextClipboard textDigest)) calling := by
    decide +kernel
  refine checked.mono fun traced action allowed => ⟨allowed.1, fun wake woken => ?_⟩
  have gives := allowed.2
  rw [Option.mem_def.mp woken] at gives
  exact regular_givesPassword traced.calls.worker gives

end Reference

/-- Both calls of the example return. -/
theorem Traced.calls_return_the_book_created :
    (Reference.calledTrace 12).calls.returned.length = 2 ∧
      ∀ reply ∈ (Reference.calledTrace 12).calls.returned,
        (Reference.calledTrace 12).Given reply.tag reply.response := by
  let _ := Reference.crates
  refine ⟨by decide +kernel, ?_⟩
  have told := (Traced.calls_return_the_book Reference.aeadLaws
    Reference.postcardLaws Reference.policyLaws Reference.strictLaws Reference.emptyIndex_fits
    (show Reference.world.Shows (· = "pw") none from rfl) (some Reference.clipboard) true
    Reference.calling Reference.calling_regular).2
  have same := Reference.calledTrace_run 12
  change run Traced.step _ Reference.calling = _ at same
  have linked := Traced.run_calls (⟨.start (.start Reference.world (some Reference.clipboard) true),
    [], []⟩ : Traced Reference.Device (TextClipboard Reference.textDigest)) Reference.calling
  rw [same] at told linked
  rw [linked]
  exact told

end Passman
