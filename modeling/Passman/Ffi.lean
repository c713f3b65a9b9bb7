import Passman.Worker.Responses

/-!
# Calls from a foreign shell

A foreign shell drives the worker through two queues. A paired call holds one mutex
while it drains the response queue, sends its request and receives one response; the
fire-and-forget entry points take the mutex only to send. The worker takes requests in
order and sends responses in order, and may lock an idle session on its own. Requests
are numbered, and every response carries the number of the request the worker was
processing when it sent it.
-/
namespace Passman

open Transition

/-- Whether a request is sent by an entry point that waits for the response. -/
def Request.isPaired : Request → Bool
  | .clearClipboard _ => false
  | .lock => false
  | .quit => false
  | _ => true

/-- Whether a request clears the clipboard. -/
def Request.isClear : Request → Bool
  | .clearClipboard _ => true
  | _ => false

/-- What the worker was doing when it sent a response. -/
inductive Origin where
  /-- It was processing a request. -/
  | request (tag : Nat)
  /-- It was locking an idle session. -/
  | autoLock
  deriving DecidableEq

/-- A piece of work of the worker. -/
inductive Work where
  /-- A numbered request. -/
  | request (tag : Nat) (request : Request)
  /-- An idle tick that found the session expired. -/
  | autoLock
  deriving DecidableEq

/-- The wake-up a piece of work is. -/
def Work.event : Work → Event
  | request _ asked => .taken asked
  | autoLock => .timeout

/-- The origin of the responses sent during a piece of work. -/
def Work.origin : Work → Origin
  | request tag _ => .request tag
  | autoLock => .autoLock

/-- Whether a piece of work clears the clipboard. -/
def Work.isClear : Work → Bool
  | request _ asked => asked.isClear
  | autoLock => false

/-- How far the caller that holds the mutex has got. -/
inductive Caller where
  /-- Nobody holds the mutex. -/
  | idle
  /-- A call is draining the response queue. -/
  | draining (request : Request)
  /-- A call has seen the response queue empty. -/
  | drained (request : Request)
  /-- A call has sent its request and waits. -/
  | waiting (tag : Nat)

/-- A response that a call returned. -/
structure Reply where
  /-- The number of the call's request. -/
  tag : Nat
  /-- What the worker was doing when it sent the response. -/
  origin : Origin
  /-- The response. -/
  response : Response
  deriving DecidableEq

/-- The worker, the two queues and the caller. -/
structure Calls (δ κ : Type) where
  /-- The worker. -/
  worker : Worker δ κ
  /-- What the worker is processing. -/
  working : Option Work
  /-- The requests that were sent and not taken, oldest first. -/
  requests : List Work
  /-- The responses that were sent and not received, oldest first. -/
  responses : List (Origin × Response)
  /-- The caller. -/
  caller : Caller
  /-- The number of the next request. -/
  issued : Nat
  /-- What calls have returned, newest first. -/
  returned : List Reply

/-- One step of the caller or the worker. -/
inductive CallAction where
  /-- A paired entry point takes the mutex. -/
  | callStart (request : Request)
  /-- The call discards a queued response. -/
  | drain
  /-- The call finds the response queue empty. -/
  | drainEnd
  /-- The call sends its request. -/
  | send
  /-- The call receives a response and returns it. -/
  | receive
  /-- The fire-and-forget lock is sent. -/
  | lock
  /-- The fire-and-forget clear is sent. -/
  | clearClipboard (cookie : ClipboardCookie)
  /-- The worker takes the oldest request. -/
  | take
  /-- The worker wakes up with nothing to take. -/
  | tick
  /-- The worker finishes what it was processing and sends its responses. -/
  | emit
  deriving DecidableEq

namespace Calls

variable {δ κ : Type}

/-- A worker without calls. -/
def start (worker : Worker δ κ) : Calls δ κ := ⟨worker, none, [], [], .idle, 0, []⟩

/-- Put a request into the queue. -/
def push (calls : Calls δ κ) (request : Request) : Calls δ κ :=
  { calls with
    requests := calls.requests ++ [.request calls.issued request]
    issued := calls.issued + 1 }

/-- What the worker has in front of it, in order. -/
def pipeline (calls : Calls δ κ) : List Work := calls.working.toList ++ calls.requests

variable [Platform δ] [Clipboard κ] [Crates]

/-- Perform a step; a step that is not enabled changes nothing. -/
def step (calls : Calls δ κ) : CallAction → Calls δ κ
  | .callStart request =>
    match calls.caller with
    | .idle => if request.isPaired then { calls with caller := .draining request } else calls
    | _ => calls
  | .drain =>
    match calls.caller, calls.responses with
    | .draining _, _ :: rest => { calls with responses := rest }
    | _, _ => calls
  | .drainEnd =>
    match calls.caller, calls.responses with
    | .draining request, [] => { calls with caller := .drained request }
    | _, _ => calls
  | .send =>
    match calls.caller with
    | .drained request => { calls.push request with caller := .waiting calls.issued }
    | _ => calls
  | .receive =>
    match calls.caller, calls.responses with
    | .waiting tag, (origin, response) :: rest =>
      { calls with
        caller := .idle
        responses := rest
        returned := ⟨tag, origin, response⟩ :: calls.returned }
    | _, _ => calls
  | .lock =>
    match calls.caller with
    | .idle => calls.push .lock
    | _ => calls
  | .clearClipboard cookie =>
    match calls.caller with
    | .idle => calls.push (.clearClipboard cookie)
    | _ => calls
  | .take =>
    match calls.working, calls.requests with
    | none, work :: rest => { calls with working := some work, requests := rest }
    | _, _ => calls
  | .tick =>
    match calls.working, calls.requests with
    | none, [] =>
      if calls.worker.foundExpired then { calls with working := some .autoLock }
      else { calls with worker := calls.worker.next .timeout }
    | _, _ => calls
  | .emit =>
    match calls.working with
    | none => calls
    | some work =>
      let (sent, worker) := calls.worker.step work.event
      { calls with
        worker
        working := none
        responses := calls.responses ++ sent.map fun response => (work.origin, response) }

/-- Whether every returned response was sent while the call's own request was processed. -/
def paired (calls : Calls δ κ) : Bool :=
  calls.returned.all fun reply => reply.origin = .request reply.tag

/-- Whether a request is sent only while nothing in front of the worker sends a response, no
response is queued, and the request is not a stray one. -/
def sendsAlone (calls : Calls δ κ) : CallAction → Bool
  | .send =>
    match calls.caller with
    | .drained request =>
      calls.responses.isEmpty && calls.pipeline.all Work.isClear &&
        !calls.worker.takesStray (.taken request)
    | _ => true
  | _ => true

/-- A call that waits has its request behind clears only, or its response in front of the queue. -/
inductive Progress (tag : Nat) (calls : Calls δ κ) : Prop
  /-- The request has not been answered. -/
  | pending (clears : List Work) (request : Request)
      (ahead : calls.pipeline = clears ++ [.request tag request])
      (silent : ∀ work ∈ clears, work.isClear = true) (quiet : calls.responses = [])
      (isPaired : request.isPaired = true)
      (answered : calls.worker.takesStray (.taken request) = false)
  /-- The response is in front of the queue; the worker has nothing to do but lock. -/
  | answered (response : Response) (rest : List (Origin × Response))
      (ahead : calls.requests = []) (working : ∀ work ∈ calls.working, work = .autoLock)
      (first : calls.responses = (.request tag, response) :: rest)

/-- What holds between the caller and the worker. -/
structure Aligned (calls : Calls δ κ) : Prop where
  /-- The worker has not stopped. -/
  running : calls.worker.phase.isRunning = true
  /-- Every returned response belongs to its call. -/
  returned : calls.paired = true
  /-- Nothing in front of the worker stops it. -/
  stays : ∀ work ∈ calls.pipeline, work.event ≠ .taken .quit
  /-- A call is made for a paired request. -/
  asks : ∀ request, calls.caller = .draining request ∨ calls.caller = .drained request →
    request.isPaired = true
  /-- A call that waits makes progress. -/
  waits : ∀ tag, calls.caller = .waiting tag → calls.Progress tag

omit [Platform δ] [Clipboard κ] [Crates] in
/-- The alignment carries over to a state whose worker has nothing new in front of it that could
stop it, when no call waits there. -/
theorem Aligned.of_same {calls after : Calls δ κ} (aligned : calls.Aligned)
    (worker : after.worker = calls.worker) (returned : after.paired = true)
    (stays : ∀ work ∈ after.pipeline, work ∈ calls.pipeline ∨ work.event ≠ .taken .quit)
    (asks : ∀ request, after.caller = .draining request ∨ after.caller = .drained request →
      request.isPaired = true)
    (free : ∀ tag, after.caller ≠ .waiting tag) : after.Aligned where
  running := worker ▸ aligned.running
  returned := returned
  stays work member := (stays work member).elim (aligned.stays work) id
  asks := asks
  waits tag waiting := absurd waiting (free tag)

omit [Platform δ] [Clipboard κ] [Crates] in
/-- A sent request joins the end of the pipeline. -/
theorem pipeline_push (calls : Calls δ κ) (request : Request) :
    (calls.push request).pipeline = calls.pipeline ++ [.request calls.issued request] := by
  rw [pipeline, push, pipeline, List.append_assoc]

omit [Platform δ] [Clipboard κ] [Crates] in
/-- A request that was sent is in the old pipeline or is the sent one. -/
theorem mem_pipeline_push {calls : Calls δ κ} {request : Request} (stays : request ≠ .quit)
    (work : Work) (member : work ∈ (calls.push request).pipeline) :
    work ∈ calls.pipeline ∨ work.event ≠ .taken .quit := by
  rw [pipeline_push, List.mem_append, List.mem_singleton] at member
  rcases member with before | rfl
  · exact .inl before
  · exact .inr fun same => stays (Event.taken.inj same)

/-- Sending alone puts the request behind clears only. -/
theorem Aligned.send {calls : Calls δ κ} (aligned : calls.Aligned)
    (alone : calls.sendsAlone .send = true) : (calls.step .send).Aligned := by
  cases caller : calls.caller with
  | drained request =>
    have isPaired := aligned.asks request (.inr caller)
    have moved : calls.step .send =
        { calls.push request with caller := .waiting calls.issued } := by
      simp only [Calls.step, caller]
    simp only [sendsAlone, caller, Bool.and_eq_true, List.isEmpty_iff, List.all_eq_true,
      Bool.not_eq_true'] at alone
    obtain ⟨⟨quiet, silent⟩, notStray⟩ := alone
    have pushed := pipeline_push calls request
    rw [moved]
    refine ⟨aligned.running, aligned.returned, fun work member => ?_, by simp, ?_⟩
    · have notQuit : request ≠ .quit := by
        rintro rfl
        cases isPaired
      have sent : work ∈ (calls.push request).pipeline := member
      rcases mem_pipeline_push notQuit work sent with before | stays
      · exact aligned.stays work before
      · exact stays
    · intro tag waiting
      obtain rfl := Caller.waiting.inj waiting
      exact .pending calls.pipeline request pushed silent quiet isPaired notStray
  | idle => simpa only [Calls.step, caller] using aligned
  | draining request => simpa only [Calls.step, caller] using aligned
  | waiting tag => simpa only [Calls.step, caller] using aligned

omit [Platform δ] [Clipboard κ] [Crates] in
/-- A fire-and-forget request is sent only while no call is in progress. -/
theorem Aligned.push {calls : Calls δ κ} (aligned : calls.Aligned) (idle : calls.caller = .idle)
    {request : Request} (stays : request ≠ .quit) : (calls.push request).Aligned := by
  have caller : (calls.push request).caller = .idle := idle
  exact aligned.of_same rfl aligned.returned (mem_pipeline_push stays) (by simp [caller])
    (by simp [caller])

omit [Platform δ] [Clipboard κ] [Crates] in
/-- Draining touches neither the worker nor what is in front of it. -/
theorem Aligned.draining {calls : Calls δ κ} (aligned : calls.Aligned) (caller : Caller)
    (responses : List (Origin × Response))
    (asks : ∀ request, caller = .draining request ∨ caller = .drained request →
      request.isPaired = true) (free : ∀ tag, caller ≠ .waiting tag) :
    ({ calls with caller, responses } : Calls δ κ).Aligned :=
  aligned.of_same rfl aligned.returned (fun _ member => .inl member) asks free

/-- The response a call receives is the one to its request. -/
theorem Aligned.receive {calls : Calls δ κ} (aligned : calls.Aligned) :
    (calls.step .receive).Aligned := by
  cases caller : calls.caller with
  | waiting tag =>
    cases queued : calls.responses with
    | nil => simpa only [Calls.step, caller, queued] using aligned
    | cons oldest rest =>
      obtain ⟨origin, response⟩ := oldest
      have moved : calls.step .receive = { calls with
          caller := .idle
          responses := rest
          returned := ⟨tag, origin, response⟩ :: calls.returned } := by
        simp only [Calls.step, caller, queued]
      have own : origin = .request tag := by
        cases aligned.waits tag caller with
        | pending clears request ahead silent quiet isPaired answered =>
          rw [queued] at quiet
          cases quiet
        | answered response rest ahead working first =>
          rw [queued] at first
          exact (Prod.mk.inj (List.cons.inj first).1).1
      rw [moved]
      refine aligned.of_same rfl ?_ (fun _ member => .inl member) (by simp) (by simp)
      simpa [paired, own] using aligned.returned
  | idle => simpa only [Calls.step, caller] using aligned
  | draining request => simpa only [Calls.step, caller] using aligned
  | drained request => simpa only [Calls.step, caller] using aligned

/-- Taking a request moves it inside the pipeline. -/
theorem Aligned.take {calls : Calls δ κ} (aligned : calls.Aligned) :
    (calls.step .take).Aligned := by
  cases working : calls.working with
  | some work => simpa only [Calls.step, working] using aligned
  | none =>
    cases requests : calls.requests with
    | nil => simpa only [Calls.step, working, requests] using aligned
    | cons work rest =>
      have moved : calls.step .take = { calls with working := some work, requests := rest } := by
        simp only [Calls.step, working, requests]
      have same : (calls.step .take).pipeline = calls.pipeline := by
        rw [moved, pipeline, pipeline, working, requests]
        rfl
      rw [moved] at same ⊢
      refine ⟨aligned.running, aligned.returned, fun work member => ?_, aligned.asks,
        fun tag waiting => ?_⟩
      · exact aligned.stays work (same ▸ member)
      · cases aligned.waits tag waiting with
        | pending clears request ahead silent quiet isPaired answered =>
          exact .pending clears request (same.trans ahead) silent quiet isPaired answered
        | answered response rest ahead working first =>
          rw [requests] at ahead
          cases ahead

/-- An idle tick at most starts an auto-lock, with nothing else in front of the worker. -/
theorem Aligned.tick {calls : Calls δ κ} (aligned : calls.Aligned) :
    (calls.step .tick).Aligned := by
  cases working : calls.working with
  | some work => simpa only [Calls.step, working] using aligned
  | none =>
    cases requests : calls.requests with
    | cons work rest => simpa only [Calls.step, working, requests] using aligned
    | nil =>
      have empty : calls.pipeline = [] := by
        rw [pipeline, working, requests]
        rfl
      have answered : ∀ tag, calls.caller = .waiting tag → ∃ response rest,
          calls.responses = (.request tag, response) :: rest := by
        intro tag waiting
        cases aligned.waits tag waiting with
        | pending clears request ahead silent quiet isPaired answered =>
          rw [empty] at ahead
          simp at ahead
        | answered response rest ahead working first => exact ⟨response, rest, first⟩
      cases expired : calls.worker.foundExpired with
      | true =>
        have moved : calls.step .tick = { calls with working := some .autoLock } := by
          simp only [Calls.step, working, requests, expired, if_true]
        rw [moved]
        refine ⟨aligned.running, aligned.returned, ?_, aligned.asks, fun tag waiting => ?_⟩
        · simp [pipeline, requests, Work.event]
        · obtain ⟨response, rest, first⟩ := answered tag waiting
          exact .answered response rest requests (by simp) first
      | false =>
        have moved : calls.step .tick = { calls with worker := calls.worker.next .timeout } := by
          simp [Calls.step, working, requests, expired]
        rw [moved]
        refine ⟨(calls.worker.next_running aligned.running).2, aligned.returned, ?_,
          aligned.asks, fun tag waiting => ?_⟩
        · simp [pipeline, working, requests]
        · obtain ⟨response, rest, first⟩ := answered tag waiting
          exact .answered response rest requests (by simp [working]) first

/-- What the worker finishes is a clear, which sends nothing, or the awaited request, which is
answered once, or comes after the answer. -/
theorem Aligned.emit {calls : Calls δ κ} (aligned : calls.Aligned) :
    (calls.step .emit).Aligned := by
  cases working : calls.working with
  | none => simpa only [Calls.step, working] using aligned
  | some work =>
    have ahead : calls.pipeline = work :: calls.requests := by
      rw [pipeline, working]
      rfl
    have moved : calls.step .emit = { calls with
        worker := calls.worker.next work.event
        working := none
        responses := calls.responses ++
          (calls.worker.step work.event).1.map fun response => (work.origin, response) } := by
      simp only [Calls.step, working, Worker.next]
    have stays : work.event ≠ .taken .quit :=
      aligned.stays work (ahead ▸ List.mem_cons_self)
    have running : (calls.worker.next work.event).phase.isRunning = true := by
      have kept := calls.worker.next_running aligned.running
      cases work with
      | request tag request => exact kept.1 request fun same => stays (same ▸ rfl)
      | autoLock => exact kept.2
    rw [moved]
    refine ⟨running, aligned.returned, fun later member => ?_, aligned.asks,
      fun tag waiting => ?_⟩
    · exact aligned.stays later (ahead ▸ List.mem_cons_of_mem _ member)
    · cases aligned.waits tag waiting with
      | answered response rest noRequests onlyLock first =>
        exact .answered response (rest ++ _) noRequests (by simp) (by rw [first]; rfl)
      | pending clears request pipelined silent quiet isPaired notStray =>
        rw [ahead] at pipelined
        cases clears with
        | nil =>
          obtain ⟨rfl, noRequests⟩ := List.cons.inj pipelined
          have answers := (calls.worker.answers_iff (.taken request)).mpr (by simp [notStray])
          have once := answers aligned.running
          rw [if_neg (by cases request <;> simp_all [Request.isPaired, Request.isSilent])] at once
          obtain ⟨response, only⟩ := List.length_eq_one_iff.mp once
          refine .answered response [] noRequests (by simp) ?_
          change calls.responses ++ (calls.worker.step (.taken request)).1.map _ = _
          rw [quiet, only]
          rfl
        | cons clear clears =>
          obtain ⟨rfl, later⟩ := List.cons.inj pipelined
          have isClear := silent work List.mem_cons_self
          cases work with
          | autoLock => cases isClear
          | request clearTag asked =>
            cases asked with
            | clearClipboard cookie =>
              obtain ⟨nothing, loop⟩ := calls.worker.step_clear cookie
              refine .pending clears request later
                (fun other member => silent other (List.mem_cons_of_mem _ member)) ?_ isPaired ?_
              · change calls.responses ++
                  (calls.worker.step (.taken (.clearClipboard cookie))).1.map _ = _
                rw [quiet, nothing]
                rfl
              · change ((calls.worker.next (.taken (.clearClipboard cookie))).phase.isUnlocked &&
                  request.opensSession) = false
                rw [loop]
                exact notStray
            | _ => cases isClear

/-- A step of the caller or the worker keeps the alignment, if requests are sent alone. -/
theorem Aligned.step {calls : Calls δ κ} (aligned : calls.Aligned) (action : CallAction)
    (alone : calls.sendsAlone action = true) : (calls.step action).Aligned := by
  cases action with
  | take => exact aligned.take
  | tick => exact aligned.tick
  | emit => exact aligned.emit
  | send => exact aligned.send alone
  | receive => exact aligned.receive
  | lock =>
    rw [Calls.step]
    split
    · next idle => exact aligned.push idle (by simp)
    · exact aligned
  | clearClipboard cookie =>
    rw [Calls.step]
    split
    · next idle => exact aligned.push idle (by simp)
    · exact aligned
  | callStart request =>
    rw [Calls.step]
    split
    · split
      · next isPaired =>
        exact aligned.draining (.draining request) calls.responses (by simpa using isPaired)
          (by simp)
      · exact aligned
    · exact aligned
  | drain =>
    rw [Calls.step]
    split
    · next request _ rest caller _ =>
      exact aligned.draining calls.caller rest aligned.asks (by simp [caller])
    · exact aligned
  | drainEnd =>
    rw [Calls.step]
    split
    · next request caller _ =>
      exact aligned.draining (.drained request) calls.responses
        (by simpa using aligned.asks request (.inl caller)) (by simp)
    · exact aligned

end Calls

/-- In every run in which calls send their requests only while nothing else can send a response
first and the request is not a stray one, every response a call returns is the one the worker sent
while processing that call's request. -/
theorem calls_are_paired {δ κ : Type} [Platform δ] [Clipboard κ] [Crates] (world : World δ)
    (clipboard : Option κ) (factOverwrite : Bool) (actions : List CallAction)
    (alone : Along Calls.step (fun calls action => calls.sendsAlone action = true)
      (.start (.start world clipboard factOverwrite)) actions) :
    (run Calls.step (.start (.start world clipboard factOverwrite)) actions).paired = true := by
  have kept : ∀ (calls : Calls δ κ) action, calls.Aligned → calls.sendsAlone action = true →
      (calls.step action).Aligned := fun calls action aligned => aligned.step action
  have start : (Calls.start (Worker.start world clipboard factOverwrite)).Aligned :=
    ⟨rfl, rfl, by simp [Calls.pipeline, Calls.start], by simp [Calls.start], by simp [Calls.start]⟩
  exact (run_invariant kept start alone).returned

/-- A locked response left by the fire-and-forget lock is returned by the next call: the call drains
the queue before the worker gets to the lock. -/
theorem call_returns_response_of_lock :
    letI := Reference.crates
    (run Calls.step (.start (.start Reference.world (some Reference.clipboard) true))
      [.lock, .callStart (.unlock "pw" "000000"), .drainEnd, .send, .take, .emit, .receive]).paired
        =
        false := by
  decide +kernel

/-- A call that sends alone returns its own response. -/
theorem calls_are_paired_unlock :
    letI := Reference.crates
    (run Calls.step (.start (.start Reference.world (some Reference.clipboard) true))
      [.callStart (.unlock "pw" "000000"), .drainEnd, .send, .take, .emit, .receive]).paired =
        true := by
  let _ := Reference.crates
  exact calls_are_paired Reference.world (some Reference.clipboard) true
    [.callStart (.unlock "pw" "000000"), .drainEnd, .send, .take, .emit, .receive]
    (by decide +kernel)

end Passman
