import Passman.Core.Book

/-!
# What the worker makes of the book

A worker keeps one session over many requests. Behind it stands an abstract service, which has
the book in one of three ways: put away, lying open for requests, or put away for good. Every
wake-up of the worker takes one step of the service, its responses are the ones of that step, and
what they carry is read off the book.
-/
namespace Passman

open Bytewise Fallible Transition

/-- The password that a request carries. -/
def Request.password : Request → Option String
  | create master _ => some master
  | unlock master _ => some master
  | exportRecovery master _ _ => some master
  | _ => none

/-- How the failure of a request to an open session is reported. -/
def Request.failure : Request → Option (String → Response)
  | refresh => some .error
  | reveal _ _ => some .error
  | copy _ _ => some .error
  | generate _ => some .error
  | add _ _ _ _ _ => some .error
  | remove _ => some .error
  | exportRecovery _ _ _ => some .recoveryExportFailed
  | _ => none

/-- Handles list a book: each entry once, under its label. -/
def Book.Listed (book : Book) (handles : List EntryHandle) : Prop :=
  ∃ rows, book.Lists rows ∧ handles = rows.map fun row => ⟨row.id, row.label⟩

/-- The record of an entry of a book. -/
def Book.Reads (book : Book) (id : EntryId) (record : EntryRecord) : Prop :=
  ∃ entry, book.contents id = some entry ∧ entry.record = .ok record

/-- A book without entries is listed by no handle. -/
theorem Book.Lists.none {key : MasterKey} {rows : Index}
    (lists : (Book.mk key Contents.empty).Lists rows) : rows = [] := by
  cases rows with
  | nil => rfl
  | cons row rest =>
    have same := lists.same row.id
    rw [Index.get, Keyed.lookup_mem IndexEntry.id lists.distinct List.mem_cons_self] at same
    cases same

/-- A clipboard can stamp a value with a cookie. -/
def Stamps (κ : Type) [Clipboard κ] (value : String) (cookie : ClipboardCookie) : Prop :=
  ∃ clipboard : κ, (Clipboard.write value clipboard).1 = .ok cookie

/-- How a request is served while a book lies open: the flow, the responses, and the book it
leaves. -/
inductive Served (κ : Type) [Clipboard κ] [Crates] (book : Book) :
    Request → Flow × List Response → Book → Prop
  /-- The book is put away. -/
  | lock : Served κ book .lock (.lock, []) book
  /-- The service ends. -/
  | quit : Served κ book .quit (.quit, []) book
  /-- A creation and an unlock are ignored. -/
  | ignored {request : Request} (opens : request.opensSession = true) :
    Served κ book request (.continue, []) book
  /-- A clear is not answered. -/
  | cleared {cookie : ClipboardCookie} : Served κ book (.clearClipboard cookie) (.continue, []) book
  /-- The entries are listed. -/
  | listed {handles : List EntryHandle} (listed : book.Listed handles) :
    Served κ book .refresh (.continue, [.entries handles]) book
  /-- A field of an entry is shown. -/
  | revealed {id : EntryId} {field : RevealField} {record : EntryRecord}
    (reads : book.Reads id record) :
    Served κ book (.reveal id field) (.continue, [.revealed field (selectField record field)]) book
  /-- A field of an entry is copied. -/
  | copied {id : EntryId} {field : RevealField} {record : EntryRecord} {cookie : ClipboardCookie}
    (reads : book.Reads id record) (stamps : Stamps κ (selectField record field) cookie) :
    Served κ book (.copy id field) (.continue, [.copied cookie]) book
  /-- A password is generated. -/
  | generated {length : UInt16} {password : String} :
    Served κ book (.generate length) (.continue, [.generated password]) book
  /-- An entry is put into the book, and the entries are listed. -/
  | added {label username password url notes : String} {id : EntryId} {handles : List EntryHandle}
    (listed : (book.adds id label .default ⟨username, password, url, notes⟩).Listed handles) :
    Served κ book (.add label username password url notes) (.continue, [.entries handles])
      (book.adds id label .default ⟨username, password, url, notes⟩)
  /-- An entry is dropped from the book, and the entries are listed. -/
  | removed {id : EntryId} {handles : List EntryHandle}
    (listed : (book.removes id).Listed handles) :
    Served κ book (.remove id) (.continue, [.entries handles]) (book.removes id)
  /-- The session expires between an addition and the listing. -/
  | addedUnlisted {label username password url notes : String} {id : EntryId} :
    Served κ book (.add label username password url notes) (.lock, [])
      (book.adds id label .default ⟨username, password, url, notes⟩)
  /-- The session expires between a removal and the listing. -/
  | removedUnlisted {id : EntryId} : Served κ book (.remove id) (.lock, []) (book.removes id)
  /-- A file that backs the book is handed out. -/
  | exported {master code : String} {preset : RecoveryPreset} {file : Bytes}
    (backed : book.BackedBy file master) :
    Served κ book (.exportRecovery master code preset) (.continue, [.recoveryExported file]) book
  /-- A code is checked. -/
  | checked {code : String} {valid : Bool} :
    Served κ book (.verifyTotp code) (.continue, [.totpChecked valid]) book
  /-- A request that fails leaves the book. -/
  | failed {request : Request} {respond : String → Response} {message : String}
    (reports : request.failure = some respond) :
    Served κ book request (.continue, [respond message]) book
  /-- A request to an expired session leaves the book and puts it away. -/
  | expired {request : Request} (operates : request.failure.isSome = true) :
    Served κ book request (.lock, []) book

/-- How the service has the book. -/
inductive Service where
  /-- Put away, if there is a book. -/
  | locked (held : Option Book)
  /-- Open for requests. -/
  | serving (book : Book)
  /-- Put away for good. -/
  | stopped (held : Option Book)

/-- The book, however the service has it. -/
def Service.held : Service → Option Book
  | locked held => held
  | serving book => some book
  | stopped held => held

/-- What is sent along with a flow. -/
def Flow.sends (responses : List Response) : Flow → List Response
  | .continue => responses
  | lock => responses ++ [.locked]
  | quit => responses

/-- Where a flow leaves a book. -/
def Flow.leaves (book : Book) : Flow → Service
  | .continue => .serving book
  | lock => .locked (some book)
  | quit => .stopped (some book)

/-- A step of the service: a wake-up with the responses that are sent. -/
inductive Service.Step (κ : Type) [Clipboard κ] [Crates] :
    Event → List Response → Service → Service → Prop
  /-- An empty book is started in the place of whatever there was. -/
  | created {master uri : String} {kdf : KdfParams} {key : MasterKey} {held : Option Book} :
    Step κ (.taken (.create master kdf)) [.created uri []] (.locked held)
      (.serving ⟨key, Contents.empty⟩)
  /-- A creation fails. -/
  | createFailed {master message : String} {kdf : KdfParams} {held : Option Book} :
    Step κ (.taken (.create master kdf)) [.createFailed message] (.locked held) (.locked held)
  /-- The book is opened and listed. -/
  | unlocked {master code : String} {handles : List EntryHandle} {book : Book}
    (listed : book.Listed handles) :
    Step κ (.taken (.unlock master code)) [.unlocked handles] (.locked (some book)) (.serving book)
  /-- The book is not opened. -/
  | unlockFailed {master code message : String} {held : Option Book} :
    Step κ (.taken (.unlock master code)) [.unlockFailed message] (.locked held) (.locked held)
  /-- Any other request is refused while the book is put away. -/
  | refused {request : Request} {held : Option Book} (other : request.opensSession = false)
    (answered : request.isSilent = false) :
    Step κ (.taken request) [.locked] (.locked held) (.locked held)
  /-- A clear is not answered. -/
  | unheard {cookie : ClipboardCookie} {held : Option Book} :
    Step κ (.taken (.clearClipboard cookie)) [] (.locked held) (.locked held)
  /-- The service ends with the book put away. -/
  | quit {held : Option Book} : Step κ (.taken .quit) [] (.locked held) (.stopped held)
  /-- A request is served. -/
  | served {request : Request} {flow : Flow} {responses : List Response} {book next : Book}
    (served : Served κ book request (flow, responses) next) :
    Step κ (.taken request) (flow.sends responses) (.serving book) (flow.leaves next)
  /-- Nothing happens at an idle tick. -/
  | idle {service : Service} : Step κ .timeout [] service service
  /-- An idle tick finds the session expired. -/
  | expired {book : Book} : Step κ .timeout [.locked] (.serving book) (.locked (some book))
  /-- The queue is closed. -/
  | closed {service : Service} : Step κ .disconnected [] service (.stopped service.held)
  /-- Nothing happens after the end. -/
  | ended {event : Event} {held : Option Book} : Step κ event [] (.stopped held) (.stopped held)

section Serving

variable {δ κ : Type} [Platform δ] [Crates] {passwords : String → Prop} {book : Book}

/-- A listing names the rows of the book, or comes too late. -/
theorem listed_listEntries (book : Book) :
    Triple (Serves passwords book) (listEntries : SessionAct δ CoreError (List EntryHandle))
      (fun handles state => Serves passwords book state ∧ book.Listed handles)
      (fun error state => error = .locked ∧ Serves passwords book state) where
  returns := (serves_listEntries book).returns
  stops := by
    rintro ⟨world, app⟩ error after serves ran
    refine ⟨?_, (serves_listEntries book).stops serves ran⟩
    rcases gated_cases ran with ⟨same, _⟩ | ran
    · exact Except.error.inj same
    · cases ran

variable [Clipboard κ]

/-- The request is served at the book by the outcome, and the session serves the book it leaves. -/
def ServedAs (κ : Type) [Clipboard κ] (passwords : String → Prop) (book : Book) (request : Request)
    (outcome : Flow × List Response) (state : World δ × UnlockedApp) : Prop :=
  ∃ next, Served κ book request outcome next ∧ Serves passwords next state

/-- A failed operation leaves the book. -/
theorem servedAs_onOpError {request : Request} (reports : request.failure = some .error)
    (error : CoreError) {state : World δ × UnlockedApp} (serves : Serves passwords book state) :
    ServedAs κ passwords book request (onOpError error) state := by
  refine ⟨book, ?_, serves⟩
  have operates : request.failure.isSome = true := by rw [reports]; rfl
  cases error with
  | locked => exact .expired operates
  | _ => exact .failed reports

/-- An operation that meets its triple is served by its answer. -/
theorem servedAs_serve {α : Type} {operation : SessionAct δ CoreError α} {respond : α → Response}
    {request : Request} {stop : CoreError → World δ × UnlockedApp → Prop} {live : Live δ κ}
    (spec : Triple (Serves passwords book) operation
      (fun value => ServedAs κ passwords book request (.continue, [respond value])) stop)
    (stopped : ∀ error state, stop error state →
      ServedAs κ passwords book request (onOpError error) state)
    (serves : Serves passwords book live.state) :
    ServedAs κ passwords book request (live.serve operation respond).1
      (live.serve operation respond).2.state := by
  rw [Live.serve, Live.perform]
  rcases ran : operation (live.world, live.app) with ⟨outcome, world, app⟩
  cases outcome with
  | ok value => exact spec.returns serves ran
  | error error => exact stopped error _ (spec.stops serves ran)

omit [Clipboard κ] in
/-- A mutation followed by a listing lists the changed book, unless the listing comes too late. -/
theorem listed_after {α : Type} {operation : SessionAct δ CoreError α} {change : α → Book}
    (spec : Triple (Serves passwords book) operation (fun value => Serves passwords (change value))
      fun _ => Serves passwords book) :
    Triple (Serves passwords book) (operation >>= fun _ => listEntries)
      (fun handles state => ∃ value, Serves passwords (change value) state ∧
        (change value).Listed handles)
      (fun error state => Serves passwords book state ∨
        error = .locked ∧ ∃ value, Serves passwords (change value) state) := by
  refine .through (fun value => Serves passwords (change value))
    (spec.weaken (fun _ held => held) (fun _ _ held => held) fun _ _ held => .inl held)
    fun value => ?_
  exact (listed_listEntries (change value)).weaken (fun _ held => held)
    (fun _ _ held => ⟨value, held⟩) fun _ _ held => .inr ⟨held.1, value, held.2⟩

/-- A copy shows the clipboard a field of the book and reports its cookie. -/
theorem servedAs_copy (id : EntryId) (field : RevealField) {live : Live δ κ}
    (serves : Serves passwords book live.state) :
    ServedAs κ passwords book (.copy id field) (live.copy id field).1
      (live.copy id field).2.state := by
  have kept : Serves passwords book (live.copy id field).2.state :=
    serves.untouched (live.copy_untouched id field)
  rcases live with ⟨world, app, clipboard, liveCookie⟩
  cases clipboard with
  | none => exact ⟨book, .failed rfl, kept⟩
  | some clipboard =>
    rcases ran : copyToClipboard id field ((world, app), clipboard) with
      ⟨outcome, ⟨reached, left⟩, held⟩
    simp only [Live.copy, ran] at kept ⊢
    cases outcome with
    | error error => exact servedAs_onOpError rfl error kept
    | ok cookie =>
      obtain ⟨value, middle, revealed, rest⟩ := Op.bind_ok_cases ran
      obtain ⟨_, showing, rfl⟩ := Op.onFirst_cases revealed
      obtain ⟨stamped, _, written, rest⟩ := Op.bind_ok_cases rest
      obtain rfl := Except.ok.inj (Prod.mk.inj rest).1
      obtain ⟨_, entry, record, found, reads, rfl⟩ :=
        (serves_withRevealed book id _).returns serves showing
      exact ⟨book, .copied ⟨entry, found, reads⟩ ⟨clipboard, (Prod.mk.inj written).1⟩, kept⟩

/-- Every request to an open session is served. -/
theorem Live.handleUnlocked_served (aead : AeadLaws) (laws : PostcardLaws) (policies : PolicyLaws)
    (strict : StrictLaws) (factOverwrite : Bool) (request : Request) {live : Live δ κ}
    (serves : Serves passwords book live.state) (commits : live.world.Commits passwords)
    (used : ∀ password, request.password = some password → passwords password) :
    ServedAs κ passwords book request (live.handleUnlocked factOverwrite request).1
      (live.handleUnlocked factOverwrite request).2.state := by
  cases request with
  | lock => exact ⟨book, .lock, serves⟩
  | quit => exact ⟨book, .quit, serves⟩
  | create master kdf => exact ⟨book, .ignored rfl, serves⟩
  | unlock master code => exact ⟨book, .ignored rfl, serves⟩
  | refresh =>
    refine servedAs_serve ((listed_listEntries book).weaken (fun _ held => held)
      (fun handles _ held => ⟨book, .listed held.2, held.1⟩) fun _ _ held => held)
      (fun error _ held => servedAs_onOpError rfl error held.2) serves
  | reveal id field =>
    refine servedAs_serve ((serves_withRevealed book id _).returning fun value _ held => ?_)
      (fun error _ held => servedAs_onOpError rfl error held) serves
    obtain ⟨kept, entry, record, found, reads, rfl⟩ := held
    exact ⟨book, .revealed ⟨entry, found, reads⟩, kept⟩
  | copy id field => exact servedAs_copy id field serves
  | clearClipboard cookie =>
    exact ⟨book, .cleared, serves.untouched (live.clear_untouched factOverwrite cookie)⟩
  | generate length =>
    exact servedAs_serve ((serves_generatePassword book _).returning
      fun _ _ held => ⟨book, .generated, held⟩)
      (fun error _ held => servedAs_onOpError rfl error held) serves
  | add label username password url notes =>
    refine servedAs_serve ((listed_after (serves_addEntry aead laws strict book label .default
      ⟨username, password, url, notes⟩)).returning fun handles _ held => ?_)
      (fun error _ held => ?_) serves
    · obtain ⟨id, kept, listed⟩ := held
      exact ⟨_, .added listed, kept⟩
    · rcases held with held | ⟨rfl, id, kept⟩
      · exact servedAs_onOpError rfl error held
      · exact ⟨_, .addedUnlisted, kept⟩
  | remove id =>
    have removes : Triple (Serves passwords book) (removeEntry id : SessionAct δ CoreError Unit)
        (fun _ => Serves passwords (book.removes id)) fun _ => Serves passwords book :=
      serves_removeEntry aead laws strict book id
    refine servedAs_serve ((listed_after removes).returning fun handles _ held => ?_)
      (fun error _ held => ?_) serves
    · obtain ⟨_, kept, listed⟩ := held
      exact ⟨_, .removed listed, kept⟩
    · rcases held with held | ⟨rfl, _, kept⟩
      · exact servedAs_onOpError rfl error held
      · exact ⟨_, .removedUnlisted, kept⟩
  | exportRecovery master code preset =>
    have spec := serves_exportRecovery (δ := δ) aead policies book (used master rfl) (trim code)
      preset
    rw [Live.handleUnlocked, Live.perform]
    rcases ran : exportRecovery master (trim code) preset (live.world, live.app) with
      ⟨outcome, world, app⟩
    cases outcome with
    | ok file =>
      obtain ⟨kept, backed⟩ := spec.returns ⟨serves, commits⟩ ran
      exact ⟨book, .exported backed, kept⟩
    | error error =>
      have kept := spec.stops ⟨serves, commits⟩ ran
      cases error with
      | locked => exact ⟨book, .expired rfl, kept⟩
      | _ => exact ⟨book, .failed rfl, kept⟩
  | verifyTotp code =>
    exact ⟨book, .checked, serves.untouched (untouched_verifyTotpCode (trim code) live.state)⟩

/-- What a worker relies on: the passwords it is given are among those that open the vault under one
key only, and a session that was just opened is not read as expired. -/
structure Worker.Regular (passwords : String → Prop) (worker : Worker δ κ) (event : Event) :
    Prop where
  /-- The passwords open the stored vault under one key only. -/
  commits : worker.world.Commits passwords
  /-- The password of a request is one of them. -/
  used : ∀ request password, event = .taken request → request.password = some password →
    passwords password
  /-- The clock does not pass the expiry of a session before its first listing. -/
  timely : ∀ master code app reached, event = .taken (.unlock master code) →
    unlock master (trim code) worker.world = (.ok app, reached) →
      (Platform.now reached.device).1 < app.sessionExpiry

/-- A worker presents a service: its file shows the book, and an open session serves it. -/
def Worker.Presents (passwords : String → Prop) (worker : Worker δ κ) : Service → Prop
  | .locked held => worker.phase = .locked ∧ worker.world.Shows passwords held
  | .serving book => ∃ app liveCookie, worker.phase = .unlocked app liveCookie ∧
      Serves passwords book (worker.world, app)
  | .stopped held => worker.phase = .stopped ∧ worker.world.Shows passwords held

omit [Clipboard κ] in
/-- What is presented in an unlocked loop is an open book. -/
theorem Worker.Presents.serving {worker : Worker δ κ} {service : Service}
    (presents : worker.Presents passwords service) (unlocked : worker.phase.isUnlocked = true) :
    ∃ book, service = .serving book := by
  cases service with
  | serving book => exact ⟨book, rfl⟩
  | locked held =>
    rw [presents.1] at unlocked
    cases unlocked
  | stopped held =>
    rw [presents.1] at unlocked
    cases unlocked

/-- Following a flow leaves the book where the flow says. -/
theorem Worker.follow_presents (worker : Worker δ κ) (flow : Flow) (responses : List Response)
    {live : Live δ κ} (serves : Serves passwords book live.state) :
    (worker.follow flow responses live).1 = flow.sends responses ∧
      (worker.follow flow responses live).2.Presents passwords (flow.leaves book) := by
  have wiped := serves.untouched (live.wipe_untouched worker.factOverwrite)
  cases flow with
  | «continue» => exact ⟨rfl, live.app, live.liveCookie, rfl, serves⟩
  | lock => exact ⟨rfl, rfl, wiped.shown⟩
  | quit => exact ⟨rfl, rfl, wiped.shown⟩

omit [Clipboard κ] in
/-- A session that was opened is presented after its first listing, which is empty if it comes too
late. -/
theorem Worker.enter_presents (worker : Worker δ κ) {world : World δ} {app : UnlockedApp}
    (respond : List EntryHandle → Response) (serves : Serves passwords book (world, app)) :
    ∃ handles, (book.Listed handles ∨
        handles = [] ∧ app.sessionExpiry ≤ (Platform.now world.device).1) ∧
      (worker.enter world app respond).1 = [respond handles] ∧
      (worker.enter world app respond).2.Presents passwords (.serving book) := by
  have spec : Triple (Serves passwords book)
      (listEntries : SessionAct δ CoreError (List EntryHandle)) _ _ := listed_listEntries book
  rw [enter]
  rcases ran : (listEntries : SessionAct δ CoreError (List EntryHandle)) (world, app) with
    ⟨outcome, reached, left⟩
  cases outcome with
  | ok handles =>
    obtain ⟨kept, listed⟩ := spec.returns serves ran
    exact ⟨handles, .inl listed, rfl, left, none, rfl, kept⟩
  | error error =>
    obtain ⟨_, kept⟩ := spec.stops serves ran
    refine ⟨[], .inr ⟨rfl, ?_⟩, rfl, left, none, rfl, kept⟩
    by_contra live
    rw [listEntries, ensureUnlocked_live _ (UInt64.not_le.mp live)] at ran
    cases ran

/-- Every request to a worker that has the book put away takes a step of the service. -/
theorem Worker.handleLocked_steps (aead : AeadLaws) (laws : PostcardLaws) (strict : StrictLaws)
    (fits : IndexFits .current []) {worker : Worker δ κ} {held : Option Book}
    (locked : worker.phase = .locked) (shown : worker.world.Shows passwords held)
    (request : Request) (regular : worker.Regular passwords (.taken request)) :
    ∃ next, Service.Step κ (.taken request) (worker.handleLocked request).1 (.locked held) next ∧
      (worker.handleLocked request).2.Presents passwords next := by
  obtain ⟨commits, used, timely⟩ := regular
  cases request with
  | create master kdf =>
    have spec := serves_createVault (δ := δ) aead laws strict fits held (used _ master rfl rfl) kdf
      .default
    rw [handleLocked]
    rcases ran : createVault master kdf .default worker.world with ⟨outcome, world⟩
    cases outcome with
    | error error => exact ⟨_, .createFailed, locked, spec.stops shown ran⟩
    | ok opened =>
      obtain ⟨app, uri⟩ := opened
      obtain ⟨handles, listed, sent, presents⟩ :=
        worker.enter_presents (.created uri) (spec.returns shown ran)
      have none : handles = [] := by
        rcases listed with ⟨rows, lists, rfl⟩ | ⟨none, _⟩
        · rw [lists.none, List.map_nil]
        · exact none
      dsimp only
      rw [sent, none]
      exact ⟨_, .created, presents⟩
  | unlock master code =>
    have spec := serves_unlock (δ := δ) held (used _ master rfl rfl) (trim code)
    rw [handleLocked]
    rcases ran : Passman.unlock master (trim code) worker.world with ⟨outcome, world⟩
    cases outcome with
    | error error => exact ⟨_, .unlockFailed, locked, spec.stops ⟨shown, commits⟩ ran⟩
    | ok app =>
      obtain ⟨book, rfl, serves, _⟩ := spec.returns ⟨shown, commits⟩ ran
      obtain ⟨handles, listed, sent, presents⟩ := worker.enter_presents .unlocked serves
      have live := timely master code app world rfl ran
      have current : book.Listed handles := by
        rcases listed with listed | ⟨_, late⟩
        · exact listed
        · exact absurd live (UInt64.not_lt.mpr late)
      dsimp only
      rw [sent]
      exact ⟨_, .unlocked current, presents⟩
  | quit => exact ⟨_, .quit, rfl, shown⟩
  | clearClipboard cookie => exact ⟨_, .unheard, locked, shown⟩
  | _ => exact ⟨_, .refused rfl rfl, locked, shown⟩

/-- Every wake-up of a worker takes a step of the service it presents. -/
theorem Worker.step_steps (aead : AeadLaws) (laws : PostcardLaws) (policies : PolicyLaws)
    (strict : StrictLaws) (fits : IndexFits .current []) (worker : Worker δ κ) (event : Event)
    (service : Service) (presents : worker.Presents passwords service)
    (regular : worker.Regular passwords event) :
    ∃ next, Service.Step κ event (worker.step event).1 service next ∧
      (worker.next event).Presents passwords next := by
  rw [next]
  cases service with
  | stopped held =>
    obtain ⟨phase, shown⟩ := presents
    simp only [step, phase]
    exact ⟨_, .ended, phase, shown⟩
  | locked held =>
    obtain ⟨phase, shown⟩ := presents
    simp only [step, phase]
    cases event with
    | taken request => exact handleLocked_steps aead laws strict fits phase shown request regular
    | timeout => exact ⟨_, .idle, phase, shown⟩
    | disconnected => exact ⟨_, .closed, rfl, shown⟩
  | serving book =>
    obtain ⟨app, liveCookie, phase, serves⟩ := presents
    have opened : Serves passwords book (worker.live app liveCookie).state := serves
    cases event with
    | taken request =>
      rw [step_taken _ phase]
      obtain ⟨next, served, kept⟩ := Live.handleUnlocked_served aead laws policies strict
        worker.factOverwrite request opened regular.commits fun _ => regular.used _ _ rfl
      obtain ⟨sent, presents⟩ := worker.follow_presents
        ((worker.live app liveCookie).handleUnlocked worker.factOverwrite request).1.1
        ((worker.live app liveCookie).handleUnlocked worker.factOverwrite request).1.2 kept
      dsimp only
      rw [sent]
      exact ⟨_, .served served, presents⟩
    | timeout =>
      rw [step_timeout _ phase]
      have asked : Serves passwords book ((worker.live app liveCookie).inspect isExpired).2.state :=
        opened.untouched (untouched_isExpired _)
      obtain ⟨sent, presents⟩ := worker.follow_presents
        (if ((worker.live app liveCookie).inspect isExpired).1 then .lock else .continue) [] asked
      refine ⟨_, ?_, presents⟩
      dsimp only
      rw [sent]
      cases ((worker.live app liveCookie).inspect isExpired).1 with
      | true => exact .expired
      | false => exact .idle
    | disconnected =>
      rw [step_disconnected _ phase]
      obtain ⟨sent, presents⟩ := worker.follow_presents .quit [] opened
      refine ⟨_, ?_, presents⟩
      rw [sent]
      exact .closed

/-- The step of the service that a wake-up takes. -/
def Worker.Takes (worker : Worker δ κ) (event : Event) (service next : Service) : Prop :=
  Service.Step κ event (worker.step event).1 service next

/-- Every run of a worker follows the steps of the service that it presents, and presents the
service that the steps lead to. -/
theorem worker_refines_service (aead : AeadLaws) (laws : PostcardLaws) (policies : PolicyLaws)
    (strict : StrictLaws) (fits : IndexFits .current []) {worker : Worker δ κ} {service : Service}
    (presents : worker.Presents passwords service) (events : List Event)
    (regular : Along Worker.next (Worker.Regular passwords) worker events) :
    ∃ ending, Follows Worker.next Worker.Takes worker events service ending ∧
      (run Worker.next worker events).Presents passwords ending :=
  run_refines (Worker.step_steps aead laws policies strict fits) presents regular

end Serving

namespace Reference

/-- A vault is created, an entry is added, the session is locked, and the vault is unlocked. -/
def serving : List Event :=
  [.taken (.create "pw" kdfParams), .taken (.add "mail" "ann" "secret" "" ""), .taken .lock,
    .taken (.unlock "pw" currentCode), .timeout]

/-- The worker of the example after the first wake-ups. -/
@[irreducible] def servingWorker (count : Nat) : Worker Device (TextClipboard textDigest) :=
  letI := crates
  run Worker.next (.start world (some clipboard) true) (serving.take count)

/-- The worker under its name. -/
theorem servingWorker_run (count : Nat) : @run _ _ (@Worker.next Device _ _ _ crates)
    (.start world (some clipboard) true) (serving.take count) = servingWorker count := by
  unfold servingWorker
  rfl

/-- The vault of the example is unlocked before its session expires. -/
theorem serving_timely {app : UnlockedApp} {reached : World Device}
    (ran : @unlock Device _ crates "pw" (trim currentCode) (servingWorker 3).world =
      (.ok app, reached)) : (Platform.now reached.device).1 < app.sessionExpiry := by
  let _ := crates
  have live : ((unlock "pw" (trim currentCode) (servingWorker 3).world).1.toOption.all fun app =>
      decide ((Platform.now (unlock "pw" (trim currentCode) (servingWorker 3).world).2.device).1 <
        app.sessionExpiry)) = true := by decide +kernel
  rw [ran] at live
  exact of_decide_eq_true live

/-- A wake-up of an example that does not unlock is regular if it is given the one password. -/
theorem regular_plain {event : Event} (uses : ∀ request password, event = .taken request →
    request.password = some password → password = "pw")
    (other : ∀ master code, event ≠ .taken (.unlock master code))
    (worker : Worker Device (TextClipboard textDigest)) :
    @Worker.Regular Device _ _ crates (· = "pw") worker event :=
  let _ := crates
  ⟨commits_of_sole (fun _ _ one again => one.trans again.symm) _, uses,
    fun _ _ _ _ same => absurd same (other _ _)⟩

/-- The wake-ups of the example are regular. -/
theorem serving_regular : letI := crates
    Along Worker.next (Worker.Regular (· = "pw")) (.start world (some clipboard) true) serving := by
  let _ := crates
  rw [← List.take_append_drop 3 serving, along_append, servingWorker_run 3]
  refine ⟨⟨regular_plain ?_ (by simp) _, regular_plain ?_ (by simp) _,
    regular_plain ?_ (by simp) _, trivial⟩,
    ⟨commits_of_sole (fun _ _ one again => one.trans again.symm) _, ?_, ?_⟩,
    regular_plain ?_ (by simp) _, trivial⟩
  · rintro _ _ ⟨⟩ ⟨⟩
    rfl
  · rintro _ _ ⟨⟩ ⟨⟩
  · rintro _ _ ⟨⟩ ⟨⟩
  · rintro _ _ ⟨⟩ ⟨⟩
    rfl
  · rintro _ _ _ _ ⟨⟩ ran
    exact serving_timely ran
  · rintro _ _ ⟨⟩

end Reference

/-- The worker of the example serves a book after it was locked and unlocked. -/
theorem worker_refines_service_serving :
    letI := Reference.crates
    ∃ book, Follows Worker.next Worker.Takes
        (Worker.start Reference.world (some Reference.clipboard) true) Reference.serving
        (.locked none) (.serving book) ∧
      (Reference.servingWorker 5).Presents (· = "pw") (.serving book) := by
  let _ := Reference.crates
  obtain ⟨ending, follows, presents⟩ := worker_refines_service Reference.aeadLaws
    Reference.postcardLaws Reference.policyLaws Reference.strictLaws Reference.emptyIndex_fits
    (show (Worker.start Reference.world (some Reference.clipboard) true).Presents (· = "pw")
      (.locked none) from ⟨rfl, rfl⟩) Reference.serving Reference.serving_regular
  have same := Reference.servingWorker_run 5
  change run Worker.next _ Reference.serving = _ at same
  rw [same] at presents
  have opened : (Reference.servingWorker 5).phase.isUnlocked = true := by decide +kernel
  obtain ⟨book, rfl⟩ := presents.serving opened
  exact ⟨book, follows, presents⟩

end Passman
