import Passman.Cli.Commands
import Passman.Core.Book

/-!
# What the commands make of the book

A user sees a book: a vault is created or restored once, entries are added and removed one by
one, and a change of the master password leaves them as they are. Each command, run as a process
of its own over whatever the previous ones left, takes one step of that abstract machine and
prints what the step shows; a command that fails takes none. The commands that found a vault ask
whether there is one by the path; where the host fails to tell, a vault is not seen and is replaced.
-/
namespace Passman.Cli

open Bytewise Fallible

section Views

/-- The lines are the labels of a book, in order. -/
def Labels (book : Book) (lines : List String) : Prop :=
  lines.Pairwise (· ≤ ·) ∧ ∃ rows, book.Lists rows ∧ lines.Perm (rows.map IndexEntry.label)

/-- The identifier is that of an entry with the label. -/
def Labelled (book : Book) (label : String) (id : EntryId) : Prop :=
  ∃ entry, book.contents id = some entry ∧ entry.label = label

/-- The identifier is that of the only entry with the label. -/
def Names (book : Book) (label : String) (id : EntryId) : Prop :=
  ∀ other, Labelled book label other ↔ other = id

/-- The sorted labels of rows that list a book are its labels. -/
theorem labels_sorted {book : Book} {rows : Index} (lists : book.Lists rows) :
    Labels book (((rows.map fun row => EntryHandle.mk row.id row.label).mergeSort
      fun a b => a.label ≤ b.label).map EntryHandle.label) := by
  constructor
  · rw [List.pairwise_map]
    refine (List.pairwise_mergeSort (fun a b c => ?_) (fun a b => ?_) _).imp of_decide_eq_true
    · simp only [decide_eq_true_eq]
      exact le_trans
    · simp only [Bool.or_eq_true, decide_eq_true_eq]
      exact le_total _ _
  · refine ⟨rows, lists, ((List.mergeSort_perm _ _).map _).trans ?_⟩
    rw [List.map_map]
    exact .refl _

/-- The entries with a label are those of the rows with the label. -/
theorem labelled_iff {book : Book} {rows : Index} (lists : book.Lists rows) (label : String)
    (id : EntryId) : Labelled book label id ↔
      id ∈ ((rows.map fun row => EntryHandle.mk row.id row.label).filter
        fun handle => handle.label = label).map EntryHandle.id := by
  have same := lists.same id
  simp only [List.mem_map, List.mem_filter, decide_eq_true_eq]
  constructor
  · rintro ⟨entry, kept, labelled⟩
    rw [kept] at same
    obtain ⟨row, found, shown⟩ := Option.map_eq_some_iff.mp same
    obtain ⟨member, named⟩ := Keyed.lookup_some IndexEntry.id found
    have label' := (Prod.mk.inj shown).1
    exact ⟨⟨row.id, row.label⟩, ⟨⟨row, member, rfl⟩, label'.trans labelled⟩, named⟩
  · rintro ⟨_, ⟨⟨row, member, rfl⟩, labelled⟩, rfl⟩
    have stored : Index.get rows row.id = some row :=
      Keyed.lookup_mem IndexEntry.id lists.distinct member
    dsimp only at same labelled ⊢
    rw [stored] at same
    obtain ⟨entry, kept, shown⟩ := Option.map_eq_some_iff.mp same.symm
    exact ⟨entry, kept, (Prod.mk.inj shown).1.trans labelled⟩

/-- If the label is that of one row only, the row names the only entry with the label. -/
theorem names_of_filter {book : Book} {rows : Index} {label : String} {handle : EntryHandle}
    (lists : book.Lists rows)
    (found : ((rows.map fun row => EntryHandle.mk row.id row.label).filter
      fun handle => handle.label = label) = [handle]) : Names book label handle.id := by
  intro other
  rw [labelled_iff lists, found, List.map_singleton, List.mem_singleton]

/-- If no row has the label, no entry has it. -/
theorem unlabelled_of_filter {book : Book} {rows : Index} {label : String}
    (lists : book.Lists rows)
    (found : ((rows.map fun row => EntryHandle.mk row.id row.label).filter
      fun handle => handle.label = label) = []) (id : EntryId) : ¬ Labelled book label id := by
  rw [labelled_iff lists, found]
  exact List.not_mem_nil

/-- If several rows have the label, several entries have it. -/
theorem ambiguous_of_filter {book : Book} {rows : Index} {label : String}
    {handle other : EntryHandle} {others : List EntryHandle} (lists : book.Lists rows)
    (found : ((rows.map fun row => EntryHandle.mk row.id row.label).filter
      fun handle => handle.label = label) = handle :: other :: others) :
    ∃ first second, first ≠ second ∧ Labelled book label first ∧ Labelled book label second := by
  have distinct : ((rows.map fun row => EntryHandle.mk row.id row.label).map
      EntryHandle.id).Nodup := by
    rw [List.map_map]
    exact lists.distinct
  have apart : ((handle :: other :: others).map EntryHandle.id).Nodup :=
    distinct.sublist (found ▸ List.filter_sublist.map EntryHandle.id)
  rw [List.map_cons, List.nodup_cons] at apart
  refine ⟨handle.id, other.id, fun same => apart.1 ?_, (labelled_iff lists label _).mpr ?_,
    (labelled_iff lists label _).mpr ?_⟩
  · rw [same, List.map_cons]
    exact List.mem_cons_self
  · rw [found, List.map_cons]
    exact List.mem_cons_self
  · rw [found, List.map_cons, List.map_cons]
    exact List.mem_cons_of_mem _ List.mem_cons_self

/-- The label of the entry that a command looks for. -/
def Command.sought : Command → Option String
  | get label _ _ => some label
  | rm label => some label
  | _ => none

/-- What is true of the book, the other files and what was typed when a command fails. -/
def Failure.Explained (command : Command) (files : Path → Option Bytes) (held : Option Book)
    (typed : List String) : Failure → Prop
  | alreadyRunning => typed = []
  | noVault _ => typed = []
  | vaultExists _ => typed = [] ∧ held ≠ none
  | vaultExistsOnImport _ => typed = [] ∧ held ≠ none
  | noEntry label => command.sought = some label ∧ ∃ book, held = some book ∧
      ∀ id, ¬ Labelled book label id
  | severalEntries label => command.sought = some label ∧ ∃ book, held = some book ∧
      ∃ first second, first ≠ second ∧ Labelled book label first ∧ Labelled book label second
  | mismatch => ∃ front first again, typed = front ++ [first, again] ∧ first ≠ again
  | fileExists path => held ≠ none ∨ (files path).isSome = true
  | _ => True

/-- A step of the book: a command with its outcome and its transcript, for the paths of a vault that
may not be seen, and the other files there were. -/
inductive Step [Crates] (unseen : Path → Prop) (files : Path → Option Bytes) :
    Command → Except Failure Unit → Transcript → Option Book → Option Book → Prop
  /-- A command that fails prints no data and leaves the book and the files. -/
  | failed {command : Command} {failure : Failure} {typed : List String} {held : Option Book}
    (explained : failure.Explained command files held typed) :
    Step unseen files command (.error failure) ⟨typed, [], files⟩ held held
  /-- A vault is created where there is none, under a password that was typed twice. -/
  | init {preset : Preset} {master uri : String} {key : MasterKey} :
    Step unseen files (.init preset) (.ok ()) ⟨[master, master], [uri], files⟩ none
      (some ⟨key, Contents.empty⟩)
  /-- A vault that may not be seen is replaced by a created one. -/
  | initOver {preset : Preset} {master uri : String} {path : Path} {book : Book} {key : MasterKey}
    (hidden : unseen path) :
    Step unseen files (.init preset) (.ok ()) ⟨[master, master], [uri], files⟩ (some book)
      (some ⟨key, Contents.empty⟩)
  /-- The labels are printed in order. -/
  | list {master code : String} {lines : List String} {book : Book} (labels : Labels book lines) :
    Step unseen files .list (.ok ()) ⟨[master, code], lines, files⟩ (some book) (some book)
  /-- An entry with the typed fields is put into the book; its password is generated or was typed
  twice. -/
  | add (label : String) (generatePw : Bool) (length : Option UInt16) (book : Book) (id : EntryId)
    (master code username password url notes : String) :
    Step unseen files (.add label generatePw length) (.ok ())
      ⟨[master, code, username] ++ (if generatePw then [] else [password, password]) ++
        [url, notes], [], files⟩ (some book)
      (some (book.adds id label
        { EntryPolicy.default with length := some (length.getD defaultLength) }
        ⟨username, password, url, notes⟩))
  /-- A field of the only entry with the label is printed. -/
  | shown {label master code : String} {field : Field} {book : Book} {id : EntryId} {entry : Entry}
    {record : EntryRecord} (names : Names book label id) (kept : book.contents id = some entry)
    (reads : entry.record = .ok record) :
    Step unseen files (.get label true field) (.ok ())
      ⟨[master, code], [fieldString record field], files⟩ (some book) (some book)
  /-- A field of the only entry with the label is copied. -/
  | copied {label master code : String} {field : Field} {book : Book} {id : EntryId}
    (names : Names book label id) :
    Step unseen files (.get label false field) (.ok ()) ⟨[master, code], [], files⟩ (some book)
      (some book)
  /-- The only entry with the label is dropped. -/
  | rm {label master code : String} {book : Book} {id : EntryId} (names : Names book label id) :
    Step unseen files (.rm label) (.ok ()) ⟨[master, code], [], files⟩ (some book)
      (some (book.removes id))
  /-- A password is printed. -/
  | gen {length : Option UInt16} {password : String} {held : Option Book} :
    Step unseen files (.gen length) (.ok ()) ⟨[], [password], files⟩ held held
  /-- A file that backs the book is written where there was none, after the credentials were typed
  again. -/
  | export {file : Path} {preset : RecPreset} {master code again fresh : String} {book : Book}
    {bytes : Bytes} (absent : files file = none) (backed : book.BackedBy bytes again) :
    Step unseen files (.export file preset) (.ok ())
      ⟨[master, code, again, fresh], [], Function.update files file (some bytes)⟩ (some book)
      (some book)
  /-- An export that fails can leave a file where there was none. -/
  | exportFailed {file : Path} {preset : RecPreset} {error : String} {typed : List String}
    {book : Book} {bytes : Bytes} (absent : files file = none) :
    Step unseen files (.export file preset) (.error (.fileWrite file error))
      ⟨typed, [], Function.update files file (some bytes)⟩ (some book) (some book)
  /-- A vault is restored where there is none, with what the file holds for the typed password. A
  restoration that stored the vault can still be reported as failed. -/
  | import {file : Path} {preset : Preset} {outcome : Except Failure Unit} {lines : List String}
    {bytes : Bytes} {password : String} {items : List Item} {key : MasterKey}
    (found : files file = some bytes) (recovers : Recovers bytes password items)
    (reported : (outcome = .ok () ∧ ∃ uri, lines = [uri]) ∨
      ∃ error, outcome = .error (.importRecovery error) ∨ outcome = .error (.session error)) :
    Step unseen files (.import file preset) outcome ⟨[password], lines, files⟩ none
      (some ⟨key, Contents.empty.putAll items⟩)
  /-- A vault that may not be seen is replaced by a restored one; the file may be that vault. -/
  | importOver {file path : Path} {preset : Preset} {outcome : Except Failure Unit}
    {lines : List String} {bytes : Bytes} {password : String} {items : List Item} {book : Book}
    {key : MasterKey} (hidden : unseen path) (found : files file = some bytes ∨ file = path)
    (recovers : Recovers bytes password items)
    (reported : (outcome = .ok () ∧ ∃ uri, lines = [uri]) ∨
      ∃ error, outcome = .error (.importRecovery error) ∨ outcome = .error (.session error)) :
    Step unseen files (.import file preset) outcome ⟨[password], lines, files⟩ (some book)
      (some ⟨key, Contents.empty.putAll items⟩)
  /-- The book is carried over to the key of a password that was typed twice. -/
  | passwd {preset : Preset} {master code old new : String} {book : Book} {key : MasterKey} :
    Step unseen files (.passwd preset) (.ok ()) ⟨[master, code, old, new, new], [], files⟩
      (some book) (some (book.under key))

variable [Crates] {unseen : Path → Prop} {files : Path → Option Bytes} {held : Option Book}

/-- A creation founds a book where there is none, or where it may not be seen. -/
theorem Step.founds {path : Path} (free : held = none ∨ unseen path) {preset : Preset}
    {master uri : String} {key : MasterKey} :
    Step unseen files (.init preset) (.ok ()) ⟨[master, master], [uri], files⟩ held
      (some ⟨key, Contents.empty⟩) := by
  cases held with
  | none => exact .init
  | some book =>
    rcases free with clash | hidden
    · cases clash
    · exact .initOver hidden

/-- A restoration founds a book where there is none, or where it may not be seen. -/
theorem Step.refounds {file path : Path} (free : held = none ∨ unseen path) {preset : Preset}
    {outcome : Except Failure Unit} {lines : List String} {bytes : Bytes} {password : String}
    {items : List Item} {key : MasterKey}
    (found : files file = some bytes ∨ file = path ∧ held ≠ none)
    (recovers : Recovers bytes password items)
    (reported : (outcome = .ok () ∧ ∃ uri, lines = [uri]) ∨
      ∃ error, outcome = .error (.importRecovery error) ∨ outcome = .error (.session error)) :
    Step unseen files (.import file preset) outcome ⟨[password], lines, files⟩ held
      (some ⟨key, Contents.empty.putAll items⟩) := by
  cases held with
  | none =>
    rcases found with found | ⟨_, clash⟩
    · exact .import found recovers reported
    · exact absurd rfl clash
  | some book =>
    rcases free with clash | hidden
    · cases clash
    · exact .importOver hidden (found.imp_right And.left) recovers reported

end Views

section Stages

variable {δ σ κ ε α : Type} [Host σ]

/-- The terminal can answer with the secret. -/
def Types (σ : Type) [Host σ] (secret : String) : Prop :=
  ∃ prompt, ∃ host : σ, (Host.readSecret prompt host).1 = .ok secret

variable [Platform δ] [Crates]

/-- Before a vault is opened: the file shows a book, and what can be typed opens one key only. -/
structure Before (held : Option Book) (transcript : Transcript) (shell : Shell δ σ κ) : Prop where
  /-- The file shows the book. -/
  shown : shell.world.Shows (Types σ) held
  /-- What was typed and printed. -/
  transcript : shell.transcript = transcript
  /-- What can be typed opens the vault under one key only. -/
  commits : shell.world.Commits (Types σ)

/-- While a session is open: it serves the book. -/
structure During (book : Book) (app : UnlockedApp) (transcript : Transcript)
    (shell : Shell δ σ κ) : Prop where
  /-- The session serves the book. -/
  serves : Serves (Types σ) book (shell.world, app)
  /-- What was typed and printed. -/
  transcript : shell.transcript = transcript

/-- While the vault that was unlocked is stored: what can be typed still opens it only. -/
structure Fresh (book : Book) (app : UnlockedApp) (transcript : Transcript)
    (shell : Shell δ σ κ) : Prop extends During book app transcript shell where
  /-- What can be typed opens the vault under one key only. -/
  commits : shell.world.Commits (Types σ)

/-- At the end: what is shown. -/
structure After (held : Option Book) (transcript : Transcript) (shell : Shell δ σ κ) : Prop where
  /-- The file shows the book. -/
  shown : shell.world.Shows (Types σ) held
  /-- What was typed and printed. -/
  transcript : shell.transcript = transcript

/-- What holds whatever the host answers, and follows what is typed and printed. -/
structure Steady (stage : Transcript → Shell δ σ κ → Prop) : Prop where
  /-- The host is asked. -/
  host : ∀ {transcript shell} host, stage transcript shell → stage transcript { shell with host }
  /-- Something is typed. -/
  typed : ∀ {transcript shell} answer, stage transcript shell →
    stage ⟨transcript.typed ++ [answer], transcript.data, transcript.files⟩
      { shell with typed := shell.typed ++ [answer] }
  /-- Something is printed. -/
  printed : ∀ {transcript shell} line, stage transcript shell →
    stage ⟨transcript.typed, transcript.data ++ (Line.data line).toList, transcript.files⟩
      { shell with printed := shell.printed ++ [line] }

omit [Host σ] [Platform δ] [Crates] in
/-- Typing is recorded in the transcript. -/
theorem transcript_typed {transcript : Transcript} {shell : Shell δ σ κ} (answer : String)
    (same : shell.transcript = transcript) :
    ({ shell with typed := shell.typed ++ [answer] } : Shell δ σ κ).transcript =
      ⟨transcript.typed ++ [answer], transcript.data, transcript.files⟩ := by
  subst same
  rfl

omit [Host σ] [Platform δ] [Crates] in
/-- Printed data is recorded in the transcript. -/
theorem transcript_printed {transcript : Transcript} {shell : Shell δ σ κ} (line : Line)
    (same : shell.transcript = transcript) :
    ({ shell with printed := shell.printed ++ [line] } : Shell δ σ κ).transcript =
      ⟨transcript.typed, transcript.data ++ (Line.data line).toList, transcript.files⟩ := by
  subst same
  rw [Shell.transcript, Shell.transcript, Transcript.mk.injEq]
  refine ⟨rfl, ?_, rfl⟩
  rw [List.filterMap_append]
  cases line <;> rfl

/-- The stage before a vault is opened is steady. -/
theorem steady_before (held : Option Book) :
    Steady (Before (δ := δ) (σ := σ) (κ := κ) held) where
  host _ stage := ⟨stage.shown, stage.transcript, stage.commits⟩
  typed answer stage := ⟨stage.shown, transcript_typed answer stage.transcript, stage.commits⟩
  printed line stage := ⟨stage.shown, transcript_printed line stage.transcript, stage.commits⟩

/-- The stage with an open session is steady. -/
theorem steady_during (book : Book) (app : UnlockedApp) :
    Steady (During (δ := δ) (σ := σ) (κ := κ) book app) where
  host _ stage := ⟨stage.serves, stage.transcript⟩
  typed answer stage := ⟨stage.serves, transcript_typed answer stage.transcript⟩
  printed line stage := ⟨stage.serves, transcript_printed line stage.transcript⟩

/-- The stage after an unlock is steady. -/
theorem steady_fresh (book : Book) (app : UnlockedApp) :
    Steady (Fresh (δ := δ) (σ := σ) (κ := κ) book app) where
  host _ stage := ⟨⟨stage.serves, stage.transcript⟩, stage.commits⟩
  typed answer stage := ⟨⟨stage.serves, transcript_typed answer stage.transcript⟩, stage.commits⟩
  printed line stage := ⟨⟨stage.serves, transcript_printed line stage.transcript⟩, stage.commits⟩

/-- The stage at the end is steady. -/
theorem steady_after (held : Option Book) :
    Steady (After (δ := δ) (σ := σ) (κ := κ) held) where
  host _ stage := ⟨stage.shown, stage.transcript⟩
  typed answer stage := ⟨stage.shown, transcript_typed answer stage.transcript⟩
  printed line stage := ⟨stage.shown, transcript_printed line stage.transcript⟩

variable {stage : Transcript → Shell δ σ κ → Prop} {transcript : Transcript}
  {stop : ε → Shell δ σ κ → Prop}

omit [Host σ] [Platform δ] [Crates] in
/-- Asking the host keeps a steady stage. -/
theorem triple_askHost (steady : Steady stage) (query : σ → α × σ) :
    Triple (stage transcript) (askHost query) (fun _ => stage transcript) stop where
  returns held ran := by
    obtain ⟨_, rfl⟩ := Prod.mk.inj ran
    exact steady.host _ held
  stops _ ran := by cases ran

omit [Host σ] [Platform δ] [Crates] in
/-- A line of data is recorded. -/
theorem triple_out (steady : Steady stage) (text : String) :
    Triple (stage transcript) (out text)
      (fun _ => stage ⟨transcript.typed, transcript.data ++ [text], transcript.files⟩) stop :=
  .modify fun _ held => steady.printed (.out text) held

omit [Host σ] [Platform δ] [Crates] in
/-- A line of status is not recorded. -/
theorem triple_err (steady : Steady stage) (notice : Notice) :
    Triple (stage transcript) (err notice) (fun _ => stage transcript) stop :=
  .modify fun _ held => by
    have printed := steady.printed (.err notice) held
    rwa [show transcript.data ++ (Line.data (.err notice)).toList = transcript.data from
      List.append_nil _] at printed

end Stages

section Rules

variable {δ σ κ : Type} [Host σ] {stage : Transcript → Shell δ σ κ → Prop}
  {transcript : Transcript} {command : Command} {files : Path → Option Bytes} {held : Option Book}
  {stop : Failure → Shell δ σ κ → Prop}

/-- A failure that is explained may be reported from the stage as long as no data was printed and no
file was written. -/
def Quits (command : Command) (files : Path → Option Bytes) (held : Option Book)
    (stage : Transcript → Shell δ σ κ → Prop) (stop : Failure → Shell δ σ κ → Prop) : Prop :=
  ∀ {typed shell failure}, failure.Explained command files held typed →
    stage ⟨typed, [], files⟩ shell → stop failure shell

omit [Host σ] in
/-- An answer is recorded, and is one the query can give. -/
theorem triple_readAnswer (steady : Steady stage)
    (quits : Quits command files held stage stop) (typed : List String)
    (query : σ → Except String String × σ) :
    Triple (stage ⟨typed, [], files⟩) (readAnswer query) (fun answer shell =>
      stage ⟨typed ++ [answer], [], files⟩ shell ∧ ∃ host, (query host).1 = .ok answer) stop := by
  refine .through (fun reply shell =>
    stage ⟨typed, [], files⟩ shell ∧ ∃ host, (query host).1 = reply)
    ⟨fun held ran => ?_, fun _ ran => ?_⟩ fun reply => ?_
  · obtain ⟨same, rfl⟩ := Prod.mk.inj ran
    exact ⟨steady.host _ held, _, Except.ok.inj same⟩
  · cases ran
  · cases reply with
    | ok answer =>
      refine .through (fun _ shell => stage ⟨typed ++ [answer], [], files⟩ shell ∧
        ∃ host, (query host).1 = .ok answer) (.modify fun _ held => ?_)
        fun _ => .pure fun _ held => held
      exact ⟨steady.typed answer held.1, held.2⟩
    | error error => exact .fail fun _ asked => quits trivial asked.1

/-- A secret is recorded. -/
theorem triple_readSecret (steady : Steady stage)
    (quits : Quits command files held stage stop) (typed : List String) (prompt : String) :
    Triple (stage ⟨typed, [], files⟩) (readSecret prompt) (fun secret shell =>
      stage ⟨typed ++ [secret], [], files⟩ shell ∧ Types σ secret) stop :=
  (triple_readAnswer steady quits typed (Host.readSecret prompt)).returning
    fun _ _ read => ⟨read.1, prompt, read.2⟩

/-- A line is recorded. -/
theorem triple_readLine (steady : Steady stage)
    (quits : Quits command files held stage stop) (typed : List String) (prompt : String) :
    Triple (stage ⟨typed, [], files⟩) (readLine prompt)
      (fun line => stage ⟨typed ++ [line], [], files⟩) stop :=
  (triple_readAnswer steady quits typed (Host.readLine prompt)).returning fun _ _ read => read.1

/-- A new password was typed twice. -/
theorem triple_readNewPassword (steady : Steady stage) (quits : Quits command files held stage stop)
    (typed : List String) (prompt : String) :
    Triple (stage ⟨typed, [], files⟩) (readNewPassword prompt) (fun password shell =>
      stage ⟨typed ++ [password, password], [], files⟩ shell ∧ Types σ password) stop := by
  refine .bind (triple_readSecret steady quits typed prompt) fun first => .given fun types => ?_
  refine .through (fun again => stage ⟨typed ++ [first] ++ [again], [], files⟩)
    ((triple_readSecret steady quits (typed ++ [first]) "Confirm: ").returning
      fun _ _ read => read.1) fun again => ?_
  by_cases differ : first ≠ again
  · rw [if_pos differ]
    refine .fail fun _ stage => quits ⟨typed, first, again, ?_, differ⟩ stage
    rw [List.append_assoc]
    rfl
  · rw [if_neg differ]
    refine .pure fun _ held => ⟨?_, types⟩
    rw [not_not] at differ
    rw [← differ, List.append_assoc] at held
    exact held

omit [Host σ] in
/-- A line of status under a condition is not recorded. -/
theorem triple_noteIf (steady : Steady stage) (condition : Bool) (notice : Notice) :
    Triple (stage transcript) (noteIf condition notice) (fun _ => stage transcript) stop := by
  cases condition with
  | true => exact triple_err steady notice
  | false => exact .pure fun _ held => held

omit [Host σ] in
/-- Lines of data are recorded in order. -/
theorem triple_outs {α : Type} (steady : Steady stage) (text : α → String) (items : List α)
    (typed lines : List String) :
    Triple (stage ⟨typed, lines, files⟩) (items.forM fun item => out (text item))
      (fun _ => stage ⟨typed, lines ++ items.map text, files⟩) stop := by
  induction items generalizing lines with
  | nil =>
    rw [List.map_nil, List.append_nil]
    exact .pure fun _ held => held
  | cons item items ih =>
    change Triple _ (out (text item) >>= fun _ => items.forM fun item => out (text item)) _ _
    refine .bind (triple_out steady (text item)) fun _ => ?_
    have rest := ih (lines ++ [text item])
    rw [List.append_assoc, List.singleton_append] at rest
    exact rest

end Rules

section Lifts

variable {δ σ κ ε α : Type} {transcript : Transcript}

/-- An operation of the application leaves the transcript. -/
theorem triple_inApp {pre : World δ → Prop} {operation : Act δ ε α} {post : α → World δ → Prop}
    {stop : ε → World δ → Prop} (spec : Triple pre operation post stop) :
    Triple (fun shell : Shell δ σ κ => pre shell.world ∧ shell.transcript = transcript)
      (inApp operation)
      (fun value shell => post value shell.world ∧ shell.transcript = transcript)
      (fun error shell => stop error shell.world ∧ shell.transcript = transcript) where
  returns held ran := by
    obtain ⟨same, rfl⟩ := Prod.mk.inj ran
    exact ⟨spec.returns held.1 (Prod.ext same rfl), held.2⟩
  stops held ran := by
    obtain ⟨same, rfl⟩ := Prod.mk.inj ran
    exact ⟨spec.stops held.1 (Prod.ext same rfl), held.2⟩

/-- An operation of a session leaves the transcript. -/
theorem triple_inSession {pre : World δ × UnlockedApp → Prop} {operation : SessionAct δ ε α}
    {post : α → World δ × UnlockedApp → Prop} {stop : ε → World δ × UnlockedApp → Prop}
    (spec : Triple pre operation post stop) (app : UnlockedApp) :
    Triple (fun shell : Shell δ σ κ => pre (shell.world, app) ∧ shell.transcript = transcript)
      (inSession app operation)
      (fun result shell => post result.1 (shell.world, result.2) ∧ shell.transcript = transcript)
      (fun error shell => (∃ app, stop error (shell.world, app)) ∧
        shell.transcript = transcript) where
  returns := by
    rintro shell ⟨value, left⟩ after held ran
    rcases inner : operation (shell.world, app) with ⟨outcome, world, app⟩
    rw [inSession, inner] at ran
    obtain ⟨same, rfl⟩ := Prod.mk.inj ran
    cases outcome with
    | ok found =>
      obtain ⟨rfl, rfl⟩ := Prod.mk.inj (Except.ok.inj same)
      exact ⟨spec.returns held.1 inner, held.2⟩
    | error error => cases same
  stops := by
    rintro shell error after held ran
    rcases inner : operation (shell.world, app) with ⟨outcome, world, app⟩
    rw [inSession, inner] at ran
    obtain ⟨same, rfl⟩ := Prod.mk.inj ran
    cases outcome with
    | ok found => cases same
    | error reason =>
      obtain rfl := Except.error.inj same
      exact ⟨⟨app, spec.stops held.1 inner⟩, held.2⟩

end Lifts

section Opening

variable {δ σ κ : Type} [Platform δ] [Host σ] [Crates] {env : CliEnv} {command : Command}
  {unseen : Path → Prop} {files : Path → Option Bytes} {held : Option Book}
  {stop : Failure → Shell δ σ κ → Prop}

/-- What a failed command leaves: a step of the book that ends in failure. -/
def Stopped (unseen : Path → Prop) (files : Path → Option Bytes) (command : Command)
    (held : Option Book) (failure : Failure) (shell : Shell δ σ κ) : Prop :=
  ∃ next, shell.world.Shows (Types σ) next ∧
    Step unseen files command (.error failure) shell.transcript held next

/-- What a successful command leaves: a step of the book. -/
def Stepped (unseen : Path → Prop) (files : Path → Option Bytes) (command : Command)
    (held : Option Book) (shell : Shell δ σ κ) : Prop :=
  ∃ next, shell.world.Shows (Types σ) next ∧
    Step unseen files command (.ok ()) shell.transcript held next

/-- A command that printed no data may fail where the book is still shown. -/
theorem stopped_of_shown {typed : List String} {shell : Shell δ σ κ} {failure : Failure}
    (explained : failure.Explained command files held typed)
    (shown : shell.world.Shows (Types σ) held)
    (quiet : shell.transcript = ⟨typed, [], files⟩) :
    Stopped unseen files command held failure shell :=
  ⟨held, shown, quiet ▸ .failed explained⟩

/-- Before a vault is opened a command may fail. -/
theorem quits_before : Quits command files held (Before (δ := δ) (σ := σ) (κ := κ) held)
    (Stopped unseen files command held) :=
  fun explained stage => stopped_of_shown explained stage.shown stage.transcript

/-- While a session is open a command may fail. -/
theorem quits_during {book : Book} (app : UnlockedApp) :
    Quits command files (some book) (During (δ := δ) (σ := σ) (κ := κ) book app)
      (Stopped unseen files command (some book)) :=
  fun explained stage => stopped_of_shown explained stage.serves.shown stage.transcript

/-- After an unlock a command may fail. -/
theorem quits_fresh {book : Book} (app : UnlockedApp) :
    Quits command files (some book) (Fresh (δ := δ) (σ := σ) (κ := κ) book app)
      (Stopped unseen files command (some book)) :=
  fun explained stage => quits_during app explained stage.toDuring

/-- Opening the application changes nothing that is shown. -/
theorem triple_openApp (kind : HsmKind) :
    Triple (Before held ⟨[], [], files⟩) (openApp env kind : Run δ σ κ Unit)
      (fun _ => Before held ⟨[], [], files⟩) (Stopped unseen files command held) := by
  refine .bind (triple_askHost (steady_before held) _) fun reply => ?_
  cases reply with
  | some error =>
    have failed (failure : Failure) (explained : failure.Explained command files held []) :
        Triple (Before held ⟨[], [], files⟩) (Op.fail failure : Run δ σ κ Unit)
          (fun _ => Before held ⟨[], [], files⟩) (Stopped unseen files command held) :=
      .fail fun _ stage => quits_before explained stage
    cases error with
    | alreadyRunning => exact failed .alreadyRunning rfl
    | _ => exact failed (.openVault _) trivial
  | none =>
    exact .modify fun shell stage =>
      ⟨stage.shown.of_file rfl, stage.transcript, stage.commits.rewrites (.inl rfl)⟩

/-- A path that is found has a file; one that is not found has none, or cannot be queried. -/
theorem triple_pathExists (path : Path) {transcript : Transcript} :
    Triple (Before held transcript) (pathExists env path : Run δ σ κ Bool)
      (fun found shell => Before held transcript shell ∧
        (found = true → (shell.file env path).isSome = true) ∧ (found = false →
          (∃ host : σ, (Host.statFault path host).1 = true) ∨ shell.file env path = none))
      stop := by
  refine .through (fun fault shell => Before held transcript shell ∧
    ∃ host : σ, (Host.statFault path host).1 = fault) ⟨fun stage ran => ?_, fun _ ran => ?_⟩
    fun fault => ⟨fun stage ran => ?_, fun _ ran => ?_⟩
  · obtain ⟨same, rfl⟩ := Prod.mk.inj ran
    exact ⟨(steady_before held).host _ stage, _, Except.ok.inj same⟩
  · cases ran
  · obtain ⟨before, faulted⟩ := stage
    obtain ⟨same, rfl⟩ := Prod.mk.inj ran
    obtain rfl := Except.ok.inj same
    refine ⟨before, fun found => ?_, fun missing => ?_⟩
    · rw [Bool.and_eq_true] at found
      exact found.2
    · cases fault with
      | true => exact .inl faulted
      | false => exact .inr (Option.not_isSome_iff_eq_none.mp (Bool.eq_false_iff.mp missing))
  · cases ran

/-- Where there is a vault file there is a book. -/
theorem Before.held_of_file {transcript : Transcript} {shell : Shell δ σ κ}
    (before : Before held transcript shell) (found : shell.world.file.isSome = true) :
    held ≠ none := by
  rintro rfl
  rw [show shell.world.file = none from before.shown] at found
  cases found

/-- A command that refuses a vault goes on where there is none, or where it may not be seen. -/
theorem triple_refuseVault (failure : Path → Failure)
    (explained : held ≠ none → (failure env.vault).Explained command files held [])
    (hides : ∀ host : σ, (Host.statFault env.vault host).1 = true → unseen env.vault) :
    Triple (Before held ⟨[], [], files⟩) (refuseVault env failure : Run δ σ κ Unit)
      (fun _ shell => Before held ⟨[], [], files⟩ shell ∧ (held = none ∨ unseen env.vault))
      (Stopped unseen files command held) := by
  refine .bind (triple_pathExists env.vault) fun found => ?_
  cases found with
  | true =>
    refine .fail fun shell stage => quits_before (explained (stage.1.held_of_file ?_)) stage.1
    have found := stage.2.1 rfl
    rwa [Shell.file, if_pos rfl] at found
  | false =>
    refine .pure fun shell stage => ⟨stage.1, ?_⟩
    obtain ⟨before, _, missing⟩ := stage
    rcases missing rfl with ⟨host, faulted⟩ | absent
    · exact .inr (hides host faulted)
    · rw [Shell.file, if_pos rfl] at absent
      cases held with
      | none => exact .inl rfl
      | some book =>
        obtain ⟨bytes, present, _⟩ := before.shown
        rw [absent] at present
        cases present

/-- Creating the directories changes nothing that is shown. -/
theorem triple_ensureDirs :
    Triple (Before held ⟨[], [], files⟩) (ensureDirs : Run δ σ κ Unit)
      (fun _ => Before held ⟨[], [], files⟩) (Stopped unseen files command held) := by
  refine .bind (triple_askHost (steady_before held) _) fun reply => ?_
  cases reply with
  | some error => exact .fail fun _ stage => quits_before trivial stage
  | none => exact .pure fun _ stage => stage

/-- What is read from a file was in it, or the file is the vault. -/
theorem triple_readFile (path : Path) :
    Triple (Before held ⟨[], [], files⟩) (readFile env path : Run δ σ κ Bytes)
      (fun bytes shell => Before held ⟨[], [], files⟩ shell ∧
        (files path = some bytes ∨ path = env.vault ∧ held ≠ none))
      (Stopped unseen files command held) := by
  refine .bind (triple_askHost (steady_before held) _) fun fault => ?_
  refine .get fun start => ?_
  cases fault with
  | some error => exact .fail fun _ stage => quits_before trivial stage.2
  | none =>
    cases present : start.file env path with
    | none => exact .fail fun _ stage => quits_before trivial stage.2
    | some bytes =>
      refine .pure fun shell stage => ⟨stage.2, ?_⟩
      obtain ⟨rfl, before⟩ := stage
      by_cases vault : path = env.vault
      · rw [Shell.file, if_pos vault] at present
        exact .inr ⟨vault, before.held_of_file (Option.isSome_iff_exists.mpr ⟨bytes, present⟩)⟩
      · rw [Shell.file, if_neg vault] at present
        rw [← (Transcript.mk.inj before.transcript).2.2]
        exact .inl present

/-- Unlocking with what is typed opens a session that serves the book, where there is one. -/
theorem triple_unlock :
    Triple (Before held ⟨[], [], files⟩) (unlock env : Run δ σ κ UnlockedApp)
      (fun app shell => ∃ book master code, Fresh book app ⟨[master, code], [], files⟩ shell ∧
        held = some book) (Stopped unseen files command held) := by
  have steady := steady_before (δ := δ) (σ := σ) (κ := κ) held
  refine .through (fun _ => Before held ⟨[], [], files⟩) ?_ fun _ => ?_
  · refine .bind (triple_pathExists env.vault) fun found => ?_
    cases found with
    | true => exact .pure fun _ stage => stage.1
    | false => exact .fail fun _ stage => quits_before rfl stage.1
  refine .bind (triple_readSecret steady quits_before [] _) fun master => ?_
  refine .given fun types => ?_
  refine .bind (triple_readLine steady quits_before [master] _) fun code => ?_
  refine .mapError ((triple_inApp (serves_unlock held types (trim code))).weaken
    (fun shell stage => ⟨⟨stage.shown, stage.commits⟩, stage.transcript⟩) ?_ ?_)
  · rintro app shell ⟨⟨book, rfl, serves, commits⟩, transcript⟩
    exact ⟨book, master, code, ⟨⟨serves, transcript⟩, commits⟩, rfl⟩
  · rintro error shell ⟨shown, transcript⟩
    exact stopped_of_shown trivial shown transcript

end Opening

section Commands

variable {δ σ κ : Type} [Platform δ] [Host σ] [Crates] {env : CliEnv}
  {unseen : Path → Prop} {files : Path → Option Bytes} {held : Option Book}

/-- A creation founds an empty book where there is none, or where it may not be seen. -/
theorem triple_cmdInit (aead : AeadLaws) (laws : PostcardLaws) (strict : StrictLaws)
    (fits : IndexFits .current []) (preset : Preset)
    (hides : ∀ host : σ, (Host.statFault env.vault host).1 = true → unseen env.vault) :
    Triple (Before held ⟨[], [], files⟩) (cmdInit env preset : Run δ σ κ Unit)
      (fun _ => Stepped unseen files (.init preset) held)
      (Stopped unseen files (.init preset) held) := by
  refine .bind (triple_refuseVault _ (fun some => ⟨rfl, some⟩) hides) fun _ =>
    .given fun free => ?_
  have steady := steady_before (δ := δ) (σ := σ) (κ := κ) held
  refine .bind triple_ensureDirs fun _ => ?_
  refine .bind (triple_readNewPassword steady quits_before [] _) fun master =>
    .given fun types => ?_
  refine .bind (triple_noteIf steady _ _) fun _ => ?_
  refine .bind (triple_err steady _) fun _ => ?_
  refine .through (fun opened =>
      After (some ⟨opened.1.kMaster, Contents.empty⟩) ⟨[master, master], [], files⟩)
    (.mapError ((triple_inApp (serves_createVault aead laws strict fits held types
      (env.kdf preset) .default)).weaken (fun _ stage => ⟨stage.shown, stage.transcript⟩)
      (fun _ _ served => ⟨served.1.shown, served.2⟩)
      fun _ _ stopped => stopped_of_shown trivial stopped.1 stopped.2)) fun opened => ?_
  obtain ⟨app, uri⟩ := opened
  refine .bind (triple_err (steady_after _) _) fun _ => ?_
  refine .bind (triple_out (steady_after _) uri) fun _ => ?_
  exact (triple_err (steady_after _) _).returning
    fun _ _ stage => ⟨_, stage.shown, stage.transcript ▸ .founds free⟩

/-- An operation of a session that leaves the book served when it fails stops the command there. -/
theorem triple_session {α : Type} {command : Command} {book : Book} {app : UnlockedApp}
    {typed : List String} {operation : SessionAct δ CoreError α}
    {post : α → World δ × UnlockedApp → Prop} (wrap : CoreError → Failure)
    (plain : ∀ error, (wrap error).Explained command files (some book) typed)
    (spec : Triple (Serves (Types σ) book) operation post fun _ => Serves (Types σ) book) :
    Triple (During book app ⟨typed, [], files⟩)
      (Op.mapError wrap (inSession app operation) : Run δ σ κ (α × UnlockedApp))
      (fun result shell =>
        post result.1 (shell.world, result.2) ∧ shell.transcript = ⟨typed, [], files⟩)
      (Stopped unseen files command (some book)) :=
  .mapError ((triple_inSession spec app).weaken (fun _ stage => ⟨stage.serves, stage.transcript⟩)
    (fun _ _ served => served) fun _ _ stopped => by
      obtain ⟨⟨_, serves⟩, transcript⟩ := stopped
      exact stopped_of_shown (plain _) serves.shown transcript)

/-- What follows an unlock is run with a session that serves the book. -/
theorem triple_unlocked {β : Type} {command : Command} {next : UnlockedApp → Run δ σ κ β}
    {post : β → Shell δ σ κ → Prop}
    (rest : ∀ app book master code, held = some book → Triple
      (During book app ⟨[master, code], [], files⟩) (next app) post
        (Stopped unseen files command held)) :
    Triple (Before held ⟨[], [], files⟩) (unlock env >>= next) post
      (Stopped unseen files command held) :=
  .bind triple_unlock fun app => .any fun book => .any fun master => .any fun code =>
    .given fun same => .entered _ (fun _ stage => stage.toDuring) (rest app book master code same)

/-- A listing prints the labels of the book in order. -/
theorem triple_cmdList :
    Triple (Before held ⟨[], [], files⟩) (cmdList env : Run δ σ κ Unit)
      (fun _ => Stepped unseen files .list held) (Stopped unseen files .list held) := by
  refine triple_unlocked fun app book master code same => ?_
  subst same
  refine .bind (triple_session .session (fun _ => trivial) (serves_listEntries book))
    fun result => ?_
  obtain ⟨handles, session⟩ := result
  refine .entered (fun shell => During book session ⟨[master, code], [], files⟩ shell ∧
    ∃ rows, book.Lists rows ∧ handles = rows.map fun row => ⟨row.id, row.label⟩)
    (fun _ stage => ⟨⟨stage.1.1, stage.2⟩, stage.1.2⟩) (.given fun listed => ?_)
  obtain ⟨rows, lists, rfl⟩ := listed
  have steady := steady_during (δ := δ) (σ := σ) (κ := κ) book session
  refine .bind (triple_noteIf steady _ _) fun _ => ?_
  exact (triple_outs steady EntryHandle.label _ _ []).returning
      fun _ _ stage => ⟨_, stage.serves.shown, stage.transcript ▸ .list (labels_sorted lists)⟩

/-- The entry that is found is the only one with the label. -/
theorem triple_findEntry {command : Command} (book : Book) (app : UnlockedApp) {label : String}
    (sought : command.sought = some label) (typed : List String) :
    Triple (During book app ⟨typed, [], files⟩) (findEntry app label : Run δ σ κ EntryId)
      (fun id shell => During book app ⟨typed, [], files⟩ shell ∧ Names book label id)
      (Stopped unseen files command (some book)) := by
  refine .entered (fun shell => During book app ⟨typed, [], files⟩ shell ∧
    app.kMaster = book.key ∧ book.Lists app.index)
    (fun _ stage => ⟨stage, stage.serves.key, stage.serves.lists⟩) (.given fun session => ?_)
  refine .bind (triple_session .session (fun _ => trivial) (serves_listEntries book))
    fun result => ?_
  obtain ⟨handles, left⟩ := result
  refine .entered (fun shell => During book app ⟨typed, [], files⟩ shell ∧
    ∃ rows, book.Lists rows ∧ handles = rows.map fun row => ⟨row.id, row.label⟩)
    (fun _ stage => ⟨⟨⟨stage.1.1.shown, session.1, session.2⟩, stage.2⟩, stage.1.2⟩)
    (.given fun listed => ?_)
  obtain ⟨rows, lists, rfl⟩ := listed
  dsimp only
  cases found : (rows.map fun row => EntryHandle.mk row.id row.label).filter
    fun handle => handle.label = label with
  | nil =>
    exact .fail fun _ stage =>
      quits_during app ⟨sought, book, rfl, unlabelled_of_filter lists found⟩ stage
  | cons handle others =>
    cases others with
    | nil => exact .pure fun _ stage => ⟨stage, names_of_filter lists found⟩
    | cons _ _ =>
      exact .fail fun _ stage =>
        quits_during app ⟨sought, book, rfl, ambiguous_of_filter lists found⟩ stage

/-- The last line of a command reports a step of the book. -/
theorem triple_finish {command : Command} {held : Option Book} {next : Book}
    {transcript : Transcript} {stop : Failure → Shell δ σ κ → Prop} (left : UnlockedApp)
    (notice : Notice) (step : Step unseen files command (.ok ()) transcript held (some next)) :
    Triple (fun shell => Serves (Types σ) next (shell.world, left) ∧ shell.transcript = transcript)
      (err notice : Run δ σ κ Unit) (fun _ => Stepped unseen files command held) stop :=
  .entered (During next left transcript) (fun _ stage => ⟨stage.1, stage.2⟩)
    ((triple_err (steady_during next left) notice).returning fun _ _ stage =>
      ⟨_, stage.serves.shown, stage.transcript ▸ step⟩)

/-- A session that was left serving a book goes on. -/
theorem During.of_left {book : Book} {app : UnlockedApp} {transcript : Transcript}
    {shell : Shell δ σ κ}
    (left : Serves (Types σ) book (shell.world, app) ∧ shell.transcript = transcript) :
    During book app transcript shell := ⟨left.1, left.2⟩

/-- The password of a new entry is generated, or was typed twice. -/
theorem triple_newEntryPassword {command : Command} (book : Book) (app : UnlockedApp)
    (length : UInt16) (generatePw : Bool) (typed : List String) :
    Triple (During book app ⟨typed, [], files⟩)
      (newEntryPassword app length generatePw : Run δ σ κ (String × UnlockedApp))
      (fun result => During book result.2
        ⟨typed ++ if generatePw then [] else [result.1, result.1], [], files⟩)
      (Stopped unseen files command (some book)) := by
  cases generatePw with
  | true =>
    refine .bind (triple_session .session (fun _ => trivial) (serves_generatePassword book _))
      fun result => ?_
    obtain ⟨password, left⟩ := result
    refine .entered (During book left ⟨typed, [], files⟩) (fun _ stage => .of_left stage)
      (.bind (triple_err (steady_during book left) _) fun _ => .pure fun _ stage => ?_)
    rw [if_pos rfl, List.append_nil]
    exact stage
  | false =>
    exact .bind (triple_readNewPassword (steady_during book app) (quits_during app) typed _)
      fun _ => .pure fun _ stage => stage.1

/-- An addition puts an entry with the typed fields into the book. -/
theorem triple_cmdAdd (aead : AeadLaws) (laws : PostcardLaws) (strict : StrictLaws)
    (label : String) (generatePw : Bool) (length : Option UInt16) :
    Triple (Before held ⟨[], [], files⟩)
      (cmdAdd env label generatePw length : Run δ σ κ Unit)
      (fun _ => Stepped unseen files (.add label generatePw length) held)
      (Stopped unseen files (.add label generatePw length) held) := by
  refine triple_unlocked fun app book master code same => ?_
  subst same
  have steady (app : UnlockedApp) := steady_during (δ := δ) (σ := σ) (κ := κ) book app
  refine .bind (triple_readLine (steady app) (quits_during app) _ _) fun username => ?_
  refine .bind (triple_newEntryPassword book app _ generatePw _) fun result => ?_
  obtain ⟨password, app⟩ := result
  refine .bind (triple_readLine (steady app) (quits_during app) _ _) fun url => ?_
  refine .bind (triple_readLine (steady app) (quits_during app) _ _) fun notes => ?_
  refine .bind (triple_session .session (fun _ => trivial)
    (serves_addEntry aead laws strict book label _ _)) fun result => ?_
  obtain ⟨id, left⟩ := result
  refine triple_finish left _ ?_
  have step : Step unseen files _ _ _ _ _ :=
    .add label generatePw length book id master code username password url notes
  simpa only [List.append_assoc, List.cons_append, List.nil_append] using step

/-- A field that is printed is that of the only entry with the label. -/
theorem triple_showField {label : String} (book : Book) (app : UnlockedApp) (id : EntryId)
    (field : Field) (master code : String) (names : Names book label id) :
    Triple (During book app ⟨[master, code], [], files⟩) (showField app id field : Run δ σ κ Unit)
      (fun _ => Stepped unseen files (.get label true field) (some book))
      (Stopped unseen files (.get label true field) (some book)) := by
  refine .bind (triple_session .session (fun _ => trivial) (serves_withRevealed book id _))
    fun result => ?_
  obtain ⟨value, left⟩ := result
  refine .entered (fun shell => During book left ⟨[master, code], [], files⟩ shell ∧
      ∃ entry record, book.contents id = some entry ∧ entry.record = .ok record ∧
        value = fieldString record field)
    (fun _ stage => ⟨.of_left ⟨stage.1.1, stage.2⟩, stage.1.2⟩) (.given fun revealed => ?_)
  obtain ⟨entry, record, kept, reads, rfl⟩ := revealed
  exact (triple_out (steady_during book left) _).returning
    fun _ _ stage => ⟨_, stage.serves.shown, stage.transcript ▸ .shown names kept reads⟩

/-- A removal drops the only entry with the label. -/
theorem triple_cmdRm (aead : AeadLaws) (laws : PostcardLaws) (strict : StrictLaws)
    (label : String) :
    Triple (Before held ⟨[], [], files⟩) (cmdRm env label : Run δ σ κ Unit)
      (fun _ => Stepped unseen files (.rm label) held) (Stopped unseen files (.rm label) held) := by
  refine triple_unlocked fun app book master code same => ?_
  subst same
  refine .bind (triple_findEntry book app (show Command.sought _ = some label from rfl) _)
    fun id => .given fun names => ?_
  refine .bind (triple_session .session (fun _ => trivial)
    (serves_removeEntry aead laws strict book id)) fun result => ?_
  obtain ⟨_, left⟩ := result
  exact triple_finish left _ (.rm names)

/-- A change of the master password carries the book over to another key. -/
theorem triple_cmdPasswd (aead : AeadLaws) (laws : PostcardLaws) (strict : StrictLaws)
    (preset : Preset) :
    Triple (Before held ⟨[], [], files⟩) (cmdPasswd env preset : Run δ σ κ Unit)
      (fun _ => Stepped unseen files (.passwd preset) held)
      (Stopped unseen files (.passwd preset) held) := by
  refine triple_unlocked fun app book master code same => ?_
  subst same
  have steady := steady_during (δ := δ) (σ := σ) (κ := κ) book app
  refine .through (fun old => During book app ⟨[master, code] ++ [old], [], files⟩)
    ((triple_readSecret steady (quits_during app) _ _).returning fun _ _ stage => stage.1)
    fun old => ?_
  refine .bind (triple_readNewPassword steady (quits_during app) _ _) fun new =>
    .given fun types => ?_
  refine .bind (triple_noteIf steady _ _) fun _ => ?_
  refine .bind (triple_err steady _) fun _ => ?_
  refine .through (fun result => During (book.under result.2.kMaster) result.2
      ⟨[master, code] ++ [old] ++ [new, new], [], files⟩)
    (.mapError ((triple_inSession (serves_changeMasterPassword aead laws strict book old types
      (env.kdf preset)) app).weaken (fun _ stage => ⟨stage.serves, stage.transcript⟩)
      (fun _ _ stage => .of_left stage) fun _ _ stopped => ?_)) fun result => ?_
  · obtain ⟨⟨_, shown, _⟩, transcript⟩ := stopped
    exact stopped_of_shown trivial shown transcript
  obtain ⟨outcome, left⟩ := result
  refine .bind (triple_noteIf (steady_during _ left) _ _) fun _ => ?_
  exact .entered _ (fun _ stage => ⟨stage.serves, stage.transcript⟩) (triple_finish left _ .passwd)

omit [Platform δ] [Host σ] [Crates] in
/-- An operation on the clipboard is described by what it does to the vault, the session and the
clipboard of a machine. -/
theorem triple_onClipboard {ε α : Type} {app : UnlockedApp}
    {operation : Op ((World δ × UnlockedApp) × κ) ε α} {pre : Shell δ σ κ → Prop}
    {post : α × UnlockedApp → Shell δ σ κ → Prop} {stop : ε → Shell δ σ κ → Prop}
    (returns : ∀ shell value world left clipboard, pre shell →
      operation ((shell.world, app), shell.clipboard) = (.ok value, (world, left), clipboard) →
        post (value, left) { shell with world, clipboard })
    (stops : ∀ shell error world left clipboard, pre shell →
      operation ((shell.world, app), shell.clipboard) = (.error error, (world, left), clipboard) →
        stop error { shell with world, clipboard }) :
    Triple pre (withClipboard app operation) post stop where
  returns := by
    rintro shell ⟨value, left⟩ after held ran
    rcases inner : operation ((shell.world, app), shell.clipboard) with
      ⟨outcome, ⟨world, reached⟩, clipboard⟩
    rw [withClipboard, inner] at ran
    obtain ⟨same, rfl⟩ := Prod.mk.inj ran
    cases outcome with
    | ok found =>
      obtain ⟨rfl, rfl⟩ := Prod.mk.inj (Except.ok.inj same)
      exact returns _ _ _ _ _ held inner
    | error error => cases same
  stops := by
    rintro shell error after held ran
    rcases inner : operation ((shell.world, app), shell.clipboard) with
      ⟨outcome, ⟨world, reached⟩, clipboard⟩
    rw [withClipboard, inner] at ran
    obtain ⟨same, rfl⟩ := Prod.mk.inj ran
    cases outcome with
    | ok found => cases same
    | error reason =>
      obtain rfl := Except.error.inj same
      exact stops _ _ _ _ _ held inner

/-- An operation on the clipboard that touches neither the file nor the session goes on. -/
theorem triple_withClipboard {ε α : Type} {book : Book} {app : UnlockedApp}
    {transcript : Transcript} {operation : Op ((World δ × UnlockedApp) × κ) ε α}
    (untouched : ∀ state, Untouched state.1 (operation state).2.1) :
    Triple (During book app transcript)
      (withClipboard app operation : Op (Shell δ σ κ) ε (α × UnlockedApp))
      (fun result => During book result.2 transcript)
      (fun _ shell => ∃ app, During book app transcript shell) := by
  refine triple_onClipboard (fun shell value world left clipboard stage ran => ?_)
    fun shell error world left clipboard stage ran => ?_
  · have same := untouched ((shell.world, app), shell.clipboard)
    rw [ran] at same
    exact ⟨stage.serves.untouched same, stage.transcript⟩
  · have same := untouched ((shell.world, app), shell.clipboard)
    rw [ran] at same
    exact ⟨left, stage.serves.untouched same, stage.transcript⟩

omit [Crates] in
/-- A clear never stops. -/
theorem clearClipboardImpl_ok {κ ε : Type} [Clipboard κ] (cookie : ClipboardCookie)
    (factOverwrite : Bool) (state : World δ × κ) :
    ∃ outcome after, (clearClipboardImpl cookie factOverwrite : Op (World δ × κ) ε _) state =
      (.ok outcome, after) := by
  have never : Triple (fun _ => True)
      (clearClipboardImpl cookie factOverwrite : Op (World δ × κ) ε ClearOutcome)
      (fun _ _ => True) fun _ _ => False := by
    refine .through (fun _ _ => True) (.attempt fun _ _ => trivial) fun read => ?_
    cases read with
    | error error => exact .pure fun _ _ => trivial
    | ok current =>
      cases current with
      | none => exact .pure fun _ _ => trivial
      | some current =>
        dsimp only
        split
        · exact .pure fun _ _ => trivial
        split
        · exact .pure fun _ _ => trivial
        refine .through (fun _ _ => True) ⟨fun _ _ => trivial, fun _ ran => ?_⟩ fun fact => ?_
        · cases ran
        refine .through (fun _ _ => True) (.attempt fun _ _ => trivial) fun written => ?_
        cases written with
        | error error => exact .pure fun _ _ => trivial
        | ok value => exact .pure fun _ _ => trivial
  rcases ran : (clearClipboardImpl cookie factOverwrite : Op (World δ × κ) ε _) state with
    ⟨outcome, after⟩
  cases outcome with
  | ok outcome => exact ⟨outcome, after, rfl⟩
  | error error => exact (never.stops trivial ran).elim

/-- A clear leaves the session as it is, and never stops. -/
theorem triple_clear {κ : Type} [Clipboard κ] {book : Book} {transcript : Transcript}
    {stop : Failure → Shell δ σ κ → Prop} (app : UnlockedApp) (cookie : ClipboardCookie)
    (factOverwrite : Bool) :
    Triple (During book app transcript)
      (withClipboard app (clearClipboardWith cookie factOverwrite) :
        Run δ σ κ (ClearOutcome × UnlockedApp))
      (fun result => During book result.2 transcript) stop where
  returns stage ran :=
    (triple_withClipboard (untouched_clearClipboardWith cookie factOverwrite)).returns stage ran
  stops {shell _ _} _ ran := by
    obtain ⟨outcome, after, cleared⟩ :=
      clearClipboardImpl_ok (ε := Failure) cookie factOverwrite (shell.world, shell.clipboard)
    rw [withClipboard, clearClipboardWith, cleared] at ran
    cases ran

/-- Waiting leaves the session as it is. -/
theorem triple_waitForClear [Desktop σ κ] {book : Book} {app : UnlockedApp}
    {transcript : Transcript} {stop : Failure → Shell δ σ κ → Prop} (budget waited : Nat) :
    Triple (During book app transcript) (waitForClear budget waited : Run δ σ κ Unit)
      (fun _ => During book app transcript) stop := by
  induction waited using waitForClear.induct budget with
  | case1 waited more ih =>
    rw [waitForClear, if_pos more]
    refine .bind (triple_askHost (steady_during book app) _) fun interrupted => ?_
    cases interrupted with
    | true => exact .pure fun _ stage => stage
    | false => exact .bind (.modify fun _ stage => ⟨stage.serves, stage.transcript⟩) fun _ => ih
  | case2 waited done =>
    rw [waitForClear, if_neg done]
    exact .pure fun _ stage => stage

/-- Copying a field leaves the book. -/
theorem triple_copyField [Desktop σ κ] [Clipboard κ] {label : String} (book : Book)
    (app : UnlockedApp) (id : EntryId) (field : Field) (master code : String)
    (names : Names book label id) :
    Triple (During book app ⟨[master, code], [], files⟩)
      (copyField env app id field : Run δ σ κ Unit)
      (fun _ => Stepped unseen files (.get label false field) (some book))
      (Stopped unseen files (.get label false field) (some book)) := by
  have stopped (error : CoreError) (shell : Shell δ σ κ)
      (stage : ∃ app, During book app ⟨[master, code], [], files⟩ shell) :
      Stopped unseen files (.get label false field) (some book) (.session error) shell := by
    obtain ⟨app, stage⟩ := stage
    exact quits_during app trivial stage
  refine .bind (.mapError ((triple_withClipboard (untouched_copyToClipboard id field.into)).weaken
    (fun _ stage => stage) (fun _ _ stage => stage) stopped)) fun result => ?_
  obtain ⟨cookie, left⟩ := result
  refine .bind (triple_err (steady_during book left) _) fun _ => ?_
  refine .bind (triple_waitForClear _ _) fun _ => ?_
  refine .bind (triple_clear left cookie env.factOverwrite) fun result => ?_
  obtain ⟨outcome, last⟩ := result
  exact .entered _ (fun _ stage => ⟨stage.serves, stage.transcript⟩)
    (triple_finish last _ (.copied names))

/-- A field is printed or copied. -/
theorem triple_cmdGet [Desktop σ κ] [Clipboard κ] (label : String) (field : Field) (show_ : Bool) :
    Triple (Before held ⟨[], [], files⟩) (cmdGet env label field show_ : Run δ σ κ Unit)
      (fun _ => Stepped unseen files (.get label show_ field) held)
      (Stopped unseen files (.get label show_ field) held) := by
  refine triple_unlocked fun app book master code same => ?_
  subst same
  refine .bind (triple_findEntry book app (show Command.sought _ = some label from rfl) _)
    fun id => .given fun names => ?_
  cases show_ with
  | true => exact triple_showField book app id field master code names
  | false => exact triple_copyField book app id field master code names

/-- A file is written where there is none; a write that fails can leave one. -/
theorem triple_writeNewFile {preset : RecPreset} {book : Book} {app : UnlockedApp}
    {typed : List String} (path : Path) (bytes : Bytes) :
    Triple (During book app ⟨typed, [], files⟩)
      (writeNewFile0600 env path bytes : Run δ σ κ Unit)
      (fun _ shell => During book app ⟨typed, [], Function.update files path (some bytes)⟩ shell ∧
        files path = none) (Stopped unseen files (.export path preset) (some book)) := by
  refine .get fun start => ?_
  by_cases taken : (start.file env path).isSome = true
  · rw [if_pos taken]
    exact .fail fun _ stage => quits_during app (.inl (Option.some_ne_none book)) stage.2
  rw [if_neg taken]
  refine .entered (fun shell => During book app ⟨typed, [], files⟩ shell ∧
    path ≠ env.vault ∧ files path = none) (fun shell stage => ⟨stage.2, ?_⟩) (.given fun free => ?_)
  · obtain ⟨rfl, during⟩ := stage
    have apart : path ≠ env.vault := by
      rintro rfl
      obtain ⟨_, file, _⟩ := during.serves.shown
      have present : start.world.file = _ := file
      rw [Shell.file, if_pos rfl, present] at taken
      exact taken rfl
    rw [Shell.file, if_neg apart, (Transcript.mk.inj during.transcript).2.2] at taken
    exact ⟨apart, Option.not_isSome_iff_eq_none.mp taken⟩
  obtain ⟨apart, absent⟩ := free
  have steady := steady_during (δ := δ) (σ := σ) (κ := κ) book app
  have written (bytes : Bytes) (shell : Shell δ σ κ)
      (stage : During book app ⟨typed, [], files⟩ shell) :
      During book app ⟨typed, [], Function.update files path (some bytes)⟩
        (shell.withFile env path bytes) := by
    rw [Shell.withFile, if_neg apart]
    obtain ⟨serves, transcript⟩ := stage
    obtain ⟨same, quiet, rfl⟩ := Transcript.mk.inj transcript
    exact ⟨serves, Transcript.mk.injEq .. |>.mpr ⟨same, quiet, rfl⟩⟩
  have partly (bytes : Bytes) (error : String) (shell : Shell δ σ κ)
      (stage : During book app ⟨typed, [], Function.update files path (some bytes)⟩ shell) :
      Stopped unseen files (.export path preset) (some book) (.fileWrite path error) shell :=
    ⟨_, stage.serves.shown, stage.transcript ▸ .exportFailed absent⟩
  refine .bind (triple_askHost steady _) fun fault => ?_
  cases fault with
  | some error => exact .fail fun _ stage => quits_during app trivial stage
  | none =>
    refine .bind (triple_askHost steady _) fun fault => ?_
    cases fault with
    | some cut =>
      exact .through (fun _ => During book app ⟨typed, [], Function.update files path _⟩)
        (.modify (written _)) fun _ => .fail fun _ stage => partly _ _ _ stage
    | none =>
      refine .through (fun _ => During book app ⟨typed, [], Function.update files path _⟩)
        (.modify (written bytes)) fun _ => ?_
      refine .bind (triple_askHost steady _) fun fault => ?_
      cases fault with
      | some error => exact .fail fun _ stage => partly _ _ _ stage
      | none => exact .pure fun _ stage => ⟨stage, absent⟩

/-- An export leaves the book, and writes a file that backs it. -/
theorem triple_cmdExport (aead : AeadLaws) (policies : PolicyLaws) (file : Path)
    (preset : RecPreset) :
    Triple (Before held ⟨[], [], files⟩) (cmdExport env file preset : Run δ σ κ Unit)
      (fun _ => Stepped unseen files (.export file preset) held)
      (Stopped unseen files (.export file preset) held) := by
  refine .through (fun _ => Before held ⟨[], [], files⟩) ?_ fun _ => ?_
  · refine .bind (triple_pathExists file) fun found => ?_
    cases found with
    | true =>
      refine .fail fun shell stage => quits_before ?_ stage.1
      obtain ⟨before, present, _⟩ := stage
      have found := present rfl
      by_cases vault : file = env.vault
      · rw [Shell.file, if_pos vault] at found
        exact .inl (before.held_of_file found)
      · rw [Shell.file, if_neg vault, (Transcript.mk.inj before.transcript).2.2] at found
        exact .inr found
    | false => exact .pure fun _ stage => stage.1
  refine .bind triple_unlock fun app => .any fun book => .any fun master => .any fun code =>
    .given fun same => ?_
  subst same
  have steady := steady_fresh (δ := δ) (σ := σ) (κ := κ) book app
  refine .bind (triple_err steady _) fun _ => ?_
  refine .bind (triple_readSecret steady (quits_fresh app) _ _) fun again => .given fun types => ?_
  refine .bind (triple_readLine steady (quits_fresh app) _ _) fun fresh => ?_
  refine .bind (triple_err steady _) fun _ => ?_
  refine .bind (.mapError ((triple_inSession
    (serves_exportRecovery aead policies book types (trim fresh) preset.into) app).weaken
      (fun _ stage => ⟨⟨stage.serves, stage.commits⟩, stage.transcript⟩)
      (fun _ _ stage => stage) ?_)) fun result => ?_
  · rintro error shell ⟨⟨_, serves⟩, transcript⟩
    exact stopped_of_shown trivial serves.shown transcript
  obtain ⟨bytes, left⟩ := result
  refine .entered (fun shell => During book left ⟨[master, code] ++ [again] ++ [fresh], [], files⟩
    shell ∧ book.BackedBy bytes again) (fun _ stage => ⟨⟨stage.1.1, stage.2⟩, stage.1.2⟩)
    (.given fun backed => ?_)
  refine .bind (triple_writeNewFile file bytes) fun _ => .given fun absent => ?_
  exact .entered _ (fun _ stage => ⟨stage.serves, stage.transcript⟩)
    (triple_finish left _ (.export absent backed))

/-- A restoration founds the book of what the file holds, where there is none, or where it may not
be seen. -/
theorem triple_cmdImport (aead : AeadLaws) (laws : PostcardLaws) (strict : StrictLaws)
    (file : Path) (preset : Preset)
    (hides : ∀ host : σ, (Host.statFault env.vault host).1 = true → unseen env.vault) :
    Triple (Before held ⟨[], [], files⟩) (cmdImport env file preset : Run δ σ κ Unit)
      (fun _ => Stepped unseen files (.import file preset) held)
      (Stopped unseen files (.import file preset) held) := by
  refine .bind (triple_refuseVault _ (fun some => ⟨rfl, some⟩) hides) fun _ =>
    .given fun free => ?_
  have steady := steady_before (δ := δ) (σ := σ) (κ := κ) held
  refine .bind triple_ensureDirs fun _ => ?_
  refine .bind (triple_readFile file) fun bytes => .given fun found => ?_
  refine .bind (triple_readSecret steady quits_before _ _) fun password => .given fun types => ?_
  refine .bind (triple_err steady _) fun _ => ?_
  refine .through (fun opened shell => ∃ items, During
      ⟨opened.1.kMaster, Contents.empty.putAll items⟩ opened.1 ⟨[password], [], files⟩ shell ∧
        Recovers bytes password items)
    (.mapError ((triple_inApp (serves_founding aead laws strict held
      (.importRecovery bytes password (env.kdf preset) .default) types)).weaken
        (fun _ stage => ⟨stage.shown, stage.transcript⟩) ?_ ?_)) fun opened => ?_
  · rintro opened shell ⟨⟨items, recovers, serves⟩, transcript⟩
    exact ⟨items, ⟨serves, transcript⟩, recovers⟩
  · rintro error shell ⟨shown | ⟨key, items, recovers, shown⟩, transcript⟩
    · exact stopped_of_shown trivial shown transcript
    · exact ⟨_, shown, transcript ▸ .refounds free found recovers (.inr ⟨error, .inl rfl⟩)⟩
  obtain ⟨app, uri⟩ := opened
  refine .any fun items => .given fun recovers => ?_
  refine .bind (triple_err (steady_during _ app) _) fun _ => ?_
  refine .bind (triple_out (steady_during _ app) uri) fun _ => ?_
  refine .bind (.mapError ((triple_inSession (serves_listEntries _) app).weaken
    (fun _ stage => ⟨stage.serves, stage.transcript⟩) (fun _ _ stage => stage) ?_)) fun result => ?_
  · rintro error shell ⟨⟨_, serves⟩, transcript⟩
    exact ⟨_, serves.shown, transcript ▸ .refounds free found recovers (.inr ⟨error, .inr rfl⟩)⟩
  obtain ⟨handles, left⟩ := result
  exact .entered _ (fun _ stage => ⟨stage.1.1, stage.2⟩)
    (triple_finish left _ (.refounds free found recovers (.inl ⟨rfl, uri, rfl⟩)))

/-- A generated password is printed. -/
theorem triple_generate (length : Option UInt16) :
    Triple (Before held ⟨[], [], files⟩) (generate length : Run δ σ κ Unit)
      (fun _ => Stepped unseen files (.gen length) held)
      (Stopped unseen files (.gen length) held) := by
  have asked (request : GenerationRequest) :
      Triple (fun world : World δ => world.Shows (Types σ) held)
        (askFallible (Platform.generate request)) (fun _ world => world.Shows (Types σ) held)
        (fun _ world => world.Shows (Types σ) held) := by
    have quiet : Op.Keeps SameFile (askFallible (Platform.generate request) : Act δ _ String) :=
      keeps_askFallible sameFile_steps _
    exact ⟨fun shown ran => shown.of_file (quiet.ran ran),
      fun shown ran => shown.of_file (quiet.ran ran)⟩
  refine .bind (.mapError ((triple_inApp (asked _)).weaken
    (fun _ stage => ⟨stage.shown, stage.transcript⟩) (fun _ _ stage => (⟨stage.1, stage.2⟩ :
      After held ⟨[], [], files⟩ _))
    fun _ _ stopped => stopped_of_shown trivial stopped.1 stopped.2))
    fun password => ?_
  exact (triple_out (steady_after held) password).returning
    fun _ _ stage => ⟨_, stage.shown, stage.transcript ▸ .gen⟩

/-- Every command takes one step of the book. -/
theorem triple_run [Desktop σ κ] [Clipboard κ] (aead : AeadLaws) (laws : PostcardLaws)
    (policies : PolicyLaws) (strict : StrictLaws) (fits : IndexFits .current [])
    (hides : ∀ host : σ, (Host.statFault env.vault host).1 = true → unseen env.vault)
    (kind : HsmKind) (command : Command) :
    Triple (Before held ⟨[], [], files⟩) (run env kind command : Run δ σ κ Unit)
      (fun _ => Stepped unseen files command held) (Stopped unseen files command held) := by
  have opened {rest : Run δ σ κ Unit} (spec : Triple (Before held ⟨[], [], files⟩) rest
      (fun _ => Stepped unseen files command held) (Stopped unseen files command held)) :
      Triple (Before held ⟨[], [], files⟩) (openApp env kind >>= fun _ => rest)
        (fun _ => Stepped unseen files command held) (Stopped unseen files command held) :=
    .bind (triple_openApp kind) fun _ => spec
  cases command with
  | init preset => exact opened (triple_cmdInit aead laws strict fits preset hides)
  | list => exact opened triple_cmdList
  | add label generatePw length =>
    exact opened (triple_cmdAdd aead laws strict label generatePw length)
  | get label show_ field => exact opened (triple_cmdGet label field show_)
  | rm label => exact opened (triple_cmdRm aead laws strict label)
  | gen length => exact triple_generate length
  | «export» file preset => exact opened (triple_cmdExport aead policies file preset)
  | «import» file preset => exact opened (triple_cmdImport aead laws strict file preset hides)
  | passwd preset => exact opened (triple_cmdPasswd aead laws strict preset)

end Commands

end Passman.Cli
