import Passman.Cli.Books
import Passman.Lib.Run

/-!
# Processes on one machine

The commands are run one after another, each as a process of its own, and between two processes
everything but the vault file may change. Every run of the program follows the abstract machine
of the book, step by step, and a book that was exported is the one that is restored, on the same
machine or on another.
-/
namespace Passman.Cli

open Bytewise Fallible Transition

section Machines

variable {δ σ κ : Type} [Platform δ] [Host σ] [Crates] [Desktop σ κ] [Clipboard κ]

/-- What happens on a machine. -/
inductive Event (δ σ κ : Type) where
  /-- A command is run over a backend of some kind. -/
  | process (env : CliEnv) (kind : HsmKind) (command : Command)
  /-- Everything but the vault file changes. -/
  | meanwhile (device : δ) (host : σ) (clipboard : κ) (files : Path → Option Bytes)

/-- Run a command in a process of its own. -/
def Shell.process (shell : Shell δ σ κ) (env : CliEnv) (kind : HsmKind) (command : Command) :
    Except Failure Unit × Shell δ σ κ :=
  Cli.run env kind command { shell with typed := [], printed := [] }

/-- What an event leaves behind. -/
def Shell.meet (shell : Shell δ σ κ) : Event δ σ κ → Shell δ σ κ
  | .process env kind command => (shell.process env kind command).2
  | .meanwhile device host clipboard files =>
    { shell with world := { shell.world with device }, host, clipboard, files }

/-- The path is that of the vault, and the host may fail to query it. -/
def CliEnv.Unseen (σ : Type) [Host σ] (env : CliEnv) (path : Path) : Prop :=
  path = env.vault ∧ ∃ host : σ, (Host.statFault path host).1 = true

/-- The step of the book that an event takes. -/
def Event.Takes (shell : Shell δ σ κ) (event : Event δ σ κ) (held next : Option Book) : Prop :=
  match event with
  | .process env kind command => Step (env.Unseen σ) shell.files command
      (shell.process env kind command).1 (shell.process env kind command).2.transcript held next
  | .meanwhile _ _ _ _ => next = held

/-- What a process relies on: what can be typed opens the vault under one key only. -/
def Event.Regular (shell : Shell δ σ κ) : Event δ σ κ → Prop
  | .process _ _ _ => shell.world.Commits (Types σ)
  | .meanwhile _ _ _ _ => True

/-- A process takes one step of the book. -/
theorem Shell.process_takes (aead : AeadLaws) (laws : PostcardLaws) (policies : PolicyLaws)
    (strict : StrictLaws) (fits : IndexFits .current []) {shell : Shell δ σ κ} {held : Option Book}
    (shown : shell.world.Shows (Types σ) held) (env : CliEnv) (kind : HsmKind) (command : Command)
    (commits : shell.world.Commits (Types σ)) :
    ∃ next, Step (env.Unseen σ) shell.files command (shell.process env kind command).1
      (shell.process env kind command).2.transcript held next ∧
        (shell.process env kind command).2.world.Shows (Types σ) next := by
  have start : Before held ⟨[], [], shell.files⟩
      ({ shell with typed := [], printed := [] } : Shell δ σ κ) := ⟨shown, rfl, commits⟩
  have spec : Triple (Before held ⟨[], [], shell.files⟩) (Cli.run env kind command : Run δ σ κ Unit)
      (fun _ => Stepped (env.Unseen σ) shell.files command held)
      (Stopped (env.Unseen σ) shell.files command held) :=
    triple_run aead laws policies strict fits (fun host faulted => ⟨rfl, host, faulted⟩) kind
      command
  rcases ran : shell.process env kind command with ⟨outcome, after⟩
  cases outcome with
  | ok value =>
    obtain ⟨next, shows, step⟩ := spec.returns start ran
    exact ⟨next, step, shows⟩
  | error failure =>
    obtain ⟨next, shows, step⟩ := spec.stops start ran
    exact ⟨next, step, shows⟩

/-- Every event takes one step of the book. -/
theorem Event.followed (aead : AeadLaws) (laws : PostcardLaws) (policies : PolicyLaws)
    (strict : StrictLaws) (fits : IndexFits .current []) (shell : Shell δ σ κ)
    (event : Event δ σ κ) (held : Option Book) (shown : shell.world.Shows (Types σ) held)
    (regular : event.Regular shell) :
    ∃ next, event.Takes shell held next ∧ (shell.meet event).world.Shows (Types σ) next := by
  cases event with
  | process env kind command =>
    exact shell.process_takes aead laws policies strict fits shown env kind command regular
  | meanwhile device host clipboard files => exact ⟨held, rfl, shown.of_file rfl⟩

end Machines

section Backups

variable {δ σ κ η τ ρ : Type} [Platform δ] [Host σ] [Desktop σ κ] [Clipboard κ] [Platform η]
  [Host τ] [Desktop τ ρ] [Clipboard ρ] [Crates]

/-- A successful export writes a file that backs the book under the password that was typed
again. -/
theorem Step.backs {unseen : Path → Prop} {files : Path → Option Bytes} {file : Path}
    {preset : RecPreset} {outcome : Except Failure Unit} {transcript : Transcript} {book : Book}
    {next : Option Book}
    (step : Step unseen files (.export file preset) outcome transcript (some book) next)
    (returned : outcome = .ok ()) :
    ∃ bytes again, transcript.typed[2]? = some again ∧ transcript.files file = some bytes ∧
      book.BackedBy bytes again := by
  cases step with
  | «export» absent backed => exact ⟨_, _, rfl, Function.update_self _ _ _, backed⟩
  | _ => cases returned

/-- A successful import restores what the file holds for the password that was typed. -/
theorem Step.restores {unseen : Path → Prop} {files : Path → Option Bytes} {file : Path}
    {preset : Preset} {outcome : Except Failure Unit} {transcript : Transcript} {next : Option Book}
    (step : Step unseen files (.import file preset) outcome transcript none next)
    (returned : outcome = .ok ()) :
    ∃ bytes password items key, transcript.typed[0]? = some password ∧ files file = some bytes ∧
      Recovers bytes password items ∧ next = some ⟨key, Contents.empty.putAll items⟩ := by
  cases step with
  | «import» found recovers _ => exact ⟨_, _, _, _, rfl, found, recovers, rfl⟩
  | failed => cases returned

/-- A book that a process exports is the one that a process imports from a copy of the file, on any
machine without a vault, under the password that was typed again for the export. -/
theorem exported_book_is_imported (aead : AeadLaws) (laws : PostcardLaws) (policies : PolicyLaws)
    (strict : StrictLaws) (fits : IndexFits .current []) {shell : Shell δ σ κ}
    {other : Shell η τ ρ} {book : Book} {env place : CliEnv} {kind backend : HsmKind}
    {file copy : Path} {preset : RecPreset} {cost : Preset}
    (shown : shell.world.Shows (Types σ) (some book)) (bare : other.world.file = none)
    (regular : Event.Regular shell (.process env kind (.export file preset)))
    (exports : (shell.process env kind (.export file preset)).1 = .ok ())
    (copied : other.files copy = (shell.process env kind (.export file preset)).2.files file)
    (imports : (other.process place backend (.import copy cost)).1 = .ok ())
    (same : (other.process place backend (.import copy cost)).2.typed[0]? =
      (shell.process env kind (.export file preset)).2.typed[2]?) :
    ∃ key, (other.process place backend (.import copy cost)).2.world.Shows (Types τ)
      (some ⟨key, book.contents⟩) := by
  have commits : other.world.Commits (Types τ) := by
    rintro vault ⟨bytes, stored, _⟩
    rw [bare] at stored
    cases stored
  obtain ⟨_, exported, _⟩ := shell.process_takes aead laws policies strict fits shown env kind
    (.export file preset) regular
  obtain ⟨_, imported, restored⟩ := other.process_takes aead laws policies strict fits
    (show other.world.Shows (Types τ) none from bare) place backend (.import copy cost) commits
  obtain ⟨bytes, again, typed, written, backed⟩ := exported.backs exports
  obtain ⟨found, password, items, key, entered, stored, recovers, rfl⟩ := imported.restores imports
  have sameFile : found = bytes := Option.some.inj (stored.symm.trans (copied.trans written))
  have samePassword : password = again := Option.some.inj (entered.symm.trans (same.trans typed))
  subst sameFile samePassword
  exact ⟨key, backed items recovers ▸ restored⟩

end Backups

end Passman.Cli

namespace Passman.Reference

open Bytewise Fallible Cli

/-- A terminal that answers every question for a secret with one text, and the others in turn. -/
structure Script where
  /-- The lines that are left. -/
  lines : List String

/-- The host of the example never fails, and an interrupt ends every wait. -/
instance : Host Script where
  acquireLock host := (none, host)
  readSecret _ host := (.ok strong, host)
  readLine _ host := (match host.lines.head? with
    | some line => .ok line
    | none => .error "end of input", ⟨host.lines.tail⟩)
  interrupted host := (true, host)
  ensureDirs host := (none, host)
  statFault _ host := (false, host)
  readFault _ host := (none, host)
  createFault _ host := (none, host)
  writeFault _ host := (none, host)
  syncFault _ host := (none, host)

/-- Nothing happens while a process sleeps. -/
instance : Desktop Script (TextClipboard textDigest) where
  sleep _ state := state

/-- The environment of the example processes. -/
def cliEnv : CliEnv := ⟨"vault", true, 30000, some kdfParams, true⟩

/-- The code of the first step under the seed of the example vault; later ones are the same. -/
def cliCode : String :=
  letI := crates
  (ofUtf8 (TotpConfig.default.codeAt (draw 32 ⟨0, 2, none⟩).1.val
    (currentStep device.clock TotpConfig.default.period))).getD ""

/-- A machine without a vault, with lines to type and possibly a file. -/
def machine (lines : List String) (copy : Option Bytes) :
    Shell Device Script (TextClipboard textDigest) :=
  ⟨world, ⟨lines⟩, clipboard, fun path => if path = "copy" then copy else none, [], []⟩

/-- The creation of a vault and the addition of an entry. -/
def cliFilling : List (Cli.Event Device Script (TextClipboard textDigest)) :=
  [.process cliEnv .tpm2 (.init .low), .process cliEnv .tpm2 (.add "mail" false none)]

/-- What is typed on the example machine. -/
def cliLines : List String := [cliCode, "ann", "", "", cliCode, cliCode]

/-- The example terminal types one secret. -/
theorem types_strong {secret : String} (types : Types Script secret) : secret = strong := by
  obtain ⟨_, _, typed⟩ := types
  exact (Except.ok.inj typed).symm

/-- The example terminal opens a vault under one key only. -/
theorem script_commits (world : World Device) :
    @World.Commits Device (ticking 60) crates world (Types Script) :=
  @commits_of_sole Device (ticking 60) _
    (fun _ _ typed again => (types_strong typed).trans (types_strong again).symm) world

/-- Processes of the example environment are regular. -/
theorem script_regular (shell : Shell Device Script (TextClipboard textDigest)) (kind : HsmKind)
    (command : Command) :
    @Event.Regular Device Script _ (ticking 60) _ crates shell (.process cliEnv kind command) :=
  script_commits shell.world

/-- The machine after a vault was created and an entry was added. -/
@[irreducible] def filledMachine : Shell Device Script (TextClipboard textDigest) :=
  letI := crates
  letI := ticking 60
  Transition.run Shell.meet (machine cliLines none) cliFilling

/-- The example machine under its name. -/
theorem filledMachine_run : @Transition.run _ _
    (@Shell.meet Device Script _ (ticking 60) _ crates _ _) (machine cliLines none) cliFilling =
      filledMachine := by
  unfold filledMachine
  rfl

/-- The export of the example. -/
@[irreducible] def exportProcess :
    Except Failure Unit × Shell Device Script (TextClipboard textDigest) :=
  letI := crates
  letI := ticking 60
  filledMachine.process cliEnv .tpm2 (.export "backup" .floor)

/-- The export under its name. -/
theorem exportProcess_run : @Shell.process Device Script _ (ticking 60) _ crates _ _ filledMachine
    cliEnv .tpm2 (.export "backup" .floor) = exportProcess := by
  unfold exportProcess
  rfl

/-- The import of the example, over another backend. -/
@[irreducible] def importProcess :
    Except Failure Unit × Shell Device Script (TextClipboard textDigest) :=
  letI := crates
  letI := ticking 60
  (machine [] (exportProcess.2.files "backup")).process cliEnv .secretService (.import "copy" .low)

/-- The import under its name. -/
theorem importProcess_run : @Shell.process Device Script _ (ticking 60) _ crates _ _
    (machine [] (exportProcess.2.files "backup")) cliEnv .secretService (.import "copy" .low) =
      importProcess := by
  unfold importProcess
  rfl

/-- The example machine shows a book. -/
theorem filledMachine_shows : letI := crates
    letI := ticking 60
    ∃ book, filledMachine.world.Shows (Types Script) (some book) := by
  let _ := crates
  let _ := ticking 60
  have along : Transition.Along Shell.meet Event.Regular (machine cliLines none) cliFilling :=
    ⟨script_regular _ _ _, script_regular _ _ _, trivial⟩
  obtain ⟨ending, _, shows⟩ := Transition.run_refines
    (Event.followed aeadLaws postcardLaws policyLaws strictLaws emptyIndex_fits)
    (show (machine cliLines none).world.Shows (Types Script) none from rfl) along
  rw [filledMachine_run] at shows
  cases ending with
  | some book => exact ⟨book, shows⟩
  | none =>
    have stored : filledMachine.world.file.isSome = true := by decide +kernel
    rw [show filledMachine.world.file = none from shows] at stored
    cases stored

end Passman.Reference

namespace Passman.Cli

/-- The book with the entry is exported and imported over another backend. -/
theorem exported_book_is_imported_copy :
    letI := Reference.crates
    letI := Reference.ticking 60
    ∃ book key, Reference.filledMachine.world.Shows (Types Reference.Script) (some book) ∧
      Reference.importProcess.2.world.Shows (Types Reference.Script)
        (some ⟨key, book.contents⟩) := by
  let _ := Reference.crates
  let _ := Reference.ticking 60
  obtain ⟨book, shown⟩ := Reference.filledMachine_shows
  have exports : Reference.exportProcess.1.toOption = some () := by decide +kernel
  have imports : Reference.importProcess.1.toOption = some () := by decide +kernel
  have same : Reference.importProcess.2.typed[0]? = Reference.exportProcess.2.typed[2]? := by
    decide +kernel
  rw [← Reference.exportProcess_run] at exports
  rw [← Reference.importProcess_run] at imports
  rw [← Reference.exportProcess_run, ← Reference.importProcess_run] at same
  obtain ⟨key, restored⟩ := exported_book_is_imported Reference.aeadLaws Reference.postcardLaws
    Reference.policyLaws Reference.strictLaws Reference.emptyIndex_fits shown rfl
    (Reference.script_regular _ _ _) (Fallible.Op.ok_of_returned exports)
    (congrArg (fun process => process.2.files "backup") Reference.exportProcess_run.symm)
    (Fallible.Op.ok_of_returned imports) same
  rw [Reference.importProcess_run] at restored
  exact ⟨book, key, shown, restored⟩

end Passman.Cli
