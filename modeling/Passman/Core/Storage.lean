import Passman.Core.World
import Passman.Lib.Files
import Passman.Lib.Paths

/-!
# Writing the vault file

A write goes to a temporary file beside the target, which is flushed and then renamed over it. Up
to the rename nothing happens to the target, and the rename puts flushed data in its place: wherever
the process stops or the power is lost, the target has its old content or the new one.
-/
namespace Passman

open Bytewise Fallible Filing

namespace Storage

/-- The digits of a temporary name. -/
def hexDigits : Bytes := utf8 "0123456789abcdef"

/-- Two digits of a byte. -/
def hexByte (byte : UInt8) : Bytes :=
  [hexDigits.getD (byte >>> 4).toNat 0, hexDigits.getD (byte &&& 0x0F).toNat 0]

/-- The name of a temporary file: the name of the target, the process and drawn bytes. -/
def tempName (name : Bytes) (processId : UInt32) (rand : Block 8) : Bytes :=
  utf8 "." ++ name ++ utf8 "." ++ utf8 (toString processId.toNat) ++ utf8 "." ++
    rand.val.flatMap hexByte ++ utf8 ".tmp"

/-- A temporary path in the directory of the target. -/
def tempSibling (path : Path) (processId : UInt32) (rand : Block 8) : Path :=
  let fileName := (path.fileName.map toStringLossy).getD (utf8 "vault")
  let tmpName := tempName fileName processId rand
  match path.parent with
  | some parent => parent.join tmpName
  | none => [.normal tmpName]

section Write

variable {δ : Type} [Disk δ]

/-- Create the temporary file, write the bytes and flush them. -/
def writeTemp (tmpPath : Path) (bytes : Bytes) : Op (Drive Path δ) WriteStep Unit := do
  let tmp ← Op.mapError (fun _ => .createTemp) (createNew tmpPath)
  Op.mapError (fun _ => .writeTemp) (writeAll tmp bytes)
  Op.mapError (fun _ => .fsyncTemp) (syncAll tmp)

/-- Remove the temporary file as far as possible and report the step that failed. -/
def discard (tmpPath : Path) (step : WriteStep) : Op (Drive Path δ) WriteStep Unit := do
  let _ ← Op.attempt (removeFile tmpPath)
  Op.fail step

/-- Flush the names of a directory as far as possible; the rename has happened. -/
def syncParent (dir : Path) : Op (Drive Path δ) WriteStep Unit := do
  match ← Op.attempt openDirectory with
  | .error _ => return ()
  | .ok () => do
    let _ ← Op.attempt (syncDirectory fun other => other.parent = some dir)
    return ()

/-- Replace the content of a path; a failure names its step. -/
def atomicWrite (path : Path) (bytes : Bytes) (processId : UInt32) (rand : Block 8) :
    Op (Drive Path δ) WriteStep Unit :=
  match path.parent with
  | none => Op.fail .resolveParent
  | some dir => do
    let tmpPath := tempSibling path processId rand
    match ← Op.attempt (writeTemp tmpPath bytes) with
    | .error step => discard tmpPath step
    | .ok () =>
      match ← Op.attempt (rename tmpPath path) with
      | .error _ => discard tmpPath .rename
      | .ok () => syncParent dir

end Write

/-- The last component of a temporary path is the temporary name. -/
theorem fileName_tempSibling (path : Path) (processId : UInt32) (rand : Block 8) :
    (tempSibling path processId rand).fileName =
      some (tempName ((path.fileName.map toStringLossy).getD (utf8 "vault")) processId rand) := by
  rw [tempSibling]
  cases path.parent with
  | none => rfl
  | some parent => exact Path.fileName_join parent _

/-- A temporary path is not the target: its name is longer. -/
theorem tempSibling_ne (path : Path) (processId : UInt32) (rand : Block 8) :
    path ≠ tempSibling path processId rand := by
  intro same
  have named := fileName_tempSibling path processId rand
  rw [← same] at named
  cases found : path.fileName with
  | none =>
    rw [found] at named
    cases named
  | some name =>
    rw [found, Option.map_some, Option.getD_some] at named
    have lengths := congrArg List.length (Option.some.inj named)
    have text := length_le_toStringLossy name
    have dot : (utf8 ".").length = 1 := rfl
    simp only [tempName, List.length_append, dot] at lengths
    omega

section Facts

variable {δ : Type} [Disk δ] {path : Path}

/-- Writing a temporary file is quiet; one that was written holds the bytes, which are flushed. -/
theorem writeTemp_cases {tmpPath : Path} {bytes : Bytes} {drive after : Drive Path δ}
    {outcome : Except WriteStep Unit} (differ : path ≠ tmpPath)
    (ran : writeTemp tmpPath bytes drive = (outcome, after)) :
    drive.Quiet path after ∧ (outcome = .ok () →
      ∃ id, after.files.names tmpPath = some id ∧ after.files.file id = ⟨bytes, true⟩) := by
  rcases Op.bind_cases ran with ⟨tmp, created, opening, rest⟩ | ⟨_, opening, rfl⟩
  · obtain ⟨quiet, holds⟩ := createNew_cases differ (Op.mapError_ok.mp opening)
    obtain ⟨named, empty, foreign⟩ := holds tmp rfl
    rcases Op.bind_cases rest with ⟨_, filled, writing, flushing⟩ | ⟨_, writing, rfl⟩
    · obtain ⟨filling, sameNames, data⟩ := writeAll_cases foreign (Op.mapError_ok.mp writing)
      have stillForeign : ¬ filled.files.Refers path tmp := fun refers =>
        foreign (filling.files.refers refers)
      cases outcome with
      | error step =>
        obtain ⟨_, failed, _⟩ := Op.mapError_error.mp flushing
        exact ⟨(quiet.trans filling).trans (syncAll_cases stillForeign failed).1, nofun⟩
      | ok done =>
        obtain ⟨flushed, kept, file⟩ := syncAll_cases stillForeign (Op.mapError_ok.mp flushing)
        refine ⟨(quiet.trans filling).trans flushed, fun _ => ⟨tmp, ?_, ?_⟩⟩
        · rw [kept, sameNames, named]
        · rw [file rfl, data rfl, empty, List.nil_append]
    · obtain ⟨_, wrote, _⟩ := Op.mapError_error.mp writing
      exact ⟨quiet.trans (writeAll_cases foreign wrote).1, nofun⟩
  · obtain ⟨_, refused, _⟩ := Op.mapError_error.mp opening
    exact ⟨(createNew_cases differ refused).1, nofun⟩

/-- Discarding a temporary file is quiet and fails with the step; the temporary path is absent, or
its removal failed. -/
theorem discard_cases {tmpPath : Path} {step : WriteStep} {drive after : Drive Path δ}
    {outcome : Except WriteStep Unit} (differ : path ≠ tmpPath)
    (ran : discard tmpPath step drive = (outcome, after)) :
    outcome = .error step ∧ drive.Quiet path after ∧
      (after.files.names tmpPath = none ∨ Call.removeFile ∈ after.failed) := by
  rw [discard, Op.attempt_bind_run] at ran
  obtain ⟨rfl, rfl⟩ := Prod.mk.inj ran
  exact ⟨rfl, removeFile_cases differ rfl⟩

/-- Flushing a directory returns, and is quiet for every path. -/
theorem syncParent_cases {dir : Path} {drive after : Drive Path δ}
    {outcome : Except WriteStep Unit} (ran : syncParent dir drive = (outcome, after)) :
    outcome = .ok () ∧ ∀ other : Path, drive.Quiet other after := by
  rw [syncParent, Op.attempt_bind_run] at ran
  cases opening : openDirectory drive with
  | mk opened reached =>
    have quiet (other : Path) : drive.Quiet other reached :=
      (quiet_openDirectory other).ran opening
    rw [opening] at ran
    cases opened with
    | error failure =>
      obtain ⟨rfl, rfl⟩ := Prod.mk.inj ran
      exact ⟨rfl, quiet⟩
    | ok opened =>
      obtain ⟨rfl, rfl⟩ := Prod.mk.inj ran
      exact ⟨rfl, fun other => (quiet other).trans (quiet_syncDirectory other _ reached)⟩

/-- The path has its old content or the bytes, and after a power loss one it could have had or the
bytes. -/
structure Intact (path : Path) (bytes : Bytes) (before after : Files Path) : Prop where
  /-- As processes see it. -/
  read : after.read path = before.read path ∨ after.read path = some bytes
  /-- After a power loss. -/
  afterLoss : ∀ content, after.AfterLoss path content →
    before.AfterLoss path content ∨ content = some bytes

/-- Where nothing happened to the path, it is intact. -/
theorem Intact.of_keeps {before after : Files Path} (bytes : Bytes)
    (kept : before.Keeps path after) : Intact path bytes before after :=
  ⟨.inl kept.read, fun _ lost => .inl (kept.afterLoss lost)⟩

/-- An intact path to which nothing happened is intact. -/
theorem Intact.trans_keeps {bytes : Bytes} {before middle after : Files Path}
    (intact : Intact path bytes before middle) (kept : middle.Keeps path after) :
    Intact path bytes before after := by
  refine ⟨?_, fun content lost => intact.afterLoss content (kept.afterLoss lost)⟩
  rw [kept.read]
  exact intact.read

/-- A write either fails, and then nothing happened to the target and the temporary path is absent
unless its removal failed; or it returns, and then the target has the bytes. In every state between
the target is intact. -/
theorem atomicWrite_cases {bytes : Bytes} {processId : UInt32} {rand : Block 8} {dir : Path}
    {drive after : Drive Path δ} {outcome : Except WriteStep Unit}
    (inside : path.parent = some dir)
    (ran : atomicWrite path bytes processId rand drive = (outcome, after)) :
    ((∃ step, outcome = .error step ∧ drive.Quiet path after ∧
        (after.files.names (tempSibling path processId rand) = none ∨
          Call.removeFile ∈ after.failed)) ∨
      outcome = .ok () ∧ after.files.read path = some bytes ∧
        Intact path bytes drive.files after.files ∧
        after.files.names (tempSibling path processId rand) = none) ∧
    ∀ past ∈ after.history, past ∈ drive.history ∨ Intact path bytes drive.files past := by
  have differ := tempSibling_ne path processId rand
  have quietly (drive after : Drive Path δ) (quiet : drive.Quiet path after) :
      ∀ past ∈ after.history, past ∈ drive.history ∨ Intact path bytes drive.files past :=
    fun past member => (quiet.history past member).imp_right (.of_keeps bytes)
  rw [atomicWrite, inside] at ran
  dsimp only at ran
  rw [Op.attempt_bind_run] at ran
  cases writing : writeTemp (tempSibling path processId rand) bytes drive with
  | mk written reached =>
    obtain ⟨quiet, filled⟩ := writeTemp_cases differ writing
    rw [writing] at ran
    cases written with
    | error step =>
      obtain ⟨rfl, discarded, gone⟩ := discard_cases differ ran
      exact ⟨.inl ⟨step, rfl, quiet.trans discarded, gone⟩, quietly _ _ (quiet.trans discarded)⟩
    | ok written =>
      obtain ⟨id, named, flushed⟩ := filled rfl
      dsimp only at ran
      rw [Op.attempt_bind_run] at ran
      cases replacing : rename (tempSibling path processId rand) path reached with
      | mk renamed moved =>
        rw [replacing] at ran
        rcases rename_cases replacing with ⟨device, rfl, rfl⟩ |
          ⟨device, found, known, rfl, same, rfl⟩
        · obtain ⟨rfl, discarded, gone⟩ := discard_cases differ ran
          have whole :=
            (quiet.trans (Drive.quiet_refuse path reached device .rename)).trans discarded
          exact ⟨.inl ⟨.rename, rfl, whole, gone⟩, quietly _ _ whole⟩
        · obtain rfl : found = id := Option.some.inj (same.symm.trans named)
          obtain ⟨rfl, synced⟩ := syncParent_cases ran
          have vanished : Files.moved found (tempSibling path processId rand) path
              reached.files.names (tempSibling path processId rand) = none := by
            rw [Files.moved, Function.update_self]
          have left : after.files.names (tempSibling path processId rand) = none :=
            (synced _).files.name.trans vanished
          have replaced : Intact path bytes drive.files
              (reached.files.move found (tempSibling path processId rand) path known) := by
            refine ⟨.inr (Files.read_move known differ flushed), fun content lost => ?_⟩
            exact (Files.afterLoss_move known differ flushed lost).imp_left quiet.files.afterLoss
          have holds : after.files.read path = some bytes :=
            (synced path).files.read.trans (Files.read_move known differ flushed)
          refine ⟨.inr ⟨rfl, holds, replaced.trans_keeps (synced path).files, left⟩, ?_⟩
          intro past member
          rcases (synced path).history past member with before | kept
          · rcases List.mem_cons.mp before with rfl | earlier
            · exact .inr replaced
            · exact quietly _ _ quiet past earlier
          · exact .inr (replaced.trans_keeps kept)

end Facts

/-- A write of the vault file is atomic, whichever calls fail and wherever the process stops. In
every state the files go through, the target has its old content or the new bytes, and after a power
loss in that state one it could have had before or the new bytes. When the write fails, the target
has its old content; when it returns, the new bytes. No temporary file is left by a write that
comes to an end, unless its removal failed. -/
theorem atomicWrite_is_atomic {δ : Type} [Disk δ] (device : δ) (files : Files Path) (path : Path)
    (bytes : Bytes) (processId : UInt32) (rand : Block 8) :
    let run := atomicWrite path bytes processId rand (Drive.start device files)
    let tmpPath := tempSibling path processId rand
    (∀ past ∈ run.2.history,
      (past.read path = files.read path ∨ past.read path = some bytes) ∧
      ∀ content, past.AfterLoss path content →
        files.AfterLoss path content ∨ content = some bytes) ∧
    (∀ step, run.1 = .error step → run.2.files.read path = files.read path ∧
      ∀ content, run.2.files.AfterLoss path content → files.AfterLoss path content) ∧
    (run.1 = .ok () → run.2.files.read path = some bytes ∧
      ∀ content, run.2.files.AfterLoss path content →
        files.AfterLoss path content ∨ content = some bytes) ∧
    (path.parent = none → run.2.files = files) ∧
    (path.parent ≠ none →
      run.2.files.names tmpPath = none ∨ Call.removeFile ∈ run.2.failed) := by
  intro run tmpPath
  cases inside : path.parent with
  | none =>
    have stopped : run = (.error .resolveParent, Drive.start device files) := by
      unfold run
      rw [atomicWrite, inside]
      rfl
    rw [stopped]
    refine ⟨fun past member => ?_, fun _ _ => ⟨rfl, fun _ lost => lost⟩, nofun, fun _ => rfl,
      fun absent => absurd rfl absent⟩
    obtain rfl := List.mem_singleton.mp member
    exact ⟨.inl rfl, fun _ lost => .inl lost⟩
  | some dir =>
    have ran : atomicWrite path bytes processId rand (Drive.start device files) =
        (run.1, run.2) := rfl
    obtain ⟨ends, between⟩ := atomicWrite_cases inside ran
    refine ⟨fun past member => ?_, fun step failed => ?_, fun returned => ?_, fun absent => ?_,
      fun _ => ?_⟩
    · rcases between past member with first | intact
      · obtain rfl := List.mem_singleton.mp first
        exact ⟨.inl rfl, fun _ lost => .inl lost⟩
      · exact ⟨intact.read, intact.afterLoss⟩
    · rcases ends with ⟨_, _, quiet, _⟩ | ⟨clash, _⟩
      · exact ⟨quiet.files.read, fun _ lost => quiet.files.afterLoss lost⟩
      · cases clash.symm.trans failed
    · rcases ends with ⟨_, clash, _⟩ | ⟨_, holds, intact, _⟩
      · cases clash.symm.trans returned
      · exact ⟨holds, intact.afterLoss⟩
    · cases absent
    · rcases ends with ⟨_, _, _, gone⟩ | ⟨_, _, _, gone⟩
      · exact gone
      · exact .inl gone

/-- The step at which a write failed. -/
def failure : Except WriteStep Unit → Option WriteStep
  | .ok () => none
  | .error step => some step

/-- Over a device that fails where the calls do, the write of the application returns what the write
of the file does and leaves the same content. -/
theorem atomicWrite_refines {δ η : Type} [Platform δ] [Disk η] (device : η) (files : Files Path)
    (path : Path) (bytes : Bytes) (processId : UInt32) (rand : Block 8) (world : World δ)
    (shared : world.file = files.read path)
    (answers : (Platform.writeFault world.device).1 =
      failure (atomicWrite path bytes processId rand (Drive.start device files)).1) :
    (Passman.atomicWrite bytes world).1 =
        (atomicWrite path bytes processId rand (Drive.start device files)).1.mapError
          (fun step => .io step.context) ∧
      (Passman.atomicWrite bytes world).2.file =
        (atomicWrite path bytes processId rand (Drive.start device files)).2.files.read path := by
  obtain ⟨_, failing, returning, _⟩ :=
    atomicWrite_is_atomic device files path bytes processId rand
  rw [Passman.atomicWrite, ask_bind_run, answers]
  cases ended : (atomicWrite path bytes processId rand (Drive.start device files)).1 with
  | error step =>
    rw [(failing step ended).1, ← shared]
    exact ⟨rfl, rfl⟩
  | ok done =>
    rw [(returning ended).1]
    exact ⟨rfl, rfl⟩

end Storage

end Passman
