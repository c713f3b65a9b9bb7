import Mathlib.Algebra.Ring.Nat
import Mathlib.Logic.Function.Basic
import Passman.Lib.Bytes
import Passman.Lib.Op

/-!
# Files, and what a power loss leaves of them

Names refer to files and files hold data. A change of names reaches the disk as a whole or not at
all, and data that were not flushed are lost: after a power loss the names are one of the survivors,
and an unflushed file holds anything. A drive decides from a state of its own which calls fail, and
keeps every state the files were in, so a process that stops leaves one of these behind.
-/
namespace Filing

open Bytewise Fallible

/-- The data of a file. -/
structure File where
  /-- The data as processes see them. -/
  data : Bytes
  /-- Whether these data are on the disk. -/
  synced : Bool
  deriving DecidableEq

/-- The file each name refers to. -/
abbrev Names (π : Type) := π → Option Nat

/-- The files of a disk, by number, and the names that refer to them. -/
structure Files (π : Type) where
  /-- The names as processes see them. -/
  names : Names π
  /-- The names a power loss may leave. -/
  survivors : List (Names π)
  /-- The files. -/
  file : Nat → File
  /-- The number of the next file. -/
  next : Nat
  /-- The names as processes see them may be left. -/
  visible : names ∈ survivors
  /-- Every name refers to a file that exists. -/
  fresh : ∀ left ∈ survivors, ∀ path id, left path = some id → id < next

namespace Files

variable {π : Type}

/-- The content of a path. -/
def read (files : Files π) (path : π) : Option Bytes :=
  (files.names path).map fun id => (files.file id).data

/-- The content a path may have after a power loss that leaves it a file, or none. -/
def MayHold (files : Files π) : Option Nat → Option Bytes → Prop
  | none, content => content = none
  | some id, content => ∃ data, content = some data ∧
      ((files.file id).synced = true → data = (files.file id).data)

/-- The path may have the content after a power loss. -/
def AfterLoss (files : Files π) (path : π) (content : Option Bytes) : Prop :=
  ∃ left ∈ files.survivors, files.MayHold (left path) content

/-- The path refers to the file, or may after a power loss. -/
def Refers (files : Files π) (path : π) (id : Nat) : Prop :=
  ∃ left ∈ files.survivors, left path = some id

/-- Change the names: a power loss leaves the change or loses it. -/
def rebind (files : Files π) (change : Names π → Names π)
    (known : ∀ left path id, change left path = some id → left path = some id ∨ id < files.next) :
    Files π where
  names := change files.names
  survivors := files.survivors ++ files.survivors.map change
  file := files.file
  next := files.next
  visible := List.mem_append_right _ (List.mem_map_of_mem files.visible)
  fresh := by
    intro left member path id refers
    rcases List.mem_append.mp member with old | new
    · exact files.fresh left old path id refers
    · obtain ⟨earlier, old, rfl⟩ := List.mem_map.mp new
      rcases known earlier path id refers with same | small
      · exact files.fresh earlier old path id same
      · exact small

/-- Replace the data of a file. -/
def store (files : Files π) (id : Nat) (file : File) : Files π :=
  { files with file := Function.update files.file id file }

/-- Make room for one more file, which is empty. -/
def allocate (files : Files π) : Files π :=
  { files.store files.next ⟨[], false⟩ with
    next := files.next + 1
    fresh := fun left member path id refers =>
      Nat.lt_succ_of_lt (files.fresh left member path id refers) }

/-- Append bytes to a file. -/
def append (files : Files π) (id : Nat) (bytes : Bytes) : Files π :=
  files.store id ⟨(files.file id).data ++ bytes, false⟩

/-- Flush the data of a file. -/
def flush (files : Files π) (id : Nat) : Files π :=
  files.store id ⟨(files.file id).data, true⟩

/-- Flush the names of the paths inside a directory. -/
def flushNames (files : Files π) (inside : π → Bool) : Files π where
  names := files.names
  survivors := files.survivors.map fun left path =>
    if inside path then files.names path else left path
  file := files.file
  next := files.next
  visible := by
    refine List.mem_map.mpr ⟨files.names, files.visible, ?_⟩
    funext path
    rw [ite_self]
  fresh := by
    intro left member path id refers
    obtain ⟨earlier, old, rfl⟩ := List.mem_map.mp member
    change (if inside path then files.names path else earlier path) = some id at refers
    by_cases flushed : inside path = true
    · rw [if_pos flushed] at refers
      exact files.fresh files.names files.visible path id refers
    · rw [if_neg flushed] at refers
      exact files.fresh earlier old path id refers

variable [DecidableEq π]

/-- Create an empty file under a path. -/
def create (files : Files π) (path : π) : Files π :=
  files.allocate.rebind (fun left => Function.update left path (some files.next)) (by
    intro left other id refers
    by_cases same : other = path
    · rw [same, Function.update_self] at refers
      exact .inr (Option.some.inj refers ▸ Nat.lt_succ_self _)
    · rw [Function.update_of_ne same] at refers
      exact .inl refers)

/-- Remove a path. -/
def remove (files : Files π) (path : π) : Files π :=
  files.rebind (fun left => Function.update left path none) (by
    intro left other id refers
    by_cases same : other = path
    · rw [same, Function.update_self] at refers
      cases refers
    · rw [Function.update_of_ne same] at refers
      exact .inl refers)

/-- The names after a file is moved from one path to another. -/
def moved (id : Nat) (source target : π) (left : Names π) : Names π :=
  Function.update (Function.update left target (some id)) source none

/-- Move a file to a path, in place of what is there. -/
def move (files : Files π) (id : Nat) (source target : π) (exists' : id < files.next) : Files π :=
  files.rebind (moved id source target) (by
    intro left path found refers
    by_cases left' : path = source
    · rw [left', moved, Function.update_self] at refers
      cases refers
    · rw [moved, Function.update_of_ne left'] at refers
      by_cases arrives : path = target
      · rw [arrives, Function.update_self] at refers
        exact .inr (Option.some.inj refers ▸ exists')
      · rw [Function.update_of_ne arrives] at refers
        exact .inl refers)

end Files

/-- The calls a drive answers. -/
inductive Call where
  /-- Create a file that does not exist. -/
  | createNew
  /-- Write bytes to a file. -/
  | write
  /-- Flush a file. -/
  | syncAll
  /-- Move a file over another. -/
  | rename
  /-- Remove a file. -/
  | removeFile
  /-- Open a directory. -/
  | openDirectory
  /-- Flush a directory. -/
  | syncDirectory
  deriving DecidableEq

/-- What decides which calls fail, from its own state. -/
class Disk (δ : Type) where
  /-- Whether a call fails. -/
  fails : Call → δ → Bool × δ
  /-- How many of the bytes left to write are taken, unless the write fails. -/
  takes : Nat → δ → Option Nat × δ

/-- The files behind a disk. -/
structure Drive (π δ : Type) where
  /-- The disk. -/
  device : δ
  /-- The files. -/
  files : Files π
  /-- Every state the files were in, newest first. -/
  history : List (Files π)
  /-- The calls that failed, newest first. -/
  failed : List Call

/-- A drive before the first call. -/
def Drive.start {π δ : Type} (device : δ) (files : Files π) : Drive π δ :=
  ⟨device, files, [files], []⟩

section Calls

variable {π δ α : Type}

/-- The drive after a call that failed. -/
def Drive.refuse (drive : Drive π δ) (device : δ) (call : Call) : Drive π δ :=
  { drive with device, failed := call :: drive.failed }

/-- The drive after a call that changed the files. -/
def Drive.reach (drive : Drive π δ) (device : δ) (files : Files π) : Drive π δ :=
  { drive with device, files, history := files :: drive.history }

variable [Disk δ]

/-- A call that fails when the disk says so or when it does not apply. -/
def request (call : Call) (change : Files π → Option (α × Files π)) : Op (Drive π δ) Unit α :=
  fun drive =>
    let (fails, device) := Disk.fails call drive.device
    match if fails then none else change drive.files with
    | none => (.error (), drive.refuse device call)
    | some (result, files) => (.ok result, drive.reach device files)

/-- Write some of the bytes to a file, and return how many. -/
def writeSome (id : Nat) (bytes : Bytes) : Op (Drive π δ) Unit Nat := fun drive =>
  match Disk.takes bytes.length drive.device with
  | (none, device) => (.error (), drive.refuse device .write)
  | (some most, device) =>
    let written := min most bytes.length
    (.ok written, drive.reach device (drive.files.append id (bytes.take written)))

/-- Write all bytes to a file; a write that takes none of them fails. -/
def writeAll (id : Nat) (bytes : Bytes) : Op (Drive π δ) Unit Unit :=
  match bytes with
  | [] => pure ()
  | first :: rest => do
    let written ← writeSome id (first :: rest)
    if _ : written = 0 then Op.fail ()
    else writeAll id ((first :: rest).drop written)
termination_by bytes.length
decreasing_by
  rename_i taken
  rw [List.length_drop, List.length_cons]
  omega

/-- Flush a file. -/
def syncAll (id : Nat) : Op (Drive π δ) Unit Unit :=
  request .syncAll fun files => some ((), files.flush id)

/-- Open a directory. -/
def openDirectory : Op (Drive π δ) Unit Unit :=
  request .openDirectory fun files => some ((), files)

/-- Flush the names inside a directory. -/
def syncDirectory (inside : π → Bool) : Op (Drive π δ) Unit Unit :=
  request .syncDirectory fun files => some ((), files.flushNames inside)

variable [DecidableEq π]

/-- Create a file under a path that refers to none. -/
def createNew (path : π) : Op (Drive π δ) Unit Nat :=
  request .createNew fun files =>
    if (files.names path).isSome then none else some (files.next, files.create path)

/-- Move the file of a path over another path. -/
def rename (source target : π) : Op (Drive π δ) Unit Unit :=
  request .rename fun files =>
    match found : files.names source with
    | none => none
    | some id => some ((), files.move id source target
        (files.fresh files.names files.visible source id found))

/-- Remove the file of a path. -/
def removeFile (path : π) : Op (Drive π δ) Unit Unit :=
  request .removeFile fun files =>
    if (files.names path).isSome then some ((), files.remove path) else none

end Calls

namespace Files

variable {π : Type}

/-- Nothing happened to a path: it refers to what it did, also after a power loss, and the files it
may refer to are as they were. -/
structure Keeps (path : π) (before after : Files π) : Prop where
  /-- The path refers to the same file. -/
  name : after.names path = before.names path
  /-- A power loss leaves the path what it could leave before. -/
  survivors : ∀ left ∈ after.survivors, ∃ earlier ∈ before.survivors, left path = earlier path
  /-- The files it may refer to are unchanged. -/
  data : ∀ id, after.Refers path id → after.file id = before.file id

/-- Where nothing happened, nothing happened to any path. -/
theorem Keeps.refl (path : π) (files : Files π) : files.Keeps path files :=
  ⟨rfl, fun left member => ⟨left, member, rfl⟩, fun _ _ => rfl⟩

/-- A file the path may refer to is one it could refer to before. -/
theorem Keeps.refers {path : π} {before after : Files π} (kept : before.Keeps path after) {id : Nat}
    (refers : after.Refers path id) : before.Refers path id := by
  obtain ⟨left, member, found⟩ := refers
  obtain ⟨earlier, old, same⟩ := kept.survivors left member
  exact ⟨earlier, old, same ▸ found⟩

/-- Nothing happening composes. -/
theorem Keeps.trans {path : π} {first second third : Files π} (early : first.Keeps path second)
    (late : second.Keeps path third) : first.Keeps path third where
  name := late.name.trans early.name
  survivors := by
    intro left member
    obtain ⟨middle, between, same⟩ := late.survivors left member
    obtain ⟨earlier, old, equal⟩ := early.survivors middle between
    exact ⟨earlier, old, same.trans equal⟩
  data id refers := (late.data id refers).trans (early.data id (late.refers refers))

/-- A path nothing happened to has the same content. -/
theorem Keeps.read {path : π} {before after : Files π} (kept : before.Keeps path after) :
    after.read path = before.read path := by
  rw [Files.read, Files.read, ← kept.name]
  cases found : after.names path with
  | none => rfl
  | some id =>
    have same := kept.data id ⟨after.names, after.visible, found⟩
    rw [Option.map_some, Option.map_some, same]

/-- A path nothing happened to has, after a power loss, a content it could have had before. -/
theorem Keeps.afterLoss {path : π} {before after : Files π} (kept : before.Keeps path after)
    {content : Option Bytes} (lost : after.AfterLoss path content) :
    before.AfterLoss path content := by
  obtain ⟨left, member, holds⟩ := lost
  obtain ⟨earlier, old, same⟩ := kept.survivors left member
  refine ⟨earlier, old, ?_⟩
  rw [← same]
  cases found : left path with
  | none =>
    rw [found] at holds
    exact holds
  | some id =>
    rw [found, MayHold, kept.data id ⟨left, member, found⟩] at holds
    exact holds

/-- A change of names that keeps a path, whatever the names were, happens not to it. -/
theorem keeps_rebind {path : π} {files : Files π} {change : Names π → Names π}
    {known : ∀ left path id, change left path = some id → left path = some id ∨ id < files.next}
    (same : ∀ left, change left path = left path) :
    files.Keeps path (files.rebind change known) where
  name := same files.names
  survivors := by
    intro left member
    rcases List.mem_append.mp member with old | new
    · exact ⟨left, old, rfl⟩
    · obtain ⟨earlier, old, rfl⟩ := List.mem_map.mp new
      exact ⟨earlier, old, same earlier⟩
  data _ _ := rfl

/-- Storing data in a file the path cannot refer to happens not to it. -/
theorem keeps_store {path : π} {files : Files π} {id : Nat} (file : File)
    (foreign : ¬ files.Refers path id) : files.Keeps path (files.store id file) where
  name := rfl
  survivors left member := ⟨left, member, rfl⟩
  data := by
    intro other refers
    have differ : other ≠ id := fun same => foreign (same ▸ refers)
    exact Function.update_of_ne differ file files.file

/-- No path refers to the number of the next file. -/
theorem not_refers_next (path : π) (files : Files π) : ¬ files.Refers path files.next := by
  rintro ⟨left, member, found⟩
  exact Nat.lt_irrefl _ (files.fresh left member path _ found)

/-- Flushing names happens to no path. -/
theorem keeps_flushNames (path : π) (files : Files π) (inside : π → Bool) :
    files.Keeps path (files.flushNames inside) where
  name := rfl
  survivors := by
    intro left member
    obtain ⟨earlier, old, rfl⟩ := List.mem_map.mp member
    by_cases flushed : inside path = true
    · exact ⟨files.names, files.visible, if_pos flushed⟩
    · exact ⟨earlier, old, if_neg flushed⟩
  data _ _ := rfl

variable [DecidableEq π]

/-- Creating a file under another path happens not to the path. -/
theorem keeps_create {path other : π} (files : Files π) (differ : path ≠ other) :
    files.Keeps path (files.create other) := by
  have stored : files.Keeps path files.allocate :=
    { keeps_store ⟨[], false⟩ (not_refers_next path files) with }
  exact stored.trans (keeps_rebind fun left => Function.update_of_ne differ _ left)

/-- A file created under another path is not one the path may refer to. -/
theorem not_refers_create {path other : π} (files : Files π) (differ : path ≠ other) :
    ¬ (files.create other).Refers path files.next := fun refers =>
  not_refers_next path files ((keeps_create files differ).refers refers)

/-- Removing another path happens not to the path. -/
theorem keeps_remove {path other : π} (files : Files π) (differ : path ≠ other) :
    files.Keeps path (files.remove other) :=
  keeps_rebind fun left => Function.update_of_ne differ _ left

/-- A path that a flushed file is moved to has its data. -/
theorem read_move {files : Files π} {id : Nat} {source target : π} {data : Bytes}
    (known : id < files.next) (differ : target ≠ source) (flushed : files.file id = ⟨data, true⟩) :
    (files.move id source target known).read target = some data := by
  have arrived : (files.move id source target known).names target = some id := by
    change moved id source target files.names target = some id
    rw [moved, Function.update_of_ne differ, Function.update_self]
  rw [read, arrived, Option.map_some]
  exact congrArg (fun file => some file.data) flushed

/-- After a power loss a path that a flushed file was moved to has its data, or is as before. -/
theorem afterLoss_move {files : Files π} {id : Nat} {source target : π} {data : Bytes}
    (known : id < files.next) (differ : target ≠ source) (flushed : files.file id = ⟨data, true⟩)
    {content : Option Bytes} (lost : (files.move id source target known).AfterLoss target content) :
    files.AfterLoss target content ∨ content = some data := by
  obtain ⟨left, member, holds⟩ := lost
  rcases List.mem_append.mp member with old | new
  · exact .inl ⟨left, old, holds⟩
  · obtain ⟨earlier, _, rfl⟩ := List.mem_map.mp new
    have arrived : moved id source target earlier target = some id := by
      rw [moved, Function.update_of_ne differ, Function.update_self]
    rw [arrived] at holds
    obtain ⟨found, rfl, durable⟩ := holds
    change (files.file id).synced = true → found = (files.file id).data at durable
    rw [flushed] at durable
    exact .inr (congrArg some (durable rfl))

end Files

namespace Drive

variable {π δ : Type}

/-- Nothing happened to a path, in the files and in every state they went through. -/
structure Quiet (path : π) (before after : Drive π δ) : Prop where
  /-- Nothing happened in the files. -/
  files : before.files.Keeps path after.files
  /-- Nothing happened in the states between. -/
  history : ∀ past ∈ after.history, past ∈ before.history ∨ before.files.Keeps path past

/-- A drive that is left alone is quiet. -/
theorem Quiet.refl (path : π) (drive : Drive π δ) : drive.Quiet path drive :=
  ⟨.refl path drive.files, fun _ member => .inl member⟩

/-- Quiet runs compose. -/
theorem Quiet.trans {path : π} {first second third : Drive π δ} (early : first.Quiet path second)
    (late : second.Quiet path third) : first.Quiet path third where
  files := early.files.trans late.files
  history := by
    intro past member
    rcases late.history past member with between | kept
    · exact early.history past between
    · exact .inr (early.files.trans kept)

/-- A refused call is quiet. -/
theorem quiet_refuse (path : π) (drive : Drive π δ) (device : δ) (call : Call) :
    drive.Quiet path (drive.refuse device call) :=
  ⟨.refl path drive.files, fun _ member => .inl member⟩

/-- A call that keeps the path is quiet. -/
theorem quiet_reach {path : π} {drive : Drive π δ} (device : δ) {files : Files π}
    (kept : drive.files.Keeps path files) : drive.Quiet path (drive.reach device files) := by
  refine ⟨kept, fun past member => ?_⟩
  rcases List.mem_cons.mp member with rfl | old
  · exact .inr kept
  · exact .inl old

end Drive

section Calls

variable {π δ α : Type} [Disk δ]

/-- A call is refused, which leaves the files, or changes them as it says. -/
theorem request_cases {call : Call} {change : Files π → Option (α × Files π)}
    {drive after : Drive π δ} {outcome : Except Unit α}
    (ran : request call change drive = (outcome, after)) :
    (∃ device, outcome = .error () ∧ after = drive.refuse device call) ∨
      ∃ device result files, outcome = .ok result ∧ change drive.files = some (result, files) ∧
        after = drive.reach device files := by
  rw [request] at ran
  dsimp only at ran
  cases fails : (Disk.fails call drive.device).1 with
  | true =>
    rw [fails] at ran
    obtain ⟨rfl, rfl⟩ := Prod.mk.inj ran
    exact .inl ⟨_, rfl, rfl⟩
  | false =>
    rw [fails] at ran
    cases changed : change drive.files with
    | none =>
      rw [changed] at ran
      obtain ⟨rfl, rfl⟩ := Prod.mk.inj ran
      exact .inl ⟨_, rfl, rfl⟩
    | some pair =>
      rw [changed] at ran
      obtain ⟨rfl, rfl⟩ := Prod.mk.inj ran
      exact .inr ⟨_, _, _, rfl, rfl, rfl⟩

/-- A call that keeps the path wherever it applies is quiet. -/
theorem quiet_request {path : π} {call : Call} {change : Files π → Option (α × Files π)}
    (kept : ∀ files result reached, change files = some (result, reached) →
      files.Keeps path reached) :
    Op.Keeps (Drive.Quiet path) (request call change : Op (Drive π δ) Unit α) := by
  intro drive
  cases ran : (request call change : Op (Drive π δ) Unit α) drive with
  | mk outcome after =>
    rcases request_cases ran with ⟨device, _, rfl⟩ | ⟨device, _, files, _, changed, rfl⟩
    · exact Drive.quiet_refuse path drive device call
    · exact Drive.quiet_reach device (kept _ _ _ changed)

/-- Opening a directory is quiet. -/
theorem quiet_openDirectory (path : π) :
    Op.Keeps (Drive.Quiet path) (openDirectory : Op (Drive π δ) Unit Unit) := by
  refine quiet_request fun files result reached changed => ?_
  obtain ⟨_, rfl⟩ := Prod.mk.inj (Option.some.inj changed)
  exact .refl path files

/-- Flushing a directory is quiet. -/
theorem quiet_syncDirectory (path : π) (inside : π → Bool) :
    Op.Keeps (Drive.Quiet path) (syncDirectory inside : Op (Drive π δ) Unit Unit) := by
  refine quiet_request fun files result reached changed => ?_
  obtain ⟨_, rfl⟩ := Prod.mk.inj (Option.some.inj changed)
  exact Files.keeps_flushNames path files inside

/-- A write is refused, or appends as many bytes as it returns. -/
theorem writeSome_cases {id : Nat} {bytes : Bytes} {drive after : Drive π δ}
    {outcome : Except Unit Nat} (ran : writeSome id bytes drive = (outcome, after)) :
    (∃ device, outcome = .error () ∧ after = drive.refuse device .write) ∨
      ∃ device written, outcome = .ok written ∧
        after = drive.reach device (drive.files.append id (bytes.take written)) := by
  rw [writeSome] at ran
  rcases takes : Disk.takes bytes.length drive.device with ⟨taken, device⟩
  rw [takes] at ran
  cases taken with
  | none =>
    obtain ⟨rfl, rfl⟩ := Prod.mk.inj ran
    exact .inl ⟨device, rfl, rfl⟩
  | some most =>
    obtain ⟨rfl, rfl⟩ := Prod.mk.inj ran
    exact .inr ⟨device, min most bytes.length, rfl, rfl⟩

/-- Writing to a file the path cannot refer to is quiet and changes no name; a write that returns
has appended all bytes. -/
theorem writeAll_cases {path : π} {id : Nat} {bytes : Bytes} {drive after : Drive π δ}
    {outcome : Except Unit Unit} (foreign : ¬ drive.files.Refers path id)
    (ran : writeAll id bytes drive = (outcome, after)) :
    drive.Quiet path after ∧ after.files.names = drive.files.names ∧
      (outcome = .ok () → (after.files.file id).data = (drive.files.file id).data ++ bytes) := by
  induction sized : bytes.length using Nat.strong_induction_on generalizing bytes drive with
  | _ size ih =>
    cases bytes with
    | nil =>
      rw [writeAll] at ran
      obtain ⟨_, rfl⟩ := Prod.mk.inj ran
      exact ⟨.refl path drive, rfl, fun _ => (List.append_nil _).symm⟩
    | cons first rest =>
      rw [writeAll] at ran
      rcases Op.bind_cases ran with ⟨written, middle, wrote, continued⟩ | ⟨_, wrote, rfl⟩
      · rcases writeSome_cases wrote with ⟨_, clash, _⟩ | ⟨device, taken, same, rfl⟩
        · cases clash
        · obtain rfl := Except.ok.inj same
          have kept := Files.keeps_store
            ⟨(drive.files.file id).data ++ (first :: rest).take written, false⟩ foreign
          have quiet : drive.Quiet path (drive.reach device
            (drive.files.append id ((first :: rest).take written))) := Drive.quiet_reach device kept
          have appended : ((drive.files.append id ((first :: rest).take written)).file id).data =
              (drive.files.file id).data ++ (first :: rest).take written :=
            congrArg File.data (Function.update_self id _ drive.files.file)
          by_cases stuck : written = 0
          · rw [dif_pos stuck] at continued
            obtain ⟨rfl, rfl⟩ := Prod.mk.inj continued
            exact ⟨quiet, rfl, nofun⟩
          · rw [dif_neg stuck] at continued
            have shorter : ((first :: rest).drop written).length < size := by
              rw [← sized, List.length_drop, List.length_cons]
              omega
            have foreign' : ¬ (drive.reach device
                (drive.files.append id ((first :: rest).take written))).files.Refers path id :=
              fun refers => foreign (kept.refers refers)
            obtain ⟨more, names, data⟩ := ih _ shorter foreign' continued rfl
            refine ⟨quiet.trans more, names, fun returned => ?_⟩
            rw [data returned]
            change ((drive.files.append id ((first :: rest).take written)).file id).data ++ _ = _
            rw [appended, List.append_assoc, List.take_append_drop]
      · rcases writeSome_cases wrote with ⟨device, _, rfl⟩ | ⟨_, _, clash, _⟩
        · exact ⟨Drive.quiet_refuse path drive device .write, rfl, nofun⟩
        · cases clash

/-- Flushing a file the path cannot refer to is quiet and changes no name; it marks the data as
flushed. -/
theorem syncAll_cases {path : π} {id : Nat} {drive after : Drive π δ} {outcome : Except Unit Unit}
    (foreign : ¬ drive.files.Refers path id) (ran : syncAll id drive = (outcome, after)) :
    drive.Quiet path after ∧ after.files.names = drive.files.names ∧
      (outcome = .ok () → after.files.file id = ⟨(drive.files.file id).data, true⟩) := by
  rcases request_cases ran with ⟨device, rfl, rfl⟩ | ⟨device, _, files, rfl, changed, rfl⟩
  · exact ⟨Drive.quiet_refuse path drive device .syncAll, rfl, nofun⟩
  · obtain ⟨_, rfl⟩ := Prod.mk.inj (Option.some.inj changed)
    exact ⟨Drive.quiet_reach device (Files.keeps_store _ foreign), rfl,
      fun _ => Function.update_self id _ drive.files.file⟩

variable [DecidableEq π]

/-- Creating a file under another path is quiet; the file that is returned is empty, and the path
cannot refer to it. -/
theorem createNew_cases {path other : π} {drive after : Drive π δ} {outcome : Except Unit Nat}
    (differ : path ≠ other) (ran : createNew other drive = (outcome, after)) :
    drive.Quiet path after ∧ ∀ id, outcome = .ok id → after.files.names other = some id ∧
      (after.files.file id).data = [] ∧ ¬ after.files.Refers path id := by
  rcases request_cases ran with ⟨device, rfl, rfl⟩ | ⟨device, id, files, rfl, changed, rfl⟩
  · exact ⟨Drive.quiet_refuse path drive device .createNew, nofun⟩
  · by_cases taken : (drive.files.names other).isSome = true
    · rw [if_pos taken] at changed
      cases changed
    · rw [if_neg taken] at changed
      obtain ⟨rfl, rfl⟩ := Prod.mk.inj (Option.some.inj changed)
      refine ⟨Drive.quiet_reach device (Files.keeps_create drive.files differ), fun id same => ?_⟩
      obtain rfl := Except.ok.inj same
      have named : Function.update drive.files.names other (some drive.files.next) other =
        some drive.files.next := Function.update_self other _ drive.files.names
      have empty : Function.update drive.files.file drive.files.next ⟨[], false⟩ drive.files.next =
        ⟨[], false⟩ := Function.update_self drive.files.next _ drive.files.file
      exact ⟨named, congrArg File.data empty, Files.not_refers_create drive.files differ⟩

/-- Removing another path is quiet; afterwards it is absent, or its removal failed. -/
theorem removeFile_cases {path other : π} {drive after : Drive π δ} {outcome : Except Unit Unit}
    (differ : path ≠ other) (ran : removeFile other drive = (outcome, after)) :
    drive.Quiet path after ∧
      (after.files.names other = none ∨ Call.removeFile ∈ after.failed) := by
  rcases request_cases ran with ⟨device, rfl, rfl⟩ | ⟨device, _, files, rfl, changed, rfl⟩
  · exact ⟨Drive.quiet_refuse path drive device .removeFile, .inr List.mem_cons_self⟩
  · by_cases found : (drive.files.names other).isSome = true
    · rw [if_pos found] at changed
      obtain ⟨_, rfl⟩ := Prod.mk.inj (Option.some.inj changed)
      have gone : Function.update drive.files.names other none other = none :=
        Function.update_self other none drive.files.names
      exact ⟨Drive.quiet_reach device (Files.keeps_remove drive.files differ), .inl gone⟩
    · rw [if_neg found] at changed
      cases changed

/-- A file is moved over another path, or nothing happened. -/
theorem rename_cases {source target : π} {drive after : Drive π δ} {outcome : Except Unit Unit}
    (ran : rename source target drive = (outcome, after)) :
    (∃ device, outcome = .error () ∧ after = drive.refuse device .rename) ∨
      ∃ device id, ∃ known : id < drive.files.next, outcome = .ok () ∧
        drive.files.names source = some id ∧
        after = drive.reach device (drive.files.move id source target known) := by
  rcases request_cases ran with refused | ⟨device, _, files, rfl, changed, rfl⟩
  · exact .inl refused
  · split at changed
    · cases changed
    · next id found =>
      obtain ⟨_, rfl⟩ := Prod.mk.inj (Option.some.inj changed)
      exact .inr ⟨device, id, _, rfl, found, rfl⟩

end Calls

end Filing
