import Passman.Core.FileSteps
import Passman.Core.Restart

/-!
# Operations that overlap on one instance

The lock of an instance keeps other processes out, but nothing keeps the operations of one instance
apart: a session may add an entry while an attempt to unlock or an export is under way. A run takes
the file steps of operations in any order. What an operation writes is made from the copy it read,
so an entry that another operation stored in between is lost.
-/
namespace Passman

open Bytewise Fallible Transition

section Overlaps

variable {δ : Type}

/-- How far an operation is. -/
inductive Stage where
  /-- It was called. -/
  | called
  /-- It has read the file. -/
  | loaded (plan : Plan) (vault : Vault)
  /-- It has returned, with success or not. -/
  | returned (ok : Bool)

/-- An operation under way. -/
structure Task where
  /-- The operation. -/
  call : FileCall
  /-- How far it is. -/
  stage : Stage

/-- Operations under way on one instance. -/
structure Overlap (δ : Type) where
  /-- The instance. -/
  world : World δ
  /-- The operations. -/
  tasks : List Task
  /-- The entry changes of the operations that returned with success, in this order. -/
  changes : List Change

/-- The map of the vault in the file. -/
def World.contents [Crates] (kMaster : MasterKey) (world : World δ) : Contents :=
  match world.vault? with
  | some vault => vault.contents kMaster
  | none => fun _ => none

namespace Overlap

/-- Operations that were called on an instance. -/
def start (world : World δ) (calls : List FileCall) : Overlap δ :=
  ⟨world, calls.map fun call => ⟨call, .called⟩, []⟩

variable [Platform δ] [Crates]

/-- The next step of an operation: where it gets, the change it returns with, and the world. -/
def advance (call : FileCall) (world : World δ) : Stage → Stage × List Change × World δ
  | .called =>
    match call.read world with
    | (.ok (plan, vault), world) => (.loaded plan vault, [], world)
    | (.error _, world) => (.returned false, [], world)
  | .loaded plan vault =>
    match plan.finish vault world with
    | (.ok _, world) => (.returned true, plan.changes, world)
    | (.error _, world) => (.returned false, [], world)
  | .returned ok => (.returned ok, [], world)

/-- One operation takes its next step. -/
def step (overlap : Overlap δ) (turn : Nat) : Overlap δ :=
  match overlap.tasks[turn]? with
  | none => overlap
  | some task =>
    let (stage, changes, world) := advance task.call overlap.world task.stage
    ⟨world, overlap.tasks.set turn { task with stage }, overlap.changes ++ changes⟩

omit [Platform δ] in
/-- The file holds what it held at the start, after the changes of the operations that returned
with success. -/
def NothingLost (kMaster : MasterKey) (contents : Contents) (overlap : Overlap δ) : Prop :=
  overlap.world.contents kMaster = contents.after overlap.changes

/-- The next step of the operation writes nothing, or the copy it read has the entries of the file,
the one it changes apart. -/
def WritesCurrent (kMaster : MasterKey) (overlap : Overlap δ) (turn : Nat) : Prop :=
  ∀ call plan vault, overlap.tasks[turn]? = some ⟨call, .loaded plan vault⟩ →
    (plan.finish vault overlap.world).2.file = overlap.world.file ∨
      (vault.contents kMaster).after plan.changes =
        (overlap.world.contents kMaster).after plan.changes

omit [Platform δ] in
/-- A change is made under the key of the vault and fits, or under a key that does not decrypt the
index that was read. -/
def Regular (kMaster : MasterKey) (overlap : Overlap δ) (turn : Nat) : Prop :=
  ∀ call app change vault, overlap.tasks[turn]? = some ⟨call, .loaded (.edit app change) vault⟩ →
    (app.kMaster = kMaster ∧ change.Fits kMaster vault) ∨
      ∃ error, vault.decryptIndex app.kMaster = .error error

omit [Platform δ] in
/-- The file and the copies that were read hold coherent vaults. -/
structure Sound (kMaster : MasterKey) (overlap : Overlap δ) : Prop where
  /-- The file holds a coherent vault. -/
  file : ∃ vault rows, overlap.world.vault? = some vault ∧ vault.Coherent kMaster rows
  /-- So do the copies. -/
  copies : ∀ task ∈ overlap.tasks, ∀ plan vault, task.stage = .loaded plan vault →
    ∃ rows, vault.Coherent kMaster rows

omit [Platform δ] in
/-- An operation that gets somewhere leaves the others, and the file if it holds a coherent
vault. -/
theorem Sound.proceed {kMaster : MasterKey} {overlap : Overlap δ} (sound : overlap.Sound kMaster)
    {world : World δ} (turn : Nat) (task : Task) (changes : List Change)
    (file : ∃ vault rows, world.vault? = some vault ∧ vault.Coherent kMaster rows)
    (copy : ∀ plan vault, task.stage = .loaded plan vault → ∃ rows, vault.Coherent kMaster rows) :
    Sound kMaster ⟨world, overlap.tasks.set turn task, changes⟩ := by
  refine ⟨file, fun other member plan vault loaded => ?_⟩
  rcases List.mem_or_eq_of_mem_set member with old | rfl
  · exact sound.copies other old plan vault loaded
  · exact copy plan vault loaded

omit [Platform δ] in
/-- The map depends on the file only. -/
theorem contents_of_file (kMaster : MasterKey) {before after : World δ}
    (same : after.file = before.file) : after.contents kMaster = before.contents kMaster := by
  rw [World.contents, World.contents, World.vault?, World.vault?, same]

omit [Platform δ] [Crates] in
/-- More changes come last. -/
theorem after_append (contents : Contents) (early late : List Change) :
    contents.after (early ++ late) = (contents.after early).after late :=
  List.foldl_append

omit [Platform δ] [Crates] in
/-- The change of a plan that was made already changes nothing. -/
theorem after_after (contents : Contents) (plan : Plan) :
    (contents.after plan.changes).after plan.changes = contents.after plan.changes := by
  cases plan with
  | edit app change => exact change.apply_apply contents
  | _ => rfl

/-- A step keeps the file and the copies sound, and loses nothing exactly when it writes a copy that
is current. -/
theorem step_nothingLost_iff (aead : AeadLaws) (laws : PostcardLaws) {kMaster : MasterKey}
    {contents : Contents} {overlap : Overlap δ} {turn : Nat} (sound : overlap.Sound kMaster)
    (regular : overlap.Regular kMaster turn) (kept : overlap.NothingLost kMaster contents) :
    (overlap.step turn).Sound kMaster ∧
      ((overlap.step turn).NothingLost kMaster contents ↔ overlap.WritesCurrent kMaster turn) := by
  obtain ⟨stored, rows, held, coherent⟩ := sound.file
  have same {world : World δ} (file : world.file = overlap.world.file) :
      ∃ vault rows, world.vault? = some vault ∧ vault.Coherent kMaster rows :=
    ⟨stored, rows, by rw [World.vault?, file]; exact held, coherent⟩
  -- A step that leaves the file and returns no change loses nothing.
  have still {world : World δ} {tasks : List Task} (file : world.file = overlap.world.file) :
      NothingLost kMaster contents ⟨world, tasks, overlap.changes ++ []⟩ := by
    rw [NothingLost, List.append_nil, contents_of_file kMaster file]
    exact kept
  cases present : overlap.tasks[turn]? with
  | none =>
    have waits : overlap.step turn = overlap := by simp only [step, present]
    rw [waits]
    refine ⟨sound, iff_of_true kept fun call plan vault loaded => ?_⟩
    rw [present] at loaded
    cases loaded
  | some task =>
    obtain ⟨call, stage⟩ := task
    cases stage with
    | called =>
      have idle : overlap.WritesCurrent kMaster turn := by
        intro call plan vault loaded
        rw [present] at loaded
        cases loaded
      rcases ran : call.read overlap.world with ⟨outcome, world⟩
      obtain ⟨file, stores⟩ := FileCall.read_cases ran
      cases outcome with
      | error error =>
        simp only [step, present, advance, ran]
        exact ⟨sound.proceed turn _ _ (same file) (fun _ _ clash => by cases clash),
          iff_of_true (still file) idle⟩
      | ok read =>
        obtain ⟨plan, vault⟩ := read
        simp only [step, present, advance, ran]
        refine ⟨sound.proceed turn _ _ (same file) ?_, iff_of_true (still file) idle⟩
        intro other copy loaded
        obtain ⟨rfl, rfl⟩ := Stage.loaded.inj loaded
        obtain rfl := Option.some.inj ((stores _ rfl).vault?.symm.trans held)
        exact ⟨rows, coherent⟩
    | returned ok =>
      have idle : overlap.WritesCurrent kMaster turn := by
        intro call plan vault loaded
        rw [present] at loaded
        cases loaded
      simp only [step, present, advance]
      exact ⟨sound.proceed turn _ _ (same rfl) (fun _ _ clash => by cases clash),
        iff_of_true (still rfl) idle⟩
    | loaded plan vault =>
      obtain ⟨left, copied⟩ := sound.copies _ (List.mem_of_getElem? present) plan vault rfl
      have current : overlap.WritesCurrent kMaster turn ↔
          (plan.finish vault overlap.world).2.file = overlap.world.file ∨
            (vault.contents kMaster).after plan.changes =
              (overlap.world.contents kMaster).after plan.changes := by
        refine ⟨fun holds => holds call plan vault present, fun holds other _ _ loaded => ?_⟩
        rw [present] at loaded
        obtain ⟨_, same⟩ := Task.mk.inj (Option.some.inj loaded)
        obtain ⟨rfl, rfl⟩ := Stage.loaded.inj same
        exact holds
      rcases ran : plan.finish vault overlap.world with ⟨outcome, world⟩
      obtain ⟨ok, made, moved, returned, failed⟩ : ∃ ok made, overlap.step turn =
          ⟨world, overlap.tasks.set turn ⟨call, .returned ok⟩, overlap.changes ++ made⟩ ∧
            (outcome = .ok () → made = plan.changes) ∧ (outcome = .error () → made = []) := by
        cases outcome with
        | ok value =>
          refine ⟨true, plan.changes, ?_, fun _ => rfl, fun clash => by cases clash⟩
          simp only [step, present, advance, ran]
        | error error =>
          refine ⟨false, [], ?_, fun clash => (by cases clash), fun _ => rfl⟩
          simp only [step, present, advance, ran]
      rw [current, moved, ran]
      have proceeds
          (file : ∃ vault rows, world.vault? = some vault ∧ vault.Coherent kMaster rows) :=
        sound.proceed turn ⟨call, .returned ok⟩ (overlap.changes ++ made) file
          fun _ _ clash => by cases clash
      have regularPlan (app : UnlockedApp) (change : Change) (edits : plan = .edit app change) :
          (app.kMaster = kMaster ∧ change.Fits kMaster vault) ∨
            ∃ error, vault.decryptIndex app.kMaster = .error error := by
        subst edits
        exact regular call app change vault present
      cases plan.finish_cases aead laws copied regularPlan ran with
      | quiet file unchanging =>
        have none : made = [] := by
          cases outcome with
          | ok value => exact (returned rfl).trans (unchanging rfl)
          | error error => exact failed rfl
        rw [none] at proceeds ⊢
        exact ⟨proceeds (same file), iff_of_true (still file) (.inl file)⟩
      | @written changed rows file formed map succeeded =>
        have all : made = plan.changes := by
          rcases succeeded with unchanging | rfl
          · cases outcome with
            | ok value => exact returned rfl
            | error error => exact (failed rfl).trans unchanging.symm
          · exact returned rfl
        have found : world.vault? = some changed := by
          rw [World.vault?, file, Option.bind_some, Vault.fromBytes_toBytes formed.formed]
          rfl
        refine ⟨proceeds ⟨changed, rows, found, formed⟩, ?_⟩
        have shown : world.contents kMaster = (vault.contents kMaster).after plan.changes := by
          rw [World.contents, found]
          exact map
        rw [NothingLost, all, after_append, ← kept]
        change world.contents kMaster = _ ↔ _
        rw [shown]
        refine ⟨.inr, fun holds => holds.elim (fun unwritten => ?_) id⟩
        rw [← contents_of_file kMaster unwritten, shown, after_after]

/-- A run that keeps the file and the copies sound loses nothing at any step exactly when every step
that writes, writes a copy that is current. -/
theorem run_nothingLost_iff (aead : AeadLaws) (laws : PostcardLaws) {kMaster : MasterKey}
    {contents : Contents} {overlap : Overlap δ} (turns : List Nat) (sound : overlap.Sound kMaster)
    (kept : overlap.NothingLost kMaster contents)
    (regular : Along step (Regular kMaster) overlap turns) :
    Along step (fun overlap turn => (overlap.step turn).NothingLost kMaster contents)
      overlap turns ↔
      Along step (WritesCurrent kMaster) overlap turns := by
  induction turns generalizing overlap with
  | nil => exact Iff.rfl
  | cons turn rest ih =>
    obtain ⟨stays, lost⟩ := step_nothingLost_iff aead laws sound regular.1 kept
    constructor
    · rintro ⟨first, later⟩
      exact ⟨lost.mp first, (ih stays first regular.2).mp later⟩
    · rintro ⟨first, later⟩
      have first := lost.mpr first
      exact ⟨first, (ih stays first regular.2).mpr later⟩

omit [Platform δ] in
/-- An entry that was put last and is missing was lost. -/
theorem not_nothingLost_of_missing {kMaster : MasterKey} {contents : Contents} {overlap : Overlap δ}
    {item : Item} (added : overlap.changes = [.put item])
    (missing : overlap.world.contents kMaster item.id = none) :
    ¬ overlap.NothingLost kMaster contents := by
  intro kept
  rw [kept, added] at missing
  change Change.apply contents (.put item) item.id = none at missing
  simp [Change.apply] at missing

end Overlap

/-- In every run of the steps of operations on one instance, at every step the file holds what it
held at the start after the entry changes of the operations that returned with success, if and only
if every operation that comes to its write writes nothing, or read the entries the file still has,
the one it changes apart. -/
theorem overlapping_operations_lose_nothing_iff [Platform δ] [Crates] (aead : AeadLaws)
    (laws : PostcardLaws) (world : World δ) (calls : List FileCall) {vault : Vault} {rows : Index}
    {bytes : Bytes} {kMaster : MasterKey} (stored : world.file = some bytes)
    (parsed : Vault.fromBytes bytes = .ok vault) (opens : vault.openIndex kMaster = .ok rows)
    (turns : List Nat)
    (regular : Along Overlap.step (Overlap.Regular kMaster) (Overlap.start world calls) turns) :
    Along Overlap.step
        (fun overlap turn => (overlap.step turn).NothingLost kMaster (vault.contents kMaster))
        (Overlap.start world calls) turns ↔
      Along Overlap.step (Overlap.WritesCurrent kMaster) (Overlap.start world calls) turns := by
  obtain ⟨decrypts, agree⟩ := (vault.openIndex_ok_iff kMaster rows).mp opens
  have coherent : vault.Coherent kMaster rows :=
    ⟨Vault.wellFormed_of_fromBytes parsed, decrypts, agree⟩
  have found : world.vault? = some vault := by
    rw [World.vault?, stored, Option.bind_some, parsed]
    rfl
  refine Overlap.run_nothingLost_iff aead laws turns ⟨⟨vault, rows, found, coherent⟩, ?_⟩ ?_ regular
  · intro task member plan copy loaded
    obtain ⟨call, _, rfl⟩ := List.mem_map.mp member
    cases loaded
  · change world.contents kMaster = vault.contents kMaster
    rw [World.contents, found]

end Overlaps

namespace Reference

/-- Whether putting an entry in a vault fits. -/
def smallPut (kMaster : MasterKey) (item : Item) (vault : Vault) : Bool :=
  letI := crates
  decide (item.record.region.length + 276 < 2 ^ 32) &&
    (vault.decryptIndex kMaster).toOption.all fun rows =>
      decide ((Index.upsert rows item.row).length < 2 ^ 32) &&
        (Crates.rowsToBytes (Index.upsert rows item.row)).all fun postcard =>
          postcard.length + 276 < 2 ^ 32

/-- A small entry fits. -/
theorem smallPut_fits {kMaster : MasterKey} {item : Item} {vault : Vault}
    (small : smallPut kMaster item vault = true) :
    @Change.Fits crates kMaster vault (.put item) := by
  let _ := crates
  intro entryNonce indexNonce found rows same decrypts
  obtain rfl := Except.ok.inj same
  rw [smallPut, decrypts] at small
  simp only [Except.toOption, Option.all_some, Bool.and_eq_true, decide_eq_true_eq] at small
  obtain ⟨record, count, bounded⟩ := small
  refine ⟨RecordFits.of_length record, IndexFits.of_length _ fun postcard written => ?_, count⟩
  change Crates.rowsToBytes (Index.upsert rows item.row) = some postcard at written
  rw [written, Option.all_some, decide_eq_true_eq] at bounded
  exact bounded

/-- A file whose vault passes a test. -/
theorem stored_of_test {file : Option Bytes} {test : Vault → Bool}
    (held : (file.any fun bytes => (Vault.fromBytes bytes).toOption.any test) = true) :
    ∃ bytes vault, file = some bytes ∧ Vault.fromBytes bytes = .ok vault ∧ test vault = true := by
  obtain ⟨bytes, stored, holds⟩ := (Option.any_eq_true _ _).mp held
  obtain ⟨vault, parsed, good⟩ := (Option.any_eq_true _ _).mp holds
  refine ⟨bytes, vault, stored, ?_, good⟩
  cases outcome : Vault.fromBytes bytes with
  | error error =>
    rw [outcome] at parsed
    cases parsed
  | ok found =>
    rw [outcome] at parsed
    rw [Option.some.inj parsed]

/-- The key of the example vault. -/
def mailKey : MasterKey := (founded .default).1.kMaster

/-- The file of the creation holds an empty vault. -/
theorem creation_file : ∃ bytes vault, (creation .default).2.file = some bytes ∧
    Vault.fromBytes bytes = .ok vault ∧
    letI := crates
    vault.openIndex mailKey = .ok [] := by
  have held : ((creation .default).2.file.any fun bytes =>
      (Vault.fromBytes bytes).toOption.any fun vault =>
        letI := crates
        decide (vault.openIndex mailKey = .ok [])) = true := by decide +kernel
  obtain ⟨bytes, vault, stored, parsed, opens⟩ := stored_of_test held
  exact ⟨bytes, vault, stored, parsed, of_decide_eq_true opens⟩

/-- An attempt to unlock with a wrong code, and an addition in the session of the creation. -/
def attemptAndAddition : List FileCall :=
  [.unlock "pw" "000000", .addEntry (founded .default).1 mail.label mail.policy mail.record]

/-- Both are called and take their steps in some order. -/
def overlapping (turns : List Nat) : Overlap Device :=
  letI := crates
  run Overlap.step (.start (creation .default).2 attemptAndAddition) turns

/-- Whether an operation that comes to its write read the vault that is stored, and makes a change
that fits. -/
def steady (overlap : Overlap Device) (turn : Nat) : Bool :=
  match overlap.tasks[turn]? with
  | some ⟨_, .loaded plan vault⟩ =>
    decide (overlap.world.vault? = some vault) &&
      match plan with
      | .edit app (.put item) => decide (app.kMaster = mailKey) && smallPut mailKey item vault
      | .edit _ (.drop _) => false
      | _ => true
  | _ => true

/-- A steady step makes a regular change. -/
theorem steady_regular {overlap : Overlap Device} {turn : Nat}
    (steady : steady overlap turn = true) :
    @Overlap.Regular Device crates mailKey overlap turn := by
  intro call app change vault loaded
  rw [Reference.steady, loaded] at steady
  cases change with
  | put item =>
    simp only [Bool.and_eq_true, decide_eq_true_eq] at steady
    exact .inl ⟨steady.2.1, smallPut_fits steady.2.2⟩
  | drop id =>
    simp only [Bool.and_false] at steady
    cases steady

/-- A steady step writes a copy that is current. -/
theorem steady_writesCurrent {overlap : Overlap Device} {turn : Nat}
    (steady : steady overlap turn = true) :
    @Overlap.WritesCurrent Device _ crates mailKey overlap turn := by
  intro call plan vault loaded
  rw [Reference.steady, loaded] at steady
  simp only [Bool.and_eq_true, decide_eq_true_eq] at steady
  right
  simp only [World.contents, steady.1]

/-- One after the other, the operations take steady steps. -/
theorem attemptAndAddition_steady :
    letI := crates
    Along Overlap.step (fun overlap turn => steady overlap turn = true)
      (Overlap.start (creation .default).2 attemptAndAddition) [0, 0, 1, 1] := by
  let _ := crates
  decide +kernel

end Reference

/-- An attempt to unlock that fails writes the copy it read over an entry that was added in
between. -/
theorem overlapping_unlock_loses_addition :
    letI := Reference.crates
    ∃ bytes vault rows, (Reference.creation .default).2.file = some bytes ∧
      Vault.fromBytes bytes = .ok vault ∧ vault.openIndex Reference.mailKey = .ok rows ∧
      let overlap := run Overlap.step
        (.start (Reference.creation .default).2 Reference.attemptAndAddition) [0, 1, 1, 0]
      overlap.changes = [.put Reference.mail] ∧
        overlap.world.contents Reference.mailKey Reference.mail.id = none ∧
        ¬ overlap.NothingLost Reference.mailKey (vault.contents Reference.mailKey) := by
  let _ := Reference.crates
  obtain ⟨bytes, vault, stored, parsed, opens⟩ := Reference.creation_file
  have added : (Reference.overlapping [0, 1, 1, 0]).changes = [.put Reference.mail] := by
    decide +kernel
  have gone : ((Reference.overlapping [0, 1, 1, 0]).world.contents Reference.mailKey
      Reference.mail.id).isNone = true := by decide +kernel
  have missing := Option.isNone_iff_eq_none.mp gone
  exact ⟨bytes, vault, [], stored, parsed, opens, added, missing,
    Overlap.not_nothingLost_of_missing added missing⟩

/-- The same operations, one after the other, lose nothing. -/
theorem sequential_operations_lose_nothing :
    letI := Reference.crates
    ∃ vault : Vault, Along Overlap.step
      (fun overlap turn =>
        (overlap.step turn).NothingLost Reference.mailKey (vault.contents Reference.mailKey))
      (Overlap.start (Reference.creation .default).2 Reference.attemptAndAddition)
      [0, 0, 1, 1] := by
  let _ := Reference.crates
  obtain ⟨bytes, vault, stored, parsed, opens⟩ := Reference.creation_file
  have steady := Reference.attemptAndAddition_steady
  exact ⟨vault, (overlapping_operations_lose_nothing_iff Reference.aeadLaws Reference.postcardLaws
    (Reference.creation .default).2 Reference.attemptAndAddition stored parsed opens [0, 0, 1, 1]
    (steady.mono fun _ _ => Reference.steady_regular)).mpr
      (steady.mono fun _ _ => Reference.steady_writesCurrent)⟩

end Passman
