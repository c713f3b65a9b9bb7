import Passman.Core.Effects

/-!
# Mutations of a session as a whole

An addition, an update and a removal prepare a vault in memory, write it, and only then open
its index with the set check. A call that fails before its write is stored leaves everything
as it was; a written vault whose index does not open leaves a changed file behind an error.
-/
namespace Passman

open Bytewise Fallible

section Admission

variable [Crates]

/-- An insertion into a vault of these rows yields a vault whose index opens: no identifier is
repeated, rows and envelopes carry the same identifiers apart from the inserted one, and the new
rows can be announced. -/
structure Vault.AdmitsPut (vault : Vault) (rows : Index) (item : Item) : Prop where
  /-- No row repeats an identifier. -/
  rowsDistinct : (rows.map IndexEntry.id).Nodup
  /-- No envelope repeats an identifier. -/
  envelopesDistinct : (vault.envelopes.map EntryEnvelope.id).Nodup
  /-- Rows and envelopes carry the same identifiers, the inserted one apart. -/
  same : ∀ id, id ≠ item.id →
    (id ∈ rows.map IndexEntry.id ↔ id ∈ vault.envelopes.map EntryEnvelope.id)
  /-- The length of the new rows can be announced. -/
  reads : IndexReads vault.version (Index.upsert rows item.row)

/-- A removal from a vault of these rows yields a vault whose index opens: the remaining rows and
envelopes carry the same identifiers without repetition, and the remaining rows can be
announced. -/
structure Vault.AdmitsDrop (vault : Vault) (rows : Index) (id : EntryId) : Prop where
  /-- The remaining rows and envelopes agree. -/
  agree : Keyed.Agree IndexEntry.id EntryEnvelope.id (Index.remove rows id)
    (Keyed.remove EntryEnvelope.id id vault.envelopes)
  /-- The length of the remaining rows can be announced. -/
  reads : IndexReads vault.version (Index.remove rows id)

/-- A coherent vault admits every insertion whose rows can be announced. -/
theorem Vault.Coherent.admitsPut {vault : Vault} {kMaster : MasterKey} {rows : Index}
    (coherent : vault.Coherent kMaster rows) {item : Item}
    (reads : IndexReads vault.version (Index.upsert rows item.row)) : vault.AdmitsPut rows item :=
  ⟨coherent.agree.leftDistinct, coherent.agree.rightDistinct, fun id _ => coherent.agree.same id,
    reads⟩

/-- The vault an insertion makes opens exactly when the vault it was made from admits it. -/
theorem Vault.Puts.opens_iff (aead : AeadLaws) (laws : PostcardLaws) (strict : StrictLaws)
    {kMaster : MasterKey} {item : Item} {vault changed : Vault}
    (puts : Vault.Puts kMaster item vault changed) :
    (∃ rows, changed.openIndex kMaster = .ok rows) ↔
      ∃ rows, vault.decryptIndex kMaster = .ok rows ∧ vault.AdmitsPut rows item := by
  obtain ⟨_, indexNonce, envelope, index, sealed, made, opened, done, rfl⟩ := puts.stores
  obtain ⟨named, _, _, _⟩ := encryptEntry_ok made
  let changed : Vault := { vault with
    envelopes := Keyed.upsert EntryEnvelope.id envelope vault.envelopes
    sealedIndexNonce := indexNonce
    sealedIndexCt := sealed }
  have reads := changed.decryptIndex_sealed_iff aead laws strict done
  have paired : item.row.id = envelope.id := named.symm
  constructor
  · rintro ⟨rows, opens⟩
    obtain ⟨decrypted, agree⟩ := (changed.openIndex_ok_iff kMaster rows).mp opens
    obtain ⟨rfl, short⟩ := (reads rows).mp decrypted
    obtain ⟨rowsDistinct, envelopesDistinct, same⟩ := (Keyed.Agree.upsert_iff paired).mp agree
    exact ⟨index, opened, rowsDistinct, envelopesDistinct, same, short⟩
  · rintro ⟨rows, decrypted, admits⟩
    obtain rfl := Except.ok.inj (opened.symm.trans decrypted)
    have agree := (Keyed.Agree.upsert_iff paired).mpr
      ⟨admits.rowsDistinct, admits.envelopesDistinct, admits.same⟩
    exact ⟨_, (changed.openIndex_ok_iff kMaster _).mpr
      ⟨(reads _).mpr ⟨rfl, admits.reads⟩, agree⟩⟩

/-- The vault a removal makes opens exactly when the vault it was made from admits it. -/
theorem Vault.Drops.opens_iff (aead : AeadLaws) (laws : PostcardLaws) (strict : StrictLaws)
    {kMaster : MasterKey} {id : EntryId} {vault changed : Vault}
    (drops : Vault.Drops kMaster id vault changed) :
    (∃ rows, changed.openIndex kMaster = .ok rows) ↔
      ∃ rows, vault.decryptIndex kMaster = .ok rows ∧ vault.AdmitsDrop rows id := by
  obtain ⟨_, indexNonce, index, sealed, opened, done, rfl⟩ := drops.stores
  let changed : Vault := { vault with
    envelopes := Keyed.remove EntryEnvelope.id id vault.envelopes
    sealedIndexNonce := indexNonce
    sealedIndexCt := sealed }
  have reads := changed.decryptIndex_sealed_iff aead laws strict done
  constructor
  · rintro ⟨rows, opens⟩
    obtain ⟨decrypted, agree⟩ := (changed.openIndex_ok_iff kMaster rows).mp opens
    obtain ⟨rfl, short⟩ := (reads rows).mp decrypted
    exact ⟨index, opened, agree, short⟩
  · rintro ⟨rows, decrypted, admits⟩
    obtain rfl := Except.ok.inj (opened.symm.trans decrypted)
    exact ⟨_, (changed.openIndex_ok_iff kMaster _).mpr
      ⟨(reads _).mpr ⟨rfl, admits.reads⟩, admits.agree⟩⟩

end Admission

section Preparation

variable {δ α : Type} [Platform δ]

/-- Read the stored vault and change it in memory. -/
def editVault (edit : MasterKey → Vault → Act δ CoreError Vault) :
    SessionAct δ CoreError Vault := do
  let vault ← Op.onFirst loadVault
  let (_, app) ← Op.get
  Op.onFirst (edit app.kMaster vault)

/-- Reading and changing the stored vault in memory stores nothing. -/
theorem untouched_editVault {edit : MasterKey → Vault → Act δ CoreError Vault}
    (quiet : ∀ kMaster vault, Op.Keeps SameFile (edit kMaster vault)) :
    Op.Keeps Untouched (editVault edit) :=
  untouched_then (untouched_world (keeps_loadVault sameFile_steps)) fun _ =>
    untouched_then untouched_get fun _ => untouched_world (quiet _ _)

/-- The vault that was changed in memory is the stored one. -/
theorem editVault_ok {edit : MasterKey → Vault → Act δ CoreError Vault} {world : World δ}
    {app : UnlockedApp} {changed : Vault} {reached : World δ × UnlockedApp}
    (ran : editVault edit (world, app) = (.ok changed, reached)) :
    ∃ vault before after, world.Stores vault ∧
      edit app.kMaster vault before = (.ok changed, after) := by
  obtain ⟨vault, middle, loaded, rest⟩ := Op.bind_ok_cases ran
  obtain ⟨_, loading, rfl⟩ := Op.onFirst_cases loaded
  rw [Op.get_bind_run] at rest
  obtain ⟨_, edited, rfl⟩ := Op.onFirst_cases rest
  exact ⟨vault, _, _, (loadVault_cases loading).2 vault rfl, edited⟩

variable [Crates]

/-- The part of an addition in front of its write: the identifier and the vault to write. -/
def prepareAddition (label : String) (policy : EntryPolicy) (record : EntryRecord) :
    SessionAct δ CoreError (EntryId × Vault) := do
  ensureUnlocked
  let id ← Op.onFirst (ask Platform.newUuid)
  let changed ← editVault fun kMaster => putEntry kMaster ⟨id⟩ label policy record
  return (⟨id⟩, changed)

/-- The part of an update in front of its write. -/
def prepareUpdate (id : EntryId) (label : String) (policy : EntryPolicy) (record : EntryRecord) :
    SessionAct δ CoreError (Unit × Vault) := do
  ensureUnlocked
  let (_, app) ← Op.get
  match app.index.get id with
  | none => Op.fail (.vault .entryNotFound)
  | some _ =>
    let changed ← editVault fun kMaster => putEntry kMaster id label policy record
    return ((), changed)

/-- The part of a removal in front of its write. -/
def prepareRemoval (id : EntryId) : SessionAct δ CoreError (Unit × Vault) := do
  ensureUnlocked
  let changed ← editVault fun kMaster => dropEntry kMaster id
  return ((), changed)

/-- Write what was prepared and adopt its index. -/
def commitPrepared (prepare : SessionAct δ CoreError (α × Vault)) : SessionAct δ CoreError α := do
  let (value, changed) ← prepare
  persistAndRefresh changed
  return value

/-- An insertion prepares and commits. -/
theorem upsertEntry_eq (id : EntryId) (label : String) (policy : EntryPolicy)
    (record : EntryRecord) :
    (upsertEntry id label policy record : SessionAct δ CoreError Unit) =
      (editVault fun kMaster => putEntry kMaster id label policy record) >>= persistAndRefresh := by
  simp only [upsertEntry, editVault, bind_assoc]

/-- An addition prepares and commits. -/
theorem addEntry_eq (label : String) (policy : EntryPolicy) (record : EntryRecord) :
    (addEntry label policy record : SessionAct δ CoreError EntryId) =
      commitPrepared (prepareAddition label policy record) := by
  simp only [addEntry, commitPrepared, prepareAddition, bind_assoc, upsertEntry_eq, pure_bind]

/-- A removal prepares and commits. -/
theorem removeEntry_eq (id : EntryId) :
    (removeEntry id : SessionAct δ CoreError Unit) = commitPrepared (prepareRemoval id) := by
  simp only [removeEntry, commitPrepared, prepareRemoval, editVault, bind_assoc, pure_bind,
    bind_pure_unit]

/-- An update prepares and commits. -/
theorem updateEntry_eq (id : EntryId) (label : String) (policy : EntryPolicy)
    (record : EntryRecord) :
    (updateEntry id label policy record : SessionAct δ CoreError Unit) =
      commitPrepared (prepareUpdate id label policy record) := by
  simp only [updateEntry, commitPrepared, prepareUpdate, upsertEntry_eq, bind_assoc]
  refine congrArg (ensureUnlocked >>= ·) (funext fun _ => congrArg (Op.get >>= ·) ?_)
  funext state
  cases state.2.index.get id with
  | none => rfl
  | some row => simp only [bind_assoc, pure_bind, bind_pure_unit]

/-- What a preparation leaves alone and what it prepares. -/
structure Prepares (makes : MasterKey → α → Vault → Vault → Prop)
    (prepare : SessionAct δ CoreError (α × Vault)) : Prop where
  /-- Nothing is stored, and the session keeps its key and its rows. -/
  untouched : Op.Keeps Untouched prepare
  /-- The prepared vault is made from the stored one under the session's key. -/
  prepared : ∀ state value changed reached, prepare state = (.ok (value, changed), reached) →
    ∃ vault, state.1.Stores vault ∧ makes state.2.kMaster value vault changed

/-- Putting an entry in memory stores nothing. -/
theorem sameFile_putEntry (kMaster : MasterKey) (id : EntryId) (label : String)
    (policy : EntryPolicy) (record : EntryRecord) (vault : Vault) :
    Op.Keeps SameFile (putEntry kMaster id label policy record vault : Act δ CoreError Vault) := by
  intro world
  obtain ⟨⟨_, same⟩, _⟩ := putEntry_cases
    (Prod.eta (putEntry kMaster id label policy record vault world)).symm
  rw [same]
  rfl

/-- Dropping an entry in memory stores nothing. -/
theorem sameFile_dropEntry (kMaster : MasterKey) (id : EntryId) (vault : Vault) :
    Op.Keeps SameFile (dropEntry kMaster id vault : Act δ CoreError Vault) := by
  intro world
  obtain ⟨⟨_, same⟩, _⟩ := dropEntry_cases (Prod.eta (dropEntry kMaster id vault world)).symm
  rw [same]
  rfl

/-- An addition prepares the stored vault with the entry under the identifier it drew. -/
theorem prepareAddition_prepares (label : String) (policy : EntryPolicy) (record : EntryRecord) :
    Prepares (fun kMaster id => Vault.Puts kMaster ⟨id, label, policy, record⟩)
      (prepareAddition label policy record : SessionAct δ CoreError (EntryId × Vault)) where
  untouched := untouched_then untouched_ensureUnlocked fun _ =>
    untouched_then (untouched_world (keeps_ask sameFile_steps _)) fun _ =>
      untouched_then (untouched_editVault fun _ _ => sameFile_putEntry _ _ _ _ _ _) fun _ =>
        untouched_pure _
  prepared := by
    rintro ⟨world, app⟩ value changed reached ran
    rcases gated_cases ran with ⟨clash, _⟩ | ran
    · cases clash
    obtain ⟨id, middle, drawn, ran⟩ := Op.bind_ok_cases ran
    obtain ⟨_, rfl⟩ := Prod.mk.inj drawn
    obtain ⟨made, last, edited, ran⟩ := Op.bind_ok_cases ran
    obtain ⟨same, _⟩ := Prod.mk.inj ran
    obtain ⟨rfl, rfl⟩ := Prod.mk.inj (Except.ok.inj same)
    obtain ⟨vault, _, _, stored, putting⟩ := editVault_ok edited
    exact ⟨vault, stored, (putEntry_cases putting).2 made rfl⟩

/-- An update prepares the stored vault with the updated entry. -/
theorem prepareUpdate_prepares (id : EntryId) (label : String) (policy : EntryPolicy)
    (record : EntryRecord) :
    Prepares (fun kMaster _ => Vault.Puts kMaster ⟨id, label, policy, record⟩)
      (prepareUpdate id label policy record : SessionAct δ CoreError (Unit × Vault)) where
  untouched := by
    refine untouched_then untouched_ensureUnlocked fun _ =>
      untouched_then untouched_get fun ⟨_, app⟩ => ?_
    dsimp only
    cases app.index.get id with
    | none => exact Untouched.refl
    | some row =>
      exact untouched_then (untouched_editVault fun _ _ => sameFile_putEntry _ _ _ _ _ _)
        fun _ => untouched_pure _
  prepared := by
    rintro ⟨world, app⟩ value changed reached ran
    rcases gated_cases ran with ⟨clash, _⟩ | ran
    · cases clash
    rw [Op.get_bind_run] at ran
    dsimp only at ran
    cases listed : app.index.get id with
    | none =>
      rw [listed] at ran
      cases ran
    | some row =>
      rw [listed] at ran
      obtain ⟨made, last, edited, ran⟩ := Op.bind_ok_cases ran
      obtain ⟨same, _⟩ := Prod.mk.inj ran
      obtain ⟨_, rfl⟩ := Prod.mk.inj (Except.ok.inj same)
      obtain ⟨vault, _, _, stored, putting⟩ := editVault_ok edited
      exact ⟨vault, stored, (putEntry_cases putting).2 made rfl⟩

/-- A removal prepares the stored vault without the entry. -/
theorem prepareRemoval_prepares (id : EntryId) :
    Prepares (fun kMaster _ => Vault.Drops kMaster id)
      (prepareRemoval id : SessionAct δ CoreError (Unit × Vault)) where
  untouched := untouched_then untouched_ensureUnlocked fun _ =>
    untouched_then (untouched_editVault fun _ _ => sameFile_dropEntry _ _ _) fun _ =>
      untouched_pure _
  prepared := by
    rintro ⟨world, app⟩ value changed reached ran
    rcases gated_cases ran with ⟨clash, _⟩ | ran
    · cases clash
    obtain ⟨made, last, edited, ran⟩ := Op.bind_ok_cases ran
    obtain ⟨same, _⟩ := Prod.mk.inj ran
    obtain ⟨_, rfl⟩ := Prod.mk.inj (Except.ok.inj same)
    obtain ⟨vault, _, _, stored, dropping⟩ := editVault_ok edited
    exact ⟨vault, stored, (dropEntry_cases dropping).2 made rfl⟩

/-- An operation of a session succeeds or fails as a whole: an error leaves the file and the rows
of the session as they were, and a success leaves a file whose index, under the set check, is the
one the session adopted. -/
def Whole (operation : SessionAct δ CoreError α) (state : World δ × UnlockedApp) : Prop :=
  (∀ error, (operation state).1 = .error error →
    (operation state).2.1.file = state.1.file ∧ (operation state).2.2.index = state.2.index) ∧
  ∀ value, (operation state).1 = .ok value → ∃ written,
    (operation state).2.1.file = some written.toBytes ∧
    ((operation state).2.1.Readable → (operation state).2.1.Stores written) ∧
    written.openIndex (operation state).2.2.kMaster = .ok (operation state).2.2.index

/-- If the write that follows the preparation is stored, it stores what the file holds already, or
the stored vault opens to rows that admit the change. -/
def CommitsSafely (admits : α → Vault → Index → Prop)
    (prepare : SessionAct δ CoreError (α × Vault)) (state : World δ × UnlockedApp) : Prop :=
  ∀ value changed reached, prepare state = (.ok (value, changed), reached) →
    (Platform.writeFault reached.1.device).1 = none →
    state.1.file = some changed.toBytes ∨ ∃ vault rows, state.1.Stores vault ∧
      vault.decryptIndex state.2.kMaster = .ok rows ∧ admits value vault rows

/-- Committing writes the vault, unless the write fails, and then opens its index. -/
theorem persistAndRefresh_run (changed : Vault) (world : World δ) (app : UnlockedApp) :
    persistAndRefresh changed (world, app) =
      match (Platform.writeFault world.device).1 with
      | some step => (.error (.io step.context), (world.afterWrite
          (Platform.writeFault world.device).2 changed.toBytes false, app))
      | none => match changed.openIndex app.kMaster with
        | .error error => (.error (.vault error), (world.afterWrite
            (Platform.writeFault world.device).2 changed.toBytes true, app))
        | .ok rows => (.ok (), (world.afterWrite
            (Platform.writeFault world.device).2 changed.toBytes true,
              { app with index := rows })) := by
  have wrote : (Op.onFirst (atomicWrite changed.toBytes) : SessionAct δ CoreError Unit)
      (world, app) = match (Platform.writeFault world.device).1 with
        | some step => (.error (.io step.context), (world.afterWrite
            (Platform.writeFault world.device).2 changed.toBytes false, app))
        | none => (.ok (), (world.afterWrite
            (Platform.writeFault world.device).2 changed.toBytes true, app)) := by
    rw [Op.onFirst_run, atomicWrite, ask_bind_run]
    cases (Platform.writeFault world.device).1 <;> rfl
  cases fault : (Platform.writeFault world.device).1 with
  | some step =>
    rw [fault] at wrote
    rw [persistAndRefresh, Op.bind_error wrote]
  | none =>
    rw [fault] at wrote
    rw [persistAndRefresh, Op.bind_ok wrote, Op.get_bind_run]
    dsimp only
    cases opens : changed.openIndex app.kMaster <;> rfl

/-- On a device without faults, what was prepared and opens is committed. -/
theorem commitPrepared_run {prepare : SessionAct δ CoreError (α × Vault)}
    {state : World δ × UnlockedApp} {value : α} {changed : Vault} {world : World δ}
    {app : UnlockedApp} {rows : Index}
    (prepared : prepare state = (.ok (value, changed), (world, app)))
    (writes : (Platform.writeFault world.device).1 = none)
    (opens : changed.openIndex app.kMaster = .ok rows) :
    commitPrepared prepare state = (.ok value, (world.afterWrite
      (Platform.writeFault world.device).2 changed.toBytes true, { app with index := rows })) := by
  have persisted := persistAndRefresh_run changed world app
  rw [writes, opens] at persisted
  rw [commitPrepared, Op.bind_ok prepared]
  exact Op.bind_ok persisted

/-- What is prepared and committed succeeds or fails as a whole exactly when it commits safely. -/
theorem commitPrepared_whole_iff {makes : MasterKey → α → Vault → Vault → Prop}
    {prepare : SessionAct δ CoreError (α × Vault)} (prepares : Prepares makes prepare)
    {admits : α → Vault → Index → Prop} (state : World δ × UnlockedApp)
    (clamps : ∀ value vault changed, vault.Clamped → makes state.2.kMaster value vault changed →
      changed.Clamped)
    (opens_iff : ∀ value vault changed, makes state.2.kMaster value vault changed →
      ((∃ rows, changed.openIndex state.2.kMaster = .ok rows) ↔
        ∃ rows, vault.decryptIndex state.2.kMaster = .ok rows ∧ admits value vault rows)) :
    Whole (commitPrepared prepare) state ↔ CommitsSafely admits prepare state := by
  rcases ran : prepare state with ⟨error | ⟨value, changed⟩, reached⟩
  · -- Nothing was prepared, so nothing is written.
    have kept := prepares.untouched.ran ran
    have failed : commitPrepared prepare state = (.error error, reached) := Op.bind_error ran
    refine iff_of_true ?_ ?_
    · unfold Whole
      rw [failed]
      exact ⟨fun _ _ => ⟨kept.file, kept.index⟩, fun _ clash => by cases clash⟩
    · intro value changed other same
      rw [ran] at same
      cases same
  · obtain ⟨vault, stored, made⟩ := prepares.prepared state value changed reached ran
    have kept := prepares.untouched.ran ran
    obtain ⟨world, app⟩ := reached
    have committed : commitPrepared prepare state =
        (persistAndRefresh changed >>= fun _ => pure value) (world, app) := Op.bind_ok ran
    have persisted := persistAndRefresh_run changed world app
    have key : app.kMaster = state.2.kMaster := kept.key
    have safely : CommitsSafely admits prepare state ↔
        ((Platform.writeFault world.device).1 = none → state.1.file = some changed.toBytes ∨
          ∃ rows, changed.openIndex state.2.kMaster = .ok rows) := by
      rw [opens_iff value vault changed made]
      constructor
      · intro safe writes
        refine (safe value changed _ ran writes).imp_right ?_
        rintro ⟨other, rows, held, decrypted, admitted⟩
        obtain rfl := held.unique stored
        exact ⟨rows, decrypted, admitted⟩
      · intro safe other prepared last same writes
        obtain ⟨named, rfl⟩ := Prod.mk.inj (ran.symm.trans same)
        obtain ⟨rfl, rfl⟩ := Prod.mk.inj (Except.ok.inj named)
        refine (safe writes).imp_right ?_
        rintro ⟨rows, decrypted, admitted⟩
        exact ⟨vault, rows, stored, decrypted, admitted⟩
    rw [safely]
    cases fault : (Platform.writeFault world.device).1 with
    | some step =>
      rw [fault] at persisted
      have failed := committed.trans (Op.bind_error persisted)
      refine iff_of_true ?_ (fun clash => by cases clash)
      unfold Whole
      rw [failed]
      exact ⟨fun _ _ => ⟨kept.file, kept.index⟩, fun _ clash => by cases clash⟩
    | none =>
      rw [fault] at persisted
      dsimp only at persisted
      rw [key] at persisted
      cases opens : changed.openIndex state.2.kMaster with
      | error error =>
        rw [opens] at persisted
        have failed := committed.trans (Op.bind_error persisted)
        unfold Whole
        rw [failed]
        constructor
        · rintro ⟨whole, _⟩ _
          exact .inl (whole _ rfl).1.symm
        · intro safe
          rcases safe rfl with same | ⟨rows, clash⟩
          · exact ⟨fun _ _ => ⟨same.symm, kept.index⟩, fun _ clash => by cases clash⟩
          · cases clash
      | ok rows =>
        rw [opens] at persisted
        have succeeded := committed.trans (Op.bind_ok persisted)
        refine iff_of_true ?_ (fun _ => .inr ⟨rows, rfl⟩)
        unfold Whole
        rw [succeeded]
        refine ⟨(fun _ clash => by cases clash), fun _ _ => ⟨changed, rfl, ?_, ?_⟩⟩
        · rintro ⟨other, held⟩
          have clamped := clamps value vault changed stored.clamped made
          obtain ⟨rfl, _⟩ := held.of_written rfl clamped
          exact held
        · exact opens

/-- On every file and in every state of a session, an addition, an update and a removal succeed or
fail as a whole exactly when what they commit is admitted by the rows and the envelopes of the
stored vault. -/
theorem session_mutations_whole_iff (aead : AeadLaws) (laws : PostcardLaws) (strict : StrictLaws)
    (state : World δ × UnlockedApp) :
    (∀ label policy record, Whole (addEntry label policy record) state ↔
      CommitsSafely (fun id vault rows => vault.AdmitsPut rows ⟨id, label, policy, record⟩)
        (prepareAddition label policy record) state) ∧
    (∀ id label policy record, Whole (updateEntry id label policy record) state ↔
      CommitsSafely (fun _ vault rows => vault.AdmitsPut rows ⟨id, label, policy, record⟩)
        (prepareUpdate id label policy record) state) ∧
    ∀ id, Whole (removeEntry id) state ↔
      CommitsSafely (fun _ vault rows => vault.AdmitsDrop rows id) (prepareRemoval id) state := by
  refine ⟨fun label policy record => ?_, fun id label policy record => ?_, fun id => ?_⟩
  · rw [addEntry_eq]
    exact commitPrepared_whole_iff (prepareAddition_prepares label policy record) state
      (fun _ _ _ clamped puts => clamped.put puts)
      fun _ _ _ puts => Vault.Puts.opens_iff aead laws strict puts
  · rw [updateEntry_eq]
    exact commitPrepared_whole_iff (prepareUpdate_prepares id label policy record) state
      (fun _ _ _ clamped puts => clamped.put puts)
      fun _ _ _ puts => Vault.Puts.opens_iff aead laws strict puts
  · rw [removeEntry_eq]
    exact commitPrepared_whole_iff (prepareRemoval_prepares id) state
      (fun _ _ _ clamped drops => clamped.drop drops)
      fun _ _ _ drops => Vault.Drops.opens_iff aead laws strict drops

end Preparation

namespace Reference

/-- The created vault with a file whose envelopes were altered since it was opened. -/
def altered : World Device :=
  { opened.world with
    file := opened.world.vault?.map fun vault =>
      Vault.toBytes { vault with envelopes := [⟨entryId, nonce, 2, [6, 7]⟩] } }

/-- The addition of an entry on the altered file; it is computed by the kernel only. -/
@[irreducible] def alteredAddition : Except CoreError EntryId × World Device × UnlockedApp :=
  letI := crates
  addEntry "mail" .default ⟨"a", "b", "", ""⟩ (altered, session)

/-- The addition under its name. -/
theorem alteredAddition_run :
    @addEntry Device _ crates "mail" .default ⟨"a", "b", "", ""⟩ (altered, session) =
      alteredAddition := by
  unfold alteredAddition
  rfl

end Reference

/-- On a file whose envelopes were altered since the session was opened, an addition reports an
error and leaves another file. -/
theorem altered_file_is_rewritten :
    letI := Reference.crates
    (addEntry "mail" .default ⟨"a", "b", "", ""⟩ (Reference.altered, Reference.session)).1 =
        .error (.vault .indexMismatch) ∧
      (addEntry "mail" .default ⟨"a", "b", "", ""⟩
        (Reference.altered, Reference.session)).2.1.file ≠ Reference.altered.file ∧
      ¬Whole (addEntry "mail" .default ⟨"a", "b", "", ""⟩)
        (Reference.altered, Reference.session) := by
  let _ := Reference.crates
  have failed : Reference.alteredAddition.1 = .error (.vault .indexMismatch) := by decide +kernel
  have rewritten : Reference.alteredAddition.2.1.file ≠ Reference.altered.file := by
    decide +kernel
  rw [← Reference.alteredAddition_run] at failed rewritten
  exact ⟨failed, rewritten, fun whole => rewritten (whole.1 _ failed).1⟩

/-- On the file of the created vault an addition succeeds or fails as a whole. -/
theorem session_mutations_whole_reference :
    letI := Reference.crates
    Whole (addEntry "mail" .default ⟨"a", "b", "", ""⟩)
      (Reference.opened.world, Reference.session) := by
  let _ := Reference.crates
  obtain ⟨vault, stored, coherent⟩ := Reference.opened_stores
  have drawn : (prepareAddition "mail" .default ⟨"a", "b", "", ""⟩
      (Reference.opened.world, Reference.session)).1.toOption.map Prod.fst =
        some Reference.opened.world.drawnId := by decide +kernel
  have small : ((Crates.rowsToBytes (Index.upsert [] ⟨Reference.opened.world.drawnId, "mail",
      .default⟩)).all fun bytes => bytes.length < 2 ^ 32) = true := by decide +kernel
  have whole := (session_mutations_whole_iff Reference.aeadLaws Reference.postcardLaws
    Reference.strictLaws (Reference.opened.world, Reference.session)).1 "mail" .default
      ⟨"a", "b", "", ""⟩
  refine whole.mpr fun id changed reached prepared _ => .inr ?_
  rw [prepared] at drawn
  obtain rfl : id = Reference.opened.world.drawnId := Option.some.inj drawn
  let item : Item := ⟨Reference.opened.world.drawnId, "mail", .default, ⟨"a", "b", "", ""⟩⟩
  have reads : IndexReads vault.version (Index.upsert [] item.row) := by
    intro postcard written
    exact .inr (of_decide_eq_true (Option.all_eq_true _ _ |>.mp small postcard written))
  have admitted := coherent.admitsPut reads
  dsimp only
  exact ⟨vault, [], stored, coherent.decrypts, admitted⟩

end Passman
