import Passman.Core.Creation
import Passman.Core.Expiry
import Passman.Vault.Changes

/-!
# What an operation of a session leaves in the file

An addition, an update and a removal read the file, change the vault they read, store it and
adopt its index. Each of them ends in one of three ways: nothing was stored, the vault was
stored and its index could not be read back, or the index was adopted. Later results about the
file cite these and do not unfold an operation.
-/
namespace Passman

open Bytewise Fallible

section Changes

variable [Crates]

variable {δ : Type} [Platform δ]

/-- Inserting an entry in memory changes the device only. -/
theorem putEntry_cases {kMaster : MasterKey} {id : EntryId} {label : String} {policy : EntryPolicy}
    {record : EntryRecord} {vault : Vault} {world after : World δ}
    {outcome : Except CoreError Vault}
    (ran : putEntry kMaster id label policy record vault world = (outcome, after)) :
    (∃ device, after = { world with device }) ∧
      ∀ changed, outcome = .ok changed →
        Vault.Puts kMaster ⟨id, label, policy, record⟩ vault changed := by
  rw [putEntry, ask_bind_run, ask_bind_run] at ran
  generalize (Platform.randomBlock 24 world.device).1 = entryNonce at ran
  generalize (Platform.randomBlock 24 (_ : δ)).1 = indexNonce at ran
  rcases put : Vault.addOrUpdateEntry kMaster id label policy record entryNonce indexNonce vault
    with ⟨error | _, changed⟩
  · rw [put] at ran
    obtain ⟨rfl, rfl⟩ := Prod.mk.inj ran
    exact ⟨⟨_, rfl⟩, fun _ clash => by cases clash⟩
  · rw [put] at ran
    obtain ⟨rfl, rfl⟩ := Prod.mk.inj ran
    refine ⟨⟨_, rfl⟩, fun other same => ?_⟩
    obtain rfl := Except.ok.inj same
    exact ⟨entryNonce, indexNonce, put⟩

/-- Removing an entry in memory changes the device only. -/
theorem dropEntry_cases {kMaster : MasterKey} {id : EntryId} {vault : Vault} {world after : World δ}
    {outcome : Except CoreError Vault}
    (ran : dropEntry kMaster id vault world = (outcome, after)) :
    (∃ device, after = { world with device }) ∧
      ∀ changed, outcome = .ok changed → Vault.Drops kMaster id vault changed := by
  rw [dropEntry, ask_bind_run] at ran
  generalize (Platform.randomBlock 24 world.device).1 = indexNonce at ran
  rcases dropped : Vault.removeEntry kMaster id indexNonce vault with ⟨error | _, changed⟩
  · rw [dropped] at ran
    obtain ⟨rfl, rfl⟩ := Prod.mk.inj ran
    exact ⟨⟨_, rfl⟩, fun _ clash => by cases clash⟩
  · rw [dropped] at ran
    obtain ⟨rfl, rfl⟩ := Prod.mk.inj ran
    refine ⟨⟨_, rfl⟩, fun other same => ?_⟩
    obtain rfl := Except.ok.inj same
    exact ⟨indexNonce, dropped⟩

end Changes

section Mutations

variable {δ α : Type}

/-- The ways an operation of a session that stores at most one vault ends. What it stores is made
from the vault that was stored before, for the value it returns. -/
inductive Mutation [Crates] (makes : α → Vault → Vault → Prop) (world : World δ)
    (app : UnlockedApp) : Except CoreError α → World δ × UnlockedApp → Prop
  /-- Nothing was stored. -/
  | kept {error : CoreError} {after : World δ} (file : after.file = world.file) :
    Mutation makes world app (.error error) (after, app)
  /-- The vault was stored, but its index could not be read back. -/
  | unadopted {value : α} {vault changed : Vault} {error : VaultError} {after : World δ}
      (stored : world.Stores vault) (made : makes value vault changed)
      (file : after.file = some changed.toBytes)
      (failed : changed.openIndex app.kMaster = .error error) :
    Mutation makes world app (.error (.vault error)) (after, app)
  /-- The vault was stored and its index adopted. -/
  | adopted {value : α} {vault changed : Vault} {rows : Index} {after : World δ}
      (stored : world.Stores vault) (made : makes value vault changed)
      (file : after.file = some changed.toBytes)
      (opens : changed.openIndex app.kMaster = .ok rows) :
    Mutation makes world app (.ok value) (after, { app with index := rows })

namespace Mutation

variable [Crates] {makes : α → Vault → Vault → Prop} {world : World δ} {app : UnlockedApp}

/-- A mutation that succeeds stored a vault and adopted its rows. -/
theorem ok {value : α} {after : World δ × UnlockedApp}
    (ended : Mutation makes world app (.ok value) after) :
    ∃ vault changed, world.Stores vault ∧ makes value vault changed ∧
      after.1.file = some changed.toBytes ∧ changed.openIndex app.kMaster = .ok after.2.index ∧
      after.2 = { app with index := after.2.index } := by
  cases ended with
  | adopted stored made file opens => exact ⟨_, _, stored, made, file, opens, rfl⟩

/-- A mutation keeps the key, the seed and the expiry of the session. -/
theorem session {outcome : Except CoreError α} {after : World δ × UnlockedApp}
    (ended : Mutation makes world app outcome after) :
    after.2.kMaster = app.kMaster ∧ after.2.totpSeed = app.totpSeed ∧
      after.2.sessionExpiry = app.sessionExpiry := by
  cases ended <;> exact ⟨rfl, rfl, rfl⟩

/-- A mutation of a world with the same file is one of the world. -/
theorem of_file {outcome : Except CoreError α} {after : World δ × UnlockedApp}
    (ended : Mutation makes world app outcome after) {before : World δ}
    (file : world.file = before.file) : Mutation makes before app outcome after := by
  have moved {vault : Vault} (stored : world.Stores vault) : before.Stores vault := by
    obtain ⟨bytes, held, rest⟩ := stored
    exact ⟨bytes, file ▸ held, rest⟩
  cases ended with
  | kept same => exact .kept (same.trans file)
  | unadopted stored made written failed => exact .unadopted (moved stored) made written failed
  | adopted stored made written opens => exact .adopted (moved stored) made written opens

end Mutation

end Mutations

section Operations

variable {δ : Type} [Platform δ] [Crates]

/-- Writing a vault and adopting its index stores nothing, stores a vault whose index cannot be read
back, or adopts the index of what it stored. -/
theorem persistAndRefresh_ends {changed : Vault} {world : World δ} {app : UnlockedApp}
    {outcome : Except CoreError Unit} {after : World δ × UnlockedApp}
    (ran : persistAndRefresh changed (world, app) = (outcome, after)) :
    (∃ error, outcome = .error error ∧ after.1.file = world.file ∧ after.2 = app) ∨
      after.1.file = some changed.toBytes ∧
        ((∃ error, changed.openIndex app.kMaster = .error error ∧
            outcome = .error (.vault error) ∧ after.2 = app) ∨
          ∃ rows, changed.openIndex app.kMaster = .ok rows ∧ outcome = .ok () ∧
            after.2 = { app with index := rows }) := by
  rcases Op.bind_cases ran with ⟨_, reached, wrote, rest⟩ | ⟨error, failed, rfl⟩
  · obtain ⟨written, write, rfl⟩ := Op.onFirst_cases wrote
    have file : written.file = some changed.toBytes := by
      obtain ⟨_, ⟨_, rfl⟩ | ⟨_, _, clash, _⟩⟩ := atomicWrite_cases write
      · rfl
      · cases clash
    change (Op.mapError .vault (Op.lift (changed.openIndex app.kMaster)) >>= fun index =>
      Op.modify fun state => (state.1, { state.2 with index }) : SessionAct δ CoreError Unit)
      (written, app) = _ at rest
    cases opens : changed.openIndex app.kMaster with
    | error error =>
      rw [Op.bind_error (Op.mapError_error.mpr ⟨error, by rw [Op.lift_run, opens], rfl⟩)] at rest
      obtain ⟨rfl, rfl⟩ := Prod.mk.inj rest
      exact .inr ⟨file, .inl ⟨error, rfl, rfl, rfl⟩⟩
    | ok rows =>
      rw [Op.bind_ok (Op.mapError_ok.mpr (by rw [Op.lift_run, opens]))] at rest
      obtain ⟨rfl, rfl⟩ := Prod.mk.inj rest
      exact .inr ⟨file, .inr ⟨rows, rfl, rfl, rfl⟩⟩
  · obtain ⟨written, write, rfl⟩ := Op.onFirst_cases failed
    have file : written.file = world.file := by
      obtain ⟨_, ⟨clash, _⟩ | ⟨_, _, _, rfl⟩⟩ := atomicWrite_cases write
      · cases clash
      · rfl
    exact .inl ⟨error, rfl, file, rfl⟩

/-- Writing a vault and adopting its index either stores nothing or stores that vault. -/
theorem persistAndRefresh_cases {vault changed : Vault} {makes : Unit → Vault → Vault → Prop}
    {world : World δ} {app : UnlockedApp} {outcome : Except CoreError Unit}
    {after : World δ × UnlockedApp} (stored : world.Stores vault) (made : makes () vault changed)
    (ran : persistAndRefresh changed (world, app) = (outcome, after)) :
    Mutation makes world app outcome after := by
  obtain ⟨written, session⟩ := after
  rcases persistAndRefresh_ends ran with
    ⟨error, rfl, file, rfl⟩ | ⟨file, ⟨error, failed, rfl, rfl⟩ | ⟨rows, opens, rfl, rfl⟩⟩
  · exact .kept file
  · exact .unadopted stored made file failed
  · exact .adopted stored made file opens

/-- Read the vault, change it in memory, store it and adopt its index. -/
def replaceVault (edit : MasterKey → Vault → Act δ CoreError Vault) :
    SessionAct δ CoreError Unit := do
  let vault ← Op.onFirst loadVault
  let (_, app) ← Op.get
  let changed ← Op.onFirst (edit app.kMaster vault)
  persistAndRefresh changed

/-- A replacement stores nothing, or what its edit makes of the stored vault. -/
theorem replaceVault_cases (edit : MasterKey → Vault → Act δ CoreError Vault)
    {world : World δ} {app : UnlockedApp} {makes : Vault → Vault → Prop}
    (edits : ∀ (vault : Vault) (before reached : World δ) (result : Except CoreError Vault),
      edit app.kMaster vault before = (result, reached) →
        (∃ device, reached = { before with device }) ∧
          ∀ changed, result = .ok changed → makes vault changed)
    {outcome : Except CoreError Unit} {after : World δ × UnlockedApp}
    (ran : replaceVault edit (world, app) = (outcome, after)) :
    Mutation (fun _ => makes) world app outcome after := by
  rcases loading : loadVault world with ⟨result, loaded⟩
  obtain ⟨⟨device, rfl⟩, found⟩ := loadVault_cases loading
  cases result with
  | error error =>
    have failed : (Op.onFirst loadVault : SessionAct δ CoreError Vault) (world, app) =
        (.error error, { world with device }, app) := by rw [Op.onFirst_run, loading]
    rw [replaceVault, Op.bind_error failed] at ran
    obtain ⟨rfl, rfl⟩ := Prod.mk.inj ran
    exact .kept rfl
  | ok vault =>
    have stored : ({ world with device } : World δ).Stores vault := found vault rfl
    have passed : (Op.onFirst loadVault : SessionAct δ CoreError Vault) (world, app) =
        (.ok vault, { world with device }, app) := by rw [Op.onFirst_run, loading]
    rw [replaceVault, Op.bind_ok passed] at ran
    change (Op.onFirst (edit app.kMaster vault) >>= persistAndRefresh)
      ({ world with device }, app) = _ at ran
    rcases editing : edit app.kMaster vault { world with device } with ⟨result, reached⟩
    obtain ⟨⟨last, rfl⟩, makes⟩ := edits _ _ _ _ editing
    have step : (Op.onFirst (edit app.kMaster vault) : SessionAct δ CoreError Vault)
        ({ world with device }, app) = (result, { world with device := last }, app) := by
      rw [Op.onFirst_run, editing]
    cases result with
    | error error =>
      rw [Op.bind_error step] at ran
      obtain ⟨rfl, rfl⟩ := Prod.mk.inj ran
      exact .kept rfl
    | ok changed =>
      rw [Op.bind_ok step] at ran
      have kept : ({ world with device := last } : World δ).Stores vault := stored
      exact (persistAndRefresh_cases kept (makes changed rfl) ran).of_file rfl

/-- An insertion of an entry into the stored vault stores nothing, or the vault with the entry. -/
theorem upsertEntry_cases {id : EntryId} {label : String} {policy : EntryPolicy}
    {record : EntryRecord} {world : World δ} {app : UnlockedApp}
    {outcome : Except CoreError Unit} {after : World δ × UnlockedApp}
    (ran : upsertEntry id label policy record (world, app) = (outcome, after)) :
    Mutation (fun _ => Vault.Puts app.kMaster ⟨id, label, policy, record⟩) world app
      outcome after :=
  replaceVault_cases (fun kMaster => putEntry kMaster id label policy record)
    (fun _ _ _ _ => putEntry_cases) ran

omit [Crates] in
/-- A gated operation reports a locked session, or runs on after one reading of the clock. -/
theorem gated_cases {α : Type} {rest : Unit → SessionAct δ CoreError α} {world : World δ}
    {app : UnlockedApp} {outcome : Except CoreError α} {after : World δ × UnlockedApp}
    (ran : (ensureUnlocked >>= rest) (world, app) = (outcome, after)) :
    (outcome = .error .locked ∧
        after = ({ world with device := (Platform.now world.device).2 }, app)) ∨
      rest () ({ world with device := (Platform.now world.device).2 }, app) = (outcome, after) := by
  by_cases expired : app.sessionExpiry ≤ (Platform.now world.device).1
  · rw [gated_then gated_ensureUnlocked rest world app expired] at ran
    obtain ⟨rfl, rfl⟩ := Prod.mk.inj ran
    exact .inl ⟨rfl, rfl⟩
  · rw [ensureUnlocked_live rest (UInt64.not_le.mp expired)] at ran
    exact .inr ran

omit [Crates] in
/-- The identifier an addition draws, after its reading of the clock. -/
def World.drawnId (world : World δ) : EntryId :=
  ⟨(Platform.newUuid (Platform.now world.device).2).1⟩

/-- An addition stores nothing, or the vault with the entry under the identifier it drew. -/
theorem addEntry_cases {label : String} {policy : EntryPolicy} {record : EntryRecord}
    {world : World δ} {app : UnlockedApp} {outcome : Except CoreError EntryId}
    {after : World δ × UnlockedApp}
    (ran : addEntry label policy record (world, app) = (outcome, after)) :
    Mutation (fun id vault changed => id = world.drawnId ∧
      Vault.Puts app.kMaster ⟨id, label, policy, record⟩ vault changed) world app
        outcome after := by
  rcases gated_cases ran with ⟨rfl, rfl⟩ | ran
  · exact .kept rfl
  · rcases Op.bind_cases ran with ⟨id, ⟨reached, same⟩, drawn, rest⟩ | ⟨error, failed, rfl⟩
    · obtain ⟨returned, moved⟩ := Prod.mk.inj drawn
      obtain ⟨rfl, rfl⟩ := Prod.mk.inj moved
      obtain rfl : id = _ := (Except.ok.inj returned).symm
      rcases Op.bind_cases rest with ⟨_, middle, stored, rest⟩ | ⟨error, failed, rfl⟩
      · obtain ⟨rfl, rfl⟩ := Prod.mk.inj rest
        cases upsertEntry_cases stored with
        | adopted held made file opens => exact .adopted held ⟨rfl, made⟩ file opens
      · cases upsertEntry_cases failed with
        | kept file => exact .kept file
        | unadopted held made file unopened =>
          exact .unadopted held ⟨rfl, made⟩ file unopened
    · cases failed

/-- An update stores nothing, or the vault with the updated entry. -/
theorem updateEntry_cases {id : EntryId} {label : String} {policy : EntryPolicy}
    {record : EntryRecord} {world : World δ} {app : UnlockedApp}
    {outcome : Except CoreError Unit} {after : World δ × UnlockedApp}
    (ran : updateEntry id label policy record (world, app) = (outcome, after)) :
    Mutation (fun _ => Vault.Puts app.kMaster ⟨id, label, policy, record⟩) world app
      outcome after := by
  rcases gated_cases ran with ⟨rfl, rfl⟩ | ran
  · exact .kept rfl
  · rw [Op.get_bind_run] at ran
    dsimp only at ran
    cases listed : app.index.get id with
    | none =>
      rw [listed] at ran
      obtain ⟨rfl, rfl⟩ := Prod.mk.inj ran
      exact .kept rfl
    | some row =>
      rw [listed] at ran
      exact (upsertEntry_cases ran).of_file rfl

/-- A removal stores nothing, or the vault without the entry. -/
theorem removeEntry_cases {id : EntryId} {world : World δ} {app : UnlockedApp}
    {outcome : Except CoreError Unit} {after : World δ × UnlockedApp}
    (ran : removeEntry id (world, app) = (outcome, after)) :
    Mutation (fun _ => Vault.Drops app.kMaster id) world app outcome after := by
  rcases gated_cases ran with ⟨rfl, rfl⟩ | ran
  · exact .kept rfl
  · have ended := replaceVault_cases (fun kMaster => dropEntry kMaster id)
      (fun _ _ _ _ => dropEntry_cases) ran
    exact ended.of_file rfl

end Operations

section Exports

variable {δ α β : Type}

/-- The file is the same. -/
def SameFile (before after : World δ) : Prop := after.file = before.file

/-- The file is the same across steps that leave it. -/
theorem sameFile_steps : Steps (SameFile (δ := δ)) :=
  ⟨fun _ => rfl, fun _ _ _ early late => Eq.trans late early, fun _ _ => rfl⟩

/-- A step of a session that leaves the file fails without having stored anything, or goes on. -/
theorem sameFile_cases {first : Act δ CoreError α} (quiet : Op.Keeps SameFile first)
    {next : α → SessionAct δ CoreError β} {world : World δ} {app : UnlockedApp}
    {outcome : Except CoreError β} {after : World δ × UnlockedApp}
    (ran : (Op.onFirst first >>= next) (world, app) = (outcome, after)) :
    (∃ error, outcome = .error error ∧ after.1.file = world.file ∧ after.2 = app) ∨
      ∃ value reached, first world = (.ok value, reached) ∧ reached.file = world.file ∧
        next value (reached, app) = (outcome, after) := by
  rcases Op.bind_cases ran with ⟨value, middle, step, rest⟩ | ⟨error, failed, rfl⟩
  · obtain ⟨reached, stepped, rfl⟩ := Op.onFirst_cases step
    exact .inr ⟨value, reached, stepped, quiet.ran stepped, rest⟩
  · obtain ⟨reached, stopped, rfl⟩ := Op.onFirst_cases failed
    exact .inl ⟨error, rfl, quiet.ran stopped, rfl⟩

variable [Platform δ]

/-- An unwrap leaves the file. -/
theorem sameFile_unwrapSlotCore (slot : HsmSlot) (blob : Bytes) :
    Op.Keeps SameFile (unwrapSlotCore slot blob : Act δ CoreError Bytes) :=
  Op.keeps_mapError (keeps_hsmUnwrap sameFile_steps (fun _ => rfl) blob)

variable [Crates]

omit [Platform δ] in
/-- The writing of a recovery file leaves the vault file. -/
theorem sameFile_startExport (payload : ExportPayload) (password : String) (params : KdfParams)
    (available : Option UInt64) (salt : Block 32) (nonce : Nonce) :
    Op.Keeps SameFile
      (startExport payload password params available salt nonce : Act δ RecoveryError Bytes) := by
  intro world
  obtain ⟨marks, _, ran⟩ := startExport_run payload password params available salt nonce world
  rw [ran]
  rfl

/-- A derivation leaves the file. -/
theorem sameFile_deriveMasterFromBytes (password : String) (salt : Block 32) (kdf : KdfParams)
    (kHsm : Bytes) :
    Op.Keeps SameFile (deriveMasterFromBytes password salt kdf kHsm : Act δ CoreError _) := by
  intro world
  rcases ran : deriveMasterFromBytes password salt kdf kHsm world with ⟨outcome, after⟩
  exact (deriveMasterFromBytes_cases ran).1.file

/-- A fresh authentication leaves the file. -/
theorem sameFile_reauthenticate (vault : Vault) (password code : String) :
    Op.Keeps SameFile (reauthenticate vault password code : Act δ CoreError _) := by
  refine keeps_then sameFile_steps (sameFile_unwrapSlotCore _ _) fun kHsm => ?_
  refine keeps_then sameFile_steps (sameFile_unwrapSlotCore _ _) fun seed => ?_
  refine keeps_then sameFile_steps (fun world => verifyTotp_file seed code world) fun valid => ?_
  cases valid with
  | false => exact Op.keeps_fail sameFile_steps.refl _
  | true =>
    refine keeps_then sameFile_steps (sameFile_deriveMasterFromBytes _ _ _ _) fun kMaster => ?_
    exact keeps_then sameFile_steps (Op.keeps_mapError (Op.keeps_lift sameFile_steps.refl _))
      fun _ => Op.keeps_pure sameFile_steps.refl _

/-- What a successful export read, returned and stored. -/
structure Exported (password code : String) (preset : RecoveryPreset) (world : World δ)
    (app : UnlockedApp) (file : Bytes) (after : World δ) (vault : Vault) (seed : Key)
    (kMaster : MasterKey) (entries : List RecoveryEntry) : Prop where
  /-- The stored vault was read. -/
  stored : world.Stores vault
  /-- The factors were presented afresh. -/
  proved : ∃ before reached : World δ,
    reauthenticate vault password code before = (.ok (kMaster, seed.val), reached)
  /-- Every row of the session's index was decrypted. -/
  rows : app.index.mapM (exportEntry vault kMaster) = .ok entries
  /-- The recovery file was sealed. -/
  sealedAs : ∃ available salt nonce, exportWithinMemory ⟨seed, vault.kdfParams, entries⟩ password
    preset.params available salt nonce = .ok file
  /-- The export time was recorded. -/
  recorded : ∃ exportedAt,
    after.file =
      some (vault.setMetadata { vault.metadata with lastExportAt := some exportedAt }).toBytes

/-- An export keeps the session; it stores nothing, or records the time of the file it returns. -/
theorem exportRecovery_cases {password code : String} {preset : RecoveryPreset} {world : World δ}
    {app : UnlockedApp} {outcome : Except CoreError Bytes} {after : World δ × UnlockedApp}
    (ran : exportRecovery password code preset (world, app) = (outcome, after)) :
    after.2 = app ∧ ((∃ error, outcome = .error error ∧ after.1.file = world.file) ∨
      ∃ file vault seed kMaster entries, outcome = .ok file ∧
        Exported password code preset world app file after.1 vault seed kMaster entries) := by
  have asked {γ : Type} (query : δ → γ × δ) :
      Op.Keeps SameFile (ask query : Act δ CoreError γ) := keeps_ask sameFile_steps query
  rcases gated_cases ran with ⟨rfl, rfl⟩ | ran
  · exact ⟨rfl, .inl ⟨_, rfl, rfl⟩⟩
  rcases sameFile_cases (keeps_loadVault sameFile_steps) ran with
    ⟨error, rfl, file, rfl⟩ | ⟨vault, loaded, loading, loadedFile, ran⟩
  · exact ⟨rfl, .inl ⟨error, rfl, file⟩⟩
  have stored : world.Stores vault := (loadVault_cases loading).2 vault rfl
  cases allowed : Crates.allowsExport password with
  | false =>
    rw [allowed] at ran
    obtain ⟨rfl, rfl⟩ := Prod.mk.inj ran
    exact ⟨rfl, .inl ⟨_, rfl, loadedFile⟩⟩
  | true =>
    rw [allowed] at ran
    rcases sameFile_cases (sameFile_reauthenticate vault password code) ran with
      ⟨error, rfl, file, rfl⟩ | ⟨⟨kMaster, seedBytes⟩, proved, proving, provedFile, ran⟩
    · exact ⟨rfl, .inl ⟨error, rfl, file.trans loadedFile⟩⟩
    have provedFile := provedFile.trans loadedFile
    dsimp only at ran
    cases keyed : intoKey seedBytes with
    | none =>
      rw [keyed] at ran
      obtain ⟨rfl, rfl⟩ := Prod.mk.inj ran
      exact ⟨rfl, .inl ⟨_, rfl, provedFile⟩⟩
    | some seed =>
      have same : seed.val = seedBytes := by
        rw [intoKey] at keyed
        split at keyed
        · rw [← Option.some.inj keyed]
        · cases keyed
      rw [keyed] at ran
      change (Op.lift (app.index.mapM (exportEntry vault kMaster)) >>= _) (proved, app) = _ at ran
      rw [Op.lift_bind_run] at ran
      cases rows : app.index.mapM (exportEntry vault kMaster) with
      | error error =>
        rw [rows] at ran
        obtain ⟨rfl, rfl⟩ := Prod.mk.inj ran
        exact ⟨rfl, .inl ⟨error, rfl, provedFile⟩⟩
      | ok entries =>
        rw [rows] at ran
        rcases sameFile_cases (asked _) ran with
          ⟨error, rfl, file, rfl⟩ | ⟨available, measured, _, measuredFile, ran⟩
        · exact ⟨rfl, .inl ⟨error, rfl, file.trans provedFile⟩⟩
        rcases sameFile_cases (asked _) ran with
          ⟨error, rfl, file, rfl⟩ | ⟨salt, salted, _, saltedFile, ran⟩
        · exact ⟨rfl, .inl ⟨error, rfl, file.trans (measuredFile.trans provedFile)⟩⟩
        rcases sameFile_cases (asked _) ran with
          ⟨error, rfl, file, rfl⟩ | ⟨nonce, drawn, _, drawnFile, ran⟩
        · exact ⟨rfl, .inl ⟨error, rfl,
            file.trans (saltedFile.trans (measuredFile.trans provedFile))⟩⟩
        have drawnFile : drawn.file = world.file :=
          drawnFile.trans (saltedFile.trans (measuredFile.trans provedFile))
        rcases sameFile_cases (Op.keeps_mapError (sameFile_startExport _ _ _ _ _ _)) ran with
          ⟨error, rfl, file, rfl⟩ | ⟨sealed, started, starting, startedFile, ran⟩
        · exact ⟨rfl, .inl ⟨error, rfl, file.trans drawnFile⟩⟩
        obtain ⟨_, _, exporting⟩ := startExport_run ⟨seed, vault.kdfParams, entries⟩ password
          preset.params available salt nonce drawn
        have exported : exportWithinMemory ⟨seed, vault.kdfParams, entries⟩ password preset.params
            available salt nonce = .ok sealed :=
          (Prod.mk.inj (exporting.symm.trans (Op.mapError_ok.mp starting))).1
        rcases sameFile_cases (keeps_then sameFile_steps (asked _) fun _ =>
            Op.keeps_pure sameFile_steps.refl _) ran with
          ⟨error, rfl, file, rfl⟩ | ⟨exportedAt, stamped, _, stampedFile, ran⟩
        · exact ⟨rfl, .inl ⟨error, rfl, file.trans (startedFile.trans drawnFile)⟩⟩
        have stampedFile := stampedFile.trans (startedFile.trans drawnFile)
        rcases Op.bind_cases ran with ⟨_, _, write, ran⟩ | ⟨error, failed, rfl⟩
        · obtain ⟨written, writing, rfl⟩ := Op.onFirst_cases write
          obtain ⟨rfl, rfl⟩ := Prod.mk.inj ran
          obtain ⟨_, ⟨_, rfl⟩ | ⟨_, _, clash, _⟩⟩ := atomicWrite_cases writing
          · refine ⟨rfl, .inr ⟨sealed, vault, seed, kMaster, entries, rfl, stored, ?_, rows,
              ⟨available, salt, nonce, exported⟩, exportedAt, rfl⟩⟩
            rw [same]
            exact ⟨_, _, proving⟩
          · cases clash
        · obtain ⟨written, writing, rfl⟩ := Op.onFirst_cases failed
          obtain ⟨_, ⟨clash, _⟩ | ⟨_, _, _, rfl⟩⟩ := atomicWrite_cases writing
          · cases clash
          · exact ⟨rfl, .inl ⟨error, rfl, stampedFile⟩⟩

end Exports

end Passman
