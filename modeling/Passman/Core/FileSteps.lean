import Passman.Core.Mutations

/-!
# The file steps of an operation

An operation reads the whole vault file in one step and writes a whole file in a later one. What it
writes is made from the copy it read: an attempt to unlock and an export write the copy back with
another lockout state or other metadata, and an edit changes one entry of it.
-/
namespace Passman

open Bytewise Fallible Transition

section Parts

variable {δ : Type} [Platform δ]

/-- The part of an attempt to unlock up to the header it reads. -/
def unlockRead : Act δ UnlockError Vault := do
  let world ← Op.get
  if world.backendRefused then Op.fail .softwareHsmRefused else readHeader

variable [Crates]

/-- The part of an attempt to unlock behind the header it read. -/
def unlockRest (password code : String) (vault : Vault) : Act δ UnlockError UnlockedApp := do
  let now ← clockNow
  let state ← mergeLockout vault.rateLimit
  checkLockout state now
  let kHsm ← unwrapSlot .vaultKey vault.kHsmWrapBlob.val
  let seed ← unwrapSlot .totpSeed vault.totpSeedWrapBlob.val
  let valid ← Op.total (verifyTotp seed code)
  if !valid then rejectCredentials vault state now
  else
    let kMaster ← Op.mapError (fun _ => .badCredentials)
      (deriveMasterFromBytes password vault.salt vault.kdfParams kHsm)
    match vault.verifyProbe kMaster with
    | .error _ => rejectCredentials vault state now
    | .ok () =>
      let index ← Op.mapError (fun error => .malformedVault (.vault error))
        (Op.lift (vault.openIndex kMaster))
      resetLockout vault
      buildUnlocked kMaster seed index

/-- An attempt to unlock reads the file and goes on. -/
theorem unlock_parts (password code : String) :
    (unlock password code : Act δ UnlockError UnlockedApp) =
      unlockRead >>= unlockRest password code := by
  funext world
  simp only [unlock, presentFactors, passGates, unlockRead, bind_assoc]
  rw [Op.get_bind_run, Op.get_bind_run]
  cases refused : world.backendRefused with
  | true => rfl
  | false =>
    simp only [Bool.false_eq_true, if_false, bind_assoc, pure_bind]
    rfl

/-- The part of an export behind its reading of the file. -/
def exportRest (password code : String) (preset : RecoveryPreset) (vault : Vault) :
    SessionAct δ CoreError Bytes := do
  if !Crates.allowsExport password then Op.fail .weakPasswordForExport
  else
    let (kMaster, seed) ← Op.onFirst (reauthenticate vault password code)
    match intoKey seed with
    | none => Op.fail (.hsm (.malformedBlob "unwrapped TOTP seed is not 32 bytes"))
    | some seed =>
      let (_, app) ← Op.get
      let entries ← Op.lift (app.index.mapM (exportEntry vault kMaster))
      let available ← Op.onFirst (ask Platform.availableMemoryKib)
      let salt ← Op.onFirst (ask (Platform.randomBlock 32))
      let nonce ← Op.onFirst (ask (Platform.randomBlock 24))
      let file ← Op.onFirst (Op.mapError .recovery (startExport
        ⟨seed, vault.kdfParams, entries⟩ password preset.params available salt nonce))
      let exportedAt ← Op.onFirst nowUnixSecs
      let metadata := { vault.metadata with lastExportAt := some exportedAt }
      Op.onFirst (atomicWrite (vault.setMetadata metadata).toBytes)
      return file

/-- An export reads the file and goes on. -/
theorem exportRecovery_parts (password code : String) (preset : RecoveryPreset) :
    (exportRecovery password code preset : SessionAct δ CoreError Bytes) = (do
      ensureUnlocked
      let vault ← Op.onFirst loadVault
      exportRest password code preset vault) := rfl

end Parts

section Sessions

variable {δ ε α β : Type}

/-- Run an operation of a session and forget the session and the error. -/
def within (app : UnlockedApp) (operation : SessionAct δ ε α) : Act δ Unit α := fun world =>
  ((operation (world, app)).1.mapError fun _ => (), (operation (world, app)).2.1)

/-- Forget the error of an operation. -/
def silently (operation : Act δ ε α) : Act δ Unit α := Op.mapError (fun _ => ()) operation

/-- The session is the same. -/
def SameSession (before after : World δ × UnlockedApp) : Prop := after.2 = before.2

/-- Acting on the world keeps the session. -/
theorem sameSession_onFirst (operation : Act δ ε α) :
    Op.Keeps SameSession (Op.onFirst operation : SessionAct δ ε α) := fun _ => rfl

/-- An operation that keeps the session can be run on its own. -/
theorem within_then {app : UnlockedApp} {first : SessionAct δ ε α}
    {next : α → SessionAct δ ε β} (same : Op.Keeps SameSession first) :
    within app (first >>= next) = within app first >>= fun value => within app (next value) := by
  funext world
  rcases ran : first (world, app) with ⟨outcome, reached, session⟩
  obtain rfl : session = app := same.ran ran
  cases outcome with
  | ok value =>
    have passed : within session first world = (.ok value, reached) := by
      rw [within, ran]
      rfl
    rw [Op.bind_ok passed, within, Op.bind_ok ran]
    rfl
  | error error =>
    have failed : within session first world = (.error (), reached) := by
      rw [within, ran]
      rfl
    rw [Op.bind_error failed, within, Op.bind_error ran]
    rfl

/-- A value is returned in every session. -/
theorem within_pure (app : UnlockedApp) (value : α) :
    within app (pure value : SessionAct δ ε α) = pure value := rfl

/-- A value is returned without an error. -/
theorem silently_pure (value : α) : silently (pure value : Act δ ε α) = pure value := rfl

/-- Errors are forgotten step by step. -/
theorem silently_then (first : Act δ ε α) (next : α → Act δ ε β) :
    silently (first >>= next) = silently first >>= fun value => silently (next value) := by
  funext world
  rcases ran : first world with ⟨outcome, reached⟩
  cases outcome with
  | ok value =>
    have passed : silently first world = (.ok value, reached) := Op.mapError_ok.mpr ran
    rw [Op.bind_ok passed, silently, Op.mapError, Op.bind_ok ran]
    rfl
  | error error =>
    have failed : silently first world = (.error (), reached) :=
      Op.mapError_error.mpr ⟨error, ran, rfl⟩
    rw [Op.bind_error failed, silently, Op.mapError, Op.bind_error ran]

end Sessions

section Calls

variable {δ : Type}

/-- An operation that reads the vault file and may write it, with the session it is called on. -/
inductive FileCall where
  /-- Unlock the vault. -/
  | unlock (password code : String)
  /-- Add an entry. -/
  | addEntry (app : UnlockedApp) (label : String) (policy : EntryPolicy) (record : EntryRecord)
  /-- Update an entry. -/
  | updateEntry (app : UnlockedApp) (id : EntryId) (label : String) (policy : EntryPolicy)
      (record : EntryRecord)
  /-- Remove an entry. -/
  | removeEntry (app : UnlockedApp) (id : EntryId)
  /-- Export a recovery file. -/
  | exportRecovery (app : UnlockedApp) (password code : String) (preset : RecoveryPreset)

/-- What an operation goes on to do with the vault it read. -/
inductive Plan where
  /-- Check the credentials against the vault. -/
  | unlock (password code : String)
  /-- Make a change under the key of a session. -/
  | edit (app : UnlockedApp) (change : Change)
  /-- Export the entries of a session. -/
  | exportRecovery (app : UnlockedApp) (password code : String) (preset : RecoveryPreset)

/-- The entry change of a plan, if it makes one. -/
def Plan.changes : Plan → List Change
  | edit _ change => [change]
  | _ => []

variable [Platform δ] [Crates]

/-- Make a change in a vault in memory. -/
def Change.edit (kMaster : MasterKey) (vault : Vault) : Change → Act δ CoreError Vault
  | put item => putEntry kMaster item.id item.label item.policy item.record vault
  | drop id => dropEntry kMaster id vault

/-- Make a change in the vault that was read, write the result and adopt its index. -/
def Change.commit (vault : Vault) (change : Change) : SessionAct δ CoreError Unit := do
  let (_, app) ← Op.get
  let changed ← Op.onFirst (change.edit app.kMaster vault)
  persistAndRefresh changed

namespace FileCall

/-- The operation as a whole. -/
def perform : FileCall → Act δ Unit Unit
  | unlock password code => silently do
    let _ ← Passman.unlock password code
    return
  | addEntry app label policy record => within app do
    let _ ← Passman.addEntry label policy record
    return
  | updateEntry app id label policy record =>
    within app (Passman.updateEntry id label policy record)
  | removeEntry app id => within app (Passman.removeEntry id)
  | exportRecovery app password code preset => within app do
    let _ ← Passman.exportRecovery password code preset
    return

/-- The step of an operation that reads the file. -/
def read : FileCall → Act δ Unit (Plan × Vault)
  | unlock password code => silently do
    let vault ← unlockRead
    return (.unlock password code, vault)
  | addEntry app label policy record => within app do
    ensureUnlocked
    let id ← Op.onFirst (ask Platform.newUuid)
    let vault ← Op.onFirst loadVault
    return (.edit app (.put ⟨⟨id⟩, label, policy, record⟩), vault)
  | updateEntry app id label policy record => within app do
    ensureUnlocked
    match app.index.get id with
    | none => Op.fail (.vault .entryNotFound)
    | some _ =>
      let vault ← Op.onFirst loadVault
      return (.edit app (.put ⟨id, label, policy, record⟩), vault)
  | removeEntry app id => within app do
    ensureUnlocked
    let vault ← Op.onFirst loadVault
    return (.edit app (.drop id), vault)
  | exportRecovery app password code preset => within app do
    ensureUnlocked
    let vault ← Op.onFirst loadVault
    return (.exportRecovery app password code preset, vault)

end FileCall

/-- The step of an operation that may write the file. -/
def Plan.finish (vault : Vault) : Plan → Act δ Unit Unit
  | unlock password code => silently do
    let _ ← unlockRest password code vault
    return
  | edit app change => within app (change.commit vault)
  | exportRecovery app password code preset => within app do
    let _ ← exportRest password code preset vault
    return

omit [Crates] in
/-- The check of the expiry keeps the session. -/
theorem sameSession_ensureUnlocked :
    Op.Keeps SameSession (ensureUnlocked : SessionAct δ CoreError Unit) := by
  rintro ⟨world, app⟩
  rw [ensureUnlocked_run]
  rfl

/-- An operation is its two steps, one right after the other. -/
theorem FileCall.perform_steps (call : FileCall) :
    (call.perform : Act δ Unit Unit) = (do
      let (plan, vault) ← call.read
      plan.finish vault) := by
  have checked {α : Type} (next : Unit → SessionAct δ CoreError α) (app : UnlockedApp) :
      within app (ensureUnlocked >>= next) =
        within app ensureUnlocked >>= fun value => within app (next value) :=
    within_then sameSession_ensureUnlocked
  have acted {ε α β : Type} (first : Act δ ε α) (next : α → SessionAct δ ε β) (app : UnlockedApp) :
      within app (Op.onFirst first >>= next) =
        within app (Op.onFirst first) >>= fun value => within app (next value) :=
    within_then (sameSession_onFirst first)
  cases call with
  | unlock password code =>
    simp only [perform, read, Plan.finish, unlock_parts, silently_then, silently_pure, bind_assoc,
      pure_bind]
  | addEntry app label policy record =>
    simp only [perform, read, Plan.finish, Passman.addEntry, upsertEntry, checked, acted,
      within_pure, bind_assoc, pure_bind, bind_pure_unit]
    rfl
  | updateEntry app id label policy record =>
    simp only [perform, read, Plan.finish, Passman.updateEntry, checked, bind_assoc]
    refine congrArg (within app ensureUnlocked >>= ·) (funext fun _ => ?_)
    funext world
    rw [within, Op.get_bind_run]
    dsimp only
    cases app.index.get id with
    | none => rfl
    | some row =>
      change within app (upsertEntry id label policy record) world = _
      simp only [upsertEntry, acted, within_pure, bind_assoc, pure_bind]
      rfl
  | removeEntry app id =>
    simp only [perform, read, Plan.finish, Passman.removeEntry, checked, acted, within_pure,
      bind_assoc, pure_bind]
    rfl
  | exportRecovery app password code preset =>
    simp only [perform, read, Plan.finish, exportRecovery_parts, checked, acted, within_pure,
      bind_assoc, pure_bind]

end Calls

/-- The map after changes. -/
def Contents.after (contents : Contents) (changes : List Change) : Contents :=
  changes.foldl Change.apply contents

section Finishing

variable {δ α ε : Type}

/-- The file is the same, or the vault was written with another lockout state or other metadata. -/
def Relabelled (vault : Vault) (before after : World δ) : Prop :=
  after.file = before.file ∨ ∃ changed, vault.Relabels changed ∧ after.file = some changed.toBytes

/-- Relabelling composes and holds across questions to the device. -/
theorem relabelled_steps (vault : Vault) : Steps (Relabelled (δ := δ) vault) where
  refl _ := .inl rfl
  trans first second third early late := by
    rcases late with same | written
    · rw [Relabelled, same]
      exact early
    · exact .inr written
  device _ _ := .inl rfl

/-- What leaves the file relabels at most. -/
theorem relabelled_of_sameFile (vault : Vault) {operation : Act δ ε α}
    (quiet : Op.Keeps SameFile operation) : Op.Keeps (Relabelled vault) operation :=
  fun world => .inl (quiet world)

variable [Platform δ]

/-- A rejection writes the vault with another lockout state, if anything. -/
theorem relabelled_rejectCredentials (vault : Vault) (state : LockoutState) (now : Timestamp) :
    Op.Keeps (Relabelled vault) (rejectCredentials vault state now : Act δ UnlockError α) := by
  intro world
  rcases ran : rejectCredentials (α := α) vault state now world with ⟨outcome, after⟩
  obtain ⟨_, device, stored, _, rfl⟩ := rejectCredentials_cases ran
  cases stored with
  | false => exact .inl rfl
  | true => exact .inr ⟨_, ⟨state.afterFailure now, vault.metadata, rfl⟩, rfl⟩

/-- A reset writes the vault with another lockout state, if anything. -/
theorem relabelled_resetLockout (vault : Vault) :
    Op.Keeps (Relabelled vault) (resetLockout vault : Act δ ε Unit) := by
  intro world
  rcases ran : resetLockout (ε := ε) vault world with ⟨outcome, after⟩
  obtain ⟨_, ⟨_, rfl⟩ | ⟨device, stored, _, rfl⟩⟩ := resetLockout_cases ran
  · exact .inl rfl
  · cases stored with
    | false => exact .inl rfl
    | true => exact .inr ⟨_, ⟨.reset, vault.metadata, rfl⟩, rfl⟩

variable [Crates]

/-- The rest of an attempt to unlock relabels the vault it read at most. -/
theorem relabelled_unlockRest (password code : String) (vault : Vault) :
    Op.Keeps (Relabelled vault) (unlockRest password code vault : Act δ UnlockError _) := by
  have steps := relabelled_steps (δ := δ) vault
  have unwrapped (slot : HsmSlot) (blob : Bytes) :
      Op.Keeps (Relabelled vault) (unwrapSlot slot blob : Act δ UnlockError Bytes) :=
    Op.keeps_mapError (keeps_hsmUnwrap steps (fun _ => .inl rfl) blob)
  refine keeps_then steps (keeps_ask steps _) fun now => ?_
  refine keeps_then steps (fun _ => .inl rfl) fun state => ?_
  refine keeps_then steps (keeps_checkLockout steps _ _) fun _ => ?_
  refine keeps_then steps (unwrapped _ _) fun kHsm => ?_
  refine keeps_then steps (unwrapped _ _) fun seed => ?_
  refine keeps_then steps (fun world => .inl (verifyTotp_file seed code world)) fun valid => ?_
  cases valid with
  | false => exact relabelled_rejectCredentials vault state now
  | true =>
    refine keeps_then steps (Op.keeps_mapError (relabelled_of_sameFile vault
      (sameFile_deriveMasterFromBytes _ _ _ _))) fun kMaster => ?_
    cases vault.verifyProbe kMaster with
    | error error => exact relabelled_rejectCredentials vault state now
    | ok _ =>
      refine keeps_then steps (Op.keeps_mapError (Op.keeps_lift steps.refl _)) fun index => ?_
      refine keeps_then steps (relabelled_resetLockout vault) fun _ => ?_
      exact keeps_buildUnlocked steps _ _ _

/-- The rest of an export relabels the vault it read at most. -/
theorem relabelled_exportRest (password code : String) (preset : RecoveryPreset) (vault : Vault) :
    Op.Keeps (onWorld (Relabelled vault))
      (exportRest password code preset vault : SessionAct δ CoreError Bytes) := by
  have steps := relabelled_steps (δ := δ) vault
  have andThen {β γ : Type} {first : SessionAct δ CoreError β} {next : β → SessionAct δ CoreError γ}
      (head : Op.Keeps (onWorld (Relabelled vault)) first)
      (tail : ∀ value, Op.Keeps (onWorld (Relabelled vault)) (next value)) :
      Op.Keeps (onWorld (Relabelled vault)) (first >>= next) :=
    Op.keeps_bind (fun early middle late => steps.trans early.1 middle.1 late.1) head tail
  have quiet {β : Type} {first : Act δ CoreError β} (same : Op.Keeps SameFile first) :
      Op.Keeps (onWorld (Relabelled vault)) (Op.onFirst first : SessionAct δ CoreError β) :=
    Op.keeps_onFirst (relabelled_of_sameFile vault same)
  have asked {β : Type} (query : δ → β × δ) :
      Op.Keeps SameFile (ask query : Act δ CoreError β) := keeps_ask sameFile_steps query
  rw [exportRest]
  cases Crates.allowsExport password with
  | false => exact fun state => steps.refl state.1
  | true =>
    refine andThen (quiet (sameFile_reauthenticate vault password code)) fun proved => ?_
    obtain ⟨kMaster, seedBytes⟩ := proved
    dsimp only
    cases intoKey seedBytes with
    | none => exact fun state => steps.refl state.1
    | some seed =>
      refine andThen (fun state => steps.refl state.1) fun state => ?_
      refine andThen (fun state => steps.refl state.1) fun entries => ?_
      refine andThen (quiet (asked _)) fun available => ?_
      refine andThen (quiet (asked _)) fun salt => ?_
      refine andThen (quiet (asked _)) fun nonce => ?_
      refine andThen (quiet (Op.keeps_mapError (sameFile_startExport _ _ _ _ _ _))) fun file => ?_
      refine andThen (quiet (keeps_then sameFile_steps (asked _) fun _ =>
        Op.keeps_pure sameFile_steps.refl _)) fun exportedAt => ?_
      refine andThen (Op.keeps_onFirst fun world => ?_) fun _ => fun state => steps.refl state.1
      rcases ran : atomicWrite _ world with ⟨outcome, after⟩
      obtain ⟨device, ⟨_, rfl⟩ | ⟨_, _, _, rfl⟩⟩ := atomicWrite_cases ran
      · exact .inr ⟨_, ⟨vault.rateLimit, _, rfl⟩, rfl⟩
      · exact .inl rfl

/-- A change that is committed fails without having stored anything, or stores what it makes of the
vault that was read. -/
theorem Change.commit_cases {change : Change} {vault : Vault} {world : World δ}
    {app : UnlockedApp} {outcome : Except CoreError Unit} {after : World δ × UnlockedApp}
    (ran : change.commit vault (world, app) = (outcome, after)) :
    (∃ error, outcome = .error error ∧ after.1.file = world.file) ∨
      ∃ changed, change.Makes app.kMaster vault changed ∧ after.1.file = some changed.toBytes ∧
        (outcome = .ok () ∨ ∃ error, changed.openIndex app.kMaster = .error error) := by
  have edits {reached : World δ} {result : Except CoreError Vault}
      (editing : change.edit app.kMaster vault world = (result, reached)) :
      reached.file = world.file ∧ ∀ changed, result = .ok changed →
        change.Makes app.kMaster vault changed := by
    cases change with
    | put item =>
      obtain ⟨⟨device, rfl⟩, makes⟩ := putEntry_cases editing
      exact ⟨rfl, makes⟩
    | drop id =>
      obtain ⟨⟨device, rfl⟩, makes⟩ := dropEntry_cases editing
      exact ⟨rfl, makes⟩
  rw [commit, Op.get_bind_run] at ran
  rcases Op.bind_cases ran with ⟨changed, middle, edited, ran⟩ | ⟨error, failed, rfl⟩
  · obtain ⟨reached, editing, rfl⟩ := Op.onFirst_cases edited
    obtain ⟨same, makes⟩ := edits editing
    have made := makes changed rfl
    rcases persistAndRefresh_ends ran with
      ⟨error, rfl, file, _⟩ | ⟨file, ⟨error, unopened, _⟩ | ⟨rows, _, rfl, _⟩⟩
    · exact .inl ⟨error, rfl, file.trans same⟩
    · exact .inr ⟨changed, made, file, .inr ⟨error, unopened⟩⟩
    · exact .inr ⟨changed, made, file, .inl rfl⟩
  · obtain ⟨reached, editing, rfl⟩ := Op.onFirst_cases failed
    exact .inl ⟨error, rfl, (edits editing).1⟩

/-- The ways a plan ends that was made for a coherent vault. -/
inductive Plan.Ended (kMaster : MasterKey) (vault : Vault) (plan : Plan) (world : World δ) :
    Except Unit Unit → World δ → Prop
  /-- Nothing was written, and a plan that changes an entry did not succeed. -/
  | quiet {outcome : Except Unit Unit} {after : World δ} (file : after.file = world.file)
      (unchanging : outcome = .ok () → plan.changes = []) :
    Ended kMaster vault plan world outcome after
  /-- A coherent vault was written, with the entries that were read and the change of the plan; a
  plan that changes an entry succeeded. -/
  | written {outcome : Except Unit Unit} {after : World δ} {changed : Vault} {rows : Index}
      (file : after.file = some changed.toBytes) (coherent : changed.Coherent kMaster rows)
      (map : changed.contents kMaster = (vault.contents kMaster).after plan.changes)
      (succeeded : plan.changes = [] ∨ outcome = .ok ()) :
    Ended kMaster vault plan world outcome after

omit [Platform δ] in
/-- A plan that at most relabels the vault and changes no entry ends in one of these ways. -/
theorem Plan.ended_of_relabelled {plan : Plan} {vault : Vault} {kMaster : MasterKey} {rows : Index}
    (coherent : vault.Coherent kMaster rows) {world after : World δ} {outcome : Except Unit Unit}
    (unchanging : plan.changes = []) (relabelled : Relabelled vault world after) :
    plan.Ended kMaster vault world outcome after := by
  rcases relabelled with same | ⟨changed, ⟨state, metadata, rfl⟩, file⟩
  · exact .quiet same fun _ => unchanging
  · obtain ⟨moved, map⟩ := coherent.of_same ((vault.withLockout state).setMetadata metadata)
      rfl rfl rfl rfl
    refine .written file moved ?_ (.inl unchanging)
    rw [unchanging]
    exact map

/-- A plan for a coherent vault ends in one of these ways, if its change is made under the key of
the vault and fits, or under a key that does not decrypt the index. -/
theorem Plan.finish_cases (aead : AeadLaws) (laws : PostcardLaws) {plan : Plan} {vault : Vault}
    {kMaster : MasterKey} {rows : Index} (coherent : vault.Coherent kMaster rows)
    (regular : ∀ app change, plan = .edit app change →
      (app.kMaster = kMaster ∧ change.Fits kMaster vault) ∨
        ∃ error, vault.decryptIndex app.kMaster = .error error)
    {world after : World δ} {outcome : Except Unit Unit}
    (ran : plan.finish vault world = (outcome, after)) :
    plan.Ended kMaster vault world outcome after := by
  have steps := relabelled_steps (δ := δ) vault
  cases plan with
  | unlock password code =>
    have kept : Op.Keeps (Relabelled vault) (Plan.finish (δ := δ) vault (.unlock password code)) :=
      Op.keeps_mapError (keeps_then steps (relabelled_unlockRest password code vault) fun _ =>
        Op.keeps_pure steps.refl _)
    exact ended_of_relabelled coherent rfl (kept.ran ran)
  | exportRecovery app password code preset =>
    have kept : Op.Keeps (onWorld (Relabelled vault)) (do
        let _ ← exportRest password code preset vault
        return : SessionAct δ CoreError Unit) :=
      Op.keeps_bind (fun early middle late => steps.trans early.1 middle.1 late.1)
        (relabelled_exportRest password code preset vault) fun _ state => steps.refl state.1
    obtain ⟨_, rfl⟩ := Prod.mk.inj ran
    exact ended_of_relabelled coherent rfl (kept (world, app))
  | edit app change =>
    rcases committing : change.commit vault (world, app) with ⟨result, reached⟩
    rw [finish, within, committing] at ran
    obtain ⟨rfl, rfl⟩ := Prod.mk.inj ran
    rcases change.commit_cases committing with ⟨error, rfl, same⟩ | ⟨changed, makes, file, ended⟩
    · exact .quiet same fun clash => by cases clash
    rcases regular app change rfl with ⟨rfl, fits⟩ | ⟨error, unread⟩
    · obtain ⟨left, moved, map⟩ := makes.coherent aead laws coherent fits
      rcases ended with rfl | ⟨error, unopened⟩
      · exact .written file moved map (.inr rfl)
      · rw [moved.opens] at unopened
        cases unopened
    · obtain ⟨found, decrypts⟩ := makes.decrypts
      rw [decrypts] at unread
      cases unread

end Finishing

section Reading

variable {δ α β : Type}

/-- The operation leaves the file, and a vault it returns is the stored one. -/
def ReadsStored (operation : SessionAct δ CoreError (Plan × Vault)) : Prop :=
  ∀ state outcome after, operation state = (outcome, after) → SameFile state.1 after.1 ∧
    ∀ read, outcome = .ok read → state.1.Stores read.2

/-- A failure reads nothing. -/
theorem readsStored_fail (error : CoreError) :
    ReadsStored (Op.fail error : SessionAct δ CoreError (Plan × Vault)) := by
  intro state outcome after ran
  obtain ⟨rfl, rfl⟩ := Prod.mk.inj ran
  exact ⟨rfl, fun _ clash => by cases clash⟩

/-- Steps that leave the file may come first. -/
theorem readsStored_then {first : SessionAct δ CoreError α}
    {next : α → SessionAct δ CoreError (Plan × Vault)} (quiet : Op.Keeps (onWorld SameFile) first)
    (reads : ∀ value, ReadsStored (next value)) : ReadsStored (first >>= next) := by
  intro state outcome after ran
  rcases Op.bind_cases ran with ⟨value, middle, begun, rest⟩ | ⟨error, failed, rfl⟩
  · have same : middle.1.file = state.1.file := quiet.ran begun
    obtain ⟨kept, stores⟩ := reads value middle outcome after rest
    refine ⟨Eq.trans kept same, fun read returned => ?_⟩
    obtain ⟨bytes, held, parsed⟩ := stores read returned
    exact ⟨bytes, same ▸ held, parsed⟩
  · exact ⟨quiet.ran failed, fun _ clash => by cases clash⟩

variable [Platform δ]

/-- Loading the vault for a plan reads the stored vault. -/
theorem readsStored_load (plan : Plan) : ReadsStored (do
    let vault ← Op.onFirst loadVault
    return (plan, vault) : SessionAct δ CoreError (Plan × Vault)) := by
  intro state outcome after ran
  rcases Op.bind_cases ran with ⟨vault, middle, loaded, rest⟩ | ⟨error, failed, rfl⟩
  · obtain ⟨reached, loading, rfl⟩ := Op.onFirst_cases loaded
    obtain ⟨⟨device, rfl⟩, found⟩ := loadVault_cases loading
    obtain ⟨rfl, rfl⟩ := Prod.mk.inj rest
    refine ⟨rfl, fun read returned => ?_⟩
    obtain rfl := Except.ok.inj returned
    exact found vault rfl
  · obtain ⟨reached, loading, rfl⟩ := Op.onFirst_cases failed
    obtain ⟨⟨device, rfl⟩, _⟩ := loadVault_cases loading
    exact ⟨rfl, fun _ clash => by cases clash⟩

/-- Reading the header leaves the file, and the vault it returns is the stored one. -/
theorem unlockRead_cases {world after : World δ} {outcome : Except UnlockError Vault}
    (ran : unlockRead world = (outcome, after)) :
    after.file = world.file ∧ ∀ vault, outcome = .ok vault → world.Stores vault := by
  rw [unlockRead, Op.get_bind_run] at ran
  split at ran
  · obtain ⟨rfl, rfl⟩ := Prod.mk.inj ran
    exact ⟨rfl, fun _ clash => by cases clash⟩
  · rcases Op.bind_cases ran with ⟨vault, reached, loaded, rest⟩ | ⟨error, failed, rfl⟩
    · obtain ⟨⟨device, rfl⟩, found⟩ := loadVault_cases (Op.mapError_ok.mp loaded)
      split at rest
      · obtain ⟨rfl, rfl⟩ := Prod.mk.inj rest
        exact ⟨rfl, fun _ clash => by cases clash⟩
      · obtain ⟨rfl, rfl⟩ := Prod.mk.inj rest
        refine ⟨rfl, fun other same => ?_⟩
        obtain rfl := Except.ok.inj same
        exact found vault rfl
    · obtain ⟨_, failed, _⟩ := Op.mapError_error.mp failed
      obtain ⟨⟨device, rfl⟩, _⟩ := loadVault_cases failed
      exact ⟨rfl, fun _ clash => by cases clash⟩

/-- A read step leaves the file, and the vault it returns is the stored one. -/
theorem FileCall.read_cases {call : FileCall} {world after : World δ}
    {outcome : Except Unit (Plan × Vault)} (ran : call.read world = (outcome, after)) :
    after.file = world.file ∧ ∀ read, outcome = .ok read → world.Stores read.2 := by
  have session {app : UnlockedApp} {operation : SessionAct δ CoreError (Plan × Vault)}
      (reads : ReadsStored operation) (ran : within app operation world = (outcome, after)) :
      after.file = world.file ∧ ∀ read, outcome = .ok read → world.Stores read.2 := by
    obtain ⟨rfl, rfl⟩ := Prod.mk.inj ran
    obtain ⟨same, stores⟩ := reads (world, app) _ _ rfl
    refine ⟨same, fun read returned => stores read ?_⟩
    cases result : (operation (world, app)).1 with
    | ok value =>
      rw [result] at returned
      exact congrArg Except.ok (Except.ok.inj returned)
    | error error =>
      rw [result] at returned
      cases returned
  have checked : Op.Keeps (onWorld SameFile) (ensureUnlocked : SessionAct δ CoreError Unit) :=
    fun state => (untouched_ensureUnlocked state).file
  cases call with
  | unlock password code =>
    rw [read, silently_then] at ran
    rcases Op.bind_cases ran with ⟨vault, reached, begun, rest⟩ | ⟨error, failed, rfl⟩
    · obtain ⟨same, stores⟩ := unlockRead_cases (Op.mapError_ok.mp begun)
      obtain ⟨rfl, rfl⟩ := Prod.mk.inj rest
      refine ⟨same, fun found returned => ?_⟩
      obtain rfl := Except.ok.inj returned
      exact stores vault rfl
    · obtain ⟨_, failed, _⟩ := Op.mapError_error.mp failed
      exact ⟨(unlockRead_cases failed).1, fun _ clash => by cases clash⟩
  | addEntry app label policy record =>
    refine session (readsStored_then checked fun _ => readsStored_then ?_ fun id => ?_) ran
    · exact Op.keeps_onFirst (keeps_ask sameFile_steps _)
    · exact readsStored_load _
  | updateEntry app id label policy record =>
    refine session (readsStored_then checked fun _ => ?_) ran
    cases app.index.get id with
    | none => exact readsStored_fail _
    | some row => exact readsStored_load _
  | removeEntry app id => exact session (readsStored_then checked fun _ => readsStored_load _) ran
  | exportRecovery app password code preset =>
    exact session (readsStored_then checked fun _ => readsStored_load _) ran

end Reading

end Passman
