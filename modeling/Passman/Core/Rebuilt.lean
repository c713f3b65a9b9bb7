import Passman.Core.Stored

/-!
# Vaults that are rebuilt entry by entry

A restoration puts the entries of a recovery file into a fresh vault, and a password change
puts the decrypted entries of the stored vault into one. Both are folds of insertions over a
list that decides what is inserted.
-/
namespace Passman

open Bytewise Fallible

section Folds

variable {δ α : Type} [Crates]

/-- A fold whose steps each insert the item of their source inserts the items of all sources. -/
theorem putItems_ok (step : Vault → α → Act δ CoreError Vault) {item : α → Except CoreError Item}
    {kMaster : MasterKey}
    (each : ∀ (vault changed : Vault) (source : α) (before after : World δ),
      step vault source before = (.ok changed, after) →
        (∃ device, after = { before with device }) ∧
          ∃ put, item source = .ok put ∧ Vault.Puts kMaster put vault changed)
    {sources : List α} {vault rebuilt : Vault} {before after : World δ}
    (ran : sources.foldlM step vault before = (.ok rebuilt, after)) :
    (∃ device, after = { before with device }) ∧
      ∃ items, sources.mapM item = .ok items ∧ Vault.PutsAll kMaster items vault rebuilt := by
  induction sources generalizing vault before with
  | nil =>
    obtain ⟨returned, rfl⟩ := Prod.mk.inj ran
    obtain rfl := Except.ok.inj returned
    exact ⟨⟨_, rfl⟩, [], rfl, .nil⟩
  | cons source rest ih =>
    rw [List.foldlM_cons] at ran
    obtain ⟨changed, reached, stepped, ran⟩ := Op.bind_ok_cases ran
    obtain ⟨⟨_, rfl⟩, put, chosen, first⟩ := each vault changed source before reached stepped
    obtain ⟨⟨device, rfl⟩, items, others, later⟩ := ih ran
    refine ⟨⟨device, rfl⟩, put :: items, ?_, .cons first later⟩
    rw [List.mapM_cons, chosen, others]
    rfl

end Folds

section Restorations

variable {δ : Type} [Platform δ] [Crates]

/-- What a recovery entry puts into the restored vault. -/
def importItem (entry : RecoveryEntry) : Except CoreError Item := do
  let (id, label, policy, record) ← importEntryParts entry
  return ⟨id, label, policy, record⟩

/-- Importing an entry inserts its item. -/
theorem importEntry_ok {kMaster : MasterKey} {entry : RecoveryEntry} {vault changed : Vault}
    {before after : World δ} (ran : importEntry kMaster vault entry before = (.ok changed, after)) :
    (∃ device, after = { before with device }) ∧
      ∃ put, importItem entry = .ok put ∧ Vault.Puts kMaster put vault changed := by
  obtain ⟨⟨id, label, policy, record⟩, parts, ran⟩ := Op.lift_bind_ok ran
  obtain ⟨device, puts⟩ := putEntry_cases ran
  refine ⟨device, ⟨id, label, policy, record⟩, ?_, puts changed rfl⟩
  rw [importItem, parts]
  rfl

/-- A successful restoration founds a vault, inserts the entries of the recovery file, stores the
vault and opens a session on it. -/
theorem importRecovery_founded {file : Bytes} {password : String} {kdf : KdfParams}
    {config : TotpConfig} {before after : World δ} {app : UnlockedApp} {uri : String}
    (ran : importRecovery file password kdf config before = (.ok (app, uri), after)) :
    ∃ payload kHsm kHsmBlob seedBlob kMaster created items vault,
      importWithinMemory file password (Platform.availableMemoryKib before.device).1 =
        .ok payload ∧
      Founded δ password kdf kHsm payload.totpSeed kHsmBlob seedBlob kMaster created ∧
      payload.entries.mapM importItem = .ok items ∧ Vault.PutsAll kMaster items created vault ∧
      Installed config kMaster payload.totpSeed vault app uri after ∧
      before.Enrolls after kHsmBlob seedBlob := by
  obtain ⟨_, permitted, allowed, ran⟩ := Op.bind_ok_cases ran
  rw [checkBackendAllowed_ok allowed, ask_bind_run] at ran
  obtain ⟨payload, imported, started, ran⟩ := Op.bind_ok_cases ran
  obtain ⟨derivations, _, _, importing⟩ := startImport_run file password
    (Platform.availableMemoryKib before.device).1 before.measured
  have opened : startImport file password (Platform.availableMemoryKib before.device).1
      before.measured = (.ok payload, imported) := Op.mapError_ok.mp started
  obtain ⟨found, rfl⟩ := Prod.mk.inj (importing.symm.trans opened)
  rw [ask_bind_run] at ran
  obtain ⟨kHsmBlob, seedBlob, kMaster, created, reached, founded, _, ⟨late, early, traced⟩, ran⟩ :=
    found_ok ran
  obtain ⟨vault, filled, inserted, ran⟩ := Op.bind_ok_cases ran
  obtain ⟨⟨_, rfl⟩, items, chosen, puts⟩ :=
    putItems_ok (importEntry kMaster) (fun _ _ _ _ _ => importEntry_ok) inserted
  obtain ⟨installed, written⟩ := install_ok ran
  refine ⟨payload, _, kHsmBlob, seedBlob, kMaster, created, items, vault, found, founded, chosen,
    puts, installed, .written vault.toBytes true :: late, early ++ derivations, ?_⟩
  rw [written, traced, List.append_assoc]
  rfl

end Restorations

section Rekeyings

variable {δ : Type} [Platform δ] [Crates]

/-- What a row of an index puts into a rebuilt vault. -/
def reencryptItem (source : Vault) (oldMaster : MasterKey) (row : IndexEntry) :
    Except CoreError Item :=
  match source.decryptEntry oldMaster row.id with
  | .ok record => .ok ⟨row.id, row.label, row.policy, record⟩
  | .error error => .error (.vault error)

/-- Carrying a row over inserts its item. -/
theorem reencryptEntry_ok {source : Vault} {oldMaster newMaster : MasterKey} {row : IndexEntry}
    {vault changed : Vault} {before after : World δ}
    (ran : reencryptEntry source oldMaster newMaster vault row before = (.ok changed, after)) :
    (∃ device, after = { before with device }) ∧
      ∃ put, reencryptItem source oldMaster row = .ok put ∧
        Vault.Puts newMaster put vault changed := by
  obtain ⟨record, reached, decrypted, ran⟩ := Op.bind_ok_cases ran
  obtain ⟨found, rfl⟩ := Prod.mk.inj (Op.mapError_ok.mp decrypted)
  obtain ⟨device, puts⟩ := putEntry_cases ran
  refine ⟨device, ⟨row.id, row.label, row.policy, record⟩, ?_, puts changed rfl⟩
  rw [reencryptItem, found]

/-- One vault is the other rebuilt under a new key: a fresh vault with the wrap blobs and the export
time of the source, into which the rows of an index were carried over. -/
def Vault.Rebuilds (index : Index) (oldMaster newMaster : MasterKey) (salt : Block 32)
    (kdf : KdfParams) (source rebuilt : Vault) : Prop :=
  ∃ changedAt probeNonce indexNonce created items,
    Vault.create kdf salt source.kHsmWrapBlob.val source.totpSeedWrapBlob.val
      { source.metadata with lastPasswordChange := changedAt } newMaster probeNonce indexNonce =
        .ok created ∧
    index.mapM (reencryptItem source oldMaster) = .ok items ∧
    Vault.PutsAll newMaster items created rebuilt

/-- A successful rebuilding changes the device only. -/
theorem reencryptVault_ok {app : UnlockedApp} {source rebuilt : Vault} {salt : Block 32}
    {kdf : KdfParams} {newMaster : MasterKey} {before after : World δ}
    (ran : reencryptVault app source salt kdf newMaster before = (.ok rebuilt, after)) :
    (∃ device, after = { before with device }) ∧
      Vault.Rebuilds app.index app.kMaster newMaster salt kdf source rebuilt := by
  obtain ⟨changedAt, stamped, read, ran⟩ := Op.bind_ok_cases ran
  obtain ⟨_, rfl⟩ := Prod.mk.inj read
  obtain ⟨created, sealed, made, ran⟩ := Op.bind_ok_cases ran
  obtain ⟨⟨_, rfl⟩, probeNonce, indexNonce, sealing⟩ := createSealed_ok made
  obtain ⟨⟨device, rfl⟩, items, chosen, puts⟩ :=
    putItems_ok (reencryptEntry source app.kMaster newMaster)
      (fun _ _ _ _ _ => reencryptEntry_ok) ran
  exact ⟨⟨device, rfl⟩, changedAt, probeNonce, indexNonce, created, items, sealing, chosen, puts⟩

/-- What a password change proved, derived and stored. -/
structure Rekeyed (old new : String) (kdf : KdfParams) (world : World δ) (app : UnlockedApp)
    (after : World δ × UnlockedApp) (vault rebuilt : Vault) (kHsm : Bytes) (salt : Block 32) :
    Prop where
  /-- The stored vault was read. -/
  stored : world.Stores vault
  /-- The hardware key was unwrapped. -/
  unwrapped : ∃ before reached : World δ,
    unwrapSlotCore .vaultKey vault.kHsmWrapBlob.val before = (.ok kHsm, reached)
  /-- The old password was proved against the probe. -/
  proved : ∃ (oldMaster : MasterKey) (before reached : World δ),
    deriveMasterFromBytes old vault.salt vault.kdfParams kHsm before = (.ok oldMaster, reached) ∧
      vault.verifyProbe oldMaster = .ok ()
  /-- The session's new key was derived from the new password. -/
  derived : ∃ before reached : World δ,
    deriveMasterFromBytes new salt kdf kHsm before = (.ok after.2.kMaster, reached)
  /-- The vault was rebuilt under the new key. -/
  rebuilds : Vault.Rebuilds app.index app.kMaster after.2.kMaster salt kdf vault rebuilt
  /-- The rebuilt vault was stored. -/
  file : after.1.file = some rebuilt.toBytes
  /-- The session keeps its seed. -/
  seed : after.2.totpSeed = app.totpSeed

/-- A password change fails and stores nothing, or stores the vault rebuilt under the new key and
adopts the key; it fails nevertheless when the rebuilt vault does not open, and adopts the rows
when it does. -/
theorem changeMasterPassword_cases {old new : String} {kdf : KdfParams} {world : World δ}
    {app : UnlockedApp} {outcome : Except CoreError PasswordChangeOutcome}
    {after : World δ × UnlockedApp}
    (ran : changeMasterPassword old new kdf (world, app) = (outcome, after)) :
    (∃ error, outcome = .error error ∧ after.1.file = world.file ∧ after.2 = app) ∨
      ∃ vault rebuilt kHsm salt, Rekeyed old new kdf world app after vault rebuilt kHsm salt ∧
        ((∃ error, rebuilt.openIndex after.2.kMaster = .error error ∧
            outcome = .error (.vault error)) ∧ after.2.index = app.index ∨
          (∃ value, outcome = .ok value) ∧
            rebuilt.openIndex after.2.kMaster = .ok after.2.index) := by
  rcases gated_cases ran with ⟨rfl, rfl⟩ | ran
  · exact .inl ⟨_, rfl, rfl, rfl⟩
  rcases sameFile_cases (keeps_loadVault sameFile_steps) ran with
    stopped | ⟨vault, loaded, loading, loadedFile, ran⟩
  · exact .inl stopped
  have stored : world.Stores vault := (loadVault_cases loading).2 vault rfl
  have stop {reached : World δ} (file : reached.file = world.file)
      (stopped : ∃ error, outcome = .error error ∧ after.1.file = reached.file ∧ after.2 = app) :
      ∃ error, outcome = .error error ∧ after.1.file = world.file ∧ after.2 = app := by
    obtain ⟨error, failed, same, kept⟩ := stopped
    exact ⟨error, failed, same.trans file, kept⟩
  rcases sameFile_cases (sameFile_unwrapSlotCore _ _) ran with
    stopped | ⟨kHsm, unwrapped, unwrapping, file, ran⟩
  · exact .inl (stop loadedFile stopped)
  have unwrappedFile := file.trans loadedFile
  rcases sameFile_cases (sameFile_deriveMasterFromBytes _ _ _ _) ran with
    stopped | ⟨oldMaster, proved, proving, file, ran⟩
  · exact .inl (stop unwrappedFile stopped)
  have provedFile := file.trans unwrappedFile
  rcases Op.bind_cases ran with ⟨_, checked, probed, ran⟩ | ⟨error, failed, rfl⟩
  swap
  · obtain ⟨_, stopped, _⟩ := Op.mapError_error.mp failed
    obtain ⟨_, rfl⟩ := Prod.mk.inj stopped
    exact .inl ⟨error, rfl, provedFile, rfl⟩
  obtain ⟨probe, rfl⟩ := Prod.mk.inj (Op.mapError_ok.mp probed)
  rcases sameFile_cases (keeps_ask sameFile_steps _) ran with
    stopped | ⟨salt, salted, _, file, ran⟩
  · exact .inl (stop provedFile stopped)
  have saltedFile := file.trans provedFile
  rcases sameFile_cases (sameFile_deriveMasterFromBytes _ _ _ _) ran with
    stopped | ⟨newMaster, derived, derivation, file, ran⟩
  · exact .inl (stop saltedFile stopped)
  have derivedFile := file.trans saltedFile
  rw [Op.get_bind_run] at ran
  rcases sameFile_cases (keeps_reencryptVault sameFile_steps _ _ _ _ _) ran with
    stopped | ⟨rebuilt, reached, rebuilding, file, ran⟩
  · exact .inl (stop derivedFile stopped)
  have reachedFile := file.trans derivedFile
  obtain ⟨_, rebuilds⟩ := reencryptVault_ok rebuilding
  rcases Op.bind_cases ran with ⟨_, _, write, ran⟩ | ⟨error, failed, rfl⟩
  swap
  · obtain ⟨written, writing, rfl⟩ := Op.onFirst_cases failed
    obtain ⟨_, ⟨clash, _⟩ | ⟨_, _, _, rfl⟩⟩ := atomicWrite_cases writing
    · cases clash
    · exact .inl ⟨error, rfl, reachedFile, rfl⟩
  obtain ⟨written, writing, rfl⟩ := Op.onFirst_cases write
  have file : written.file = some rebuilt.toBytes := by
    obtain ⟨_, ⟨_, rfl⟩ | ⟨_, _, clash, _⟩⟩ := atomicWrite_cases writing
    · rfl
    · cases clash
  rw [Op.modify_bind_run] at ran
  right
  cases opens : rebuilt.openIndex newMaster with
  | error error =>
    rw [Op.bind_error (Op.mapError_error.mpr ⟨error, by rw [Op.lift_run, opens], rfl⟩)] at ran
    obtain ⟨rfl, rfl⟩ := Prod.mk.inj ran
    exact ⟨vault, rebuilt, kHsm, salt, ⟨stored, ⟨_, _, unwrapping⟩,
      ⟨oldMaster, _, _, proving, probe⟩, ⟨_, _, derivation⟩, rebuilds, file, rfl⟩,
      .inl ⟨⟨error, opens, rfl⟩, rfl⟩⟩
  | ok rows =>
    rw [Op.bind_ok (Op.mapError_ok.mpr (by rw [Op.lift_run, opens]))] at ran
    obtain ⟨rfl, rfl⟩ := Prod.mk.inj ran
    exact ⟨vault, rebuilt, kHsm, salt, ⟨stored, ⟨_, _, unwrapping⟩,
      ⟨oldMaster, _, _, proving, probe⟩, ⟨_, _, derivation⟩, rebuilds, file, rfl⟩,
      .inr ⟨⟨_, rfl⟩, opens⟩⟩

/-- A successful password change proves the old password against the stored vault, derives a key
from the new one, stores the vault rebuilt under it, and adopts the key and the rows. -/
theorem changeMasterPassword_ok {old new : String} {kdf : KdfParams} {world : World δ}
    {app : UnlockedApp} {outcome : PasswordChangeOutcome} {after : World δ × UnlockedApp}
    (ran : changeMasterPassword old new kdf (world, app) = (.ok outcome, after)) :
    ∃ vault rebuilt kHsm salt available kPw, world.Stores vault ∧
      argon2idWithinMemory new salt.val kdf available = .ok kPw ∧
      after.2.kMaster = hkdfMaster salt.val (kPw.val ++ kHsm) masterInfo ∧
      Vault.Rebuilds app.index app.kMaster after.2.kMaster salt kdf vault rebuilt ∧
      after.1.file = some rebuilt.toBytes ∧
      rebuilt.openIndex after.2.kMaster = .ok after.2.index := by
  rcases changeMasterPassword_cases ran with
    ⟨_, clash, _⟩ | ⟨vault, rebuilt, kHsm, salt, rekeyed, ⟨⟨_, _, clash⟩, _⟩ | ⟨_, opens⟩⟩
  · cases clash
  · cases clash
  · obtain ⟨_, _, derivation⟩ := rekeyed.derived
    obtain ⟨_, kPw, hashed, key⟩ := ((deriveMasterFromBytes_cases derivation).2 _).mp rfl
    exact ⟨vault, rebuilt, kHsm, salt, _, kPw, rekeyed.stored, hashed, key, rekeyed.rebuilds,
      rekeyed.file, opens⟩

end Rekeyings

end Passman
