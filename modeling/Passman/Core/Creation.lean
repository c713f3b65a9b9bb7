import Passman.Core.Attempt
import Passman.Vault.Changes

/-!
# What a created vault is

A creation and a restoration found a vault in the same way: both secrets are enrolled, a
master key is derived, an empty vault is sealed under it, and the vault that results is stored
and opened as a session. A restoration puts the entries of the recovery file in between.
-/
namespace Passman

open Bytewise Fallible

section Creation

variable {δ : Type} [Platform δ] [Crates]

omit [Platform δ] [Crates] in
/-- A permitted backend is only looked at. -/
theorem checkBackendAllowed_ok {before after : World δ}
    (ran : checkBackendAllowed before = (.ok (), after)) : after = before := by
  rw [checkBackendAllowed, Op.get_bind_run] at ran
  split at ran
  · cases ran
  · exact (Prod.mk.inj ran).2.symm

/-- A vault created in memory is a freshly sealed one. -/
theorem createSealed_ok {kdf : KdfParams} {salt : Block 32} {kHsmBlob seedBlob : Bytes}
    {metadata : VaultMetadata} {kMaster : MasterKey} {before after : World δ} {vault : Vault}
    (ran : createSealed kdf salt kHsmBlob seedBlob metadata kMaster before = (.ok vault, after)) :
    (∃ device, after = { before with device }) ∧ ∃ probeNonce indexNonce,
      Vault.create kdf salt kHsmBlob seedBlob metadata kMaster probeNonce indexNonce =
        .ok vault := by
  rw [createSealed, ask_bind_run, ask_bind_run] at ran
  obtain ⟨made, rfl⟩ := Prod.mk.inj (Op.mapError_ok.mp ran)
  exact ⟨⟨_, rfl⟩, _, _, made⟩

omit [Crates] in
/-- An enrollment returns what the key store answered and records it. -/
theorem enrollSlot_ok {slot : HsmSlot} {material : Bytes} {before after : World δ}
    {blob : WrappedBlob} (ran : enrollSlot slot material before = (.ok blob, after)) :
    (Platform.enroll slot material before.device).1 = .ok blob ∧ after.file = before.file ∧
      after.trace = .enrolled slot blob :: before.trace := by
  obtain ⟨found, reached, enrolled, rest⟩ := Op.bind_ok_cases ran
  obtain ⟨answered, rfl⟩ := Prod.mk.inj (Op.mapError_ok.mp enrolled)
  obtain ⟨returned, rfl⟩ := Prod.mk.inj rest
  obtain rfl := Except.ok.inj returned
  exact ⟨answered, rfl, rfl⟩

/-- How a vault is founded: both secrets are enrolled, the master key is derived from the password
and the first secret, and an empty vault is sealed under it. -/
structure Founded (δ : Type) [Platform δ] (password : String) (kdf : KdfParams) (kHsm seed : Key)
    (kHsmBlob seedBlob : WrappedBlob) (kMaster : MasterKey) (created : Vault) : Prop where
  /-- The first secret was enrolled. -/
  keyEnrolled : ∃ device : δ, (Platform.enroll .vaultKey kHsm.val device).1 = .ok kHsmBlob
  /-- The seed was enrolled. -/
  seedEnrolled : ∃ device : δ, (Platform.enroll .totpSeed seed.val device).1 = .ok seedBlob
  /-- The key was derived and the vault sealed under it. -/
  sealedUnder : ∃ salt available kPw changedAt probeNonce indexNonce,
    argon2idWithinMemory password salt.val kdf available = .ok kPw ∧
    kMaster = hkdfMaster salt.val (kPw.val ++ kHsm.val) masterInfo ∧
    Vault.create kdf salt kHsmBlob.toBytes seedBlob.toBytes (.new changedAt) kMaster probeNonce
      indexNonce = .ok created

/-- The run enrolled the blob of the vault key and then the blob of the seed. -/
def World.Enrolls (before after : World δ) (kHsmBlob seedBlob : WrappedBlob) : Prop :=
  ∃ late early, after.trace = late ++ .enrolled .totpSeed seedBlob ::
    .enrolled .vaultKey kHsmBlob :: (early ++ before.trace)

/-- What founds a vault stores nothing, and goes on with the key and the empty vault. -/
theorem found_ok {β : Type} {password : String} {kdf : KdfParams} {kHsm seed : Key}
    {next : MasterKey → Vault → Act δ CoreError β} {before after : World δ} {result : β}
    (ran : (do
      let kHsmBlob ← enrollSlot .vaultKey kHsm.val
      let seedBlob ← enrollSlot .totpSeed seed.val
      let salt ← ask (Platform.randomBlock 32)
      let kMaster ← deriveMaster password salt kdf kHsm
      let metadata ← nowUnixSecs
      let created ← createSealed kdf salt kHsmBlob.toBytes seedBlob.toBytes (.new metadata) kMaster
      next kMaster created) before = (.ok result, after)) :
    ∃ kHsmBlob seedBlob kMaster created, ∃ reached : World δ,
      Founded δ password kdf kHsm seed kHsmBlob seedBlob kMaster created ∧
      reached.file = before.file ∧ before.Enrolls reached kHsmBlob seedBlob ∧
      next kMaster created reached = (.ok result, after) := by
  obtain ⟨kHsmBlob, first, keyEnrolled, ran⟩ := Op.bind_ok_cases ran
  obtain ⟨keyAnswered, keyFile, keyTrace⟩ := enrollSlot_ok keyEnrolled
  obtain ⟨seedBlob, second, seedEnrolled, ran⟩ := Op.bind_ok_cases ran
  obtain ⟨seedAnswered, seedFile, seedTrace⟩ := enrollSlot_ok seedEnrolled
  rw [ask_bind_run] at ran
  generalize (Platform.randomBlock 32 second.device).1 = salt at ran
  obtain ⟨kMaster, third, derived, ran⟩ := Op.bind_ok_cases ran
  obtain ⟨marks, _, started⟩ := deriveMaster_run password salt kdf kHsm
    { second with device := (Platform.randomBlock 32 second.device).2 }
  obtain ⟨key, rfl⟩ := Prod.mk.inj (started.symm.trans derived)
  obtain ⟨kPw, hashed, rfl⟩ := masterKey_ok_iff.mp key
  obtain ⟨changedAt, fourth, stamped, ran⟩ := Op.bind_ok_cases ran
  obtain ⟨_, rfl⟩ := Prod.mk.inj stamped
  obtain ⟨created, fifth, made, ran⟩ := Op.bind_ok_cases ran
  obtain ⟨⟨device, rfl⟩, probeNonce, indexNonce, sealing⟩ := createSealed_ok made
  refine ⟨kHsmBlob, seedBlob, _, created, _, ⟨⟨_, keyAnswered⟩, ⟨_, seedAnswered⟩, salt, _, kPw, _,
    probeNonce, indexNonce, hashed, rfl, sealing⟩, ?_, ⟨marks, [], ?_⟩, ran⟩
  · exact seedFile.trans keyFile
  · change marks ++ second.trace = _
    rw [seedTrace, keyTrace, List.nil_append]

/-- How a session was opened on a vault that was just stored. -/
structure Installed (config : TotpConfig) (kMaster : MasterKey) (seed : Key) (vault : Vault)
    (app : UnlockedApp) (uri : String) (after : World δ) : Prop where
  /-- The session keeps the key. -/
  sessionKey : app.kMaster = kMaster
  /-- The session keeps the seed. -/
  sessionSeed : app.totpSeed = seed.val
  /-- The session keeps the index. -/
  index : vault.openIndex kMaster = .ok app.index
  /-- The file holds the vault. -/
  file : after.file = some vault.toBytes
  /-- The address provisions the seed under the configuration. -/
  address : uri = buildProvisioningUri seed config

/-- Storing a vault and opening a session on it. -/
theorem install_ok {config : TotpConfig} {kMaster : MasterKey} {seed : Key} {vault : Vault}
    {before after : World δ} {app : UnlockedApp} {uri : String}
    (ran : (do
      atomicWrite vault.toBytes
      setTotpConfig config
      let index ← Op.mapError .vault (Op.lift (vault.openIndex kMaster))
      let unlocked ← buildUnlocked kMaster seed.val index
      return (unlocked, buildProvisioningUri seed config) : Act δ CoreError _) before =
        (.ok (app, uri), after)) :
    Installed config kMaster seed vault app uri after ∧
      after.trace = .written vault.toBytes true :: before.trace := by
  obtain ⟨_, stored, wrote, ran⟩ := Op.bind_ok_cases ran
  obtain ⟨device, ⟨_, rfl⟩ | ⟨_, _, clash, _⟩⟩ := atomicWrite_cases wrote
  · obtain ⟨_, recorded, set, ran⟩ := Op.bind_ok_cases ran
    obtain ⟨_, rfl⟩ := Prod.mk.inj set
    obtain ⟨index, _, opened, ran⟩ := Op.bind_ok_cases ran
    obtain ⟨opens, rfl⟩ := Prod.mk.inj (Op.mapError_ok.mp opened)
    rw [buildUnlocked, clockNow] at ran
    obtain ⟨same, rfl⟩ := Prod.mk.inj ran
    obtain ⟨rfl, rfl⟩ := Prod.mk.inj (Except.ok.inj same)
    exact ⟨⟨rfl, rfl, opens, rfl, rfl⟩, rfl⟩
  · cases clash

/-- A successful creation founds a vault, stores it and opens a session on it. -/
theorem createVault_founded {password : String} {kdf : KdfParams} {config : TotpConfig}
    {before after : World δ} {app : UnlockedApp} {uri : String}
    (ran : createVault password kdf config before = (.ok (app, uri), after)) :
    ∃ kHsm seed kHsmBlob seedBlob kMaster vault,
      Founded δ password kdf kHsm seed kHsmBlob seedBlob kMaster vault ∧
      Installed config kMaster seed vault app uri after ∧
      before.Enrolls after kHsmBlob seedBlob := by
  obtain ⟨_, permitted, allowed, ran⟩ := Op.bind_ok_cases ran
  rw [checkBackendAllowed_ok allowed, ask_bind_run, ask_bind_run] at ran
  obtain ⟨kHsmBlob, seedBlob, kMaster, vault, reached, founded, _, ⟨late, early, traced⟩, ran⟩ :=
    found_ok ran
  obtain ⟨installed, written⟩ := install_ok ran
  refine ⟨_, _, kHsmBlob, seedBlob, kMaster, vault, founded, installed,
    .written vault.toBytes true :: late, early, ?_⟩
  rw [written, traced]
  rfl

/-- A successful creation stores a fresh vault under checked parameters and opens a session on
it. -/
theorem createVault_ok {password : String} {kdf : KdfParams} {config : TotpConfig}
    {before after : World δ} {app : UnlockedApp} {uri : String}
    (ran : createVault password kdf config before = (.ok (app, uri), after)) :
    kdf.withinLimits = true ∧ ∃ salt kHsmBlob seedBlob metadata probeNonce indexNonce vault,
      Vault.create kdf salt kHsmBlob seedBlob metadata app.kMaster probeNonce indexNonce =
        .ok vault ∧ vault.openIndex app.kMaster = .ok app.index ∧
      after.file = some vault.toBytes := by
  obtain ⟨_, _, kHsmBlob, seedBlob, kMaster, vault, founded, installed, _⟩ :=
    createVault_founded ran
  obtain ⟨salt, _, _, _, probeNonce, indexNonce, hashed, _, made⟩ := founded.sealedUnder
  rw [← installed.sessionKey] at made
  refine ⟨(argon2idWithinMemory_eq_ok.mp hashed).1, salt, _, _, _, probeNonce, indexNonce, vault,
    made, ?_, installed.file⟩
  rw [installed.sessionKey]
  exact installed.index

end Creation

end Passman
