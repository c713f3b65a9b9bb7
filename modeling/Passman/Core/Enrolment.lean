import Passman.Core.Rebuilt
import Passman.Lib.Run
import Passman.Reference.Device
import Passman.Vault.WrapBlobs

/-!
# Enrolments and the vault file

A creation and a restoration enroll two secrets in the key store and refer to them from the vault
file they write last. The key store offers an invalidation, but no operation calls it, so every
enrolment that was ever made is live. A call keeps every live enrolment referenced exactly when it
stops before its first enrolment, or when none was live before it and its file is written.
-/
namespace Passman

open Bytewise Fallible Transition

/-- The enrolment an effect records. -/
def Effect.enrolment : Effect → Option (HsmSlot × WrappedBlob)
  | enrolled slot blob => some (slot, blob)
  | _ => none

/-- The live enrolments of the key store, newest first: an enrolment mints a new credential and
supersedes none, and no operation invalidates one. -/
def World.enrolments {δ : Type} (world : World δ) : List (HsmSlot × WrappedBlob) :=
  world.trace.filterMap Effect.enrolment

namespace World

variable {δ : Type}

/-- The vault file carries the blob of an enrolment in its slot. -/
def Refers (world : World δ) (slot : HsmSlot) (blob : WrappedBlob) : Prop :=
  ∃ vault : Vault, world.file = some vault.toBytes ∧ (vault.wrapBlob slot).val = blob.toBytes

/-- Every live enrolment is referenced by the vault file. -/
def Tidy (world : World δ) : Prop :=
  ∀ slot blob, (slot, blob) ∈ world.enrolments → world.Refers slot blob

/-- The file is the same, and the enrolments were made on top of those before. -/
def Mints (minted : List (HsmSlot × WrappedBlob)) (before after : World δ) : Prop :=
  after.file = before.file ∧ after.enrolments = minted ++ before.enrolments

/-- The enrolments of a step are neither live before it nor referenced by the file before it. -/
def MintsFresh (before after : World δ) : Prop :=
  ∀ minted, after.enrolments = minted ++ before.enrolments → ∀ slot blob, (slot, blob) ∈ minted →
    (slot, blob) ∉ before.enrolments ∧ ¬ before.Refers slot blob

/-- The same file refers to the same blobs. -/
theorem Refers.of_file {before after : World δ} {slot : HsmSlot} {blob : WrappedBlob}
    (refers : after.Refers slot blob) (file : after.file = before.file) :
    before.Refers slot blob := by
  obtain ⟨vault, stored, carried⟩ := refers
  exact ⟨vault, file.symm.trans stored, carried⟩

/-- A blob that a written file refers to is the one written into it. -/
theorem Refers.of_written {world : World δ} {vault : Vault} {slot : HsmSlot}
    {blob written : WrappedBlob} (refers : world.Refers slot blob)
    (file : world.file = some vault.toBytes)
    (carried : (vault.wrapBlob slot).val = written.toBytes) :
    blob = written := by
  obtain ⟨found, stored, holds⟩ := refers
  have same : found.toBytes = vault.toBytes := Option.some.inj (stored.symm.trans file)
  have bytes : blob.toBytes = written.toBytes := by
    rw [← holds, ← carried, Vault.wrapBlob_of_layout same]
  have parsed := WrappedBlob.fromBytes_toBytes blob
  rw [bytes, WrappedBlob.fromBytes_toBytes] at parsed
  exact (Except.ok.inj parsed).symm

/-- Enrolments accumulate. -/
theorem Mints.trans {early late : List (HsmSlot × WrappedBlob)} {first second third : World δ}
    (before : first.Mints early second) (after : second.Mints late third) :
    first.Mints (late ++ early) third := by
  refine ⟨after.1.trans before.1, ?_⟩
  rw [after.2, before.2, List.append_assoc]

/-- A question to the device changes no enrolments. -/
theorem Mints.device {minted : List (HsmSlot × WrappedBlob)} {before after : World δ}
    (soFar : before.Mints minted after) (device : δ) :
    before.Mints minted { after with device } := soFar

end World

section Quiet

variable {δ ε α β : Type}

/-- Enrolling nothing composes and holds across questions to the device. -/
theorem mintsNothing_steps : Steps (World.Mints (δ := δ) []) where
  refl _ := ⟨rfl, rfl⟩
  trans _ _ _ early late := ⟨late.1.trans early.1, late.2.trans early.2⟩
  device _ _ := ⟨rfl, rfl⟩

/-- An operation that enrolls nothing, run after some enrolments, is passed or leaves them. -/
theorem World.Mints.pass {minted : List (HsmSlot × WrappedBlob)} {first : Act δ ε α}
    {next : α → Act δ ε β} {start before after : World δ} {outcome : Except ε β}
    (soFar : start.Mints minted before) (quiet : Op.Keeps (World.Mints []) first)
    (ran : (first >>= next) before = (outcome, after)) :
    (∃ error, outcome = .error error ∧ start.Mints minted after) ∨
      ∃ value reached, first before = (.ok value, reached) ∧ start.Mints minted reached ∧
        next value reached = (outcome, after) := by
  rcases Op.bind_cases ran with ⟨value, reached, passed, ran⟩ | ⟨error, failed, rfl⟩
  · exact .inr ⟨value, reached, passed, soFar.trans (quiet.ran passed), ran⟩
  · exact .inl ⟨error, rfl, soFar.trans (quiet.ran failed)⟩

/-- Refusing a software backend enrolls nothing. -/
theorem mintsNothing_checkBackendAllowed :
    Op.Keeps (World.Mints []) (checkBackendAllowed : Act δ CoreError Unit) := by
  intro world
  rw [checkBackendAllowed, Op.get_bind_run]
  split <;> exact mintsNothing_steps.refl world

variable [Crates]

/-- An Argon2 computation enrolls nothing. -/
theorem mintsNothing_startArgon2id (password : String) (salt : Bytes) (params : KdfParams)
    (availableKib : Option UInt64) :
    Op.Keeps (World.Mints []) (startArgon2id password salt params availableKib : Act δ _ _) := by
  refine keeps_then mintsNothing_steps (Op.keeps_lift mintsNothing_steps.refl _) fun _ => ?_
  refine keeps_then mintsNothing_steps (fun world => ⟨rfl, rfl⟩) fun _ => ?_
  exact Op.keeps_lift mintsNothing_steps.refl _

/-- Reading a recovery file enrolls nothing. -/
theorem mintsNothing_startImport (file : Bytes) (password : String)
    (availableKib : Option UInt64) :
    Op.Keeps (World.Mints []) (startImport file password availableKib : Act δ _ _) := by
  refine keeps_then mintsNothing_steps (Op.keeps_lift mintsNothing_steps.refl _) fun frame => ?_
  refine keeps_then mintsNothing_steps ?_ fun key => Op.keeps_lift mintsNothing_steps.refl _
  refine keeps_then mintsNothing_steps ?_ fun key => Op.keeps_pure mintsNothing_steps.refl _
  exact Op.keeps_mapError (mintsNothing_startArgon2id _ _ _ _)

variable [Platform δ]

/-- Deriving a master key enrolls nothing. -/
theorem mintsNothing_deriveMaster (password : String) (salt : Block 32) (kdf : KdfParams)
    (kHsm : Key) :
    Op.Keeps (World.Mints []) (deriveMaster password salt kdf kHsm : Act δ _ _) := by
  refine keeps_then mintsNothing_steps (keeps_ask mintsNothing_steps _) fun available => ?_
  refine keeps_then mintsNothing_steps ?_ fun key => Op.keeps_pure mintsNothing_steps.refl _
  exact Op.keeps_mapError (mintsNothing_startArgon2id _ _ _ _)

/-- Importing an entry enrolls nothing. -/
theorem mintsNothing_importEntry (kMaster : MasterKey) (vault : Vault) (entry : RecoveryEntry) :
    Op.Keeps (World.Mints []) (importEntry kMaster vault entry : Act δ _ _) := by
  refine keeps_then mintsNothing_steps (Op.keeps_lift mintsNothing_steps.refl _) fun parts => ?_
  exact keeps_putEntry mintsNothing_steps _ _ _ _ _ _

omit [Crates] in
/-- An enrolment fails without effect or is recorded. -/
theorem enrollSlot_cases {slot : HsmSlot} {material : Bytes} {before after : World δ}
    {outcome : Except CoreError WrappedBlob}
    (ran : enrollSlot slot material before = (outcome, after)) :
    (∃ error, outcome = .error error ∧ before.Mints [] after) ∨
      ∃ blob, outcome = .ok blob ∧ before.Mints [(slot, blob)] after := by
  have quiet : Op.Keeps (World.Mints [])
      (Op.mapError .hsm (askFallible (Platform.enroll slot material)) : Act δ CoreError _) :=
    Op.keeps_mapError (keeps_askFallible mintsNothing_steps _)
  rcases (mintsNothing_steps.refl before).pass quiet ran with
    stopped | ⟨blob, reached, enrolled, soFar, ran⟩
  · exact .inl stopped
  · obtain ⟨rfl, rfl⟩ := Prod.mk.inj ran
    refine .inr ⟨blob, rfl, soFar.1, ?_⟩
    exact congrArg ((slot, blob) :: ·) soFar.2

end Quiet

section Calls

/-- A call that founds a vault. -/
inductive FoundingCall where
  /-- Create a vault. -/
  | createVault (password : String) (kdf : KdfParams) (config : TotpConfig)
  /-- Restore a vault from a recovery file. -/
  | importRecovery (file : Bytes) (password : String) (kdf : KdfParams) (config : TotpConfig)

/-- What a vault is founded from once its hardware key was enrolled. -/
structure Founding where
  /-- The master password. -/
  password : String
  /-- The key-derivation parameters. -/
  kdf : KdfParams
  /-- The TOTP configuration. -/
  config : TotpConfig
  /-- The hardware key. -/
  kHsm : Key
  /-- The TOTP seed. -/
  seed : Key
  /-- The entries to restore. -/
  entries : List RecoveryEntry
  /-- The enrolled hardware key. -/
  kHsmBlob : WrappedBlob

variable {δ : Type} [Platform δ] [Crates]

/-- Perform the call. -/
def FoundingCall.perform : FoundingCall → Act δ CoreError (UnlockedApp × String)
  | createVault password kdf config => Passman.createVault password kdf config
  | importRecovery file password kdf config => Passman.importRecovery file password kdf config

/-- The part of a call up to its first enrolment. -/
def FoundingCall.prepare : FoundingCall → Act δ CoreError Founding
  | createVault password kdf config => do
    checkBackendAllowed
    let kHsm ← ask (Platform.randomBlock 32)
    let seed ← ask (Platform.randomBlock 32)
    let kHsmBlob ← enrollSlot .vaultKey kHsm.val
    return ⟨password, kdf, config, kHsm, seed, [], kHsmBlob⟩
  | importRecovery file password kdf config => do
    checkBackendAllowed
    let available ← ask Platform.availableMemoryKib
    let payload ← Op.mapError .recovery (startImport file password available)
    let kHsm ← ask (Platform.randomBlock 32)
    let kHsmBlob ← enrollSlot .vaultKey kHsm.val
    return ⟨password, kdf, config, kHsm, payload.totpSeed, payload.entries, kHsmBlob⟩

/-- The part of a call from its second enrolment to the write of the vault file. -/
def Founding.store (founding : Founding) : Act δ CoreError (MasterKey × Vault) := do
  let seedBlob ← enrollSlot .totpSeed founding.seed.val
  let salt ← ask (Platform.randomBlock 32)
  let kMaster ← deriveMaster founding.password salt founding.kdf founding.kHsm
  let metadata ← nowUnixSecs
  let created ← createSealed founding.kdf salt founding.kHsmBlob.toBytes seedBlob.toBytes
    (.new metadata) kMaster
  let vault ← founding.entries.foldlM (importEntry kMaster) created
  atomicWrite vault.toBytes
  return (kMaster, vault)

/-- The part of a call behind the write of the vault file. -/
def Founding.openSession (founding : Founding) (kMaster : MasterKey) (vault : Vault) :
    Act δ CoreError (UnlockedApp × String) := do
  setTotpConfig founding.config
  let index ← Op.mapError .vault (Op.lift (vault.openIndex kMaster))
  let unlocked ← buildUnlocked kMaster founding.seed.val index
  return (unlocked, buildProvisioningUri founding.seed founding.config)

/-- A call prepares, stores and opens a session. -/
theorem FoundingCall.perform_parts (call : FoundingCall) :
    (call.perform : Act δ CoreError _) = (do
      let founding ← call.prepare
      let (kMaster, vault) ← founding.store
      founding.openSession kMaster vault) := by
  cases call with
  | createVault password kdf config =>
    simp only [perform, prepare, Passman.createVault, Founding.store, Founding.openSession,
      bind_assoc, pure_bind, List.foldlM_nil]
  | importRecovery file password kdf config =>
    simp only [perform, prepare, Passman.importRecovery, Founding.store, Founding.openSession,
      bind_assoc, pure_bind]

/-- The world a call leaves. -/
def FoundingCall.step (call : FoundingCall) (world : World δ) : World δ := (call.perform world).2

/-- The call stops before its first enrolment. -/
def FoundingCall.Stops (call : FoundingCall) (world : World δ) : Prop :=
  ∃ error, (call.prepare world).1 = .error error

/-- Every step of the call up to the write of the vault file succeeds. -/
def FoundingCall.Stores (call : FoundingCall) (world : World δ) : Prop :=
  ∃ stored, ((call.prepare >>= Founding.store) world).1 = .ok stored

/-- The call stops before its first enrolment, or finds no live enrolment and stores its vault. -/
def FoundingCall.Spares (world : World δ) (call : FoundingCall) : Prop :=
  call.Stops world ∨ (world.enrolments = [] ∧ call.Stores world)

/-- Preparing a call fails before its first enrolment or makes that enrolment. -/
theorem FoundingCall.prepare_cases {call : FoundingCall} {before after : World δ}
    {outcome : Except CoreError Founding} (ran : call.prepare before = (outcome, after)) :
    (∃ error, outcome = .error error ∧ before.Mints [] after) ∨
      ∃ founding, outcome = .ok founding ∧
        before.Mints [(.vaultKey, founding.kHsmBlob)] after := by
  have enrolled {founding : WrappedBlob → Founding} {material : Bytes} {reached : World δ}
      (soFar : before.Mints [] reached) (carries : ∀ blob, (founding blob).kHsmBlob = blob)
      (ran : (enrollSlot .vaultKey material >>= fun blob => pure (founding blob)) reached =
        (outcome, after)) :
      (∃ error, outcome = .error error ∧ before.Mints [] after) ∨
        ∃ founding, outcome = .ok founding ∧
          before.Mints [(.vaultKey, founding.kHsmBlob)] after := by
    rcases Op.bind_cases ran with ⟨blob, later, enrolling, ran⟩ | ⟨error, failed, rfl⟩
    · obtain ⟨rfl, rfl⟩ := Prod.mk.inj ran
      rcases enrollSlot_cases enrolling with ⟨_, clash, _⟩ | ⟨found, same, minted⟩
      · cases clash
      · obtain rfl := Except.ok.inj same
        refine .inr ⟨_, rfl, ?_⟩
        rw [carries]
        exact soFar.trans minted
    · rcases enrollSlot_cases failed with ⟨_, _, minted⟩ | ⟨_, clash, _⟩
      · exact .inl ⟨error, rfl, soFar.trans minted⟩
      · cases clash
  have start := mintsNothing_steps.refl before
  cases call with
  | createVault password kdf config =>
    rcases start.pass mintsNothing_checkBackendAllowed ran with
      stopped | ⟨_, reached, _, soFar, ran⟩
    · exact .inl stopped
    rw [ask_bind_run, ask_bind_run] at ran
    exact enrolled ((soFar.device _).device _) (fun _ => rfl) ran
  | importRecovery file password kdf config =>
    rcases start.pass mintsNothing_checkBackendAllowed ran with
      stopped | ⟨_, reached, _, soFar, ran⟩
    · exact .inl stopped
    rw [ask_bind_run] at ran
    rcases (soFar.device _).pass (Op.keeps_mapError (mintsNothing_startImport _ _ _)) ran with
      stopped | ⟨payload, later, _, soFar, ran⟩
    · exact .inl stopped
    rw [ask_bind_run] at ran
    exact enrolled (soFar.device _) (fun _ => rfl) ran

/-- A vault is stored on top of some enrolments: the file holds it, with the blob of the prepared
enrolment and that of one more. -/
structure Founding.Stored (founding : Founding) (before after : World δ) (vault : Vault)
    (seedBlob : WrappedBlob) : Prop where
  /-- The file holds the vault. -/
  file : after.file = some vault.toBytes
  /-- The seed was enrolled. -/
  enrolments : after.enrolments = (.totpSeed, seedBlob) :: before.enrolments
  /-- The vault carries the enrolled hardware key. -/
  key : (vault.wrapBlob .vaultKey).val = founding.kHsmBlob.toBytes
  /-- The vault carries the enrolled seed. -/
  seed : (vault.wrapBlob .totpSeed).val = seedBlob.toBytes

/-- Storing a founded vault fails with the file unchanged, or stores it with both blobs. -/
theorem Founding.store_cases {founding : Founding} {before after : World δ}
    {outcome : Except CoreError (MasterKey × Vault)}
    (ran : founding.store before = (outcome, after)) :
    (∃ error, outcome = .error error ∧ ∃ minted, before.Mints minted after) ∨
      ∃ kMaster vault seedBlob, outcome = .ok (kMaster, vault) ∧
        founding.Stored before after vault seedBlob := by
  rcases Op.bind_cases ran with ⟨seedBlob, enrolled, enrolling, ran⟩ | ⟨error, failed, rfl⟩
  swap
  · rcases enrollSlot_cases failed with ⟨_, _, minted⟩ | ⟨_, clash, _⟩
    · exact .inl ⟨error, rfl, [], minted⟩
    · cases clash
  have soFar : before.Mints [(.totpSeed, seedBlob)] enrolled := by
    rcases enrollSlot_cases enrolling with ⟨_, clash, _⟩ | ⟨_, same, minted⟩
    · cases clash
    · obtain rfl := Except.ok.inj same
      exact minted
  have stop {reached : World δ} (stopped : ∃ error, outcome = .error error ∧
      before.Mints [(.totpSeed, seedBlob)] reached) : ∃ error, outcome = .error error ∧
        ∃ minted, before.Mints minted reached := by
    obtain ⟨error, failed, minted⟩ := stopped
    exact ⟨error, failed, _, minted⟩
  rw [ask_bind_run] at ran
  rcases (soFar.device _).pass (mintsNothing_deriveMaster _ _ _ _) ran with
    stopped | ⟨kMaster, derived, _, soFar, ran⟩
  · exact .inl (stop stopped)
  have stamping : Op.Keeps (World.Mints []) (nowUnixSecs : Act δ CoreError _) :=
    keeps_then mintsNothing_steps (keeps_ask mintsNothing_steps _) fun _ =>
      Op.keeps_pure mintsNothing_steps.refl _
  rcases soFar.pass stamping ran with stopped | ⟨metadata, stamped, _, soFar, ran⟩
  · exact .inl (stop stopped)
  rcases soFar.pass (keeps_createSealed mintsNothing_steps _ _ _ _ _ _) ran with
    stopped | ⟨created, fresh, making, soFar, ran⟩
  · exact .inl (stop stopped)
  rcases soFar.pass
    (keeps_foldlM mintsNothing_steps (mintsNothing_importEntry kMaster) _ _) ran with
    stopped | ⟨vault, filled, inserted, soFar, ran⟩
  · exact .inl (stop stopped)
  rcases Op.bind_cases ran with ⟨_, written, writing, ran⟩ | ⟨error, failed, rfl⟩
  swap
  · obtain ⟨device, ⟨clash, _⟩ | ⟨_, _, _, rfl⟩⟩ := atomicWrite_cases failed
    · cases clash
    · exact .inl (stop ⟨error, rfl, soFar.1, soFar.2⟩)
  obtain ⟨rfl, rfl⟩ := Prod.mk.inj ran
  obtain ⟨_, probeNonce, indexNonce, made⟩ := createSealed_ok making
  obtain ⟨_, _, _, _, keyStored, seedStored, _, _, rfl⟩ := Vault.create_ok_iff.mp made
  obtain ⟨_, items, _, puts⟩ :=
    putItems_ok (importEntry kMaster) (fun _ _ _ _ _ => importEntry_ok) inserted
  have header := puts.header
  obtain ⟨device, ⟨_, rfl⟩ | ⟨_, _, clash, _⟩⟩ := atomicWrite_cases writing
  swap
  · cases clash
  refine .inr ⟨kMaster, vault, seedBlob, rfl, rfl, soFar.2, ?_, ?_⟩
  · rw [header]
    exact keyStored
  · rw [header]
    exact seedStored

/-- Opening a session enrolls nothing. -/
theorem Founding.openSession_quiet (founding : Founding) (kMaster : MasterKey) (vault : Vault) :
    Op.Keeps (World.Mints []) (founding.openSession kMaster vault : Act δ _ _) := by
  refine keeps_then mintsNothing_steps (fun world => ⟨rfl, rfl⟩) fun _ => ?_
  refine keeps_then mintsNothing_steps ?_ fun index => ?_
  · exact Op.keeps_mapError (Op.keeps_lift mintsNothing_steps.refl _)
  · exact keeps_then mintsNothing_steps (keeps_buildUnlocked mintsNothing_steps _ _ _) fun _ =>
      Op.keeps_pure mintsNothing_steps.refl _

/-- A vault file was written with the blobs of two new enrolments. -/
structure World.Refounded (before after : World δ) (vault : Vault)
    (keyBlob seedBlob : WrappedBlob) : Prop where
  /-- The file holds the vault. -/
  file : after.file = some vault.toBytes
  /-- Both secrets were enrolled. -/
  enrolments : after.enrolments = (.totpSeed, seedBlob) :: (.vaultKey, keyBlob) :: before.enrolments
  /-- The vault carries the enrolled hardware key. -/
  key : (vault.wrapBlob .vaultKey).val = keyBlob.toBytes
  /-- The vault carries the enrolled seed. -/
  seed : (vault.wrapBlob .totpSeed).val = seedBlob.toBytes

/-- A call stops before its first enrolment and leaves no trace of one, fails later and leaves its
enrolments beside an unchanged file, or writes a file that refers to both. -/
theorem FoundingCall.step_cases (call : FoundingCall) (world : World δ) :
    (call.Stops world ∧ world.Mints [] (call.step world)) ∨
      (¬ call.Stops world ∧
        ((¬ call.Stores world ∧ ∃ minted blob,
            world.Mints (minted ++ [(.vaultKey, blob)]) (call.step world)) ∨
          (call.Stores world ∧ ∃ vault keyBlob seedBlob,
            world.Refounded (call.step world) vault keyBlob seedBlob))) := by
  unfold step
  rw [call.perform_parts]
  rcases prepared : call.prepare world with ⟨outcome, reached⟩
  rcases prepare_cases prepared with ⟨error, rfl, quiet⟩ | ⟨founding, rfl, enrolled⟩
  · left
    rw [Op.bind_error prepared]
    exact ⟨⟨error, congrArg Prod.fst prepared⟩, quiet⟩
  right
  have passes : ¬ call.Stops world := by
    rintro ⟨error, stopped⟩
    rw [prepared] at stopped
    cases stopped
  refine ⟨passes, ?_⟩
  rw [Op.bind_ok prepared]
  rcases stored : founding.store reached with ⟨outcome, written⟩
  rcases founding.store_cases stored with
    ⟨error, rfl, minted, gained⟩ | ⟨kMaster, vault, seedBlob, rfl, founded⟩
  · left
    rw [Op.bind_error stored]
    refine ⟨?_, minted, founding.kHsmBlob, enrolled.trans gained⟩
    rintro ⟨result, succeeded⟩
    rw [Op.bind_ok prepared, stored] at succeeded
    cases succeeded
  · right
    rw [Op.bind_ok stored]
    have opened := founding.openSession_quiet kMaster vault written
    refine ⟨⟨(kMaster, vault), ?_⟩, vault, founding.kHsmBlob, seedBlob, ?_⟩
    · rw [Op.bind_ok prepared, stored]
    · refine ⟨opened.1.trans founded.file, ?_, founded.key, founded.seed⟩
      rw [opened.2, List.nil_append, founded.enrolments, enrolled.2]
      rfl

/-- A call that spares the key store keeps every live enrolment referenced. -/
theorem FoundingCall.step_tidy {call : FoundingCall} {world : World δ} (tidy : world.Tidy)
    (spares : call.Spares world) : (call.step world).Tidy := by
  rcases call.step_cases world with ⟨_, quiet⟩ | ⟨passes, failed | ⟨_, founded⟩⟩
  · intro slot blob live
    rw [quiet.2] at live
    exact (tidy slot blob live).of_file quiet.1.symm
  · rcases spares with stops | ⟨_, stores⟩
    · exact absurd stops passes
    · exact absurd stores failed.1
  · rcases spares with stops | ⟨none, _⟩
    · exact absurd stops passes
    obtain ⟨vault, keyBlob, seedBlob, founded⟩ := founded
    intro slot blob live
    rw [founded.enrolments, none] at live
    simp only [List.mem_cons, List.not_mem_nil, or_false, Prod.mk.injEq] at live
    rcases live with ⟨rfl, rfl⟩ | ⟨rfl, rfl⟩
    · exact ⟨vault, founded.file, founded.seed⟩
    · exact ⟨vault, founded.file, founded.key⟩

/-- Where the key store mints fresh blobs, a call that keeps every live enrolment referenced spares
the key store. -/
theorem FoundingCall.spares_of_tidy {call : FoundingCall} {world : World δ}
    (fresh : world.MintsFresh (call.step world)) (tidy : (call.step world).Tidy) :
    call.Spares world := by
  rcases call.step_cases world with ⟨stops, _⟩ | ⟨_, ⟨_, failed⟩ | ⟨stores, founded⟩⟩
  · exact .inl stops
  · -- The first enrolment is live, and the file is the one from before it.
    obtain ⟨minted, blob, gained⟩ := failed
    have new : (HsmSlot.vaultKey, blob) ∈ minted ++ [(.vaultKey, blob)] := by simp
    have live : (HsmSlot.vaultKey, blob) ∈ (call.step world).enrolments := by
      rw [gained.2]
      exact List.mem_append_left _ new
    have referred := (tidy .vaultKey blob live).of_file gained.1
    exact absurd referred (fresh _ gained.2 _ _ new).2
  · obtain ⟨vault, keyBlob, seedBlob, founded⟩ := founded
    refine .inr ⟨?_, stores⟩
    rw [List.eq_nil_iff_forall_not_mem]
    rintro ⟨slot, blob⟩ old
    -- An older enrolment that is still referenced would be one of the two new ones.
    have live : (slot, blob) ∈ (call.step world).enrolments := by
      rw [founded.enrolments]
      exact List.mem_cons_of_mem _ (List.mem_cons_of_mem _ old)
    have minted := fresh [(.totpSeed, seedBlob), (.vaultKey, keyBlob)] founded.enrolments
    have referred := tidy slot blob live
    cases slot with
    | vaultKey =>
      have same := referred.of_written founded.file founded.key
      exact (minted .vaultKey keyBlob (by simp)).1 (same ▸ old)
    | totpSeed =>
      have same := referred.of_written founded.file founded.seed
      exact (minted .totpSeed seedBlob (by simp)).1 (same ▸ old)

/-- In a run of creations and restorations that starts with every live enrolment referenced, every
live enrolment stays referenced when each call stops before its first enrolment or finds none live
and stores its vault; where the key store mints fresh blobs, only then. -/
theorem enrolments_stay_referenced_iff (calls : List FoundingCall) (start : World δ)
    (tidy : start.Tidy) :
    let step (world : World δ) (call : FoundingCall) := call.step world
    (Along step (fun world call => call.Spares world) start calls →
        Along step (fun world call => (call.step world).Tidy) start calls) ∧
      (Along step (fun world call => world.MintsFresh (call.step world)) start calls →
        Along step (fun world call => (call.step world).Tidy) start calls →
        Along step (fun world call => call.Spares world) start calls) := by
  intro step
  constructor
  · intro spared
    induction calls generalizing start with
    | nil => trivial
    | cons call rest ih =>
      have kept := FoundingCall.step_tidy tidy spared.1
      exact ⟨kept, ih _ kept spared.2⟩
  · intro fresh referenced
    induction calls generalizing start with
    | nil => trivial
    | cons call rest ih =>
      have kept := referenced.1
      exact ⟨FoundingCall.spares_of_tidy fresh.1 kept, ih _ kept fresh.2 referenced.2⟩

end Calls

namespace Reference

/-- The reference device with a second prompt that the user cancels. -/
@[reducible] def cancellingSeed : Platform Device :=
  { platform with
    enroll := fun slot material device =>
      match slot with
      | .vaultKey => platform.enroll .vaultKey material device
      | .totpSeed => (.error .cancelled, device) }

/-- The creation of the examples. -/
def firstCreation : FoundingCall := .createVault "pw" kdfParams .default

/-- A freshly opened instance has no enrolments to reference. -/
theorem world_tidy : world.Tidy := by
  intro slot blob live
  cases live

end Reference

/-- A creation that finds no live enrolment and stores its vault keeps both of its own
referenced. -/
theorem enrolments_stay_referenced_reference :
    letI := Reference.crates
    Reference.world.Tidy ∧ (Reference.firstCreation.step Reference.world).Tidy := by
  let _ := Reference.crates
  refine ⟨Reference.world_tidy, ?_⟩
  have returned :
      ((Reference.firstCreation.prepare >>= Founding.store) Reference.world).1.toOption.isSome =
        true := by decide +kernel
  obtain ⟨stored, some⟩ := Option.isSome_iff_exists.mp returned
  have stores : Reference.firstCreation.Stores Reference.world := ⟨stored, Op.ok_of_returned some⟩
  have kept := enrolments_stay_referenced_iff [Reference.firstCreation] Reference.world
    Reference.world_tidy
  exact (kept.1 ⟨.inr ⟨rfl, stores⟩, trivial⟩).1

/-- A creation whose second prompt is cancelled leaves the first enrolment live without a vault
file. -/
theorem cancelled_creation_orphans :
    letI := Reference.crates
    letI := Reference.cancellingSeed
    Reference.world.Tidy ∧
      (Reference.firstCreation.perform Reference.world).1.toOption.isNone ∧
      (Reference.firstCreation.step Reference.world).file = none ∧
      (Reference.firstCreation.step Reference.world).enrolments.map Prod.fst = [.vaultKey] ∧
      ¬ (Reference.firstCreation.step Reference.world).Tidy := by
  let _ := Reference.crates
  let _ := Reference.cancellingSeed
  have file : (Reference.firstCreation.step Reference.world).file = none := by decide +kernel
  have slots :
      (Reference.firstCreation.step Reference.world).enrolments.map Prod.fst = [.vaultKey] := by
    decide +kernel
  refine ⟨Reference.world_tidy, by decide +kernel, file, slots, fun tidy => ?_⟩
  have named : HsmSlot.vaultKey ∈
      (Reference.firstCreation.step Reference.world).enrolments.map Prod.fst := by
    rw [slots]
    exact List.mem_singleton_self _
  obtain ⟨⟨slot, blob⟩, live, _⟩ := List.mem_map.mp named
  obtain ⟨vault, stored, _⟩ := tidy slot blob live
  rw [file] at stored
  cases stored

end Passman
