import Passman.Core.Unlocked

/-!
# What the operations are made of

Every operation is built from a few primitive steps: questions to the device, recorded
effects, stored files and lockout states, checked codes and recorded configurations. A
relation between worlds that holds across the primitive steps of an operation and
composes holds across the operation, whatever its outcome.
-/
namespace Passman

open Bytewise Fallible Words

variable {δ ε α : Type}

/-- The amount of memory is one the device reports. -/
def Measured (δ : Type) [Platform δ] (availableKib : Option UInt64) : Prop :=
  ∃ device : δ, (Platform.availableMemoryKib device).1 = availableKib

section Parts

variable [Platform δ] [Crates]

/-- The part of a creation in front of the change of configuration. -/
def createStored (password : String) (kdf : KdfParams) :
    Act δ CoreError (Vault × MasterKey × Key) := do
  checkBackendAllowed
  let kHsm ← ask (Platform.randomBlock 32)
  let seed ← ask (Platform.randomBlock 32)
  let kHsmBlob ← enrollSlot .vaultKey kHsm.val
  let seedBlob ← enrollSlot .totpSeed seed.val
  let salt ← ask (Platform.randomBlock 32)
  let kMaster ← deriveMaster password salt kdf kHsm
  let metadata ← nowUnixSecs
  let vault ← createSealed kdf salt kHsmBlob.toBytes seedBlob.toBytes (.new metadata) kMaster
  atomicWrite vault.toBytes
  return (vault, kMaster, seed)

/-- The part of a restoration in front of the change of configuration. -/
def restoreStored (file : Bytes) (password : String) (kdf : KdfParams) :
    Act δ CoreError (Vault × MasterKey × Key) := do
  checkBackendAllowed
  let available ← ask Platform.availableMemoryKib
  let payload ← Op.mapError .recovery (startImport file password available)
  let kHsm ← ask (Platform.randomBlock 32)
  let kHsmBlob ← enrollSlot .vaultKey kHsm.val
  let seedBlob ← enrollSlot .totpSeed payload.totpSeed.val
  let salt ← ask (Platform.randomBlock 32)
  let kMaster ← deriveMaster password salt kdf kHsm
  let metadata ← nowUnixSecs
  let created ← createSealed kdf salt kHsmBlob.toBytes seedBlob.toBytes (.new metadata) kMaster
  let vault ← payload.entries.foldlM (importEntry kMaster) created
  atomicWrite vault.toBytes
  return (vault, kMaster, payload.totpSeed)

/-- The change of configuration behind a stored vault, and the session on it. -/
def openStored (config : TotpConfig) (stored : Vault × MasterKey × Key) :
    Act δ CoreError (UnlockedApp × String) := do
  setTotpConfig config
  let index ← Op.mapError .vault (Op.lift (stored.1.openIndex stored.2.1))
  let unlocked ← buildUnlocked stored.2.1 stored.2.2.val index
  return (unlocked, buildProvisioningUri stored.2.2 config)

/-- A creation stores a vault and goes on. -/
theorem createVault_parts (password : String) (kdf : KdfParams) (config : TotpConfig) :
    (createVault password kdf config : Act δ _ _) =
      createStored password kdf >>= openStored config := by
  simp only [createVault, createStored, openStored, bind_assoc, pure_bind]

/-- A restoration stores a vault and goes on. -/
theorem importRecovery_parts (file : Bytes) (password : String) (kdf : KdfParams)
    (config : TotpConfig) :
    (importRecovery file password kdf config : Act δ _ _) =
      restoreStored file password kdf >>= openStored config := by
  simp only [importRecovery, restoreStored, openStored, bind_assoc, pure_bind]

end Parts

/-- A relation that composes and holds across questions to the device. -/
structure Steps (relation : World δ → World δ → Prop) : Prop where
  /-- Nothing happened. -/
  refl : ∀ world, relation world world
  /-- Steps compose. -/
  trans : ∀ first second third, relation first second → relation second third →
    relation first third
  /-- The device moved on. -/
  device : ∀ world device, relation world { world with device }

/-- A relation that also holds across recorded effects other than accepted codes, where started
derivations have a cost that was accepted for a measured amount of memory, across stored files and
across new lockout states. -/
structure Writes [Platform δ] (relation : World δ → World δ → Prop) : Prop
    extends Steps relation where
  /-- An effect was recorded. -/
  noted : ∀ (world : World δ) (effect : Effect), effect.isAccepted = false →
    effect.isDerivation = false → relation world { world with trace := effect :: world.trace }
  /-- A derivation with an accepted cost was started. -/
  derived : ∀ (world : World δ) (params : KdfParams) (availableKib : Option UInt64),
    Measured δ availableKib → checkCost params availableKib = .ok () →
      relation world { world with trace := .derivationBegun params availableKib :: world.trace }
  /-- A file was stored. -/
  stored : ∀ (world : World δ) (bytes : Bytes), relation world { world with file := some bytes }
  /-- A lockout state was adopted. -/
  lockout : ∀ (world : World δ) (state : LockoutState),
    relation world { world with lockoutMem := state }

/-- A relation between worlds, for worlds with a session. -/
def onWorld (relation : World δ → World δ → Prop) (before after : World δ × UnlockedApp) : Prop :=
  relation before.1 after.1

section Questions

variable {relation : World δ → World δ → Prop} (steps : Steps relation)

include steps

/-- Sequencing keeps what its parts keep. -/
theorem keeps_then {β : Type} {first : Act δ ε α} {next : α → Act δ ε β}
    (head : Op.Keeps relation first) (tail : ∀ value, Op.Keeps relation (next value)) :
    Op.Keeps relation (first >>= next) :=
  Op.keeps_bind steps.trans head tail

/-- A fold of operations keeps what each of them keeps. -/
theorem keeps_foldlM {β : Type} {next : β → α → Act δ ε β}
    (each : ∀ value item, Op.Keeps relation (next value item)) (items : List α) (value : β) :
    Op.Keeps relation (items.foldlM next value) := by
  induction items generalizing value with
  | nil => exact Op.keeps_pure steps.refl value
  | cons item rest ih =>
    rw [List.foldlM_cons]
    exact keeps_then steps (each value item) fun reached => ih reached

/-- A question to the device keeps the relation. -/
theorem keeps_ask (query : δ → α × δ) : Op.Keeps relation (ask query : Act δ ε α) :=
  fun world => steps.device world _

/-- A question to the device and what follows from its answers keep the relation. -/
theorem keeps_ask_then {β : Type} (query : δ → α × δ) {next : α → Act δ ε β}
    (tail : ∀ device, Op.Keeps relation (next (query device).1)) :
    Op.Keeps relation (ask query >>= next) := by
  intro world
  rw [ask_bind_run]
  exact steps.trans _ _ _ (steps.device world _) (tail world.device _)

/-- A fallible question to the device keeps the relation. -/
theorem keeps_askFallible (query : δ → Except ε α × δ) :
    Op.Keeps relation (askFallible query) := fun world => steps.device world _

variable [Platform δ]

/-- Loading the vault keeps the relation. -/
theorem keeps_loadVault : Op.Keeps relation (loadVault : Act δ CoreError Vault) := by
  intro world
  rcases ran : loadVault world with ⟨outcome, after⟩
  obtain ⟨⟨device, rfl⟩, _⟩ := loadVault_cases ran
  exact steps.device world device

/-- An unwrap keeps a relation that recording its beginning keeps. -/
theorem keeps_hsmUnwrap {slot : HsmSlot}
    (noted : Op.Keeps relation (note (.unwrapBegun slot) : Act δ HsmError Unit))
    (blobBytes : Bytes) : Op.Keeps relation (hsmUnwrap slot blobBytes : Act δ _ _) := by
  refine keeps_then steps (Op.keeps_lift steps.refl _) fun blob => ?_
  refine keeps_then steps noted fun _ => ?_
  exact keeps_then steps (keeps_askFallible steps _) fun handle => keeps_askFallible steps _

/-- Opening a session keeps the relation. -/
theorem keeps_buildUnlocked (kMaster : MasterKey) (seed : Bytes) (index : Index) :
    Op.Keeps relation (buildUnlocked kMaster seed index : Act δ ε UnlockedApp) :=
  keeps_then steps (keeps_ask steps _) fun _ => Op.keeps_pure steps.refl _

/-- Reading the header keeps the relation. -/
theorem keeps_readHeader : Op.Keeps relation (readHeader : Act δ UnlockError Vault) := by
  refine keeps_then steps (Op.keeps_mapError (keeps_loadVault steps)) fun vault => ?_
  cases vault.kdfParams.withinLimits with
  | false => exact Op.keeps_fail steps.refl _
  | true => exact Op.keeps_pure steps.refl _

/-- The lockout gates keep the relation. -/
theorem keeps_checkLockout (state : LockoutState) (now : Timestamp) :
    Op.Keeps relation (checkLockout state now : Act δ UnlockError Unit) := by
  refine keeps_then steps (keeps_ask steps _) fun status => ?_
  have refused (remaining : Duration) :
      Op.Keeps relation (Op.fail (.lockedOut remaining) : Act δ UnlockError Unit) :=
    Op.keeps_fail steps.refl _
  have passed : Op.Keeps relation (pure () : Act δ UnlockError Unit) := Op.keeps_pure steps.refl _
  cases status with
  | error error => cases state.remaining now with
    | some remaining => exact refused remaining
    | none => exact passed
  | ok status =>
    cases status with
    | available => cases state.remaining now with
      | some remaining => exact refused remaining
      | none => exact passed
    | lockedOut retryAfter => exact Op.keeps_fail steps.refl _

/-- Clearing the clipboard keeps the relation. -/
theorem keeps_clearClipboardWith {κ : Type} [Clipboard κ] (cookie : ClipboardCookie)
    (factOverwrite : Bool) : Op.Keeps (fun before after => onWorld relation before.1 after.1)
      (clearClipboardWith cookie factOverwrite : Op ((World δ × UnlockedApp) × κ) ε _) := by
  have refl := steps.refl
  have trans (first second third : World δ × κ) : relation first.1 second.1 →
      relation second.1 third.1 → relation first.1 third.1 := steps.trans first.1 second.1 third.1
  have pure (value : ClearOutcome) : Op.Keeps (fun before after => relation before.1 after.1)
      (pure value : Op (World δ × κ) ε ClearOutcome) := fun state => refl state.1
  have cleared : Op.Keeps (fun before after : World δ × κ => relation before.1 after.1)
      (clearClipboardImpl cookie factOverwrite : Op (World δ × κ) ε ClearOutcome) := by
    refine Op.keeps_bind trans (Op.keeps_attempt (Op.keeps_onSecond refl _)) fun found => ?_
    rcases found with error | _ | current
    · exact pure _
    · exact pure _
    · change Op.Keeps _ (if current ≠ cookie.digest then Pure.pure ClearOutcome.replaced
        else if !factOverwrite then Pure.pure ClearOutcome.stillOurs else _)
      split
      · exact pure _
      · split
        · exact pure _
        · refine Op.keeps_bind trans (Op.keeps_onFirst (keeps_then steps
            (keeps_ask steps _) fun _ => Op.keeps_pure refl _)) fun fact => ?_
          refine Op.keeps_bind trans (Op.keeps_attempt (Op.keeps_onSecond refl _)) fun done => ?_
          cases done <;> exact pure _
  exact fun ((world, app), clipboard) => cleared (world, clipboard)

variable [Crates]

/-- Inserting an entry in memory keeps the relation. -/
theorem keeps_putEntry (kMaster : MasterKey) (id : EntryId) (label : String) (policy : EntryPolicy)
    (record : EntryRecord) (vault : Vault) :
    Op.Keeps relation (putEntry kMaster id label policy record vault : Act δ _ _) := by
  refine keeps_then steps (keeps_ask steps _) fun entryNonce => ?_
  refine keeps_then steps (keeps_ask steps _) fun indexNonce => ?_
  rcases Vault.addOrUpdateEntry kMaster id label policy record entryNonce indexNonce vault with
    ⟨error | _, changed⟩
  · exact Op.keeps_fail steps.refl _
  · exact Op.keeps_pure steps.refl _

/-- Removing an entry in memory keeps the relation. -/
theorem keeps_dropEntry (kMaster : MasterKey) (id : EntryId) (vault : Vault) :
    Op.Keeps relation (dropEntry kMaster id vault : Act δ _ _) := by
  refine keeps_then steps (keeps_ask steps _) fun indexNonce => ?_
  rcases Vault.removeEntry kMaster id indexNonce vault with ⟨error | _, changed⟩
  · exact Op.keeps_fail steps.refl _
  · exact Op.keeps_pure steps.refl _

/-- Creating a vault in memory keeps the relation. -/
theorem keeps_createSealed (kdf : KdfParams) (salt : Block 32) (kHsmBlob seedBlob : Bytes)
    (metadata : VaultMetadata) (kMaster : MasterKey) :
    Op.Keeps relation (createSealed kdf salt kHsmBlob seedBlob metadata kMaster : Act δ _ _) := by
  refine keeps_then steps (keeps_ask steps _) fun probeNonce => ?_
  refine keeps_then steps (keeps_ask steps _) fun indexNonce => ?_
  exact Op.keeps_mapError (Op.keeps_lift steps.refl _)

/-- Rebuilding a vault keeps the relation. -/
theorem keeps_reencryptVault (app : UnlockedApp) (source : Vault) (salt : Block 32)
    (kdf : KdfParams) (newMaster : MasterKey) :
    Op.Keeps relation (reencryptVault app source salt kdf newMaster : Act δ _ _) := by
  refine keeps_then steps (keeps_then steps (keeps_ask steps _) fun _ =>
    Op.keeps_pure steps.refl _) fun changedAt => ?_
  refine keeps_then steps (keeps_createSealed steps _ _ _ _ _ _) fun rebuilt => ?_
  refine keeps_foldlM steps (fun vault row => ?_) _ _
  refine keeps_then steps (Op.keeps_mapError (Op.keeps_lift steps.refl _)) fun record => ?_
  exact keeps_putEntry steps _ _ _ _ _ _

end Questions

section Facade

variable [Platform δ] {relation : World δ → World δ → Prop} (writes : Writes relation)

include writes

/-- Recording an effect other than an accepted code and a started derivation keeps the relation. -/
theorem keeps_note {effect : Effect} (other : effect.isAccepted = false)
    (begun : effect.isDerivation = false) : Op.Keeps relation (note effect : Act δ ε Unit) :=
  fun world => writes.noted world effect other begun

/-- Adopting the merged lockout state keeps the relation. -/
theorem keeps_mergeLockout (disk : LockoutState) :
    Op.Keeps relation (mergeLockout disk : Act δ ε LockoutState) :=
  fun world => writes.lockout world _

/-- Refusing a software backend keeps the relation. -/
theorem keeps_checkBackendAllowed :
    Op.Keeps relation (checkBackendAllowed : Act δ CoreError Unit) := by
  intro world
  rw [checkBackendAllowed, Op.get_bind_run]
  split <;> exact writes.refl world

/-- A write keeps the relation. -/
theorem keeps_atomicWrite (bytes : Bytes) :
    Op.Keeps relation (atomicWrite bytes : Act δ CoreError Unit) := by
  refine keeps_then writes.toSteps (keeps_ask writes.toSteps _) fun fault => ?_
  cases fault with
  | some step =>
    exact keeps_then writes.toSteps (keeps_note writes rfl rfl) fun _ => Op.keeps_fail writes.refl _
  | none =>
    refine keeps_then writes.toSteps ?_ fun _ => keeps_note writes rfl rfl
    exact fun world => writes.stored world bytes

/-- An unwrap keeps the relation. -/
theorem keeps_unwrap (slot : HsmSlot) (blobBytes : Bytes) :
    Op.Keeps relation (hsmUnwrap slot blobBytes : Act δ _ _) :=
  keeps_hsmUnwrap writes.toSteps (keeps_note writes rfl rfl) blobBytes

/-- Enrolling material keeps the relation. -/
theorem keeps_enrollSlot (slot : HsmSlot) (material : Bytes) :
    Op.Keeps relation (enrollSlot slot material : Act δ CoreError WrappedBlob) := by
  refine keeps_then writes.toSteps ?_ fun blob => ?_
  · exact Op.keeps_mapError (keeps_askFallible writes.toSteps _)
  · exact keeps_then writes.toSteps (keeps_note writes rfl rfl) fun _ => Op.keeps_pure writes.refl _

/-- Counting a failure keeps the relation. -/
theorem keeps_recordFailure (vault : Vault) (state : LockoutState) (now : Timestamp) :
    Op.Keeps relation (recordFailure vault state now : Act δ ε Unit) := by
  refine keeps_then writes.toSteps (fun world => writes.lockout world _) fun _ => ?_
  refine keeps_then writes.toSteps (keeps_note writes rfl rfl) fun _ => ?_
  refine keeps_then writes.toSteps (Op.keeps_attempt (keeps_atomicWrite writes _)) fun _ => ?_
  exact Op.keeps_pure writes.refl _

/-- Reporting wrong credentials keeps the relation. -/
theorem keeps_rejectCredentials (vault : Vault) (state : LockoutState) (now : Timestamp) :
    Op.Keeps relation (rejectCredentials vault state now : Act δ UnlockError α) :=
  keeps_then writes.toSteps (keeps_recordFailure writes vault state now) fun _ =>
    Op.keeps_fail writes.refl _

/-- Clearing the lockout keeps the relation. -/
theorem keeps_resetLockout (vault : Vault) :
    Op.Keeps relation (resetLockout vault : Act δ ε Unit) := by
  refine keeps_then writes.toSteps (fun world => writes.lockout world _) fun _ => ?_
  split
  · refine keeps_then writes.toSteps (Op.keeps_attempt (keeps_atomicWrite writes _)) fun _ => ?_
    exact Op.keeps_pure writes.refl _
  · exact Op.keeps_pure writes.refl _

/-- The gates of an attempt keep the relation. -/
theorem keeps_passGates : Op.Keeps relation (passGates : Act δ UnlockError _) := by
  intro world
  rw [passGates, Op.get_bind_run]
  split
  · exact writes.refl world
  · have rest : Op.Keeps relation (do
        let vault ← readHeader
        let now ← clockNow
        let state ← mergeLockout vault.rateLimit
        checkLockout state now
        return (vault, state, now) : Act δ UnlockError _) := by
      refine keeps_then writes.toSteps (keeps_readHeader writes.toSteps) fun vault => ?_
      refine keeps_then writes.toSteps (keeps_ask writes.toSteps _) fun now => ?_
      refine keeps_then writes.toSteps (keeps_mergeLockout writes _) fun state => ?_
      refine keeps_then writes.toSteps (keeps_checkLockout writes.toSteps _ _) fun _ => ?_
      exact Op.keeps_pure writes.refl _
    exact rest world

section Derivations

variable [Crates]

/-- A derivation keeps the relation: it is started only after its cost was accepted. -/
theorem keeps_startArgon2id (password : String) (salt : Bytes) (params : KdfParams)
    {availableKib : Option UInt64} (measured : Measured δ availableKib) :
    Op.Keeps relation (startArgon2id password salt params availableKib : Act δ _ _) := by
  intro world
  cases checked : checkCost params availableKib with
  | error error =>
    rw [startArgon2id, checked]
    exact writes.refl world
  | ok accepted =>
    have noted : Op.Keeps relation (do
        note (.derivationBegun params availableKib)
        Op.lift (hashPassword password salt params) : Act δ CryptoError Key) := by
      refine keeps_then writes.toSteps ?_ fun _ => Op.keeps_lift writes.refl _
      exact fun world => writes.derived world params availableKib measured checked
    rw [startArgon2id, checked]
    exact noted world

/-- Deriving the key of a recovery file keeps the relation. -/
theorem keeps_startRecoveryKey (password : String) (salt : Block 32) (params : KdfParams)
    {availableKib : Option UInt64} (measured : Measured δ availableKib) :
    Op.Keeps relation (startRecoveryKey password salt params availableKib : Act δ _ _) := by
  refine keeps_then writes.toSteps
    (Op.keeps_mapError (keeps_startArgon2id writes _ _ _ measured)) fun key => ?_
  exact Op.keeps_pure writes.refl _

/-- Importing a recovery file keeps the relation. -/
theorem keeps_startImport (file : Bytes) (password : String) {availableKib : Option UInt64}
    (measured : Measured δ availableKib) :
    Op.Keeps relation (startImport file password availableKib : Act δ _ _) := by
  refine keeps_then writes.toSteps (Op.keeps_lift writes.refl _) fun frame => ?_
  refine keeps_then writes.toSteps (keeps_startRecoveryKey writes _ _ _ measured) fun key => ?_
  exact Op.keeps_lift writes.refl _

/-- Exporting a payload keeps the relation. -/
theorem keeps_startExport (payload : ExportPayload) (password : String) (params : KdfParams)
    {availableKib : Option UInt64} (measured : Measured δ availableKib) (salt : Block 32)
    (nonce : Nonce) : Op.Keeps relation
      (startExport payload password params availableKib salt nonce : Act δ _ _) := by
  refine keeps_then writes.toSteps (Op.keeps_lift writes.refl _) fun _ => ?_
  refine keeps_then writes.toSteps (keeps_startRecoveryKey writes _ _ _ measured) fun key => ?_
  exact Op.keeps_lift writes.refl _

/-- Deriving a master key keeps the relation. -/
theorem keeps_deriveMaster (password : String) (salt : Block 32) (kdf : KdfParams) (kHsm : Key) :
    Op.Keeps relation (deriveMaster password salt kdf kHsm : Act δ _ _) := by
  refine keeps_ask_then writes.toSteps _ fun device => ?_
  refine keeps_then writes.toSteps
    (Op.keeps_mapError (keeps_startArgon2id writes _ _ _ ⟨device, rfl⟩)) fun kPw => ?_
  exact Op.keeps_pure writes.refl _

/-- Deriving a master key from bytes keeps the relation. -/
theorem keeps_deriveMasterFromBytes (password : String) (salt : Block 32) (kdf : KdfParams)
    (kHsm : Bytes) :
    Op.Keeps relation (deriveMasterFromBytes password salt kdf kHsm : Act δ _ _) := by
  rw [deriveMasterFromBytes]
  cases intoKey kHsm with
  | none => exact Op.keeps_fail writes.refl _
  | some key => exact keeps_deriveMaster writes password salt kdf key

end Derivations

variable [Crates] (verified : ∀ seed code (world : World δ),
  relation world (verifyTotp seed code world).2)

section Codes

include verified

/-- Presenting the factors keeps a relation that checking a code keeps. -/
theorem keeps_presentFactors (code : String) :
    Op.Keeps relation (presentFactors code : Act δ UnlockError Presented) := by
  refine keeps_then writes.toSteps (keeps_passGates writes) fun admitted => ?_
  refine keeps_then writes.toSteps (Op.keeps_mapError (keeps_unwrap writes _ _)) fun kHsm => ?_
  refine keeps_then writes.toSteps (Op.keeps_mapError (keeps_unwrap writes _ _)) fun seed => ?_
  refine keeps_then writes.toSteps (verified seed code) fun valid => ?_
  exact Op.keeps_pure writes.refl _

/-- An unlock attempt keeps a relation that checking a code keeps. -/
theorem keeps_unlock (password code : String) :
    Op.Keeps relation (unlock password code : Act δ UnlockError UnlockedApp) := by
  refine keeps_then writes.toSteps (keeps_presentFactors writes verified code) fun presented => ?_
  obtain ⟨vault, state, now, kHsm, seed, valid⟩ := presented
  cases valid with
  | false => exact keeps_rejectCredentials writes vault state now
  | true =>
    refine keeps_then writes.toSteps (Op.keeps_mapError
      (keeps_deriveMasterFromBytes writes _ _ _ _)) fun kMaster => ?_
    cases vault.verifyProbe kMaster with
    | error error => exact keeps_rejectCredentials writes vault state now
    | ok _ =>
      refine keeps_then writes.toSteps (Op.keeps_mapError (Op.keeps_lift writes.refl _))
        fun index => ?_
      refine keeps_then writes.toSteps (keeps_resetLockout writes vault) fun _ => ?_
      exact keeps_buildUnlocked writes.toSteps _ _ _

/-- Authenticating afresh keeps a relation that checking a code keeps. -/
theorem keeps_reauthenticate (vault : Vault) (password code : String) :
    Op.Keeps relation (reauthenticate vault password code : Act δ _ _) := by
  refine keeps_then writes.toSteps (Op.keeps_mapError (keeps_unwrap writes _ _)) fun kHsm => ?_
  refine keeps_then writes.toSteps (Op.keeps_mapError (keeps_unwrap writes _ _)) fun seed => ?_
  refine keeps_then writes.toSteps (verified seed code) fun valid => ?_
  cases valid with
  | false => exact Op.keeps_fail writes.refl _
  | true =>
    refine keeps_then writes.toSteps (keeps_deriveMasterFromBytes writes _ _ _ _)
      fun kMaster => ?_
    refine keeps_then writes.toSteps (Op.keeps_mapError (Op.keeps_lift writes.refl _)) fun _ => ?_
    exact Op.keeps_pure writes.refl _

end Codes

omit [Crates] in
/-- Storing a new vault keeps the relation. -/
theorem keeps_storeVault (vault : Vault) (kMaster : MasterKey) (seed : Key) :
    Op.Keeps relation (do
      atomicWrite vault.toBytes
      return (vault, kMaster, seed) : Act δ CoreError _) :=
  keeps_then writes.toSteps (keeps_atomicWrite writes _) fun _ => Op.keeps_pure writes.refl _

/-- The part of a creation in front of the change of configuration keeps the relation. -/
theorem keeps_createStored (password : String) (kdf : KdfParams) :
    Op.Keeps relation (createStored password kdf : Act δ _ _) := by
  have asked {β : Type} (query : δ → β × δ) : Op.Keeps relation (ask query : Act δ CoreError β) :=
    keeps_ask writes.toSteps query
  refine keeps_then writes.toSteps (keeps_checkBackendAllowed writes) fun _ => ?_
  refine keeps_then writes.toSteps (asked _) fun kHsm => ?_
  refine keeps_then writes.toSteps (asked _) fun seed => ?_
  refine keeps_then writes.toSteps (keeps_enrollSlot writes _ _) fun kHsmBlob => ?_
  refine keeps_then writes.toSteps (keeps_enrollSlot writes _ _) fun seedBlob => ?_
  refine keeps_then writes.toSteps (asked _) fun salt => ?_
  refine keeps_then writes.toSteps (keeps_deriveMaster writes _ _ _ _) fun kMaster => ?_
  refine keeps_then writes.toSteps (keeps_then writes.toSteps (asked _) fun _ =>
    Op.keeps_pure writes.refl _) fun metadata => ?_
  refine keeps_then writes.toSteps (keeps_createSealed writes.toSteps _ _ _ _ _ _) fun vault => ?_
  exact keeps_storeVault writes vault kMaster seed

/-- The part of a restoration in front of the change of configuration keeps the relation. -/
theorem keeps_restoreStored (file : Bytes) (password : String) (kdf : KdfParams) :
    Op.Keeps relation (restoreStored file password kdf : Act δ _ _) := by
  have asked {β : Type} (query : δ → β × δ) : Op.Keeps relation (ask query : Act δ CoreError β) :=
    keeps_ask writes.toSteps query
  refine keeps_then writes.toSteps (keeps_checkBackendAllowed writes) fun _ => ?_
  refine keeps_ask_then writes.toSteps _ fun device => ?_
  refine keeps_then writes.toSteps (Op.keeps_mapError (keeps_startImport writes _ _ ⟨device, rfl⟩))
    fun payload => ?_
  refine keeps_then writes.toSteps (asked _) fun kHsm => ?_
  refine keeps_then writes.toSteps (keeps_enrollSlot writes _ _) fun kHsmBlob => ?_
  refine keeps_then writes.toSteps (keeps_enrollSlot writes _ _) fun seedBlob => ?_
  refine keeps_then writes.toSteps (asked _) fun salt => ?_
  refine keeps_then writes.toSteps (keeps_deriveMaster writes _ _ _ _) fun kMaster => ?_
  refine keeps_then writes.toSteps (keeps_then writes.toSteps (asked _) fun _ =>
    Op.keeps_pure writes.refl _) fun metadata => ?_
  refine keeps_then writes.toSteps (keeps_createSealed writes.toSteps _ _ _ _ _ _)
    fun created => ?_
  refine keeps_then writes.toSteps (keeps_foldlM writes.toSteps (fun vault entry => ?_) _ _)
    fun vault => ?_
  · refine keeps_then writes.toSteps (Op.keeps_lift writes.refl _) fun parts => ?_
    exact keeps_putEntry writes.toSteps _ _ _ _ _ _
  · exact keeps_storeVault writes vault kMaster payload.totpSeed

section Configurations

variable (configured : ∀ (world : World δ) (config : TotpConfig),
  relation world { world with totpConfig := config, verifier := none })

include configured

/-- Recording a configuration and opening a session keeps a relation that recording a configuration
keeps. -/
theorem keeps_openStored (config : TotpConfig) (stored : Vault × MasterKey × Key) :
    Op.Keeps relation (openStored config stored : Act δ _ _) := by
  refine keeps_then writes.toSteps (fun world => configured world config) fun _ => ?_
  refine keeps_then writes.toSteps (Op.keeps_mapError (Op.keeps_lift writes.refl _)) fun index => ?_
  refine keeps_then writes.toSteps (keeps_buildUnlocked writes.toSteps _ _ _) fun unlocked => ?_
  exact Op.keeps_pure writes.refl _

/-- A creation keeps a relation that recording a configuration keeps. -/
theorem keeps_createVault (password : String) (kdf : KdfParams) (config : TotpConfig) :
    Op.Keeps relation (createVault password kdf config : Act δ _ _) := by
  rw [createVault_parts]
  exact keeps_then writes.toSteps (keeps_createStored writes password kdf)
    (keeps_openStored writes configured config)

/-- A restoration keeps a relation that recording a configuration keeps. -/
theorem keeps_importRecovery (file : Bytes) (password : String) (kdf : KdfParams)
    (config : TotpConfig) :
    Op.Keeps relation (importRecovery file password kdf config : Act δ _ _) := by
  rw [importRecovery_parts]
  exact keeps_then writes.toSteps (keeps_restoreStored writes file password kdf)
    (keeps_openStored writes configured config)

end Configurations

end Facade

section Session

variable [Platform δ] {relation : World δ → World δ → Prop} (writes : Writes relation)

include writes

/-- Sequencing operations of a session keeps what its parts keep. -/
theorem session_then {β : Type} {first : SessionAct δ ε α} {next : α → SessionAct δ ε β}
    (head : Op.Keeps (onWorld relation) first)
    (tail : ∀ value, Op.Keeps (onWorld relation) (next value)) :
    Op.Keeps (onWorld relation) (first >>= next) := by
  refine Op.keeps_bind ?_ head tail
  intro early middle late
  exact writes.trans early.1 middle.1 late.1

/-- A question of a session to the device and what follows from its answers keep the relation. -/
theorem session_ask_then {β : Type} (query : δ → α × δ) {next : α → SessionAct δ ε β}
    (tail : ∀ device, Op.Keeps (onWorld relation) (next (query device).1)) :
    Op.Keeps (onWorld relation) (Op.onFirst (ask query) >>= next) := by
  intro (world, app)
  have asked : (Op.onFirst (ask query) : SessionAct δ ε α) (world, app) =
      (.ok (query world.device).1, { world with device := (query world.device).2 }, app) := rfl
  have rest := tail world.device ({ world with device := (query world.device).2 }, app)
  rw [Op.bind_ok asked]
  exact writes.trans _ _ _ (writes.device world _) rest

/-- A value keeps the relation. -/
theorem session_pure (value : α) : Op.Keeps (onWorld relation) (pure value : SessionAct δ ε α) :=
  fun state => writes.refl state.1

/-- An error keeps the relation. -/
theorem session_fail (error : ε) : Op.Keeps (onWorld relation) (Op.fail error : SessionAct δ ε α) :=
  fun state => writes.refl state.1

/-- Reading the state keeps the relation. -/
theorem session_get : Op.Keeps (onWorld relation) (Op.get : SessionAct δ ε _) :=
  fun state => writes.refl state.1

/-- A lifted result keeps the relation. -/
theorem session_lift {η : Type} (translate : ε → η) (result : Except ε α) :
    Op.Keeps (onWorld relation) (Op.mapError translate (Op.lift result) : SessionAct δ η α) :=
  Op.keeps_mapError (Op.keeps_lift (fun state => writes.refl state.1) _)

/-- Checking the expiry keeps the relation. -/
theorem keeps_ensureUnlocked :
    Op.Keeps (onWorld relation) (ensureUnlocked : SessionAct δ CoreError Unit) := by
  refine session_then writes (Op.keeps_onFirst (keeps_ask writes.toSteps _)) fun now => ?_
  refine session_then writes (session_get writes) fun state => ?_
  change Op.Keeps _ (if now ≥ state.2.sessionExpiry then Op.fail CoreError.locked else pure ())
  split
  · exact session_fail writes _
  · exact session_pure writes _

/-- Loading the vault in a session keeps the relation. -/
theorem session_load :
    Op.Keeps (onWorld relation) (Op.onFirst loadVault : SessionAct δ CoreError Vault) :=
  Op.keeps_onFirst (keeps_loadVault writes.toSteps)

/-- Listing the entries keeps the relation. -/
theorem keeps_listEntries :
    Op.Keeps (onWorld relation) (listEntries : SessionAct δ CoreError _) := by
  refine session_then writes (keeps_ensureUnlocked writes) fun _ => ?_
  exact session_then writes (session_get writes) fun state => session_pure writes _

/-- Generating a password keeps the relation. -/
theorem keeps_generatePassword (request : GenerationRequest) :
    Op.Keeps (onWorld relation) (generatePassword request : SessionAct δ CoreError String) := by
  refine session_then writes (keeps_ensureUnlocked writes) fun _ => ?_
  exact Op.keeps_onFirst (Op.keeps_mapError (keeps_askFallible writes.toSteps _))

/-- Estimating a master password keeps the relation. -/
theorem keeps_estimateMasterStrength (estimate : KdfParams → α) :
    Op.Keeps (onWorld relation) (estimateMasterStrength estimate : SessionAct δ CoreError α) := by
  refine session_then writes (keeps_ensureUnlocked writes) fun _ => ?_
  exact session_then writes (session_load writes) fun vault => session_pure writes _

variable [Crates]

/-- Showing an entry keeps the relation. -/
theorem keeps_withRevealed (id : EntryId) (view : EntryRecord → α) :
    Op.Keeps (onWorld relation) (withRevealed id view : SessionAct δ CoreError α) := by
  refine session_then writes (keeps_ensureUnlocked writes) fun _ => ?_
  refine session_then writes (session_load writes) fun vault => ?_
  refine session_then writes (session_get writes) fun state => ?_
  refine session_then writes (session_lift writes _ _) fun record => ?_
  exact session_pure writes _

/-- Writing a vault and adopting its index keeps the relation. -/
theorem keeps_persistAndRefresh (vault : Vault) :
    Op.Keeps (onWorld relation) (persistAndRefresh vault : SessionAct δ CoreError Unit) := by
  refine session_then writes (Op.keeps_onFirst (keeps_atomicWrite writes _)) fun _ => ?_
  refine session_then writes (session_get writes) fun state => ?_
  refine session_then writes (session_lift writes _ _) fun index => ?_
  exact fun (world, _) => writes.refl world

/-- Inserting or updating an entry of the stored vault keeps the relation. -/
theorem keeps_upsertEntry (id : EntryId) (label : String) (policy : EntryPolicy)
    (record : EntryRecord) : Op.Keeps (onWorld relation)
      (upsertEntry id label policy record : SessionAct δ CoreError Unit) := by
  refine session_then writes (session_load writes) fun vault => ?_
  refine session_then writes (session_get writes) fun state => ?_
  refine session_then writes (Op.keeps_onFirst (keeps_putEntry writes.toSteps _ _ _ _ _ _))
    fun changed => ?_
  exact keeps_persistAndRefresh writes changed

/-- Adding an entry keeps the relation. -/
theorem keeps_addEntry (label : String) (policy : EntryPolicy) (record : EntryRecord) :
    Op.Keeps (onWorld relation)
      (addEntry label policy record : SessionAct δ CoreError EntryId) := by
  refine session_then writes (keeps_ensureUnlocked writes) fun _ => ?_
  refine session_then writes (Op.keeps_onFirst (keeps_ask writes.toSteps _)) fun id => ?_
  refine session_then writes (keeps_upsertEntry writes _ _ _ _) fun _ => ?_
  exact session_pure writes _

/-- Updating an entry keeps the relation. -/
theorem keeps_updateEntry (id : EntryId) (label : String) (policy : EntryPolicy)
    (record : EntryRecord) : Op.Keeps (onWorld relation)
      (updateEntry id label policy record : SessionAct δ CoreError Unit) := by
  refine session_then writes (keeps_ensureUnlocked writes) fun _ => ?_
  refine session_then writes (session_get writes) fun (world, app) => ?_
  dsimp only
  cases app.index.get id with
  | none => exact session_fail writes _
  | some row => exact keeps_upsertEntry writes _ _ _ _

/-- Removing an entry keeps the relation. -/
theorem keeps_removeEntry (id : EntryId) :
    Op.Keeps (onWorld relation) (removeEntry id : SessionAct δ CoreError Unit) := by
  refine session_then writes (keeps_ensureUnlocked writes) fun _ => ?_
  refine session_then writes (session_load writes) fun vault => ?_
  refine session_then writes (session_get writes) fun state => ?_
  refine session_then writes (Op.keeps_onFirst (keeps_dropEntry writes.toSteps _ _ _))
    fun changed => ?_
  exact keeps_persistAndRefresh writes changed

/-- Changing the master password keeps the relation. -/
theorem keeps_changeMasterPassword (old new : String) (kdf : KdfParams) :
    Op.Keeps (onWorld relation) (changeMasterPassword old new kdf : SessionAct δ CoreError _) := by
  refine session_then writes (keeps_ensureUnlocked writes) fun _ => ?_
  refine session_then writes (session_load writes) fun vault => ?_
  refine session_then writes (Op.keeps_onFirst (Op.keeps_mapError (keeps_unwrap writes _ _)))
    fun kHsm => ?_
  refine session_then writes (Op.keeps_onFirst
    (keeps_deriveMasterFromBytes writes _ _ _ _)) fun oldMaster => ?_
  refine session_then writes (session_lift writes _ _) fun _ => ?_
  refine session_then writes (Op.keeps_onFirst (keeps_ask writes.toSteps _)) fun newSalt => ?_
  refine session_then writes (Op.keeps_onFirst
    (keeps_deriveMasterFromBytes writes _ _ _ _)) fun newMaster => ?_
  refine session_then writes (session_get writes) fun state => ?_
  refine session_then writes (Op.keeps_onFirst (keeps_reencryptVault writes.toSteps _ _ _ _ _))
    fun rebuilt => ?_
  refine session_then writes (Op.keeps_onFirst (keeps_atomicWrite writes _)) fun _ => ?_
  refine session_then writes (fun (world, _) => writes.refl world) fun _ => ?_
  refine session_then writes (session_lift writes _ _) fun index => ?_
  refine session_then writes (fun (world, _) => writes.refl world) fun _ => ?_
  exact session_pure writes _

/-- Copying a field keeps the relation. -/
theorem keeps_copyToClipboard {κ : Type} [Clipboard κ] (id : EntryId) (field : RevealField) :
    Op.Keeps (fun before after => onWorld relation before.1 after.1)
      (copyToClipboard id field : Op ((World δ × UnlockedApp) × κ) CoreError _) := by
  have refl (state : World δ × UnlockedApp) : onWorld relation state state := writes.refl state.1
  have trans (first second third : (World δ × UnlockedApp) × κ) :
      onWorld relation first.1 second.1 → onWorld relation second.1 third.1 →
        onWorld relation first.1 third.1 := writes.trans first.1.1 second.1.1 third.1.1
  refine Op.keeps_bind trans (Op.keeps_onFirst (keeps_withRevealed writes _ _)) fun value => ?_
  refine Op.keeps_bind trans (Op.keeps_onSecond refl _) fun cookie => ?_
  refine Op.keeps_bind trans (Op.keeps_onFirst (Op.keeps_onFirst (keeps_ask writes.toSteps _)))
    fun now => ?_
  refine Op.keeps_bind trans (fun ((world, app), clipboard) => refl (world, app)) fun _ => ?_
  exact fun state => refl state.1

variable (verified : ∀ seed code (world : World δ), relation world (verifyTotp seed code world).2)

include verified

/-- Exporting a recovery file keeps a relation that checking a code keeps. -/
theorem keeps_exportRecovery (password code : String) (preset : RecoveryPreset) :
    Op.Keeps (onWorld relation)
      (exportRecovery password code preset : SessionAct δ CoreError _) := by
  refine session_then writes (keeps_ensureUnlocked writes) fun _ => ?_
  refine session_then writes (session_load writes) fun vault => ?_
  cases Crates.allowsExport password with
  | false => exact session_fail writes _
  | true =>
    refine session_then writes (Op.keeps_onFirst (keeps_reauthenticate writes verified _ _ _))
      fun proof => ?_
    obtain ⟨kMaster, seed⟩ := proof
    dsimp only
    cases intoKey seed with
    | none => exact session_fail writes _
    | some seed =>
      have asked {β : Type} (query : δ → β × δ) :
          Op.Keeps (onWorld relation) (Op.onFirst (ask query) : SessionAct δ CoreError β) :=
        Op.keeps_onFirst (keeps_ask writes.toSteps query)
      refine session_then writes (session_get writes) fun state => ?_
      refine session_then writes (Op.keeps_lift (fun state => writes.refl state.1) _)
        fun entries => ?_
      refine session_ask_then writes _ fun device => ?_
      refine session_then writes (asked _) fun salt => ?_
      refine session_then writes (asked _) fun nonce => ?_
      refine session_then writes (Op.keeps_onFirst (Op.keeps_mapError
        (keeps_startExport writes _ _ _ ⟨device, rfl⟩ _ _))) fun file => ?_
      refine session_then writes (Op.keeps_onFirst (keeps_then writes.toSteps
        (keeps_ask writes.toSteps _) fun _ => Op.keeps_pure writes.refl _)) fun exportedAt => ?_
      refine session_then writes (Op.keeps_onFirst (keeps_atomicWrite writes _)) fun _ => ?_
      exact session_pure writes _

end Session

end Passman
