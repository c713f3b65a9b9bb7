import Passman.Core.World
import Passman.Recovery.Format

/-!
# The application facade

Creating, unlocking and restoring a vault. Unlocking runs in the fixed order of the
design: gates that need no prompt, the two unwraps, the code, the derivation, the
probe, the index. What a rejected attempt records is written to the in-process state
first and to the file on a best-effort basis.
-/
namespace Passman

open Bytewise Fallible Words

/-- The derivation label of the master key. -/
def masterInfo : Bytes := utf8 "passman-master-v0"

/-- Length of a hardware-protected secret. -/
def keyLen : Nat := 32

/-- Seconds an unlocked session lasts. -/
def sessionSecs : UInt64 := 120

/-- The delay reported when the key store is locked out and nothing is known. -/
def hsmLockoutFallback : Duration := .fromSecs 60

/-- An unlocked session. -/
structure UnlockedApp where
  /-- The master key. -/
  kMaster : MasterKey
  /-- The TOTP seed. -/
  totpSeed : Bytes
  /-- The decrypted index. -/
  index : Index
  /-- When the session expires, in Unix seconds. -/
  sessionExpiry : UInt64
  deriving DecidableEq

/-- The advisory state stored in a vault header. -/
def Vault.rateLimit (vault : Vault) : LockoutState := ⟨vault.rlCounter, vault.rlLastFailure⟩

/-- The key a buffer of the right length holds. -/
def intoKey (bytes : Bytes) : Option Key :=
  if sized : bytes.length = keyLen then some ⟨bytes, sized⟩ else none

/-- The algorithm as the provisioning address spells it. -/
def algorithmParam : TotpAlgorithm → String
  | .sha1 => "SHA1"
  | .sha256 => "SHA256"
  | .sha512 => "SHA512"

/-- The address an authenticator is provisioned from. -/
def buildProvisioningUri [Crates] (seed : Key) (config : TotpConfig) : String :=
  "otpauth://totp/passman:vault?secret=" ++ Crates.base32 seed.val ++
    "&issuer=passman&algorithm=" ++ algorithmParam config.algorithm ++
    "&digits=" ++ toString config.digits ++ "&period=" ++ toString config.period

section Helpers

variable {δ ε α : Type}

/-- Whether the backend is a software one that was not permitted. -/
def World.backendRefused (world : World δ) : Bool :=
  world.kind = .softwareMock && !world.allowSoftwareHsm

/-- Refuse a software backend without the opt-in. -/
def checkBackendAllowed : Act δ CoreError Unit := do
  let world ← Op.get
  if world.backendRefused then Op.fail .softwareHsmRefused else return

/-- Adopt the merge of the stored state and the in-process state. -/
def mergeLockout (disk : LockoutState) : Act δ ε LockoutState := Op.total fun world =>
  let merged := disk.merge world.lockoutMem
  (merged, { world with lockoutMem := merged })

/-- Record a configuration and drop the verifier built for the previous one. -/
def setTotpConfig (config : TotpConfig) : Act δ ε Unit :=
  Op.modify fun world => { world with totpConfig := config, verifier := none }

variable [Platform δ]

/-- Enroll material into a slot. -/
def enrollSlot (slot : HsmSlot) (material : Bytes) : Act δ CoreError WrappedBlob := do
  let blob ← Op.mapError .hsm (askFallible (Platform.enroll slot material))
  note (.enrolled slot blob)
  return blob

/-- Unwrap a slot in two phases. -/
def hsmUnwrap (slot : HsmSlot) (blobBytes : Bytes) : Act δ HsmError Bytes := do
  let blob ← Op.lift (WrappedBlob.fromBytes blobBytes)
  note (.unwrapBegun slot)
  let handle ← askFallible (Platform.beginUnwrap slot blob)
  askFallible (Platform.completeUnwrap handle)

/-- Unwrap a slot while unlocking. -/
def unwrapSlot (slot : HsmSlot) (blobBytes : Bytes) : Act δ UnlockError Bytes :=
  Op.mapError mapHsmUnlock (hsmUnwrap slot blobBytes)

/-- Unwrap a slot in an open session. -/
def unwrapSlotCore (slot : HsmSlot) (blobBytes : Bytes) : Act δ CoreError Bytes :=
  Op.mapError .hsm (hsmUnwrap slot blobBytes)

/-- Count one more failure: adopt the new state in process, and try to store it. -/
def recordFailure (vault : Vault) (state : LockoutState) (now : Timestamp) : Act δ ε Unit := do
  let state := state.afterFailure now
  Op.modify fun world => { world with lockoutMem := state }
  note (.counted now)
  let _ ← Op.attempt (atomicWrite (vault.setRateLimit state.counter state.lastFailure).toBytes)
  return

/-- Count a failure and report wrong credentials. -/
def rejectCredentials (vault : Vault) (state : LockoutState) (now : Timestamp) :
    Act δ UnlockError α := do
  recordFailure vault state now
  Op.fail .badCredentials

/-- Clear the lockout: always in process, and in the file, if it holds one, when it can be
written. -/
def resetLockout (vault : Vault) : Act δ ε Unit := do
  Op.modify fun world => { world with lockoutMem := .reset }
  if vault.rlCounter ≠ 0 ∨ vault.rlLastFailure ≠ 0 then
    let _ ← Op.attempt (atomicWrite (vault.setRateLimit 0 0).toBytes)
    return
  else return

/-- Open a session that lasts from now. -/
def buildUnlocked (kMaster : MasterKey) (totpSeed : Bytes) (index : Index) :
    Act δ ε UnlockedApp := do
  let now ← clockNow
  return ⟨kMaster, totpSeed, index, saturatingAdd now sessionSecs⟩

/-- Read, parse and check the header of the vault to unlock. -/
def readHeader : Act δ UnlockError Vault := do
  let vault ← Op.mapError .malformedVault loadVault
  if !vault.kdfParams.withinLimits then
    Op.fail (.malformedVault (.crypto
      (.kdf "vault KDF parameters are outside the permitted range")))
  else return vault

/-- Refuse an attempt while the key store or the advisory state is locked out. -/
def checkLockout (state : LockoutState) (now : Timestamp) : Act δ UnlockError Unit := do
  match ← ask Platform.lockoutStatus with
  | .ok (.lockedOut retryAfter) =>
    Op.fail (.lockedOut ((retryAfter.or (state.remaining now)).getD hsmLockoutFallback))
  | _ =>
    match state.remaining now with
    | some remaining => Op.fail (.lockedOut remaining)
    | none => return

/-- The gates of an unlock attempt that need no prompt: the backend, the file, its header and
both lockouts. -/
def passGates : Act δ UnlockError (Vault × LockoutState × Timestamp) := do
  let world ← Op.get
  if world.backendRefused then Op.fail .softwareHsmRefused
  else
    let vault ← readHeader
    let now ← clockNow
    let state ← mergeLockout vault.rateLimit
    checkLockout state now
    return (vault, state, now)

/-- What an attempt presents before a key is derived. -/
structure Presented where
  /-- The vault that was read. -/
  vault : Vault
  /-- The merged lockout state. -/
  state : LockoutState
  /-- When the attempt was made. -/
  now : Timestamp
  /-- The unwrapped hardware key. -/
  kHsm : Bytes
  /-- The unwrapped seed. -/
  seed : Bytes
  /-- Whether the code is valid. -/
  valid : Bool

variable [Crates]

/-- Verify a code with the long-lived verifier, building it on first use. -/
def verifyTotp (seed : Bytes) (code : String) (world : World δ) : Bool × World δ :=
  let (now, device) := Platform.now world.device
  let verifier := world.verifier.getD (.new world.totpConfig)
  match verifier.verify seed code now with
  | .ok next => (true, { world with
      device
      verifier := some next
      trace := next.lastAcceptedStep.toList.map (.accepted seed) ++ world.trace })
  | .error _ => (false, { world with device, verifier := some verifier })

/-- The part of an unlock attempt that does not need the password: the gates, the two unwraps and
the code. -/
def presentFactors (code : String) : Act δ UnlockError Presented := do
  let (vault, state, now) ← passGates
  let kHsm ← unwrapSlot .vaultKey vault.kHsmWrapBlob.val
  let seed ← unwrapSlot .totpSeed vault.totpSeedWrapBlob.val
  let valid ← Op.total (verifyTotp seed code)
  return ⟨vault, state, now, kHsm, seed, valid⟩

/-- Derive a key from a password: check the cost, then start the computation. -/
def startArgon2id (password : String) (salt : Bytes) (params : KdfParams)
    (availableKib : Option UInt64) : Act δ CryptoError Key := do
  Op.lift (checkCost params availableKib)
  note (.derivationBegun params availableKib)
  Op.lift (hashPassword password salt params)

/-- Derive the key of a recovery file. -/
def startRecoveryKey (password : String) (salt : Block 32) (params : KdfParams)
    (availableKib : Option UInt64) : Act δ RecoveryError Key := do
  let key ← Op.mapError .crypto (startArgon2id password salt.val params availableKib)
  return hkdfMaster salt.val key.val recoveryInfo

/-- Import a recovery file: the whole frame is read before the derivation starts. -/
def startImport (file : Bytes) (password : String) (availableKib : Option UInt64) :
    Act δ RecoveryError ExportPayload := do
  let frame ← Op.lift (readImport file)
  let key ← startRecoveryKey password frame.salt frame.params availableKib
  Op.lift (openFrame key frame)

/-- Export a payload: the floor is checked before the derivation starts. -/
def startExport (payload : ExportPayload) (password : String) (params : KdfParams)
    (availableKib : Option UInt64) (salt : Block 32) (nonce : Nonce) :
    Act δ RecoveryError Bytes := do
  Op.lift (checkFloor params)
  let key ← startRecoveryKey password salt params availableKib
  Op.lift (sealFrame payload key params salt nonce)

/-- Derive the master key from the password and the hardware key. -/
def deriveMaster (password : String) (salt : Block 32) (kdf : KdfParams) (kHsm : Key) :
    Act δ CoreError MasterKey := do
  let available ← ask Platform.availableMemoryKib
  let kPw ← Op.mapError .crypto (startArgon2id password salt.val kdf available)
  return hkdfMaster salt.val (kPw.val ++ kHsm.val) masterInfo

/-- Derive the master key from unwrapped bytes. -/
def deriveMasterFromBytes (password : String) (salt : Block 32) (kdf : KdfParams)
    (kHsm : Bytes) : Act δ CoreError MasterKey :=
  match intoKey kHsm with
  | none => Op.fail (.hsm (.malformedBlob "unwrapped K_hsm is not 32 bytes"))
  | some key => deriveMaster password salt kdf key

/-- Insert or update an entry of a vault in memory, drawing its nonces. -/
def putEntry (kMaster : MasterKey) (id : EntryId) (label : String) (policy : EntryPolicy)
    (record : EntryRecord) (vault : Vault) : Act δ CoreError Vault := do
  let entryNonce ← ask (Platform.randomBlock 24)
  let indexNonce ← ask (Platform.randomBlock 24)
  match Vault.addOrUpdateEntry kMaster id label policy record entryNonce indexNonce vault with
  | (.ok (), changed) => return changed
  | (.error error, _) => Op.fail (.vault error)

/-- Create a vault in memory, drawing its nonces. -/
def createSealed (kdf : KdfParams) (salt : Block 32) (kHsmWrapBlob totpSeedWrapBlob : Bytes)
    (metadata : VaultMetadata) (kMaster : MasterKey) : Act δ CoreError Vault := do
  let probeNonce ← ask (Platform.randomBlock 24)
  let indexNonce ← ask (Platform.randomBlock 24)
  Op.mapError .vault (Op.lift
    (Vault.create kdf salt kHsmWrapBlob totpSeedWrapBlob metadata kMaster probeNonce indexNonce))

/-- The parts of a vault entry in a recovery entry. -/
def importEntryParts (entry : RecoveryEntry) :
    Except CoreError (EntryId × String × EntryPolicy × EntryRecord) :=
  match Crates.policyOfBytes entry.policy with
  | none =>
    .error (.recovery (.malformedPayload "entry policy bytes are not valid postcard"))
  | some policy =>
    .ok (⟨entry.id⟩, entry.label, policy,
      ⟨entry.username, entry.password, entry.url, entry.notes⟩)

/-- Insert one recovery entry. -/
def importEntry (kMaster : MasterKey) (vault : Vault) (entry : RecoveryEntry) :
    Act δ CoreError Vault := do
  let (id, label, policy, record) ← Op.lift (importEntryParts entry)
  putEntry kMaster id label policy record vault

end Helpers

section Operations

variable {δ : Type} [Platform δ] [Crates]

/-- Create a vault and open a session on it. -/
def createVault (password : String) (kdf : KdfParams) (config : TotpConfig) :
    Act δ CoreError (UnlockedApp × String) := do
  checkBackendAllowed
  let kHsm ← ask (Platform.randomBlock 32)
  let seed ← ask (Platform.randomBlock 32)
  let kHsmBlob ← enrollSlot .vaultKey kHsm.val
  let seedBlob ← enrollSlot .totpSeed seed.val
  let salt ← ask (Platform.randomBlock 32)
  let kMaster ← deriveMaster password salt kdf kHsm
  let metadata ← nowUnixSecs
  let vault ← createSealed kdf salt kHsmBlob.toBytes seedBlob.toBytes (.new metadata) kMaster
  atomicWrite vault.toBytes
  setTotpConfig config
  let index ← Op.mapError .vault (Op.lift (vault.openIndex kMaster))
  let unlocked ← buildUnlocked kMaster seed.val index
  return (unlocked, buildProvisioningUri seed config)

/-- Unlock the vault. -/
def unlock (password code : String) : Act δ UnlockError UnlockedApp := do
  let ⟨vault, state, now, kHsm, seed, valid⟩ ← presentFactors code
  if !valid then rejectCredentials vault state now
  else
    -- Every derivation failure is reported as wrong credentials, and none is counted.
    let kMaster ← Op.mapError (fun _ => .badCredentials)
      (deriveMasterFromBytes password vault.salt vault.kdfParams kHsm)
    match vault.verifyProbe kMaster with
    | .error _ => rejectCredentials vault state now
    | .ok () =>
      let index ← Op.mapError (fun error => .malformedVault (.vault error))
        (Op.lift (vault.openIndex kMaster))
      resetLockout vault
      buildUnlocked kMaster seed index

/-- Restore a vault from a recovery file and open a session on it. -/
def importRecovery (file : Bytes) (password : String) (kdf : KdfParams) (config : TotpConfig) :
    Act δ CoreError (UnlockedApp × String) := do
  checkBackendAllowed
  let available ← ask Platform.availableMemoryKib
  let payload ← Op.mapError .recovery (startImport file password available)
  let kHsm ← ask (Platform.randomBlock 32)
  let kHsmBlob ← enrollSlot .vaultKey kHsm.val
  let seedBlob ← enrollSlot .totpSeed payload.totpSeed.val
  let salt ← ask (Platform.randomBlock 32)
  let kMaster ← deriveMaster password salt kdf kHsm
  let metadata ← nowUnixSecs
  let created ← createSealed kdf salt kHsmBlob.toBytes seedBlob.toBytes (.new metadata) kMaster
  let vault ← payload.entries.foldlM (importEntry kMaster) created
  atomicWrite vault.toBytes
  setTotpConfig config
  let index ← Op.mapError .vault (Op.lift (vault.openIndex kMaster))
  let unlocked ← buildUnlocked kMaster payload.totpSeed.val index
  return (unlocked, buildProvisioningUri payload.totpSeed config)

end Operations

end Passman
