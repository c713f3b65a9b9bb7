import Passman.Core.Attempt
import Passman.Reference.Device

/-!
# Key stores that keep what they enrolled

What a vault is bound to outside its file: the hardware key and the seed its wrap blobs were
enrolled for, and the master password that derives its key with the hardware key. A key store
that unwraps what it enrolled returns the same secrets to every later attempt.
-/
namespace Passman

open Bytewise Fallible

section Stores

variable {δ : Type} [Platform δ]

/-- The key store is available and unwraps what it enrolled, whatever happened in between. -/
structure PersistentStore (δ : Type) [Platform δ] : Prop where
  /-- It reports no lockout of its own. -/
  available : ∀ (device : δ) (retryAfter : Option Duration),
    (Platform.lockoutStatus device).1 ≠ .ok (.lockedOut retryAfter)
  /-- A blob is unwrapped to the material it was enrolled for. -/
  unwraps : ∀ (slot : HsmSlot) (material : Bytes) (blob : WrappedBlob) (enrolling : δ),
    (Platform.enroll slot material enrolling).1 = .ok blob → ∀ device : δ, ∃ handle,
      (Platform.beginUnwrap slot blob device).1 = .ok handle ∧
      (Platform.completeUnwrap handle (Platform.beginUnwrap slot blob device).2).1 = .ok material

/-- The material of a blob that some state of the device enrolled. -/
def Enrolled (δ : Type) [Platform δ] (slot : HsmSlot) (material : Bytes) (blob : WrappedBlob) :
    Prop := ∃ enrolling : δ, (Platform.enroll slot material enrolling).1 = .ok blob

/-- A blob the key store enrolled is unwrapped to its material. -/
theorem hsmUnwrap_run (store : PersistentStore δ) {slot : HsmSlot} {material : Bytes}
    {blob : WrappedBlob} (enrolled : Enrolled δ slot material blob) (world : World δ) :
    ∃ device, hsmUnwrap slot blob.toBytes world =
      (.ok material, { world with device, trace := .unwrapBegun slot :: world.trace }) := by
  obtain ⟨enrolling, enrolled⟩ := enrolled
  obtain ⟨handle, begun, completed⟩ :=
    store.unwraps slot material blob enrolling enrolled world.device
  let noted : World δ := { world with trace := .unwrapBegun slot :: world.trace }
  let asked : World δ := { noted with device := (Platform.beginUnwrap slot blob world.device).2 }
  have parsed : (Op.lift (WrappedBlob.fromBytes blob.toBytes) : Act δ HsmError WrappedBlob) world =
      (.ok blob, world) := by rw [Op.lift_run, WrappedBlob.fromBytes_toBytes]
  have marked : (note (.unwrapBegun slot) : Act δ HsmError Unit) world = (.ok (), noted) := rfl
  have opened : askFallible (Platform.beginUnwrap slot blob) noted = (.ok handle, asked) := by
    rw [askFallible, begun]
  refine ⟨(Platform.completeUnwrap handle asked.device).2, ?_⟩
  rw [hsmUnwrap, Op.bind_ok parsed, Op.bind_ok marked, Op.bind_ok opened, askFallible, completed]

/-- Unlocking, a blob the key store enrolled is unwrapped to its material. -/
theorem unwrapSlot_run (store : PersistentStore δ) {slot : HsmSlot} {material : Bytes}
    {blob : WrappedBlob} (enrolled : Enrolled δ slot material blob) (world : World δ) :
    ∃ device, unwrapSlot slot blob.toBytes world =
      (.ok material, { world with device, trace := .unwrapBegun slot :: world.trace }) := by
  obtain ⟨device, ran⟩ := hsmUnwrap_run store enrolled world
  exact ⟨device, Op.mapError_ok.mpr ran⟩

/-- The material the seed blob of a vault was enrolled for. -/
def SeedOf (δ : Type) [Platform δ] (vault : Vault) (seed : Bytes) : Prop :=
  ∃ blob, vault.totpSeedWrapBlob.val = blob.toBytes ∧ Enrolled δ .totpSeed seed blob

variable [Crates]

/-- The password derives the key under the header of a vault, with the hardware key its blob was
enrolled for. -/
def MasterPassword (δ : Type) [Platform δ] (password : String) (vault : Vault)
    (kMaster : MasterKey) : Prop :=
  ∃ (kHsm : Key) (blob : WrappedBlob) (kPw : Key), vault.kHsmWrapBlob.val = blob.toBytes ∧
    Enrolled δ .vaultKey kHsm.val blob ∧
    Crates.argon2 (utf8 password) vault.salt.val vault.kdfParams = .ok kPw ∧
    kMaster = hkdfMaster vault.salt.val (kPw.val ++ kHsm.val) masterInfo

/-- A derivation from the hardware key of a vault derives a key its password is the master password
of. -/
theorem derive_masterPassword {password : String} {vault : Vault} {kHsm : Bytes}
    {blob : WrappedBlob} {before after : World δ} {kMaster : MasterKey}
    (stored : vault.kHsmWrapBlob.val = blob.toBytes) (enrolled : Enrolled δ .vaultKey kHsm blob)
    (ran : deriveMasterFromBytes password vault.salt vault.kdfParams kHsm before =
      (.ok kMaster, after)) : MasterPassword δ password vault kMaster := by
  obtain ⟨sized, kPw, hashed, key⟩ := ((deriveMasterFromBytes_cases ran).2 kMaster).mp rfl
  exact ⟨⟨kHsm, sized⟩, blob, kPw, stored, enrolled, (argon2idWithinMemory_eq_ok.mp hashed).2.2,
    key⟩

/-- A fresh authentication with the master password returns the key and the seed of the vault. -/
theorem reauthenticate_ok (store : PersistentStore δ) {vault : Vault} {password code : String}
    {kMaster : MasterKey} {seed : Bytes} (master : MasterPassword δ password vault kMaster)
    (seeded : SeedOf δ vault seed) {before after : World δ} {found : MasterKey} {unwrapped : Bytes}
    (ran : reauthenticate vault password code before = (.ok (found, unwrapped), after)) :
    found = kMaster ∧ unwrapped = seed := by
  obtain ⟨kHsm, blob, kPw, stored, enrolled, hashes, key⟩ := master
  obtain ⟨seedBlob, seedStored, seedEnrolled⟩ := seeded
  obtain ⟨first, reached, gotKey, ran⟩ := Op.bind_ok_cases ran
  obtain ⟨_, keyRun⟩ := hsmUnwrap_run store enrolled before
  rw [stored] at gotKey
  obtain ⟨same, rfl⟩ := Prod.mk.inj (keyRun.symm.trans (Op.mapError_ok.mp gotKey))
  obtain rfl := Except.ok.inj same
  obtain ⟨second, asked, gotSeed, ran⟩ := Op.bind_ok_cases ran
  obtain ⟨_, seedRun⟩ := hsmUnwrap_run store seedEnrolled _
  rw [seedStored] at gotSeed
  obtain ⟨same, rfl⟩ := Prod.mk.inj (seedRun.symm.trans (Op.mapError_ok.mp gotSeed))
  obtain rfl := Except.ok.inj same
  rw [Op.total_bind_run] at ran
  split at ran
  · cases ran
  · obtain ⟨derived, settled, derives, ran⟩ := Op.bind_ok_cases ran
    obtain ⟨_, _, probed, ran⟩ := Op.bind_ok_cases ran
    obtain ⟨returned, _⟩ := Prod.mk.inj ran
    obtain ⟨rfl, rfl⟩ := Prod.mk.inj (Except.ok.inj returned)
    obtain ⟨_, again, hashed, rfl⟩ := ((deriveMasterFromBytes_cases derives).2 derived).mp rfl
    have repeated := (argon2idWithinMemory_eq_ok.mp hashed).2.2
    obtain rfl := Except.ok.inj (hashes.symm.trans repeated)
    exact ⟨key.symm, rfl⟩

end Stores

namespace Reference

/-- The example key store keeps what it enrolled. -/
theorem persistentStore : PersistentStore Device where
  available _ _ := by
    intro clash
    cases clash
  unwraps slot material blob enrolling enrolled device := by
    have payload : blob.payload = slotByte slot :: material := by
      change WrappedBlob.fromParts .softwareMock (slotByte slot :: material) = .ok blob at enrolled
      rw [WrappedBlob.fromParts] at enrolled
      split at enrolled
      · rw [← Except.ok.inj enrolled]
      · cases enrolled
    have begun : Platform.beginUnwrap slot blob device = (.ok ⟨slot, blob⟩, device) := by
      change (if blob.payload.head? = some (slotByte slot) then _ else _) = _
      rw [payload, List.head?_cons, if_pos rfl]
    refine ⟨⟨slot, blob⟩, by rw [begun], ?_⟩
    change Except.ok blob.payload.tail = _
    rw [payload, List.tail_cons]

/-- What the example device stores for a numbered draw. -/
def storedBlob (slot : HsmSlot) (number : Nat) : WrappedBlob where
  kind := .softwareMock
  payload := slotByte slot :: leBytes 32 number
  fits := by simp

end Reference

end Passman
