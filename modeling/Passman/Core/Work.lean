import Passman.Core.Attempt
import Passman.Core.Instance
import Passman.Recovery.RoundTrip
import Passman.Reference.Device

/-!
# Work before authentication

The costs in a vault header and in a recovery file are chosen by whoever wrote the file, and
are used before anything is authenticated. Every Argon2 computation is started behind one
check of its cost, and both readers refuse a header with costs out of range before they
prompt or derive.
-/
namespace Passman

open Bytewise Fallible

/-- The numbers of an acceptable cost on a host with this much available memory, if known. -/
structure KdfParams.Bounded (params : KdfParams) (availableKib : Option UInt64) : Prop where
  /-- At least one lane. -/
  someLane : 1 ≤ params.p.toNat
  /-- At most 16 lanes. -/
  lanes : params.p.toNat ≤ 16
  /-- At least one pass. -/
  somePass : 1 ≤ params.t.toNat
  /-- At most 24 passes. -/
  passes : params.t.toNat ≤ 24
  /-- At least 8 KiB for each lane. -/
  someMemory : 8 * params.p.toNat ≤ params.mKib.toNat
  /-- At most 8 GiB. -/
  memory : params.mKib.toNat ≤ 8 * 1024 * 1024
  /-- At most 80 percent of the available memory. -/
  host : ∀ available ∈ availableKib, 100 * params.mKib.toNat ≤ 80 * available.toNat

/-- Costs within the limits lie between the static bounds. -/
theorem KdfParams.withinLimits_bounds {params : KdfParams} (limits : params.withinLimits = true) :
    params.Bounded none := by
  simp only [withinLimits, Bool.and_eq_true, decide_eq_true_eq, ge_iff_le] at limits
  obtain ⟨⟨⟨⟨⟨someLane, lanes⟩, somePass⟩, passes⟩, memory⟩, someMemory⟩ := limits
  rw [UInt8.le_iff_toNat_le] at someLane lanes
  rw [UInt32.le_iff_toNat_le] at somePass passes memory
  have mostLanes : maxP.toNat = 16 := rfl
  have mostPasses : maxT.toNat = 24 := rfl
  have mostMemory : maxMKib.toNat = 8 * 1024 * 1024 := rfl
  have oneLane : (1 : UInt8).toNat = 1 := rfl
  have onePass : (1 : UInt32).toNat = 1 := rfl
  refine ⟨by omega, by omega, by omega, by omega, ?_, by omega, by simp⟩
  have unclamped : min (8 * params.p.toNat) (2 ^ 32 - 1) = 8 * params.p.toNat := by omega
  rw [unclamped] at someMemory
  exact someMemory

/-- A memory cost that fits leaves a fifth of the available memory, whatever the rounding. -/
theorem memoryCostFits_bound {mKib : UInt32} {availableKib : UInt64}
    (fits : memoryCostFits mKib availableKib = true) :
    100 * mKib.toNat ≤ 80 * availableKib.toNat := by
  have ordered := UInt64.le_iff_toNat_le.mp (of_decide_eq_true fits)
  have five : (5 : UInt64).toNat = 5 := rfl
  have four : (4 : UInt64).toNat = 4 := rfl
  have same : mKib.toUInt64.toNat = mKib.toNat := rfl
  have small : availableKib.toNat < 2 ^ 64 := availableKib.toNat_lt
  have product : availableKib.toNat / 5 * 4 < 2 ^ 64 := by omega
  rw [same, UInt64.toNat_mul, UInt64.toNat_div, five, four, Nat.mod_eq_of_lt product] at ordered
  omega

/-- An accepted cost is bounded. -/
theorem checkCost_bounded {params : KdfParams} {availableKib : Option UInt64}
    (accepted : checkCost params availableKib = .ok ()) : params.Bounded availableKib := by
  obtain ⟨limits, fits⟩ := checkCost_eq_ok.mp accepted
  have bounds := KdfParams.withinLimits_bounds limits
  exact { bounds with host := fun available known => memoryCostFits_bound (fits available known) }

section Traces

variable {δ κ : Type} [Platform δ]

/-- The step adds to the trace, and every derivation it adds has a bounded cost for an amount of
memory that the device reported. -/
def BoundedWork (before after : World δ) : Prop :=
  ∃ added, after.trace = added ++ before.trace ∧ ∀ params availableKib,
    .derivationBegun params availableKib ∈ added →
      Measured δ availableKib ∧ params.Bounded availableKib

/-- A step that adds nothing but other effects is bounded. -/
theorem boundedWork_of_others {before after : World δ} (added : List Effect)
    (traced : after.trace = added ++ before.trace)
    (others : ∀ effect ∈ added, effect.isDerivation = false) : BoundedWork before after := by
  refine ⟨added, traced, fun params availableKib member => ?_⟩
  cases others _ member

/-- Every primitive step is bounded. -/
theorem boundedWork_writes : Writes (BoundedWork (δ := δ)) where
  refl world := boundedWork_of_others [] rfl (by simp)
  trans first second third := by
    rintro ⟨early, traced, bounded⟩ ⟨late, retraced, rest⟩
    refine ⟨late ++ early, by rw [retraced, traced, List.append_assoc], ?_⟩
    intro params availableKib member
    rcases List.mem_append.mp member with inLate | inEarly
    · exact rest params availableKib inLate
    · exact bounded params availableKib inEarly
  device world device := boundedWork_of_others [] rfl (by simp)
  noted world effect _ other := boundedWork_of_others [effect] rfl (by simpa using other)
  stored world bytes := boundedWork_of_others [] rfl (by simp)
  lockout world state := boundedWork_of_others [] rfl (by simp)
  derived world params availableKib measured accepted := by
    refine ⟨[.derivationBegun params availableKib], rfl, ?_⟩
    intro others otherKib member
    obtain ⟨rfl, rfl⟩ := Effect.derivationBegun.inj (List.mem_singleton.mp member)
    exact ⟨measured, checkCost_bounded accepted⟩

variable [Crates]

/-- Checking a code starts no derivation. -/
theorem boundedWork_verifyTotp (seed : Bytes) (code : String) (world : World δ) :
    BoundedWork world (verifyTotp seed code world).2 := by
  have frame : Frame Effect.isAccepted world (verifyTotp seed code world).2 :=
    frame_verifyTotp (fun _ _ => rfl) seed code world
  obtain ⟨added, traced, accepted⟩ := frame.trace
  refine boundedWork_of_others added traced fun effect member => ?_
  have kind := accepted effect member
  cases effect <;> first | rfl | cases kind

/-- A file without a vault header within the limits fails an unlock attempt before any prompt or
derivation. -/
theorem unlock_checks_header (password code : String) (world : World δ)
    (refused : ¬ ∃ bytes vault, world.file = some bytes ∧ Vault.fromBytes bytes = .ok vault ∧
      vault.kdfParams.withinLimits = true) :
    (∃ error, (unlock password code world).1 = .error error) ∧
      (unlock password code world).2.trace = world.trace := by
  rcases ran : passGates world with ⟨error | ⟨vault, state, now⟩, after⟩
  · have presents : presentFactors code world = (.error error, after) := Op.bind_error ran
    have failed : unlock password code world = (.error error, after) := Op.bind_error presents
    have gate := passGates_cases ran
    rw [failed]
    exact ⟨⟨error, rfl⟩, by cases gate <;> rfl⟩
  · have gate := passGates_cases ran
    generalize shape : (Except.ok (vault, state, now) : Except UnlockError _) = outcome at gate
    cases gate with
    | admitted permitted stored limits free =>
      obtain ⟨bytes, file, _, parsed⟩ := stored
      exact absurd ⟨bytes, _, file, parsed, limits⟩ refused
    | _ => cases shape

/-- The frame is complete: costs within the limits, and a payload of at least one tag that its
length field holds. -/
def RecoveryFrame.Complete (frame : RecoveryFrame) : Prop :=
  frame.params.withinLimits = true ∧ tagLen ≤ frame.ciphertext.length ∧
    frame.ciphertext.length < 2 ^ 32

omit [Platform δ] [Crates] in
/-- A file is read for an import exactly when it is a complete frame. -/
theorem readImport_complete (file : Bytes) (frame : RecoveryFrame) :
    readImport file = .ok frame ↔ frame.Complete ∧ file = frame.toBytes := by
  rw [readImport_ok_iff, readFrame_ok_iff]
  constructor
  · rintro ⟨⟨⟨limits, short⟩, whole⟩, long⟩
    exact ⟨⟨limits, long, short⟩, whole⟩
  · rintro ⟨⟨limits, long, short⟩, whole⟩
    exact ⟨⟨⟨limits, short⟩, whole⟩, long⟩

/-- A file that is not exactly a complete frame fails a restoration before any prompt or
derivation. -/
theorem importRecovery_checks_frame (file : Bytes) (password : String) (kdf : KdfParams)
    (config : TotpConfig) (world : World δ)
    (refused : ¬ ∃ frame : RecoveryFrame, frame.Complete ∧ file = frame.toBytes) :
    (∃ error, (importRecovery file password kdf config world).1 = .error error) ∧
      (importRecovery file password kdf config world).2.trace = world.trace := by
  have unread : ∃ error, readImport file = .error error := by
    cases read : readImport file with
    | error error => exact ⟨error, rfl⟩
    | ok frame => exact absurd ⟨frame, (readImport_complete file frame).mp read⟩ refused
  obtain ⟨error, unread⟩ := unread
  rcases gate : (checkBackendAllowed : Act δ CoreError Unit) world with ⟨stopped | passed, after⟩
  · have same : after.trace = world.trace := by
      rw [checkBackendAllowed, Op.get_bind_run] at gate
      split at gate <;> (obtain ⟨_, rfl⟩ := Prod.mk.inj gate; rfl)
    have failed : importRecovery file password kdf config world = (.error stopped, after) :=
      Op.bind_error gate
    rw [failed]
    exact ⟨⟨stopped, rfl⟩, same⟩
  · have same : after.trace = world.trace := by
      rw [checkBackendAllowed, Op.get_bind_run] at gate
      split at gate <;> (obtain ⟨_, rfl⟩ := Prod.mk.inj gate; rfl)
    have rejected (available : Option UInt64) (before : World δ) :
        Op.mapError CoreError.recovery (startImport file password available) before =
          (.error (.recovery error), before) := by
      rw [startImport, unread]
      rfl
    have failed : importRecovery file password kdf config world =
        (.error (.recovery error), after.measured) := by
      rw [importRecovery, Op.bind_ok gate, ask_bind_run]
      exact Op.bind_error (rejected _ _)
    rw [failed]
    exact ⟨⟨_, rfl⟩, same⟩

variable [Clipboard κ]

/-- Whatever the vault file, the recovery file and the available memory, every Argon2 computation
that a call starts has a bounded cost for the memory that was measured; an unlock attempt refuses a
header out of range before any prompt or derivation; and a restoration starts nothing before the
whole frame is validated. -/
theorem argon2_work_is_bounded :
    (∀ (inst : Instance δ κ) (call : Call), BoundedWork inst.world (inst.step call).world) ∧
    (∀ (password code : String) (world : World δ),
      (¬ ∃ bytes vault, world.file = some bytes ∧ Vault.fromBytes bytes = .ok vault ∧
        vault.kdfParams.withinLimits = true) →
      (∃ error, (unlock password code world).1 = .error error) ∧
        (unlock password code world).2.trace = world.trace) ∧
    (∀ (file : Bytes) (password : String) (kdf : KdfParams) (config : TotpConfig)
      (world : World δ),
      (¬ ∃ frame : RecoveryFrame, frame.Complete ∧ file = frame.toBytes) →
      (∃ error, (importRecovery file password kdf config world).1 = .error error) ∧
        (importRecovery file password kdf config world).2.trace = world.trace) := by
  refine ⟨fun inst call => ?_, unlock_checks_header, importRecovery_checks_frame⟩
  cases installs : call.installs with
  | false => exact step_keeps inst installs boundedWork_writes boundedWork_verifyTotp
  | true =>
    refine install_keeps inst installs boundedWork_writes fun world config => ?_
    exact boundedWork_of_others [] rfl (by simp)

end Traces

namespace Reference

/-- The created vault file with the costs of its header raised; it is computed by the kernel
only. -/
@[irreducible] def costlyFile : Bytes :=
  ((created.file.map Vault.fromBytes).bind Except.toOption).elim [] fun vault =>
    { vault with kdfParams := ⟨16777216, 1000, 1⟩ }.toBytes

/-- An instance opened on that file. -/
def costly : World Device := .opened device (some costlyFile) .tpm2 false []

/-- A recovery file without its last byte. -/
@[irreducible] def truncatedFrame : Bytes :=
  (RecoveryFrame.mk RecoveryPreset.floor.params (Block.replicate 32 0) nonce
    (List.replicate 40 7)).toBytes.dropLast

end Reference

/-- A creation on the reference device starts bounded derivations only; a vault whose header asks
for costs out of range fails an unlock attempt, and a truncated recovery file a restoration, before
anything is started. -/
theorem argon2_work_is_bounded_reference :
    letI := Reference.crates
    let call := Call.createVault "pw" Reference.kdfParams .default
    BoundedWork Reference.world
        ((Instance.start Reference.world Reference.clipboard).step call).world ∧
      (Vault.fromBytes Reference.costlyFile).toOption.map
        (fun vault => vault.kdfParams.withinLimits) = some false ∧
      (unlock "pw" "000000" Reference.costly).2.trace = Reference.costly.trace ∧
      (importRecovery Reference.truncatedFrame "pw" Reference.kdfParams .default
        Reference.world).2.trace = Reference.world.trace := by
  let _ := Reference.crates
  obtain ⟨bounded, unlocks, imports⟩ := argon2_work_is_bounded (δ := Reference.Device)
    (κ := TextClipboard Reference.textDigest)
  have beyond : (Vault.fromBytes Reference.costlyFile).toOption.map
      (fun vault => vault.kdfParams.withinLimits) = some false := by decide +kernel
  refine ⟨bounded (.start Reference.world Reference.clipboard) _, beyond, ?_, ?_⟩
  · refine (unlocks "pw" "000000" Reference.costly ?_).2
    rintro ⟨bytes, vault, file, parsed, limits⟩
    obtain rfl : Reference.costlyFile = bytes := Option.some.inj file
    rw [parsed] at beyond
    cases limits.symm.trans (Option.some.inj beyond)
  · refine (imports Reference.truncatedFrame "pw" Reference.kdfParams .default
      Reference.world ?_).2
    rintro ⟨frame, complete⟩
    have unread : (readImport Reference.truncatedFrame).toOption = none := by decide +kernel
    rw [(readImport_complete _ frame).mpr complete] at unread
    cases unread

end Passman
