import Passman.Core.Derivation
import Passman.Core.Footprint

/-!
# The ways an unlock attempt ends

One description of every exit of the unlock pipeline: what was read, what the gates
saw, what became of the file and of the in-process lockout state, and which steps other
parties could observe. Results about attempts cite these and do not unfold the pipeline.
-/
namespace Passman

open Bytewise Fallible Words

section Frames

variable {δ : Type} {allowed : Effect → Bool}

/-- Frames compose and hold across questions to the device. -/
theorem Frame.steps (allowed : Effect → Bool) : Steps (Frame (δ := δ) allowed) :=
  ⟨Frame.refl, fun _ _ _ early late => early.trans late, frame_device allowed⟩

variable [Platform δ]

/-- An unwrap is begun and nothing else happens. -/
theorem keeps_prompt (permitted : ∀ slot, allowed (.unwrapBegun slot) = true) (slot : HsmSlot)
    (blobBytes : Bytes) : Op.Keeps (Frame allowed) (hsmUnwrap slot blobBytes : Act δ _ _) :=
  keeps_hsmUnwrap (Frame.steps allowed)
    (fun _ => ⟨rfl, rfl, rfl, rfl, rfl, [_], rfl, by simpa using permitted slot⟩) blobBytes

variable [Crates]

/-- Checking a code at most records an accepted step. -/
theorem frame_verifyTotp (permitted : ∀ seed step, allowed (.accepted seed step) = true)
    (seed : Bytes) (code : String) (world : World δ) :
    Frame allowed world (verifyTotp seed code world).2 := by
  simp only [verifyTotp]
  split
  · refine ⟨rfl, rfl, rfl, rfl, rfl, _, rfl, fun effect member => ?_⟩
    obtain ⟨step, _, rfl⟩ := List.mem_map.mp member
    exact permitted seed step
  · exact ⟨rfl, rfl, rfl, rfl, rfl, [], rfl, by simp⟩

end Frames

section Gates

variable {δ : Type}

/-- The file holds a vault that can be read. -/
def World.Stores (world : World δ) (vault : Vault) : Prop :=
  ∃ bytes, world.file = some bytes ∧ bytes.length ≤ maxVaultBytes ∧
    Vault.fromBytes bytes = .ok vault

/-- The file holds at most one vault. -/
theorem World.Stores.unique {world : World δ} {first second : Vault} (left : world.Stores first)
    (right : world.Stores second) : first = second := by
  obtain ⟨bytes, stored, _, parsed⟩ := left
  obtain ⟨others, same, _, reparsed⟩ := right
  obtain rfl := Option.some.inj (stored.symm.trans same)
  exact Except.ok.inj (parsed.symm.trans reparsed)

/-- The lockout state an attempt works with: the stored one merged with the one in process. -/
def World.merged (world : World δ) (vault : Vault) : LockoutState :=
  vault.rateLimit.merge world.lockoutMem

variable [Platform δ]

/-- When an attempt is made: the clock reading after the file was loaded. -/
def World.attemptTime (world : World δ) : Timestamp :=
  (Platform.now (loadVault world).2.device).1

/-- The ways the gates of an attempt decide. -/
inductive Admission (world : World δ) :
    Except UnlockError (Vault × LockoutState × Timestamp) → World δ → Prop
  /-- A software backend was not permitted. -/
  | software (refused : world.backendRefused = true) :
    Admission world (.error .softwareHsmRefused) world
  /-- The file could not be read or parsed. -/
  | unreadable {error : CoreError} {device : δ} (permitted : world.backendRefused = false)
      (failed : (loadVault world).1 = .error error) :
    Admission world (.error (.malformedVault error)) { world with device }
  /-- The header asks for a derivation outside the limits. -/
  | outOfRange {vault : Vault} {device : δ} (permitted : world.backendRefused = false)
      (stored : world.Stores vault) (limits : vault.kdfParams.withinLimits = false) :
    Admission world (.error (.malformedVault (.crypto
      (.kdf "vault KDF parameters are outside the permitted range")))) { world with device }
  /-- A lockout is in effect. -/
  | lockedOut {vault : Vault} {device : δ} {remaining : Duration}
      (permitted : world.backendRefused = false) (stored : world.Stores vault)
      (loaded : (loadVault world).1 = .ok vault) :
    Admission world (.error (.lockedOut remaining))
      { world with device, lockoutMem := world.merged vault }
  /-- The attempt is admitted. -/
  | admitted {vault : Vault} {device : δ} (permitted : world.backendRefused = false)
      (stored : world.Stores vault) (limits : vault.kdfParams.withinLimits = true)
      (free : (world.merged vault).remaining world.attemptTime = none) :
    Admission world (.ok (vault, world.merged vault, world.attemptTime))
      { world with device, lockoutMem := world.merged vault }

omit [Platform δ] in
/-- The advisory gate fails with a lockout, or passes when no window is in effect. -/
theorem advisory_cases {state : LockoutState} {now : Timestamp} {reached after : World δ}
    {outcome : Except UnlockError Unit}
    (decided : (match state.remaining now with
      | some remaining => Op.fail (.lockedOut remaining)
      | none => pure () : Act δ UnlockError Unit) reached = (outcome, after)) :
    after = reached ∧ ((∃ remaining, outcome = .error (.lockedOut remaining)) ∨
      outcome = .ok () ∧ state.remaining now = none) := by
  cases window : state.remaining now with
  | some remaining =>
    rw [window] at decided
    obtain ⟨rfl, rfl⟩ := Prod.mk.inj decided
    exact ⟨rfl, .inl ⟨remaining, rfl⟩⟩
  | none =>
    rw [window] at decided
    obtain ⟨rfl, rfl⟩ := Prod.mk.inj decided
    exact ⟨rfl, .inr ⟨rfl, rfl⟩⟩

/-- The lockout gates fail with a lockout, or pass when no advisory window is in effect. -/
theorem checkLockout_cases {state : LockoutState} {now : Timestamp} {world after : World δ}
    {outcome : Except UnlockError Unit} (ran : checkLockout state now world = (outcome, after)) :
    (∃ device, after = { world with device }) ∧
      ((∃ remaining, outcome = .error (.lockedOut remaining)) ∨
        outcome = .ok () ∧ state.remaining now = none) := by
  rw [checkLockout, ask_bind_run] at ran
  rcases asked : (Platform.lockoutStatus world.device).1 with error | status
  · rw [asked] at ran
    obtain ⟨same, decided⟩ := advisory_cases ran
    exact ⟨⟨_, same⟩, decided⟩
  · rw [asked] at ran
    cases status with
    | available =>
      obtain ⟨same, decided⟩ := advisory_cases ran
      exact ⟨⟨_, same⟩, decided⟩
    | lockedOut retryAfter =>
      obtain ⟨rfl, rfl⟩ := Prod.mk.inj ran
      exact ⟨⟨_, rfl⟩, .inl ⟨_, rfl⟩⟩

/-- The gates decide in one of these ways. -/
theorem passGates_cases {world after : World δ}
    {outcome : Except UnlockError (Vault × LockoutState × Timestamp)}
    (ran : passGates world = (outcome, after)) : Admission world outcome after := by
  rw [passGates, Op.get_bind_run] at ran
  split at ran
  · next refused =>
    obtain ⟨rfl, rfl⟩ := Prod.mk.inj ran
    exact .software refused
  · next allowed =>
    have permitted : world.backendRefused = false := Bool.eq_false_iff.mpr allowed
    rcases loaded : loadVault world with ⟨result, reached⟩
    obtain ⟨⟨device, rfl⟩, found⟩ := loadVault_cases loaded
    cases result with
    | error error =>
      have header : readHeader world = (.error (.malformedVault error), { world with device }) :=
        Op.bind_error (Op.mapError_error.mpr ⟨error, loaded, rfl⟩)
      rw [Op.bind_error header] at ran
      obtain ⟨rfl, rfl⟩ := Prod.mk.inj ran
      exact .unreadable permitted (by rw [loaded])
    | ok vault =>
      have stored : world.Stores vault := found vault rfl
      have header : readHeader world = _ := Op.bind_ok (Op.mapError_ok.mpr loaded)
      cases limits : vault.kdfParams.withinLimits with
      | false =>
        rw [limits] at header
        rw [Op.bind_error header] at ran
        obtain ⟨rfl, rfl⟩ := Prod.mk.inj ran
        exact .outOfRange permitted stored limits
      | true =>
        rw [limits] at header
        have time : (Platform.now device).1 = world.attemptTime := by
          rw [World.attemptTime, loaded]
        rw [Op.bind_ok header, clockNow, ask_bind_run] at ran
        simp only [time] at ran
        change ((checkLockout (world.merged vault) world.attemptTime >>= fun _ => _) _) = _ at ran
        rcases Op.bind_cases ran with ⟨_, middle, passed, rest⟩ | ⟨error, failed, rfl⟩
        · obtain ⟨⟨last, rfl⟩, clash | ⟨_, free⟩⟩ := checkLockout_cases passed
          · obtain ⟨_, clash⟩ := clash
            cases clash
          · obtain ⟨rfl, rfl⟩ := Prod.mk.inj rest
            exact .admitted permitted stored limits free
        · obtain ⟨⟨last, rfl⟩, ⟨remaining, same⟩ | ⟨clash, _⟩⟩ := checkLockout_cases failed
          · obtain rfl := Except.error.inj same
            exact .lockedOut permitted stored (by rw [loaded])
          · cases clash

end Gates

/-- Whether the effect belongs to presenting the factors or to deriving a key. -/
def Effect.isPrompt (effect : Effect) : Bool :=
  effect.isUnwrap || effect.isAccepted || effect.isDerivation

/-- The vault with a lockout state in its header. -/
def Vault.withLockout (vault : Vault) (state : LockoutState) : Vault :=
  vault.setRateLimit state.counter state.lastFailure

section Factors

variable {δ : Type} [Platform δ] [Crates]

/-- The ways the presentation of the factors ends. -/
inductive Presentation (world : World δ) : Except UnlockError Presented → World δ → Prop
  /-- A gate refused the attempt. -/
  | refused {error : UnlockError} {after : World δ} (gate : Admission world (.error error) after) :
    Presentation world (.error error) after
  /-- A slot could not be unwrapped. -/
  | unwrapFailed {vault : Vault} {state : LockoutState} {now : Timestamp} {middle after : World δ}
      {error : HsmError} (gate : Admission world (.ok (vault, state, now)) middle)
      (frame : Frame Effect.isPrompt middle after) :
    Presentation world (.error (mapHsmUnlock error)) after
  /-- Both slots were unwrapped and the code was checked. -/
  | presented {presented : Presented} {middle after : World δ}
      (gate : Admission world (.ok (presented.vault, presented.state, presented.now)) middle)
      (frame : Frame Effect.isPrompt middle after) :
    Presentation world (.ok presented) after

/-- The presentation ends in one of these ways. -/
theorem presentFactors_cases {code : String} {world after : World δ}
    {outcome : Except UnlockError Presented}
    (ran : presentFactors code world = (outcome, after)) : Presentation world outcome after := by
  rcases Op.bind_cases ran with ⟨⟨vault, state, now⟩, middle, passed, ran⟩ | ⟨error, failed, rfl⟩
  · have gate := passGates_cases passed
    have unwrapped (slot : HsmSlot) (blob : Bytes) {before reached : World δ}
        {result : Except UnlockError Bytes}
        (ended : unwrapSlot slot blob before = (result, reached)) :
        Frame Effect.isPrompt before reached :=
      (Op.keeps_mapError (keeps_prompt (fun _ => rfl) slot blob)).ran ended
    have failure {slot : HsmSlot} {blob : Bytes} {before reached : World δ} {error : UnlockError}
        (ended : unwrapSlot slot blob before = (.error error, reached)) :
        ∃ source, mapHsmUnlock source = error := by
      obtain ⟨source, _, same⟩ := Op.mapError_error.mp ended
      exact ⟨source, same⟩
    rcases Op.bind_cases ran with ⟨kHsm, first, gotKey, ran⟩ | ⟨error, failed, rfl⟩
    · have early := unwrapped _ _ gotKey
      rcases Op.bind_cases ran with ⟨seed, second, gotSeed, ran⟩ | ⟨error, failed, rfl⟩
      · have late := early.trans (unwrapped _ _ gotSeed)
        rw [Op.total_bind_run] at ran
        obtain ⟨rfl, rfl⟩ := Prod.mk.inj ran
        exact .presented gate (late.trans (frame_verifyTotp (fun _ _ => rfl) seed code second))
      · obtain ⟨source, rfl⟩ := failure failed
        exact .unwrapFailed gate (early.trans (unwrapped _ _ failed))
    · obtain ⟨source, rfl⟩ := failure failed
      exact .unwrapFailed gate (unwrapped _ _ failed)
  · exact .refused (passGates_cases failed)

/-- A derivation changes nothing but the device and its marks, and succeeds exactly on a key of the
right length, inside the limits and the memory, when the dependency accepts the parameters. -/
theorem deriveMasterFromBytes_cases {password : String} {salt : Block 32} {kdf : KdfParams}
    {kHsm : Bytes} {world after : World δ} {outcome : Except CoreError MasterKey}
    (ran : deriveMasterFromBytes password salt kdf kHsm world = (outcome, after)) :
    Frame Effect.isDerivation world after ∧ ∀ kMaster, outcome = .ok kMaster ↔
      kHsm.length = keyLen ∧ ∃ kPw, argon2idWithinMemory password salt.val kdf
          (Platform.availableMemoryKib world.device).1 = .ok kPw ∧
        kMaster = hkdfMaster salt.val (kPw.val ++ kHsm) masterInfo := by
  rw [deriveMasterFromBytes, intoKey] at ran
  by_cases sized : kHsm.length = keyLen
  · rw [dif_pos sized] at ran
    change deriveMaster password salt kdf ⟨kHsm, sized⟩ world = _ at ran
    obtain ⟨marks, only, derived⟩ := deriveMaster_run password salt kdf ⟨kHsm, sized⟩ world
    obtain ⟨rfl, rfl⟩ := Prod.mk.inj (derived.symm.trans ran)
    refine ⟨⟨rfl, rfl, rfl, rfl, rfl, marks, rfl, only.isDerivation⟩, fun kMaster => ?_⟩
    rw [masterKey_ok_iff]
    exact ⟨fun found => ⟨sized, found⟩, fun found => found.2⟩
  · rw [dif_neg sized] at ran
    obtain ⟨rfl, rfl⟩ := Prod.mk.inj ran
    exact ⟨.refl world, by simp [sized]⟩

/-- No write of the device fails. -/
def WritesSucceed (δ : Type) [Platform δ] : Prop :=
  ∀ device : δ, (Platform.writeFault device).1 = none

omit [Crates] in
/-- A write attempted on a best-effort basis leaves one record. -/
theorem atomicWrite_leaves (bytes : Bytes) (world : World δ) :
    ∃ device stored, (WritesSucceed δ → stored = true) ∧
      (atomicWrite bytes world).2 = world.afterWrite device bytes stored := by
  rcases ran : atomicWrite bytes world with ⟨outcome, after⟩
  obtain ⟨device, ⟨_, rfl⟩ | ⟨step, fault, _, rfl⟩⟩ := atomicWrite_cases ran
  · exact ⟨device, true, fun _ => rfl, rfl⟩
  · refine ⟨device, false, fun succeed => ?_, rfl⟩
    rw [succeed] at fault
    cases fault

omit [Crates] in
/-- A rejection counts one failure in process, records it, and tries to store it. -/
theorem rejectCredentials_cases {α : Type} {vault : Vault} {state : LockoutState} {now : Timestamp}
    {world after : World δ} {outcome : Except UnlockError α}
    (ran : rejectCredentials vault state now world = (outcome, after)) :
    outcome = .error .badCredentials ∧ ∃ device stored, (WritesSucceed δ → stored = true) ∧
      after = { world with
        lockoutMem := state.afterFailure now
        trace := .counted now :: world.trace }.afterWrite device
          (vault.withLockout (state.afterFailure now)).toBytes stored := by
  obtain ⟨rfl, rfl⟩ := Prod.mk.inj ran
  exact ⟨rfl, atomicWrite_leaves _ _⟩

omit [Crates] in
/-- A reset clears the state in process, and tries to clear the header if it holds a state. -/
theorem resetLockout_cases {ε : Type} {vault : Vault} {world after : World δ}
    {outcome : Except ε Unit} (ran : resetLockout vault world = (outcome, after)) :
    outcome = .ok () ∧
      (vault.rateLimit = .reset ∧ after = { world with lockoutMem := .reset } ∨
        ∃ device stored, (WritesSucceed δ → stored = true) ∧
          after = { world with lockoutMem := .reset }.afterWrite device
            (vault.withLockout .reset).toBytes stored) := by
  rw [resetLockout, Op.modify_bind_run] at ran
  split at ran
  · obtain ⟨rfl, rfl⟩ := Prod.mk.inj ran
    exact ⟨rfl, .inr (atomicWrite_leaves _ _)⟩
  · next clean =>
    obtain ⟨rfl, rfl⟩ := Prod.mk.inj ran
    rw [not_or, not_not, not_not] at clean
    refine ⟨rfl, .inl ⟨?_, rfl⟩⟩
    rw [Vault.rateLimit, clean.1, clean.2]
    rfl

/-- The ways an unlock attempt ends. -/
inductive Attempt (password code : String) (world : World δ) :
    Except UnlockError UnlockedApp → World δ → Prop
  /-- The factors were not presented. -/
  | unpresented {error : UnlockError} {after : World δ}
      (presents : presentFactors code world = (.error error, after)) :
    Attempt password code world (.error error) after
  /-- The code or the probe failed; the failure was counted. -/
  | counted {presented : Presented} {reached settled : World δ} {last : δ} {stored : Bool}
      (presents : presentFactors code world = (.ok presented, reached))
      (frame : Frame Effect.isPrompt reached settled)
      (cause : presented.valid = false ∨
        ∃ kMaster, (deriveMasterFromBytes password presented.vault.salt presented.vault.kdfParams
          presented.kHsm reached).1 = .ok kMaster)
      (reliable : WritesSucceed δ → stored = true) :
    Attempt password code world (.error .badCredentials)
      ({ settled with
        lockoutMem := presented.state.afterFailure presented.now
        trace := .counted presented.now :: settled.trace }.afterWrite last
          (presented.vault.withLockout (presented.state.afterFailure presented.now)).toBytes stored)
  /-- No key could be derived; nothing was counted. -/
  | underivable {presented : Presented} {reached settled : World δ} {error : CoreError}
      (presents : presentFactors code world = (.ok presented, reached))
      (frame : Frame Effect.isPrompt reached settled)
      (valid : presented.valid = true)
      (failed : (deriveMasterFromBytes password presented.vault.salt presented.vault.kdfParams
        presented.kHsm reached).1 = .error error) :
    Attempt password code world (.error .badCredentials) settled
  /-- The index did not open under a key that passed the probe. -/
  | corrupt {presented : Presented} {reached settled : World δ} {error : VaultError}
      (presents : presentFactors code world = (.ok presented, reached))
      (frame : Frame Effect.isPrompt reached settled)
      (derived : ∃ kMaster, (deriveMasterFromBytes password presented.vault.salt
        presented.vault.kdfParams presented.kHsm reached).1 = .ok kMaster) :
    Attempt password code world (.error (.malformedVault (.vault error))) settled
  /-- The vault was opened and the lockout state reset. -/
  | opened {presented : Presented} {reached settled after : World δ} {last : δ}
      {app : UnlockedApp} (presents : presentFactors code world = (.ok presented, reached))
      (frame : Frame Effect.isPrompt reached settled)
      (derived : (deriveMasterFromBytes password presented.vault.salt presented.vault.kdfParams
        presented.kHsm reached).1 = .ok app.kMaster)
      (probe : presented.vault.verifyProbe app.kMaster = .ok ())
      (index : presented.vault.openIndex app.kMaster = .ok app.index)
      (reset : resetLockout (ε := UnlockError) presented.vault settled = (.ok (), after)) :
    Attempt password code world (.ok app) { after with device := last }

/-- Every attempt ends in one of these ways. -/
theorem unlock_cases {password code : String} {world after : World δ}
    {outcome : Except UnlockError UnlockedApp}
    (ran : unlock password code world = (outcome, after)) :
    Attempt password code world outcome after := by
  rcases Op.bind_cases ran with
    ⟨⟨vault, state, now, kHsm, seed, valid⟩, reached, presents, ran⟩ | ⟨error, failed, rfl⟩
  · cases valid with
    | false =>
      obtain ⟨rfl, device, stored, reliable, rfl⟩ := rejectCredentials_cases ran
      exact .counted presents (.refl reached) (.inl rfl) reliable
    | true =>
      change (Op.mapError _ (deriveMasterFromBytes _ _ _ _) >>= _) reached = _ at ran
      rcases derives : deriveMasterFromBytes password vault.salt vault.kdfParams kHsm reached with
        ⟨result, settled⟩
      have frame : Frame Effect.isPrompt reached settled := by
        refine (deriveMasterFromBytes_cases derives).1.mono fun effect derivation => ?_
        rw [Effect.isPrompt, derivation, Bool.or_true]
      cases result with
      | error error =>
        rw [Op.bind_error (Op.mapError_error.mpr ⟨error, derives, rfl⟩)] at ran
        obtain ⟨rfl, rfl⟩ := Prod.mk.inj ran
        exact .underivable presents frame rfl (by rw [derives])
      | ok kMaster =>
        have derived : (deriveMasterFromBytes password vault.salt vault.kdfParams kHsm reached).1 =
            .ok kMaster := by rw [derives]
        rw [Op.bind_ok (Op.mapError_ok.mpr derives)] at ran
        cases probe : vault.verifyProbe kMaster with
        | error error =>
          rw [probe] at ran
          obtain ⟨rfl, last, stored, reliable, rfl⟩ := rejectCredentials_cases ran
          exact .counted presents frame (.inr ⟨kMaster, derived⟩) reliable
        | ok _ =>
          rw [probe] at ran
          cases opens : vault.openIndex kMaster with
          | error error =>
            rw [opens] at ran
            obtain ⟨rfl, rfl⟩ := Prod.mk.inj ran
            exact .corrupt presents frame ⟨kMaster, derived⟩
          | ok index =>
            rw [opens] at ran
            change (resetLockout _ >>= fun _ => _) _ = _ at ran
            rcases Op.bind_cases ran with ⟨_, middle, reset, ran⟩ | ⟨error, failed, _⟩
            · obtain ⟨rfl, rfl⟩ := Prod.mk.inj ran
              exact .opened presents frame derived probe opens reset
            · obtain ⟨clash, _⟩ := resetLockout_cases failed
              cases clash
  · exact .unpresented failed

end Factors

end Passman
