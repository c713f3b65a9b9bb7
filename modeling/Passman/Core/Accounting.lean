import Passman.Core.Attempt
import Passman.Reference.Device

/-!
# Failure accounting of unlock

Wrong credentials are to be reported exactly when a failure was counted, stamped and
offered to the file; a success clears the state; any other error leaves it. The exits of
the pipeline meet this with one exception: an attempt that cannot derive a key reports
wrong credentials and counts nothing.
-/
namespace Passman

open Bytewise Fallible Words

section States

variable {δ : Type}

/-- The lockout state in the file; a file without a vault has none. -/
def World.fileState (world : World δ) : LockoutState :=
  match world.file.map Vault.fromBytes with
  | some (.ok vault) => vault.rateLimit
  | _ => .reset

/-- The effective failure counter: the larger of the stored one and the one in process. -/
def World.effectiveCounter (world : World δ) : UInt64 :=
  max world.fileState.counter world.lockoutMem.counter

/-- The state in the file is that of the vault it holds. -/
theorem World.Stores.fileState {world : World δ} {vault : Vault} (stored : world.Stores vault) :
    world.fileState = vault.rateLimit := by
  obtain ⟨bytes, file, _, parsed⟩ := stored
  simp only [World.fileState, file, Option.map_some, parsed]

/-- A vault that was read can be written with another lockout state and read back. -/
theorem World.Stores.rewritten {world : World δ} {vault : Vault} (stored : world.Stores vault)
    (state : LockoutState) :
    Vault.fromBytes (vault.withLockout state).toBytes = .ok (vault.withLockout state) := by
  obtain ⟨bytes, _, _, parsed⟩ := stored
  have formed := Vault.wellFormed_of_fromBytes parsed
  exact Vault.fromBytes_toBytes ⟨formed.index, formed.count, formed.bodies⟩

variable [Platform δ]

/-- The file is unchanged, the state in process is at most merged with the stored one, and only
prompts could be observed. -/
structure Quiet (world after : World δ) : Prop where
  /-- The file is unchanged. -/
  file : after.file = world.file
  /-- The state in process is the old or the merged one. -/
  memory : after.lockoutMem = world.lockoutMem ∨
    ∃ vault, world.Stores vault ∧ after.lockoutMem = world.merged vault
  /-- Every new effect is a prompt. -/
  trace : ∃ added, after.trace = added ++ world.trace ∧ ∀ effect ∈ added, effect.isPrompt = true

/-- The counter was advanced by one, the failure time stamped, the state kept in process and
offered to the file. -/
def Advanced (world after : World δ) : Prop :=
  after.lockoutMem.counter = saturatingAdd world.effectiveCounter 1 ∧
    after.lockoutMem.lastFailure = toI64 world.attemptTime ∧
    ∃ vault added stored, world.Stores vault ∧ after.trace = added ++ world.trace ∧
      .written (vault.withLockout after.lockoutMem).toBytes stored ∈ added ∧
      after.file = if stored then some (vault.withLockout after.lockoutMem).toBytes else world.file

/-- What an attempt is to leave behind. -/
structure Accounted (world : World δ) (outcome : Except UnlockError UnlockedApp)
    (after : World δ) : Prop where
  /-- Wrong credentials are reported exactly when a failure was counted. -/
  rejected : outcome = .error .badCredentials ↔ Advanced world after
  /-- A success clears the state in process, and the file's counter unless a write failed. -/
  opened : ∀ app, outcome = .ok app → after.lockoutMem = .reset ∧
    (after.fileState.counter = 0 ∨ after.file = world.file ∧
      ∃ added bytes, after.trace = added ++ world.trace ∧ .written bytes false ∈ added)
  /-- Any other error leaves the file and does not advance the effective counter. -/
  other : ∀ error, outcome = .error error → error ≠ .badCredentials →
    after.file = world.file ∧ after.effectiveCounter ≤ world.effectiveCounter

omit [Platform δ] in
/-- The merged counter is the effective one. -/
theorem World.Stores.merged_counter {world : World δ} {vault : Vault}
    (stored : world.Stores vault) : (world.merged vault).counter = world.effectiveCounter := by
  rw [World.effectiveCounter, stored.fileState]
  rfl

omit [Platform δ] in
/-- A quiet step keeps the effective counter. -/
theorem Quiet.effectiveCounter {world after : World δ} (quiet : Quiet world after) :
    after.effectiveCounter = world.effectiveCounter := by
  have same : after.fileState = world.fileState := by
    rw [World.fileState, quiet.file]
    rfl
  rcases quiet.memory with kept | ⟨vault, stored, merged⟩
  · rw [World.effectiveCounter, same, kept]
    rfl
  · rw [World.effectiveCounter, same, merged, stored.merged_counter, World.effectiveCounter]
    exact max_max _ _

/-- A quiet step does not advance the counter. -/
theorem Quiet.not_advanced {world after : World δ} (quiet : Quiet world after) :
    ¬ Advanced world after := by
  rintro ⟨_, _, vault, added, stored, _, traced, wrote, _⟩
  obtain ⟨prompts, sameTrace, prompt⟩ := quiet.trace
  obtain rfl := List.append_cancel_right (traced.symm.trans sameTrace)
  cases prompt _ wrote

/-- The gates are quiet. -/
theorem Admission.quiet {world after : World δ}
    {outcome : Except UnlockError (Vault × LockoutState × Timestamp)}
    (gate : Admission world outcome after) : Quiet world after := by
  cases gate with
  | software => exact ⟨rfl, .inl rfl, [], rfl, by simp⟩
  | unreadable => exact ⟨rfl, .inl rfl, [], rfl, by simp⟩
  | outOfRange => exact ⟨rfl, .inl rfl, [], rfl, by simp⟩
  | lockedOut _ stored _ => exact ⟨rfl, .inr ⟨_, stored, rfl⟩, [], rfl, by simp⟩
  | admitted _ stored => exact ⟨rfl, .inr ⟨_, stored, rfl⟩, [], rfl, by simp⟩

omit [Platform δ] in
/-- Prompts after a quiet step are quiet. -/
theorem Quiet.prompts {world middle after : World δ} (quiet : Quiet world middle)
    (frame : Frame Effect.isPrompt middle after) : Quiet world after := by
  obtain ⟨early, traced, prompts⟩ := quiet.trace
  obtain ⟨late, retraced, more⟩ := frame.trace
  refine ⟨frame.file.trans quiet.file, frame.lockoutMem ▸ quiet.memory, late ++ early, ?_, ?_⟩
  · rw [retraced, traced, List.append_assoc]
  · intro effect member
    rcases List.mem_append.mp member with inLate | inEarly
    · exact more effect inLate
    · exact prompts effect inEarly

end States

section Unlock

variable {δ : Type} [Platform δ] [Crates]

omit [Crates] in
/-- Presenting the factors is quiet and never reports wrong credentials. -/
theorem Presentation.quiet {world after : World δ} {outcome : Except UnlockError Presented}
    (presentation : Presentation world outcome after) :
    Quiet world after ∧ outcome ≠ .error .badCredentials := by
  cases presentation with
  | refused gate => exact ⟨gate.quiet, by cases gate <;> simp⟩
  | unwrapFailed gate frame =>
    refine ⟨gate.quiet.prompts frame, fun same => ?_⟩
    exact mapHsmUnlock_ne_badCredentials _ (Except.error.inj same)
  | presented gate frame => exact ⟨gate.quiet.prompts frame, by simp⟩

omit [Crates] in
/-- The state an admitted attempt works with. -/
theorem Presentation.gate {world after : World δ} {presented : Presented}
    (presentation : Presentation world (.ok presented) after) :
    world.Stores presented.vault ∧ presented.vault.kdfParams.withinLimits = true ∧
      presented.state = world.merged presented.vault ∧ presented.now = world.attemptTime ∧
      (world.merged presented.vault).remaining world.attemptTime = none := by
  cases presentation with
  | presented gate frame =>
    generalize shape : (Except.ok (presented.vault, presented.state, presented.now) :
      Except UnlockError _) = outcome at gate
    cases gate with
    | admitted permitted stored limits free =>
      obtain ⟨rfl, rest⟩ := Prod.mk.inj (Except.ok.inj shape)
      obtain ⟨state, now⟩ := Prod.mk.inj rest
      exact ⟨stored, limits, state, now, free⟩
    | _ => cases shape

/-- Whether every key that an attempt derives can be derived: the hardware key has 32 bytes, the
available memory suffices, and Argon2 accepts the header's parameters. -/
def World.Derivable (world : World δ) (password code : String) : Prop :=
  ∀ presented reached, presentFactors code world = (.ok presented, reached) →
    presented.valid = true →
      presented.kHsm.length = keyLen ∧
      (∀ available ∈ (Platform.availableMemoryKib reached.device).1,
        memoryCostFits presented.vault.kdfParams.mKib available = true) ∧
      ∃ key, Crates.argon2 (utf8 password) presented.vault.salt.val presented.vault.kdfParams =
        .ok key

/-- The condition is what the derivation needs. -/
theorem derives_iff {password code : String} {world reached : World δ} {presented : Presented}
    (presents : presentFactors code world = (.ok presented, reached)) :
    (∃ kMaster, (deriveMasterFromBytes password presented.vault.salt presented.vault.kdfParams
        presented.kHsm reached).1 = .ok kMaster) ↔
      presented.kHsm.length = keyLen ∧
      (∀ available ∈ (Platform.availableMemoryKib reached.device).1,
        memoryCostFits presented.vault.kdfParams.mKib available = true) ∧
      ∃ key, Crates.argon2 (utf8 password) presented.vault.salt.val presented.vault.kdfParams =
        .ok key := by
  have limits := (presentFactors_cases presents).gate.2.1
  rcases derives : deriveMasterFromBytes password presented.vault.salt presented.vault.kdfParams
    presented.kHsm reached with ⟨outcome, after⟩
  obtain ⟨_, exactly⟩ := deriveMasterFromBytes_cases derives
  constructor
  · rintro ⟨kMaster, derived⟩
    obtain ⟨sized, kPw, hashed, _⟩ := (exactly kMaster).mp derived
    obtain ⟨_, fits, accepted⟩ := argon2idWithinMemory_eq_ok.mp hashed
    exact ⟨sized, fits, kPw, accepted⟩
  · rintro ⟨sized, fits, key, accepted⟩
    exact ⟨_, (exactly _).mpr ⟨sized, key, argon2idWithinMemory_eq_ok.mpr ⟨limits, fits, accepted⟩,
      rfl⟩⟩

omit [Crates] in
/-- A counted failure advances the counter. -/
theorem advanced_of_counted {world reached settled : World δ} {presented : Presented}
    (presentation : Presentation world (.ok presented) reached)
    (frame : Frame Effect.isPrompt reached settled) (last : δ) (stored : Bool) :
    Advanced world ({ settled with
      lockoutMem := presented.state.afterFailure presented.now
      trace := .counted presented.now :: settled.trace }.afterWrite last
        (presented.vault.withLockout (presented.state.afterFailure presented.now)).toBytes
          stored) := by
  obtain ⟨stores, _, state, now, _⟩ := presentation.gate
  have quiet := presentation.quiet.1.prompts frame
  obtain ⟨added, traced, _⟩ := quiet.trace
  refine ⟨?_, ?_, presented.vault, .written _ stored :: .counted presented.now :: added, stored,
    stores, ?_, List.mem_cons_self, ?_⟩
  · change saturatingAdd presented.state.counter 1 = _
    rw [state, stores.merged_counter]
  · change toI64 presented.now = _
    rw [now]
  · change Effect.written _ stored :: Effect.counted presented.now :: settled.trace = _
    rw [traced]
    rfl
  · change (if stored then some _ else settled.file) = _
    rw [quiet.file]
    rfl

omit [Crates] in
/-- A reset leaves the state clear in process, and in the file unless a write failed. -/
theorem resetLockout_clears {world reached settled after : World δ} {presented : Presented}
    (presentation : Presentation world (.ok presented) reached)
    (frame : Frame Effect.isPrompt reached settled)
    (reset : resetLockout (ε := UnlockError) presented.vault settled = (.ok (), after)) :
    after.lockoutMem = .reset ∧ (after.fileState.counter = 0 ∨ after.file = world.file ∧
      ∃ added bytes, after.trace = added ++ world.trace ∧ .written bytes false ∈ added) := by
  obtain ⟨stores, _⟩ := presentation.gate
  have quiet := presentation.quiet.1.prompts frame
  obtain ⟨_, ⟨clean, rfl⟩ | ⟨last, stored, _, rfl⟩⟩ := resetLockout_cases reset
  · refine ⟨rfl, .inl ?_⟩
    have same : World.fileState { settled with lockoutMem := .reset } =
        world.fileState := by
      rw [World.fileState, World.fileState, ← quiet.file]
    rw [same, stores.fileState, clean]
    rfl
  · refine ⟨rfl, ?_⟩
    cases stored with
    | true =>
      refine .inl ?_
      simp only [World.fileState, World.afterWrite, if_true, Option.map_some,
        stores.rewritten]
      rfl
    | false =>
      obtain ⟨added, traced, _⟩ := quiet.trace
      refine .inr ⟨quiet.file, _ :: added, (presented.vault.withLockout .reset).toBytes, ?_,
        List.mem_cons_self⟩
      exact congrArg (Effect.written _ false :: ·) traced

/-- Whatever the file, the device, the password, the code and the lockout state, an attempt is
accounted for if and only if every key it derives can be derived. -/
theorem unlock_accounted_iff (password code : String) (world : World δ) :
    Accounted world (unlock password code world).1 (unlock password code world).2 ↔
      world.Derivable password code := by
  rcases ran : unlock password code world with ⟨outcome, after⟩
  have attempt := unlock_cases ran
  -- An attempt that is quiet and reports something else is accounted for.
  have spared {error : UnlockError} (quiet : Quiet world after) (other : error ≠ .badCredentials)
      (same : outcome = .error error) : Accounted world outcome after := by
    subst same
    refine ⟨iff_of_false (fun clash => other (Except.error.inj clash)) quiet.not_advanced,
      by simp, fun _ _ _ => ⟨quiet.file, ?_⟩⟩
    rw [quiet.effectiveCounter]
    exact UInt64.le_refl _
  -- A presentation with a valid code is the only one the condition speaks of.
  have derivable {presented : Presented} {reached : World δ}
      (presents : presentFactors code world = (.ok presented, reached))
      (derived : presented.valid = true → ∃ kMaster, (deriveMasterFromBytes password
        presented.vault.salt presented.vault.kdfParams presented.kHsm reached).1 = .ok kMaster) :
      world.Derivable password code := by
    intro other final represents valid
    obtain ⟨same, rfl⟩ := Prod.mk.inj (presents.symm.trans represents)
    obtain rfl := Except.ok.inj same
    exact (derives_iff presents).mp (derived valid)
  cases attempt with
  | unpresented presents =>
    obtain ⟨quiet, other⟩ := (presentFactors_cases presents).quiet
    refine iff_of_true (spared quiet (fun same => other (congrArg _ same)) rfl) ?_
    intro presented reached represents _
    rw [presents] at represents
    cases represents
  | @counted presented reached settled last stored presents frame cause _ =>
    have advanced := advanced_of_counted (presentFactors_cases presents) frame last stored
    refine iff_of_true ⟨iff_of_true rfl advanced, by simp, fun error same other => ?_⟩ ?_
    · exact absurd (Except.error.inj same).symm other
    · refine derivable presents fun valid => cause.resolve_left ?_
      rw [valid]
      simp
  | underivable presents frame valid failed =>
    have quiet := (presentFactors_cases presents).quiet.1.prompts frame
    refine iff_of_false (fun accounted => ?_) (fun condition => ?_)
    · exact quiet.not_advanced (accounted.rejected.mp rfl)
    · obtain ⟨kMaster, derived⟩ := (derives_iff presents).mpr (condition _ _ presents valid)
      rw [failed] at derived
      cases derived
  | corrupt presents frame derived =>
    have quiet := (presentFactors_cases presents).quiet.1.prompts frame
    exact iff_of_true (spared quiet (by simp) rfl) (derivable presents fun _ => derived)
  | opened presents frame derived probe index reset =>
    obtain ⟨memory, cleared⟩ := resetLockout_clears (presentFactors_cases presents) frame reset
    refine iff_of_true ⟨iff_of_false (by simp) ?_, fun _ _ => ⟨memory, cleared⟩, by simp⟩
      (derivable presents fun _ => ⟨_, derived⟩)
    rintro ⟨counter, _⟩
    have zero := congrArg LockoutState.counter memory
    exact saturatingAdd_one_ne_zero _ (counter.symm.trans zero)

end Unlock

/-- With a valid code but without the memory to derive a key, an attempt reports wrong credentials
and counts nothing. -/
theorem underivable_attempt_is_not_accounted :
    letI := Reference.crates
    let world := { Reference.created with
      device := { Reference.created.device with availableKib := some 0 } }
    let attempt := unlock "pw" Reference.currentCode world
    ¬ Accounted world attempt.1 attempt.2 := by
  let _ := Reference.crates
  intro world attempt accounted
  have reported : attempt.1 = .error .badCredentials := by decide +kernel
  exact absurd (accounted.rejected.mp reported).1 (by decide +kernel)

end Passman
