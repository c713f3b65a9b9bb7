import Passman.Core.Accounting
import Passman.Core.Creation
import Passman.Lib.Run
import Passman.Vault.Facts

/-!
# The advisory lockout over runs

Unlock attempts on one created vault file, with restarts of the application instance in
between. The failures recorded since the last success are kept next to the world. While
writes succeed, the header of the file counts them all and stamps the last one, and the
state in process is never ahead of the file, so the window holds across restarts and
against a clock that was set back.
-/
namespace Passman

open Bytewise Fallible Words Transition

/-- What happens to the application instances of one vault file. -/
inductive ThrottleEvent (δ : Type) where
  /-- An unlock attempt. -/
  | attempt (password code : String)
  /-- The process ends, and an instance is opened on the same file. -/
  | restart (device : δ) (kind : HsmKind) (allowSoftwareHsm : Bool)

/-- A world and the recorded failures since the last success, newest first. -/
structure Throttle (δ : Type) where
  /-- The current application instance. -/
  world : World δ
  /-- When each failure was counted. -/
  failures : List Timestamp

/-- The time of a counted failure. -/
def Effect.countedTime : Effect → Option Timestamp
  | counted now => some now
  | _ => none

/-- The effects a step added to the trace. -/
def World.newEffects {δ : Type} (before after : World δ) : List Effect :=
  after.trace.take (after.trace.length - before.trace.length)

/-- The number of failures as the header counts it, clamped at the largest word. -/
def countWord (failures : Nat) : UInt64 := UInt64.ofNat (min failures (2 ^ 64 - 1))

section Steps

variable {δ : Type} [Platform δ] [Crates]

/-- A success clears the failures; any other attempt adds those it counted. -/
def Throttle.step (throttle : Throttle δ) : ThrottleEvent δ → Throttle δ
  | .attempt password code =>
    let (outcome, after) := unlock password code throttle.world
    match outcome with
    | .ok _ => ⟨after, []⟩
    | .error _ => ⟨after,
        (throttle.world.newEffects after).filterMap Effect.countedTime ++ throttle.failures⟩
  | .restart device kind allowSoftwareHsm =>
    ⟨.opened device throttle.world.file kind allowSoftwareHsm throttle.world.trace,
      throttle.failures⟩

end Steps

section Invariant

variable {δ : Type}

/-- The clamped number of failures denotes the smaller of the number and the largest word. -/
theorem countWord_toNat (failures : Nat) :
    (countWord failures).toNat = min failures (2 ^ 64 - 1) := by
  have small : min failures (2 ^ 64 - 1) < 2 ^ 64 := by omega
  rw [countWord, UInt64.toNat_ofNat', Nat.mod_eq_of_lt small]

/-- The effects a step put in front of the trace are the new ones. -/
theorem World.newEffects_of_append {before after : World δ} {added : List Effect}
    (traced : after.trace = added ++ before.trace) : before.newEffects after = added := by
  rw [newEffects, traced, List.length_append, Nat.add_sub_cancel]
  exact List.take_left' rfl

/-- Prompts count no failure. -/
theorem countedTimes_of_prompts {effects : List Effect}
    (prompts : ∀ effect ∈ effects, effect.isPrompt = true) :
    effects.filterMap Effect.countedTime = [] := by
  rw [List.filterMap_eq_nil_iff]
  intro effect member
  have prompt := prompts effect member
  cases effect <;> first | rfl | cases prompt

/-- A rejection counts one failure. -/
theorem newFailures_of_counted {before after : World δ} {added : List Effect} {now : Timestamp}
    (traced : ∃ bytes stored,
      after.trace = .written bytes stored :: .counted now :: (added ++ before.trace))
    (prompts : ∀ effect ∈ added, effect.isPrompt = true) :
    (before.newEffects after).filterMap Effect.countedTime = [now] := by
  obtain ⟨bytes, stored, traced⟩ := traced
  have front : after.trace = (.written bytes stored :: .counted now :: added) ++ before.trace :=
    traced
  rw [World.newEffects_of_append front]
  change now :: added.filterMap Effect.countedTime = [now]
  rw [countedTimes_of_prompts prompts]

/-- The state counts at least the failures and is stamped with the last of them. -/
def LockoutState.Covers (state : LockoutState) : List Timestamp → Prop
  | [] => True
  | last :: earlier =>
    min (earlier.length + 1) (2 ^ 64 - 1) ≤ state.counter.toNat ∧ state.lastFailure = toI64 last

/-- One more failure covers one more failure. -/
theorem LockoutState.Covers.afterFailure {state : LockoutState} {failures : List Timestamp}
    (covers : state.Covers failures) (now : Timestamp) :
    (state.afterFailure now).Covers (now :: failures) := by
  refine ⟨?_, rfl⟩
  have one : (1 : UInt64).toNat = 1 := rfl
  have counted : min failures.length (2 ^ 64 - 1) ≤ state.counter.toNat := by
    cases failures with
    | nil => exact Nat.zero_le _
    | cons last earlier => exact covers.1
  change _ ≤ (saturatingAdd state.counter 1).toNat
  rw [saturatingAdd_toNat, one]
  omega

/-- The file holds a vault within the limits that covers the failures, and the state in process is
not ahead of the last of them. -/
structure Throttle.Engaged (throttle : Throttle δ) : Prop where
  /-- The header in the file covers the failures. -/
  stored : ∃ bytes vault, throttle.world.file = some bytes ∧ Vault.fromBytes bytes = .ok vault ∧
    vault.kdfParams.withinLimits = true ∧ vault.rateLimit.Covers throttle.failures
  /-- The state in process is not stamped later than the last failure. -/
  memory : ∀ last ∈ throttle.failures.head?, throttle.world.lockoutMem.lastFailure ≤ toI64 last

/-- The merged state covers the failures and is stamped with the last of them. -/
theorem Throttle.Engaged.merged {throttle : Throttle δ} (engaged : throttle.Engaged)
    {vault : Vault} (holds : throttle.world.Stores vault) :
    vault.kdfParams.withinLimits = true ∧
      (throttle.world.merged vault).Covers throttle.failures ∧
      ∀ last ∈ throttle.failures.head?,
        (throttle.world.merged vault).lastFailure ≤ toI64 last := by
  obtain ⟨bytes, found, file, parsed, limits, covers⟩ := engaged.stored
  obtain ⟨others, same, _, reparsed⟩ := holds
  obtain rfl := Option.some.inj (file.symm.trans same)
  obtain rfl := Except.ok.inj (parsed.symm.trans reparsed)
  refine ⟨limits, ?_⟩
  cases shape : throttle.failures with
  | nil => exact ⟨trivial, by simp⟩
  | cons last earlier =>
    rw [shape] at covers
    have bounded : throttle.world.lockoutMem.lastFailure ≤ found.rateLimit.lastFailure := by
      rw [covers.2]
      exact engaged.memory last (by rw [shape]; rfl)
    have stamp : (throttle.world.merged found).lastFailure = toI64 last := by
      rw [← covers.2]
      exact max_eq_left_of_le bounded
    have larger : found.rateLimit.counter.toNat ≤
        (throttle.world.merged found).counter.toNat := by
      change _ ≤ (max found.rateLimit.counter throttle.world.lockoutMem.counter).toNat
      rw [max_toNat]
      exact Nat.le_max_left _ _
    refine ⟨⟨covers.1.trans larger, stamp⟩, ?_⟩
    intro other first
    cases first
    rw [stamp]
    exact Int64.le_refl _

variable [Platform δ]

omit [Platform δ] in
/-- A quiet attempt keeps the lockout engaged. -/
theorem Throttle.Engaged.quiet {throttle : Throttle δ} (engaged : throttle.Engaged)
    {after : World δ} (quiet : Quiet throttle.world after) :
    Throttle.Engaged ⟨after, throttle.failures⟩ := by
  refine ⟨?_, ?_⟩
  · rw [quiet.file]
    exact engaged.stored
  · intro last first
    rcases quiet.memory with kept | ⟨vault, holds, adopted⟩
    · rw [kept]
      exact engaged.memory last first
    · rw [adopted]
      exact (engaged.merged holds).2.2 last first

omit [Platform δ] in
/-- A quiet attempt counts no failure. -/
theorem Quiet.newFailures {before after : World δ} (quiet : Quiet before after) :
    (before.newEffects after).filterMap Effect.countedTime = [] := by
  obtain ⟨added, traced, prompts⟩ := quiet.trace
  rw [World.newEffects_of_append traced]
  exact countedTimes_of_prompts prompts

omit [Platform δ] in
/-- Writing the vault that was read with a covering state keeps the lockout engaged. -/
theorem Throttle.engaged_of_written {world before : World δ} {vault : Vault}
    {state : LockoutState} {failures : List Timestamp} (holds : before.Stores vault)
    (limits : vault.kdfParams.withinLimits = true) (covers : state.Covers failures)
    (file : world.file = some (vault.withLockout state).toBytes)
    (memory : ∀ last ∈ failures.head?, world.lockoutMem.lastFailure ≤ toI64 last) :
    Throttle.Engaged ⟨world, failures⟩ :=
  ⟨⟨_, vault.withLockout state, file, holds.rewritten state, limits, covers⟩, memory⟩

/-- A failure that was counted and stored keeps the lockout engaged. -/
theorem Throttle.Engaged.counted {throttle : Throttle δ} (engaged : throttle.Engaged)
    {reached settled : World δ} {presented : Presented}
    (presentation : Presentation throttle.world (.ok presented) reached) (last : δ) :
    Throttle.Engaged ⟨{ settled with
      lockoutMem := presented.state.afterFailure presented.now
      trace := .counted presented.now :: settled.trace }.afterWrite last
        (presented.vault.withLockout (presented.state.afterFailure presented.now)).toBytes true,
      presented.now :: throttle.failures⟩ := by
  obtain ⟨holds, limits, state, _, _⟩ := presentation.gate
  have covers := (engaged.merged holds).2.1
  rw [← state] at covers
  refine engaged_of_written holds limits (covers.afterFailure presented.now) rfl ?_
  intro other first
  cases first
  exact Int64.le_refl _

/-- A reset after a success keeps the lockout engaged, without failures. -/
theorem Throttle.Engaged.opened {throttle : Throttle δ} (engaged : throttle.Engaged)
    (writes : WritesSucceed δ) {reached settled after : World δ} {presented : Presented} {last : δ}
    (presentation : Presentation throttle.world (.ok presented) reached)
    (frame : Frame Effect.isPrompt reached settled)
    (reset : resetLockout (ε := UnlockError) presented.vault settled = (.ok (), after)) :
    Throttle.Engaged ⟨{ after with device := last }, []⟩ := by
  obtain ⟨holds, limits, _⟩ := presentation.gate
  obtain ⟨_, ⟨clean, rfl⟩ | ⟨later, stored, reliable, rfl⟩⟩ := resetLockout_cases reset
  · obtain ⟨bytes, vault, file, parsed, within, _⟩ := engaged.stored
    have same : settled.file = some bytes :=
      frame.file.trans (presentation.quiet.1.file.trans file)
    exact ⟨⟨bytes, vault, same, parsed, within, trivial⟩, by simp⟩
  · rw [reliable writes]
    have covers : LockoutState.reset.Covers [] := trivial
    exact engaged_of_written holds limits covers rfl (by simp)

variable [Crates]

/-- An attempt keeps the lockout engaged. -/
theorem Throttle.Engaged.attempt {throttle : Throttle δ} (engaged : throttle.Engaged)
    (writes : WritesSucceed δ) (password code : String) :
    (throttle.step (.attempt password code)).Engaged := by
  rcases ran : unlock password code throttle.world with ⟨outcome, after⟩
  have attempt := unlock_cases ran
  -- An attempt that failed quietly adds no failure.
  have spared {error : UnlockError} (same : outcome = .error error)
      (quiet : Quiet throttle.world after) :
      (throttle.step (.attempt password code)).Engaged := by
    simp only [step, ran, same, quiet.newFailures, List.nil_append]
    exact engaged.quiet quiet
  cases attempt with
  | unpresented presents =>
    exact spared rfl (presentFactors_cases presents).quiet.1
  | @counted presented reached settled last stored presents frame _ reliable =>
    have presentation := presentFactors_cases presents
    obtain ⟨added, traced, prompts⟩ := (presentation.quiet.1.prompts frame).trace
    generalize same : World.afterWrite _ _ _ _ = final at ran
    have noted : ∃ bytes stored, final.trace =
        .written bytes stored :: .counted presented.now :: (added ++ throttle.world.trace) := by
      rw [← same, ← traced]
      exact ⟨_, stored, rfl⟩
    have recorded := newFailures_of_counted noted prompts
    simp only [step, ran, recorded]
    rw [← same, reliable writes]
    exact engaged.counted presentation last
  | underivable presents frame =>
    exact spared rfl ((presentFactors_cases presents).quiet.1.prompts frame)
  | corrupt presents frame =>
    exact spared rfl ((presentFactors_cases presents).quiet.1.prompts frame)
  | opened presents frame _ _ _ reset =>
    simp only [step, ran]
    exact engaged.opened writes (presentFactors_cases presents) frame reset

/-- Every step keeps the lockout engaged. -/
theorem Throttle.Engaged.step {throttle : Throttle δ} (engaged : throttle.Engaged)
    (writes : WritesSucceed δ) (event : ThrottleEvent δ) : (throttle.step event).Engaged := by
  cases event with
  | attempt password code => exact engaged.attempt writes password code
  | restart device kind allowSoftwareHsm =>
    -- The new instance starts from the reset state, which is stamped with zero.
    exact ⟨engaged.stored, fun last _ => toI64_nonneg last⟩

/-- A created vault starts without failures. -/
theorem Throttle.engaged_created (aead : AeadLaws) (fits : IndexFits .current [])
    {password : String} {kdf : KdfParams} {config : TotpConfig} {before after : World δ}
    {app : UnlockedApp} {uri : String}
    (created : createVault password kdf config before = (.ok (app, uri), after)) :
    Throttle.Engaged ⟨after, []⟩ := by
  obtain ⟨limits, _, _, _, _, _, _, vault, made, _, file⟩ := createVault_ok created
  have formed := Vault.wellFormed_of_create aead fits made
  have same : vault.kdfParams = kdf := by
    obtain ⟨_, _, _, _, _, _, _, _, rfl⟩ := Vault.create_ok_iff.mp made
    rfl
  exact ⟨⟨_, vault, file, Vault.fromBytes_toBytes formed, same ▸ limits, trivial⟩, by simp⟩

end Invariant

section Lockout

variable {δ : Type} [Platform δ] [Crates]

/-- The attempt was refused before any prompt and left the file: for a software backend without the
opt-in, for a file that cannot be read, or for the lockout. -/
structure RefusedEarly (world : World δ) (outcome : Except UnlockError UnlockedApp)
    (after : World δ) : Prop where
  /-- Nothing could be observed, so no unwrap was begun. -/
  trace : after.trace = world.trace
  /-- The file is unchanged. -/
  file : after.file = world.file
  /-- A software backend without the opt-in is refused as such. -/
  software : world.backendRefused = true → outcome = .error .softwareHsmRefused
  /-- A file that cannot be read is reported with the error of the read. -/
  unreadable : ∀ error, world.backendRefused = false → (loadVault world).1 = .error error →
    ∃ context, error = .io context ∧ outcome = .error (.malformedVault (.io context))
  /-- In every other case the lockout is reported. -/
  lockedOut : ∀ vault, world.backendRefused = false → (loadVault world).1 = .ok vault →
    ∃ remaining, outcome = .error (.lockedOut remaining)

/-- While the window of the last failure is in effect, an attempt is refused early. -/
theorem Throttle.Engaged.refuses {throttle : Throttle δ} (engaged : throttle.Engaged)
    {last : Timestamp} {earlier : List Timestamp} (failed : throttle.failures = last :: earlier)
    (enough : 3 ≤ throttle.failures.length) (positive : 0 < last.toNat)
    (small : last.toNat < 2 ^ 63)
    (inside : throttle.world.attemptTime.toNat <
      last.toNat + 60 * (lockoutMinutes (countWord throttle.failures.length)).toNat)
    (password code : String) :
    RefusedEarly throttle.world (unlock password code throttle.world).1
      (unlock password code throttle.world).2 := by
  -- The merged state of a stored vault has a window that is still in effect.
  have window {vault : Vault} (holds : throttle.world.Stores vault) :
      (throttle.world.merged vault).remaining throttle.world.attemptTime ≠ none := by
    have covers := (engaged.merged holds).2.1
    rw [failed] at covers enough inside
    have ordered : countWord (last :: earlier).length ≤
        (throttle.world.merged vault).counter := by
      rw [UInt64.le_iff_toNat_le, countWord_toNat]
      exact covers.1
    have counted : 3 ≤ (throttle.world.merged vault).counter.toNat := by
      rw [UInt64.le_iff_toNat_le, countWord_toNat] at ordered
      omega
    exact LockoutState.remaining_ne_none covers.2 positive small counted
      (lockoutMinutes_mono ordered) inside
  obtain ⟨bytes, vault, file, parsed, limits, _⟩ := engaged.stored
  rcases gates : passGates throttle.world with ⟨outcome, after⟩
  have admission := passGates_cases gates
  have apart (refused : throttle.world.backendRefused = true) :
      throttle.world.backendRefused ≠ false := fun permitted =>
    Bool.false_ne_true (permitted.symm.trans refused)
  have refusal {error : UnlockError} (same : outcome = .error error) :
      unlock password code throttle.world = (.error error, after) := by
    rw [same] at gates
    exact Op.bind_error (Op.bind_error gates)
  cases admission with
  | software refused =>
    rw [refusal rfl]
    exact ⟨rfl, rfl, fun _ => rfl, fun _ permitted => absurd permitted (apart refused),
      fun _ permitted => absurd permitted (apart refused)⟩
  | unreadable permitted unread =>
    obtain ⟨context, rfl⟩ := loadVault_io file parsed unread
    rw [refusal rfl]
    refine ⟨rfl, rfl, fun refused => absurd permitted (apart refused),
      fun error _ again => ⟨context, ?_, rfl⟩, fun vault _ loaded => ?_⟩
    · exact Except.error.inj (again.symm.trans unread)
    · cases unread.symm.trans loaded
  | outOfRange _ holds outside =>
    rw [(engaged.merged holds).1] at outside
    cases outside
  | lockedOut permitted holds loaded =>
    rw [refusal rfl]
    refine ⟨rfl, rfl, fun refused => absurd permitted (apart refused),
      fun error _ unread => ?_, fun _ _ _ => ⟨_, rfl⟩⟩
    cases unread.symm.trans loaded
  | admitted _ holds _ free => exact absurd free (window holds)

/-- In every run of attempts and restarts on a created vault whose writes succeed, once three or
more failures were recorded since the last success, every attempt inside the window of the last one
is refused before any unwrap is begun. -/
theorem lockout_engages (aead : AeadLaws) (fits : IndexFits .current []) (writes : WritesSucceed δ)
    {password : String} {kdf : KdfParams} {config : TotpConfig} {before after : World δ}
    {app : UnlockedApp} {uri : String}
    (created : createVault password kdf config before = (.ok (app, uri), after))
    (events : List (ThrottleEvent δ)) {last : Timestamp} {earlier : List Timestamp}
    (failed : (run Throttle.step ⟨after, []⟩ events).failures = last :: earlier)
    (enough : 3 ≤ (last :: earlier).length) (positive : 1 ≤ last.toNat)
    (small : last.toNat ≤ 2 ^ 63 - 1) (guess code : String)
    (inside : (run Throttle.step ⟨after, []⟩ events).world.attemptTime.toNat <
      last.toNat + 60 * (lockoutMinutes (countWord (last :: earlier).length)).toNat) :
    RefusedEarly (run Throttle.step ⟨after, []⟩ events).world
      (unlock guess code (run Throttle.step ⟨after, []⟩ events).world).1
      (unlock guess code (run Throttle.step ⟨after, []⟩ events).world).2 := by
  have engaged : (run Throttle.step ⟨after, []⟩ events).Engaged :=
    run_keeps (fun _ event engaged => engaged.step writes event)
      (Throttle.engaged_created aead fits created) events
  rw [← failed] at enough inside
  exact engaged.refuses failed enough positive (by omega) inside guess code

end Lockout

/-- Three wrong codes engage the lockout; a restart with the clock set back does not lift it. -/
theorem lockout_engages_after_restart :
    letI := Reference.crates
    let events := List.replicate 3 (ThrottleEvent.attempt "pw" "000000") ++
      [.restart { Reference.created.device with clock := 500 } .tpm2 false]
    let reached := run Throttle.step ⟨Reference.created, []⟩ events
    let attempt := unlock "pw" Reference.currentCode reached.world
    reached.failures = [1000, 1000, 1000] ∧ RefusedEarly reached.world attempt.1 attempt.2 := by
  let _ := Reference.crates
  intro events reached attempt
  have failed : reached.failures = [1000, 1000, 1000] := by decide +kernel
  have inside : reached.world.attemptTime.toNat <
      (1000 : Timestamp).toNat + 60 * (lockoutMinutes (countWord 3)).toNat := by decide +kernel
  have emptyFits : IndexFits .current [] := by
    refine IndexFits.of_length .current fun postcard written => ?_
    obtain rfl := Option.some.inj written
    decide
  have made : ∃ app uri, createVault "pw" Reference.kdfParams .default Reference.world =
      (.ok (app, uri), Reference.created) := by
    have succeeded : (createVault "pw" Reference.kdfParams .default Reference.world).1.isOk =
        true := by decide +kernel
    rcases ran : createVault "pw" Reference.kdfParams .default Reference.world with ⟨outcome, after⟩
    have same : Reference.created = after := congrArg Prod.snd ran
    rw [ran] at succeeded
    cases outcome with
    | ok session => exact ⟨session.1, session.2, by rw [same]⟩
    | error error => cases succeeded
  obtain ⟨app, uri, created⟩ := made
  exact ⟨failed, lockout_engages Reference.aeadLaws emptyFits (fun _ => rfl) created events failed
    (by decide) (by decide) (by decide) "pw" Reference.currentCode inside⟩

/-- An instance on a software backend without the opt-in reports that, and not the lockout. -/
theorem software_gate_precedes_lockout :
    letI := Reference.crates
    let events := List.replicate 3 (ThrottleEvent.attempt "pw" "000000") ++
      [.restart Reference.created.device .softwareMock false]
    let reached := run Throttle.step ⟨Reference.created, []⟩ events
    reached.failures = [1000, 1000, 1000] ∧
      reached.world.attemptTime.toNat <
        (1000 : Timestamp).toNat + 60 * (lockoutMinutes (countWord 3)).toNat ∧
      ¬ ∃ remaining, (unlock "pw" Reference.currentCode reached.world).1 =
        .error (.lockedOut remaining) := by
  let _ := Reference.crates
  intro events reached
  have reported : (unlock "pw" Reference.currentCode reached.world).1 =
      .error .softwareHsmRefused := by decide +kernel
  refine ⟨by decide +kernel, by decide +kernel, ?_⟩
  intro locked
  obtain ⟨remaining, same⟩ := locked
  rw [reported] at same
  cases same

end Passman
