import Passman.Core.Instance
import Passman.Lib.Run
import Passman.Reference.Device

/-!
# Accepted codes over runs

One verifier serves every check of a code on an instance, and its cache is the last
accepted step. As long as the verifier is kept, accepted steps strictly increase, so no
step is accepted twice for a seed. Recording a configuration drops the verifier and its
cache with it.
-/
namespace Passman

open Bytewise Fallible Words Transition

/-- The seed and the step of an accepted code. -/
def Effect.acceptedPair : Effect → Option (Bytes × UInt64)
  | accepted seed step => some (seed, step)
  | _ => none

section Cache

variable {δ : Type}

/-- The accepted seeds and steps, newest first. -/
def World.accepted (world : World δ) : List (Bytes × UInt64) :=
  world.trace.filterMap Effect.acceptedPair

/-- The accepted steps, newest first. -/
def World.acceptedSteps (world : World δ) : List UInt64 := world.accepted.map Prod.snd

/-- The last accepted step in the cache of the verifier. -/
def World.cachedStep (world : World δ) : Option UInt64 :=
  world.verifier.bind TotpVerifier.lastAcceptedStep

/-- Accepted steps increase, and the cache holds the last of them. -/
structure World.Unreplayed (world : World δ) : Prop where
  /-- Every accepted step is later than those before. -/
  increasing : world.acceptedSteps.Pairwise fun newer older => older < newer
  /-- The cache holds the last accepted step. -/
  cached : world.cachedStep = world.acceptedSteps.head?

/-- Nothing was accepted, and the cache is empty. -/
structure World.Unused (world : World δ) : Prop where
  /-- No code was accepted. -/
  accepted : world.accepted = []
  /-- The cache is empty. -/
  cached : world.cachedStep = none

/-- An instance on which nothing was accepted is free of replays. -/
theorem World.Unused.unreplayed {world : World δ} (unused : world.Unused) : world.Unreplayed := by
  have steps : world.acceptedSteps = [] := by rw [acceptedSteps, unused.accepted, List.map_nil]
  refine ⟨?_, ?_⟩
  · rw [steps]
    exact .nil
  · rw [steps, unused.cached]
    rfl

/-- With an empty cache nothing was accepted. -/
theorem World.Unreplayed.unused {world : World δ} (unreplayed : world.Unreplayed)
    (empty : world.cachedStep = none) : world.Unused := by
  have none : world.acceptedSteps.head? = none := unreplayed.cached.symm.trans empty
  have steps : world.acceptedSteps = [] := List.head?_eq_none_iff.mp none
  exact ⟨List.map_eq_nil_iff.mp steps, empty⟩

/-- Increasing steps are accepted once each, for any seed. -/
theorem World.Unreplayed.nodup {world : World δ} (unreplayed : world.Unreplayed) :
    world.accepted.Nodup := by
  have apart : world.acceptedSteps.Nodup := by
    refine unreplayed.increasing.imp fun {newer older} later same => ?_
    rw [same] at later
    exact UInt64.lt_irrefl _ later
  exact List.Nodup.of_map Prod.snd apart

/-- A step after the first of increasing steps is after all of them. -/
theorem lt_of_head_lt {steps : List UInt64} {step : UInt64}
    (increasing : steps.Pairwise fun newer older => older < newer)
    (later : ∀ last ∈ steps.head?, last < step) : ∀ older ∈ steps, older < step := by
  intro older member
  cases steps with
  | nil => cases member
  | cons last rest =>
    have first : last < step := later last rfl
    rcases List.mem_cons.mp member with rfl | earlier
    · exact first
    · exact UInt64.lt_trans (List.rel_of_pairwise_cons increasing earlier) first

/-- The condition is kept. -/
def Carries (condition : World δ → Prop) (before after : World δ) : Prop :=
  condition before → condition after

/-- An effect that accepts no code does not change what was accepted. -/
theorem accepted_note (world : World δ) {effect : Effect} (other : effect.isAccepted = false) :
    World.accepted { world with trace := effect :: world.trace } = world.accepted := by
  cases effect with
  | accepted => cases other
  | _ => rfl

/-- Primitive steps that accept no code keep every condition on what was accepted and on the
cache. -/
theorem Writes.carries [Platform δ] {condition : World δ → Prop}
    (same : ∀ before after : World δ, after.accepted = before.accepted →
      after.cachedStep = before.cachedStep → condition before → condition after) :
    Writes (Carries condition) where
  refl _ holds := holds
  trans _ _ _ early late holds := late (early holds)
  device world _ := same world _ rfl rfl
  noted world _ other _ := same world _ (accepted_note world other) rfl
  derived world _ _ _ _ := same world _ rfl rfl
  stored world _ := same world _ rfl rfl
  lockout world _ := same world _ rfl rfl

/-- Primitive steps that accept no code keep an instance free of replays. -/
theorem Writes.unreplayed [Platform δ] : Writes (Carries (World.Unreplayed (δ := δ))) := by
  refine Writes.carries fun before after accepted cached unreplayed => ⟨?_, ?_⟩
  · rw [World.acceptedSteps, accepted]
    exact unreplayed.increasing
  · rw [cached, World.acceptedSteps, accepted]
    exact unreplayed.cached

/-- Primitive steps that accept no code keep an unused instance unused. -/
theorem Writes.unused [Platform δ] : Writes (Carries (World.Unused (δ := δ))) := by
  refine Writes.carries fun before after accepted cached unused => ⟨?_, ?_⟩
  · exact accepted.trans unused.accepted
  · exact cached.trans unused.cached

/-- Recording a configuration keeps an unused instance unused. -/
theorem unused_configured (world : World δ) (config : TotpConfig) :
    Carries World.Unused world { world with totpConfig := config, verifier := none } :=
  fun unused => ⟨unused.accepted, rfl⟩

variable [Platform δ] [Crates]

/-- The verifier of the instance accepts the code for the seed at the clock's reading. -/
def World.Accepts (world : World δ) (seed : Bytes) (code : String) : Prop :=
  ∃ next, (world.verifier.getD (.new world.totpConfig)).verify seed code
    (Platform.now world.device).1 = .ok next

/-- A code is reported valid exactly when the verifier accepts it. -/
theorem verifyTotp_fst_iff (seed : Bytes) (code : String) (world : World δ) :
    (verifyTotp seed code world).1 = true ↔ world.Accepts seed code := by
  simp only [verifyTotp, World.Accepts]
  cases (world.verifier.getD (.new world.totpConfig)).verify seed code
      (Platform.now world.device).1 with
  | error error => simp
  | ok next => simp

/-- A rejected code leaves the cache as it was; the verifier may have been built on the way. -/
theorem verifyTotp_rejected {seed : Bytes} {code : String} {world : World δ}
    (rejected : (verifyTotp seed code world).1 = false) :
    (verifyTotp seed code world).2.cachedStep = world.cachedStep ∧
      (verifyTotp seed code world).2.accepted = world.accepted := by
  simp only [verifyTotp] at rejected ⊢
  cases checked : (world.verifier.getD (.new world.totpConfig)).verify seed code
      (Platform.now world.device).1 with
  | ok next =>
    rw [checked] at rejected
    cases rejected
  | error error =>
    refine ⟨?_, rfl⟩
    cases verifier : world.verifier with
    | none => simp [World.cachedStep, verifier, TotpVerifier.new]
    | some verifier => simp [World.cachedStep, verifier]

/-- Checking a code does not touch the file. -/
theorem verifyTotp_file (seed : Bytes) (code : String) (world : World δ) :
    (verifyTotp seed code world).2.file = world.file := by
  simp only [verifyTotp]
  cases (world.verifier.getD (.new world.totpConfig)).verify seed code
    (Platform.now world.device).1 <;> rfl

/-- Checking a code keeps an instance free of replays: an accepted step is later than the cached
one. -/
theorem unreplayed_verifyTotp (seed : Bytes) (code : String) (world : World δ) :
    Carries World.Unreplayed world (verifyTotp seed code world).2 := by
  intro unreplayed
  cases valid : (verifyTotp seed code world).1 with
  | false =>
    obtain ⟨cached, accepted⟩ := verifyTotp_rejected valid
    refine ⟨?_, ?_⟩
    · rw [World.acceptedSteps, accepted]
      exact unreplayed.increasing
    · rw [cached, World.acceptedSteps, accepted]
      exact unreplayed.cached
  | true =>
    obtain ⟨next, checked⟩ := (verifyTotp_fst_iff seed code world).mp valid
    obtain ⟨step, rfl, _, _, later⟩ := TotpVerifier.verify_ok checked
    have cached : ∀ last ∈ world.acceptedSteps.head?, last < step := by
      intro last first
      rw [← unreplayed.cached] at first
      cases verifier : world.verifier with
      | none => simp [World.cachedStep, verifier] at first
      | some verifier =>
        rw [World.cachedStep, verifier] at first
        rw [verifier] at later
        exact later last first
    simp only [verifyTotp, checked]
    refine ⟨?_, rfl⟩
    exact List.Pairwise.cons (lt_of_head_lt unreplayed.increasing cached) unreplayed.increasing

end Cache

section Runs

variable {δ κ : Type} [Platform δ] [Clipboard κ] [Crates]

/-- The call stores a vault and gets to replace the verifier. -/
def Instance.Reconfigures (inst : Instance δ κ) : Call → Prop
  | .createVault password kdf _ =>
    ∃ stored, (createStored password kdf inst.world).1 = .ok stored
  | .importRecovery file password kdf _ =>
    ∃ stored, (restoreStored file password kdf inst.world).1 = .ok stored
  | _ => False

/-- The verifier is replaced only while it has accepted no code. -/
def Instance.KeepsCache (inst : Instance δ κ) (call : Call) : Prop :=
  inst.Reconfigures call → inst.world.cachedStep = none

/-- What stores a vault and replaces the verifier keeps an instance free of replays if the vault is
not stored or the cache is empty. -/
theorem unreplayed_install {stored : Act δ CoreError (Vault × MasterKey × Key)}
    (kept : Op.Keeps (Carries World.Unreplayed) stored)
    (unused : Op.Keeps (Carries World.Unused) stored) (config : TotpConfig) {world : World δ}
    (unreplayed : world.Unreplayed)
    (keeps : (∃ made, (stored world).1 = .ok made) → world.cachedStep = none) :
    World.Unreplayed ((stored >>= openStored config) world).2 := by
  rcases ran : stored world with ⟨outcome, reached⟩
  cases outcome with
  | error error =>
    have same := kept world unreplayed
    rw [ran] at same
    rw [Op.bind_error ran]
    exact same
  | ok made =>
    have empty := unreplayed.unused (keeps ⟨made, by rw [ran]⟩)
    have same := unused world empty
    rw [ran] at same
    rw [Op.bind_ok ran]
    exact (keeps_openStored .unused unused_configured config made reached same).unreplayed

/-- A call that keeps the cache keeps the instance free of replays. -/
theorem Instance.step_unreplayed (inst : Instance δ κ) (call : Call)
    (unreplayed : inst.world.Unreplayed) (keeps : inst.KeepsCache call) :
    (inst.step call).world.Unreplayed := by
  cases installs : call.installs with
  | false => exact step_keeps inst installs .unreplayed unreplayed_verifyTotp unreplayed
  | true =>
    cases call with
    | createVault password kdf config =>
      have kept := unreplayed_install (keeps_createStored .unreplayed password kdf)
        (keeps_createStored .unused password kdf) config unreplayed keeps
      rw [← createVault_parts] at kept
      rwa [Instance.step, Instance.opens, Op.map_state]
    | importRecovery file password kdf config =>
      have kept := unreplayed_install (keeps_restoreStored .unreplayed file password kdf)
        (keeps_restoreStored .unused file password kdf) config unreplayed keeps
      rw [← importRecovery_parts] at kept
      rwa [Instance.step, Instance.opens, Op.map_state]
    | _ => cases installs

/-- In every run of calls on one instance, with any number of sessions, in which creations and
restorations get to replace the verifier only before the first accepted code, no step is accepted
twice for a seed. -/
theorem accepted_codes_are_distinct (device : δ) (file : Option Bytes) (kind : HsmKind)
    (allowSoftwareHsm : Bool) (clipboard : κ) (calls : List Call)
    (keeps : Along Instance.step Instance.KeepsCache
      (.start (.opened device file kind allowSoftwareHsm []) clipboard) calls) :
    (run Instance.step (.start (.opened device file kind allowSoftwareHsm []) clipboard)
      calls).world.accepted.Nodup := by
  have unused : (World.opened device file kind allowSoftwareHsm []).Unused := ⟨rfl, rfl⟩
  have kept (inst : Instance δ κ) (call : Call) (unreplayed : inst.world.Unreplayed)
      (keeps : inst.KeepsCache call) : (inst.step call).world.Unreplayed :=
    inst.step_unreplayed call unreplayed keeps
  exact (run_invariant kept unused.unreplayed keeps).nodup

end Runs

/-- A recovery file of the vault the reference device creates. -/
def Reference.recoveryFile : Bytes :=
  letI := Reference.crates
  let payload := ⟨(Reference.draw 32 ⟨0, 2, none⟩).1, Reference.kdfParams, []⟩
  match exportWithinMemory payload "pw" RecoveryPreset.floor.params none (Block.replicate 32 0)
    Reference.nonce with
  | .ok file => file
  | .error _ => []

/-- A code that a session of a created vault accepted is accepted again after the vault was restored
from its recovery file. -/
theorem code_is_accepted_again_after_restoration :
    letI := Reference.crates
    let calls := [.createVault "pw" Reference.kdfParams .default,
      .verifyTotpCode 0 Reference.currentCode,
      .importRecovery Reference.recoveryFile "pw" Reference.kdfParams .default,
      .unlock "pw" Reference.currentCode]
    ¬ (run Instance.step
      (.start Reference.world Reference.clipboard) calls).world.accepted.Nodup := by
  decide +kernel

/-- A vault is created, and one code is checked twice: the second check is refused. -/
theorem accepted_codes_are_distinct_created :
    letI := Reference.crates
    let calls := [.createVault "pw" Reference.kdfParams .default,
      .verifyTotpCode 0 Reference.currentCode, .verifyTotpCode 0 Reference.currentCode]
    (run Instance.step
      (.start Reference.world Reference.clipboard) calls).world.accepted.Nodup := by
  let _ := Reference.crates
  refine accepted_codes_are_distinct Reference.device none .tpm2 false Reference.clipboard _ ?_
  exact ⟨fun _ => rfl, nofun, nofun, trivial⟩

end Passman
