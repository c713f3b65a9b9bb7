import Passman.Core.Error
import Passman.Core.Lockout
import Passman.Lib.Op
import Passman.Vault.Format

/-!
# The world of one application instance

What an application instance reads and writes: the device behind it, the vault file, the
options it was opened with, and the state it keeps behind its mutexes. The device
answers every query from a state of its own, so clocks, random draws, prompts and
failures are arbitrary. A trace records the steps other parties can observe.
-/
namespace Passman

open Bytewise Fallible

/-- The step of an atomic write that fails. -/
inductive WriteStep where
  /-- The path has no parent directory. -/
  | resolveParent
  /-- The temporary file cannot be created. -/
  | createTemp
  /-- The temporary file cannot be written. -/
  | writeTemp
  /-- The temporary file cannot be flushed. -/
  | fsyncTemp
  /-- The temporary file cannot be renamed over the target. -/
  | rename
  deriving DecidableEq

/-- The context a failed write reports. -/
def WriteStep.context : WriteStep → String
  | resolveParent => "resolve vault parent directory"
  | createTemp => "create temp vault file"
  | writeTemp => "write temp vault file"
  | fsyncTemp => "fsync temp vault file"
  | rename => "rename temp vault file over target"

/-- What a device answers, from its own state. -/
class Platform (δ : Type) where
  /-- Read the clock. -/
  now : δ → Timestamp × δ
  /-- Measure the available memory, in KiB. -/
  availableMemoryKib : δ → Option UInt64 × δ
  /-- Draw random bytes. -/
  randomBlock : (n : Nat) → δ → Block n × δ
  /-- Draw a version-4 UUID. -/
  newUuid : δ → Block 16 × δ
  /-- Generate a password for a request. -/
  generate : GenerationRequest → δ → Except PolicyError String × δ
  /-- Ask the key store for its own lockout. -/
  lockoutStatus : δ → Except HsmError HsmLockoutStatus × δ
  /-- Enroll material into a slot. -/
  enroll : HsmSlot → Bytes → δ → Except HsmError WrappedBlob × δ
  /-- Begin an unwrap. -/
  beginUnwrap : HsmSlot → WrappedBlob → δ → Except HsmError UnwrapHandle × δ
  /-- Complete an unwrap. -/
  completeUnwrap : UnwrapHandle → δ → Except HsmError Bytes × δ
  /-- Whether the vault file's size cannot be queried. -/
  statFault : δ → Bool × δ
  /-- Whether the vault file cannot be read. -/
  readFault : δ → Bool × δ
  /-- Whether and where the next write fails. -/
  writeFault : δ → Option WriteStep × δ

/-- A step other parties can observe. -/
inductive Effect where
  /-- Material was enrolled into a slot. -/
  | enrolled (slot : HsmSlot) (blob : WrappedBlob)
  /-- An unwrap of a slot was begun. -/
  | unwrapBegun (slot : HsmSlot)
  /-- An Argon2 computation was started, with the available memory measured for it. -/
  | derivationBegun (params : KdfParams) (availableKib : Option UInt64)
  /-- A code was accepted for a seed at a time step. -/
  | accepted (seed : Bytes) (step : UInt64)
  /-- A failed unlock attempt was counted at a time. -/
  | counted (now : Timestamp)
  /-- A write of the vault file was attempted. -/
  | written (bytes : Bytes) (stored : Bool)
  deriving DecidableEq

/-- Whether the effect is the beginning of an unwrap. -/
def Effect.isUnwrap : Effect → Bool
  | unwrapBegun _ => true
  | _ => false

/-- Whether the effect is the start of an Argon2 computation. -/
def Effect.isDerivation : Effect → Bool
  | derivationBegun _ _ => true
  | _ => false

/-- Whether the effect is an accepted code. -/
def Effect.isAccepted : Effect → Bool
  | accepted _ _ => true
  | _ => false

/-- Everything the operations of one application instance read and write. -/
structure World (δ : Type) where
  /-- The device. -/
  device : δ
  /-- The vault file, when it exists. -/
  file : Option Bytes
  /-- The kind of the key store backend. -/
  kind : HsmKind
  /-- Whether a software backend is permitted. -/
  allowSoftwareHsm : Bool
  /-- The recorded TOTP configuration. -/
  totpConfig : TotpConfig
  /-- The long-lived verifier, once one was built. -/
  verifier : Option TotpVerifier
  /-- The in-process lockout state. -/
  lockoutMem : LockoutState
  /-- The observable steps so far, newest first. -/
  trace : List Effect

/-- An operation on the world. -/
abbrev Act (δ ε α : Type) := Op (World δ) ε α

/-- A world in which an instance was just opened. -/
def World.opened {δ : Type} (device : δ) (file : Option Bytes) (kind : HsmKind)
    (allowSoftwareHsm : Bool) (trace : List Effect) : World δ where
  device := device
  file := file
  kind := kind
  allowSoftwareHsm := allowSoftwareHsm
  totpConfig := .default
  verifier := none
  lockoutMem := .reset
  trace := trace

section Primitives

variable {δ ε α : Type}

/-- Ask the device. -/
def ask (query : δ → α × δ) : Act δ ε α := Op.total fun world =>
  let (answer, device) := query world.device
  (answer, { world with device })

/-- Ask the device, failing when it fails. -/
def askFallible (query : δ → Except ε α × δ) : Act δ ε α := fun world =>
  ((query world.device).1, { world with device := (query world.device).2 })

/-- Record an observable step. -/
def note (effect : Effect) : Act δ ε Unit :=
  Op.modify fun world => { world with trace := effect :: world.trace }

variable [Platform δ]

/-- Read the clock. -/
def clockNow : Act δ ε Timestamp := ask Platform.now

/-- Read the clock as signed Unix seconds. -/
def nowUnixSecs : Act δ ε Int64 := do
  let now ← clockNow
  return Words.toI64 now

/-- The largest vault file that is read. -/
def maxVaultBytes : Nat := 64 * 1024 * 1024

/-- Read the vault file, refusing one that is too large. -/
def storageRead : Act δ CoreError Bytes := do
  let world ← Op.get
  let statFault ← ask Platform.statFault
  if statFault then Op.fail (.io "stat vault file")
  else
    match world.file with
    | none => Op.fail (.io "stat vault file")
    | some bytes =>
      if maxVaultBytes < bytes.length then Op.fail (.io "vault file exceeds maximum size")
      else
        let readFault ← ask Platform.readFault
        if readFault then Op.fail (.io "read vault file") else return bytes

/-- Replace the vault file; a failed write leaves it as it was. -/
def atomicWrite (bytes : Bytes) : Act δ CoreError Unit := do
  match ← ask Platform.writeFault with
  | some step =>
    note (.written bytes false)
    Op.fail (.io step.context)
  | none =>
    Op.modify fun world => { world with file := some bytes }
    note (.written bytes true)

/-- Read and parse the vault file. -/
def loadVault : Act δ CoreError Vault := do
  let bytes ← storageRead
  Op.mapError .vault (Op.lift (Vault.fromBytes bytes))

end Primitives

/-- The world after an attempted write. -/
def World.afterWrite {δ : Type} (world : World δ) (device : δ) (bytes : Bytes) (stored : Bool) :
    World δ :=
  { world with
    device
    file := if stored then some bytes else world.file
    trace := .written bytes stored :: world.trace }

/-- The step leaves the file, the options and the lockout state as they are, and adds only effects
of the allowed kinds to the trace. -/
structure Frame {δ : Type} (allowed : Effect → Bool) (before after : World δ) : Prop where
  /-- The file is unchanged. -/
  file : after.file = before.file
  /-- The backend is unchanged. -/
  kind : after.kind = before.kind
  /-- The software option is unchanged. -/
  allowSoftwareHsm : after.allowSoftwareHsm = before.allowSoftwareHsm
  /-- The configuration is unchanged. -/
  totpConfig : after.totpConfig = before.totpConfig
  /-- The in-process lockout state is unchanged. -/
  lockoutMem : after.lockoutMem = before.lockoutMem
  /-- Every added effect is allowed. -/
  trace : ∃ added, after.trace = added ++ before.trace ∧ ∀ effect ∈ added, allowed effect = true

namespace Frame

variable {δ : Type} {allowed : Effect → Bool}

/-- Nothing happened. -/
theorem refl (world : World δ) : Frame allowed world world :=
  ⟨rfl, rfl, rfl, rfl, rfl, [], rfl, by simp⟩

/-- Frames compose. -/
theorem trans {first second third : World δ} (early : Frame allowed first second)
    (late : Frame allowed second third) : Frame allowed first third := by
  obtain ⟨added, traced, kinds⟩ := early.trace
  obtain ⟨more, retraced, moreKinds⟩ := late.trace
  refine ⟨late.file.trans early.file, late.kind.trans early.kind,
    late.allowSoftwareHsm.trans early.allowSoftwareHsm, late.totpConfig.trans early.totpConfig,
    late.lockoutMem.trans early.lockoutMem, more ++ added, ?_, ?_⟩
  · rw [retraced, traced, List.append_assoc]
  · intro effect member
    rcases List.mem_append.mp member with late | early
    · exact moreKinds effect late
    · exact kinds effect early

/-- A frame with fewer effects is a frame. -/
theorem mono {wider : Effect → Bool} (weaken : ∀ effect, allowed effect = true →
    wider effect = true) {before after : World δ} (frame : Frame allowed before after) :
    Frame wider before after := by
  obtain ⟨added, traced, kinds⟩ := frame.trace
  exact { frame with trace := ⟨added, traced, fun effect member => weaken _ (kinds effect member)⟩ }

end Frame

section Facts

variable {δ ε α : Type}

/-- Asking the device changes the device only. -/
@[simp] theorem ask_run (query : δ → α × δ) (world : World δ) :
    (ask query : Act δ ε α) world =
      (.ok (query world.device).1, { world with device := (query world.device).2 }) := rfl

/-- Sequencing after a question. -/
@[simp] theorem ask_bind_run {β : Type} (query : δ → α × δ) (next : α → Act δ ε β)
    (world : World δ) :
    ((ask query : Act δ ε α) >>= next) world =
      next (query world.device).1 { world with device := (query world.device).2 } := rfl

/-- Asking touches nothing but the device. -/
theorem frame_device (allowed : Effect → Bool) (world : World δ) (device : δ) :
    Frame allowed world { world with device } := ⟨rfl, rfl, rfl, rfl, rfl, [], rfl, by simp⟩

variable [Platform δ]

/-- A read changes the device only; it returns the stored file, within the limit, or an I/O
failure. -/
theorem storageRead_cases {world after : World δ} {outcome : Except CoreError Bytes}
    (ran : storageRead world = (outcome, after)) :
    (∃ device, after = { world with device }) ∧
      ((∃ bytes, outcome = .ok bytes ∧ world.file = some bytes ∧ bytes.length ≤ maxVaultBytes) ∨
        ∃ context, outcome = .error (.io context)) := by
  rw [storageRead, Op.get_bind_run, ask_bind_run] at ran
  split at ran
  · obtain ⟨rfl, rfl⟩ := Prod.mk.inj ran
    exact ⟨⟨_, rfl⟩, .inr ⟨_, rfl⟩⟩
  · cases stored : world.file with
    | none =>
      rw [stored] at ran
      obtain ⟨rfl, rfl⟩ := Prod.mk.inj ran
      exact ⟨⟨_, by rw [← stored]⟩, .inr ⟨_, rfl⟩⟩
    | some bytes =>
      simp only [stored] at ran
      split at ran
      · obtain ⟨rfl, rfl⟩ := Prod.mk.inj ran
        exact ⟨⟨_, by rw [← stored]⟩, .inr ⟨_, rfl⟩⟩
      · next small =>
        rw [ask_bind_run] at ran
        split at ran
        · obtain ⟨rfl, rfl⟩ := Prod.mk.inj ran
          exact ⟨⟨_, by rw [← stored]⟩, .inr ⟨_, rfl⟩⟩
        · obtain ⟨rfl, rfl⟩ := Prod.mk.inj ran
          have short : bytes.length ≤ maxVaultBytes := Nat.le_of_not_lt small
          exact ⟨⟨_, by rw [← stored]⟩, .inl ⟨bytes, rfl, rfl, short⟩⟩

/-- What was read is the stored file. -/
theorem storageRead_ok {world after : World δ} {bytes : Bytes}
    (ran : storageRead world = (.ok bytes, after)) :
    world.file = some bytes ∧ bytes.length ≤ maxVaultBytes := by
  obtain ⟨_, ⟨found, same, file⟩ | ⟨_, clash⟩⟩ := storageRead_cases ran
  · rw [Except.ok.inj same]
    exact file
  · cases clash

/-- Loading changes the device only; a loaded vault is what the stored file parses to. -/
theorem loadVault_cases {world after : World δ} {outcome : Except CoreError Vault}
    (ran : loadVault world = (outcome, after)) :
    (∃ device, after = { world with device }) ∧
      ∀ vault, outcome = .ok vault → ∃ bytes, world.file = some bytes ∧
        bytes.length ≤ maxVaultBytes ∧ Vault.fromBytes bytes = .ok vault := by
  rcases Op.bind_cases ran with ⟨bytes, reached, read, rest⟩ | ⟨error, read, rfl⟩
  · obtain ⟨⟨device, rfl⟩, _⟩ := storageRead_cases read
    obtain ⟨stored, small⟩ := storageRead_ok read
    cases parsed : Vault.fromBytes bytes with
    | ok vault =>
      simp only [Op.mapError, Op.lift, parsed] at rest
      obtain ⟨rfl, rfl⟩ := Prod.mk.inj rest
      refine ⟨⟨device, rfl⟩, fun other same => ⟨bytes, stored, small, ?_⟩⟩
      rw [parsed, Except.ok.inj same]
    | error error =>
      simp only [Op.mapError, Op.lift, parsed] at rest
      obtain ⟨rfl, rfl⟩ := Prod.mk.inj rest
      exact ⟨⟨device, rfl⟩, fun _ clash => by cases clash⟩
  · exact ⟨(storageRead_cases read).1, fun _ clash => by cases clash⟩

/-- A file that parses fails to load only with an I/O failure. -/
theorem loadVault_io {world : World δ} {bytes : Bytes} {vault : Vault} {error : CoreError}
    (stored : world.file = some bytes) (parsed : Vault.fromBytes bytes = .ok vault)
    (failed : (loadVault world).1 = .error error) : ∃ context, error = .io context := by
  rcases ran : loadVault world with ⟨outcome, after⟩
  rw [ran] at failed
  rcases Op.bind_cases ran with ⟨found, reached, read, rest⟩ | ⟨cause, read, rfl⟩
  · have same : found = bytes := Option.some.inj ((storageRead_ok read).1.symm.trans stored)
    rw [same] at rest
    simp only [Op.mapError, Op.lift, parsed] at rest
    obtain ⟨rfl, rfl⟩ := Prod.mk.inj rest
    cases failed
  · obtain ⟨_, ⟨_, clash, _, _⟩ | ⟨context, io⟩⟩ := storageRead_cases read
    · cases clash
    · exact ⟨context, (Except.error.inj failed).symm.trans (Except.error.inj io)⟩

/-- A write either stores the bytes or leaves the file; both leave a record. -/
theorem atomicWrite_cases {bytes : Bytes} {world after : World δ} {outcome : Except CoreError Unit}
    (ran : atomicWrite bytes world = (outcome, after)) :
    ∃ device, (outcome = .ok () ∧ after = world.afterWrite device bytes true) ∨
      ∃ step : WriteStep, (Platform.writeFault world.device).1 = some step ∧
        outcome = .error (.io step.context) ∧ after = world.afterWrite device bytes false := by
  rw [atomicWrite, ask_bind_run] at ran
  refine ⟨(Platform.writeFault world.device).2, ?_⟩
  cases fault : (Platform.writeFault world.device).1 with
  | some step =>
    rw [fault] at ran
    obtain ⟨rfl, rfl⟩ := Prod.mk.inj ran
    exact .inr ⟨step, rfl, rfl, rfl⟩
  | none =>
    rw [fault] at ran
    obtain ⟨rfl, rfl⟩ := Prod.mk.inj ran
    exact .inl ⟨rfl, rfl⟩

end Facts

end Passman
