import Passman.Core.App

/-!
# Derivations as observable steps

Every operation checks the cost of a derivation, and only then starts it and leaves a mark.
Apart from the mark, the steps are the functions of the cipher and the recovery format.
-/
namespace Passman

open Bytewise Fallible

variable {δ : Type} [Crates]

/-- The marks in front of the trace. -/
def World.marked (world : World δ) (marks : List Effect) : World δ :=
  { world with trace := marks ++ world.trace }

/-- Marks that only stand for derivations with an accepted cost. -/
def DerivationsOnly (marks : List Effect) : Prop :=
  ∀ effect ∈ marks, ∃ params availableKib, effect = .derivationBegun params availableKib ∧
    checkCost params availableKib = .ok ()

omit [Crates] in
/-- Derivations are marked as such. -/
theorem DerivationsOnly.isDerivation {marks : List Effect} (only : DerivationsOnly marks) :
    ∀ effect ∈ marks, effect.isDerivation = true := by
  intro effect member
  obtain ⟨params, availableKib, rfl, _⟩ := only effect member
  rfl

/-- A started derivation returns what the derivation does, and leaves a mark if its cost was
accepted. -/
theorem startArgon2id_run (password : String) (salt : Bytes) (params : KdfParams)
    (availableKib : Option UInt64) (world : World δ) :
    ∃ marks, DerivationsOnly marks ∧ startArgon2id password salt params availableKib world =
      (argon2idWithinMemory password salt params availableKib, world.marked marks) := by
  cases checked : checkCost params availableKib with
  | error error =>
    refine ⟨[], by simp [DerivationsOnly], ?_⟩
    rw [startArgon2id, argon2idWithinMemory, checked]
    rfl
  | ok accepted =>
    refine ⟨[.derivationBegun params availableKib], ?_, ?_⟩
    · intro effect member
      exact ⟨params, availableKib, List.mem_singleton.mp member, checked⟩
    · rw [startArgon2id, argon2idWithinMemory, checked]
      rfl

/-- The key of a recovery file is derived as the format does it. -/
theorem startRecoveryKey_run (password : String) (salt : Block 32) (params : KdfParams)
    (availableKib : Option UInt64) (world : World δ) :
    ∃ marks, DerivationsOnly marks ∧ startRecoveryKey password salt params availableKib world =
      (deriveRecoveryKey password salt params availableKib, world.marked marks) := by
  obtain ⟨marks, only, ran⟩ := startArgon2id_run password salt.val params availableKib world
  refine ⟨marks, only, ?_⟩
  rw [deriveRecoveryKey]
  cases derived : argon2idWithinMemory password salt.val params availableKib with
  | error error =>
    rw [derived] at ran
    exact Op.bind_error (Op.mapError_error.mpr ⟨error, ran, rfl⟩)
  | ok key =>
    rw [derived] at ran
    exact Op.bind_ok (Op.mapError_ok.mpr ran)

/-- A recovery file is imported as the format does it; nothing happens unless its whole frame is
read. -/
theorem startImport_run (file : Bytes) (password : String) (availableKib : Option UInt64)
    (world : World δ) :
    ∃ marks, DerivationsOnly marks ∧
      (marks ≠ [] → ∃ frame, readImport file = .ok frame) ∧
      startImport file password availableKib world =
        (importWithinMemory file password availableKib, world.marked marks) := by
  cases read : readImport file with
  | error error =>
    refine ⟨[], by simp [DerivationsOnly], fun some => absurd rfl some, ?_⟩
    rw [startImport, importWithinMemory, read]
    rfl
  | ok frame =>
    obtain ⟨marks, only, ran⟩ :=
      startRecoveryKey_run password frame.salt frame.params availableKib world
    refine ⟨marks, only, fun _ => ⟨frame, rfl⟩, ?_⟩
    have next : startImport file password availableKib world = (do
        let key ← startRecoveryKey password frame.salt frame.params availableKib
        Op.lift (openFrame key frame) : Act δ RecoveryError ExportPayload) world := by
      rw [startImport, read]
      rfl
    rw [next, importWithinMemory, read]
    cases derived : deriveRecoveryKey password frame.salt frame.params availableKib with
    | error error =>
      rw [derived] at ran
      simp only [bind, Except.bind, derived]
      exact Op.bind_error ran
    | ok key =>
      rw [derived] at ran
      simp only [bind, Except.bind, derived]
      exact Op.bind_ok ran

/-- A payload is exported as the format does it. -/
theorem startExport_run (payload : ExportPayload) (password : String) (params : KdfParams)
    (availableKib : Option UInt64) (salt : Block 32) (nonce : Nonce) (world : World δ) :
    ∃ marks, DerivationsOnly marks ∧
      startExport payload password params availableKib salt nonce world =
        (exportWithinMemory payload password params availableKib salt nonce,
          world.marked marks) := by
  cases floor : checkFloor params with
  | error error =>
    refine ⟨[], by simp [DerivationsOnly], ?_⟩
    rw [startExport, exportWithinMemory, floor]
    rfl
  | ok accepted =>
    obtain ⟨marks, only, ran⟩ := startRecoveryKey_run password salt params availableKib world
    refine ⟨marks, only, ?_⟩
    have next : startExport payload password params availableKib salt nonce world = (do
        let key ← startRecoveryKey password salt params availableKib
        Op.lift (sealFrame payload key params salt nonce) : Act δ RecoveryError Bytes) world := by
      rw [startExport, floor]
      rfl
    rw [next, exportWithinMemory, floor]
    cases derived : deriveRecoveryKey password salt params availableKib with
    | error error =>
      rw [derived] at ran
      simp only [bind, Except.bind, sealRecovery, derived]
      exact Op.bind_error ran
    | ok key =>
      rw [derived] at ran
      simp only [bind, Except.bind, sealRecovery, derived]
      exact Op.bind_ok ran

section Master

variable [Platform δ]

/-- The world after the available memory was measured. -/
def World.measured (world : World δ) : World δ :=
  { world with device := (Platform.availableMemoryKib world.device).2 }

/-- The master key that is derived with a reading of the available memory. -/
def masterKey (password : String) (salt : Block 32) (kdf : KdfParams) (kHsm : Key)
    (availableKib : Option UInt64) : Except CoreError MasterKey :=
  match argon2idWithinMemory password salt.val kdf availableKib with
  | .ok kPw => .ok (hkdfMaster salt.val (kPw.val ++ kHsm.val) masterInfo)
  | .error error => .error (.crypto error)

/-- A derivation of a master key measures the memory, marks the computation and changes nothing
else. -/
theorem deriveMaster_run (password : String) (salt : Block 32) (kdf : KdfParams) (kHsm : Key)
    (world : World δ) :
    ∃ marks, DerivationsOnly marks ∧ deriveMaster password salt kdf kHsm world =
      (masterKey password salt kdf kHsm (Platform.availableMemoryKib world.device).1,
        world.measured.marked marks) := by
  obtain ⟨marks, only, ran⟩ := startArgon2id_run password salt.val kdf
    (Platform.availableMemoryKib world.device).1 world.measured
  refine ⟨marks, only, ?_⟩
  rw [deriveMaster, ask_bind_run, masterKey]
  cases derived : argon2idWithinMemory password salt.val kdf
      (Platform.availableMemoryKib world.device).1 with
  | error error =>
    rw [derived] at ran
    exact Op.bind_error (Op.mapError_error.mpr ⟨error, ran, rfl⟩)
  | ok key =>
    rw [derived] at ran
    exact Op.bind_ok (Op.mapError_ok.mpr ran)

omit [Platform δ] in
/-- A master key is derived exactly inside the limits, inside the memory, and when the dependency
accepts the parameters. -/
theorem masterKey_ok_iff {password : String} {salt : Block 32} {kdf : KdfParams} {kHsm : Key}
    {availableKib : Option UInt64} {kMaster : MasterKey} :
    masterKey password salt kdf kHsm availableKib = .ok kMaster ↔
      ∃ kPw, argon2idWithinMemory password salt.val kdf availableKib = .ok kPw ∧
        kMaster = hkdfMaster salt.val (kPw.val ++ kHsm.val) masterInfo := by
  rw [masterKey]
  cases argon2idWithinMemory password salt.val kdf availableKib with
  | error error => simp
  | ok kPw => simp [eq_comm]

end Master

end Passman
