import Passman.Crypto.Params
import Passman.Hsm.Store
import Passman.Lib.Op
import Passman.Lib.Run

/-!
# Backends that carry the material in the blob

The interface of a hardware key store and its histories of calls. A backend changes the
state of its device; a history records every enrolment that was attempted, with its outcome.
A ledger of a backend says which materials its device has sealed: enrolling adds what it
seals, nothing else adds, so along every history the sealed materials are exactly those the
recorded enrolments sealed.
-/
namespace Passman

open Bytewise Fallible

/-- The domain tag of a slot. -/
def HsmSlot.tag : HsmSlot → UInt8
  | vaultKey => 0x00
  | totpSeed => 0x01

/-- The two slots have different tags. -/
theorem HsmSlot.tag_injective : Function.Injective HsmSlot.tag := by
  intro left right same
  cases left <;> cases right <;> first | rfl | exact absurd same (by decide)

/-- The answer to a prompt. -/
inductive PromptResult where
  /-- The user authenticated. -/
  | authenticated
  /-- The user chose a PIN. -/
  | fallbackToPin (pin : String)
  /-- The user cancelled. -/
  | cancelled
  deriving DecidableEq

/-- The prompt of one call: the answer to its reason. -/
abbrev BiometricPrompter := String → Except HsmError PromptResult

/-- What the mock keeps between the phases of an unwrap. -/
structure MockUnwrapState where
  /-- The tag of the requested slot. -/
  slotTag : UInt8
  /-- The nonce read from the payload. -/
  nonce : Nonce
  /-- The ciphertext to decrypt. -/
  ciphertext : Bytes
  /-- A copy of the wrapping key. -/
  key : Key

/-- What the TPM backend keeps between the phases of an unwrap. -/
structure Tpm2UnwrapState where
  /-- The marshalled public area. -/
  publicArea : Bytes
  /-- The private area. -/
  privateArea : Bytes
  /-- The tag of the requested slot. -/
  expectedTag : UInt8

/-- Length of the initialization vector of the Keystore. -/
def gcmIvLen : Nat := 12

/-- What the Android backend keeps between the phases of an unwrap. -/
structure AndroidUnwrapState where
  /-- The name of the key. -/
  keyAlias : String
  /-- The initialization vector read from the payload. -/
  iv : Block gcmIvLen
  /-- The ciphertext to decrypt. -/
  ciphertext : Bytes
  /-- The tag of the requested slot. -/
  slotTag : UInt8

/-- The state behind an unwrap handle, by the backend that made it. -/
inductive HandleInner where
  /-- Made by the mock. -/
  | mock (state : MockUnwrapState)
  /-- Made by the TPM backend. -/
  | tpm2 (state : Tpm2UnwrapState)
  /-- Made by the Android backend. -/
  | android (state : AndroidUnwrapState)

namespace HandleInner

/-- The state of a handle of the mock. -/
def intoMock : HandleInner → Except HsmError MockUnwrapState
  | mock state => .ok state
  | _ => .error (.malformedBlob "unwrap handle was not minted by the mock backend")

/-- The state of a handle of the TPM backend. -/
def intoTpm2 : HandleInner → Except HsmError Tpm2UnwrapState
  | tpm2 state => .ok state
  | _ => .error (.malformedBlob "unwrap handle was not minted by the TPM2 backend")

/-- The state of a handle of the Android backend. -/
def intoAndroid : HandleInner → Except HsmError AndroidUnwrapState
  | android state => .ok state
  | _ => .error (.malformedBlob "unwrap handle was not minted by the Android backend")

end HandleInner

/-- A backend over the state of its device; an enrolment is given the bytes it draws. -/
structure HardwareKeyStore (σ Draw : Type) where
  /-- Wrap the material of a slot. -/
  enroll : HsmSlot → Bytes → BiometricPrompter → Draw → Op σ HsmError WrappedBlob
  /-- Parse a blob for a requested slot. -/
  beginUnwrap : HsmSlot → WrappedBlob → Except HsmError HandleInner
  /-- Release the material of a handle. -/
  completeUnwrap : HandleInner → BiometricPrompter → Op σ HsmError Bytes
  /-- Destroy what a blob refers to. -/
  invalidate : HsmSlot → WrappedBlob → Op σ HsmError Unit

/-- One call of a backend. -/
inductive HsmCall (Draw : Type) where
  /-- Enroll material for a slot. -/
  | enroll (slot : HsmSlot) (material : Bytes) (prompter : BiometricPrompter) (draw : Draw)
  /-- Present a byte string for a slot. -/
  | unwrap (slot : HsmSlot) (bytes : Bytes) (prompter : BiometricPrompter)
  /-- Invalidate a blob. -/
  | invalidate (slot : HsmSlot) (blob : WrappedBlob)

/-- An enrolment that was attempted. -/
structure EnrollAttempt where
  /-- The slot. -/
  slot : HsmSlot
  /-- The material. -/
  material : Bytes
  /-- The blob, or the failure. -/
  outcome : Except HsmError WrappedBlob

/-- The device and the enrolments attempted on it. -/
structure KeyStoreRun (σ : Type) where
  /-- The state of the device. -/
  device : σ
  /-- The attempted enrolments, in order. -/
  attempts : List EnrollAttempt

namespace HardwareKeyStore

variable {σ Draw ε : Type}

/-- Unwrap a byte string for a requested slot, through both phases. -/
def unwrapBytes (store : HardwareKeyStore σ Draw) (slot : HsmSlot) (bytes : Bytes)
    (prompter : BiometricPrompter) : Op σ HsmError Bytes := do
  let blob ← Op.lift (WrappedBlob.fromBytes bytes)
  let handle ← Op.lift (store.beginUnwrap slot blob)
  store.completeUnwrap handle prompter

/-- The run after one more call. -/
def step (store : HardwareKeyStore σ Draw) (state : KeyStoreRun σ) : HsmCall Draw → KeyStoreRun σ
  | .enroll slot material prompter draw =>
    let (outcome, device) := store.enroll slot material prompter draw state.device
    ⟨device, state.attempts ++ [⟨slot, material, outcome⟩]⟩
  | .unwrap slot bytes prompter =>
    { state with device := (store.unwrapBytes slot bytes prompter state.device).2 }
  | .invalidate slot blob => { state with device := (store.invalidate slot blob state.device).2 }

/-- The run of a history from a device nothing was enrolled on. -/
def reached (store : HardwareKeyStore σ Draw) (start : σ) (history : List (HsmCall Draw)) :
    KeyStoreRun σ :=
  Transition.run store.step ⟨start, []⟩ history

/-- The same materials are sealed. -/
def SameSealed (sealed : σ → ε → Prop) (before after : σ) : Prop :=
  ∀ entry, sealed after entry ↔ sealed before entry

/-- What one enrolment changes: the sealed materials stay, only the enrolment adds to them, and
it returns a blob only of what it added. -/
structure Seals (sealed : σ → ε → Prop) (made : ε → EnrollAttempt → Prop)
    (attempt : EnrollAttempt) (before after : σ) : Prop where
  /-- Sealed materials stay. -/
  stays : ∀ entry, sealed before entry → sealed after entry
  /-- Only this enrolment adds. -/
  adds : ∀ entry, sealed after entry → sealed before entry ∨ made entry attempt
  /-- A returned blob is of what was added. -/
  returns : ∀ blob, attempt.outcome = .ok blob → ∃ entry, sealed after entry ∧ made entry attempt

/-- A ledger of a backend: the materials its device has sealed, and which enrolment made each. -/
structure Ledger (store : HardwareKeyStore σ Draw) (sealed : σ → ε → Prop)
    (made : ε → EnrollAttempt → Prop) : Prop where
  /-- Enrolling seals its own material only. -/
  enrolls : ∀ slot material prompter draw before,
    Seals sealed made ⟨slot, material, (store.enroll slot material prompter draw before).1⟩ before
      (store.enroll slot material prompter draw before).2
  /-- Releasing seals nothing. -/
  completes : ∀ handle prompter,
    Op.Keeps (SameSealed sealed) (store.completeUnwrap handle prompter)
  /-- Invalidating seals nothing. -/
  invalidates : ∀ slot blob, Op.Keeps (SameSealed sealed) (store.invalidate slot blob)

section Rules

variable {sealed : σ → ε → Prop} {made : ε → EnrollAttempt → Prop}

/-- Nothing is sealed by doing nothing. -/
theorem SameSealed.refl (state : σ) : SameSealed sealed state state := fun _ => Iff.rfl

/-- Sealing nothing composes. -/
theorem SameSealed.trans (first second third : σ) (early : SameSealed sealed first second)
    (late : SameSealed sealed second third) : SameSealed sealed first third :=
  fun entry => (late entry).trans (early entry)

/-- A result that needs no state seals nothing. -/
theorem SameSealed.lift {η α : Type} (result : Except η α) :
    Op.Keeps (SameSealed sealed) (Op.lift result) := Op.keeps_lift SameSealed.refl result

/-- A sequence of operations that seal nothing seals nothing. -/
theorem SameSealed.bind {η α β : Type} {first : Op σ η α} {next : α → Op σ η β}
    (head : Op.Keeps (SameSealed sealed) first)
    (tail : ∀ value, Op.Keeps (SameSealed sealed) (next value)) :
    Op.Keeps (SameSealed sealed) (first >>= next) := Op.keeps_bind SameSealed.trans head tail

/-- An enrolment that seals nothing and returns no blob. -/
theorem Seals.of_error {slot : HsmSlot} {material : Bytes} {error : HsmError} {before after : σ}
    (same : SameSealed sealed before after) :
    Seals sealed made ⟨slot, material, .error error⟩ before after := by
  refine ⟨?_, ?_, ?_⟩
  · intro entry present
    exact (same entry).mpr present
  · intro entry present
    exact .inl ((same entry).mp present)
  · intro blob returned
    cases returned

/-- An enrolment that seals one material. -/
theorem Seals.of_added {attempt : EnrollAttempt} {before after : σ} {added : ε}
    (grows : ∀ entry, sealed after entry ↔ sealed before entry ∨ entry = added)
    (own : made added attempt) : Seals sealed made attempt before after := by
  refine ⟨?_, ?_, ?_⟩
  · intro entry present
    exact (grows entry).mpr (.inl present)
  · intro entry present
    rcases (grows entry).mp present with old | rfl
    · exact .inl old
    · exact .inr own
  · intro _ _
    exact ⟨added, (grows added).mpr (.inr rfl), own⟩

/-- An enrolment may first do what seals nothing. -/
theorem Seals.after_same {attempt : EnrollAttempt} {before middle after : σ}
    (same : SameSealed sealed before middle) (seals : Seals sealed made attempt middle after) :
    Seals sealed made attempt before after := by
  refine ⟨?_, ?_, seals.returns⟩
  · intro entry present
    exact seals.stays entry ((same entry).mpr present)
  · intro entry present
    rcases seals.adds entry present with old | own
    · exact .inl ((same entry).mp old)
    · exact .inr own

variable {store : HardwareKeyStore σ Draw}

/-- Unwrapping seals nothing. -/
theorem Ledger.unwraps (ledger : Ledger store sealed made) (slot : HsmSlot) (bytes : Bytes)
    (prompter : BiometricPrompter) :
    Op.Keeps (SameSealed sealed) (store.unwrapBytes slot bytes prompter) := by
  unfold unwrapBytes
  apply SameSealed.bind (SameSealed.lift _)
  intro blob
  apply SameSealed.bind (SameSealed.lift _)
  intro handle
  exact ledger.completes handle prompter

/-- Every sealed material was sealed by a recorded enrolment, and every returned blob is of a
sealed material. -/
structure Accounted (sealed : σ → ε → Prop) (made : ε → EnrollAttempt → Prop)
    (state : KeyStoreRun σ) : Prop where
  /-- Sealed materials have their enrolment. -/
  sealedBy : ∀ entry, sealed state.device entry → ∃ attempt ∈ state.attempts, made entry attempt
  /-- Returned blobs have their sealed material. -/
  backed : ∀ attempt ∈ state.attempts, ∀ blob, attempt.outcome = .ok blob →
    ∃ entry, sealed state.device entry ∧ made entry attempt

/-- A call that seals nothing keeps the accounts. -/
theorem Accounted.of_same {state : KeyStoreRun σ} (accounted : Accounted sealed made state)
    {device : σ} (same : SameSealed sealed state.device device) :
    Accounted sealed made { state with device := device } := by
  constructor
  · intro entry present
    exact accounted.sealedBy entry ((same entry).mp present)
  · intro attempt recorded blob returned
    obtain ⟨entry, present, own⟩ := accounted.backed attempt recorded blob returned
    exact ⟨entry, (same entry).mpr present, own⟩

/-- Every call keeps the accounts. -/
theorem Ledger.step_accounted (ledger : Ledger store sealed made) (state : KeyStoreRun σ)
    (call : HsmCall Draw) (accounted : Accounted sealed made state) :
    Accounted sealed made (store.step state call) := by
  cases call with
  | enroll slot material prompter draw =>
    have seals := ledger.enrolls slot material prompter draw state.device
    constructor
    · intro entry present
      rcases seals.adds entry present with old | own
      · obtain ⟨attempt, recorded, made⟩ := accounted.sealedBy entry old
        exact ⟨attempt, List.mem_append_left _ recorded, made⟩
      · exact ⟨_, List.mem_append_right _ (List.mem_singleton.mpr rfl), own⟩
    · intro attempt recorded blob returned
      rcases List.mem_append.mp recorded with old | new
      · obtain ⟨entry, present, own⟩ := accounted.backed attempt old blob returned
        exact ⟨entry, seals.stays entry present, own⟩
      · obtain rfl := List.mem_singleton.mp new
        exact seals.returns blob returned
  | unwrap slot bytes prompter =>
    exact accounted.of_same (ledger.unwraps slot bytes prompter state.device)
  | invalidate slot blob => exact accounted.of_same (ledger.invalidates slot blob state.device)

/-- Along every history, the sealed materials are those of the recorded enrolments. -/
theorem Ledger.reached_accounted (ledger : Ledger store sealed made) (start : σ)
    (fresh : ∀ entry, ¬ sealed start entry) (history : List (HsmCall Draw)) :
    Accounted sealed made (store.reached start history) := by
  apply Transition.run_keeps
  · intro state call accounted
    exact ledger.step_accounted state call accounted
  · constructor
    · intro entry present
      exact absurd present (fresh entry)
    · intro attempt recorded
      cases recorded

end Rules

/-- An unwrap that returned parsed the bytes, began for the slot and released the material. -/
theorem unwrapBytes_ok {store : HardwareKeyStore σ Draw} {slot : HsmSlot} {bytes material : Bytes}
    {prompter : BiometricPrompter} {device : σ}
    (returned : (store.unwrapBytes slot bytes prompter device).1 = .ok material) :
    ∃ blob handle, WrappedBlob.fromBytes bytes = .ok blob ∧
      store.beginUnwrap slot blob = .ok handle ∧
      (store.completeUnwrap handle prompter device).1 = .ok material := by
  have ran : store.unwrapBytes slot bytes prompter device =
      (.ok material, (store.unwrapBytes slot bytes prompter device).2) := Prod.ext returned rfl
  unfold unwrapBytes at ran
  obtain ⟨blob, parsed, rest⟩ := Op.lift_bind_ok ran
  obtain ⟨handle, began, completed⟩ := Op.lift_bind_ok rest
  refine ⟨blob, handle, parsed, began, ?_⟩
  rw [completed]

/-- A blob is unwrapped by completing what it begins. -/
theorem unwrapBytes_toBytes {store : HardwareKeyStore σ Draw} {slot : HsmSlot}
    {blob : WrappedBlob} {handle : HandleInner} (began : store.beginUnwrap slot blob = .ok handle)
    (prompter : BiometricPrompter) (device : σ) :
    store.unwrapBytes slot blob.toBytes prompter device =
      store.completeUnwrap handle prompter device := by
  unfold unwrapBytes
  rw [WrappedBlob.fromBytes_toBytes, Op.lift_bind_run]
  dsimp only
  rw [began, Op.lift_bind_run]

end HardwareKeyStore

end Passman
