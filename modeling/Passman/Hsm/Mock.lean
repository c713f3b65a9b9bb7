import Passman.Crypto.Cipher
import Passman.Hsm.Backend
import Passman.Lib.Slices

/-!
# The software mock

The mock wraps material with the cipher of the program under a key of its own. The payload
stores the tag of the slot, and the cipher binds it in the associated data; the tag of the
requested slot must be the stored one and is what the associated data is rebuilt from. The
state of the device is the record of what was encrypted under the key.
-/
namespace Passman

open Bytewise Fallible HardwareKeyStore

/-- The associated-data domain of the mock. -/
def mockAadDomain : Bytes := utf8 "passman-hsm-mock-v0"

/-- Length of the nonce in the payload. -/
def nonceLen : Nat := 24

/-- The failures the mock can be made to return. -/
inductive MockFailure where
  /-- A transient failure. -/
  | transient
  /-- The backend is absent. -/
  | hardwareAbsent
  /-- The key is permanently invalidated. -/
  | permanentlyInvalidated
  /-- The user cancelled. -/
  | cancelled
  deriving DecidableEq

/-- The error of a forced failure. -/
def MockFailure.toError : MockFailure → HsmError
  | transient => .transient
  | hardwareAbsent => .hardwareAbsent
  | permanentlyInvalidated => .permanentlyInvalidated
  | cancelled => .cancelled

/-- An in-memory key store. -/
structure MockKeyStore where
  /-- The wrapping key. -/
  key : Key
  /-- The failure every operation returns, when set. -/
  forcedFailure : Option MockFailure

/-- A message the mock encrypted under its key. -/
structure Encryption where
  /-- The nonce. -/
  nonce : Nonce
  /-- The associated data. -/
  aad : Bytes
  /-- The message. -/
  message : Bytes
  /-- The ciphertext. -/
  ciphertext : Bytes

/-- Continue after an answer that authenticates; stop when the user cancelled. -/
def PromptResult.accept : PromptResult → Except HsmError Unit
  | authenticated => .ok ()
  | fallbackToPin _ => .ok ()
  | cancelled => .error .cancelled

namespace MockKeyStore

/-- The associated data of a slot: the domain and the tag of the slot. -/
def aad (slot : HsmSlot) : Bytes := mockAadDomain ++ [slot.tag]

/-- The forced failure as an error. -/
def checkForced (store : MockKeyStore) : Except HsmError Unit :=
  match store.forcedFailure with
  | some failure => .error failure.toError
  | none => .ok ()

/-- The payload of a wrapped material. -/
def payload (slot : HsmSlot) (nonce : Nonce) (ciphertext : Bytes) : Bytes :=
  [slot.tag] ++ nonce.val ++ ciphertext

/-- Parse the payload of a blob for a requested slot. -/
def beginUnwrap (store : MockKeyStore) (slot : HsmSlot) (wrapped : WrappedBlob) :
    Except HsmError HandleInner := do
  store.checkForced
  if wrapped.kind ≠ .softwareMock then .error (.malformedBlob "blob kind is not SoftwareMock")
  else
    match wrapped.payload with
    | [] => .error (.malformedBlob "mock payload missing slot tag")
    | storedTag :: rest =>
      match splitAtChecked nonceLen rest with
      | none => .error (.malformedBlob "mock payload truncated before nonce end")
      | some (nonceSlice, ct) =>
        if storedTag ≠ slot.tag then
          .error (.malformedBlob "mock payload slot tag does not match requested slot")
        else .ok (.mock ⟨slot.tag, nonceSlice, ct, store.key⟩)

variable [Crates]

/-- Prompt, encrypt the material for the slot and frame the payload. -/
def enroll (store : MockKeyStore) (slot : HsmSlot) (material : Bytes) (prompter : BiometricPrompter)
    (nonce : Nonce) : Op (List Encryption) HsmError WrappedBlob := do
  Op.lift store.checkForced
  let answer ← Op.lift (prompter "Enroll passman key")
  Op.lift answer.accept
  let ct ← Op.mapError (fun _ => HsmError.backend "mock AEAD encrypt failed")
    (Op.lift (encrypt store.key nonce (aad slot) material))
  Op.modify fun encrypted => encrypted ++ [⟨nonce, aad slot, material, ct⟩]
  Op.lift (WrappedBlob.fromParts .softwareMock (payload slot nonce ct))

/-- Prompt and decrypt the material of a handle. -/
def completeUnwrap (store : MockKeyStore) (handle : HandleInner) (prompter : BiometricPrompter) :
    Op (List Encryption) HsmError Bytes := do
  Op.lift store.checkForced
  let answer ← Op.lift (prompter "Unlock passman key")
  Op.lift answer.accept
  let state ← Op.lift handle.intoMock
  Op.mapError (fun _ => HsmError.backend "mock AEAD decrypt/verify failed")
    (Op.lift (decrypt state.key state.nonce (mockAadDomain ++ [state.slotTag]) state.ciphertext))

/-- Nothing to destroy. -/
def invalidate (store : MockKeyStore) (_slot : HsmSlot) (_wrapped : WrappedBlob) :
    Op (List Encryption) HsmError Unit := Op.lift store.checkForced

/-- The mock as a key store. -/
def keyStore (store : MockKeyStore) : HardwareKeyStore (List Encryption) Nonce where
  enroll := store.enroll
  beginUnwrap := store.beginUnwrap
  completeUnwrap := store.completeUnwrap
  invalidate := store.invalidate

/-- The cipher is ideal for a key: a ciphertext opens only to a message that was encrypted under
the key with the same nonce and associated data, and every encrypted message is returned. -/
structure IdealCipher (key : Key) (encrypted : List Encryption) : Prop where
  /-- Only encrypted messages open. -/
  opens : ∀ nonce aad ciphertext message, Crates.aeadOpen key nonce aad ciphertext = some message →
    ∃ entry ∈ encrypted, entry.nonce = nonce ∧ entry.aad = aad ∧ entry.message = message ∧
      entry.ciphertext = ciphertext
  /-- Encrypted messages are returned. -/
  returns : ∀ entry ∈ encrypted,
    Crates.aeadOpen key entry.nonce entry.aad entry.ciphertext = some entry.message
  /-- A ciphertext carries its tag. -/
  tagged : ∀ entry ∈ encrypted, tagLen ≤ entry.ciphertext.length

/-- The enrolment that made an encryption. -/
structure Made (store : MockKeyStore) (entry : Encryption) (attempt : EnrollAttempt) : Prop where
  /-- No failure is forced. -/
  unforced : store.checkForced = .ok ()
  /-- The slot is bound. -/
  aad : entry.aad = aad attempt.slot
  /-- The material is the message. -/
  message : entry.message = attempt.material
  /-- The outcome is the framed payload. -/
  outcome : attempt.outcome =
    WrappedBlob.fromParts .softwareMock (payload attempt.slot entry.nonce entry.ciphertext)

/-- An enrolment stops before it encrypts, or encrypts the material for its slot. -/
theorem enroll_cases (store : MockKeyStore) (slot : HsmSlot) (material : Bytes)
    (prompter : BiometricPrompter) (nonce : Nonce) (encrypted : List Encryption) :
    (∃ error, store.enroll slot material prompter nonce encrypted = (.error error, encrypted)) ∨
      ∃ ct, store.checkForced = .ok () ∧
        store.enroll slot material prompter nonce encrypted =
          (WrappedBlob.fromParts .softwareMock (payload slot nonce ct),
            encrypted ++ [⟨nonce, aad slot, material, ct⟩]) := by
  unfold enroll
  rw [Op.lift_bind_run]
  cases forced : store.checkForced with
  | error error => exact .inl ⟨error, rfl⟩
  | ok _ =>
    dsimp only
    rw [Op.lift_bind_run]
    cases prompter "Enroll passman key" with
    | error error => exact .inl ⟨error, rfl⟩
    | ok answer =>
      dsimp only
      rw [Op.lift_bind_run]
      cases answer.accept with
      | error error => exact .inl ⟨error, rfl⟩
      | ok _ =>
        dsimp only
        cases sealed : encrypt store.key nonce (aad slot) material with
        | error error => exact .inl ⟨_, rfl⟩
        | ok ct => exact .inr ⟨ct, rfl, rfl⟩

/-- The mock's record of encryptions is a ledger. -/
theorem ledger (store : MockKeyStore) :
    Ledger store.keyStore (fun encrypted entry => entry ∈ encrypted)
      store.Made := by
  constructor
  · intro slot material prompter nonce before
    rcases store.enroll_cases slot material prompter nonce before with
      ⟨error, ran⟩ | ⟨ct, unforced, ran⟩
    · change Seals _ _ ⟨slot, material, (store.enroll _ _ _ _ before).1⟩ before
        (store.enroll _ _ _ _ before).2
      rw [ran]
      exact .of_error (SameSealed.refl before)
    · change Seals _ _ ⟨slot, material, (store.enroll _ _ _ _ before).1⟩ before
        (store.enroll _ _ _ _ before).2
      rw [ran]
      apply Seals.of_added
      · intro entry
        rw [List.mem_append, List.mem_singleton]
      · exact ⟨unforced, rfl, rfl, rfl⟩
  · intro handle prompter
    change Op.Keeps _ (store.completeUnwrap handle prompter)
    unfold completeUnwrap
    apply SameSealed.bind (SameSealed.lift _)
    intro _
    apply SameSealed.bind (SameSealed.lift _)
    intro answer
    apply SameSealed.bind (SameSealed.lift _)
    intro _
    apply SameSealed.bind (SameSealed.lift _)
    intro state
    exact Op.keeps_mapError (SameSealed.lift _)
  · intro slot blob
    exact SameSealed.lift _

omit [Crates] in
/-- The associated data determines the slot. -/
theorem aad_injective : Function.Injective aad := by
  intro left right same
  have tags := List.append_cancel_left same
  exact HsmSlot.tag_injective (List.cons.inj tags).1

omit [Crates] in
/-- An unwrap begins exactly on a payload whose stored tag is the tag of the requested slot. -/
theorem beginUnwrap_ok {store : MockKeyStore} {slot : HsmSlot} {wrapped : WrappedBlob}
    {handle : HandleInner} :
    store.beginUnwrap slot wrapped = .ok handle ↔
      store.checkForced = .ok () ∧ wrapped.kind = .softwareMock ∧
        ∃ nonce ct, wrapped.payload = payload slot nonce ct ∧
          handle = .mock ⟨slot.tag, nonce, ct, store.key⟩ := by
  unfold beginUnwrap
  cases store.checkForced with
  | error error => exact ⟨fun began => (nomatch began), fun ⟨clash, _⟩ => (nomatch clash)⟩
  | ok _ =>
    change (if wrapped.kind ≠ .softwareMock then _ else _) = _ ↔ _
    by_cases foreign : wrapped.kind ≠ .softwareMock
    · rw [if_pos foreign]
      exact ⟨fun began => (nomatch began), fun ⟨_, own, _⟩ => absurd own foreign⟩
    · rw [if_neg foreign]
      have own := not_not.mp foreign
      cases stored : wrapped.payload with
      | nil => exact ⟨fun began => (nomatch began), fun ⟨_, _, _, _, clash, _⟩ => (nomatch clash)⟩
      | cons storedTag rest =>
        dsimp only
        cases split : splitAtChecked nonceLen rest with
        | none =>
          refine ⟨fun began => (nomatch began), ?_⟩
          rintro ⟨_, _, nonce, ct, whole, _⟩
          have tail := (List.cons.inj whole).2
          have again : splitAtChecked nonceLen rest = some (nonce, ct) :=
            splitAtChecked_eq_some.mpr tail
          rw [split] at again
          cases again
        | some parts =>
          obtain ⟨nonce, ct⟩ := parts
          have whole := splitAtChecked_eq_some.mp split
          dsimp only
          by_cases other : storedTag ≠ slot.tag
          · rw [if_pos other]
            refine ⟨fun began => (nomatch began), ?_⟩
            rintro ⟨_, _, _, _, same, _⟩
            exact absurd (List.cons.inj same).1 other
          · rw [if_neg other]
            have tags := not_not.mp other
            constructor
            · intro began
              refine ⟨rfl, own, nonce, ct, ?_, (Except.ok.inj began).symm⟩
              rw [tags, whole]
              rfl
            · rintro ⟨_, _, found, body, same, rfl⟩
              have tail := (List.cons.inj same).2
              have again : splitAtChecked nonceLen rest = some (found, body) :=
                splitAtChecked_eq_some.mpr tail
              rw [split] at again
              obtain ⟨rfl, rfl⟩ := Prod.mk.inj (Option.some.inj again)
              rfl

section History

variable {store : MockKeyStore} {history : List (HsmCall Nonce)}

/-- A completed unwrap decrypted what its handle carries, under the slot the handle was begun
for. -/
theorem completeUnwrap_ok {state : MockUnwrapState} {prompter : BiometricPrompter}
    {encrypted : List Encryption} {material : Bytes}
    (completed : (store.completeUnwrap (.mock state) prompter encrypted).1 = .ok material) :
    decrypt state.key state.nonce (mockAadDomain ++ [state.slotTag]) state.ciphertext =
      .ok material := by
  have ran : store.completeUnwrap (.mock state) prompter encrypted =
      (.ok material, (store.completeUnwrap (.mock state) prompter encrypted).2) :=
    Prod.ext completed rfl
  unfold completeUnwrap at ran
  obtain ⟨_, _, rest⟩ := Op.lift_bind_ok ran
  obtain ⟨_, _, rest⟩ := Op.lift_bind_ok rest
  obtain ⟨_, _, rest⟩ := Op.lift_bind_ok rest
  obtain ⟨found, same, rest⟩ := Op.lift_bind_ok rest
  obtain rfl := Except.ok.inj same
  exact (Prod.mk.inj (Op.mapError_ok.mp rest)).1

/-- Whatever the mock unwraps for a slot was enrolled for that slot, and the bytes are the blob
that enrolment returned. -/
theorem unwrap_enrolled
    (ideal : IdealCipher store.key (store.keyStore.reached [] history).device) {slot : HsmSlot}
    {bytes material : Bytes} {prompter : BiometricPrompter}
    (returned : (store.keyStore.unwrapBytes slot bytes prompter
      (store.keyStore.reached [] history).device).1 = .ok material) :
    ∃ attempt ∈ (store.keyStore.reached [] history).attempts, attempt.slot = slot ∧
      attempt.material = material ∧
      ∃ blob, attempt.outcome = .ok blob ∧ bytes = blob.toBytes := by
  obtain ⟨blob, handle, parsed, began, completed⟩ := unwrapBytes_ok returned
  obtain ⟨_, kind, nonce, ct, framed, rfl⟩ := beginUnwrap_ok.mp began
  have decrypted := completeUnwrap_ok completed
  dsimp only at decrypted
  unfold decrypt at decrypted
  by_cases short : ct.length < tagLen
  · rw [if_pos short] at decrypted
    cases decrypted
  · rw [if_neg short] at decrypted
    cases opened : Crates.aeadOpen store.key nonce (mockAadDomain ++ [slot.tag]) ct with
    | none =>
      rw [opened] at decrypted
      cases decrypted
    | some message =>
      rw [opened] at decrypted
      obtain rfl := Except.ok.inj decrypted
      obtain ⟨entry, recorded, nonces, data, same, cts⟩ := ideal.opens _ _ _ _ opened
      have accounted := store.ledger.reached_accounted [] (by simp) history
      obtain ⟨attempt, attempted, made⟩ := accounted.sealedBy entry recorded
      have slots : attempt.slot = slot := aad_injective (made.aad.symm.trans data)
      refine ⟨attempt, attempted, slots, made.message.symm.trans same, blob, ?_, ?_⟩
      · rw [made.outcome, slots, nonces, cts, ← framed, ← kind]
        exact dif_pos blob.fits
      · exact WrappedBlob.toBytes_of_fromBytes parsed

/-- A returned blob unwraps to its own material under its own slot whenever the prompt is
answered. -/
theorem unwrap_own (ideal : IdealCipher store.key (store.keyStore.reached [] history).device)
    {attempt : EnrollAttempt} (attempted : attempt ∈ (store.keyStore.reached [] history).attempts)
    {blob : WrappedBlob} (enrolled : attempt.outcome = .ok blob) {prompter : BiometricPrompter}
    {answer : PromptResult} (answered : prompter "Unlock passman key" = .ok answer)
    (accepted : answer.accept = .ok ()) :
    (store.keyStore.unwrapBytes attempt.slot blob.toBytes prompter
      (store.keyStore.reached [] history).device).1 = .ok attempt.material := by
  have accounted := store.ledger.reached_accounted [] (by simp) history
  obtain ⟨entry, recorded, made⟩ := accounted.backed attempt attempted blob enrolled
  have framed := made.outcome.symm.trans enrolled
  have fields : blob.kind = .softwareMock ∧
      blob.payload = payload attempt.slot entry.nonce entry.ciphertext := by
    unfold WrappedBlob.fromParts at framed
    split_ifs at framed
    obtain rfl := Except.ok.inj framed
    exact ⟨rfl, rfl⟩
  have began : store.keyStore.beginUnwrap attempt.slot blob =
      .ok (.mock ⟨attempt.slot.tag, entry.nonce, entry.ciphertext, store.key⟩) :=
    beginUnwrap_ok.mpr ⟨made.unforced, fields.1, _, _, fields.2, rfl⟩
  have long : ¬ entry.ciphertext.length < tagLen := Nat.not_lt.mpr (ideal.tagged entry recorded)
  have opens := ideal.returns entry recorded
  rw [made.aad, made.message] at opens
  have decrypted : decrypt store.key entry.nonce (mockAadDomain ++ [attempt.slot.tag])
      entry.ciphertext = .ok attempt.material := by
    unfold decrypt
    rw [if_neg long]
    have opened : Crates.aeadOpen store.key entry.nonce (mockAadDomain ++ [attempt.slot.tag])
        entry.ciphertext = some attempt.material := opens
    rw [opened]
  rw [unwrapBytes_toBytes began]
  change (store.completeUnwrap _ prompter _).1 = _
  unfold completeUnwrap
  rw [made.unforced, answered]
  change (Op.andThen (Op.lift answer.accept) _ _).1 = _
  rw [accepted]
  change (Op.mapError _ (Op.lift (decrypt _ _ _ _)) _).1 = _
  rw [decrypted]
  rfl

end History

end MockKeyStore

end Passman
