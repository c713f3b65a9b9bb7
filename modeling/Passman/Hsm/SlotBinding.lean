import Passman.Hsm.Android
import Passman.Hsm.Mock
import Passman.Hsm.Tpm2
import Passman.Reference

/-!
# Slot binding

The three backends that carry the material in the blob bind the slot by different means: the
mock in a stored tag and the associated data, the Keystore in associated data taken from the
request, the TPM in the sealed data. With ideal devices all three obey one law along every
history of calls.
-/
namespace Passman

open Bytewise Fallible HardwareKeyStore

/-- Whatever byte string is presented after any history of calls, each backend returns a material
for a slot only if an enrolment for exactly that slot was handed it; and a blob that an enrolment
returned unwraps to its own material under its own slot, unless the prompt or the device refuses. -/
theorem slots_are_bound :
    (∀ (_ : Crates) (store : MockKeyStore) (history : List (HsmCall Nonce)),
      let run := store.keyStore.reached [] history
      MockKeyStore.IdealCipher store.key run.device →
        (∀ slot bytes prompter material,
          (store.keyStore.unwrapBytes slot bytes prompter run.device).1 = .ok material →
            ∃ attempt ∈ run.attempts, attempt.slot = slot ∧ attempt.material = material ∧
              ∃ blob, attempt.outcome = .ok blob ∧ bytes = blob.toBytes) ∧
        ∀ attempt ∈ run.attempts, ∀ blob, attempt.outcome = .ok blob →
          ∀ prompter answer, prompter "Unlock passman key" = .ok answer → answer ≠ .cancelled →
            (store.keyStore.unwrapBytes attempt.slot blob.toBytes prompter run.device).1 =
              .ok attempt.material) ∧
    (∀ (κ : Type) (store : AndroidKeyStore κ)
      (sealed : κ → AndroidKeyStore.Wrapping → Prop),
      AndroidKeyStore.IdealKeystore store.wrapper sealed →
      ∀ start, (∀ entry, ¬ sealed start.1 entry) →
      ∀ history : List (HsmCall (Block aliasEntropyLen)),
        let run := store.keyStore.reached start history
        (∀ slot bytes prompter material,
          (store.keyStore.unwrapBytes slot bytes prompter run.device).1 = .ok material →
            ∃ attempt ∈ run.attempts, attempt.slot = slot ∧ attempt.material = material ∧
              ((∃ blob, attempt.outcome = .ok blob ∧ bytes = blob.toBytes) ∨
                attempt.outcome = .error .hardwareAbsent)) ∧
        ∀ attempt ∈ run.attempts, ∀ blob, attempt.outcome = .ok blob → ∀ prompter,
          ∃ parts, AndroidPayload.decodePayload blob.payload = .ok parts ∧
            (store.keyStore.unwrapBytes attempt.slot blob.toBytes prompter run.device).1 =
              match (store.wrapper.unwrap parts.keyAlias attempt.slot.tag parts.iv
                parts.ciphertext run.device.1).1 with
              | .ok _ => .ok attempt.material
              | .error error => .error (mapKeystoreError error)) ∧
    ∀ (τ Public Handle : Type) (store : Tpm2KeyStore τ Public Handle)
      (sealed : τ → Tpm2KeyStore.TpmSealing Public → Prop),
      Tpm2KeyStore.IdealTpm store.esapi sealed →
      ∀ start, (∀ entry, ¬ sealed start entry) →
      ∀ history : List (HsmCall (Block uuidLen)),
        let run := store.keyStore.reached start history
        (∀ slot bytes prompter material,
          (store.keyStore.unwrapBytes slot bytes prompter run.device).1 = .ok material →
            ∃ attempt ∈ run.attempts, attempt.slot = slot ∧ attempt.material = material ∧
              ∃ blob, attempt.outcome = .ok blob) ∧
        ∀ attempt ∈ run.attempts, ∀ blob, attempt.outcome = .ok blob → ∀ prompter,
          ∃ publicArea privateArea,
            (store.keyStore.unwrapBytes attempt.slot blob.toBytes prompter run.device).1 =
              match store.openContext run.device with
              | (.error error, _) => .error error
              | (.ok _, opened) =>
                match (store.loadAndUnseal publicArea privateArea opened).1 with
                | .ok _ => .ok attempt.material
                | .error error => .error (mapTpmError error) := by
  refine ⟨?_, ?_, ?_⟩
  · intro crates store history run ideal
    constructor
    · intro slot bytes prompter material returned
      exact MockKeyStore.unwrap_enrolled ideal returned
    · intro attempt attempted blob enrolled prompter answer answered continues
      apply MockKeyStore.unwrap_own ideal attempted enrolled answered
      cases answer with
      | authenticated => rfl
      | fallbackToPin pin => rfl
      | cancelled => exact absurd rfl continues
  · intro κ store sealed ideal start fresh history run
    constructor
    · intro slot bytes prompter material returned
      exact AndroidKeyStore.unwrap_enrolled ideal fresh history returned
    · intro attempt attempted blob enrolled prompter
      exact AndroidKeyStore.unwrap_own ideal fresh history attempted enrolled prompter
  · intro τ Public Handle store sealed ideal start fresh history run
    constructor
    · intro slot bytes prompter material returned
      exact Tpm2KeyStore.unwrap_enrolled ideal fresh history returned
    · intro attempt attempted blob enrolled prompter
      exact Tpm2KeyStore.unwrap_own ideal fresh history attempted enrolled prompter

namespace Reference

/-- A prompt that always authenticates. -/
def authenticating : BiometricPrompter := fun _ => .ok .authenticated

/-- The wrapping key of the example mock. -/
def mock : MockKeyStore := ⟨Block.replicate 32 5, none⟩

/-- An encryption of the reference cipher under the key of the example mock. -/
def encryption (slot : HsmSlot) (nonce : Nonce) (material : Bytes) : Encryption :=
  ⟨nonce, MockKeyStore.aad slot, material,
    material ++ tag mock.key nonce (MockKeyStore.aad slot) material⟩

/-- What the example mock encrypts. -/
def encryptions : List Encryption :=
  [encryption .vaultKey (Block.replicate 24 1) [10, 11],
    encryption .totpSeed (Block.replicate 24 2) [20]]

/-- The reference instance with a cipher that opens only the example encryptions. -/
@[reducible] def mockCrates : Crates :=
  { crates with
    aeadOpen := fun _ nonce aad ciphertext =>
      (encryptions.find? fun entry => decide (entry.nonce = nonce ∧ entry.aad = aad ∧
        entry.ciphertext = ciphertext)).map Encryption.message }

/-- Both materials are enrolled, each for its slot. -/
def mockHistory : List (HsmCall Nonce) :=
  [.enroll .vaultKey [10, 11] authenticating (Block.replicate 24 1),
    .enroll .totpSeed [20] authenticating (Block.replicate 24 2)]

/-- The example encryptions are what the example history encrypts. -/
theorem mock_device :
    letI := mockCrates
    (mock.keyStore.reached [] mockHistory).device = encryptions := rfl

/-- The cipher of the example encryptions is ideal. -/
theorem mockIdeal :
    letI := mockCrates
    MockKeyStore.IdealCipher mock.key (mock.keyStore.reached [] mockHistory).device := by
  let _ := mockCrates
  rw [mock_device]
  refine ⟨?_, ?_, ?_⟩
  · intro nonce aad ciphertext message opened
    obtain ⟨entry, found, same⟩ := Option.map_eq_some_iff.mp opened
    have matched := List.find?_some found
    simp only [decide_eq_true_eq] at matched
    obtain ⟨nonces, data, texts⟩ := matched
    exact ⟨entry, List.mem_of_find?_eq_some found, nonces, data, same, texts⟩
  · decide +kernel
  · decide +kernel

/-- A Keystore that remembers what it wrapped; its ciphertexts are the material and sixteen zero
bytes. -/
def keystore : KeystoreWrapper (List AndroidKeyStore.Wrapping) where
  wrap keyAlias slotTag material wrapped :=
    let parts : WrappedParts :=
      ⟨Block.replicate gcmIvLen 0, material ++ List.replicate 16 0, .strongBox⟩
    (.ok parts, wrapped ++ [⟨keyAlias, slotTag, material, parts⟩])
  unwrap keyAlias slotTag iv ciphertext wrapped :=
    let matching (entry : AndroidKeyStore.Wrapping) : Bool :=
      entry.keyAlias = keyAlias ∧ entry.slotTag = slotTag ∧ entry.wrapped.iv = iv ∧
        entry.wrapped.ciphertext = ciphertext ∧
        entry.wrapped.ciphertext = entry.material ++ List.replicate 16 0
    match wrapped.find? matching with
    | some entry => (.ok entry.material, wrapped)
    | none => (.error .authFailed, wrapped)
  invalidate _ := pure ()
  probe := pure .strongBox

/-- What the example Keystore wrapped. -/
def keystoreSealed (wrapped : List AndroidKeyStore.Wrapping) (entry : AndroidKeyStore.Wrapping) :
    Prop :=
  entry ∈ wrapped ∧ entry.wrapped.ciphertext = entry.material ++ List.replicate 16 0

/-- The example Keystore is ideal. -/
theorem keystoreIdeal : AndroidKeyStore.IdealKeystore keystore keystoreSealed := by
  refine ⟨?_, ?_, ?_, ?_, ?_, ?_, ?_⟩
  · intro keyAlias slotTag material before wrapped after ran entry
    obtain ⟨parts, rfl⟩ := Prod.mk.inj ran
    obtain rfl := Except.ok.inj parts
    unfold keystoreSealed
    rw [List.mem_append, List.mem_singleton]
    constructor
    · rintro ⟨old | rfl, shaped⟩
      · exact .inl ⟨old, shaped⟩
      · exact .inr rfl
    · rintro (⟨old, shaped⟩ | rfl)
      · exact ⟨.inl old, shaped⟩
      · exact ⟨.inr rfl, rfl⟩
  · intro keyAlias slotTag material before error after ran
    cases (Prod.mk.inj ran).1
  · intro keyAlias slotTag iv ciphertext wrapped entry
    unfold keystore
    dsimp only
    split <;> exact Iff.rfl
  · intro keyAlias wrapped entry
    exact Iff.rfl
  · intro wrapped entry
    exact Iff.rfl
  · intro keyAlias slotTag iv ciphertext wrapped material opened
    unfold keystore at opened
    dsimp only at opened
    split at opened
    · rename_i entry found
      obtain rfl := Except.ok.inj opened
      have matched := List.find?_some found
      simp only [decide_eq_true_eq] at matched
      obtain ⟨names, tags, vectors, texts, shaped⟩ := matched
      exact ⟨entry, ⟨List.mem_of_find?_eq_some found, shaped⟩, names, tags, vectors, texts, rfl⟩
    · cases opened
  · rintro wrapped left right ⟨_, leftShaped⟩ ⟨_, rightShaped⟩ _ _ _ texts
    rw [leftShaped, rightShaped] at texts
    exact List.append_cancel_right texts

/-- A TPM that remembers the data it sealed; the private area is the data. -/
def tpm : Esapi (List Bytes) Bytes (Bytes × Bytes) where
  tctiFromEnvironment _ := none
  tctiFromStr device := some device
  newContext _ := pure ()
  trFromTpmPublic _ := pure ([], [])
  createPrimary _ := pure ([], [])
  evictControl _ _ := pure ()
  flushContext _ := pure ()
  fitsSensitive data := data.length ≤ 128
  fitsPrivate _ := true
  create _ _ data stored := (.ok ([1], data), stored ++ [data])
  load _ privateArea publicArea := pure (publicArea, privateArea)
  unsealData object stored :=
    if object.1 = [1] ∧ object.2 ∈ stored then (.ok object.2, stored)
    else (.error (.tss2Error (some .integrity)), stored)
  marshall publicArea := .ok publicArea
  unmarshall bytes := .ok bytes

/-- What the example TPM sealed. -/
def tpmSealed (stored : List Bytes) (entry : Tpm2KeyStore.TpmSealing Bytes) : Prop :=
  entry.data ∈ stored ∧ entry.publicArea = [1] ∧ entry.privateArea = entry.data

/-- The example TPM is ideal. -/
theorem tpmIdeal : Tpm2KeyStore.IdealTpm tpm tpmSealed := by
  refine ⟨?_, ?_, ?_, ?_, ?_, ?_, ?_, ?_, ?_, ?_, ?_, ?_, ?_, ?_⟩
  · intro parent template data before publicArea privateArea after ran entry
    obtain ⟨halves, rfl⟩ := Prod.mk.inj ran
    obtain ⟨rfl, rfl⟩ := Prod.mk.inj (Except.ok.inj halves)
    unfold tpmSealed
    rw [List.mem_append, List.mem_singleton]
    constructor
    · rintro ⟨old | new, publics, privates⟩
      · exact .inl ⟨old, publics, privates⟩
      · right
        cases entry
        simp_all
    · rintro (⟨old, publics, privates⟩ | rfl)
      · exact ⟨.inl old, publics, privates⟩
      · exact ⟨.inr rfl, rfl, rfl⟩
  · intro parent template data before error after ran
    cases (Prod.mk.inj ran).1
  · intro tcti stored entry
    exact Iff.rfl
  · intro handle stored entry
    exact Iff.rfl
  · intro template stored entry
    exact Iff.rfl
  · intro key handle stored entry
    exact Iff.rfl
  · intro object stored entry
    exact Iff.rfl
  · intro parent privateArea publicArea stored entry
    exact Iff.rfl
  · intro object stored entry
    unfold tpm
    dsimp only
    split <;> exact Iff.rfl
  · intro parent privateArea publicArea before object loaded data ran opened
    obtain ⟨same, rfl⟩ := Prod.mk.inj ran
    obtain rfl := Except.ok.inj same
    unfold tpm at opened
    dsimp only at opened
    split at opened
    · rename_i known
      obtain rfl := Except.ok.inj opened
      exact ⟨known.2, known.1, rfl⟩
    · cases opened
  · rintro stored left right ⟨_, _, leftPrivate⟩ ⟨_, _, rightPrivate⟩ _ privates
    rw [← leftPrivate, ← rightPrivate, privates]
  · intro stored entry present
    rfl
  · intro publicArea bytes marshalled
    obtain rfl := Except.ok.inj marshalled
    rfl
  · intro publicArea bytes unmarshalled
    obtain rfl := Except.ok.inj unmarshalled
    exact ⟨_, rfl, Nat.le_refl _⟩

/-- A material is enrolled for the seed slot of the Keystore. -/
def androidHistory : List (HsmCall (Block aliasEntropyLen)) :=
  [.enroll .totpSeed [20] authenticating (Block.replicate aliasEntropyLen 7)]

/-- A material is enrolled for the vault slot of the TPM. -/
def tpmHistory : List (HsmCall (Block uuidLen)) :=
  [.enroll .vaultKey [10, 11] authenticating (Block.replicate uuidLen 9)]

/-- The bytes of the blob the last enrolment returned. -/
def lastBytes (attempts : List EnrollAttempt) : Bytes :=
  match attempts.getLast? with
  | some ⟨_, _, .ok blob⟩ => blob.toBytes
  | _ => []

/-- What the blob that the last enrolment returned unwraps to for a slot. -/
def lastOpened {σ Draw : Type} (store : HardwareKeyStore σ Draw) (slot : HsmSlot)
    (run : KeyStoreRun σ) : Except HsmError Bytes :=
  (store.unwrapBytes slot (lastBytes run.attempts) authenticating run.device).1

end Reference

/-- On the example devices the blobs that were returned unwrap under their own slots to the
materials, and each material was handed to an enrolment for that slot. -/
theorem slots_are_bound_reference :
    letI := Reference.mockCrates
    let mocked := Reference.mock.keyStore.reached [] Reference.mockHistory
    let wrapped := (AndroidKeyStore.mk Reference.keystore).keyStore.reached ([], none)
      Reference.androidHistory
    let sealed := (Tpm2KeyStore.mk Reference.tpm).keyStore.reached [] Reference.tpmHistory
    (Reference.lastOpened Reference.mock.keyStore .totpSeed mocked = .ok [20] ∧
      ∃ attempt ∈ mocked.attempts, attempt.slot = .totpSeed ∧ attempt.material = [20]) ∧
    (Reference.lastOpened (AndroidKeyStore.mk Reference.keystore).keyStore .totpSeed wrapped =
        .ok [20] ∧
      ∃ attempt ∈ wrapped.attempts, attempt.slot = .totpSeed ∧ attempt.material = [20]) ∧
    Reference.lastOpened (Tpm2KeyStore.mk Reference.tpm).keyStore .vaultKey sealed = .ok [10, 11] ∧
      ∃ attempt ∈ sealed.attempts, attempt.slot = .vaultKey ∧ attempt.material = [10, 11] := by
  let _ := Reference.mockCrates
  intro mocked wrapped sealed
  have mockOpened : Reference.lastOpened Reference.mock.keyStore .totpSeed mocked = .ok [20] := by
    decide +kernel
  have wrapOpened : Reference.lastOpened (AndroidKeyStore.mk Reference.keystore).keyStore .totpSeed
      wrapped = .ok [20] := by decide +kernel
  have sealOpened : Reference.lastOpened (Tpm2KeyStore.mk Reference.tpm).keyStore .vaultKey sealed =
      .ok [10, 11] := by decide +kernel
  obtain ⟨ofMock, ofAndroid, ofTpm⟩ := slots_are_bound
  obtain ⟨mockAttempt, mockIn, mockSlot, mockMaterial, _⟩ :=
    (ofMock Reference.mockCrates Reference.mock Reference.mockHistory
      Reference.mockIdeal).1 _ _ _ _ mockOpened
  obtain ⟨wrapAttempt, wrapIn, wrapSlot, wrapMaterial, _⟩ :=
    (ofAndroid _ ⟨Reference.keystore⟩ _ Reference.keystoreIdeal ([], none)
      (fun entry present => nomatch present.1) Reference.androidHistory).1 _ _ _ _ wrapOpened
  obtain ⟨sealAttempt, sealIn, sealSlot, sealMaterial, _⟩ :=
    (ofTpm _ _ _ ⟨Reference.tpm⟩ _ Reference.tpmIdeal []
      (fun entry present => nomatch present.1) Reference.tpmHistory).1 _ _ _ _ sealOpened
  exact ⟨⟨mockOpened, mockAttempt, mockIn, mockSlot, mockMaterial⟩,
    ⟨wrapOpened, wrapAttempt, wrapIn, wrapSlot, wrapMaterial⟩,
    sealOpened, sealAttempt, sealIn, sealSlot, sealMaterial⟩

end Passman
