import Passman.Hsm.Backend
import Passman.Lib.Slices

/-!
# The Android Keystore

The backend names a fresh key for every enrolment and leaves wrapping and unwrapping to the
Keystore behind a foreign interface. The payload carries the name of the key, the
initialization vector and the ciphertext; the tag of the slot is never stored: it is the
associated data, taken from the slot that was requested.
-/
namespace Passman

open Bytewise Fallible HardwareKeyStore

/-- Length of the authentication tag of the Keystore. -/
def gcmTagLen : Nat := 16

/-- Random bytes in the name of a key. -/
def aliasEntropyLen : Nat := 16

/-- The lowercase hexadecimal digits. -/
def hexDigits : List Char := "0123456789abcdef".toList

/-- How a key is protected. -/
inductive KeystoreSecurityLevel where
  /-- A discrete secure element. -/
  | strongBox
  /-- The trusted execution environment. -/
  | trustedEnvironment
  /-- Software only. -/
  | software
  deriving DecidableEq

/-- Failures of the Keystore. -/
inductive KeystoreError where
  /-- The user dismissed the prompt. -/
  | cancelled
  /-- Biometric lockout. -/
  | lockout
  /-- The key was invalidated for good. -/
  | keyInvalidated
  /-- Authentication of the ciphertext failed. -/
  | authFailed
  /-- No secure lock screen or no usable hardware. -/
  | noSecureLockOrHardware
  /-- Anything else. -/
  | backend
  deriving DecidableEq

/-- What a successful wrap returns. -/
structure WrappedParts where
  /-- The initialization vector. -/
  iv : Block gcmIvLen
  /-- The ciphertext with its tag. -/
  ciphertext : Bytes
  /-- The protection of the key. -/
  level : KeystoreSecurityLevel

/-- The foreign interface to the Keystore. -/
structure KeystoreWrapper (κ : Type) where
  /-- Make a key under a name and encrypt a material with the tag of its slot as associated data. -/
  wrap : String → UInt8 → Bytes → Op κ KeystoreError WrappedParts
  /-- Decrypt under the key of a name with the tag of a slot as associated data. -/
  unwrap : String → UInt8 → Block gcmIvLen → Bytes → Op κ KeystoreError Bytes
  /-- Destroy the key of a name. -/
  invalidate : String → Op κ KeystoreError Unit
  /-- The protection the device offers. -/
  probe : Op κ KeystoreError KeystoreSecurityLevel

/-- The error of the key store for an error of the Keystore. -/
def mapKeystoreError : KeystoreError → HsmError
  | .cancelled => .cancelled
  | .lockout => .transient
  | .keyInvalidated => .permanentlyInvalidated
  | .authFailed =>
    .malformedBlob "android AES-GCM authentication failed (wrong slot or tampered blob)"
  | .noSecureLockOrHardware => .hardwareAbsent
  | .backend => .backend "android keystore backend error"

/-- The two digits of a byte. -/
def hexByte (byte : UInt8) : List Char :=
  [hexDigits.getD (byte.toNat / 16) '0', hexDigits.getD (byte.toNat % 16) '0']

/-- The name of a fresh key. -/
def randomAlias (raw : Block aliasEntropyLen) : String :=
  "passman-" ++ String.ofList (raw.val.flatMap hexByte)

/-- The parsed payload. -/
structure AndroidPayload where
  /-- The name of the key. -/
  keyAlias : String
  /-- The initialization vector. -/
  iv : Block gcmIvLen
  /-- The ciphertext with its tag. -/
  ciphertext : Bytes

namespace AndroidPayload

/-- The payload: the name behind its length, the vector, the ciphertext behind its length. -/
def encodePayload (parts : AndroidPayload) : Except HsmError Bytes :=
  if (utf8 parts.keyAlias).length > 65535 then
    .error (.malformedBlob "android alias exceeds u16::MAX bytes")
  else if parts.ciphertext.length > 65535 then
    .error (.malformedBlob "android ciphertext exceeds u16::MAX bytes")
  else
    .ok (lePrefix UInt16 (utf8 parts.keyAlias).length ++ utf8 parts.keyAlias ++ parts.iv.val ++
      lePrefix UInt16 parts.ciphertext.length ++ parts.ciphertext)

/-- Read a length and that many bytes. -/
def readPart (cursor : Bytes) : Except HsmError (Bytes × Bytes) :=
  readLenPrefixed (.malformedBlob "android payload truncated in a length prefix")
    (.malformedBlob "android length prefix exceeds remaining input") cursor

/-- Parse a payload. -/
def decodePayload (payload : Bytes) : Except HsmError AndroidPayload := do
  let (aliasBytes, cursor) ← readPart payload
  match ofUtf8 aliasBytes with
  | none => .error (.malformedBlob "android alias is not valid UTF-8")
  | some keyAlias =>
    match splitAtChecked gcmIvLen cursor with
    | none => .error (.malformedBlob "android payload truncated in gcm_iv")
    | some (iv, cursor) => do
      let (ciphertext, cursor) ← readPart cursor
      if cursor ≠ [] then .error (.malformedBlob "trailing bytes after android payload")
      else if ciphertext.length < gcmTagLen then
        .error (.malformedBlob "android ciphertext shorter than GCM tag")
      else .ok ⟨keyAlias, iv, ciphertext⟩

/-- A payload is written exactly when its name and its ciphertext fit their lengths. -/
theorem encodePayload_eq_ok {parts : AndroidPayload} {payload : Bytes} :
    encodePayload parts = .ok payload ↔
      (utf8 parts.keyAlias).length ≤ 65535 ∧ parts.ciphertext.length ≤ 65535 ∧
        payload = lePrefix UInt16 (utf8 parts.keyAlias).length ++ utf8 parts.keyAlias ++
          (parts.iv.val ++ (lePrefix UInt16 parts.ciphertext.length ++ parts.ciphertext)) := by
  unfold encodePayload
  by_cases longName : (utf8 parts.keyAlias).length > 65535
  · rw [if_pos longName]
    constructor
    · intro encoded
      cases encoded
    · rintro ⟨fits, _⟩
      omega
  · rw [if_neg longName]
    by_cases longText : parts.ciphertext.length > 65535
    · rw [if_pos longText]
      constructor
      · intro encoded
        cases encoded
      · rintro ⟨_, fits, _⟩
        omega
    · rw [if_neg longText]
      have nameFits := Nat.not_lt.mp longName
      have textFits := Nat.not_lt.mp longText
      simp only [nameFits, textFits, true_and, Except.ok.injEq, List.append_assoc]
      exact eq_comm

/-- A payload that is parsed is the writing of its parts, and the ciphertext has room for its
tag. -/
theorem encodePayload_of_decodePayload {payload : Bytes} {parts : AndroidPayload}
    (decoded : decodePayload payload = .ok parts) :
    encodePayload parts = .ok payload ∧ gcmTagLen ≤ parts.ciphertext.length := by
  unfold decodePayload at decoded
  cases first : readPart payload with
  | error error =>
    rw [first] at decoded
    cases decoded
  | ok front =>
    obtain ⟨aliasBytes, cursor⟩ := front
    rw [first] at decoded
    change (match ofUtf8 aliasBytes with | none => _ | some keyAlias => _) = _ at decoded
    cases named : ofUtf8 aliasBytes with
    | none =>
      rw [named] at decoded
      cases decoded
    | some keyAlias =>
      rw [named] at decoded
      dsimp only at decoded
      cases split : splitAtChecked gcmIvLen cursor with
      | none =>
        rw [split] at decoded
        cases decoded
      | some middle =>
        obtain ⟨iv, rest⟩ := middle
        rw [split] at decoded
        dsimp only at decoded
        cases second : readPart rest with
        | error error =>
          rw [second] at decoded
          cases decoded
        | ok last =>
          obtain ⟨ciphertext, trailing⟩ := last
          rw [second] at decoded
          change (if trailing ≠ [] then _ else if ciphertext.length < gcmTagLen then _ else _) =
            _ at decoded
          by_cases more : trailing ≠ []
          · rw [if_pos more] at decoded
            cases decoded
          · rw [if_neg more] at decoded
            obtain rfl := not_not.mp more
            by_cases short : ciphertext.length < gcmTagLen
            · rw [if_pos short] at decoded
              cases decoded
            · rw [if_neg short] at decoded
              obtain rfl := Except.ok.inj decoded
              obtain rfl := ofUtf8_eq_some.mp named
              obtain ⟨nameFits, whole⟩ := readLenPrefixed_eq_ok.mp first
              obtain ⟨textFits, text⟩ := readLenPrefixed_eq_ok.mp second
              have vector := splitAtChecked_eq_some.mp split
              refine ⟨encodePayload_eq_ok.mpr ⟨nameFits, textFits, ?_⟩, Nat.not_lt.mp short⟩
              rw [whole, vector, text, List.append_nil]

/-- A written payload whose ciphertext has room for its tag is parsed into its parts. -/
theorem decodePayload_of_encodePayload {payload : Bytes} {parts : AndroidPayload}
    (encoded : encodePayload parts = .ok payload)
    (tagged : gcmTagLen ≤ parts.ciphertext.length) : decodePayload payload = .ok parts := by
  obtain ⟨nameFits, textFits, whole⟩ := encodePayload_eq_ok.mp encoded
  have first : readPart payload = .ok (utf8 parts.keyAlias,
      parts.iv.val ++ (lePrefix UInt16 parts.ciphertext.length ++ parts.ciphertext)) :=
    readLenPrefixed_eq_ok.mpr ⟨nameFits, whole⟩
  have split : splitAtChecked gcmIvLen
      (parts.iv.val ++ (lePrefix UInt16 parts.ciphertext.length ++ parts.ciphertext)) =
        some (parts.iv, lePrefix UInt16 parts.ciphertext.length ++ parts.ciphertext) :=
    splitAtChecked_eq_some.mpr rfl
  have second : readPart (lePrefix UInt16 parts.ciphertext.length ++ parts.ciphertext) =
      .ok (parts.ciphertext, []) :=
    readLenPrefixed_eq_ok.mpr ⟨textFits, (List.append_nil _).symm⟩
  unfold decodePayload
  rw [first]
  change (match ofUtf8 (utf8 parts.keyAlias) with | none => _ | some keyAlias => _) = _
  rw [ofUtf8_utf8]
  dsimp only
  rw [split]
  dsimp only
  rw [second]
  simp only [bind, Except.bind, ne_eq, not_true_eq_false, if_false]
  rw [if_neg (Nat.not_lt.mpr tagged)]

end AndroidPayload

/-- The Android backend over a Keystore. -/
structure AndroidKeyStore (κ : Type) where
  /-- The Keystore. -/
  wrapper : KeystoreWrapper κ

namespace AndroidKeyStore

variable {κ : Type}

/-- The Keystore and the remembered protection of the device. -/
abbrev Device (κ : Type) := κ × Option KeystoreSecurityLevel

/-- The protection of the device: probed until a probe succeeds, software when it fails. -/
def securityLevel (store : AndroidKeyStore κ) :
    Op (Device κ) HsmError KeystoreSecurityLevel := do
  let (_, cachedLevel) ← Op.get
  match cachedLevel with
  | some level => pure level
  | none =>
    match ← Op.attempt (Op.onFirst store.wrapper.probe) with
    | .ok level => do
      Op.modify fun (keystore, _) => (keystore, some level)
      pure level
    | .error _ => pure .software

/-- Destroy a key, whatever comes of it, and stop. -/
def discard (store : AndroidKeyStore κ) (keyAlias : String) (error : HsmError) :
    Op (Device κ) HsmError WrappedBlob := do
  let _ ← Op.attempt (Op.onFirst (store.wrapper.invalidate keyAlias))
  Op.fail error

/-- Frame what the Keystore wrapped; discard software keys and short ciphertexts. -/
def frame (store : AndroidKeyStore κ) (keyAlias : String) (wrapped : WrappedParts) :
    Op (Device κ) HsmError WrappedBlob :=
  if wrapped.level = .software then store.discard keyAlias .hardwareAbsent
  else if wrapped.ciphertext.length < gcmTagLen then
    store.discard keyAlias
      (.backend "android wrap produced a ciphertext shorter than the GCM tag")
  else do
    let payload ← Op.lift
      (AndroidPayload.encodePayload ⟨keyAlias, wrapped.iv, wrapped.ciphertext⟩)
    Op.lift (WrappedBlob.fromParts .androidGcm payload)

/-- Wrap the material under the key of a name; discard the key when that fails. -/
def wrapFresh (store : AndroidKeyStore κ) (slot : HsmSlot) (material : Bytes)
    (keyAlias : String) : Op (Device κ) HsmError WrappedBlob := do
  match ← Op.attempt (Op.onFirst (store.wrapper.wrap keyAlias slot.tag material)) with
  | .error error => store.discard keyAlias (mapKeystoreError error)
  | .ok wrapped => store.frame keyAlias wrapped

/-- Wrap the material under a fresh key, unless the device offers software keys only. -/
def enroll (store : AndroidKeyStore κ) (slot : HsmSlot) (material : Bytes)
    (_prompter : BiometricPrompter) (raw : Block aliasEntropyLen) :
    Op (Device κ) HsmError WrappedBlob := do
  let level ← store.securityLevel
  if level = .software then Op.fail .hardwareAbsent
  else store.wrapFresh slot material (randomAlias raw)

/-- Parse the payload of a blob; the tag is that of the requested slot. -/
def beginUnwrap (slot : HsmSlot) (wrapped : WrappedBlob) : Except HsmError HandleInner :=
  if wrapped.kind ≠ .androidGcm then .error (.malformedBlob "blob kind is not AndroidGcm")
  else do
    let parsed ← AndroidPayload.decodePayload wrapped.payload
    .ok (.android ⟨parsed.keyAlias, parsed.iv, parsed.ciphertext, slot.tag⟩)

/-- Let the Keystore decrypt what a handle carries. -/
def completeUnwrap (store : AndroidKeyStore κ) (handle : HandleInner)
    (_prompter : BiometricPrompter) : Op (Device κ) HsmError Bytes := do
  let state ← Op.lift handle.intoAndroid
  Op.mapError mapKeystoreError
    (Op.onFirst (store.wrapper.unwrap state.keyAlias state.slotTag state.iv state.ciphertext))

/-- Destroy the key a blob names. -/
def invalidate (store : AndroidKeyStore κ) (_slot : HsmSlot) (wrapped : WrappedBlob) :
    Op (Device κ) HsmError Unit := do
  if wrapped.kind ≠ .androidGcm then
    Op.fail (.malformedBlob "blob kind is not AndroidGcm")
  else
    let parsed ← Op.lift (AndroidPayload.decodePayload wrapped.payload)
    Op.mapError mapKeystoreError (Op.onFirst (store.wrapper.invalidate parsed.keyAlias))

/-- The Android backend as a key store. -/
def keyStore (store : AndroidKeyStore κ) :
    HardwareKeyStore (Device κ) (Block aliasEntropyLen) where
  enroll := store.enroll
  beginUnwrap := beginUnwrap
  completeUnwrap := store.completeUnwrap
  invalidate := store.invalidate

/-- A material the Keystore wrapped. -/
structure Wrapping where
  /-- The name of the key. -/
  keyAlias : String
  /-- The tag that was bound. -/
  slotTag : UInt8
  /-- The material. -/
  material : Bytes
  /-- What wrapping returned. -/
  wrapped : WrappedParts

/-- The Keystore is ideal: what it unwraps under the name of a key and a tag it wrapped under that
name and tag, and the one key of a name decrypts a ciphertext to one material. -/
structure IdealKeystore (wrapper : KeystoreWrapper κ) (sealed : κ → Wrapping → Prop) : Prop where
  /-- A wrap seals its material. -/
  wraps : ∀ keyAlias slotTag material before wrapped after,
    wrapper.wrap keyAlias slotTag material before = (.ok wrapped, after) →
      ∀ entry, sealed after entry ↔
        sealed before entry ∨ entry = ⟨keyAlias, slotTag, material, wrapped⟩
  /-- A refused wrap seals nothing. -/
  refuses : ∀ keyAlias slotTag material before error after,
    wrapper.wrap keyAlias slotTag material before = (.error error, after) →
      SameSealed sealed before after
  /-- Unwrapping seals nothing. -/
  unwraps : ∀ keyAlias slotTag iv ciphertext,
    Op.Keeps (SameSealed sealed) (wrapper.unwrap keyAlias slotTag iv ciphertext)
  /-- Invalidating seals nothing. -/
  invalidates : ∀ keyAlias, Op.Keeps (SameSealed sealed) (wrapper.invalidate keyAlias)
  /-- Probing seals nothing. -/
  probes : Op.Keeps (SameSealed sealed) wrapper.probe
  /-- Only what was wrapped is unwrapped. -/
  opens : ∀ keyAlias slotTag iv ciphertext keystore material,
    (wrapper.unwrap keyAlias slotTag iv ciphertext keystore).1 = .ok material →
      ∃ entry, sealed keystore entry ∧ entry.keyAlias = keyAlias ∧ entry.slotTag = slotTag ∧
        entry.wrapped.iv = iv ∧ entry.wrapped.ciphertext = ciphertext ∧ entry.material = material
  /-- A ciphertext under one key and tag is of one material. -/
  oneKey : ∀ keystore left right, sealed keystore left → sealed keystore right →
    left.keyAlias = right.keyAlias → left.slotTag = right.slotTag →
      left.wrapped.iv = right.wrapped.iv →
        left.wrapped.ciphertext = right.wrapped.ciphertext → left.material = right.material

/-- What an enrolment makes of what the Keystore wrapped. -/
def framed (keyAlias : String) (wrapped : WrappedParts) : Except HsmError WrappedBlob :=
  if wrapped.level = .software then .error .hardwareAbsent
  else if wrapped.ciphertext.length < gcmTagLen then
    .error (.backend "android wrap produced a ciphertext shorter than the GCM tag")
  else do
    let payload ← AndroidPayload.encodePayload ⟨keyAlias, wrapped.iv, wrapped.ciphertext⟩
    WrappedBlob.fromParts .androidGcm payload

/-- The enrolment that wrapped a material. -/
structure Made (entry : Wrapping) (attempt : EnrollAttempt) : Prop where
  /-- The slot is bound. -/
  slotTag : entry.slotTag = attempt.slot.tag
  /-- The material is the wrapped one. -/
  material : entry.material = attempt.material
  /-- The outcome is what was made of it. -/
  outcome : attempt.outcome = framed entry.keyAlias entry.wrapped

section Ideal

variable {store : AndroidKeyStore κ} {sealed : κ → Wrapping → Prop}

/-- The materials wrapped by the Keystore of a device. -/
abbrev Sealed (sealed : κ → Wrapping → Prop) : Device κ → Wrapping → Prop :=
  fun device entry => sealed device.1 entry

/-- Acting on the Keystore alone seals what it seals. -/
theorem sameSealed_onFirst {ε α : Type} {operation : Op κ ε α}
    (kept : Op.Keeps (SameSealed sealed) operation) :
    Op.Keeps (SameSealed (Sealed sealed)) (Op.onFirst operation : Op (Device κ) ε α) :=
  fun device => kept device.1

/-- Asking for the protection of the device seals nothing. -/
theorem securityLevel_same (ideal : IdealKeystore store.wrapper sealed) :
    Op.Keeps (SameSealed (Sealed sealed)) store.securityLevel := by
  intro device
  obtain ⟨keystore, cachedLevel⟩ := device
  unfold securityLevel
  rw [Op.get_bind_run]
  cases cachedLevel with
  | some level => exact SameSealed.refl _
  | none =>
    dsimp only
    rw [Op.attempt_bind_run, Op.onFirst_run]
    have probed := ideal.probes keystore
    cases answer : (store.wrapper.probe keystore).1 with
    | ok level => exact probed
    | error error => exact probed

/-- Discarding a key seals nothing and stops. -/
theorem discard_run (ideal : IdealKeystore store.wrapper sealed) (keyAlias : String)
    (error : HsmError) (device : Device κ) :
    (store.discard keyAlias error device).1 = .error error ∧
      SameSealed (Sealed sealed) device (store.discard keyAlias error device).2 := by
  obtain ⟨keystore, cachedLevel⟩ := device
  exact ⟨rfl, ideal.invalidates keyAlias keystore⟩

/-- Framing returns what is made of the wrapped material and seals nothing. -/
theorem frame_run (ideal : IdealKeystore store.wrapper sealed) (keyAlias : String)
    (wrapped : WrappedParts) (device : Device κ) :
    (store.frame keyAlias wrapped device).1 = framed keyAlias wrapped ∧
      SameSealed (Sealed sealed) device (store.frame keyAlias wrapped device).2 := by
  unfold frame framed
  by_cases soft : wrapped.level = .software
  · rw [if_pos soft, if_pos soft]
    exact discard_run ideal keyAlias _ device
  · rw [if_neg soft, if_neg soft]
    by_cases short : wrapped.ciphertext.length < gcmTagLen
    · rw [if_pos short, if_pos short]
      exact discard_run ideal keyAlias _ device
    · rw [if_neg short, if_neg short]
      rw [Op.lift_bind_run]
      cases AndroidPayload.encodePayload ⟨keyAlias, wrapped.iv, wrapped.ciphertext⟩ with
      | error error => exact ⟨rfl, SameSealed.refl device⟩
      | ok payload => exact ⟨rfl, SameSealed.refl device⟩

/-- Wrapping under the key of a name seals its material only. -/
theorem wrapFresh_seals (ideal : IdealKeystore store.wrapper sealed) (slot : HsmSlot)
    (material : Bytes) (keyAlias : String) (device : Device κ) :
    Seals (Sealed sealed) Made
      ⟨slot, material, (store.wrapFresh slot material keyAlias device).1⟩ device
      (store.wrapFresh slot material keyAlias device).2 := by
  obtain ⟨keystore, cachedLevel⟩ := device
  unfold wrapFresh
  rw [Op.attempt_bind_run, Op.onFirst_run]
  cases wrap : store.wrapper.wrap keyAlias slot.tag material keystore with
  | mk answer after =>
    cases answer with
    | error error =>
      have refused : SameSealed (Sealed sealed) (keystore, cachedLevel) (after, cachedLevel) :=
        ideal.refuses _ _ _ _ _ _ wrap
      obtain ⟨stopped, discarded⟩ :=
        discard_run ideal keyAlias (mapKeystoreError error) (after, cachedLevel)
      dsimp only
      rw [stopped]
      exact .of_error (SameSealed.trans _ _ _ refused discarded)
    | ok wrapped =>
      have grows := ideal.wraps _ _ _ _ _ _ wrap
      obtain ⟨outcome, same⟩ := frame_run ideal keyAlias wrapped (after, cachedLevel)
      dsimp only
      rw [outcome]
      apply Seals.of_added
      · intro entry
        exact (same entry).trans (grows entry)
      · exact ⟨rfl, rfl, rfl⟩

/-- The wrapped materials are a ledger. -/
theorem ledger (ideal : IdealKeystore store.wrapper sealed) :
    Ledger store.keyStore (Sealed sealed) Made := by
  constructor
  · intro slot material prompter raw before
    change Seals _ _ ⟨slot, material, (store.enroll slot material prompter raw before).1⟩ before
      (store.enroll slot material prompter raw before).2
    have probed := securityLevel_same ideal before
    unfold enroll
    cases level : store.securityLevel before with
    | mk answer reached =>
      rw [level] at probed
      cases answer with
      | error error =>
        rw [Op.bind_error level]
        exact .of_error probed
      | ok found =>
        rw [Op.bind_ok level]
        by_cases soft : found = .software
        · rw [if_pos soft]
          exact .of_error probed
        · rw [if_neg soft]
          exact .after_same probed (wrapFresh_seals ideal slot material _ reached)
  · intro handle prompter
    change Op.Keeps _ (store.completeUnwrap handle prompter)
    unfold completeUnwrap
    apply SameSealed.bind (SameSealed.lift _)
    intro state
    exact Op.keeps_mapError (sameSealed_onFirst (ideal.unwraps _ _ _ _))
  · intro slot blob
    change Op.Keeps _ (store.invalidate slot blob)
    unfold invalidate
    by_cases foreign : blob.kind ≠ .androidGcm
    · rw [if_pos foreign]
      exact Op.keeps_fail (fun state => SameSealed.refl state) _
    · rw [if_neg foreign]
      apply SameSealed.bind (SameSealed.lift _)
      intro parsed
      exact Op.keeps_mapError (sameSealed_onFirst (ideal.invalidates _))

/-- An unwrap begins exactly on a blob of the Keystore whose payload is parsed. -/
theorem beginUnwrap_ok {slot : HsmSlot} {wrapped : WrappedBlob} {handle : HandleInner} :
    beginUnwrap slot wrapped = .ok handle ↔ wrapped.kind = .androidGcm ∧
      ∃ parsed, AndroidPayload.decodePayload wrapped.payload = .ok parsed ∧
        handle = .android ⟨parsed.keyAlias, parsed.iv, parsed.ciphertext, slot.tag⟩ := by
  unfold beginUnwrap
  by_cases foreign : wrapped.kind ≠ .androidGcm
  · rw [if_pos foreign]
    constructor
    · intro began
      cases began
    · rintro ⟨own, _⟩
      exact absurd own foreign
  · rw [if_neg foreign]
    have own := not_not.mp foreign
    cases AndroidPayload.decodePayload wrapped.payload with
    | error error =>
      constructor
      · intro began
        cases began
      · rintro ⟨_, _, clash, _⟩
        cases clash
    | ok parsed =>
      constructor
      · intro began
        exact ⟨own, parsed, rfl, (Except.ok.inj began).symm⟩
      · rintro ⟨_, found, same, rfl⟩
        obtain rfl := Except.ok.inj same
        rfl

/-- Framed parts that are not refused are the payload of the blob. -/
theorem framed_ok {keyAlias : String} {wrapped : WrappedParts} {blob : WrappedBlob}
    (ok : framed keyAlias wrapped = .ok blob) :
    blob.kind = .androidGcm ∧ AndroidPayload.decodePayload blob.payload =
      .ok ⟨keyAlias, wrapped.iv, wrapped.ciphertext⟩ := by
  unfold framed at ok
  by_cases soft : wrapped.level = .software
  · rw [if_pos soft] at ok
    cases ok
  · rw [if_neg soft] at ok
    by_cases short : wrapped.ciphertext.length < gcmTagLen
    · rw [if_pos short] at ok
      cases ok
    · rw [if_neg short] at ok
      cases encoded : AndroidPayload.encodePayload ⟨keyAlias, wrapped.iv, wrapped.ciphertext⟩ with
      | error error =>
        rw [encoded] at ok
        cases ok
      | ok payload =>
        rw [encoded] at ok
        change WrappedBlob.fromParts .androidGcm payload = .ok blob at ok
        unfold WrappedBlob.fromParts at ok
        split_ifs at ok
        obtain rfl := Except.ok.inj ok
        exact ⟨rfl, AndroidPayload.decodePayload_of_encodePayload encoded (Nat.not_lt.mp short)⟩

/-- The parts of a parsed blob frame that blob, unless they are of a software key. -/
theorem framed_of_parsed {blob : WrappedBlob} {wrapped : WrappedParts} {keyAlias : String}
    (kind : blob.kind = .androidGcm)
    (parsed : AndroidPayload.decodePayload blob.payload =
      .ok ⟨keyAlias, wrapped.iv, wrapped.ciphertext⟩) :
    framed keyAlias wrapped = .ok blob ∨ framed keyAlias wrapped = .error .hardwareAbsent := by
  obtain ⟨encoded, tagged⟩ := AndroidPayload.encodePayload_of_decodePayload parsed
  unfold framed
  by_cases soft : wrapped.level = .software
  · rw [if_pos soft]
    exact .inr rfl
  · rw [if_neg soft, if_neg (Nat.not_lt.mpr tagged), encoded]
    left
    change WrappedBlob.fromParts .androidGcm blob.payload = .ok blob
    rw [← kind]
    exact dif_pos blob.fits

/-- Completing an unwrap returns what the Keystore releases, or its translated error. -/
theorem completeUnwrap_run (state : AndroidUnwrapState) (prompter : BiometricPrompter)
    (device : Device κ) :
    (store.completeUnwrap (.android state) prompter device).1 =
      match (store.wrapper.unwrap state.keyAlias state.slotTag state.iv state.ciphertext
        device.1).1 with
      | .ok material => .ok material
      | .error error => .error (mapKeystoreError error) := by
  obtain ⟨keystore, cachedLevel⟩ := device
  change (Op.mapError mapKeystoreError (Op.onFirst _) (keystore, cachedLevel)).1 = _
  unfold Op.mapError
  rw [Op.onFirst_run]
  cases (store.wrapper.unwrap state.keyAlias state.slotTag state.iv state.ciphertext keystore).1
    with
  | ok material => rfl
  | error error => rfl

/-- Whatever the backend unwraps for a slot was handed to an enrolment for that slot, which
returned exactly the presented blob or was refused because the key was a software key. -/
theorem unwrap_enrolled (ideal : IdealKeystore store.wrapper sealed) {start : Device κ}
    (fresh : ∀ entry, ¬ sealed start.1 entry)
    (history : List (HsmCall (Block aliasEntropyLen))) {slot : HsmSlot} {bytes material : Bytes}
    {prompter : BiometricPrompter}
    (returned : (store.keyStore.unwrapBytes slot bytes prompter
      (store.keyStore.reached start history).device).1 = .ok material) :
    ∃ attempt ∈ (store.keyStore.reached start history).attempts, attempt.slot = slot ∧
      attempt.material = material ∧
      ((∃ blob, attempt.outcome = .ok blob ∧ bytes = blob.toBytes) ∨
        attempt.outcome = .error .hardwareAbsent) := by
  obtain ⟨blob, handle, parsed, began, completed⟩ := unwrapBytes_ok returned
  obtain ⟨kind, parts, decoded, rfl⟩ := beginUnwrap_ok.mp began
  have accounted := (ledger ideal).reached_accounted _ fresh history
  have released := (completeUnwrap_run _ prompter _).symm.trans completed
  cases opened : (store.wrapper.unwrap parts.keyAlias slot.tag parts.iv parts.ciphertext
      (store.keyStore.reached start history).device.1).1 with
  | error error =>
    rw [opened] at released
    cases released
  | ok found =>
    rw [opened] at released
    obtain rfl := Except.ok.inj released
    obtain ⟨entry, present, names, tags, vectors, texts, own⟩ := ideal.opens _ _ _ _ _ _ opened
    obtain ⟨attempt, attempted, made⟩ := accounted.sealedBy entry present
    have slots : attempt.slot = slot := HsmSlot.tag_injective (made.slotTag.symm.trans tags)
    refine ⟨attempt, attempted, slots, made.material.symm.trans own, ?_⟩
    have parsedParts : AndroidPayload.decodePayload blob.payload =
        .ok ⟨entry.keyAlias, entry.wrapped.iv, entry.wrapped.ciphertext⟩ := by
      rw [decoded, names, vectors, texts]
    rcases framed_of_parsed kind parsedParts with ok | refused
    · exact .inl ⟨blob, made.outcome.trans ok, WrappedBlob.toBytes_of_fromBytes parsed⟩
    · exact .inr (made.outcome.trans refused)

/-- A returned blob unwraps to its own material under its own slot, unless the Keystore refuses to
release it. -/
theorem unwrap_own (ideal : IdealKeystore store.wrapper sealed) {start : Device κ}
    (fresh : ∀ entry, ¬ sealed start.1 entry)
    (history : List (HsmCall (Block aliasEntropyLen))) {attempt : EnrollAttempt}
    (attempted : attempt ∈ (store.keyStore.reached start history).attempts) {blob : WrappedBlob}
    (enrolled : attempt.outcome = .ok blob) (prompter : BiometricPrompter) :
    ∃ parts, AndroidPayload.decodePayload blob.payload = .ok parts ∧
      (store.keyStore.unwrapBytes attempt.slot blob.toBytes prompter
        (store.keyStore.reached start history).device).1 =
          match (store.wrapper.unwrap parts.keyAlias attempt.slot.tag parts.iv parts.ciphertext
            (store.keyStore.reached start history).device.1).1 with
          | .ok _ => .ok attempt.material
          | .error error => .error (mapKeystoreError error) := by
  have accounted := (ledger ideal).reached_accounted _ fresh history
  obtain ⟨entry, present, made⟩ := accounted.backed attempt attempted blob enrolled
  obtain ⟨kind, decoded⟩ := framed_ok (made.outcome.symm.trans enrolled)
  have began : store.keyStore.beginUnwrap attempt.slot blob = .ok (.android
      ⟨entry.keyAlias, entry.wrapped.iv, entry.wrapped.ciphertext, attempt.slot.tag⟩) :=
    beginUnwrap_ok.mpr ⟨kind, _, decoded, rfl⟩
  refine ⟨_, decoded, ?_⟩
  rw [unwrapBytes_toBytes began]
  refine (completeUnwrap_run _ prompter _).trans ?_
  dsimp only
  cases opened : (store.wrapper.unwrap entry.keyAlias attempt.slot.tag entry.wrapped.iv
      entry.wrapped.ciphertext (store.keyStore.reached start history).device.1).1 with
  | error error => rfl
  | ok found =>
    obtain ⟨other, otherPresent, names, tags, vectors, texts, own⟩ :=
      ideal.opens _ _ _ _ _ _ opened
    have same := ideal.oneKey _ other entry otherPresent present names
      (tags.trans made.slotTag.symm) vectors texts
    dsimp only
    rw [← own, same, made.material]

end Ideal

end AndroidKeyStore

end Passman
