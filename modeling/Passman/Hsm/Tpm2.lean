import Passman.Hsm.Backend
import Passman.Lib.Slices

/-!
# The Linux TPM

The backend seals the tag of the slot together with the material under the storage root key,
and stores the two halves of the sealed object in the payload. Unwrapping loads the halves,
unseals them and compares the tag with that of the requested slot. The TPM and its library
are behind a foreign interface.
-/
namespace Passman

open Bytewise Fallible HardwareKeyStore

/-- The persistent handle of the storage root key. -/
def srkPersistentHandle : UInt32 := 0x81000001

/-- The device of the resource manager in the kernel. -/
def tpmRmDevice : String := "/dev/tpmrm0"

/-- The payload byte of an object without a PCR policy. -/
def pcrPolicyAbsent : UInt8 := 0x00

/-- Length of the enrolment identifier in the payload. -/
def uuidLen : Nat := 16

/-- The response codes of the TPM that are told apart. -/
inductive Tss2ResponseCodeKind where
  /-- Dictionary-attack lockout. -/
  | lockout
  /-- Try again. -/
  | retry
  /-- The command yielded. -/
  | yielded
  /-- Writes are throttled. -/
  | nvRate
  /-- The self-test is running. -/
  | testing
  /-- A gap in the context identifiers. -/
  | contextGap
  /-- Out of memory. -/
  | memory
  /-- Out of memory for objects. -/
  | objectMemory
  /-- Out of memory for sessions. -/
  | sessionMemory
  /-- Out of object handles. -/
  | objectHandles
  /-- Out of session handles. -/
  | sessionHandles
  /-- The command was cancelled. -/
  | canceled
  /-- The object fails its integrity check. -/
  | integrity
  /-- Any other code. -/
  | other
  deriving DecidableEq

/-- Errors of the TPM library. -/
inductive TssError where
  /-- A response of the TPM, with its kind when it has one. -/
  | tss2Error (kind : Option Tss2ResponseCodeKind)
  /-- A fault of the library itself. -/
  | wrapperError
  deriving DecidableEq

/-- The error of the key store for an error of the TPM library. -/
def mapTpmError : TssError → HsmError
  | .wrapperError => .backend "TPM 2.0 backend error"
  | .tss2Error none => .backend "TPM 2.0 backend error"
  | .tss2Error (some .canceled) => .cancelled
  | .tss2Error (some .integrity) => .permanentlyInvalidated
  | .tss2Error (some .other) => .backend "TPM 2.0 backend error"
  | .tss2Error (some _) => .transient

/-- The attributes of an object template. -/
structure ObjectAttributes where
  /-- Bound to this TPM. -/
  fixedTpm : Bool
  /-- Bound to its parent. -/
  fixedParent : Bool
  /-- The secret originates in the TPM. -/
  sensitiveDataOrigin : Bool
  /-- Use is authorized by the auth value. -/
  userWithAuth : Bool
  /-- Restricted. -/
  restricted : Bool
  /-- May decrypt. -/
  decrypt : Bool
  /-- May sign. -/
  signEncrypt : Bool
  /-- Cleared on restart. -/
  stClear : Bool
  /-- Administration by policy only. -/
  adminWithPolicy : Bool
  /-- Exempt from dictionary-attack protection. -/
  noDa : Bool
  deriving DecidableEq

/-- The templates the backend builds. -/
inductive PublicTemplate where
  /-- A 2048-bit RSA storage key with an AES-128-CFB child protection and no scheme. -/
  | rsaStorage (attributes : ObjectAttributes)
  /-- A sealed data object: a keyed hash with no scheme. -/
  | keyedHashNull (attributes : ObjectAttributes)
  deriving DecidableEq

/-- The template of the storage root key. -/
def buildSrkPublic : PublicTemplate :=
  .rsaStorage ⟨true, true, true, true, true, true, false, false, false, false⟩

/-- The template of a sealed object. -/
def buildSealedObjectPublic : PublicTemplate :=
  .keyedHashNull ⟨true, true, false, true, false, false, false, false, false, false⟩

/-- The foreign interface to the TPM and its library: public areas and handles are its own, private
areas are buffers. -/
structure Esapi (τ Public Handle : Type) where
  /-- The transmission interface named by the environment. -/
  tctiFromEnvironment : τ → Option String
  /-- Whether a transmission interface can be named so. -/
  tctiFromStr : String → Option String
  /-- Open a context. -/
  newContext : String → Op τ TssError Unit
  /-- A handle of a persistent object. -/
  trFromTpmPublic : UInt32 → Op τ TssError Handle
  /-- Create a primary key. -/
  createPrimary : PublicTemplate → Op τ TssError Handle
  /-- Make an object persistent. -/
  evictControl : Handle → UInt32 → Op τ TssError Unit
  /-- Flush a transient object. -/
  flushContext : Handle → Op τ TssError Unit
  /-- Whether a sealed object can hold the data. -/
  fitsSensitive : Bytes → Bool
  /-- Whether the bytes fit a private area. -/
  fitsPrivate : Bytes → Bool
  /-- Seal data under a parent. -/
  create : Handle → PublicTemplate → Bytes → Op τ TssError (Public × Bytes)
  /-- Load the halves of an object under a parent. -/
  load : Handle → Bytes → Public → Op τ TssError Handle
  /-- The data of a loaded object. -/
  unsealData : Handle → Op τ TssError Bytes
  /-- The bytes of a public area. -/
  marshall : Public → Except TssError Bytes
  /-- The public area of bytes. -/
  unmarshall : Bytes → Except TssError Public

/-- The parsed payload. -/
structure Tpm2Payload where
  /-- The marshalled public area. -/
  publicArea : Bytes
  /-- The private area. -/
  privateArea : Bytes

namespace Tpm2Payload

/-- The payload: no policy, the identifier, both areas behind their lengths. -/
def encodePayload (uuid : Block uuidLen) (parts : Tpm2Payload) : Except HsmError Bytes :=
  if parts.publicArea.length > 65535 then
    .error (.backend "marshalled TPM2B_PUBLIC exceeds u16")
  else if parts.privateArea.length > 65535 then
    .error (.backend "marshalled TPM2B_PRIVATE exceeds u16")
  else
    .ok ([pcrPolicyAbsent] ++ uuid.val ++ lePrefix UInt16 parts.publicArea.length ++
      parts.publicArea ++ lePrefix UInt16 parts.privateArea.length ++ parts.privateArea)

/-- Read a length and that many bytes. -/
def readPart (cursor : Bytes) : Except HsmError (Bytes × Bytes) :=
  readLenPrefixed (.malformedBlob "TPM2 payload truncated in a length prefix")
    (.malformedBlob "TPM2 payload length prefix exceeds remaining input") cursor

/-- Parse a payload. -/
def decodePayload : Bytes → Except HsmError Tpm2Payload
  | [] => .error (.malformedBlob "TPM2 payload missing pcr_policy_present byte")
  | pcrPresent :: rest =>
    if pcrPresent ≠ pcrPolicyAbsent then
      .error (.malformedBlob "TPM2 payload declares a PCR policy this build does not support")
    else
      match splitAtChecked uuidLen rest with
      | none => .error (.malformedBlob "TPM2 payload truncated in enrollment uuid")
      | some (_, cursor) => do
        let (publicArea, cursor) ← readPart cursor
        let (privateArea, cursor) ← readPart cursor
        if cursor ≠ [] then .error (.malformedBlob "trailing bytes after TPM2 payload")
        else .ok ⟨publicArea, privateArea⟩

/-- A payload is written exactly when both areas fit their lengths. -/
theorem encodePayload_eq_ok {uuid : Block uuidLen} {parts : Tpm2Payload} {payload : Bytes} :
    encodePayload uuid parts = .ok payload ↔
      parts.publicArea.length ≤ 65535 ∧ parts.privateArea.length ≤ 65535 ∧
        payload = pcrPolicyAbsent :: (uuid.val ++
          (lePrefix UInt16 parts.publicArea.length ++ parts.publicArea ++
            (lePrefix UInt16 parts.privateArea.length ++ parts.privateArea))) := by
  unfold encodePayload
  by_cases longPublic : parts.publicArea.length > 65535
  · rw [if_pos longPublic]
    constructor
    · intro encoded
      cases encoded
    · rintro ⟨fits, _⟩
      omega
  · rw [if_neg longPublic]
    by_cases longPrivate : parts.privateArea.length > 65535
    · rw [if_pos longPrivate]
      constructor
      · intro encoded
        cases encoded
      · rintro ⟨_, fits, _⟩
        omega
    · rw [if_neg longPrivate]
      have publicFits := Nat.not_lt.mp longPublic
      have privateFits := Nat.not_lt.mp longPrivate
      simp only [publicFits, privateFits, true_and, Except.ok.injEq, List.append_assoc,
        List.cons_append, List.nil_append]
      exact eq_comm

/-- The length of a written payload. -/
theorem encodePayload_length {uuid : Block uuidLen} {parts : Tpm2Payload} {payload : Bytes}
    (encoded : encodePayload uuid parts = .ok payload) :
    payload.length = 21 + parts.publicArea.length + parts.privateArea.length := by
  obtain ⟨_, _, rfl⟩ := encodePayload_eq_ok.mp encoded
  have identifier : uuid.val.length = 16 := uuid.property
  have prefixes : ∀ length, (lePrefix UInt16 length).length = 2 := lePrefix_length UInt16
  simp only [List.length_cons, List.length_append, identifier, prefixes]
  omega

/-- A payload is parsed exactly when it is the writing of its parts under some identifier. -/
theorem decodePayload_eq_ok {payload : Bytes} {parts : Tpm2Payload} :
    decodePayload payload = .ok parts ↔ ∃ uuid, encodePayload uuid parts = .ok payload := by
  constructor
  · intro decoded
    cases payload with
    | nil => cases decoded
    | cons pcrPresent rest =>
      unfold decodePayload at decoded
      dsimp only at decoded
      by_cases policy : pcrPresent ≠ pcrPolicyAbsent
      · rw [if_pos policy] at decoded
        cases decoded
      · rw [if_neg policy] at decoded
        obtain rfl := not_not.mp policy
        cases split : splitAtChecked uuidLen rest with
        | none =>
          rw [split] at decoded
          cases decoded
        | some front =>
          obtain ⟨uuid, cursor⟩ := front
          rw [split] at decoded
          dsimp only at decoded
          cases first : readPart cursor with
          | error error =>
            rw [first] at decoded
            cases decoded
          | ok middle =>
            obtain ⟨publicArea, later⟩ := middle
            rw [first] at decoded
            cases second : readPart later with
            | error error =>
              simp only [bind, Except.bind, second] at decoded
              cases decoded
            | ok last =>
              obtain ⟨privateArea, trailing⟩ := last
              simp only [bind, Except.bind, second] at decoded
              by_cases more : trailing ≠ []
              · rw [if_pos more] at decoded
                cases decoded
              · rw [if_neg more] at decoded
                obtain rfl := not_not.mp more
                obtain rfl := Except.ok.inj decoded
                obtain ⟨publicFits, whole⟩ := readLenPrefixed_eq_ok.mp first
                obtain ⟨privateFits, text⟩ := readLenPrefixed_eq_ok.mp second
                have identifier := splitAtChecked_eq_some.mp split
                refine ⟨uuid, encodePayload_eq_ok.mpr ⟨publicFits, privateFits, ?_⟩⟩
                rw [identifier, whole, text, List.append_nil]
  · rintro ⟨uuid, encoded⟩
    obtain ⟨publicFits, privateFits, rfl⟩ := encodePayload_eq_ok.mp encoded
    have split : splitAtChecked uuidLen (uuid.val ++
        (lePrefix UInt16 parts.publicArea.length ++ parts.publicArea ++
          (lePrefix UInt16 parts.privateArea.length ++ parts.privateArea))) =
        some (uuid, lePrefix UInt16 parts.publicArea.length ++ parts.publicArea ++
          (lePrefix UInt16 parts.privateArea.length ++ parts.privateArea)) :=
      splitAtChecked_eq_some.mpr rfl
    have first : readPart (lePrefix UInt16 parts.publicArea.length ++ parts.publicArea ++
        (lePrefix UInt16 parts.privateArea.length ++ parts.privateArea)) =
        .ok (parts.publicArea, lePrefix UInt16 parts.privateArea.length ++ parts.privateArea) :=
      readLenPrefixed_eq_ok.mpr ⟨publicFits, rfl⟩
    have second : readPart (lePrefix UInt16 parts.privateArea.length ++ parts.privateArea) =
        .ok (parts.privateArea, []) :=
      readLenPrefixed_eq_ok.mpr ⟨privateFits, (List.append_nil _).symm⟩
    unfold decodePayload
    dsimp only
    rw [if_neg (not_not.mpr rfl), split]
    dsimp only
    rw [first]
    simp only [bind, Except.bind, second, ne_eq, not_true_eq_false, if_false]

end Tpm2Payload

/-- The TPM backend over a TPM. -/
structure Tpm2KeyStore (τ Public Handle : Type) where
  /-- The TPM and its library. -/
  esapi : Esapi τ Public Handle

namespace Tpm2KeyStore

variable {τ Public Handle : Type}

/-- Open a context, on the interface the environment names or on the kernel's device. -/
def openContext (store : Tpm2KeyStore τ Public Handle) : Op τ HsmError Unit := do
  let tpm ← Op.get
  let named := (store.esapi.tctiFromEnvironment tpm).or
    (store.esapi.tctiFromStr ("device:" ++ tpmRmDevice))
  match named with
  | none => Op.fail .hardwareAbsent
  | some tcti => Op.mapError (fun _ => HsmError.hardwareAbsent) (store.esapi.newContext tcti)

/-- The storage root key: the persistent one, or a new primary made persistent. -/
def ensureSrk (store : Tpm2KeyStore τ Public Handle) : Op τ TssError Handle := do
  match ← Op.attempt (store.esapi.trFromTpmPublic srkPersistentHandle) with
  | .ok existing => pure existing
  | .error _ => do
    let primary ← store.esapi.createPrimary buildSrkPublic
    match ← Op.attempt (store.esapi.evictControl primary srkPersistentHandle) with
    | .ok _ => pure primary
    | .error _ => do
      let _ ← Op.attempt (store.esapi.flushContext primary)
      store.esapi.trFromTpmPublic srkPersistentHandle

/-- Seal the tag of a slot and a material under the storage root key. -/
def createSealed (store : Tpm2KeyStore τ Public Handle) (slot : HsmSlot) (material : Bytes) :
    Op τ TssError (Public × Bytes) := do
  let srk ← store.ensureSrk
  store.esapi.create srk buildSealedObjectPublic (slot.tag :: material)

/-- The blob of a sealed object. -/
def framed (store : Tpm2KeyStore τ Public Handle) (uuid : Block uuidLen) (outPublic : Public)
    (outPrivate : Bytes) : Except HsmError WrappedBlob := do
  let pubBytes ← (store.esapi.marshall outPublic).mapError mapTpmError
  let payload ← Tpm2Payload.encodePayload uuid ⟨pubBytes, outPrivate⟩
  WrappedBlob.fromParts .tpm2 payload

/-- Seal the tag of the slot and the material, and frame the halves of the object. -/
def enroll (store : Tpm2KeyStore τ Public Handle) (slot : HsmSlot) (material : Bytes)
    (_prompter : BiometricPrompter) (uuid : Block uuidLen) : Op τ HsmError WrappedBlob := do
  store.openContext
  if store.esapi.fitsSensitive (slot.tag :: material) then do
    let (outPublic, outPrivate) ← Op.mapError mapTpmError (store.createSealed slot material)
    Op.lift (store.framed uuid outPublic outPrivate)
  else Op.fail (.backend "secret too large to seal")

/-- Parse the payload of a blob; the tag is that of the requested slot. -/
def beginUnwrap (slot : HsmSlot) (wrapped : WrappedBlob) : Except HsmError HandleInner :=
  if wrapped.kind ≠ .tpm2 then .error (.malformedBlob "blob kind is not Tpm2")
  else do
    let parsed ← Tpm2Payload.decodePayload wrapped.payload
    .ok (.tpm2 ⟨parsed.publicArea, parsed.privateArea, slot.tag⟩)

/-- Load the halves of an object and unseal it; the loaded object is always flushed. -/
def loadAndUnseal (store : Tpm2KeyStore τ Public Handle) (publicArea : Public)
    (privateArea : Bytes) : Op τ TssError Bytes := do
  let srk ← store.ensureSrk
  let object ← store.esapi.load srk privateArea publicArea
  let unsealed ← Op.attempt (store.esapi.unsealData object)
  let _ ← Op.attempt (store.esapi.flushContext object)
  Op.lift unsealed

/-- The material behind the expected tag. -/
def stripTag (expectedTag : UInt8) : Bytes → Except HsmError Bytes
  | [] => .error (.malformedBlob "TPM2 unsealed data is empty (missing slot tag)")
  | tag :: secret =>
    if tag ≠ expectedTag then
      .error (.malformedBlob "TPM2 sealed slot tag does not match the requested slot")
    else .ok secret

/-- Unseal the object of a handle and compare the sealed tag. -/
def completeUnwrap (store : Tpm2KeyStore τ Public Handle) (handle : HandleInner)
    (_prompter : BiometricPrompter) : Op τ HsmError Bytes := do
  let state ← Op.lift handle.intoTpm2
  let publicArea ← Op.mapError mapTpmError (Op.lift (store.esapi.unmarshall state.publicArea))
  if store.esapi.fitsPrivate state.privateArea then do
    store.openContext
    let bytes ← Op.mapError mapTpmError (store.loadAndUnseal publicArea state.privateArea)
    Op.lift (stripTag state.expectedTag bytes)
  else Op.fail (.malformedBlob "TPM2 private blob too large")

/-- Nothing to destroy outside the blob. -/
def invalidate (_slot : HsmSlot) (wrapped : WrappedBlob) : Op τ HsmError Unit :=
  if wrapped.kind ≠ .tpm2 then Op.fail (.malformedBlob "blob kind is not Tpm2")
  else pure ()

/-- The TPM backend as a key store. -/
def keyStore (store : Tpm2KeyStore τ Public Handle) :
    HardwareKeyStore τ (Block uuidLen) where
  enroll := store.enroll
  beginUnwrap := beginUnwrap
  completeUnwrap := store.completeUnwrap
  invalidate := invalidate

/-- An object the TPM sealed. -/
structure TpmSealing (Public : Type) where
  /-- The public area. -/
  publicArea : Public
  /-- The private area. -/
  privateArea : Bytes
  /-- The sealed data. -/
  data : Bytes

/-- The TPM is ideal: it unseals from loaded halves exactly the data it sealed into them, and public
areas are unmarshalled as marshalled. -/
structure IdealTpm (esapi : Esapi τ Public Handle) (sealed : τ → TpmSealing Public → Prop) :
    Prop where
  /-- Creating seals its data. -/
  creates : ∀ parent template data before publicArea privateArea after,
    esapi.create parent template data before = (.ok (publicArea, privateArea), after) →
      ∀ entry, sealed after entry ↔ sealed before entry ∨ entry = ⟨publicArea, privateArea, data⟩
  /-- A refused creation seals nothing. -/
  refuses : ∀ parent template data before error after,
    esapi.create parent template data before = (.error error, after) →
      SameSealed sealed before after
  /-- Opening a context seals nothing. -/
  contexts : ∀ tcti, Op.Keeps (SameSealed sealed) (esapi.newContext tcti)
  /-- Finding a persistent object seals nothing. -/
  handles : ∀ handle, Op.Keeps (SameSealed sealed) (esapi.trFromTpmPublic handle)
  /-- Creating a primary key seals nothing. -/
  primaries : ∀ template, Op.Keeps (SameSealed sealed) (esapi.createPrimary template)
  /-- Making a key persistent seals nothing. -/
  evictions : ∀ key handle, Op.Keeps (SameSealed sealed) (esapi.evictControl key handle)
  /-- Flushing seals nothing. -/
  flushes : ∀ object, Op.Keeps (SameSealed sealed) (esapi.flushContext object)
  /-- Loading seals nothing. -/
  loads : ∀ parent privateArea publicArea,
    Op.Keeps (SameSealed sealed) (esapi.load parent privateArea publicArea)
  /-- Unsealing seals nothing. -/
  unseals : ∀ object, Op.Keeps (SameSealed sealed) (esapi.unsealData object)
  /-- Only what was sealed is unsealed. -/
  opens : ∀ parent privateArea publicArea before object loaded data,
    esapi.load parent privateArea publicArea before = (.ok object, loaded) →
      (esapi.unsealData object loaded).1 = .ok data → sealed loaded ⟨publicArea, privateArea, data⟩
  /-- The halves of an object hold one data. -/
  oneObject : ∀ tpm left right, sealed tpm left → sealed tpm right →
    left.publicArea = right.publicArea → left.privateArea = right.privateArea →
      left.data = right.data
  /-- Private areas of sealed objects fit. -/
  privates : ∀ tpm entry, sealed tpm entry → esapi.fitsPrivate entry.privateArea
  /-- Public areas are unmarshalled as marshalled. -/
  marshalls : ∀ publicArea bytes, esapi.marshall publicArea = .ok bytes →
    esapi.unmarshall bytes = .ok publicArea
  /-- What was unmarshalled is marshalled again, in no more bytes. -/
  unmarshalls : ∀ publicArea bytes, esapi.unmarshall bytes = .ok publicArea →
    ∃ written, esapi.marshall publicArea = .ok written ∧ written.length ≤ bytes.length

/-- The enrolment that sealed an object. -/
structure Made (store : Tpm2KeyStore τ Public Handle) (entry : TpmSealing Public)
    (attempt : EnrollAttempt) : Prop where
  /-- The tag of the slot and the material are sealed. -/
  data : entry.data = attempt.slot.tag :: attempt.material
  /-- The outcome is the framed object. -/
  outcome : ∃ uuid, attempt.outcome = store.framed uuid entry.publicArea entry.privateArea

section Ideal

variable {store : Tpm2KeyStore τ Public Handle} {sealed : τ → TpmSealing Public → Prop}

/-- Opening a context seals nothing. -/
theorem openContext_same (ideal : IdealTpm store.esapi sealed) :
    Op.Keeps (SameSealed sealed) store.openContext := by
  intro tpm
  unfold openContext
  rw [Op.get_bind_run]
  cases (store.esapi.tctiFromEnvironment tpm).or
      (store.esapi.tctiFromStr ("device:" ++ tpmRmDevice)) with
  | none => exact SameSealed.refl tpm
  | some tcti => exact Op.keeps_mapError (ideal.contexts tcti) tpm

/-- Providing the storage root key seals nothing. -/
theorem ensureSrk_same (ideal : IdealTpm store.esapi sealed) :
    Op.Keeps (SameSealed sealed) store.ensureSrk := by
  unfold ensureSrk
  apply SameSealed.bind (Op.keeps_attempt (ideal.handles _))
  intro found
  cases found with
  | ok existing => exact Op.keeps_pure (fun state => SameSealed.refl state) _
  | error error =>
    apply SameSealed.bind (ideal.primaries _)
    intro primary
    apply SameSealed.bind (Op.keeps_attempt (ideal.evictions _ _))
    intro evicted
    cases evicted with
    | ok _ => exact Op.keeps_pure (fun state => SameSealed.refl state) _
    | error error =>
      apply SameSealed.bind (Op.keeps_attempt (ideal.flushes _))
      intro _
      exact ideal.handles _

/-- Loading and unsealing seals nothing. -/
theorem loadAndUnseal_same (ideal : IdealTpm store.esapi sealed) (publicArea : Public)
    (privateArea : Bytes) :
    Op.Keeps (SameSealed sealed) (store.loadAndUnseal publicArea privateArea) := by
  unfold loadAndUnseal
  apply SameSealed.bind (ensureSrk_same ideal)
  intro srk
  apply SameSealed.bind (ideal.loads _ _ _)
  intro object
  apply SameSealed.bind (Op.keeps_attempt (ideal.unseals _))
  intro unsealed
  apply SameSealed.bind (Op.keeps_attempt (ideal.flushes _))
  intro _
  exact SameSealed.lift _

/-- What is loaded and unsealed was sealed. -/
theorem loadAndUnseal_ok (ideal : IdealTpm store.esapi sealed) {publicArea : Public}
    {privateArea data : Bytes} {before : τ}
    (unsealed : (store.loadAndUnseal publicArea privateArea before).1 = .ok data) :
    sealed before ⟨publicArea, privateArea, data⟩ := by
  have ran : store.loadAndUnseal publicArea privateArea before =
      (.ok data, (store.loadAndUnseal publicArea privateArea before).2) := Prod.ext unsealed rfl
  unfold loadAndUnseal at ran
  obtain ⟨srk, rooted, found, rest⟩ := Op.bind_ok_cases ran
  obtain ⟨object, loaded, load, rest⟩ := Op.bind_ok_cases rest
  rw [Op.attempt_bind_run, Op.attempt_bind_run] at rest
  have answered := (Prod.mk.inj rest).1
  have present := ideal.opens _ _ _ _ _ _ _ load answered
  have rootSame := (ensureSrk_same ideal).ran found
  have loadSame := (ideal.loads _ _ _).ran load
  exact (rootSame _).mp ((loadSame _).mp present)

/-- Sealing adds its object. -/
theorem createSealed_run (ideal : IdealTpm store.esapi sealed) (slot : HsmSlot)
    (material : Bytes) (before : τ) :
    (∃ error after, store.createSealed slot material before = (.error error, after) ∧
        SameSealed sealed before after) ∨
      ∃ publicArea privateArea after,
        store.createSealed slot material before = (.ok (publicArea, privateArea), after) ∧
          ∀ entry, sealed after entry ↔
            sealed before entry ∨ entry = ⟨publicArea, privateArea, slot.tag :: material⟩ := by
  unfold createSealed
  cases found : store.ensureSrk before with
  | mk answer rooted =>
    have rootSame := (ensureSrk_same ideal).ran found
    cases answer with
    | error error => exact .inl ⟨error, rooted, Op.bind_error found, rootSame⟩
    | ok srk =>
      rw [Op.bind_ok found]
      cases create : store.esapi.create srk buildSealedObjectPublic (slot.tag :: material) rooted
        with
      | mk answer after =>
        cases answer with
        | error error =>
          have refused := ideal.refuses _ _ _ _ _ _ create
          exact .inl ⟨error, after, rfl, SameSealed.trans _ _ _ rootSame refused⟩
        | ok halves =>
          obtain ⟨publicArea, privateArea⟩ := halves
          have grows := ideal.creates _ _ _ _ _ _ _ create
          refine .inr ⟨publicArea, privateArea, after, rfl, ?_⟩
          intro entry
          rw [grows entry, rootSame entry]

/-- The sealed objects are a ledger. -/
theorem ledger (ideal : IdealTpm store.esapi sealed) :
    Ledger store.keyStore sealed store.Made := by
  constructor
  · intro slot material prompter uuid before
    change Seals _ _ ⟨slot, material, (store.enroll slot material prompter uuid before).1⟩ before
      (store.enroll slot material prompter uuid before).2
    unfold enroll
    have opening := openContext_same ideal before
    cases opened : store.openContext before with
    | mk answer reached =>
      rw [opened] at opening
      cases answer with
      | error error =>
        rw [Op.bind_error opened]
        exact .of_error opening
      | ok _ =>
        rw [Op.bind_ok opened]
        by_cases fits : store.esapi.fitsSensitive (slot.tag :: material)
        · rw [if_pos fits]
          apply Seals.after_same opening
          rcases createSealed_run ideal slot material reached with
            ⟨error, after, ran, same⟩ | ⟨publicArea, privateArea, after, ran, grows⟩
          · have mapped : Op.mapError mapTpmError (store.createSealed slot material) reached =
                (.error (mapTpmError error), after) := Op.mapError_error.mpr ⟨error, ran, rfl⟩
            rw [Op.bind_error mapped]
            exact .of_error same
          · have mapped : Op.mapError mapTpmError (store.createSealed slot material) reached =
                (.ok (publicArea, privateArea), after) := Op.mapError_ok.mpr ran
            rw [Op.bind_ok mapped]
            exact .of_added grows ⟨rfl, uuid, rfl⟩
        · rw [if_neg fits]
          exact .of_error opening
  · intro handle prompter
    change Op.Keeps _ (store.completeUnwrap handle prompter)
    unfold completeUnwrap
    apply SameSealed.bind (SameSealed.lift _)
    intro state
    apply SameSealed.bind (Op.keeps_mapError (SameSealed.lift _))
    intro publicArea
    by_cases fits : store.esapi.fitsPrivate state.privateArea
    · rw [if_pos fits]
      apply SameSealed.bind (openContext_same ideal)
      intro _
      apply SameSealed.bind (Op.keeps_mapError (loadAndUnseal_same ideal _ _))
      intro bytes
      exact SameSealed.lift _
    · rw [if_neg fits]
      exact Op.keeps_fail (fun state => SameSealed.refl state) _
  · intro slot blob
    change Op.Keeps _ (invalidate slot blob)
    unfold invalidate
    by_cases foreign : blob.kind ≠ .tpm2
    · rw [if_pos foreign]
      exact Op.keeps_fail (fun state => SameSealed.refl state) _
    · rw [if_neg foreign]
      exact Op.keeps_pure (fun state => SameSealed.refl state) _

/-- An unwrap begins exactly on a blob of the TPM whose payload is parsed. -/
theorem beginUnwrap_ok {slot : HsmSlot} {wrapped : WrappedBlob} {handle : HandleInner} :
    beginUnwrap slot wrapped = .ok handle ↔ wrapped.kind = .tpm2 ∧
      ∃ parsed, Tpm2Payload.decodePayload wrapped.payload = .ok parsed ∧
        handle = .tpm2 ⟨parsed.publicArea, parsed.privateArea, slot.tag⟩ := by
  unfold beginUnwrap
  by_cases foreign : wrapped.kind ≠ .tpm2
  · rw [if_pos foreign]
    constructor
    · intro began
      cases began
    · rintro ⟨own, _⟩
      exact absurd own foreign
  · rw [if_neg foreign]
    have own := not_not.mp foreign
    cases Tpm2Payload.decodePayload wrapped.payload with
    | error error =>
      constructor
      · intro began
        cases began
      · rintro ⟨_, _, clash, _⟩
        cases clash
    | ok parsed =>
      constructor
      · intro began
        exact ⟨own, parsed, rfl, (Except.ok.inj began).symm⟩
      · rintro ⟨_, found, same, rfl⟩
        obtain rfl := Except.ok.inj same
        rfl

/-- The tag is stripped exactly off data that begins with the expected one. -/
theorem stripTag_eq_ok {expectedTag : UInt8} {bytes secret : Bytes} :
    stripTag expectedTag bytes = .ok secret ↔ bytes = expectedTag :: secret := by
  cases bytes with
  | nil => simp [stripTag]
  | cons tag rest =>
    unfold stripTag
    dsimp only
    by_cases other : tag ≠ expectedTag
    · rw [if_pos other]
      constructor
      · intro stripped
        cases stripped
      · intro same
        exact absurd (List.cons.inj same).1 other
    · rw [if_neg other]
      obtain rfl := not_not.mp other
      simp

/-- Framed halves are the payload of the blob. -/
theorem framed_ok {uuid : Block uuidLen} {publicArea : Public} {privateArea : Bytes}
    {blob : WrappedBlob} (ok : store.framed uuid publicArea privateArea = .ok blob) :
    blob.kind = .tpm2 ∧ ∃ written, store.esapi.marshall publicArea = .ok written ∧
      Tpm2Payload.decodePayload blob.payload = .ok ⟨written, privateArea⟩ := by
  unfold framed at ok
  cases marshalled : store.esapi.marshall publicArea with
  | error error =>
    rw [marshalled] at ok
    cases ok
  | ok written =>
    rw [marshalled] at ok
    change (Tpm2Payload.encodePayload uuid ⟨written, privateArea⟩ >>= fun payload =>
      WrappedBlob.fromParts .tpm2 payload) = .ok blob at ok
    cases encoded : Tpm2Payload.encodePayload uuid ⟨written, privateArea⟩ with
    | error error =>
      rw [encoded] at ok
      cases ok
    | ok payload =>
      rw [encoded] at ok
      change WrappedBlob.fromParts .tpm2 payload = .ok blob at ok
      unfold WrappedBlob.fromParts at ok
      split_ifs at ok
      obtain rfl := Except.ok.inj ok
      exact ⟨rfl, written, rfl, Tpm2Payload.decodePayload_eq_ok.mpr ⟨uuid, encoded⟩⟩

/-- The halves of a parsed blob frame some blob again, under any identifier. -/
theorem framed_of_parsed (ideal : IdealTpm store.esapi sealed) {blob : WrappedBlob}
    {parts : Tpm2Payload} {publicArea : Public} (uuid : Block uuidLen)
    (parsed : Tpm2Payload.decodePayload blob.payload = .ok parts)
    (unmarshalled : store.esapi.unmarshall parts.publicArea = .ok publicArea) :
    ∃ other, store.framed uuid publicArea parts.privateArea = .ok other := by
  obtain ⟨found, encoded⟩ := Tpm2Payload.decodePayload_eq_ok.mp parsed
  have sized := Tpm2Payload.encodePayload_length encoded
  have bound := blob.fits
  obtain ⟨publicFits, privateFits, _⟩ := Tpm2Payload.encodePayload_eq_ok.mp encoded
  obtain ⟨written, marshalled, shorter⟩ := ideal.unmarshalls _ _ unmarshalled
  have again : Tpm2Payload.encodePayload uuid ⟨written, parts.privateArea⟩ = .ok _ :=
    Tpm2Payload.encodePayload_eq_ok.mpr ⟨Nat.le_trans shorter publicFits, privateFits, rfl⟩
  have resized := Tpm2Payload.encodePayload_length again
  unfold framed
  rw [marshalled]
  change ∃ other, (Tpm2Payload.encodePayload uuid ⟨written, parts.privateArea⟩ >>= fun payload =>
    WrappedBlob.fromParts .tpm2 payload) = .ok other
  rw [again]
  exact ⟨_, dif_pos (by rw [resized]; dsimp only; omega)⟩

/-- A completed unwrap unmarshalled the public area, unsealed both halves on some state of the TPM
that sealed the same, and stripped the expected tag. -/
theorem completeUnwrap_ok (ideal : IdealTpm store.esapi sealed) {state : Tpm2UnwrapState}
    {prompter : BiometricPrompter} {tpm : τ} {material : Bytes}
    (completed : (store.completeUnwrap (.tpm2 state) prompter tpm).1 = .ok material) :
    ∃ publicArea, store.esapi.unmarshall state.publicArea = .ok publicArea ∧
      sealed tpm ⟨publicArea, state.privateArea, state.expectedTag :: material⟩ := by
  have ran : store.completeUnwrap (.tpm2 state) prompter tpm =
      (.ok material, (store.completeUnwrap (.tpm2 state) prompter tpm).2) :=
    Prod.ext completed rfl
  unfold completeUnwrap at ran
  obtain ⟨found, same, rest⟩ := Op.lift_bind_ok ran
  obtain rfl := Except.ok.inj same
  obtain ⟨publicArea, reached, lifted, rest⟩ := Op.bind_ok_cases rest
  obtain ⟨unmarshalled, rfl⟩ := Prod.mk.inj (Op.mapError_ok.mp lifted)
  refine ⟨publicArea, unmarshalled, ?_⟩
  by_cases fits : store.esapi.fitsPrivate state.privateArea
  · rw [if_pos fits] at rest
    obtain ⟨_, opened, opening, rest⟩ := Op.bind_ok_cases rest
    obtain ⟨bytes, final, unsealed, rest⟩ := Op.bind_ok_cases rest
    have loaded := congrArg Prod.fst (Op.mapError_ok.mp unsealed)
    have present := loadAndUnseal_ok ideal loaded
    have stripped := stripTag_eq_ok.mp (Prod.mk.inj rest).1
    rw [stripped] at present
    exact ((openContext_same ideal).ran opening _).mp present
  · rw [if_neg fits] at rest
    cases (Prod.mk.inj rest).1

/-- Whatever the backend unwraps for a slot was enrolled for that slot. -/
theorem unwrap_enrolled (ideal : IdealTpm store.esapi sealed) {start : τ}
    (fresh : ∀ entry, ¬ sealed start entry) (history : List (HsmCall (Block uuidLen)))
    {slot : HsmSlot} {bytes material : Bytes} {prompter : BiometricPrompter}
    (returned : (store.keyStore.unwrapBytes slot bytes prompter
      (store.keyStore.reached start history).device).1 = .ok material) :
    ∃ attempt ∈ (store.keyStore.reached start history).attempts, attempt.slot = slot ∧
      attempt.material = material ∧ ∃ blob, attempt.outcome = .ok blob := by
  obtain ⟨blob, handle, parsed, began, completed⟩ := unwrapBytes_ok returned
  obtain ⟨kind, parts, decoded, rfl⟩ := beginUnwrap_ok.mp began
  have released : (store.completeUnwrap (.tpm2 ⟨parts.publicArea, parts.privateArea, slot.tag⟩)
      prompter (store.keyStore.reached start history).device).1 = .ok material := completed
  obtain ⟨publicArea, unmarshalled, present⟩ := completeUnwrap_ok ideal released
  have accounted := (ledger ideal).reached_accounted _ fresh history
  obtain ⟨attempt, attempted, made⟩ := accounted.sealedBy _ present
  have data := List.cons.inj made.data
  obtain ⟨uuid, outcome⟩ := made.outcome
  obtain ⟨other, framed⟩ := framed_of_parsed ideal uuid decoded unmarshalled
  exact ⟨attempt, attempted, (HsmSlot.tag_injective data.1).symm, data.2.symm, other,
    outcome.trans framed⟩

/-- A returned blob unwraps to its own material under its own slot, unless the TPM cannot be opened
or refuses to load and unseal it. -/
theorem unwrap_own (ideal : IdealTpm store.esapi sealed) {start : τ}
    (fresh : ∀ entry, ¬ sealed start entry) (history : List (HsmCall (Block uuidLen)))
    {attempt : EnrollAttempt}
    (attempted : attempt ∈ (store.keyStore.reached start history).attempts) {blob : WrappedBlob}
    (enrolled : attempt.outcome = .ok blob) (prompter : BiometricPrompter) :
    ∃ publicArea privateArea,
      (store.keyStore.unwrapBytes attempt.slot blob.toBytes prompter
        (store.keyStore.reached start history).device).1 =
          match store.openContext (store.keyStore.reached start history).device with
          | (.error error, _) => .error error
          | (.ok _, opened) =>
            match (store.loadAndUnseal publicArea privateArea opened).1 with
            | .ok _ => .ok attempt.material
            | .error error => .error (mapTpmError error) := by
  have accounted := (ledger ideal).reached_accounted _ fresh history
  obtain ⟨entry, present, made⟩ := accounted.backed attempt attempted blob enrolled
  obtain ⟨uuid, outcome⟩ := made.outcome
  obtain ⟨kind, written, marshalled, decoded⟩ := framed_ok (outcome.symm.trans enrolled)
  have began : store.keyStore.beginUnwrap attempt.slot blob =
      .ok (.tpm2 ⟨written, entry.privateArea, attempt.slot.tag⟩) :=
    beginUnwrap_ok.mpr ⟨kind, _, decoded, rfl⟩
  have unmarshalled := ideal.marshalls _ _ marshalled
  have fits := ideal.privates _ _ present
  refine ⟨entry.publicArea, entry.privateArea, ?_⟩
  rw [unwrapBytes_toBytes began]
  generalize (store.keyStore.reached start history).device = tpm at present
  change (store.completeUnwrap (.tpm2 ⟨written, entry.privateArea, attempt.slot.tag⟩) prompter
    tpm).1 = _
  unfold completeUnwrap
  change ((Op.mapError mapTpmError (Op.lift (store.esapi.unmarshall written)) >>= _ :
    Op τ HsmError Bytes) tpm).1 = _
  rw [unmarshalled]
  change ((if store.esapi.fitsPrivate entry.privateArea then _ else _ :
    Op τ HsmError Bytes) tpm).1 = _
  rw [if_pos fits]
  have opening := openContext_same ideal tpm
  cases opened : store.openContext tpm with
  | mk answer reached =>
    rw [opened] at opening
    cases answer with
    | error error => rw [Op.bind_error opened]
    | ok _ =>
      rw [Op.bind_ok opened]
      dsimp only
      cases unsealed : store.loadAndUnseal entry.publicArea entry.privateArea reached with
      | mk answer final =>
        cases answer with
        | error error =>
          have mapped : Op.mapError mapTpmError
              (store.loadAndUnseal entry.publicArea entry.privateArea) reached =
                (.error (mapTpmError error), final) := Op.mapError_error.mpr ⟨error, unsealed, rfl⟩
          rw [Op.bind_error mapped]
        | ok data =>
          have mapped : Op.mapError mapTpmError
              (store.loadAndUnseal entry.publicArea entry.privateArea) reached =
                (.ok data, final) := Op.mapError_ok.mpr unsealed
          have loaded := loadAndUnseal_ok ideal (congrArg Prod.fst unsealed)
          have same := ideal.oneObject _ _ entry ((opening _).mp loaded) present rfl rfl
          dsimp only at same
          rw [Op.bind_ok mapped]
          exact stripTag_eq_ok.mpr (same.trans made.data)

end Ideal

end Tpm2KeyStore

end Passman
