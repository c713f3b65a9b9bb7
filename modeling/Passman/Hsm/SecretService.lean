import Passman.Hsm.Android
import Passman.Lib.Keyed

/-!
# The secret service

The weaker backend of a desktop keeps each material in the keyring of the session, under a name
made of the slot and a random identifier. Its blobs carry the identifier and nothing else, so
what a blob opens is decided by the keyring. Every call changes the credential of one name only,
and the names of different slots or identifiers differ, so a blob opens its own material from its
enrolment until it is invalidated.
-/
namespace Passman

open Bytewise Fallible Transition

/-- Failures of the keyring. -/
inductive KeyringError where
  /-- There is no such credential. -/
  | noEntry
  /-- The keyring is locked. -/
  | noStorageAccess
  /-- The platform failed. -/
  | platformFailure
  /-- The secret is malformed. -/
  | badEncoding
  /-- An attribute is too long. -/
  | tooLong
  /-- An attribute is invalid. -/
  | invalid
  /-- Several credentials match. -/
  | ambiguous
  /-- Any other failure. -/
  | other
  deriving DecidableEq

/-- The identity of a credential. -/
structure KeyringEntry where
  /-- The service. -/
  service : String
  /-- The user. -/
  user : String
  deriving DecidableEq

/-- The keyring of a session. -/
structure Keyring (σ : Type) where
  /-- Open an entry. -/
  new : KeyringEntry → Op σ KeyringError Unit
  /-- Store the secret of an entry. -/
  setSecret : KeyringEntry → Bytes → Op σ KeyringError Unit
  /-- Read the secret of an entry. -/
  getSecret : KeyringEntry → Op σ KeyringError Bytes
  /-- Delete the credential of an entry. -/
  deleteCredential : KeyringEntry → Op σ KeyringError Unit

/-- Route a failure of the keyring. -/
def mapKeyringError : KeyringError → HsmError
  | .noEntry => .permanentlyInvalidated
  | .noStorageAccess => .transient
  | .platformFailure => .backend "SecretService platform failure"
  | .badEncoding => .backend "SecretService returned a malformed secret"
  | .tooLong => .backend "SecretService attribute exceeded a platform limit"
  | .invalid => .backend "SecretService rejected an invalid attribute"
  | .ambiguous => .backend "SecretService matched multiple credentials"
  | .other => .backend "SecretService backend error"

/-- Only a missing credential says that the material is gone. -/
theorem mapKeyringError_gone {error : KeyringError}
    (gone : mapKeyringError error = .permanentlyInvalidated) : error = .noEntry := by
  cases error <;> first | rfl | cases gone

/-- The backend over the keyring of the session. -/
structure SecretServiceKeyStore (σ : Type) where
  /-- The keyring. -/
  keyring : Keyring σ

namespace SecretServiceKeyStore

/-- The service of every credential of the program. -/
def keyringService : String := "passman"

/-- Length of the identifier of an enrolment. -/
def uuidLen : Nat := 16

/-- What the backend keeps between the phases of an unwrap. -/
structure UnwrapState where
  /-- The requested slot. -/
  slot : HsmSlot
  /-- The identifier read from the blob. -/
  uuid : Block uuidLen

/-- The user of a slot and an identifier. -/
def keyringUser (slot : HsmSlot) (uuid : Block uuidLen) : String :=
  "passman-" ++ toString slot.tag ++ "-" ++ String.ofList (uuid.val.flatMap hexByte)

/-- The identity of the credential of a slot and an identifier. -/
def identity (slot : HsmSlot) (uuid : Block uuidLen) : KeyringEntry :=
  ⟨keyringService, keyringUser slot uuid⟩

variable {σ : Type}

/-- Open the entry of a slot and an identifier. -/
def entry (store : SecretServiceKeyStore σ) (slot : HsmSlot) (uuid : Block uuidLen) :
    Op σ HsmError KeyringEntry := do
  Op.mapError mapKeyringError (store.keyring.new (identity slot uuid))
  pure (identity slot uuid)

/-- Store the material under a drawn identifier, which is all that the blob carries. -/
def enroll (store : SecretServiceKeyStore σ) (slot : HsmSlot) (material : Bytes)
    (_prompter : BiometricPrompter) (uuid : Block uuidLen) : Op σ HsmError WrappedBlob := do
  let entry ← store.entry slot uuid
  Op.mapError mapKeyringError (store.keyring.setSecret entry material)
  Op.lift (WrappedBlob.fromParts .secretService uuid.val)

/-- The identifier in a blob. -/
def uuidOf (wrapped : WrappedBlob) : Except HsmError (Block uuidLen) :=
  if wrapped.kind ≠ .secretService then
    .error (.malformedBlob "blob kind is not SecretService")
  else if sized : wrapped.payload.length = uuidLen then .ok ⟨wrapped.payload, sized⟩
  else .error (.malformedBlob "SecretService payload is not a 16-byte uuid")

/-- Parse a blob for a requested slot; the keyring is not asked yet. -/
def beginUnwrap (slot : HsmSlot) (wrapped : WrappedBlob) : Except HsmError UnwrapState := do
  let uuid ← uuidOf wrapped
  .ok ⟨slot, uuid⟩

/-- Read the material from the keyring. -/
def completeUnwrap (store : SecretServiceKeyStore σ) (state : UnwrapState)
    (_prompter : BiometricPrompter) : Op σ HsmError Bytes := do
  let entry ← store.entry state.slot state.uuid
  Op.mapError mapKeyringError (store.keyring.getSecret entry)

/-- Delete the credential of a blob; one that is gone already is no failure. -/
def invalidate (store : SecretServiceKeyStore σ) (slot : HsmSlot) (wrapped : WrappedBlob) :
    Op σ HsmError Unit := do
  let uuid ← Op.lift (uuidOf wrapped)
  let entry ← store.entry slot uuid
  let deleted ← Op.attempt (store.keyring.deleteCredential entry)
  match deleted with
  | .ok _ => pure ()
  | .error .noEntry => pure ()
  | .error error => Op.fail (mapKeyringError error)

/-- Unwrap a blob for a requested slot, through both phases. -/
def unwrap (store : SecretServiceKeyStore σ) (slot : HsmSlot) (wrapped : WrappedBlob)
    (prompter : BiometricPrompter) : Op σ HsmError Bytes := do
  let state ← Op.lift (beginUnwrap slot wrapped)
  store.completeUnwrap state prompter

/-- The two digits of a byte determine it. -/
theorem hexByte_injective : Function.Injective hexByte := by
  have digit (n : Nat) (below : n < 16) : hexDigits.idxOf (hexDigits.getD n '0') = n :=
    (show ∀ digit : Fin 16, hexDigits.idxOf (hexDigits.getD digit.val '0') = digit.val by decide)
      ⟨n, below⟩
  intro left right same
  obtain ⟨high, rest⟩ := List.cons.inj same
  obtain ⟨low, _⟩ := List.cons.inj rest
  have leftBound := left.toNat_lt
  have rightBound := right.toNat_lt
  have highs := congrArg hexDigits.idxOf high
  have lows := congrArg hexDigits.idxOf low
  rw [digit _ (by omega), digit _ (by omega)] at highs lows
  apply UInt8.toNat_inj.mp
  omega

/-- The digits of a byte string determine it. -/
theorem flatMap_hexByte_injective : ∀ {left right : Bytes},
    left.flatMap hexByte = right.flatMap hexByte → left = right
  | [], [], _ => rfl
  | [], _ :: _, same => by cases same
  | _ :: _, [], same => by cases same
  | first :: left, second :: right, same => by
    rw [List.flatMap_cons, List.flatMap_cons] at same
    obtain ⟨digits, later⟩ := List.append_inj same rfl
    rw [hexByte_injective digits, flatMap_hexByte_injective later]

/-- Different slots or identifiers have different credentials. -/
theorem identity_injective {slot other : HsmSlot} {uuid drawn : Block uuidLen}
    (same : identity slot uuid = identity other drawn) : slot = other ∧ uuid = drawn := by
  have users : keyringUser slot uuid = keyringUser other drawn := congrArg KeyringEntry.user same
  have texts := congrArg String.toList users
  simp only [keyringUser, String.toList_append, String.toList_ofList] at texts
  have width (slot : HsmSlot) :
      ("passman-".toList ++ (toString slot.tag).toList ++ "-".toList).length = 10 := by
    cases slot <;> decide
  obtain ⟨names, digits⟩ := List.append_inj texts ((width slot).trans (width other).symm)
  refine ⟨?_, Subtype.ext (flatMap_hexByte_injective digits)⟩
  cases slot <;> cases other <;> first | rfl | exact absurd names (by decide)

end SecretServiceKeyStore

section Laws

variable {σ : Type}

/-- What a keyring promises about the credentials, which are read off its state. -/
structure KeyringLaws (keyring : Keyring σ) (kept : σ → KeyringEntry → Option Bytes) : Prop where
  /-- Opening an entry changes nothing. -/
  opens : ∀ entry state, kept (keyring.new entry state).2 = kept state
  /-- An entry can be opened whether or not there is a credential. -/
  opensMissing : ∀ entry state, (keyring.new entry state).1 ≠ .error .noEntry
  /-- Storing changes the credential of the entry only. -/
  storesOnly : ∀ entry secret state other, other ≠ entry →
    kept (keyring.setSecret entry secret state).2 other = kept state other
  /-- What is stored is kept. -/
  stores : ∀ entry secret state, (keyring.setSecret entry secret state).1 = .ok () →
    kept (keyring.setSecret entry secret state).2 entry = some secret
  /-- Reading changes nothing. -/
  reads : ∀ entry state, kept (keyring.getSecret entry state).2 = kept state
  /-- What is read is kept. -/
  returns : ∀ entry state secret, (keyring.getSecret entry state).1 = .ok secret →
    kept state entry = some secret
  /-- Only a missing credential is reported as missing. -/
  misses : ∀ entry state, (keyring.getSecret entry state).1 = .error .noEntry →
    kept state entry = none
  /-- Deleting changes the credential of the entry only. -/
  deletesOnly : ∀ entry state other, other ≠ entry →
    kept (keyring.deleteCredential entry state).2 other = kept state other
  /-- Deleting never changes a credential to another one. -/
  deletesOrKeeps : ∀ entry state, kept (keyring.deleteCredential entry state).2 entry = none ∨
    kept (keyring.deleteCredential entry state).2 entry = kept state entry
  /-- A deleted credential is gone. -/
  deletes : ∀ entry state, (keyring.deleteCredential entry state).1 = .ok () →
    kept (keyring.deleteCredential entry state).2 entry = none
  /-- A credential that was not there to be deleted is not there. -/
  deletesMissing : ∀ entry state, (keyring.deleteCredential entry state).1 = .error .noEntry →
    kept (keyring.deleteCredential entry state).2 entry = none

namespace SecretServiceKeyStore

variable {store : SecretServiceKeyStore σ} {kept : σ → KeyringEntry → Option Bytes}

/-- A blob is told by its identifier. -/
theorem uuidOf_eq_ok {blob : WrappedBlob} {uuid : Block uuidLen} :
    uuidOf blob = .ok uuid ↔ blob.kind = .secretService ∧ blob.payload = uuid.val := by
  rw [uuidOf]
  by_cases kind : blob.kind = .secretService
  · rw [if_neg (not_not_intro kind)]
    by_cases sized : blob.payload.length = uuidLen
    · rw [dif_pos sized]
      constructor
      · rintro ⟨⟩
        exact ⟨kind, rfl⟩
      · rintro ⟨_, same⟩
        exact congrArg Except.ok (Subtype.ext same)
    · rw [dif_neg sized]
      constructor
      · rintro ⟨⟩
      · rintro ⟨_, same⟩
        exact absurd (same ▸ uuid.property) sized
  · rw [if_pos kind]
    constructor
    · rintro ⟨⟩
    · rintro ⟨same, _⟩
      exact absurd same kind

/-- Blobs of the same identifier are the same. -/
theorem blob_of_uuid {left right : WrappedBlob} {uuid : Block uuidLen}
    (first : uuidOf left = .ok uuid) (second : uuidOf right = .ok uuid) : left = right := by
  obtain ⟨kind, payload⟩ := uuidOf_eq_ok.mp first
  obtain ⟨sameKind, samePayload⟩ := uuidOf_eq_ok.mp second
  rcases left with ⟨_, _, _⟩
  rcases right with ⟨_, _, _⟩
  obtain rfl : _ = _ := kind.trans sameKind.symm
  obtain rfl : _ = _ := payload.trans samePayload.symm
  rfl

/-- Opening an entry returns its identity or fails, and changes no credential. -/
theorem entry_cases (laws : KeyringLaws store.keyring kept) {slot : HsmSlot} {uuid : Block uuidLen}
    {before after : σ} {outcome : Except HsmError KeyringEntry}
    (ran : store.entry slot uuid before = (outcome, after)) :
    kept after = kept before ∧ (outcome = .ok (identity slot uuid) ∨
      ∃ error, outcome = .error error ∧ error ≠ .permanentlyInvalidated) := by
  rcases Op.bind_cases ran with ⟨_, reached, opened, rest⟩ | ⟨error, failed, rfl⟩
  · obtain ⟨rfl, rfl⟩ := Prod.mk.inj rest
    have same := laws.opens (identity slot uuid) before
    rw [Op.mapError_ok.mp opened] at same
    exact ⟨same, .inl rfl⟩
  · obtain ⟨source, refused, rfl⟩ := Op.mapError_error.mp failed
    have same := laws.opens (identity slot uuid) before
    have present := laws.opensMissing (identity slot uuid) before
    rw [refused] at same present
    refine ⟨same, .inr ⟨_, rfl, fun gone => present ?_⟩⟩
    rw [mapKeyringError_gone gone]

/-- An entry that was opened is the identity, and opening it changed no credential. -/
theorem entry_ok (laws : KeyringLaws store.keyring kept) {slot : HsmSlot} {uuid : Block uuidLen}
    {before after : σ} {opened : KeyringEntry}
    (ran : store.entry slot uuid before = (.ok opened, after)) :
    kept after = kept before ∧ opened = identity slot uuid := by
  obtain ⟨same, named | ⟨_, clash, _⟩⟩ := entry_cases laws ran
  · exact ⟨same, Except.ok.inj named⟩
  · cases clash

/-- An enrolment changes the credential of its slot and identifier only. -/
theorem enroll_only (laws : KeyringLaws store.keyring kept) {slot : HsmSlot} {material : Bytes}
    {prompter : BiometricPrompter} {uuid : Block uuidLen} {before : σ} {other : KeyringEntry}
    (others : other ≠ identity slot uuid) :
    kept (store.enroll slot material prompter uuid before).2 other = kept before other := by
  rcases ran : store.enroll slot material prompter uuid before with ⟨outcome, after⟩
  rcases Op.bind_cases ran with ⟨_, opened, entered, rest⟩ | ⟨_, refused, _⟩
  · obtain ⟨same, rfl⟩ := entry_ok laws entered
    have only := laws.storesOnly (identity slot uuid) material opened other others
    rcases Op.bind_cases rest with ⟨_, reached, stored, framed⟩ | ⟨_, failed, _⟩
    · obtain ⟨_, rfl⟩ := Prod.mk.inj framed
      rw [Op.mapError_ok.mp stored] at only
      rw [only, same]
    · obtain ⟨_, refused, _⟩ := Op.mapError_error.mp failed
      rw [refused] at only
      rw [only, same]
  · rw [(entry_cases laws refused).1]

/-- An enrolment that succeeds keeps the material under the identifier that its blob carries. -/
theorem enroll_ok (laws : KeyringLaws store.keyring kept) {slot : HsmSlot} {material : Bytes}
    {prompter : BiometricPrompter} {uuid : Block uuidLen} {before after : σ} {blob : WrappedBlob}
    (ran : store.enroll slot material prompter uuid before = (.ok blob, after)) :
    uuidOf blob = .ok uuid ∧ kept after (identity slot uuid) = some material := by
  obtain ⟨_, opened, entered, rest⟩ := Op.bind_ok_cases ran
  obtain ⟨_, rfl⟩ := entry_ok laws entered
  obtain ⟨_, reached, stored, framed⟩ := Op.bind_ok_cases rest
  obtain ⟨made, rfl⟩ := Prod.mk.inj framed
  constructor
  · rw [WrappedBlob.fromParts] at made
    split_ifs at made
    obtain rfl := Except.ok.inj made
    exact uuidOf_eq_ok.mpr ⟨rfl, rfl⟩
  · have written := Op.mapError_ok.mp stored
    have keeps := laws.stores (identity slot uuid) material opened (by rw [written])
    rwa [written] at keeps

/-- An unwrap reads the credential of the slot and the identifier: it returns what is kept, it
says that the material is gone only if nothing is kept, and it changes no credential. -/
theorem unwrap_cases (laws : KeyringLaws store.keyring kept) {slot : HsmSlot} {blob : WrappedBlob}
    {prompter : BiometricPrompter} {before after : σ} {outcome : Except HsmError Bytes}
    (ran : store.unwrap slot blob prompter before = (outcome, after)) :
    kept after = kept before ∧ ∀ uuid, uuidOf blob = .ok uuid →
      (∀ found, outcome = .ok found → kept before (identity slot uuid) = some found) ∧
        (outcome = .error .permanentlyInvalidated → kept before (identity slot uuid) = none) := by
  rcases Op.bind_cases ran with ⟨state, opened, begun, rest⟩ | ⟨error, refused, rfl⟩
  swap
  · obtain ⟨begun, rfl⟩ := Prod.mk.inj refused
    refine ⟨rfl, fun uuid named => ?_⟩
    rw [beginUnwrap, named] at begun
    cases begun
  obtain ⟨parsed, rfl⟩ := Prod.mk.inj begun
  rcases Op.bind_cases rest with ⟨entry, reached, entered, read⟩ | ⟨error, refused, rfl⟩
  swap
  · obtain ⟨same, clash | ⟨_, failed, otherwise⟩⟩ := entry_cases laws refused
    · cases clash
    obtain rfl := Except.error.inj failed
    refine ⟨same, fun uuid named => ⟨?_, fun gone => absurd (Except.error.inj gone) otherwise⟩⟩
    intro found clash
    cases clash
  obtain ⟨same, rfl⟩ := entry_ok laws entered
  have unchanged := laws.reads (identity state.slot state.uuid) reached
  rcases source : store.keyring.getSecret (identity state.slot state.uuid) reached with
    ⟨answer, final⟩
  rw [source] at unchanged
  have shows (uuid : Block uuidLen) (named : uuidOf blob = .ok uuid) : state = ⟨slot, uuid⟩ := by
    rw [beginUnwrap, named] at parsed
    exact (Except.ok.inj parsed).symm
  cases answer with
  | ok secret =>
    obtain ⟨rfl, rfl⟩ := Prod.mk.inj ((Op.mapError_ok.mpr source).symm.trans read)
    refine ⟨unchanged.trans same, fun uuid named => ⟨?_, fun clash => (by cases clash)⟩⟩
    rintro found ⟨⟩
    obtain rfl := shows uuid named
    rw [← same]
    exact laws.returns _ _ _ (by rw [source])
  | error error =>
    obtain ⟨rfl, rfl⟩ := Prod.mk.inj ((Op.mapError_error.mpr ⟨error, source, rfl⟩).symm.trans read)
    refine ⟨unchanged.trans same, fun uuid named => ⟨fun _ clash => ?_, fun gone => ?_⟩⟩
    · cases clash
    obtain rfl := shows uuid named
    obtain rfl := mapKeyringError_gone (Except.error.inj gone)
    rw [← same]
    exact laws.misses _ _ (by rw [source])

/-- An invalidation changes the credential of its slot and of the identifier in the blob only, and
deletes it or leaves it; after a success it is gone. -/
theorem invalidate_cases (laws : KeyringLaws store.keyring kept) {slot : HsmSlot}
    {blob : WrappedBlob} {before after : σ} {outcome : Except HsmError Unit}
    (ran : store.invalidate slot blob before = (outcome, after)) :
    (∀ other, kept after other = kept before other ∨ kept after other = none ∧
      ∃ uuid, uuidOf blob = .ok uuid ∧ other = identity slot uuid) ∧
      (outcome = .ok () → ∀ uuid, uuidOf blob = .ok uuid →
        kept after (identity slot uuid) = none) := by
  rcases Op.bind_cases ran with ⟨uuid, opened, begun, rest⟩ | ⟨error, refused, rfl⟩
  swap
  · obtain ⟨_, rfl⟩ := Prod.mk.inj refused
    exact ⟨fun _ => .inl rfl, fun clash => (by cases clash)⟩
  obtain ⟨named, rfl⟩ := Prod.mk.inj begun
  rcases Op.bind_cases rest with ⟨entry, reached, entered, deletion⟩ | ⟨error, refused, rfl⟩
  swap
  · rw [(entry_cases laws refused).1]
    exact ⟨fun _ => .inl rfl, fun clash => (by cases clash)⟩
  obtain ⟨same, rfl⟩ := entry_ok laws entered
  have only := laws.deletesOnly (identity slot uuid) reached
  have either := laws.deletesOrKeeps (identity slot uuid) reached
  have deletes := laws.deletes (identity slot uuid) reached
  have missing := laws.deletesMissing (identity slot uuid) reached
  rw [Op.attempt_bind_run] at deletion
  rcases source : store.keyring.deleteCredential (identity slot uuid) reached with ⟨answer, final⟩
  rw [source] at only either deletes missing deletion
  dsimp only at only either deletes missing deletion
  have ended : after = final ∧ (outcome = .ok () →
      answer = .ok () ∨ answer = .error .noEntry) := by
    cases answer with
    | ok value =>
      obtain ⟨rfl, rfl⟩ := Prod.mk.inj deletion
      exact ⟨rfl, fun _ => .inl rfl⟩
    | error error =>
      cases error with
      | noEntry =>
        obtain ⟨rfl, rfl⟩ := Prod.mk.inj deletion
        exact ⟨rfl, fun _ => .inr rfl⟩
      | _ =>
        obtain ⟨rfl, rfl⟩ := Prod.mk.inj deletion
        exact ⟨rfl, fun clash => (by cases clash)⟩
  obtain ⟨rfl, answered⟩ := ended
  constructor
  · intro other
    by_cases own : other = identity slot uuid
    · subst own
      rcases either with gone | stays
      · exact .inr ⟨gone, uuid, named, rfl⟩
      · exact .inl (stays.trans (congrFun same _))
    · exact .inl ((only other own).trans (congrFun same other))
  · intro returned drawn carried
    obtain rfl := Except.ok.inj (named.symm.trans carried)
    rcases answered returned with rfl | rfl
    · exact deletes rfl
    · exact missing rfl

/-- What can happen to the keyring. -/
inductive Event (σ : Type) where
  /-- Enroll material for a slot under a drawn identifier. -/
  | enroll (slot : HsmSlot) (material : Bytes) (prompter : BiometricPrompter)
    (uuid : Block uuidLen)
  /-- Unwrap a blob for a slot. -/
  | unwrap (slot : HsmSlot) (blob : WrappedBlob) (prompter : BiometricPrompter)
  /-- Invalidate a blob for a slot. -/
  | invalidate (slot : HsmSlot) (blob : WrappedBlob)
  /-- Other programs of the session use the keyring. -/
  | foreign (keyring : σ)

/-- The keyring after an event. -/
def step (store : SecretServiceKeyStore σ) (state : σ) : Event σ → σ
  | .enroll slot material prompter uuid => (store.enroll slot material prompter uuid state).2
  | .unwrap slot blob prompter => (store.unwrap slot blob prompter state).2
  | .invalidate slot blob => (store.invalidate slot blob state).2
  | .foreign keyring => keyring

/-- No other enrolment draws the identifier, and other programs leave the credentials of this
one. -/
def Event.Spares (kept : σ → KeyringEntry → Option Bytes) (uuid : Block uuidLen) (state : σ) :
    Event σ → Prop
  | .enroll _ _ _ drawn => drawn ≠ uuid
  | .foreign keyring => ∀ user, kept keyring ⟨keyringService, user⟩ =
    kept state ⟨keyringService, user⟩
  | _ => True

/-- An event leaves the credential of a slot and an identifier, or it is an invalidation of the
blob for the slot, behind which there is none. -/
theorem step_cases (laws : KeyringLaws store.keyring kept) {uuid : Block uuidLen} {state : σ}
    {event : Event σ} (spares : event.Spares kept uuid state) (slot : HsmSlot) :
    kept (store.step state event) (identity slot uuid) = kept state (identity slot uuid) ∨
      kept (store.step state event) (identity slot uuid) = none ∧
        ∃ blob, uuidOf blob = .ok uuid ∧ event = .invalidate slot blob := by
  cases event with
  | enroll other material prompter drawn =>
    refine .inl (enroll_only laws fun same => ?_)
    obtain ⟨_, again⟩ := identity_injective same
    exact spares again.symm
  | unwrap other blob prompter =>
    exact .inl (congrFun (unwrap_cases laws (Prod.eta _).symm).1 _)
  | invalidate other blob =>
    rcases (invalidate_cases laws (Prod.eta _).symm).1 (identity slot uuid) with
      stays | ⟨gone, drawn, named, same⟩
    · exact .inl stays
    · obtain ⟨rfl, rfl⟩ := identity_injective same
      exact .inr ⟨gone, blob, named, rfl⟩
  | foreign keyring => exact .inl (spares _)

/-- A credential that is not there does not come back. -/
theorem run_none (laws : KeyringLaws store.keyring kept) {uuid : Block uuidLen} {slot : HsmSlot}
    {state : σ} {events : List (Event σ)}
    (absent : kept state (identity slot uuid) = none)
    (spares : Along store.step (Event.Spares kept uuid) state events) :
    kept (run store.step state events) (identity slot uuid) = none := by
  have kept_none (state : σ) (event : Event σ) (absent : kept state (identity slot uuid) = none)
      (allowed : event.Spares kept uuid state) :
      kept (store.step state event) (identity slot uuid) = none := by
    rcases step_cases laws allowed slot with stays | ⟨gone, _⟩
    · exact stays.trans absent
    · exact gone
  exact run_invariant kept_none absent spares

/-- A credential that is there stays, or it is gone after a run. -/
theorem run_some (laws : KeyringLaws store.keyring kept) {uuid : Block uuidLen} {slot : HsmSlot}
    {material : Bytes} {state : σ} {events : List (Event σ)}
    (present : kept state (identity slot uuid) = some material)
    (spares : Along store.step (Event.Spares kept uuid) state events) :
    kept (run store.step state events) (identity slot uuid) = some material ∨
      kept (run store.step state events) (identity slot uuid) = none := by
  have kept_some (state : σ) (event : Event σ)
      (held : kept state (identity slot uuid) = some material ∨
        kept state (identity slot uuid) = none)
      (allowed : event.Spares kept uuid state) :
      kept (store.step state event) (identity slot uuid) = some material ∨
        kept (store.step state event) (identity slot uuid) = none := by
    rcases step_cases laws allowed slot with stays | ⟨gone, _⟩
    · rwa [stays]
    · exact .inr gone
  exact run_invariant kept_some (.inl present) spares

/-- A credential that is there stays while its blob is not invalidated for its slot. -/
theorem run_stays (laws : KeyringLaws store.keyring kept) {uuid : Block uuidLen} {slot : HsmSlot}
    {blob : WrappedBlob} {state : σ} {events : List (Event σ)} (named : uuidOf blob = .ok uuid)
    (spares : Along store.step (Event.Spares kept uuid) state events)
    (spared : .invalidate slot blob ∉ events) :
    kept (run store.step state events) (identity slot uuid) = kept state (identity slot uuid) := by
  have others : ∀ event ∈ events, event ≠ .invalidate slot blob :=
    fun event member same => spared (same ▸ member)
  have kept_same (later : σ) (event : Event σ)
      (held : kept later (identity slot uuid) = kept state (identity slot uuid))
      (allowed : event.Spares kept uuid later ∧ event ≠ .invalidate slot blob) :
      kept (store.step later event) (identity slot uuid) = kept state (identity slot uuid) := by
    rcases step_cases laws allowed.1 slot with stays | ⟨_, other, carried, rfl⟩
    · exact stays.trans held
    · rw [blob_of_uuid carried named] at allowed
      exact absurd rfl allowed.2
  exact run_invariant kept_same rfl (spares.and_forall others)

/-- From its enrolment until it is invalidated, a blob opens the material it was enrolled with,
for its own slot only: whatever is called and whatever fails in between, an unwrap returns that
material or fails, it says that the material is gone only after an invalidation, and it never
returns anything once an invalidation succeeded. -/
theorem enrolled_material_until_invalidated (laws : KeyringLaws store.keyring kept)
    {slot : HsmSlot} {material : Bytes} {prompter : BiometricPrompter} {uuid : Block uuidLen}
    {before after : σ} {blob : WrappedBlob}
    (fresh : ∀ other, kept before (identity other uuid) = none)
    (enrolled : store.enroll slot material prompter uuid before = (.ok blob, after))
    (events : List (Event σ)) (spares : Along store.step (Event.Spares kept uuid) after events)
    (prompt : BiometricPrompter) :
    let unwrapped := fun slot => (store.unwrap slot blob prompt (run store.step after events)).1
    (∀ found, unwrapped slot = .ok found → found = material) ∧
      (∀ other, other ≠ slot → ∀ found, unwrapped other ≠ .ok found) ∧
      (.invalidate slot blob ∉ events → unwrapped slot ≠ .error .permanentlyInvalidated) ∧
      ∀ early late, events = early ++ .invalidate slot blob :: late →
        (store.invalidate slot blob (run store.step after early)).1 = .ok () →
          ∀ found, unwrapped slot ≠ .ok found := by
  intro unwrapped
  obtain ⟨named, present⟩ := enroll_ok laws enrolled
  have reads (asked : HsmSlot) := (unwrap_cases laws
    (Prod.eta (store.unwrap asked blob prompt (run store.step after events))).symm).2 uuid named
  refine ⟨fun found returned => ?_, fun other others found returned => ?_,
    fun spared gone => ?_, ?_⟩
  · have read := (reads slot).1 found returned
    rcases run_some laws present spares with stays | gone
    · exact Option.some.inj (read.symm.trans stays)
    · cases gone.symm.trans read
  · have read := (reads other).1 found returned
    have only : kept (store.enroll slot material prompter uuid before).2 (identity other uuid) =
        kept before (identity other uuid) :=
      enroll_only laws fun same => others (identity_injective same).1
    rw [enrolled] at only
    cases (run_none laws (only.trans (fresh other)) spares).symm.trans read
  · have missing := (reads slot).2 gone
    rw [run_stays laws named spares spared, present] at missing
    cases missing
  · rintro early late rfl invalidated found returned
    rw [along_append] at spares
    have absent := (invalidate_cases laws
      (Prod.eta (store.invalidate slot blob (run store.step after early))).symm).2 invalidated
        uuid named
    have read := (reads slot).1 found returned
    rw [run_append] at read
    cases (run_none laws absent spares.2.2).symm.trans read

end SecretServiceKeyStore

end Laws

namespace Reference

/-- A keyring that keeps its credentials in a list and never fails. -/
def keyring : Keyring (List (KeyringEntry × Bytes)) where
  new _ := pure ()
  setSecret entry secret := Op.modify (Keyed.upsert Prod.fst (entry, secret))
  getSecret entry := fun state =>
    match Keyed.lookup Prod.fst entry state with
    | some credential => (.ok credential.2, state)
    | none => (.error .noEntry, state)
  deleteCredential entry := fun state =>
    match Keyed.lookup Prod.fst entry state with
    | some _ => (.ok (), Keyed.remove Prod.fst entry state)
    | none => (.error .noEntry, state)

/-- The credentials of a list. -/
def credentials (state : List (KeyringEntry × Bytes)) (entry : KeyringEntry) : Option Bytes :=
  (Keyed.lookup Prod.fst entry state).map Prod.snd

/-- The list keeps what the keyring promises. -/
theorem keyring_laws : KeyringLaws keyring credentials where
  opens _ _ := rfl
  opensMissing _ _ clash := by cases clash
  storesOnly entry secret state other others := by
    change (Keyed.lookup Prod.fst other (Keyed.upsert Prod.fst (entry, secret) state)).map _ = _
    rw [Keyed.lookup_upsert, if_neg (Ne.symm others)]
    rfl
  stores entry secret state _ := by
    change (Keyed.lookup Prod.fst entry (Keyed.upsert Prod.fst (entry, secret) state)).map _ = _
    rw [Keyed.lookup_upsert, if_pos rfl]
    rfl
  reads entry state := by
    simp only [keyring]
    split <;> rfl
  returns entry state secret returned := by
    simp only [keyring] at returned
    split at returned
    · next found =>
      rw [credentials, found, ← Except.ok.inj returned]
      rfl
    · cases returned
  misses entry state missing := by
    simp only [keyring] at missing
    split at missing
    · cases missing
    · next found =>
      rw [credentials, found]
      rfl
  deletesOnly entry state other others := by
    simp only [keyring]
    split
    · simp only [credentials, Keyed.lookup_remove, if_neg (Ne.symm others)]
    · rfl
  deletesOrKeeps entry state := by
    simp only [keyring]
    split
    · simp only [credentials, Keyed.lookup_remove, if_pos, Option.map_none, true_or]
    · exact .inr rfl
  deletes entry state deleted := by
    simp only [keyring] at deleted ⊢
    split at deleted
    · next found => simp only [found, credentials, Keyed.lookup_remove, if_pos, Option.map_none]
    · cases deleted
  deletesMissing entry state missing := by
    simp only [keyring] at missing ⊢
    split at missing
    · cases missing
    · next found => simp only [found, credentials, Option.map_none]

/-- The identifier of the example. -/
def enrolment : Block SecretServiceKeyStore.uuidLen := Block.replicate 16 7

/-- A second material is enrolled, then the first blob is unwrapped and invalidated. -/
def keyringEvents : List (SecretServiceKeyStore.Event (List (KeyringEntry × Bytes))) :=
  [.enroll .totpSeed [9] (fun _ => .ok .authenticated) (Block.replicate 16 8),
    .unwrap .vaultKey ⟨.secretService, enrolment.val, by decide⟩ fun _ => .ok .authenticated,
    .invalidate .vaultKey ⟨.secretService, enrolment.val, by decide⟩]

/-- What the first blob of the example opens behind a run. -/
def opens (events : List (SecretServiceKeyStore.Event (List (KeyringEntry × Bytes)))) :
    Except HsmError Bytes :=
  (SecretServiceKeyStore.unwrap ⟨keyring⟩ .vaultKey ⟨.secretService, enrolment.val, by decide⟩
    (fun _ => .ok .authenticated)
    (run (SecretServiceKeyStore.step ⟨keyring⟩)
      [(SecretServiceKeyStore.identity .vaultKey enrolment, [1, 2])] events)).1

end Reference

/-- The blob of the example opens its material until it is invalidated. -/
theorem SecretServiceKeyStore.enrolled_material_until_invalidated_gone :
    Reference.opens (Reference.keyringEvents.take 2) = .ok [1, 2] ∧
      Reference.opens Reference.keyringEvents ≠ .ok [1, 2] := by
  have enrolled : SecretServiceKeyStore.enroll ⟨Reference.keyring⟩ .vaultKey [1, 2]
      (fun _ => .ok .authenticated) Reference.enrolment [] =
        (.ok ⟨.secretService, Reference.enrolment.val, by decide⟩,
          [(SecretServiceKeyStore.identity .vaultKey Reference.enrolment, [1, 2])]) := rfl
  have others : Block.replicate 16 8 ≠ Reference.enrolment :=
    fun same => absurd (congrArg Subtype.val same) (by decide)
  have lifecycle := SecretServiceKeyStore.enrolled_material_until_invalidated
    Reference.keyring_laws (fun _ => rfl) enrolled Reference.keyringEvents
    ⟨others, trivial, trivial, trivial⟩ fun _ => .ok .authenticated
  exact ⟨rfl, lifecycle.2.2.2 (Reference.keyringEvents.take 2) [] rfl rfl [1, 2]⟩

end Passman
