import Passman.Reference
import Passman.Vault.Canonical
import Passman.Vault.Facts

/-!
# Failed mutations of a vault value

A mutation changes the envelopes first and opens and re-seals the index after that,
so an index that does not open leaves the change of the envelopes behind. Replacing
the wrap blobs checks both before it stores either.
-/
namespace Passman

open Bytewise Fallible

/-- A length that does not fit leaves both wrap blobs in place. -/
theorem Vault.setHsmBlobs_atomic (kHsmWrapBlob totpSeedWrapBlob : Bytes) (vault : Vault) :
    (Vault.setHsmBlobs kHsmWrapBlob totpSeedWrapBlob).Atomic vault := by
  intro error failed
  unfold Vault.setHsmBlobs at failed ⊢
  cases first : checkBlobLen kHsmWrapBlob "k_hsm_wrap_blob" with
  | error _ => rfl
  | ok kHsmBlob =>
    cases second : checkBlobLen totpSeedWrapBlob "totp_seed_wrap_blob" with
    | error _ =>
      rw [Op.lift_bind_run]
      rfl
    | ok totpSeedBlob =>
      rw [first, second] at failed
      cases failed

section Mutations

variable [Crates]

namespace Vault

/-- The index opens under the key, and the changed index is sealed again. -/
def Reindexes (vault : Vault) (kMaster : MasterKey) (change : Index → Index) (nonce : Nonce) :
    Prop :=
  ∃ index sealedIndex, vault.decryptIndex kMaster = .ok index ∧
    sealIndex (change index) vault.version kMaster nonce = .ok sealedIndex

/-- What an addition needs to be completed or refused as a whole: its record is not sealed, or
the index is changed, or the envelope made for it is the one already stored. -/
def AdditionSettles (vault : Vault) (kMaster : MasterKey) (id : EntryId) (label : String)
    (policy : EntryPolicy) (record : EntryRecord) (entryNonce indexNonce : Nonce) : Prop :=
  (∃ error, encryptEntry kMaster vault.version id record entryNonce = .error error) ∨
  vault.Reindexes kMaster (Index.upsert · ⟨id, label, policy⟩) indexNonce ∨
  ∃ envelope, encryptEntry kMaster vault.version id record entryNonce = .ok envelope ∧
    vault.envelope? id = some envelope

/-- What a removal needs: no envelope has the identifier, or the index is changed. -/
def RemovalSettles (vault : Vault) (kMaster : MasterKey) (id : EntryId) (indexNonce : Nonce) :
    Prop :=
  id ∉ vault.envelopes.map EntryEnvelope.id ∨
  vault.Reindexes kMaster (Index.remove · id) indexNonce

/-- Re-sealing changes the sealed index, or fails and changes nothing. -/
theorem resealIndex_cases (index : Index) (kMaster : MasterKey) (nonce : Nonce) (vault : Vault) :
    (∃ sealedIndex, sealIndex index vault.version kMaster nonce = .ok sealedIndex ∧
        resealIndex index kMaster nonce vault = (.ok (),
          { vault with sealedIndexNonce := nonce, sealedIndexCt := sealedIndex })) ∨
      ∃ error, sealIndex index vault.version kMaster nonce = .error error ∧
        resealIndex index kMaster nonce vault = (.error error, vault) := by
  unfold resealIndex
  rw [Op.get_bind_run, Op.lift_bind_run]
  cases sealIndex index vault.version kMaster nonce with
  | ok sealedIndex => exact .inl ⟨sealedIndex, rfl, rfl⟩
  | error error => exact .inr ⟨error, rfl, rfl⟩

/-- The last part of a mutation changes the index, or stops in the state it started from. -/
theorem reindex_cases (vault : Vault) (kMaster : MasterKey) (change : Index → Index)
    (nonce : Nonce) :
    let reindex := Op.lift (vault.decryptIndex kMaster) >>= fun index =>
      resealIndex (change index) kMaster nonce
    vault.Reindexes kMaster change nonce ∧ (∃ reached, reindex vault = (.ok (), reached)) ∨
      ¬vault.Reindexes kMaster change nonce ∧ ∃ error, reindex vault = (.error error, vault) := by
  intro reindex
  have ran := Op.lift_bind_run (vault.decryptIndex kMaster)
    (fun index => resealIndex (change index) kMaster nonce) vault
  change reindex vault = _ at ran
  unfold Reindexes
  cases opened : vault.decryptIndex kMaster with
  | error error =>
    rw [opened] at ran
    exact .inr ⟨nofun, error, ran⟩
  | ok index =>
    rw [opened] at ran
    dsimp only at ran
    rcases resealIndex_cases (change index) kMaster nonce vault with
      ⟨sealedIndex, resealed, done⟩ | ⟨error, refused, stopped⟩
    · exact .inl ⟨⟨index, sealedIndex, rfl, resealed⟩, _, ran.trans done⟩
    · refine .inr ⟨?_, error, ran.trans stopped⟩
      rintro ⟨other, sealedIndex, same, resealed⟩
      obtain rfl := Except.ok.inj same
      rw [refused] at resealed
      cases resealed

/-- An addition is atomic exactly when it settles. -/
theorem addOrUpdateEntry_atomic_iff (vault : Vault) (kMaster : MasterKey) (id : EntryId)
    (label : String) (policy : EntryPolicy) (record : EntryRecord) (entryNonce indexNonce : Nonce) :
    (addOrUpdateEntry kMaster id label policy record entryNonce indexNonce).Atomic vault ↔
      vault.AdditionSettles kMaster id label policy record entryNonce indexNonce := by
  unfold AdditionSettles
  cases made : encryptEntry kMaster vault.version id record entryNonce with
  | error error =>
    have ran : addOrUpdateEntry kMaster id label policy record entryNonce indexNonce vault =
        (.error error, vault) := by
      unfold addOrUpdateEntry
      rw [Op.get_bind_run, made]
      rfl
    have unchanged := (Op.atomic_of_error ran).mpr rfl
    exact iff_of_true unchanged (.inl ⟨error, rfl⟩)
  | ok envelope =>
    let changed : Vault :=
      { vault with envelopes := Keyed.upsert EntryEnvelope.id envelope vault.envelopes }
    have ran : addOrUpdateEntry kMaster id label policy record entryNonce indexNonce vault =
        (Op.lift (changed.decryptIndex kMaster) >>= fun index =>
          resealIndex (Index.upsert index ⟨id, label, policy⟩) kMaster indexNonce) changed := by
      unfold addOrUpdateEntry
      rw [Op.get_bind_run, made]
      rfl
    obtain ⟨named, _, _, _⟩ := encryptEntry_ok made
    have same : changed = vault ↔ vault.envelope? id = some envelope := by
      rw [envelope?, ← named, ← Keyed.upsert_eq_self]
      constructor
      · intro equal
        exact congrArg Vault.envelopes equal
      · intro equal
        change { vault with envelopes := _ } = vault
        rw [equal]
    rcases changed.reindex_cases kMaster (Index.upsert · ⟨id, label, policy⟩) indexNonce with
      ⟨completes, reached, done⟩ | ⟨stops, error, stopped⟩
    · exact iff_of_true (Op.atomic_of_ok (ran.trans done)) (.inr (.inl completes))
    · rw [Op.atomic_of_error (ran.trans stopped), same]
      constructor
      · intro stored
        exact .inr (.inr ⟨envelope, rfl, stored⟩)
      · rintro (⟨_, refused⟩ | completes | ⟨other, same, stored⟩)
        · cases refused
        · exact absurd completes stops
        · rw [Except.ok.inj same]
          exact stored

/-- A removal is atomic exactly when it settles. -/
theorem removeEntry_atomic_iff (vault : Vault) (kMaster : MasterKey) (id : EntryId)
    (indexNonce : Nonce) :
    (removeEntry kMaster id indexNonce).Atomic vault ↔
      vault.RemovalSettles kMaster id indexNonce := by
  let changed : Vault :=
    { vault with envelopes := Keyed.remove EntryEnvelope.id id vault.envelopes }
  have counted : changed.envelopes.length = vault.envelopes.length ↔
      id ∉ vault.envelopes.map EntryEnvelope.id := Keyed.remove_length_eq EntryEnvelope.id
  let tail : Op Vault VaultError Unit := Op.lift (changed.decryptIndex kMaster) >>= fun index =>
    resealIndex (Index.remove index id) kMaster indexNonce
  have ran : removeEntry kMaster id indexNonce vault =
      (if changed.envelopes.length = vault.envelopes.length then
        Op.fail .entryNotFound >>= fun _ : Unit => tail else tail) changed := by
    unfold removeEntry
    rw [Op.get_bind_run, Op.modify_bind_run, Op.get_bind_run]
  unfold RemovalSettles
  by_cases absent : id ∉ vault.envelopes.map EntryEnvelope.id
  · have untouched : changed = vault := by
      change { vault with envelopes := Keyed.remove EntryEnvelope.id id vault.envelopes } = vault
      rw [Keyed.remove_absent EntryEnvelope.id absent]
    rw [if_pos (counted.mpr absent), Op.fail_bind_run] at ran
    exact iff_of_true ((Op.atomic_of_error ran).mpr untouched) (.inl absent)
  · have shrunk : changed ≠ vault := fun equal => absent
      (counted.mp (congrArg (fun vault : Vault => vault.envelopes.length) equal))
    rw [if_neg fun equal => absent (counted.mp equal)] at ran
    rcases changed.reindex_cases kMaster (Index.remove · id) indexNonce with
      ⟨completes, reached, done⟩ | ⟨stops, error, stopped⟩
    · exact iff_of_true (Op.atomic_of_ok (ran.trans done)) (.inr completes)
    · rw [Op.atomic_of_error (ran.trans stopped)]
      refine iff_of_false shrunk ?_
      rintro (missing | completes)
      · exact absent missing
      · exact stops completes

/-- For every vault and key, replacing the wrap blobs is atomic, and an addition or a removal is
atomic exactly when it settles. -/
theorem failed_mutation_unchanged_iff (vault : Vault) (kMaster : MasterKey) :
    (∀ kHsmWrapBlob totpSeedWrapBlob,
      (setHsmBlobs kHsmWrapBlob totpSeedWrapBlob).Atomic vault) ∧
    (∀ id label policy record entryNonce indexNonce,
      (addOrUpdateEntry kMaster id label policy record entryNonce indexNonce).Atomic vault ↔
        vault.AdditionSettles kMaster id label policy record entryNonce indexNonce) ∧
    ∀ id indexNonce, (removeEntry kMaster id indexNonce).Atomic vault ↔
      vault.RemovalSettles kMaster id indexNonce :=
  ⟨fun kHsm totpSeed => setHsmBlobs_atomic kHsm totpSeed vault,
    vault.addOrUpdateEntry_atomic_iff kMaster, vault.removeEntry_atomic_iff kMaster⟩

end Vault

end Mutations

/-- A vault for examples with a sealed index of one row and the envelope of that row. -/
def Reference.oneEntry : Vault :=
  letI := Reference.crates
  let created := Vault.create Reference.kdfParams (Block.replicate 32 0) [1] [2] (.new 7)
    Reference.kMaster Reference.nonce Reference.nonce
  (created.toOption.map fun vault => (Vault.addOrUpdateEntry Reference.kMaster Reference.entryId
    "mail" .default ⟨"a", "b", "", ""⟩ Reference.nonce Reference.nonce vault).2).getD
      Reference.plainVault

/-- Removing the entry under a key that is not the vault's reports an error and drops the
envelope, so the mutations are not atomic for every vault and key. -/
theorem wrong_key_drops_envelope :
    letI := Reference.crates
    let wrong : MasterKey := Block.replicate 32 8
    let after := Vault.removeEntry wrong Reference.entryId Reference.nonce Reference.oneEntry
    after.1 = .error (.crypto .aeadAuth) ∧ Reference.oneEntry.envelopes.length = 1 ∧
      after.2.envelopes = [] ∧
      ¬(Vault.removeEntry wrong Reference.entryId Reference.nonce).Atomic Reference.oneEntry := by
  intro wrong after
  have failed : after.1 = .error (.crypto .aeadAuth) := by decide +kernel
  have stored : Reference.oneEntry.envelopes.length = 1 := by decide +kernel
  have dropped : after.2.envelopes = [] := by decide +kernel
  refine ⟨failed, stored, dropped, fun atomic => ?_⟩
  have unchanged := atomic _ failed
  change after.2 = _ at unchanged
  rw [← unchanged, dropped] at stored
  cases stored

end Passman
