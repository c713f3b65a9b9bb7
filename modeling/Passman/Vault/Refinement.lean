import Mathlib.Logic.Function.Basic
import Passman.Lib.Run
import Passman.Reference
import Passman.Vault.Facts

/-!
# The encrypted vault as a finite map

What a vault is for: a finite map from identifiers to a label, a policy and a
record. The view of a vault under a master key is what opening its index and
decrypting its entries yields. Every operation sequence on a coherent vault acts on
the view as the corresponding map updates, and leaves the envelopes of identifiers it
does not name as they were.
-/
namespace Passman

open Bytewise Fallible Transition

/-- What is known of an entry through the index and its envelope. -/
structure Entry where
  /-- The label in the index. -/
  label : String
  /-- The policy in the index. -/
  policy : EntryPolicy
  /-- What decrypting the envelope yields. -/
  record : Except VaultError EntryRecord

/-- A finite map of entries. -/
abbrev Contents := EntryId → Option Entry

/-- One operation a caller performs on an open vault. -/
inductive VaultOp where
  /-- Insert or update an entry. -/
  | addOrUpdate (id : EntryId) (label : String) (policy : EntryPolicy) (record : EntryRecord)
      (entryNonce indexNonce : Nonce)
  /-- Remove an entry. -/
  | remove (id : EntryId) (indexNonce : Nonce)
  /-- Replace the metadata. -/
  | setMetadata (metadata : VaultMetadata)
  /-- Set the rate-limit fields. -/
  | setRateLimit (counter : UInt64) (lastFailure : Int64)
  /-- Replace the wrap blobs. -/
  | setHsmBlobs (kHsmWrapBlob totpSeedWrapBlob : Bytes)
  /-- Write the vault out and parse it back. -/
  | reload

namespace VaultOp

/-- The identifier whose entry the operation writes or removes. -/
def target : VaultOp → Option EntryId
  | addOrUpdate id _ _ _ _ _ => some id
  | remove id _ => some id
  | _ => none

/-- The effect on the finite map. -/
def update : Contents → VaultOp → Contents
  | contents, addOrUpdate id label policy record _ _ =>
    Function.update contents id (some ⟨label, policy, .ok record⟩)
  | contents, remove id _ => Function.update contents id none
  | contents, _ => contents

section Steps

variable [Crates]

/-- Perform the operation. An operation that reports an error leaves the vault in the state it
reached; only parsing can leave no vault at all. -/
def apply (kMaster : MasterKey) : VaultOp → Vault → Except VaultError Vault
  | addOrUpdate id label policy record entryNonce indexNonce, vault =>
    .ok (Vault.addOrUpdateEntry kMaster id label policy record entryNonce indexNonce vault).2
  | remove id indexNonce, vault => .ok (Vault.removeEntry kMaster id indexNonce vault).2
  | setMetadata metadata, vault => .ok (vault.setMetadata metadata)
  | setRateLimit counter lastFailure, vault => .ok (vault.setRateLimit counter lastFailure)
  | setHsmBlobs kHsm totpSeed, vault => .ok (Vault.setHsmBlobs kHsm totpSeed vault).2
  | reload, vault => Vault.fromBytes vault.toBytes

/-- One step of a run of operations. -/
def step (kMaster : MasterKey) (reached : Except VaultError Vault) (op : VaultOp) :
    Except VaultError Vault :=
  reached >>= op.apply kMaster

/-- The sizes an operation writes stay below the capacity of their length fields: the padded
record, the index it seals, and the number of entries. -/
def Fits (kMaster : MasterKey) (reached : Except VaultError Vault) (op : VaultOp) : Prop :=
  ∀ vault index, reached = .ok vault → vault.decryptIndex kMaster = .ok index →
    match op with
    | addOrUpdate id label policy record _ _ =>
      RecordFits record ∧ IndexFits vault.version (Index.upsert index ⟨id, label, policy⟩) ∧
        (Index.upsert index ⟨id, label, policy⟩).length < 2 ^ 32
    | remove id _ => IndexFits vault.version (Index.remove index id)
    | _ => True

end Steps

end VaultOp

section Refinement

variable [Crates]

/-- The finite map a vault stands for under a master key. -/
def Vault.contents (vault : Vault) (kMaster : MasterKey) : Contents := fun id =>
  match vault.openIndex kMaster with
  | .error _ => none
  | .ok index =>
    (Index.get index id).map fun row => ⟨row.label, row.policy, vault.decryptEntry kMaster id⟩

/-- The vault can be written and its index opens to these rows. -/
structure Vault.Coherent (vault : Vault) (kMaster : MasterKey) (index : Index) : Prop where
  /-- The stored lengths fit their fields. -/
  formed : vault.WellFormed
  /-- The sealed index decrypts to the rows. -/
  decrypts : vault.decryptIndex kMaster = .ok index
  /-- Rows and envelopes carry the same identifiers, without repetition. -/
  agree : Keyed.Agree IndexEntry.id EntryEnvelope.id index vault.envelopes

/-- A coherent vault opens. -/
theorem Vault.Coherent.opens {vault : Vault} {kMaster : MasterKey} {index : Index}
    (coherent : vault.Coherent kMaster index) : vault.openIndex kMaster = .ok index :=
  (vault.openIndex_ok_iff kMaster index).mpr ⟨coherent.decrypts, coherent.agree⟩

/-- The map of a coherent vault is read row by row. -/
theorem Vault.Coherent.contents_eq {vault : Vault} {kMaster : MasterKey} {index : Index}
    (coherent : vault.Coherent kMaster index) (id : EntryId) :
    vault.contents kMaster id = (Index.get index id).map fun row =>
      ⟨row.label, row.policy, vault.decryptEntry kMaster id⟩ := by
  rw [contents, coherent.opens]

/-- Decryption of an entry depends on its envelope and the version only. -/
theorem Vault.decryptEntry_congr {left right : Vault} (kMaster : MasterKey) {id : EntryId}
    (version : left.version = right.version) (envelope : left.envelope? id = right.envelope? id) :
    left.decryptEntry kMaster id = right.decryptEntry kMaster id := by
  rw [decryptEntry_eq, decryptEntry_eq, version, envelope]

/-- Changing header fields outside the sealed parts keeps coherence and the map. -/
theorem Vault.Coherent.of_same {before : Vault} {kMaster : MasterKey} {index : Index}
    (coherent : before.Coherent kMaster index) (after : Vault)
    (version : after.version = before.version)
    (nonce : after.sealedIndexNonce = before.sealedIndexNonce)
    (sealedIndex : after.sealedIndexCt = before.sealedIndexCt)
    (envelopes : after.envelopes = before.envelopes) :
    after.Coherent kMaster index ∧ after.contents kMaster = before.contents kMaster := by
  have moved : after.Coherent kMaster index := by
    refine ⟨⟨?_, ?_, ?_⟩, ?_, ?_⟩
    · rw [sealedIndex]
      exact coherent.formed.index
    · rw [envelopes]
      exact coherent.formed.count
    · rw [envelopes]
      exact coherent.formed.bodies
    · rw [← coherent.decrypts, decryptIndex, decryptIndex, version, nonce, sealedIndex]
    · rw [envelopes]
      exact coherent.agree
  refine ⟨moved, funext fun id => ?_⟩
  have entry : after.decryptEntry kMaster id = before.decryptEntry kMaster id :=
    decryptEntry_congr kMaster version (by rw [envelope?, envelope?, envelopes])
  rw [moved.contents_eq, coherent.contents_eq, entry]

/-- Storing an envelope and the index with its row writes one entry of the map. -/
theorem Vault.Coherent.put (aead : AeadLaws) (laws : PostcardLaws) {before : Vault}
    {kMaster : MasterKey} {index : Index} (coherent : before.Coherent kMaster index)
    {id : EntryId} {label : String} {policy : EntryPolicy} {record : EntryRecord}
    {entryNonce indexNonce : Nonce} {envelope : EntryEnvelope} {sealed : Bytes}
    (recordFits : RecordFits record)
    (indexFits : IndexFits before.version (Index.upsert index ⟨id, label, policy⟩))
    (countFits : (Index.upsert index ⟨id, label, policy⟩).length < 2 ^ 32)
    (made : encryptEntry kMaster before.version id record entryNonce = .ok envelope)
    (done : sealIndex (Index.upsert index ⟨id, label, policy⟩) before.version kMaster indexNonce =
      .ok sealed) :
    let after := { before with
      envelopes := Keyed.upsert EntryEnvelope.id envelope before.envelopes
      sealedIndexNonce := indexNonce
      sealedIndexCt := sealed }
    after.Coherent kMaster (Index.upsert index ⟨id, label, policy⟩) ∧
      after.contents kMaster =
        Function.update (before.contents kMaster) id (some ⟨label, policy, .ok record⟩) := by
  intro after
  obtain ⟨named, _, _, _⟩ := encryptEntry_ok made
  have agree : Keyed.Agree IndexEntry.id EntryEnvelope.id
      (Index.upsert index ⟨id, label, policy⟩) after.envelopes :=
    coherent.agree.upsert (x := (⟨id, label, policy⟩ : IndexEntry)) (y := envelope) named.symm
  have counted : after.envelopes.length = (Index.upsert index ⟨id, label, policy⟩).length := by
    have perm := (Keyed.Agree.iff_perm.mp agree).2.length_eq
    rw [List.length_map, List.length_map] at perm
    exact perm.symm
  have moved : after.Coherent kMaster (Index.upsert index ⟨id, label, policy⟩) := by
    refine ⟨⟨sealIndex_length aead indexFits done, counted ▸ countFits, ?_⟩,
      decryptIndex_of_sealIndex aead laws after indexFits done, agree⟩
    intro stored member
    rcases (Keyed.mem_upsert EntryEnvelope.id coherent.agree.rightDistinct).mp member with
      rfl | ⟨older, _⟩
    · exact encryptEntry_ctLen aead recordFits made
    · exact coherent.formed.bodies stored older
  refine ⟨moved, funext fun other => ?_⟩
  rw [moved.contents_eq, Index.get, Index.upsert, Keyed.lookup_upsert]
  by_cases same : id = other
  · subst same
    have found : after.envelope? id = some envelope := by
      rw [envelope?, Keyed.lookup_upsert, if_pos named]
    have opened : after.decryptEntry kMaster id = .ok record := by
      rw [decryptEntry_eq, found]
      exact openEnvelope_of_encryptEntry aead recordFits.region made
    rw [if_pos rfl, Function.update_self, Option.map_some, opened]
  · have entry : after.decryptEntry kMaster other = before.decryptEntry kMaster other := by
      refine decryptEntry_congr kMaster rfl ?_
      rw [envelope?, Keyed.lookup_upsert, if_neg (by rwa [named])]
      rfl
    rw [if_neg same, Function.update_of_ne (Ne.symm same), coherent.contents_eq, entry]
    rfl

/-- Dropping an envelope and its row removes one entry of the map. -/
theorem Vault.Coherent.erase (aead : AeadLaws) (laws : PostcardLaws) {before : Vault}
    {kMaster : MasterKey} {index : Index} (coherent : before.Coherent kMaster index)
    {id : EntryId} {indexNonce : Nonce} {sealed : Bytes}
    (indexFits : IndexFits before.version (Index.remove index id))
    (done : sealIndex (Index.remove index id) before.version kMaster indexNonce = .ok sealed) :
    let after := { before with
      envelopes := Keyed.remove EntryEnvelope.id id before.envelopes
      sealedIndexNonce := indexNonce
      sealedIndexCt := sealed }
    after.Coherent kMaster (Index.remove index id) ∧
      after.contents kMaster = Function.update (before.contents kMaster) id none := by
  intro after
  have fewer : after.envelopes.length ≤ before.envelopes.length := List.length_filter_le _ _
  have moved : after.Coherent kMaster (Index.remove index id) := by
    refine ⟨⟨sealIndex_length aead indexFits done, Nat.lt_of_le_of_lt fewer coherent.formed.count,
      ?_⟩, decryptIndex_of_sealIndex aead laws after indexFits done,
      coherent.agree.remove id⟩
    intro stored member
    exact coherent.formed.bodies stored ((Keyed.mem_remove EntryEnvelope.id).mp member).1
  refine ⟨moved, funext fun other => ?_⟩
  rw [moved.contents_eq, Index.get, Index.remove, Keyed.lookup_remove]
  by_cases same : id = other
  · subst same
    rw [if_pos rfl, Function.update_self, Option.map_none]
  · have entry : after.decryptEntry kMaster other = before.decryptEntry kMaster other := by
      refine decryptEntry_congr kMaster rfl ?_
      rw [envelope?, Keyed.lookup_remove, if_neg same]
      rfl
    rw [if_neg same, Function.update_of_ne (Ne.symm same), coherent.contents_eq, entry]
    rfl

/-- What one operation does to a coherent vault: it stays coherent under the same version, its map
changes as the operation says, and other envelopes are untouched. -/
theorem VaultOp.step_coherent (aead : AeadLaws) (laws : PostcardLaws) {vault : Vault}
    {kMaster : MasterKey} {index : Index} (coherent : vault.Coherent kMaster index) (op : VaultOp)
    (fits : op.Fits kMaster (.ok vault)) :
    ∃ after rows, VaultOp.step kMaster (.ok vault) op = .ok after ∧
      after.version = vault.version ∧ after.Coherent kMaster rows ∧
      after.contents kMaster = VaultOp.update (vault.contents kMaster) op ∧
      ∀ id, op.target ≠ some id → after.envelope? id = vault.envelope? id := by
  have sizes := fits vault index rfl coherent.decrypts
  cases op with
  | addOrUpdate id label policy record entryNonce indexNonce =>
    obtain ⟨recordFits, indexFits, countFits⟩ := sizes
    obtain ⟨envelope, made⟩ := encryptEntry_total aead kMaster vault.version id record entryNonce
      recordFits
    obtain ⟨sealed, done⟩ := sealIndex_total aead laws _ vault.version kMaster indexNonce indexFits
    have ran := Vault.addOrUpdateEntry_run made coherent.decrypts done
    obtain ⟨moved, map⟩ := coherent.put aead laws recordFits indexFits countFits made done
    have stepped : VaultOp.step kMaster (.ok vault)
        (.addOrUpdate id label policy record entryNonce indexNonce) = .ok _ :=
      congrArg (fun result : Except VaultError Unit × Vault => Except.ok result.2) ran
    refine ⟨_, _, stepped, rfl, moved, map, ?_⟩
    intro other apart
    have named : ¬ envelope.id = other := fun same =>
      apart (congrArg some ((encryptEntry_ok made).1.symm.trans same))
    rw [Vault.envelope?, Keyed.lookup_upsert, if_neg named]
    rfl
  | remove id indexNonce =>
    by_cases present : id ∈ vault.envelopes.map EntryEnvelope.id
    · obtain ⟨sealed, done⟩ := sealIndex_total aead laws _ vault.version kMaster indexNonce sizes
      have ran := Vault.removeEntry_run present coherent.decrypts done
      obtain ⟨moved, map⟩ := coherent.erase aead laws sizes done
      have stepped : VaultOp.step kMaster (.ok vault) (.remove id indexNonce) = .ok _ :=
        congrArg (fun result : Except VaultError Unit × Vault => Except.ok result.2) ran
      refine ⟨_, _, stepped, rfl, moved, map, ?_⟩
      intro other apart
      rw [Vault.envelope?, Keyed.lookup_remove, if_neg fun same => apart (congrArg some same)]
      rfl
    · have ran := Vault.removeEntry_absent kMaster indexNonce present
      have stepped : VaultOp.step kMaster (.ok vault) (.remove id indexNonce) = .ok _ :=
        congrArg (fun result : Except VaultError Unit × Vault => Except.ok result.2) ran
      refine ⟨vault, index, stepped, rfl, coherent, ?_, fun _ _ => rfl⟩
      have missing : vault.contents kMaster id = none := by
        rw [coherent.contents_eq, Option.map_eq_none_iff, Index.get, Keyed.lookup_eq_none,
          coherent.agree.same]
        exact present
      rw [VaultOp.update, ← missing, Function.update_eq_self]
  | setMetadata metadata =>
    obtain ⟨moved, map⟩ := coherent.of_same (vault.setMetadata metadata) rfl rfl rfl rfl
    exact ⟨_, _, rfl, rfl, moved, map, fun _ _ => rfl⟩
  | setRateLimit counter lastFailure =>
    obtain ⟨moved, map⟩ :=
      coherent.of_same (vault.setRateLimit counter lastFailure) rfl rfl rfl rfl
    exact ⟨_, _, rfl, rfl, moved, map, fun _ _ => rfl⟩
  | setHsmBlobs kHsm totpSeed =>
    have same : (Vault.setHsmBlobs kHsm totpSeed vault).2.version = vault.version ∧
        (Vault.setHsmBlobs kHsm totpSeed vault).2.sealedIndexNonce = vault.sealedIndexNonce ∧
        (Vault.setHsmBlobs kHsm totpSeed vault).2.sealedIndexCt = vault.sealedIndexCt ∧
        (Vault.setHsmBlobs kHsm totpSeed vault).2.envelopes = vault.envelopes := by
      rw [Vault.setHsmBlobs, Op.lift_bind_run]
      cases checkBlobLen kHsm "k_hsm_wrap_blob" with
      | error error => exact ⟨rfl, rfl, rfl, rfl⟩
      | ok first =>
        cases second : checkBlobLen totpSeed "totp_seed_wrap_blob" with
        | error error => simp [Op.lift_bind_run]
        | ok blob => simp [Op.lift_bind_run]
    obtain ⟨version, nonce, sealedIndex, envelopes⟩ := same
    obtain ⟨moved, map⟩ := coherent.of_same _ version nonce sealedIndex envelopes
    exact ⟨_, _, rfl, version, moved, map, fun id _ => by
      rw [Vault.envelope?, envelopes]
      rfl⟩
  | reload =>
    exact ⟨vault, index, Vault.fromBytes_toBytes coherent.formed, rfl, coherent, rfl,
      fun _ _ => rfl⟩

/-- A vault a run may start from: freshly created, or parsed with an index that opens. -/
inductive Vault.Started (kMaster : MasterKey) : Vault → Prop
  /-- A created vault whose empty index fits its field. -/
  | created {kdfParams : KdfParams} {salt : Block 32} {kHsmWrapBlob totpSeedWrapBlob : Bytes}
    {metadata : VaultMetadata} {probeNonce indexNonce : Nonce} {vault : Vault}
    (made : Vault.create kdfParams salt kHsmWrapBlob totpSeedWrapBlob metadata kMaster probeNonce
      indexNonce = .ok vault) (fits : IndexFits .current []) : Started kMaster vault
  /-- A parsed vault of either version. -/
  | parsed {bytes : Bytes} {index : Index} {vault : Vault}
    (read : Vault.fromBytes bytes = .ok vault) (opens : vault.openIndex kMaster = .ok index) :
    Started kMaster vault

/-- Every starting vault is coherent. -/
theorem Vault.Started.coherent (aead : AeadLaws) (laws : PostcardLaws) {kMaster : MasterKey}
    {vault : Vault} (started : vault.Started kMaster) : ∃ index, vault.Coherent kMaster index := by
  cases started with
  | created made fits =>
    have formed := wellFormed_of_create aead fits made
    obtain ⟨_, _, _, sealedIndex, _, _, _, done, rfl⟩ := create_ok_iff.mp made
    exact ⟨[], formed,
      decryptIndex_of_sealIndex aead laws (fresh _ _ _ _ _ _ _ _ _) fits done, .empty⟩
  | parsed read opens =>
    obtain ⟨decrypts, agree⟩ := (vault.openIndex_ok_iff kMaster _).mp opens
    exact ⟨_, wellFormed_of_fromBytes read, decrypts, agree⟩

/-- After every operation sequence the vault opens, its index and envelopes carry the same distinct
identifiers, its version is the starting one, its map is the starting map after the same updates,
and envelopes the sequence does not name are untouched. -/
theorem vault_refines_finite_map (aead : AeadLaws) (laws : PostcardLaws) {kMaster : MasterKey}
    {start : Vault} (started : start.Started kMaster) (ops : List VaultOp)
    (fits : Along (VaultOp.step kMaster) (VaultOp.Fits kMaster) (.ok start) ops) :
    ∃ vault index, run (VaultOp.step kMaster) (.ok start) ops = .ok vault ∧
      vault.openIndex kMaster = .ok index ∧ (index.map IndexEntry.id).Nodup ∧
      (index.map IndexEntry.id).Perm (vault.envelopes.map EntryEnvelope.id) ∧
      vault.version = start.version ∧
      vault.contents kMaster = run VaultOp.update (start.contents kMaster) ops ∧
      ∀ id, (∀ op ∈ ops, op.target ≠ some id) → vault.envelope? id = start.envelope? id := by
  let live (reached : Except VaultError Vault) := ∃ vault index, reached = .ok vault ∧
    vault.version = start.version ∧ vault.Coherent kMaster index
  let view (reached : Except VaultError Vault) : Contents :=
    match reached with
    | .ok vault => vault.contents kMaster
    | .error _ => fun _ => none
  have kept : ∀ reached op, live reached → VaultOp.Fits kMaster reached op →
      live (VaultOp.step kMaster reached op) := by
    rintro _ op ⟨vault, index, rfl, version, coherent⟩ sizes
    obtain ⟨after, rows, stepped, same, moved, _, _⟩ := op.step_coherent aead laws coherent sizes
    exact ⟨after, rows, stepped, same.trans version, moved⟩
  have simulated : ∀ reached op, live reached → VaultOp.Fits kMaster reached op →
      view (VaultOp.step kMaster reached op) = VaultOp.update (view reached) op := by
    rintro _ op ⟨vault, index, rfl, _, coherent⟩ sizes
    obtain ⟨after, rows, stepped, _, _, map, _⟩ := op.step_coherent aead laws coherent sizes
    rw [stepped]
    exact map
  obtain ⟨index, coherent⟩ := started.coherent aead laws
  have initial : live (.ok start) := ⟨start, index, rfl, rfl, coherent⟩
  obtain ⟨vault, rows, reached, version, final⟩ := run_invariant kept initial fits
  have map := run_simulates kept simulated initial fits
  rw [reached] at map
  refine ⟨vault, rows, reached, final.opens, final.agree.leftDistinct,
    (Keyed.Agree.iff_perm.mp final.agree).2, version, map, ?_⟩
  intro id apart
  have framed : ∀ reached op, (live reached ∧ ∀ vault, reached = .ok vault →
        vault.envelope? id = start.envelope? id) →
      (VaultOp.Fits kMaster reached op ∧ op.target ≠ some id) →
      (live (VaultOp.step kMaster reached op) ∧ ∀ vault, VaultOp.step kMaster reached op =
        .ok vault → vault.envelope? id = start.envelope? id) := by
    rintro _ op ⟨⟨vault, index, rfl, version, coherent⟩, same⟩ ⟨sizes, other⟩
    obtain ⟨after, _, stepped, _, _, _, frame⟩ := op.step_coherent aead laws coherent sizes
    refine ⟨kept _ op ⟨vault, index, rfl, version, coherent⟩ sizes, fun found taken => ?_⟩
    rw [stepped] at taken
    cases taken
    rw [frame id other, same vault rfl]
  have unchanged := run_invariant framed ⟨initial, fun found same => by cases same; rfl⟩
    (fits.and_forall apart)
  exact unchanged.2 vault reached

end Refinement

/-- A created vault, one insertion and a reload, under the reference functions. -/
theorem vault_refines_finite_map_created :
    letI := Reference.crates
    let row : IndexEntry := ⟨Reference.entryId, "mail", .default⟩
    let ops : List VaultOp := [.addOrUpdate row.id row.label row.policy ⟨"a", "b", "", ""⟩
      Reference.nonce Reference.nonce, .reload]
    ∃ start vault index,
      Vault.create Reference.kdfParams (Block.replicate 32 0) [] [] (.new 0) Reference.kMaster
        Reference.nonce Reference.nonce = .ok start ∧
      run (VaultOp.step Reference.kMaster) (.ok start) ops = .ok vault ∧
      vault.openIndex Reference.kMaster = .ok index ∧ (index.map IndexEntry.id).Nodup ∧
      (index.map IndexEntry.id).Perm (vault.envelopes.map EntryEnvelope.id) ∧
      vault.version = start.version ∧
      vault.contents Reference.kMaster =
        run VaultOp.update (start.contents Reference.kMaster) ops ∧
      ∀ id, (∀ op ∈ ops, op.target ≠ some id) → vault.envelope? id = start.envelope? id := by
  let _ := Reference.crates
  intro row ops
  have emptyFits : IndexFits .current [] := by
    refine IndexFits.of_length .current fun postcard written => ?_
    obtain rfl := Option.some.inj written
    decide
  obtain ⟨start, made⟩ := Vault.create_total Reference.aeadLaws Reference.postcardLaws
    Reference.kdfParams (Block.replicate 32 0) ⟨[], by decide⟩ ⟨[], by decide⟩ (.new 0)
    Reference.kMaster Reference.nonce Reference.nonce emptyFits
  have decrypts : start.version = .current ∧ start.decryptIndex Reference.kMaster = .ok [] := by
    obtain ⟨_, _, _, sealedIndex, _, _, _, done, rfl⟩ := Vault.create_ok_iff.mp made
    exact ⟨rfl, Vault.decryptIndex_of_sealIndex Reference.aeadLaws Reference.postcardLaws
      (Vault.fresh _ _ _ _ _ _ _ _ _) emptyFits done⟩
  have fits : Along (VaultOp.step Reference.kMaster) (VaultOp.Fits Reference.kMaster) (.ok start)
      ops := by
    refine ⟨?_, fun _ _ _ _ => trivial, trivial⟩
    rintro vault index same opened
    obtain rfl := Except.ok.inj same
    rw [decrypts.2] at opened
    obtain rfl := Except.ok.inj opened
    rw [decrypts.1]
    refine ⟨RecordFits.of_length (by decide), IndexFits.of_length .current ?_, by decide⟩
    intro postcard written
    obtain rfl := Option.some.inj written
    decide
  obtain ⟨vault, index, conclusion⟩ := vault_refines_finite_map Reference.aeadLaws
    Reference.postcardLaws (.created made emptyFits) ops fits
  exact ⟨start, vault, index, made, conclusion⟩

end Passman
