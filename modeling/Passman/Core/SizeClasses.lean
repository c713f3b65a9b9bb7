import Passman.Core.World
import Passman.Lib.Segments
import Passman.Vault.Atomicity
import Passman.Vault.Outline
import Passman.Vault.Refinement

/-!
# What the layout of a vault discloses

Records and the index are padded to whole buckets before they are sealed, so in every vault this
build creates and changes the length of a ciphertext gives away a number of buckets and no more.
Two such vaults with the same plaintext fields and the same numbers of buckets have files of one
length that differ in the salt, the nonces and the ciphertexts only.
-/
namespace Passman

open Bytewise Fallible

/-- The layout of an envelope. -/
def EntryEnvelope.segments (envelope : EntryEnvelope) : List Segment :=
  [⟨false, envelope.id.bytes.val⟩, ⟨true, envelope.nonce.val⟩,
    ⟨false, lePrefix UInt32 envelope.ciphertextAndTag.length⟩, ⟨true, envelope.ciphertextAndTag⟩]

namespace Vault

/-- The layout of a vault file: the salt, the nonces and the ciphertexts are concealed. -/
def segments (vault : Vault) : List Segment :=
  [⟨false, [vault.version.val]⟩, ⟨false, [kdfAlgorithmArgon2id]⟩,
    ⟨false, vault.kdfParams.toBytes⟩, ⟨true, vault.salt.val⟩, ⟨true, vault.probeNonce.val⟩,
    ⟨true, vault.probeCt.val⟩, ⟨false, prefixed UInt16 vault.kHsmWrapBlob.val⟩,
    ⟨false, prefixed UInt16 vault.totpSeedWrapBlob.val⟩, ⟨false, toLe vault.rlCounter⟩,
    ⟨false, toLe vault.rlLastFailure⟩, ⟨false, vault.metadata.toBytes 0⟩,
    ⟨true, vault.sealedIndexNonce.val⟩, ⟨false, lePrefix UInt32 vault.sealedIndexCt.length⟩,
    ⟨true, vault.sealedIndexCt⟩, ⟨false, lePrefix UInt32 vault.envelopes.length⟩] ++
    vault.envelopes.flatMap EntryEnvelope.segments

/-- The file is the byte string of its layout. -/
theorem written_segments (vault : Vault) : written vault.segments = vault.toBytes := by
  have body (envelopes : List EntryEnvelope) :
      (envelopes.flatMap EntryEnvelope.segments).flatMap Segment.bytes =
        envelopes.flatMap EntryEnvelope.toBytes := by
    rw [List.flatMap_assoc]
    refine List.flatMap_congr fun envelope _ => ?_
    simp [EntryEnvelope.segments, EntryEnvelope.toBytes, prefixed]
  simp [written, segments, body, toBytes, layout, prefixed]

/-- The places of the salt, the nonces and the ciphertexts in the file. -/
def concealed (vault : Vault) : List Bool := Bytewise.concealed vault.segments

end Vault

/-- The number of buckets of the plaintext behind a ciphertext. -/
def bucketCount (ciphertext : Bytes) : Nat := (ciphertext.length - tagLen) / bucket

/-- A ciphertext of whole buckets. -/
def Bucketed (ciphertext : Bytes) : Prop := ∃ count, ciphertext.length = bucket * count + tagLen

/-- Two ciphertexts of whole buckets have one length when they have one number of buckets. -/
theorem Bucketed.length_eq {left right : Bytes} (leftWhole : Bucketed left)
    (rightWhole : Bucketed right) (same : bucketCount left = bucketCount right) :
    left.length = right.length := by
  obtain ⟨first, leftLength⟩ := leftWhole
  obtain ⟨second, rightLength⟩ := rightWhole
  have positive : 0 < bucket := by decide
  rw [bucketCount, bucketCount, leftLength, rightLength, Nat.add_sub_cancel, Nat.add_sub_cancel,
    Nat.mul_div_cancel_left _ positive, Nat.mul_div_cancel_left _ positive] at same
  rw [leftLength, rightLength, same]

/-- What two vaults have in common: the wrap blobs, the plaintext header values, the identifiers in
order, and the numbers of buckets. -/
structure Vault.SameClasses (left right : Vault) : Prop where
  /-- The wrap blobs of the hardware key. -/
  kHsmWrapBlob : left.kHsmWrapBlob = right.kHsmWrapBlob
  /-- The wrap blobs of the seed. -/
  totpSeedWrapBlob : left.totpSeedWrapBlob = right.totpSeedWrapBlob
  /-- The derivation parameters. -/
  kdfParams : left.kdfParams = right.kdfParams
  /-- The failure counters. -/
  rlCounter : left.rlCounter = right.rlCounter
  /-- The times of the last failure. -/
  rlLastFailure : left.rlLastFailure = right.rlLastFailure
  /-- The metadata. -/
  metadata : left.metadata = right.metadata
  /-- The identifiers of the envelopes, in order. -/
  ids : left.envelopes.map EntryEnvelope.id = right.envelopes.map EntryEnvelope.id
  /-- The numbers of buckets of the envelopes, in order. -/
  buckets : left.envelopes.map (bucketCount ∘ EntryEnvelope.ciphertextAndTag) =
    right.envelopes.map (bucketCount ∘ EntryEnvelope.ciphertextAndTag)
  /-- The numbers of buckets of the index. -/
  indexBuckets : bucketCount left.sealedIndexCt = bucketCount right.sealedIndexCt

/-- Whether two vaults have the same classes can be computed. -/
instance (left right : Vault) : Decidable (left.SameClasses right) :=
  decidable_of_iff (left.kHsmWrapBlob = right.kHsmWrapBlob ∧
    left.totpSeedWrapBlob = right.totpSeedWrapBlob ∧ left.kdfParams = right.kdfParams ∧
    left.rlCounter = right.rlCounter ∧ left.rlLastFailure = right.rlLastFailure ∧
    left.metadata = right.metadata ∧
    left.envelopes.map EntryEnvelope.id = right.envelopes.map EntryEnvelope.id ∧
    left.envelopes.map (bucketCount ∘ EntryEnvelope.ciphertextAndTag) =
      right.envelopes.map (bucketCount ∘ EntryEnvelope.ciphertextAndTag) ∧
    bucketCount left.sealedIndexCt = bucketCount right.sealedIndexCt)
    ⟨fun ⟨kHsm, seed, kdf, counter, failure, metadata, ids, buckets, index⟩ =>
      ⟨kHsm, seed, kdf, counter, failure, metadata, ids, buckets, index⟩,
    fun same => ⟨same.kHsmWrapBlob, same.totpSeedWrapBlob, same.kdfParams, same.rlCounter,
      same.rlLastFailure, same.metadata, same.ids, same.buckets, same.indexBuckets⟩⟩

section Histories

variable [Crates]

/-- A vault this build created and changed by any history of operations, completed or failed, under
any keys. A file is read back only if it is within the limit of a read. -/
inductive Vault.Built : Vault → Prop
  /-- The vault was created. -/
  | created {kdfParams : KdfParams} {salt : Block 32} {kHsmWrapBlob totpSeedWrapBlob : Bytes}
    {metadata : VaultMetadata} {kMaster : MasterKey} {probeNonce indexNonce : Nonce} {vault : Vault}
    (made : Vault.create kdfParams salt kHsmWrapBlob totpSeedWrapBlob metadata kMaster probeNonce
      indexNonce = .ok vault) : Built vault
  /-- An operation was performed on it. -/
  | changed {vault after : Vault} (built : Built vault) (kMaster : MasterKey) (op : VaultOp)
    (inMemory : op ≠ .reload) (applied : op.apply kMaster vault = .ok after) : Built after
  /-- It was written and read back. -/
  | reloaded {vault after : Vault} (built : Built vault)
    (within : vault.toBytes.length ≤ maxVaultBytes)
    (read : Vault.fromBytes vault.toBytes = .ok after) : Built after

/-- The invariant of these vaults: the current version, whole buckets, and announced lengths. -/
structure Vault.Padded (vault : Vault) : Prop where
  /-- The version is the current one. -/
  version : vault.version = .current
  /-- The sealed index has whole buckets. -/
  index : Bucketed vault.sealedIndexCt
  /-- Every envelope has whole buckets. -/
  bodies : ∀ envelope ∈ vault.envelopes, Bucketed envelope.ciphertextAndTag
  /-- The stored lengths are the actual ones. -/
  clamped : vault.Clamped

/-- The number of buckets a body is padded to, with its four-byte length in front. -/
def paddedBuckets (body : Bytes) : Nat := (4 + body.length + bucket - 1) / bucket

/-- A padded body is sealed into the buckets it is padded to. -/
theorem sealed_padWithLength (aead : AeadLaws) {key : Key} {nonce : Nonce} {aad body sealed : Bytes}
    (encrypted : encrypt key nonce aad (padWithLength bucket body) = .ok sealed) :
    sealed.length = bucket * paddedBuckets body + tagLen := by
  have whole := padWithLength_length bucket body (by decide)
  rw [encrypt_length aead encrypted, whole, roundUp, Nat.mul_comm]
  rfl

/-- A sealed record takes the buckets of its fields. -/
theorem encryptEntry_length (aead : AeadLaws) {kMaster : MasterKey} {version : FormatVersion}
    {id : EntryId} {record : EntryRecord} {nonce : Nonce} {envelope : EntryEnvelope}
    (made : encryptEntry kMaster version id record nonce = .ok envelope) :
    envelope.ciphertextAndTag.length = bucket * paddedBuckets record.region + tagLen :=
  sealed_padWithLength aead (encryptEntry_ok made).2.2.2

/-- An index sealed under the current version takes the buckets of its serialized rows. -/
theorem sealIndex_buckets (aead : AeadLaws) {index : Index} {kMaster : MasterKey} {nonce : Nonce}
    {sealed : Bytes} (done : sealIndex index .current kMaster nonce = .ok sealed) :
    ∃ postcard, Crates.rowsToBytes index = some postcard ∧
      sealed.length = bucket * paddedBuckets postcard + tagLen := by
  obtain ⟨postcard, written, encrypted⟩ := sealIndex_ok done
  exact ⟨postcard, written, sealed_padWithLength aead encrypted⟩

/-- An index sealed under the current version has whole buckets. -/
theorem sealIndex_bucketed (aead : AeadLaws) {index : Index} {kMaster : MasterKey} {nonce : Nonce}
    {sealed : Bytes} (done : sealIndex index .current kMaster nonce = .ok sealed) :
    Bucketed sealed := by
  obtain ⟨postcard, _, length⟩ := sealIndex_buckets aead done
  exact ⟨_, length⟩

namespace Vault.Padded

variable {vault : Vault}

/-- A created vault is padded. -/
theorem create (aead : AeadLaws) {kdfParams : KdfParams} {salt : Block 32}
    {kHsmWrapBlob totpSeedWrapBlob : Bytes} {metadata : VaultMetadata} {kMaster : MasterKey}
    {probeNonce indexNonce : Nonce}
    (made : Vault.create kdfParams salt kHsmWrapBlob totpSeedWrapBlob metadata kMaster probeNonce
      indexNonce = .ok vault) : vault.Padded := by
  obtain ⟨_, _, _, _, _, _, _, done, rfl⟩ := create_ok_iff.mp made
  exact ⟨rfl, sealIndex_bucketed aead done, List.forall_mem_nil _, List.forall_mem_nil _⟩

/-- Re-sealing the index, whether it fails or not, keeps a vault padded. -/
theorem reseal (aead : AeadLaws) (padded : vault.Padded) (index : Index) (kMaster : MasterKey)
    (nonce : Nonce) : (resealIndex index kMaster nonce vault).2.Padded := by
  rcases resealIndex_cases index kMaster nonce vault with ⟨sealed, done, ran⟩ | ⟨_, _, ran⟩
  · rw [ran]
    rw [padded.version] at done
    exact ⟨padded.version, sealIndex_bucketed aead done, padded.bodies, padded.clamped⟩
  · rw [ran]
    exact padded

/-- Changing the index, whether it fails or not, keeps a vault padded. -/
theorem reindex (aead : AeadLaws) (padded : vault.Padded) (change : Index → Index)
    (kMaster : MasterKey) (nonce : Nonce) :
    ((Op.lift (vault.decryptIndex kMaster) >>= fun index =>
      resealIndex (change index) kMaster nonce) vault).2.Padded := by
  rw [Op.lift_bind_run]
  cases vault.decryptIndex kMaster with
  | error error => exact padded
  | ok index => exact padded.reseal aead (change index) kMaster nonce

/-- An insertion, whether it fails or not, keeps a vault padded. -/
theorem addOrUpdateEntry (aead : AeadLaws) (padded : vault.Padded) (kMaster : MasterKey)
    (id : EntryId) (label : String) (policy : EntryPolicy) (record : EntryRecord)
    (entryNonce indexNonce : Nonce) :
    (Vault.addOrUpdateEntry kMaster id label policy record entryNonce indexNonce
      vault).2.Padded := by
  unfold Vault.addOrUpdateEntry
  rw [Op.get_bind_run, Op.lift_bind_run]
  cases made : encryptEntry kMaster vault.version id record entryNonce with
  | error error => exact padded
  | ok envelope =>
    have stored : Vault.Padded { vault with
        envelopes := Keyed.upsert EntryEnvelope.id envelope vault.envelopes } := by
      refine ⟨padded.version, padded.index, fun stored member => ?_, fun stored member => ?_⟩
      · rcases Keyed.mem_of_mem_upsert EntryEnvelope.id member with rfl | older
        · exact ⟨_, encryptEntry_length aead made⟩
        · exact padded.bodies stored older
      · rcases Keyed.mem_of_mem_upsert EntryEnvelope.id member with rfl | older
        · exact (encryptEntry_ok made).2.2.1
        · exact padded.clamped stored older
    exact stored.reindex aead (Index.upsert · ⟨id, label, policy⟩) kMaster indexNonce

/-- A removal, whether it fails or not, keeps a vault padded. -/
theorem removeEntry (aead : AeadLaws) (padded : vault.Padded) (kMaster : MasterKey) (id : EntryId)
    (indexNonce : Nonce) : (Vault.removeEntry kMaster id indexNonce vault).2.Padded := by
  have dropped : Vault.Padded { vault with
      envelopes := Keyed.remove EntryEnvelope.id id vault.envelopes } :=
    ⟨padded.version, padded.index,
      fun stored member => padded.bodies stored (List.mem_filter.mp member).1,
      fun stored member => padded.clamped stored (List.mem_filter.mp member).1⟩
  have last := dropped.reindex aead (Index.remove · id) kMaster indexNonce
  unfold Vault.removeEntry
  rw [Op.get_bind_run, Op.modify_bind_run, Op.get_bind_run]
  dsimp only
  by_cases absent : (Keyed.remove EntryEnvelope.id id vault.envelopes).length =
      vault.envelopes.length
  · rw [if_pos absent]
    exact dropped
  · rw [if_neg absent]
    exact last

omit [Crates] in
/-- Replacing the wrap blobs, whether it fails or not, keeps a vault padded. -/
theorem setHsmBlobs (padded : vault.Padded) (kHsmWrapBlob totpSeedWrapBlob : Bytes) :
    (Vault.setHsmBlobs kHsmWrapBlob totpSeedWrapBlob vault).2.Padded := by
  unfold Vault.setHsmBlobs
  rw [Op.lift_bind_run]
  cases checkBlobLen kHsmWrapBlob "k_hsm_wrap_blob" with
  | error error => exact padded
  | ok first =>
    dsimp only
    rw [Op.lift_bind_run]
    cases checkBlobLen totpSeedWrapBlob "totp_seed_wrap_blob" with
    | error error => exact padded
    | ok second => exact ⟨padded.version, padded.index, padded.bodies, padded.clamped⟩

/-- An operation in memory keeps a vault padded. -/
theorem apply (aead : AeadLaws) (padded : vault.Padded) {kMaster : MasterKey} {op : VaultOp}
    (inMemory : op ≠ .reload) {after : Vault} (applied : op.apply kMaster vault = .ok after) :
    after.Padded := by
  cases op with
  | reload => exact absurd rfl inMemory
  | addOrUpdate id label policy record entryNonce indexNonce =>
    obtain rfl := Except.ok.inj applied
    exact padded.addOrUpdateEntry aead kMaster id label policy record entryNonce indexNonce
  | remove id indexNonce =>
    obtain rfl := Except.ok.inj applied
    exact padded.removeEntry aead kMaster id indexNonce
  | setMetadata metadata =>
    obtain rfl := Except.ok.inj applied
    exact ⟨padded.version, padded.index, padded.bodies, padded.clamped⟩
  | setRateLimit counter lastFailure =>
    obtain rfl := Except.ok.inj applied
    exact ⟨padded.version, padded.index, padded.bodies, padded.clamped⟩
  | setHsmBlobs kHsm totpSeed =>
    obtain rfl := Except.ok.inj applied
    exact padded.setHsmBlobs kHsm totpSeed

end Vault.Padded

/-- Every vault this build created and changed is padded. -/
theorem Vault.Built.padded (aead : AeadLaws) {vault : Vault} (built : vault.Built) :
    vault.Padded := by
  induction built with
  | created made => exact .create aead made
  | changed built kMaster op inMemory applied ih => exact ih.apply aead inMemory applied
  | @reloaded vault after built within read ih =>
    have limit : maxVaultBytes < 2 ^ 32 := by decide
    have formed := ih.clamped.wellFormed (Nat.lt_of_le_of_lt within limit)
    rw [Vault.fromBytes_toBytes formed] at read
    obtain rfl := Except.ok.inj read
    exact ih

omit [Crates] in
/-- Envelopes of one identifier and one number of buckets have layouts that are alike. -/
theorem alike_envelopes {left right : List EntryEnvelope}
    (leftWhole : ∀ envelope ∈ left, Bucketed envelope.ciphertextAndTag)
    (rightWhole : ∀ envelope ∈ right, Bucketed envelope.ciphertextAndTag)
    (ids : left.map EntryEnvelope.id = right.map EntryEnvelope.id)
    (buckets : left.map (bucketCount ∘ EntryEnvelope.ciphertextAndTag) =
      right.map (bucketCount ∘ EntryEnvelope.ciphertextAndTag)) :
    List.Forall₂ Segment.Alike (left.flatMap EntryEnvelope.segments)
      (right.flatMap EntryEnvelope.segments) := by
  induction left generalizing right with
  | nil =>
    obtain rfl := List.map_eq_nil_iff.mp ids.symm
    exact .nil
  | cons first left ih =>
    cases right with
    | nil => cases ids
    | cons second right =>
      obtain ⟨id, ids⟩ := List.cons.inj ids
      obtain ⟨count, buckets⟩ := List.cons.inj buckets
      rw [List.forall_mem_cons] at leftWhole rightWhole
      have length := leftWhole.1.length_eq rightWhole.1 count
      have nonces : first.nonce.val.length = second.nonce.val.length :=
        first.nonce.property.trans second.nonce.property.symm
      refine List.rel_append ?_ (ih leftWhole.2 rightWhole.2 ids buckets)
      exact .cons (.open (by rw [id])) (.cons (.concealed nonces)
        (.cons (.open (by rw [length])) (.cons (.concealed length) .nil)))

omit [Crates] in
/-- Vaults of the same classes have layouts that are alike. -/
theorem Vault.SameClasses.alike {left right : Vault} (same : left.SameClasses right)
    (leftPadded : left.Padded) (rightPadded : right.Padded) :
    List.Forall₂ Segment.Alike left.segments right.segments := by
  have blocks {n : Nat} (first second : Block n) : first.val.length = second.val.length :=
    first.property.trans second.property.symm
  have index := leftPadded.index.length_eq rightPadded.index same.indexBuckets
  have version := leftPadded.version.trans rightPadded.version.symm
  have count : left.envelopes.length = right.envelopes.length := by
    have ids := congrArg List.length same.ids
    rwa [List.length_map, List.length_map] at ids
  refine List.rel_append ?_
    (alike_envelopes leftPadded.bodies rightPadded.bodies same.ids same.buckets)
  rw [version, same.kdfParams, same.kHsmWrapBlob, same.totpSeedWrapBlob, same.rlCounter,
    same.rlLastFailure, same.metadata, index, count]
  refine .cons (.open rfl) (.cons (.open rfl) (.cons (.open rfl) (.cons (.concealed (blocks _ _))
    (.cons (.concealed (blocks _ _)) (.cons (.concealed (blocks _ _)) (.cons (.open rfl)
    (.cons (.open rfl) (.cons (.open rfl) (.cons (.open rfl) (.cons (.open rfl)
    (.cons (.concealed (blocks _ _)) (.cons (.open rfl) (.cons (.concealed index)
    (.cons (.open rfl) .nil))))))))))))))

/-- Two vaults this build created and changed by any histories, with the same wrap blobs, plaintext
header values, identifiers and numbers of buckets, have files of one length that conceal the same
places and agree in all others. -/
theorem layout_discloses_size_classes (aead : AeadLaws) {left right : Vault}
    (leftBuilt : left.Built) (rightBuilt : right.Built) (same : left.SameClasses right) :
    left.toBytes.length = right.toBytes.length ∧ left.concealed = right.concealed ∧
      left.concealed.length = left.toBytes.length ∧
      ∀ i : Nat, left.concealed[i]? = some false → left.toBytes[i]? = right.toBytes[i]? := by
  obtain ⟨places, agree⟩ := alike_layouts (same.alike (leftBuilt.padded aead)
    (rightBuilt.padded aead))
  have leftLength := concealed_length left.segments
  have rightLength := concealed_length right.segments
  simp only [left.written_segments, right.written_segments] at agree leftLength rightLength
  refine ⟨?_, places, leftLength, agree⟩
  rw [← leftLength, ← rightLength, places]

end Histories

namespace Reference

/-- A vault that was created and then changed by one insertion. -/
def filed (label : String) (record : EntryRecord) (entryNonce : Nonce) : Except VaultError Vault :=
  letI := crates
  (Vault.create kdfParams (Block.replicate 32 2) [1, 2] [3] (.new 7) kMaster nonce nonce).bind
    (VaultOp.apply kMaster (.addOrUpdate entryId label .default record entryNonce nonce))

/-- A vault that holds a short label and a short record. -/
def shortFiled : Except VaultError Vault := filed "mail" ⟨"a", "b", "", ""⟩ nonce

/-- A vault that holds another label and a longer record of as many buckets. -/
def longFiled : Except VaultError Vault :=
  filed "a longer label" ⟨"somebody", "secret", "", "a note"⟩ (Block.replicate 24 5)

/-- Such a vault was built. -/
theorem filed_built {label : String} {record : EntryRecord} {entryNonce : Nonce} {vault : Vault}
    (done : filed label record entryNonce = .ok vault) : @Vault.Built crates vault := by
  let _ := crates
  unfold filed at done
  cases made : Vault.create kdfParams (Block.replicate 32 2) [1, 2] [3] (.new 7) kMaster nonce
      nonce with
  | error error =>
    rw [made] at done
    cases done
  | ok created =>
    rw [made] at done
    exact .changed (.created made) kMaster
      (.addOrUpdate entryId label .default record entryNonce nonce)
      (fun clash => by cases clash) done

end Reference

/-- The two vaults have files that agree in the open. -/
theorem layout_discloses_size_classes_reference :
    ∃ left right : Vault, Reference.shortFiled = .ok left ∧ Reference.longFiled = .ok right ∧
      left.toBytes.length = right.toBytes.length ∧ left.concealed = right.concealed ∧
      left.concealed.length = left.toBytes.length ∧
      ∀ i : Nat, left.concealed[i]? = some false → left.toBytes[i]? = right.toBytes[i]? := by
  let _ := Reference.crates
  have facts : (Reference.shortFiled.toOption.bind fun left =>
      Reference.longFiled.toOption.map fun right => decide (left.SameClasses right)) =
        some true := by decide +kernel
  obtain ⟨left, leftReturned, facts⟩ := Option.bind_eq_some_iff.mp facts
  obtain ⟨right, rightReturned, same⟩ := Option.map_eq_some_iff.mp facts
  have leftDone := Op.ok_of_returned leftReturned
  have rightDone := Op.ok_of_returned rightReturned
  exact ⟨left, right, leftDone, rightDone, layout_discloses_size_classes Reference.aeadLaws
    (Reference.filed_built leftDone) (Reference.filed_built rightDone) (of_decide_eq_true same)⟩

end Passman
