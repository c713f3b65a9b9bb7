import Passman.Vault.Format

/-!
# What each vault operation does

One description for each operation: what a success means for every field, what a
stored index or envelope opens to, and when the operation cannot fail. Later
results cite these and never unfold an operation.
-/
namespace Passman

open Bytewise Fallible

section Index

variable [Crates]

/-- The sealed form of an index stays below the capacity of its length field. -/
def IndexFits (version : FormatVersion) (index : Index) : Prop :=
  ∀ postcard, Crates.rowsToBytes index = some postcard →
    (indexPlaintext version postcard).length + 16 < 2 ^ 32

omit [Crates] in
/-- The sealed form of a record stays below the capacity of its length field. -/
def RecordFits (record : EntryRecord) : Prop := record.encodePadded.length + 16 < 2 ^ 32

omit [Crates] in
/-- The serialized rows are recovered from their plaintext under either version. -/
theorem indexPostcard_indexPlaintext (version : FormatVersion) (postcard : Bytes)
    (fits : (indexPlaintext version postcard).length + 16 < 2 ^ 32) :
    indexPostcard version (indexPlaintext version postcard) = .ok postcard := by
  by_cases legacy : version.val = formatVersionLegacyV1
  · rw [indexPostcard, indexPlaintext, if_pos legacy, if_pos legacy]
  · rw [indexPlaintext, if_neg legacy] at fits ⊢
    rw [indexPostcard, if_neg legacy]
    apply stripPadding_padWithLength
    have covers := le_roundUp bucket (4 + postcard.length) (by decide)
    rw [padWithLength_length _ _ (by decide)] at fits
    omega

omit [Crates] in
/-- Padding adds a length and less than one bucket. -/
theorem padWithLength_length_lt (body : Bytes) :
    (padWithLength bucket body).length < 4 + body.length + bucket := by
  rw [padWithLength_length _ _ (by decide)]
  exact roundUp_lt bucket _ (by decide)

/-- An index whose serialized rows leave room for a length, a bucket and a tag fits. -/
theorem IndexFits.of_length (version : FormatVersion) {index : Index}
    (small : ∀ postcard, Crates.rowsToBytes index = some postcard →
      postcard.length + 276 < 2 ^ 32) : IndexFits version index := by
  intro postcard written
  have room := small postcard written
  have padded := padWithLength_length_lt postcard
  rw [bucket] at padded
  rw [indexPlaintext]
  split
  · omega
  · rw [bucket]
    omega

omit [Crates] in
/-- A record whose region leaves room for a length, a bucket and a tag fits. -/
theorem RecordFits.of_length {record : EntryRecord} (small : record.region.length + 276 < 2 ^ 32) :
    RecordFits record := by
  have padded := padWithLength_length_lt record.region
  rw [bucket] at padded
  rw [RecordFits, EntryRecord.encodePadded, bucket]
  omega

/-- A successful sealing encrypts the plaintext of the serialized rows. -/
theorem sealIndex_ok {index : Index} {version : FormatVersion} {kMaster : MasterKey} {nonce : Nonce}
    {sealed : Bytes} (done : sealIndex index version kMaster nonce = .ok sealed) :
    ∃ postcard, Crates.rowsToBytes index = some postcard ∧
      encrypt (hkdfExpand kMaster indexInfo) nonce [version.val]
        (indexPlaintext version postcard) = .ok sealed := by
  rw [sealIndex] at done
  cases written : Crates.rowsToBytes index with
  | none => simp [written] at done
  | some postcard =>
    refine ⟨postcard, rfl, ?_⟩
    rw [written] at done
    cases encrypted : encrypt (hkdfExpand kMaster indexInfo) nonce [version.val]
        (indexPlaintext version postcard) with
    | error error => simp [encrypted, Except.mapError] at done
    | ok bytes => simpa [encrypted, Except.mapError] using done

/-- An index that fits is always sealed. -/
theorem sealIndex_total (aead : AeadLaws) (postcard : PostcardLaws) (index : Index)
    (version : FormatVersion) (kMaster : MasterKey) (nonce : Nonce)
    (fits : IndexFits version index) :
    ∃ sealed, sealIndex index version kMaster nonce = .ok sealed := by
  obtain ⟨bytes, written⟩ := postcard.writes index
  have small := fits bytes written
  obtain ⟨sealed, encrypted⟩ := encrypt_total aead (hkdfExpand kMaster indexInfo) nonce
    [version.val] (indexPlaintext version bytes) (by omega)
  exact ⟨sealed, by simp [sealIndex, written, encrypted, Except.mapError]⟩

/-- A sealed index that fits stays below the capacity of its length field. -/
theorem sealIndex_length (aead : AeadLaws) {index : Index} {version : FormatVersion}
    {kMaster : MasterKey} {nonce : Nonce} {sealed : Bytes} (fits : IndexFits version index)
    (done : sealIndex index version kMaster nonce = .ok sealed) : sealed.length < 2 ^ 32 := by
  obtain ⟨postcard, written, encrypted⟩ := sealIndex_ok done
  rw [encrypt_length aead encrypted]
  exact fits postcard written

/-- An index whose sealed form stays below the capacity of its length field fits. -/
theorem IndexFits.of_sealed (aead : AeadLaws) {index : Index} {version : FormatVersion}
    {kMaster : MasterKey} {nonce : Nonce} {sealed : Bytes}
    (done : sealIndex index version kMaster nonce = .ok sealed) (short : sealed.length < 2 ^ 32) :
    IndexFits version index := by
  obtain ⟨postcard, written, encrypted⟩ := sealIndex_ok done
  intro other same
  obtain rfl := Option.some.inj (written.symm.trans same)
  rw [← encrypt_length aead encrypted]
  exact short

/-- A vault that stores a sealed index decrypts it to the same rows. -/
theorem Vault.decryptIndex_of_sealIndex (aead : AeadLaws) (laws : PostcardLaws) (vault : Vault)
    {index : Index} {kMaster : MasterKey} (fits : IndexFits vault.version index)
    (done : sealIndex index vault.version kMaster vault.sealedIndexNonce =
      .ok vault.sealedIndexCt) : vault.decryptIndex kMaster = .ok index := by
  obtain ⟨postcard, written, encrypted⟩ := sealIndex_ok done
  rw [decryptIndex, decrypt_encrypt aead encrypted]
  simp only [Except.mapError, bind, Except.bind]
  rw [indexPostcard_indexPlaintext _ _ (fits postcard written)]
  simp only [laws.reads index postcard written]

/-- The length of the serialized rows can be announced: it fits the length prefix of the padded
plaintext, which the legacy version does not have. -/
def IndexReads (version : FormatVersion) (index : Index) : Prop :=
  ∀ postcard, Crates.rowsToBytes index = some postcard →
    version.val = formatVersionLegacyV1 ∨ postcard.length < 2 ^ 32

/-- A sealed index decrypts to the rows that were sealed, if their length can be announced; rows
whose length cannot be announced are not read at all. -/
theorem Vault.decryptIndex_sealed_iff (aead : AeadLaws) (laws : PostcardLaws) (strict : StrictLaws)
    (vault : Vault) {index : Index} {kMaster : MasterKey}
    (done : sealIndex index vault.version kMaster vault.sealedIndexNonce = .ok vault.sealedIndexCt)
    (rows : Index) :
    vault.decryptIndex kMaster = .ok rows ↔ rows = index ∧ IndexReads vault.version index := by
  obtain ⟨postcard, written, encrypted⟩ := sealIndex_ok done
  have reads : IndexReads vault.version index ↔
      vault.version.val = formatVersionLegacyV1 ∨ postcard.length < 2 ^ 32 := by
    constructor
    · exact fun reads => reads postcard written
    · intro short other same
      obtain rfl := Option.some.inj (written.symm.trans same)
      exact short
  have opened : vault.decryptIndex kMaster =
      (indexPostcard vault.version (indexPlaintext vault.version postcard) >>= fun postcard =>
        (Crates.rowsOfBytes postcard).elim
          (.error (.malformedRecord "sealed index is not valid postcard")) .ok) := by
    rw [decryptIndex, decrypt_encrypt aead encrypted]
    refine congrArg (indexPostcard _ _ >>= ·) (funext fun postcard => ?_)
    cases Crates.rowsOfBytes postcard with
    | none => rfl
    | some rows => rfl
  have whole (stripped : indexPostcard vault.version (indexPlaintext vault.version postcard) =
      .ok postcard) (short : vault.version.val = formatVersionLegacyV1 ∨ postcard.length < 2 ^ 32) :
      vault.decryptIndex kMaster = .ok rows ↔
        rows = index ∧ (vault.version.val = formatVersionLegacyV1 ∨ postcard.length < 2 ^ 32) := by
    rw [opened, stripped]
    simp only [bind, Except.bind, laws.reads index postcard written, Option.elim_some,
      Except.ok.injEq]
    exact ⟨fun same => ⟨same.symm, short⟩, fun same => same.1.symm⟩
  rw [reads]
  by_cases legacy : vault.version.val = formatVersionLegacyV1
  · refine whole ?_ (.inl legacy)
    rw [indexPostcard, indexPlaintext, if_pos legacy, if_pos legacy]
  · have stripped : indexPostcard vault.version (indexPlaintext vault.version postcard) =
        .ok (postcard.take (min postcard.length (2 ^ 32 - 1))) := by
      rw [indexPostcard, indexPlaintext, if_neg legacy, if_neg legacy]
      exact stripPadding_padWithLength_clamped _ _ bucket postcard
    by_cases short : postcard.length < 2 ^ 32
    · have all : min postcard.length (2 ^ 32 - 1) = postcard.length := by omega
      rw [all, List.take_length] at stripped
      exact whole stripped (.inr short)
    · have cut : min postcard.length (2 ^ 32 - 1) < postcard.length := by omega
      rw [opened, stripped]
      simp only [bind, Except.bind, strict.cut index postcard _ written cut, Option.elim_none]
      exact iff_of_false (fun clash => by cases clash) fun both => both.2.elim legacy short

/-- What a sealed index decrypts to are the rows that were sealed. -/
theorem Vault.decryptIndex_exact (aead : AeadLaws) (laws : PostcardLaws) (strict : StrictLaws)
    (vault : Vault) {index rows : Index} {kMaster : MasterKey}
    (done : sealIndex index vault.version kMaster vault.sealedIndexNonce = .ok vault.sealedIndexCt)
    (opened : vault.decryptIndex kMaster = .ok rows) : rows = index :=
  ((vault.decryptIndex_sealed_iff aead laws strict done rows).mp opened).1

omit [Crates] in
/-- The set check passes exactly when neither side repeats an identifier and both carry the same. -/
theorem Vault.checkIndexEnvelopeSets_ok_iff (vault : Vault) (index : Index) :
    vault.checkIndexEnvelopeSets index = .ok () ↔
      Keyed.Agree IndexEntry.id EntryEnvelope.id index vault.envelopes := by
  rw [Keyed.agree_iff_sorted EntryId.le EntryId.le_antisymm EntryId.le_trans EntryId.le_total]
  have lengths (same : Keyed.sortBy EntryId.le (index.map IndexEntry.id) =
      Keyed.sortBy EntryId.le (vault.envelopes.map EntryEnvelope.id)) :
      (index.map IndexEntry.id).length = (vault.envelopes.map EntryEnvelope.id).length := by
    have counted := congrArg List.length same
    rwa [Keyed.sortBy_length, Keyed.sortBy_length] at counted
  simp only [checkIndexEnvelopeSets]
  split
  · next differs =>
    constructor
    · intro clash
      cases clash
    · rintro ⟨_, _, same⟩
      exact absurd (lengths same) differs
  · split
    · next repeated => simp [repeated]
    · split
      · next repeated => simp [repeated]
      · next leftDistinct _ => split <;> simp_all

/-- Opening the index is decrypting it and passing the set check. -/
theorem Vault.openIndex_ok_iff (vault : Vault) (kMaster : MasterKey) (index : Index) :
    vault.openIndex kMaster = .ok index ↔ vault.decryptIndex kMaster = .ok index ∧
      Keyed.Agree IndexEntry.id EntryEnvelope.id index vault.envelopes := by
  rw [openIndex]
  cases vault.decryptIndex kMaster with
  | error error => simp [bind, Except.bind]
  | ok rows =>
    simp only [bind, Except.bind, pure, Except.pure, Except.ok.injEq]
    cases checked : vault.checkIndexEnvelopeSets rows with
    | error error =>
      constructor
      · intro clash
        cases clash
      · rintro ⟨rfl, agree⟩
        rw [(checkIndexEnvelopeSets_ok_iff vault rows).mpr agree] at checked
        cases checked
    | ok _ =>
      have agree := (checkIndexEnvelopeSets_ok_iff vault rows).mp checked
      constructor
      · intro same
        cases same
        exact ⟨rfl, agree⟩
      · rintro ⟨rfl, _⟩
        rfl

omit [Crates] in
/-- The set check fails in one way. -/
theorem Vault.checkIndexEnvelopeSets_error {vault : Vault} {index : Index} {error : VaultError}
    (failed : vault.checkIndexEnvelopeSets index = .error error) : error = .indexMismatch := by
  simp only [checkIndexEnvelopeSets] at failed
  split at failed
  · cases failed
    rfl
  · split at failed
    · cases failed
      rfl
    · split at failed
      · cases failed
        rfl
      · split at failed
        · cases failed
          rfl
        · cases failed

/-- The check of rows against envelopes is exact: whatever rows are decrypted and whatever envelopes
the file holds, in any order and with any repetitions, it passes exactly when neither list repeats
an identifier and both carry the same identifiers. The index opens exactly to decrypted rows that
pass the check, and decrypted rows that do not are refused as a mismatch. -/
theorem Vault.open_index_exact (vault : Vault) (kMaster : MasterKey) (rows : Index) :
    (vault.checkIndexEnvelopeSets rows = .ok () ↔
      (rows.map IndexEntry.id).Nodup ∧ (vault.envelopes.map EntryEnvelope.id).Nodup ∧
        ∀ id, id ∈ rows.map IndexEntry.id ↔ id ∈ vault.envelopes.map EntryEnvelope.id) ∧
    (vault.openIndex kMaster = .ok rows ↔
      vault.decryptIndex kMaster = .ok rows ∧ (rows.map IndexEntry.id).Nodup ∧
        (vault.envelopes.map EntryEnvelope.id).Nodup ∧
        ∀ id, id ∈ rows.map IndexEntry.id ↔ id ∈ vault.envelopes.map EntryEnvelope.id) ∧
    (vault.decryptIndex kMaster = .ok rows → vault.openIndex kMaster ≠ .ok rows →
      vault.openIndex kMaster = .error .indexMismatch) := by
  refine ⟨?_, ?_, fun decrypted refused => ?_⟩
  · rw [checkIndexEnvelopeSets_ok_iff]
    constructor
    · intro agree
      exact ⟨agree.leftDistinct, agree.rightDistinct, agree.same⟩
    · rintro ⟨rowsDistinct, envelopesDistinct, same⟩
      exact ⟨rowsDistinct, envelopesDistinct, same⟩
  · rw [openIndex_ok_iff]
    constructor
    · rintro ⟨decrypted, agree⟩
      exact ⟨decrypted, agree.leftDistinct, agree.rightDistinct, agree.same⟩
    · rintro ⟨decrypted, rowsDistinct, envelopesDistinct, same⟩
      exact ⟨decrypted, rowsDistinct, envelopesDistinct, same⟩
  · have opened : vault.openIndex kMaster =
        (vault.checkIndexEnvelopeSets rows >>= fun _ => .ok rows) := by
      rw [openIndex, decrypted]
      rfl
    rw [opened] at refused ⊢
    cases checked : vault.checkIndexEnvelopeSets rows with
    | ok _ =>
      rw [checked] at refused
      exact absurd rfl refused
    | error error =>
      rw [checkIndexEnvelopeSets_error checked]
      rfl

end Index

section Envelopes

variable [Crates]

/-- A successful encryption makes an envelope of the identifier around the sealed record. -/
theorem encryptEntry_ok {kMaster : MasterKey} {version : FormatVersion} {id : EntryId}
    {record : EntryRecord} {nonce : Nonce} {envelope : EntryEnvelope}
    (done : encryptEntry kMaster version id record nonce = .ok envelope) :
    envelope.id = id ∧ envelope.nonce = nonce ∧
      envelope.ctLen = UInt32.ofNat (min envelope.ciphertextAndTag.length (2 ^ 32 - 1)) ∧
      encrypt (hkdfExpand kMaster (entryInfo id)) nonce (entryAssociatedData version id)
        record.encodePadded = .ok envelope.ciphertextAndTag := by
  rw [encryptEntry] at done
  cases encrypted : encrypt (hkdfExpand kMaster (entryInfo id)) nonce
      (entryAssociatedData version id) record.encodePadded with
  | error error => simp [encrypted] at done
  | ok sealed =>
    rw [encrypted] at done
    obtain rfl := Except.ok.inj done
    exact ⟨rfl, rfl, rfl, rfl⟩

/-- A record that fits is always encrypted. -/
theorem encryptEntry_total (aead : AeadLaws) (kMaster : MasterKey) (version : FormatVersion)
    (id : EntryId) (record : EntryRecord) (nonce : Nonce) (fits : RecordFits record) :
    ∃ envelope, encryptEntry kMaster version id record nonce = .ok envelope := by
  have small : record.encodePadded.length < 2 ^ 32 := by
    rw [RecordFits] at fits
    omega
  obtain ⟨sealed, encrypted⟩ := encrypt_total aead (hkdfExpand kMaster (entryInfo id)) nonce
    (entryAssociatedData version id) record.encodePadded small
  exact ⟨_, by rw [encryptEntry, encrypted]⟩

/-- The stored length of a fitting record's envelope is its actual length. -/
theorem encryptEntry_ctLen (aead : AeadLaws) {kMaster : MasterKey} {version : FormatVersion}
    {id : EntryId} {record : EntryRecord} {nonce : Nonce} {envelope : EntryEnvelope}
    (fits : RecordFits record)
    (done : encryptEntry kMaster version id record nonce = .ok envelope) :
    envelope.ciphertextAndTag.length = envelope.ctLen.toNat := by
  obtain ⟨_, _, stored, encrypted⟩ := encryptEntry_ok done
  have small : envelope.ciphertextAndTag.length < 2 ^ 32 := by
    rw [encrypt_length aead encrypted]
    exact fits
  rw [stored, Nat.min_eq_left (by omega), UInt32.toNat_ofNat', Nat.mod_eq_of_lt small]

omit [Crates] in
/-- A record whose padded form fits has a region that fits. -/
theorem RecordFits.region {record : EntryRecord} (fits : RecordFits record) :
    record.region.length < 2 ^ 32 := by
  have covers := le_roundUp bucket (4 + record.region.length) (by decide)
  rw [RecordFits, EntryRecord.encodePadded, padWithLength_length _ _ (by decide)] at fits
  omega

/-- What a vault of a version makes of an envelope of an identifier. -/
def openEnvelope (kMaster : MasterKey) (version : FormatVersion) (id : EntryId)
    (envelope : EntryEnvelope) : Except VaultError EntryRecord := do
  let plaintext ← (decrypt (hkdfExpand kMaster (entryInfo id)) envelope.nonce
    (entryAssociatedData version id) envelope.ciphertextAndTag).mapError authFailure
  EntryRecord.decode plaintext

/-- Decrypting an entry is finding its envelope and opening it. -/
theorem Vault.decryptEntry_eq (vault : Vault) (kMaster : MasterKey) (id : EntryId) :
    vault.decryptEntry kMaster id =
      match vault.envelope? id with
      | none => .error .entryNotFound
      | some envelope => openEnvelope kMaster vault.version id envelope := rfl

/-- The envelope of a record whose region fits its length prefix opens to the record. -/
theorem openEnvelope_of_encryptEntry (aead : AeadLaws) {kMaster : MasterKey}
    {version : FormatVersion} {id : EntryId} {record : EntryRecord} {nonce : Nonce}
    {envelope : EntryEnvelope} (fits : record.region.length < 2 ^ 32)
    (done : encryptEntry kMaster version id record nonce = .ok envelope) :
    openEnvelope kMaster version id envelope = .ok record := by
  obtain ⟨_, rfl, _, encrypted⟩ := encryptEntry_ok done
  rw [openEnvelope, decrypt_encrypt aead encrypted]
  simp only [Except.mapError, bind, Except.bind]
  exact EntryRecord.decode_encodePadded record fits

/-- A record that was opened from an envelope of moderate length fits. -/
theorem RecordFits.of_opened (strict : StrictLaws) {kMaster : MasterKey} {version : FormatVersion}
    {id : EntryId} {record : EntryRecord} {envelope : EntryEnvelope}
    (opened : openEnvelope kMaster version id envelope = .ok record)
    (small : envelope.ciphertextAndTag.length + 260 < 2 ^ 32) : RecordFits record := by
  rw [openEnvelope] at opened
  cases decrypted : decrypt (hkdfExpand kMaster (entryInfo id)) envelope.nonce
      (entryAssociatedData version id) envelope.ciphertextAndTag with
  | error error =>
    rw [decrypted] at opened
    cases opened
  | ok plaintext =>
    rw [decrypted] at opened
    have region := EntryRecord.region_le_of_decode opened
    have longer := decrypt_length strict decrypted
    exact .of_length (by omega)

end Envelopes

section Creation

variable [Crates]

/-- The vault `create` builds from its inputs and the two ciphertexts it seals. -/
def Vault.fresh (kdfParams : KdfParams) (salt : Block 32) (kHsmBlob totpSeedBlob : HsmBlob)
    (metadata : VaultMetadata) (probeNonce indexNonce : Nonce) (probe : Block probeCtLen)
    (sealedIndex : Bytes) : Vault where
  version := .current
  kdfParams := kdfParams
  salt := salt
  probeNonce := probeNonce
  probeCt := probe
  kHsmWrapBlob := kHsmBlob
  totpSeedWrapBlob := totpSeedBlob
  rlCounter := 0
  rlLastFailure := 0
  metadata := metadata
  sealedIndexNonce := indexNonce
  sealedIndexCt := sealedIndex
  envelopes := []

omit [Crates] in
/-- A blob passes the length check exactly when it fits, unchanged. -/
theorem checkBlobLen_ok_iff {blob : Bytes} {which : String} {checked : HsmBlob} :
    checkBlobLen blob which = .ok checked ↔ checked.val = blob := by
  rw [checkBlobLen]
  split
  · simp [Subtype.ext_iff, eq_comm]
  · next long =>
    constructor
    · intro clash
      cases clash
    · rintro rfl
      exact absurd checked.property long

/-- A vault is created exactly from blobs that fit, an encrypted probe and a sealed empty index. -/
theorem Vault.create_ok_iff {kdfParams : KdfParams} {salt : Block 32}
    {kHsmWrapBlob totpSeedWrapBlob : Bytes} {metadata : VaultMetadata} {kMaster : MasterKey}
    {probeNonce indexNonce : Nonce} {vault : Vault} :
    create kdfParams salt kHsmWrapBlob totpSeedWrapBlob metadata kMaster probeNonce indexNonce =
      .ok vault ↔
    ∃ kHsmBlob totpSeedBlob probe sealedIndex, kHsmBlob.val = kHsmWrapBlob ∧
      totpSeedBlob.val = totpSeedWrapBlob ∧
      encrypt kMaster probeNonce (probeAssociatedData .current kdfParams salt) probePlaintext =
        .ok probe.val ∧
      sealIndex [] .current kMaster indexNonce = .ok sealedIndex ∧
      vault = fresh kdfParams salt kHsmBlob totpSeedBlob metadata probeNonce indexNonce probe
        sealedIndex := by
  constructor
  · intro made
    rw [create] at made
    cases first : checkBlobLen kHsmWrapBlob "k_hsm_wrap_blob" with
    | error error => simp [first, bind, Except.bind] at made
    | ok kHsmBlob =>
      cases second : checkBlobLen totpSeedWrapBlob "totp_seed_wrap_blob" with
      | error error => simp [first, second, bind, Except.bind] at made
      | ok totpSeedBlob =>
        cases encrypted : encrypt kMaster probeNonce (probeAssociatedData .current kdfParams salt)
            probePlaintext with
        | error error => simp [first, second, encrypted, bind, Except.bind, Except.mapError] at made
        | ok probe =>
          simp only [first, second, encrypted, bind, Except.bind, Except.mapError] at made
          split at made
          · next sized =>
            cases done : sealIndex [] .current kMaster indexNonce with
            | error error => simp [done] at made
            | ok sealedIndex =>
              simp only [done] at made
              exact ⟨kHsmBlob, totpSeedBlob, ⟨probe, sized⟩, sealedIndex,
                checkBlobLen_ok_iff.mp first, checkBlobLen_ok_iff.mp second, rfl, rfl,
                (Except.ok.inj made).symm⟩
          · cases made
  · rintro ⟨kHsmBlob, totpSeedBlob, probe, sealedIndex, first, second, encrypted, done, rfl⟩
    have firstOk : checkBlobLen kHsmWrapBlob "k_hsm_wrap_blob" = .ok kHsmBlob :=
      checkBlobLen_ok_iff.mpr first
    have secondOk : checkBlobLen totpSeedWrapBlob "totp_seed_wrap_blob" = .ok totpSeedBlob :=
      checkBlobLen_ok_iff.mpr second
    simp only [create, firstOk, secondOk, encrypted, done, bind, Except.bind, Except.mapError]
    rw [dif_pos probe.property]
    rfl

/-- A created vault whose empty index fits can be written. -/
theorem Vault.wellFormed_of_create (aead : AeadLaws) (fits : IndexFits .current [])
    {kdfParams : KdfParams} {salt : Block 32} {kHsmWrapBlob totpSeedWrapBlob : Bytes}
    {metadata : VaultMetadata} {kMaster : MasterKey} {probeNonce indexNonce : Nonce} {vault : Vault}
    (made : create kdfParams salt kHsmWrapBlob totpSeedWrapBlob metadata kMaster probeNonce
      indexNonce = .ok vault) : vault.WellFormed := by
  obtain ⟨_, _, _, sealedIndex, _, _, _, done, rfl⟩ := create_ok_iff.mp made
  refine ⟨sealIndex_length aead fits done, Nat.two_pow_pos 32, ?_⟩
  intro envelope member
  cases member

/-- Creation succeeds for blobs that fit when the empty index fits. -/
theorem Vault.create_total (aead : AeadLaws) (laws : PostcardLaws) (kdfParams : KdfParams)
    (salt : Block 32) (kHsmBlob totpSeedBlob : HsmBlob) (metadata : VaultMetadata)
    (kMaster : MasterKey) (probeNonce indexNonce : Nonce) (fits : IndexFits .current []) :
    ∃ vault, create kdfParams salt kHsmBlob.val totpSeedBlob.val metadata kMaster probeNonce
      indexNonce = .ok vault := by
  have short : probePlaintext.length = 16 := by decide
  obtain ⟨probe, encrypted⟩ := encrypt_total aead kMaster probeNonce
    (probeAssociatedData .current kdfParams salt) probePlaintext (by omega)
  obtain ⟨sealedIndex, done⟩ := sealIndex_total aead laws [] .current kMaster indexNonce fits
  have sized : probe.length = probeCtLen := by
    rw [encrypt_length aead encrypted, short]
    rfl
  exact ⟨_, create_ok_iff.mpr ⟨kHsmBlob, totpSeedBlob, ⟨probe, sized⟩, sealedIndex, rfl, rfl,
    encrypted, done, rfl⟩⟩

end Creation

section Mutations

variable [Crates]

/-- A successful re-sealing stores the new index and changes nothing else. -/
theorem Vault.resealIndex_ok {index : Index} {kMaster : MasterKey} {nonce : Nonce}
    {before after : Vault} (ran : resealIndex index kMaster nonce before = (.ok (), after)) :
    ∃ sealed, sealIndex index before.version kMaster nonce = .ok sealed ∧
      after = { before with sealedIndexNonce := nonce, sealedIndexCt := sealed } := by
  rw [resealIndex, Op.get_bind_run] at ran
  obtain ⟨sealed, done, changed⟩ := Op.lift_bind_ok ran
  exact ⟨sealed, done, (Prod.mk.inj changed).2.symm⟩

/-- A successful insertion stores a fresh envelope and the index with the new row, and changes
nothing else. -/
theorem Vault.addOrUpdateEntry_ok {kMaster : MasterKey} {id : EntryId} {label : String}
    {policy : EntryPolicy} {record : EntryRecord} {entryNonce indexNonce : Nonce}
    {before after : Vault} (ran : addOrUpdateEntry kMaster id label policy record entryNonce
      indexNonce before = (.ok (), after)) :
    ∃ envelope index sealed, encryptEntry kMaster before.version id record entryNonce =
        .ok envelope ∧ before.decryptIndex kMaster = .ok index ∧
      sealIndex (Index.upsert index ⟨id, label, policy⟩) before.version kMaster indexNonce =
        .ok sealed ∧
      after = { before with
        envelopes := Keyed.upsert EntryEnvelope.id envelope before.envelopes
        sealedIndexNonce := indexNonce
        sealedIndexCt := sealed } := by
  rw [addOrUpdateEntry, Op.get_bind_run] at ran
  obtain ⟨envelope, made, ran⟩ := Op.lift_bind_ok ran
  rw [Op.modify_bind_run, Op.get_bind_run] at ran
  obtain ⟨index, opened, ran⟩ := Op.lift_bind_ok ran
  obtain ⟨sealed, done, rfl⟩ := resealIndex_ok ran
  exact ⟨envelope, index, sealed, made, opened, done, rfl⟩

/-- An insertion whose three sealing steps succeed stores their results. -/
theorem Vault.addOrUpdateEntry_run {kMaster : MasterKey} {id : EntryId} {label : String}
    {policy : EntryPolicy} {record : EntryRecord} {entryNonce indexNonce : Nonce} {before : Vault}
    {envelope : EntryEnvelope} {index : Index} {sealed : Bytes}
    (made : encryptEntry kMaster before.version id record entryNonce = .ok envelope)
    (opened : before.decryptIndex kMaster = .ok index)
    (done : sealIndex (Index.upsert index ⟨id, label, policy⟩) before.version kMaster indexNonce =
      .ok sealed) :
    addOrUpdateEntry kMaster id label policy record entryNonce indexNonce before =
      (.ok (), { before with
        envelopes := Keyed.upsert EntryEnvelope.id envelope before.envelopes
        sealedIndexNonce := indexNonce
        sealedIndexCt := sealed }) := by
  rw [addOrUpdateEntry, Op.get_bind_run, Op.lift_bind_run, made]
  change (Op.lift (before.decryptIndex kMaster) >>= _) _ = _
  rw [Op.lift_bind_run, opened]
  change resealIndex _ _ _ _ = _
  rw [resealIndex, Op.get_bind_run, Op.lift_bind_run, done]
  rfl

/-- A successful removal found the entry, drops its envelope and its row, and changes nothing
else. -/
theorem Vault.removeEntry_ok {kMaster : MasterKey} {id : EntryId} {indexNonce : Nonce}
    {before after : Vault} (ran : removeEntry kMaster id indexNonce before = (.ok (), after)) :
    id ∈ before.envelopes.map EntryEnvelope.id ∧
    ∃ index sealed, before.decryptIndex kMaster = .ok index ∧
      sealIndex (Index.remove index id) before.version kMaster indexNonce = .ok sealed ∧
      after = { before with
        envelopes := Keyed.remove EntryEnvelope.id id before.envelopes
        sealedIndexNonce := indexNonce
        sealedIndexCt := sealed } := by
  rw [removeEntry, Op.get_bind_run, Op.modify_bind_run, Op.get_bind_run] at ran
  split at ran
  · cases ran
  · next shorter =>
    obtain ⟨index, opened, ran⟩ := Op.lift_bind_ok ran
    obtain ⟨sealed, done, rfl⟩ := resealIndex_ok ran
    refine ⟨?_, index, sealed, opened, done, rfl⟩
    exact Classical.byContradiction fun absent =>
      shorter ((Keyed.remove_length_eq EntryEnvelope.id).mpr absent)

/-- A removal whose sealing succeeds stores its result. -/
theorem Vault.removeEntry_run {kMaster : MasterKey} {id : EntryId} {indexNonce : Nonce}
    {before : Vault} {index : Index} {sealed : Bytes}
    (present : id ∈ before.envelopes.map EntryEnvelope.id)
    (opened : before.decryptIndex kMaster = .ok index)
    (done : sealIndex (Index.remove index id) before.version kMaster indexNonce = .ok sealed) :
    removeEntry kMaster id indexNonce before = (.ok (), { before with
      envelopes := Keyed.remove EntryEnvelope.id id before.envelopes
      sealedIndexNonce := indexNonce
      sealedIndexCt := sealed }) := by
  have shorter : ¬ (Keyed.remove EntryEnvelope.id id before.envelopes).length =
      before.envelopes.length := fun same =>
    (Keyed.remove_length_eq EntryEnvelope.id).mp same present
  rw [removeEntry, Op.get_bind_run, Op.modify_bind_run, Op.get_bind_run, if_neg shorter]
  change (Op.lift (before.decryptIndex kMaster) >>= _) _ = _
  rw [Op.lift_bind_run, opened]
  change resealIndex _ _ _ _ = _
  rw [resealIndex, Op.get_bind_run, Op.lift_bind_run, done]
  rfl

/-- Removing an absent entry fails and leaves the vault as it was. -/
theorem Vault.removeEntry_absent (kMaster : MasterKey) {id : EntryId} (indexNonce : Nonce)
    {before : Vault} (absent : id ∉ before.envelopes.map EntryEnvelope.id) :
    removeEntry kMaster id indexNonce before = (.error .entryNotFound, before) := by
  have unchanged : Keyed.remove EntryEnvelope.id id before.envelopes = before.envelopes := by
    refine List.filter_eq_self.mpr fun envelope member => ?_
    exact decide_eq_true fun same => absent (same ▸ List.mem_map_of_mem member)
  rw [removeEntry, Op.get_bind_run, Op.modify_bind_run, Op.get_bind_run,
    if_pos (congrArg List.length unchanged), unchanged]
  rfl

end Mutations

end Passman
