import Passman.Crypto.Cipher
import Passman.Lib.Op
import Passman.Vault.Record

/-!
# The vault container

A vault holds a plaintext header, a sealed index and one sealed envelope per
entry. Every mutation changes an envelope first and then re-seals the index under
the vault's own format version; the version selects the encoding of the index
plaintext and is bound into all associated data.
-/
namespace Passman

open Bytewise Fallible

/-- The format version this build produces. -/
def formatVersion : UInt8 := 0x02

/-- The previous format version, still accepted. -/
def formatVersionLegacyV1 : UInt8 := 0x01

/-- A format version this build reads. -/
abbrev FormatVersion := { byte : UInt8 // byte = formatVersion ∨ byte = formatVersionLegacyV1 }

/-- The version of newly created vaults. -/
def FormatVersion.current : FormatVersion := ⟨formatVersion, .inl rfl⟩

/-- The identifier of Argon2id, the only key derivation. -/
def kdfAlgorithmArgon2id : UInt8 := 0x00

/-- The fixed plaintext of the probe. -/
def probePlaintext : Bytes := utf8 "PASSMAN_VAULT_v0"

/-- The domain-separation tag of the probe's associated data. -/
def probeAdTag : Bytes := utf8 "probe-v0"

/-- Length of the encrypted probe. -/
def probeCtLen : Nat := 32

/-- The longest hardware wrap blob the format can encode. -/
def maxHsmBlobLen : Nat := 65535

/-- A hardware wrap blob that fits its length field. -/
abbrev HsmBlob := { bytes : Bytes // bytes.length ≤ maxHsmBlobLen }

/-- Plaintext vault metadata. -/
structure VaultMetadata where
  /-- Unix seconds of the last master-password change. -/
  lastPasswordChange : Int64
  /-- Unix seconds of the last recovery export. -/
  lastExportAt : Option Int64
  deriving DecidableEq

/-- Metadata of a fresh vault. -/
def VaultMetadata.new (lastPasswordChange : Int64) : VaultMetadata := ⟨lastPasswordChange, none⟩

/-- One sealed entry. -/
structure EntryEnvelope where
  /-- The entry the envelope holds. -/
  id : EntryId
  /-- The nonce of this encryption. -/
  nonce : Nonce
  /-- The stored length of the body. -/
  ctLen : UInt32
  /-- The ciphertext with its tag. -/
  ciphertextAndTag : Bytes
  deriving DecidableEq

/-- A parsed vault. -/
structure Vault where
  /-- The format version. -/
  version : FormatVersion
  /-- The key-derivation parameters. -/
  kdfParams : KdfParams
  /-- The key-derivation salt. -/
  salt : Block 32
  /-- The probe nonce. -/
  probeNonce : Nonce
  /-- The encrypted probe. -/
  probeCt : Block probeCtLen
  /-- The wrap blob of the vault key. -/
  kHsmWrapBlob : HsmBlob
  /-- The wrap blob of the TOTP seed. -/
  totpSeedWrapBlob : HsmBlob
  /-- The advisory failure counter. -/
  rlCounter : UInt64
  /-- The advisory time of the last failure; zero when there is none. -/
  rlLastFailure : Int64
  /-- The plaintext metadata. -/
  metadata : VaultMetadata
  /-- The nonce of the sealed index. -/
  sealedIndexNonce : Nonce
  /-- The sealed index. -/
  sealedIndexCt : Bytes
  /-- The sealed entries in stored order. -/
  envelopes : List EntryEnvelope
  deriving DecidableEq

/-- Associated data of the probe: version, key-derivation identifier and parameters, salt, tag. -/
def probeAssociatedData (version : FormatVersion) (kdfParams : KdfParams) (salt : Block 32) :
    Bytes :=
  [version.val, kdfAlgorithmArgon2id] ++ kdfParams.toBytes ++ salt.val ++ probeAdTag

/-- Associated data of an entry: version and identifier. -/
def entryAssociatedData (version : FormatVersion) (id : EntryId) : Bytes :=
  version.val :: id.bytes.val

/-- Fold a too-short ciphertext into an authentication failure. -/
def authFailure : CryptoError → VaultError
  | .invalidLength _ _ _ => .crypto .aeadAuth
  | other => .crypto other

/-- Refuse a wrap blob that its length field could not hold. -/
def checkBlobLen (blob : Bytes) (which : String) : Except VaultError HsmBlob :=
  if fits : blob.length ≤ maxHsmBlobLen then .ok ⟨blob, fits⟩ else .error (.blobTooLarge which)

/-- The index plaintext of a version: raw rows before, bucket-padded rows now. -/
def indexPlaintext (version : FormatVersion) (postcard : Bytes) : Bytes :=
  if version.val = formatVersionLegacyV1 then postcard else padWithLength bucket postcard

/-- The serialized rows inside an index plaintext. -/
def indexPostcard (version : FormatVersion) (plaintext : Bytes) : Except VaultError Bytes :=
  if version.val = formatVersionLegacyV1 then .ok plaintext
  else
    stripPadding (.malformedRecord "sealed index missing true-length prefix")
      (.malformedRecord "sealed index length exceeds plaintext") plaintext

section Sealing

variable [Crates]

/-- Seal an index under a version and a nonce. -/
def sealIndex (index : Index) (version : FormatVersion) (kMaster : MasterKey) (nonce : Nonce) :
    Except VaultError Bytes :=
  match Crates.rowsToBytes index with
  | none => .error (.malformedRecord "failed to serialize sealed index")
  | some postcard =>
    (encrypt (hkdfExpand kMaster indexInfo) nonce [version.val]
      (indexPlaintext version postcard)).mapError .crypto

/-- Seal a record into the envelope of an identifier. -/
def encryptEntry (kMaster : MasterKey) (version : FormatVersion) (id : EntryId)
    (record : EntryRecord) (nonce : Nonce) : Except VaultError EntryEnvelope :=
  match encrypt (hkdfExpand kMaster (entryInfo id)) nonce (entryAssociatedData version id)
      record.encodePadded with
  | .ok sealed => .ok ⟨id, nonce, UInt32.ofNat (min sealed.length (2 ^ 32 - 1)), sealed⟩
  | .error error => .error (.crypto error)

namespace Vault

/-- A fresh, empty vault whose probe and index are sealed under the master key. -/
def create (kdfParams : KdfParams) (salt : Block 32) (kHsmWrapBlob totpSeedWrapBlob : Bytes)
    (metadata : VaultMetadata) (kMaster : MasterKey) (probeNonce indexNonce : Nonce) :
    Except VaultError Vault := do
  let kHsmBlob ← checkBlobLen kHsmWrapBlob "k_hsm_wrap_blob"
  let totpSeedBlob ← checkBlobLen totpSeedWrapBlob "totp_seed_wrap_blob"
  let probe ← (encrypt kMaster probeNonce (probeAssociatedData .current kdfParams salt)
    probePlaintext).mapError .crypto
  if sized : probe.length = probeCtLen then
    let sealedIndex ← sealIndex [] .current kMaster indexNonce
    return {
      version := .current
      kdfParams
      salt
      probeNonce
      probeCt := ⟨probe, sized⟩
      kHsmWrapBlob := kHsmBlob
      totpSeedWrapBlob := totpSeedBlob
      rlCounter := 0
      rlLastFailure := 0
      metadata
      sealedIndexNonce := indexNonce
      sealedIndexCt := sealedIndex
      envelopes := [] }
  else .error (.malformedRecord "probe ciphertext was not 32 bytes")

/-- Verify the probe under a master key. -/
def verifyProbe (vault : Vault) (kMaster : MasterKey) : Except VaultError Unit := do
  let recovered ← (decrypt kMaster vault.probeNonce
    (probeAssociatedData vault.version vault.kdfParams vault.salt) vault.probeCt.val).mapError
      authFailure
  if recovered = probePlaintext then .ok () else .error (.crypto .aeadAuth)

/-- Decrypt the sealed index without the envelope check. -/
def decryptIndex (vault : Vault) (kMaster : MasterKey) : Except VaultError Index := do
  let plaintext ← (decrypt (hkdfExpand kMaster indexInfo) vault.sealedIndexNonce
    [vault.version.val] vault.sealedIndexCt).mapError authFailure
  let postcard ← indexPostcard vault.version plaintext
  match Crates.rowsOfBytes postcard with
  | some rows => .ok rows
  | none => .error (.malformedRecord "sealed index is not valid postcard")

omit [Crates] in
/-- Enforce that the index identifiers are exactly the envelope identifiers, by sorting. -/
def checkIndexEnvelopeSets (vault : Vault) (index : Index) : Except VaultError Unit :=
  let indexIds := index.map IndexEntry.id
  let envIds := vault.envelopes.map EntryEnvelope.id
  if indexIds.length ≠ envIds.length then .error .indexMismatch
  else if Keyed.hasEqualNeighbours (Keyed.sortBy EntryId.le indexIds) then .error .indexMismatch
  else if Keyed.hasEqualNeighbours (Keyed.sortBy EntryId.le envIds) then .error .indexMismatch
  else if Keyed.sortBy EntryId.le indexIds ≠ Keyed.sortBy EntryId.le envIds then
    .error .indexMismatch
  else .ok ()

/-- Decrypt the sealed index and check it against the envelopes. -/
def openIndex (vault : Vault) (kMaster : MasterKey) : Except VaultError Index := do
  let index ← vault.decryptIndex kMaster
  vault.checkIndexEnvelopeSets index
  return index

/-- The envelope of an identifier. -/
def envelope? (vault : Vault) (id : EntryId) : Option EntryEnvelope :=
  Keyed.lookup EntryEnvelope.id id vault.envelopes

/-- Decrypt the entry of an identifier. -/
def decryptEntry (vault : Vault) (kMaster : MasterKey) (id : EntryId) :
    Except VaultError EntryRecord :=
  match vault.envelope? id with
  | none => .error .entryNotFound
  | some envelope => do
    let plaintext ← (decrypt (hkdfExpand kMaster (entryInfo id)) envelope.nonce
      (entryAssociatedData vault.version id) envelope.ciphertextAndTag).mapError authFailure
    EntryRecord.decode plaintext

/-- Re-seal the index under the vault's own version. -/
def resealIndex (index : Index) (kMaster : MasterKey) (nonce : Nonce) : Op Vault VaultError Unit :=
  do
    let vault ← Op.get
    let sealedIndex ← Op.lift (sealIndex index vault.version kMaster nonce)
    Op.modify fun vault =>
      { vault with sealedIndexNonce := nonce, sealedIndexCt := sealedIndex }

/-- Insert an entry, or update the entry with the same identifier. -/
def addOrUpdateEntry (kMaster : MasterKey) (id : EntryId) (label : String) (policy : EntryPolicy)
    (record : EntryRecord) (entryNonce indexNonce : Nonce) : Op Vault VaultError Unit := do
  let vault ← Op.get
  let envelope ← Op.lift (encryptEntry kMaster vault.version id record entryNonce)
  Op.modify fun vault =>
    { vault with envelopes := Keyed.upsert EntryEnvelope.id envelope vault.envelopes }
  let vault ← Op.get
  let index ← Op.lift (vault.decryptIndex kMaster)
  resealIndex (Index.upsert index ⟨id, label, policy⟩) kMaster indexNonce

/-- Remove the entry of an identifier. -/
def removeEntry (kMaster : MasterKey) (id : EntryId) (indexNonce : Nonce) :
    Op Vault VaultError Unit := do
  let vault ← Op.get
  let before := vault.envelopes.length
  Op.modify fun vault =>
    { vault with envelopes := Keyed.remove EntryEnvelope.id id vault.envelopes }
  let vault ← Op.get
  if vault.envelopes.length = before then Op.fail .entryNotFound
  let index ← Op.lift (vault.decryptIndex kMaster)
  resealIndex (Index.remove index id) kMaster indexNonce

end Vault

end Sealing

namespace Vault

/-- Replace the plaintext metadata. -/
def setMetadata (vault : Vault) (metadata : VaultMetadata) : Vault := { vault with metadata }

/-- Set the advisory rate-limit fields. -/
def setRateLimit (vault : Vault) (counter : UInt64) (lastFailure : Int64) : Vault :=
  { vault with rlCounter := counter, rlLastFailure := lastFailure }

/-- Replace both wrap blobs, after checking both. -/
def setHsmBlobs (kHsmWrapBlob totpSeedWrapBlob : Bytes) : Op Vault VaultError Unit := do
  let kHsmBlob ← Op.lift (checkBlobLen kHsmWrapBlob "k_hsm_wrap_blob")
  let totpSeedBlob ← Op.lift (checkBlobLen totpSeedWrapBlob "totp_seed_wrap_blob")
  Op.modify fun vault =>
    { vault with kHsmWrapBlob := kHsmBlob, totpSeedWrapBlob := totpSeedBlob }

end Vault

end Passman
