import Passman.Lib.Metered
import Passman.Vault.Format

/-!
# The vault parser over a raw cursor

The parser of a vault as it runs: over a cursor that could underflow and slice out of range, with
its copies and its entry loop counted. It tracks the bounds-checked parser, whatever the lengths
and the entry count in the input say.
-/
namespace Passman

open Bytewise

namespace RawVault

/-- Read the version byte and refuse unknown versions. -/
def readVersion : Raw VaultError FormatVersion := do
  let byte ← Raw.readByte "format_version"
  if known : byte = formatVersion ∨ byte = formatVersionLegacyV1 then return ⟨byte, known⟩
  else Raw.refuse (.unsupportedVersion byte formatVersion)

/-- Read the key-derivation identifier and refuse all but Argon2id. -/
def readKdfAlgorithm : Raw VaultError Unit := do
  let byte ← Raw.readByte "kdf_algorithm_id"
  if byte = kdfAlgorithmArgon2id then return () else Raw.refuse (.unsupportedKdfAlgorithm byte)

/-- Read a wrap blob behind its two-byte length. -/
def readBlob (field : String) : Raw VaultError HsmBlob := do
  let length ← Raw.readLe UInt16 field
  let body ← Raw.takeOwned (LeWord.toNat length) field
  return ⟨body.val, blob_fits body⟩

/-- Read the metadata. -/
def readMetadata : Raw VaultError VaultMetadata := do
  let lastPasswordChange ← Raw.readLe Int64 "meta.last_password_change"
  let exportPresent ← Raw.readByte "meta.last_export_present"
  let lastExportRaw ← Raw.readLe Int64 "meta.last_export_at"
  if exportPresent = 0x00 then return ⟨lastPasswordChange, none⟩
  else if exportPresent = 0x01 then return ⟨lastPasswordChange, some lastExportRaw⟩
  else Raw.refuse (.invalidFlag "meta.last_export_present" exportPresent)

/-- Read one envelope. -/
def readEnvelope : Raw VaultError EntryEnvelope := do
  let id ← Raw.takeOwned entryIdLen "entry.id"
  let nonce ← Raw.takeOwned 24 "entry.nonce"
  let ctLen ← Raw.readLe UInt32 "entry.ct_len"
  let body ← Raw.takeOwned (LeWord.toNat ctLen) "entry.ciphertext"
  return ⟨⟨id⟩, nonce, ctLen, body.val⟩

/-- Read a whole vault. -/
def readVault : Raw VaultError Vault := do
  let version ← readVersion
  readKdfAlgorithm
  let kdfBytes ← Raw.takeOwned kdfParamsLen "kdf_params"
  let salt ← Raw.takeOwned 32 "vault_salt"
  let probeNonce ← Raw.takeOwned 24 "probe_nonce"
  let probeCt ← Raw.takeOwned probeCtLen "probe_ct"
  let kHsmWrapBlob ← readBlob "k_hsm_wrap_blob"
  let totpSeedWrapBlob ← readBlob "totp_seed_wrap_blob"
  let rlCounter ← Raw.readLe UInt64 "rl_counter"
  let rlLastFailure ← Raw.readLe Int64 "rl_last_failure"
  let metadata ← readMetadata
  let sealedIndexNonce ← Raw.takeOwned 24 "sealed_index_nonce"
  let sealedIndexCt ← Raw.readPrefixed UInt32 "sealed_index_ct"
  let entriesCount ← Raw.readLe UInt32 "entries_count"
  let envelopes ← Raw.loop readEnvelope (LeWord.toNat entriesCount)
  return {
    version
    kdfParams := .fromBytes kdfBytes
    salt
    probeNonce
    probeCt
    kHsmWrapBlob
    totpSeedWrapBlob
    rlCounter
    rlLastFailure
    metadata
    sealedIndexNonce
    sealedIndexCt
    envelopes }

/-- Parse a vault; trailing bytes are refused. -/
def fromBytes (bytes : Bytes) : Except (Fault VaultError) Vault × Cursor :=
  Raw.parseAll readVault bytes

/-- The least number of bytes an envelope takes: its identifier, its nonce and its length. -/
def envelopeStride : Nat := 44

section Tracks

variable {stride slack : Nat}

/-- The version is read as by the bounds-checked parser. -/
theorem tracks_readVersion : Raw.Tracks stride 0 slack readVersion Passman.readVersion := by
  refine Raw.tracks_seq (Raw.tracks_readByte _ (Nat.zero_le _)) fun byte => ?_
  by_cases known : byte = formatVersion ∨ byte = formatVersionLegacyV1
  · rw [dif_pos known, dif_pos known]
    exact Raw.tracks_pure _
  · rw [dif_neg known, dif_neg known]
    exact Raw.tracks_refuse 0 _

/-- The key-derivation identifier is read as by the bounds-checked parser. -/
theorem tracks_readKdfAlgorithm :
    Raw.Tracks stride 0 slack readKdfAlgorithm Passman.readKdfAlgorithm := by
  refine Raw.tracks_seq (Raw.tracks_readByte _ (Nat.zero_le _)) fun byte => ?_
  by_cases known : byte = kdfAlgorithmArgon2id
  · rw [if_pos known, if_pos known]
    exact Raw.tracks_pure _
  · rw [if_neg known, if_neg known]
    exact Raw.tracks_refuse 0 _

/-- A wrap blob is read as by the bounds-checked parser. -/
theorem tracks_readBlob (field : String) :
    Raw.Tracks stride 0 slack (readBlob field) (Passman.readBlob field) :=
  Raw.tracks_seq (Raw.tracks_readLe UInt16 field (Nat.zero_le _)) fun _ =>
    Raw.tracks_seq (Raw.tracks_takeOwned field (Nat.zero_le _)) fun _ => Raw.tracks_pure _

/-- The metadata are read as by the bounds-checked parser. -/
theorem tracks_readMetadata : Raw.Tracks stride 0 slack readMetadata Passman.readMetadata := by
  refine Raw.tracks_seq (Raw.tracks_readLe Int64 _ (Nat.zero_le _)) fun change =>
    Raw.tracks_seq (Raw.tracks_readByte _ (Nat.zero_le _)) fun flag =>
    Raw.tracks_seq (Raw.tracks_readLe Int64 _ (Nat.zero_le _)) fun time => ?_
  by_cases absent : flag = 0x00
  · rw [if_pos absent, if_pos absent]
    exact Raw.tracks_pure _
  · rw [if_neg absent, if_neg absent]
    by_cases present : flag = 0x01
    · rw [if_pos present, if_pos present]
      exact Raw.tracks_pure _
    · rw [if_neg present, if_neg present]
      exact Raw.tracks_refuse 0 _

/-- An envelope is read as by the bounds-checked parser, and takes a stride. -/
theorem tracks_readEnvelope :
    Raw.Tracks stride envelopeStride slack readEnvelope Passman.readEnvelope :=
  Raw.tracks_bind (Raw.tracks_takeOwned "entry.id" (Nat.le_refl 16)) fun _ =>
    Raw.tracks_bind (Raw.tracks_takeOwned "entry.nonce" (Nat.le_refl 24)) fun _ =>
    Raw.tracks_bind (Raw.tracks_readLe UInt32 "entry.ct_len" (Nat.le_refl 4)) fun _ =>
    Raw.tracks_bind (Raw.tracks_takeOwned "entry.ciphertext" (Nat.zero_le _)) fun _ =>
      Raw.tracks_pure _

/-- A vault is read as by the bounds-checked parser. -/
theorem tracks_readVault :
    Raw.Tracks envelopeStride 0 envelopeStride readVault Passman.readVault :=
  Raw.tracks_seq tracks_readVersion fun _ =>
    Raw.tracks_seq tracks_readKdfAlgorithm fun _ =>
    Raw.tracks_seq (Raw.tracks_takeOwned _ (Nat.zero_le _)) fun _ =>
    Raw.tracks_seq (Raw.tracks_takeOwned _ (Nat.zero_le _)) fun _ =>
    Raw.tracks_seq (Raw.tracks_takeOwned _ (Nat.zero_le _)) fun _ =>
    Raw.tracks_seq (Raw.tracks_takeOwned _ (Nat.zero_le _)) fun _ =>
    Raw.tracks_seq (tracks_readBlob _) fun _ =>
    Raw.tracks_seq (tracks_readBlob _) fun _ =>
    Raw.tracks_seq (Raw.tracks_readLe UInt64 _ (Nat.zero_le _)) fun _ =>
    Raw.tracks_seq (Raw.tracks_readLe Int64 _ (Nat.zero_le _)) fun _ =>
    Raw.tracks_seq tracks_readMetadata fun _ =>
    Raw.tracks_seq (Raw.tracks_takeOwned _ (Nat.zero_le _)) fun _ =>
    Raw.tracks_seq (Raw.tracks_readPrefixed UInt32 _ (Nat.zero_le _)) fun _ =>
    Raw.tracks_seq (Raw.tracks_readLe UInt32 _ (Nat.zero_le _)) fun _ =>
    Raw.tracks_seq (Raw.tracks_loop (Nat.le_refl _) tracks_readEnvelope _) fun _ =>
      Raw.tracks_pure _

end Tracks

/-- Parsing any bytes as a vault is bounded by their length. -/
theorem fromBytes_bounded (bytes : Bytes) :
    Raw.Bounded envelopeStride bytes (Vault.fromBytes bytes) (fromBytes bytes) :=
  Raw.parseAll_bounded (by decide) tracks_readVault bytes

end RawVault

end Passman
