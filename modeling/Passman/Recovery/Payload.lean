import Passman.Crypto.Params
import Passman.Lib.Reader

/-!
# The recovery payload

The plaintext of a recovery file: the TOTP seed, the parameters of the vault it was
exported from, and every entry with its policy in serialized form. Every text and
every policy stands behind its length.
-/
namespace Passman

open Bytewise

/-- Failures of recovery export and import. -/
inductive RecoveryError where
  /-- The input ended inside a field. -/
  | truncated (field : String) (offset : Nat)
  /-- Bytes remained after the last field. -/
  | trailingBytes (extra : Nat)
  /-- The file does not start with the magic. -/
  | badMagic
  /-- The format version is unknown. -/
  | unsupportedVersion (got expected : UInt8)
  /-- The key-derivation identifier is unknown. -/
  | unsupportedKdfAlgorithm (got : UInt8)
  /-- Export parameters are below the floor. -/
  | weakParams (gotM gotT : UInt32) (gotP : UInt8) (floorM floorT : UInt32) (floorP : UInt8)
  /-- Header parameters are outside the limits. -/
  | kdfParamsOutOfRange (mKib t : UInt32) (p : UInt8)
  /-- The payload does not authenticate. -/
  | decrypt
  /-- The payload does not decode. -/
  | malformedPayload (reason : String)
  /-- A cryptographic operation failed. -/
  | crypto (error : CryptoError)
  deriving DecidableEq

instance : ReadError RecoveryError where
  truncated := .truncated
  trailing := .trailingBytes

/-- The version byte of payloads. -/
def payloadVersion : UInt8 := 0x01

/-- One exported entry. -/
structure RecoveryEntry where
  /-- The entry identifier. -/
  id : Block 16
  /-- The label. -/
  label : String
  /-- The username. -/
  username : String
  /-- The password. -/
  password : String
  /-- The address. -/
  url : String
  /-- The notes. -/
  notes : String
  /-- The serialized policy. -/
  policy : Bytes
  deriving DecidableEq

/-- Everything a recovery file carries. -/
structure ExportPayload where
  /-- The TOTP seed. -/
  totpSeed : Block 32
  /-- The parameters of the exported vault. -/
  originalVaultKdf : KdfParams
  /-- The entries in index order. -/
  entries : List RecoveryEntry
  deriving DecidableEq

/-- The bytes of one entry. -/
def RecoveryEntry.toBytes (entry : RecoveryEntry) : Bytes :=
  entry.id.val ++ prefixed UInt32 (utf8 entry.label) ++ prefixed UInt32 (utf8 entry.username) ++
    prefixed UInt32 (utf8 entry.password) ++ prefixed UInt32 (utf8 entry.url) ++
    prefixed UInt32 (utf8 entry.notes) ++ prefixed UInt32 entry.policy

/-- The bytes of a payload. -/
def encodePayload (payload : ExportPayload) : Bytes :=
  [payloadVersion] ++ payload.totpSeed.val ++ payload.originalVaultKdf.toBytes ++
    lePrefix UInt32 payload.entries.length ++ payload.entries.flatMap RecoveryEntry.toBytes

/-- Read a text; an ill-formed one is reported with the given reason. -/
def readText (field reason : String) : Parser RecoveryError String := do
  let body ← readPrefixed UInt32 field
  match ofUtf8 body with
  | some text => return text
  | none => throw (.malformedPayload reason)

/-- The reason reported for ill-formed secret texts. -/
def textReason : String := "text field is not valid UTF-8"

/-- Read one entry. -/
def readRecoveryEntry : Parser RecoveryError RecoveryEntry := do
  let id ← take 16 "entry_id"
  let label ← readText "label" "label is not valid UTF-8"
  let username ← readText "username" textReason
  let password ← readText "password" textReason
  let url ← readText "url" textReason
  let notes ← readText "notes" textReason
  let policy ← readPrefixed UInt32 "policy"
  return ⟨id, label, username, password, url, notes, policy⟩

/-- Read a payload. -/
def readPayload : Parser RecoveryError ExportPayload := do
  let version ← readLe UInt8 "payload_version"
  ensure (version = payloadVersion) (.malformedPayload "unsupported payload version")
  let totpSeed ← take 32 "totp_seed"
  let kdfBytes ← take kdfParamsLen "original_vault_kdf"
  let entryCount ← readLe UInt32 "entry_count"
  let entries ← readMany readRecoveryEntry (LeWord.toNat entryCount)
  return ⟨totpSeed, .fromBytes kdfBytes, entries⟩

/-- Parse a payload; trailing bytes are refused. -/
def decodePayload (plaintext : Bytes) : Except RecoveryError ExportPayload :=
  parseAll readPayload plaintext

end Passman
