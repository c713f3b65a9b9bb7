import Passman.Crypto.Params
import Passman.Lib.Reader

/-!
# Vault errors

Every failure of parsing, opening or changing a vault. Structural failures name
the field and the offset; authenticated payloads that do not decode name a fixed
reason.
-/
namespace Passman

open Bytewise

/-- Failures of vault parsing and vault operations. -/
inductive VaultError where
  /-- The input ended inside a field. -/
  | truncated (field : String) (offset : Nat)
  /-- Bytes remained after the last envelope. -/
  | trailingBytes (extra : Nat)
  /-- The format version is unknown. -/
  | unsupportedVersion (got expected : UInt8)
  /-- The key-derivation identifier is unknown. -/
  | unsupportedKdfAlgorithm (got : UInt8)
  /-- A presence flag is neither zero nor one. -/
  | invalidFlag (field : String) (got : UInt8)
  /-- The index and the envelopes carry different identifiers. -/
  | indexMismatch
  /-- A decrypted payload does not decode. -/
  | malformedRecord (reason : String)
  /-- No entry has the requested identifier. -/
  | entryNotFound
  /-- A hardware wrap blob exceeds its length field. -/
  | blobTooLarge (which : String)
  /-- A cryptographic operation failed. -/
  | crypto (error : CryptoError)
  deriving DecidableEq

instance : ReadError VaultError where
  truncated := .truncated
  trailing := .trailingBytes

end Passman
