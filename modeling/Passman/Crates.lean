import Passman.Crypto.Params
import Passman.Totp.Config
import Passman.Vault.Index

/-!
# Third-party functions

The pure functions the program takes from its dependencies: the authenticated
cipher, the two key derivations, the keyed hash, the row serializer and the
strength estimator. They are parameters of the model. What a result relies on is
stated as a law over them, never as part of their definition.
-/
namespace Passman

open Bytewise

/-- The functions of the third-party crates. -/
class Crates where
  /-- XChaCha20-Poly1305 encryption; refuses only oversized messages. -/
  aeadSeal : Key → Nonce → Bytes → Bytes → Option Bytes
  /-- XChaCha20-Poly1305 decryption of a ciphertext with its tag. -/
  aeadOpen : Key → Nonce → Bytes → Bytes → Option Bytes
  /-- HKDF-SHA256 extract and expand: salt, input keying material, label. -/
  hkdfExtractExpand : Bytes → Bytes → Bytes → Key
  /-- HKDF-SHA256 expand from a pseudorandom key. -/
  hkdfExpandLabel : Key → Bytes → Key
  /-- The Argon2id crate: password, salt and parameters to a key, or its error text. -/
  argon2 : Bytes → Bytes → KdfParams → Except String Key
  /-- The keyed hash of a message under a seed. -/
  hmac : TotpAlgorithm → Bytes → Bytes → HmacTag
  /-- The postcard encoding of index rows. -/
  rowsToBytes : List IndexEntry → Option Bytes
  /-- The postcard decoding of index rows. -/
  rowsOfBytes : Bytes → Option (List IndexEntry)
  /-- The postcard encoding of a policy. -/
  policyToBytes : EntryPolicy → Option Bytes
  /-- The postcard decoding of a policy. -/
  policyOfBytes : Bytes → Option EntryPolicy
  /-- RFC 4648 base32 without padding. -/
  base32 : Bytes → String
  /-- Whether the strength estimate of a master password admits an export. -/
  allowsExport : String → Bool

section Laws

variable [Crates]

/-- What the operations rely on from the cipher: sealing fails only on messages the length field
of the formats could not hold either, appends a 16-byte tag, and is inverted by opening under the
same key, nonce and associated data. -/
structure AeadLaws : Prop where
  /-- Messages below 2^32 bytes are sealed. -/
  seals : ∀ key nonce aad message, message.length < 2 ^ 32 →
    ∃ sealed, Crates.aeadSeal key nonce aad message = some sealed
  /-- The tag is 16 bytes long. -/
  sealLength : ∀ key nonce aad message sealed,
    Crates.aeadSeal key nonce aad message = some sealed → sealed.length = message.length + 16
  /-- Opening inverts sealing. -/
  opens : ∀ key nonce aad message sealed,
    Crates.aeadSeal key nonce aad message = some sealed →
      Crates.aeadOpen key nonce aad sealed = some message

/-- What the operations rely on from the row serializer: rows are always written, and read back
as written. -/
structure PostcardLaws : Prop where
  /-- Serialization of index rows does not fail. -/
  writes : ∀ rows, ∃ bytes, Crates.rowsToBytes rows = some bytes
  /-- Rows are read back as written. -/
  reads : ∀ rows bytes, Crates.rowsToBytes rows = some bytes →
    Crates.rowsOfBytes bytes = some rows

/-- What the operations rely on from the policy serializer: policies are read back as written. -/
structure PolicyLaws : Prop where
  /-- Policies are read back as written. -/
  reads : ∀ policy bytes, Crates.policyToBytes policy = some bytes →
    Crates.policyOfBytes bytes = some policy

/-- What the operations rely on from readings of what was not written as a whole: opening strips the
tag, and rows that were cut short are not read. -/
structure StrictLaws : Prop where
  /-- A message is 16 bytes shorter than the ciphertext it is opened from. -/
  openLength : ∀ key nonce aad sealed message,
    Crates.aeadOpen key nonce aad sealed = some message → sealed.length = message.length + 16
  /-- Rows that were cut short are not read. -/
  cut : ∀ rows bytes length, Crates.rowsToBytes rows = some bytes → length < bytes.length →
    Crates.rowsOfBytes (bytes.take length) = none

end Laws

end Passman
