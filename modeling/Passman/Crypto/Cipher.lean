import Passman.Crates

/-!
# Encryption and key derivation

The wrappers the program puts around its cryptographic dependencies: they fold the
dependencies' errors, refuse ciphertexts shorter than a tag, and refuse derivations
outside the static limits or beyond the host's memory.
-/
namespace Passman

open Bytewise

/-- Length of the authentication tag. -/
def tagLen : Nat := 16

section Cipher

variable [Crates]

/-- Encrypt and authenticate a message. -/
def encrypt (key : Key) (nonce : Nonce) (aad plaintext : Bytes) : Except CryptoError Bytes :=
  match Crates.aeadSeal key nonce aad plaintext with
  | some sealed => .ok sealed
  | none => .error .aeadAuth

/-- Authenticate and decrypt a ciphertext. -/
def decrypt (key : Key) (nonce : Nonce) (aad sealed : Bytes) : Except CryptoError Bytes :=
  if sealed.length < tagLen then
    .error (.invalidLength "ciphertext_and_tag" tagLen sealed.length)
  else
    match Crates.aeadOpen key nonce aad sealed with
    | some plaintext => .ok plaintext
    | none => .error .aeadAuth

/-- Extract and expand a master key. -/
def hkdfMaster (salt ikm info : Bytes) : Key := Crates.hkdfExtractExpand salt ikm info

/-- Expand a subkey from a master key. -/
def hkdfExpand (prk : Key) (info : Bytes) : Key := Crates.hkdfExpandLabel prk info

omit [Crates] in
/-- Refuse costs outside the limits or the available memory. -/
def checkCost (params : KdfParams) (availableKib : Option UInt64) : Except CryptoError Unit :=
  if !params.withinLimits then
    .error (.kdf "Argon2id parameters are outside the permitted range")
  else if availableKib.any fun available => !memoryCostFits params.mKib available then
    .error (.kdf ("Argon2id memory cost (" ++ toString params.mKib ++
      " KiB) exceeds the safe budget for this host (" ++
      toString (availableKib.getD 0) ++ " KiB available)"))
  else .ok ()

/-- Hash a password into a key. -/
def hashPassword (password : String) (salt : Bytes) (params : KdfParams) : Except CryptoError Key :=
  match Crates.argon2 (utf8 password) salt params with
  | .ok key => .ok key
  | .error message => .error (.kdf message)

/-- Derive a key from a password, refusing costs outside the limits or the available memory. -/
def argon2idWithinMemory (password : String) (salt : Bytes) (params : KdfParams)
    (availableKib : Option UInt64) : Except CryptoError Key := do
  checkCost params availableKib
  hashPassword password salt params

end Cipher

section Facts

variable [Crates]

/-- A successful encryption is a sealing. -/
theorem encrypt_eq_ok {key : Key} {nonce : Nonce} {aad plaintext sealed : Bytes} :
    encrypt key nonce aad plaintext = .ok sealed ↔
      Crates.aeadSeal key nonce aad plaintext = some sealed := by
  rw [encrypt]
  cases Crates.aeadSeal key nonce aad plaintext <;> simp

/-- Short messages are encrypted. -/
theorem encrypt_total (aead : AeadLaws) (key : Key) (nonce : Nonce) (aad plaintext : Bytes)
    (small : plaintext.length < 2 ^ 32) :
    ∃ sealed, encrypt key nonce aad plaintext = .ok sealed := by
  obtain ⟨sealed, found⟩ := aead.seals key nonce aad plaintext small
  exact ⟨sealed, encrypt_eq_ok.mpr found⟩

/-- The ciphertext is one tag longer than the message. -/
theorem encrypt_length (aead : AeadLaws) {key : Key} {nonce : Nonce} {aad plaintext sealed : Bytes}
    (encrypted : encrypt key nonce aad plaintext = .ok sealed) :
    sealed.length = plaintext.length + 16 :=
  aead.sealLength _ _ _ _ _ (encrypt_eq_ok.mp encrypted)

/-- Decryption inverts encryption under the same key, nonce and associated data. -/
theorem decrypt_encrypt (aead : AeadLaws) {key : Key} {nonce : Nonce} {aad plaintext sealed : Bytes}
    (encrypted : encrypt key nonce aad plaintext = .ok sealed) :
    decrypt key nonce aad sealed = .ok plaintext := by
  have long : ¬ sealed.length < tagLen := by
    rw [encrypt_length aead encrypted, tagLen]
    omega
  rw [decrypt, if_neg long, aead.opens _ _ _ _ _ (encrypt_eq_ok.mp encrypted)]

/-- A decrypted message is one tag shorter than the ciphertext. -/
theorem decrypt_length (strict : StrictLaws) {key : Key} {nonce : Nonce}
    {aad sealed plaintext : Bytes} (decrypted : decrypt key nonce aad sealed = .ok plaintext) :
    sealed.length = plaintext.length + 16 := by
  rw [decrypt] at decrypted
  by_cases short : sealed.length < tagLen
  · rw [if_pos short] at decrypted
    cases decrypted
  · rw [if_neg short] at decrypted
    cases opened : Crates.aeadOpen key nonce aad sealed with
    | none =>
      rw [opened] at decrypted
      cases decrypted
    | some message =>
      rw [opened] at decrypted
      rw [← Except.ok.inj decrypted]
      exact strict.openLength _ _ _ _ _ opened

omit [Crates] in
/-- A cost is accepted exactly inside the limits and inside the memory. -/
theorem checkCost_eq_ok {params : KdfParams} {availableKib : Option UInt64} :
    checkCost params availableKib = .ok () ↔
      params.withinLimits ∧ ∀ available ∈ availableKib, memoryCostFits params.mKib available := by
  rw [checkCost]
  cases limits : params.withinLimits with
  | false => simp
  | true =>
    cases availableKib with
    | none => simp
    | some available => cases fits : memoryCostFits params.mKib available <;> simp [fits]

/-- A derivation succeeds exactly inside the limits, inside the memory, and when the dependency
accepts the parameters. -/
theorem argon2idWithinMemory_eq_ok {password : String} {salt : Bytes} {params : KdfParams}
    {availableKib : Option UInt64} {key : Key} :
    argon2idWithinMemory password salt params availableKib = .ok key ↔
      params.withinLimits ∧ (∀ available ∈ availableKib, memoryCostFits params.mKib available) ∧
        Crates.argon2 (utf8 password) salt params = .ok key := by
  have checked := @checkCost_eq_ok params availableKib
  rw [argon2idWithinMemory, hashPassword, ← and_assoc, ← checked]
  cases checkCost params availableKib with
  | error error => simp [bind, Except.bind]
  | ok _ => cases Crates.argon2 (utf8 password) salt params <;> simp [bind, Except.bind]

end Facts

end Passman
