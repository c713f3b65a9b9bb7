import Passman.Recovery.Format
import Passman.Vault.RawParser

/-!
# The recovery parsers over a raw cursor

The parsers of a recovery file and of its payload as they run: over a cursor that could underflow
and slice out of range, with their copies and the entry loop counted. The ciphertext of a file is
borrowed; the secret texts of a payload are copied once they are known to be well formed.
-/
namespace Passman

open Bytewise

namespace RawRecovery

/-- Read a label, which is copied before it is checked. -/
def readLabel (field reason : String) : Raw RecoveryError String := do
  let body ← Raw.readPrefixed UInt32 field
  match ofUtf8 body with
  | some text => return text
  | none => Raw.refuse (.malformedPayload reason)

/-- Read a secret text, which is checked before it is copied. -/
def readSecretString (field : String) : Raw RecoveryError String := do
  let length ← Raw.readLe UInt32 field
  Raw.takeText (LeWord.toNat length) field (.malformedPayload textReason)

/-- Read one entry. -/
def readRecoveryEntry : Raw RecoveryError RecoveryEntry := do
  let id ← Raw.takeOwned 16 "entry_id"
  let label ← readLabel "label" "label is not valid UTF-8"
  let username ← readSecretString "username"
  let password ← readSecretString "password"
  let url ← readSecretString "url"
  let notes ← readSecretString "notes"
  let policy ← Raw.readPrefixed UInt32 "policy"
  return ⟨id, label, username, password, url, notes, policy⟩

/-- Read a payload. -/
def readPayload : Raw RecoveryError ExportPayload := do
  let version ← Raw.readByte "payload_version"
  Raw.ensure (version = payloadVersion) (.malformedPayload "unsupported payload version")
  let totpSeed ← Raw.takeOwned 32 "totp_seed"
  let kdfBytes ← Raw.takeOwned kdfParamsLen "original_vault_kdf"
  let entryCount ← Raw.readLe UInt32 "entry_count"
  let entries ← Raw.loop readRecoveryEntry (LeWord.toNat entryCount)
  return ⟨totpSeed, .fromBytes kdfBytes, entries⟩

/-- Parse a payload; trailing bytes are refused. -/
def decodePayload (plaintext : Bytes) : Except (Fault RecoveryError) ExportPayload × Cursor :=
  Raw.parseAll readPayload plaintext

/-- Read the frame of a recovery file; its ciphertext is borrowed. -/
def readFrame : Raw RecoveryError RecoveryFrame := do
  let magic ← Raw.takeOwned 6 "magic"
  Raw.ensure (magic.val = recoveryMagic) .badMagic
  let version ← Raw.readByte "format_version"
  Raw.ensure (version = recoveryFormatVersion) (.unsupportedVersion version recoveryFormatVersion)
  let kdfId ← Raw.readByte "kdf_algorithm_id"
  Raw.ensure (kdfId = recoveryKdfAlgorithmArgon2id) (.unsupportedKdfAlgorithm kdfId)
  let mKib ← Raw.readLe UInt32 "argon2.m"
  let t ← Raw.readLe UInt32 "argon2.t"
  let p ← Raw.readByte "argon2.p"
  Raw.ensure ((KdfParams.mk mKib t p).withinLimits = true) (.kdfParamsOutOfRange mKib t p)
  let salt ← Raw.takeOwned 32 "recovery_salt"
  let nonce ← Raw.takeOwned 24 "nonce"
  let length ← Raw.readLe UInt32 "payload_ct_len"
  let ciphertext ← Raw.take (LeWord.toNat length) "payload_ct"
  return ⟨⟨mKib, t, p⟩, salt, nonce, ciphertext.val⟩

/-- Read the whole frame of a file, refusing a payload shorter than a tag. -/
def readImport (file : Bytes) : Except (Fault RecoveryError) RecoveryFrame × Cursor :=
  let (outcome, cursor) := Raw.parseAll readFrame file
  (do
    let frame ← outcome
    if frame.ciphertext.length < tagLen then Checked.refuse .decrypt else return frame, cursor)

/-- The least number of bytes an entry takes: its identifier and six lengths. -/
def entryStride : Nat := 40

section Tracks

variable {stride slack : Nat}

/-- A label is read as by the bounds-checked parser, behind its length. -/
theorem tracks_readLabel (field reason : String) :
    Raw.Tracks stride 4 slack (readLabel field reason) (readText field reason) := by
  have checked (body : Bytes) : Raw.Tracks stride 0 slack
      (match ofUtf8 body with
        | some text => pure text
        | none => Raw.refuse (RecoveryError.malformedPayload reason))
      (match ofUtf8 body with
        | some text => pure text
        | none => throw (RecoveryError.malformedPayload reason)) := by
    cases ofUtf8 body with
    | some text => exact Raw.tracks_pure text
    | none => exact Raw.tracks_refuse 0 _
  exact Raw.tracks_bind (Raw.tracks_readPrefixed UInt32 field (Nat.le_refl 4)) checked

/-- A secret text is read as by the bounds-checked parser, behind its length. -/
theorem tracks_readSecretString (field : String) :
    Raw.Tracks stride 4 slack (readSecretString field) (readText field textReason) := by
  rw [readText, readPrefixed]
  simp only [bind_assoc, pure_bind]
  exact Raw.tracks_bind (Raw.tracks_readLe UInt32 field (Nat.le_refl 4)) fun length =>
    Raw.tracks_takeText field _ (Nat.zero_le (LeWord.toNat length))

/-- An entry is read as by the bounds-checked parser, and takes a stride. -/
theorem tracks_readRecoveryEntry :
    Raw.Tracks stride entryStride slack readRecoveryEntry Passman.readRecoveryEntry :=
  Raw.tracks_bind (Raw.tracks_takeOwned "entry_id" (Nat.le_refl 16)) fun _ =>
    Raw.tracks_bind (tracks_readLabel "label" _) fun _ =>
    Raw.tracks_bind (tracks_readSecretString "username") fun _ =>
    Raw.tracks_bind (tracks_readSecretString "password") fun _ =>
    Raw.tracks_bind (tracks_readSecretString "url") fun _ =>
    Raw.tracks_bind (tracks_readSecretString "notes") fun _ =>
    Raw.tracks_bind (Raw.tracks_readPrefixed UInt32 "policy" (Nat.le_refl 4)) fun _ =>
      Raw.tracks_pure _

/-- A payload is read as by the bounds-checked parser. -/
theorem tracks_readPayload :
    Raw.Tracks entryStride 0 entryStride readPayload Passman.readPayload :=
  Raw.tracks_seq (Raw.tracks_readByte _ (Nat.zero_le _)) fun _ =>
    Raw.tracks_seq (Raw.tracks_ensure _ _) fun _ =>
    Raw.tracks_seq (Raw.tracks_takeOwned _ (Nat.zero_le _)) fun _ =>
    Raw.tracks_seq (Raw.tracks_takeOwned _ (Nat.zero_le _)) fun _ =>
    Raw.tracks_seq (Raw.tracks_readLe UInt32 _ (Nat.zero_le _)) fun _ =>
    Raw.tracks_seq (Raw.tracks_loop (Nat.le_refl _) tracks_readRecoveryEntry _) fun _ =>
      Raw.tracks_pure _

/-- The frame of a file is read as by the bounds-checked parser. -/
theorem tracks_readFrame : Raw.Tracks stride 0 slack readFrame Passman.readFrame :=
  Raw.tracks_seq (Raw.tracks_takeOwned _ (Nat.zero_le _)) fun _ =>
    Raw.tracks_seq (Raw.tracks_ensure _ _) fun _ =>
    Raw.tracks_seq (Raw.tracks_readByte _ (Nat.zero_le _)) fun _ =>
    Raw.tracks_seq (Raw.tracks_ensure _ _) fun _ =>
    Raw.tracks_seq (Raw.tracks_readByte _ (Nat.zero_le _)) fun _ =>
    Raw.tracks_seq (Raw.tracks_ensure _ _) fun _ =>
    Raw.tracks_seq (Raw.tracks_readLe UInt32 _ (Nat.zero_le _)) fun _ =>
    Raw.tracks_seq (Raw.tracks_readLe UInt32 _ (Nat.zero_le _)) fun _ =>
    Raw.tracks_seq (Raw.tracks_readByte _ (Nat.zero_le _)) fun _ =>
    Raw.tracks_seq (Raw.tracks_ensure _ _) fun _ =>
    Raw.tracks_seq (Raw.tracks_takeOwned _ (Nat.zero_le _)) fun _ =>
    Raw.tracks_seq (Raw.tracks_takeOwned _ (Nat.zero_le _)) fun _ =>
    Raw.tracks_seq (Raw.tracks_readLe UInt32 _ (Nat.zero_le _)) fun _ =>
    Raw.tracks_seq (Raw.tracks_take _ (Nat.zero_le _)) fun _ => Raw.tracks_pure _

end Tracks

/-- Parsing any bytes as a payload is bounded by their length. -/
theorem decodePayload_bounded (plaintext : Bytes) :
    Raw.Bounded entryStride plaintext (Passman.decodePayload plaintext) (decodePayload plaintext) :=
  Raw.parseAll_bounded (by decide) tracks_readPayload plaintext

/-- Parsing any bytes as the frame of a recovery file is bounded by their length. -/
theorem readImport_bounded (stride : Nat) (positive : 0 < stride) (file : Bytes) :
    Raw.Bounded stride file (Passman.readImport file) (readImport file) := by
  have framed := Raw.parseAll_bounded positive tracks_readFrame file
  refine { framed with outcome := ?_ }
  change ((Raw.parseAll readFrame file).1 >>= _) = _
  rw [framed.outcome, Passman.readImport]
  cases parseAll Passman.readFrame file with
  | error error => rfl
  | ok frame =>
    change (if frame.ciphertext.length < tagLen then Checked.refuse RecoveryError.decrypt
      else .ok frame) = Checked.ofExcept (if frame.ciphertext.length < tagLen then
        .error RecoveryError.decrypt else .ok frame)
    by_cases short : frame.ciphertext.length < tagLen
    · rw [if_pos short, if_pos short]
      rfl
    · rw [if_neg short, if_neg short]
      rfl

end RawRecovery

/-- The parsers of untrusted bytes are safe on every input. Parsing a vault, framing a recovery
file and decoding a payload never panic and return what the bounds-checked parsers return; the
cursor never leaves the input, and no more is copied than the input holds. The entry loops run at
most once more than the least entries fit into the input. -/
theorem hostile_input_is_bounded :
    (∀ bytes : Bytes, (RawVault.fromBytes bytes).1 = Checked.ofExcept (Vault.fromBytes bytes) ∧
      (RawVault.fromBytes bytes).1 ≠ .error .panicked ∧
      (RawVault.fromBytes bytes).2.pos ≤ bytes.length ∧
      (RawVault.fromBytes bytes).2.copied ≤ bytes.length ∧
      (RawVault.fromBytes bytes).2.rounds ≤ bytes.length / 44 + 1) ∧
    (∀ file : Bytes, (RawRecovery.readImport file).1 = Checked.ofExcept (readImport file) ∧
      (RawRecovery.readImport file).1 ≠ .error .panicked ∧
      (RawRecovery.readImport file).2.pos ≤ file.length ∧
      (RawRecovery.readImport file).2.copied ≤ file.length) ∧
    (∀ plaintext : Bytes,
      (RawRecovery.decodePayload plaintext).1 = Checked.ofExcept (decodePayload plaintext) ∧
      (RawRecovery.decodePayload plaintext).1 ≠ .error .panicked ∧
      (RawRecovery.decodePayload plaintext).2.pos ≤ plaintext.length ∧
      (RawRecovery.decodePayload plaintext).2.copied ≤ plaintext.length ∧
      (RawRecovery.decodePayload plaintext).2.rounds ≤ plaintext.length / 40 + 1) := by
  refine ⟨fun bytes => ?_, fun file => ?_, fun plaintext => ?_⟩
  · have ran := RawVault.fromBytes_bounded bytes
    exact ⟨ran.outcome, ran.no_panic, ran.inside, ran.copies, ran.rounds⟩
  · have ran := RawRecovery.readImport_bounded 1 Nat.one_pos file
    exact ⟨ran.outcome, ran.no_panic, ran.inside, ran.copies⟩
  · have ran := RawRecovery.decodePayload_bounded plaintext
    exact ⟨ran.outcome, ran.no_panic, ran.inside, ran.copies, ran.rounds⟩

end Passman
