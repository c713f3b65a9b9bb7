import Passman.Reference
import Passman.Vault.Format

/-!
# The accepted vault files

A vault that fits its fields is read back as written, and neither a strict prefix nor a
strict extension of its writing is a vault. In the other direction an accepted file is
the writing of its vault unless it carries a time in the place of a missing export time,
which the parser ignores and the writer fills with zero.
-/
namespace Passman

open Bytewise

/-- A vault that fits is read back as written, and no strict prefix and no strict extension of its
writing is accepted. -/
theorem vault_file_round_trip (vault : Vault) (formed : vault.WellFormed) :
    Vault.fromBytes vault.toBytes = .ok vault ∧
      (∀ short, short <+: vault.toBytes → short ≠ vault.toBytes →
        ∃ error, Vault.fromBytes short = .error error) ∧
      (∀ long, vault.toBytes <+: long → long ≠ vault.toBytes →
        ∃ error, Vault.fromBytes long = .error error) := by
  have whole := Vault.fromBytes_toBytes formed
  refine ⟨whole, ?_, ?_⟩
  · intro short before strict
    obtain ⟨extra, complete⟩ := before
    cases parsed : Vault.fromBytes short with
    | error error => exact ⟨error, rfl⟩
    | ok other =>
      rw [← complete] at whole
      have empty : extra = [] := parseAll_prefix_free parses_readVault parsed whole
      rw [empty, List.append_nil] at complete
      exact absurd complete strict
  · intro long after strict
    obtain ⟨extra, complete⟩ := after
    cases parsed : Vault.fromBytes long with
    | error error => exact ⟨error, rfl⟩
    | ok other =>
      rw [← complete] at parsed
      have empty : extra = [] := parseAll_prefix_free parses_readVault whole parsed
      rw [empty, List.append_nil] at complete
      exact absurd complete.symm strict

/-- A vault for examples, which was never exported. -/
def Reference.plainVault : Vault where
  version := .current
  kdfParams := Reference.kdfParams
  salt := Block.replicate 32 0
  probeNonce := Reference.nonce
  probeCt := Block.replicate probeCtLen 0
  kHsmWrapBlob := ⟨[1, 2], by decide⟩
  totpSeedWrapBlob := ⟨[3], by decide⟩
  rlCounter := 0
  rlLastFailure := 0
  metadata := .new 7
  sealedIndexNonce := Reference.nonce
  sealedIndexCt := [4, 5]
  envelopes := [⟨Reference.entryId, Reference.nonce, 2, [6, 7]⟩]

/-- The example vault fits its fields. -/
theorem Reference.plainVault_wellFormed : Reference.plainVault.WellFormed :=
  ⟨by decide, by decide, by decide⟩

/-- The example vault is read back as written, and neither prefixes nor extensions are. -/
theorem vault_file_round_trip_plain :
    Vault.fromBytes Reference.plainVault.toBytes = .ok Reference.plainVault ∧
      (∀ short, short <+: Reference.plainVault.toBytes → short ≠ Reference.plainVault.toBytes →
        ∃ error, Vault.fromBytes short = .error error) ∧
      (∀ long, Reference.plainVault.toBytes <+: long → long ≠ Reference.plainVault.toBytes →
        ∃ error, Vault.fromBytes long = .error error) :=
  vault_file_round_trip Reference.plainVault Reference.plainVault_wellFormed

/-- The number a two-byte length field at an offset holds. -/
def lengthAt (bytes : Bytes) (offset : Nat) : Nat := leNat ((bytes.drop offset).take 2)

/-- Where the export flag of a vault file stands: behind two wrap blobs of stored length. -/
def exportOffset (bytes : Bytes) : Nat :=
  127 + lengthAt bytes 99 + lengthAt bytes (101 + lengthAt bytes 99)

/-- The export flag is set, or the eight bytes behind it are zero. -/
def ExportTimeClear (bytes : Bytes) : Prop :=
  bytes[exportOffset bytes]? = some 0x01 ∨
    (bytes.drop (exportOffset bytes + 1)).take 8 = List.replicate 8 0

namespace Vault

/-- The fields in front of the first wrap blob. -/
def fixedFront (vault : Vault) : Bytes :=
  [vault.version.val] ++ [kdfAlgorithmArgon2id] ++ vault.kdfParams.toBytes ++ vault.salt.val ++
    vault.probeNonce.val ++ vault.probeCt.val

/-- The fields between the wrap blobs and the export flag. -/
def timesFront (vault : Vault) : Bytes :=
  toLe vault.rlCounter ++ toLe vault.rlLastFailure ++ toLe vault.metadata.lastPasswordChange

/-- The export flag. -/
def exportFlag (vault : Vault) : UInt8 := if vault.metadata.lastExportAt.isSome then 0x01 else 0x00

/-- The fields behind the export time. -/
def back (vault : Vault) : Bytes :=
  vault.sealedIndexNonce.val ++ prefixed UInt32 vault.sealedIndexCt ++
    lePrefix UInt32 vault.envelopes.length ++ vault.envelopes.flatMap EntryEnvelope.toBytes

/-- The layout, cut at the export flag. -/
theorem layout_eq (absent : Int64) (vault : Vault) :
    vault.layout absent = vault.fixedFront ++ (prefixed UInt16 vault.kHsmWrapBlob.val ++
      (prefixed UInt16 vault.totpSeedWrapBlob.val ++ (vault.timesFront ++ (vault.exportFlag ::
        (toLe (vault.metadata.lastExportAt.getD absent) ++ vault.back))))) := by
  unfold layout fixedFront timesFront back exportFlag VaultMetadata.toBytes
  cases vault.metadata.lastExportAt <;> simp only [List.append_assoc, List.cons_append,
    List.nil_append, Option.isSome_some, Option.isSome_none, if_true, Bool.false_eq_true, if_false,
    Option.getD_some, Option.getD_none]

/-- The fields in front of the first blob have a fixed length. -/
theorem fixedFront_length (vault : Vault) : vault.fixedFront.length = 99 := by
  have salt := vault.salt.property
  have nonce := vault.probeNonce.property
  have probe := vault.probeCt.property
  unfold fixedFront
  simp only [List.length_append, List.length_cons, List.length_nil, KdfParams.toBytes_length, salt,
    nonce, probe, kdfParamsLen, probeCtLen]

/-- The times in front of the export flag have a fixed length. -/
theorem timesFront_length (vault : Vault) : vault.timesFront.length = 24 := by
  unfold timesFront
  simp only [List.length_append, toLe_length]
  rfl

end Vault

/-- The length field in front of a blob holds its length. -/
theorem lengthAt_blob (front rest : Bytes) (blob : HsmBlob) (offset : Nat)
    (stands : front.length = offset) :
    lengthAt (front ++ (prefixed UInt16 blob.val ++ rest)) offset = blob.val.length := by
  have bound : blob.val.length < 256 ^ LeWord.width UInt16 := Nat.lt_succ_of_le blob.property
  have sized : (lePrefix UInt16 blob.val.length).length = 2 := lePrefix_length UInt16 _
  rw [lengthAt, List.drop_left' stands, prefixed, List.append_assoc, List.take_left' sized,
    lePrefix_of_lt UInt16 _ bound]
  have word : leNat (toLe (LeWord.ofNat blob.val.length : UInt16)) =
      LeWord.toNat (LeWord.ofNat blob.val.length : UInt16) :=
    leNat_leBytes _ _ (LeWord.toNat_lt _)
  rw [word, LeWord.toNat_ofNat _ bound]

/-- The export flag of a vault file stands at the computed offset, before the export time. -/
theorem exportOffset_layout (vault : Vault) (absent : Int64) :
    (vault.layout absent).drop (exportOffset (vault.layout absent)) =
      vault.exportFlag :: (toLe (vault.metadata.lastExportAt.getD absent) ++ vault.back) := by
  have fixed := vault.fixedFront_length
  have times := vault.timesFront_length
  have blobLength (blob : HsmBlob) : (prefixed UInt16 blob.val).length = 2 + blob.val.length := by
    have sized : (lePrefix UInt16 blob.val.length).length = 2 := lePrefix_length UInt16 _
    rw [prefixed, List.length_append, sized]
  have first : lengthAt (vault.layout absent) 99 = vault.kHsmWrapBlob.val.length := by
    rw [vault.layout_eq absent]
    exact lengthAt_blob _ _ _ _ fixed
  have second : lengthAt (vault.layout absent) (101 + vault.kHsmWrapBlob.val.length) =
      vault.totpSeedWrapBlob.val.length := by
    rw [vault.layout_eq absent, ← List.append_assoc]
    apply lengthAt_blob
    rw [List.length_append, fixed, blobLength]
    omega
  have split := vault.layout_eq absent
  rw [← List.append_assoc, ← List.append_assoc, ← List.append_assoc] at split
  rw [exportOffset, first, second, split]
  apply List.drop_left'
  rw [List.length_append, List.length_append, List.length_append, fixed, times, blobLength,
    blobLength]
  omega

/-- A vault file is clear exactly when its vault was exported or the ignored time is zero. -/
theorem exportTimeClear_layout (vault : Vault) (absent : Int64) :
    ExportTimeClear (vault.layout absent) ↔
      vault.metadata.lastExportAt.isSome = true ∨ absent = 0 := by
  have tail := exportOffset_layout vault absent
  have flag :
      (vault.layout absent)[exportOffset (vault.layout absent)]? = some vault.exportFlag := by
    rw [← List.head?_drop, tail]
    rfl
  have eight (time : Int64) : (toLe time).length = 8 := toLe_length time
  have time : ((vault.layout absent).drop (exportOffset (vault.layout absent) + 1)).take 8 =
      toLe (vault.metadata.lastExportAt.getD absent) := by
    rw [← List.drop_drop, tail, List.drop_one, List.tail_cons, List.take_left' (eight _)]
  have zero : toLe (0 : Int64) = List.replicate 8 0 := rfl
  rw [ExportTimeClear, flag, time, ← zero, Option.some_inj, toLe_injective.eq_iff,
    Vault.exportFlag]
  cases vault.metadata.lastExportAt with
  | none => simp
  | some exported => simp

/-- An accepted file is the writing of its vault if and only if its export flag is set or the
ignored time behind it is zero. -/
theorem vault_file_canonical_iff (bytes : Bytes) (vault : Vault)
    (parsed : Vault.fromBytes bytes = .ok vault) :
    vault.toBytes = bytes ↔ ExportTimeClear bytes := by
  obtain ⟨_, absent, rfl⟩ := (Vault.fromBytes_ok_iff bytes vault).mp parsed
  rw [exportTimeClear_layout, Vault.toBytes, vault.layout_eq 0, vault.layout_eq absent]
  have cut (left right : Bytes) : vault.exportFlag :: (left ++ vault.back) =
      vault.exportFlag :: (right ++ vault.back) ↔ left = right := by
    rw [List.cons_inj_right]
    exact List.append_left_inj _
  rw [List.append_right_inj, List.append_right_inj, List.append_right_inj, List.append_right_inj,
    cut, toLe_injective.eq_iff]
  cases vault.metadata.lastExportAt with
  | none => simp [eq_comm]
  | some exported => simp

/-- The writing of the example vault is clear. -/
theorem vault_file_canonical_plain : ExportTimeClear Reference.plainVault.toBytes :=
  (vault_file_canonical_iff _ _
    (Vault.fromBytes_toBytes Reference.plainVault_wellFormed)).mp rfl

/-- Two files, one with a time in the place of the missing export time, denote the same vault. -/
theorem absent_export_time_is_ignored :
    Vault.fromBytes (Reference.plainVault.layout 1) = .ok Reference.plainVault ∧
      Reference.plainVault.toBytes ≠ Reference.plainVault.layout 1 := by
  refine ⟨?_, by decide⟩
  exact (Vault.fromBytes_ok_iff _ _).mpr ⟨Reference.plainVault_wellFormed, 1, rfl⟩

end Passman
