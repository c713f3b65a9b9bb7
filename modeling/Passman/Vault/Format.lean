import Passman.Vault.Vault

/-!
# The binary vault layout

The writer emits the header fields in a fixed order, then the sealed index and the
envelopes. The parser checks every length against the remaining input and requires
the input to be used up. A byte string is accepted as a vault exactly when it is
that vault's layout; only the time field of a vault that was never exported is free,
and the writer fills it with zero.
-/
namespace Passman

open Bytewise

/-- The bytes of one envelope; the stored length is the actual body length. -/
def EntryEnvelope.toBytes (envelope : EntryEnvelope) : Bytes :=
  envelope.id.bytes.val ++ envelope.nonce.val ++ prefixed UInt32 envelope.ciphertextAndTag

/-- The bytes of the metadata: the presence flag precedes the export time, and `absent` stands in
its place when there is none. -/
def VaultMetadata.toBytes (absent : Int64) (metadata : VaultMetadata) : Bytes :=
  toLe metadata.lastPasswordChange ++
    match metadata.lastExportAt with
    | some time => 0x01 :: toLe time
    | none => 0x00 :: toLe absent

/-- The layout of a vault, with `absent` in the place of a missing export time. -/
def Vault.layout (absent : Int64) (vault : Vault) : Bytes :=
  [vault.version.val] ++ ([kdfAlgorithmArgon2id] ++ (vault.kdfParams.toBytes ++ (vault.salt.val ++
    (vault.probeNonce.val ++ (vault.probeCt.val ++ (prefixed UInt16 vault.kHsmWrapBlob.val ++
    (prefixed UInt16 vault.totpSeedWrapBlob.val ++ (toLe vault.rlCounter ++
    (toLe vault.rlLastFailure ++ (vault.metadata.toBytes absent ++ (vault.sealedIndexNonce.val ++
    (prefixed UInt32 vault.sealedIndexCt ++ (lePrefix UInt32 vault.envelopes.length ++
    vault.envelopes.flatMap EntryEnvelope.toBytes)))))))))))))

/-- Serialize a vault: a missing export time is written as zero. -/
def Vault.toBytes (vault : Vault) : Bytes := vault.layout 0

/-- Read the version byte and refuse unknown versions. -/
def readVersion : Parser VaultError FormatVersion := do
  let byte ← readLe UInt8 "format_version"
  if known : byte = formatVersion ∨ byte = formatVersionLegacyV1 then return ⟨byte, known⟩
  else throw (.unsupportedVersion byte formatVersion)

/-- Read the key-derivation identifier and refuse all but Argon2id. -/
def readKdfAlgorithm : Parser VaultError Unit := do
  let byte ← readLe UInt8 "kdf_algorithm_id"
  if byte = kdfAlgorithmArgon2id then return () else throw (.unsupportedKdfAlgorithm byte)

/-- A body of a two-byte length is no longer than a wrap blob may be. -/
theorem blob_fits {length : UInt16} (body : Block (LeWord.toNat length)) :
    body.val.length ≤ 65535 := by
  rw [body.property]
  exact Nat.le_of_lt_succ (LeWord.toNat_lt length)

/-- Read a wrap blob; its two-byte length already bounds it. -/
def readBlob (field : String) : Parser VaultError HsmBlob := do
  let length ← readLe UInt16 field
  let body ← take (LeWord.toNat length) field
  return ⟨body.val, blob_fits body⟩

/-- Read the metadata; the export time is read whether or not the flag marks it present. -/
def readMetadata : Parser VaultError VaultMetadata := do
  let lastPasswordChange ← readLe Int64 "meta.last_password_change"
  let exportPresent ← readLe UInt8 "meta.last_export_present"
  let lastExportRaw ← readLe Int64 "meta.last_export_at"
  if exportPresent = 0x00 then return ⟨lastPasswordChange, none⟩
  else if exportPresent = 0x01 then return ⟨lastPasswordChange, some lastExportRaw⟩
  else throw (.invalidFlag "meta.last_export_present" exportPresent)

/-- Read one envelope. -/
def readEnvelope : Parser VaultError EntryEnvelope := do
  let id ← take entryIdLen "entry.id"
  let nonce ← take 24 "entry.nonce"
  let ctLen ← readLe UInt32 "entry.ct_len"
  let body ← take (LeWord.toNat ctLen) "entry.ciphertext"
  return ⟨⟨id⟩, nonce, ctLen, body.val⟩

/-- Read a whole vault. -/
def readVault : Parser VaultError Vault := do
  let version ← readVersion
  readKdfAlgorithm
  let kdfBytes ← take kdfParamsLen "kdf_params"
  let salt ← take 32 "vault_salt"
  let probeNonce ← take 24 "probe_nonce"
  let probeCt ← take probeCtLen "probe_ct"
  let kHsmWrapBlob ← readBlob "k_hsm_wrap_blob"
  let totpSeedWrapBlob ← readBlob "totp_seed_wrap_blob"
  let rlCounter ← readLe UInt64 "rl_counter"
  let rlLastFailure ← readLe Int64 "rl_last_failure"
  let metadata ← readMetadata
  let sealedIndexNonce ← take 24 "sealed_index_nonce"
  let sealedIndexCt ← readPrefixed UInt32 "sealed_index_ct"
  let entriesCount ← readLe UInt32 "entries_count"
  let envelopes ← readMany readEnvelope (LeWord.toNat entriesCount)
  return {
    version
    kdfParams := .fromBytes kdfBytes
    salt
    probeNonce
    probeCt
    kHsmWrapBlob
    totpSeedWrapBlob
    rlCounter
    rlLastFailure
    metadata
    sealedIndexNonce
    sealedIndexCt
    envelopes }

/-- Parse a vault; trailing bytes are refused. -/
def Vault.fromBytes (bytes : Bytes) : Except VaultError Vault := parseAll readVault bytes

/-- The stored lengths fit their four-byte fields, and every stored body length is the actual one.
Nothing else about a vault value limits its writing. -/
structure Vault.WellFormed (vault : Vault) : Prop where
  /-- The sealed index fits its length field. -/
  index : vault.sealedIndexCt.length < 2 ^ 32
  /-- The number of envelopes fits its field. -/
  count : vault.envelopes.length < 2 ^ 32
  /-- Every body fits its length field, which holds its length. -/
  bodies : ∀ envelope ∈ vault.envelopes,
    envelope.ciphertextAndTag.length = envelope.ctLen.toNat

/-- The version parser admits the version's byte. -/
theorem parses_readVersion :
    Parses readVersion fun version bytes => bytes = [version.val] := by
  have single (byte : UInt8) : toLe byte = [byte] := by
    change [UInt8.ofNat byte.toNat] = [byte]
    rw [UInt8.ofNat_toNat]
  have checked (byte : UInt8) : Parses
      (if known : byte = formatVersion ∨ byte = formatVersionLegacyV1 then
        pure ⟨byte, known⟩ else throw (.unsupportedVersion byte formatVersion) :
        Parser VaultError FormatVersion) (fun version tail => version.val = byte ∧ tail = []) := by
    by_cases known : byte = formatVersion ∨ byte = formatVersionLegacyV1
    · rw [dif_pos known]
      exact (parses_pure _).congr fun version tail => and_congr_left fun _ => Subtype.ext_iff
    · rw [dif_neg known]
      refine (parses_throw _).congr fun version tail => ⟨False.elim, ?_⟩
      rintro ⟨rfl, _⟩
      exact known version.property
  refine (parses_bind_encoded (parses_readLe UInt8 _) checked).congr fun version bytes => ?_
  constructor
  · rintro ⟨byte, _, ⟨same, rfl⟩, rfl⟩
    rw [single, same, List.append_nil]
  · rintro rfl
    exact ⟨version.val, [], ⟨rfl, rfl⟩, by rw [single, List.append_nil]⟩

/-- The key-derivation identifier admits one byte. -/
theorem parses_readKdfAlgorithm :
    Parses readKdfAlgorithm fun _ bytes => bytes = [kdfAlgorithmArgon2id] := by
  have checked (byte : UInt8) : Parses
      (if byte = kdfAlgorithmArgon2id then pure () else throw (.unsupportedKdfAlgorithm byte) :
        Parser VaultError Unit) (fun _ tail => byte = kdfAlgorithmArgon2id ∧ tail = []) := by
    by_cases known : byte = kdfAlgorithmArgon2id
    · rw [if_pos known]
      exact (parses_pure ()).congr fun _ tail => by simp [known]
    · rw [if_neg known]
      exact (parses_throw _).congr fun _ tail => by simp [known]
  refine (parses_bind_encoded (parses_readLe UInt8 _) checked).congr fun _ bytes => ?_
  constructor
  · rintro ⟨byte, _, ⟨rfl, rfl⟩, rfl⟩
    rfl
  · rintro rfl
    exact ⟨kdfAlgorithmArgon2id, [], ⟨rfl, rfl⟩, rfl⟩

/-- A wrap blob admits its two-byte length and its bytes. -/
theorem parses_readBlob (field : String) :
    Parses (readBlob field) fun blob bytes => bytes = prefixed UInt16 blob.val := by
  refine (parses_bind_encoded (parses_readLe UInt16 field) fun length =>
    parses_bind_encoded (parses_take _ field) fun body => parses_pure _).congr fun blob bytes => ?_
  constructor
  · rintro ⟨length, _, ⟨body, _, ⟨rfl, rfl⟩, rfl⟩, rfl⟩
    have bound : body.val.length < 256 ^ LeWord.width UInt16 := by
      rw [body.property]
      exact LeWord.toNat_lt length
    rw [List.append_nil, prefixed, lePrefix_of_lt _ _ bound]
    rw [body.property, LeWord.ofNat_toNat]
  · rintro rfl
    have bound : blob.val.length < 256 ^ LeWord.width UInt16 := Nat.lt_succ_of_le blob.property
    refine ⟨LeWord.ofNat blob.val.length, _,
      ⟨⟨blob.val, (LeWord.toNat_ofNat _ bound).symm⟩, _, ⟨rfl, rfl⟩, rfl⟩, ?_⟩
    rw [List.append_nil, prefixed, lePrefix_of_lt _ _ bound]

/-- The metadata parser admits the writing with any time in the place of a missing one. -/
theorem parses_readMetadata :
    Parses readMetadata fun metadata bytes => ∃ absent, bytes = metadata.toBytes absent := by
  have checked (change export' : Int64) (flag : UInt8) : Parses
      (if flag = 0x00 then pure ⟨change, none⟩
        else if flag = 0x01 then pure ⟨change, some export'⟩
        else throw (.invalidFlag "meta.last_export_present" flag) :
        Parser VaultError VaultMetadata) (fun metadata tail =>
          ((flag = 0x00 ∧ metadata = ⟨change, none⟩) ∨
            (flag = 0x01 ∧ metadata = ⟨change, some export'⟩)) ∧ tail = []) := by
    by_cases absent : flag = 0x00
    · rw [if_pos absent]
      exact (parses_pure _).congr fun metadata tail => by simp [absent]
    · rw [if_neg absent]
      by_cases present : flag = 0x01
      · rw [if_pos present]
        exact (parses_pure _).congr fun metadata tail => by simp [present, eq_comm]
      · rw [if_neg present]
        exact (parses_throw _).congr fun metadata tail => by simp [absent, present]
  refine (parses_bind_encoded (parses_readLe Int64 _) fun change =>
    parses_bind_encoded (parses_readLe UInt8 _) fun flag =>
    parses_bind_encoded (parses_readLe Int64 _) fun export' =>
      checked change export' flag).congr fun metadata bytes => ?_
  constructor
  · rintro ⟨change, _, ⟨flag, _, ⟨export', _, ⟨⟨rfl, rfl⟩ | ⟨rfl, rfl⟩, rfl⟩, rfl⟩, rfl⟩, rfl⟩
    · exact ⟨export', by rw [List.append_nil]; rfl⟩
    · exact ⟨0, by rw [List.append_nil]; rfl⟩
  · rintro ⟨absent, rfl⟩
    cases metadata with
    | mk change exported =>
      cases exported with
      | none =>
        exact ⟨change, _, ⟨0x00, _, ⟨absent, [], ⟨.inl ⟨rfl, rfl⟩, rfl⟩, rfl⟩, rfl⟩, by
          rw [List.append_nil]; rfl⟩
      | some time =>
        exact ⟨change, _, ⟨0x01, _, ⟨time, [], ⟨.inr ⟨rfl, rfl⟩, rfl⟩, rfl⟩, rfl⟩, by
          rw [List.append_nil]; rfl⟩

/-- An envelope admits its writing, with the stored length being the actual one. -/
theorem parses_readEnvelope : Parses readEnvelope fun envelope bytes =>
    envelope.ciphertextAndTag.length = envelope.ctLen.toNat ∧ bytes = envelope.toBytes := by
  have body_prefix (length : UInt32) (body : Bytes) (sized : body.length = length.toNat) :
      prefixed UInt32 body = toLe length ++ body := by
    have bound : body.length < 256 ^ LeWord.width UInt32 := sized ▸ length.toNat_lt
    rw [prefixed, lePrefix_of_lt _ _ bound, sized]
    exact congrArg (fun word => toLe word ++ body) (LeWord.ofNat_toNat length)
  refine (parses_bind_encoded (parses_take _ _) fun id =>
    parses_bind_encoded (parses_take _ _) fun nonce =>
    parses_bind_encoded (parses_readLe UInt32 _) fun ctLen =>
    parses_bind_encoded (parses_take _ _) fun body => parses_pure _).congr fun envelope bytes => ?_
  constructor
  · rintro ⟨id, _, ⟨nonce, _, ⟨ctLen, _, ⟨body, _, ⟨rfl, rfl⟩, rfl⟩, rfl⟩, rfl⟩, rfl⟩
    refine ⟨body.property, ?_⟩
    rw [EntryEnvelope.toBytes, body_prefix ctLen body.val body.property, List.append_nil,
      List.append_assoc]
  · rintro ⟨sized, rfl⟩
    refine ⟨envelope.id.bytes, _, ⟨envelope.nonce, _, ⟨envelope.ctLen, _,
      ⟨⟨envelope.ciphertextAndTag, sized⟩, _, ⟨rfl, rfl⟩, rfl⟩, rfl⟩, rfl⟩, ?_⟩
    rw [EntryEnvelope.toBytes, body_prefix _ _ sized, List.append_nil, List.append_assoc]

/-- The vault parser admits exactly the layouts of well-formed vaults. -/
theorem parses_readVault : Parses readVault fun vault bytes =>
    vault.WellFormed ∧ ∃ absent, bytes = vault.layout absent := by
  refine (parses_bind_encoded parses_readVersion fun version =>
    parses_bind_encoded parses_readKdfAlgorithm fun _ =>
    parses_bind_encoded (parses_take _ _) fun kdfBytes =>
    parses_bind_encoded (parses_take _ _) fun salt =>
    parses_bind_encoded (parses_take _ _) fun probeNonce =>
    parses_bind_encoded (parses_take _ _) fun probeCt =>
    parses_bind_encoded (parses_readBlob _) fun kHsm =>
    parses_bind_encoded (parses_readBlob _) fun totpSeed =>
    parses_bind_encoded (parses_readLe UInt64 _) fun counter =>
    parses_bind_encoded (parses_readLe Int64 _) fun failure =>
    parses_bind parses_readMetadata fun metadata =>
    parses_bind_encoded (parses_take _ _) fun indexNonce =>
    parses_bind_legal (parses_readPrefixed UInt32 _) fun sealedIndex =>
    parses_bind_encoded (parses_readLe UInt32 _) fun count =>
    parses_bind_legal (parses_readMany parses_readEnvelope (LeWord.toNat count)) fun envelopes =>
      parses_pure _).congr fun vault bytes => ?_
  constructor
  · rintro ⟨version, _, ⟨_, _, ⟨kdfBytes, _, ⟨salt, _, ⟨probeNonce, _, ⟨probeCt, _, ⟨kHsm, _,
      ⟨totpSeed, _, ⟨counter, _, ⟨failure, _, ⟨metadata, _, _, ⟨absent, rfl⟩, ⟨indexNonce, _,
      ⟨sealedIndex, _, indexFits, ⟨count, _, ⟨envelopes, _, ⟨counted, bodies⟩, ⟨rfl, rfl⟩, rfl⟩,
      rfl⟩, rfl⟩, rfl⟩, rfl⟩, rfl⟩, rfl⟩, rfl⟩, rfl⟩, rfl⟩, rfl⟩, rfl⟩, rfl⟩, rfl⟩, rfl⟩
    have bound : envelopes.length < 2 ^ 32 := counted ▸ LeWord.toNat_lt count
    have written : toLe count = lePrefix UInt32 envelopes.length := by
      rw [lePrefix_of_lt UInt32 _ bound, counted, LeWord.ofNat_toNat]
    refine ⟨⟨indexFits, bound, bodies⟩, absent, ?_⟩
    rw [Vault.layout, KdfParams.toBytes_fromBytes, ← written, List.append_nil]
  · rintro ⟨⟨indexFits, bound, bodies⟩, absent, rfl⟩
    refine ⟨vault.version, _, ⟨(), _, ⟨⟨vault.kdfParams.toBytes, vault.kdfParams.toBytes_length⟩, _,
      ⟨vault.salt, _, ⟨vault.probeNonce, _, ⟨vault.probeCt, _, ⟨vault.kHsmWrapBlob, _,
      ⟨vault.totpSeedWrapBlob, _, ⟨vault.rlCounter, _, ⟨vault.rlLastFailure, _,
      ⟨vault.metadata, _, _, ⟨absent, rfl⟩, ⟨vault.sealedIndexNonce, _, ⟨vault.sealedIndexCt, _,
      indexFits, ⟨LeWord.ofNat vault.envelopes.length, _, ⟨vault.envelopes, _,
      ⟨(LeWord.toNat_ofNat _ bound).symm, bodies⟩, ⟨?_, rfl⟩, rfl⟩, rfl⟩, rfl⟩, rfl⟩, rfl⟩, rfl⟩,
      rfl⟩, rfl⟩, rfl⟩, rfl⟩, rfl⟩, rfl⟩, rfl⟩, rfl⟩, ?_⟩
    · rw [KdfParams.fromBytes_toBytes]
    · rw [Vault.layout, lePrefix_of_lt UInt32 _ bound, List.append_nil]

/-- A byte string is accepted as a vault exactly when it is a layout of that well-formed vault. -/
theorem Vault.fromBytes_ok_iff (bytes : Bytes) (vault : Vault) :
    Vault.fromBytes bytes = .ok vault ↔ vault.WellFormed ∧ ∃ absent, bytes = vault.layout absent :=
  parseAll_ok_iff parses_readVault bytes vault

/-- A well-formed vault is read back as written. -/
theorem Vault.fromBytes_toBytes {vault : Vault} (formed : vault.WellFormed) :
    Vault.fromBytes vault.toBytes = .ok vault :=
  (fromBytes_ok_iff _ _).mpr ⟨formed, 0, rfl⟩

/-- Every parsed vault is well formed. -/
theorem Vault.wellFormed_of_fromBytes {bytes : Bytes} {vault : Vault}
    (parsed : Vault.fromBytes bytes = .ok vault) : vault.WellFormed :=
  ((fromBytes_ok_iff _ _).mp parsed).1

end Passman
