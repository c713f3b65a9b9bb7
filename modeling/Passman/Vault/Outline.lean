import Passman.Vault.Changes

/-!
# The sizes of a vault

The outline of a vault keeps what decides the length of its file: the version, the lengths of
the wrap blobs, of the sealed index and of every sealed entry, and the rows. Every change of a
vault changes its outline in one way, whatever nonces were drawn, so the length of a file is
known before it is written.
-/
namespace Passman

open Bytewise

/-- The bytes of a vault file outside the wrap blobs, the sealed index and the envelopes. -/
def fixedLen : Nat := 168

/-- The bytes of an envelope outside its body. -/
def envelopeHeaderLen : Nat := 44

/-- What decides the length of a vault file. -/
structure Outline where
  /-- The format version. -/
  version : FormatVersion
  /-- The length of both wrap blobs. -/
  blobs : Nat
  /-- The length of the sealed index. -/
  sealedIndex : Nat
  /-- The rows the sealed index opens to. -/
  rows : Except VaultError Index
  /-- The identifier of every sealed entry with the length of its body. -/
  bodies : List (EntryId × Nat)

/-- The length of the file. -/
def Outline.length (outline : Outline) : Nat :=
  fixedLen + outline.blobs + outline.sealedIndex +
    (outline.bodies.map fun body => envelopeHeaderLen + body.2).sum

/-- The identifier of an envelope with the length of its body. -/
def EntryEnvelope.size (envelope : EntryEnvelope) : EntryId × Nat :=
  (envelope.id, envelope.ciphertextAndTag.length)

/-- The size of an envelope is kept under its identifier. -/
theorem EntryEnvelope.size_fst (envelope : EntryEnvelope) : Prod.fst envelope.size = envelope.id :=
  rfl

/-- The length of a sealed record. -/
def EntryRecord.sealedLength (record : EntryRecord) : Nat := record.encodePadded.length + tagLen

section Changes

variable [Crates]

/-- The rows a reader finds in the plaintext of an index. -/
def readRows (version : FormatVersion) (plaintext : Bytes) : Except VaultError Index := do
  let postcard ← indexPostcard version plaintext
  match Crates.rowsOfBytes postcard with
  | some rows => .ok rows
  | none => .error (.malformedRecord "sealed index is not valid postcard")

namespace Outline

/-- Seal the rows. -/
def reseal (outline : Outline) (rows : Index) : Option Outline := do
  let postcard ← Crates.rowsToBytes rows
  let plaintext := indexPlaintext outline.version postcard
  return { outline with
    sealedIndex := plaintext.length + tagLen
    rows := readRows outline.version plaintext }

/-- The outline of a fresh vault with wrap blobs of a length. -/
def fresh (blobs : Nat) : Option Outline := reseal ⟨.current, blobs, 0, .ok [], []⟩ []

/-- Insert or update an item. -/
def put (outline : Outline) (item : Item) : Option Outline := do
  let rows ← outline.rows.toOption
  reseal { outline with
    bodies := Keyed.upsert Prod.fst (item.id, item.record.sealedLength) outline.bodies }
    (Index.upsert rows item.row)

/-- Remove an entry. -/
def drop (outline : Outline) (id : EntryId) : Option Outline := do
  let rows ← outline.rows.toOption
  reseal { outline with bodies := Keyed.remove Prod.fst id outline.bodies } (Index.remove rows id)

end Outline

/-- The outline of a vault under a master key. -/
def Vault.outline (vault : Vault) (kMaster : MasterKey) : Outline where
  version := vault.version
  blobs := vault.kHsmWrapBlob.val.length + vault.totpSeedWrapBlob.val.length
  sealedIndex := vault.sealedIndexCt.length
  rows := vault.decryptIndex kMaster
  bodies := vault.envelopes.map EntryEnvelope.size

/-- Every layout of a vault is as long as its outline says. -/
theorem Vault.layout_length (vault : Vault) (absent : Int64) (kMaster : MasterKey) :
    (vault.layout absent).length = (vault.outline kMaster).length := by
  have words : (LeWord.width UInt16 = 2 ∧ LeWord.width UInt32 = 4) ∧
      LeWord.width UInt64 = 8 ∧ LeWord.width Int64 = 8 := ⟨⟨rfl, rfl⟩, rfl, rfl⟩
  have metadata : (vault.metadata.toBytes absent).length = 17 := by
    rw [VaultMetadata.toBytes]
    cases vault.metadata.lastExportAt <;> simp [words]
  have envelopes : (vault.envelopes.flatMap EntryEnvelope.toBytes).length =
      ((vault.outline kMaster).bodies.map fun body => envelopeHeaderLen + body.2).sum := by
    rw [List.length_flatMap, outline, List.map_map]
    congr 1
    refine List.map_congr_left fun envelope _ => ?_
    have id := envelope.id.bytes.property
    have nonce := envelope.nonce.property
    simp only [EntryEnvelope.toBytes, prefixed, List.length_append, lePrefix_length, id, nonce,
      words, Function.comp_apply, EntryEnvelope.size, envelopeHeaderLen, entryIdLen]
    omega
  have kdf := vault.kdfParams.toBytes_length
  have salt := vault.salt.property
  have probeNonce := vault.probeNonce.property
  have probe := vault.probeCt.property
  have indexNonce := vault.sealedIndexNonce.property
  rw [Outline.length, ← envelopes]
  simp only [layout, prefixed, List.length_append, List.length_singleton, lePrefix_length,
    toLe_length, words, kdf, salt, probeNonce, probe, indexNonce, metadata, outline, fixedLen,
    probeCtLen, kdfParamsLen]
  omega

/-- The file of a vault is as long as its outline says. -/
theorem Vault.toBytes_length (vault : Vault) (kMaster : MasterKey) :
    vault.toBytes.length = (vault.outline kMaster).length := vault.layout_length _ kMaster

/-- Sealing rows changes the outline as planned. -/
theorem Vault.outline_reseal (aead : AeadLaws) (vault : Vault) {index : Index} {kMaster : MasterKey}
    {nonce : Nonce} {sealed : Bytes}
    (done : sealIndex index vault.version kMaster nonce = .ok sealed) :
    (vault.outline kMaster).reseal index =
      some (outline { vault with sealedIndexNonce := nonce, sealedIndexCt := sealed } kMaster) := by
  obtain ⟨postcard, written, encrypted⟩ := sealIndex_ok done
  have length := encrypt_length aead encrypted
  have opens : decryptIndex { vault with sealedIndexNonce := nonce, sealedIndexCt := sealed }
      kMaster = readRows vault.version (indexPlaintext vault.version postcard) := by
    rw [decryptIndex, decrypt_encrypt aead encrypted]
    rfl
  rw [Outline.reseal, written]
  simp only [Option.bind_eq_bind, Option.bind_some, Option.pure_def, Option.some.injEq,
    outline, Outline.mk.injEq, opens, and_true, true_and]
  exact length.symm

/-- An insertion changes the outline as planned. -/
theorem Vault.Puts.outline (aead : AeadLaws) {kMaster : MasterKey} {item : Item}
    {vault changed : Vault} (puts : Vault.Puts kMaster item vault changed) :
    (vault.outline kMaster).put item = some (changed.outline kMaster) := by
  obtain ⟨entryNonce, indexNonce, envelope, index, sealed, made, opened, done, rfl⟩ := puts.stores
  obtain ⟨named, _, _, encrypted⟩ := encryptEntry_ok made
  have size : envelope.size = (item.id, item.record.sealedLength) :=
    Prod.ext named (encrypt_length aead encrypted)
  have bodies : (Keyed.upsert EntryEnvelope.id envelope vault.envelopes).map EntryEnvelope.size =
      Keyed.upsert Prod.fst (item.id, item.record.sealedLength) (vault.outline kMaster).bodies := by
    rw [Keyed.map_upsert EntryEnvelope.id EntryEnvelope.size_fst, size]
    rfl
  have rows : (vault.outline kMaster).rows = .ok index := opened
  rw [Outline.put, rows, ← bodies]
  exact outline_reseal aead
    { vault with envelopes := Keyed.upsert EntryEnvelope.id envelope vault.envelopes } done

/-- A removal changes the outline as planned. -/
theorem Vault.Drops.outline (aead : AeadLaws) {kMaster : MasterKey} {id : EntryId}
    {vault changed : Vault} (drops : Vault.Drops kMaster id vault changed) :
    (vault.outline kMaster).drop id = some (changed.outline kMaster) := by
  obtain ⟨_, indexNonce, index, sealed, opened, done, rfl⟩ := drops.stores
  have bodies : (Keyed.remove EntryEnvelope.id id vault.envelopes).map EntryEnvelope.size =
      Keyed.remove Prod.fst id (vault.outline kMaster).bodies :=
    Keyed.map_remove EntryEnvelope.id EntryEnvelope.size_fst id vault.envelopes
  have rows : (vault.outline kMaster).rows = .ok index := opened
  rw [Outline.drop, rows, ← bodies]
  exact outline_reseal aead
    { vault with envelopes := Keyed.remove EntryEnvelope.id id vault.envelopes } done

/-- Insertions change the outline as planned. -/
theorem Vault.PutsAll.outline (aead : AeadLaws) {kMaster : MasterKey} {items : List Item}
    {vault changed : Vault} (puts : Vault.PutsAll kMaster items vault changed) :
    items.foldlM Outline.put (vault.outline kMaster) = some (changed.outline kMaster) := by
  induction puts with
  | nil => rfl
  | cons first rest ih =>
    rw [List.foldlM_cons, first.outline aead]
    exact ih

/-- A created vault has the planned outline. -/
theorem Vault.outline_create (aead : AeadLaws) {kdfParams : KdfParams} {salt : Block 32}
    {kHsmWrapBlob totpSeedWrapBlob : Bytes} {metadata : VaultMetadata} {kMaster : MasterKey}
    {probeNonce indexNonce : Nonce} {vault : Vault}
    (made : create kdfParams salt kHsmWrapBlob totpSeedWrapBlob metadata kMaster probeNonce
      indexNonce = .ok vault) :
    Outline.fresh (kHsmWrapBlob.length + totpSeedWrapBlob.length) =
      some (vault.outline kMaster) := by
  obtain ⟨kHsmBlob, totpSeedBlob, probe, sealedIndex, rfl, rfl, _, done, rfl⟩ :=
    create_ok_iff.mp made
  let unsealed := Vault.fresh kdfParams salt kHsmBlob totpSeedBlob metadata probeNonce indexNonce
    probe []
  have planned : Outline.fresh (kHsmBlob.val.length + totpSeedBlob.val.length) =
      (unsealed.outline kMaster).reseal [] := rfl
  exact planned.trans (outline_reseal aead unsealed done)

end Changes

/-- A sealed record is longer than its notes. -/
theorem EntryRecord.notes_lt_sealedLength (record : EntryRecord) :
    (utf8 record.notes).length < record.sealedLength := by
  have inside := record.region_length
  have padded := le_roundUp bucket (4 + record.region.length) (by decide)
  rw [sealedLength, encodePadded, padWithLength_length _ _ (by decide), tagLen]
  omega

/-- A file into which a record was planned is longer than the sealed record. -/
theorem Outline.sealedLength_le_put [Crates] {outline changed : Outline} {item : Item}
    (planned : outline.put item = some changed) : item.record.sealedLength ≤ changed.length := by
  have covered : ∀ bodies : List (EntryId × Nat), item.record.sealedLength ≤
      ((Keyed.upsert Prod.fst (item.id, item.record.sealedLength) bodies).map
        fun body => envelopeHeaderLen + body.2).sum := by
    intro bodies
    induction bodies with
    | nil => simp [Keyed.upsert]
    | cons head tail ih =>
      rw [Keyed.upsert]
      split
      · rw [List.map_cons, List.sum_cons]
        omega
      · rw [List.map_cons, List.sum_cons]
        omega
  obtain ⟨rows, _, resealed⟩ := Option.bind_eq_some_iff.mp planned
  obtain ⟨postcard, _, same⟩ := Option.bind_eq_some_iff.mp resealed
  obtain rfl := Option.some.inj same
  rw [Outline.length]
  exact Nat.le_trans (covered outline.bodies) (Nat.le_add_left _ _)

/-- The bodies of a file cover the number of entries and every single body. -/
theorem bodies_covered (envelopes : List EntryEnvelope) :
    envelopes.length ≤ (envelopes.map ((fun body => envelopeHeaderLen + body.2) ∘
        EntryEnvelope.size)).sum ∧
      ∀ envelope ∈ envelopes, envelope.ciphertextAndTag.length ≤
        (envelopes.map ((fun body => envelopeHeaderLen + body.2) ∘ EntryEnvelope.size)).sum := by
  induction envelopes with
  | nil => simp
  | cons head tail ih =>
    obtain ⟨counted, covered⟩ := ih
    rw [List.map_cons, List.sum_cons, List.length_cons]
    simp only [Function.comp_apply, EntryEnvelope.size, envelopeHeaderLen] at counted covered ⊢
    refine ⟨by omega, fun envelope member => ?_⟩
    rcases List.mem_cons.mp member with rfl | later
    · omega
    · have rest := covered envelope later
      omega

/-- No body is longer than the outline of its vault. -/
theorem Vault.body_le_outline [Crates] {vault : Vault} {envelope : EntryEnvelope}
    (member : envelope ∈ vault.envelopes) (kMaster : MasterKey) :
    envelope.ciphertextAndTag.length ≤ (vault.outline kMaster).length := by
  have covered := (bodies_covered vault.envelopes).2 envelope member
  rw [Outline.length, outline, List.map_map]
  omega

/-- Every stored body length is the actual one, clamped at the capacity of its field. -/
def Vault.Clamped (vault : Vault) : Prop :=
  ∀ envelope ∈ vault.envelopes,
    envelope.ctLen = UInt32.ofNat (min envelope.ciphertextAndTag.length (2 ^ 32 - 1))

namespace Vault.Clamped

/-- The lengths of a well-formed vault are not clamped. -/
theorem of_wellFormed {vault : Vault} (formed : vault.WellFormed) : vault.Clamped := by
  intro envelope member
  have exact := formed.bodies envelope member
  have bound := envelope.ctLen.toNat_lt
  rw [Nat.min_eq_left (by omega), exact, UInt32.ofNat_toNat]

/-- A clamped vault with a file below the capacity of the length fields is well formed. -/
theorem wellFormed [Crates] {vault : Vault} (clamped : vault.Clamped)
    (small : vault.toBytes.length < 2 ^ 32) : vault.WellFormed := by
  -- The master key decides the rows only, and every key gives the same length.
  have parts : vault.toBytes.length = fixedLen +
      (vault.kHsmWrapBlob.val.length + vault.totpSeedWrapBlob.val.length) +
      vault.sealedIndexCt.length + (vault.envelopes.map ((fun body => envelopeHeaderLen + body.2) ∘
        EntryEnvelope.size)).sum := by
    rw [vault.toBytes_length ⟨List.replicate 32 0, rfl⟩, Outline.length, outline, List.map_map]
  obtain ⟨counted, covered⟩ := bodies_covered vault.envelopes
  have positive : 0 < fixedLen := by decide
  refine ⟨by omega, by omega, fun envelope member => ?_⟩
  have bound := covered envelope member
  rw [clamped envelope member, Nat.min_eq_left (by omega), UInt32.toNat_ofNat',
    Nat.mod_eq_of_lt (by omega)]

variable [Crates] {kMaster : MasterKey} {vault changed : Vault}

/-- Insertions keep the lengths clamped. -/
theorem put {item : Item} (clamped : vault.Clamped) (puts : Vault.Puts kMaster item vault changed) :
    changed.Clamped := by
  obtain ⟨_, _, envelope, _, _, made, _, _, rfl⟩ := puts.stores
  intro stored member
  rcases Keyed.mem_of_mem_upsert EntryEnvelope.id member with rfl | older
  · exact (encryptEntry_ok made).2.2.1
  · exact clamped stored older

/-- Removals keep the lengths clamped. -/
theorem drop {id : EntryId} (clamped : vault.Clamped)
    (drops : Vault.Drops kMaster id vault changed) : changed.Clamped := by
  obtain ⟨_, _, _, _, _, _, rfl⟩ := drops.stores
  intro stored member
  exact clamped stored (List.mem_filter.mp member).1

/-- Insertions of items keep the lengths clamped. -/
theorem putAll {items : List Item} (clamped : vault.Clamped)
    (puts : Vault.PutsAll kMaster items vault changed) : changed.Clamped := by
  induction puts with
  | nil => exact clamped
  | cons first rest ih => exact ih (clamped.put first)

/-- A created vault has no lengths to clamp. -/
theorem create {kdfParams : KdfParams} {salt : Block 32} {kHsmWrapBlob totpSeedWrapBlob : Bytes}
    {metadata : VaultMetadata} {probeNonce indexNonce : Nonce}
    (made : Vault.create kdfParams salt kHsmWrapBlob totpSeedWrapBlob metadata kMaster probeNonce
      indexNonce = .ok vault) : vault.Clamped := by
  obtain ⟨_, _, _, _, _, _, _, _, rfl⟩ := create_ok_iff.mp made
  intro stored member
  cases member

end Vault.Clamped

end Passman
