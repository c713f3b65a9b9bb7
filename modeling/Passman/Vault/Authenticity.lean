import Passman.Reference
import Passman.Vault.Canonical
import Passman.Vault.Refinement

/-!
# Authenticity of an arbitrary file

The program seals three kinds of messages under a master key: probes, indexes and
entries. With an ideal cipher a ciphertext opens only under the key, the nonce and the
associated data it was sealed with. The associated data of the three kinds have different
lengths and determine every field they bind, so whatever opens from an arbitrary file was
sealed for the same use, the same version and the same identifier.
-/
namespace Passman

open Bytewise

/-- One sealing the program performed under a master key. -/
inductive Sealing where
  /-- The probe of a vault. -/
  | probe (version : FormatVersion) (kdfParams : KdfParams) (salt : Block 32) (nonce : Nonce)
  /-- An index. -/
  | index (version : FormatVersion) (rows : Index) (nonce : Nonce)
  /-- The record of an entry. -/
  | entry (version : FormatVersion) (id : EntryId) (record : EntryRecord) (nonce : Nonce)

namespace Sealing

/-- The nonce of the sealing. -/
def nonce : Sealing → Nonce
  | probe _ _ _ nonce => nonce
  | index _ _ nonce => nonce
  | entry _ _ _ nonce => nonce

/-- The associated data of the sealing. -/
def associatedData : Sealing → Bytes
  | probe version kdfParams salt _ => probeAssociatedData version kdfParams salt
  | index version _ _ => [version.val]
  | entry version id _ _ => entryAssociatedData version id

section Keyed

variable [Crates]

/-- The key of the sealing. -/
def key (kMaster : MasterKey) : Sealing → Key
  | probe _ _ _ _ => kMaster
  | index _ _ _ => hkdfExpand kMaster indexInfo
  | entry _ id _ _ => hkdfExpand kMaster (entryInfo id)

/-- The message of the sealing. -/
def plaintext : Sealing → Option Bytes
  | probe _ _ _ _ => some probePlaintext
  | index version rows _ => (Crates.rowsToBytes rows).map (indexPlaintext version)
  | entry _ _ record _ => some record.encodePadded

/-- The ciphertext is what the sealing produced. -/
def Produced (kMaster : MasterKey) (made : Sealing) (ciphertext : Bytes) : Prop :=
  ∃ message, made.plaintext = some message ∧
    Crates.aeadSeal (made.key kMaster) made.nonce made.associatedData message = some ciphertext

end Keyed

end Sealing

/-- The cipher is ideal for the keys of a master key: a ciphertext has the length of its message and
a tag, and opens only under the key, the nonce and the associated data of a sealing the program
performed, to the message that was sealed. -/
structure IdealAead [Crates] (kMaster : MasterKey) (honest : Sealing → Prop) : Prop where
  /-- The tag is 16 bytes long. -/
  sealLength : ∀ key nonce aad message ciphertext,
    Crates.aeadSeal key nonce aad message = some ciphertext →
      ciphertext.length = message.length + 16
  /-- Only performed sealings open. -/
  opens : ∀ key nonce aad ciphertext message,
    (key = kMaster ∨ ∃ info, key = hkdfExpand kMaster info) →
    Crates.aeadOpen key nonce aad ciphertext = some message →
      ∃ made, honest made ∧ made.key kMaster = key ∧ made.nonce = nonce ∧
        made.associatedData = aad ∧ made.plaintext = some message ∧
        made.Produced kMaster ciphertext

section Separation

/-- The associated data of a probe has 51 bytes. -/
theorem probeAssociatedData_length (version : FormatVersion) (kdfParams : KdfParams)
    (salt : Block 32) : (probeAssociatedData version kdfParams salt).length = 51 := by
  have tag : probeAdTag.length = 8 := by decide
  have salted := salt.property
  simp only [probeAssociatedData, List.length_append, List.length_cons, List.length_nil,
    KdfParams.toBytes_length, salted, tag, kdfParamsLen]

/-- The associated data of an entry has 17 bytes. -/
theorem entryAssociatedData_length (version : FormatVersion) (id : EntryId) :
    (entryAssociatedData version id).length = 17 := by
  have sized : id.bytes.val.length = 16 := id.bytes.property
  rw [entryAssociatedData, List.length_cons, sized]

/-- The associated data of a probe determines the version, the parameters and the salt. -/
theorem probeAssociatedData_inj {version otherVersion : FormatVersion}
    {kdfParams otherParams : KdfParams} {salt otherSalt : Block 32}
    (same : probeAssociatedData version kdfParams salt =
      probeAssociatedData otherVersion otherParams otherSalt) :
    version = otherVersion ∧ kdfParams = otherParams ∧ salt = otherSalt := by
  have front := List.append_cancel_right same
  have sized : ([version.val, kdfAlgorithmArgon2id] ++ kdfParams.toBytes).length =
      ([otherVersion.val, kdfAlgorithmArgon2id] ++ otherParams.toBytes).length := by
    simp only [List.length_append, KdfParams.toBytes_length]
    rfl
  obtain ⟨header, salts⟩ := List.append_inj front sized
  obtain ⟨versions, params⟩ := List.append_inj header rfl
  have blocks : (⟨kdfParams.toBytes, kdfParams.toBytes_length⟩ : Block kdfParamsLen) =
      ⟨otherParams.toBytes, otherParams.toBytes_length⟩ := Subtype.ext params
  refine ⟨Subtype.ext (List.cons.inj versions).1, ?_, Subtype.ext salts⟩
  rw [← KdfParams.fromBytes_toBytes kdfParams, blocks, KdfParams.fromBytes_toBytes]

/-- The associated data of an entry determines the version and the identifier. -/
theorem entryAssociatedData_inj {version otherVersion : FormatVersion} {id other : EntryId}
    (same : entryAssociatedData version id = entryAssociatedData otherVersion other) :
    version = otherVersion ∧ id = other := by
  obtain ⟨versions, bytes⟩ := List.cons.inj same
  refine ⟨Subtype.ext versions, ?_⟩
  have blocks : id.bytes = other.bytes := Subtype.ext bytes
  cases id
  cases other
  exact congrArg EntryId.mk blocks

/-- Associated data of a probe belongs to the probe of the same header. -/
theorem Sealing.of_probeData {made : Sealing} {version : FormatVersion} {kdfParams : KdfParams}
    {salt : Block 32} (same : made.associatedData = probeAssociatedData version kdfParams salt) :
    made = .probe version kdfParams salt made.nonce := by
  have long := probeAssociatedData_length version kdfParams salt
  cases made with
  | probe otherVersion otherParams otherSalt nonce =>
    obtain ⟨rfl, rfl, rfl⟩ := probeAssociatedData_inj same
    rfl
  | index otherVersion rows nonce =>
    rw [← same] at long
    cases long
  | entry otherVersion id record nonce =>
    rw [← same, Sealing.associatedData, entryAssociatedData_length] at long
    cases long

/-- Associated data of an index belongs to an index of the same version. -/
theorem Sealing.of_indexData {made : Sealing} {version : FormatVersion}
    (same : made.associatedData = [version.val]) :
    ∃ rows, made = .index version rows made.nonce := by
  cases made with
  | probe otherVersion kdfParams salt nonce =>
    have long := probeAssociatedData_length otherVersion kdfParams salt
    rw [Sealing.associatedData] at same
    rw [same] at long
    cases long
  | index otherVersion rows nonce =>
    have versions : otherVersion = version := Subtype.ext (List.cons.inj same).1
    exact ⟨rows, by rw [versions]; rfl⟩
  | entry otherVersion id record nonce =>
    have long := entryAssociatedData_length otherVersion id
    rw [Sealing.associatedData] at same
    rw [same] at long
    cases long

/-- Associated data of an entry belongs to the same entry under the same version. -/
theorem Sealing.of_entryData {made : Sealing} {version : FormatVersion} {id : EntryId}
    (same : made.associatedData = entryAssociatedData version id) :
    ∃ record, made = .entry version id record made.nonce := by
  have long := entryAssociatedData_length version id
  cases made with
  | probe otherVersion kdfParams salt nonce =>
    rw [← same, Sealing.associatedData, probeAssociatedData_length] at long
    cases long
  | index otherVersion rows nonce =>
    rw [← same] at long
    cases long
  | entry otherVersion other record nonce =>
    obtain ⟨rfl, rfl⟩ := entryAssociatedData_inj same
    exact ⟨record, rfl⟩

end Separation

section Opening

variable [Crates] {kMaster : MasterKey} {honest : Sealing → Prop}

/-- What decrypts under a key of the master key was sealed by the program. -/
theorem IdealAead.decrypted (ideal : IdealAead kMaster honest) {key : Key} {nonce : Nonce}
    {aad ciphertext message : Bytes}
    (derived : key = kMaster ∨ ∃ info, key = hkdfExpand kMaster info)
    (opened : decrypt key nonce aad ciphertext = .ok message) :
    ∃ made, honest made ∧ made.nonce = nonce ∧ made.associatedData = aad ∧
      made.plaintext = some message ∧ made.Produced kMaster ciphertext := by
  rw [decrypt] at opened
  split at opened
  · cases opened
  · cases found : Crates.aeadOpen key nonce aad ciphertext with
    | none =>
      rw [found] at opened
      cases opened
    | some plaintext =>
      rw [found] at opened
      obtain rfl := Except.ok.inj opened
      obtain ⟨made, performed, _, nonces, data, text, produced⟩ :=
        ideal.opens key nonce aad ciphertext _ derived found
      exact ⟨made, performed, nonces, data, text, produced⟩

/-- The message of a sealing is 16 bytes shorter than its ciphertext. -/
theorem IdealAead.produced_length (ideal : IdealAead kMaster honest) {made : Sealing}
    {ciphertext message : Bytes} (text : made.plaintext = some message)
    (produced : made.Produced kMaster ciphertext) : ciphertext.length = message.length + 16 := by
  obtain ⟨other, same, made'⟩ := produced
  rw [text] at same
  rw [Option.some.inj same]
  exact ideal.sealLength _ _ _ _ _ made'

/-- A probe that verifies was sealed for exactly this header. -/
theorem IdealAead.probe (ideal : IdealAead kMaster honest) {vault : Vault}
    (verified : vault.verifyProbe kMaster = .ok ()) :
    let made := Sealing.probe vault.version vault.kdfParams vault.salt vault.probeNonce
    honest made ∧ made.Produced kMaster vault.probeCt.val := by
  rw [Vault.verifyProbe] at verified
  cases opened : decrypt kMaster vault.probeNonce
      (probeAssociatedData vault.version vault.kdfParams vault.salt) vault.probeCt.val with
  | error error =>
    rw [opened] at verified
    cases verified
  | ok recovered =>
    obtain ⟨made, performed, nonces, data, _, produced⟩ := ideal.decrypted (.inl rfl) opened
    have same := Sealing.of_probeData data
    rw [nonces] at same
    rw [same] at performed produced
    exact ⟨performed, produced⟩

/-- An index that opens was sealed, row by row, under exactly this version. -/
theorem IdealAead.index (ideal : IdealAead kMaster honest) (laws : PostcardLaws) {vault : Vault}
    (formed : vault.WellFormed) {rows : Index}
    (opened : vault.decryptIndex kMaster = .ok rows) :
    let made := Sealing.index vault.version rows vault.sealedIndexNonce
    honest made ∧ made.Produced kMaster vault.sealedIndexCt := by
  rw [Vault.decryptIndex] at opened
  cases decrypted : decrypt (hkdfExpand kMaster indexInfo) vault.sealedIndexNonce
      [vault.version.val] vault.sealedIndexCt with
  | error error =>
    rw [decrypted] at opened
    cases opened
  | ok message =>
    obtain ⟨made, performed, nonces, data, text, produced⟩ :=
      ideal.decrypted (.inr ⟨indexInfo, rfl⟩) decrypted
    obtain ⟨rows', same⟩ := Sealing.of_indexData data
    rw [nonces] at same
    have sized := ideal.produced_length text produced
    rw [same] at performed produced text
    obtain ⟨postcard, written, padded⟩ := Option.map_eq_some_iff.mp text
    have fits : (indexPlaintext vault.version postcard).length + 16 < 2 ^ 32 := by
      rw [padded, ← sized]
      exact formed.index
    rw [decrypted] at opened
    simp only [Except.mapError, bind, Except.bind] at opened
    rw [← padded, indexPostcard_indexPlaintext _ _ fits] at opened
    simp only [laws.reads rows' postcard written] at opened
    obtain rfl := Except.ok.inj opened
    exact ⟨performed, produced⟩

/-- A record that decrypts was sealed for exactly this identifier and this version. -/
theorem IdealAead.entry (ideal : IdealAead kMaster honest) {vault : Vault}
    (formed : vault.WellFormed) {id : EntryId} {record : EntryRecord}
    (opened : vault.decryptEntry kMaster id = .ok record) :
    ∃ envelope ∈ vault.envelopes, envelope.id = id ∧
      let made := Sealing.entry vault.version id record envelope.nonce
      honest made ∧ made.Produced kMaster envelope.ciphertextAndTag := by
  rw [Vault.decryptEntry_eq] at opened
  cases found : vault.envelope? id with
  | none =>
    rw [found] at opened
    cases opened
  | some envelope =>
    rw [found] at opened
    change openEnvelope kMaster vault.version id envelope = .ok record at opened
    obtain ⟨member, named⟩ := Keyed.lookup_some EntryEnvelope.id found
    refine ⟨envelope, member, named, ?_⟩
    rw [openEnvelope] at opened
    cases decrypted : decrypt (hkdfExpand kMaster (entryInfo id)) envelope.nonce
        (entryAssociatedData vault.version id) envelope.ciphertextAndTag with
    | error error =>
      rw [decrypted] at opened
      cases opened
    | ok message =>
      obtain ⟨made, performed, nonces, data, text, produced⟩ :=
        ideal.decrypted (.inr ⟨entryInfo id, rfl⟩) decrypted
      obtain ⟨record', same⟩ := Sealing.of_entryData data
      rw [nonces] at same
      have sized := ideal.produced_length text produced
      rw [same] at performed produced text
      have padded : record'.encodePadded = message := Option.some.inj text
      have fits : RecordFits record' := by
        rw [RecordFits, padded, ← sized, formed.bodies envelope member]
        exact envelope.ctLen.toNat_lt
      rw [decrypted] at opened
      change EntryRecord.decode message = .ok record at opened
      rw [← padded, EntryRecord.decode_encodePadded record' fits.region] at opened
      obtain rfl := Except.ok.inj opened
      exact ⟨performed, produced⟩

/-- Whatever opens under a master key from an arbitrary file that parses was sealed under that key
for the same use: the probe for the same version, parameters, salt and nonce; the index for the same
version, and with exactly the identifiers of the envelopes; every record for the same version and
identifier. -/
theorem opened_parts_were_sealed (ideal : IdealAead kMaster honest) (laws : PostcardLaws)
    {bytes : Bytes} {vault : Vault} (parsed : Vault.fromBytes bytes = .ok vault) :
    (vault.verifyProbe kMaster = .ok () →
      let made := Sealing.probe vault.version vault.kdfParams vault.salt vault.probeNonce
      honest made ∧ made.Produced kMaster vault.probeCt.val) ∧
    (∀ rows, vault.openIndex kMaster = .ok rows →
      let made := Sealing.index vault.version rows vault.sealedIndexNonce
      honest made ∧ made.Produced kMaster vault.sealedIndexCt ∧
        (rows.map IndexEntry.id).Nodup ∧
        (rows.map IndexEntry.id).Perm (vault.envelopes.map EntryEnvelope.id)) ∧
    (∀ id record, vault.decryptEntry kMaster id = .ok record →
      ∃ envelope ∈ vault.envelopes, envelope.id = id ∧
        let made := Sealing.entry vault.version id record envelope.nonce
        honest made ∧ made.Produced kMaster envelope.ciphertextAndTag) := by
  have formed := Vault.wellFormed_of_fromBytes parsed
  refine ⟨fun verified => ideal.probe verified, ?_, fun id record opened =>
    ideal.entry formed opened⟩
  intro rows opened
  obtain ⟨decrypts, agree⟩ := (vault.openIndex_ok_iff kMaster rows).mp opened
  obtain ⟨performed, produced⟩ := ideal.index laws formed decrypts
  exact ⟨performed, produced, agree.leftDistinct, (Keyed.Agree.iff_perm.mp agree).2⟩

end Opening

namespace Reference

/-- What a sealing under the example key opens to, when it is asked for in its own context. -/
def opensTo (key : Key) (nonce : Nonce) (aad ciphertext : Bytes) (made : Sealing) : Option Bytes :=
  letI := crates
  made.plaintext.filter fun message =>
    made.key kMaster = key ∧ made.nonce = nonce ∧ made.associatedData = aad ∧
      Crates.aeadSeal (made.key kMaster) made.nonce made.associatedData message = some ciphertext

/-- The reference instance with a cipher that opens only what a history of sealings produced. -/
@[reducible] def idealCrates (history : List Sealing) : Crates :=
  { crates with
    aeadOpen := fun key nonce aad ciphertext =>
      history.findSome? (opensTo key nonce aad ciphertext) }

/-- The cipher of a history is ideal. -/
theorem idealAead (history : List Sealing) :
    @IdealAead (idealCrates history) kMaster (· ∈ history) := by
  let _ := idealCrates history
  refine ⟨?_, ?_⟩
  · intro key nonce aad message ciphertext done
    exact @AeadLaws.sealLength crates aeadLaws key nonce aad message ciphertext done
  · intro key nonce aad ciphertext message _ opened
    obtain ⟨made, performed, opens⟩ := List.exists_of_findSome?_eq_some opened
    obtain ⟨text, same⟩ := Option.filter_eq_some_iff.mp opens
    obtain ⟨keys, nonces, data, sealed⟩ := of_decide_eq_true same
    exact ⟨made, performed, keys, nonces, data, text, message, text, sealed⟩

/-- The serializer of a history is the reference serializer. -/
theorem idealPostcardLaws (history : List Sealing) : @PostcardLaws (idealCrates history) := by
  let _ := idealCrates history
  exact ⟨@PostcardLaws.writes crates postcardLaws, @PostcardLaws.reads crates postcardLaws⟩

/-- The record of the example entry. -/
def record : EntryRecord := ⟨"name", "secret", "", ""⟩

/-- The sealings behind a vault with one entry. -/
def history : List Sealing :=
  [.probe .current kdfParams (Block.replicate 32 0) nonce, .index .current [] nonce,
    .entry .current entryId record nonce,
    .index .current [⟨entryId, "label", ⟨none, none, none, none⟩⟩] nonce]

/-- A vault with one entry, made by the operations of the program. -/
def sealedVault : Vault :=
  letI := idealCrates history
  match Vault.create kdfParams (Block.replicate 32 0) [1] [2] (.new 7) kMaster nonce nonce with
  | .ok vault => (Vault.addOrUpdateEntry kMaster entryId "label" ⟨none, none, none, none⟩ record
      nonce nonce vault).2
  | .error _ => plainVault

/-- The sealed example vault fits its fields. -/
theorem sealedVault_wellFormed : sealedVault.WellFormed :=
  ⟨by decide +kernel, by decide +kernel, by decide +kernel⟩

end Reference

/-- The probe, the index and the entry of the sealed example vault open, and each was sealed. -/
theorem opened_parts_were_sealed_reference :
    letI := Reference.idealCrates Reference.history
    let vault := Reference.sealedVault
    (Sealing.probe vault.version vault.kdfParams vault.salt vault.probeNonce) ∈
        Reference.history ∧
      (∃ rows, rows ≠ [] ∧
        Sealing.index vault.version rows vault.sealedIndexNonce ∈ Reference.history) ∧
      ∃ envelope ∈ vault.envelopes,
        Sealing.entry vault.version envelope.id Reference.record envelope.nonce ∈
          Reference.history := by
  let _ := Reference.idealCrates Reference.history
  obtain ⟨probe, index, entry⟩ := opened_parts_were_sealed
    (Reference.idealAead Reference.history) (Reference.idealPostcardLaws Reference.history)
    (Vault.fromBytes_toBytes Reference.sealedVault_wellFormed)
  have verified : Reference.sealedVault.verifyProbe Reference.kMaster = .ok () := by
    decide +kernel
  have opened : Reference.sealedVault.openIndex Reference.kMaster =
      .ok [⟨Reference.entryId, "label", ⟨none, none, none, none⟩⟩] := by
    decide +kernel
  have decrypted : Reference.sealedVault.decryptEntry Reference.kMaster Reference.entryId =
      .ok Reference.record := by
    decide +kernel
  obtain ⟨envelope, stored, named, made⟩ := entry _ _ decrypted
  refine ⟨(probe verified).1, ⟨_, List.cons_ne_nil _ _, (index _ opened).1⟩, envelope, stored, ?_⟩
  rw [named]
  exact made.1

end Passman
