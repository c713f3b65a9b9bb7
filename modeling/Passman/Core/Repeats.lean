import Passman.Core.Effects
import Passman.Core.Rebuilt
import Passman.Recovery.RoundTrip
import Passman.Reference.Device
import Passman.Vault.Listing

/-!
# Restoring repeated identifiers

The payload of a recovery file is a list of entries, and a restored vault is keyed by
identifier. The payload decoder does not look at identifiers and the restoration inserts
or updates, so of several entries under one identifier only one row is kept.
-/
namespace Passman

open Bytewise Fallible

/-- No two entries of the payload carry one identifier. -/
def ExportPayload.DistinctIds (payload : ExportPayload) : Prop :=
  (payload.entries.map fun entry => entry.id).Nodup

/-- The region of an entry's record is part of the encoded payload. -/
theorem ExportPayload.region_lt (payload : ExportPayload) {entry : RecoveryEntry}
    (member : entry ∈ payload.entries) :
    (EntryRecord.mk entry.username entry.password entry.url entry.notes).region.length ≤
      (encodePayload payload).length := by
  have inside := length_le_flatMap RecoveryEntry.toBytes member
  have whole : (payload.entries.flatMap RecoveryEntry.toBytes).length ≤
      (encodePayload payload).length := by
    rw [encodePayload, List.length_append]
    omega
  have region : (EntryRecord.mk entry.username entry.password entry.url entry.notes).region.length
      ≤ entry.toBytes.length := by
    simp only [EntryRecord.region, EntryRecord.fields, List.flatMap_cons, List.flatMap_nil,
      List.append_nil, RecoveryEntry.toBytes, List.length_append]
    omega
  omega

section Restoration

variable [Crates]

/-- The payload of an imported file is shorter than the capacity of a length field. -/
theorem importWithinMemory_short (strict : StrictLaws) {file : Bytes} {password : String}
    {available : Option UInt64} {payload : ExportPayload}
    (imported : importWithinMemory file password available = .ok payload) :
    (encodePayload payload).length < 2 ^ 32 := by
  obtain ⟨frame, _, plaintext, read, _, decrypted, decoded⟩ := importWithinMemory_ok_iff.mp imported
  obtain ⟨⟨_, capacity⟩, _⟩ := (readFrame_ok_iff file frame).mp read
  obtain ⟨_, rfl⟩ := (decodePayload_ok_iff plaintext payload).mp decoded
  have tagged := decrypt_length strict decrypted
  omega

/-- A file and a password decode to one payload, whatever memory is available. -/
theorem importWithinMemory_unique {file : Bytes} {password : String}
    {early late : Option UInt64} {payload other : ExportPayload}
    (imported : importWithinMemory file password early = .ok payload)
    (again : importWithinMemory file password late = .ok other) : other = payload := by
  obtain ⟨frame, _, _, read, hashed, decrypted, decoded⟩ := importWithinMemory_ok_iff.mp imported
  obtain ⟨_, _, _, reread, rehashed, redecrypted, redecoded⟩ := importWithinMemory_ok_iff.mp again
  obtain rfl := Except.ok.inj (read.symm.trans reread)
  have first := (argon2idWithinMemory_eq_ok.mp hashed).2.2
  have second := (argon2idWithinMemory_eq_ok.mp rehashed).2.2
  obtain rfl := Except.ok.inj (first.symm.trans second)
  obtain rfl := Except.ok.inj (decrypted.symm.trans redecrypted)
  exact Except.ok.inj (redecoded.symm.trans decoded)

/-- An imported entry is an item with the identifier and the fields of the entry. -/
theorem importItem_ok {entry : RecoveryEntry} {item : Item}
    (imported : importItem entry = .ok item) :
    item.id = ⟨entry.id⟩ ∧ item.label = entry.label ∧
      Crates.policyOfBytes entry.policy = some item.policy ∧
      item.record = ⟨entry.username, entry.password, entry.url, entry.notes⟩ := by
  rw [importItem, importEntryParts] at imported
  cases read : Crates.policyOfBytes entry.policy with
  | none =>
    rw [read] at imported
    cases imported
  | some policy =>
    rw [read] at imported
    obtain rfl := Except.ok.inj imported
    exact ⟨rfl, rfl, rfl, rfl⟩

/-- Imported entries are items, one for each entry in order. -/
theorem importItems_ok {entries : List RecoveryEntry} {items : List Item}
    (imported : entries.mapM importItem = .ok items) :
    itemIds items = (entries.map fun entry => EntryId.mk entry.id) ∧
      ∀ item ∈ items, ∃ entry ∈ entries, importItem entry = .ok item := by
  have paired := Op.mapM_ok imported
  clear imported
  induction paired with
  | nil => exact ⟨rfl, List.forall_mem_nil _⟩
  | @cons entry item entries items first rest ih =>
    obtain ⟨ids, each⟩ := ih
    obtain ⟨named, _⟩ := importItem_ok first
    refine ⟨?_, ?_⟩
    · rw [itemIds, List.map_cons, List.map_cons, named]
      exact congrArg (List.cons _) ids
    · refine List.forall_mem_cons.mpr ⟨⟨entry, List.mem_cons_self, first⟩, ?_⟩
      intro other member
      obtain ⟨source, inside, same⟩ := each other member
      exact ⟨source, List.mem_cons_of_mem _ inside, same⟩

variable {δ : Type} [Platform δ]

/-- A vault opens to the index, which has one row for each item, and every item is there: its row in
the index and its record in an envelope. -/
def Vault.ContainsAll (vault : Vault) (kMaster : MasterKey) (index : Index) (items : List Item) :
    Prop :=
  vault.openIndex kMaster = .ok index ∧ index.length = items.length ∧
    ∀ item ∈ items, item.row ∈ index ∧ vault.decryptEntry kMaster item.id = .ok item.record

/-- For every recovery file that decrypts and decodes to a payload and is restored without an error,
the vault that is stored contains all entries of the payload and no others exactly when no two of
them carry one identifier. -/
theorem restoration_keeps_entries_iff (aead : AeadLaws) (laws : PostcardLaws)
    (strict : StrictLaws) {file : Bytes} {password : String} {available : Option UInt64}
    {payload : ExportPayload} (decodes : importWithinMemory file password available = .ok payload)
    {kdf : KdfParams} {config : TotpConfig} {before after : World δ} {app : UnlockedApp}
    {uri : String}
    (restores : importRecovery file password kdf config before = (.ok (app, uri), after)) :
    ∃ restored items, payload.entries.mapM importItem = .ok items ∧
      items.length = payload.entries.length ∧ after.file = some restored.toBytes ∧
      (after.Readable → after.Stores restored) ∧
      (restored.ContainsAll app.kMaster app.index items ↔ payload.DistinctIds) := by
  obtain ⟨found, _, _, _, kMaster, created, items, restored, imported, founded, chosen, puts,
    installed, _⟩ := importRecovery_founded restores
  obtain rfl := importWithinMemory_unique decodes imported
  obtain ⟨ids, each⟩ := importItems_ok chosen
  obtain ⟨_, _, _, _, _, _, _, _, made⟩ := founded.sealedUnder
  have counted : items.length = found.entries.length := by
    have lengths := congrArg List.length ids
    rwa [itemIds, List.length_map, List.length_map] at lengths
  have named : (itemIds items).Nodup ↔ found.DistinctIds := by
    have injective : Function.Injective EntryId.mk := fun _ _ same => EntryId.mk.inj same
    have renamed : (found.entries.map fun entry => EntryId.mk entry.id) =
        (found.entries.map fun entry => entry.id).map EntryId.mk := List.map_map.symm
    rw [ids, renamed, ExportPayload.DistinctIds, List.nodup_map_iff injective]
    exact Iff.rfl
  have regions : ∀ item ∈ items, item.record.region.length < 2 ^ 32 := by
    intro item member
    obtain ⟨entry, inside, source⟩ := each item member
    obtain ⟨_, _, _, record⟩ := importItem_ok source
    have short := importWithinMemory_short strict imported
    have part := found.region_lt inside
    rw [record]
    omega
  have opens : restored.openIndex app.kMaster = .ok app.index := by
    rw [installed.sessionKey]
    exact installed.index
  rw [← installed.sessionKey] at puts made
  refine ⟨restored, items, chosen, counted, installed.file, ?_, ?_⟩
  · rintro ⟨other, held⟩
    obtain ⟨rfl, _⟩ := held.of_written installed.file ((Vault.Clamped.create made).putAll puts)
    exact held
  · rw [← named]
    constructor
    · rintro ⟨_, full, _⟩
      -- The index has only as many rows as the payload has identifiers.
      have opened := ((restored.openIndex_ok_iff app.kMaster app.index).mp opens).1
      obtain ⟨start, empty, rows⟩ := puts.exact aead laws strict opened
      obtain rfl := Vault.create_exact aead laws strict made empty
      have same : app.index = rowsOf items := rows
      rw [same] at full
      exact (rowsOf_length items).2 full
    · intro distinct
      obtain ⟨rows, lists⟩ := puts.lists_exact aead laws strict made distinct regions opens
      refine ⟨opens, by rw [rows, List.length_map], fun item member => ?_⟩
      exact ⟨rows ▸ List.mem_map_of_mem member, lists.decrypts item member⟩

end Restoration

namespace Reference

/-- An entry with a serialized policy without overrides. -/
def recoveryEntry (id : Block 16) (label : String) : RecoveryEntry :=
  letI := crates
  ⟨id, label, "a", "b", "", "", (Crates.policyToBytes .default).getD []⟩

/-- A recovery file with two entries. -/
def twoEntries (first second : Block 16) : Bytes :=
  letI := crates
  let entries := [recoveryEntry first "mail", recoveryEntry second "bank"]
  (exportWithinMemory ⟨Block.replicate 32 0, kdfParams, entries⟩ "pw" floorParams none
    (Block.replicate 32 0) nonce).toOption.getD []

/-- The identifiers of the entries a file decodes to. -/
def decodedIds (file : Bytes) : Option (List (Block 16)) :=
  letI := crates
  (importWithinMemory file "pw" none).toOption.map fun payload =>
    payload.entries.map fun entry => entry.id

/-- The restoration of a file on a fresh device; it is computed by the kernel only. -/
@[irreducible] def restorationOf (file : Bytes) :
    Except CoreError (UnlockedApp × String) × World Device :=
  letI := crates
  importRecovery file "pw" kdfParams .default world

/-- The restoration under its name. -/
theorem restorationOf_run (file : Bytes) :
    @importRecovery Device _ crates file "pw" kdfParams .default world = restorationOf file := by
  unfold restorationOf
  rfl

end Reference

/-- A recovery file that decodes to two entries under one identifier is restored without an error,
and the session lists one of them. -/
theorem repeated_identifier_is_collapsed :
    let file := Reference.twoEntries (Block.replicate 16 1) (Block.replicate 16 1)
    Reference.decodedIds file = some [Block.replicate 16 1, Block.replicate 16 1] ∧
      ∃ app uri, (Reference.restorationOf file).1 = .ok (app, uri) ∧
        app.index.map IndexEntry.label = ["bank"] := by
  intro file
  have listed : (Reference.restorationOf file).1.toOption.map
      (fun opened => opened.1.index.map IndexEntry.label) = some ["bank"] := by decide +kernel
  refine ⟨by decide +kernel, ?_⟩
  obtain ⟨⟨app, uri⟩, opened, labels⟩ := Option.map_eq_some_iff.mp listed
  exact ⟨app, uri, Op.ok_of_returned opened, labels⟩

/-- A recovery file of two entries under different identifiers is restored with both. -/
theorem restoration_keeps_entries_reference :
    letI := Reference.crates
    let file := Reference.twoEntries (Block.replicate 16 1) (Block.replicate 16 2)
    ∃ (restored : Vault) (items : List Item) (app : UnlockedApp) (uri : String),
      (Reference.restorationOf file).1 = .ok (app, uri) ∧ items.length = 2 ∧
      (Reference.restorationOf file).2.file = some restored.toBytes ∧
      restored.ContainsAll app.kMaster app.index items := by
  intro file
  have ids : Reference.decodedIds file = some [Block.replicate 16 1, Block.replicate 16 2] := by
    decide +kernel
  obtain ⟨payload, decoded, named⟩ := Option.map_eq_some_iff.mp ids
  have distinct : payload.DistinctIds := by
    rw [ExportPayload.DistinctIds, named]
    decide
  have two := congrArg List.length named
  rw [List.length_map] at two
  obtain ⟨⟨app, uri⟩, opened⟩ := Option.isSome_iff_exists.mp
    (by decide +kernel : (Reference.restorationOf file).1.toOption.isSome = true)
  have ran := (Reference.restorationOf_run file).trans (Op.ran_of_returned opened)
  obtain ⟨restored, items, _, counted, wrote, _, contains⟩ :=
    @restoration_keeps_entries_iff Reference.crates Reference.Device _ Reference.aeadLaws
      Reference.postcardLaws Reference.strictLaws _ _ _ _ (Op.ok_of_returned decoded) _ _ _ _ _ _
      ran
  exact ⟨restored, items, app, uri, Op.ok_of_returned opened, counted.trans two, wrote,
    contains.mpr distinct⟩

end Passman
