import Mathlib.Data.List.Induction
import Passman.Vault.Changes

/-!
# What a vault lists

A vault that opens under a key lists items: the rows of its index in order, each with the
record its envelope decrypts to. Items that were inserted into a fresh vault under distinct
identifiers are listed in the order of their insertion.
-/
namespace Passman

open Bytewise Fallible

/-- The identifiers of items. -/
def itemIds (items : List Item) : List EntryId := items.map Item.id

section Listing

variable [Crates]

/-- The vault opens under the key to exactly these items, in this order. -/
structure Vault.Lists (vault : Vault) (kMaster : MasterKey) (items : List Item) : Prop where
  /-- The index holds the rows of the items. -/
  opens : vault.openIndex kMaster = .ok (items.map Item.row)
  /-- Every item decrypts to its record. -/
  decrypts : ∀ item ∈ items, vault.decryptEntry kMaster item.id = .ok item.record

/-- What a vault lists under a key is unique. -/
theorem Vault.Lists.unique {vault : Vault} {kMaster : MasterKey} {items others : List Item}
    (lists : vault.Lists kMaster items) (again : vault.Lists kMaster others) : items = others := by
  have rows : items.map Item.row = others.map Item.row :=
    Except.ok.inj (lists.opens.symm.trans again.opens)
  have counted : items.length = others.length := by
    have lengths := congrArg List.length rows
    rwa [List.length_map, List.length_map] at lengths
  refine List.ext_getElem counted fun index here there => ?_
  have row : items[index].row = others[index].row := by
    have same := List.getElem_of_eq rows (by rwa [List.length_map])
    rwa [List.getElem_map, List.getElem_map] at same
  have ids : items[index].id = others[index].id := congrArg IndexEntry.id row
  have record := lists.decrypts _ (List.getElem_mem here)
  rw [ids, again.decrypts _ (List.getElem_mem there)] at record
  exact Item.ext ids (congrArg IndexEntry.label row) (congrArg IndexEntry.policy row)
    (Except.ok.inj record).symm

/-- The sealed lengths of items that are inserted one after another into a fresh vault stay below
the capacity of their fields. -/
structure SealsFit (items : List Item) : Prop where
  /-- The number of entries fits. -/
  count : items.length < 2 ^ 32
  /-- Every sealed record fits. -/
  records : ∀ item ∈ items, RecordFits item.record
  /-- The sealed index fits after every insertion. -/
  rows : ∀ front, front <+: items → IndexFits .current (front.map Item.row)

omit [Crates] in
/-- The rows carry the identifiers of the items. -/
theorem rows_ids (items : List Item) :
    (items.map Item.row).map IndexEntry.id = itemIds items := by
  rw [List.map_map]
  rfl

/-- The items a vault lists have distinct identifiers. -/
theorem Vault.Lists.distinct {vault : Vault} {kMaster : MasterKey} {items : List Item}
    (lists : vault.Lists kMaster items) : (itemIds items).Nodup := by
  have agree := ((vault.openIndex_ok_iff kMaster _).mp lists.opens).2
  rw [← rows_ids]
  exact agree.leftDistinct

omit [Crates] in
/-- A row under a new identifier is appended. -/
theorem upsert_row_absent {item : Item} {rows : Index} (absent : item.id ∉ rows.map IndexEntry.id) :
    Index.upsert rows item.row = rows ++ [item.row] := by
  induction rows with
  | nil => rfl
  | cons row rows rest =>
    rw [List.map_cons, List.mem_cons, not_or] at absent
    have other : ¬ row.id = item.row.id := fun same => absent.1 same.symm
    rw [Index.upsert, Keyed.upsert, if_neg other]
    exact congrArg (List.cons row) (rest absent.2)

/-- The rows after items were inserted into an empty index. -/
def rowsOf (items : List Item) : Index :=
  items.foldl (fun rows item => Index.upsert rows item.row) []

omit [Crates] in
/-- One more row after the others. -/
theorem rowsOf_snoc (items : List Item) (item : Item) :
    rowsOf (items ++ [item]) = Index.upsert (rowsOf items) item.row := by
  rw [rowsOf, List.foldl_append]
  rfl

omit [Crates] in
/-- Items under distinct identifiers are listed as they were inserted. -/
theorem rowsOf_distinct {items : List Item} (distinct : (itemIds items).Nodup) :
    rowsOf items = items.map Item.row := by
  induction items using List.reverseRec with
  | nil => rfl
  | append_singleton items item ih =>
    rw [itemIds, List.map_append, List.nodup_append] at distinct
    obtain ⟨earlier, _, apart⟩ := distinct
    have absent : item.id ∉ (items.map Item.row).map IndexEntry.id := by
      rw [List.map_map]
      intro member
      exact apart _ member _ (List.mem_singleton.mpr rfl) rfl
    rw [rowsOf_snoc, ih earlier, upsert_row_absent absent, List.map_append]
    rfl

omit [Crates] in
/-- Inserting items yields at most one row for each, and fewer when an identifier repeats. -/
theorem rowsOf_length (items : List Item) :
    (rowsOf items).length ≤ items.length ∧
      ((rowsOf items).length = items.length → (itemIds items).Nodup) := by
  induction items using List.reverseRec with
  | nil => exact ⟨Nat.le_refl _, fun _ => List.nodup_nil⟩
  | append_singleton items item ih =>
    obtain ⟨most, distinct⟩ := ih
    have counted : ((rowsOf (items ++ [item])).map IndexEntry.id).length =
        (rowsOf (items ++ [item])).length := List.length_map _
    rw [rowsOf_snoc, Index.upsert, Keyed.keys_upsert] at counted
    rw [rowsOf_snoc, Index.upsert, ← counted, List.length_append, List.length_singleton]
    by_cases repeated : item.id ∈ (rowsOf items).map IndexEntry.id
    · have same : item.row.id = item.id := rfl
      rw [same, if_pos repeated, List.length_map]
      refine ⟨Nat.le_succ_of_le most, fun full => ?_⟩
      omega
    · have same : item.row.id = item.id := rfl
      rw [same, if_neg repeated, List.length_append, List.length_map, List.length_singleton]
      refine ⟨Nat.succ_le_succ most, fun full => ?_⟩
      have earlier := distinct (Nat.succ.inj full)
      rw [rowsOf_distinct earlier, rows_ids] at repeated
      rw [itemIds, List.map_append, List.nodup_append]
      refine ⟨earlier, List.nodup_singleton _, ?_⟩
      rintro id member _ last rfl
      rw [List.map_singleton, List.mem_singleton] at last
      exact repeated (last ▸ member)

/-- An insertion under a new identifier is listed after the others. -/
theorem Vault.Puts.lists (aead : AeadLaws) (laws : PostcardLaws) {kMaster : MasterKey} {item : Item}
    {items : List Item} {vault changed : Vault} (puts : Vault.Puts kMaster item vault changed)
    (coherent : vault.Coherent kMaster (items.map Item.row))
    (decrypts : ∀ other ∈ items, vault.decryptEntry kMaster other.id = .ok other.record)
    (absent : item.id ∉ itemIds items) (recordFits : RecordFits item.record)
    (indexFits : IndexFits vault.version ((items ++ [item]).map Item.row))
    (countFits : (items ++ [item]).length < 2 ^ 32) :
    changed.Coherent kMaster ((items ++ [item]).map Item.row) ∧ changed.version = vault.version ∧
      ∀ other ∈ items ++ [item], changed.decryptEntry kMaster other.id = .ok other.record := by
  have inserted := puts.decrypts aead recordFits.region
  have kept {other : Item} (earlier : other ∈ items) :
      changed.decryptEntry kMaster other.id = .ok other.record := by
    have apart : item.id ≠ other.id := fun same => absent (same ▸ List.mem_map_of_mem earlier)
    rw [puts.frame apart, decrypts other earlier]
  obtain ⟨entryNonce, indexNonce, envelope, index, sealed, made, opened, done, rfl⟩ := puts.stores
  obtain rfl := Except.ok.inj (opened.symm.trans coherent.decrypts)
  have appended : Index.upsert (items.map Item.row) item.row = (items ++ [item]).map Item.row := by
    rw [List.map_append]
    exact upsert_row_absent (by rwa [rows_ids])
  have counted : ((items ++ [item]).map Item.row).length < 2 ^ 32 := by rwa [List.length_map]
  rw [← appended] at indexFits counted
  obtain ⟨moved, _⟩ := coherent.put aead laws recordFits indexFits counted made done
  rw [← appended]
  refine ⟨moved, rfl, fun other member => ?_⟩
  rcases List.mem_append.mp member with earlier | last
  · exact kept earlier
  · rw [List.mem_singleton.mp last]
    exact inserted

/-- Items inserted after those a vault lists are listed after them. -/
theorem Vault.PutsAll.lists_after (aead : AeadLaws) (laws : PostcardLaws) {kMaster : MasterKey}
    {items : List Item} {vault changed : Vault}
    (puts : Vault.PutsAll kMaster items vault changed) (front : List Item)
    (current : vault.version = .current)
    (coherent : vault.Coherent kMaster (front.map Item.row))
    (decrypts : ∀ other ∈ front, vault.decryptEntry kMaster other.id = .ok other.record)
    (distinct : (itemIds (front ++ items)).Nodup) (fits : SealsFit (front ++ items)) :
    changed.Coherent kMaster ((front ++ items).map Item.row) ∧
      changed.Lists kMaster (front ++ items) := by
  induction puts generalizing front with
  | nil =>
    rw [List.append_nil]
    exact ⟨coherent, coherent.opens, decrypts⟩
  | @cons item items vault middle changed first rest ih =>
    have next : front ++ item :: items = (front ++ [item]) ++ items := by
      rw [List.append_assoc, List.singleton_append]
    rw [next] at distinct fits ⊢
    have prior : front ++ [item] <+: (front ++ [item]) ++ items := List.prefix_append _ _
    have absent : item.id ∉ itemIds front := by
      have early : (itemIds (front ++ [item])).Nodup := by
        rw [itemIds, List.map_append] at distinct
        exact (List.nodup_append.mp distinct).1
      rw [itemIds, List.map_append, List.nodup_append] at early
      exact fun member => early.2.2 _ member _ (List.mem_singleton.mpr rfl) rfl
    have inside : item ∈ (front ++ [item]) ++ items := by simp
    have indexFits : IndexFits vault.version ((front ++ [item]).map Item.row) := by
      rw [current]
      exact fits.rows _ prior
    have countFits : (front ++ [item]).length < 2 ^ 32 :=
      Nat.lt_of_le_of_lt prior.length_le fits.count
    obtain ⟨moved, same, opened⟩ := first.lists aead laws coherent decrypts absent
      (fits.records item inside) indexFits countFits
    exact ih _ (same.trans current) moved opened distinct fits

/-- A fresh vault lists the items that were inserted into it. -/
theorem Vault.PutsAll.lists (aead : AeadLaws) (laws : PostcardLaws) {kMaster : MasterKey}
    {items : List Item} {kdfParams : KdfParams} {salt : Block 32}
    {kHsmWrapBlob totpSeedWrapBlob : Bytes} {metadata : VaultMetadata}
    {probeNonce indexNonce : Nonce} {created changed : Vault}
    (made : Vault.create kdfParams salt kHsmWrapBlob totpSeedWrapBlob metadata kMaster probeNonce
      indexNonce = .ok created) (puts : Vault.PutsAll kMaster items created changed)
    (distinct : (itemIds items).Nodup) (fits : SealsFit items) :
    changed.Coherent kMaster (items.map Item.row) ∧ changed.Lists kMaster items := by
  have empty : IndexFits .current [] := fits.rows [] List.nil_prefix
  obtain ⟨_, _, _, sealedIndex, _, _, _, done, same⟩ := Vault.create_ok_iff.mp made
  have coherent : created.Coherent kMaster [] := by
    refine ⟨wellFormed_of_create aead empty made, ?_, ?_⟩
    · rw [same]
      exact decryptIndex_of_sealIndex aead laws (fresh _ _ _ _ _ _ _ _ _) empty done
    · rw [same]
      exact .empty
  have current : created.version = .current := by
    rw [same]
    rfl
  have none : ∀ other ∈ ([] : List Item), created.decryptEntry kMaster other.id =
      .ok other.record := by
    intro other member
    cases member
  exact puts.lists_after aead laws [] current coherent none distinct fits

/-- A fresh vault that opens after items were inserted into it lists these items, whatever the
length of its index. -/
theorem Vault.PutsAll.lists_exact (aead : AeadLaws) (laws : PostcardLaws) (strict : StrictLaws)
    {kMaster : MasterKey} {items : List Item} {kdfParams : KdfParams} {salt : Block 32}
    {kHsmWrapBlob totpSeedWrapBlob : Bytes} {metadata : VaultMetadata}
    {probeNonce indexNonce : Nonce} {created changed : Vault}
    (made : Vault.create kdfParams salt kHsmWrapBlob totpSeedWrapBlob metadata kMaster probeNonce
      indexNonce = .ok created) (puts : Vault.PutsAll kMaster items created changed)
    (distinct : (itemIds items).Nodup)
    (records : ∀ item ∈ items, item.record.region.length < 2 ^ 32)
    {rows : Index} (opens : changed.openIndex kMaster = .ok rows) :
    rows = items.map Item.row ∧ changed.Lists kMaster items := by
  have opened := ((changed.openIndex_ok_iff kMaster rows).mp opens).1
  obtain ⟨start, before, same⟩ := puts.exact aead laws strict opened
  obtain rfl := Vault.create_exact aead laws strict made before
  obtain rfl : rows = items.map Item.row := same.trans (rowsOf_distinct distinct)
  exact ⟨rfl, opens, puts.decrypts aead distinct records⟩

end Listing

end Passman
