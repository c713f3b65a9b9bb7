import Passman.Vault.Listing
import Passman.Vault.Outline

/-!
# Changes that end in a bounded file

Nothing bounds the sizes a change seals, but a file that is read back is bounded, and its length
covers everything in it. A changed vault whose file stays below the capacity of the length
fields is therefore coherent when the vault before was, whatever the changes in between sealed.
-/
namespace Passman

open Bytewise Fallible

/-- The map after items were put in, one after another. -/
def Contents.putAll (contents : Contents) (items : List Item) : Contents :=
  items.foldl (fun contents item => Change.apply contents (.put item)) contents

/-- The map without entries. -/
def Contents.empty : Contents := fun _ => none

/-- Only the entry of an item changes when it is put in. -/
theorem Change.put_of_ne {item : Item} {id : EntryId} (apart : item.id ≠ id)
    (contents : Contents) : Change.apply contents (.put item) id = contents id :=
  Change.apply_of_ne (show (Change.put item).id ≠ id from apart) contents

/-- Only the entry that is dropped changes. -/
theorem Change.drop_of_ne {gone id : EntryId} (apart : gone ≠ id) (contents : Contents) :
    Change.apply contents (.drop gone) id = contents id :=
  Change.apply_of_ne (show (Change.drop gone).id ≠ id from apart) contents

/-- An entry that no item names stays. -/
theorem Contents.putAll_of_absent {items : List Item} {id : EntryId} (absent : id ∉ itemIds items)
    (contents : Contents) : contents.putAll items id = contents id := by
  induction items generalizing contents with
  | nil => rfl
  | cons item items ih =>
    rw [itemIds, List.map_cons, List.mem_cons, not_or] at absent
    change putAll (Change.apply contents (.put item)) items id = _
    rw [ih absent.2]
    exact Change.put_of_ne (Ne.symm absent.1) contents

/-- An entry that an item names does not depend on the map before. -/
theorem Contents.putAll_of_named {items : List Item} {id : EntryId} (named : id ∈ itemIds items)
    (first second : Contents) : first.putAll items id = second.putAll items id := by
  induction items generalizing first second with
  | nil => cases named
  | cons item items ih =>
    change putAll (Change.apply first (.put item)) items id =
      putAll (Change.apply second (.put item)) items id
    by_cases later : id ∈ itemIds items
    · exact ih later _ _
    · rw [putAll_of_absent later, putAll_of_absent later]
      have same : id = item.id := by
        rw [itemIds, List.map_cons, List.mem_cons] at named
        exact named.resolve_right later
      rw [same]
      simp only [Change.apply, Function.update_self]

/-- Of items under distinct identifiers, each is there afterwards. -/
theorem Contents.putAll_mem {items : List Item} (distinct : (itemIds items).Nodup) {item : Item}
    (member : item ∈ items) (contents : Contents) :
    contents.putAll items item.id = some ⟨item.label, item.policy, .ok item.record⟩ := by
  induction items generalizing contents with
  | nil => cases member
  | cons first rest ih =>
    rw [itemIds, List.map_cons, List.nodup_cons] at distinct
    change putAll (Change.apply contents (.put first)) rest item.id = _
    rcases List.mem_cons.mp member with rfl | later
    · rw [putAll_of_absent distinct.1, Change.apply, Function.update_self]
    · exact ih distinct.2 later _

section Bounded

variable [Crates] {kMaster : MasterKey} {vault changed : Vault}

/-- Entries that no insertion names keep their envelopes. -/
theorem Vault.PutsAll.envelope_frame {items : List Item}
    (puts : Vault.PutsAll kMaster items vault changed) {id : EntryId}
    (absent : id ∉ itemIds items) : changed.envelope? id = vault.envelope? id := by
  induction puts with
  | nil => rfl
  | cons first rest ih =>
    rw [itemIds, List.map_cons, List.mem_cons, not_or] at absent
    rw [ih absent.2]
    obtain ⟨_, _, envelope, _, _, made, _, _, rfl⟩ := first.stores
    rw [envelope?, Keyed.lookup_upsert, (encryptEntry_ok made).1, if_neg (Ne.symm absent.1)]
    rfl

/-- A record whose envelope is still there in a well-formed vault fits. -/
theorem Vault.Puts.recordFits (aead : AeadLaws) {item : Item} {final : Vault}
    (puts : Vault.Puts kMaster item vault changed)
    (kept : final.envelope? item.id = changed.envelope? item.id) (formed : final.WellFormed) :
    RecordFits item.record := by
  obtain ⟨_, _, envelope, _, _, made, _, _, rfl⟩ := puts.stores
  obtain ⟨named, _, _, encrypted⟩ := encryptEntry_ok made
  rw [envelope?, envelope?, Keyed.lookup_upsert, if_pos named] at kept
  have exact := formed.bodies envelope (Keyed.lookup_some EntryEnvelope.id kept).1
  have bound := envelope.ctLen.toNat_lt
  rw [encrypt_length aead encrypted] at exact
  rw [RecordFits]
  exact exact ▸ bound

/-- The map of a vault that opens is read row by row. -/
theorem Vault.contents_of_opens {index : Index} (opens : vault.openIndex kMaster = .ok index)
    (id : EntryId) : vault.contents kMaster id = (Index.get index id).map fun row =>
      ⟨row.label, row.policy, vault.decryptEntry kMaster id⟩ := by
  rw [contents, opens]

/-- An insertion reads the index. -/
theorem Vault.Puts.reads {item : Item} (puts : Vault.Puts kMaster item vault changed) :
    ∃ rows, vault.decryptIndex kMaster = .ok rows :=
  Change.Makes.decrypts (show (Change.put item).Makes kMaster vault changed from puts)

/-- What a vault holds after an insertion, if both indexes open and the record fits. -/
theorem Vault.Puts.contents (aead : AeadLaws) {item : Item}
    (puts : Vault.Puts kMaster item vault changed) {index : Index}
    (before : vault.openIndex kMaster = .ok index)
    (after : changed.openIndex kMaster = .ok (Index.upsert index item.row))
    (fits : RecordFits item.record) :
    changed.contents kMaster = Change.apply (vault.contents kMaster) (.put item) := by
  funext id
  rw [Vault.contents_of_opens after, Index.get, Index.upsert, Keyed.lookup_upsert]
  by_cases same : item.id = id
  · subst same
    have named : item.row.id = item.id := rfl
    rw [if_pos named, Option.map_some, puts.decrypts aead fits.region, Change.apply,
      Function.update_self]
    rfl
  · have named : ¬ item.row.id = id := same
    rw [if_neg named, puts.frame same, Change.put_of_ne same,
      Vault.contents_of_opens before]
    rfl

/-- Items put into a vault that opens leave a coherent vault with these items, if it is well
formed. -/
theorem Vault.PutsAll.coherent (aead : AeadLaws) (laws : PostcardLaws) (strict : StrictLaws)
    {items : List Item} (puts : Vault.PutsAll kMaster items vault changed)
    (formed : changed.WellFormed) {rows : Index} (opens : vault.openIndex kMaster = .ok rows) :
    ∃ rows, changed.Coherent kMaster rows ∧
      changed.contents kMaster = (vault.contents kMaster).putAll items := by
  induction puts generalizing rows with
  | nil =>
    obtain ⟨decrypts, agree⟩ := (Vault.openIndex_ok_iff _ kMaster rows).mp opens
    exact ⟨rows, ⟨formed, decrypts, agree⟩, rfl⟩
  | @cons item items vault middle changed first rest ih =>
    -- The next insertion read the index in between, and without one it is the last.
    have read : ∃ found, middle.decryptIndex kMaster = .ok found := by
      cases rest with
      | nil =>
        obtain ⟨_, _, decrypts⟩ := first.rows aead laws formed
        exact ⟨_, decrypts⟩
      | cons second _ => exact second.reads
    obtain ⟨found, decrypts⟩ := read
    obtain ⟨index, before, rfl⟩ := first.exact aead laws strict decrypts
    obtain ⟨decrypted, agree⟩ := (vault.openIndex_ok_iff kMaster rows).mp opens
    obtain rfl := Except.ok.inj (before.symm.trans decrypted)
    have reopens : middle.openIndex kMaster = .ok (Index.upsert index item.row) := by
      refine (middle.openIndex_ok_iff kMaster _).mpr ⟨decrypts, ?_⟩
      obtain ⟨_, _, envelope, _, _, made, _, _, rfl⟩ := first.stores
      have paired : item.row.id = envelope.id := (encryptEntry_ok made).1.symm
      exact agree.upsert paired
    obtain ⟨left, coherent, map⟩ := ih formed reopens
    refine ⟨left, coherent, map.trans (funext fun id => ?_)⟩
    change (middle.contents kMaster).putAll items id =
      (Change.apply (vault.contents kMaster) (.put item)).putAll items id
    by_cases later : item.id ∈ itemIds items
    · by_cases named : id ∈ itemIds items
      · exact Contents.putAll_of_named named _ _
      · have apart : item.id ≠ id := fun same => named (same ▸ later)
        rw [Contents.putAll_of_absent named, Contents.putAll_of_absent named,
          Change.put_of_ne apart]
        have other : ¬ item.row.id = id := apart
        rw [Vault.contents_of_opens reopens, Vault.contents_of_opens opens, Index.get,
          Index.upsert, Keyed.lookup_upsert, if_neg other, first.frame apart]
        rfl
    · have fits := first.recordFits aead (rest.envelope_frame later) formed
      rw [first.contents aead opens reopens fits]

/-- Items put into a created vault leave a coherent vault with these items only, if it is well
formed. -/
theorem Vault.PutsAll.coherent_of_create (aead : AeadLaws) (laws : PostcardLaws)
    (strict : StrictLaws) {items : List Item} {kdfParams : KdfParams} {salt : Block 32}
    {kHsmWrapBlob totpSeedWrapBlob : Bytes} {metadata : VaultMetadata}
    {probeNonce indexNonce : Nonce} {created : Vault}
    (made : Vault.create kdfParams salt kHsmWrapBlob totpSeedWrapBlob metadata kMaster probeNonce
      indexNonce = .ok created) (puts : Vault.PutsAll kMaster items created changed)
    (formed : changed.WellFormed) : ∃ rows, changed.Coherent kMaster rows ∧
      changed.contents kMaster = Contents.empty.putAll items := by
  have read : ∃ found, created.decryptIndex kMaster = .ok found := by
    cases puts with
    | nil => exact ⟨[], Vault.rows_create aead laws made formed⟩
    | cons first _ => exact first.reads
  obtain ⟨found, decrypts⟩ := read
  obtain rfl := Vault.create_exact aead laws strict made decrypts
  have opens : created.openIndex kMaster = .ok [] := by
    refine (created.openIndex_ok_iff kMaster []).mpr ⟨decrypts, ?_⟩
    obtain ⟨_, _, _, _, _, _, _, _, rfl⟩ := Vault.create_ok_iff.mp made
    exact .empty
  have none : created.contents kMaster = Contents.empty := by
    funext id
    simp only [Vault.contents, opens]
    rfl
  rw [← none]
  exact puts.coherent aead laws strict formed opens

/-- A change of a coherent vault leaves a coherent vault with the change, if it is well formed. -/
theorem Change.Makes.coherent_of_formed (aead : AeadLaws) (laws : PostcardLaws)
    (strict : StrictLaws) {change : Change} (makes : change.Makes kMaster vault changed)
    {rows : Index} (coherent : vault.Coherent kMaster rows) (formed : changed.WellFormed) :
    ∃ rows, changed.Coherent kMaster rows ∧
      changed.contents kMaster = change.apply (vault.contents kMaster) := by
  cases change with
  | put item =>
    exact Vault.PutsAll.coherent aead laws strict (.cons makes .nil) formed coherent.opens
  | drop id =>
    obtain ⟨_, indexNonce, index, sealed, opened, done, rfl⟩ := Vault.Drops.stores makes
    obtain rfl := Except.ok.inj (opened.symm.trans coherent.decrypts)
    exact ⟨_, coherent.erase aead laws (.of_sealed aead done formed.index) done⟩

/-- A change keeps the stored lengths clamped. -/
theorem Change.Makes.clamped {change : Change} (makes : change.Makes kMaster vault changed)
    (clamped : vault.Clamped) : changed.Clamped := by
  cases change with
  | put item => exact clamped.put makes
  | drop id => exact clamped.drop makes

end Bounded

end Passman
