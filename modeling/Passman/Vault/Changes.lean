import Passman.Vault.Refinement

/-!
# Changes of a vault in memory

An operation reads a vault, puts entries into it or drops one, and stores the result. A
change is described by the vault before and after it, whatever nonces were drawn. A
changed vault whose lengths fit their fields is coherent when the vault before was.
-/
namespace Passman

open Bytewise Fallible

/-- What an operation puts into a vault under an identifier. -/
@[ext] structure Item where
  /-- The identifier. -/
  id : EntryId
  /-- The label. -/
  label : String
  /-- The policy. -/
  policy : EntryPolicy
  /-- The record. -/
  record : EntryRecord
  deriving DecidableEq

/-- The row of an item. -/
def Item.row (item : Item) : IndexEntry := ⟨item.id, item.label, item.policy⟩

/-- A change of one entry. -/
inductive Change where
  /-- The entry is inserted or updated. -/
  | put (item : Item)
  /-- The entry is removed. -/
  | drop (id : EntryId)
  deriving DecidableEq

/-- The map after a change. -/
def Change.apply (contents : Contents) : Change → Contents
  | put item => Function.update contents item.id (some ⟨item.label, item.policy, .ok item.record⟩)
  | drop id => Function.update contents id none

/-- The entry that is changed. -/
def Change.id : Change → EntryId
  | put item => item.id
  | drop id => id

/-- Other entries stay. -/
theorem Change.apply_of_ne {change : Change} {id : EntryId} (apart : change.id ≠ id)
    (contents : Contents) : change.apply contents id = contents id := by
  cases change <;> exact Function.update_of_ne (Ne.symm apart) _ _

/-- A change that was made already changes nothing. -/
theorem Change.apply_apply (change : Change) (contents : Contents) :
    change.apply (change.apply contents) = change.apply contents := by
  cases change <;> exact Function.update_idem _ _ _

section Changes

variable [Crates]

/-- One vault is the other with an item inserted or updated, under some nonces. -/
def Vault.Puts (kMaster : MasterKey) (item : Item) (vault changed : Vault) : Prop :=
  ∃ entryNonce indexNonce,
    Vault.addOrUpdateEntry kMaster item.id item.label item.policy item.record entryNonce indexNonce
      vault = (.ok (), changed)

/-- One vault is the other with an entry removed, under some nonce. -/
def Vault.Drops (kMaster : MasterKey) (id : EntryId) (vault changed : Vault) : Prop :=
  ∃ indexNonce, Vault.removeEntry kMaster id indexNonce vault = (.ok (), changed)

/-- One vault is the other after a change. -/
def Change.Makes (kMaster : MasterKey) (vault changed : Vault) : Change → Prop
  | put item => Vault.Puts kMaster item vault changed
  | drop id => Vault.Drops kMaster id vault changed

/-- What the change seals stays below the capacity of the length fields. -/
def Change.Fits (kMaster : MasterKey) (vault : Vault) : Change → Prop
  | put item => ∀ entryNonce indexNonce, VaultOp.Fits kMaster (.ok vault)
      (.addOrUpdate item.id item.label item.policy item.record entryNonce indexNonce)
  | drop id => ∀ indexNonce, VaultOp.Fits kMaster (.ok vault) (.remove id indexNonce)

/-- A change that fits keeps a vault coherent and changes one entry of its map. -/
theorem Change.Makes.coherent (aead : AeadLaws) (laws : PostcardLaws) {change : Change}
    {kMaster : MasterKey} {vault changed : Vault} {index : Index}
    (makes : change.Makes kMaster vault changed) (coherent : vault.Coherent kMaster index)
    (fits : change.Fits kMaster vault) : ∃ rows, changed.Coherent kMaster rows ∧
      changed.contents kMaster = change.apply (vault.contents kMaster) := by
  have made (op : VaultOp) (sizes : op.Fits kMaster (.ok vault))
      (stepped : VaultOp.step kMaster (.ok vault) op = .ok changed) :
      ∃ rows, changed.Coherent kMaster rows ∧
        changed.contents kMaster = VaultOp.update (vault.contents kMaster) op := by
    obtain ⟨after, rows, same, _, moved, map, _⟩ := op.step_coherent aead laws coherent sizes
    obtain rfl := Except.ok.inj (stepped.symm.trans same)
    exact ⟨rows, moved, map⟩
  cases change with
  | put item =>
    obtain ⟨entryNonce, indexNonce, ran⟩ := makes
    exact made _ (fits entryNonce indexNonce)
      (congrArg (fun result : Except VaultError Unit × Vault => Except.ok result.2) ran)
  | drop id =>
    obtain ⟨indexNonce, ran⟩ := makes
    exact made _ (fits indexNonce)
      (congrArg (fun result : Except VaultError Unit × Vault => Except.ok result.2) ran)

/-- One vault is the other with items inserted one after another. -/
inductive Vault.PutsAll (kMaster : MasterKey) : List Item → Vault → Vault → Prop
  /-- Nothing was inserted. -/
  | nil {vault : Vault} : PutsAll kMaster [] vault vault
  /-- An item was inserted, then the others. -/
  | cons {item : Item} {items : List Item} {vault middle changed : Vault}
    (first : Vault.Puts kMaster item vault middle) (rest : PutsAll kMaster items middle changed) :
    PutsAll kMaster (item :: items) vault changed

/-- What an insertion stores: a sealed envelope and the sealed index with the row. -/
theorem Vault.Puts.stores {kMaster : MasterKey} {item : Item} {vault changed : Vault}
    (puts : Vault.Puts kMaster item vault changed) :
    ∃ entryNonce indexNonce envelope index sealed,
      encryptEntry kMaster vault.version item.id item.record entryNonce = .ok envelope ∧
      vault.decryptIndex kMaster = .ok index ∧
      sealIndex (Index.upsert index item.row) vault.version kMaster indexNonce = .ok sealed ∧
      changed = { vault with
        envelopes := Keyed.upsert EntryEnvelope.id envelope vault.envelopes
        sealedIndexNonce := indexNonce
        sealedIndexCt := sealed } := by
  obtain ⟨entryNonce, indexNonce, ran⟩ := puts
  obtain ⟨envelope, index, sealed, made, opened, done, same⟩ := addOrUpdateEntry_ok ran
  exact ⟨entryNonce, indexNonce, envelope, index, sealed, made, opened, done, same⟩

/-- What a removal stores: the other envelopes and the sealed index without the row. -/
theorem Vault.Drops.stores {kMaster : MasterKey} {id : EntryId} {vault changed : Vault}
    (drops : Vault.Drops kMaster id vault changed) :
    id ∈ vault.envelopes.map EntryEnvelope.id ∧ ∃ indexNonce index sealed,
      vault.decryptIndex kMaster = .ok index ∧
      sealIndex (Index.remove index id) vault.version kMaster indexNonce = .ok sealed ∧
      changed = { vault with
        envelopes := Keyed.remove EntryEnvelope.id id vault.envelopes
        sealedIndexNonce := indexNonce
        sealedIndexCt := sealed } := by
  obtain ⟨indexNonce, ran⟩ := drops
  obtain ⟨present, index, sealed, opened, done, same⟩ := removeEntry_ok ran
  exact ⟨present, indexNonce, index, sealed, opened, done, same⟩

/-- One more insertion after the others. -/
theorem Vault.PutsAll.snoc {kMaster : MasterKey} {items : List Item} {item : Item}
    {vault middle changed : Vault} (puts : Vault.PutsAll kMaster items vault middle)
    (last : Vault.Puts kMaster item middle changed) :
    Vault.PutsAll kMaster (items ++ [item]) vault changed := by
  induction puts with
  | nil => exact .cons last .nil
  | cons first rest ih => exact .cons first (ih last)

omit [Crates] in
/-- One vault is the other up to the sealed index and the envelopes. -/
def Vault.SameHeader (vault changed : Vault) : Prop :=
  changed = { vault with
    sealedIndexNonce := changed.sealedIndexNonce
    sealedIndexCt := changed.sealedIndexCt
    envelopes := changed.envelopes }

/-- Insertions keep the header. -/
theorem Vault.PutsAll.header {kMaster : MasterKey} {items : List Item} {vault changed : Vault}
    (puts : Vault.PutsAll kMaster items vault changed) : Vault.SameHeader vault changed := by
  induction puts with
  | nil => rfl
  | cons first rest ih =>
    obtain ⟨_, _, _, _, _, _, _, _, rfl⟩ := first.stores
    exact ih

/-- A change is made in an index that decrypts. -/
theorem Change.Makes.decrypts {kMaster : MasterKey} {change : Change} {vault changed : Vault}
    (makes : change.Makes kMaster vault changed) :
    ∃ rows, vault.decryptIndex kMaster = .ok rows := by
  cases change with
  | put item =>
    obtain ⟨_, _, _, rows, _, _, opened, _, _⟩ := Vault.Puts.stores makes
    exact ⟨rows, opened⟩
  | drop id =>
    obtain ⟨_, _, rows, _, opened, _, _⟩ := Vault.Drops.stores makes
    exact ⟨rows, opened⟩

/-- A change keeps the header. -/
theorem Change.Makes.header {kMaster : MasterKey} {change : Change} {vault changed : Vault}
    (makes : change.Makes kMaster vault changed) : Vault.SameHeader vault changed := by
  cases change with
  | put item =>
    obtain ⟨_, _, _, _, _, _, _, _, rfl⟩ := Vault.Puts.stores makes
    rfl
  | drop id =>
    obtain ⟨_, _, _, _, _, _, rfl⟩ := Vault.Drops.stores makes
    rfl

/-- A probe is verified by the header alone. -/
theorem Vault.SameHeader.verifyProbe {vault changed : Vault} (same : Vault.SameHeader vault changed)
    (kMaster : MasterKey) : changed.verifyProbe kMaster = vault.verifyProbe kMaster := by
  rw [same]
  rfl

/-- The probe of a created vault is verified under its key. -/
theorem Vault.verifyProbe_create (aead : AeadLaws) {kdfParams : KdfParams} {salt : Block 32}
    {kHsmWrapBlob totpSeedWrapBlob : Bytes} {metadata : VaultMetadata} {kMaster : MasterKey}
    {probeNonce indexNonce : Nonce} {vault : Vault}
    (made : create kdfParams salt kHsmWrapBlob totpSeedWrapBlob metadata kMaster probeNonce
      indexNonce = .ok vault) : vault.verifyProbe kMaster = .ok () := by
  obtain ⟨kHsmBlob, totpSeedBlob, probe, sealedIndex, _, _, encrypted, _, rfl⟩ :=
    create_ok_iff.mp made
  have opened := decrypt_encrypt aead encrypted
  rw [verifyProbe]
  change (do
    let recovered ← (decrypt kMaster probeNonce (probeAssociatedData .current kdfParams salt)
      probe.val).mapError authFailure
    if recovered = probePlaintext then .ok () else .error (.crypto .aeadAuth)) = _
  rw [opened]
  rfl

/-- A well-formed vault opens to the rows of the vault it was changed from, with the new row. -/
theorem Vault.Puts.rows (aead : AeadLaws) (laws : PostcardLaws) {kMaster : MasterKey} {item : Item}
    {vault changed : Vault} (puts : Vault.Puts kMaster item vault changed)
    (formed : changed.WellFormed) :
    ∃ index, vault.decryptIndex kMaster = .ok index ∧
      changed.decryptIndex kMaster = .ok (Index.upsert index item.row) := by
  obtain ⟨_, _, envelope, index, sealed, _, opened, done, rfl⟩ := puts.stores
  refine ⟨index, opened, ?_⟩
  have fits : IndexFits vault.version (Index.upsert index item.row) :=
    .of_sealed aead done formed.index
  exact decryptIndex_of_sealIndex aead laws { vault with
    envelopes := Keyed.upsert EntryEnvelope.id envelope vault.envelopes
    sealedIndexNonce := _
    sealedIndexCt := sealed } fits done

/-- The entry that was inserted decrypts to its record. -/
theorem Vault.Puts.decrypts (aead : AeadLaws) {kMaster : MasterKey} {item : Item}
    {vault changed : Vault} (puts : Vault.Puts kMaster item vault changed)
    (fits : item.record.region.length < 2 ^ 32) :
    changed.decryptEntry kMaster item.id = .ok item.record := by
  obtain ⟨_, _, envelope, _, _, made, _, _, rfl⟩ := puts.stores
  obtain ⟨named, _, _, _⟩ := encryptEntry_ok made
  rw [Vault.decryptEntry_eq, Vault.envelope?, Keyed.lookup_upsert, if_pos named]
  exact openEnvelope_of_encryptEntry aead fits made

/-- Other entries decrypt as before. -/
theorem Vault.Puts.frame {kMaster : MasterKey} {item : Item} {vault changed : Vault}
    (puts : Vault.Puts kMaster item vault changed) {id : EntryId} (other : item.id ≠ id)
    (key : MasterKey) : changed.decryptEntry key id = vault.decryptEntry key id := by
  obtain ⟨_, _, envelope, _, _, made, _, _, rfl⟩ := puts.stores
  obtain ⟨named, _, _, _⟩ := encryptEntry_ok made
  refine Vault.decryptEntry_congr key rfl ?_
  rw [Vault.envelope?, Keyed.lookup_upsert, if_neg (by rwa [named])]
  rfl

/-- Entries that no insertion names decrypt as before. -/
theorem Vault.PutsAll.frame {kMaster : MasterKey} {items : List Item} {vault changed : Vault}
    (puts : Vault.PutsAll kMaster items vault changed) {id : EntryId}
    (absent : id ∉ items.map Item.id) (key : MasterKey) :
    changed.decryptEntry key id = vault.decryptEntry key id := by
  induction puts with
  | nil => rfl
  | cons first rest ih =>
    rw [List.map_cons, List.mem_cons, not_or] at absent
    obtain ⟨other, later⟩ := absent
    rw [ih later, first.frame (Ne.symm other)]

/-- Items under distinct identifiers decrypt to their records once they were inserted. -/
theorem Vault.PutsAll.decrypts (aead : AeadLaws) {kMaster : MasterKey} {items : List Item}
    {vault changed : Vault} (puts : Vault.PutsAll kMaster items vault changed)
    (distinct : (items.map Item.id).Nodup)
    (records : ∀ item ∈ items, item.record.region.length < 2 ^ 32) :
    ∀ item ∈ items, changed.decryptEntry kMaster item.id = .ok item.record := by
  induction puts with
  | nil =>
    intro item member
    cases member
  | cons first rest ih =>
    rw [List.map_cons, List.nodup_cons] at distinct
    obtain ⟨absent, others⟩ := distinct
    rw [List.forall_mem_cons] at records ⊢
    refine ⟨?_, ih others records.2⟩
    rw [rest.frame absent]
    exact first.decrypts aead records.1

/-- What a vault opens to after an insertion are the rows it opened to before, with the new row. -/
theorem Vault.Puts.exact (aead : AeadLaws) (laws : PostcardLaws) (strict : StrictLaws)
    {kMaster : MasterKey} {item : Item} {vault changed : Vault}
    (puts : Vault.Puts kMaster item vault changed) {rows : Index}
    (opened : changed.decryptIndex kMaster = .ok rows) :
    ∃ index, vault.decryptIndex kMaster = .ok index ∧ rows = Index.upsert index item.row := by
  obtain ⟨_, indexNonce, envelope, index, sealed, _, before, done, rfl⟩ := puts.stores
  refine ⟨index, before, ?_⟩
  exact decryptIndex_exact aead laws strict { vault with
    envelopes := Keyed.upsert EntryEnvelope.id envelope vault.envelopes
    sealedIndexNonce := indexNonce
    sealedIndexCt := sealed } done opened

/-- What a vault decrypts to after an insertion, and when it does. -/
theorem Vault.Puts.decrypts_iff (aead : AeadLaws) (laws : PostcardLaws) (strict : StrictLaws)
    {kMaster : MasterKey} {item : Item} {vault changed : Vault}
    (puts : Vault.Puts kMaster item vault changed) {index : Index}
    (opened : vault.decryptIndex kMaster = .ok index) (rows : Index) :
    changed.decryptIndex kMaster = .ok rows ↔ rows = Index.upsert index item.row ∧
      IndexReads vault.version (Index.upsert index item.row) := by
  obtain ⟨_, indexNonce, envelope, other, sealed, _, before, done, rfl⟩ := puts.stores
  obtain rfl := Except.ok.inj (before.symm.trans opened)
  exact decryptIndex_sealed_iff aead laws strict { vault with
    envelopes := Keyed.upsert EntryEnvelope.id envelope vault.envelopes
    sealedIndexNonce := indexNonce
    sealedIndexCt := sealed } done rows

/-- What a vault opens to after insertions are the rows it opened to before, with the new rows. -/
theorem Vault.PutsAll.exact (aead : AeadLaws) (laws : PostcardLaws) (strict : StrictLaws)
    {kMaster : MasterKey} {items : List Item} {vault changed : Vault}
    (puts : Vault.PutsAll kMaster items vault changed) {rows : Index}
    (opened : changed.decryptIndex kMaster = .ok rows) :
    ∃ index, vault.decryptIndex kMaster = .ok index ∧
      rows = items.foldl (fun rows item => Index.upsert rows item.row) index := by
  induction puts with
  | nil => exact ⟨rows, opened, rfl⟩
  | cons first rest ih =>
    obtain ⟨middle, reached, same⟩ := ih opened
    obtain ⟨index, before, rfl⟩ := first.exact aead laws strict reached
    exact ⟨index, before, same⟩

/-- What a vault decrypts to after insertions, and when it does. -/
theorem Vault.PutsAll.decrypts_iff (aead : AeadLaws) (laws : PostcardLaws) (strict : StrictLaws)
    {kMaster : MasterKey} {items : List Item} {vault changed : Vault}
    (puts : Vault.PutsAll kMaster items vault changed) {start : Index}
    (sealed : ∀ rows, vault.decryptIndex kMaster = .ok rows ↔
      rows = start ∧ IndexReads vault.version start) (rows : Index) :
    changed.decryptIndex kMaster = .ok rows ↔
      rows = items.foldl (fun rows item => Index.upsert rows item.row) start ∧
        IndexReads vault.version
          (items.foldl (fun rows item => Index.upsert rows item.row) start) := by
  induction puts generalizing start with
  | nil => exact sealed rows
  | @cons item items vault middle changed first rest ih =>
    have version : middle.version = vault.version := by
      obtain ⟨_, _, _, _, _, _, _, _, rfl⟩ := first.stores
      rfl
    obtain ⟨_, _, _, index, _, _, opened, _, _⟩ := first.stores
    obtain ⟨rfl, _⟩ := (sealed index).mp opened
    rw [← version]
    refine ih fun rows => ?_
    rw [version]
    exact first.decrypts_iff aead laws strict opened rows

/-- If rows and envelopes of a vault agree whenever its index decrypts, they do so after
insertions. -/
theorem Vault.PutsAll.opens (aead : AeadLaws) (laws : PostcardLaws) (strict : StrictLaws)
    {kMaster : MasterKey} {items : List Item} {vault changed : Vault}
    (puts : Vault.PutsAll kMaster items vault changed)
    (agrees : ∀ rows, vault.decryptIndex kMaster = .ok rows →
      vault.openIndex kMaster = .ok rows) {rows : Index}
    (decrypted : changed.decryptIndex kMaster = .ok rows) :
    changed.openIndex kMaster = .ok rows := by
  induction puts generalizing rows with
  | nil => exact agrees rows decrypted
  | @cons item items vault middle changed first rest ih =>
    refine ih (fun found opened => ?_) decrypted
    obtain ⟨index, before, rfl⟩ := first.exact aead laws strict opened
    have agree := ((vault.openIndex_ok_iff kMaster index).mp (agrees index before)).2
    obtain ⟨_, _, envelope, _, _, made, _, _, rfl⟩ := first.stores
    have paired : item.row.id = envelope.id := (encryptEntry_ok made).1.symm
    exact (Vault.openIndex_ok_iff _ kMaster _).mpr ⟨opened, agree.upsert paired⟩

/-- What a created vault decrypts to, and when it does. -/
theorem Vault.create_decrypts_iff (aead : AeadLaws) (laws : PostcardLaws) (strict : StrictLaws)
    {kdfParams : KdfParams} {salt : Block 32} {kHsmWrapBlob totpSeedWrapBlob : Bytes}
    {metadata : VaultMetadata} {kMaster : MasterKey} {probeNonce indexNonce : Nonce} {vault : Vault}
    (made : create kdfParams salt kHsmWrapBlob totpSeedWrapBlob metadata kMaster probeNonce
      indexNonce = .ok vault) (rows : Index) :
    vault.decryptIndex kMaster = .ok rows ↔ rows = [] ∧ IndexReads .current [] := by
  obtain ⟨_, _, _, sealedIndex, _, _, _, done, rfl⟩ := create_ok_iff.mp made
  exact decryptIndex_sealed_iff aead laws strict (fresh _ _ _ _ _ _ _ _ _) done rows

/-- A created vault opens to no rows, if it opens. -/
theorem Vault.create_exact (aead : AeadLaws) (laws : PostcardLaws) (strict : StrictLaws)
    {kdfParams : KdfParams} {salt : Block 32} {kHsmWrapBlob totpSeedWrapBlob : Bytes}
    {metadata : VaultMetadata} {kMaster : MasterKey} {probeNonce indexNonce : Nonce} {vault : Vault}
    (made : create kdfParams salt kHsmWrapBlob totpSeedWrapBlob metadata kMaster probeNonce
      indexNonce = .ok vault) {rows : Index} (opened : vault.decryptIndex kMaster = .ok rows) :
    rows = [] := by
  obtain ⟨_, _, _, sealedIndex, _, _, _, done, rfl⟩ := create_ok_iff.mp made
  exact decryptIndex_exact aead laws strict (fresh _ _ _ _ _ _ _ _ _) done opened

/-- A well-formed created vault opens to no rows. -/
theorem Vault.rows_create (aead : AeadLaws) (laws : PostcardLaws) {kdfParams : KdfParams}
    {salt : Block 32} {kHsmWrapBlob totpSeedWrapBlob : Bytes} {metadata : VaultMetadata}
    {kMaster : MasterKey} {probeNonce indexNonce : Nonce} {vault : Vault}
    (made : create kdfParams salt kHsmWrapBlob totpSeedWrapBlob metadata kMaster probeNonce
      indexNonce = .ok vault) (formed : vault.WellFormed) :
    vault.decryptIndex kMaster = .ok [] := by
  obtain ⟨kHsmBlob, totpSeedBlob, probe, sealedIndex, _, _, _, done, rfl⟩ := create_ok_iff.mp made
  have fits : IndexFits .current [] := .of_sealed aead done formed.index
  exact decryptIndex_of_sealIndex aead laws (fresh _ _ _ _ _ _ _ _ _) fits done

end Changes

end Passman
