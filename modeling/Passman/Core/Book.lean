import Passman.Core.Enrolment
import Passman.Core.Restore
import Passman.Core.Rotation
import Passman.Lib.Triple
import Passman.Vault.Bounded
import Passman.Worker.Retention

/-!
# The book behind the file

What a user keeps in a vault is a book: a finite map of entries under one key. A file within the
limit of a read shows the book it holds; a file above the limit is never read again and
shows nothing. Every operation of the core is described by what it makes of the book, and a
session by the rows of the book it has cached.
-/
namespace Passman

open Bytewise Fallible

/-- What a vault is kept for. -/
structure Book where
  /-- The key the entries are sealed under. -/
  key : MasterKey
  /-- The entries. -/
  contents : Contents

/-- The book after a change of one entry. -/
def Book.apply (book : Book) (change : Change) : Book := ⟨book.key, change.apply book.contents⟩

/-- A change keeps the key. -/
@[simp] theorem Book.apply_key (book : Book) (change : Change) :
    (book.apply change).key = book.key := rfl

/-- A change is made in the entries. -/
@[simp] theorem Book.apply_contents (book : Book) (change : Change) :
    (book.apply change).contents = change.apply book.contents := rfl

/-- Rows list a book: each entry once, with its label and its policy. -/
structure Book.Lists (book : Book) (rows : Index) : Prop where
  /-- No entry is listed twice. -/
  distinct : (rows.map IndexEntry.id).Nodup
  /-- Exactly the entries of the book are listed. -/
  same : ∀ id, (Index.get rows id).map (fun row => (row.label, row.policy)) =
    (book.contents id).map fun entry => (entry.label, entry.policy)

/-- The book under another key. -/
def Book.under (book : Book) (kMaster : MasterKey) : Book := ⟨kMaster, book.contents⟩

/-- Rows list a book under every key. -/
theorem Book.Lists.under {book : Book} {rows : Index} (lists : book.Lists rows)
    (kMaster : MasterKey) : (book.under kMaster).Lists rows := ⟨lists.distinct, lists.same⟩

section Shown

variable {δ : Type} [Platform δ]

/-- A secret that the key store enrolled or returns. -/
def Secret (δ : Type) [Platform δ] (kHsm : Bytes) : Prop :=
  (∃ blob, Enrolled δ .vaultKey kHsm blob) ∨
    ∃ (handle : UnwrapHandle) (device : δ), (Platform.completeUnwrap handle device).1 = .ok kHsm

variable [Crates]

/-- The key is derived under the header of a vault from one of the passwords, with a secret of the
key store. -/
def Vault.Derives (δ : Type) [Platform δ] (passwords : String → Prop) (vault : Vault)
    (key : MasterKey) : Prop :=
  ∃ password kHsm, passwords password ∧ Secret δ kHsm ∧ vault.DerivedFrom password kHsm key

/-- A vault under a key that the passwords derive, which can be written and opened, holds the
entries of a book. -/
structure Vault.Holds (δ : Type) [Platform δ] (passwords : String → Prop) (vault : Vault)
    (book : Book) : Prop where
  /-- The vault can be written, and opened under the key of the book. -/
  coherent : ∃ rows, vault.Coherent book.key rows
  /-- The vault has the entries of the book. -/
  contents : vault.contents book.key = book.contents
  /-- One of the passwords derives the key. -/
  derived : vault.Derives δ passwords book.key

/-- The file shows the book, or there is no file where there is no book. -/
def World.Shows (world : World δ) (passwords : String → Prop) : Option Book → Prop
  | none => world.file = none
  | some book => ∃ bytes, world.file = some bytes ∧ (bytes.length ≤ maxVaultBytes →
      ∃ vault, Vault.fromBytes bytes = .ok vault ∧ vault.Holds δ passwords book)

/-- A session serves a book: the file shows it, and the session has its key and its rows. -/
structure Serves (passwords : String → Prop) (book : Book) (state : World δ × UnlockedApp) :
    Prop where
  /-- The file shows the book. -/
  shown : state.1.Shows passwords (some book)
  /-- The session has the key of the book. -/
  key : state.2.kMaster = book.key
  /-- The rows of the session list the book. -/
  lists : book.Lists state.2.index

/-- A vault that continues another has the keys that are derived under its header. -/
theorem Vault.Derives.continues {passwords : String → Prop} {vault changed : Vault}
    {key : MasterKey} (derives : vault.Derives δ passwords key)
    (continues : vault.Continues changed) : changed.Derives δ passwords key := by
  obtain ⟨password, kHsm, used, secret, derived⟩ := derives
  rw [Continues] at continues
  rw [continues]
  exact ⟨password, kHsm, used, secret, derived⟩

omit [Platform δ] in
/-- The rows of a coherent vault list the book it holds. -/
theorem Vault.Coherent.lists {vault : Vault} {book : Book} {rows : Index}
    (coherent : vault.Coherent book.key rows) (map : vault.contents book.key = book.contents) :
    book.Lists rows where
  distinct := coherent.agree.leftDistinct
  same id := by
    rw [← map, coherent.contents_eq, Option.map_map]
    rfl

/-- The record of an entry is what the vault decrypts for it. -/
theorem Vault.Holds.record {passwords : String → Prop} {vault : Vault} {book : Book}
    (holds : vault.Holds δ passwords book) {id : EntryId} {entry : Entry}
    (kept : book.contents id = some entry) :
    entry.record = vault.decryptEntry book.key id := by
  obtain ⟨⟨rows, coherent⟩, map, _⟩ := holds
  rw [← map, coherent.contents_eq] at kept
  obtain ⟨row, _, rfl⟩ := Option.map_eq_some_iff.mp kept
  rfl

/-- An entry the vault decrypts is one of the book. -/
theorem Vault.Holds.entry {passwords : String → Prop} {vault : Vault} {book : Book}
    (holds : vault.Holds δ passwords book) {id : EntryId} {record : EntryRecord}
    (decrypts : vault.decryptEntry book.key id = .ok record) :
    ∃ entry, book.contents id = some entry ∧ entry.record = .ok record := by
  obtain ⟨⟨rows, coherent⟩, map, _⟩ := holds
  have present : id ∈ vault.envelopes.map EntryEnvelope.id := by
    rw [← Keyed.lookup_isSome]
    rw [Vault.decryptEntry_eq, Vault.envelope?] at decrypts
    cases found : Keyed.lookup EntryEnvelope.id id vault.envelopes with
    | none =>
      rw [found] at decrypts
      cases decrypts
    | some envelope => rfl
  rw [← coherent.agree.same, ← Keyed.lookup_isSome] at present
  obtain ⟨row, found⟩ := Option.isSome_iff_exists.mp present
  refine ⟨⟨row.label, row.policy, vault.decryptEntry book.key id⟩, ?_, decrypts⟩
  rw [← map, coherent.contents_eq, Index.get, found]
  rfl

variable {passwords : String → Prop} {world after : World δ} {vault changed : Vault}
  {held : Option Book} {book : Book}

/-- Only the file matters. -/
theorem World.Shows.of_file (shown : world.Shows passwords held) (same : after.file = world.file) :
    after.Shows passwords held := by
  cases held with
  | none => exact same.trans shown
  | some book =>
    obtain ⟨bytes, stored, holds⟩ := shown
    exact ⟨bytes, same.trans stored, holds⟩

/-- A stored vault holds the book that is shown. -/
theorem World.Shows.holds (shown : world.Shows passwords (some book))
    (stored : world.Stores vault) : vault.Holds δ passwords book := by
  obtain ⟨bytes, file, holds⟩ := shown
  obtain ⟨others, same, small, parsed⟩ := stored
  obtain rfl := Option.some.inj (file.symm.trans same)
  obtain ⟨found, reparsed, held⟩ := holds small
  obtain rfl := Except.ok.inj (parsed.symm.trans reparsed)
  exact held

/-- Where a vault is stored there is a book. -/
theorem World.Shows.some_of_stores (shown : world.Shows passwords held)
    (stored : world.Stores vault) : ∃ book, held = some book ∧ vault.Holds δ passwords book := by
  cases held with
  | none =>
    obtain ⟨bytes, file, _⟩ := stored
    rw [World.Shows] at shown
    rw [shown] at file
    cases file
  | some book => exact ⟨book, rfl, shown.holds stored⟩

/-- A vault that was written shows the book it holds, if it is well formed. -/
theorem World.Shows.written (clamped : changed.Clamped)
    (holds : changed.WellFormed → changed.Holds δ passwords book)
    (file : after.file = some changed.toBytes) : after.Shows passwords (some book) := by
  refine ⟨_, file, fun small => ?_⟩
  have limit : maxVaultBytes < 2 ^ 32 := by decide
  have formed := clamped.wellFormed (Nat.lt_of_le_of_lt small limit)
  exact ⟨changed, Vault.fromBytes_toBytes formed, holds formed⟩

/-- Another lockout state or other metadata leave the book. -/
theorem World.Shows.rewrites (shown : world.Shows passwords held)
    (rewrites : world.Rewrites Vault.Relabels after) : after.Shows passwords held := by
  rcases rewrites with same | ⟨vault, changed, stored, relabels, file⟩
  · exact shown.of_file same
  obtain ⟨book, rfl, ⟨rows, coherent⟩, map, derived⟩ := shown.some_of_stores stored
  refine .written (stored.clamped.relabel relabels) (fun _ => ?_) file
  have derives := derived.continues ((Vault.Continues.refl vault).relabel relabels)
  obtain ⟨state, metadata, rfl⟩ := relabels
  obtain ⟨moved, kept⟩ := coherent.of_same ((vault.withLockout state).setMetadata metadata)
    rfl rfl rfl rfl
  exact ⟨⟨rows, moved⟩, kept.trans map, derives⟩

/-- A change of the stored vault that is written changes the book. -/
theorem World.Shows.makes (aead : AeadLaws) (laws : PostcardLaws) (strict : StrictLaws)
    (shown : world.Shows passwords (some book)) (stored : world.Stores vault) {change : Change}
    (makes : change.Makes book.key vault changed) (file : after.file = some changed.toBytes) :
    after.Shows passwords (some (book.apply change)) := by
  obtain ⟨⟨rows, coherent⟩, map, derived⟩ := shown.holds stored
  refine .written (makes.clamped stored.clamped) (fun formed => ?_) file
  obtain ⟨left, moved, changed⟩ := makes.coherent_of_formed aead laws strict coherent formed
  refine ⟨⟨left, moved⟩, changed.trans ?_,
    derived.continues ((Vault.Continues.refl vault).reseal makes.header)⟩
  rw [map]
  rfl

/-- A change whose result does not open was too large to be read, and shows any book. -/
theorem World.Shows.unopened (aead : AeadLaws) (laws : PostcardLaws) (strict : StrictLaws)
    (shown : world.Shows passwords (some book)) (stored : world.Stores vault) {change : Change}
    (makes : change.Makes book.key vault changed) {error : VaultError}
    (shut : changed.openIndex book.key = .error error) (file : after.file = some changed.toBytes)
    (other : Book) : after.Shows passwords (some other) := by
  refine .written (makes.clamped stored.clamped) (fun formed => ?_) file
  obtain ⟨⟨rows, coherent⟩, _⟩ := shown.holds stored
  obtain ⟨left, moved, _⟩ := makes.coherent_of_formed aead laws strict coherent formed
  rw [moved.opens] at shut
  cases shut

omit [Crates] in
/-- A row that is inserted or updated lists the book with its item. -/
theorem Book.Lists.put {rows : Index} (lists : book.Lists rows) (item : Item) :
    (book.apply (.put item)).Lists (Index.upsert rows item.row) where
  distinct := Keyed.nodup_upsert IndexEntry.id lists.distinct
  same id := by
    rw [Index.get, Index.upsert, Keyed.lookup_upsert]
    by_cases same : item.id = id
    · subst same
      have named : item.row.id = item.id := rfl
      rw [if_pos named, Book.apply_contents, Change.apply, Function.update_self]
      rfl
    · have named : ¬ item.row.id = id := same
      rw [if_neg named, Book.apply_contents, Change.put_of_ne same]
      exact lists.same id

omit [Crates] in
/-- A row that is removed lists the book without its entry. -/
theorem Book.Lists.drop {rows : Index} (lists : book.Lists rows) (gone : EntryId) :
    (book.apply (.drop gone)).Lists (Index.remove rows gone) where
  distinct := Keyed.nodup_remove IndexEntry.id lists.distinct
  same id := by
    rw [Index.get, Index.remove, Keyed.lookup_remove]
    by_cases same : gone = id
    · subst same
      rw [if_pos rfl, Book.apply_contents, Change.apply, Function.update_self]
      rfl
    · rw [if_neg same, Book.apply_contents, Change.drop_of_ne same]
      exact lists.same id

omit [Crates] in
/-- Rows that are inserted one after another list the book with their items. -/
theorem Book.Lists.putAll {rows : Index} (lists : book.Lists rows) (items : List Item) :
    (Book.mk book.key (book.contents.putAll items)).Lists
      (items.foldl (fun rows item => Index.upsert rows item.row) rows) := by
  induction items generalizing book rows with
  | nil => exact lists
  | cons item items ih => exact ih (lists.put item)

/-- The rows of a changed vault list the changed book, however large the vault is. -/
theorem Book.Lists.makes (aead : AeadLaws) (laws : PostcardLaws) (strict : StrictLaws)
    {rows left : Index} {change : Change} (lists : book.Lists rows)
    (decrypts : vault.decryptIndex book.key = .ok rows)
    (makes : change.Makes book.key vault changed)
    (opens : changed.openIndex book.key = .ok left) : (book.apply change).Lists left := by
  have decrypted := ((changed.openIndex_ok_iff book.key left).mp opens).1
  cases change with
  | put item =>
    obtain ⟨index, before, rfl⟩ := Vault.Puts.exact aead laws strict makes decrypted
    obtain rfl := Except.ok.inj (before.symm.trans decrypts)
    exact lists.put item
  | drop gone =>
    obtain ⟨_, indexNonce, index, sealed, opened, done, rfl⟩ := Vault.Drops.stores makes
    obtain rfl := Except.ok.inj (opened.symm.trans decrypts)
    obtain rfl := Vault.decryptIndex_exact aead laws strict { vault with
      envelopes := Keyed.remove EntryEnvelope.id gone vault.envelopes
      sealedIndexNonce := indexNonce
      sealedIndexCt := sealed } done decrypted
    exact lists.drop gone

omit [Crates] in
/-- Items whose rows list a book, with its records, make up the book. -/
theorem Book.Lists.contents_eq {items : List Item} (lists : book.Lists (items.map Item.row))
    (records : ∀ item ∈ items, ∀ entry, book.contents item.id = some entry →
      entry.record = .ok item.record) : Contents.empty.putAll items = book.contents := by
  have distinct : (itemIds items).Nodup := rows_ids items ▸ lists.distinct
  funext id
  have same := lists.same id
  by_cases named : id ∈ itemIds items
  · obtain ⟨item, member, rfl⟩ := List.mem_map.mp named
    have found : Index.get (items.map Item.row) item.id = some item.row :=
      Keyed.lookup_mem IndexEntry.id lists.distinct (List.mem_map_of_mem (f := Item.row) member)
    rw [found] at same
    cases kept : book.contents item.id with
    | none =>
      rw [kept] at same
      cases same
    | some entry =>
      rw [kept] at same
      obtain ⟨label, policy⟩ := Prod.mk.inj (Option.some.inj same)
      have record := records item member entry kept
      obtain ⟨_, _, _⟩ := entry
      dsimp only at label policy record
      rw [Contents.putAll_mem distinct member, ← label, ← policy, record]
      rfl
  · have absent : Index.get (items.map Item.row) id = none := by
      rw [Index.get, Keyed.lookup_eq_none]
      rwa [rows_ids]
    rw [absent] at same
    rw [Contents.putAll_of_absent named]
    exact (Option.map_eq_none_iff.mp same.symm).symm

/-- What touches nothing leaves the session serving the book. -/
theorem Serves.untouched {before after : World δ × UnlockedApp}
    (serves : Serves passwords book before) (untouched : Untouched before after) :
    Serves passwords book after where
  shown := serves.shown.of_file untouched.file
  key := untouched.key.trans serves.key
  lists := by
    rw [untouched.index]
    exact serves.lists

/-- A mutation that fails leaves the session serving the book, and one that succeeds leaves it
serving the changed book. -/
theorem Serves.mutation (aead : AeadLaws) (laws : PostcardLaws) (strict : StrictLaws) {α : Type}
    {makes : α → Vault → Vault → Prop} {app : UnlockedApp} {outcome : Except CoreError α}
    {ended : World δ × UnlockedApp} (serves : Serves passwords book (world, app))
    (change : α → Change) (mutated : Mutation makes world app outcome ended)
    (described : ∀ value vault changed, makes value vault changed →
      (change value).Makes app.kMaster vault changed) :
    (∀ error, outcome = .error error → Serves passwords book ended) ∧
      ∀ value, outcome = .ok value → Serves passwords (book.apply (change value)) ended := by
  obtain ⟨shown, key, lists⟩ := serves
  dsimp only at shown key lists
  rw [key] at described
  cases mutated with
  | kept file =>
    exact ⟨fun _ _ => ⟨shown.of_file file, key, lists⟩, fun _ clash => by cases clash⟩
  | unadopted stored made file failed =>
    rw [key] at failed
    have written := shown.unopened aead laws strict stored (described _ _ _ made) failed file book
    exact ⟨fun _ _ => ⟨written, key, lists⟩, fun _ clash => by cases clash⟩
  | adopted stored made file opens =>
    refine ⟨(fun _ clash => by cases clash), fun value returned => ?_⟩
    obtain rfl := Except.ok.inj returned
    have making := described _ _ _ made
    obtain ⟨⟨rows, coherent⟩, map⟩ := shown.holds stored
    rw [key] at opens
    exact ⟨shown.makes aead laws strict stored making file, key,
      (coherent.lists map).makes aead laws strict coherent.decrypts making opens⟩

end Shown

section Operations

variable {δ : Type} [Platform δ] [Crates] {passwords : String → Prop} {book : Book}
  {world : World δ} {app : UnlockedApp}

/-- What an addition puts into a book. -/
def Book.adds (book : Book) (id : EntryId) (label : String) (policy : EntryPolicy)
    (record : EntryRecord) : Book := book.apply (.put ⟨id, label, policy, record⟩)

/-- What a removal leaves of a book. -/
def Book.removes (book : Book) (id : EntryId) : Book := book.apply (.drop id)

/-- An addition puts the entry into the book, or fails and leaves the book. -/
theorem serves_addEntry (aead : AeadLaws) (laws : PostcardLaws) (strict : StrictLaws)
    (book : Book) (label : String) (policy : EntryPolicy) (record : EntryRecord) :
    Triple (Serves passwords book) (addEntry label policy record : SessionAct δ CoreError EntryId)
      (fun id => Serves passwords (book.adds id label policy record))
      (fun _ => Serves passwords book) := by
  have ends {state after : World δ × UnlockedApp} {outcome : Except CoreError EntryId}
      (serves : Serves passwords book state)
      (ran : addEntry label policy record state = (outcome, after)) :=
    serves.mutation aead laws strict (fun id => .put ⟨id, label, policy, record⟩)
      (addEntry_cases ran) fun _ _ _ made => made.2
  exact ⟨fun serves ran => (ends serves ran).2 _ rfl, fun serves ran => (ends serves ran).1 _ rfl⟩

/-- A removal drops the entry from the book, or fails and leaves the book. -/
theorem serves_removeEntry (aead : AeadLaws) (laws : PostcardLaws) (strict : StrictLaws)
    (book : Book) (id : EntryId) :
    Triple (Serves passwords book) (removeEntry id : SessionAct δ CoreError Unit)
      (fun _ => Serves passwords (book.removes id)) (fun _ => Serves passwords book) := by
  have ends {state after : World δ × UnlockedApp} {outcome : Except CoreError Unit}
      (serves : Serves passwords book state) (ran : removeEntry id state = (outcome, after)) :=
    serves.mutation aead laws strict (fun _ => .drop id) (removeEntry_cases ran)
      fun _ _ _ made => made
  exact ⟨fun serves ran => (ends serves ran).2 _ rfl, fun serves ran => (ends serves ran).1 _ rfl⟩

/-- A created vault has the key that it was sealed under. -/
theorem Vault.Derives.created {password : String} (used : passwords password) {kHsm : Bytes}
    (secret : Secret δ kHsm) {salt : Block 32} {kdf : KdfParams} {before after : World δ}
    {key : MasterKey}
    (derives : deriveMasterFromBytes password salt kdf kHsm before = (.ok key, after))
    {keyBlob seedBlob : Bytes} {metadata : VaultMetadata} {probeNonce indexNonce : Nonce}
    {created : Vault} (made : Vault.create kdf salt keyBlob seedBlob metadata key probeNonce
      indexNonce = .ok created) : created.Derives δ passwords key := by
  obtain ⟨_, kPw, hashed, combined⟩ := ((deriveMasterFromBytes_cases derives).2 _).mp rfl
  obtain ⟨_, _, _, _, _, _, _, _, rfl⟩ := Vault.create_ok_iff.mp made
  exact ⟨password, kHsm, used, secret, kPw, (argon2idWithinMemory_eq_ok.mp hashed).2.2, combined⟩

/-- Of the keys that the passwords derive, the probe of the vault accepts at most the one that opens
its index. -/
def Vault.Commits (δ : Type) [Platform δ] (passwords : String → Prop) (vault : Vault) : Prop :=
  ∀ key other rows, vault.Derives δ passwords key → vault.openIndex key = .ok rows →
    vault.Derives δ passwords other → vault.verifyProbe other = .ok () → other = key

/-- The passwords open the stored vault under one key only. -/
def World.Commits (world : World δ) (passwords : String → Prop) : Prop :=
  ∀ vault, world.Stores vault → vault.Commits δ passwords

/-- A key that was derived and proved is that of the book. -/
theorem Vault.Holds.proved {vault : Vault} (holds : vault.Holds δ passwords book)
    (commits : vault.Commits δ passwords) {password : String} (used : passwords password)
    {kHsm : Bytes} (secret : Secret δ kHsm) {before after : World δ} {key : MasterKey}
    (derives : deriveMasterFromBytes password vault.salt vault.kdfParams kHsm before =
      (.ok key, after)) (probe : vault.verifyProbe key = .ok ()) : key = book.key := by
  obtain ⟨⟨rows, coherent⟩, _, derived⟩ := holds
  obtain ⟨_, kPw, hashed, combined⟩ := ((deriveMasterFromBytes_cases derives).2 _).mp rfl
  exact commits book.key key rows derived coherent.opens
    ⟨password, kHsm, used, secret, kPw, (argon2idWithinMemory_eq_ok.mp hashed).2.2, combined⟩ probe

/-- Another lockout state or other metadata leave the key that passwords open. -/
theorem World.Commits.rewrites {after : World δ} (commits : world.Commits passwords)
    (rewrites : world.Rewrites Vault.Relabels after) : after.Commits passwords := by
  intro found stored
  rcases rewrites with same | ⟨vault, changed, before, relabels, file⟩
  · obtain ⟨bytes, file, parses⟩ := stored
    exact commits found ⟨bytes, same.symm.trans file, parses⟩
  · obtain ⟨rfl, _⟩ := stored.of_written file (before.clamped.relabel relabels)
    obtain ⟨state, metadata, rfl⟩ := relabels
    exact commits vault before

/-- The items a recovery file holds for a password. -/
def Recovers (file : Bytes) (password : String) (items : List Item) : Prop :=
  ∃ available payload, importWithinMemory file password available = .ok payload ∧
    payload.entries.mapM importItem = .ok items

/-- Whatever the file restores under the password is the book. -/
def Book.BackedBy (book : Book) (file : Bytes) (password : String) : Prop :=
  ∀ items, Recovers file password items → Contents.empty.putAll items = book.contents

/-- A fresh authentication arrives at the key of the book. -/
theorem Vault.Holds.reauthenticate {password code : String} {vault : Vault}
    (holds : vault.Holds δ passwords book) (commits : vault.Commits δ passwords)
    (used : passwords password) {before after : World δ} {kMaster : MasterKey} {seed : Bytes}
    (ran : Passman.reauthenticate vault password code before = (.ok (kMaster, seed), after)) :
    kMaster = book.key := by
  obtain ⟨kHsm, _, gotKey, ran⟩ := Op.bind_ok_cases ran
  obtain ⟨_, _, _, ran⟩ := Op.bind_ok_cases ran
  obtain ⟨valid, reached, _, ran⟩ := Op.bind_ok_cases ran
  cases valid with
  | false =>
    obtain ⟨clash, _⟩ := Prod.mk.inj ran
    cases clash
  | true =>
    obtain ⟨key, _, derives, ran⟩ := Op.bind_ok_cases ran
    obtain ⟨_, _, probed, ran⟩ := Op.bind_ok_cases ran
    obtain ⟨returned, _⟩ := Prod.mk.inj ran
    obtain ⟨rfl, _⟩ := Prod.mk.inj (Except.ok.inj returned)
    have secret : Secret δ kHsm := .inr (hsmUnwrap_returns (Op.mapError_ok.mp gotKey))
    exact holds.proved commits used secret derives (Prod.mk.inj (Op.mapError_ok.mp probed)).1

/-- An export leaves the book, and returns a file that backs it. -/
theorem serves_exportRecovery (aead : AeadLaws) (policies : PolicyLaws) (book : Book)
    {password : String} (used : passwords password) (code : String) (preset : RecoveryPreset) :
    Triple (fun state : World δ × UnlockedApp =>
        Serves passwords book state ∧ state.1.Commits passwords)
      (exportRecovery password code preset : SessionAct δ CoreError Bytes)
      (fun file state => Serves passwords book state ∧ book.BackedBy file password)
      (fun _ => Serves passwords book) := by
  have kept {state after : World δ × UnlockedApp} {outcome : Except CoreError Bytes}
      (serves : Serves passwords book state) (ran : exportRecovery password code preset state =
        (outcome, after)) : Serves passwords book after := by
    obtain ⟨world, app⟩ := state
    obtain ⟨shown, key, lists⟩ := serves
    obtain ⟨same, _⟩ := exportRecovery_cases ran
    exact ⟨shown.rewrites (exportRecovery_rewrites ran), by rw [same]; exact key,
      by rw [same]; exact lists⟩
  refine ⟨fun {state file after} start ran => ⟨kept start.1 ran, ?_⟩,
    fun start ran => kept start.1 ran⟩
  obtain ⟨world, app⟩ := state
  obtain ⟨serves, commits⟩ := start
  obtain ⟨_, ⟨_, clash, _⟩ | ⟨_, vault, seed, kMaster, entries, same, exported⟩⟩ :=
    exportRecovery_cases ran
  · cases clash
  obtain rfl := Except.ok.inj same
  obtain ⟨_, _, proving⟩ := exported.proved
  have holds := serves.shown.holds exported.stored
  obtain rfl := holds.reauthenticate (commits vault exported.stored) used proving
  obtain ⟨items, rows, decrypts, imports, _⟩ := exportEntries_ok policies exported.rows
  have listed : book.Lists (items.map Item.row) := rows ▸ serves.lists
  have carried : Contents.empty.putAll items = book.contents := by
    refine listed.contents_eq fun item member entry found => ?_
    rw [holds.record found]
    exact decrypts item member
  rintro others ⟨_, payload, imported, chosen⟩
  obtain ⟨_, _, _, sealing⟩ := exported.sealedAs
  obtain rfl := importWithinMemory_restores aead sealing imported
  obtain rfl := Except.ok.inj (imports.symm.trans chosen)
  exact carried

/-- An attempt to unlock leaves the book and the key that passwords open, and a session it returns
serves the book. -/
theorem serves_unlock (held : Option Book) {password : String} (used : passwords password)
    (code : String) :
    Triple (fun world : World δ => world.Shows passwords held ∧ world.Commits passwords)
      (unlock password code)
      (fun app world => ∃ book, held = some book ∧ Serves passwords book (world, app) ∧
        world.Commits passwords)
      (fun _ world => world.Shows passwords held) where
  returns := by
    rintro world app after ⟨shown, commits⟩ ran
    have kept := shown.rewrites (unlock_rewrites ran)
    have committed := commits.rewrites (unlock_rewrites ran)
    cases unlock_cases ran with
    | @opened presented reached _ _ _ _ presents _ derived probe index _ =>
      have stored := (presentFactors_cases presents).gate.1
      obtain ⟨book, rfl, holds⟩ := shown.some_of_stores stored
      rcases derives : deriveMasterFromBytes password presented.vault.salt
        presented.vault.kdfParams presented.kHsm reached with ⟨outcome, settled⟩
      rw [derives] at derived
      obtain rfl : outcome = .ok app.kMaster := derived
      have key := holds.proved (commits _ stored) used (.inr (presentFactors_returns presents))
        derives probe
      refine ⟨book, rfl, ⟨kept, key, ?_⟩, committed⟩
      obtain ⟨⟨rows, coherent⟩, map, _⟩ := holds
      rw [key] at index
      obtain rfl := Except.ok.inj (coherent.opens.symm.trans index)
      exact coherent.lists map
  stops := by
    rintro world error after ⟨shown, _⟩ ran
    exact shown.rewrites (unlock_rewrites ran)

/-- A change of the master password carries the book over to the key it leaves the session with, or
fails and leaves the book shown. -/
theorem serves_changeMasterPassword (aead : AeadLaws) (laws : PostcardLaws) (strict : StrictLaws)
    (book : Book) (old : String) {new : String} (used : passwords new) (kdf : KdfParams) :
    Triple (Serves passwords book)
      (changeMasterPassword old new kdf : SessionAct δ CoreError PasswordChangeOutcome)
      (fun _ state => Serves passwords (book.under state.2.kMaster) state)
      (fun _ state => state.1.Shows passwords (some book) ∧
        Serves passwords (book.under state.2.kMaster) state) := by
  have ends {state after : World δ × UnlockedApp} {outcome : Except CoreError PasswordChangeOutcome}
      (serves : Serves passwords book state)
      (ran : changeMasterPassword old new kdf state = (outcome, after)) :
      Serves passwords (book.under after.2.kMaster) after ∧
        ((∃ error, outcome = .error error) → after.1.Shows passwords (some book)) := by
    obtain ⟨world, app⟩ := state
    obtain ⟨shown, key, lists⟩ := serves
    dsimp only at shown key lists
    rcases changeMasterPassword_cases ran with
      ⟨_, _, file, same⟩ | ⟨vault, rebuilt, kHsm, salt, rekeyed, opens⟩
    · have under : book.under app.kMaster = book := by rw [Book.under, key]
      rw [same, under]
      exact ⟨⟨shown.of_file file, by rw [same]; exact key, by rw [same]; exact lists⟩,
        fun _ => shown.of_file file⟩
    obtain ⟨_, _, _, created, items, made, chosen, puts⟩ := rekeyed.rebuilds
    obtain ⟨rows, decrypts⟩ := reencryptItems_ok chosen
    have clamped := (Vault.Clamped.create made).putAll puts
    have carried : Contents.empty.putAll items = book.contents := by
      have listed : book.Lists (items.map Item.row) := rows ▸ lists
      refine listed.contents_eq fun item member entry kept => ?_
      rw [(shown.holds rekeyed.stored).record kept, ← key]
      exact decrypts item member
    obtain ⟨_, _, unwrapped⟩ := rekeyed.unwrapped
    obtain ⟨_, _, derives⟩ := rekeyed.derived
    have secret : Secret δ kHsm := .inr (hsmUnwrap_returns (Op.mapError_ok.mp unwrapped))
    have derived := (Vault.Derives.created used secret derives made).continues
      ((Vault.Continues.refl created).reseal puts.header)
    have holds (formed : rebuilt.WellFormed) :
        rebuilt.Holds δ passwords (book.under after.2.kMaster) := by
      obtain ⟨left, coherent, map⟩ := puts.coherent_of_create aead laws strict made formed
      exact ⟨⟨left, coherent⟩, map.trans carried, derived⟩
    rcases opens with ⟨⟨_, shut, _⟩, index⟩ | ⟨⟨_, returned⟩, opens⟩
    · -- A rebuilt vault that does not open is too large to be read, and shows any book.
      have unformed (formed : rebuilt.WellFormed) : False := by
        obtain ⟨_, coherent⟩ := (holds formed).coherent
        rw [show rebuilt.openIndex after.2.kMaster = _ from coherent.opens] at shut
        cases shut
      have shows (other : Book) : after.1.Shows passwords (some other) :=
        .written clamped (fun formed => (unformed formed).elim) rekeyed.file
      exact ⟨⟨shows _, rfl, index ▸ lists.under _⟩, fun _ => shows book⟩
    · refine ⟨⟨.written clamped holds rekeyed.file, rfl, ?_⟩, fun ⟨_, clash⟩ => ?_⟩
      · have ids : (itemIds items).Nodup := by
          rw [← rows_ids, ← rows]
          exact lists.distinct
        have opened := ((rebuilt.openIndex_ok_iff _ _).mp opens).1
        obtain ⟨start, before, same⟩ := puts.exact aead laws strict opened
        obtain rfl := Vault.create_exact aead laws strict made before
        rw [same.trans (rowsOf_distinct ids), ← rows]
        exact lists.under _
      · rw [returned] at clash
        cases clash
  exact ⟨fun serves ran => (ends serves ran).1, fun serves ran =>
    ⟨(ends serves ran).2 ⟨_, rfl⟩, (ends serves ran).1⟩⟩

/-- A view of an entry shows its record in the book, and the session goes on serving it. -/
theorem serves_withRevealed {α : Type} (book : Book) (id : EntryId) (view : EntryRecord → α) :
    Triple (Serves passwords book) (withRevealed id view : SessionAct δ CoreError α)
      (fun value state => Serves passwords book state ∧ ∃ entry record,
        book.contents id = some entry ∧ entry.record = .ok record ∧ value = view record)
      (fun _ => Serves passwords book) where
  returns := by
    rintro ⟨world, app⟩ value after serves ran
    refine ⟨serves.untouched ((untouched_withRevealed id view).ran ran), ?_⟩
    rcases gated_cases ran with ⟨clash, _⟩ | ran
    · cases clash
    obtain ⟨vault, _, read, ran⟩ := Op.bind_ok_cases ran
    obtain ⟨loaded, loading, rfl⟩ := Op.onFirst_cases read
    have stored : world.Stores vault := (loadVault_cases loading).2 vault rfl
    rw [Op.get_bind_run] at ran
    obtain ⟨record, _, decrypted, ran⟩ := Op.bind_ok_cases ran
    obtain ⟨decrypts, _⟩ := Prod.mk.inj (Op.mapError_ok.mp decrypted)
    obtain ⟨same, _⟩ := Prod.mk.inj ran
    have key : app.kMaster = book.key := serves.key
    rw [key] at decrypts
    obtain ⟨entry, kept, shows⟩ := (serves.shown.holds stored).entry decrypts
    exact ⟨entry, record, kept, shows, (Except.ok.inj same).symm⟩
  stops := fun serves ran => serves.untouched ((untouched_withRevealed id view).ran ran)

/-- A listing names the rows of the book. -/
theorem serves_listEntries (book : Book) :
    Triple (Serves passwords book) (listEntries : SessionAct δ CoreError (List EntryHandle))
      (fun handles state => Serves passwords book state ∧ ∃ rows, book.Lists rows ∧
        handles = rows.map fun row => ⟨row.id, row.label⟩) (fun _ => Serves passwords book) where
  returns := by
    rintro ⟨world, app⟩ handles after serves ran
    refine ⟨serves.untouched (untouched_listEntries.ran ran), app.index, serves.lists, ?_⟩
    rcases gated_cases ran with ⟨clash, _⟩ | ran
    · cases clash
    · exact (Except.ok.inj (Prod.mk.inj ran).1).symm
  stops := fun serves ran => serves.untouched (untouched_listEntries.ran ran)

/-- The generation of a password leaves the book. -/
theorem serves_generatePassword (book : Book) (request : GenerationRequest) :
    Triple (Serves passwords book) (generatePassword request : SessionAct δ CoreError String)
      (fun _ => Serves passwords book) (fun _ => Serves passwords book) :=
  ⟨fun serves ran => serves.untouched ((untouched_generatePassword request).ran ran),
    fun serves ran => serves.untouched ((untouched_generatePassword request).ran ran)⟩

end Operations

section Foundings

variable {δ : Type} [Platform δ] [Crates] {passwords : String → Prop}

/-- The items a call that founds a vault puts into it. -/
def FoundingCall.Puts (items : List Item) : FoundingCall → Prop
  | createVault _ _ _ => items = []
  | importRecovery file password _ _ => Recovers file password items

/-- The password of a call. -/
def FoundingCall.password : FoundingCall → String
  | createVault password _ _ => password
  | importRecovery _ password _ _ => password

/-- A vault is a created one into which items were put, under a key that one of the passwords
derives. -/
def Vault.FilledWith (δ : Type) [Platform δ] (passwords : String → Prop) (kMaster : MasterKey)
    (items : List Item) (vault : Vault) : Prop :=
  ∃ kdfParams salt kHsmWrapBlob totpSeedWrapBlob metadata probeNonce indexNonce created,
    Vault.create kdfParams salt kHsmWrapBlob totpSeedWrapBlob metadata kMaster probeNonce
      indexNonce = .ok created ∧ Vault.PutsAll kMaster items created vault ∧
        created.Derives δ passwords kMaster

/-- The ways a call that founds a vault ends. -/
inductive FoundingCall.Ended (passwords : String → Prop) (call : FoundingCall) (world : World δ) :
    Except CoreError (UnlockedApp × String) → World δ → Prop
  /-- Nothing was stored. -/
  | kept {error : CoreError} {after : World δ} (file : after.file = world.file) :
    Ended passwords call world (.error error) after
  /-- A vault was stored, but it does not open. -/
  | unopened {kMaster : MasterKey} {items : List Item} {vault : Vault} {error : CoreError}
      {reason : VaultError} {after : World δ} (puts : call.Puts items)
      (filled : vault.FilledWith δ passwords kMaster items) (file : after.file = some vault.toBytes)
      (shut : vault.openIndex kMaster = .error reason) :
      Ended passwords call world (.error error) after
  /-- A vault was stored and opened as a session. -/
  | opened {items : List Item} {vault : Vault} {app : UnlockedApp} {uri : String} {after : World δ}
      (puts : call.Puts items) (filled : vault.FilledWith δ passwords app.kMaster items)
      (file : after.file = some vault.toBytes)
      (opens : vault.openIndex app.kMaster = .ok app.index) :
    Ended passwords call world (.ok (app, uri)) after

omit [Crates] in
/-- A blob that was enrolled holds a secret of the key store. -/
theorem secret_of_enrolled {kHsm : Bytes} {blob : WrappedBlob} {before after : World δ}
    (ran : enrollSlot .vaultKey kHsm before = (.ok blob, after)) : Secret δ kHsm := by
  obtain ⟨found, _, enrolled, ran⟩ := Op.bind_ok_cases ran
  exact .inl ⟨found, before.device, (Prod.mk.inj (Op.mapError_ok.mp enrolled)).1⟩

/-- What a call prepares carries its password, a secret of the key store and the entries it
restores. -/
theorem FoundingCall.prepare_carries {call : FoundingCall} {world reached : World δ}
    {founding : Founding} (ran : call.prepare world = (.ok founding, reached)) :
    founding.password = call.password ∧ Secret δ founding.kHsm.val ∧
      ∀ items, founding.entries.mapM importItem = .ok items → call.Puts items := by
  cases call with
  | createVault password kdf config =>
    obtain ⟨_, _, _, ran⟩ := Op.bind_ok_cases ran
    rw [ask_bind_run, ask_bind_run] at ran
    obtain ⟨_, _, enrolling, ran⟩ := Op.bind_ok_cases ran
    obtain rfl := Except.ok.inj (Prod.mk.inj ran).1
    exact ⟨rfl, secret_of_enrolled enrolling, fun items chosen => (Except.ok.inj chosen).symm⟩
  | importRecovery file password kdf config =>
    obtain ⟨_, permitted, _, ran⟩ := Op.bind_ok_cases ran
    rw [ask_bind_run] at ran
    obtain ⟨payload, _, started, ran⟩ := Op.bind_ok_cases ran
    obtain ⟨_, _, _, importing⟩ := startImport_run file password
      (Platform.availableMemoryKib permitted.device).1 permitted.measured
    obtain ⟨found, _⟩ := Prod.mk.inj (importing.symm.trans (Op.mapError_ok.mp started))
    rw [ask_bind_run] at ran
    obtain ⟨_, _, enrolling, ran⟩ := Op.bind_ok_cases ran
    obtain rfl := Except.ok.inj (Prod.mk.inj ran).1
    exact ⟨rfl, secret_of_enrolled enrolling, fun items chosen => ⟨_, payload, found, chosen⟩⟩

/-- A derivation from the bytes of a key is the derivation from the key. -/
theorem deriveMasterFromBytes_val (password : String) (salt : Block 32) (kdf : KdfParams)
    (kHsm : Key) : (deriveMasterFromBytes password salt kdf kHsm.val : Act δ CoreError MasterKey) =
      deriveMaster password salt kdf kHsm := by
  have sized : kHsm.val.length = keyLen := kHsm.property
  rw [deriveMasterFromBytes, intoKey, dif_pos sized]

/-- A vault that is stored for a founding is a created one filled with its entries. -/
theorem Founding.store_filled {founding : Founding} {before after : World δ}
    {kMaster : MasterKey} {vault : Vault} (used : passwords founding.password)
    (secret : Secret δ founding.kHsm.val)
    (ran : founding.store before = (.ok (kMaster, vault), after)) :
    ∃ items, founding.entries.mapM importItem = .ok items ∧
      vault.FilledWith δ passwords kMaster items ∧ after.file = some vault.toBytes := by
  obtain ⟨_, _, _, ran⟩ := Op.bind_ok_cases ran
  rw [ask_bind_run] at ran
  obtain ⟨key, _, derives, ran⟩ := Op.bind_ok_cases ran
  rw [← deriveMasterFromBytes_val] at derives
  obtain ⟨_, _, _, ran⟩ := Op.bind_ok_cases ran
  obtain ⟨created, _, making, ran⟩ := Op.bind_ok_cases ran
  obtain ⟨_, probeNonce, indexNonce, made⟩ := createSealed_ok making
  obtain ⟨filled, _, inserted, ran⟩ := Op.bind_ok_cases ran
  obtain ⟨_, items, chosen, puts⟩ :=
    putItems_ok (importEntry _) (fun _ _ _ _ _ => importEntry_ok) inserted
  obtain ⟨_, _, writing, ran⟩ := Op.bind_ok_cases ran
  obtain ⟨same, rfl⟩ := Prod.mk.inj ran
  obtain ⟨rfl, rfl⟩ := Prod.mk.inj (Except.ok.inj same)
  obtain ⟨_, ⟨_, rfl⟩ | ⟨_, _, clash, _⟩⟩ := atomicWrite_cases writing
  · have derived := Vault.Derives.created used secret derives made
    exact ⟨items, chosen,
      ⟨_, _, _, _, _, probeNonce, indexNonce, created, made, puts, derived⟩, rfl⟩
  · cases clash

/-- Every call that founds a vault ends in one of these ways. -/
theorem FoundingCall.perform_ended (call : FoundingCall) (used : passwords call.password)
    {world after : World δ} {outcome : Except CoreError (UnlockedApp × String)}
    (ran : call.perform world = (outcome, after)) : call.Ended passwords world outcome after := by
  rw [call.perform_parts] at ran
  rcases Op.bind_cases ran with ⟨founding, reached, prepared, ran⟩ | ⟨error, failed, rfl⟩
  swap
  · rcases prepare_cases failed with ⟨_, _, quiet⟩ | ⟨_, clash, _⟩
    · exact .kept quiet.1
    · cases clash
  have reachedFile : reached.file = world.file := by
    rcases prepare_cases prepared with ⟨_, clash, _⟩ | ⟨_, _, quiet⟩
    · cases clash
    · exact quiet.1
  rcases Op.bind_cases ran with ⟨⟨kMaster, vault⟩, written, storing, ran⟩ | ⟨error, failed, rfl⟩
  swap
  · rcases founding.store_cases failed with ⟨_, _, _, quiet⟩ | ⟨_, _, _, clash, _⟩
    · exact .kept (quiet.1.trans reachedFile)
    · cases clash
  obtain ⟨same, secret, carries⟩ := prepare_carries prepared
  obtain ⟨items, chosen, filled, file⟩ := Founding.store_filled (same ▸ used) secret storing
  have puts := carries items chosen
  have kept : after.file = some vault.toBytes :=
    ((founding.openSession_quiet kMaster vault).ran ran).1.trans file
  obtain ⟨_, recorded, set, ran⟩ | ⟨_, clash, _⟩ := Op.bind_cases ran
  swap
  · cases clash
  rcases Op.bind_cases ran with ⟨index, _, opened, ran⟩ | ⟨error, failed, rfl⟩
  · obtain ⟨opens, rfl⟩ := Prod.mk.inj (Op.mapError_ok.mp opened)
    rw [buildUnlocked, clockNow] at ran
    obtain ⟨rfl, _⟩ := Prod.mk.inj ran
    exact .opened puts filled kept opens
  · obtain ⟨reason, shut, _⟩ := Op.mapError_error.mp failed
    exact .unopened puts filled kept (Prod.mk.inj shut).1

/-- A filled vault that was written shows the book of its items. -/
theorem World.Shows.filled (aead : AeadLaws) (laws : PostcardLaws) (strict : StrictLaws)
    {kMaster : MasterKey} {items : List Item} {vault : Vault}
    (filled : vault.FilledWith δ passwords kMaster items) {after : World δ}
    (file : after.file = some vault.toBytes) :
    after.Shows passwords (some ⟨kMaster, Contents.empty.putAll items⟩) := by
  obtain ⟨_, _, _, _, _, _, _, created, made, puts, derived⟩ := filled
  exact .written ((Vault.Clamped.create made).putAll puts)
    (fun formed => by
      obtain ⟨rows, coherent, map⟩ := puts.coherent_of_create aead laws strict made formed
      exact ⟨⟨rows, coherent⟩, map,
        derived.continues ((Vault.Continues.refl created).reseal puts.header)⟩) file

/-- The rows of a filled vault list its items. -/
theorem Vault.FilledWith.lists (aead : AeadLaws) (laws : PostcardLaws) (strict : StrictLaws)
    {kMaster : MasterKey} {items : List Item} {vault : Vault}
    (filled : vault.FilledWith δ passwords kMaster items) {rows : Index}
    (opens : vault.openIndex kMaster = .ok rows) :
    (Book.mk kMaster (Contents.empty.putAll items)).Lists rows := by
  obtain ⟨_, _, _, _, _, _, _, created, made, puts, _⟩ := filled
  obtain ⟨start, before, rfl⟩ :=
    puts.exact aead laws strict ((vault.openIndex_ok_iff kMaster rows).mp opens).1
  obtain rfl := Vault.create_exact aead laws strict made before
  have none : (Book.mk kMaster Contents.empty).Lists [] := ⟨List.nodup_nil, fun _ => rfl⟩
  exact none.putAll items

/-- A call that founds a vault leaves a session that serves the book of its items, or fails and
leaves what was shown; a vault that was stored and does not open shows that book too. -/
theorem serves_founding (aead : AeadLaws) (laws : PostcardLaws) (strict : StrictLaws)
    (held : Option Book) (call : FoundingCall) (used : passwords call.password) :
    Triple (fun world : World δ => world.Shows passwords held) call.perform
      (fun opened world => ∃ items, call.Puts items ∧
        Serves passwords ⟨opened.1.kMaster, Contents.empty.putAll items⟩ (world, opened.1))
      (fun _ world => world.Shows passwords held ∨ ∃ kMaster items, call.Puts items ∧
        world.Shows passwords (some ⟨kMaster, Contents.empty.putAll items⟩)) where
  returns := by
    rintro world opened after _ ran
    cases FoundingCall.perform_ended call used ran with
    | opened puts filled file opens =>
      exact ⟨_, puts, .filled aead laws strict filled file, rfl,
        filled.lists aead laws strict opens⟩
  stops := by
    rintro world error after shown ran
    cases FoundingCall.perform_ended call used ran with
    | kept file => exact .inl (shown.of_file file)
    | unopened puts filled file _ =>
      exact .inr ⟨_, _, puts, .filled aead laws strict filled file⟩

/-- A creation leaves a session that serves an empty book, or fails and leaves what was shown. -/
theorem serves_createVault (aead : AeadLaws) (laws : PostcardLaws) (strict : StrictLaws)
    (fits : IndexFits .current []) (held : Option Book) {password : String}
    (used : passwords password) (kdf : KdfParams) (config : TotpConfig) :
    Triple (fun world : World δ => world.Shows passwords held) (createVault password kdf config)
      (fun opened world => Serves passwords ⟨opened.1.kMaster, Contents.empty⟩ (world, opened.1))
      (fun _ world => world.Shows passwords held) where
  returns := by
    rintro world opened after shown ran
    obtain ⟨_, rfl, serves⟩ := (serves_founding aead laws strict held
      (.createVault password kdf config) used).returns shown ran
    exact serves
  stops := by
    rintro world error after shown ran
    cases FoundingCall.perform_ended (.createVault password kdf config) used ran with
    | kept file => exact shown.of_file file
    | unopened puts filled _ shut =>
      obtain rfl := puts
      obtain ⟨_, _, _, _, _, _, _, created, made, puts, _⟩ := filled
      cases puts
      obtain ⟨rows, coherent⟩ := Vault.Started.coherent aead laws (.created made fits)
      rw [coherent.opens] at shut
      cases shut

end Foundings

namespace Reference

/-- One password opens every vault of the example under one key only. -/
theorem commits_of_sole {δ : Type} [Platform δ] {passwords : String → Prop}
    (sole : ∀ first second, passwords first → passwords second → first = second) (world : World δ) :
    @World.Commits δ _ crates world passwords := by
  let _ := crates
  rintro vault _ key other rows ⟨first, _, used, _, _, hashed, rfl⟩ _
    ⟨second, _, again, _, _, rehashed, rfl⟩ _
  obtain rfl := sole first second used again
  obtain rfl := Except.ok.inj (hashed.symm.trans rehashed)
  exact (digest_append _ _ _ _).trans (digest_append _ _ _ _).symm

/-- An empty index fits its length field. -/
theorem emptyIndex_fits : @IndexFits crates .current [] := by
  let _ := crates
  refine IndexFits.of_length .current fun postcard written => ?_
  obtain rfl := Option.some.inj written
  decide

end Reference

end Passman
