import Mathlib.Data.List.Infix
import Passman.Core.Holding
import Passman.Recovery.RoundTrip
import Passman.Vault.Listing

/-!
# Restoring a backup

An export carries every entry of the session's index and the seed through the recovery format,
and a restoration puts them into a fresh vault under another key. What the restored vault lists is
what the exported one listed, in the same order, with the same seed.
-/
namespace Passman

open Bytewise Fallible

/-- The recovery entry of an item with a serialized policy. -/
def Item.entry (item : Item) (policy : Bytes) : RecoveryEntry :=
  ⟨item.id.bytes, item.label, item.record.username, item.record.password, item.record.url,
    item.record.notes, policy⟩

section Entries

variable [Crates]

/-- The lengths that the recovery format and the restored vault write for the items stay below the
capacity of their fields. -/
structure LengthsFit (items : List Item) : Prop extends SealsFit items where
  /-- Every field of the recovery file fits. -/
  entries : ∀ item ∈ items, ∀ policy, Crates.policyToBytes item.policy = some policy →
    (item.entry policy).Fits

/-- The entry of an item is imported as the item. -/
theorem importItem_entry (policies : PolicyLaws) {item : Item} {policy : Bytes}
    (written : Crates.policyToBytes item.policy = some policy) :
    importItem (item.entry policy) = .ok item := by
  have read : Crates.policyOfBytes (item.entry policy).policy = some item.policy :=
    policies.reads item.policy policy written
  change importEntryParts _ >>= _ = _
  rw [importEntryParts, read]
  rfl

/-- An exported entry is that of an item with the row, whose record is the decrypted one. -/
theorem exportEntry_ok {vault : Vault} {kMaster : MasterKey} {row : IndexEntry}
    {entry : RecoveryEntry} (ran : exportEntry vault kMaster row = .ok entry) :
    ∃ (item : Item) (policy : Bytes), item.row = row ∧
      vault.decryptEntry kMaster item.id = .ok item.record ∧
      Crates.policyToBytes item.policy = some policy ∧ entry = item.entry policy := by
  rw [exportEntry] at ran
  cases decrypted : vault.decryptEntry kMaster row.id with
  | error error =>
    rw [decrypted] at ran
    cases ran
  | ok record =>
    rw [decrypted] at ran
    change recoveryEntryFrom row record = _ at ran
    rw [recoveryEntryFrom] at ran
    cases written : Crates.policyToBytes row.policy with
    | none =>
      rw [written] at ran
      cases ran
    | some policy =>
      rw [written] at ran
      exact ⟨⟨row.id, row.label, row.policy, record⟩, policy, rfl, decrypted, written,
        (Except.ok.inj ran).symm⟩

/-- Exported entries are those of the items behind the rows, and are imported as these items. -/
theorem exportEntries_ok (policies : PolicyLaws) {vault : Vault} {kMaster : MasterKey}
    {index : Index} {entries : List RecoveryEntry}
    (ran : index.mapM (exportEntry vault kMaster) = .ok entries) :
    ∃ items : List Item, index = items.map Item.row ∧
      (∀ item ∈ items, vault.decryptEntry kMaster item.id = .ok item.record) ∧
      entries.mapM importItem = .ok items ∧ entries.length = items.length ∧
      ∀ entry ∈ entries, ∃ item ∈ items, ∃ policy,
        Crates.policyToBytes item.policy = some policy ∧ entry = item.entry policy := by
  induction index generalizing entries with
  | nil =>
    obtain rfl := Except.ok.inj ran
    exact ⟨[], rfl, by simp, rfl, rfl, by simp⟩
  | cons row index ih =>
    rw [List.mapM_cons] at ran
    cases first : exportEntry vault kMaster row with
    | error error =>
      rw [first] at ran
      cases ran
    | ok entry =>
      rw [first] at ran
      change (index.mapM (exportEntry vault kMaster) >>= fun others => pure (entry :: others)) =
        _ at ran
      cases rest : index.mapM (exportEntry vault kMaster) with
      | error error =>
        rw [rest] at ran
        cases ran
      | ok others =>
        rw [rest] at ran
        obtain rfl := Except.ok.inj ran
        obtain ⟨items, rfl, decrypts, imports, counted, each⟩ := ih rest
        obtain ⟨item, policy, rfl, decrypted, written, rfl⟩ := exportEntry_ok first
        refine ⟨item :: items, rfl, ?_, ?_, ?_, ?_⟩
        · exact List.forall_mem_cons.mpr ⟨decrypted, decrypts⟩
        · rw [List.mapM_cons, importItem_entry policies written, imports]
          rfl
        · rw [List.length_cons, List.length_cons, counted]
        · refine List.forall_mem_cons.mpr ⟨⟨item, List.mem_cons_self, policy, written, rfl⟩, ?_⟩
          intro other member
          obtain ⟨source, inside, found⟩ := each other member
          exact ⟨source, List.mem_cons_of_mem _ inside, found⟩

end Entries

section Backups

variable {δ η κ : Type} [Platform δ] [Platform η] [Clipboard κ] [Crates]

/-- What is exported from a live session whose index is that of the file, and restored under the
same master password on any device, is listed by the restored vault in the same order, with the
same seed. -/
theorem backup_is_restored (aead : AeadLaws) (laws : PostcardLaws) (policies : PolicyLaws)
    (store : PersistentStore δ) {world : World δ} {app : UnlockedApp} (held : Held κ world app)
    {vault : Vault} (stored : world.Stores vault)
    (opens : vault.openIndex app.kMaster = .ok app.index) {password : String}
    (master : MasterPassword δ password vault app.kMaster)
    (fits : ∀ items, vault.Lists app.kMaster items → LengthsFit items) {code : String}
    {preset : RecoveryPreset} {file : Bytes} {kept : World δ × UnlockedApp}
    (exports : exportRecovery password code preset (world, app) = (.ok file, kept))
    {fresh after : World η} {kdf : KdfParams} {config : TotpConfig} {copy : UnlockedApp}
    {uri : String}
    (restores : importRecovery file password kdf config fresh = (.ok (copy, uri), after)) :
    ∃ items restored, vault.Lists app.kMaster items ∧ restored.Lists copy.kMaster items ∧
      copy.index = app.index ∧ after.file = some restored.toBytes ∧
      (after.Readable → after.Stores restored) ∧
      copy.totpSeed = app.totpSeed ∧ SeedOf η restored app.totpSeed := by
  obtain ⟨_, ⟨_, clash, _⟩ | ⟨_, found, seed, kMaster, entries, same, exported⟩⟩ :=
    exportRecovery_cases exports
  · cases clash
  obtain rfl := Except.ok.inj same
  obtain rfl := exported.stored.unique stored
  have seeded := (held.holds store found stored).seed
  -- The fresh authentication of the export arrives at the session's own key and seed.
  obtain ⟨_, _, proving⟩ := exported.proved
  obtain ⟨rfl, unwrapped⟩ := reauthenticate_ok store master seeded proving
  obtain ⟨items, rows, decrypts, imports, counted, each⟩ := exportEntries_ok policies exported.rows
  have lists : found.Lists app.kMaster items := ⟨rows ▸ opens, decrypts⟩
  have lengths := fits items lists
  have payloadFits : (ExportPayload.mk seed found.kdfParams entries).Fits := by
    refine ⟨by rw [counted]; exact lengths.count, fun entry member => ?_⟩
    obtain ⟨item, inside, policy, written, rfl⟩ := each entry member
    exact lengths.entries item inside policy written
  obtain ⟨payload, _, _, seedBlob, copied, created, chosen, restored, imported, founded, choice,
    puts, installed, _⟩ := importRecovery_founded restores
  obtain ⟨_, _, _, sealing⟩ := exported.sealedAs
  obtain rfl := importWithinMemory_exported aead payloadFits sealing imported
  obtain rfl := Except.ok.inj (imports.symm.trans choice)
  obtain ⟨_, _, _, _, _, _, _, _, made⟩ := founded.sealedUnder
  obtain ⟨_, listed⟩ := puts.lists aead laws made lists.distinct lengths.toSealsFit
  have copyIndex : copy.index = items.map Item.row :=
    Except.ok.inj (installed.index.symm.trans listed.opens)
  have copySeed : copy.totpSeed = app.totpSeed := installed.sessionSeed.trans unwrapped
  rw [← installed.sessionKey] at listed
  refine ⟨items, restored, lists, listed, copyIndex.trans rows.symm, installed.file, ?_, copySeed,
    ?_⟩
  · rintro ⟨other, held⟩
    obtain ⟨rfl, _⟩ := held.of_written installed.file ((Vault.Clamped.create made).putAll puts)
    exact held
  · rw [← copySeed]
    exact (founded.holds puts.header installed.sessionKey installed.sessionSeed).seed

end Backups

namespace Reference

/-- A master password that admits an export. -/
def strong : String := "correct horse"

/-- A creation under it. -/
def backupCreation : Except CoreError (UnlockedApp × String) × World Device :=
  letI := crates
  createVault strong kdfParams .default world

/-- The creation under its name. -/
theorem backupCreation_run :
    @createVault Device _ crates strong kdfParams .default world = backupCreation := rfl

/-- The session and the address of the creation; they are computed by the kernel only. -/
@[irreducible] def backupSession : UnlockedApp × String :=
  backupCreation.1.toOption.getD (⟨kMaster, [], [], 0⟩, "")

/-- The item that is added to the created vault. -/
def backupItem : Item := ⟨backupCreation.2.drawnId, "mail", .default, ⟨"a", "b", "", ""⟩⟩

/-- The addition of an item to a session. -/
def backupAddition (item : Item) (state : World Device × UnlockedApp) :
    Except CoreError SessionReply × SessionState Device (TextClipboard textDigest) :=
  letI := crates
  (SessionCall.addEntry item.label item.policy item.record).perform (state, clipboard)

/-- An addition under its name. -/
theorem backupAddition_run (item : Item) (state : World Device × UnlockedApp) :
    @SessionCall.perform Device (TextClipboard textDigest) _ _ crates
      (.addEntry item.label item.policy item.record) (state, clipboard) =
        backupAddition item state := rfl

/-- The world and the session behind the first addition. -/
def backupFirst : World Device × UnlockedApp :=
  (backupAddition backupItem (backupCreation.2, backupSession.1)).2.1

/-- The item that is added behind the first one; its label sorts before the first. -/
def backupLater : Item := ⟨backupFirst.1.drawnId, "bank", .default, ⟨"c", "d", "", "e"⟩⟩

/-- The items in the order of their additions. -/
def backupItems : List Item := [backupItem, backupLater]

/-- The second addition. -/
def backupFilling :
    Except CoreError SessionReply × SessionState Device (TextClipboard textDigest) :=
  backupAddition backupLater backupFirst

/-- The world and the session that are backed up. -/
def backupState : World Device × UnlockedApp := backupFilling.2.1

/-- The code of the current step under the seed of the session. -/
def backupCode : String :=
  letI := crates
  (ofUtf8 (TotpConfig.default.codeAt backupState.2.totpSeed
    (currentStep device.clock TotpConfig.default.period))).getD ""

/-- The export. -/
def backupExport : Except CoreError Bytes × World Device × UnlockedApp :=
  letI := crates
  exportRecovery strong backupCode .floor backupState

/-- The export under its name. -/
theorem backupExport_run :
    @exportRecovery Device _ crates strong backupCode .floor
      (backupFilling.2.1.1, backupFilling.2.1.2) = backupExport := rfl

/-- The recovery file. -/
@[irreducible] def backupFile : Bytes := backupExport.1.toOption.getD []

/-- The restoration on another device, with another backend and other parameters. -/
def backupRestoration : Except CoreError (UnlockedApp × String) × World Device :=
  letI := crates
  importRecovery backupFile strong ⟨128, 2, 1⟩ .default
    (.opened ⟨5000, 40, none⟩ none .secretService false [])

/-- The restoration under its name. -/
theorem backupRestoration_run :
    @importRecovery Device _ crates backupFile strong ⟨128, 2, 1⟩ .default
      (.opened ⟨5000, 40, none⟩ none .secretService false []) = backupRestoration := rfl

/-- The session and the address of the restoration. -/
@[irreducible] def backupCopy : UnlockedApp × String :=
  backupRestoration.1.toOption.getD (⟨kMaster, [], [], 0⟩, "")

/-- The hardware key of the created vault. -/
def backupKey : Key := (draw 32 device).1

/-- Whether a vault is the one that is backed up: what it lists, and the password behind its key. -/
def backedUp (vault : Vault) : Bool :=
  letI := crates
  decide (vault.openIndex backupState.2.kMaster = .ok backupState.2.index) &&
    backupItems.all (fun item =>
      decide (vault.decryptEntry backupState.2.kMaster item.id = .ok item.record)) &&
    decide (vault.kHsmWrapBlob.val = (storedBlob .vaultKey 1).toBytes) &&
    match Crates.argon2 (utf8 strong) vault.salt.val vault.kdfParams with
    | .ok kPw => decide (backupState.2.kMaster =
        hkdfMaster vault.salt.val (kPw.val ++ backupKey.val) masterInfo)
    | .error _ => false

/-- Whether a vault file is within the limit and holds the vault that is backed up. -/
def backedUpFile (file : Bytes) : Bool :=
  decide (file.length ≤ maxVaultBytes) && (Vault.fromBytes file).toOption.any backedUp

/-- The file of the example session holds the vault that is backed up. -/
theorem backupState_file :
    ∃ file, backupState.1.file = some file ∧ file.length ≤ maxVaultBytes ∧
      ∃ vault, Vault.fromBytes file = .ok vault ∧ backedUp vault = true := by
  have held : backupState.1.file.any backedUpFile = true := by decide +kernel
  obtain ⟨file, stored, holds⟩ := (Option.any_eq_true _ _).mp held
  rw [backedUpFile, Bool.and_eq_true, decide_eq_true_eq] at holds
  obtain ⟨within, parses⟩ := holds
  obtain ⟨vault, parsed, good⟩ := (Option.any_eq_true _ _).mp parses
  refine ⟨file, stored, within, vault, ?_, good⟩
  cases outcome : Vault.fromBytes file with
  | error error =>
    rw [outcome] at parsed
    cases parsed
  | ok found =>
    rw [outcome] at parsed
    rw [Option.some.inj parsed]

/-- The key of the vault that is backed up is derived from the strong password. -/
theorem backedUp_master {vault : Vault} (good : backedUp vault = true) :
    @MasterPassword crates Device _ strong vault backupState.2.kMaster := by
  simp only [backedUp, Bool.and_eq_true, decide_eq_true_eq] at good
  obtain ⟨⟨_, stored⟩, derived⟩ := good
  split at derived
  case h_2 => cases derived
  case h_1 kPw hashed =>
    exact ⟨backupKey, storedBlob .vaultKey 1, kPw, stored, ⟨device, rfl⟩, hashed,
      of_decide_eq_true derived⟩

/-- The vault that is backed up opens to the index of the session. -/
theorem backedUp_opens {vault : Vault} (good : backedUp vault = true) :
    @Vault.openIndex crates vault backupState.2.kMaster = .ok backupState.2.index := by
  simp only [backedUp, Bool.and_eq_true, decide_eq_true_eq] at good
  exact good.1.1.1

/-- The vault that is backed up lists the added items. -/
theorem backedUp_lists {vault : Vault} (good : backedUp vault = true) :
    @Vault.Lists crates vault backupState.2.kMaster backupItems := by
  let _ := crates
  have opens := backedUp_opens good
  simp only [backedUp, Bool.and_eq_true, decide_eq_true_eq, List.all_eq_true] at good
  have index : backupState.2.index = backupItems.map Item.row := by decide +kernel
  exact ⟨opens.trans (congrArg Except.ok index), good.1.1.2⟩

/-- The lengths of the added items fit. -/
theorem backupItems_fits : @LengthsFit crates backupItems := by
  let _ := crates
  have rows : backupItems.inits.all (fun front =>
      (Crates.rowsToBytes (front.map Item.row)).all fun postcard =>
        decide ((indexPlaintext .current postcard).length + 16 < 2 ^ 32)) = true := by
    decide +kernel
  have policy : backupItems.all (fun item => (Crates.policyToBytes item.policy).all
      fun policy => decide (policy.length < 2 ^ 32)) = true := by decide +kernel
  rw [List.all_eq_true] at rows policy
  refine ⟨⟨by decide, ?_, ?_⟩, ?_⟩
  · simp only [RecordFits]
    decide +kernel
  · intro front leads postcard serialized
    have each := Option.all_eq_true _ _ |>.mp (rows front ((List.mem_inits _ _).mpr leads))
    exact of_decide_eq_true (each postcard serialized)
  · intro item member written serialized
    have each := Option.all_eq_true _ _ |>.mp (policy item member)
    have fits := of_decide_eq_true (each written serialized)
    have fields : ∀ item ∈ backupItems, (utf8 item.label).length < 2 ^ 32 ∧
        (utf8 item.record.username).length < 2 ^ 32 ∧
        (utf8 item.record.password).length < 2 ^ 32 ∧ (utf8 item.record.url).length < 2 ^ 32 ∧
        (utf8 item.record.notes).length < 2 ^ 32 := by decide +kernel
    obtain ⟨label, username, password, url, notes⟩ := fields item member
    exact ⟨label, username, password, url, notes, fits⟩

end Reference

/-- A vault with two entries, not in the order of their labels, is backed up and restored on another
device under another backend and other parameters. -/
theorem backup_is_restored_reference :
    letI := Reference.crates
    ∃ restored : Vault,
      restored.Lists Reference.backupCopy.1.kMaster Reference.backupItems ∧
      Reference.backupRestoration.2.file = some restored.toBytes ∧
      Reference.backupCopy.1.totpSeed = Reference.backupState.2.totpSeed := by
  have founded : Reference.backupCreation.1.toOption = some Reference.backupSession := by
    decide +kernel
  have created : @createVault Reference.Device _ Reference.crates Reference.strong
      Reference.kdfParams .default Reference.world =
        (.ok (Reference.backupSession.1, Reference.backupSession.2), Reference.backupCreation.2) :=
    Reference.backupCreation_run.trans (Op.ran_of_returned founded)
  have answered : (Reference.backupAddition Reference.backupItem
      (Reference.backupCreation.2, Reference.backupSession.1)).1.toOption =
        some (.added Reference.backupItem.id) := by decide +kernel
  have added := (Reference.backupAddition_run _ _).trans (Op.ran_of_returned answered)
  have first := @Held.performed Reference.Device _ Reference.crates
    (TextClipboard Reference.textDigest) _ _ _ _ _ _ _
    (@Held.created Reference.Device _ Reference.crates _ _ _ _ _ _ _ _ _ created) added
  have completed : Reference.backupFilling.1.toOption =
      some (.added Reference.backupLater.id) := by decide +kernel
  have filled := (Reference.backupAddition_run _ _).trans (Op.ran_of_returned completed)
  have held := @Held.performed Reference.Device _ Reference.crates
    (TextClipboard Reference.textDigest) _ _ _ _ _ _ _ first filled
  obtain ⟨file, written, within, vault, parsed, good⟩ := Reference.backupState_file
  have exported : Reference.backupExport.1.toOption = some Reference.backupFile := by
    decide +kernel
  have exports := Reference.backupExport_run.trans (Op.ran_of_returned exported)
  have restored : Reference.backupRestoration.1.toOption = some Reference.backupCopy := by
    decide +kernel
  have restores : @importRecovery Reference.Device _ Reference.crates Reference.backupFile
      Reference.strong ⟨128, 2, 1⟩ .default
      (.opened ⟨5000, 40, none⟩ none .secretService false []) =
        (.ok (Reference.backupCopy.1, Reference.backupCopy.2), Reference.backupRestoration.2) :=
    Reference.backupRestoration_run.trans (Op.ran_of_returned restored)
  obtain ⟨items, copied, lists, listed, index, wrote, _, seed, _⟩ :=
    @backup_is_restored Reference.Device Reference.Device (TextClipboard Reference.textDigest) _ _ _
      Reference.crates Reference.aeadLaws Reference.postcardLaws Reference.policyLaws
      Reference.persistentStore Reference.backupFilling.2.1.1 Reference.backupFilling.2.1.2 held
      vault ⟨file, written, within, parsed⟩ (Reference.backedUp_opens good) Reference.strong
      (Reference.backedUp_master good)
      (fun items lists => @Vault.Lists.unique Reference.crates _ _ _ _
        (Reference.backedUp_lists good) lists ▸ Reference.backupItems_fits)
      Reference.backupCode .floor Reference.backupFile Reference.backupExport.2 exports
      (.opened ⟨5000, 40, none⟩ none .secretService false []) Reference.backupRestoration.2
      ⟨128, 2, 1⟩ .default Reference.backupCopy.1 Reference.backupCopy.2 restores
  obtain rfl := @Vault.Lists.unique Reference.crates _ _ _ _ lists (Reference.backedUp_lists good)
  exact ⟨copied, listed, wrote, seed⟩

end Passman
