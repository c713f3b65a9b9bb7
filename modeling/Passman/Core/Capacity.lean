import Passman.Core.Rebuilt
import Passman.Vault.Outline

/-!
# The size limit of the vault file

A file above 64 MiB is not read, but nothing checks the limit when a file is written. The
length of the file an operation writes follows from the sizes of what it read and of what it
was given, and the file can be read back exactly when that length is within the limit.
-/
namespace Passman

open Bytewise Fallible

section Files

variable {δ : Type}

/-- The file is within the limit of a read, and it parses. -/
def World.Readable (world : World δ) : Prop := ∃ vault, world.Stores vault

/-- The vault the file holds. -/
def World.vault? (world : World δ) : Option Vault :=
  world.file.bind fun bytes => (Vault.fromBytes bytes).toOption

/-- A stored vault is the one the file holds. -/
theorem World.Stores.vault? {world : World δ} {vault : Vault} (stored : world.Stores vault) :
    world.vault? = some vault := by
  obtain ⟨bytes, held, _, parsed⟩ := stored
  rw [World.vault?, held, Option.bind_some, parsed]
  rfl

/-- No read of the file faults. -/
def ReadsSucceed (δ : Type) [Platform δ] : Prop :=
  ∀ device : δ, (Platform.statFault device).1 = false ∧ (Platform.readFault device).1 = false

/-- Where no read faults, the vault of a file is loaded exactly when the file is readable. -/
theorem loadVault_ok_iff [Platform δ] (reads : ReadsSucceed δ) (world : World δ) (vault : Vault) :
    (∃ after, loadVault world = (.ok vault, after)) ↔ world.Stores vault := by
  constructor
  · rintro ⟨after, ran⟩
    exact (loadVault_cases ran).2 vault rfl
  · rintro ⟨bytes, held, small, parsed⟩
    have present := (reads world.device).1
    have whole := (reads (Platform.statFault world.device).2).2
    have short : ¬ maxVaultBytes < bytes.length := Nat.not_lt.mpr small
    have read : ∃ reached, storageRead world = (.ok bytes, reached) := by
      rw [storageRead, Op.get_bind_run, ask_bind_run, if_neg (by rw [present]; decide)]
      simp only [held]
      rw [if_neg short, ask_bind_run, if_neg (by rw [whole]; decide)]
      exact ⟨_, rfl⟩
    obtain ⟨reached, read⟩ := read
    refine ⟨reached, ?_⟩
    rw [loadVault, Op.bind_ok read, Op.mapError, Op.lift_run, parsed]

end Files

section Plans

variable [Crates]

/-- There is a plan, and its file is within the limit. -/
def WithinLimit (plan : Option Outline) : Prop := ∃ outline ∈ plan, outline.length ≤ maxVaultBytes

/-- A file that was written as planned is readable exactly when the plan is within the limit. -/
theorem readable_iff {δ : Type} {world : World δ} {vault : Vault} {kMaster : MasterKey}
    {plan : Option Outline} (file : world.file = some vault.toBytes) (clamped : vault.Clamped)
    (planned : plan = some (vault.outline kMaster)) : world.Readable ↔ WithinLimit plan := by
  have length := vault.toBytes_length kMaster
  constructor
  · rintro ⟨_, bytes, held, small, _⟩
    obtain rfl := Option.some.inj (held.symm.trans file)
    exact ⟨_, planned, length ▸ small⟩
  · rintro ⟨outline, member, small⟩
    obtain rfl := Option.some.inj (planned.symm.trans member)
    have short : vault.toBytes.length ≤ maxVaultBytes := length ▸ small
    have fits : maxVaultBytes < 2 ^ 32 := by decide
    have formed := clamped.wellFormed (Nat.lt_of_le_of_lt short fits)
    exact ⟨vault, vault.toBytes, file, short, Vault.fromBytes_toBytes formed⟩

/-- The outline of the stored vault. -/
def World.outline {δ : Type} (world : World δ) (kMaster : MasterKey) : Option Outline :=
  world.vault?.map fun vault => vault.outline kMaster

/-- The plan of a restored vault. -/
def restorePlan (payload : ExportPayload) (blobs : Nat) : Option Outline := do
  let items ← (payload.entries.mapM importItem).toOption
  let created ← Outline.fresh blobs
  items.foldlM Outline.put created

/-- The plan of a vault rebuilt for a session. -/
def rebuildPlan (app : UnlockedApp) (vault : Vault) : Option Outline := do
  let items ← (app.index.mapM (reencryptItem vault app.kMaster)).toOption
  let created ← Outline.fresh (vault.kHsmWrapBlob.val.length + vault.totpSeedWrapBlob.val.length)
  items.foldlM Outline.put created

/-- Whether the call stores a vault when it succeeds. -/
def SessionCall.stores : SessionCall → Bool
  | addEntry _ _ _ => true
  | updateEntry _ _ _ _ => true
  | removeEntry _ => true
  | changeMasterPassword _ _ _ => true
  | exportRecovery _ _ _ => true
  | _ => false

/-- The plan of the file a call stores. -/
def SessionCall.plan {δ : Type} [Platform δ] (world : World δ) (app : UnlockedApp) :
    SessionCall → Option Outline
  | addEntry label policy record =>
    (world.outline app.kMaster).bind fun outline =>
      outline.put ⟨world.drawnId, label, policy, record⟩
  | updateEntry id label policy record =>
    (world.outline app.kMaster).bind fun outline => outline.put ⟨id, label, policy, record⟩
  | removeEntry id => (world.outline app.kMaster).bind fun outline => outline.drop id
  | changeMasterPassword _ _ _ => world.vault?.bind (rebuildPlan app)
  | exportRecovery _ _ _ => world.outline app.kMaster
  | _ => none

variable {δ κ : Type}

/-- A stored vault has the outline of the file. -/
theorem World.Stores.outline {world : World δ} {vault : Vault} (stored : world.Stores vault)
    (kMaster : MasterKey) : world.outline kMaster = some (vault.outline kMaster) := by
  rw [World.outline, stored.vault?]
  rfl

omit [Crates] in
/-- The lengths of a stored vault are not clamped. -/
theorem World.Stores.clamped {world : World δ} {vault : Vault} (stored : world.Stores vault) :
    vault.Clamped := by
  obtain ⟨_, _, _, parsed⟩ := stored
  exact .of_wellFormed (Vault.wellFormed_of_fromBytes parsed)

/-- Items inserted into a created vault leave a vault with the planned outline. -/
theorem Vault.PutsAll.planned (aead : AeadLaws) {kMaster : MasterKey} {items : List Item}
    {created vault : Vault} (puts : Vault.PutsAll kMaster items created vault) {blobs : Nat}
    (fresh : Outline.fresh blobs = some (created.outline kMaster)) :
    ((Outline.fresh blobs).bind fun created => items.foldlM Outline.put created) =
      some (vault.outline kMaster) := by
  rw [fresh, Option.bind_some]
  exact puts.outline aead

variable [Platform δ] [Clipboard κ]

omit [Platform δ] [Clipboard κ] [Crates] in
/-- A call that wraps the result of an operation succeeds when the operation does. -/
theorem perform_ok {α : Type} {operation : SessionAct δ CoreError α} {wrap : α → SessionReply}
    {state after : SessionState δ κ} {reply : SessionReply}
    (ran : Functor.map wrap (Op.onFirst operation) state = (.ok reply, after)) :
    ∃ value, operation state.1 = (.ok value, after.1) := by
  obtain ⟨value, reached, step, rest⟩ := Op.bind_ok_cases ran
  obtain ⟨inner, done, rfl⟩ := Op.onFirst_cases step
  obtain ⟨_, rfl⟩ := Prod.mk.inj rest
  exact ⟨value, done⟩

/-- The file a call of a session stored is readable exactly when its plan is within the limit. -/
theorem SessionCall.readable_iff (aead : AeadLaws) {call : SessionCall}
    {state after : SessionState δ κ} {reply : SessionReply} (stores : call.stores = true)
    (ran : call.perform state = (.ok reply, after)) :
    after.1.1.Readable ↔ WithinLimit (call.plan state.1.1 state.1.2) := by
  obtain ⟨⟨world, app⟩, clipboard⟩ := state
  have put {vault changed : Vault} {item : Item} (stored : world.Stores vault)
      (puts : Vault.Puts app.kMaster item vault changed)
      (file : after.1.1.file = some changed.toBytes) : after.1.1.Readable ↔
        WithinLimit ((world.outline app.kMaster).bind fun outline => outline.put item) := by
    have planned : (world.outline app.kMaster).bind (fun outline => outline.put item) =
        some (changed.outline app.kMaster) := by
      rw [stored.outline, Option.bind_some]
      exact puts.outline aead
    exact Passman.readable_iff file (stored.clamped.put puts) planned
  cases call with
  | addEntry label policy record =>
    obtain ⟨id, done⟩ := perform_ok ran
    obtain ⟨vault, changed, stored, ⟨rfl, puts⟩, file, _⟩ := (addEntry_cases done).ok
    exact put stored puts file
  | updateEntry id label policy record =>
    obtain ⟨_, done⟩ := perform_ok ran
    obtain ⟨vault, changed, stored, puts, file, _⟩ := (updateEntry_cases done).ok
    exact put stored puts file
  | removeEntry id =>
    obtain ⟨_, done⟩ := perform_ok ran
    obtain ⟨vault, changed, stored, drops, file, _⟩ := (removeEntry_cases done).ok
    have planned : (world.outline app.kMaster).bind (fun outline => outline.drop id) =
        some (changed.outline app.kMaster) := by
      rw [stored.outline, Option.bind_some]
      exact drops.outline aead
    exact Passman.readable_iff file (stored.clamped.drop drops) planned
  | changeMasterPassword old new kdf =>
    obtain ⟨_, done⟩ := perform_ok ran
    obtain ⟨vault, rebuilt, _, _, _, _, stored, _, _, rebuilds, file, _⟩ :=
      changeMasterPassword_ok done
    obtain ⟨_, _, _, created, items, made, chosen, puts⟩ := rebuilds
    have planned : world.vault?.bind (rebuildPlan app) =
        some (rebuilt.outline after.1.2.kMaster) := by
      rw [stored.vault?, Option.bind_some, rebuildPlan, chosen]
      exact puts.planned aead (Vault.outline_create aead made)
    exact Passman.readable_iff file ((Vault.Clamped.create made).putAll puts) planned
  | exportRecovery password code preset =>
    obtain ⟨_, done⟩ := perform_ok ran
    obtain ⟨_, ⟨_, clash, _⟩ | ⟨_, vault, _, _, _, _, exported⟩⟩ := exportRecovery_cases done
    · cases clash
    · obtain ⟨exportedAt, file⟩ := exported.recorded
      exact Passman.readable_iff file exported.stored.clamped
        (exported.stored.outline app.kMaster)
  | _ => cases stores

/-- The file a creation stored is readable exactly when its plan is within the limit. -/
theorem createVault_readable_iff (aead : AeadLaws) {password : String} {kdf : KdfParams}
    {config : TotpConfig} {before after : World δ} {app : UnlockedApp} {uri : String}
    (ran : createVault password kdf config before = (.ok (app, uri), after)) :
    ∃ kHsmBlob seedBlob, before.Enrolls after kHsmBlob seedBlob ∧ (after.Readable ↔
      WithinLimit (Outline.fresh (kHsmBlob.toBytes.length + seedBlob.toBytes.length))) := by
  obtain ⟨_, _, kHsmBlob, seedBlob, kMaster, vault, founded, installed, enrolls⟩ :=
    createVault_founded ran
  obtain ⟨_, _, _, _, _, _, _, _, made⟩ := founded.sealedUnder
  refine ⟨kHsmBlob, seedBlob, enrolls, ?_⟩
  exact readable_iff installed.file (.create made) (Vault.outline_create aead made)

/-- The file a restoration stored is readable exactly when its plan is within the limit. -/
theorem importRecovery_readable_iff (aead : AeadLaws) {file : Bytes} {password : String}
    {kdf : KdfParams} {config : TotpConfig} {before after : World δ} {app : UnlockedApp}
    {uri : String}
    (ran : importRecovery file password kdf config before = (.ok (app, uri), after)) :
    ∃ payload kHsmBlob seedBlob,
      importWithinMemory file password (Platform.availableMemoryKib before.device).1 =
        .ok payload ∧
      before.Enrolls after kHsmBlob seedBlob ∧ (after.Readable ↔
        WithinLimit (restorePlan payload
          (kHsmBlob.toBytes.length + seedBlob.toBytes.length))) := by
  obtain ⟨payload, _, kHsmBlob, seedBlob, kMaster, created, items, vault, read, founded, chosen,
    puts, installed, enrolls⟩ := importRecovery_founded ran
  obtain ⟨_, _, _, _, _, _, _, _, made⟩ := founded.sealedUnder
  refine ⟨payload, kHsmBlob, seedBlob, read, enrolls, ?_⟩
  have planned : restorePlan payload (kHsmBlob.toBytes.length + seedBlob.toBytes.length) =
      some (vault.outline kMaster) := by
    rw [restorePlan, chosen]
    exact puts.planned aead (Vault.outline_create aead made)
  exact readable_iff installed.file ((Vault.Clamped.create made).putAll puts) planned

end Plans

section Additions

variable {δ : Type} [Platform δ] [Crates]

/-- On a device without faults, an addition to a stored vault whose sizes fit their fields
succeeds. -/
theorem addEntry_total (aead : AeadLaws) (laws : PostcardLaws) (reads : ReadsSucceed δ)
    (writes : WritesSucceed δ) {world : World δ} {app : UnlockedApp} {vault : Vault} {index : Index}
    {label : String} {policy : EntryPolicy} {record : EntryRecord}
    (live : (Platform.now world.device).1 < app.sessionExpiry) (stored : world.Stores vault)
    (coherent : vault.Coherent app.kMaster index) (recordFits : RecordFits record)
    (indexFits : IndexFits vault.version (Index.upsert index ⟨world.drawnId, label, policy⟩))
    (countFits : (Index.upsert index ⟨world.drawnId, label, policy⟩).length < 2 ^ 32) :
    ∃ after, addEntry label policy record (world, app) = (.ok world.drawnId, after) := by
  let drawn : World δ :=
    { world with device := (Platform.newUuid (Platform.now world.device).2).2 }
  have held : drawn.Stores vault := stored
  obtain ⟨loaded, loading⟩ := (loadVault_ok_iff reads drawn vault).mpr held
  have inserted (before : World δ) : ∃ changed reached,
      putEntry app.kMaster world.drawnId label policy record vault before = (.ok changed, reached) ∧
      changed.openIndex app.kMaster =
        .ok (Index.upsert index ⟨world.drawnId, label, policy⟩) := by
    rw [putEntry, ask_bind_run, ask_bind_run]
    generalize (Platform.randomBlock 24 before.device).1 = entryNonce
    generalize (Platform.randomBlock 24 (_ : δ)).1 = indexNonce
    obtain ⟨envelope, made⟩ := encryptEntry_total aead app.kMaster vault.version world.drawnId
      record entryNonce recordFits
    obtain ⟨sealed, done⟩ := sealIndex_total aead laws _ vault.version app.kMaster indexNonce
      indexFits
    rw [Vault.addOrUpdateEntry_run made coherent.decrypts done]
    obtain ⟨moved, _⟩ := coherent.put aead laws recordFits indexFits countFits made done
    exact ⟨_, _, rfl, moved.opens⟩
  obtain ⟨changed, reached, putting, opens⟩ := inserted loaded
  have persisted : ∃ after, persistAndRefresh changed (reached, app) = (.ok (), after) := by
    have wrote : ∃ written, atomicWrite changed.toBytes reached = (.ok (), written) := by
      rw [atomicWrite, ask_bind_run, writes reached.device]
      exact ⟨_, rfl⟩
    obtain ⟨written, wrote⟩ := wrote
    have first : (Op.onFirst (atomicWrite changed.toBytes) : SessionAct δ CoreError Unit)
        (reached, app) = (.ok (), written, app) := by rw [Op.onFirst_run, wrote]
    rw [persistAndRefresh, Op.bind_ok first, Op.get_bind_run]
    have adopts : Op.mapError CoreError.vault (Op.lift (changed.openIndex app.kMaster))
        ((written, app) : World δ × UnlockedApp) = (.ok _, written, app) :=
      Op.mapError_ok.mpr (by rw [Op.lift_run, opens])
    exact ⟨_, Op.bind_ok adopts⟩
  obtain ⟨after, persisted⟩ := persisted
  have upserted : upsertEntry world.drawnId label policy record (drawn, app) = (.ok (), after) := by
    have first : (Op.onFirst loadVault : SessionAct δ CoreError Vault) (drawn, app) =
        (.ok vault, loaded, app) := by rw [Op.onFirst_run, loading]
    have second : (Op.onFirst (putEntry app.kMaster world.drawnId label policy record vault) :
        SessionAct δ CoreError Vault) (loaded, app) = (.ok changed, reached, app) := by
      rw [Op.onFirst_run, putting]
    rw [upsertEntry, Op.bind_ok first, Op.get_bind_run]
    exact (Op.bind_ok second).trans persisted
  refine ⟨after, ?_⟩
  rw [addEntry, ensureUnlocked_live _ live]
  change (upsertEntry world.drawnId label policy record >>= fun _ => pure world.drawnId)
    (drawn, app) = _
  rw [Op.bind_ok upserted]
  rfl

end Additions

section Limit

variable {δ κ : Type} [Platform δ] [Clipboard κ] [Crates]

/-- Whenever an operation that stores a vault succeeds, the file it wrote can be read back if and
only if the length that follows from the sizes of what it read and was given is within the limit of
a read. -/
theorem written_file_is_readable (aead : AeadLaws) :
    (∀ (call : SessionCall) (state after : SessionState δ κ) (reply : SessionReply),
      call.stores = true → call.perform state = (.ok reply, after) →
        (after.1.1.Readable ↔ WithinLimit (call.plan state.1.1 state.1.2))) ∧
    (∀ (password : String) (kdf : KdfParams) (config : TotpConfig) (before after : World δ)
      (app : UnlockedApp) (uri : String),
      createVault password kdf config before = (.ok (app, uri), after) →
        ∃ kHsmBlob seedBlob, before.Enrolls after kHsmBlob seedBlob ∧ (after.Readable ↔
          WithinLimit (Outline.fresh (kHsmBlob.toBytes.length + seedBlob.toBytes.length)))) ∧
    (∀ (file : Bytes) (password : String) (kdf : KdfParams) (config : TotpConfig)
      (before after : World δ) (app : UnlockedApp) (uri : String),
      importRecovery file password kdf config before = (.ok (app, uri), after) →
        ∃ payload kHsmBlob seedBlob,
          importWithinMemory file password (Platform.availableMemoryKib before.device).1 =
            .ok payload ∧
          before.Enrolls after kHsmBlob seedBlob ∧ (after.Readable ↔
            WithinLimit (restorePlan payload
              (kHsmBlob.toBytes.length + seedBlob.toBytes.length)))) :=
  ⟨fun _ _ _ _ stores ran => SessionCall.readable_iff aead stores ran,
    fun _ _ _ _ _ _ _ ran => createVault_readable_iff aead ran,
    fun _ _ _ _ _ _ _ _ ran => importRecovery_readable_iff aead ran⟩

end Limit

namespace Reference

/-- Reads of the example device do not fault. -/
theorem readsSucceed : ReadsSucceed Device := fun _ => ⟨rfl, rfl⟩

/-- Writes of the example device succeed. -/
theorem writesSucceed : WritesSucceed Device := fun _ => rfl

/-- What the reader finds in a file that is short enough is stored in it. -/
theorem stores_of_read (world : World Device) (kMaster : MasterKey) (version : FormatVersion)
    (rows : Index)
    (facts : letI := crates
      (world.file.bind fun bytes => (Vault.fromBytes bytes).toOption.bind fun vault =>
        (vault.openIndex kMaster).toOption.map fun rows =>
          (decide (bytes.length ≤ maxVaultBytes), vault.version, rows)) =
        some (true, version, rows)) :
    letI := crates
    ∃ vault, world.Stores vault ∧ vault.version = version ∧
      vault.openIndex kMaster = .ok rows ∧ vault.Coherent kMaster rows := by
  let _ := crates
  obtain ⟨bytes, held, facts⟩ := Option.bind_eq_some_iff.mp facts
  obtain ⟨vault, parsed, facts⟩ := Option.bind_eq_some_iff.mp facts
  obtain ⟨found, opens, facts⟩ := Option.map_eq_some_iff.mp facts
  obtain ⟨small, facts⟩ := Prod.mk.inj facts
  obtain ⟨rfl, rfl⟩ := Prod.mk.inj facts
  have parsed : Vault.fromBytes bytes = .ok vault := Op.ok_of_returned parsed
  have opens : vault.openIndex kMaster = .ok found := Op.ok_of_returned opens
  obtain ⟨decrypts, agree⟩ := (vault.openIndex_ok_iff kMaster found).mp opens
  exact ⟨vault, ⟨bytes, held, of_decide_eq_true small, parsed⟩, rfl, opens,
    Vault.wellFormed_of_fromBytes parsed, decrypts, agree⟩

/-- The created vault is stored, without entries. -/
theorem opened_stores :
    letI := crates
    ∃ vault, opened.world.Stores vault ∧ vault.Coherent session.kMaster [] := by
  let _ := crates
  obtain ⟨vault, stored, _, _, coherent⟩ := stores_of_read opened.world session.kMaster
    .current [] (by decide +kernel)
  exact ⟨vault, stored, coherent⟩

/-- A repeated letter is as long in bytes as in characters. -/
theorem utf8_repeated (count : Nat) :
    (utf8 (String.ofList (List.replicate count 'a'))).length = count := by
  induction count with
  | zero => rfl
  | succ count ih =>
    have single : "a".utf8ByteSize = 1 := rfl
    rw [List.replicate_succ]
    simp only [utf8, String.ofList_cons] at ih ⊢
    simp at ih ⊢
    omega

/-- Notes as long as the largest file that is read; they are too long to be looked into. -/
@[irreducible] def longNotes : String := String.ofList (List.replicate maxVaultBytes 'a')

/-- The notes are as long in bytes as in characters. -/
theorem longNotes_length : (utf8 longNotes).length = maxVaultBytes := by
  unfold longNotes
  exact utf8_repeated maxVaultBytes

end Reference

/-- An addition of an entry with long notes succeeds and leaves a file that cannot be read back. -/
theorem oversized_addition_is_unreadable :
    letI := Reference.crates
    ∃ id after, addEntry "notes" .default ⟨"", "", "", Reference.longNotes⟩
        (Reference.opened.world, Reference.session) = (.ok id, after) ∧
      ¬ after.1.Readable := by
  let _ := Reference.crates
  obtain ⟨vault, stored, coherent⟩ := Reference.opened_stores
  let record : EntryRecord := ⟨"", "", "", Reference.longNotes⟩
  have live : (Platform.now Reference.opened.world.device).1 < Reference.session.sessionExpiry := by
    decide +kernel
  have limit : maxVaultBytes = 67108864 := rfl
  have notes : (utf8 record.notes).length = maxVaultBytes := Reference.longNotes_length
  have recordFits : RecordFits record := by
    have empty : (utf8 "").length = 0 := rfl
    have region := record.region_length
    rw [notes] at region
    change _ = 16 + (utf8 "").length + (utf8 "").length + (utf8 "").length + _ at region
    refine RecordFits.of_length ?_
    rw [region, empty, limit]
    omega
  have indexFits : IndexFits vault.version
      (Index.upsert [] ⟨Reference.opened.world.drawnId, "notes", .default⟩) := by
    refine IndexFits.of_length _ fun postcard written => ?_
    have small : ((Crates.rowsToBytes (Index.upsert [] ⟨Reference.opened.world.drawnId, "notes",
        .default⟩)).all fun bytes => bytes.length + 276 < 2 ^ 32) = true := by decide +kernel
    rw [written] at small
    exact of_decide_eq_true small
  obtain ⟨after, ran⟩ := addEntry_total Reference.aeadLaws Reference.postcardLaws
    Reference.readsSucceed Reference.writesSucceed live stored coherent recordFits indexFits
    (by decide)
  refine ⟨_, after, ran, ?_⟩
  obtain ⟨_, changed, held, ⟨_, puts⟩, file, _⟩ := (addEntry_cases ran).ok
  obtain rfl := held.unique stored
  rintro ⟨_, bytes, kept, small, _⟩
  obtain rfl := Option.some.inj (kept.symm.trans file)
  have planned := Outline.sealedLength_le_put (puts.outline Reference.aeadLaws)
  have long := record.notes_lt_sealedLength
  rw [notes] at long
  rw [changed.toBytes_length Reference.session.kMaster] at small
  exact absurd (Nat.lt_of_lt_of_le long planned) (Nat.not_lt.mpr small)

/-- An addition of a short entry. -/
def Reference.shortAddition : SessionCall := .addEntry "mail" .default ⟨"a", "b", "", ""⟩

/-- The session of the created vault with its clipboard. -/
def Reference.openedState : SessionState Device (TextClipboard textDigest) :=
  ((opened.world, session), clipboard)

/-- An addition of a short entry to the created vault leaves a file that can be read back. -/
theorem written_file_is_readable_reference :
    letI := Reference.crates
    (Reference.shortAddition.perform Reference.openedState).2.1.1.Readable := by
  have replied :
      letI := Reference.crates
      (Reference.shortAddition.perform Reference.openedState).1 =
        .ok (.added Reference.opened.world.drawnId) := by decide +kernel
  have ran :
      letI := Reference.crates
      Reference.shortAddition.perform Reference.openedState =
        (.ok (.added Reference.opened.world.drawnId),
          (Reference.shortAddition.perform Reference.openedState).2) := by rw [← replied]
  have within :
      letI := Reference.crates
      ((Reference.shortAddition.plan Reference.openedState.1.1 Reference.openedState.1.2).any
        fun outline => outline.length ≤ maxVaultBytes) = true := by decide +kernel
  have read := @written_file_is_readable Reference.Device (TextClipboard Reference.textDigest) _ _
    Reference.crates Reference.aeadLaws
  refine (read.1 Reference.shortAddition Reference.openedState _ _ rfl ran).mpr ?_
  obtain ⟨outline, planned, small⟩ := (Option.any_eq_true _ _).mp within
  exact ⟨outline, Option.mem_def.mpr planned, of_decide_eq_true small⟩

end Passman
