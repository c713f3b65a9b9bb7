import Passman.Core.Effects
import Passman.Reference.Device
import Passman.Vault.Listing

/-!
# What a change of the master password carries over

A change of the master password rebuilds the vault from the rows the session cached, not from the
rows of the file. With several sessions on one instance the two can differ, and what the file
holds and the session does not know is lost. The new file holds what the old one held exactly
when the session is in step with the file and the new file can be read.
-/
namespace Passman

open Bytewise Fallible Transition

section Views

variable [Crates]

/-- The rows a vault opens to under a key, none if it does not open. -/
def Vault.listed (vault : Vault) (kMaster : MasterKey) : Index :=
  match vault.openIndex kMaster with
  | .ok index => index
  | .error _ => []

/-- The map of a vault is read from its rows. -/
theorem Vault.contents_listed (vault : Vault) (kMaster : MasterKey) (id : EntryId) :
    vault.contents kMaster id = (Index.get (vault.listed kMaster) id).map fun row =>
      ⟨row.label, row.policy, vault.decryptEntry kMaster id⟩ := by
  rw [contents, listed]
  cases vault.openIndex kMaster <;> rfl

/-- What a session makes of a vault: the rows it cached, and the records under its key. -/
def UnlockedApp.view (app : UnlockedApp) (vault : Vault) : Contents := fun id =>
  (Index.get app.index id).map fun row =>
    ⟨row.label, row.policy, vault.decryptEntry app.kMaster id⟩

/-- The session cached the rows the vault opens to under a key, and its own key decrypts their
records to the same. -/
structure InStep (app : UnlockedApp) (vault : Vault) (kMaster : MasterKey) : Prop where
  /-- The cached rows are those of the vault. -/
  rows : ∀ id, Index.get app.index id = Index.get (vault.listed kMaster) id
  /-- The records of the cached rows are those of the vault. -/
  records : ∀ row ∈ app.index,
    vault.decryptEntry app.kMaster row.id = vault.decryptEntry kMaster row.id

/-- A session with distinct rows makes of a vault what the vault holds exactly when it is in
step. -/
theorem view_eq_contents_iff {app : UnlockedApp} (distinct : (app.index.map IndexEntry.id).Nodup)
    (vault : Vault) (kMaster : MasterKey) :
    app.view vault = vault.contents kMaster ↔ InStep app vault kMaster := by
  constructor
  · intro same
    have each (id : EntryId) := congrFun same id
    have rows (id : EntryId) : Index.get app.index id = Index.get (vault.listed kMaster) id := by
      have view := each id
      rw [UnlockedApp.view, Vault.contents_listed] at view
      cases cached : Index.get app.index id with
      | none =>
        rw [cached] at view
        exact (Option.map_eq_none_iff.mp view.symm).symm
      | some row =>
        rw [cached] at view
        obtain ⟨other, stored, entry⟩ := Option.map_eq_some_iff.mp view.symm
        obtain ⟨label, policy, _⟩ := Entry.mk.inj entry
        have cachedId := (Keyed.lookup_some IndexEntry.id cached).2
        have storedId := (Keyed.lookup_some IndexEntry.id stored).2
        have same : row.id = other.id := cachedId.trans storedId.symm
        rw [stored, Option.some.injEq]
        cases row
        cases other
        rw [IndexEntry.mk.injEq]
        exact ⟨same, label.symm, policy.symm⟩
    refine ⟨rows, fun row member => ?_⟩
    have found : Index.get app.index row.id = some row :=
      Keyed.lookup_mem IndexEntry.id distinct member
    have view := each row.id
    rw [UnlockedApp.view, Vault.contents_listed, ← rows row.id, found] at view
    exact (Entry.mk.inj (Option.some.inj view)).2.2
  · intro inStep
    funext id
    rw [UnlockedApp.view, Vault.contents_listed, ← inStep.rows id]
    cases cached : Index.get app.index id with
    | none => rfl
    | some row =>
      obtain ⟨member, named⟩ := Keyed.lookup_some IndexEntry.id cached
      have record := inStep.records row member
      have same : row.id = id := named
      rw [same] at record
      rw [Option.map_some, Option.map_some, record]

/-- A vault that lists the items behind the rows of a session holds what the session makes of the
vault the items were read from. -/
theorem Vault.Lists.contents_eq_view {app : UnlockedApp} {vault rebuilt : Vault}
    {kMaster : MasterKey} {items : List Item} (lists : rebuilt.Lists kMaster items)
    (rows : app.index = items.map Item.row)
    (decrypts : ∀ item ∈ items, vault.decryptEntry app.kMaster item.id = .ok item.record) :
    rebuilt.contents kMaster = app.view vault := by
  funext id
  rw [contents, lists.opens, UnlockedApp.view, rows]
  dsimp only
  cases found : Index.get (items.map Item.row) id with
  | none => rfl
  | some row =>
    obtain ⟨member, named⟩ := Keyed.lookup_some IndexEntry.id found
    obtain ⟨item, inside, rfl⟩ := List.mem_map.mp member
    have same : item.id = id := named
    have record := lists.decrypts item inside
    have source := decrypts item inside
    rw [same] at record source
    rw [Option.map_some, Option.map_some, record, source]

end Views

section Sessions

variable {δ κ : Type} [Platform δ] [Clipboard κ] [Crates]

/-- The rows of a session carry distinct identifiers. -/
def UnlockedApp.Distinct (app : UnlockedApp) : Prop := (app.index.map IndexEntry.id).Nodup

omit [Platform δ] [Clipboard κ] in
/-- Rows that a vault opened to are distinct. -/
theorem Vault.openIndex_distinct {vault : Vault} {kMaster : MasterKey} {app : UnlockedApp}
    (opens : vault.openIndex kMaster = .ok app.index) : app.Distinct :=
  ((vault.openIndex_ok_iff kMaster app.index).mp opens).2.leftDistinct

/-- A call of a session leaves its rows distinct. -/
theorem SessionCall.perform_distinct (call : SessionCall) (state : SessionState δ κ)
    (distinct : state.1.2.Distinct) : (call.perform state).2.1.2.Distinct := by
  rcases ran : call.perform state with ⟨outcome, after⟩
  rcases SessionCall.perform_effect ran with untouched | ⟨vault, changed, stored⟩
  · rw [UnlockedApp.Distinct, untouched.index]
    exact distinct
  · rcases stored.rows with same | opens
    · rw [UnlockedApp.Distinct, same]
      exact distinct
    · exact Vault.openIndex_distinct opens

/-- A call of the instance leaves the rows of every session distinct. -/
theorem Instance.step_distinct (inst : Instance δ κ) (call : Call)
    (distinct : ∀ app ∈ inst.sessions, app.Distinct) :
    ∀ app ∈ (inst.step call).sessions, app.Distinct := by
  have opened {ε : Type} (ran : Except ε UnlockedApp × World δ)
      (fresh : ∀ app, ran.1 = .ok app → app.Distinct) :
      ∀ app ∈ (inst.opens ran).sessions, app.Distinct := by
    intro app member
    rcases List.mem_append.mp member with earlier | last
    · exact distinct app earlier
    · rcases ran with ⟨error | found, after⟩
      · cases last
      · obtain rfl := List.mem_singleton.mp last
        exact fresh app rfl
  cases opens : call.opens with
  | true =>
    cases call with
    | createVault password kdf config =>
      refine opened _ fun app returned => ?_
      obtain ⟨⟨found, uri⟩, reached, created, rest⟩ := Op.bind_ok_cases (Prod.ext returned rfl)
      obtain rfl : found = app := Except.ok.inj (congrArg Prod.fst rest)
      obtain ⟨_, _, _, _, _, _, _, installed, _⟩ := createVault_founded created
      exact Vault.openIndex_distinct installed.index
    | importRecovery file password kdf config =>
      refine opened _ fun app returned => ?_
      obtain ⟨⟨found, uri⟩, reached, restored, rest⟩ := Op.bind_ok_cases (Prod.ext returned rfl)
      obtain rfl : found = app := Except.ok.inj (congrArg Prod.fst rest)
      obtain ⟨_, _, _, _, _, _, _, _, _, _, _, _, installed, _⟩ := importRecovery_founded restored
      exact Vault.openIndex_distinct installed.index
    | unlock password code =>
      refine opened _ fun app returned => ?_
      rcases ran : unlock password code inst.world with ⟨outcome, after⟩
      rw [ran] at returned
      obtain rfl : outcome = .ok app := returned
      cases unlock_cases ran with
      | opened _ _ _ _ index _ => exact Vault.openIndex_distinct index
    | _ => cases opens
  | false =>
    obtain ⟨session, operation, rfl⟩ := Call.on_of_opens opens
    rw [step_on, Instance.performWith]
    cases found : inst.sessions[session]? with
    | none => exact distinct
    | some acting =>
      intro app member
      have before := distinct acting (List.mem_of_getElem? found)
      rcases List.mem_or_eq_of_mem_set member with kept | rfl
      · exact distinct app kept
      · exact operation.perform_distinct ((inst.world, acting), inst.clipboard) before

/-- Every session of a run has distinct rows. -/
theorem Instance.run_distinct (world : World δ) (clipboard : κ) (calls : List Call) :
    ∀ app ∈ (run Instance.step (Instance.start world clipboard) calls).sessions, app.Distinct := by
  let distinct (inst : Instance δ κ) : Prop := ∀ app ∈ inst.sessions, app.Distinct
  have kept (inst : Instance δ κ) (call : Call) (before : distinct inst) :
      distinct (inst.step call) := inst.step_distinct call before
  have none : distinct (Instance.start world clipboard) := by
    intro app member
    cases member
  exact run_keeps kept none calls

end Sessions

section Rekeyings

variable {δ κ : Type} [Platform δ] [Clipboard κ] [Crates]

/-- The password derives the key under the header of a vault, with a hardware key. -/
def Vault.DerivedFrom (vault : Vault) (password : String) (kHsm : Bytes) (kMaster : MasterKey) :
    Prop :=
  ∃ kPw, Crates.argon2 (utf8 password) vault.salt.val vault.kdfParams = .ok kPw ∧
    kMaster = hkdfMaster vault.salt.val (kPw.val ++ kHsm) masterInfo

/-- The vault that is stored after a change of the master password opens under the new key and holds
what the vault held under the old one, with the same wrap blobs and export time. -/
structure CarriedOver (world : World δ) (vault : Vault) (oldMaster newMaster : MasterKey)
    (rebuilt : Vault) : Prop where
  /-- The rebuilt vault is stored. -/
  stored : world.Stores rebuilt
  /-- It verifies the new key. -/
  probe : rebuilt.verifyProbe newMaster = .ok ()
  /-- It opens under the new key. -/
  opens : ∃ rows, rebuilt.openIndex newMaster = .ok rows
  /-- It holds the same map. -/
  contents : rebuilt.contents newMaster = vault.contents oldMaster
  /-- It has the same blob of the hardware key. -/
  kHsm : rebuilt.kHsmWrapBlob = vault.kHsmWrapBlob
  /-- It has the same blob of the seed. -/
  seed : rebuilt.totpSeedWrapBlob = vault.totpSeedWrapBlob
  /-- It has the same export time. -/
  exported : rebuilt.metadata.lastExportAt = vault.metadata.lastExportAt

omit [Platform δ] [Clipboard κ] in
/-- The items that are carried over stand behind the rows of the session, with the records its key
decrypts. -/
theorem reencryptItems_ok {vault : Vault} {kMaster : MasterKey} {index : Index} {items : List Item}
    (chosen : index.mapM (reencryptItem vault kMaster) = .ok items) :
    index = items.map Item.row ∧
      ∀ item ∈ items, vault.decryptEntry kMaster item.id = .ok item.record := by
  induction index generalizing items with
  | nil =>
    obtain rfl := Except.ok.inj chosen
    exact ⟨rfl, by simp⟩
  | cons row index ih =>
    rw [List.mapM_cons] at chosen
    cases decrypted : vault.decryptEntry kMaster row.id with
    | error error =>
      have failed : reencryptItem vault kMaster row = .error (.vault error) := by
        rw [reencryptItem, decrypted]
      rw [failed] at chosen
      cases chosen
    | ok record =>
      have first :
          reencryptItem vault kMaster row = .ok ⟨row.id, row.label, row.policy, record⟩ := by
        rw [reencryptItem, decrypted]
      rw [first] at chosen
      change (index.mapM (reencryptItem vault kMaster) >>= fun others => pure (_ :: others)) = _
        at chosen
      cases rest : index.mapM (reencryptItem vault kMaster) with
      | error error =>
        rw [rest] at chosen
        cases chosen
      | ok others =>
        rw [rest] at chosen
        obtain rfl := Except.ok.inj chosen
        obtain ⟨rfl, decrypts⟩ := ih rest
        exact ⟨rfl, List.forall_mem_cons.mpr ⟨decrypted, decrypts⟩⟩

omit [Platform δ] [Clipboard κ] in
/-- A record of a stored vault fits. -/
theorem World.Stores.recordFits (strict : StrictLaws) {world : World δ} {vault : Vault}
    (stored : world.Stores vault) {kMaster : MasterKey} {id : EntryId} {record : EntryRecord}
    (decrypted : vault.decryptEntry kMaster id = .ok record) : RecordFits record := by
  obtain ⟨bytes, _, small, parsed⟩ := stored
  obtain ⟨_, absent, rfl⟩ := (Vault.fromBytes_ok_iff _ _).mp parsed
  rw [vault.layout_length absent kMaster] at small
  rw [Vault.decryptEntry_eq] at decrypted
  cases found : vault.envelope? id with
  | none =>
    rw [found] at decrypted
    cases decrypted
  | some envelope =>
    rw [found] at decrypted
    have member := (Keyed.lookup_some EntryEnvelope.id found).1
    have covered := Vault.body_le_outline member kMaster
    have limit : maxVaultBytes + 260 < 2 ^ 32 := by decide
    exact .of_opened strict decrypted (by omega)

/-- In every state that any calls of the instance and of its sessions lead to, a successful change
of the master password by a session leaves what the file held, under the new key, exactly when the
new file is within the limit of a read and the session is in step with the file. -/
theorem password_change_keeps_entries_iff (aead : AeadLaws) (laws : PostcardLaws)
    (strict : StrictLaws) (start : World δ) (clipboard : κ) (calls : List Call) {app : UnlockedApp}
    (live : app ∈ (run Instance.step (Instance.start start clipboard) calls).sessions)
    {old new : String} {kdf : KdfParams} {outcome : PasswordChangeOutcome}
    {after : World δ × UnlockedApp}
    (ran : changeMasterPassword old new kdf
      ((run Instance.step (Instance.start start clipboard) calls).world, app) =
        (.ok outcome, after)) :
    ∃ vault oldMaster kHsm,
      (run Instance.step (Instance.start start clipboard) calls).world.Stores vault ∧
      vault.DerivedFrom old kHsm oldMaster ∧ vault.verifyProbe oldMaster = .ok () ∧
      ((∃ rebuilt, CarriedOver after.1 vault oldMaster after.2.kMaster rebuilt ∧
          rebuilt.DerivedFrom new kHsm after.2.kMaster) ↔
        WithinLimit (rebuildPlan app vault) ∧ InStep app vault oldMaster) := by
  have distinct := Instance.run_distinct start clipboard calls app live
  rcases changeMasterPassword_cases ran with
    ⟨_, clash, _⟩ | ⟨vault, rebuilt, kHsm, salt, rekeyed, ⟨⟨_, _, clash⟩, _⟩ | ⟨_, opens⟩⟩
  · cases clash
  · cases clash
  obtain ⟨oldMaster, _, _, proving, probe⟩ := rekeyed.proved
  obtain ⟨_, oldPw, oldHashed, oldKey⟩ := ((deriveMasterFromBytes_cases proving).2 oldMaster).mp rfl
  obtain ⟨_, _, derivation⟩ := rekeyed.derived
  obtain ⟨_, newPw, newHashed, newKey⟩ := ((deriveMasterFromBytes_cases derivation).2 _).mp rfl
  obtain ⟨_, _, _, created, items, made, chosen, puts⟩ := rekeyed.rebuilds
  refine ⟨vault, oldMaster, kHsm, rekeyed.stored,
    ⟨oldPw, (argon2idWithinMemory_eq_ok.mp oldHashed).2.2, oldKey⟩, probe, ?_⟩
  -- What the rebuilt vault holds is what the session makes of the old one.
  obtain ⟨rows, decrypts⟩ := reencryptItems_ok chosen
  have ids : (itemIds items).Nodup := by
    rw [UnlockedApp.Distinct, rows, rows_ids] at distinct
    exact distinct
  have records : ∀ item ∈ items, RecordFits item.record := fun item member =>
    rekeyed.stored.recordFits strict (decrypts item member)
  obtain ⟨_, lists⟩ := puts.lists_exact aead laws strict made ids
    (fun item member => (records item member).region) opens
  have view := lists.contents_eq_view rows decrypts
  have header := puts.header
  have probed := (header.verifyProbe after.2.kMaster).trans (Vault.verifyProbe_create aead made)
  have clamped := (Vault.Clamped.create made).putAll puts
  have planned : rebuildPlan app vault = some (rebuilt.outline after.2.kMaster) := by
    rw [rebuildPlan, chosen]
    exact puts.planned aead (Vault.outline_create aead made)
  have readable := readable_iff rekeyed.file clamped planned
  obtain ⟨kHsmBlob, seedBlob, _, _, sameKHsm, sameSeed, _, _, rfl⟩ := Vault.create_ok_iff.mp made
  constructor
  · rintro ⟨found, carried, _⟩
    obtain ⟨rfl, _⟩ := carried.stored.of_written rekeyed.file clamped
    refine ⟨readable.mp ⟨_, carried.stored⟩, (view_eq_contents_iff distinct vault oldMaster).mp ?_⟩
    rw [← view]
    exact carried.contents
  · rintro ⟨within, inStep⟩
    obtain ⟨found, stored⟩ := readable.mpr within
    obtain ⟨rfl, _⟩ := stored.of_written rekeyed.file clamped
    refine ⟨found, ⟨stored, probed, ⟨_, opens⟩, ?_, ?_, ?_, ?_⟩, ?_⟩
    · rw [view]
      exact (view_eq_contents_iff distinct vault oldMaster).mpr inStep
    · rw [header]
      exact Subtype.ext sameKHsm
    · rw [header]
      exact Subtype.ext sameSeed
    · rw [header]
      rfl
    · refine ⟨newPw, ?_, ?_⟩
      · rw [header]
        exact (argon2idWithinMemory_eq_ok.mp newHashed).2.2
      · rw [header]
        exact newKey

end Rekeyings

namespace Reference

/-- Two sessions on one instance: the vault was created and unlocked once more. -/
def twice : Instance Device (TextClipboard textDigest) :=
  letI := crates
  run Instance.step (.start world clipboard)
    [.createVault "pw" kdfParams .default, .unlock "pw" currentCode]

/-- The calls after which only the first session knows an entry. -/
def sharing : List Call :=
  [.createVault "pw" kdfParams .default, .unlock "pw" currentCode,
    .addEntry 0 "mail" .default ⟨"a", "b", "", ""⟩]

/-- The instance after these calls. -/
def shared : Instance Device (TextClipboard textDigest) :=
  letI := crates
  run Instance.step (.start world clipboard) sharing

/-- The session that does not know the entry; it is computed by the kernel only. -/
@[irreducible] def stale : UnlockedApp := shared.sessions.getD 1 ⟨kMaster, [], [], 0⟩

/-- The change of the master password by that session. -/
def staleChange : Except CoreError PasswordChangeOutcome × World Device × UnlockedApp :=
  letI := crates
  changeMasterPassword "pw" "next" kdfParams (shared.world, stale)

/-- The change under its name. -/
theorem staleChange_run :
    @changeMasterPassword Device _ crates "pw" "next" kdfParams
      ((@run _ _ (@Instance.step _ _ _ _ crates)
        (.start world clipboard : Instance Device (TextClipboard textDigest)) sharing).world,
        stale) = staleChange := rfl

end Reference

/-- A session that does not know an entry another session added loses the entry when it changes the
master password. -/
theorem stale_session_loses_entry :
    letI := Reference.crates
    Reference.stale ∈ Reference.shared.sessions ∧
      changeMasterPassword "pw" "next" Reference.kdfParams
        (Reference.shared.world, Reference.stale) = (.ok ⟨false⟩, Reference.staleChange.2) ∧
      (Reference.shared.world.vault?.map fun vault =>
        (vault.contents Reference.stale.kMaster Reference.twice.world.drawnId).isSome) =
          some true ∧
      (Reference.staleChange.2.1.vault?.map fun rebuilt =>
        (rebuilt.openIndex Reference.staleChange.2.2.kMaster,
          (rebuilt.contents Reference.staleChange.2.2.kMaster
            Reference.twice.world.drawnId).isSome)) = some (.ok [], false) := by
  have returned : Reference.staleChange.1.toOption = some ⟨false⟩ := by decide +kernel
  refine ⟨by decide +kernel, ?_, by decide +kernel, by decide +kernel⟩
  exact Reference.staleChange_run.trans (Op.ran_of_returned returned)

/-- The session that does not know the entry loses it: its change of the master password carries the
entries over if and only if it is in step with the file. -/
theorem password_change_keeps_entries_stale :
    letI := Reference.crates
    ∃ vault oldMaster kHsm, Reference.shared.world.Stores vault ∧
      vault.DerivedFrom "pw" kHsm oldMaster ∧ vault.verifyProbe oldMaster = .ok () ∧
      ((∃ rebuilt, CarriedOver Reference.staleChange.2.1 vault oldMaster
          Reference.staleChange.2.2.kMaster rebuilt ∧
          rebuilt.DerivedFrom "next" kHsm Reference.staleChange.2.2.kMaster) ↔
        WithinLimit (rebuildPlan Reference.stale vault) ∧
          InStep Reference.stale vault oldMaster) := by
  have returned : Reference.staleChange.1.toOption = some ⟨false⟩ := by decide +kernel
  have ran := Reference.staleChange_run.trans (Op.ran_of_returned returned)
  have live :
      letI := Reference.crates
      Reference.stale ∈ Reference.shared.sessions := by decide +kernel
  exact @password_change_keeps_entries_iff Reference.Device (TextClipboard Reference.textDigest) _ _
    Reference.crates Reference.aeadLaws Reference.postcardLaws Reference.strictLaws Reference.world
    Reference.clipboard Reference.sharing Reference.stale live "pw" "next" Reference.kdfParams _ _
    ran

end Passman
