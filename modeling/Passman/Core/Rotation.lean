import Passman.Core.Capacity
import Passman.Core.Mutations
import Passman.Core.Rekeying

/-!
# A change of the master password as a whole

A change rebuilds the vault in memory, writes it, and adopts the new key before it opens the
written index. The rows are those the session has cached, so the file on disk may have been put
in place by anyone. Nothing that can fail comes behind the write but the opening of the index,
and that fails only for rows whose length the index cannot announce.
-/
namespace Passman

open Bytewise Fallible Transition

section Runs

variable {δ κ : Type} [Platform δ] [Clipboard κ] [Crates]

/-- What happens to an instance whose file is not its own. -/
inductive Instance.Event where
  /-- A call completes. -/
  | call (call : Call)
  /-- Someone puts another file in the place of the vault, or removes it. -/
  | swap (file : Option Bytes)

/-- What an instance becomes. -/
def Instance.meet (inst : Instance δ κ) : Instance.Event → Instance δ κ
  | .call call => inst.step call
  | .swap file => { inst with world := { inst.world with file } }

/-- Every session has distinct rows, whatever files were put in the place of the vault. -/
theorem Instance.meet_distinct (world : World δ) (clipboard : κ) (events : List Instance.Event) :
    ∀ app ∈ (run Instance.meet (Instance.start world clipboard) events).sessions,
      app.Distinct := by
  let distinct (inst : Instance δ κ) : Prop := ∀ app ∈ inst.sessions, app.Distinct
  have kept (inst : Instance δ κ) (event : Instance.Event) (before : distinct inst) :
      distinct (inst.meet event) := by
    cases event with
    | call call => exact inst.step_distinct call before
    | swap file => exact before
  have none : distinct (Instance.start world clipboard) := by
    intro app member
    cases member
  exact run_keeps kept none events

end Runs

section Rotations

variable {δ : Type} [Platform δ] [Crates]

/-- A change of the master password that reports an error leaves the file and the session as they
were. -/
def FailsWhole (old new : String) (kdf : KdfParams) (state : World δ × UnlockedApp) : Prop :=
  ∀ error, (changeMasterPassword old new kdf state).1 = .error error →
    (changeMasterPassword old new kdf state).2.1.file = state.1.file ∧
      (changeMasterPassword old new kdf state).2.2 = state.2

/-- The file holds a rebuilt vault that verifies the key of the session, the new password derives
that key with the hardware key of the old vault, and the index of the file is the one of the
session. -/
structure Rotated (new : String) (vault rebuilt : Vault) (after : World δ × UnlockedApp) :
    Prop where
  /-- The rebuilt vault was written. -/
  file : after.1.file = some rebuilt.toBytes
  /-- A file that can be read is read as the rebuilt vault. -/
  stored : after.1.Readable → after.1.Stores rebuilt
  /-- The wrapped hardware key is the one of the old vault. -/
  kHsm : rebuilt.kHsmWrapBlob = vault.kHsmWrapBlob
  /-- The new password derives the key of the session. -/
  derived : ∃ (kHsm : Bytes) (before reached : World δ),
    unwrapSlotCore .vaultKey vault.kHsmWrapBlob.val before = (.ok kHsm, reached) ∧
      rebuilt.DerivedFrom new kHsm after.2.kMaster
  /-- The probe of the file verifies the key. -/
  probe : rebuilt.verifyProbe after.2.kMaster = .ok ()
  /-- The index of the file is the one of the session. -/
  index : rebuilt.openIndex after.2.kMaster = .ok after.2.index

/-- A rebuilt vault has the current version, and its envelopes announce their lengths. -/
theorem Vault.Rebuilds.written {index : Index} {oldMaster newMaster : MasterKey} {salt : Block 32}
    {kdf : KdfParams} {source rebuilt : Vault}
    (rebuilds : Vault.Rebuilds index oldMaster newMaster salt kdf source rebuilt) :
    rebuilt.version = .current ∧ rebuilt.Clamped := by
  obtain ⟨_, _, _, created, items, made, _, puts⟩ := rebuilds
  refine ⟨?_, (Vault.Clamped.create made).putAll puts⟩
  obtain ⟨_, _, _, _, _, _, _, _, rfl⟩ := Vault.create_ok_iff.mp made
  rw [puts.header]
  rfl

/-- The vault rebuilt from distinct rows opens exactly when the rows can be announced. -/
theorem Vault.Rebuilds.opens_iff (aead : AeadLaws) (laws : PostcardLaws) (strict : StrictLaws)
    {app : UnlockedApp} {newMaster : MasterKey} {salt : Block 32} {kdf : KdfParams}
    {source rebuilt : Vault}
    (rebuilds : Vault.Rebuilds app.index app.kMaster newMaster salt kdf source rebuilt)
    (distinct : app.Distinct) :
    (∃ rows, rebuilt.openIndex newMaster = .ok rows) ↔ IndexReads .current app.index := by
  obtain ⟨_, _, _, created, items, made, chosen, puts⟩ := rebuilds
  obtain ⟨rows, _⟩ := reencryptItems_ok chosen
  have ids : (itemIds items).Nodup := by
    rw [UnlockedApp.Distinct, rows, rows_ids] at distinct
    exact distinct
  have inserted : items.foldl (fun rows item => Index.upsert rows item.row) [] = app.index :=
    (rowsOf_distinct ids).trans rows.symm
  have sealed := Vault.create_decrypts_iff aead laws strict made
  obtain ⟨_, _, _, _, _, _, _, _, fresh⟩ := Vault.create_ok_iff.mp made
  have version : created.version = .current := by
    rw [fresh]
    rfl
  rw [← version] at sealed ⊢
  have decrypts := puts.decrypts_iff aead laws strict sealed
  rw [inserted] at decrypts
  constructor
  · rintro ⟨found, opens⟩
    exact ((decrypts found).mp ((rebuilt.openIndex_ok_iff newMaster found).mp opens).1).2
  · intro reads
    refine ⟨app.index, puts.opens aead laws strict (fun found opened => ?_)
      ((decrypts app.index).mpr ⟨rfl, reads⟩)⟩
    obtain ⟨rfl, _⟩ := (sealed found).mp opened
    refine (created.openIndex_ok_iff newMaster []).mpr ⟨opened, ?_⟩
    rw [fresh]
    exact .empty

/-- A change of the master password by a session with distinct rows that can be announced fails as
a whole. -/
theorem changeMasterPassword_failsWhole (aead : AeadLaws) (laws : PostcardLaws)
    (strict : StrictLaws) (old new : String) (kdf : KdfParams) {world : World δ} {app : UnlockedApp}
    (distinct : app.Distinct) (reads : IndexReads .current app.index) :
    FailsWhole old new kdf (world, app) := by
  intro error failed
  have ran : changeMasterPassword old new kdf (world, app) = (.error error, _) :=
    Prod.ext failed rfl
  rcases changeMasterPassword_cases ran with
    ⟨_, _, file, session⟩ |
    ⟨vault, rebuilt, kHsm, salt, rekeyed, ⟨⟨_, shut, _⟩, _⟩ | ⟨⟨_, clash⟩, _⟩⟩
  · exact ⟨file, session⟩
  · obtain ⟨_, opens⟩ := (rekeyed.rebuilds.opens_iff aead laws strict distinct).mpr reads
    rw [shut] at opens
    cases opens
  · cases clash

/-- A successful change of the master password leaves a file and a session under the new key. -/
theorem changeMasterPassword_rotated (aead : AeadLaws) {old new : String} {kdf : KdfParams}
    {world : World δ} {app : UnlockedApp} {outcome : PasswordChangeOutcome}
    {after : World δ × UnlockedApp}
    (ran : changeMasterPassword old new kdf (world, app) = (.ok outcome, after)) :
    ∃ vault rebuilt, world.Stores vault ∧ Rotated new vault rebuilt after := by
  rcases changeMasterPassword_cases ran with
    ⟨_, clash, _⟩ | ⟨vault, rebuilt, kHsm, salt, rekeyed, ⟨⟨_, _, clash⟩, _⟩ | ⟨_, opens⟩⟩
  · cases clash
  · cases clash
  obtain ⟨_, _, unwrapping⟩ := rekeyed.unwrapped
  obtain ⟨_, _, derivation⟩ := rekeyed.derived
  obtain ⟨_, kPw, hashed, key⟩ := ((deriveMasterFromBytes_cases derivation).2 _).mp rfl
  obtain ⟨_, clamped⟩ := rekeyed.rebuilds.written
  obtain ⟨_, _, _, created, items, made, _, puts⟩ := rekeyed.rebuilds
  have header := puts.header
  have probed := (header.verifyProbe after.2.kMaster).trans (Vault.verifyProbe_create aead made)
  obtain ⟨kHsmBlob, _, _, _, sameKHsm, _, _, _, rfl⟩ := Vault.create_ok_iff.mp made
  refine ⟨vault, rebuilt, rekeyed.stored, rekeyed.file, ?_, ?_,
    ⟨kHsm, _, _, unwrapping, kPw, ?_, ?_⟩, probed, opens⟩
  · rintro ⟨found, stored⟩
    obtain ⟨rfl, _⟩ := stored.of_written rekeyed.file clamped
    exact stored
  · rw [header]
    exact Subtype.ext sameKHsm
  · rw [header]
    exact (argon2idWithinMemory_eq_ok.mp hashed).2.2
  · rw [header]
    exact key

end Rotations

section Atomicity

variable {δ κ : Type} [Platform δ] [Clipboard κ] [Crates]

/-- In every state that any calls and any files put in the place of the vault lead to, a change of
the master password by a session fails as a whole if the length of its cached rows can be announced,
and succeeds with a file and a session under the key of the new password. -/
theorem password_change_atomic (aead : AeadLaws) (laws : PostcardLaws) (strict : StrictLaws)
    (start : World δ) (clipboard : κ) (events : List Instance.Event) {app : UnlockedApp}
    (live : app ∈ (run Instance.meet (Instance.start start clipboard) events).sessions)
    (old new : String) (kdf : KdfParams) :
    (IndexReads .current app.index → FailsWhole old new kdf
      ((run Instance.meet (Instance.start start clipboard) events).world, app)) ∧
    ∀ outcome after, changeMasterPassword old new kdf
        ((run Instance.meet (Instance.start start clipboard) events).world, app) =
          (.ok outcome, after) →
      ∃ vault rebuilt,
        (run Instance.meet (Instance.start start clipboard) events).world.Stores vault ∧
        Rotated new vault rebuilt after := by
  have distinct := Instance.meet_distinct start clipboard events app live
  exact ⟨fun reads => changeMasterPassword_failsWhole aead laws strict old new kdf distinct reads,
    fun outcome after ran => changeMasterPassword_rotated aead ran⟩

end Atomicity

/-- An operation of an open session leaves the world and the session it reached. -/
theorem Instance.perform_run {δ κ ε α : Type} {inst : Instance δ κ} {session : Nat}
    {app after : UnlockedApp} {operation : SessionAct δ ε α} {outcome : Except ε α}
    {world : World δ}
    (found : inst.sessions[session]? = some app)
    (ran : operation (inst.world, app) = (outcome, world, after)) :
    inst.perform session operation =
      { inst with world, sessions := inst.sessions.set session after } := by
  rw [Instance.perform, found]
  dsimp only
  rw [ran]

section Preparation

variable {δ : Type} [Platform δ] [Crates]

/-- The part of a change of the master password in front of its write: the outcome, the new key and
the rebuilt vault. -/
def prepareRotation (old new : String) (kdf : KdfParams) :
    SessionAct δ CoreError (PasswordChangeOutcome × MasterKey × Vault) := do
  ensureUnlocked
  let vault ← Op.onFirst loadVault
  let kHsm ← Op.onFirst (unwrapSlotCore .vaultKey vault.kHsmWrapBlob.val)
  let oldMaster ← Op.onFirst (deriveMasterFromBytes old vault.salt vault.kdfParams kHsm)
  Op.mapError .vault (Op.lift (vault.verifyProbe oldMaster))
  let newSalt ← Op.onFirst (ask (Platform.randomBlock 32))
  let newMaster ← Op.onFirst (deriveMasterFromBytes new newSalt kdf kHsm)
  let (_, app) ← Op.get
  let rebuilt ← Op.onFirst (reencryptVault app vault newSalt kdf newMaster)
  return (⟨vault.metadata.lastExportAt.isSome⟩, newMaster, rebuilt)

/-- A change of the master password prepares, writes, and adopts the key and the rows. -/
theorem changeMasterPassword_eq (old new : String) (kdf : KdfParams) :
    (changeMasterPassword old new kdf : SessionAct δ CoreError PasswordChangeOutcome) =
      prepareRotation old new kdf >>= fun (outcome, newMaster, rebuilt) => do
        Op.onFirst (atomicWrite rebuilt.toBytes)
        Op.modify fun (world, app) => (world, { app with kMaster := newMaster })
        let index ← Op.mapError .vault (Op.lift (rebuilt.openIndex newMaster))
        Op.modify fun (world, app) => (world, { app with index })
        return outcome := by
  simp only [changeMasterPassword, prepareRotation, bind_assoc, pure_bind]

/-- A change that was prepared and whose write succeeds leaves the session with the new key. -/
theorem changeMasterPassword_key {old new : String} {kdf : KdfParams}
    {state reached : World δ × UnlockedApp} {outcome : PasswordChangeOutcome}
    {newMaster : MasterKey}
    {rebuilt : Vault}
    (prepared : prepareRotation old new kdf state = (.ok (outcome, newMaster, rebuilt), reached))
    (writes : WritesSucceed δ) :
    (changeMasterPassword old new kdf state).2.2.kMaster = newMaster := by
  obtain ⟨world, app⟩ := reached
  have wrote : ∃ written, (Op.onFirst (atomicWrite rebuilt.toBytes) : SessionAct δ CoreError Unit)
      (world, app) = (.ok (), written, app) := by
    rw [Op.onFirst_run, atomicWrite, ask_bind_run, writes world.device]
    exact ⟨_, rfl⟩
  obtain ⟨written, wrote⟩ := wrote
  rw [changeMasterPassword_eq, Op.bind_ok prepared]
  dsimp only
  rw [Op.bind_ok wrote, Op.modify_bind_run]
  unfold Op.lift
  cases rebuilt.openIndex newMaster <;> rfl

end Preparation

namespace Reference

/-- The version of the files that do not pad their index. -/
def legacyVersion : FormatVersion := ⟨formatVersionLegacyV1, .inr rfl⟩

/-- The created vault as a file of the legacy version, with one entry. -/
def legacyVault : Option Vault :=
  letI := crates
  created.vault?.bind fun fresh =>
    let kMaster := session.kMaster
    let ad := probeAssociatedData legacyVersion fresh.kdfParams fresh.salt
    (encrypt kMaster fresh.probeNonce ad probePlaintext).toOption.bind fun probe =>
      if sized : probe.length = probeCtLen then
        (sealIndex [] legacyVersion kMaster nonce).toOption.bind fun sealed =>
          match Vault.addOrUpdateEntry kMaster entryId "mail" .default ⟨"a", "b", "", ""⟩
            nonce nonce
            { fresh with
              version := legacyVersion
              probeCt := ⟨probe, sized⟩
              sealedIndexNonce := nonce
              sealedIndexCt := sealed } with
          | (.ok (), vault) => some vault
          | (.error _, _) => none
      else none

/-- A world with that file. -/
def legacyWorld : World Device := { created with file := legacyVault.map Vault.toBytes }

/-- An instance that unlocked it; it is computed by the kernel only. -/
@[irreducible] def legacyOpened : Instance Device (TextClipboard textDigest) :=
  letI := crates
  run Instance.meet (.start legacyWorld clipboard) [.call (.unlock "pw" currentCode)]

/-- The instance under its name. -/
theorem legacyOpened_run :
    @run _ _ (@Instance.meet _ _ _ _ crates) (.start legacyWorld clipboard)
      [.call (.unlock "pw" currentCode)] = legacyOpened := by
  unfold legacyOpened
  rfl

/-- The session on it; it is computed by the kernel only. -/
@[irreducible] def legacySession : UnlockedApp := legacyOpened.sessions.getD 0 session

/-- The world it was opened in; it is computed by the kernel only. -/
@[irreducible] def legacyUnlocked : World Device := legacyOpened.world

/-- A label whose length no four-byte field holds; it is too long to be looked into. -/
@[irreducible] def longLabel : String := String.ofList (List.replicate (2 ^ 32) 'a')

/-- The row of an entry with that label. -/
def longRow : IndexEntry := ⟨entryId, longLabel, .default⟩

/-- The part of an update to that label in front of its write. -/
@[irreducible] def longUpdate : Except CoreError (Unit × Vault) × World Device × UnlockedApp :=
  letI := crates
  prepareUpdate entryId longLabel .default ⟨"a", "b", "", ""⟩ (legacyUnlocked, legacySession)

/-- The part of the update under its name. -/
theorem longUpdate_prepares :
    @prepareUpdate Device _ crates entryId longLabel .default ⟨"a", "b", "", ""⟩
      (legacyUnlocked, legacySession) = longUpdate := by
  unfold longUpdate
  rfl

/-- The session after the update. -/
def longSession : UnlockedApp := { longUpdate.2.2 with index := [longRow] }

/-- The vault the update writes. -/
def longVault : Option Vault := longUpdate.1.toOption.map Prod.snd

/-- The world after the update, with the first file put back in its place. -/
def restored : World Device :=
  { longUpdate.2.1 with
    file := legacyWorld.file
    trace := longVault.toList.map (fun vault => .written vault.toBytes true) ++
      longUpdate.2.1.trace }

/-- The calls and the exchange of the file that lead there. -/
def longEvents : List Instance.Event :=
  [.call (.unlock "pw" currentCode),
    .call (.updateEntry 0 entryId longLabel .default ⟨"a", "b", "", ""⟩), .swap legacyWorld.file]

/-- The length of a text is part of what is written of it. -/
theorem utf8_le_text (value : String) :
    (utf8 value).length ≤ (PrefixCode.text.write value).length := by
  have single (bytes : Bytes) : (bytes.flatMap PrefixCode.byte.write).length = bytes.length := by
    induction bytes with
    | nil => rfl
    | cons head rest ih =>
      rw [List.flatMap_cons, List.length_append, ih, List.length_cons, Nat.add_comm]
      rfl
  change _ ≤ (PrefixCode.varint.write _ ++ (utf8 value).flatMap PrefixCode.byte.write).length
  rw [List.length_append, single]
  omega

/-- The row with the long label cannot be announced. -/
theorem longRow_unannounced : ¬ @IndexReads crates .current [longRow] := by
  intro reads
  rcases @reads _ rfl with legacy | short
  · exact absurd legacy (by decide)
  · have label : (utf8 longLabel).length = 2 ^ 32 := by
      unfold longLabel
      exact utf8_repeated (2 ^ 32)
    have written := utf8_le_text longRow.label
    change (PrefixCode.varint.write 1 ++ ((entryId.bytes.val ++
      (PrefixCode.text.write longRow.label ++ entryPolicy.write .default)) ++
        [])).length < 2 ^ 32 at short
    simp only [List.length_append] at short
    have same : longRow.label = longLabel := rfl
    rw [same] at written short
    omega

/-- The update succeeds and leaves the session with the long row. -/
theorem longUpdate_run :
    letI := crates
    ∃ changed, longVault = some changed ∧
      updateEntry entryId longLabel .default ⟨"a", "b", "", ""⟩ (legacyUnlocked, legacySession) =
        (.ok (), (longUpdate.2.1.afterWrite (Platform.writeFault longUpdate.2.1.device).2
          changed.toBytes true, longSession)) := by
  let _ := crates
  obtain ⟨found, stored, version, _, coherent⟩ := stores_of_read legacyUnlocked
    legacySession.kMaster legacyVersion [⟨entryId, "mail", .default⟩] (by decide +kernel)
  have made : longVault.isSome = true := by decide +kernel
  obtain ⟨changed, prepared⟩ := Option.isSome_iff_exists.mp made
  obtain ⟨⟨_, _⟩, returned, rfl⟩ := Option.map_eq_some_iff.mp prepared
  have ran := longUpdate_prepares.trans (Op.ran_of_returned returned)
  have key := ((prepareUpdate_prepares _ _ _ _).untouched.ran ran).key
  obtain ⟨vault, held, puts⟩ := (prepareUpdate_prepares _ _ _ _).prepared _ _ _ _ ran
  dsimp only at held puts key
  obtain rfl : vault = found := held.unique stored
  have reads : IndexReads vault.version (Index.upsert [⟨entryId, "mail", .default⟩]
      ⟨entryId, longLabel, .default⟩) := fun _ _ => .inl (congrArg Subtype.val version)
  obtain ⟨rows, opened⟩ := (puts.opens_iff aeadLaws postcardLaws strictLaws).mpr
    ⟨_, coherent.decrypts, coherent.admitsPut reads⟩
  obtain ⟨decrypted, _⟩ := (Vault.openIndex_ok_iff _ _ rows).mp opened
  obtain ⟨rfl, _⟩ := (puts.decrypts_iff aeadLaws postcardLaws strictLaws coherent.decrypts
    rows).mp decrypted
  refine ⟨_, prepared, ?_⟩
  rw [← key] at opened
  rw [updateEntry_eq]
  exact commitPrepared_run ran rfl opened

/-- The instance after the update and the exchange of the file. -/
def longRun : Instance Device (TextClipboard textDigest) :=
  letI := crates
  run Instance.meet (.start legacyWorld clipboard) longEvents

/-- The session lives on, and the first file is back. -/
theorem longRun_reached : longSession ∈ longRun.sessions ∧ longRun.world = restored := by
  let _ := crates
  obtain ⟨changed, written, ran⟩ := longUpdate_run
  have found : legacyOpened.sessions[0]? = some legacySession := by decide +kernel
  have world : legacyOpened.world = legacyUnlocked := by
    unfold legacyUnlocked
    rfl
  rw [← world] at ran
  have updated := Instance.perform_run found ran
  have reached : longRun = Instance.meet (legacyOpened.perform 0
      (updateEntry entryId longLabel .default ⟨"a", "b", "", ""⟩)) (.swap legacyWorld.file) := by
    have split : longEvents = [.call (.unlock "pw" currentCode)] ++
        [.call (.updateEntry 0 entryId longLabel .default ⟨"a", "b", "", ""⟩),
          .swap legacyWorld.file] := rfl
    rw [longRun, split, run_append, legacyOpened_run, run_cons, run_cons, run_nil]
    simp only [Instance.meet, Instance.step]
  obtain ⟨first, _⟩ := List.getElem?_eq_some_iff.mp found
  have member := List.mem_set first longSession
  rw [reached, updated, Instance.meet, restored, written]
  exact ⟨member, rfl⟩

end Reference

/-- A session that cached a row which cannot be announced reports an error for a change of the
master password, and yet leaves another file and another key. -/
theorem unannounced_row_fails_after_write :
    letI := Reference.crates
    Reference.longSession ∈ Reference.longRun.sessions ∧
      (∃ error, (changeMasterPassword "pw" "next" Reference.kdfParams
        (Reference.longRun.world, Reference.longSession)).1 = .error error) ∧
      (changeMasterPassword "pw" "next" Reference.kdfParams
        (Reference.longRun.world, Reference.longSession)).2.1.file ≠ Reference.longRun.world.file ∧
      (changeMasterPassword "pw" "next" Reference.kdfParams
        (Reference.longRun.world, Reference.longSession)).2.2.kMaster ≠
          Reference.longSession.kMaster ∧
      ¬FailsWhole "pw" "next" Reference.kdfParams
        (Reference.longRun.world, Reference.longSession) := by
  let _ := Reference.crates
  obtain ⟨live, world⟩ := Reference.longRun_reached
  rw [world]
  have made : ((prepareRotation "pw" "next" Reference.kdfParams
      (Reference.restored, Reference.longSession)).1.toOption.map fun (_, newMaster, _) =>
        decide (newMaster ≠ Reference.longSession.kMaster)) = some true := by decide +kernel
  obtain ⟨⟨outcome, newMaster, rebuilt⟩, returned, other⟩ := Option.map_eq_some_iff.mp made
  have key := changeMasterPassword_key (Op.ran_of_returned returned) Reference.writesSucceed
  have fresh : newMaster ≠ Reference.longSession.kMaster := of_decide_eq_true other
  rw [← key] at fresh
  rcases ran : changeMasterPassword "pw" "next" Reference.kdfParams
    (Reference.restored, Reference.longSession) with ⟨outcome, after⟩
  rw [ran] at fresh
  dsimp only at fresh ⊢
  rcases changeMasterPassword_cases ran with
    ⟨_, _, _, same⟩ | ⟨vault, rebuilt, _, _, rekeyed, ends⟩
  · rw [same] at fresh
    exact absurd rfl fresh
  have shut : ¬∃ rows, rebuilt.openIndex after.2.kMaster = .ok rows := fun opens =>
    Reference.longRow_unannounced ((rekeyed.rebuilds.opens_iff Reference.aeadLaws
      Reference.postcardLaws Reference.strictLaws (List.nodup_singleton _)).mp opens)
  have failed : ∃ error, outcome = .error error := by
    rcases ends with ⟨⟨error, _, failed⟩, _⟩ | ⟨_, opens⟩
    · exact ⟨_, failed⟩
    · exact absurd ⟨_, opens⟩ shut
  have rewritten : after.1.file ≠ Reference.restored.file := by
    intro same
    obtain ⟨legacy, ⟨bytes, held, small, parsed⟩, version, _, _⟩ := Reference.stores_of_read
      Reference.restored Reference.legacySession.kMaster Reference.legacyVersion
      [⟨Reference.entryId, "mail", .default⟩] (by decide +kernel)
    obtain ⟨current, clamped⟩ := rekeyed.rebuilds.written
    have stored : after.1.Stores legacy := ⟨bytes, same.trans held, small, parsed⟩
    obtain ⟨rfl, _⟩ := stored.of_written rekeyed.file clamped
    exact absurd (version.symm.trans current) (by decide)
  refine ⟨live, failed, rewritten, fresh, fun whole => ?_⟩
  obtain ⟨error, failed⟩ := failed
  have kept := whole error (by rw [ran]; exact failed)
  rw [ran] at kept
  exact rewritten kept.1

namespace Reference

/-- The change of the master password on the legacy file. -/
def legacyChange : Except CoreError PasswordChangeOutcome × World Device × UnlockedApp :=
  letI := crates
  changeMasterPassword "pw" "next" kdfParams (legacyOpened.world, legacySession)

/-- The change under its name. -/
theorem legacyChange_run :
    @changeMasterPassword Device _ crates "pw" "next" kdfParams
      (legacyOpened.world, legacySession) = legacyChange := rfl

/-- The row of the legacy file can be announced. -/
theorem legacySession_reads : @IndexReads crates .current legacySession.index := by
  let _ := crates
  have short : (Crates.rowsToBytes legacySession.index).all
      (fun postcard => decide (postcard.length < 2 ^ 32)) = true := by decide +kernel
  intro postcard written
  exact .inr (of_decide_eq_true ((Option.all_eq_true _ _).mp short postcard written))

end Reference

/-- On the legacy file with one entry a change of the master password fails whole, and it succeeds:
the file holds a rebuilt vault, the session its key and its index. -/
theorem password_change_atomic_shared :
    letI := Reference.crates
    FailsWhole "pw" "next" Reference.kdfParams
        (Reference.legacyOpened.world, Reference.legacySession) ∧
      changeMasterPassword "pw" "next" Reference.kdfParams
        (Reference.legacyOpened.world, Reference.legacySession) =
          (.ok ⟨false⟩, Reference.legacyChange.2) ∧
      ∃ vault rebuilt, Reference.legacyOpened.world.Stores vault ∧
        Rotated "next" vault rebuilt Reference.legacyChange.2 := by
  let _ := Reference.crates
  have live : Reference.legacySession ∈ Reference.legacyOpened.sessions := by decide +kernel
  have returned : Reference.legacyChange.1.toOption = some ⟨false⟩ := by decide +kernel
  have ran := Reference.legacyChange_run.trans (Op.ran_of_returned returned)
  have opened := Reference.legacyOpened_run
  have atomic := @password_change_atomic Reference.Device (TextClipboard Reference.textDigest) _ _
    Reference.crates Reference.aeadLaws Reference.postcardLaws Reference.strictLaws
    Reference.legacyWorld Reference.clipboard [.call (.unlock "pw" Reference.currentCode)]
    Reference.legacySession (by rw [opened]; exact live) "pw" "next" Reference.kdfParams
  rw [opened] at atomic
  exact ⟨atomic.1 Reference.legacySession_reads, ran, atomic.2 _ _ ran⟩

end Passman
