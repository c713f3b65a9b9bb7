import Passman.Core.Replay
import Passman.Core.Session

/-!
# The expiry of a session

A session is opened for a fixed time, and every operation first compares the clock with
its expiry. No operation moves the expiry later. The one operation that does not look at
the expiry checks a code, so an expired session still advances the shared replay cache
when the code is valid.
-/
namespace Passman

open Bytewise Fallible Words Transition

section Gates

variable {δ κ α β : Type} [Platform δ]

/-- An operation that only reads the clock and reports a locked session once it has expired. -/
def Gated (operation : SessionAct δ CoreError α) : Prop :=
  ∀ (world : World δ) (app : UnlockedApp), app.sessionExpiry ≤ (Platform.now world.device).1 →
    operation (world, app) =
      (.error .locked, { world with device := (Platform.now world.device).2 }, app)

/-- The check reads the clock once and compares it with the expiry. -/
theorem ensureUnlocked_run (world : World δ) (app : UnlockedApp) :
    (ensureUnlocked : SessionAct δ CoreError Unit) (world, app) =
      (if app.sessionExpiry ≤ (Platform.now world.device).1 then .error .locked else .ok (),
        { world with device := (Platform.now world.device).2 }, app) := by
  change (if (Platform.now world.device).1 ≥ app.sessionExpiry then Op.fail CoreError.locked
    else pure () : SessionAct δ CoreError Unit) ({ world with device := _ }, app) = _
  by_cases expired : app.sessionExpiry ≤ (Platform.now world.device).1
  · rw [if_pos expired, if_pos expired]
    rfl
  · rw [if_neg expired, if_neg expired]
    rfl

/-- The check of the expiry is gated. -/
theorem gated_ensureUnlocked : Gated (ensureUnlocked : SessionAct δ CoreError Unit) := by
  intro world app expired
  rw [ensureUnlocked_run, if_pos expired]

/-- An operation that starts with the check is gated. -/
theorem gated_then {first : SessionAct δ CoreError α} (gated : Gated first)
    (next : α → SessionAct δ CoreError β) : Gated (first >>= next) :=
  fun world app expired => Op.bind_error (gated world app expired)

/-- An operation that passes the check runs on after one reading of the clock. -/
theorem ensureUnlocked_live (next : Unit → SessionAct δ CoreError α) {world : World δ}
    {app : UnlockedApp} (live : (Platform.now world.device).1 < app.sessionExpiry) :
    (ensureUnlocked >>= next) (world, app) =
      next () ({ world with device := (Platform.now world.device).2 }, app) := by
  have passed := ensureUnlocked_run world app
  rw [if_neg (UInt64.not_le.mpr live)] at passed
  exact Op.bind_ok passed

end Gates

namespace SessionCall

variable {δ κ : Type} [Platform δ]

/-- The session has expired at the clock's reading. -/
def Expired (state : SessionState δ κ) : Prop :=
  state.1.2.sessionExpiry ≤ (Platform.now state.1.1.device).1

instance (state : SessionState δ κ) : Decidable (Expired state) :=
  inferInstanceAs (Decidable (_ ≤ _))

/-- The state after one reading of the clock. -/
def afterReading (state : SessionState δ κ) : SessionState δ κ :=
  (({ state.1.1 with device := (Platform.now state.1.1.device).2 }, state.1.2), state.2)

/-- A reply that refuses: the session is locked, or the code is not valid. -/
def Refused (reply : Except CoreError SessionReply) : Prop :=
  reply = .error .locked ∨ reply = .ok (.checked false)

variable [Clipboard κ] [Crates]

/-- A call on a state refuses and changes neither the file, the clipboard, the session nor the
replay cache. -/
structure Inert (call : SessionCall) (state : SessionState δ κ) : Prop where
  /-- The reply refuses. -/
  refused : Refused (call.perform state).1
  /-- The file is unchanged. -/
  file : (call.perform state).2.1.1.file = state.1.1.file
  /-- The clipboard is unchanged. -/
  clipboard : (call.perform state).2.2 = state.2
  /-- The session's key, seed, index and expiry are unchanged. -/
  session : (call.perform state).2.1.2 = state.1.2
  /-- The replay cache is unchanged. -/
  cache : (call.perform state).2.1.1.cachedStep = state.1.1.cachedStep

omit [Clipboard κ] in
/-- The call checks a code that the verifier of the instance accepts at the clock's reading. -/
def ChecksValidCode (call : SessionCall) (state : SessionState δ κ) : Prop :=
  ∃ code, call = .verifyTotpCode code ∧ state.1.1.Accepts state.1.2.totpSeed code

/-- A call other than a clear and a check of a code only reads the clock and reports a locked
session once the session has expired. -/
theorem perform_expired {call : SessionCall} {state : SessionState δ κ}
    (gated : call.isClear = false) (other : ∀ code, call ≠ .verifyTotpCode code)
    (expired : Expired state) : call.perform state = (.error .locked, afterReading state) := by
  obtain ⟨⟨world, app⟩, clipboard⟩ := state
  -- Every such operation is the check of the expiry, then something.
  have refused {α : Type} (wrap : α → SessionReply) (rest : Unit → SessionAct δ CoreError α) :
      Functor.map wrap (Op.onFirst (ensureUnlocked >>= rest)) ((world, app), clipboard) =
        (.error CoreError.locked, afterReading ((world, app), clipboard)) := by
    apply Op.map_error
    rw [Op.onFirst_run, gated_then gated_ensureUnlocked rest world app expired]
    rfl
  cases call with
  | clearClipboard cookie factOverwrite => cases gated
  | verifyTotpCode code => exact absurd rfl (other code)
  | copyToClipboard id field =>
    have shown : Op.onFirst (Passman.withRevealed id fun record => selectField record field)
        ((world, app), clipboard) =
          (.error CoreError.locked, afterReading ((world, app), clipboard)) := by
      rw [Op.onFirst_run, Passman.withRevealed, gated_then gated_ensureUnlocked _ world app expired]
      rfl
    exact Op.map_error _ (Op.bind_error shown)
  | _ => exact refused _ _

omit [Clipboard κ] in
/-- A check of a code replies whether the verifier accepts it. -/
theorem perform_verifyTotpCode [Clipboard κ] (code : String) (world : World δ) (app : UnlockedApp)
    (clipboard : κ) :
    (verifyTotpCode code).perform ((world, app), clipboard) =
      (.ok (.checked (verifyTotp app.totpSeed code world).1),
        ((verifyTotp app.totpSeed code world).2, app), clipboard) := rfl

/-- A call other than a clear is inert on an expired session if and only if it does not check a code
that the verifier accepts. -/
theorem inert_iff {call : SessionCall} {state : SessionState δ κ} (gated : call.isClear = false)
    (expired : Expired state) : call.Inert state ↔ ¬ call.ChecksValidCode state := by
  obtain ⟨⟨world, app⟩, clipboard⟩ := state
  by_cases checks : ∃ code, call = .verifyTotpCode code
  · obtain ⟨code, rfl⟩ := checks
    have reply := perform_verifyTotpCode code world app clipboard
    have valid_iff : (verifyTotp app.totpSeed code world).1 = true ↔
        (verifyTotpCode code).ChecksValidCode ((world, app), clipboard) := by
      rw [verifyTotp_fst_iff]
      constructor
      · exact fun accepts => ⟨code, rfl, accepts⟩
      · rintro ⟨other, same, accepts⟩
        obtain rfl := SessionCall.verifyTotpCode.inj same
        exact accepts
    rw [← valid_iff, Bool.not_eq_true]
    constructor
    · intro inert
      rcases inert.refused with locked | refused
      · rw [reply] at locked
        cases locked
      · rw [reply] at refused
        exact SessionReply.checked.inj (Except.ok.inj refused)
    · intro rejected
      obtain ⟨cached, _⟩ := verifyTotp_rejected rejected
      refine ⟨?_, ?_, rfl, rfl, cached⟩
      · rw [reply, rejected]
        exact .inr rfl
      · exact verifyTotp_file app.totpSeed code world
  · have other (code : String) : call ≠ .verifyTotpCode code := fun same => checks ⟨code, same⟩
    have reply := perform_expired gated other expired
    have quiet : ¬ call.ChecksValidCode ((world, app), clipboard) :=
      fun ⟨code, same, _⟩ => other code same
    refine iff_of_true ?_ quiet
    refine ⟨?_, ?_, ?_, ?_, ?_⟩
    · rw [reply]
      exact .inl rfl
    all_goals
      rw [reply]
      rfl

end SessionCall

section Sessions

variable {δ κ ε α β : Type}

/-- The expiry of the session is the same. -/
def SameExpiry (before after : World δ × UnlockedApp) : Prop :=
  after.2.sessionExpiry = before.2.sessionExpiry

/-- Sequencing keeps the expiry its parts keep. -/
theorem expiry_then {first : SessionAct δ ε α} {next : α → SessionAct δ ε β}
    (head : Op.Keeps SameExpiry first) (tail : ∀ value, Op.Keeps SameExpiry (next value)) :
    Op.Keeps SameExpiry (first >>= next) := by
  refine Op.keeps_bind ?_ head tail
  intro early middle late first second
  exact Eq.trans second first

/-- What only touches the world keeps the expiry. -/
theorem expiry_world (operation : Act δ ε α) : Op.Keeps SameExpiry (Op.onFirst operation) :=
  fun _ => rfl

/-- A lifted result keeps the expiry. -/
theorem expiry_lift {η : Type} (translate : ε → η) (result : Except ε α) :
    Op.Keeps SameExpiry (Op.mapError translate (Op.lift result) : SessionAct δ η α) :=
  Op.keeps_mapError fun _ => rfl

variable [Platform δ]

/-- The check of the expiry keeps it. -/
theorem expiry_ensureUnlocked :
    Op.Keeps SameExpiry (ensureUnlocked : SessionAct δ CoreError Unit) := by
  rintro ⟨world, app⟩
  rw [ensureUnlocked_run]
  rfl

variable [Crates]

/-- Writing a vault and adopting its index keeps the expiry. -/
theorem expiry_persistAndRefresh (vault : Vault) :
    Op.Keeps SameExpiry (persistAndRefresh vault : SessionAct δ CoreError Unit) := by
  refine expiry_then (expiry_world _) fun _ => ?_
  refine expiry_then (fun _ => rfl) fun state => ?_
  exact expiry_then (expiry_lift _ _) fun index _ => rfl

/-- Showing an entry keeps the expiry. -/
theorem expiry_withRevealed (id : EntryId) (view : EntryRecord → α) :
    Op.Keeps SameExpiry (withRevealed id view : SessionAct δ CoreError α) := by
  refine expiry_then expiry_ensureUnlocked fun _ => ?_
  refine expiry_then (expiry_world _) fun vault => ?_
  refine expiry_then (fun _ => rfl) fun state => ?_
  exact expiry_then (expiry_lift _ _) fun record _ => rfl

/-- Inserting or updating an entry of the stored vault keeps the expiry. -/
theorem expiry_upsertEntry (id : EntryId) (label : String) (policy : EntryPolicy)
    (record : EntryRecord) : Op.Keeps SameExpiry
      (upsertEntry id label policy record : SessionAct δ CoreError Unit) := by
  refine expiry_then (expiry_world _) fun vault => ?_
  refine expiry_then (fun _ => rfl) fun state => ?_
  exact expiry_then (expiry_world _) fun changed => expiry_persistAndRefresh changed

/-- Updating an entry keeps the expiry. -/
theorem expiry_updateEntry (id : EntryId) (label : String) (policy : EntryPolicy)
    (record : EntryRecord) : Op.Keeps SameExpiry
      (updateEntry id label policy record : SessionAct δ CoreError Unit) := by
  refine expiry_then expiry_ensureUnlocked fun _ => ?_
  refine expiry_then (fun _ => rfl) fun (world, app) => ?_
  dsimp only
  cases app.index.get id with
  | none => exact fun _ => rfl
  | some row => exact expiry_upsertEntry _ _ _ _

/-- Removing an entry keeps the expiry. -/
theorem expiry_removeEntry (id : EntryId) :
    Op.Keeps SameExpiry (removeEntry id : SessionAct δ CoreError Unit) := by
  refine expiry_then expiry_ensureUnlocked fun _ => ?_
  refine expiry_then (expiry_world _) fun vault => ?_
  refine expiry_then (fun _ => rfl) fun state => ?_
  exact expiry_then (expiry_world _) fun changed => expiry_persistAndRefresh changed

/-- Changing the master password keeps the expiry. -/
theorem expiry_changeMasterPassword (old new : String) (kdf : KdfParams) :
    Op.Keeps SameExpiry (changeMasterPassword old new kdf : SessionAct δ CoreError _) := by
  refine expiry_then expiry_ensureUnlocked fun _ => ?_
  refine expiry_then (expiry_world _) fun vault => ?_
  refine expiry_then (expiry_world _) fun kHsm => ?_
  refine expiry_then (expiry_world _) fun oldMaster => ?_
  refine expiry_then (expiry_lift _ _) fun _ => ?_
  refine expiry_then (expiry_world _) fun newSalt => ?_
  refine expiry_then (expiry_world _) fun newMaster => ?_
  refine expiry_then (fun _ => rfl) fun state => ?_
  refine expiry_then (expiry_world _) fun rebuilt => ?_
  refine expiry_then (expiry_world _) fun _ => ?_
  refine expiry_then (fun _ => rfl) fun _ => ?_
  refine expiry_then (expiry_lift _ _) fun index => ?_
  exact expiry_then (fun _ => rfl) fun _ _ => rfl

/-- Exporting a recovery file keeps the expiry. -/
theorem expiry_exportRecovery (password code : String) (preset : RecoveryPreset) :
    Op.Keeps SameExpiry (exportRecovery password code preset : SessionAct δ CoreError _) := by
  refine expiry_then expiry_ensureUnlocked fun _ => ?_
  refine expiry_then (expiry_world _) fun vault => ?_
  cases Crates.allowsExport password with
  | false => exact fun _ => rfl
  | true =>
    refine expiry_then (expiry_world _) fun proof => ?_
    obtain ⟨kMaster, seed⟩ := proof
    dsimp only
    cases intoKey seed with
    | none => exact fun _ => rfl
    | some seed =>
      refine expiry_then (fun _ => rfl) fun state => ?_
      refine expiry_then (fun _ => rfl) fun entries => ?_
      refine expiry_then (expiry_world _) fun available => ?_
      refine expiry_then (expiry_world _) fun salt => ?_
      refine expiry_then (expiry_world _) fun nonce => ?_
      refine expiry_then (expiry_world _) fun file => ?_
      refine expiry_then (expiry_world _) fun exportedAt => ?_
      exact expiry_then (expiry_world _) fun _ _ => rfl

end Sessions

section Copies

variable {δ κ : Type} [Platform δ] [Clipboard κ] [Crates]

/-- The part of a copy before the session is shortened: decrypt the field and write it. -/
def writeSecret (id : EntryId) (field : RevealField) :
    Op (SessionState δ κ) CoreError ClipboardCookie := do
  let value ← Op.onFirst (withRevealed id fun record => selectField record field)
  Op.onSecond (Clipboard.write value)

/-- The state after a copy shortened the session at the clock's reading. -/
def shortened (state : SessionState δ κ) : SessionState δ κ :=
  let (now, device) := Platform.now state.1.1.device
  (({ state.1.1 with device },
    { state.1.2 with
      sessionExpiry := min state.1.2.sessionExpiry (saturatingAdd now postCopySecs) }),
    state.2)

/-- A copy that fails leaves what its first part left; a copy that succeeds shortens the session. -/
theorem copyToClipboard_run (id : EntryId) (field : RevealField) (state : SessionState δ κ) :
    copyToClipboard id field state =
      match writeSecret id field state with
      | (.ok cookie, written) => (.ok cookie, shortened written)
      | (.error error, reached) => (.error error, reached) := by
  rcases shown : (Op.onFirst (withRevealed id fun record => selectField record field) :
      Op (SessionState δ κ) CoreError String) state with ⟨value | value, reached⟩
  · rw [writeSecret, Op.bind_error shown]
    exact Op.bind_error shown
  · rw [writeSecret, Op.bind_ok shown, copyToClipboard, Op.bind_ok shown]
    rcases wrote : (Op.onSecond (Clipboard.write value) :
        Op (SessionState δ κ) CoreError ClipboardCookie) reached with ⟨cookie | cookie, written⟩
    · exact Op.bind_error wrote
    · exact Op.bind_ok wrote

/-- What a copy does before it shortens the session keeps the expiry. -/
theorem expiry_writeSecret (id : EntryId) (field : RevealField) :
    Op.Keeps (fun before after => SameExpiry before.1 after.1)
      (writeSecret id field : Op (SessionState δ κ) CoreError ClipboardCookie) := by
  have trans (first second third : SessionState δ κ) (early : SameExpiry first.1 second.1)
      (late : SameExpiry second.1 third.1) : SameExpiry first.1 third.1 := late.trans early
  refine Op.keeps_bind trans (Op.keeps_onFirst (expiry_withRevealed id _)) fun value => ?_
  exact fun _ => rfl

end Copies

section Runs

variable {δ κ : Type} [Platform δ] [Clipboard κ] [Crates]

/-- No operation of a session moves its expiry later. -/
theorem SessionCall.perform_expiry (call : SessionCall) (state : SessionState δ κ) :
    (call.perform state).2.1.2.sessionExpiry ≤ state.1.2.sessionExpiry := by
  have kept {α : Type} {operation : SessionAct δ CoreError α} (wrap : α → SessionReply)
      (same : Op.Keeps SameExpiry operation) :
      (Functor.map wrap (Op.onFirst operation) state).2.1.2.sessionExpiry ≤
        state.1.2.sessionExpiry := by
    rw [Op.map_state]
    exact UInt64.le_of_eq (same state.1)
  cases call with
  | listEntries =>
    exact kept _ (expiry_then expiry_ensureUnlocked fun _ => expiry_then (fun _ => rfl)
      fun _ _ => rfl)
  | generatePassword request =>
    exact kept _ (expiry_then expiry_ensureUnlocked fun _ => expiry_world _)
  | withRevealed id => exact kept _ (expiry_withRevealed id _)
  | estimateMasterStrength =>
    exact kept _ (expiry_then expiry_ensureUnlocked fun _ => expiry_then (expiry_world _)
      fun _ _ => rfl)
  | clearClipboard cookie factOverwrite =>
    rw [SessionCall.perform, Op.map_state]
    exact UInt64.le_refl _
  | addEntry label policy record =>
    refine kept _ (expiry_then expiry_ensureUnlocked fun _ => expiry_then (expiry_world _)
      fun id => expiry_then (expiry_upsertEntry _ _ _ _) fun _ _ => rfl)
  | updateEntry id label policy record => exact kept _ (expiry_updateEntry id label policy record)
  | removeEntry id => exact kept _ (expiry_removeEntry id)
  | verifyTotpCode code => exact kept _ fun _ => rfl
  | changeMasterPassword old new kdf => exact kept _ (expiry_changeMasterPassword old new kdf)
  | exportRecovery password code preset => exact kept _ (expiry_exportRecovery password code preset)
  | copyToClipboard id field =>
    have written := expiry_writeSecret id field state
    rw [SessionCall.perform, Op.map_state, copyToClipboard_run]
    rcases ran : writeSecret id field state with ⟨error | cookie, reached⟩
    · rw [ran] at written
      exact UInt64.le_of_eq written
    · rw [ran] at written
      exact UInt64.le_trans (Words.min_le_left _ _) (UInt64.le_of_eq written)

/-- No call moves the expiry of an open session later. -/
theorem Instance.step_expiry (inst : Instance δ κ) (call : Call) {session : Nat} {app : UnlockedApp}
    (present : inst.sessions[session]? = some app) :
    ∃ later, (inst.step call).sessions[session]? = some later ∧
      later.sessionExpiry ≤ app.sessionExpiry := by
  have inside : session < inst.sessions.length := (List.getElem?_eq_some_iff.mp present).1
  cases opens : call.opens with
  | true =>
    -- A call that may open a session only appends to the sessions.
    have appended : ∃ added, (inst.step call).sessions = inst.sessions ++ added := by
      cases call with
      | createVault => exact ⟨_, rfl⟩
      | importRecovery => exact ⟨_, rfl⟩
      | unlock => exact ⟨_, rfl⟩
      | _ => cases opens
    obtain ⟨added, appended⟩ := appended
    refine ⟨app, ?_, UInt64.le_refl _⟩
    rw [appended, List.getElem?_append_left inside, present]
  | false =>
    obtain ⟨other, operation, rfl⟩ := Call.on_of_opens opens
    rw [step_on, Instance.performWith]
    cases found : inst.sessions[other]? with
    | none => exact ⟨app, present, UInt64.le_refl _⟩
    | some acting =>
      by_cases same : session = other
      · subst same
        have acts : app = acting := Option.some.inj (present.symm.trans found)
        refine ⟨_, List.getElem?_set_self inside, ?_⟩
        rw [acts]
        exact operation.perform_expiry ((inst.world, acting), inst.clipboard)
      · refine ⟨app, ?_, UInt64.le_refl _⟩
        exact (List.getElem?_set_ne (Ne.symm same)).trans present

/-- No run of calls moves the expiry of an open session later. -/
theorem Instance.run_expiry (inst : Instance δ κ) (calls : List Call) {session : Nat}
    {app : UnlockedApp} (present : inst.sessions[session]? = some app) :
    ∃ later, (run Instance.step inst calls).sessions[session]? = some later ∧
      later.sessionExpiry ≤ app.sessionExpiry := by
  let bounded (inst : Instance δ κ) : Prop := ∃ later, inst.sessions[session]? = some later ∧
    later.sessionExpiry ≤ app.sessionExpiry
  have kept (inst : Instance δ κ) (call : Call) (before : bounded inst) :
      bounded (inst.step call) := by
    obtain ⟨middle, found, early⟩ := before
    obtain ⟨later, after, late⟩ := inst.step_expiry call found
    exact ⟨later, after, UInt64.le_trans late early⟩
  have start : bounded inst := ⟨app, present, UInt64.le_refl _⟩
  exact run_keeps kept start calls

end Runs

section Opening

variable {δ κ ε α β : Type} [Platform δ]

/-- The last thing that happened was a reading of the clock, from which the session lasts 120 s. -/
def OpenedAt (app : UnlockedApp) (after : World δ) : Prop :=
  ∃ opened : δ, (Platform.now opened).2 = after.device ∧
    app.sessionExpiry = saturatingAdd (Platform.now opened).1 sessionSecs

/-- Whenever the operation succeeds it has just opened a session. -/
def Opens (session : α → UnlockedApp) (operation : Act δ ε α) : Prop :=
  ∀ world value after, operation world = (.ok value, after) → OpenedAt (session value) after

/-- What an operation ends with opens its session. -/
theorem opens_then {session : β → UnlockedApp} (first : Act δ ε α) {next : α → Act δ ε β}
    (last : ∀ value, Opens session (next value)) : Opens session (first >>= next) := by
  intro world value after ran
  obtain ⟨middle, reached, _, rest⟩ := Op.bind_ok_cases ran
  exact last middle reached value after rest

/-- An operation that never succeeds opens no session. -/
theorem opens_fail (session : α → UnlockedApp) (error : ε) :
    Opens session (Op.fail error : Act δ ε α) := by
  intro world value after ran
  cases ran

/-- Building a session and returning it opens it. -/
theorem opens_buildUnlocked (session : α → UnlockedApp) (wrap : UnlockedApp → α)
    (same : ∀ app, session (wrap app) = app) (kMaster : MasterKey) (seed : Bytes) (index : Index) :
    Opens session (buildUnlocked kMaster seed index >>= fun app => pure (wrap app) :
      Act δ ε α) := by
  intro world value after ran
  obtain ⟨returned, rfl⟩ := Prod.mk.inj ran
  obtain rfl := Except.ok.inj returned
  exact ⟨world.device, rfl, congrArg UnlockedApp.sessionExpiry (same _)⟩

variable [Clipboard κ] [Crates]

omit [Clipboard κ] in
/-- A creation opens its session last. -/
theorem opens_createVault (password : String) (kdf : KdfParams) (config : TotpConfig) :
    Opens Prod.fst (createVault password kdf config : Act δ CoreError _) := by
  refine opens_then _ fun _ => opens_then _ fun _ => opens_then _ fun _ => opens_then _ fun _ => ?_
  refine opens_then _ fun _ => opens_then _ fun _ => opens_then _ fun _ => opens_then _ fun _ => ?_
  refine opens_then _ fun _ => opens_then _ fun _ => opens_then _ fun _ => opens_then _ fun _ => ?_
  exact opens_buildUnlocked Prod.fst _ (fun _ => rfl) _ _ _

omit [Clipboard κ] in
/-- A restoration opens its session last. -/
theorem opens_importRecovery (file : Bytes) (password : String) (kdf : KdfParams)
    (config : TotpConfig) :
    Opens Prod.fst (importRecovery file password kdf config : Act δ CoreError _) := by
  refine opens_then _ fun _ => opens_then _ fun _ => opens_then _ fun _ => opens_then _ fun _ => ?_
  refine opens_then _ fun _ => opens_then _ fun _ => opens_then _ fun _ => opens_then _ fun _ => ?_
  refine opens_then _ fun _ => opens_then _ fun _ => opens_then _ fun _ => opens_then _ fun _ => ?_
  refine opens_then _ fun _ => opens_then _ fun _ => ?_
  exact opens_buildUnlocked Prod.fst _ (fun _ => rfl) _ _ _

omit [Clipboard κ] in
/-- An unlock opens its session last. -/
theorem opens_unlock (password code : String) :
    Opens id (unlock password code : Act δ UnlockError UnlockedApp) := by
  refine opens_then _ fun ⟨vault, state, now, kHsm, seed, valid⟩ => ?_
  cases valid with
  | false => exact opens_then _ fun _ => opens_fail id _
  | true =>
    refine opens_then _ fun kMaster => ?_
    cases vault.verifyProbe kMaster with
    | error error => exact opens_then _ fun _ => opens_fail id _
    | ok _ =>
      refine opens_then _ fun index => opens_then _ fun _ => ?_
      exact opens_buildUnlocked id id (fun _ => rfl) kMaster seed index

/-- A session that a call adds was opened at the end of the call. -/
theorem Instance.step_opened {inst : Instance δ κ} {call : Call} {app : UnlockedApp}
    (added : (inst.step call).sessions = inst.sessions ++ [app]) :
    OpenedAt app (inst.step call).world := by
  have opened {ε : Type} {operation : Act δ ε UnlockedApp} (opens : Opens id operation)
      (added : (inst.opens (operation inst.world)).sessions = inst.sessions ++ [app]) :
      OpenedAt app (inst.opens (operation inst.world)).world := by
    have only := List.append_cancel_left added
    rcases ran : operation inst.world with ⟨error | found, after⟩
    · rw [ran] at only
      cases only
    · rw [ran] at only
      obtain rfl : found = app := (List.cons.inj only).1
      exact opens inst.world found after ran
  have first {ε : Type} {operation : Act δ ε (UnlockedApp × String)}
      (opens : Opens Prod.fst operation) : Opens id (Functor.map Prod.fst operation) := by
    intro world value after ran
    obtain ⟨pair, reached, done, wrapped⟩ := Op.bind_ok_cases ran
    obtain ⟨returned, rfl⟩ := Prod.mk.inj wrapped
    obtain rfl := Except.ok.inj returned
    exact opens world pair _ done
  cases opens : call.opens with
  | true =>
    cases call with
    | createVault password kdf config =>
      exact opened (first (opens_createVault password kdf config)) added
    | importRecovery file password kdf config =>
      exact opened (first (opens_importRecovery file password kdf config)) added
    | unlock password code => exact opened (opens_unlock password code) added
    | _ => cases opens
  | false =>
    obtain ⟨session, operation, rfl⟩ := Call.on_of_opens opens
    have same := congrArg List.length added
    rw [step_on, performWith_length, List.length_append] at same
    simp at same

/-- On an expired session a call other than a clear is refused and changes nothing if and only if it
does not check a valid code; and over every run of calls the expiry of a session never moves later,
and never exceeds the time the session was opened plus 120 s. -/
theorem expired_session_is_inert :
    (∀ (call : SessionCall) (state : SessionState δ κ), call.isClear = false →
      SessionCall.Expired state → (call.Inert state ↔ ¬ call.ChecksValidCode state)) ∧
    (∀ (inst : Instance δ κ) (calls : List Call) (session : Nat) (app : UnlockedApp),
      inst.sessions[session]? = some app →
        ∃ later, (run Instance.step inst calls).sessions[session]? = some later ∧
          later.sessionExpiry ≤ app.sessionExpiry) ∧
    (∀ (inst : Instance δ κ) (call : Call) (app : UnlockedApp) (calls : List Call),
      (inst.step call).sessions = inst.sessions ++ [app] →
        ∃ opened : δ, (Platform.now opened).2 = (inst.step call).world.device ∧
          ∃ later, (run Instance.step (inst.step call) calls).sessions[inst.sessions.length]? =
              some later ∧
            later.sessionExpiry.toNat ≤ (Platform.now opened).1.toNat + 120) := by
  refine ⟨fun call state gated expired => SessionCall.inert_iff gated expired,
    fun inst calls session app present => inst.run_expiry calls present, ?_⟩
  intro inst call app calls added
  obtain ⟨opened, last, lasts⟩ := Instance.step_opened added
  have present : (inst.step call).sessions[inst.sessions.length]? = some app := by
    rw [added, List.getElem?_append_right (Nat.le_refl _), Nat.sub_self]
    rfl
  obtain ⟨later, found, early⟩ := (inst.step call).run_expiry calls present
  refine ⟨opened, last, later, found, ?_⟩
  have bound := UInt64.le_iff_toNat_le.mp early
  have seconds : sessionSecs.toNat = 120 := rfl
  rw [lasts, saturatingAdd_toNat, seconds] at bound
  omega

end Opening

namespace Reference

/-- An instance in which a vault was just created. -/
def opened : Instance Device (TextClipboard textDigest) :=
  letI := crates
  run Instance.step (.start world clipboard) [.createVault "pw" kdfParams .default]

/-- The session of the created vault. -/
def session : UnlockedApp := opened.sessions.headD ⟨kMaster, [], [], 0⟩

/-- The session of the created vault at the end of its time. -/
def expired : SessionState Device (TextClipboard textDigest) :=
  (({ opened.world with device := { opened.world.device with clock := 1120 } }, session),
    opened.clipboard)

/-- The code of the step at which the session expires. -/
def lateCode : String :=
  letI := crates
  (ofUtf8 (TotpConfig.default.codeAt session.totpSeed
    (currentStep 1120 TotpConfig.default.period))).getD ""

/-- The session is the one the creation opened. -/
theorem opened_sessions : opened.sessions = [session] := by decide +kernel

end Reference

/-- An expired session still checks a code, and a valid one advances the replay cache. -/
theorem expired_session_advances_replay_cache :
    letI := Reference.crates
    SessionCall.Expired Reference.expired ∧
      ¬ (SessionCall.verifyTotpCode Reference.lateCode).Inert Reference.expired := by
  have advanced :
      letI := Reference.crates
      ((SessionCall.verifyTotpCode Reference.lateCode).perform
        Reference.expired).2.1.1.cachedStep ≠ Reference.expired.1.1.cachedStep := by
    decide +kernel
  refine ⟨by decide +kernel, fun inert => advanced ?_⟩
  exact @SessionCall.Inert.cache _ _ _ _ Reference.crates _ _ inert

/-- On the expired example session a listing is refused and changes nothing, and the session does
not outlast the time it was opened at plus 120 s. -/
theorem expired_session_is_inert_reference :
    letI := Reference.crates
    SessionCall.listEntries.Inert Reference.expired ∧
      (∃ later, (run Instance.step Reference.opened [.listEntries 0]).sessions[0]? = some later ∧
        later.sessionExpiry ≤ Reference.session.sessionExpiry) ∧
      ∃ opened : Reference.Device, (Platform.now opened).2 = Reference.opened.world.device ∧
        ∃ later, Reference.opened.sessions[0]? = some later ∧
          later.sessionExpiry.toNat ≤ (Platform.now opened).1.toNat + 120 := by
  let _ := Reference.crates
  obtain ⟨inert, never, bounded⟩ := expired_session_is_inert (δ := Reference.Device)
    (κ := TextClipboard Reference.textDigest)
  have first : Reference.opened.sessions[0]? = some Reference.session := by
    rw [Reference.opened_sessions]
    rfl
  have opening : Reference.opened = (Instance.start Reference.world Reference.clipboard).step
      (.createVault "pw" Reference.kdfParams .default) := by
    rw [Reference.opened, run_cons, run_nil]
  have added := Reference.opened_sessions
  rw [opening] at added
  refine ⟨?_, never Reference.opened [.listEntries 0] 0 _ first, ?_⟩
  · refine (inert .listEntries Reference.expired rfl (by decide +kernel)).mpr ?_
    rintro ⟨code, same, _⟩
    cases same
  · rw [opening]
    exact bounded (.start Reference.world Reference.clipboard) _ Reference.session [] added

end Passman
