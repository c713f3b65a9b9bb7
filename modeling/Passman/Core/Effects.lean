import Passman.Core.Accounting
import Passman.Core.Capacity

/-!
# What every call leaves in the file

A call of a session leaves the file as it was, or stores one vault made from the vault that was
stored before it; an attempt to unlock at most relabels the stored vault. Only a change of the
master password gives the session another key, and nothing gives it another seed.
-/
namespace Passman

open Bytewise Fallible

section Untouched

variable {δ κ ε α β : Type}

/-- The file and everything in the session but its expiry are the same. -/
structure Untouched (before after : World δ × UnlockedApp) : Prop where
  /-- The file is the same. -/
  file : after.1.file = before.1.file
  /-- The key is the same. -/
  key : after.2.kMaster = before.2.kMaster
  /-- The seed is the same. -/
  seed : after.2.totpSeed = before.2.totpSeed
  /-- The rows are the same. -/
  index : after.2.index = before.2.index

/-- Nothing happened. -/
theorem Untouched.refl (state : World δ × UnlockedApp) : Untouched state state :=
  ⟨rfl, rfl, rfl, rfl⟩

/-- One step after the other. -/
theorem Untouched.trans {first second third : World δ × UnlockedApp}
    (early : Untouched first second) (late : Untouched second third) : Untouched first third :=
  ⟨late.file.trans early.file, late.key.trans early.key, late.seed.trans early.seed,
    late.index.trans early.index⟩

/-- Sequencing touches what its parts touch. -/
theorem untouched_then {first : SessionAct δ ε α} {next : α → SessionAct δ ε β}
    (head : Op.Keeps Untouched first) (tail : ∀ value, Op.Keeps Untouched (next value)) :
    Op.Keeps Untouched (first >>= next) :=
  Op.keeps_bind (fun _ _ _ early late => early.trans late) head tail

/-- What leaves the file of the world touches nothing. -/
theorem untouched_world {operation : Act δ ε α} (quiet : Op.Keeps SameFile operation) :
    Op.Keeps Untouched (Op.onFirst operation) := fun state => ⟨quiet state.1, rfl, rfl, rfl⟩

/-- A returned value touches nothing. -/
theorem untouched_pure (value : α) : Op.Keeps Untouched (pure value : SessionAct δ ε α) :=
  Untouched.refl

/-- Reading the state touches nothing. -/
theorem untouched_get : Op.Keeps Untouched (Op.get : SessionAct δ ε (World δ × UnlockedApp)) :=
  Untouched.refl

variable [Platform δ]

/-- The check of the expiry touches nothing. -/
theorem untouched_ensureUnlocked :
    Op.Keeps Untouched (ensureUnlocked : SessionAct δ CoreError Unit) := by
  rintro ⟨world, app⟩
  rw [ensureUnlocked_run]
  exact ⟨rfl, rfl, rfl, rfl⟩

/-- Asking whether the session expired touches nothing. -/
theorem untouched_isExpired (state : World δ × UnlockedApp) : Untouched state (isExpired state).2 :=
  ⟨rfl, rfl, rfl, rfl⟩

/-- Listing the entries touches nothing. -/
theorem untouched_listEntries :
    Op.Keeps Untouched (listEntries : SessionAct δ CoreError (List EntryHandle)) :=
  untouched_then untouched_ensureUnlocked fun _ => untouched_then untouched_get fun _ =>
    untouched_pure _

/-- Generating a password touches nothing. -/
theorem untouched_generatePassword (request : GenerationRequest) :
    Op.Keeps Untouched (generatePassword request : SessionAct δ CoreError String) :=
  untouched_then untouched_ensureUnlocked fun _ =>
    untouched_world (Op.keeps_mapError (keeps_askFallible sameFile_steps _))

/-- Estimating a master password touches nothing. -/
theorem untouched_estimateMasterStrength (estimate : KdfParams → α) :
    Op.Keeps Untouched (estimateMasterStrength estimate : SessionAct δ CoreError α) :=
  untouched_then untouched_ensureUnlocked fun _ =>
    untouched_then (untouched_world (keeps_loadVault sameFile_steps)) fun _ => untouched_pure _

variable [Crates]

/-- Showing an entry touches nothing. -/
theorem untouched_withRevealed (id : EntryId) (view : EntryRecord → α) :
    Op.Keeps Untouched (withRevealed id view : SessionAct δ CoreError α) := by
  refine untouched_then untouched_ensureUnlocked fun _ => ?_
  refine untouched_then (untouched_world (keeps_loadVault sameFile_steps)) fun vault => ?_
  refine untouched_then untouched_get fun state => ?_
  refine untouched_then ?_ fun record => untouched_pure _
  exact Op.keeps_mapError (Op.keeps_lift Untouched.refl _)

/-- Checking a code touches nothing. -/
theorem untouched_verifyTotpCode (code : String) (state : World δ × UnlockedApp) :
    Untouched state (verifyTotpCode code state).2 :=
  ⟨verifyTotp_file state.2.totpSeed code state.1, rfl, rfl, rfl⟩

variable [Clipboard κ]

/-- Copying a field at most shortens the session. -/
theorem untouched_copyToClipboard (id : EntryId) (field : RevealField) (state : SessionState δ κ) :
    Untouched state.1 (copyToClipboard id field state).2.1 := by
  have written : Op.Keeps (fun before after => Untouched before.1 after.1)
      (writeSecret id field : Op (SessionState δ κ) CoreError ClipboardCookie) := by
    refine Op.keeps_bind (fun _ _ _ early late => early.trans late)
      (Op.keeps_onFirst (untouched_withRevealed id _)) fun value => ?_
    exact Op.keeps_onSecond Untouched.refl _
  have first := written state
  rw [copyToClipboard_run]
  rcases ran : writeSecret id field state with ⟨error | cookie, reached⟩
  · rw [ran] at first
    exact first
  · rw [ran] at first
    exact first.trans ⟨rfl, rfl, rfl, rfl⟩

omit [Crates] in
/-- Clearing the clipboard touches nothing. -/
theorem untouched_clearClipboardWith (cookie : ClipboardCookie) (factOverwrite : Bool)
    (state : SessionState δ κ) :
    Untouched state.1 (clearClipboardWith (ε := ε) cookie factOverwrite state).2.1 := by
  refine ⟨?_, rfl, rfl, rfl⟩
  exact keeps_clearClipboardWith sameFile_steps cookie factOverwrite state

end Untouched

section Rewrites

variable {δ κ α : Type}

/-- The file is the same, or holds a vault made from the one it held before. -/
def World.Rewrites (makes : Vault → Vault → Prop) (before after : World δ) : Prop :=
  after.file = before.file ∨ ∃ vault changed, before.Stores vault ∧ makes vault changed ∧
    after.file = some changed.toBytes

/-- One vault is the other up to the lockout state and the metadata. -/
def Vault.Relabels (vault changed : Vault) : Prop :=
  ∃ state metadata, changed = (vault.withLockout state).setMetadata metadata

/-- Another lockout state or other metadata keep the lengths unclamped. -/
theorem Vault.Clamped.relabel {vault changed : Vault} (clamped : vault.Clamped)
    (relabels : vault.Relabels changed) : changed.Clamped := by
  obtain ⟨_, _, rfl⟩ := relabels
  exact clamped

variable [Crates]

/-- A file that was written from a vault with unclamped lengths stores that vault or none. -/
theorem World.Stores.of_written {world : World δ} {vault found : Vault}
    (file : world.file = some vault.toBytes) (clamped : vault.Clamped)
    (stored : world.Stores found) : found = vault ∧ vault.WellFormed := by
  obtain ⟨bytes, held, small, parsed⟩ := stored
  obtain rfl := Option.some.inj (held.symm.trans file)
  have limit : maxVaultBytes < 2 ^ 32 := by decide
  have formed : vault.WellFormed := clamped.wellFormed (Nat.lt_of_le_of_lt small limit)
  rw [Vault.fromBytes_toBytes formed] at parsed
  exact ⟨(Except.ok.inj parsed).symm, formed⟩

variable [Platform δ]

/-- An attempt to unlock stores nothing, or the stored vault with another lockout state. -/
theorem unlock_rewrites {password code : String} {world after : World δ}
    {outcome : Except UnlockError UnlockedApp}
    (ran : unlock password code world = (outcome, after)) :
    world.Rewrites Vault.Relabels after := by
  have relabelled {presented : Presented} {reached settled : World δ}
      (presents : presentFactors code world = (.ok presented, reached))
      (frame : Frame Effect.isPrompt reached settled) (state : LockoutState) {ended : World δ}
      (stored : Bool) (file : ended.file =
        if stored then some (presented.vault.withLockout state).toBytes else settled.file) :
      world.Rewrites Vault.Relabels ended := by
    have presentation := presentFactors_cases presents
    cases stored with
    | false => exact .inl (file.trans (frame.file.trans presentation.quiet.1.file))
    | true =>
      exact .inr ⟨presented.vault, _, presentation.gate.1, ⟨state, presented.vault.metadata, rfl⟩,
        file⟩
  cases unlock_cases ran with
  | unpresented presents => exact .inl (presentFactors_cases presents).quiet.1.file
  | counted presents frame _ _ => exact relabelled presents frame _ _ rfl
  | @underivable presented _ _ _ presents frame _ _ =>
    exact relabelled presents frame presented.state false rfl
  | @corrupt presented _ _ _ presents frame _ =>
    exact relabelled presents frame presented.state false rfl
  | opened presents frame _ _ _ reset =>
    obtain ⟨_, ⟨_, rfl⟩ | ⟨_, stored, _, rfl⟩⟩ := resetLockout_cases reset
    · exact relabelled presents frame .reset false rfl
    · exact relabelled presents frame .reset stored rfl

/-- An export stores nothing, or the stored vault with another export time. -/
theorem exportRecovery_rewrites {password code : String} {preset : RecoveryPreset} {world : World δ}
    {app : UnlockedApp} {outcome : Except CoreError Bytes} {after : World δ × UnlockedApp}
    (ran : exportRecovery password code preset (world, app) = (outcome, after)) :
    world.Rewrites Vault.Relabels after.1 := by
  obtain ⟨_, ⟨_, _, file⟩ | ⟨_, vault, _, _, _, _, exported⟩⟩ := exportRecovery_cases ran
  · exact .inl file
  · obtain ⟨exportedAt, file⟩ := exported.recorded
    exact .inr ⟨vault, _, exported.stored, ⟨vault.rateLimit, _, rfl⟩, file⟩

/-- Whether the call changes the master password. -/
def SessionCall.rekeys : SessionCall → Bool
  | changeMasterPassword _ _ _ => true
  | _ => false

/-- What a call makes of the stored vault when it stores one. -/
def SessionCall.makes (before after : World δ × UnlockedApp) (vault changed : Vault) :
    SessionCall → Prop
  | addEntry label policy record =>
    Vault.Puts before.2.kMaster ⟨before.1.drawnId, label, policy, record⟩ vault changed
  | updateEntry id label policy record =>
    Vault.Puts before.2.kMaster ⟨id, label, policy, record⟩ vault changed
  | removeEntry id => Vault.Drops before.2.kMaster id vault changed
  | changeMasterPassword old new kdf =>
    ∃ kHsm salt, Rekeyed old new kdf before.1 before.2 after vault changed kHsm salt
  | exportRecovery _ _ _ => vault.Relabels changed
  | _ => False

/-- What a call leaves when it stores a vault. -/
structure SessionCall.Stored (call : SessionCall) (before after : World δ × UnlockedApp)
    (vault changed : Vault) : Prop where
  /-- The stored vault was read. -/
  stored : before.1.Stores vault
  /-- The call made a vault of it. -/
  made : call.makes before after vault changed
  /-- That vault was stored. -/
  file : after.1.file = some changed.toBytes
  /-- The session keeps its seed. -/
  seed : after.2.totpSeed = before.2.totpSeed
  /-- The session keeps its key unless the master password was changed. -/
  key : call.rekeys = false → after.2.kMaster = before.2.kMaster
  /-- The session keeps its rows, or adopts those of the new vault. -/
  rows : after.2.index = before.2.index ∨ changed.openIndex after.2.kMaster = .ok after.2.index

omit [Platform δ] in
/-- A mutation touches nothing, or stores what it makes of the stored vault. -/
theorem Mutation.touches {makes : α → Vault → Vault → Prop} {world : World δ} {app : UnlockedApp}
    {outcome : Except CoreError α} {after : World δ × UnlockedApp}
    (ended : Mutation makes world app outcome after) :
    Untouched (world, app) after ∨ ∃ vault changed, world.Stores vault ∧
      (∃ value, makes value vault changed) ∧ after.1.file = some changed.toBytes ∧
      (after.2.index = app.index ∨ changed.openIndex after.2.kMaster = .ok after.2.index) := by
  cases ended with
  | kept file => exact .inl ⟨file, rfl, rfl, rfl⟩
  | unadopted stored made file _ => exact .inr ⟨_, _, stored, ⟨_, made⟩, file, .inl rfl⟩
  | adopted stored made file opens => exact .inr ⟨_, _, stored, ⟨_, made⟩, file, .inr opens⟩

variable [Clipboard κ]

/-- A call touches nothing, or stores what it makes of the stored vault. -/
theorem SessionCall.perform_effect {call : SessionCall} {state after : SessionState δ κ}
    {outcome : Except CoreError SessionReply} (ran : call.perform state = (outcome, after)) :
    Untouched state.1 after.1 ∨ ∃ vault changed, call.Stored state.1 after.1 vault changed := by
  have inner {β : Type} {operation : SessionAct δ CoreError β} {wrap : β → SessionReply}
      (ran : Functor.map wrap (Op.onFirst operation) state = (outcome, after)) :
      operation state.1 = ((operation state.1).1, after.1) := by
    have ended := Op.map_state (Op.onFirst operation) wrap state
    rw [ran] at ended
    exact Prod.ext rfl (congrArg Prod.fst ended).symm
  have quiet {β : Type} {operation : SessionAct δ CoreError β} {wrap : β → SessionReply}
      (keeps : Op.Keeps Untouched operation)
      (ran : Functor.map wrap (Op.onFirst operation) state = (outcome, after)) :
      Untouched state.1 after.1 := keeps.ran (inner ran)
  obtain ⟨⟨world, app⟩, clipboard⟩ := state
  have mutates {β : Type} {makes : β → Vault → Vault → Prop} {result : Except CoreError β}
      (ended : Mutation makes world app result after.1)
      (describes : ∀ value vault changed, makes value vault changed →
        call.makes (world, app) after.1 vault changed) :
      Untouched (world, app) after.1 ∨
        ∃ vault changed, call.Stored (world, app) after.1 vault changed := by
    obtain ⟨key, seed, _⟩ := ended.session
    rcases ended.touches with same | ⟨vault, changed, stored, ⟨value, made⟩, file, rows⟩
    · exact .inl same
    · exact .inr ⟨vault, changed, stored, describes value vault changed made, file, seed,
        fun _ => key, rows⟩
  cases call with
  | listEntries => exact .inl (quiet untouched_listEntries ran)
  | generatePassword request => exact .inl (quiet (untouched_generatePassword request) ran)
  | withRevealed id => exact .inl (quiet (untouched_withRevealed id _) ran)
  | estimateMasterStrength => exact .inl (quiet (untouched_estimateMasterStrength _) ran)
  | verifyTotpCode code =>
    exact .inl (quiet (fun state => untouched_verifyTotpCode code state) ran)
  | copyToClipboard id field =>
    have ended := Op.map_state (Passman.copyToClipboard id field) SessionReply.copied
      ((world, app), clipboard)
    have reached : after = _ := (congrArg Prod.snd ran).symm.trans ended
    rw [reached]
    exact .inl (untouched_copyToClipboard id field _)
  | clearClipboard cookie factOverwrite =>
    have ended := Op.map_state (clearClipboardWith (ε := CoreError) cookie factOverwrite)
      SessionReply.cleared ((world, app), clipboard)
    have reached : after = _ := (congrArg Prod.snd ran).symm.trans ended
    rw [reached]
    exact .inl (untouched_clearClipboardWith cookie factOverwrite _)
  | addEntry label policy record =>
    refine mutates (addEntry_cases (inner ran)) fun id vault changed made => ?_
    obtain ⟨rfl, puts⟩ := made
    exact puts
  | updateEntry id label policy record =>
    exact mutates (updateEntry_cases (inner ran)) fun _ _ _ made => made
  | removeEntry id => exact mutates (removeEntry_cases (inner ran)) fun _ _ _ made => made
  | exportRecovery password code preset =>
    obtain ⟨same, _⟩ := exportRecovery_cases (inner ran)
    rcases exportRecovery_rewrites (inner ran) with file | ⟨vault, changed, stored, made, file⟩
    · exact .inl ⟨file, by rw [same], by rw [same], by rw [same]⟩
    · exact .inr ⟨vault, changed, stored, made, file, by rw [same], fun _ => by rw [same],
        .inl (by rw [same])⟩
  | changeMasterPassword old new kdf =>
    rcases changeMasterPassword_cases (inner ran) with
      ⟨_, _, file, same⟩ | ⟨vault, rebuilt, kHsm, salt, rekeyed, opens⟩
    · exact .inl ⟨file, by rw [same], by rw [same], by rw [same]⟩
    · exact .inr ⟨vault, rebuilt, rekeyed.stored, ⟨kHsm, salt, rekeyed⟩, rekeyed.file, rekeyed.seed,
        (fun clash => by cases clash), opens.imp And.right And.right⟩

end Rewrites

end Passman
