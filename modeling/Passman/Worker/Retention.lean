import Mathlib.Tactic.Ring
import Passman.Core.Enrolment
import Passman.Core.Overlap
import Passman.Core.Rekeying
import Passman.Core.Restart
import Passman.Worker.Responses

/-!
# Entries survive the worker

A worker over an existing vault file rewrites it when an attempt to unlock counts a failure or
clears the counter, when an entry is added or removed, and when an export is recorded. Each of
these carries the other entries and the founding header over. A creation in the locked loop is the
exception: it founds a new vault on top of the file.
-/
namespace Passman

open Bytewise Fallible Transition

section Held

variable {δ : Type}

/-- One vault is the other up to what a session rewrites: the lockout state, the metadata, the
sealed index and the envelopes. -/
def Vault.Continues (first vault : Vault) : Prop :=
  vault = { first with
    rlCounter := vault.rlCounter
    rlLastFailure := vault.rlLastFailure
    metadata := vault.metadata
    sealedIndexNonce := vault.sealedIndexNonce
    sealedIndexCt := vault.sealedIndexCt
    envelopes := vault.envelopes }

/-- A vault continues itself. -/
theorem Vault.Continues.refl (vault : Vault) : vault.Continues vault := rfl

/-- Another lockout state or other metadata continue a vault. -/
theorem Vault.Continues.relabel {first vault changed : Vault} (continues : first.Continues vault)
    (relabels : vault.Relabels changed) : first.Continues changed := by
  obtain ⟨state, metadata, rfl⟩ := relabels
  rw [Continues] at continues
  rw [continues]
  rfl

/-- Another sealed index and other envelopes continue a vault. -/
theorem Vault.Continues.reseal {first vault changed : Vault} (continues : first.Continues vault)
    (same : vault.SameHeader changed) : first.Continues changed := by
  rw [Continues] at continues ⊢
  rw [SameHeader] at same
  rw [same, continues]

variable [Crates]

/-- The vault has the item under the key: its index opens to a row with the item's identifier,
label and policy, and the entry decrypts to the item's record. -/
def Vault.Has (vault : Vault) (kMaster : MasterKey) (item : Item) : Prop :=
  vault.contents kMaster item.id = some ⟨item.label, item.policy, .ok item.record⟩

/-- A vault that opens to a row of the item and decrypts the item's record has the item. -/
theorem Vault.has_of_row {vault : Vault} {kMaster : MasterKey} {item : Item} {rows : Index}
    (opens : vault.openIndex kMaster = .ok rows) (row : Index.get rows item.id = some item.row)
    (decrypts : vault.decryptEntry kMaster item.id = .ok item.record) : vault.Has kMaster item := by
  rw [Has, contents, opens]
  simp only [row, decrypts, Option.map_some, Item.row]

/-- A parsed vault that has an item is coherent. -/
theorem Vault.Has.coherent {vault : Vault} {kMaster : MasterKey} {item : Item} {bytes : Bytes}
    (has : vault.Has kMaster item) (parsed : Vault.fromBytes bytes = .ok vault) :
    ∃ rows, vault.Coherent kMaster rows := by
  cases opens : vault.openIndex kMaster with
  | ok rows =>
    obtain ⟨decrypts, agree⟩ := (vault.openIndex_ok_iff kMaster rows).mp opens
    exact ⟨rows, wellFormed_of_fromBytes parsed, decrypts, agree⟩
  | error error =>
    rw [Has, contents, opens] at has
    cases has

/-- The file holds a vault that continues the first one and has the item. -/
def World.Has (first : Vault) (kMaster : MasterKey) (item : Item) (world : World δ) : Prop :=
  ∃ bytes vault, world.file = some bytes ∧ Vault.fromBytes bytes = .ok vault ∧
    first.Continues vault ∧ vault.Has kMaster item

namespace World.Has

variable {first : Vault} {kMaster : MasterKey} {item : Item} {world after : World δ}

/-- Only the file matters. -/
theorem of_file (has : world.Has first kMaster item) (same : after.file = world.file) :
    after.Has first kMaster item := by
  obtain ⟨bytes, vault, held, rest⟩ := has
  exact ⟨bytes, vault, same.trans held, rest⟩

/-- What was read is a coherent vault that continues the first one and has the item. -/
theorem read (has : world.Has first kMaster item) {vault : Vault} (stored : world.Stores vault) :
    first.Continues vault ∧ vault.Has kMaster item ∧ ∃ rows, vault.Coherent kMaster rows := by
  obtain ⟨bytes, found, held, parsed, continues, present⟩ := has
  obtain ⟨others, same, _, reparsed⟩ := stored
  obtain rfl := Option.some.inj (held.symm.trans same)
  obtain rfl := Except.ok.inj (parsed.symm.trans reparsed)
  exact ⟨continues, present, present.coherent parsed⟩

/-- A coherent vault that was written continues to have the item. -/
theorem written {changed : Vault} {rows : Index} (coherent : changed.Coherent kMaster rows)
    (continues : first.Continues changed) (present : changed.Has kMaster item)
    (file : after.file = some changed.toBytes) : after.Has first kMaster item :=
  ⟨_, changed, file, Vault.fromBytes_toBytes coherent.formed, continues, present⟩

/-- A rewriting of the lockout state or the metadata keeps the item. -/
theorem rewrites (has : world.Has first kMaster item)
    (rewrites : world.Rewrites Vault.Relabels after) : after.Has first kMaster item := by
  rcases rewrites with same | ⟨vault, changed, stored, relabels, file⟩
  · exact has.of_file same
  obtain ⟨continues, present, rows, coherent⟩ := has.read stored
  have continued := continues.relabel relabels
  obtain ⟨state, metadata, rfl⟩ := relabels
  obtain ⟨moved, map⟩ := coherent.of_same ((vault.withLockout state).setMetadata metadata)
    rfl rfl rfl rfl
  refine written moved continued ?_ file
  rw [Vault.Has, map]
  exact present

/-- A change of another entry keeps the item, if it fits. -/
theorem makes (aead : AeadLaws) (laws : PostcardLaws) (has : world.Has first kMaster item)
    {change : Change} {vault changed : Vault} (stored : world.Stores vault)
    (makes : change.Makes kMaster vault changed) (apart : change.id ≠ item.id)
    (fits : change.Fits kMaster vault) (file : after.file = some changed.toBytes) :
    after.Has first kMaster item := by
  obtain ⟨continues, present, rows, coherent⟩ := has.read stored
  obtain ⟨moved, coherent, map⟩ := makes.coherent aead laws coherent fits
  refine written coherent (continues.reseal makes.header) ?_ file
  rw [Vault.Has, map, Change.apply_of_ne apart]
  exact present

end World.Has

end Held

section Keys

variable {δ : Type} [Platform δ]

/-- An unwrapped secret is one the key store returned. -/
theorem hsmUnwrap_returns {slot : HsmSlot} {blob secret : Bytes} {before after : World δ}
    (ran : hsmUnwrap slot blob before = (.ok secret, after)) :
    ∃ (handle : UnwrapHandle) (device : δ),
      (Platform.completeUnwrap handle device).1 = .ok secret := by
  obtain ⟨parsed, _, _, ran⟩ := Op.bind_ok_cases ran
  obtain ⟨_, _, _, ran⟩ := Op.bind_ok_cases ran
  obtain ⟨handle, begun, _, ran⟩ := Op.bind_ok_cases ran
  exact ⟨handle, begun.device, (Prod.mk.inj ran).1⟩

variable [Crates]

/-- A hardware key that was presented is one the key store returned. -/
theorem presentFactors_returns {code : String} {before after : World δ} {presented : Presented}
    (ran : presentFactors code before = (.ok presented, after)) :
    ∃ (handle : UnwrapHandle) (device : δ),
      (Platform.completeUnwrap handle device).1 = .ok presented.kHsm := by
  obtain ⟨⟨vault, state, now⟩, _, _, ran⟩ := Op.bind_ok_cases ran
  obtain ⟨kHsm, _, gotKey, ran⟩ := Op.bind_ok_cases ran
  obtain ⟨seed, _, _, ran⟩ := Op.bind_ok_cases ran
  obtain ⟨valid, _, _, ran⟩ := Op.bind_ok_cases ran
  obtain ⟨returned, _⟩ := Prod.mk.inj ran
  obtain rfl := Except.ok.inj returned
  exact hsmUnwrap_returns (Op.mapError_ok.mp gotKey)

omit [Platform δ] in
/-- The probe accepts the same keys. -/
theorem Vault.Continues.verifyProbe {first vault : Vault} (continues : first.Continues vault)
    (key : MasterKey) : vault.verifyProbe key = first.verifyProbe key := by
  rw [Continues] at continues
  rw [continues]
  rfl

omit [Platform δ] in
/-- A password derives the same keys. -/
theorem Vault.Continues.derivedFrom {first vault : Vault} (continues : first.Continues vault)
    {password : String} {kHsm : Bytes} {key : MasterKey}
    (derived : vault.DerivedFrom password kHsm key) : first.DerivedFrom password kHsm key := by
  rw [Continues] at continues
  rw [continues] at derived
  exact derived

/-- The password opens the vault under this key only: no secret that the key store returns makes
another key of it that the probe accepts. -/
def Vault.OpensOnlyUnder (δ : Type) [Platform δ] (vault : Vault) (password : String)
    (kMaster : MasterKey) : Prop :=
  ∀ (handle : UnwrapHandle) (device : δ) (kHsm : Bytes) (key : MasterKey),
    (Platform.completeUnwrap handle device).1 = .ok kHsm → vault.DerivedFrom password kHsm key →
      vault.verifyProbe key = .ok () → key = kMaster

/-- A session on a vault that continues the first one has its key. -/
theorem unlock_key {first : Vault} {kMaster : MasterKey} {item : Item} {password code : String}
    {world after : World δ} {app : UnlockedApp} (has : world.Has first kMaster item)
    (sole : first.OpensOnlyUnder δ password kMaster)
    (ran : unlock password code world = (.ok app, after)) : app.kMaster = kMaster := by
  cases unlock_cases ran with
  | @opened presented reached _ _ _ _ presents _ derived probe _ _ =>
    have continues := (has.read (presentFactors_cases presents).gate.1).1
    obtain ⟨handle, device, returned⟩ := presentFactors_returns presents
    rcases derives : deriveMasterFromBytes password presented.vault.salt presented.vault.kdfParams
      presented.kHsm reached with ⟨outcome, settled⟩
    rw [derives] at derived
    obtain ⟨_, kPw, hashed, key⟩ := ((deriveMasterFromBytes_cases derives).2 _).mp derived
    have combined : presented.vault.DerivedFrom password presented.kHsm app.kMaster :=
      ⟨kPw, (argon2idWithinMemory_eq_ok.mp hashed).2.2, key⟩
    refine sole handle device _ _ returned (continues.derivedFrom combined) ?_
    rw [← continues.verifyProbe]
    exact probe

end Keys

section Sessions

variable {δ κ : Type} [Platform δ] [Crates]

/-- The file has the item, and the session has its key. -/
structure KeepsItem (first : Vault) (kMaster : MasterKey) (item : Item)
    (state : World δ × UnlockedApp) : Prop where
  /-- The file has the item. -/
  file : state.1.Has first kMaster item
  /-- The session has the key. -/
  key : state.2.kMaster = kMaster

variable {first : Vault} {kMaster : MasterKey} {item : Item}

omit [Platform δ] in
/-- What touches nothing keeps the item. -/
theorem KeepsItem.untouched {before after : World δ × UnlockedApp}
    (keeps : KeepsItem first kMaster item before) (untouched : Untouched before after) :
    KeepsItem first kMaster item after :=
  ⟨keeps.file.of_file untouched.file, untouched.key.trans keeps.key⟩

omit [Platform δ] in
/-- A mutation that at most changes another entry keeps the item, if the change fits. -/
theorem KeepsItem.mutation (aead : AeadLaws) (laws : PostcardLaws) {α : Type}
    {makes : α → Vault → Vault → Prop} {world : World δ} {app : UnlockedApp}
    {outcome : Except CoreError α} {after : World δ × UnlockedApp} {change : Change}
    (keeps : KeepsItem first kMaster item (world, app))
    (ended : Mutation makes world app outcome after)
    (described : ∀ value vault changed, makes value vault changed →
      change.Makes app.kMaster vault changed) (apart : change.id ≠ item.id)
    (fits : ∀ vault, world.Stores vault → change.Fits kMaster vault) :
    KeepsItem first kMaster item after := by
  obtain ⟨has, rfl⟩ := keeps
  refine ⟨?_, ended.session.1⟩
  rcases ended.touches with same | ⟨vault, changed, stored, ⟨value, made⟩, file, _⟩
  · exact has.of_file same.file
  · exact has.makes aead laws stored (described value vault changed made) apart (fits vault stored)
      file

/-- The change an addition makes. -/
def World.addition (world : World δ) (label : String) (policy : EntryPolicy)
    (record : EntryRecord) : Change := .put ⟨world.drawnId, label, policy, record⟩

/-- An addition under another identifier keeps the item, if it fits. -/
theorem KeepsItem.addEntry (aead : AeadLaws) (laws : PostcardLaws) {label : String}
    {policy : EntryPolicy} {record : EntryRecord} {state : World δ × UnlockedApp}
    (keeps : KeepsItem first kMaster item state) (apart : state.1.drawnId ≠ item.id)
    (fits : ∀ vault, state.1.Stores vault →
      (state.1.addition label policy record).Fits kMaster vault) :
    KeepsItem first kMaster item (Passman.addEntry label policy record state).2 := by
  have described (id : EntryId) (vault changed : Vault)
      (made : id = state.1.drawnId ∧
        Vault.Puts state.2.kMaster ⟨id, label, policy, record⟩ vault changed) :
      (state.1.addition label policy record).Makes state.2.kMaster vault changed := by
    obtain ⟨rfl, puts⟩ := made
    exact puts
  exact keeps.mutation aead laws (addEntry_cases rfl) described apart fits

/-- A removal of another entry keeps the item, if it fits. -/
theorem KeepsItem.removeEntry (aead : AeadLaws) (laws : PostcardLaws) {id : EntryId}
    {state : World δ × UnlockedApp} (keeps : KeepsItem first kMaster item state)
    (apart : id ≠ item.id)
    (fits : ∀ vault, state.1.Stores vault → (Change.drop id).Fits kMaster vault) :
    KeepsItem first kMaster item (Passman.removeEntry id state).2 := by
  have described (_ : Unit) (vault changed : Vault)
      (drops : Vault.Drops state.2.kMaster id vault changed) :
      (Change.drop id).Makes state.2.kMaster vault changed := drops
  exact keeps.mutation aead laws (removeEntry_cases rfl) described apart fits

/-- An export keeps the item. -/
theorem KeepsItem.exportRecovery {password code : String} {preset : RecoveryPreset}
    {state : World δ × UnlockedApp} (keeps : KeepsItem first kMaster item state) :
    KeepsItem first kMaster item (Passman.exportRecovery password code preset state).2 := by
  obtain ⟨world, app⟩ := state
  rcases ran : Passman.exportRecovery password code preset (world, app) with ⟨outcome, after⟩
  obtain ⟨same, _⟩ := exportRecovery_cases ran
  refine ⟨keeps.file.rewrites (exportRecovery_rewrites ran), ?_⟩
  rw [same]
  exact keeps.key

omit [Platform δ] in
/-- What an operation keeps, it keeps before steps that touch nothing. -/
theorem KeepsItem.andThen {α β : Type} {operation : SessionAct δ CoreError α}
    {next : α → SessionAct δ CoreError β} {state : World δ × UnlockedApp}
    (keeps : KeepsItem first kMaster item (operation state).2)
    (quiet : ∀ value, Op.Keeps Untouched (next value)) :
    KeepsItem first kMaster item ((operation >>= next) state).2 := by
  rcases ran : (operation >>= next) state with ⟨outcome, after⟩
  rcases Op.bind_cases ran with ⟨value, reached, done, rest⟩ | ⟨error, failed, _⟩
  · rw [done] at keeps
    exact keeps.untouched ((quiet value).ran rest)
  · rw [failed] at keeps
    exact keeps

/-- The request, taken in the unlocked loop, neither removes the entry nor draws its identifier for
an addition, and what it seals stays below the capacity of the length fields. -/
def World.Spares (kMaster : MasterKey) (id : EntryId) (world : World δ) : Request → Prop
  | .add label username password url notes => world.drawnId ≠ id ∧
      ∀ vault, world.Stores vault →
        (world.addition label .default ⟨username, password, url, notes⟩).Fits kMaster vault
  | .remove other => other ≠ id ∧
      ∀ vault, world.Stores vault → (Change.drop other).Fits kMaster vault
  | _ => True

variable [Clipboard κ]

/-- The instance and the session of a live worker. -/
def Live.state (live : Live δ κ) : World δ × UnlockedApp := (live.world, live.app)

omit [Crates] in
/-- A clear touches nothing. -/
theorem Live.clear_untouched (factOverwrite : Bool) (cookie : ClipboardCookie) (live : Live δ κ) :
    Untouched live.state (live.clear factOverwrite cookie).state := by
  obtain ⟨world, app, clipboard, liveCookie⟩ := live
  cases clipboard with
  | none => exact .refl _
  | some clipboard =>
    exact untouched_clearClipboardWith (ε := CoreError) cookie factOverwrite
      ((world, app), clipboard)

omit [Crates] in
/-- The wipe on the way out touches nothing. -/
theorem Live.wipe_untouched (factOverwrite : Bool) (live : Live δ κ) :
    Untouched live.state (live.wipeClipboardOnExit factOverwrite).state := by
  obtain ⟨world, app, clipboard, liveCookie⟩ := live
  cases liveCookie with
  | none => exact .refl _
  | some cookie => exact Live.clear_untouched factOverwrite cookie ⟨world, app, clipboard, _⟩

/-- A copy touches nothing. -/
theorem Live.copy_untouched (id : EntryId) (field : RevealField) (live : Live δ κ) :
    Untouched live.state (live.copy id field).2.state := by
  obtain ⟨world, app, clipboard, liveCookie⟩ := live
  cases clipboard with
  | none => exact .refl _
  | some clipboard => exact untouched_copyToClipboard id field ((world, app), clipboard)

/-- A request that spares the entry keeps the item. -/
theorem Live.handleUnlocked_keepsItem (aead : AeadLaws) (laws : PostcardLaws)
    (factOverwrite : Bool) (request : Request) (live : Live δ κ)
    (keeps : KeepsItem first kMaster item live.state)
    (spares : live.world.Spares kMaster item.id request) :
    KeepsItem first kMaster item (live.handleUnlocked factOverwrite request).2.state := by
  cases request with
  | create master kdf => exact keeps
  | unlock master code => exact keeps
  | lock => exact keeps
  | quit => exact keeps
  | refresh => exact keeps.untouched (untouched_listEntries live.state)
  | reveal id field => exact keeps.untouched (untouched_withRevealed id _ live.state)
  | copy id field => exact keeps.untouched (live.copy_untouched id field)
  | clearClipboard cookie => exact keeps.untouched (live.clear_untouched factOverwrite cookie)
  | generate length => exact keeps.untouched (untouched_generatePassword _ live.state)
  | verifyTotp code => exact keeps.untouched (untouched_verifyTotpCode (trim code) live.state)
  | add label username password url notes =>
    obtain ⟨apart, fits⟩ := spares
    exact (keeps.addEntry aead laws apart fits).andThen fun _ => untouched_listEntries
  | remove id =>
    obtain ⟨apart, fits⟩ := spares
    exact (keeps.removeEntry aead laws apart fits).andThen fun _ => untouched_listEntries
  | exportRecovery master code preset =>
    rw [handleUnlocked]
    rcases ran : live.perform (Passman.exportRecovery master (trim code) preset) with
      ⟨outcome, after⟩
    have exported : KeepsItem first kMaster item after.state := by
      obtain ⟨_, rfl⟩ := Prod.mk.inj ran
      exact keeps.exportRecovery
    cases outcome with
    | ok file => exact exported
    | error error => cases error <;> exact exported

/-- The wake-up does not endanger the entry: it is no creation in the locked loop that gets as far
as storing its vault, an attempt to unlock opens the vault under its own key only, and a request in
the unlocked loop spares the entry. -/
def Worker.Spares (first : Vault) (kMaster : MasterKey) (id : EntryId) (worker : Worker δ κ) :
    Event → Prop
  | .taken request =>
    match worker.phase, request with
    | .locked, .create master kdf =>
      ¬ (FoundingCall.createVault master kdf .default).Stores worker.world
    | .locked, .unlock master _ => first.OpensOnlyUnder δ master kMaster
    | .unlocked _ _, request => worker.world.Spares kMaster id request
    | _, _ => True
  | _ => True

omit [Clipboard κ] in
/-- A request that opens no session spares the entry if it does in the unlocked loop. -/
theorem Worker.spares_taken {worker : Worker δ κ} {id : EntryId} {request : Request}
    (opensNone : request.opensSession = false) (spares : worker.world.Spares kMaster id request) :
    worker.Spares first kMaster id (.taken request) := by
  cases phase : worker.phase with
  | unlocked app liveCookie =>
    simp only [Spares, phase]
    exact spares
  | locked =>
    cases request with
    | create master kdf => cases opensNone
    | unlock master code => cases opensNone
    | _ => simp only [Spares, phase]
  | stopped => simp only [Spares, phase]

/-- The file has the item, and an open session has its key. -/
def Worker.KeepsItem (first : Vault) (kMaster : MasterKey) (item : Item) (worker : Worker δ κ) :
    Prop :=
  worker.world.Has first kMaster item ∧
    ∀ app liveCookie, worker.phase = .unlocked app liveCookie → app.kMaster = kMaster

omit [Platform δ] [Clipboard κ] in
/-- Outside the unlocked loop only the file matters. -/
theorem Worker.keepsItem_outside {worker : Worker δ κ}
    (has : worker.world.Has first kMaster item) (outside : worker.phase.isUnlocked = false) :
    worker.KeepsItem first kMaster item := by
  refine ⟨has, fun app liveCookie unlocked => ?_⟩
  rw [unlocked] at outside
  cases outside

omit [Clipboard κ] in
/-- A creation that opens a session stored its vault. -/
theorem createVault_stores {master : String} {kdf : KdfParams} {world after : World δ}
    {opened : UnlockedApp × String}
    (ran : createVault master kdf .default world = (.ok opened, after)) :
    (FoundingCall.createVault master kdf .default).Stores world := by
  have parts := (FoundingCall.createVault master kdf .default).perform_parts (δ := δ)
  rw [← FoundingCall.perform, parts] at ran
  obtain ⟨founding, reached, prepared, ran⟩ := Op.bind_ok_cases ran
  obtain ⟨stored, written, storing, _⟩ := Op.bind_ok_cases ran
  exact ⟨stored, by rw [Op.bind_ok prepared, storing]⟩

omit [Clipboard κ] in
/-- A creation that does not store its vault leaves the file. -/
theorem createVault_unstored {master : String} {kdf : KdfParams} {world : World δ}
    (unstored : ¬ (FoundingCall.createVault master kdf .default).Stores world) :
    (createVault master kdf .default world).2.file = world.file := by
  rcases (FoundingCall.createVault master kdf .default).step_cases world with
    ⟨_, quiet⟩ | ⟨_, ⟨_, _, _, quiet⟩ | ⟨stores, _⟩⟩
  · exact quiet.1
  · exact quiet.1
  · exact absurd stores unstored

omit [Crates] [Clipboard κ] in
/-- Entering the unlocked loop lists the entries and touches nothing. -/
theorem Worker.enter_untouched (worker : Worker δ κ) (world : World δ) (app : UnlockedApp)
    (respond : List EntryHandle → Response) :
    ∃ entered, (worker.enter world app respond).2.phase = .unlocked entered none ∧
      Untouched (world, app) ((worker.enter world app respond).2.world, entered) := by
  refine ⟨_, rfl, ?_⟩
  exact untouched_listEntries (world, app)

omit [Clipboard κ] in
/-- The locked loop keeps the item. -/
theorem Worker.handleLocked_keepsItem (worker : Worker δ κ) (request : Request)
    (locked : worker.phase = .locked) (has : worker.world.Has first kMaster item)
    (spares : worker.Spares first kMaster item.id (.taken request)) :
    (worker.handleLocked request).2.KeepsItem first kMaster item := by
  have outside : worker.phase.isUnlocked = false := by
    rw [locked]
    rfl
  have same : worker.KeepsItem first kMaster item := keepsItem_outside has outside
  cases request with
  | create master kdf =>
    simp only [Spares, locked] at spares
    have file := createVault_unstored spares
    rw [handleLocked]
    rcases ran : createVault master kdf .default worker.world with ⟨outcome, world⟩
    rw [ran] at file
    rcases outcome with error | ⟨app, uri⟩
    · exact keepsItem_outside (has.of_file file) outside
    · exact absurd (createVault_stores ran) spares
  | unlock master code =>
    simp only [Spares, locked] at spares
    rw [handleLocked]
    rcases ran : Passman.unlock master (trim code) worker.world with ⟨outcome, world⟩
    have kept := has.rewrites (unlock_rewrites ran)
    rcases outcome with error | app
    · exact keepsItem_outside kept outside
    · obtain ⟨entered, phase, listed⟩ := worker.enter_untouched world app .unlocked
      have session : Passman.KeepsItem first kMaster item (world, app) :=
        ⟨kept, unlock_key has spares ran⟩
      have moved := session.untouched listed
      refine ⟨moved.file, fun other cookie unlocked => ?_⟩
      obtain ⟨rfl, _⟩ := Phase.unlocked.inj (phase.symm.trans unlocked)
      exact moved.key
  | quit => exact keepsItem_outside has rfl
  | _ => exact same

/-- Following any flow keeps the item. -/
theorem Worker.follow_keepsItem (worker : Worker δ κ) (flow : Flow) (responses : List Response)
    (live : Live δ κ) (keeps : Passman.KeepsItem first kMaster item live.state) :
    (worker.follow flow responses live).2.KeepsItem first kMaster item := by
  have wiped := keeps.untouched (live.wipe_untouched worker.factOverwrite)
  cases flow with
  | «continue» =>
    refine ⟨keeps.file, fun other cookie unlocked => ?_⟩
    obtain ⟨rfl, _⟩ := Phase.unlocked.inj unlocked
    exact keeps.key
  | lock => exact keepsItem_outside wiped.file rfl
  | quit => exact keepsItem_outside wiped.file rfl

/-- A wake-up that spares the entry keeps the item. -/
theorem Worker.next_keepsItem (aead : AeadLaws) (laws : PostcardLaws) (worker : Worker δ κ)
    (event : Event) (keeps : worker.KeepsItem first kMaster item)
    (spares : worker.Spares first kMaster item.id event) :
    (worker.next event).KeepsItem first kMaster item := by
  rw [next]
  cases phase : worker.phase with
  | stopped =>
    simp only [step, phase]
    exact keeps
  | locked =>
    simp only [step, phase]
    cases event with
    | taken request => exact worker.handleLocked_keepsItem request phase keeps.1 spares
    | timeout => exact keeps
    | disconnected => exact keepsItem_outside keeps.1 rfl
  | unlocked app liveCookie =>
    have session : Passman.KeepsItem first kMaster item (worker.live app liveCookie).state :=
      ⟨keeps.1, keeps.2 app liveCookie phase⟩
    cases event with
    | taken request =>
      rw [step_taken _ phase]
      simp only [Spares, phase] at spares
      exact worker.follow_keepsItem _ _ _
        (Live.handleUnlocked_keepsItem aead laws _ request _ session spares)
    | timeout =>
      rw [step_timeout _ phase]
      exact worker.follow_keepsItem _ _ _ (session.untouched (untouched_isExpired _))
    | disconnected =>
      rw [step_disconnected _ phase]
      exact worker.follow_keepsItem _ _ _ session

/-- In every run of a worker over an existing vault file whose wake-ups spare an entry, the file
continues the vault it held at the start and has the entry with its label, policy and record. -/
theorem entries_survive_worker (aead : AeadLaws) (laws : PostcardLaws) (world : World δ)
    (clipboard : Option κ) (factOverwrite : Bool) {bytes : Bytes} {vault : Vault}
    {kMaster : MasterKey} {item : Item} (stored : world.file = some bytes)
    (parsed : Vault.fromBytes bytes = .ok vault) (present : vault.Has kMaster item)
    (events : List Event)
    (spares : Along Worker.next (Worker.Spares vault kMaster item.id)
      (Worker.start world clipboard factOverwrite) events) :
    (run Worker.next (Worker.start world clipboard factOverwrite) events).world.Has vault kMaster
      item := by
  have start : (Worker.start world clipboard factOverwrite).KeepsItem vault kMaster item :=
    Worker.keepsItem_outside ⟨bytes, vault, stored, parsed, .refl vault, present⟩ rfl
  have kept (worker : Worker δ κ) (event : Event) (keeps : worker.KeepsItem vault kMaster item)
      (spared : worker.Spares vault kMaster item.id event) :
      (worker.next event).KeepsItem vault kMaster item :=
    worker.next_keepsItem aead laws event keeps spared
  exact (run_invariant kept start spares).1

end Sessions

namespace Reference

/-- The example device, restarted on a file with one entry. -/
def reopened : World Device := restarted filling.2.1.file

/-- Whether a vault has the entry, under a key that the password derives. -/
def hasMail (vault : Vault) : Bool :=
  letI := crates
  decide (vault.openIndex mailKey = .ok [mail.row]) &&
    decide (vault.decryptEntry mailKey mail.id = .ok mail.record) &&
    match Crates.argon2 (utf8 "pw") vault.salt.val vault.kdfParams with
    | .ok kPw => decide (mailKey = hkdfMaster vault.salt.val kPw.val masterInfo)
    | .error _ => false

/-- The file holds a vault with the entry. -/
theorem reopened_file : ∃ bytes vault, reopened.file = some bytes ∧
    Vault.fromBytes bytes = .ok vault ∧ hasMail vault = true := by
  have held : (reopened.file.any fun bytes => (Vault.fromBytes bytes).toOption.any hasMail) =
      true := by decide +kernel
  exact stored_of_test held

/-- A vault that passes the test has the entry. -/
theorem hasMail_has {vault : Vault} (good : hasMail vault = true) :
    @Vault.Has crates vault mailKey mail := by
  let _ := crates
  simp only [hasMail, Bool.and_eq_true, decide_eq_true_eq] at good
  exact Vault.has_of_row good.1.1 (by decide +kernel) good.1.2

/-- High parts do not show in the low bytes. -/
theorem leBytes_add (width value high : Nat) :
    leBytes width (value + 256 ^ width * high) = leBytes width value := by
  induction width generalizing value with
  | zero => rfl
  | succ width ih =>
    have regrouped : value + 256 ^ (width + 1) * high = value + 256 * (256 ^ width * high) := by
      rw [Nat.pow_succ, Nat.mul_comm (256 ^ width) 256, Nat.mul_assoc]
    have low : UInt8.ofNat (value + 256 * (256 ^ width * high)) = UInt8.ofNat value := by
      apply UInt8.toNat_inj.mp
      rw [UInt8.toNat_ofNat', UInt8.toNat_ofNat', Nat.add_mul_mod_self_left]
    rw [leBytes, leBytes, regrouped, low, Nat.add_mul_div_left _ _ (by decide), ih]

/-- The number of a concatenation. -/
theorem leNat_append (front back : Bytes) :
    leNat (front ++ back) = leNat front + 256 ^ front.length * leNat back := by
  induction front with
  | nil => simp [leNat]
  | cons byte rest ih =>
    rw [List.cons_append, leNat, leNat, ih, List.length_cons, Nat.pow_succ]
    ring

/-- The example derivation looks at the password only. -/
theorem digest_append (salt : Bytes) (kPw : Key) (kHsm info : Bytes) :
    digest salt (kPw.val ++ kHsm) info = digest salt kPw.val info := by
  apply Subtype.ext
  have grouped : leNat salt + 3 * leNat (kPw.val ++ kHsm) + 5 * leNat info =
      leNat salt + 3 * leNat kPw.val + 5 * leNat info + 256 ^ 32 * (3 * leNat kHsm) := by
    rw [leNat_append, kPw.property]
    ring
  change leBytes 32 (leNat salt + 3 * leNat (kPw.val ++ kHsm) + 5 * leNat info) =
    leBytes 32 (leNat salt + 3 * leNat kPw.val + 5 * leNat info)
  rw [grouped, leBytes_add]

/-- The password opens the example vault under its key only. -/
theorem hasMail_opensOnlyUnder {vault : Vault} (good : hasMail vault = true) :
    @Vault.OpensOnlyUnder crates Device _ vault "pw" mailKey := by
  let _ := crates
  rintro _ _ kHsm key _ ⟨kPw, hashed, rfl⟩ _
  simp only [hasMail, hashed, Bool.and_eq_true, decide_eq_true_eq] at good
  rw [good.2]
  exact digest_append _ _ _ _

/-- The vault is unlocked, an entry is added, and the session is locked. -/
def addition : List Event :=
  [.taken (.unlock "pw" (provisionedCode .default (founded .default).1)),
    .taken (.add "bank" "c" "d" "" ""), .taken .lock]

/-- The worker of the example after its first wake-up. -/
def unlockedAgain : Worker Device (TextClipboard textDigest) :=
  letI := crates
  run Worker.next (.start reopened (some clipboard) true) (addition.take 1)

end Reference

/-- A creation in the locked loop replaces a stored vault and its entry. -/
theorem creation_replaces_vault :
    letI := Reference.crates
    let start := Worker.start Reference.reopened (some Reference.clipboard) true
    ∃ bytes vault, Reference.reopened.file = some bytes ∧ Vault.fromBytes bytes = .ok vault ∧
      vault.Has Reference.mailKey Reference.mail ∧
      ¬ (run Worker.next start [.taken (.create "pw" Reference.kdfParams)]).world.Has vault
        Reference.mailKey Reference.mail := by
  let _ := Reference.crates
  intro start
  obtain ⟨bytes, vault, stored, parsed, good⟩ := Reference.reopened_file
  refine ⟨bytes, vault, stored, parsed, Reference.hasMail_has good, ?_⟩
  rintro ⟨written, replaced, file, reparsed, _, present⟩
  have gone : ((run Worker.next start [.taken (.create "pw" Reference.kdfParams)]).world.vault?.all
      fun replaced => (replaced.contents Reference.mailKey Reference.mail.id).isNone) = true := by
    decide +kernel
  generalize (run Worker.next start [.taken (.create "pw" Reference.kdfParams)]).world = world
    at file gone
  rw [World.vault?, file, Option.bind_some, reparsed] at gone
  rw [Vault.Has] at present
  change (replaced.contents _ _).isNone = true at gone
  rw [present] at gone
  cases gone

/-- The entry survives an attempt to unlock, an addition and a lock. -/
theorem entries_survive_worker_addition :
    letI := Reference.crates
    ∃ vault, vault.Has Reference.mailKey Reference.mail ∧
      (run Worker.next (Worker.start Reference.reopened (some Reference.clipboard) true)
        Reference.addition).world.Has vault Reference.mailKey Reference.mail := by
  let _ := Reference.crates
  obtain ⟨bytes, vault, stored, parsed, good⟩ := Reference.reopened_file
  have present := Reference.hasMail_has good
  refine ⟨vault, present, entries_survive_worker Reference.aeadLaws Reference.postcardLaws
    Reference.reopened (some Reference.clipboard) true stored parsed present Reference.addition ?_⟩
  have sole := Reference.hasMail_opensOnlyUnder good
  let bank : Item := ⟨Reference.unlockedAgain.world.drawnId, "bank", .default, ⟨"c", "d", "", ""⟩⟩
  have small : (Reference.unlockedAgain.world.vault?.all fun vault =>
      Reference.smallPut Reference.mailKey bank vault) = true := by decide +kernel
  refine ⟨sole, Worker.spares_taken rfl ⟨?_, ?_⟩, Worker.spares_taken rfl trivial, trivial⟩
  · change bank.id ≠ Reference.mail.id
    decide +kernel
  · intro found holds
    change Reference.unlockedAgain.world.Stores found at holds
    rw [holds.vault?] at small
    exact @Reference.smallPut_fits Reference.mailKey bank found small

end Passman
