import Passman.Core.Expiry

/-!
# Sessions after a secret was shown

A copy shortens its session to 30 s from the time of the copy. Showing an entry does not:
the session keeps its expiry, so it outlasts the 30 s unless it would end by then anyway.
-/
namespace Passman

open Bytewise Fallible Words Transition

section Disclosure

variable {δ κ : Type}

/-- The session of a number with the world and the clipboard of the instance. -/
def Instance.state (inst : Instance δ κ) (session : Nat) : Option (SessionState δ κ) :=
  inst.sessions[session]?.map fun app => ((inst.world, app), inst.clipboard)

variable [Platform δ] [Crates]

/-- The stored vault holds an entry that the session can decrypt. -/
def World.Holds (world : World δ) (app : UnlockedApp) (id : EntryId) : Prop :=
  ∃ bytes vault record, world.file = some bytes ∧ Vault.fromBytes bytes = .ok vault ∧
    vault.decryptEntry app.kMaster id = .ok record

/-- A session that shows an entry is unlocked and can decrypt the entry. -/
theorem withRevealed_ok {α : Type} {id : EntryId} {view : EntryRecord → α} {world : World δ}
    {app : UnlockedApp} {value : α}
    (shown : (withRevealed id view (world, app)).1 = .ok value) :
    (Platform.now world.device).1 < app.sessionExpiry ∧ world.Holds app id := by
  by_cases expired : app.sessionExpiry ≤ (Platform.now world.device).1
  · rw [withRevealed, gated_then gated_ensureUnlocked _ world app expired] at shown
    cases shown
  · have live := UInt64.not_le.mp expired
    refine ⟨live, ?_⟩
    rcases ran : withRevealed id view (world, app) with ⟨outcome, after⟩
    rw [ran] at shown
    obtain rfl : outcome = .ok value := shown
    rw [withRevealed, ensureUnlocked_live _ live] at ran
    obtain ⟨vault, reached, loaded, rest⟩ := Op.bind_ok_cases ran
    rcases load : loadVault { world with device := (Platform.now world.device).2 } with
      ⟨found, settled⟩
    rw [Op.onFirst_run, load] at loaded
    obtain ⟨rfl, rfl⟩ := Prod.mk.inj loaded
    obtain ⟨_, parsed⟩ := loadVault_cases load
    obtain ⟨bytes, stored, _, accepted⟩ := parsed vault rfl
    rw [Op.get_bind_run] at rest
    obtain ⟨record, _, decrypted, _⟩ := Op.bind_ok_cases rest
    obtain ⟨opened, _⟩ := Prod.mk.inj (Op.mapError_ok.mp decrypted)
    exact ⟨bytes, vault, record, stored, accepted, opened⟩

variable [Clipboard κ]

/-- When the call shows a secret, the time it did: a reveal at its only reading of the clock, a copy
at the reading it shortens the session from. -/
def SessionCall.disclosedAt (call : SessionCall) (state : SessionState δ κ) : Option Timestamp :=
  match call with
  | .withRevealed id =>
    match (Passman.withRevealed id (fun record => record) state.1).1 with
    | .ok _ => some (Platform.now state.1.1.device).1
    | .error _ => none
  | .copyToClipboard id field =>
    match writeSecret id field state with
    | (.ok _, written) => some (Platform.now written.1.1.device).1
    | (.error _, _) => none
  | _ => none

/-- The call shows an entry only while at most 30 s of its session remain, and checks a code only
while its session has not expired. -/
def Instance.Prompt (inst : Instance δ κ) (call : Call) : Prop :=
  match call with
  | .withRevealed session id =>
    ∀ app, inst.sessions[session]? = some app → inst.world.Holds app id →
      app.sessionExpiry ≤ saturatingAdd (Platform.now inst.world.device).1 postCopySecs
  | .verifyTotpCode session _ =>
    ∀ app, inst.sessions[session]? = some app →
      (Platform.now inst.world.device).1 < app.sessionExpiry
  | _ => True

/-- A prompt call that shows a secret leaves its session at most 30 s. -/
theorem SessionCall.perform_disclosed {call : SessionCall} {inst : Instance δ κ} {session : Nat}
    {app : UnlockedApp} {time : Timestamp} (present : inst.sessions[session]? = some app)
    (prompt : inst.Prompt (call.on session))
    (disclosed : call.disclosedAt ((inst.world, app), inst.clipboard) = some time) :
    (call.perform ((inst.world, app), inst.clipboard)).2.1.2.sessionExpiry ≤
      saturatingAdd time postCopySecs := by
  cases call with
  | withRevealed id =>
    have kept := (SessionCall.withRevealed id).perform_expiry ((inst.world, app), inst.clipboard)
    rcases shown : (Passman.withRevealed id (fun record => record) (inst.world, app)).1
      with error | record
    · simp only [disclosedAt, shown] at disclosed
      cases disclosed
    · simp only [disclosedAt, shown] at disclosed
      obtain rfl := Option.some.inj disclosed
      exact UInt64.le_trans kept (prompt app present (withRevealed_ok shown).2)
  | copyToClipboard id field =>
    rw [perform, Op.map_state, copyToClipboard_run]
    rcases ran : writeSecret id field ((inst.world, app), inst.clipboard)
      with ⟨error | cookie, written⟩
    · simp only [disclosedAt, ran] at disclosed
      cases disclosed
    · simp only [disclosedAt, ran] at disclosed
      obtain rfl := Option.some.inj disclosed
      exact Words.min_le_right _ _
  | _ => cases disclosed

/-- In every run of prompt calls, once a call on a session showed a secret at a time, every
operation of the session other than a clear reports a locked session 30 s later. -/
theorem disclosed_session_is_locked (inst : Instance δ κ) (session : Nat)
    (first last : SessionCall) (between : List Call) (start final : SessionState δ κ)
    (time : Timestamp) (opened : inst.state session = some start)
    (disclosed : first.disclosedAt start = some time)
    (prompt : Along Instance.step Instance.Prompt inst
      (first.on session :: (between ++ [last.on session])))
    (reached : (run Instance.step inst (first.on session :: between)).state session = some final)
    (gated : last.isClear = false)
    (late : time.toNat + 30 ≤ (Platform.now final.1.1.device).1.toNat) :
    (last.perform final).1 = .error .locked := by
  obtain ⟨app, present, rfl⟩ := Option.map_eq_some_iff.mp opened
  obtain ⟨later, found, rfl⟩ := Option.map_eq_some_iff.mp reached
  obtain ⟨promptFirst, rest⟩ := prompt
  have shortened := SessionCall.perform_disclosed present promptFirst disclosed
  -- The session right after the disclosure, then whatever the calls in between leave of it.
  have inside : session < inst.sessions.length := (List.getElem?_eq_some_iff.mp present).1
  have after : (inst.step (first.on session)).sessions[session]? =
      some (first.perform ((inst.world, app), inst.clipboard)).2.1.2 := by
    rw [step_on, Instance.performWith, present]
    exact List.getElem?_set_self inside
  obtain ⟨settled, same, kept⟩ := Instance.run_expiry _ between after
  have settles : settled = later := Option.some.inj (same.symm.trans found)
  rw [settles] at kept
  have bound := UInt64.le_iff_toNat_le.mp (UInt64.le_trans kept shortened)
  have seconds : postCopySecs.toNat = 30 := rfl
  rw [saturatingAdd_toNat, seconds] at bound
  have expired : SessionCall.Expired ((((run Instance.step inst
      (first.on session :: between)).world, later), (run Instance.step inst
        (first.on session :: between)).clipboard) : SessionState δ κ) := by
    rw [SessionCall.Expired, UInt64.le_iff_toNat_le]
    exact Nat.le_trans bound (Nat.le_trans (Nat.min_le_left _ _) late)
  have promptLast := (along_append.mp rest).2.1
  have other (code : String) : last ≠ .verifyTotpCode code := by
    rintro rfl
    exact UInt64.not_le.mpr (promptLast later found) expired
  exact congrArg Prod.fst (SessionCall.perform_expired gated other expired)

end Disclosure

namespace Reference

/-- An instance with one stored entry, on a clock that moves 10 s at each reading. -/
def stored : Instance Device (TextClipboard textDigest) :=
  letI := crates
  letI := ticking 10
  run Instance.step (.start world clipboard) [.createVault "pw" kdfParams .default,
    .addEntry 0 "label" ⟨none, none, none, none⟩ ⟨"name", "secret", "", ""⟩]

/-- The identifier of the stored entry. -/
def storedId : EntryId :=
  (stored.sessions.flatMap fun app => app.index.map IndexEntry.id).headD entryId

/-- The instance after a first call and two listings on its session. -/
def afterListings (first : SessionCall) : Instance Device (TextClipboard textDigest) :=
  letI := crates
  letI := ticking 10
  run Instance.step stored [first.on 0, .listEntries 0, .listEntries 0]

/-- The session of an instance, with what it acts on. -/
def sessionOf (inst : Instance Device (TextClipboard textDigest)) :
    SessionState Device (TextClipboard textDigest) :=
  ((inst.world, inst.sessions.headD ⟨kMaster, [], [], 0⟩), inst.clipboard)

end Reference

/-- A session that showed an entry still lists its entries 30 s later. -/
theorem revealed_session_is_not_shortened :
    letI := Reference.crates
    letI := Reference.ticking 10
    let first := SessionCall.withRevealed Reference.storedId
    let final := Reference.sessionOf (Reference.afterListings first)
    (first.disclosedAt (Reference.sessionOf Reference.stored)).any
        (fun time => time.toNat + 30 ≤ (Platform.now final.1.1.device).1.toNat) = true ∧
      (SessionCall.listEntries.perform final).1 ≠ .error .locked := by
  decide +kernel

/-- A session that copied a password is locked 30 s later. -/
theorem disclosed_session_is_locked_copied :
    letI := Reference.crates
    letI := Reference.ticking 10
    let first := SessionCall.copyToClipboard Reference.storedId .password
    (SessionCall.listEntries.perform (Reference.sessionOf (Reference.afterListings first))).1 =
      .error .locked := by
  let _ := Reference.crates
  let _ := Reference.ticking 10
  let first := SessionCall.copyToClipboard Reference.storedId .password
  have opened : Reference.stored.sessions[0]? =
      some (Reference.stored.sessions.headD ⟨Reference.kMaster, [], [], 0⟩) := by decide +kernel
  have listed : (Reference.afterListings first).sessions[0]? =
      some ((Reference.afterListings first).sessions.headD ⟨Reference.kMaster, [], [], 0⟩) := by
    decide +kernel
  refine disclosed_session_is_locked Reference.stored 0 first .listEntries
    [.listEntries 0, .listEntries 0] (Reference.sessionOf Reference.stored)
    (Reference.sessionOf (Reference.afterListings first)) 1040 ?_ ?_ ?_ ?_ rfl ?_
  · rw [Instance.state, opened]
    rfl
  · decide +kernel
  · exact ⟨trivial, trivial, trivial, trivial, trivial⟩
  · change Instance.state (Reference.afterListings first) 0 = _
    rw [Instance.state, listed]
    rfl
  · decide +kernel

end Passman
