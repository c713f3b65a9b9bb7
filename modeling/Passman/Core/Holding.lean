import Passman.Core.Effects
import Passman.Core.Persistence

/-!
# What a live session holds

A session holds the key that a master password derives under the header of the stored vault, and
the seed that the vault's seed blob was enrolled for. Both hold from its opening on, across every
operation of the session and across every step that leaves the file alone.
-/
namespace Passman

open Bytewise Fallible

section Holding

variable {δ κ : Type} [Platform δ] [Clipboard κ] [Crates]

/-- The states that are reached with one live session: it was opened by a creation, a restoration or
an unlock, and then used. -/
inductive Held (κ : Type) [Clipboard κ] : World δ → UnlockedApp → Prop
  /-- A vault was created. -/
  | created {password : String} {kdf : KdfParams} {config : TotpConfig} {before after : World δ}
    {app : UnlockedApp} {uri : String}
    (ran : createVault password kdf config before = (.ok (app, uri), after)) : Held κ after app
  /-- A vault was restored. -/
  | restored {file : Bytes} {password : String} {kdf : KdfParams} {config : TotpConfig}
    {before after : World δ} {app : UnlockedApp} {uri : String}
    (ran : importRecovery file password kdf config before = (.ok (app, uri), after)) :
    Held κ after app
  /-- Something happened that left the file, a restart for example. -/
  | elapsed {world after : World δ} {app : UnlockedApp} (held : Held κ world app)
    (file : after.file = world.file) : Held κ after app
  /-- The vault was unlocked again, and the new session replaces the earlier one. -/
  | unlocked {password code : String} {world after : World δ} {earlier app : UnlockedApp}
    (held : Held κ world earlier) (ran : unlock password code world = (.ok app, after)) :
    Held κ after app
  /-- An attempt to unlock failed. -/
  | attempted {password code : String} {world after : World δ} {app : UnlockedApp}
    {error : UnlockError} (held : Held κ world app)
    (ran : unlock password code world = (.error error, after)) : Held κ after app
  /-- The session was used. -/
  | performed {call : SessionCall} {world : World δ} {app : UnlockedApp} {clipboard : κ}
    {after : SessionState δ κ} {outcome : Except CoreError SessionReply} (held : Held κ world app)
    (ran : call.perform ((world, app), clipboard) = (outcome, after)) : Held κ after.1.1 after.1.2

/-- One vault has the wrap blobs and the derivation header of the other. -/
structure Vault.SameFactors (vault changed : Vault) : Prop where
  /-- The blob of the hardware key is the same. -/
  kHsm : changed.kHsmWrapBlob = vault.kHsmWrapBlob
  /-- The blob of the seed is the same. -/
  seed : changed.totpSeedWrapBlob = vault.totpSeedWrapBlob
  /-- The salt is the same. -/
  salt : changed.salt = vault.salt
  /-- The parameters are the same. -/
  kdfParams : changed.kdfParams = vault.kdfParams

/-- Whether a session holds the key and the seed of a vault. -/
structure Holds (δ : Type) [Platform δ] (vault : Vault) (app : UnlockedApp) : Prop where
  /-- Some password is the master password behind the session's key. -/
  key : ∃ password, MasterPassword δ password vault app.kMaster
  /-- The session's seed is that of the vault. -/
  seed : SeedOf δ vault app.totpSeed

/-- A session holds the vault with the same factors under the same key and seed. -/
theorem Holds.move {vault changed : Vault} {app later : UnlockedApp} (holds : Holds δ vault app)
    (same : vault.SameFactors changed) (key : later.kMaster = app.kMaster)
    (seed : later.totpSeed = app.totpSeed) : Holds δ changed later := by
  obtain ⟨password, kHsm, blob, kPw, stored, enrolled, hashes, derived⟩ := holds.key
  obtain ⟨seedBlob, seedStored, seedEnrolled⟩ := holds.seed
  refine ⟨⟨password, kHsm, blob, kPw, ?_, enrolled, ?_, ?_⟩, seedBlob, ?_, ?_⟩
  · rw [same.kHsm, stored]
  · rw [same.salt, same.kdfParams, hashes]
  · rw [key, same.salt, derived]
  · rw [same.seed, seedStored]
  · rw [seed]
    exact seedEnrolled

/-- A session opened on a vault that was founded and filled holds it. -/
theorem Founded.holds {password : String} {kdf : KdfParams} {kHsm seed : Key}
    {kHsmBlob seedBlob : WrappedBlob} {kMaster : MasterKey} {created vault : Vault}
    {app : UnlockedApp}
    (founded : Founded δ password kdf kHsm seed kHsmBlob seedBlob kMaster created)
    (header : Vault.SameHeader created vault) (key : app.kMaster = kMaster)
    (kept : app.totpSeed = seed.val) : Holds δ vault app := by
  obtain ⟨salt, _, kPw, _, _, _, hashed, derived, made⟩ := founded.sealedUnder
  obtain ⟨_, _, _, _, keyStored, seedStored, _, _, rfl⟩ := Vault.create_ok_iff.mp made
  have hashes := (argon2idWithinMemory_eq_ok.mp hashed).2.2
  refine ⟨⟨password, kHsm, kHsmBlob, kPw, ?_, founded.keyEnrolled, ?_, ?_⟩, seedBlob, ?_, ?_⟩
  · rw [header]
    exact keyStored
  · rw [header]
    exact hashes
  · rw [key, header]
    exact derived
  · rw [header]
    exact seedStored
  · rw [kept]
    exact founded.seedEnrolled

/-- A change of the stored vault by a call that keeps the master password keeps the factors and the
lengths. -/
theorem SessionCall.makes_factors {call : SessionCall} {before after : World δ × UnlockedApp}
    {vault changed : Vault} (made : call.makes before after vault changed)
    (kept : call.rekeys = false) (clamped : vault.Clamped) :
    vault.SameFactors changed ∧ changed.Clamped := by
  cases call with
  | addEntry label policy record =>
    have puts : Vault.Puts _ _ vault changed := made
    obtain ⟨_, _, _, _, _, _, _, _, rfl⟩ := puts.stores
    exact ⟨⟨rfl, rfl, rfl, rfl⟩, clamped.put puts⟩
  | updateEntry id label policy record =>
    have puts : Vault.Puts _ _ vault changed := made
    obtain ⟨_, _, _, _, _, _, _, _, rfl⟩ := puts.stores
    exact ⟨⟨rfl, rfl, rfl, rfl⟩, clamped.put puts⟩
  | removeEntry id =>
    have drops : Vault.Drops _ _ vault changed := made
    obtain ⟨_, _, _, _, _, _, rfl⟩ := drops.stores
    exact ⟨⟨rfl, rfl, rfl, rfl⟩, clamped.drop drops⟩
  | exportRecovery password code preset =>
    have relabels : vault.Relabels changed := made
    obtain ⟨_, _, rfl⟩ := relabels
    exact ⟨⟨rfl, rfl, rfl, rfl⟩, clamped⟩
  | changeMasterPassword old new kdf => cases kept
  | _ => cases made

omit [Clipboard κ] in
/-- What an attempt presents is what the blobs of the vault it read were enrolled for. -/
theorem presentFactors_secrets (store : PersistentStore δ) {code : String}
    {world reached : World δ} {presented : Presented} {kHsm seed : Bytes}
    {kHsmBlob seedBlob : WrappedBlob} (keyEnrolled : Enrolled δ .vaultKey kHsm kHsmBlob)
    (seedEnrolled : Enrolled δ .totpSeed seed seedBlob)
    (keyStored : presented.vault.kHsmWrapBlob.val = kHsmBlob.toBytes)
    (seedStored : presented.vault.totpSeedWrapBlob.val = seedBlob.toBytes)
    (ran : presentFactors code world = (.ok presented, reached)) :
    presented.kHsm = kHsm ∧ presented.seed = seed := by
  obtain ⟨⟨vault, state, now⟩, passed, _, ran⟩ := Op.bind_ok_cases ran
  obtain ⟨first, asked, gotKey, ran⟩ := Op.bind_ok_cases ran
  obtain ⟨second, shown, gotSeed, ran⟩ := Op.bind_ok_cases ran
  rw [Op.total_bind_run] at ran
  obtain ⟨returned, _⟩ := Prod.mk.inj ran
  obtain rfl := Except.ok.inj returned
  obtain ⟨_, keyRun⟩ := unwrapSlot_run store keyEnrolled passed
  obtain ⟨_, seedRun⟩ := unwrapSlot_run store seedEnrolled asked
  rw [keyStored] at gotKey
  rw [seedStored] at gotSeed
  obtain ⟨key, _⟩ := Prod.mk.inj (keyRun.symm.trans gotKey)
  obtain ⟨found, _⟩ := Prod.mk.inj (seedRun.symm.trans gotSeed)
  exact ⟨(Except.ok.inj key).symm, (Except.ok.inj found).symm⟩

omit [Clipboard κ] in
/-- A session that was opened by an unlock keeps the presented seed. -/
theorem unlock_seed {password code : String} {world after : World δ} {app : UnlockedApp}
    (ran : unlock password code world = (.ok app, after)) :
    ∃ presented reached, presentFactors code world = (.ok presented, reached) ∧
      app.totpSeed = presented.seed := by
  obtain ⟨presented, reached, presents, ran⟩ := Op.bind_ok_cases ran
  refine ⟨presented, reached, presents, ?_⟩
  obtain ⟨vault, state, now, kHsm, seed, valid⟩ := presented
  cases valid with
  | false =>
    obtain ⟨clash, _⟩ := rejectCredentials_cases ran
    cases clash
  | true =>
    change (Op.mapError _ (deriveMasterFromBytes _ _ _ _) >>= _) reached = _ at ran
    obtain ⟨kMaster, settled, _, ran⟩ := Op.bind_ok_cases ran
    cases probe : vault.verifyProbe kMaster with
    | error error =>
      rw [probe] at ran
      obtain ⟨clash, _⟩ := rejectCredentials_cases ran
      cases clash
    | ok _ =>
      rw [probe] at ran
      obtain ⟨index, opened, _, ran⟩ := Op.bind_ok_cases ran
      obtain ⟨_, middle, _, ran⟩ := Op.bind_ok_cases ran
      rw [buildUnlocked, clockNow, ask_bind_run] at ran
      obtain ⟨returned, _⟩ := Prod.mk.inj ran
      rw [← Except.ok.inj returned]

omit [Clipboard κ] in
/-- A session opened by an unlock holds the vault that was read, if the session before it did. -/
theorem unlock_holds (store : PersistentStore δ) {password code : String} {world after : World δ}
    {earlier app : UnlockedApp}
    (holds : ∀ vault, world.Stores vault → Holds δ vault earlier)
    (ran : unlock password code world = (.ok app, after)) :
    ∃ vault, world.Stores vault ∧ Holds δ vault app := by
  obtain ⟨presented, reached, presents, seed⟩ := unlock_seed ran
  have stored := (presentFactors_cases presents).gate.1
  obtain ⟨⟨_, kHsm, blob, kPw, keyStored, keyEnrolled, _⟩, seedBlob, seedStored, seedEnrolled⟩ :=
    holds presented.vault stored
  obtain ⟨key, unwrapped⟩ := presentFactors_secrets store keyEnrolled seedEnrolled keyStored
    seedStored presents
  refine ⟨presented.vault, stored, ⟨password, ?_⟩, seedBlob, seedStored, ?_⟩
  · cases unlock_cases ran with
    | @opened again _ _ _ _ _ presented' _ derived _ _ _ =>
      obtain ⟨same, rfl⟩ := Prod.mk.inj (presents.symm.trans presented')
      obtain rfl := Except.ok.inj same
      rw [key] at derived
      exact derive_masterPassword keyStored keyEnrolled (Prod.ext derived rfl)
  · rw [seed, unwrapped]
    exact seedEnrolled

omit [Clipboard κ] in
/-- A session that changed the master password holds the rebuilt vault. -/
theorem Rekeyed.holds (store : PersistentStore δ) {old new : String} {kdf : KdfParams}
    {world : World δ} {app : UnlockedApp} {after : World δ × UnlockedApp} {vault rebuilt : Vault}
    {kHsm : Bytes} {salt : Block 32}
    (rekeyed : Rekeyed old new kdf world app after vault rebuilt kHsm salt)
    (holds : Holds δ vault app) (file : after.1.file = some rebuilt.toBytes) {found : Vault}
    (stored : after.1.Stores found) : Holds δ found after.2 := by
  obtain ⟨⟨_, hardware, blob, _, keyStored, keyEnrolled, _⟩, seedBlob, seedStored, seedEnrolled⟩ :=
    holds
  obtain ⟨_, _, _, created, items, made, _, puts⟩ := rekeyed.rebuilds
  obtain ⟨rfl, _⟩ := stored.of_written file ((Vault.Clamped.create made).putAll puts)
  have header := puts.header
  obtain ⟨_, _, _, _, keyKept, seedKept, _, _, rfl⟩ := Vault.create_ok_iff.mp made
  obtain ⟨before, _, unwrapping⟩ := rekeyed.unwrapped
  obtain ⟨_, ran⟩ := hsmUnwrap_run store keyEnrolled before
  rw [keyStored] at unwrapping
  obtain ⟨same, _⟩ := Prod.mk.inj (ran.symm.trans (Op.mapError_ok.mp unwrapping))
  obtain rfl := Except.ok.inj same
  obtain ⟨start, last, derivation⟩ := rekeyed.derived
  have kept : found.kHsmWrapBlob.val = blob.toBytes := by
    rw [header]
    exact keyKept.trans keyStored
  have derived : deriveMasterFromBytes new found.salt found.kdfParams hardware.val start =
      (.ok after.2.kMaster, last) := by
    rw [header]
    exact derivation
  refine ⟨⟨new, derive_masterPassword kept keyEnrolled derived⟩, seedBlob, ?_, ?_⟩
  · rw [header]
    exact seedKept.trans seedStored
  · rw [rekeyed.seed]
    exact seedEnrolled

/-- A live session holds the stored vault. -/
theorem Held.holds (store : PersistentStore δ) {world : World δ} {app : UnlockedApp}
    (held : Held κ world app) : ∀ vault, world.Stores vault → Holds δ vault app := by
  have relabelled {before after : World δ} {session : UnlockedApp}
      (holds : ∀ vault, before.Stores vault → Holds δ vault session)
      (rewrites : before.Rewrites Vault.Relabels after) (vault : Vault)
      (stored : after.Stores vault) : Holds δ vault session := by
    rcases rewrites with same | ⟨found, changed, held, relabels, file⟩
    · obtain ⟨bytes, kept, rest⟩ := stored
      exact holds vault ⟨bytes, same ▸ kept, rest⟩
    · obtain ⟨rfl, _⟩ := stored.of_written file (held.clamped.relabel relabels)
      obtain ⟨_, _, rfl⟩ := relabels
      exact (holds found held).move ⟨rfl, rfl, rfl, rfl⟩ rfl rfl
  induction held with
  | created ran =>
    intro vault stored
    obtain ⟨_, _, _, _, _, _, founded, installed, _⟩ := createVault_founded ran
    obtain ⟨_, _, _, _, _, _, _, _, made⟩ := founded.sealedUnder
    obtain ⟨rfl, _⟩ := stored.of_written installed.file (.create made)
    exact founded.holds rfl installed.sessionKey installed.sessionSeed
  | restored ran =>
    intro vault stored
    obtain ⟨_, _, _, _, _, _, _, _, _, founded, _, puts, installed, _⟩ := importRecovery_founded ran
    obtain ⟨_, _, _, _, _, _, _, _, made⟩ := founded.sealedUnder
    obtain ⟨rfl, _⟩ := stored.of_written installed.file ((Vault.Clamped.create made).putAll puts)
    exact founded.holds puts.header installed.sessionKey installed.sessionSeed
  | elapsed held file ih =>
    intro vault stored
    obtain ⟨bytes, kept, rest⟩ := stored
    exact ih vault ⟨bytes, file ▸ kept, rest⟩
  | @unlocked password code world after earlier app held ran ih =>
    have current : ∀ vault, world.Stores vault → Holds δ vault app := by
      intro vault stored
      obtain ⟨found, held, holds⟩ := unlock_holds store ih ran
      rwa [stored.unique held]
    exact relabelled current (unlock_rewrites ran)
  | attempted held ran ih => exact relabelled ih (unlock_rewrites ran)
  | @performed call world app clipboard after outcome held ran ih =>
    intro vault stored
    rcases SessionCall.perform_effect ran with same | ⟨found, changed, effect⟩
    · obtain ⟨bytes, kept, rest⟩ := stored
      have holds := ih vault ⟨bytes, same.file ▸ kept, rest⟩
      exact holds.move ⟨rfl, rfl, rfl, rfl⟩ same.key same.seed
    · have holds := ih found effect.stored
      cases kind : call.rekeys with
      | false =>
        obtain ⟨same, clamped⟩ := SessionCall.makes_factors effect.made kind effect.stored.clamped
        obtain ⟨rfl, _⟩ := stored.of_written effect.file clamped
        exact holds.move same (effect.key kind) effect.seed
      | true =>
        cases call with
        | changeMasterPassword old new kdf =>
          obtain ⟨kHsm, salt, rekeyed⟩ := effect.made
          exact rekeyed.holds store holds effect.file stored
        | _ => cases kind

end Holding

end Passman
