import Passman.Core.Effects
import Passman.Core.Persistence
import Passman.Core.Replay
import Passman.Vault.Listing

/-!
# Unlocking after a restart

A vault that was created and filled is unlocked by a new instance on the same file with the same
key store. The new instance verifies codes under the default profile, whatever profile was
provisioned, so the attempt succeeds exactly when the default profile accepts the provisioned
code and the file can be read.
-/
namespace Passman

open Bytewise Fallible Words

section Additions

variable [Crates]

variable {δ : Type} [Platform δ]

/-- Successful additions to a session, one after another; every item carries the identifier it was
given. -/
inductive Additions : World δ × UnlockedApp → List Item → World δ × UnlockedApp → Prop
  /-- Nothing was added. -/
  | nil {state : World δ × UnlockedApp} : Additions state [] state
  /-- An item was added, then the others. -/
  | cons {state middle final : World δ × UnlockedApp} {item : Item} {items : List Item}
    (added : addEntry item.label item.policy item.record state = (.ok item.id, middle))
    (rest : Additions middle items final) : Additions state (item :: items) final

/-- The file holds the created vault with the items inserted, and the session lists it. -/
structure Filled (kMaster : MasterKey) (created : Vault) (items : List Item) (world : World δ)
    (app : UnlockedApp) (vault : Vault) : Prop where
  /-- The session keeps the key. -/
  key : app.kMaster = kMaster
  /-- The file is the vault's. -/
  file : world.file = some vault.toBytes
  /-- The vault is the created one with the items. -/
  puts : Vault.PutsAll kMaster items created vault
  /-- The session lists what the vault opens to. -/
  opens : vault.openIndex kMaster = .ok app.index
  /-- A readable vault opens to the rows of the items. -/
  rows : vault.WellFormed → vault.decryptIndex kMaster = .ok (rowsOf items)

namespace Filled

variable {kMaster : MasterKey} {created vault : Vault} {items : List Item} {world : World δ}
  {app : UnlockedApp}

omit [Platform δ] in
/-- A readable file holds the vault it was filled to. -/
theorem stores (filled : Filled kMaster created items world app vault) (clamped : created.Clamped)
    {found : Vault} (stored : world.Stores found) : found = vault ∧ vault.WellFormed :=
  stored.of_written filled.file (clamped.putAll filled.puts)

/-- An addition inserts one more item. -/
theorem step (aead : AeadLaws) (laws : PostcardLaws) (clamped : created.Clamped)
    (filled : Filled kMaster created items world app vault) {item : Item}
    {after : World δ × UnlockedApp}
    (added : addEntry item.label item.policy item.record (world, app) = (.ok item.id, after)) :
    ∃ changed, Filled kMaster created (items ++ [item]) after.1 after.2 changed := by
  obtain ⟨found, changed, stored, ⟨_, puts⟩, file, opens, session⟩ := (addEntry_cases added).ok
  obtain ⟨rfl, formed⟩ := filled.stores clamped stored
  rw [filled.key] at puts opens
  refine ⟨changed, ?_, file, filled.puts.snoc puts, opens, fun whole => ?_⟩
  · rw [session]
    exact filled.key
  · obtain ⟨index, before, later⟩ := puts.rows aead laws whole
    obtain rfl := Except.ok.inj (before.symm.trans (filled.rows formed))
    rw [rowsOf_snoc]
    exact later

/-- Additions insert their items. -/
theorem run (aead : AeadLaws) (laws : PostcardLaws) (clamped : created.Clamped)
    (filled : Filled kMaster created items world app vault) {more : List Item}
    {final : World δ × UnlockedApp} (additions : Additions (world, app) more final) :
    ∃ changed, Filled kMaster created (items ++ more) final.1 final.2 changed := by
  generalize same : (world, app) = state at additions
  induction additions generalizing items world app vault with
  | nil =>
    subst same
    exact ⟨vault, by rwa [List.append_nil]⟩
  | @cons state middle final item rest added additions ih =>
    subst same
    obtain ⟨changed, one⟩ := filled.step aead laws clamped added
    obtain ⟨last, all⟩ := ih one rfl
    exact ⟨last, by rwa [List.append_assoc] at all⟩

end Filled

end Additions

section Restarts

variable {δ : Type} [Platform δ]

/-- Without a window, the lockout gates let an attempt pass. -/
theorem checkLockout_run (store : PersistentStore δ) {state : LockoutState} {now : Timestamp}
    (free : state.remaining now = none) (world : World δ) :
    ∃ device, checkLockout state now world = (.ok (), { world with device }) := by
  refine ⟨(Platform.lockoutStatus world.device).2, ?_⟩
  rw [checkLockout, ask_bind_run]
  cases asked : (Platform.lockoutStatus world.device).1 with
  | error error => simp only [free, Op.pure_run]
  | ok status =>
    cases status with
    | available => simp only [free, Op.pure_run]
    | lockedOut retryAfter => exact absurd asked (store.available world.device retryAfter)

/-- Without recorded failures, the gates admit an attempt on a stored vault. -/
theorem passGates_run (store : PersistentStore δ) (reads : ReadsSucceed δ) {world : World δ}
    {vault : Vault} (permitted : world.backendRefused = false) (stored : world.Stores vault)
    (limits : vault.kdfParams.withinLimits = true) (clean : vault.rateLimit = .reset)
    (fresh : world.lockoutMem = .reset) :
    ∃ device now, passGates world = (.ok (vault, .reset, now), { world with device }) := by
  obtain ⟨loaded, loading⟩ := (loadVault_ok_iff reads world vault).mpr stored
  obtain ⟨⟨device, rfl⟩, _⟩ := loadVault_cases loading
  have header : readHeader world = (.ok vault, { world with device }) := by
    rw [readHeader, Op.bind_ok (Op.mapError_ok.mpr loading), limits]
    rfl
  have free (now : Timestamp) : LockoutState.reset.remaining now = none := rfl
  have merged : vault.rateLimit.merge world.lockoutMem = .reset := by
    rw [clean, fresh]
    rfl
  let timed : World δ := { world with
    device := (Platform.now device).2
    lockoutMem := .reset }
  have merging : (mergeLockout vault.rateLimit : Act δ UnlockError LockoutState)
      { world with device := (Platform.now device).2 } = (.ok .reset, timed) := by
    rw [mergeLockout, Op.total_run, merged]
  obtain ⟨last, checked⟩ := checkLockout_run store (free (Platform.now device).1) timed
  refine ⟨last, (Platform.now device).1, ?_⟩
  rw [passGates, Op.get_bind_run, if_neg (by rw [permitted]; decide), Op.bind_ok header, clockNow,
    ask_bind_run, Op.bind_ok merging, Op.bind_ok checked]
  change (Except.ok (vault, LockoutState.reset, (Platform.now device).1),
    ({ world with device := last, lockoutMem := .reset } : World δ)) = _
  rw [← fresh]

/-- Read the clock when the code of an attempt is checked. -/
def codeReading : Act δ UnlockError Timestamp := do
  let (vault, _, _) ← passGates
  let _ ← unwrapSlot .vaultKey vault.kHsmWrapBlob.val
  let _ ← unwrapSlot .totpSeed vault.totpSeedWrapBlob.val
  clockNow

/-- The clock reading at which the code of an attempt is checked. -/
def World.codeTime (world : World δ) : Timestamp := (codeReading world).1.toOption.getD 0

variable [Crates]

/-- The available memory that is measured after the factors of an attempt were presented. -/
def World.memoryReading (world : World δ) (code : String) : Option UInt64 :=
  match presentFactors code world with
  | (.ok _, reached) => (Platform.availableMemoryKib reached.device).1
  | (.error _, _) => none

/-- An instance that was just opened presents the factors of a stored vault, and accepts what the
default profile accepts. -/
theorem presentFactors_run (store : PersistentStore δ) (reads : ReadsSucceed δ) {world : World δ}
    {vault : Vault} (permitted : world.backendRefused = false) (stored : world.Stores vault)
    (limits : vault.kdfParams.withinLimits = true) (clean : vault.rateLimit = .reset)
    (fresh : world.lockoutMem = .reset) (unbuilt : world.verifier = none)
    (profile : world.totpConfig = .default) {kHsm seed : Bytes} {kHsmBlob seedBlob : WrappedBlob}
    (keyEnrolled : Enrolled δ .vaultKey kHsm kHsmBlob)
    (seedEnrolled : Enrolled δ .totpSeed seed seedBlob)
    (keyStored : vault.kHsmWrapBlob.val = kHsmBlob.toBytes)
    (seedStored : vault.totpSeedWrapBlob.val = seedBlob.toBytes) (code : String) :
    ∃ now valid reached,
      presentFactors code world = (.ok ⟨vault, .reset, now, kHsm, seed, valid⟩, reached) ∧
      (valid = true ↔
        ∃ next, (TotpVerifier.new .default).verify seed code world.codeTime = .ok next) := by
  obtain ⟨device, now, passed⟩ := passGates_run store reads permitted stored limits clean fresh
  obtain ⟨first, gotKey⟩ := unwrapSlot_run store keyEnrolled { world with device }
  obtain ⟨second, gotSeed⟩ := unwrapSlot_run store seedEnrolled
    { world with device := first, trace := .unwrapBegun .vaultKey :: world.trace }
  rw [← keyStored] at gotKey
  rw [← seedStored] at gotSeed
  have time : world.codeTime = (Platform.now second).1 := by
    rw [World.codeTime, codeReading, Op.bind_ok passed]
    change ((unwrapSlot .vaultKey vault.kHsmWrapBlob.val >>= fun _ => _) _).1.toOption.getD 0 = _
    rw [Op.bind_ok gotKey, Op.bind_ok gotSeed]
    rfl
  let prompted : World δ := { world with
    device := second
    trace := .unwrapBegun .totpSeed :: .unwrapBegun .vaultKey :: world.trace }
  refine ⟨now, (verifyTotp seed code prompted).1, (verifyTotp seed code prompted).2, ?_, ?_⟩
  · rw [presentFactors, Op.bind_ok passed]
    change (unwrapSlot .vaultKey vault.kHsmWrapBlob.val >>= fun _ => _) _ = _
    rw [Op.bind_ok gotKey, Op.bind_ok gotSeed, Op.total_bind_run]
    rfl
  · have built : prompted.verifier.getD (.new prompted.totpConfig) = .new .default := by
      change world.verifier.getD (.new world.totpConfig) = _
      rw [unbuilt, profile]
      rfl
    rw [verifyTotp_fst_iff, World.Accepts, built, time]

/-- With the factors presented, a key that passes the probe and opens the index, the outcome of an
unlock is decided by the code. -/
theorem unlock_iff {world reached : World δ} {password code : String} {vault : Vault}
    {now : Timestamp} {kHsm : Key} {seed : Bytes} {valid : Bool} {kMaster : MasterKey}
    {index : Index}
    (presents : presentFactors code world =
      (.ok ⟨vault, .reset, now, kHsm.val, seed, valid⟩, reached))
    (derives : masterKey password vault.salt vault.kdfParams kHsm (world.memoryReading code) =
      .ok kMaster)
    (probe : vault.verifyProbe kMaster = .ok ()) (opens : vault.openIndex kMaster = .ok index) :
    (∃ session after, unlock password code world = (.ok session, after) ∧ session.index = index) ↔
      valid = true := by
  cases valid with
  | false =>
    constructor
    · rintro ⟨session, after, ran, _⟩
      rw [unlock, Op.bind_ok presents] at ran
      obtain ⟨clash, _⟩ := rejectCredentials_cases ran
      cases clash
    · intro clash
      cases clash
  | true =>
    obtain ⟨marks, _, derived⟩ := deriveMaster_run password vault.salt vault.kdfParams kHsm reached
    have measured : world.memoryReading code = (Platform.availableMemoryKib reached.device).1 := by
      rw [World.memoryReading, presents]
    rw [← measured, derives] at derived
    have sized : intoKey kHsm.val = some kHsm := dif_pos kHsm.property
    have key : (Op.mapError (fun _ => .badCredentials) (deriveMasterFromBytes password vault.salt
        vault.kdfParams kHsm.val) : Act δ UnlockError MasterKey) reached =
          (.ok kMaster, reached.measured.marked marks) := by
      refine Op.mapError_ok.mpr ?_
      rw [deriveMasterFromBytes, sized]
      exact derived
    have opened : (Op.mapError (fun error => .malformedVault (.vault error))
        (Op.lift (vault.openIndex kMaster)) : Act δ UnlockError Index)
          (reached.measured.marked marks) = (.ok index, reached.measured.marked marks) :=
      Op.mapError_ok.mpr (by rw [opens, Op.lift_run])
    have ran : unlock password code world = (do
        resetLockout vault
        buildUnlocked kMaster seed index : Act δ UnlockError UnlockedApp)
          (reached.measured.marked marks) := by
      rw [unlock, Op.bind_ok presents]
      change (Op.mapError (fun _ => UnlockError.badCredentials) (deriveMasterFromBytes password
        vault.salt vault.kdfParams kHsm.val) >>= _) reached = _
      rw [Op.bind_ok key, probe]
      exact Op.bind_ok opened
    rcases resetting : (resetLockout vault : Act δ UnlockError Unit)
      (reached.measured.marked marks) with ⟨outcome, settled⟩
    obtain ⟨rfl, _⟩ := resetLockout_cases resetting
    rw [Op.bind_ok resetting, buildUnlocked, clockNow, ask_bind_run] at ran
    exact ⟨fun _ => rfl, fun _ => ⟨_, _, ran, rfl⟩⟩

/-- What a created vault filled with items looks like. -/
theorem Filled.header {password : String} {kdf : KdfParams} {kHsm seed : Key}
    {kHsmBlob seedBlob : WrappedBlob} {kMaster : MasterKey} {created vault : Vault}
    {items : List Item} {world : World δ} {app : UnlockedApp} (aead : AeadLaws)
    (founded : Founded δ password kdf kHsm seed kHsmBlob seedBlob kMaster created)
    (filled : Filled kMaster created items world app vault) :
    vault.kdfParams = kdf ∧ vault.rateLimit = .reset ∧
      vault.kHsmWrapBlob.val = kHsmBlob.toBytes ∧ vault.totpSeedWrapBlob.val = seedBlob.toBytes ∧
      vault.verifyProbe kMaster = .ok () ∧ kdf.withinLimits = true ∧
      ∀ available, (∀ measured ∈ available, memoryCostFits kdf.mKib measured = true) →
        masterKey password vault.salt kdf kHsm available = .ok kMaster := by
  obtain ⟨salt, _, kPw, _, _, _, hashed, key, made⟩ := founded.sealedUnder
  have header := filled.puts.header
  have probe := (header.verifyProbe kMaster).trans (Vault.verifyProbe_create aead made)
  obtain ⟨_, _, _, _, keyStored, seedStored, _, _, rfl⟩ := Vault.create_ok_iff.mp made
  obtain ⟨limits, _, hashes⟩ := argon2idWithinMemory_eq_ok.mp hashed
  have salted : vault.salt = salt := by
    rw [header]
    rfl
  refine ⟨?_, ?_, ?_, ?_, probe, limits, fun available fits => ?_⟩
  · rw [header]
    rfl
  · rw [header]
    rfl
  · rw [header]
    exact keyStored
  · rw [header]
    exact seedStored
  · rw [salted]
    exact masterKey_ok_iff.mpr ⟨kPw, argon2idWithinMemory_eq_ok.mpr ⟨limits, fits, hashes⟩, key⟩

/-- A file that was unlocked is readable. -/
theorem unlock_readable {password code : String} {world after : World δ}
    {session : UnlockedApp} (ran : unlock password code world = (.ok session, after)) :
    world.Readable := by
  cases unlock_cases ran with
  | opened presents => exact ⟨_, (presentFactors_cases presents).gate.1⟩

/-- A vault is created only on a permitted backend. -/
theorem createVault_permitted {password : String} {kdf : KdfParams} {config : TotpConfig}
    {before after : World δ} {result : UnlockedApp × String}
    (ran : createVault password kdf config before = (.ok result, after)) :
    before.backendRefused = false := by
  obtain ⟨_, _, allowed, _⟩ := Op.bind_ok_cases ran
  rw [checkBackendAllowed, Op.get_bind_run] at allowed
  split at allowed
  · cases allowed
  · next permitted => exact Bool.eq_false_iff.mpr permitted

/-- A created vault with successful additions is unlocked by a new instance on the same file with
the same key store, and lists the added entries, if and only if the file is within the limit of a
read and the default profile accepts the code the provisioned profile yields. -/
theorem unlocks_after_restart (aead : AeadLaws) (laws : PostcardLaws) (reads : ReadsSucceed δ)
    (store : PersistentStore δ) {password : String} {kdf : KdfParams} {config : TotpConfig}
    {before middle : World δ} {app : UnlockedApp} {uri : String}
    (created : createVault password kdf config before = (.ok (app, uri), middle))
    {items : List Item} {final : World δ × UnlockedApp}
    (additions : Additions (middle, app) items final) :
    ∃ seed kHsmBlob seedBlob, app.totpSeed = seed.val ∧ uri = buildProvisioningUri seed config ∧
      before.Enrolls middle kHsmBlob seedBlob ∧
      ∀ (device : δ) (trace : List Effect) (code : String),
        letI restarted :=
          World.opened device final.1.file before.kind before.allowSoftwareHsm trace
        (∀ available ∈ restarted.memoryReading code, memoryCostFits kdf.mKib available = true) →
        utf8 code = config.codeAt seed.val (currentStep restarted.codeTime config.period) →
        ((∃ session after, unlock password code restarted = (.ok session, after) ∧
            session.index = rowsOf items) ↔
          WithinLimit ((Outline.fresh (kHsmBlob.toBytes.length + seedBlob.toBytes.length)).bind
            fun created => items.foldlM Outline.put created) ∧
          ∃ next, (TotpVerifier.new .default).verify seed.val code restarted.codeTime =
            .ok next) := by
  obtain ⟨kHsm, seed, kHsmBlob, seedBlob, kMaster, vault, founded, installed, enrolls⟩ :=
    createVault_founded created
  obtain ⟨_, _, _, _, _, _, _, _, made⟩ := founded.sealedUnder
  have empty : Filled kMaster vault [] middle app vault :=
    ⟨installed.sessionKey, installed.file, .nil, installed.index, Vault.rows_create aead laws made⟩
  have clamped : vault.Clamped := .create made
  obtain ⟨last, filled⟩ := empty.run aead laws clamped additions
  rw [List.nil_append] at filled
  refine ⟨seed, kHsmBlob, seedBlob, installed.sessionSeed, installed.address, enrolls,
    fun device trace code memory provisioned => ?_⟩
  let restarted := World.opened device final.1.file before.kind before.allowSoftwareHsm trace
  have planned := filled.puts.planned aead (Vault.outline_create aead made)
  have readable : restarted.Readable ↔ WithinLimit _ :=
    readable_iff filled.file (clamped.putAll filled.puts) planned
  rw [← readable]
  obtain ⟨params, clean, keyStored, seedStored, probe, limits, derives⟩ :=
    filled.header aead founded
  have again : Filled kMaster vault items restarted final.2 last :=
    ⟨filled.key, filled.file, filled.puts, filled.opens, filled.rows⟩
  have permitted : restarted.backendRefused = false :=
    (createVault_permitted created : before.backendRefused = false)
  by_cases whole : restarted.Readable
  · obtain ⟨found, stored⟩ := whole
    obtain ⟨same, formed⟩ := again.stores clamped stored
    rw [same] at stored
    have rows : final.2.index = rowsOf items := by
      have decrypted := ((last.openIndex_ok_iff kMaster final.2.index).mp again.opens).1
      exact Except.ok.inj (decrypted.symm.trans (again.rows formed))
    have within : last.kdfParams.withinLimits = true := by rw [params, limits]
    obtain ⟨now, valid, reached, presents, accepted⟩ := presentFactors_run store reads permitted
      stored within clean rfl rfl rfl founded.keyEnrolled founded.seedEnrolled keyStored seedStored
      code
    have derived : masterKey password last.salt last.kdfParams kHsm
        (restarted.memoryReading code) = .ok kMaster := by
      rw [params]
      exact derives _ memory
    rw [← rows, unlock_iff presents derived probe again.opens, accepted]
    exact ⟨fun accepts => ⟨⟨_, stored⟩, accepts⟩, fun both => both.2⟩
  · constructor
    · rintro ⟨session, after, ran, _⟩
      exact absurd (unlock_readable ran) whole
    · rintro ⟨readable, _⟩
      exact absurd readable whole

omit [Platform δ] in
/-- The default profile accepts the code of a profile with its parameters, whatever its skew. -/
theorem standard_profile_accepted {config : TotpConfig} (algorithm : config.algorithm = .sha1)
    (digits : config.digits = 6) (period : config.period = 30) {seed : Bytes} {code : String}
    {now : Timestamp}
    (provisioned : utf8 code = config.codeAt seed (currentStep now config.period)) :
    ∃ next, (TotpVerifier.new .default).verify seed code now = .ok next := by
  refine TotpVerifier.new_verify_current ?_
  rw [provisioned, TotpConfig.codeAt, TotpConfig.codeAt, algorithm, digits, period]
  rfl

omit [Platform δ] in
/-- The default profile refuses the code of a profile with another width. -/
theorem other_width_refused {config : TotpConfig} (digits : config.digits ≠ 6) {seed : Bytes}
    {code : String} {now : Timestamp} {step : UInt64}
    (provisioned : utf8 code = config.codeAt seed step) :
    ¬ ∃ next, (TotpVerifier.new .default).verify seed code now = .ok next := by
  rintro ⟨next, accepted⟩
  have width := TotpVerifier.verify_width accepted
  rw [provisioned, config.codeAt_length] at width
  exact digits (UInt8.toNat_inj.mp width)

end Restarts

namespace Reference

/-- Eight digits are a width. -/
theorem eightDigits_width : 6 ≤ (8 : UInt8).toNat ∧ (8 : UInt8).toNat ≤ 8 := by decide

/-- A profile with eight digits. -/
def eightDigits : TotpConfig := ⟨.sha1, 8, 30, 1, eightDigits_width, TotpConfig.default.positive⟩

/-- A creation on the example device under a profile. -/
def creation (config : TotpConfig) : Except CoreError (UnlockedApp × String) × World Device :=
  letI := crates
  createVault "pw" kdfParams config world

/-- A creation under its name. -/
theorem creation_run (config : TotpConfig) :
    @createVault Device _ crates "pw" kdfParams config world = creation config := rfl

/-- The session and the address of a creation; they are computed by the kernel only. -/
@[irreducible] def founded (config : TotpConfig) : UnlockedApp × String :=
  (creation config).1.toOption.getD (⟨kMaster, [], [], 0⟩, "")

/-- A restart of the example device on a file. -/
def restarted (file : Option Bytes) : World Device :=
  .opened device file world.kind world.allowSoftwareHsm []

/-- The code of the current step under a profile. -/
def provisionedCode (config : TotpConfig) (app : UnlockedApp) : String :=
  letI := crates
  (ofUtf8 (config.codeAt app.totpSeed (currentStep device.clock config.period))).getD ""

/-- An item for examples, under the identifier it is given. -/
def mail : Item :=
  ⟨(creation .default).2.drawnId, "mail", .default, ⟨"a", "b", "", ""⟩⟩

/-- The item is added to the created vault. -/
def filling : Except CoreError EntryId × World Device × UnlockedApp :=
  letI := crates
  addEntry mail.label mail.policy mail.record ((creation .default).2, (founded .default).1)

/-- The addition under its name. -/
theorem filling_run :
    @addEntry Device _ crates mail.label mail.policy mail.record
      ((creation .default).2, (founded .default).1) = filling := rfl

/-- The blob of an enrollment. -/
def enrolledBlob : Effect → Option WrappedBlob
  | .enrolled _ blob => some blob
  | _ => none

/-- The blobs of a run that enrolled only two. -/
theorem enrolls_only {before after : World Device} {kHsmBlob seedBlob first second : WrappedBlob}
    (enrolls : before.Enrolls after kHsmBlob seedBlob)
    (only : after.trace.filterMap enrolledBlob = [second, first]) :
    kHsmBlob = first ∧ seedBlob = second := by
  obtain ⟨late, early, traced⟩ := enrolls
  rw [traced, List.filterMap_append] at only
  change late.filterMap enrolledBlob ++ seedBlob :: kHsmBlob ::
    (early ++ before.trace).filterMap enrolledBlob = _ at only
  generalize (early ++ before.trace).filterMap enrolledBlob = others at only
  generalize late.filterMap enrolledBlob = more at only
  have counted := congrArg List.length only
  simp only [List.length_append, List.length_cons, List.length_nil] at counted
  have none : more = [] := List.length_eq_zero_iff.mp (by omega)
  rw [none, List.nil_append] at only
  injection only with late rest
  injection rest with early
  exact ⟨early, late⟩

end Reference

/-- A vault that was created under a profile with eight digits is not unlocked with the code the
profile yields. -/
theorem eight_digits_stay_locked :
    letI := Reference.crates
    createVault "pw" Reference.kdfParams Reference.eightDigits Reference.world =
        (.ok (Reference.founded Reference.eightDigits),
          (Reference.creation Reference.eightDigits).2) ∧
      utf8 (Reference.provisionedCode Reference.eightDigits
        (Reference.founded Reference.eightDigits).1) =
          Reference.eightDigits.codeAt (Reference.founded Reference.eightDigits).1.totpSeed
            (currentStep (Reference.restarted (Reference.creation
              Reference.eightDigits).2.file).codeTime Reference.eightDigits.period) ∧
      (unlock "pw" (Reference.provisionedCode Reference.eightDigits
        (Reference.founded Reference.eightDigits).1)
          (Reference.restarted (Reference.creation Reference.eightDigits).2.file)).1 =
            .error .badCredentials := by
  have replied : (Reference.creation Reference.eightDigits).1.toOption =
      some (Reference.founded Reference.eightDigits) := by decide +kernel
  exact ⟨(Reference.creation_run _).trans (Op.ran_of_returned replied), by decide +kernel,
    by decide +kernel⟩

/-- A vault that was created under the default profile is unlocked after a restart and lists the
added entry. -/
theorem unlocks_after_restart_reference :
    letI := Reference.crates
    ∃ session after, unlock "pw" (Reference.provisionedCode .default
        (Reference.founded .default).1) (Reference.restarted Reference.filling.2.1.file) =
          (.ok session, after) ∧ session.index = [Reference.mail.row] := by
  have replied : (Reference.creation .default).1.toOption = some (Reference.founded .default) := by
    decide +kernel
  have created : @createVault Reference.Device _ Reference.crates "pw" Reference.kdfParams .default
      Reference.world = (.ok ((Reference.founded .default).1, (Reference.founded .default).2),
        (Reference.creation .default).2) :=
    (Reference.creation_run _).trans (Op.ran_of_returned replied)
  have answered : Reference.filling.1.toOption = some Reference.mail.id := by
    decide +kernel
  have added := Reference.filling_run.trans (Op.ran_of_returned answered)
  have additions := @Additions.cons Reference.crates Reference.Device _
    ((Reference.creation .default).2, (Reference.founded .default).1) Reference.filling.2
    Reference.filling.2 Reference.mail [] added (@Additions.nil Reference.crates _ _ _)
  obtain ⟨seed, kHsmBlob, seedBlob, session, _, enrolls, unlocks⟩ :=
    @unlocks_after_restart Reference.Device _ Reference.crates Reference.aeadLaws
      Reference.postcardLaws Reference.readsSucceed Reference.persistentStore "pw"
      Reference.kdfParams .default Reference.world (Reference.creation .default).2
      (Reference.founded .default).1 (Reference.founded .default).2 created
      [Reference.mail] Reference.filling.2 additions
  have blobs : (Reference.creation .default).2.trace.filterMap Reference.enrolledBlob =
      [Reference.storedBlob .totpSeed 2, Reference.storedBlob .vaultKey 1] := by decide +kernel
  obtain ⟨rfl, rfl⟩ := Reference.enrolls_only enrolls blobs
  have small :
      letI := Reference.crates
      (((Outline.fresh ((Reference.storedBlob .vaultKey 1).toBytes.length +
        (Reference.storedBlob .totpSeed 2).toBytes.length)).bind fun created =>
          [Reference.mail].foldlM Outline.put created).any
            fun outline => outline.length ≤ maxVaultBytes) = true := by decide +kernel
  obtain ⟨outline, planned, within⟩ := (Option.any_eq_true _ _).mp small
  have provisioned :
      letI := Reference.crates
      utf8 (Reference.provisionedCode .default (Reference.founded .default).1) =
        TotpConfig.default.codeAt (Reference.founded .default).1.totpSeed
          (currentStep (Reference.restarted Reference.filling.2.1.file).codeTime
            TotpConfig.default.period) := by decide +kernel
  rw [session] at provisioned
  have memory :
      letI := Reference.crates
      (Reference.restarted Reference.filling.2.1.file).memoryReading
        (Reference.provisionedCode .default (Reference.founded .default).1) = none := by
    decide +kernel
  refine (unlocks Reference.device [] _ ?_ provisioned).mpr
    ⟨⟨outline, Option.mem_def.mpr planned, of_decide_eq_true within⟩,
      @standard_profile_accepted Reference.crates .default rfl rfl rfl _ _ _ provisioned⟩
  intro available member
  change available ∈ @World.memoryReading Reference.Device _ Reference.crates
    (Reference.restarted Reference.filling.2.1.file) _ at member
  rw [memory] at member
  cases member

end Passman
