import Passman.Crates
import Passman.Lib.Words

/-!
# TOTP verification

A code is compared with the code of every step in a window around the current
one; the last matching step decides. A step at or before the last accepted step
is a replay, so within the life of one verifier accepted steps strictly increase.
-/
namespace Passman

open Bytewise Words

/-- A clock reading, in Unix seconds. -/
abbrev Timestamp := UInt64

/-- The time step a timestamp falls into. -/
def currentStep (now : Timestamp) (period : UInt64) : UInt64 := now / max period 1

/-- The configuration and the replay cache. -/
structure TotpVerifier where
  /-- The parameters of verification. -/
  config : TotpConfig
  /-- The most recently accepted step. -/
  lastAcceptedStep : Option UInt64
  deriving DecidableEq

/-- A verifier with an empty replay cache. -/
def TotpVerifier.new (config : TotpConfig) : TotpVerifier := ⟨config, none⟩

/-- The bytes of a code of exactly `digits` ASCII decimal characters. -/
def parseCode (code : String) (digits : UInt8) : Except TotpError Bytes :=
  let bytes := utf8 code
  if bytes.length ≠ digits.toNat then .error .malformedCode
  else if bytes.all fun byte => 0x30 ≤ byte && byte ≤ 0x39 then .ok bytes
  else .error .malformedCode

/-- The first step a code is compared with. -/
def TotpConfig.firstStep (config : TotpConfig) (now : Timestamp) : UInt64 :=
  saturatingSub (currentStep now config.period) config.skewSteps.toUInt64

/-- The last step a code is compared with. -/
def TotpConfig.lastStep (config : TotpConfig) (now : Timestamp) : UInt64 :=
  saturatingAdd (currentStep now config.period) config.skewSteps.toUInt64

/-- The steps a code is compared with, in ascending order. -/
def TotpConfig.window (config : TotpConfig) (now : Timestamp) : List UInt64 :=
  let first := config.firstStep now
  (List.range ((config.lastStep now).toNat + 1 - first.toNat)).map fun offset =>
    first + UInt64.ofNat offset

/-- Folding a search keeps a later hit over an earlier one, so a hit lies in the list. -/
theorem foldl_hit_mem {α : Type} (hit : α → Prop) [DecidablePred hit] (items : List α)
    (before : Option α) (found : α)
    (result : items.foldl (fun best item => if hit item then some item else best) before =
      some found) : (found ∈ items ∧ hit found) ∨ before = some found := by
  induction items generalizing before with
  | nil => exact .inr result
  | cons item rest ih =>
    rcases ih _ result with ⟨member, holds⟩ | earlier
    · exact .inl ⟨List.mem_cons_of_mem _ member, holds⟩
    · change (if hit item then some item else before) = some found at earlier
      split at earlier
      · next holds =>
        cases earlier
        exact .inl ⟨List.mem_cons_self, holds⟩
      · exact .inr earlier

/-- The current step is one a code is compared with. -/
theorem TotpConfig.currentStep_mem_window (config : TotpConfig) (now : Timestamp) :
    currentStep now config.period ∈ config.window now := by
  have first := saturatingSub_toNat (currentStep now config.period) config.skewSteps.toUInt64
  have last := saturatingAdd_toNat (currentStep now config.period) config.skewSteps.toUInt64
  have bound := (currentStep now config.period).toNat_lt
  refine List.mem_map.mpr ⟨(currentStep now config.period).toNat - (config.firstStep now).toNat,
    List.mem_range.mpr ?_, ?_⟩
  · rw [firstStep, lastStep, first, last]
    omega
  · have offset (count : Nat) : (UInt64.ofNat count).toNat = count % 2 ^ 64 := rfl
    rw [← UInt64.toNat_inj, UInt64.toNat_add, offset, firstStep, first]
    omega

/-- A search over items with a hit finds one. -/
theorem foldl_hit_isSome {α : Type} (hit : α → Prop) [DecidablePred hit] {items : List α}
    (before : Option α) (found : before.isSome ∨ ∃ item ∈ items, hit item) :
    (items.foldl (fun best item => if hit item then some item else best) before).isSome := by
  induction items generalizing before with
  | nil =>
    rcases found with found | ⟨item, member, _⟩
    · exact found
    · cases member
  | cons item rest ih =>
    refine ih _ ?_
    change (if hit item then some item else before).isSome = true ∨ _
    by_cases holds : hit item
    · rw [if_pos holds]
      exact .inl rfl
    · rw [if_neg holds]
      rcases found with found | ⟨other, member, holds'⟩
      · exact .inl found
      · rcases List.mem_cons.mp member with rfl | later
        · exact absurd holds' holds
        · exact .inr ⟨other, later, holds'⟩

section Verify

variable [Crates]

/-- The HOTP value of a counter, reduced to `digits` decimal places. -/
def hotpValue (algorithm : TotpAlgorithm) (seed : Bytes) (counter : UInt64) (digits : UInt8) :
    UInt32 :=
  truncate (Crates.hmac algorithm seed (counterBytes counter)) % UInt32.ofNat (10 ^ digits.toNat)

/-- The code of one step. -/
def TotpConfig.codeAt (config : TotpConfig) (seed : Bytes) (step : UInt64) : Bytes :=
  formatPadded config.digits.toNat (hotpValue config.algorithm seed step config.digits)

/-- The last step of the window whose code is the candidate. -/
def TotpConfig.matched (config : TotpConfig) (seed candidate : Bytes) (now : Timestamp) :
    Option UInt64 :=
  (config.window now).foldl
    (fun found step => if candidate = config.codeAt seed step then some step else found) none

namespace TotpVerifier

/-- Verify a code; on success the replay cache advances to the matched step. -/
def verify (verifier : TotpVerifier) (seed : Bytes) (code : String) (now : Timestamp) :
    Except TotpError TotpVerifier := do
  let candidate ← parseCode code verifier.config.digits
  match verifier.config.matched seed candidate now with
  | none => .error .rejected
  | some step =>
    if verifier.lastAcceptedStep.any fun last => step ≤ last then .error .replayed
    else .ok { verifier with lastAcceptedStep := some step }

end TotpVerifier

/-- The matched step lies in the window and has the candidate as its code. -/
theorem TotpConfig.matched_some {config : TotpConfig} {seed candidate : Bytes} {now : Timestamp}
    {step : UInt64} (found : config.matched seed candidate now = some step) :
    step ∈ config.window now ∧ candidate = config.codeAt seed step := by
  rcases foldl_hit_mem (fun step => candidate = config.codeAt seed step) _ _ _ found with hit | none
  · exact hit
  · cases none

/-- An accepted code advances the cache to a later step of the window, whose code it is. -/
theorem TotpVerifier.verify_ok {verifier next : TotpVerifier} {seed : Bytes} {code : String}
    {now : Timestamp} (accepted : verifier.verify seed code now = .ok next) :
    ∃ step, next = { verifier with lastAcceptedStep := some step } ∧
      step ∈ verifier.config.window now ∧ utf8 code = verifier.config.codeAt seed step ∧
      ∀ last ∈ verifier.lastAcceptedStep, last < step := by
  have parsed : ∀ candidate, parseCode code verifier.config.digits = .ok candidate →
      candidate = utf8 code := by
    intro candidate read
    simp only [parseCode] at read
    split at read
    · cases read
    · split at read
      · exact (Except.ok.inj read).symm
      · cases read
  rw [verify] at accepted
  cases read : parseCode code verifier.config.digits with
  | error error => simp [read, bind, Except.bind] at accepted
  | ok candidate =>
    simp only [read, bind, Except.bind] at accepted
    cases found : verifier.config.matched seed candidate now with
    | none => simp [found] at accepted
    | some step =>
      obtain ⟨inside, code_eq⟩ := TotpConfig.matched_some found
      simp only [found] at accepted
      split at accepted
      · cases accepted
      · next fresh =>
        refine ⟨step, (Except.ok.inj accepted).symm, inside, parsed candidate read ▸ code_eq, ?_⟩
        intro last present
        rw [Option.mem_def] at present
        rw [present, Option.any_some, decide_eq_true_eq, UInt64.not_le] at fresh
        exact fresh

/-- The code of a step has the configured width. -/
theorem TotpConfig.codeAt_length (config : TotpConfig) (seed : Bytes) (step : UInt64) :
    (config.codeAt seed step).length = config.digits.toNat := formatPadded_length _ _

/-- A fresh verifier accepts the code of the current step. -/
theorem TotpVerifier.new_verify_current {config : TotpConfig} {seed : Bytes} {code : String}
    {now : Timestamp} (current : utf8 code = config.codeAt seed (currentStep now config.period)) :
    ∃ next, (TotpVerifier.new config).verify seed code now = .ok next := by
  have width : (utf8 code).length = config.digits.toNat := by rw [current, config.codeAt_length]
  have ascii : (utf8 code).all (fun byte => 0x30 ≤ byte && byte ≤ 0x39) = true := by
    rw [current]
    exact formatPadded_ascii _ _
  have parsed : parseCode code config.digits = .ok (utf8 code) := by
    simp only [parseCode, width, ne_eq, not_true_eq_false, if_false, ascii, if_true]
  have found : (config.matched seed (utf8 code) now).isSome :=
    foldl_hit_isSome (fun step => utf8 code = config.codeAt seed step) none
      (.inr ⟨_, config.currentStep_mem_window now, current⟩)
  obtain ⟨step, matched⟩ := Option.isSome_iff_exists.mp found
  refine ⟨⟨config, some step⟩, ?_⟩
  change (parseCode code config.digits >>= fun _ => _) = _
  rw [parsed]
  change (match config.matched seed (utf8 code) now with | none => _ | some step => _) = _
  rw [matched]
  rfl

/-- A code of another width is refused. -/
theorem TotpVerifier.verify_width {verifier next : TotpVerifier} {seed : Bytes} {code : String}
    {now : Timestamp} (accepted : verifier.verify seed code now = .ok next) :
    (utf8 code).length = verifier.config.digits.toNat := by
  obtain ⟨step, _, _, same, _⟩ := verify_ok accepted
  rw [same, verifier.config.codeAt_length]

end Verify

end Passman
