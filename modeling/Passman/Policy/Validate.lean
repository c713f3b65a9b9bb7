import Mathlib.Data.List.Induction
import Mathlib.Data.List.Sort
import Passman.Policy.Generate

/-!
# Validation of imported passwords

Validation resolves a policy as generation does, and reports where a password falls short of it.
It counts the characters of a class by their ASCII kind, whereas generation takes them from the
pool of the class. The two agree on all generated passwords exactly when every symbol that can be
required is ASCII punctuation.
-/
namespace Passman

open Fallible Drawing

/-- The generated length of the vault default. -/
def defaultLength : UInt16 := 40

/-- The vault default request. -/
def GenerationRequest.defaultVault : GenerationRequest := ⟨defaultLength, .defaultVault, .oneOfEach⟩

/-- Resolve a policy over a request: what is given overrides, the rest is inherited. -/
def EntryPolicy.resolveOver (policy : EntryPolicy) (default : GenerationRequest) :
    GenerationRequest where
  length := policy.length.getD default.length
  charset := policy.charsetOverride.getD default.charset
  requiredClasses := policy.requiredClassesOverride.getD default.requiredClasses

/-- An ASCII punctuation character. -/
def isAsciiPunctuation (c : Char) : Bool :=
  ('!' ≤ c && c ≤ '/') || (':' ≤ c && c ≤ '@') || ('[' ≤ c && c ≤ '`') || ('{' ≤ c && c ≤ '~')

/-- How a password compares to a policy. -/
structure ValidationReport where
  /-- Whether there are no issues. -/
  ok : Bool
  /-- The shortfalls. -/
  issues : List String
  deriving DecidableEq

/-- The report of some issues. -/
def ValidationReport.fromIssues (issues : List String) : ValidationReport :=
  ⟨issues.isEmpty, issues⟩

/-- How many characters of each ASCII kind were counted. -/
structure KindCounts where
  /-- Lowercase letters. -/
  lo : UInt32
  /-- Uppercase letters. -/
  up : UInt32
  /-- Digits. -/
  di : UInt32
  /-- Punctuation. -/
  sy : UInt32

/-- Count one more character. -/
def KindCounts.count (counts : KindCounts) (c : Char) : KindCounts :=
  if c.isLower then { counts with lo := counts.lo + 1 }
  else if c.isUpper then { counts with up := counts.up + 1 }
  else if c.isDigit then { counts with di := counts.di + 1 }
  else if isAsciiPunctuation c then { counts with sy := counts.sy + 1 }
  else counts

/-- Count the characters of a password by kind. -/
def kindCounts (password : List Char) : KindCounts := password.foldl KindCounts.count ⟨0, 0, 0, 0⟩

/-- Report a class whose minimum is not met. -/
def checkClass (name : String) (counted : UInt32) (want : UInt8) : List String :=
  let want := want.toUInt32
  if counted < want then
    [s!"password has {counted} {name} character(s); policy requires at least {want}"]
  else []

/-- Report a length outside the bounds. -/
def checkLength (len : Nat) : List String :=
  if len < minLength.toNat then
    [s!"password length {len} is below the recommended minimum of {minLength}"]
  else if maxLength.toNat < len then
    [s!"password length {len} exceeds the maximum of {maxLength}"]
  else []

/-- Report the characters outside the effective set, in ascending order. -/
def checkCharset (allowed password : List Char) : List String :=
  let offending := (password.filter fun c => c ∉ allowed).dedup.insertionSort (· ≤ ·)
  if offending.isEmpty then []
  else
    [s!"password contains characters not permitted by the policy charset: " ++
      String.ofList offending]

/-- Validate a password against a policy, resolved over the vault default. -/
def validate (password : String) (policy : EntryPolicy) : ValidationReport :=
  let req := policy.resolveOver .defaultVault
  let counts := kindCounts password.toList
  let classes := req.requiredClasses
  .fromIssues (checkLength password.toList.length ++
    checkCharset req.charset.effectiveSet password.toList ++
    checkClass "lowercase" counts.lo classes.minLowercase ++
    checkClass "uppercase" counts.up classes.minUppercase ++
    checkClass "digit" counts.di classes.minDigits ++
    checkClass "symbol" counts.sy classes.minSymbols)

section Counting

/-- The kinds exclude each other. -/
theorem kinds_exclude (c : Char) :
    (c.isUpper → ¬c.isLower) ∧
    (c.isDigit → ¬c.isLower ∧ ¬c.isUpper) ∧
    (isAsciiPunctuation c → ¬c.isLower ∧ ¬c.isUpper ∧ ¬c.isDigit) := by
  unfold Char.isLower Char.isUpper
  simp only [Char.isDigit, isAsciiPunctuation, Bool.and_eq_true,
    Bool.or_eq_true, decide_eq_true_eq, Char.le_def, UInt32.le_iff_toNat_le, ge_iff_le]
  have letters : 'a'.val.toNat = 97 ∧ 'z'.val.toNat = 122 ∧ 'A'.val.toNat = 65 ∧
      'Z'.val.toNat = 90 ∧ '0'.val.toNat = 48 ∧ '9'.val.toNat = 57 := by decide
  have marks : '!'.val.toNat = 33 ∧ '/'.val.toNat = 47 ∧ ':'.val.toNat = 58 ∧ '@'.val.toNat = 64 ∧
      '['.val.toNat = 91 ∧ '`'.val.toNat = 96 ∧
      '{'.val.toNat = 123 ∧ '~'.val.toNat = 126 := by decide
  omega

/-- The counters of a password in range count the characters of their kinds. -/
theorem kindCounts_toNat (password : List Char) (small : password.length < 2 ^ 32) :
    (kindCounts password).lo.toNat = password.countP Char.isLower ∧
    (kindCounts password).up.toNat = password.countP Char.isUpper ∧
    (kindCounts password).di.toNat = password.countP Char.isDigit ∧
    (kindCounts password).sy.toNat = password.countP isAsciiPunctuation := by
  induction password using List.reverseRec with
  | nil => exact ⟨rfl, rfl, rfl, rfl⟩
  | append_singleton password c ih =>
    rw [List.length_append, List.length_singleton] at small
    obtain ⟨lo, up, di, sy⟩ := ih (by omega)
    have bounds (kind : Char → Bool) : password.countP kind ≤ password.length :=
      List.countP_le_length
    have loBound := bounds Char.isLower
    have upBound := bounds Char.isUpper
    have diBound := bounds Char.isDigit
    have syBound := bounds isAsciiPunctuation
    have step : kindCounts (password ++ [c]) = (kindCounts password).count c := by
      rw [kindCounts, List.foldl_append]
      rfl
    have next (counter : UInt32) (few : counter.toNat < 2 ^ 32 - 1) :
        (counter + 1).toNat = counter.toNat + 1 := by
      rw [UInt32.toNat_add]
      have one : (1 : UInt32).toNat = 1 := rfl
      omega
    obtain ⟨upper, digit, punctuation⟩ := kinds_exclude c
    simp only [List.countP_append, List.countP_singleton, step, KindCounts.count]
    by_cases isLo : c.isLower
    · have notUp : ¬c.isUpper := fun known => upper known isLo
      have notDi : ¬c.isDigit := fun known => (digit known).1 isLo
      have notSy : ¬isAsciiPunctuation c := fun known => (punctuation known).1 isLo
      simp only [if_pos isLo, if_neg notUp, if_neg notDi, if_neg notSy, Nat.add_zero]
      exact ⟨by rw [next _ (by omega), lo], up, di, sy⟩
    · by_cases isUp : c.isUpper
      · have notDi : ¬c.isDigit := fun known => (digit known).2 isUp
        have notSy : ¬isAsciiPunctuation c := fun known => (punctuation known).2.1 isUp
        simp only [if_neg isLo, if_pos isUp, if_neg notDi, if_neg notSy, Nat.add_zero]
        exact ⟨lo, by rw [next _ (by omega), up], di, sy⟩
      · by_cases isDi : c.isDigit
        · have notSy : ¬isAsciiPunctuation c := fun known => (punctuation known).2.2 isDi
          simp only [if_neg isLo, if_neg isUp, if_pos isDi, if_neg notSy, Nat.add_zero]
          exact ⟨lo, up, by rw [next _ (by omega), di], sy⟩
        · by_cases isSy : isAsciiPunctuation c
          · simp only [if_neg isLo, if_neg isUp, if_neg isDi, if_pos isSy, Nat.add_zero]
            exact ⟨lo, up, di, by rw [next _ (by omega), sy]⟩
          · simp only [if_neg isLo, if_neg isUp, if_neg isDi, if_neg isSy, Nat.add_zero]
            exact ⟨lo, up, di, sy⟩

end Counting

section Agreement

variable {req : GenerationRequest}

/-- No issue is reported of a class whose minimum is met. -/
theorem checkClass_eq_nil {name : String} {counted : UInt32} {want : UInt8} :
    checkClass name counted want = [] ↔ want.toNat ≤ counted.toNat := by
  rw [checkClass, ← UInt8.toNat_toUInt32, ← Nat.not_lt, ← UInt32.lt_iff_toNat_lt]
  by_cases missed : counted < want.toUInt32
  · rw [if_pos missed]
    exact iff_of_false (List.cons_ne_nil _ _) (not_not_intro missed)
  · rw [if_neg missed]
    exact iff_of_true rfl missed

/-- No issue is reported of a length within the bounds. -/
theorem checkLength_eq_nil {len : Nat} (long : 16 ≤ len) (short : len ≤ 256) :
    checkLength len = [] := by
  have least : minLength.toNat = 16 := rfl
  have most : maxLength.toNat = 256 := rfl
  rw [checkLength, if_neg (by omega), if_neg (by omega)]

/-- No issue is reported of characters that are all permitted. -/
theorem checkCharset_eq_nil {allowed password : List Char} (inside : ∀ c ∈ password, c ∈ allowed) :
    checkCharset allowed password = [] := by
  have none : (password.filter fun c => c ∉ allowed) = [] :=
    List.filter_eq_nil_iff.mpr fun c member => by simp [inside c member]
  rw [checkCharset, none]
  rfl

/-- What survives of the alphanumeric classes is of the kind of its class. -/
theorem effective_kinds (charset : Charset) :
    (∀ c ∈ charset.effectiveLowercase, c.isLower) ∧ (∀ c ∈ charset.effectiveUppercase, c.isUpper) ∧
      ∀ c ∈ charset.effectiveDigits, c.isDigit := by
  have lower : ∀ c ∈ lowercase, c.isLower := List.all_eq_true.mp (by decide)
  have upper : ∀ c ∈ uppercase, c.isUpper := List.all_eq_true.mp (by decide)
  have digit : ∀ c ∈ digits, c.isDigit := List.all_eq_true.mp (by decide)
  exact ⟨fun c member => lower c (Charset.mem_of_filterClass member),
    fun c member => upper c (Charset.mem_of_filterClass member),
    fun c member => digit c (Charset.mem_of_filterClass member)⟩

/-- The symbols a request requires are counted as symbols. -/
def GenerationRequest.CountsSymbols (req : GenerationRequest) : Prop :=
  req.requiredClasses.minSymbols = 0 ∨
    ∀ c ∈ req.charset.effectiveSymbols, isAsciiPunctuation c

/-- A password that meets a generable request whose symbols are counted has no issues. -/
theorem validate_of_metBy {policy : EntryPolicy} {password : String}
    (generable : (policy.resolveOver .defaultVault).Generable)
    (counts : (policy.resolveOver .defaultVault).CountsSymbols)
    (met : (policy.resolveOver .defaultVault).MetBy password.toList) :
    validate password policy = ⟨true, []⟩ := by
  have length := met.length
  have long := generable.long
  have short := generable.short
  obtain ⟨lo, up, di, sy⟩ := kindCounts_toNat password.toList (by omega)
  obtain ⟨lower, upper, digit⟩ := effective_kinds (policy.resolveOver .defaultVault).charset
  have minimums := met.minimums
  simp only [GenerationRequest.classPools, List.forall_mem_cons] at minimums
  obtain ⟨minLower, minUpper, minDigit, minSymbol, _⟩ := minimums
  have within (pool : List Char) (kind : Char → Bool) (all : ∀ c ∈ pool, kind c) :
      password.toList.countP (· ∈ pool) ≤ password.toList.countP kind :=
    List.countP_mono_left fun c _ known => all c (of_decide_eq_true known)
  have symbols : (policy.resolveOver .defaultVault).requiredClasses.minSymbols.toNat ≤
      (kindCounts password.toList).sy.toNat := by
    rw [sy]
    rcases counts with zero | punctuation
    · rw [zero]
      exact Nat.zero_le _
    · exact Nat.le_trans minSymbol (within _ _ punctuation)
  have quiet : checkLength password.toList.length = [] := checkLength_eq_nil (by omega) (by omega)
  have permitted := checkCharset_eq_nil met.effective
  have lowerMet : checkClass "lowercase" _ _ = [] := checkClass_eq_nil.mpr
    (lo ▸ Nat.le_trans minLower (within _ _ lower))
  have upperMet : checkClass "uppercase" _ _ = [] := checkClass_eq_nil.mpr
    (up ▸ Nat.le_trans minUpper (within _ _ upper))
  have digitMet : checkClass "digit" _ _ = [] := checkClass_eq_nil.mpr
    (di ▸ Nat.le_trans minDigit (within _ _ digit))
  have symbolMet : checkClass "symbol" _ _ = [] := checkClass_eq_nil.mpr symbols
  simp only [validate, quiet, permitted, lowerMet, upperMet, digitMet, symbolMet]
  rfl

/-- A generable request whose symbols are not counted can be met without any that are. -/
theorem uncounted_password (generable : req.Generable) (uncounted : ¬req.CountsSymbols) :
    ∃ draws password, (generate req draws).1 = .ok (.ok password) ∧
      ∀ c ∈ password.toList, ¬isAsciiPunctuation c := by
  rw [GenerationRequest.CountsSymbols, not_or, not_forall] at uncounted
  obtain ⟨_, symbol, uncounted⟩ := uncounted
  rw [Classical.not_imp] at uncounted
  obtain ⟨member, other⟩ := uncounted
  obtain ⟨lower, upper, digit⟩ := effective_kinds req.charset
  have apart (c : Char) := (kinds_exclude c).2.2
  refine generate_canReturn generable (fun c => ¬isAsciiPunctuation c) ?_
    ⟨symbol, Charset.mem_effectiveSet.mpr (.inr (.inr (.inr member))), other⟩
  intro cls known required
  have some := generable.available cls known required
  simp only [GenerationRequest.classPools, List.mem_cons, List.not_mem_nil, or_false] at known
  rcases known with rfl | rfl | rfl | rfl
  · obtain ⟨c, inside⟩ := List.exists_mem_of_ne_nil _ some
    exact ⟨c, inside, fun mark => (apart c mark).1 (lower c inside)⟩
  · obtain ⟨c, inside⟩ := List.exists_mem_of_ne_nil _ some
    exact ⟨c, inside, fun mark => (apart c mark).2.1 (upper c inside)⟩
  · obtain ⟨c, inside⟩ := List.exists_mem_of_ne_nil _ some
    exact ⟨c, inside, fun mark => (apart c mark).2.2 (digit c inside)⟩
  · exact ⟨symbol, member, other⟩

/-- For every policy, all passwords that generation can return for it are accepted by validation
without issues exactly when it generates none, or the symbols it requires are all counted as
symbols. -/
theorem generator_validator_agree_iff (policy : EntryPolicy) :
    (∀ draws password, (generate (policy.resolveOver .defaultVault) draws).1 = .ok (.ok password) →
      validate password policy = ⟨true, []⟩) ↔
    ((policy.resolveOver .defaultVault).Generable →
      (policy.resolveOver .defaultVault).CountsSymbols) := by
  constructor
  · intro agree generable
    by_contra uncounted
    obtain ⟨draws, password, returned, unmarked⟩ := uncounted_password generable uncounted
    have accepted := agree draws password returned
    have met := ((generate_outcome _ draws).2 _ returned).2 password rfl
    have length := met.length
    have short := generable.short
    obtain ⟨_, _, _, sy⟩ := kindCounts_toNat password.toList (by omega)
    have none : password.toList.countP isAsciiPunctuation = 0 :=
      List.countP_eq_zero.mpr unmarked
    have issues := congrArg ValidationReport.issues accepted
    simp only [validate, ValidationReport.fromIssues, List.append_eq_nil_iff] at issues
    have enough := checkClass_eq_nil.mp issues.2
    rw [sy, none] at enough
    exact uncounted (.inl (UInt8.toNat_inj.mp (Nat.le_zero.mp enough)))
  · intro counts draws password returned
    obtain ⟨returns, met⟩ := (generate_outcome _ draws).2 _ returned
    have generable := returns.mp ⟨password, rfl⟩
    exact validate_of_metBy generable (counts generable) (met password rfl)

end Agreement

namespace Reference

/-- A policy whose only symbol is not ASCII punctuation. -/
def accented : EntryPolicy :=
  { EntryPolicy.default with
    charsetOverride :=
      some ⟨true, true, true, .custom ⟨['é'], List.pairwise_singleton _ _⟩, .empty⟩ }

end Reference

/-- A password that was generated for a policy whose only symbol is an accented letter is reported
to lack a symbol. -/
theorem accented_symbol_is_not_counted :
    ∃ draws password,
      (generate (Reference.accented.resolveOver .defaultVault) draws).1 = .ok (.ok password) ∧
      validate password Reference.accented =
        ⟨false, ["password has 0 symbol character(s); policy requires at least 1"]⟩ := by
  have facts : ((generate (Reference.accented.resolveOver .defaultVault)
      (List.replicate 79 0)).1.toOption.bind Except.toOption).map
        (fun password => validate password Reference.accented) =
      some ⟨false, ["password has 0 symbol character(s); policy requires at least 1"]⟩ := by
    decide +kernel
  obtain ⟨password, returned, report⟩ := Option.map_eq_some_iff.mp facts
  obtain ⟨outcome, returned, succeeded⟩ := Option.bind_eq_some_iff.mp returned
  obtain rfl := Op.ok_of_returned succeeded
  exact ⟨_, password, Op.ok_of_returned returned, report⟩

end Passman
