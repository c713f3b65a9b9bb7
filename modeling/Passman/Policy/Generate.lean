import Mathlib.Data.List.Perm.Subperm
import Passman.Lib.Draws
import Passman.Policy.Charset

/-!
# Password generation

A generated password places the minimum of each class first, fills up from the effective set and
shuffles. All randomness is 32-bit draws, and an index is drawn by rejecting draws above the
largest multiple of the bound. The request alone decides which rejection loops run and whether a
password is returned once they end, and every returned password meets its request.
-/
namespace Passman

open Fallible Drawing

/-- The shortest generated length. -/
def minLength : UInt16 := 16

/-- The longest generated length. -/
def maxLength : UInt16 := 256

/-- The sum of the minimums, wide enough not to overflow. -/
def RequiredClasses.total (classes : RequiredClasses) : UInt32 :=
  classes.minLowercase.toUInt32 + classes.minUppercase.toUInt32 + classes.minDigits.toUInt32 +
    classes.minSymbols.toUInt32

/-- The largest 32-bit number. -/
def u32Max : UInt32 := 4294967295

/-- A size as a 32-bit number; larger sizes saturate. -/
def saturate (size : Nat) : UInt32 := UInt32.ofNat (min size (2 ^ 32 - 1))

/-- Draw a number below the bound, rejecting the draws at or above its largest multiple; a zero
bound panics. -/
def drawBelow (bound : UInt32) : Draws UInt32 Nat :=
  if bound = 0 then Op.fail .panicked
  else
    let zone := u32Max - u32Max % bound
    firstThat fun draw => if draw < zone then some (draw % bound).toNat else none

/-- Select one character of a pool. -/
def uniformFrom (pool : List Char) : Draws UInt32 Char := do
  let index ← drawBelow (saturate pool.length)
  match pool[index]? with
  | some c => return c
  | none => Op.fail .panicked

/-- Exchange two places of the buffer; a place outside panics. -/
def swapAt (buf : Array Char) (i j : Nat) : Draws UInt32 (Array Char) :=
  if inside : i < buf.size ∧ j < buf.size then return buf.swap i j inside.1 inside.2
  else Op.fail .panicked

/-- Exchange each place from the given one down to the second with a drawn place not behind it. -/
def shuffleDown : Nat → Array Char → Draws UInt32 (Array Char)
  | 0, buf => return buf
  | i + 1, buf => do
    let j ← drawBelow (saturate (i + 2))
    let buf ← swapAt buf (i + 1) j
    shuffleDown i buf

/-- Shuffle the buffer. -/
def shuffle (buf : Array Char) : Draws UInt32 (Array Char) :=
  if buf.size < 2 then return buf else shuffleDown (buf.size - 1) buf

/-- Push a number of characters from a pool. -/
def pushFrom (pool : List Char) : Nat → Array Char → Draws UInt32 (Array Char)
  | 0, buf => return buf
  | count + 1, buf => do
    let c ← uniformFrom pool
    pushFrom pool count (buf.push c)

/-- A class with its minimum and its surviving characters. -/
structure ClassPool where
  /-- The name of the class. -/
  cls : String
  /-- How many of its characters are required. -/
  minimum : UInt8
  /-- The characters that survive the disallow list. -/
  pool : List Char

namespace GenerationRequest

/-- The four classes of a request. -/
def classPools (req : GenerationRequest) : List ClassPool :=
  [⟨"lowercase", req.requiredClasses.minLowercase, req.charset.effectiveLowercase⟩,
    ⟨"uppercase", req.requiredClasses.minUppercase, req.charset.effectiveUppercase⟩,
    ⟨"digits", req.requiredClasses.minDigits, req.charset.effectiveDigits⟩,
    ⟨"symbols", req.requiredClasses.minSymbols, req.charset.effectiveSymbols⟩]

end GenerationRequest

/-- Place the minimum of a class. -/
def placeMinimum (buf : Array Char) (cls : ClassPool) : Draws UInt32 (Array Char) :=
  pushFrom cls.pool cls.minimum.toNat buf

/-- Generate a password that satisfies the request. -/
def generate (req : GenerationRequest) : Draws UInt32 (Except PolicyError String) :=
  let length := req.length
  if ¬(minLength ≤ length ∧ length ≤ maxLength) then return .error (.lengthOutOfRange length)
  else
    let effective := req.charset.effectiveSet
    if effective.length < 2 then return .error .emptyCharset
    else
      let total := req.requiredClasses.total
      if length.toUInt32 < total then return .error (.impossibleConstraints total length)
      else
        match req.classPools.find? fun cls => 0 < cls.minimum ∧ cls.pool.isEmpty with
        | some cls => return .error (.requiredClassUnavailable cls.cls cls.minimum)
        | none => do
          let buf ← req.classPools.foldlM placeMinimum #[]
          let buf ← pushFrom effective (length.toNat - buf.size) buf
          let buf ← shuffle buf
          return .ok (String.ofList buf.toList)

/-- Whether a draw is accepted as an index below a size. -/
def acceptsBelow (size : Nat) (draw : UInt32) : Bool := draw < u32Max - u32Max % saturate size

/-- The rejection loops that place the minimum of a class. -/
def placeLoops (cls : ClassPool) : List (UInt32 → Bool) :=
  List.replicate cls.minimum.toNat (acceptsBelow cls.pool.length)

/-- The rejection loops of a shuffle from the given place down. -/
def shuffleLoops : Nat → List (UInt32 → Bool)
  | 0 => []
  | i + 1 => acceptsBelow (i + 2) :: shuffleLoops i

/-- The rejection loops that run for a request that is not refused: those of the minimums, those
that fill up, and those of the shuffle. -/
def GenerationRequest.loops (req : GenerationRequest) : List (UInt32 → Bool) :=
  let required := (req.classPools.map fun cls => cls.minimum.toNat).sum
  req.classPools.flatMap placeLoops ++
    (List.replicate (req.length.toNat - required) (acceptsBelow req.charset.effectiveSet.length) ++
      shuffleLoops (req.length.toNat - 1))

/-- A request for which a password is generated. -/
structure GenerationRequest.Generable (req : GenerationRequest) : Prop where
  /-- The length is at least the shortest. -/
  long : 16 ≤ req.length.toNat
  /-- The length is at most the longest. -/
  short : req.length.toNat ≤ 256
  /-- The effective set has at least two characters. -/
  varied : 2 ≤ req.charset.effectiveSet.length
  /-- The minimums sum to at most the length. -/
  possible : (req.classPools.map fun cls => cls.minimum.toNat).sum ≤ req.length.toNat
  /-- A class with a minimum has characters left. -/
  available : ∀ cls ∈ req.classPools, 0 < cls.minimum → cls.pool ≠ []

section Sampling

/-- The bound of a saturated size is positive for a positive size, and does not exceed it. -/
theorem saturate_toNat (size : Nat) : (saturate size).toNat = min size (2 ^ 32 - 1) := by
  rw [saturate, UInt32.toNat_ofNat']
  omega

/-- A draw below a positive bound is one loop and stays below the bound. -/
theorem drawBelow_paced {size : Nat} (positive : 0 < size) :
    Paced [acceptsBelow size] (· < size) (drawBelow (saturate size)) := by
  have bound := saturate_toNat size
  have nonzero : saturate size ≠ 0 := by
    intro zero
    rw [zero] at bound
    have none : (0 : UInt32).toNat = 0 := rfl
    omega
  have loop : acceptsBelow size = fun draw =>
      (if draw < u32Max - u32Max % saturate size then some (draw % saturate size).toNat
        else none).isSome := by
    funext draw
    rw [acceptsBelow]
    split
    · next accepted => exact decide_eq_true accepted
    · next rejected => exact decide_eq_false rejected
  rw [drawBelow, if_neg nonzero, loop]
  refine paced_firstThat fun draw value accepted => ?_
  split at accepted
  · obtain rfl := Option.some.inj accepted
    rw [UInt32.toNat_mod, bound]
    have below : draw.toNat % min size (2 ^ 32 - 1) < min size (2 ^ 32 - 1) :=
      Nat.mod_lt _ (by omega)
    omega
  · cases accepted

/-- A character is selected from a pool that has some. -/
theorem uniformFrom_paced {pool : List Char} (some : pool ≠ []) :
    Paced [acceptsBelow pool.length] (· ∈ pool) (uniformFrom pool) := by
  have positive : 0 < pool.length := List.length_pos_iff.mpr some
  rw [← List.append_nil [acceptsBelow pool.length]]
  refine paced_bind (drawBelow_paced positive) fun index below => ?_
  rw [List.getElem?_eq_getElem below]
  exact paced_pure (List.getElem_mem below)

/-- Characters that are pushed from a pool come behind the buffer. -/
theorem pushFrom_paced {pool : List Char} {count : Nat} (some : 0 < count → pool ≠ [])
    (buf : Array Char) :
    Paced (List.replicate count (acceptsBelow pool.length))
      (fun after => ∃ added, after.toList = buf.toList ++ added ∧ added.length = count ∧
        ∀ c ∈ added, c ∈ pool) (pushFrom pool count buf) := by
  induction count generalizing buf with
  | zero => exact paced_pure ⟨[], (List.append_nil _).symm, rfl, by simp⟩
  | succ count ih =>
    refine paced_bind (uniformFrom_paced (some count.succ_pos)) fun c member => ?_
    refine (ih (fun _ => some count.succ_pos) (buf.push c)).mono fun after pushed => ?_
    obtain ⟨added, same, counted, members⟩ := pushed
    refine ⟨c :: added, ?_, ?_, ?_⟩
    · rw [same, Array.toList_push, List.append_assoc, List.singleton_append]
    · rw [List.length_cons, counted]
    · exact List.forall_mem_cons.mpr ⟨member, members⟩

/-- A shuffle permutes the buffer. -/
theorem shuffleDown_paced {i : Nat} {buf : Array Char} (inside : i < buf.size) :
    Paced (shuffleLoops i) (fun after => after.toList.Perm buf.toList) (shuffleDown i buf) := by
  induction i generalizing buf with
  | zero => exact paced_pure (List.Perm.refl _)
  | succ i ih =>
    have positive : 0 < i + 2 := by omega
    refine paced_bind (drawBelow_paced positive) fun j below => ?_
    have both : i + 1 < buf.size ∧ j < buf.size := ⟨inside, by omega⟩
    have swapped := Array.swap_perm both.1 both.2
    have next : i < (buf.swap (i + 1) j both.1 both.2).size := by
      rw [Array.size_swap]
      omega
    have exchanged : Paced [] (· = buf.swap (i + 1) j both.1 both.2) (swapAt buf (i + 1) j) := by
      rw [swapAt, dif_pos both]
      exact paced_pure rfl
    refine paced_bind exchanged ?_
    rintro _ rfl
    exact (ih next).mono fun after permuted => permuted.trans swapped.toList

end Sampling

section Generation

variable {req : GenerationRequest}

/-- The sum of the minimums does not overflow. -/
theorem RequiredClasses.total_toNat (req : GenerationRequest) :
    req.requiredClasses.total.toNat = (req.classPools.map fun cls => cls.minimum.toNat).sum := by
  have lower := req.requiredClasses.minLowercase.toNat_lt
  have upper := req.requiredClasses.minUppercase.toNat_lt
  have digit := req.requiredClasses.minDigits.toNat_lt
  have symbol := req.requiredClasses.minSymbols.toNat_lt
  simp only [RequiredClasses.total, GenerationRequest.classPools, UInt32.toNat_add,
    UInt8.toNat_toUInt32, List.map_cons, List.map_nil, List.sum_cons, List.sum_nil]
  omega

/-- The characters of a class of the request are in the effective set. -/
theorem mem_effectiveSet_of_classPools {cls : ClassPool} (member : cls ∈ req.classPools) {c : Char}
    (inside : c ∈ cls.pool) : c ∈ req.charset.effectiveSet := by
  rw [Charset.mem_effectiveSet]
  simp only [GenerationRequest.classPools, List.mem_cons, List.not_mem_nil, or_false] at member
  rcases member with rfl | rfl | rfl | rfl
  · exact .inl inside
  · exact .inr (.inl inside)
  · exact .inr (.inr (.inl inside))
  · exact .inr (.inr (.inr inside))

/-- A request is generable exactly when it passes the four checks. -/
theorem generable_iff : req.Generable ↔
    (minLength ≤ req.length ∧ req.length ≤ maxLength) ∧ ¬req.charset.effectiveSet.length < 2 ∧
      ¬req.length.toUInt32 < req.requiredClasses.total ∧
      req.classPools.find? (fun cls => 0 < cls.minimum ∧ cls.pool.isEmpty) = none := by
  have total := RequiredClasses.total_toNat req
  have least : minLength.toNat = 16 := rfl
  have most : maxLength.toNat = 256 := rfl
  rw [UInt16.le_iff_toNat_le, UInt16.le_iff_toNat_le, UInt32.lt_iff_toNat_lt,
    UInt16.toNat_toUInt32, total, least, most, List.find?_eq_none]
  constructor
  · intro generable
    refine ⟨⟨generable.long, generable.short⟩, Nat.not_lt.mpr generable.varied,
      Nat.not_lt.mpr generable.possible, fun cls member => ?_⟩
    have available := generable.available cls member
    simpa using available
  · rintro ⟨⟨long, short⟩, varied, possible, available⟩
    refine ⟨long, short, Nat.not_lt.mp varied, Nat.not_lt.mp possible,
      fun cls member required => ?_⟩
    have left := available cls member
    simpa [required] using left

/-- A request that is not generable is refused without a draw. -/
theorem generate_refused (refused : ¬req.Generable) :
    ∃ error, generate req = pure (.error error) := by
  rw [generable_iff] at refused
  by_cases bounded : minLength ≤ req.length ∧ req.length ≤ maxLength
  · by_cases varied : req.charset.effectiveSet.length < 2
    · exact ⟨_, by rw [generate, if_neg (not_not_intro bounded), if_pos varied]⟩
    · by_cases excessive : req.length.toUInt32 < req.requiredClasses.total
      · exact ⟨_, by
          rw [generate, if_neg (not_not_intro bounded), if_neg varied]
          exact if_pos excessive⟩
      · cases found : req.classPools.find? fun cls => 0 < cls.minimum ∧ cls.pool.isEmpty with
        | none => exact absurd ⟨bounded, varied, excessive, found⟩ refused
        | some cls => exact ⟨.requiredClassUnavailable cls.cls cls.minimum, by
            rw [generate, if_neg (not_not_intro bounded), if_neg varied]
            simp only [if_neg excessive, found]⟩
  · exact ⟨_, by rw [generate, if_pos bounded]⟩

/-- The password of a generable request: place the minimums, fill up, shuffle. -/
theorem generate_eq (generable : req.Generable) :
    generate req = do
      let buf ← req.classPools.foldlM placeMinimum #[]
      let buf ← pushFrom req.charset.effectiveSet (req.length.toNat - buf.size) buf
      let buf ← shuffle buf
      return .ok (String.ofList buf.toList) := by
  obtain ⟨bounded, varied, possible, available⟩ := generable_iff.mp generable
  rw [generate, if_neg (not_not_intro bounded), if_neg varied]
  simp only [if_neg possible, available]

/-- What the placed minimums of some classes satisfy: every character is of one of the classes,
there are as many as required in all, and at least the minimum of each class. -/
structure Placed (front : List ClassPool) (buf : List Char) : Prop where
  /-- Every character is of one of the classes. -/
  members : ∀ c ∈ buf, ∃ cls ∈ front, c ∈ cls.pool
  /-- There are as many characters as required in all. -/
  counted : buf.length = (front.map fun cls => cls.minimum.toNat).sum
  /-- There are at least the minimum of each class. -/
  minimums : ∀ cls ∈ front, cls.minimum.toNat ≤ buf.countP (· ∈ cls.pool)

/-- Placing one more class. -/
theorem Placed.snoc {front : List ClassPool} {buf added : List Char} {cls : ClassPool}
    (placed : Placed front buf) (counted : added.length = cls.minimum.toNat)
    (inside : ∀ c ∈ added, c ∈ cls.pool) : Placed (front ++ [cls]) (buf ++ added) where
  members := by
    intro c member
    rcases List.mem_append.mp member with earlier | last
    · obtain ⟨other, known, inPool⟩ := placed.members c earlier
      exact ⟨other, List.mem_append_left _ known, inPool⟩
    · exact ⟨cls, List.mem_append_right _ List.mem_cons_self, inside c last⟩
  counted := by
    simp [placed.counted, counted]
  minimums := by
    intro other member
    rw [List.countP_append]
    rcases List.mem_append.mp member with earlier | last
    · have kept := placed.minimums other earlier
      omega
    · obtain rfl := List.mem_singleton.mp last
      have all : added.countP (· ∈ other.pool) = added.length :=
        List.countP_eq_length.mpr fun c within => decide_eq_true (inside c within)
      omega

/-- The minimums of the classes of a generable request are placed. -/
theorem placeMinimums_paced (generable : req.Generable) :
    Paced (req.classPools.flatMap placeLoops)
      (fun buf : Array Char => Placed req.classPools buf.toList)
      (req.classPools.foldlM placeMinimum #[]) := by
  refine paced_foldlM (fun front (buf : Array Char) => Placed front buf.toList) ?_ ?_
  · exact ⟨by simp, rfl, by simp⟩
  · intro front cls buf leads placed
    have member : cls ∈ req.classPools := leads.subset (by simp)
    have available : 0 < cls.minimum.toNat → cls.pool ≠ [] := fun required =>
      generable.available cls member (UInt8.lt_iff_toNat_lt.mpr required)
    refine (pushFrom_paced available buf).mono fun after pushed => ?_
    obtain ⟨added, same, counted, inside⟩ := pushed
    rw [same]
    exact placed.snoc counted inside

/-- What a password of a request satisfies. -/
structure GenerationRequest.MetBy (req : GenerationRequest) (password : List Char) : Prop where
  /-- It has the requested length. -/
  length : password.length = req.length.toNat
  /-- Every character is in the effective set. -/
  effective : ∀ c ∈ password, c ∈ req.charset.effectiveSet
  /-- Each class has at least its minimum. -/
  minimums : ∀ cls ∈ req.classPools, cls.minimum.toNat ≤ password.countP (· ∈ cls.pool)

/-- Filling up the placed minimums from the effective set meets the request. -/
theorem Placed.filled (generable : req.Generable) {buf added : List Char}
    (placed : Placed req.classPools buf) (counted : added.length = req.length.toNat - buf.length)
    (inside : ∀ c ∈ added, c ∈ req.charset.effectiveSet) : req.MetBy (buf ++ added) where
  length := by
    have possible := generable.possible
    have size := placed.counted
    rw [List.length_append, counted]
    omega
  effective := by
    intro c member
    rcases List.mem_append.mp member with placedHere | filledIn
    · obtain ⟨cls, known, inPool⟩ := placed.members c placedHere
      exact mem_effectiveSet_of_classPools known inPool
    · exact inside c filledIn
  minimums := by
    intro cls member
    have kept := placed.minimums cls member
    rw [List.countP_append]
    omega

/-- Whether a password meets a request does not depend on the order of its characters. -/
theorem GenerationRequest.MetBy.perm {password other : List Char} (met : req.MetBy password)
    (same : other.Perm password) : req.MetBy other where
  length := same.length_eq.trans met.length
  effective c member := met.effective c (same.mem_iff.mp member)
  minimums cls member := by
    rw [same.countP_eq]
    exact met.minimums cls member

/-- The password of a generable request meets it. -/
theorem generate_paced (generable : req.Generable) :
    Paced req.loops
      (fun outcome => ∃ password : String, outcome = .ok password ∧ req.MetBy password.toList)
      (generate req) := by
  have some : req.charset.effectiveSet ≠ [] := by
    intro none
    have varied := generable.varied
    rw [none] at varied
    exact absurd varied (by decide)
  rw [generate_eq generable, GenerationRequest.loops]
  refine paced_bind (placeMinimums_paced generable) fun buf placed => ?_
  have size := placed.counted
  rw [Array.length_toList] at size
  rw [← size]
  refine paced_bind (pushFrom_paced (fun _ => some) buf) fun filled pushed => ?_
  obtain ⟨added, same, counted, inside⟩ := pushed
  have met : req.MetBy filled.toList := by
    rw [same]
    exact placed.filled generable counted inside
  have whole : filled.size = req.length.toNat := Array.length_toList.symm.trans met.length
  have long := generable.long
  have shuffled : Paced (shuffleLoops (req.length.toNat - 1))
      (fun buf : Array Char => buf.toList.Perm filled.toList) (shuffle filled) := by
    rw [shuffle, if_neg (by omega), ← whole]
    exact shuffleDown_paced (by omega)
  rw [← List.append_nil (shuffleLoops _)]
  refine paced_bind shuffled fun buf permuted => ?_
  refine paced_pure ⟨_, rfl, ?_⟩
  rw [String.toList_ofList]
  exact met.perm permuted

/-- Generation does not panic. If it does not wait for more draws, it returns a password exactly
for a generable request, and the password then meets the request. -/
theorem generate_outcome (req : GenerationRequest) (draws : List UInt32) :
    (generate req draws).1 ≠ .error .panicked ∧
    ∀ outcome, (generate req draws).1 = .ok outcome →
      ((∃ password, outcome = .ok password) ↔ req.Generable) ∧
      ∀ password : String, outcome = .ok password → req.MetBy password.toList := by
  by_cases generable : req.Generable
  · have paced := generate_paced generable
    refine ⟨paced.no_panic draws, fun outcome same => ?_⟩
    have ran : generate req draws = (.ok outcome, (generate req draws).2) := Prod.ext same rfl
    obtain ⟨password, rfl, met⟩ := paced.returned ran
    refine ⟨iff_of_true ⟨password, rfl⟩ generable, fun other same => ?_⟩
    obtain rfl := Except.ok.inj same
    exact met
  · obtain ⟨error, refused⟩ := generate_refused generable
    rw [refused]
    refine ⟨nofun, fun _ same => ?_⟩
    obtain rfl := Except.ok.inj same
    refine ⟨iff_of_false ?_ generable, ?_⟩
    · rintro ⟨_, clash⟩
      cases clash
    · rintro _ clash
      cases clash

end Generation

section Choices

/-- Distinct characters fit the range of a draw. -/
theorem length_lt_of_nodup {pool : List Char} (distinct : pool.Nodup) : pool.length < 2 ^ 32 := by
  have injective : Function.Injective Char.toNat := fun _ _ same => Char.toNat_inj.mp same
  have within : pool.map Char.toNat ⊆ List.range 1114112 := by
    intro code member
    obtain ⟨c, _, rfl⟩ := List.mem_map.mp member
    rw [List.mem_range]
    rcases c.valid with low | ⟨_, high⟩
    · exact Nat.lt_trans low (by decide)
    · exact high
  have most := (List.subperm_of_subset (distinct.map injective) within).length_le
  rw [List.length_map, List.length_range] at most
  omega

/-- Every number below a bound in range can be drawn. -/
theorem drawBelow_canReturn {size index : Nat} (below : index < size) (small : size < 2 ^ 32) :
    CanReturn (drawBelow (saturate size)) index := by
  have bound : (saturate size).toNat = size := by
    rw [saturate_toNat]
    omega
  have nonzero : saturate size ≠ 0 := by
    intro zero
    rw [zero] at bound
    have none : (0 : UInt32).toNat = 0 := rfl
    omega
  have draw : (UInt32.ofNat index).toNat = index := by
    rw [UInt32.toNat_ofNat']
    omega
  have top : u32Max.toNat = 2 ^ 32 - 1 := rfl
  have multiple := Nat.div_add_mod (2 ^ 32 - 1) size
  have remainder : (2 ^ 32 - 1) % size < size := Nat.mod_lt _ (by omega)
  have once : 0 < (2 ^ 32 - 1) / size := Nat.div_pos (by omega) (by omega)
  have several : size ≤ size * ((2 ^ 32 - 1) / size) := Nat.le_mul_of_pos_right size once
  have accepted : UInt32.ofNat index < u32Max - u32Max % saturate size := by
    rw [UInt32.lt_iff_toNat_lt, UInt32.toNat_sub_of_le, UInt32.toNat_mod, bound, draw, top]
    · omega
    · rw [UInt32.le_iff_toNat_le, UInt32.toNat_mod, bound, top]
      omega
  rw [drawBelow, if_neg nonzero]
  refine canReturn_firstThat (UInt32.ofNat index) ?_
  rw [if_pos accepted, UInt32.toNat_mod, bound, draw, Nat.mod_eq_of_lt below]

/-- Every character of a pool in range can be selected. -/
theorem uniformFrom_canReturn {pool : List Char} (small : pool.length < 2 ^ 32) {c : Char}
    (member : c ∈ pool) : CanReturn (uniformFrom pool) c := by
  obtain ⟨index, below, rfl⟩ := List.getElem_of_mem member
  refine canReturn_bind (drawBelow_canReturn below small) ?_
  rw [List.getElem?_eq_getElem below]
  exact canReturn_pure _

/-- The same character of a pool can be pushed every time. -/
theorem pushFrom_canReturn {pool : List Char} (small : pool.length < 2 ^ 32) {c : Char}
    (count : Nat) (member : 0 < count → c ∈ pool) (buf : Array Char) :
    ∃ after : Array Char, CanReturn (pushFrom pool count buf) after ∧
      after.toList = buf.toList ++ List.replicate count c := by
  induction count generalizing buf with
  | zero => exact ⟨buf, canReturn_pure _, (List.append_nil _).symm⟩
  | succ count ih =>
    obtain ⟨after, pushed, same⟩ := ih (fun _ => member count.succ_pos) (buf.push c)
    have first := uniformFrom_canReturn small (member count.succ_pos)
    refine ⟨after, canReturn_bind first pushed, ?_⟩
    rw [same, Array.toList_push, List.append_assoc, List.replicate_succ, List.singleton_append]

/-- A shuffle can return. -/
theorem shuffleDown_canReturn {i : Nat} {buf : Array Char} (inside : i < buf.size)
    (small : buf.size < 2 ^ 32) : ∃ after, CanReturn (shuffleDown i buf) after := by
  induction i generalizing buf with
  | zero => exact ⟨buf, canReturn_pure _⟩
  | succ i ih =>
    have both : i + 1 < buf.size ∧ 0 < buf.size := ⟨inside, by omega⟩
    have size : (buf.swap (i + 1) 0 both.1 both.2).size = buf.size := Array.size_swap
    obtain ⟨after, rest⟩ := ih (by rw [size]; omega) (by rw [size]; exact small)
    have drawn : CanReturn (drawBelow (saturate (i + 2))) 0 :=
      drawBelow_canReturn (by omega) (by omega)
    refine ⟨after, canReturn_bind drawn (canReturn_bind ?_ rest)⟩
    rw [swapAt, dif_pos both]
    exact canReturn_pure _

/-- If every class with a minimum has a wanted character, only wanted characters can be placed. -/
theorem placeMinimums_canReturn {wanted : Char → Prop} {classes : List ClassPool}
    (small : ∀ cls ∈ classes, cls.pool.length < 2 ^ 32)
    (available : ∀ cls ∈ classes, 0 < cls.minimum → ∃ c ∈ cls.pool, wanted c) (buf : Array Char)
    (before : ∀ c ∈ buf.toList, wanted c) :
    ∃ after : Array Char, CanReturn (classes.foldlM placeMinimum buf) after ∧
      ∀ c ∈ after.toList, wanted c := by
  induction classes generalizing buf with
  | nil => exact ⟨buf, canReturn_pure _, before⟩
  | cons cls classes ih =>
    rw [List.forall_mem_cons] at small available
    have placed : ∃ after : Array Char, CanReturn (placeMinimum buf cls) after ∧
        ∀ c ∈ after.toList, wanted c := by
      by_cases required : 0 < cls.minimum
      · obtain ⟨c, member, good⟩ := available.1 required
        obtain ⟨after, pushed, same⟩ := pushFrom_canReturn small.1 _ (fun _ => member) buf
        refine ⟨after, pushed, fun other within => ?_⟩
        rw [same] at within
        rcases List.mem_append.mp within with earlier | last
        · exact before other earlier
        · rw [List.eq_of_mem_replicate last]
          exact good
      · have none : cls.minimum.toNat = 0 := by
          rw [UInt8.lt_iff_toNat_lt] at required
          have zero : (0 : UInt8).toNat = 0 := rfl
          omega
        refine ⟨buf, ?_, before⟩
        rw [placeMinimum, none]
        exact canReturn_pure _
    obtain ⟨middle, first, good⟩ := placed
    obtain ⟨after, rest, all⟩ := ih small.2 available.2 middle good
    rw [List.foldlM_cons]
    exact ⟨after, canReturn_bind first rest, all⟩

/-- The pools of a request are in range. -/
theorem classPools_small (req : GenerationRequest) :
    ∀ cls ∈ req.classPools, cls.pool.length < 2 ^ 32 := by
  have short (enabled : Bool) (cls : List Char) (few : cls.length < 2 ^ 32) :
      (req.charset.filterClass enabled cls).length < 2 ^ 32 := by
    cases enabled with
    | false => exact Nat.two_pow_pos 32
    | true => exact Nat.lt_of_le_of_lt (List.length_filter_le _ _) few
  intro cls member
  simp only [GenerationRequest.classPools, List.mem_cons, List.not_mem_nil, or_false] at member
  rcases member with rfl | rfl | rfl | rfl
  · exact short _ _ (by decide)
  · exact short _ _ (by decide)
  · exact short _ _ (by decide)
  · exact length_lt_of_nodup req.charset.effectiveSymbols_nodup

/-- If every class with a minimum has a wanted character, and so has the effective set, a generable
request can be met with wanted characters only. -/
theorem generate_canReturn {req : GenerationRequest} (generable : req.Generable)
    (wanted : Char → Prop)
    (available : ∀ cls ∈ req.classPools, 0 < cls.minimum → ∃ c ∈ cls.pool, wanted c)
    (filler : ∃ c ∈ req.charset.effectiveSet, wanted c) :
    ∃ draws password, (generate req draws).1 = .ok (.ok password) ∧
      ∀ c ∈ password.toList, wanted c := by
  obtain ⟨c, member, good⟩ := filler
  obtain ⟨placed, first, placedGood⟩ :=
    placeMinimums_canReturn (classPools_small req) available #[] (by simp)
  obtain ⟨filled, second, same⟩ := pushFrom_canReturn
    (length_lt_of_nodup req.charset.effectiveSet_nodup) (req.length.toNat - placed.size)
    (fun _ => member) placed
  have filledGood : ∀ other ∈ filled.toList, wanted other := by
    intro other within
    rw [same] at within
    rcases List.mem_append.mp within with earlier | last
    · exact placedGood other earlier
    · rw [List.eq_of_mem_replicate last]
      exact good
  have placedSize : placed.size ≤ req.length.toNat := by
    obtain ⟨_, ran⟩ := first.ran
    have counted := ((placeMinimums_paced generable).returned ran).counted
    rw [Array.length_toList] at counted
    have possible := generable.possible
    omega
  have size : filled.size = req.length.toNat := by
    rw [← Array.length_toList, same, List.length_append, List.length_replicate,
      Array.length_toList]
    omega
  have long := generable.long
  have short := generable.short
  have several : ¬filled.size < 2 := by omega
  have last : filled.size - 1 < filled.size := by omega
  obtain ⟨after, third⟩ := shuffleDown_canReturn last (by omega)
  obtain ⟨_, ran⟩ := third.ran
  have permuted := (shuffleDown_paced last).returned ran
  have shuffled : CanReturn (shuffle filled) after := by
    rw [shuffle, if_neg several]
    exact third
  have whole : CanReturn (generate req) (.ok (String.ofList after.toList)) := by
    rw [generate_eq generable]
    refine canReturn_bind first ?_
    refine canReturn_bind second ?_
    exact canReturn_bind shuffled (canReturn_pure _)
  obtain ⟨draws, done⟩ := whole.ran
  refine ⟨draws, _, congrArg Prod.fst done, fun other within => ?_⟩
  rw [String.toList_ofList] at within
  exact filledGood other (permuted.mem_iff.mp within)

end Choices

/-- A request that is not generable is refused whatever is drawn. For a generable request, if every
rejection loop finds a draw that it accepts, a password is returned that has the requested length,
only characters of the effective set, and the minimum of each class; otherwise generation waits for
more draws. -/
theorem generate_meets_policy (req : GenerationRequest) (draws : List UInt32) :
    (¬req.Generable → ∃ error, (generate req draws).1 = .ok (.error error)) ∧
    (req.Generable →
      (loopsEnd req.loops draws = true → ∃ password : String,
        (generate req draws).1 = .ok (.ok password) ∧ req.MetBy password.toList) ∧
      (loopsEnd req.loops draws = false → (generate req draws).1 = .error .waiting)) := by
  constructor
  · intro refused
    obtain ⟨error, same⟩ := generate_refused refused
    exact ⟨error, by rw [same]; rfl⟩
  · intro generable
    have paced := generate_paced generable
    refine ⟨fun ends => ?_, paced.waits⟩
    obtain ⟨_, returned, password, rfl, met⟩ := paced.returns ends
    exact ⟨password, returned, met⟩

namespace Reference

/-- Draws whose first is rejected by every loop. -/
def drawn : List UInt32 := u32Max :: List.replicate 79 0

/-- A request for a length, with one character of each class. -/
def ofLength (length : UInt16) : GenerationRequest := ⟨length, .defaultVault, .oneOfEach⟩

end Reference

/-- A request for forty characters is met after a rejected draw, and a request below the shortest
length is refused without a draw. -/
theorem generate_meets_policy_default :
    (∃ password : String,
      (generate (Reference.ofLength 40) Reference.drawn).1 = .ok (.ok password) ∧
        (Reference.ofLength 40).MetBy password.toList) ∧
      ∃ error, (generate (Reference.ofLength 15) []).1 = .ok (.error error) := by
  have generable : (Reference.ofLength 40).Generable := generable_iff.mpr (by decide +kernel)
  have refused : ¬(Reference.ofLength 15).Generable := fun clash => absurd clash.long (by decide)
  constructor
  · exact ((generate_meets_policy _ Reference.drawn).2 generable).1 (by decide +kernel)
  · exact (generate_meets_policy _ []).1 refused

end Passman
