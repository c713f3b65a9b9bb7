import Passman.Lib.Bytes

/-!
# Bounds-checked cursors and parsers with an exact grammar

A cursor never stands past the end of its buffer: the bound is a field. A parser
is described by the grammar of the bytes it consumes, in both directions at once:
it succeeds exactly on a prefix the grammar admits, and advances exactly past it.
Sequencing, checks and counted loops each have one rule, so the description of a
format parser is assembled in the order of its fields.
-/
namespace Bytewise

/-- A read position in a buffer. -/
structure Reader where
  /-- The whole input. -/
  buf : Bytes
  /-- Bytes consumed so far. -/
  pos : Nat
  /-- The cursor never stands past the end. -/
  inside : pos ≤ buf.length

/-- The two failures a cursor reports itself. -/
class ReadError (ε : Type) where
  /-- A field reached past the end of the input; the offset is where it began. -/
  truncated : String → Nat → ε
  /-- Bytes remained after the last field. -/
  trailing : Nat → ε

/-- A parser threads a cursor and stops at the first error. -/
abbrev Parser (ε : Type) := StateT Reader (Except ε)

namespace Reader

/-- A cursor at the start of a buffer. -/
def new (buf : Bytes) : Reader := ⟨buf, 0, Nat.zero_le _⟩

/-- Bytes not yet consumed. -/
def remaining (reader : Reader) : Nat := reader.buf.length - reader.pos

/-- The unconsumed suffix. -/
def rest (reader : Reader) : Bytes := reader.buf.drop reader.pos

/-- Move past `n` bytes that are known to remain. -/
def advance (reader : Reader) (n : Nat) (enough : n ≤ reader.remaining) : Reader :=
  ⟨reader.buf, reader.pos + n, by have := reader.inside; unfold remaining at enough; omega⟩

/-- The suffix is as long as the count of remaining bytes. -/
@[simp] theorem rest_length (reader : Reader) : reader.rest.length = reader.remaining :=
  List.length_drop

/-- Bytes that remain can be cut off in front. -/
theorem length_take_rest {reader : Reader} {n : Nat} (enough : n ≤ reader.remaining) :
    (reader.rest.take n).length = n := by
  rw [List.length_take, rest_length, Nat.min_eq_left enough]

/-- A fresh cursor has the whole buffer before it. -/
@[simp] theorem new_rest (buf : Bytes) : (new buf).rest = buf := rfl

/-- Advancing drops the consumed bytes from the suffix. -/
@[simp] theorem advance_rest (reader : Reader) (n : Nat) (enough : n ≤ reader.remaining) :
    (reader.advance n enough).rest = reader.rest.drop n := by
  simp only [rest, advance, List.drop_drop]

/-- `after` stands exactly behind `bytes`, the next bytes of `before`. -/
structure Consumes (before : Reader) (bytes : Bytes) (after : Reader) : Prop where
  /-- The input is shared. -/
  buf : after.buf = before.buf
  /-- The position moves by the consumed length. -/
  pos : after.pos = before.pos + bytes.length
  /-- The consumed bytes are the ones that stood next. -/
  rest : before.rest = bytes ++ after.rest

/-- Consuming nothing leaves the cursor. -/
theorem consumes_nil {before after : Reader} :
    before.Consumes [] after ↔ after = before := by
  constructor
  · rintro ⟨buf, pos, _⟩
    cases before
    cases after
    simp_all
  · rintro rfl
    exact ⟨rfl, rfl, rfl⟩

/-- Consumption composes. -/
theorem Consumes.trans {first second third : Reader} {left right : Bytes}
    (head : first.Consumes left second) (tail : second.Consumes right third) :
    first.Consumes (left ++ right) third where
  buf := tail.buf.trans head.buf
  pos := by rw [tail.pos, head.pos, List.length_append, Nat.add_assoc]
  rest := by rw [head.rest, tail.rest, List.append_assoc]

/-- Consumption of a concatenation passes through the cursor between the parts. -/
theorem consumes_append {first third : Reader} {left right : Bytes} :
    first.Consumes (left ++ right) third ↔
      ∃ second, first.Consumes left second ∧ second.Consumes right third := by
  constructor
  · intro whole
    have lengths := congrArg List.length whole.rest
    simp only [rest_length, List.length_append] at lengths
    refine ⟨first.advance left.length (by omega), ⟨rfl, rfl, ?_⟩, ⟨whole.buf, ?_, ?_⟩⟩
    · simp [whole.rest]
    · rw [whole.pos, List.length_append, advance, Nat.add_assoc]
    · simp [whole.rest]
  · rintro ⟨second, head, tail⟩
    exact head.trans tail

/-- The consumed bytes and the cursor behind them determine each other. -/
theorem Consumes.unique {before left right : Reader} {bytes : Bytes}
    (one : before.Consumes bytes left) (other : before.Consumes bytes right) : left = right := by
  have buf := one.buf.trans other.buf.symm
  have pos := one.pos.trans other.pos.symm
  cases left
  cases right
  simp_all

end Reader

/-- The bytes that denote each value. -/
abbrev Grammar (α : Type) := α → Bytes → Prop

/-- A parser succeeds exactly on the prefixes its grammar admits and stops right behind them. -/
def Parses {ε α : Type} (parser : Parser ε α) (grammar : Grammar α) : Prop :=
  ∀ before value after, parser before = .ok (value, after) ↔
    ∃ bytes, grammar value bytes ∧ before.Consumes bytes after

section Rules

variable {ε α β : Type}

/-- Returning a value consumes nothing. -/
theorem parses_pure (value : α) :
    Parses (pure value : Parser ε α) (fun found bytes => found = value ∧ bytes = []) := by
  intro before found after
  change Except.ok (value, before) = Except.ok (found, after) ↔ _
  constructor
  · intro same
    obtain ⟨rfl, rfl⟩ := Prod.mk.inj (Except.ok.inj same)
    exact ⟨[], ⟨rfl, rfl⟩, Reader.consumes_nil.mpr rfl⟩
  · rintro ⟨_, ⟨rfl, rfl⟩, consumed⟩
    rw [Reader.consumes_nil.mp consumed]

/-- A parser that always fails has the empty grammar. -/
theorem parses_throw (error : ε) :
    Parses (throw error : Parser ε α) (fun _ _ => False) := by
  intro before found after
  change Except.error error = Except.ok (found, after) ↔ _
  simp

/-- A bind succeeds through the success of both parts. -/
theorem bind_ok_iff (parser : Parser ε α) (next : α → Parser ε β) (before after : Reader)
    (result : β) : (parser >>= next) before = .ok (result, after) ↔
      ∃ value middle, parser before = .ok (value, middle) ∧
        next value middle = .ok (result, after) := by
  change (parser before >>= fun pair => next pair.1 pair.2) = _ ↔ _
  cases parser before with
  | error error => simp [bind, Except.bind]
  | ok pair =>
    obtain ⟨value, middle⟩ := pair
    simp [bind, Except.bind]

/-- A bind continues from a success of the first part. -/
theorem bind_run_ok {parser : Parser ε α} {next : α → Parser ε β} {before middle : Reader}
    {value : α} (ran : parser before = .ok (value, middle)) :
    (parser >>= next) before = next value middle := by
  change (parser before >>= fun pair => next pair.1 pair.2) = _
  rw [ran]
  rfl

/-- A bind stops at an error of the first part. -/
theorem bind_run_error {parser : Parser ε α} {next : α → Parser ε β} {before : Reader} {error : ε}
    (ran : parser before = .error error) : (parser >>= next) before = .error error := by
  change (parser before >>= fun pair => next pair.1 pair.2) = _
  rw [ran]
  rfl

/-- Sequencing concatenates the bytes of the parts. -/
theorem parses_bind {parser : Parser ε α} {grammar : Grammar α} {next : α → Parser ε β}
    {later : α → Grammar β} (first : Parses parser grammar)
    (second : ∀ value, Parses (next value) (later value)) :
    Parses (parser >>= next) (fun result bytes => ∃ value head tail,
      grammar value head ∧ later value result tail ∧ bytes = head ++ tail) := by
  intro before result after
  rw [bind_ok_iff]
  constructor
  · rintro ⟨value, middle, run, continued⟩
    obtain ⟨head, denoted, consumed⟩ := (first _ _ _).mp run
    obtain ⟨tail, followed, remaining⟩ := (second value _ _ _).mp continued
    exact ⟨head ++ tail, ⟨value, head, tail, denoted, followed, rfl⟩, consumed.trans remaining⟩
  · rintro ⟨_, ⟨value, head, tail, denoted, followed, rfl⟩, consumed⟩
    obtain ⟨middle, left, right⟩ := Reader.consumes_append.mp consumed
    exact ⟨value, middle, (first _ _ _).mpr ⟨head, denoted, left⟩,
      (second value _ _ _).mpr ⟨tail, followed, right⟩⟩

/-- Sequencing after a field with one legal encoding for each value. -/
theorem parses_bind_legal {parser : Parser ε α} {legal : α → Prop} {encode : α → Bytes}
    {next : α → Parser ε β} {later : α → Grammar β}
    (first : Parses parser fun value bytes => legal value ∧ bytes = encode value)
    (second : ∀ value, Parses (next value) (later value)) :
    Parses (parser >>= next) (fun result bytes => ∃ value tail,
      legal value ∧ later value result tail ∧ bytes = encode value ++ tail) := by
  intro before result after
  rw [parses_bind first second before result after]
  constructor
  · rintro ⟨_, ⟨value, _, tail, ⟨holds, rfl⟩, followed, rfl⟩, consumed⟩
    exact ⟨_, ⟨value, tail, holds, followed, rfl⟩, consumed⟩
  · rintro ⟨_, ⟨value, tail, holds, followed, rfl⟩, consumed⟩
    exact ⟨_, ⟨value, _, tail, ⟨holds, rfl⟩, followed, rfl⟩, consumed⟩

/-- Sequencing after a field every value of which has one encoding. -/
theorem parses_bind_encoded {parser : Parser ε α} {encode : α → Bytes} {next : α → Parser ε β}
    {later : α → Grammar β} (first : Parses parser fun value bytes => bytes = encode value)
    (second : ∀ value, Parses (next value) (later value)) :
    Parses (parser >>= next) (fun result bytes => ∃ value tail,
      later value result tail ∧ bytes = encode value ++ tail) := by
  intro before result after
  rw [parses_bind first second before result after]
  constructor
  · rintro ⟨_, ⟨value, _, tail, rfl, followed, rfl⟩, consumed⟩
    exact ⟨_, ⟨value, tail, followed, rfl⟩, consumed⟩
  · rintro ⟨_, ⟨value, tail, followed, rfl⟩, consumed⟩
    exact ⟨_, ⟨value, _, tail, rfl, followed, rfl⟩, consumed⟩

/-- A grammar may be replaced by an equivalent one. -/
theorem Parses.congr {parser : Parser ε α} {grammar equal : Grammar α}
    (parses : Parses parser grammar)
    (same : ∀ value bytes, grammar value bytes ↔ equal value bytes) :
    Parses parser equal := by
  intro before value after
  simp only [parses before value after, same]

end Rules

section Primitives

variable {ε : Type}

/-- Stop with `error` unless the condition holds; nothing is consumed. -/
def ensure (condition : Prop) [Decidable condition] (error : ε) : Parser ε Unit :=
  if condition then pure () else throw error

/-- A check admits the empty string exactly under its condition. -/
theorem parses_ensure (condition : Prop) [Decidable condition] (error : ε) :
    Parses (ensure condition error) (fun _ bytes => condition ∧ bytes = []) := by
  intro before value after
  by_cases holds : condition
  · simp only [ensure, holds, if_true, true_and]
    exact (parses_pure () before value after).trans (by simp)
  · simp only [ensure, holds, if_false, false_and]
    exact (parses_throw error before value after).trans (by simp)

variable [ReadError ε]

/-- The next `n` bytes, or a truncation error that leaves the cursor where it was. -/
def take (n : Nat) (field : String) : Parser ε (Block n) := fun reader =>
  if enough : n ≤ reader.remaining then
    .ok (⟨reader.rest.take n, Reader.length_take_rest enough⟩, reader.advance n enough)
  else .error (ReadError.truncated field reader.pos)

/-- Bytes that remain are taken. -/
theorem take_run_ok {n : Nat} {field : String} {reader : Reader} (enough : n ≤ reader.remaining) :
    (take n field : Parser ε (Block n)) reader =
      .ok (⟨reader.rest.take n, Reader.length_take_rest enough⟩, reader.advance n enough) :=
        dif_pos enough

/-- Bytes that do not remain are not taken. -/
theorem take_run_error {n : Nat} {field : String} {reader : Reader}
    (short : ¬ n ≤ reader.remaining) :
    (take n field : Parser ε (Block n)) reader =
      .error (ReadError.truncated field reader.pos) := dif_neg short

/-- Taking a block admits exactly that block. -/
theorem parses_take (n : Nat) (field : String) :
    Parses (take n field : Parser ε (Block n)) (fun block bytes => bytes = block.val) := by
  intro before block after
  unfold take
  constructor
  · intro run
    by_cases enough : n ≤ before.remaining
    · rw [dif_pos enough] at run
      obtain ⟨rfl, rfl⟩ := Prod.mk.inj (Except.ok.inj run)
      refine ⟨_, rfl, rfl, ?_, ?_⟩
      · simp [Reader.advance, enough]
      · simp
    · rw [dif_neg enough] at run
      cases run
  · rintro ⟨_, rfl, consumed⟩
    have lengths := congrArg List.length consumed.rest
    simp only [Reader.rest_length, List.length_append, block.property] at lengths
    have enough : n ≤ before.remaining := by omega
    have prefixed : before.rest.take n = block.val := by
      rw [consumed.rest, List.take_left' block.property]
    have moved : before.Consumes block.val (before.advance n enough) := by
      refine ⟨rfl, ?_, ?_⟩
      · rw [Reader.advance, block.property]
      · rw [Reader.advance_rest, ← prefixed, List.take_append_drop]
    rw [dif_pos enough, moved.unique consumed]
    exact congrArg (fun found => Except.ok (found, after)) (Subtype.ext prefixed)

/-- Read one fixed-width little-endian word. -/
def readLe (α : Type) [LeWord α] (field : String) : Parser ε α := do
  let block ← take (LeWord.width α) field
  return ofLe block.val

/-- A word whose bytes remain is read. -/
theorem readLe_run_ok {α : Type} [LeWord α] {field : String} {reader : Reader}
    (enough : LeWord.width α ≤ reader.remaining) :
    (readLe α field : Parser ε α) reader =
      .ok (ofLe (reader.rest.take (LeWord.width α)), reader.advance _ enough) := by
  rw [readLe, bind_run_ok (take_run_ok enough)]
  rfl

/-- A word whose bytes do not remain is not read. -/
theorem readLe_run_error {α : Type} [LeWord α] {field : String} {reader : Reader}
    (short : ¬ LeWord.width α ≤ reader.remaining) :
    (readLe α field : Parser ε α) reader = .error (ReadError.truncated field reader.pos) := by
  rw [readLe, bind_run_error (take_run_error short)]

/-- A word admits exactly its encoding. -/
theorem parses_readLe (α : Type) [LeWord α] (field : String) :
    Parses (readLe α field : Parser ε α) (fun word bytes => bytes = toLe word) := by
  refine (parses_bind (parses_take _ field) fun block => parses_pure (ofLe block.val)).congr ?_
  intro word bytes
  constructor
  · rintro ⟨block, _, _, rfl, ⟨rfl, rfl⟩, rfl⟩
    rw [List.append_nil, toLe_ofLe _ block.property]
  · rintro rfl
    exact ⟨⟨toLe word, toLe_length word⟩, _, _, rfl, ⟨(ofLe_toLe word).symm, rfl⟩, by simp⟩

/-- Read a length word and then that many bytes. -/
def readPrefixed (α : Type) [LeWord α] (field : String) : Parser ε Bytes := do
  let length ← readLe α field
  let body ← take (LeWord.toNat length) field
  return body.val

/-- The writing of a byte string behind its length. -/
def prefixed (α : Type) [LeWord α] (bytes : Bytes) : Bytes := lePrefix α bytes.length ++ bytes

/-- A prefixed byte string is admitted exactly when its length fits the prefix. -/
theorem parses_readPrefixed (α : Type) [LeWord α] (field : String) :
    Parses (readPrefixed α field : Parser ε Bytes) (fun body bytes =>
      body.length < 256 ^ LeWord.width α ∧ bytes = prefixed α body) := by
  refine (parses_bind (parses_readLe α field) fun length =>
    parses_bind (parses_take _ field) fun block => parses_pure block.val).congr ?_
  intro body bytes
  constructor
  · rintro ⟨length, _, _, rfl, ⟨block, _, _, rfl, ⟨rfl, rfl⟩, rfl⟩, rfl⟩
    have bound : block.val.length < 256 ^ LeWord.width α := by
      rw [block.property]
      exact LeWord.toNat_lt length
    rw [List.append_nil, prefixed, lePrefix_of_lt _ _ bound]
    rw [block.property, LeWord.ofNat_toNat]
    exact ⟨LeWord.toNat_lt length, rfl⟩
  · rintro ⟨bound, rfl⟩
    have sized : body.length = LeWord.toNat (LeWord.ofNat body.length : α) :=
      (LeWord.toNat_ofNat _ bound).symm
    exact ⟨_, _, _, rfl, ⟨⟨body, sized⟩, _, _, rfl, ⟨rfl, rfl⟩, rfl⟩, by
      rw [List.append_nil, prefixed, lePrefix_of_lt _ _ bound]⟩

/-- Run one parser a fixed number of times, in order. -/
def readMany {α : Type} (item : Parser ε α) : Nat → Parser ε (List α)
  | 0 => pure []
  | count + 1 => do
    let head ← item
    let tail ← readMany item count
    return head :: tail

omit [ReadError ε] in
/-- A counted loop over items with a canonical encoding admits their concatenation. -/
theorem parses_readMany {α : Type} {item : Parser ε α} {legal : α → Prop} {encode : α → Bytes}
    (parses : Parses item fun value bytes => legal value ∧ bytes = encode value) (count : Nat) :
    Parses (readMany item count) (fun values bytes =>
      (values.length = count ∧ ∀ value ∈ values, legal value) ∧ bytes = values.flatMap encode) := by
  induction count with
  | zero =>
    refine (parses_pure []).congr fun values bytes => ?_
    constructor
    · rintro ⟨rfl, rfl⟩
      simp
    · rintro ⟨⟨empty, _⟩, rfl⟩
      obtain rfl := List.length_eq_zero_iff.mp empty
      simp
  | succ count ih =>
    refine (parses_bind parses fun head => parses_bind ih fun tail =>
      parses_pure (head :: tail)).congr fun values bytes => ?_
    constructor
    · rintro ⟨head, _, _, ⟨legal, rfl⟩, ⟨tail, _, _, ⟨⟨rfl, all⟩, rfl⟩, ⟨rfl, rfl⟩, rfl⟩, rfl⟩
      exact ⟨⟨rfl, by simpa [legal] using all⟩, by simp⟩
    · rintro ⟨⟨counted, all⟩, rfl⟩
      cases values with
      | nil => cases counted
      | cons head tail =>
        rw [List.forall_mem_cons] at all
        exact ⟨head, _, _, ⟨all.1, rfl⟩,
          ⟨tail, _, _, ⟨⟨by simpa using counted, all.2⟩, rfl⟩, ⟨rfl, rfl⟩, rfl⟩, by simp⟩

/-- The input must be used up. -/
def expectEof : Parser ε Unit := fun reader =>
  if reader.remaining = 0 then .ok ((), reader)
  else .error (ReadError.trailing reader.remaining)

/-- Run a parser over a whole buffer and require that nothing remains. -/
def parseAll {α : Type} (parser : Parser ε α) (buf : Bytes) : Except ε α := do
  let (value, after) ← parser (Reader.new buf)
  let _ ← (expectEof : Parser ε Unit) after
  return value

/-- A whole-buffer parse stops at an error of its parser. -/
theorem parseAll_eq_error {α : Type} {parser : Parser ε α} {buf : Bytes} {error : ε}
    (ran : parser (Reader.new buf) = .error error) : parseAll parser buf = .error error := by
  rw [parseAll, ran]
  rfl

/-- A whole-buffer parse returns the value in front of the end. -/
theorem parseAll_eq_ok {α : Type} {parser : Parser ε α} {buf : Bytes} {value : α} {after : Reader}
    (ran : parser (Reader.new buf) = .ok (value, after)) (done : after.remaining = 0) :
    parseAll parser buf = .ok value := by
  have ends : (expectEof : Parser ε Unit) after = .ok ((), after) := if_pos done
  rw [parseAll, ran]
  change ((expectEof : Parser ε Unit) after >>= fun _ => .ok value) = _
  rw [ends]
  rfl

/-- A whole-buffer parse reports the bytes behind the value. -/
theorem parseAll_eq_trailing {α : Type} {parser : Parser ε α} {buf : Bytes} {value : α}
    {after : Reader} (ran : parser (Reader.new buf) = .ok (value, after))
    (more : after.remaining ≠ 0) :
    parseAll parser buf = .error (ReadError.trailing after.remaining) := by
  have stops : (expectEof : Parser ε Unit) after = .error (ReadError.trailing after.remaining) :=
    if_neg more
  rw [parseAll, ran]
  change ((expectEof : Parser ε Unit) after >>= fun _ => .ok value) = _
  rw [stops]
  rfl

/-- A whole-buffer parse succeeds exactly when the grammar admits the buffer. -/
theorem parseAll_ok_iff {α : Type} {parser : Parser ε α} {grammar : Grammar α}
    (parses : Parses parser grammar) (buf : Bytes) (value : α) :
    parseAll parser buf = .ok value ↔ grammar value buf := by
  constructor
  · intro run
    cases first : parser (Reader.new buf) with
    | error error => simp [parseAll, first, bind, Except.bind] at run
    | ok pair =>
      obtain ⟨found, after⟩ := pair
      by_cases done : after.remaining = 0
      · obtain ⟨bytes, denoted, consumed⟩ := (parses _ _ _).mp first
        have empty : after.rest = [] := List.length_eq_zero_iff.mp (by simpa using done)
        have whole : buf = bytes := by simpa [empty] using consumed.rest
        have same : found = value := by
          simpa [parseAll, first, expectEof, done, bind, Except.bind, pure, Except.pure] using run
        rwa [← same, whole]
      · simp [parseAll, first, expectEof, done, bind, Except.bind] at run
  · intro denoted
    let after : Reader := ⟨buf, buf.length, Nat.le_refl _⟩
    have consumed : (Reader.new buf).Consumes buf after := by
      refine ⟨rfl, ?_, ?_⟩
      · change buf.length = 0 + buf.length
        omega
      · rw [Reader.new_rest, Reader.rest, List.drop_length, List.append_nil]
    have first := (parses _ _ _).mpr ⟨buf, denoted, consumed⟩
    have done : after.remaining = 0 := Nat.sub_self _
    simp [parseAll, first, expectEof, done, bind, Except.bind, pure, Except.pure]

/-- Accepted inputs are prefix-free: no strict extension of an accepted input is accepted. -/
theorem parseAll_prefix_free {α : Type} {parser : Parser ε α} {grammar : Grammar α}
    (parses : Parses parser grammar) {buf extra : Bytes} {value other : α}
    (short : parseAll parser buf = .ok value) (long : parseAll parser (buf ++ extra) = .ok other) :
    extra = [] := by
  have accepted := (parseAll_ok_iff parses buf value).mp short
  have extended := (parseAll_ok_iff parses (buf ++ extra) other).mp long
  -- Over the longer input the parser stops behind the shorter one and at the end at once.
  let start := Reader.new (buf ++ extra)
  let inner : Reader := ⟨buf ++ extra, buf.length, by rw [List.length_append]; omega⟩
  let outer : Reader := ⟨buf ++ extra, (buf ++ extra).length, Nat.le_refl _⟩
  have early : start.Consumes buf inner := by
    refine ⟨rfl, (Nat.zero_add _).symm, ?_⟩
    have tail : inner.rest = extra := List.drop_left' rfl
    rw [tail]
    rfl
  have late : start.Consumes (buf ++ extra) outer := by
    refine ⟨rfl, (Nat.zero_add _).symm, ?_⟩
    have tail : outer.rest = [] := List.drop_length
    rw [tail, List.append_nil]
    rfl
  have stops := (parses start value inner).mpr ⟨buf, accepted, early⟩
  have ends := (parses start other outer).mpr ⟨buf ++ extra, extended, late⟩
  have same : inner = outer := (Prod.mk.inj (Except.ok.inj (stops.symm.trans ends))).2
  have positions : buf.length = (buf ++ extra).length := congrArg Reader.pos same
  rw [List.length_append] at positions
  exact List.length_eq_zero_iff.mp (by omega)

end Primitives

end Bytewise
