import Passman.Lib.Checked
import Passman.Lib.Op
import Passman.Lib.Reader

/-!
# Cursors that panic and count

A raw cursor does not carry the bound on its position: it computes what remains with a subtraction,
and slices its buffer, each of which panics out of range. It counts the bytes that are copied into
owned buffers and the rounds of the loops. A raw parser tracks a bounds-checked one: it returns the
same, never panics, stays inside the buffer, and copies no more than it consumes; where every round
that ends consumes a stride, the rounds are paid for by what is consumed.
-/
namespace Bytewise

open Fallible Checked

/-- A position in a buffer, with what has been copied and looped so far. -/
structure Cursor where
  /-- The whole input. -/
  buf : Bytes
  /-- Bytes consumed so far. -/
  pos : Nat
  /-- Bytes copied into owned buffers so far. -/
  copied : Nat
  /-- Rounds of loops begun so far. -/
  rounds : Nat

/-- A parser over a raw cursor, which may panic. -/
abbrev Raw (ε : Type) := Op Cursor (Fault ε)

namespace Raw

variable {ε α β : Type}

/-- Stop with an error. -/
def refuse (error : ε) : Raw ε α := Op.fail (.refused error)

/-- Count bytes that are copied. -/
def count (bytes : Nat) : Raw ε Unit :=
  Op.modify fun cursor => { cursor with copied := cursor.copied + bytes }

/-- Count the beginning of a round. -/
def tick : Raw ε Unit := Op.modify fun cursor => { cursor with rounds := cursor.rounds + 1 }

/-- Bytes not yet consumed. -/
def remaining : Raw ε Nat := do
  let cursor ← Op.get
  Op.lift (sub cursor.buf.length cursor.pos)

/-- Stop with an error unless the condition holds. -/
def ensure (condition : Prop) [Decidable condition] (error : ε) : Raw ε Unit :=
  if condition then pure () else refuse error

/-- Run a parser a number of times, counting the rounds. -/
def loop (item : Raw ε α) : Nat → Raw ε (List α)
  | 0 => pure []
  | rounds + 1 => do
    tick
    let head ← item
    let tail ← loop item rounds
    return head :: tail

section Reads

variable [ReadError ε]

/-- Borrow the next bytes: a slice between the old and the new position. -/
def take (n : Nat) (field : String) : Raw ε (Block n) := do
  let left ← remaining
  let cursor ← Op.get
  if n > left then refuse (ReadError.truncated field cursor.pos)
  else do
    let start := cursor.pos
    Op.modify fun cursor => { cursor with pos := cursor.pos + n }
    let slice ← Op.lift (slice cursor.buf start (start + n))
    Op.lift (intoArray n slice)

/-- Copy the next bytes into an owned buffer. -/
def takeOwned (n : Nat) (field : String) : Raw ε (Block n) := do
  let slice ← take n field
  count slice.val.length
  return slice

/-- Borrow the next bytes as a text, and copy it only when it is well formed. -/
def takeText (n : Nat) (field : String) (malformed : ε) : Raw ε String := do
  let slice ← take n field
  match ofUtf8 slice.val with
  | some text => do
    count slice.val.length
    return text
  | none => refuse malformed

/-- Read one byte, which is borrowed. -/
def readByte (field : String) : Raw ε UInt8 := do
  let slice ← take 1 field
  Op.lift (byteAt slice.val 0)

/-- Read one little-endian word out of an owned array. -/
def readLe (α : Type) [LeWord α] (field : String) : Raw ε α := do
  let block ← takeOwned (LeWord.width α) field
  return ofLe block.val

/-- Read a length and copy that many bytes. -/
def readPrefixed (α : Type) [LeWord α] (field : String) : Raw ε Bytes := do
  let length ← readLe α field
  let body ← takeOwned (LeWord.toNat length) field
  return body.val

/-- The input must be used up. -/
def expectEof : Raw ε Unit := do
  let left ← remaining
  if left = 0 then return () else refuse (ReadError.trailing left)

/-- Run a parser over a whole buffer and require that nothing remains; return the cursor too. -/
def parseAll (parser : Raw ε α) (buf : Bytes) : Except (Fault ε) α × Cursor :=
  (do
    let value ← parser
    expectEof
    return value : Raw ε α) ⟨buf, 0, 0, 0⟩

end Reads

/-- What a run of a raw parser shares with a run of a bounds-checked one. -/
structure Tracked (stride gain slack : Nat) (reader : Reader) (copied rounds : Nat)
    (result : Except ε (α × Reader)) (run : Except (Fault ε) α × Cursor) : Prop where
  /-- The outcome is the same, and no panic. -/
  outcome : run.1 = Checked.ofExcept (result.map Prod.fst)
  /-- The buffer is shared. -/
  buf : run.2.buf = reader.buf
  /-- The cursor does not move back. -/
  forward : reader.pos ≤ run.2.pos
  /-- The cursor does not leave the buffer. -/
  inside : run.2.pos ≤ reader.buf.length
  /-- No more is copied than is consumed. -/
  copies : run.2.copied ≤ copied + (run.2.pos - reader.pos)
  /-- The rounds are paid for by what is consumed, up to a slack. -/
  paid : stride * run.2.rounds ≤ stride * rounds + (run.2.pos - reader.pos) + slack
  /-- A success stands where the bounds-checked parser does, and has a gain left over. -/
  reached : ∀ value after, result = .ok (value, after) →
    run.2.buf = after.buf ∧ run.2.pos = after.pos ∧
      stride * run.2.rounds + gain ≤ stride * rounds + (run.2.pos - reader.pos)

/-- A raw parser tracks a bounds-checked one from every cursor inside the buffer. -/
def Tracks (stride gain slack : Nat) (raw : Raw ε α) (parser : Parser ε α) : Prop :=
  ∀ (reader : Reader) (copied rounds : Nat), Tracked stride gain slack reader copied rounds
    (parser reader) (raw ⟨reader.buf, reader.pos, copied, rounds⟩)

/-- A gain may be given up. -/
theorem Tracks.relax {stride gain less slack : Nat} {raw : Raw ε α} {parser : Parser ε α}
    (tracks : Tracks stride gain slack raw parser) (smaller : less ≤ gain) :
    Tracks stride less slack raw parser := by
  intro reader copied rounds
  have ran := tracks reader copied rounds
  refine { ran with reached := ?_ }
  intro value after parsed
  have ends := ran.reached value after parsed
  exact ⟨ends.1, ends.2.1, by omega⟩

section Rules

variable {stride slack : Nat}

/-- Returning a value tracks returning it. -/
theorem tracks_pure (value : α) : Tracks stride 0 slack (pure value : Raw ε α) (pure value) := by
  intro reader copied rounds
  have still : stride * rounds ≤ stride * rounds + (reader.pos - reader.pos) := by omega
  refine ⟨rfl, rfl, Nat.le_refl _, reader.inside, Nat.le_add_right _ _,
    Nat.le_add_right_of_le still, ?_⟩
  intro found after same
  obtain rfl := (Prod.mk.inj (Except.ok.inj same)).2
  exact ⟨rfl, rfl, still⟩

/-- Stopping with an error tracks stopping with it. -/
theorem tracks_refuse (gain : Nat) (error : ε) :
    Tracks stride gain slack (refuse error : Raw ε α) (throw error) := by
  intro reader copied rounds
  have still : stride * rounds ≤ stride * rounds + (reader.pos - reader.pos) := by omega
  exact ⟨rfl, rfl, Nat.le_refl _, reader.inside, Nat.le_add_right _ _,
    Nat.le_add_right_of_le still, nofun⟩

/-- Sequencing tracks sequencing; the gains add up. -/
theorem tracks_bind {first : Raw ε α} {parser : Parser ε α} {next : α → Raw ε β}
    {later : α → Parser ε β} {gain more : Nat} (head : Tracks stride gain slack first parser)
    (tail : ∀ value, Tracks stride more slack (next value) (later value)) :
    Tracks stride (gain + more) slack (first >>= next) (parser >>= later) := by
  intro reader copied rounds
  have ran := head reader copied rounds
  rcases run : first ⟨reader.buf, reader.pos, copied, rounds⟩ with ⟨outcome, buf, pos, held, begun⟩
  rw [run] at ran
  cases parsed : parser reader with
  | error error =>
    rw [parsed] at ran
    obtain rfl : outcome = .error (.refused error) := ran.outcome
    rw [Op.bind_error run, bind_run_error parsed]
    exact ⟨rfl, ran.buf, ran.forward, ran.inside, ran.copies, ran.paid, nofun⟩
  | ok pair =>
    obtain ⟨value, after⟩ := pair
    rw [parsed] at ran
    obtain rfl : outcome = .ok value := ran.outcome
    obtain ⟨shared, stands, left⟩ := ran.reached value after rfl
    obtain rfl : buf = after.buf := shared
    obtain rfl : pos = after.pos := stands
    have rest := tail value after held begun
    have forward := ran.forward
    have onward := rest.forward
    have copies := ran.copies
    have copiesMore := rest.copies
    have paid := rest.paid
    rw [Op.bind_ok run, bind_run_ok parsed]
    dsimp only at left forward copies
    refine ⟨rest.outcome, rest.buf.trans ran.buf, by omega, ?_, by omega, by omega, ?_⟩
    · rw [← ran.buf]
      exact rest.inside
    · intro result final ended
      obtain ⟨same, ends, gained⟩ := rest.reached result final ended
      exact ⟨same, ends, by omega⟩

/-- Sequencing tracks sequencing where no gain is counted. -/
theorem tracks_seq {first : Raw ε α} {parser : Parser ε α} {next : α → Raw ε β}
    {later : α → Parser ε β} (head : Tracks stride 0 slack first parser)
    (tail : ∀ value, Tracks stride 0 slack (next value) (later value)) :
    Tracks stride 0 slack (first >>= next) (parser >>= later) := tracks_bind head tail

/-- A check tracks the same check. -/
theorem tracks_ensure (condition : Prop) [Decidable condition] (error : ε) :
    Tracks stride 0 slack (ensure condition error) (Bytewise.ensure condition error) := by
  by_cases holds : condition
  · rw [ensure, Bytewise.ensure, if_pos holds, if_pos holds]
    exact tracks_pure ()
  · rw [ensure, Bytewise.ensure, if_neg holds, if_neg holds]
    exact tracks_refuse 0 error

/-- A round of an item that consumes a stride is paid for when it ends, and by the slack when it
does not. -/
theorem tracks_round {item : Raw ε α} {parser : Parser ε α} (fits : stride ≤ slack)
    (tracks : Tracks stride stride 0 item parser) :
    Tracks stride 0 slack (tick >>= fun _ => item) parser := by
  intro reader copied rounds
  change Tracked stride 0 slack reader copied rounds (parser reader)
    (item ⟨reader.buf, reader.pos, copied, rounds + 1⟩)
  have ran := tracks reader copied (rounds + 1)
  have begun : stride * (rounds + 1) = stride * rounds + stride := rfl
  have paid := ran.paid
  rw [begun] at paid
  refine { ran with paid := by omega, reached := ?_ }
  intro value after parsed
  obtain ⟨shared, stands, gained⟩ := ran.reached value after parsed
  rw [begun] at gained
  exact ⟨shared, stands, by omega⟩

/-- A loop tracks a counted loop when every round that ends consumes a stride: the last round begun
is the only one that may not be paid for. -/
theorem tracks_loop {item : Raw ε α} {parser : Parser ε α} (fits : stride ≤ slack)
    (tracks : Tracks stride stride 0 item parser) (times : Nat) :
    Tracks stride 0 slack (loop item times) (readMany parser times) := by
  induction times with
  | zero => exact tracks_pure []
  | succ times ih =>
    have whole : Tracks stride 0 slack ((tick >>= fun _ => item) >>= fun head =>
        loop item times >>= fun tail => pure (head :: tail)) (readMany parser (times + 1)) :=
      tracks_seq (tracks_round fits tracks) fun head =>
        tracks_seq ih fun tail => tracks_pure (head :: tail)
    rw [bind_assoc] at whole
    exact whole

section Reads

variable [ReadError ε]

omit [ReadError ε] in
/-- What remains inside the buffer is computed. -/
theorem remaining_run {cursor : Cursor} (inside : cursor.pos ≤ cursor.buf.length) :
    (remaining : Raw ε Nat) cursor = (.ok (cursor.buf.length - cursor.pos), cursor) := by
  change (Checked.sub cursor.buf.length cursor.pos, cursor) = _
  rw [sub_of_le inside]

/-- Bytes that remain are borrowed. -/
theorem take_run_ok {n : Nat} {field : String} {reader : Reader} (copied rounds : Nat)
    (enough : n ≤ reader.remaining) :
    (take n field : Raw ε (Block n)) ⟨reader.buf, reader.pos, copied, rounds⟩ =
      (.ok ⟨reader.rest.take n, Reader.length_take_rest enough⟩,
        ⟨reader.buf, reader.pos + n, copied, rounds⟩) := by
  have inside := reader.inside
  have fits : n ≤ reader.buf.length - reader.pos := enough
  have ends : reader.pos + n ≤ reader.buf.length := by omega
  have sized : ((reader.buf.drop reader.pos).take n).length = n := by
    rw [List.length_take, List.length_drop]
    omega
  rw [take, Op.bind_ok (remaining_run inside), Op.get_bind_run, if_neg (Nat.not_lt.mpr fits),
    Op.modify_bind_run, slice_of_le (Nat.le_add_right _ _) ends, Nat.add_sub_cancel_left]
  change (intoArray n _, _) = _
  rw [intoArray_of_length sized]
  rfl

/-- Bytes that do not remain are not borrowed. -/
theorem take_run_error {n : Nat} {field : String} {reader : Reader} (copied rounds : Nat)
    (short : ¬ n ≤ reader.remaining) :
    (take n field : Raw ε (Block n)) ⟨reader.buf, reader.pos, copied, rounds⟩ =
      (.error (.refused (ReadError.truncated field reader.pos)),
        ⟨reader.buf, reader.pos, copied, rounds⟩) := by
  have more : n > reader.buf.length - reader.pos := Nat.lt_of_not_le short
  rw [take, Op.bind_ok (remaining_run reader.inside), Op.get_bind_run, if_pos more]
  rfl

omit [ReadError ε] in
/-- A run that ends behind `n` bytes and copied at most as many tracks the parser that takes
them. -/
theorem tracked_advance {n gain copies : Nat} {reader : Reader} {copied rounds : Nat}
    {value : α} (enough : n ≤ reader.remaining) (least : gain ≤ n) (most : copies ≤ n) :
    Tracked stride gain slack reader copied rounds
      (.ok (value, reader.advance n enough) : Except ε (α × Reader))
      (.ok value, ⟨reader.buf, reader.pos + n, copied + copies, rounds⟩) := by
  have inside := reader.inside
  have fits : n ≤ reader.buf.length - reader.pos := enough
  refine ⟨rfl, rfl, Nat.le_add_right _ _, ?_, ?_, ?_, ?_⟩
  · change reader.pos + n ≤ reader.buf.length
    omega
  · change copied + copies ≤ copied + (reader.pos + n - reader.pos)
    omega
  · change stride * rounds ≤ stride * rounds + (reader.pos + n - reader.pos) + slack
    omega
  · intro found after same
    obtain rfl := (Prod.mk.inj (Except.ok.inj same)).2
    refine ⟨rfl, rfl, ?_⟩
    change stride * rounds + gain ≤ stride * rounds + (reader.pos + n - reader.pos)
    omega

/-- Borrowing bytes tracks taking them. -/
theorem tracks_take {n gain : Nat} (field : String) (least : gain ≤ n) :
    Tracks stride gain slack (take n field : Raw ε (Block n)) (Bytewise.take n field) := by
  intro reader copied rounds
  by_cases enough : n ≤ reader.remaining
  · rw [take_run_ok copied rounds enough, Bytewise.take_run_ok enough]
    exact tracked_advance enough least (Nat.zero_le n)
  · rw [take_run_error copied rounds enough, Bytewise.take_run_error enough]
    exact tracks_refuse gain _ reader copied rounds

/-- Copying bytes tracks taking them. -/
theorem tracks_takeOwned {n gain : Nat} (field : String) (least : gain ≤ n) :
    Tracks stride gain slack (takeOwned n field : Raw ε (Block n)) (Bytewise.take n field) := by
  intro reader copied rounds
  by_cases enough : n ≤ reader.remaining
  · have sized : (reader.rest.take n).length = n := by simp [enough]
    rw [takeOwned, Op.bind_ok (take_run_ok copied rounds enough), Bytewise.take_run_ok enough]
    change Tracked stride gain slack reader copied rounds _
      (.ok _, ⟨_, _, copied + (reader.rest.take n).length, rounds⟩)
    exact tracked_advance enough least (Nat.le_of_eq sized)
  · rw [takeOwned, Op.bind_error (take_run_error copied rounds enough),
      Bytewise.take_run_error enough]
    exact tracks_refuse gain _ reader copied rounds

/-- Copying a well-formed text tracks taking its bytes and decoding them. -/
theorem tracks_takeText {n gain : Nat} (field : String) (malformed : ε) (least : gain ≤ n) :
    Tracks stride gain slack (takeText n field malformed) (do
      let body ← Bytewise.take n field
      match ofUtf8 body.val with
      | some text => return text
      | none => throw malformed) := by
  intro reader copied rounds
  by_cases enough : n ≤ reader.remaining
  · have sized : (reader.rest.take n).length = n := by simp [enough]
    rw [takeText, Op.bind_ok (take_run_ok copied rounds enough),
      bind_run_ok (Bytewise.take_run_ok enough)]
    dsimp only
    cases ofUtf8 (reader.rest.take n) with
    | some text =>
      change Tracked stride gain slack reader copied rounds _
        (.ok text, ⟨_, _, copied + (reader.rest.take n).length, rounds⟩)
      exact tracked_advance enough least (Nat.le_of_eq sized)
    | none =>
      have moved : Tracked stride gain slack reader copied rounds
          (.ok ((), reader.advance n enough) : Except ε (Unit × Reader))
          (.ok (), ⟨reader.buf, reader.pos + n, copied + 0, rounds⟩) :=
        tracked_advance enough least (Nat.zero_le n)
      exact ⟨rfl, moved.buf, moved.forward, moved.inside, moved.copies, moved.paid, nofun⟩
  · rw [takeText, Op.bind_error (take_run_error copied rounds enough),
      bind_run_error (Bytewise.take_run_error enough)]
    exact tracks_refuse gain _ reader copied rounds

/-- Reading a borrowed byte tracks reading a one-byte word. -/
theorem tracks_readByte {gain : Nat} (field : String) (least : gain ≤ 1) :
    Tracks stride gain slack (readByte field : Raw ε UInt8) (Bytewise.readLe UInt8 field) := by
  intro reader copied rounds
  by_cases enough : 1 ≤ reader.remaining
  · have sized : (reader.rest.take 1).length = 1 := by simp [enough]
    obtain ⟨byte, single⟩ := List.length_eq_one_iff.mp sized
    have borrowed : (byteAt (reader.rest.take 1) 0 : Checked ε UInt8) =
        .ok (ofLe (reader.rest.take 1)) := by
      rw [single]
      exact congrArg Except.ok UInt8.ofNat_toNat.symm
    rw [readByte, Op.bind_ok (take_run_ok copied rounds enough), Bytewise.readLe_run_ok enough]
    change Tracked stride gain slack reader copied rounds _ (byteAt (reader.rest.take 1) 0, _)
    rw [borrowed]
    exact tracked_advance enough least (Nat.zero_le 1)
  · rw [readByte, Op.bind_error (take_run_error copied rounds enough),
      Bytewise.readLe_run_error enough]
    exact tracks_refuse gain _ reader copied rounds

/-- Reading a word tracks reading it. -/
theorem tracks_readLe {gain : Nat} (α : Type) [LeWord α] (field : String)
    (least : gain ≤ LeWord.width α) :
    Tracks stride gain slack (readLe α field : Raw ε α) (Bytewise.readLe α field) :=
  tracks_bind (tracks_takeOwned field least) fun block => tracks_pure (ofLe block.val)

/-- Reading a byte string behind its length tracks reading it. -/
theorem tracks_readPrefixed {gain : Nat} (α : Type) [LeWord α] (field : String)
    (least : gain ≤ LeWord.width α) :
    Tracks stride gain slack (readPrefixed α field : Raw ε Bytes) (Bytewise.readPrefixed α field) :=
  tracks_bind (tracks_readLe α field least) fun _ =>
    tracks_bind (tracks_takeOwned field (Nat.zero_le _)) fun body => tracks_pure body.val

/-- Requiring the end tracks requiring it. -/
theorem tracks_expectEof : Tracks stride 0 slack (expectEof : Raw ε Unit) Bytewise.expectEof := by
  intro reader copied rounds
  have left : (remaining : Raw ε Nat) ⟨reader.buf, reader.pos, copied, rounds⟩ =
      (.ok reader.remaining, ⟨reader.buf, reader.pos, copied, rounds⟩) :=
    remaining_run reader.inside
  rw [expectEof, Op.bind_ok left, Bytewise.expectEof]
  by_cases done : reader.remaining = 0
  · rw [if_pos done, if_pos done]
    exact tracks_pure () reader copied rounds
  · rw [if_neg done, if_neg done]
    exact tracks_refuse 0 _ reader copied rounds

/-- What a run of a raw parser over a whole buffer promises. -/
structure Bounded (stride : Nat) (buf : Bytes) (result : Except ε α)
    (run : Except (Fault ε) α × Cursor) : Prop where
  /-- The outcome is that of the bounds-checked parser, and no panic. -/
  outcome : run.1 = Checked.ofExcept result
  /-- The cursor stays inside the buffer. -/
  inside : run.2.pos ≤ buf.length
  /-- No more is copied than the buffer holds. -/
  copies : run.2.copied ≤ buf.length
  /-- All rounds but one are paid for by a stride of the buffer. -/
  rounds : run.2.rounds ≤ buf.length / stride + 1

omit [ReadError ε] in
/-- A bounded run did not panic. -/
theorem Bounded.no_panic {buf : Bytes} {result : Except ε α} {run : Except (Fault ε) α × Cursor}
    (bounded : Bounded stride buf result run) : run.1 ≠ .error .panicked := by
  rw [bounded.outcome]
  exact ofExcept_ne_panicked result

/-- A raw parser that tracks a bounds-checked one is bounded over every buffer. -/
theorem parseAll_bounded {raw : Raw ε α} {parser : Parser ε α} {gain : Nat} (positive : 0 < stride)
    (tracks : Tracks stride gain stride raw parser) (buf : Bytes) :
    Bounded stride buf (Bytewise.parseAll parser buf) (parseAll raw buf) := by
  have whole := tracks_seq (tracks.relax (Nat.zero_le gain)) fun value =>
    tracks_seq tracks_expectEof fun _ => tracks_pure value
  have ran := whole (Reader.new buf) 0 0
  have copies := ran.copies
  have inside := ran.inside
  have paid := ran.paid
  have parsed : (((parser >>= fun value => Bytewise.expectEof >>= fun _ => pure value) :
      Parser ε α) (Reader.new buf)).map Prod.fst = Bytewise.parseAll parser buf := by
    rw [Bytewise.parseAll]
    cases first : parser (Reader.new buf) with
    | error error =>
      rw [bind_run_error first]
      rfl
    | ok pair =>
      rw [bind_run_ok first]
      change _ = ((Bytewise.expectEof : Parser ε Unit) pair.2 >>= fun _ => Except.ok pair.1)
      cases rest : (Bytewise.expectEof : Parser ε Unit) pair.2 with
      | error error =>
        rw [bind_run_error rest]
        rfl
      | ok done =>
        rw [bind_run_ok rest]
        rfl
  change _ ≤ 0 + (_ - 0) at copies
  change _ ≤ stride * 0 + (_ - 0) + stride at paid
  refine ⟨?_, inside, ?_, ?_⟩
  · rw [← parsed]
    exact ran.outcome
  · rw [Nat.zero_add, Nat.sub_zero] at copies
    exact Nat.le_trans copies inside
  · rw [Nat.mul_zero, Nat.zero_add, Nat.sub_zero] at paid
    have most : stride * (parseAll raw buf).2.rounds ≤ buf.length + stride :=
      Nat.le_trans paid (Nat.add_le_add_right inside stride)
    rw [← Nat.add_div_right _ positive, Nat.le_div_iff_mul_le positive, Nat.mul_comm]
    exact most

end Reads

end Rules

end Raw

end Bytewise
