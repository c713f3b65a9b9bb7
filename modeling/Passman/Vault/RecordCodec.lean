import Passman.Lib.Checked
import Passman.Vault.Record

/-!
# The cursors of the record codec

The encoder copies each length and each field into one zeroed buffer. The decoder walks a buffer
with a cursor: it reads each length at the cursor, compares the end of the field with the end of the
region, and slices the field out of the buffer. Neither walk leaves its buffer; they return what the
writer and the parser of the region return.
-/
namespace Passman

open Bytewise Checked

namespace EntryRecord

/-- The bytes of all fields together. -/
def textLength (record : EntryRecord) : Nat :=
  (record.fields.map fun field => (utf8 field).length).sum

/-- Copy each field behind its length into the buffer; return the buffer and the offset reached. -/
def writeFieldsAt : Bytes → Nat → List String → Checked VaultError (Bytes × Nat)
  | buf, off, [] => return (buf, off)
  | buf, off, field :: rest => do
    let buf ← writeAt buf off (lePrefix UInt32 (utf8 field).length)
    let off ← add off 4
    let buf ← writeAt buf off (utf8 field)
    let off ← add off (utf8 field).length
    writeFieldsAt buf off rest

/-- Encode a record into a zeroed buffer of the padded length. -/
def encodePaddedAt (record : EntryRecord) : Checked VaultError Bytes := do
  let recordLen := (record.fields.map fun field => 4 + (utf8 field).length).sum
  let unpadded := 4 + recordLen
  let padded := roundUp bucket unpadded
  let buf ← writeAt (List.replicate padded 0) 0 (lePrefix UInt32 recordLen)
  let (buf, off) ← writeFieldsAt buf 4 record.fields
  if off = unpadded then return buf else panic

/-- The sum of two positions, or the given error when it overflows. -/
def checkedEnd (start length : Nat) (error : VaultError) : Checked VaultError Nat :=
  if start + length < 2 ^ 64 then .ok (start + length) else refuse error

/-- Read one field at the cursor; return its text and the end of its body. -/
def fieldAt (bytes : Bytes) (regionEnd cursor : Nat) : Checked VaultError (String × Nat) := do
  let prefixEnd ← add cursor 4
  if prefixEnd > regionEnd then
    refuse (.malformedRecord "field length prefix overruns record")
  else do
    let flen ← word32At bytes cursor
    let cursor ← add cursor 4
    let fieldEnd ← checkedEnd cursor flen (.malformedRecord "field length overflows")
    if fieldEnd > regionEnd then refuse (.malformedRecord "field body overruns record")
    else do
      let body ← slice bytes cursor fieldEnd
      match ofUtf8 body with
      | some text => return (text, fieldEnd)
      | none => refuse (.malformedRecord "field is not valid UTF-8")

/-- Read a number of fields from the cursor on; return their texts and where the cursor stops. -/
def fieldsAt (bytes : Bytes) (regionEnd : Nat) :
    Nat → Nat → Checked VaultError (List String × Nat)
  | 0, cursor => return ([], cursor)
  | count + 1, cursor => do
    let (text, cursor) ← fieldAt bytes regionEnd cursor
    let (texts, stop) ← fieldsAt bytes regionEnd count cursor
    return (text :: texts, stop)

/-- Decode a plaintext with a cursor. -/
def decodeAt (bytes : Bytes) : Checked VaultError EntryRecord :=
  if bytes.length < 4 then refuse (.malformedRecord "missing true-length prefix")
  else do
    let recordLen ← word32At bytes 0
    let regionEnd ← checkedEnd 4 recordLen (.malformedRecord "record length overflows")
    if regionEnd > bytes.length then refuse (.malformedRecord "record length exceeds plaintext")
    else do
      let (fields, cursor) ← fieldsAt bytes regionEnd fieldCount 4
      if cursor ≠ regionEnd then refuse (.malformedRecord "record region not fully consumed")
      else
        match ofFields fields with
        | some record => return record
        | none => refuse (.malformedRecord "fewer fields than expected")

/-- What the cursor walk makes of the outcome of the region parser: positions in the buffer lie four
bytes behind those in the region. -/
def placed {α : Type} : Except RecordReason (α × Reader) → Checked VaultError (α × Nat)
  | .ok (value, reader) => .ok (value, 4 + reader.pos)
  | .error failure => refuse (.malformedRecord failure.reason)

/-- Fields are written right behind what the buffer holds. -/
theorem writeFieldsAt_eq (fields : List String) (written : Bytes) (room : Nat)
    (fits : (fields.flatMap fun field => prefixed UInt32 (utf8 field)).length ≤ room)
    (word : written.length + room < 2 ^ 64) :
    writeFieldsAt (written ++ List.replicate room 0) written.length fields =
      .ok (written ++ (fields.flatMap fun field => prefixed UInt32 (utf8 field)) ++
        List.replicate (room - (fields.flatMap fun field => prefixed UInt32 (utf8 field)).length) 0,
        written.length + (fields.flatMap fun field => prefixed UInt32 (utf8 field)).length) := by
  induction fields generalizing written room with
  | nil => simp [writeFieldsAt, pure, Except.pure]
  | cons field rest ih =>
    have head : (lePrefix UInt32 (utf8 field).length).length = 4 := lePrefix_length UInt32 _
    rw [List.flatMap_cons, prefixed, List.length_append, List.length_append, head] at fits
    have behind := ih (written ++ lePrefix UInt32 (utf8 field).length ++ utf8 field)
      (room - 4 - (utf8 field).length) (by omega)
      (by simp only [List.length_append, head]; omega)
    have first : (add written.length 4 : Checked VaultError Nat) =
        .ok (written ++ lePrefix UInt32 (utf8 field).length).length := by
      rw [add_of_lt (by omega), List.length_append, head]
    have second : (add (written ++ lePrefix UInt32 (utf8 field).length).length
        (utf8 field).length : Checked VaultError Nat) =
        .ok (written ++ lePrefix UInt32 (utf8 field).length ++ utf8 field).length := by
      rw [add_of_lt (by simp only [List.length_append, head]; omega), ← List.length_append]
    rw [writeFieldsAt, writeAt_behind _ (by omega), ok_bind, first, ok_bind, head,
      writeAt_behind _ (by omega), ok_bind, second, ok_bind, behind, List.flatMap_cons, prefixed]
    simp only [List.append_assoc, List.length_append, head, Nat.sub_sub, Nat.add_assoc]

/-- A region holds four lengths and the text. -/
theorem region_length_text (record : EntryRecord) :
    record.region.length = 16 + record.textLength := by
  rw [region_length]
  simp only [fields, textLength, List.map_cons, List.map_nil, List.sum_cons, List.sum_nil]
  omega

/-- The copies into one buffer write the padded plaintext, and never leave the buffer. -/
theorem encodePaddedAt_eq (record : EntryRecord) (fits : record.textLength < 2 ^ 63) :
    encodePaddedAt record = .ok record.encodePadded := by
  have summed : (record.fields.map fun field => 4 + (utf8 field).length).sum =
      record.region.length := by
    rw [region_length_text]
    simp only [fields, textLength, List.map_cons, List.map_nil, List.sum_cons, List.sum_nil]
    omega
  let head := lePrefix UInt32 record.region.length
  let padded := roundUp bucket (4 + record.region.length)
  have four : head.length = 4 := lePrefix_length UInt32 _
  have covers : 4 + record.region.length ≤ padded := le_roundUp bucket _ (by decide)
  have above : padded < 4 + record.region.length + 256 := roundUp_lt bucket _ (by decide)
  have sized := region_length_text record
  have headed : (writeAt (List.replicate padded 0) 0 head : Checked VaultError Bytes) =
      .ok (head ++ List.replicate (padded - head.length) 0) :=
    writeAt_behind [] (by omega)
  have body : writeFieldsAt (head ++ List.replicate (padded - head.length) 0) 4 record.fields =
      .ok (head ++ record.region ++
        List.replicate (padded - head.length - record.region.length) 0,
        4 + record.region.length) :=
    writeFieldsAt_eq record.fields head (padded - head.length)
      (by change record.region.length ≤ _; omega) (by omega)
  unfold encodePaddedAt
  rw [summed]
  dsimp only
  rw [headed, ok_bind, body, ok_bind]
  dsimp only
  rw [if_pos rfl, encodePadded, padWithLength, zeroPad, List.length_append, Nat.sub_sub, four]
  rfl

section Walk

variable {bytes : Bytes} {regionEnd : Nat} (low : 4 ≤ regionEnd) (high : regionEnd ≤ bytes.length)
  (word : regionEnd < 2 ^ 33)

include low high word

/-- Reading a field at the cursor is reading it in the region. -/
theorem fieldAt_eq (reader : Reader) (region : reader.buf = (bytes.drop 4).take (regionEnd - 4)) :
    fieldAt bytes regionEnd (4 + reader.pos) = placed (readField reader) := by
  have sized : reader.buf.length = regionEnd - 4 := by
    rw [region, List.length_take, List.length_drop]
    omega
  have inside := reader.inside
  have room : reader.remaining = regionEnd - 4 - reader.pos := by
    rw [Reader.remaining, sized]
  have rest : reader.rest = (bytes.drop (4 + reader.pos)).take reader.remaining := by
    rw [Reader.rest, region, List.drop_take, List.drop_drop, room]
  have stepped : (add (4 + reader.pos) 4 : Checked VaultError Nat) = .ok (4 + reader.pos + 4) :=
    add_of_lt (by omega)
  have width : LeWord.width UInt32 = 4 := rfl
  unfold fieldAt
  rw [stepped, ok_bind]
  by_cases short : 4 + reader.pos + 4 > regionEnd
  · have headless : ¬ LeWord.width UInt32 ≤ reader.remaining := by omega
    have stops : readField reader = .error ⟨"field length prefix overruns record"⟩ :=
      bind_run_error (readLe_run_error headless)
    rw [if_pos short, stops]
    rfl
  have enough : LeWord.width UInt32 ≤ reader.remaining := by omega
  have front : reader.rest.take 4 = (bytes.drop (4 + reader.pos)).take 4 := by
    rw [rest, List.take_take, Nat.min_eq_left (by omega)]
  have length : (word32At bytes (4 + reader.pos) : Checked VaultError Nat) =
      .ok (leNat (reader.rest.take 4)) := by
    rw [word32At_of_le (by omega), front]
  have small : leNat (reader.rest.take 4) < 2 ^ 32 := by
    have bound := leNat_lt (reader.rest.take 4)
    rwa [List.length_take, Reader.rest_length, Nat.min_eq_left (by omega)] at bound
  let body := reader.advance (LeWord.width UInt32) enough
  let flen := leNat (reader.rest.take 4)
  have announced : LeWord.toNat (ofLe (reader.rest.take (LeWord.width UInt32)) : UInt32) = flen :=
    LeWord.toNat_ofNat _ small
  have ended : checkedEnd (4 + reader.pos + 4) flen (.malformedRecord "field length overflows") =
      .ok (4 + reader.pos + 4 + flen) := if_pos (by omega)
  have left : body.remaining = regionEnd - (4 + reader.pos + 4) := by
    change reader.buf.length - (reader.pos + 4) = _
    omega
  rw [if_neg short, length, ok_bind, ok_bind, ended, ok_bind]
  rw [readField, bind_run_ok (readLe_run_ok enough), announced]
  by_cases long : 4 + reader.pos + 4 + flen > regionEnd
  · have overruns : ¬ flen ≤ body.remaining := by omega
    rw [if_pos long, bind_run_error (take_run_error overruns)]
    rfl
  have fits : flen ≤ body.remaining := by omega
  have taken : body.rest.take flen = (bytes.drop (4 + reader.pos + 4)).take flen := by
    have behind : body.rest = reader.rest.drop 4 := Reader.advance_rest reader _ enough
    rw [behind, rest, List.drop_take, List.drop_drop, List.take_take, Nat.min_eq_left (by omega)]
  have sliced : (slice bytes (4 + reader.pos + 4) (4 + reader.pos + 4 + flen) :
      Checked VaultError Bytes) = .ok (body.rest.take flen) := by
    rw [slice_of_le (by omega) (by omega), taken, Nat.add_sub_cancel_left]
  rw [if_neg long, sliced, bind_run_ok (take_run_ok fits)]
  change (match ofUtf8 (body.rest.take flen) with
    | some text => .ok (text, 4 + reader.pos + 4 + flen)
    | none => refuse (.malformedRecord "field is not valid UTF-8")) = placed (fieldText _ _)
  rw [fieldText]
  cases ofUtf8 (body.rest.take flen) with
  | none => rfl
  | some text =>
    have stop : 4 + reader.pos + 4 + flen = 4 + (reader.pos + 4 + flen) := by omega
    rw [stop]
    rfl

/-- Reading fields from the cursor on is reading them in the region. -/
theorem fieldsAt_eq (count : Nat) (reader : Reader)
    (region : reader.buf = (bytes.drop 4).take (regionEnd - 4)) :
    fieldsAt bytes regionEnd count (4 + reader.pos) = placed (readMany readField count reader) := by
  induction count generalizing reader with
  | zero => rfl
  | succ count ih =>
    have first := fieldAt_eq low high word reader region
    unfold fieldsAt
    rw [first, readMany]
    cases run : readField reader with
    | error failure =>
      rw [bind_run_error run]
      rfl
    | ok pair =>
      obtain ⟨text, after⟩ := pair
      obtain ⟨read, _, consumed⟩ := (parses_readField reader text after).mp run
      have rest := ih after (consumed.buf.trans region)
      rw [bind_run_ok run, placed, ok_bind]
      dsimp only
      rw [rest]
      cases later : readMany readField count after with
      | error failure =>
        rw [bind_run_error later]
        rfl
      | ok others =>
        obtain ⟨texts, stop⟩ := others
        rw [bind_run_ok later]
        rfl

end Walk

/-- The cursor walk returns what the parser of the region returns, and never leaves the buffer. -/
theorem decodeAt_eq (bytes : Bytes) : decodeAt bytes = Checked.ofExcept (decode bytes) := by
  unfold decodeAt decode stripPadding
  by_cases short : bytes.length < 4
  · rw [if_pos short, if_pos short]
    rfl
  rw [if_neg short, if_neg short, word32At_of_le (by omega), ok_bind, List.drop_zero]
  have small : leNat (bytes.take 4) < 2 ^ 32 := by
    have bound := leNat_lt (bytes.take 4)
    rwa [List.length_take, Nat.min_eq_left (by omega)] at bound
  generalize leNat (bytes.take 4) = recordLen at small
  have ended : checkedEnd 4 recordLen (.malformedRecord "record length overflows") =
      .ok (4 + recordLen) := if_pos (by omega)
  rw [ended, ok_bind]
  dsimp only
  by_cases long : 4 + recordLen > bytes.length
  · rw [if_pos long, if_pos long]
    rfl
  have region (next : Bytes → Except VaultError EntryRecord) :
      (Except.ok ((bytes.drop 4).take recordLen) >>= next) =
        next ((bytes.drop 4).take recordLen) := rfl
  rw [if_neg long, if_neg long, region]
  let reader := Reader.new ((bytes.drop 4).take recordLen)
  have whole : (bytes.drop 4).take recordLen = (bytes.drop 4).take (4 + recordLen - 4) := by
    rw [Nat.add_sub_cancel_left]
  have sized : reader.buf.length = recordLen := by
    change ((bytes.drop 4).take recordLen).length = _
    rw [List.length_take, List.length_drop]
    omega
  have walk : fieldsAt bytes (4 + recordLen) fieldCount 4 =
      placed (readMany readField fieldCount reader) :=
    fieldsAt_eq (by omega) (by omega) (by omega) fieldCount reader whole
  rw [walk]
  cases run : readMany readField fieldCount reader with
  | error failure =>
    have stopped := parseAll_eq_error run
    rw [stopped]
    rfl
  | ok pair =>
    obtain ⟨fields, after⟩ := pair
    obtain ⟨_, _, consumed⟩ :=
      (parses_readMany parses_readField fieldCount reader fields after).mp run
    have inside := after.inside
    have left : after.remaining = recordLen - after.pos := by
      rw [Reader.remaining, consumed.buf, sized]
    rw [consumed.buf, sized] at inside
    rw [placed, ok_bind]
    dsimp only
    by_cases done : after.remaining = 0
    · have parsed := parseAll_eq_ok run done
      have ends : ¬ 4 + after.pos ≠ 4 + recordLen := by omega
      rw [parsed, if_neg ends]
      dsimp only
      cases ofFields fields with
      | none => rfl
      | some record => rfl
    · have parsed := parseAll_eq_trailing run done
      have stops : 4 + after.pos ≠ 4 + recordLen := by omega
      rw [parsed, if_pos stops]
      rfl

/-- A plaintext decodes exactly to the record whose fields fill its true-length region. -/
theorem decode_eq_ok_iff (bytes : Bytes) (record : EntryRecord) :
    decode bytes = .ok record ↔ 4 ≤ bytes.length ∧ 4 + leNat (bytes.take 4) ≤ bytes.length ∧
      (bytes.drop 4).take (leNat (bytes.take 4)) = record.region := by
  constructor
  · intro decoded
    exact stripPadding_eq_ok.mp (stripped_of_decode decoded)
  · intro held
    have whole := held.2.2
    have bound := leNat_lt (bytes.take 4)
    have announced : record.region.length ≤ leNat (bytes.take 4) := by
      rw [← whole, List.length_take]
      exact Nat.min_le_left _ _
    have fits : record.region.length < 2 ^ 32 := by
      refine Nat.lt_of_le_of_lt announced (Nat.lt_of_lt_of_le bound ?_)
      exact Nat.pow_le_pow_right (by decide) (List.length_take_le 4 bytes)
    exact decode_of_stripped fits (stripPadding_eq_ok.mpr held)

/-- The padded length is the least multiple of the bucket that holds the prefixes and the text. -/
theorem encodePadded_length (record : EntryRecord) :
    record.encodePadded.length = roundUp bucket (20 + record.textLength) := by
  rw [encodePadded, padWithLength_length _ _ (by decide), region_length_text, ← Nat.add_assoc]

/-- Behind the true length a padded plaintext is zero. -/
theorem encodePadded_drop (record : EntryRecord) :
    record.encodePadded.drop (4 + record.region.length) =
      List.replicate (record.encodePadded.length - (4 + record.region.length)) 0 := by
  have head : (lePrefix UInt32 record.region.length ++ record.region).length =
      4 + record.region.length := by
    rw [List.length_append, lePrefix_length]
    rfl
  rw [encodePadded, padWithLength, zeroPad_length _ _ (by decide), zeroPad, head,
    List.drop_left' head]

/-- The codec of records is exact. A record of less than `2 ^ 32 - 16` bytes of text is encoded
without leaving the buffer, into the least multiple of 256 that holds the prefixes and the text,
with zeros behind them, and decodes to itself. Any buffer is decoded without leaving it, and exactly
when its true-length region lies inside it and consists of four length-prefixed UTF-8 fields; what
follows the region does not matter. -/
theorem record_codec_exact :
    (∀ record : EntryRecord, record.textLength < 2 ^ 32 - 16 → ∃ encoded,
      encodePaddedAt record = .ok encoded ∧ encoded = record.encodePadded ∧
      decodeAt encoded = .ok record ∧
      (256 ∣ encoded.length ∧ 20 + record.textLength ≤ encoded.length ∧
        ∀ multiple, 256 ∣ multiple → 20 + record.textLength ≤ multiple →
          encoded.length ≤ multiple) ∧
      ∀ index byte, 20 + record.textLength ≤ index → encoded[index]? = some byte → byte = 0) ∧
    ∀ bytes : Bytes, decodeAt bytes ≠ .error .panicked ∧
      decodeAt bytes = Checked.ofExcept (decode bytes) ∧
      ∀ record, decodeAt bytes = .ok record ↔
        4 ≤ bytes.length ∧ 4 + leNat (bytes.take 4) ≤ bytes.length ∧
          (bytes.drop 4).take (leNat (bytes.take 4)) = record.region := by
  refine ⟨fun record fits => ?_, fun bytes => ?_⟩
  · have sized := region_length_text record
    have written := encodePaddedAt_eq record (by omega)
    have decoded : decodeAt record.encodePadded = .ok record := by
      rw [decodeAt_eq, decode_encodePadded record (by omega)]
      rfl
    have least : ∀ multiple, 256 ∣ multiple → 20 + record.textLength ≤ multiple →
        record.encodePadded.length ≤ multiple := by
      intro multiple divides covers
      rw [encodePadded_length]
      exact roundUp_le (by decide) divides covers
    have divides : 256 ∣ record.encodePadded.length := by
      rw [encodePadded_length]
      exact dvd_roundUp bucket _
    have covers : 20 + record.textLength ≤ record.encodePadded.length := by
      rw [encodePadded_length]
      exact le_roundUp bucket _ (by decide)
    refine ⟨record.encodePadded, written, rfl, decoded, ⟨divides, covers, least⟩, ?_⟩
    intro index byte past found
    have behind : 4 + record.region.length + (index - (4 + record.region.length)) = index := by
      omega
    rw [← behind, ← List.getElem?_drop, encodePadded_drop, List.getElem?_replicate] at found
    split at found
    · exact (Option.some.inj found).symm
    · cases found
  · have equal := decodeAt_eq bytes
    refine ⟨equal ▸ ofExcept_ne_panicked _, equal, fun record => ?_⟩
    rw [equal, ofExcept_eq_ok, decode_eq_ok_iff]

end EntryRecord

end Passman
