import Passman.Vault.Error

/-!
# Entry records

The four secret fields of an entry, each behind its length, form a region that is
itself behind its length and zero-padded to a bucket. Decoding checks the outer
length against the buffer and every inner length against the region, and requires
the four fields to fill the region.
-/
namespace Passman

open Bytewise

/-- The padding bucket of records and of the sealed index. -/
def bucket : Nat := 256

/-- The number of secret fields. -/
def fieldCount : Nat := 4

/-- The secret payload of an entry. -/
structure EntryRecord where
  /-- The username. -/
  username : String
  /-- The password. -/
  password : String
  /-- The address. -/
  url : String
  /-- Free-form notes. -/
  notes : String
  deriving DecidableEq

/-- The structural failures of a record region carry only a reason. -/
structure RecordReason where
  /-- The reason reported to the caller. -/
  reason : String
  deriving DecidableEq

instance : ReadError RecordReason where
  truncated field _ := ⟨field⟩
  trailing _ := ⟨"record region not fully consumed"⟩

/-- The string a field body encodes. -/
def fieldText (body : Bytes) : Parser RecordReason String :=
  match ofUtf8 body with
  | some text => pure text
  | none => throw ⟨"field is not valid UTF-8"⟩

/-- One field: its length, its body inside the region, and valid UTF-8. -/
def readField : Parser RecordReason String := do
  let length ← readLe UInt32 "field length prefix overruns record"
  let body ← take (LeWord.toNat length) "field body overruns record"
  fieldText body.val

namespace EntryRecord

/-- The fields in storage order. -/
def fields (record : EntryRecord) : List String :=
  [record.username, record.password, record.url, record.notes]

/-- The region: every field behind its length. -/
def region (record : EntryRecord) : Bytes :=
  record.fields.flatMap fun field => prefixed UInt32 (utf8 field)

/-- The padded plaintext of a record. -/
def encodePadded (record : EntryRecord) : Bytes := padWithLength bucket record.region

/-- The record of a list of exactly four fields. -/
def ofFields : List String → Option EntryRecord
  | [username, password, url, notes] => some ⟨username, password, url, notes⟩
  | _ => none

/-- The record a plaintext carries. -/
def decode (plaintext : Bytes) : Except VaultError EntryRecord := do
  let region ← stripPadding (.malformedRecord "missing true-length prefix")
    (.malformedRecord "record length exceeds plaintext") plaintext
  match parseAll (readMany readField fieldCount) region with
  | .error failure => .error (.malformedRecord failure.reason)
  | .ok fields =>
    match ofFields fields with
    | some record => .ok record
    | none => .error (.malformedRecord "fewer fields than expected")

/-- A field body is admitted exactly when it is the UTF-8 of the result. -/
theorem parses_fieldText (body : Bytes) :
    Parses (fieldText body) fun text bytes => body = utf8 text ∧ bytes = [] := by
  rw [fieldText]
  cases decoded : ofUtf8 body with
  | none =>
    refine (parses_throw _).congr fun text bytes => ⟨False.elim, ?_⟩
    rintro ⟨rfl, _⟩
    rw [ofUtf8_utf8] at decoded
    cases decoded
  | some found =>
    obtain rfl := ofUtf8_eq_some.mp decoded
    refine (parses_pure found).congr fun text bytes => and_congr_left fun _ => ⟨?_, ?_⟩
    · rintro rfl
      rfl
    · intro same
      rwa [same, ofUtf8_utf8, Option.some.injEq] at decoded

/-- A field admits exactly its length-prefixed UTF-8 bytes. -/
theorem parses_readField : Parses readField fun text bytes =>
    (utf8 text).length < 2 ^ 32 ∧ bytes = prefixed UInt32 (utf8 text) := by
  refine (parses_bind (parses_readLe UInt32 _) fun length =>
    parses_bind (parses_take _ _) fun body => parses_fieldText body.val).congr ?_
  intro text bytes
  constructor
  · rintro ⟨length, _, _, rfl, ⟨body, _, _, rfl, ⟨same, rfl⟩, rfl⟩, rfl⟩
    have sized : (utf8 text).length = LeWord.toNat length := by rw [← same, body.property]
    have bound : (utf8 text).length < 256 ^ LeWord.width UInt32 := by
      rw [sized]
      exact LeWord.toNat_lt length
    refine ⟨bound, ?_⟩
    rw [prefixed, lePrefix_of_lt UInt32 _ bound, sized, LeWord.ofNat_toNat, same, List.append_nil]
  · rintro ⟨bound, rfl⟩
    have capacity : (utf8 text).length < 256 ^ LeWord.width UInt32 := bound
    refine ⟨LeWord.ofNat (utf8 text).length, _, _, rfl,
      ⟨⟨utf8 text, (LeWord.toNat_ofNat _ capacity).symm⟩, _, _, rfl, ⟨rfl, rfl⟩, rfl⟩, ?_⟩
    rw [prefixed, lePrefix_of_lt UInt32 _ capacity, List.append_nil]

/-- A region parses exactly into the fields it was written from. -/
theorem parse_region_ok_iff (fields : List String) (region : Bytes) :
    parseAll (readMany readField fieldCount) region = .ok fields ↔
      (fields.length = fieldCount ∧ ∀ field ∈ fields, (utf8 field).length < 2 ^ 32) ∧
        region = fields.flatMap fun field => prefixed UInt32 (utf8 field) :=
  parseAll_ok_iff (parses_readMany parses_readField fieldCount) region fields

/-- A region holds four lengths and the fields. -/
theorem region_length (record : EntryRecord) : record.region.length =
    16 + (utf8 record.username).length + (utf8 record.password).length + (utf8 record.url).length +
      (utf8 record.notes).length := by
  have width : LeWord.width UInt32 = 4 := rfl
  simp only [region, fields, List.flatMap_cons, List.flatMap_nil, prefixed, List.length_append,
    List.length_nil, lePrefix_length, width]
  omega

/-- No field is longer than the region it is written into. -/
theorem field_le_region (record : EntryRecord) (field : String) (member : field ∈ record.fields) :
    (utf8 field).length ≤ record.region.length := by
  have piece := length_le_flatMap (fun text => prefixed UInt32 (utf8 text)) member
  have part : (utf8 field).length ≤ (prefixed UInt32 (utf8 field)).length := by
    rw [prefixed, List.length_append]
    omega
  exact Nat.le_trans part piece

/-- The bytes of a record are stripped from every plaintext it is decoded from. -/
theorem stripped_of_decode {plaintext : Bytes} {record : EntryRecord}
    (decoded : decode plaintext = .ok record) :
    stripPadding (VaultError.malformedRecord "missing true-length prefix")
      (.malformedRecord "record length exceeds plaintext") plaintext = .ok record.region := by
  rw [decode] at decoded
  cases stripped : stripPadding (VaultError.malformedRecord "missing true-length prefix")
      (.malformedRecord "record length exceeds plaintext") plaintext with
  | error error =>
    rw [stripped] at decoded
    cases decoded
  | ok region =>
    rw [stripped] at decoded
    change (match parseAll (readMany readField fieldCount) region with
      | .error failure => Except.error (VaultError.malformedRecord failure.reason)
      | .ok fields => _) = _ at decoded
    cases parsed : parseAll (readMany readField fieldCount) region with
    | error failure =>
      rw [parsed] at decoded
      cases decoded
    | ok fields =>
      rw [parsed] at decoded
      obtain ⟨_, same⟩ := (parse_region_ok_iff fields region).mp parsed
      match fields, same, decoded with
      | [username, password, url, notes], same, decoded =>
        rw [← Except.ok.inj decoded, same]
        rfl

/-- The region of a decoded record is no longer than the plaintext it was decoded from. -/
theorem region_le_of_decode {plaintext : Bytes} {record : EntryRecord}
    (decoded : decode plaintext = .ok record) : record.region.length ≤ plaintext.length :=
  stripPadding_length (stripped_of_decode decoded)

/-- A plaintext whose region is that of a record is decoded to the record. -/
theorem decode_of_stripped {plaintext : Bytes} {record : EntryRecord}
    (fits : record.region.length < 2 ^ 32)
    (stripped : stripPadding (VaultError.malformedRecord "missing true-length prefix")
      (.malformedRecord "record length exceeds plaintext") plaintext = .ok record.region) :
    decode plaintext = .ok record := by
  have parsed : parseAll (readMany readField fieldCount) record.region = .ok record.fields := by
    rw [parse_region_ok_iff]
    refine ⟨⟨rfl, fun field member => ?_⟩, rfl⟩
    exact Nat.lt_of_le_of_lt (field_le_region record field member) fits
  rw [decode, stripped]
  change (match parseAll (readMany readField fieldCount) record.region with
    | .error failure => _
    | .ok fields => _) = _
  rw [parsed]
  rfl

/-- Decoding inverts encoding for every record whose region length fits its prefix. -/
theorem decode_encodePadded (record : EntryRecord) (fits : record.region.length < 2 ^ 32) :
    decode record.encodePadded = .ok record :=
  decode_of_stripped fits (stripPadding_padWithLength _ _ bucket record.region fits)

end EntryRecord

end Passman
