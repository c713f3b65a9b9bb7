import Passman.Hsm.Android
import Passman.Hsm.Tpm2
import Passman.Lib.Checked

/-!
# The indices of the blob decoders

The decoders of the blob and of the two payloads index and copy slices that they split off before.
Written with every index and every copy checked, they return what the parsers return, so that no
bytes of a file make them read outside a slice; and each of them inverts its encoder.
-/
namespace Passman

open Bytewise Checked

/-- Read a two-byte length, indexed in the slice that was split off, and that many bytes. -/
def readLenPrefixedAt {ε : Type} (short long : ε) (cursor : Bytes) : Checked ε (Bytes × Bytes) :=
  match splitSlice 2 cursor with
  | none => refuse short
  | some (lenBytes, rest) => do
    let len ← word16At lenBytes 0
    match splitSlice len rest with
    | none => refuse long
    | some (data, rest) => return (data, rest)

/-- Parse a blob, indexing the header that was sliced off. -/
def WrappedBlob.fromBytesAt (bytes : Bytes) : Checked HsmError WrappedBlob :=
  match sliceTo headerLen bytes with
  | none => refuse (.malformedBlob "input shorter than 4-byte header")
  | some header => do
    let version ← byteAt header 0
    if version ≠ blobVersion then refuse (.malformedBlob "unsupported blob_version")
    else do
      let kind ← Checked.ofExcept (HsmKind.fromByte (← byteAt header 1))
      let low ← byteAt header 2
      let high ← byteAt header 3
      match sliceFrom headerLen bytes with
      | none => refuse (.malformedBlob "missing payload region")
      | some payload =>
        if payload.length < leNat [low, high] then
          refuse (.malformedBlob "payload_len exceeds remaining input")
        else if fits : payload.length > leNat [low, high] then
          refuse (.malformedBlob "trailing bytes after payload")
        else return ⟨kind, payload, by
          have bound : leNat [low, high] < 256 ^ 2 := leNat_lt [low, high]
          omega⟩

/-- Parse the payload of the Keystore, copying the vector into an array. -/
def AndroidPayload.decodePayloadAt (payload : Bytes) : Checked HsmError AndroidPayload := do
  let (aliasBytes, cursor) ←
    readLenPrefixedAt (.malformedBlob "android payload truncated in a length prefix")
      (.malformedBlob "android length prefix exceeds remaining input") payload
  match ofUtf8 aliasBytes with
  | none => refuse (.malformedBlob "android alias is not valid UTF-8")
  | some keyAlias =>
    match splitSlice gcmIvLen cursor with
    | none => refuse (.malformedBlob "android payload truncated in gcm_iv")
    | some (ivSlice, cursor) => do
      let iv ← intoArray gcmIvLen ivSlice
      let (ciphertext, cursor) ←
        readLenPrefixedAt (.malformedBlob "android payload truncated in a length prefix")
          (.malformedBlob "android length prefix exceeds remaining input") cursor
      if cursor ≠ [] then refuse (.malformedBlob "trailing bytes after android payload")
      else if ciphertext.length < gcmTagLen then
        refuse (.malformedBlob "android ciphertext shorter than GCM tag")
      else return ⟨keyAlias, iv, ciphertext⟩

/-- Parse the payload of the TPM. -/
def Tpm2Payload.decodePayloadAt : Bytes → Checked HsmError Tpm2Payload
  | [] => refuse (.malformedBlob "TPM2 payload missing pcr_policy_present byte")
  | pcrPresent :: rest =>
    if pcrPresent ≠ pcrPolicyAbsent then
      refuse (.malformedBlob "TPM2 payload declares a PCR policy this build does not support")
    else
      match splitSlice uuidLen rest with
      | none => refuse (.malformedBlob "TPM2 payload truncated in enrollment uuid")
      | some (_, cursor) => do
        let (publicArea, cursor) ←
          readLenPrefixedAt (.malformedBlob "TPM2 payload truncated in a length prefix")
            (.malformedBlob "TPM2 payload length prefix exceeds remaining input") cursor
        let (privateArea, cursor) ←
          readLenPrefixedAt (.malformedBlob "TPM2 payload truncated in a length prefix")
            (.malformedBlob "TPM2 payload length prefix exceeds remaining input") cursor
        if cursor ≠ [] then refuse (.malformedBlob "trailing bytes after TPM2 payload")
        else return ⟨publicArea, privateArea⟩

/-- The length of a part is read inside the slice it was split off into. -/
theorem readLenPrefixedAt_eq {ε : Type} (short long : ε) (cursor : Bytes) :
    readLenPrefixedAt short long cursor = Checked.ofExcept (readLenPrefixed short long cursor) := by
  unfold readLenPrefixedAt readLenPrefixed
  rw [splitSlice_eq]
  cases splitAtChecked 2 cursor with
  | none => rfl
  | some parts =>
    obtain ⟨lenBytes, rest⟩ := parts
    have two := lenBytes.property
    have length : (word16At lenBytes.val 0 : Checked ε Nat) = .ok (leNat lenBytes.val) := by
      rw [word16At_of_le (by omega), List.drop_zero, List.take_of_length_le (by omega)]
    change (word16At lenBytes.val 0 >>= _) = _
    rw [length, ok_bind, splitSlice_eq]
    dsimp only
    cases splitAtChecked (leNat lenBytes.val) rest with
    | none => rfl
    | some halves => rfl

/-- The decoder of blobs reads inside the header and returns what the parser returns. -/
theorem WrappedBlob.fromBytesAt_eq (bytes : Bytes) :
    fromBytesAt bytes = Checked.ofExcept (fromBytes bytes) := by
  match bytes with
  | [] => rfl
  | [_] => rfl
  | [_, _] => rfl
  | [_, _, _] => rfl
  | version :: kindByte :: low :: high :: payload =>
    have header : sliceTo headerLen (version :: kindByte :: low :: high :: payload) =
        some [version, kindByte, low, high] := if_pos (Nat.le_add_left 4 payload.length)
    have four : ∀ index, index < 4 → index < [version, kindByte, low, high].length :=
      fun _ below => below
    have body : sliceFrom headerLen (version :: kindByte :: low :: high :: payload) =
        some payload := if_pos (Nat.le_add_left 4 payload.length)
    unfold fromBytesAt fromBytes
    rw [header]
    dsimp only
    rw [byteAt_of_lt (four _ (by decide)), ok_bind]
    change (if version ≠ blobVersion then _ else _) = _
    by_cases other : version ≠ blobVersion
    · rw [if_pos other, if_pos other]
      rfl
    rw [if_neg other, if_neg other, byteAt_of_lt (four _ (by decide)), ok_bind]
    change (Checked.ofExcept (HsmKind.fromByte kindByte) >>= _) = _
    cases HsmKind.fromByte kindByte with
    | error error => rfl
    | ok kind =>
      rw [byteAt_of_lt (four _ (by decide)), byteAt_of_lt (four _ (by decide)), body]
      change (if payload.length < leNat [low, high] then _ else
        if fits : payload.length > leNat [low, high] then _ else _) = Checked.ofExcept
          (if payload.length < leNat [low, high] then _ else
            if fits : payload.length = leNat [low, high] then _ else _)
      by_cases short : payload.length < leNat [low, high]
      · rw [if_pos short, if_pos short]
        rfl
      rw [if_neg short, if_neg short]
      by_cases long : payload.length > leNat [low, high]
      · rw [dif_pos long, dif_neg (by omega)]
        rfl
      · rw [dif_neg long, dif_pos (by omega)]
        rfl

/-- The decoder of Keystore payloads copies a vector of the right length and returns what the
parser returns. -/
theorem AndroidPayload.decodePayloadAt_eq (payload : Bytes) :
    decodePayloadAt payload = Checked.ofExcept (decodePayload payload) := by
  unfold decodePayloadAt decodePayload readPart
  rw [readLenPrefixedAt_eq]
  cases readLenPrefixed (HsmError.malformedBlob "android payload truncated in a length prefix")
      (.malformedBlob "android length prefix exceeds remaining input") payload with
  | error error => rfl
  | ok front =>
    obtain ⟨aliasBytes, cursor⟩ := front
    change (match ofUtf8 aliasBytes with | none => _ | some keyAlias => _) =
      Checked.ofExcept (match ofUtf8 aliasBytes with | none => _ | some keyAlias => _)
    cases ofUtf8 aliasBytes with
    | none => rfl
    | some keyAlias =>
      dsimp only
      rw [splitSlice_eq]
      cases splitAtChecked gcmIvLen cursor with
      | none => rfl
      | some middle =>
        obtain ⟨iv, rest⟩ := middle
        have copied : (intoArray gcmIvLen iv.val : Checked HsmError (Block gcmIvLen)) = .ok iv :=
          intoArray_of_length iv.property
        change (intoArray gcmIvLen iv.val >>= _) = _
        rw [copied, ok_bind, readLenPrefixedAt_eq]
        dsimp only
        cases readLenPrefixed
            (HsmError.malformedBlob "android payload truncated in a length prefix")
            (.malformedBlob "android length prefix exceeds remaining input") rest with
        | error error => rfl
        | ok last =>
          obtain ⟨ciphertext, trailing⟩ := last
          change (if trailing ≠ [] then _ else if ciphertext.length < gcmTagLen then _ else _) =
            Checked.ofExcept
              (if trailing ≠ [] then _ else if ciphertext.length < gcmTagLen then _ else _)
          by_cases more : trailing ≠ []
          · rw [if_pos more, if_pos more]
            rfl
          rw [if_neg more, if_neg more]
          by_cases short : ciphertext.length < gcmTagLen
          · rw [if_pos short, if_pos short]
            rfl
          · rw [if_neg short, if_neg short]
            rfl

/-- The decoder of TPM payloads returns what the parser returns. -/
theorem Tpm2Payload.decodePayloadAt_eq (payload : Bytes) :
    decodePayloadAt payload = Checked.ofExcept (decodePayload payload) := by
  cases payload with
  | nil => rfl
  | cons pcrPresent rest =>
    unfold decodePayloadAt decodePayload readPart
    dsimp only
    by_cases policy : pcrPresent ≠ pcrPolicyAbsent
    · rw [if_pos policy, if_pos policy]
      rfl
    rw [if_neg policy, if_neg policy, splitSlice_eq]
    cases splitAtChecked uuidLen rest with
    | none => rfl
    | some front =>
      obtain ⟨uuid, cursor⟩ := front
      dsimp only [Option.map_some]
      rw [readLenPrefixedAt_eq]
      cases readLenPrefixed (HsmError.malformedBlob "TPM2 payload truncated in a length prefix")
          (.malformedBlob "TPM2 payload length prefix exceeds remaining input") cursor with
      | error error => rfl
      | ok middle =>
        obtain ⟨publicArea, later⟩ := middle
        change (readLenPrefixedAt _ _ later >>= _) =
          Checked.ofExcept (readLenPrefixed _ _ later >>= _)
        rw [readLenPrefixedAt_eq]
        cases readLenPrefixed (HsmError.malformedBlob "TPM2 payload truncated in a length prefix")
            (.malformedBlob "TPM2 payload length prefix exceeds remaining input") later with
        | error error => rfl
        | ok last =>
          obtain ⟨privateArea, trailing⟩ := last
          change (if trailing ≠ [] then _ else _) =
            Checked.ofExcept (if trailing ≠ [] then _ else _)
          by_cases more : trailing ≠ []
          · rw [if_pos more, if_pos more]
            rfl
          · rw [if_neg more, if_neg more]
            rfl

/-- The blob codecs are exact inverses, and none of the decoders leaves its slice. A blob of any
kind and any payload of at most 65535 bytes is read back as written, and an accepted byte string is
the writing of what was read. A Keystore payload whose name and ciphertext fit their lengths, with a
ciphertext no shorter than its tag, decodes to its parts, and an accepted payload is the writing of
its parts. A TPM payload is written for areas that fit their lengths, and decodes to the parts it
was written from. -/
theorem hsm_blob_codecs_exact :
    (∀ kind payload, payload.length ≤ 65535 → ∃ blob : WrappedBlob,
      WrappedBlob.fromParts kind payload = .ok blob ∧ blob.kind = kind ∧ blob.payload = payload ∧
        WrappedBlob.fromBytesAt blob.toBytes = .ok blob) ∧
    (∀ bytes blob, WrappedBlob.fromBytesAt bytes = .ok blob → blob.toBytes = bytes) ∧
    (∀ parts : AndroidPayload, (utf8 parts.keyAlias).length ≤ 65535 →
      16 ≤ parts.ciphertext.length → parts.ciphertext.length ≤ 65535 → ∃ payload,
        AndroidPayload.encodePayload parts = .ok payload ∧
          AndroidPayload.decodePayloadAt payload = .ok parts) ∧
    (∀ payload parts, AndroidPayload.decodePayloadAt payload = .ok parts →
      AndroidPayload.encodePayload parts = .ok payload) ∧
    (∀ uuid (parts : Tpm2Payload), parts.publicArea.length ≤ 65535 →
      parts.privateArea.length ≤ 65535 → ∃ payload,
        Tpm2Payload.encodePayload uuid parts = .ok payload ∧
          Tpm2Payload.decodePayloadAt payload = .ok parts) ∧
    (∀ uuid parts payload, Tpm2Payload.encodePayload uuid parts = .ok payload →
      Tpm2Payload.decodePayloadAt payload = .ok parts) ∧
    ∀ bytes, WrappedBlob.fromBytesAt bytes ≠ .error .panicked ∧
      AndroidPayload.decodePayloadAt bytes ≠ .error .panicked ∧
      Tpm2Payload.decodePayloadAt bytes ≠ .error .panicked := by
  have read (uuid : Block uuidLen) (parts : Tpm2Payload) (payload : Bytes)
      (encoded : Tpm2Payload.encodePayload uuid parts = .ok payload) :
      Tpm2Payload.decodePayloadAt payload = .ok parts := by
    rw [Tpm2Payload.decodePayloadAt_eq, Tpm2Payload.decodePayload_eq_ok.mpr ⟨uuid, encoded⟩]
    rfl
  refine ⟨?_, ?_, ?_, ?_, ?_, read, ?_⟩
  · intro kind payload fits
    let blob : WrappedBlob := ⟨kind, payload, fits⟩
    refine ⟨blob, dif_pos fits, rfl, rfl, ?_⟩
    rw [WrappedBlob.fromBytesAt_eq, blob.fromBytes_toBytes]
    rfl
  · intro bytes blob decoded
    rw [WrappedBlob.fromBytesAt_eq, ofExcept_eq_ok] at decoded
    exact (WrappedBlob.toBytes_of_fromBytes decoded).symm
  · intro parts nameFits tagged textFits
    have encoded := AndroidPayload.encodePayload_eq_ok.mpr ⟨nameFits, textFits, rfl⟩
    refine ⟨_, encoded, ?_⟩
    rw [AndroidPayload.decodePayloadAt_eq,
      AndroidPayload.decodePayload_of_encodePayload encoded tagged]
    rfl
  · intro payload parts decoded
    rw [AndroidPayload.decodePayloadAt_eq, ofExcept_eq_ok] at decoded
    exact (AndroidPayload.encodePayload_of_decodePayload decoded).1
  · intro uuid parts publicFits privateFits
    have encoded := (@Tpm2Payload.encodePayload_eq_ok uuid parts _).mpr
      ⟨publicFits, privateFits, (rfl : _ = _)⟩
    exact ⟨_, encoded, read uuid parts _ encoded⟩
  · intro bytes
    rw [WrappedBlob.fromBytesAt_eq, AndroidPayload.decodePayloadAt_eq,
      Tpm2Payload.decodePayloadAt_eq]
    exact ⟨ofExcept_ne_panicked _, ofExcept_ne_panicked _, ofExcept_ne_panicked _⟩

end Passman
