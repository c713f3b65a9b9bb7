import Passman.Recovery.Format
import Passman.Reference

/-!
# The recovery format as a bijection

A payload is decoded exactly from its encoding, and a frame is read exactly from its
writing. A file that was exported is imported as the payload it carries; the length
field of the sealed payload has four bytes, so this holds for payloads whose encoding
and tag fit it.
-/
namespace Passman

open Bytewise

/-- Every field of the entry fits its length field. -/
structure RecoveryEntry.Fits (entry : RecoveryEntry) : Prop where
  /-- The label fits. -/
  label : (utf8 entry.label).length < 2 ^ 32
  /-- The username fits. -/
  username : (utf8 entry.username).length < 2 ^ 32
  /-- The password fits. -/
  password : (utf8 entry.password).length < 2 ^ 32
  /-- The address fits. -/
  url : (utf8 entry.url).length < 2 ^ 32
  /-- The notes fit. -/
  notes : (utf8 entry.notes).length < 2 ^ 32
  /-- The policy fits. -/
  policy : entry.policy.length < 2 ^ 32

/-- The fields and the number of entries fit their length fields. -/
structure ExportPayload.Fits (payload : ExportPayload) : Prop where
  /-- The number of entries fits. -/
  count : payload.entries.length < 2 ^ 32
  /-- Every entry fits. -/
  entries : ∀ entry ∈ payload.entries, entry.Fits

/-- The fields of an entry fit when its bytes do. -/
theorem RecoveryEntry.fits_of_length {entry : RecoveryEntry}
    (short : entry.toBytes.length < 2 ^ 32) :
    entry.Fits := by
  simp only [toBytes, prefixed, List.length_append] at short
  constructor <;> omega

/-- There are no more entries than bytes of entries. -/
theorem entries_length_le (entries : List RecoveryEntry) :
    entries.length ≤ (entries.flatMap RecoveryEntry.toBytes).length := by
  induction entries with
  | nil => exact Nat.le_refl _
  | cons entry entries ih =>
    have named : entry.id.val.length = 16 := entry.id.property
    rw [List.flatMap_cons, List.length_append, List.length_cons]
    simp only [RecoveryEntry.toBytes, List.length_append]
    omega

/-- The entries of a payload and their number fit when its bytes do. -/
theorem ExportPayload.fits_of_length {payload : ExportPayload}
    (short : (encodePayload payload).length < 2 ^ 32) : payload.Fits := by
  have counted := entries_length_le payload.entries
  rw [encodePayload, List.length_append] at short
  refine ⟨by omega, fun entry member => RecoveryEntry.fits_of_length ?_⟩
  have each := length_le_flatMap RecoveryEntry.toBytes member
  omega

section Payload

/-- Bytes read as a text are its UTF-8 bytes. -/
theorem parses_ofUtf8 (reason : String) (body : Bytes) : Parses (match ofUtf8 body with
    | some text => pure text
    | none => throw (.malformedPayload reason) : Parser RecoveryError String)
    (fun text tail => body = utf8 text ∧ tail = []) := by
  cases decoded : ofUtf8 body with
  | none =>
    refine (parses_throw _).congr fun text tail => ⟨False.elim, ?_⟩
    intro written
    rw [written.1, ofUtf8_utf8] at decoded
    cases decoded
  | some found =>
    have same : body = utf8 found := (ofUtf8_eq_some.mp decoded)
    refine (parses_pure found).congr fun text tail => and_congr_left fun _ => ⟨?_, ?_⟩
    · intro equal
      rw [equal, same]
    · intro written
      rw [written, ofUtf8_utf8] at decoded
      exact Option.some.inj decoded

/-- A text admits its UTF-8 bytes behind their length. -/
theorem parses_readText (field reason : String) : Parses (readText field reason) fun text bytes =>
    (utf8 text).length < 2 ^ 32 ∧ bytes = prefixed UInt32 (utf8 text) := by
  refine (parses_bind_legal (parses_readPrefixed UInt32 field) (parses_ofUtf8 reason)).congr
    fun text bytes => ?_
  constructor
  · rintro ⟨body, _, fits, ⟨rfl, rfl⟩, rfl⟩
    exact ⟨fits, List.append_nil _⟩
  · rintro ⟨fits, rfl⟩
    exact ⟨utf8 text, [], fits, ⟨rfl, rfl⟩, (List.append_nil _).symm⟩

/-- An entry that fits admits its writing. -/
theorem parses_readRecoveryEntry : Parses readRecoveryEntry fun entry bytes =>
    entry.Fits ∧ bytes = entry.toBytes := by
  refine (parses_bind_encoded (parses_take _ _) fun id =>
    parses_bind_legal (parses_readText _ _) fun label =>
    parses_bind_legal (parses_readText _ _) fun username =>
    parses_bind_legal (parses_readText _ _) fun password =>
    parses_bind_legal (parses_readText _ _) fun url =>
    parses_bind_legal (parses_readText _ _) fun notes =>
    parses_bind_legal (parses_readPrefixed UInt32 _) fun policy =>
      parses_pure _).congr fun entry bytes => ?_
  constructor
  · rintro ⟨id, _, ⟨label, _, labelFits, ⟨username, _, usernameFits, ⟨password, _, passwordFits,
      ⟨url, _, urlFits, ⟨notes, _, notesFits, ⟨policy, _, policyFits, ⟨rfl, rfl⟩, rfl⟩, rfl⟩, rfl⟩,
      rfl⟩, rfl⟩, rfl⟩, rfl⟩
    refine ⟨⟨labelFits, usernameFits, passwordFits, urlFits, notesFits, policyFits⟩, ?_⟩
    simp only [RecoveryEntry.toBytes, List.append_assoc, List.append_nil]
  · rintro ⟨fits, rfl⟩
    refine ⟨entry.id, _, ⟨entry.label, _, fits.label, ⟨entry.username, _, fits.username,
      ⟨entry.password, _, fits.password, ⟨entry.url, _, fits.url, ⟨entry.notes, _, fits.notes,
      ⟨entry.policy, _, fits.policy, ⟨rfl, rfl⟩, rfl⟩, rfl⟩, rfl⟩, rfl⟩, rfl⟩, rfl⟩, ?_⟩
    simp only [RecoveryEntry.toBytes, List.append_assoc, List.append_nil]

/-- A payload that fits admits its encoding. -/
theorem parses_readPayload : Parses readPayload fun payload bytes =>
    payload.Fits ∧ bytes = encodePayload payload := by
  refine (parses_bind_encoded (parses_readLe UInt8 _) fun version =>
    parses_bind (parses_ensure _ _) fun _ =>
    parses_bind_encoded (parses_take _ _) fun seed =>
    parses_bind_encoded (parses_take _ _) fun kdfBytes =>
    parses_bind_encoded (parses_readLe UInt32 _) fun count =>
    parses_bind_legal (parses_readMany parses_readRecoveryEntry (LeWord.toNat count))
      fun entries => parses_pure _).congr fun payload bytes => ?_
  constructor
  · rintro ⟨version, _, ⟨_, _, _, ⟨rfl, rfl⟩, ⟨seed, _, ⟨kdfBytes, _, ⟨count, _, ⟨entries, _,
      ⟨counted, fits⟩, ⟨rfl, rfl⟩, rfl⟩, rfl⟩, rfl⟩, rfl⟩, rfl⟩, rfl⟩
    have bound : entries.length < 2 ^ 32 := counted ▸ LeWord.toNat_lt count
    have written : toLe count = lePrefix UInt32 entries.length := by
      rw [lePrefix_of_lt UInt32 _ bound, counted, LeWord.ofNat_toNat]
    refine ⟨⟨bound, fits⟩, ?_⟩
    simp only [encodePayload, KdfParams.toBytes_fromBytes, ← written, List.append_assoc,
      List.append_nil, List.nil_append]
    rfl
  · rintro ⟨⟨bound, fits⟩, rfl⟩
    refine ⟨payloadVersion, _, ⟨(), [], _, ⟨rfl, rfl⟩, ⟨payload.totpSeed, _,
      ⟨⟨payload.originalVaultKdf.toBytes, payload.originalVaultKdf.toBytes_length⟩, _,
      ⟨LeWord.ofNat payload.entries.length, _, ⟨payload.entries, _,
      ⟨(LeWord.toNat_ofNat _ bound).symm, fits⟩, ⟨?_, rfl⟩, rfl⟩, rfl⟩, rfl⟩, rfl⟩, rfl⟩, ?_⟩
    · rw [KdfParams.fromBytes_toBytes]
    · simp only [encodePayload, lePrefix_of_lt UInt32 _ bound, List.append_assoc, List.append_nil,
        List.nil_append]
      rfl

/-- A payload is decoded exactly from its encoding. -/
theorem decodePayload_ok_iff (bytes : Bytes) (payload : ExportPayload) :
    decodePayload bytes = .ok payload ↔ payload.Fits ∧ bytes = encodePayload payload :=
  parseAll_ok_iff parses_readPayload bytes payload

end Payload

section Frame

/-- A check in front of a parser adds its condition. -/
theorem parses_checked {ε α : Type} {condition : Prop} [Decidable condition] {error : ε}
    {next : Parser ε α} {grammar : Grammar α} (parses : Parses next grammar) :
    Parses (do ensure condition error; next) fun value bytes => condition ∧
      grammar value bytes := by
  refine (parses_bind (parses_ensure condition error) fun _ => parses).congr fun value bytes => ?_
  constructor
  · rintro ⟨_, _, _, ⟨holds, rfl⟩, denoted, rfl⟩
    exact ⟨holds, denoted⟩
  · rintro ⟨holds, denoted⟩
    exact ⟨(), [], bytes, ⟨holds, rfl⟩, denoted, rfl⟩

/-- A frame within the limits admits its writing. -/
theorem parses_readFrame : Parses readFrame fun frame bytes =>
    (frame.params.withinLimits = true ∧ frame.ciphertext.length < 2 ^ 32) ∧
      bytes = frame.toBytes := by
  have single (byte : UInt8) : toLe byte = [byte] := by
    change [UInt8.ofNat byte.toNat] = [byte]
    rw [UInt8.ofNat_toNat]
  refine (parses_bind_encoded (parses_take 6 _) fun magic => parses_checked <|
    parses_bind_encoded (parses_readLe UInt8 _) fun version => parses_checked <|
    parses_bind_encoded (parses_readLe UInt8 _) fun kdfId => parses_checked <|
    parses_bind_encoded (parses_readLe UInt32 _) fun mKib =>
    parses_bind_encoded (parses_readLe UInt32 _) fun t =>
    parses_bind_encoded (parses_readLe UInt8 _) fun p => parses_checked <|
    parses_bind_encoded (parses_take 32 _) fun salt =>
    parses_bind_encoded (parses_take 24 _) fun nonce =>
    parses_bind_encoded (parses_readLe UInt32 _) fun length =>
    parses_bind_encoded (parses_take _ _) fun ciphertext =>
      parses_pure _).congr fun frame bytes => ?_
  constructor
  · rintro ⟨magic, _, ⟨same, version, _, ⟨rfl, kdfId, _, ⟨rfl, mKib, _, ⟨t, _, ⟨p, _, ⟨limits, salt,
      _, ⟨nonce, _, ⟨length, _, ⟨ciphertext, _, ⟨rfl, rfl⟩, rfl⟩, rfl⟩, rfl⟩, rfl⟩, rfl⟩, rfl⟩,
      rfl⟩, rfl⟩, rfl⟩, rfl⟩
    have bound : ciphertext.val.length < 256 ^ LeWord.width UInt32 := by
      rw [ciphertext.property]
      exact LeWord.toNat_lt length
    have counted : lePrefix UInt32 ciphertext.val.length = toLe length := by
      rw [lePrefix_of_lt UInt32 _ bound, ciphertext.property, LeWord.ofNat_toNat]
    refine ⟨⟨limits, bound⟩, ?_⟩
    simp only [RecoveryFrame.toBytes, prefixed, counted, same, single, List.append_assoc,
      List.append_nil, List.cons_append, List.nil_append]
  · rintro ⟨⟨limits, bound⟩, rfl⟩
    have capacity : frame.ciphertext.length < 256 ^ LeWord.width UInt32 := bound
    refine ⟨⟨recoveryMagic, by decide⟩, _, ⟨rfl, recoveryFormatVersion, _, ⟨rfl,
      recoveryKdfAlgorithmArgon2id, _, ⟨rfl, frame.params.mKib, _, ⟨frame.params.t, _,
      ⟨frame.params.p, _, ⟨limits, frame.salt, _, ⟨frame.nonce, _,
      ⟨LeWord.ofNat frame.ciphertext.length, _,
      ⟨⟨frame.ciphertext, (LeWord.toNat_ofNat _ capacity).symm⟩, _, ⟨rfl, rfl⟩, rfl⟩, rfl⟩, rfl⟩,
      rfl⟩, rfl⟩, rfl⟩, rfl⟩, rfl⟩, rfl⟩, ?_⟩
    simp only [RecoveryFrame.toBytes, prefixed, lePrefix_of_lt UInt32 _ capacity, single,
      List.append_assoc, List.append_nil, List.cons_append, List.nil_append]

/-- A file is read as a frame exactly when it is the writing of that frame within the limits. -/
theorem readFrame_ok_iff (file : Bytes) (frame : RecoveryFrame) :
    parseAll readFrame file = .ok frame ↔
      (frame.params.withinLimits = true ∧ frame.ciphertext.length < 2 ^ 32) ∧
        file = frame.toBytes :=
  parseAll_ok_iff parses_readFrame file frame

/-- The header in front of the sealed payload has 73 bytes, and four more hold the length. -/
theorem RecoveryFrame.toBytes_eq (frame : RecoveryFrame) :
    ∃ header : Bytes, header.length = 73 ∧
      frame.toBytes = header ++ (lePrefix UInt32 frame.ciphertext.length ++ frame.ciphertext) := by
  have salt := frame.salt.property
  have nonce := frame.nonce.property
  have magic : recoveryMagic.length = 6 := by decide
  refine ⟨recoveryMagic ++ [recoveryFormatVersion, recoveryKdfAlgorithmArgon2id] ++
    toLe frame.params.mKib ++ toLe frame.params.t ++ [frame.params.p] ++ frame.salt.val ++
    frame.nonce.val, ?_, rfl⟩
  have first : (toLe frame.params.mKib).length = 4 := toLe_length _
  have second : (toLe frame.params.t).length = 4 := toLe_length _
  simp only [List.length_append, List.length_cons, List.length_nil, magic, first, second, salt,
    nonce]

/-- The sealed length a recovery file declares. -/
def declaredLength (file : Bytes) : Nat := leNat ((file.drop 73).take 4)

/-- A file that is read as a frame has exactly the declared length. -/
theorem readFrame_length {file : Bytes} {frame : RecoveryFrame}
    (read : parseAll readFrame file = .ok frame) :
    file.length = 77 + declaredLength file ∧ declaredLength file = frame.ciphertext.length := by
  obtain ⟨⟨_, bound⟩, rfl⟩ := (readFrame_ok_iff file frame).mp read
  obtain ⟨header, sized, whole⟩ := frame.toBytes_eq
  have capacity : frame.ciphertext.length < 256 ^ LeWord.width UInt32 := bound
  have field : (lePrefix UInt32 frame.ciphertext.length).length = 4 := lePrefix_length UInt32 _
  have declared : declaredLength frame.toBytes = frame.ciphertext.length := by
    rw [declaredLength, whole, List.drop_left' sized, List.take_left' field,
      lePrefix_of_lt UInt32 _ capacity]
    have word : leNat (toLe (LeWord.ofNat frame.ciphertext.length : UInt32)) =
        LeWord.toNat (LeWord.ofNat frame.ciphertext.length : UInt32) :=
      leNat_leBytes _ _ (LeWord.toNat_lt _)
    rw [word, LeWord.toNat_ofNat _ capacity]
  refine ⟨?_, declared⟩
  rw [declared, whole, List.length_append, List.length_append, sized, field]
  omega

end Frame

section Files

variable [Crates]

/-- A successful export writes the frame of the sealed payload. -/
theorem exportWithinMemory_ok_iff {payload : ExportPayload} {password : String}
    {params : KdfParams} {available : Option UInt64} {salt : Block 32} {nonce : Nonce}
    {file : Bytes} : exportWithinMemory payload password params available salt nonce = .ok file ↔
      meetsFloor params = true ∧ ∃ key ciphertext,
        argon2idWithinMemory password salt.val params available = .ok key ∧
        encrypt (hkdfMaster salt.val key.val recoveryInfo) nonce recoveryAd
          (encodePayload payload) = .ok ciphertext ∧
        file = RecoveryFrame.toBytes ⟨params, salt, nonce, ciphertext⟩ := by
  rw [exportWithinMemory, checkFloor, sealRecovery, deriveRecoveryKey]
  cases floor : meetsFloor params with
  | false => simp [bind, Except.bind]
  | true =>
    cases derived : argon2idWithinMemory password salt.val params available with
    | error error => simp [bind, Except.bind]
    | ok key =>
      cases encrypted : encrypt (hkdfMaster salt.val key.val recoveryInfo) nonce recoveryAd
          (encodePayload payload) with
      | error error => simp [sealFrame, encrypted, bind, Except.bind, Except.mapError]
      | ok ciphertext =>
        simp [sealFrame, encrypted, bind, Except.bind, Except.mapError, pure, Except.pure, eq_comm]

omit [Crates] in
/-- A frame is read for an import exactly when the whole file is its writing within the limits and
its payload holds a tag. -/
theorem readImport_ok_iff (file : Bytes) (frame : RecoveryFrame) :
    readImport file = .ok frame ↔
      parseAll readFrame file = .ok frame ∧ tagLen ≤ frame.ciphertext.length := by
  rw [readImport]
  cases read : parseAll readFrame file with
  | error error => simp [bind, Except.bind]
  | ok found =>
    by_cases short : found.ciphertext.length < tagLen
    · simp only [bind, Except.bind, if_pos short]
      constructor
      · intro clash
        cases clash
      · rintro ⟨same, long⟩
        obtain rfl := Except.ok.inj same
        omega
    · simp only [bind, Except.bind, if_neg short]
      constructor
      · intro same
        obtain rfl := Except.ok.inj same
        exact ⟨rfl, Nat.le_of_not_lt short⟩
      · exact fun accepted => accepted.1

/-- A payload is opened exactly when it authenticates and decodes. -/
theorem openFrame_ok_iff {key : Key} {frame : RecoveryFrame} {payload : ExportPayload} :
    openFrame key frame = .ok payload ↔ ∃ plaintext,
      decrypt key frame.nonce recoveryAd frame.ciphertext = .ok plaintext ∧
        decodePayload plaintext = .ok payload := by
  rw [openFrame]
  cases decrypt key frame.nonce recoveryAd frame.ciphertext with
  | ok plaintext => simp
  | error error => cases error <;> simp

/-- A successful import read a frame, derived its key and decoded what authenticated under it. -/
theorem importWithinMemory_ok_iff {file : Bytes} {password : String} {available : Option UInt64}
    {payload : ExportPayload} : importWithinMemory file password available = .ok payload ↔
      ∃ frame key plaintext, parseAll readFrame file = .ok frame ∧
        argon2idWithinMemory password frame.salt.val frame.params available = .ok key ∧
        decrypt (hkdfMaster frame.salt.val key.val recoveryInfo) frame.nonce recoveryAd
          frame.ciphertext = .ok plaintext ∧ decodePayload plaintext = .ok payload := by
  rw [importWithinMemory]
  cases read : readImport file with
  | error error =>
    simp only [bind, Except.bind, reduceCtorEq, false_iff]
    rintro ⟨frame, key, plaintext, parsed, _, decrypted, _⟩
    have long : tagLen ≤ frame.ciphertext.length := by
      by_contra short
      rw [decrypt, if_pos (Nat.lt_of_not_le short)] at decrypted
      cases decrypted
    rw [(readImport_ok_iff file frame).mpr ⟨parsed, long⟩] at read
    cases read
  | ok frame =>
    have parsed := ((readImport_ok_iff file frame).mp read).1
    simp only [bind, Except.bind, deriveRecoveryKey]
    cases derived : argon2idWithinMemory password frame.salt.val frame.params available with
    | error error =>
      simp only [reduceCtorEq, false_iff]
      rintro ⟨other, key, plaintext, same, again, _⟩
      obtain rfl := Except.ok.inj (parsed.symm.trans same)
      rw [derived] at again
      cases again
    | ok key =>
      simp only [openFrame_ok_iff]
      constructor
      · rintro ⟨plaintext, decrypted, decoded⟩
        exact ⟨frame, key, plaintext, parsed, derived, decrypted, decoded⟩
      · rintro ⟨other, found, plaintext, same, again, decrypted, decoded⟩
        obtain rfl := Except.ok.inj (parsed.symm.trans same)
        obtain rfl := Except.ok.inj (derived.symm.trans again)
        exact ⟨plaintext, decrypted, decoded⟩

/-- The payloads and files of the recovery format: decoding and encoding are inverse on everything
they accept, an exported file whose sealed payload fits its length field is imported as its payload,
and a file of any other length than the header and the declared ciphertext is refused. -/
theorem recovery_round_trip (aead : AeadLaws) :
    (∀ payload : ExportPayload, payload.Fits →
      decodePayload (encodePayload payload) = .ok payload) ∧
    (∀ bytes payload, decodePayload bytes = .ok payload → encodePayload payload = bytes) ∧
    (∀ (payload : ExportPayload) password params salt nonce key atExport atImport, payload.Fits →
      (encodePayload payload).length + 16 < 2 ^ 32 → meetsFloor params = true →
      params.withinLimits = true →
      (∀ available ∈ atExport, memoryCostFits params.mKib available = true) →
      (∀ available ∈ atImport, memoryCostFits params.mKib available = true) →
      Crates.argon2 (utf8 password) salt.val params = .ok key →
      ∃ file, exportWithinMemory payload password params atExport salt nonce = .ok file ∧
        importWithinMemory file password atImport = .ok payload) ∧
    (∀ file password available, file.length ≠ 77 + declaredLength file →
      ∃ error, importWithinMemory file password available = .error error) := by
  have decodes (payload : ExportPayload) (fits : payload.Fits) :
      decodePayload (encodePayload payload) = .ok payload :=
    (decodePayload_ok_iff _ _).mpr ⟨fits, rfl⟩
  refine ⟨decodes, ?_, ?_, ?_⟩
  · intro bytes payload decoded
    exact ((decodePayload_ok_iff bytes payload).mp decoded).2.symm
  · intro payload password params salt nonce key atExport atImport fits small floor limits
      exportFits importFits derived
    have short : (encodePayload payload).length < 2 ^ 32 := by omega
    obtain ⟨ciphertext, encrypted⟩ := encrypt_total aead (hkdfMaster salt.val key.val recoveryInfo)
      nonce recoveryAd (encodePayload payload) short
    have sized := encrypt_length aead encrypted
    have exported := argon2idWithinMemory_eq_ok.mpr ⟨limits, exportFits, derived⟩
    have imported := argon2idWithinMemory_eq_ok.mpr ⟨limits, importFits, derived⟩
    have read := (readFrame_ok_iff _ ⟨params, salt, nonce, ciphertext⟩).mpr
      ⟨⟨limits, by rw [sized]; exact small⟩, rfl⟩
    refine ⟨_, exportWithinMemory_ok_iff.mpr ⟨floor, key, ciphertext, exported, encrypted, rfl⟩, ?_⟩
    exact importWithinMemory_ok_iff.mpr ⟨_, key, _, read, imported,
      decrypt_encrypt aead encrypted, decodes payload fits⟩
  · intro file password available other
    cases imported : importWithinMemory file password available with
    | error error => exact ⟨error, rfl⟩
    | ok payload =>
      obtain ⟨frame, _, _, read, _⟩ := importWithinMemory_ok_iff.mp imported
      exact absurd (readFrame_length read).1 other

/-- A file whose sealed payload does not fit its length field is not imported. -/
theorem oversized_file_is_refused (aead : AeadLaws) {payload : ExportPayload} {password : String}
    {params : KdfParams} {available : Option UInt64} {salt : Block 32} {nonce : Nonce}
    {file : Bytes} (long : 2 ^ 32 ≤ (encodePayload payload).length + 16)
    (exported : exportWithinMemory payload password params available salt nonce = .ok file)
    (later : Option UInt64) (restored : ExportPayload) :
    importWithinMemory file password later ≠ .ok restored := by
  intro imported
  obtain ⟨_, key, ciphertext, _, encrypted, rfl⟩ := exportWithinMemory_ok_iff.mp exported
  obtain ⟨frame, _, _, read, _⟩ := importWithinMemory_ok_iff.mp imported
  have sized := encrypt_length aead encrypted
  obtain ⟨whole, declared⟩ := readFrame_length read
  obtain ⟨⟨_, bound⟩, _⟩ := (readFrame_ok_iff _ frame).mp read
  obtain ⟨header, fixed, written⟩ := RecoveryFrame.toBytes_eq ⟨params, salt, nonce, ciphertext⟩
  change _ = header ++ (lePrefix UInt32 ciphertext.length ++ ciphertext) at written
  have field : (lePrefix UInt32 ciphertext.length).length = 4 := lePrefix_length UInt32 _
  rw [declared, written, List.length_append, List.length_append, fixed, field] at whole
  omega

/-- What is imported from an exported file under the same password is the payload that was
exported. -/
theorem importWithinMemory_exported (aead : AeadLaws) {payload restored : ExportPayload}
    {password : String} {params : KdfParams} {atExport atImport : Option UInt64} {salt : Block 32}
    {nonce : Nonce} {file : Bytes} (fits : payload.Fits)
    (exported : exportWithinMemory payload password params atExport salt nonce = .ok file)
    (imported : importWithinMemory file password atImport = .ok restored) : restored = payload := by
  by_cases long : 2 ^ 32 ≤ (encodePayload payload).length + 16
  · exact absurd imported (oversized_file_is_refused aead long exported atImport restored)
  · obtain ⟨_, key, ciphertext, hashed, encrypted, rfl⟩ := exportWithinMemory_ok_iff.mp exported
    obtain ⟨frame, again, plaintext, read, rehashed, decrypted, decoded⟩ :=
      importWithinMemory_ok_iff.mp imported
    have sized := encrypt_length aead encrypted
    have limits := (argon2idWithinMemory_eq_ok.mp hashed).1
    have whole := (readFrame_ok_iff _ ⟨params, salt, nonce, ciphertext⟩).mpr
      ⟨⟨limits, by rw [sized]; omega⟩, rfl⟩
    obtain rfl := Except.ok.inj (whole.symm.trans read)
    have first := (argon2idWithinMemory_eq_ok.mp hashed).2.2
    have second := (argon2idWithinMemory_eq_ok.mp rehashed).2.2
    obtain rfl := Except.ok.inj (first.symm.trans second)
    obtain rfl := Except.ok.inj ((decrypt_encrypt aead encrypted).symm.trans decrypted)
    have decodes := (decodePayload_ok_iff (encodePayload payload) payload).mpr ⟨fits, rfl⟩
    exact (Except.ok.inj (decodes.symm.trans decoded)).symm

/-- A file that is imported was sealed from a payload that fits, and holds that payload. -/
theorem importWithinMemory_restores (aead : AeadLaws) {payload restored : ExportPayload}
    {password : String} {params : KdfParams} {atExport atImport : Option UInt64} {salt : Block 32}
    {nonce : Nonce} {file : Bytes}
    (exported : exportWithinMemory payload password params atExport salt nonce = .ok file)
    (imported : importWithinMemory file password atImport = .ok restored) : restored = payload := by
  by_cases long : 2 ^ 32 ≤ (encodePayload payload).length + 16
  · exact absurd imported (oversized_file_is_refused aead long exported atImport restored)
  · have fits : payload.Fits := ExportPayload.fits_of_length (by omega)
    exact importWithinMemory_exported aead fits exported imported

end Files

/-- A payload with one entry that carries a policy of a given text of bytes. -/
def Reference.payloadWith (policy : Bytes) : ExportPayload :=
  ⟨Block.replicate 32 0, Reference.kdfParams,
    [⟨Block.replicate 16 0, "", "", "", "", "", policy⟩]⟩

/-- The policy of the longest length its field can hold makes the sealed payload too long for its
own length field: every field fits, the export succeeds, and its file is not imported. -/
theorem longest_policy_is_not_restored :
    letI := Reference.crates
    ∃ (payload : ExportPayload) (file : Bytes), payload.Fits ∧
      meetsFloor floorParams = true ∧ floorParams.withinLimits = true ∧
      exportWithinMemory payload "pw" floorParams none (Block.replicate 32 0) Reference.nonce =
        .ok file ∧
      importWithinMemory file "pw" none ≠ .ok payload := by
  let _ := Reference.crates
  obtain ⟨policy, sized⟩ : ∃ policy : Bytes, policy.length = 2 ^ 32 - 1 :=
    ⟨List.replicate (2 ^ 32 - 1) 0, List.length_replicate⟩
  have empty : (utf8 "").length < 2 ^ 32 := by decide
  have entryFits : RecoveryEntry.Fits ⟨Block.replicate 16 0, "", "", "", "", "", policy⟩ :=
    ⟨empty, empty, empty, empty, empty, by rw [sized]; decide⟩
  have fits : (Reference.payloadWith policy).Fits := by
    refine ⟨(by decide : 1 < 2 ^ 32), fun entry member => ?_⟩
    rw [List.mem_singleton.mp member]
    exact entryFits
  have long : 2 ^ 32 ≤ (encodePayload (Reference.payloadWith policy)).length + 16 := by
    simp only [encodePayload, Reference.payloadWith, List.flatMap_cons, RecoveryEntry.toBytes,
      prefixed, List.length_append, sized]
    omega
  obtain ⟨key, derived⟩ : ∃ key, argon2idWithinMemory "pw" (Block.replicate 32 0).val floorParams
      none = .ok key := ⟨_, argon2idWithinMemory_eq_ok.mpr ⟨by decide, by simp, rfl⟩⟩
  have sealedPayload (key : Key) (message : Bytes) :
      encrypt key Reference.nonce recoveryAd message =
        .ok (message ++ Reference.tag key Reference.nonce recoveryAd message) := rfl
  obtain ⟨file, exported⟩ : ∃ file, exportWithinMemory (Reference.payloadWith policy) "pw"
      floorParams none (Block.replicate 32 0) Reference.nonce = .ok file :=
    ⟨_, exportWithinMemory_ok_iff.mpr ⟨by decide, key, _, derived, sealedPayload _ _, rfl⟩⟩
  exact ⟨Reference.payloadWith policy, file, fits, by decide, by decide, exported,
    oversized_file_is_refused Reference.aeadLaws long exported none _⟩

/-- The format of the reference functions. -/
theorem recovery_round_trip_reference :
    letI := Reference.crates
    ∃ file, exportWithinMemory (Reference.payloadWith []) "pw" floorParams none
        (Block.replicate 32 0) Reference.nonce = .ok file ∧
      importWithinMemory file "pw" none = .ok (Reference.payloadWith []) := by
  let _ := Reference.crates
  have empty : (utf8 "").length < 2 ^ 32 := by decide
  have fits : (Reference.payloadWith []).Fits := by
    refine ⟨by decide, fun entry member => ?_⟩
    rw [List.mem_singleton.mp member]
    exact ⟨empty, empty, empty, empty, empty, by decide⟩
  exact (recovery_round_trip Reference.aeadLaws).2.2.1 (Reference.payloadWith []) "pw" floorParams
    (Block.replicate 32 0) Reference.nonce _ none none fits (by decide) (by decide) (by decide)
    (by simp) (by simp) rfl

end Passman
