import Passman.Crypto.Cipher
import Passman.Recovery.Payload

/-!
# The recovery file

A plaintext header with the derivation parameters, a salt and a nonce, followed by
the sealed payload. Export refuses parameters below a floor; import refuses header
parameters outside the limits, and ciphertexts shorter than a tag, before deriving.
-/
namespace Passman

open Bytewise

/-- The file magic. -/
def recoveryMagic : Bytes := utf8 "PSMREC"

/-- The format version. -/
def recoveryFormatVersion : UInt8 := 0x01

/-- The identifier of Argon2id. -/
def recoveryKdfAlgorithmArgon2id : UInt8 := 0x00

/-- The associated data of the payload. -/
def recoveryAd : Bytes := utf8 "PSMREC-v0"

/-- The derivation label of the recovery key. -/
def recoveryInfo : Bytes := utf8 "recovery-export-v0"

/-- The strength presets of an export. -/
inductive RecoveryPreset where
  /-- The weakest admitted preset. -/
  | floor
  /-- The preset offered first. -/
  | default
  /-- The strongest preset. -/
  | paranoid
  deriving DecidableEq

/-- The parameters of a preset. -/
def RecoveryPreset.params : RecoveryPreset → KdfParams
  | floor => ⟨1048576, 4, 1⟩
  | default => ⟨4194304, 8, 1⟩
  | paranoid => ⟨8388608, 12, 1⟩

/-- The parameters of the weakest preset. -/
def floorParams : KdfParams := RecoveryPreset.floor.params

/-- Whether parameters are at or above the floor. -/
def meetsFloor (params : KdfParams) : Bool :=
  params.mKib ≥ floorParams.mKib && params.t ≥ floorParams.t && params.p ≥ floorParams.p

/-- The plaintext frame of a recovery file. -/
structure RecoveryFrame where
  /-- The derivation parameters. -/
  params : KdfParams
  /-- The derivation salt. -/
  salt : Block 32
  /-- The nonce of the payload. -/
  nonce : Nonce
  /-- The sealed payload. -/
  ciphertext : Bytes
  deriving DecidableEq

/-- The bytes of a recovery file. -/
def RecoveryFrame.toBytes (frame : RecoveryFrame) : Bytes :=
  recoveryMagic ++ [recoveryFormatVersion, recoveryKdfAlgorithmArgon2id] ++
    toLe frame.params.mKib ++ toLe frame.params.t ++ [frame.params.p] ++ frame.salt.val ++
    frame.nonce.val ++ prefixed UInt32 frame.ciphertext

/-- Read the frame of a recovery file. -/
def readFrame : Parser RecoveryError RecoveryFrame := do
  let magic ← take 6 "magic"
  ensure (magic.val = recoveryMagic) .badMagic
  let version ← readLe UInt8 "format_version"
  ensure (version = recoveryFormatVersion) (.unsupportedVersion version recoveryFormatVersion)
  let kdfId ← readLe UInt8 "kdf_algorithm_id"
  ensure (kdfId = recoveryKdfAlgorithmArgon2id) (.unsupportedKdfAlgorithm kdfId)
  let mKib ← readLe UInt32 "argon2.m"
  let t ← readLe UInt32 "argon2.t"
  let p ← readLe UInt8 "argon2.p"
  ensure ((KdfParams.mk mKib t p).withinLimits = true) (.kdfParamsOutOfRange mKib t p)
  let salt ← take 32 "recovery_salt"
  let nonce ← take 24 "nonce"
  let length ← readLe UInt32 "payload_ct_len"
  let ciphertext ← take (LeWord.toNat length) "payload_ct"
  return ⟨⟨mKib, t, p⟩, salt, nonce, ciphertext.val⟩

section Recovery

variable [Crates]

/-- Derive the recovery key from the password. -/
def deriveRecoveryKey (password : String) (salt : Block 32) (params : KdfParams)
    (availableKib : Option UInt64) : Except RecoveryError Key :=
  match argon2idWithinMemory password salt.val params availableKib with
  | .ok key => .ok (hkdfMaster salt.val key.val recoveryInfo)
  | .error error => .error (.crypto error)

omit [Crates] in
/-- Refuse parameters below the floor. -/
def checkFloor (params : KdfParams) : Except RecoveryError Unit :=
  if !meetsFloor params then
    .error (.weakParams params.mKib params.t params.p floorParams.mKib floorParams.t floorParams.p)
  else .ok ()

/-- Seal a payload under a derived key into a file. -/
def sealFrame (payload : ExportPayload) (key : Key) (params : KdfParams) (salt : Block 32)
    (nonce : Nonce) : Except RecoveryError Bytes := do
  let ciphertext ← (encrypt key nonce recoveryAd (encodePayload payload)).mapError .crypto
  return RecoveryFrame.toBytes ⟨params, salt, nonce, ciphertext⟩

/-- Seal a payload into a file under a drawn salt and nonce. -/
def sealRecovery (payload : ExportPayload) (password : String) (params : KdfParams)
    (availableKib : Option UInt64) (salt : Block 32) (nonce : Nonce) :
    Except RecoveryError Bytes := do
  let key ← deriveRecoveryKey password salt params availableKib
  sealFrame payload key params salt nonce

/-- Export a payload, refusing parameters below the floor. -/
def exportWithinMemory (payload : ExportPayload) (password : String) (params : KdfParams)
    (availableKib : Option UInt64) (salt : Block 32) (nonce : Nonce) :
    Except RecoveryError Bytes := do
  checkFloor params
  sealRecovery payload password params availableKib salt nonce

omit [Crates] in
/-- Read the whole frame of a file, refusing a payload shorter than a tag. -/
def readImport (file : Bytes) : Except RecoveryError RecoveryFrame := do
  let frame ← parseAll readFrame file
  if frame.ciphertext.length < tagLen then .error .decrypt else .ok frame

/-- Authenticate and decode the payload of a frame. -/
def openFrame (key : Key) (frame : RecoveryFrame) : Except RecoveryError ExportPayload :=
  match decrypt key frame.nonce recoveryAd frame.ciphertext with
  | .ok plaintext => decodePayload plaintext
  | .error (.kdf message) => .error (.crypto (.kdf message))
  | .error _ => .error .decrypt

/-- Import a file: parse the frame, derive, authenticate and decode. -/
def importWithinMemory (file : Bytes) (password : String) (availableKib : Option UInt64) :
    Except RecoveryError ExportPayload := do
  let frame ← readImport file
  let key ← deriveRecoveryKey password frame.salt frame.params availableKib
  openFrame key frame

end Recovery

end Passman
