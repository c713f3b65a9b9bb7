import Passman.Lib.Bytes

/-!
# Hardware key stores

The interface the program uses to protect its two secrets: slots, backend kinds,
errors and the framed wrap blob. A blob carries the bound on its payload, so every
blob value can be written.
-/
namespace Passman

open Bytewise

/-- The two protected secrets. -/
inductive HsmSlot where
  /-- The hardware half of the master key. -/
  | vaultKey
  /-- The TOTP seed. -/
  | totpSeed
  deriving DecidableEq

/-- Failures of a hardware key store. -/
inductive HsmError where
  /-- A transient failure; retrying is appropriate. -/
  | transient
  /-- The user cancelled. -/
  | cancelled
  /-- The backend is absent. -/
  | hardwareAbsent
  /-- The key is permanently invalidated. -/
  | permanentlyInvalidated
  /-- A wrap blob is malformed. -/
  | malformedBlob (reason : String)
  /-- Any other backend failure. -/
  | backend (message : String)
  deriving DecidableEq

/-- The kinds of hardware key stores. -/
inductive HsmKind where
  /-- TPM 2.0. -/
  | tpm2
  /-- Windows CNG with RSA. -/
  | nCryptRsa
  /-- Android Keystore. -/
  | androidGcm
  /-- Apple Secure Enclave. -/
  | secureEnclave
  /-- The desktop secret service. -/
  | secretService
  /-- The software mock. -/
  | softwareMock
  deriving DecidableEq

namespace HsmKind

/-- The byte of a kind. -/
def toByte : HsmKind → UInt8
  | tpm2 => 0x00
  | nCryptRsa => 0x01
  | androidGcm => 0x02
  | secureEnclave => 0x03
  | secretService => 0x04
  | softwareMock => 0xFF

/-- The kind of a byte. -/
def fromByte (byte : UInt8) : Except HsmError HsmKind :=
  if byte = 0x00 then .ok tpm2
  else if byte = 0x01 then .ok nCryptRsa
  else if byte = 0x02 then .ok androidGcm
  else if byte = 0x03 then .ok secureEnclave
  else if byte = 0x04 then .ok secretService
  else if byte = 0xFF then .ok softwareMock
  else .error (.malformedBlob "unknown hsm_kind byte")

/-- Every kind is recovered from its byte. -/
theorem fromByte_toByte (kind : HsmKind) : fromByte kind.toByte = .ok kind := by
  cases kind <;> rfl

/-- Only the byte of a kind is read as that kind. -/
theorem toByte_of_fromByte {byte : UInt8} {kind : HsmKind} (named : fromByte byte = .ok kind) :
    kind.toByte = byte := by
  unfold fromByte at named
  split_ifs at named with tpm nCrypt android enclave secret mock
  · obtain rfl := Except.ok.inj named
    exact tpm.symm
  · obtain rfl := Except.ok.inj named
    exact nCrypt.symm
  · obtain rfl := Except.ok.inj named
    exact android.symm
  · obtain rfl := Except.ok.inj named
    exact enclave.symm
  · obtain rfl := Except.ok.inj named
    exact secret.symm
  · obtain rfl := Except.ok.inj named
    exact mock.symm

end HsmKind

/-- The version byte of wrap blobs. -/
def blobVersion : UInt8 := 0x00

/-- Length of the fixed blob header. -/
def headerLen : Nat := 4

/-- A framed wrap blob. -/
structure WrappedBlob where
  /-- The backend that made the blob. -/
  kind : HsmKind
  /-- The backend's own bytes. -/
  payload : Bytes
  /-- The payload fits its length field. -/
  fits : payload.length ≤ 65535
  deriving DecidableEq

namespace WrappedBlob

/-- Frame a payload, refusing one that does not fit. -/
def fromParts (kind : HsmKind) (payload : Bytes) : Except HsmError WrappedBlob :=
  if fits : payload.length ≤ 65535 then .ok ⟨kind, payload, fits⟩
  else .error (.malformedBlob "payload exceeds u16::MAX")

/-- The bytes of a blob. -/
def toBytes (blob : WrappedBlob) : Bytes :=
  [blobVersion, blob.kind.toByte] ++ lePrefix UInt16 blob.payload.length ++ blob.payload

/-- Parse a blob: a four-byte header, then exactly the announced payload. -/
def fromBytes : Bytes → Except HsmError WrappedBlob
  | version :: kind :: low :: high :: payload =>
    if version ≠ blobVersion then .error (.malformedBlob "unsupported blob_version")
    else
      match HsmKind.fromByte kind with
      | .error error => .error error
      | .ok kind =>
        if payload.length < leNat [low, high] then
          .error (.malformedBlob "payload_len exceeds remaining input")
        else if fits : payload.length = leNat [low, high] then
          .ok ⟨kind, payload, by
            have bound : leNat [low, high] < 256 ^ 2 := leNat_lt [low, high]
            omega⟩
        else .error (.malformedBlob "trailing bytes after payload")
  | _ => .error (.malformedBlob "input shorter than 4-byte header")

/-- A blob is read back as written. -/
theorem fromBytes_toBytes (blob : WrappedBlob) : fromBytes blob.toBytes = .ok blob := by
  have width : LeWord.width UInt16 = 2 := rfl
  have bound : blob.payload.length < 256 ^ LeWord.width UInt16 := by
    have fits := blob.fits
    rw [width]
    omega
  have counted : leNat (lePrefix UInt16 blob.payload.length) = blob.payload.length := by
    rw [lePrefix_of_lt UInt16 _ bound, toLe, leNat_leBytes _ _ (LeWord.toNat_lt _),
      LeWord.toNat_ofNat _ bound]
  have sized : (lePrefix UInt16 blob.payload.length).length = 2 :=
    lePrefix_length UInt16 _
  rw [toBytes]
  generalize lePrefix UInt16 blob.payload.length = announced at counted sized
  cases announced with
  | nil => cases sized
  | cons low rest => cases rest with
    | nil => cases sized
    | cons high rest => cases rest with
      | cons _ _ => cases sized
      | nil =>
        simp only [List.cons_append, List.nil_append, fromBytes, HsmKind.fromByte_toByte, counted,
          ne_eq, not_true_eq_false, if_false, Nat.lt_irrefl, dif_pos]

/-- Only the writing of a blob is read as that blob. -/
theorem toBytes_of_fromBytes {bytes : Bytes} {blob : WrappedBlob}
    (parsed : fromBytes bytes = .ok blob) : bytes = blob.toBytes := by
  have width : LeWord.width UInt16 = 2 := rfl
  match bytes, parsed with
  | version :: kind :: low :: high :: payload, parsed =>
    unfold fromBytes at parsed
    dsimp only at parsed
    by_cases other : version ≠ blobVersion
    · rw [if_pos other] at parsed
      cases parsed
    · rw [if_neg other] at parsed
      cases named : HsmKind.fromByte kind with
      | error error =>
        rw [named] at parsed
        cases parsed
      | ok found =>
        rw [named] at parsed
        dsimp only at parsed
        by_cases short : payload.length < leNat [low, high]
        · rw [if_pos short] at parsed
          cases parsed
        · rw [if_neg short] at parsed
          by_cases exactly : payload.length = leNat [low, high]
          · rw [dif_pos exactly] at parsed
            obtain rfl := Except.ok.inj parsed
            have bound : leNat [low, high] < 256 ^ LeWord.width UInt16 := leNat_lt [low, high]
            have announced : lePrefix UInt16 payload.length = [low, high] := by
              rw [exactly, lePrefix_of_lt UInt16 _ bound, toLe, LeWord.toNat_ofNat _ bound, width]
              exact leBytes_leNat [low, high]
            have versions : version = blobVersion := not_not.mp other
            rw [toBytes, announced, HsmKind.toByte_of_fromByte named, versions]
            rfl
          · rw [dif_neg exactly] at parsed
            cases parsed

end WrappedBlob

/-- A span of time. -/
structure Duration where
  /-- Whole seconds. -/
  secs : UInt64
  /-- Nanoseconds below a second. -/
  nanos : UInt32
  deriving DecidableEq

/-- A span of whole seconds. -/
def Duration.fromSecs (secs : UInt64) : Duration := ⟨secs, 0⟩

/-- What a backend says about its own lockout. -/
inductive HsmLockoutStatus where
  /-- Not locked out. -/
  | available
  /-- Locked out, possibly with a known delay. -/
  | lockedOut (retryAfter : Option Duration)
  deriving DecidableEq

/-- An unwrap that was begun: what it was begun for. -/
structure UnwrapHandle where
  /-- The requested slot. -/
  slot : HsmSlot
  /-- The presented blob. -/
  blob : WrappedBlob
  deriving DecidableEq

end Passman
