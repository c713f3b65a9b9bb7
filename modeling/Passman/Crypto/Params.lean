import Passman.Lib.Bytes

/-!
# Key-derivation parameters and cryptographic errors

The Argon2id cost parameters have a fixed nine-byte encoding that the vault and
recovery headers bind into associated data. Parameters read from a file are only
admitted inside static limits, and a derivation additionally has to fit the
memory the host reports.
-/
namespace Passman

open Bytewise

/-- A 32-byte secret key; the master key and every derived key have this shape. -/
abbrev Key := Block 32

/-- The vault master key. -/
abbrev MasterKey := Key

/-- A 192-bit nonce. -/
abbrev Nonce := Block 24

/-- Failures of the cryptographic layer. -/
inductive CryptoError where
  /-- The key derivation refused or failed. -/
  | kdf (message : String)
  /-- Authentication failed. -/
  | aeadAuth
  /-- A buffer had the wrong length. -/
  | invalidLength (what : String) (expected got : Nat)
  deriving DecidableEq

/-- Argon2id cost parameters. -/
structure KdfParams where
  /-- Memory cost in kibibytes. -/
  mKib : UInt32
  /-- Number of passes. -/
  t : UInt32
  /-- Degree of parallelism. -/
  p : UInt8
  deriving DecidableEq

/-- Length of the canonical parameter encoding. -/
def kdfParamsLen : Nat := 9

/-- Maximum accepted memory cost, in KiB. -/
def maxMKib : UInt32 := 8 * 1024 * 1024

/-- Maximum accepted time cost. -/
def maxT : UInt32 := 24

/-- Maximum accepted parallelism. -/
def maxP : UInt8 := 16

namespace KdfParams

/-- The weakest preset for a vault. -/
def low : KdfParams := ⟨262144, 4, 1⟩

/-- The default preset for a vault. -/
def medium : KdfParams := ⟨1048576, 4, 1⟩

/-- The strongest preset for a vault. -/
def high : KdfParams := ⟨4194304, 6, 1⟩

/-- The canonical encoding: memory, passes and lanes, little-endian. -/
def toBytes (params : KdfParams) : Bytes := toLe params.mKib ++ toLe params.t ++ [params.p]

/-- The parameters a nine-byte block encodes; every block encodes some. -/
def fromBytes (bytes : Block kdfParamsLen) : KdfParams where
  mKib := ofLe (bytes.val.take 4)
  t := ofLe ((bytes.val.drop 4).take 4)
  p := ofLe (bytes.val.drop 8)

/-- The encoding has nine bytes. -/
@[simp] theorem toBytes_length (params : KdfParams) : params.toBytes.length = kdfParamsLen := by
  simp only [toBytes, List.length_append, toLe_length]
  rfl

/-- Decoding inverts encoding. -/
theorem fromBytes_toBytes (params : KdfParams) :
    fromBytes ⟨params.toBytes, params.toBytes_length⟩ = params := by
  have memory : (toLe params.mKib).length = 4 := toLe_length _
  have passes : (toLe params.t).length = 4 := toLe_length _
  have front : (toLe params.mKib ++ toLe params.t).length = 8 := by
    rw [List.length_append, memory, passes]
  have lane : (toLe params.p) = [params.p] := by
    change [UInt8.ofNat params.p.toNat] = [params.p]
    rw [UInt8.ofNat_toNat]
  have first : params.toBytes.take 4 = toLe params.mKib := by
    rw [toBytes, List.append_assoc, List.take_left' memory]
  have second : (params.toBytes.drop 4).take 4 = toLe params.t := by
    rw [toBytes, List.append_assoc, List.drop_left' memory, List.take_left' passes]
  have third : params.toBytes.drop 8 = toLe params.p := by
    rw [toBytes, List.drop_left' front, lane]
  simp only [fromBytes, first, second, third, ofLe_toLe]

/-- Encoding inverts decoding. -/
theorem toBytes_fromBytes (bytes : Block kdfParamsLen) : (fromBytes bytes).toBytes = bytes.val := by
  have sized : bytes.val.length = 9 := bytes.property
  have lane : [(ofLe (bytes.val.drop 8) : UInt8)] = bytes.val.drop 8 := by
    have written := toLe_ofLe (α := UInt8) (bytes.val.drop 8) (by simp [sized]; rfl)
    have single : toLe (ofLe (bytes.val.drop 8) : UInt8) =
        [UInt8.ofNat (ofLe (bytes.val.drop 8) : UInt8).toNat] := rfl
    rwa [single, UInt8.ofNat_toNat] at written
  have first := toLe_ofLe (α := UInt32) (bytes.val.take 4) (by simp [sized]; rfl)
  have second := toLe_ofLe (α := UInt32) ((bytes.val.drop 4).take 4) (by simp [sized]; rfl)
  rw [toBytes, fromBytes, first, second, lane]
  calc
    bytes.val.take 4 ++ (bytes.val.drop 4).take 4 ++ bytes.val.drop 8 =
        bytes.val.take 4 ++ ((bytes.val.drop 4).take 4 ++ (bytes.val.drop 4).drop 4) := by
      rw [List.append_assoc, List.drop_drop]
    _ = bytes.val := by rw [List.take_append_drop, List.take_append_drop]

/-- Whether the parameters lie within the universal safety limits. -/
def withinLimits (params : KdfParams) : Bool :=
  params.p ≥ 1 && params.p ≤ maxP && params.t ≥ 1 && params.t ≤ maxT &&
    params.mKib ≤ maxMKib && params.mKib.toNat ≥ min (8 * params.p.toNat) (2 ^ 32 - 1)

end KdfParams

/-- Whether a memory cost leaves a fifth of the available memory free. -/
def memoryCostFits (mKib : UInt32) (availableKib : UInt64) : Bool :=
  mKib.toUInt64 ≤ availableKib / 5 * 4

end Passman
