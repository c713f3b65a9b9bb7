import Passman.Reference
import Passman.Worker.Worker

/-!
# A reference device

A device whose clock stands still until it is moved, whose draws are numbered, and
whose key store keeps the material in the blob next to its slot. A clipboard that
holds one text. Examples run on these.
-/
namespace Passman

open Bytewise

namespace Reference

/-- The state of the reference device. -/
structure Device where
  /-- The clock reading. -/
  clock : Timestamp
  /-- The number of draws so far. -/
  draws : Nat
  /-- The reported available memory. -/
  availableKib : Option UInt64

/-- The byte that marks a slot inside a blob. -/
def slotByte : HsmSlot → UInt8
  | .vaultKey => 0
  | .totpSeed => 1

/-- The next numbered draw. -/
def draw (n : Nat) (device : Device) : Block n × Device :=
  (⟨leBytes n device.draws, leBytes_length _ _⟩, { device with draws := device.draws + 1 })

@[reducible] instance platform : Platform Device where
  now device := (device.clock, device)
  availableMemoryKib device := (device.availableKib, device)
  randomBlock := draw
  newUuid := draw 16
  generate request device :=
    (.ok (String.ofList (List.replicate request.length.toNat 'a')), device)
  lockoutStatus device := (.ok .available, device)
  enroll slot material device :=
    (WrappedBlob.fromParts .softwareMock (slotByte slot :: material), device)
  beginUnwrap slot blob device :=
    if blob.payload.head? = some (slotByte slot) then (.ok ⟨slot, blob⟩, device)
    else (.error (.malformedBlob "wrong slot"), device)
  completeUnwrap handle device := (.ok handle.blob.payload.tail, device)
  statFault device := (false, device)
  readFault device := (false, device)
  writeFault device := (none, device)

/-- The reference device with a clock that moves on at each reading. -/
@[reducible] def ticking (seconds : Timestamp) : Platform Device :=
  { platform with
    now := fun device => (device.clock, { device with clock := device.clock + seconds }) }

/-- The device at the start of an example. -/
def device : Device := ⟨1000, 1, none⟩

/-- A freshly opened instance without a vault file. -/
def world : World Device := .opened device none .tpm2 false []

/-- The world after a vault was created in it. -/
def created : World Device :=
  letI := crates
  (createVault "pw" kdfParams .default world).2

/-- The code of the current step under the created vault's seed. -/
def currentCode : String :=
  letI := crates
  (ofUtf8 (TotpConfig.default.codeAt (draw 32 ⟨0, 2, none⟩).1.val
    (currentStep device.clock TotpConfig.default.period))).getD ""

/-- A digest of a text. -/
def textDigest (text : String) : Block 32 := ⟨leBytes 32 (leNat (utf8 text)), leBytes_length _ _⟩

/-- An empty clipboard. -/
def clipboard : TextClipboard textDigest := ⟨none, false, device.clock⟩

end Reference

end Passman
