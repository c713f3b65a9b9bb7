import Passman.Hsm.Store
import Passman.Lib.Slices
import Passman.Vault.Canonical
import Passman.Vault.Facts

/-!
# Wrap blobs in the vault header

A framed blob is four bytes longer than its payload. The payload and the stored blob are bounded by
the same 16-bit limit, so the header holds every blob but those whose payload comes within four
bytes of the limit, and what it holds is read back as it was.
-/
namespace Passman

open Bytewise

/-- A framed blob is its payload behind a fixed header. -/
theorem WrappedBlob.toBytes_length (blob : WrappedBlob) :
    blob.toBytes.length = headerLen + blob.payload.length := by
  have sized : (lePrefix UInt16 blob.payload.length).length = 2 := lePrefix_length UInt16 _
  rw [toBytes, List.length_append, List.length_append, sized]
  rfl

/-- A framed payload is the payload of its blob. -/
theorem WrappedBlob.payload_of_fromParts {kind : HsmKind} {payload : Bytes} {blob : WrappedBlob}
    (framed : fromParts kind payload = .ok blob) : blob.payload = payload := by
  unfold fromParts at framed
  split at framed
  · cases framed
    rfl
  · cases framed

/-- The name under which a vault reports the blob of a slot. -/
def HsmSlot.blobName : HsmSlot → String
  | .vaultKey => "k_hsm_wrap_blob"
  | .totpSeed => "totp_seed_wrap_blob"

/-- Two blobs in stored order, the first for a slot and the second for the other one. -/
def HsmSlot.arrange (blob other : Bytes) : HsmSlot → Bytes × Bytes
  | .vaultKey => (blob, other)
  | .totpSeed => (other, blob)

/-- The wrap blob a vault stores for a slot. -/
def Vault.wrapBlob (vault : Vault) : HsmSlot → HsmBlob
  | .vaultKey => vault.kHsmWrapBlob
  | .totpSeed => vault.totpSeedWrapBlob

/-- A blob that fits passes the length check. -/
theorem checkBlobLen_of_le {blob : Bytes} (which : String) (fits : blob.length ≤ maxHsmBlobLen) :
    checkBlobLen blob which = .ok ⟨blob, fits⟩ := dif_pos fits

/-- A blob that does not fit is named by the length check. -/
theorem checkBlobLen_of_lt {blob : Bytes} (which : String) (long : maxHsmBlobLen < blob.length) :
    checkBlobLen blob which = .error (.blobTooLarge which) := dif_neg (Nat.not_le.mpr long)

namespace Vault

/-- The writing of a vault determines its wrap blobs. -/
theorem wrapBlob_of_layout {left right : Vault} {leftAbsent rightAbsent : Int64}
    (same : left.layout leftAbsent = right.layout rightAbsent) (slot : HsmSlot) :
    left.wrapBlob slot = right.wrapBlob slot := by
  rw [left.layout_eq, right.layout_eq] at same
  have lengths : left.fixedFront.length = right.fixedFront.length := by
    rw [left.fixedFront_length, right.fixedFront_length]
  have behind := (List.append_inj same lengths).2
  unfold prefixed at behind
  obtain ⟨keys, rest⟩ :=
    lenPrefixed_inj left.kHsmWrapBlob.property right.kHsmWrapBlob.property behind
  obtain ⟨seeds, _⟩ :=
    lenPrefixed_inj left.totpSeedWrapBlob.property right.totpSeedWrapBlob.property rest
  cases slot with
  | vaultKey => exact Subtype.ext keys
  | totpSeed => exact Subtype.ext seeds

/-- What is read back from the writing of a vault has its wrap blobs. -/
theorem wrapBlob_of_fromBytes {vault read : Vault} (parsed : fromBytes vault.toBytes = .ok read)
    (slot : HsmSlot) : read.wrapBlob slot = vault.wrapBlob slot := by
  obtain ⟨_, absent, written⟩ := (fromBytes_ok_iff _ _).mp parsed
  exact wrapBlob_of_layout written.symm slot

/-- Blobs that fit are stored, each in its slot. -/
theorem setHsmBlobs_of_le (vault : Vault) (blob other : HsmBlob) (slot : HsmSlot) :
    ∃ changed, setHsmBlobs (slot.arrange blob.val other.val).1 (slot.arrange blob.val other.val).2
      vault = (.ok (), changed) ∧ changed.wrapBlob slot = blob ∧
        (vault.WellFormed → changed.WellFormed) := by
  have first (which : String) := checkBlobLen_of_le which blob.property
  have second (which : String) := checkBlobLen_of_le which other.property
  unfold setHsmBlobs
  cases slot with
  | vaultKey =>
    refine ⟨{ vault with kHsmWrapBlob := blob, totpSeedWrapBlob := other }, ?_, rfl, ?_⟩
    · rw [HsmSlot.arrange, first, second]
      rfl
    · exact fun formed => ⟨formed.index, formed.count, formed.bodies⟩
  | totpSeed =>
    refine ⟨{ vault with kHsmWrapBlob := other, totpSeedWrapBlob := blob }, ?_, rfl, ?_⟩
    · rw [HsmSlot.arrange, first, second]
      rfl
    · exact fun formed => ⟨formed.index, formed.count, formed.bodies⟩

/-- A blob that does not fit is refused under the name of its slot, and nothing is stored. -/
theorem setHsmBlobs_of_lt (vault : Vault) {blob : Bytes} (long : maxHsmBlobLen < blob.length)
    (other : HsmBlob) (slot : HsmSlot) :
    setHsmBlobs (slot.arrange blob other.val).1 (slot.arrange blob other.val).2 vault =
      (.error (.blobTooLarge slot.blobName), vault) := by
  have refused (which : String) := checkBlobLen_of_lt which long
  have passed (which : String) := checkBlobLen_of_le which other.property
  unfold setHsmBlobs
  cases slot with
  | vaultKey =>
    rw [HsmSlot.arrange, refused]
    rfl
  | totpSeed =>
    rw [HsmSlot.arrange, passed, refused]
    rfl

section Creation

variable [Crates]

/-- A vault is created from blobs that fit, each in its slot. -/
theorem create_of_le (aead : AeadLaws) (laws : PostcardLaws) (empty : IndexFits .current [])
    (blob other : HsmBlob) (slot : HsmSlot) (kdfParams : KdfParams) (salt : Block 32)
    (metadata : VaultMetadata) (kMaster : MasterKey) (probeNonce indexNonce : Nonce) :
    ∃ vault, create kdfParams salt (slot.arrange blob.val other.val).1
      (slot.arrange blob.val other.val).2 metadata kMaster probeNonce indexNonce = .ok vault ∧
        vault.wrapBlob slot = blob := by
  cases slot with
  | vaultKey =>
    obtain ⟨vault, made⟩ := create_total aead laws kdfParams salt blob other metadata kMaster
      probeNonce indexNonce empty
    obtain ⟨_, _, _, _, same, _, _, _, rfl⟩ := create_ok_iff.mp made
    exact ⟨_, made, Subtype.ext same⟩
  | totpSeed =>
    obtain ⟨vault, made⟩ := create_total aead laws kdfParams salt other blob metadata kMaster
      probeNonce indexNonce empty
    obtain ⟨_, _, _, _, _, same, _, _, rfl⟩ := create_ok_iff.mp made
    exact ⟨_, made, Subtype.ext same⟩

/-- No vault is created with a blob that does not fit; the refusal names its slot. -/
theorem create_of_lt {blob : Bytes} (long : maxHsmBlobLen < blob.length) (other : HsmBlob)
    (slot : HsmSlot) (kdfParams : KdfParams) (salt : Block 32) (metadata : VaultMetadata)
    (kMaster : MasterKey) (probeNonce indexNonce : Nonce) :
    create kdfParams salt (slot.arrange blob other.val).1 (slot.arrange blob other.val).2 metadata
      kMaster probeNonce indexNonce = .error (.blobTooLarge slot.blobName) := by
  have refused (which : String) := checkBlobLen_of_lt which long
  have passed (which : String) := checkBlobLen_of_le which other.property
  unfold create
  cases slot with
  | vaultKey =>
    rw [HsmSlot.arrange, refused]
    rfl
  | totpSeed =>
    rw [HsmSlot.arrange, passed, refused]
    rfl

end Creation

end Vault

/-- The header holds every framed blob whose payload is at most 65531 bytes long, in either slot and
beside any other blob that fits: it is accepted, and read back as the original. A longer payload,
which can still be framed, is refused under the name of its slot. -/
theorem wrapped_blobs_fit_the_header [Crates] (aead : AeadLaws) (laws : PostcardLaws)
    (empty : IndexFits .current []) (kind : HsmKind) (payload : Bytes) (blob : WrappedBlob)
    (framed : WrappedBlob.fromParts kind payload = .ok blob) (slot : HsmSlot) (other : HsmBlob) :
    (payload.length ≤ 65531 →
      (∀ kdfParams salt metadata kMaster probeNonce indexNonce, ∃ vault,
        Vault.create kdfParams salt (slot.arrange blob.toBytes other.val).1
          (slot.arrange blob.toBytes other.val).2 metadata kMaster probeNonce indexNonce =
            .ok vault ∧
        Vault.fromBytes vault.toBytes = .ok vault ∧
        WrappedBlob.fromBytes (vault.wrapBlob slot).val = .ok blob) ∧
      ∀ vault, ∃ changed,
        Vault.setHsmBlobs (slot.arrange blob.toBytes other.val).1
          (slot.arrange blob.toBytes other.val).2 vault = (.ok (), changed) ∧
        (vault.WellFormed → Vault.fromBytes changed.toBytes = .ok changed) ∧
        ∀ read, Vault.fromBytes changed.toBytes = .ok read →
          WrappedBlob.fromBytes (read.wrapBlob slot).val = .ok blob) ∧
    (65531 < payload.length →
      (∀ kdfParams salt metadata kMaster probeNonce indexNonce,
        Vault.create kdfParams salt (slot.arrange blob.toBytes other.val).1
          (slot.arrange blob.toBytes other.val).2 metadata kMaster probeNonce indexNonce =
            .error (.blobTooLarge slot.blobName)) ∧
      ∀ vault,
        Vault.setHsmBlobs (slot.arrange blob.toBytes other.val).1
          (slot.arrange blob.toBytes other.val).2 vault =
            (.error (.blobTooLarge slot.blobName), vault)) := by
  have sized : blob.toBytes.length = 4 + payload.length := by
    rw [blob.toBytes_length, WrappedBlob.payload_of_fromParts framed, headerLen]
  have limit : maxHsmBlobLen = 65535 := rfl
  refine ⟨fun short => ?_, fun long => ?_⟩
  · let stored : HsmBlob := ⟨blob.toBytes, by omega⟩
    refine ⟨fun kdfParams salt metadata kMaster probeNonce indexNonce => ?_, fun vault => ?_⟩
    · obtain ⟨vault, made, held⟩ := Vault.create_of_le aead laws empty stored other slot kdfParams
        salt metadata kMaster probeNonce indexNonce
      have formed := Vault.wellFormed_of_create aead empty made
      refine ⟨vault, made, Vault.fromBytes_toBytes formed, ?_⟩
      rw [held]
      exact blob.fromBytes_toBytes
    · obtain ⟨changed, ran, held, kept⟩ := vault.setHsmBlobs_of_le stored other slot
      refine ⟨changed, ran, fun formed => Vault.fromBytes_toBytes (kept formed), ?_⟩
      intro read parsed
      rw [Vault.wrapBlob_of_fromBytes parsed slot, held]
      exact blob.fromBytes_toBytes
  · have longer : maxHsmBlobLen < blob.toBytes.length := by omega
    exact ⟨Vault.create_of_lt longer other slot, fun vault =>
      vault.setHsmBlobs_of_lt longer other slot⟩

/-- In the reference instance a header holds the blob of a payload. -/
theorem wrapped_blobs_fit_the_header_reference :
    letI := Reference.crates
    ∃ vault,
      Vault.create Reference.kdfParams (Block.replicate 32 0)
        (WrappedBlob.mk .tpm2 [3, 1, 4] (by decide)).toBytes [1]
        (.new 7) Reference.kMaster Reference.nonce
        Reference.nonce = .ok vault ∧
      Vault.fromBytes vault.toBytes = .ok vault ∧
      WrappedBlob.fromBytes vault.kHsmWrapBlob.val = .ok ⟨.tpm2, [3, 1, 4], by decide⟩ := by
  let _ := Reference.crates
  have empty : IndexFits .current [] := by
    refine IndexFits.of_length .current fun postcard written => ?_
    obtain rfl := Option.some.inj written
    decide
  have fits := (wrapped_blobs_fit_the_header Reference.aeadLaws Reference.postcardLaws empty .tpm2
    [3, 1, 4] ⟨.tpm2, [3, 1, 4], by decide⟩ rfl .vaultKey ⟨[1], by decide⟩).1 (by decide)
  exact fits.1 Reference.kdfParams (Block.replicate 32 0) (.new 7) Reference.kMaster Reference.nonce
    Reference.nonce

/-- A blob of the longest payload can be framed, but neither slot of a header takes it. -/
theorem longest_payload_is_refused :
    letI := Reference.crates
    ∃ blob, WrappedBlob.fromParts .softwareMock (List.replicate 65535 0) = .ok blob ∧
      Vault.create Reference.kdfParams (Block.replicate 32 0) blob.toBytes [1] (.new 7)
        Reference.kMaster Reference.nonce Reference.nonce =
          .error (.blobTooLarge "k_hsm_wrap_blob") ∧
      Vault.setHsmBlobs [1] blob.toBytes Reference.plainVault =
        (.error (.blobTooLarge "totp_seed_wrap_blob"), Reference.plainVault) := by
  let _ := Reference.crates
  have sized : (List.replicate 65535 (0 : UInt8)).length = 65535 := List.length_replicate
  let blob : WrappedBlob := ⟨.softwareMock, List.replicate 65535 0, Nat.le_of_eq sized⟩
  have longer : maxHsmBlobLen < blob.toBytes.length := by
    rw [blob.toBytes_length, headerLen, maxHsmBlobLen]
    change 65535 < 4 + (List.replicate 65535 (0 : UInt8)).length
    omega
  exact ⟨blob, dif_pos (Nat.le_of_eq sized),
    Vault.create_of_lt longer ⟨[1], by decide⟩ .vaultKey _ _ _ _ _ _,
    Reference.plainVault.setHsmBlobs_of_lt longer ⟨[1], by decide⟩ .totpSeed⟩

end Passman
