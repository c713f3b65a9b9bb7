import Passman.Hsm.Store
import Passman.Policy.Policy
import Passman.Recovery.Payload
import Passman.Vault.Error

/-!
# Core errors

The errors of unlocking partition by how the shell must react and by whether they
count against the user; every other operation reports the layer that failed.
-/
namespace Passman

/-- Failures of construction, storage, sessions and operations on an open vault. -/
inductive CoreError where
  /-- Another instance holds the vault. -/
  | alreadyRunning
  /-- The session has expired. -/
  | locked
  /-- The master password is too weak for an export. -/
  | weakPasswordForExport
  /-- A software backend was used without opting in. -/
  | softwareHsmRefused
  /-- A filesystem or clipboard step failed. -/
  | io (context : String)
  /-- A vault operation failed. -/
  | vault (error : VaultError)
  /-- A hardware key store operation failed. -/
  | hsm (error : HsmError)
  /-- A recovery operation failed. -/
  | recovery (error : RecoveryError)
  /-- Password generation failed. -/
  | policy (error : PolicyError)
  /-- A cryptographic primitive failed. -/
  | crypto (error : CryptoError)
  deriving DecidableEq

/-- Failures of an unlock attempt. -/
inductive UnlockError where
  /-- The user cancelled a prompt. -/
  | cancelled
  /-- A transient hardware failure. -/
  | retryable
  /-- The hardware key is gone. -/
  | routeToRecovery
  /-- The code or the password was wrong. -/
  | badCredentials
  /-- A lockout is in effect. -/
  | lockedOut (remaining : Duration)
  /-- Any other hardware failure. -/
  | hsm (error : HsmError)
  /-- The vault could not be read or parsed. -/
  | malformedVault (error : CoreError)
  /-- A software backend was used without opting in. -/
  | softwareHsmRefused
  deriving DecidableEq

/-- How unlocking reports a hardware failure. -/
def mapHsmUnlock : HsmError → UnlockError
  | .cancelled => .cancelled
  | .transient => .retryable
  | .permanentlyInvalidated => .routeToRecovery
  | .hardwareAbsent => .routeToRecovery
  | other => .hsm other

/-- No hardware failure is reported as wrong credentials. -/
theorem mapHsmUnlock_ne_badCredentials (error : HsmError) :
    mapHsmUnlock error ≠ .badCredentials := by
  cases error <;> simp [mapHsmUnlock]

end Passman
