import Passman.Totp.Hotp

/-!
# TOTP configuration

The validated parameters of code generation. A configuration carries the bounds
its constructor checks.
-/
namespace Passman

/-- Failures of configuration and verification. -/
inductive TotpError where
  /-- The configuration was out of range. -/
  | invalidConfig (reason : String)
  /-- The code is not the configured number of ASCII digits. -/
  | malformedCode
  /-- The code matches a step at or before the last accepted one. -/
  | replayed
  /-- The code matches no step in the window. -/
  | rejected
  deriving DecidableEq

/-- Parameters of code generation and verification. -/
structure TotpConfig where
  /-- The hash algorithm. -/
  algorithm : TotpAlgorithm
  /-- The code width in decimal digits. -/
  digits : UInt8
  /-- The time step in seconds. -/
  period : UInt64
  /-- Steps accepted on each side of the current one. -/
  skewSteps : UInt8
  /-- The width is 6, 7 or 8. -/
  width : 6 ≤ digits.toNat ∧ digits.toNat ≤ 8
  /-- Steps have a positive length. -/
  positive : 0 < period.toNat
  deriving DecidableEq

/-- Build a validated configuration. -/
def TotpConfig.new (algorithm : TotpAlgorithm) (digits : UInt8) (period : UInt64)
    (skewSteps : UInt8) : Except TotpError TotpConfig :=
  if width : 6 ≤ digits.toNat ∧ digits.toNat ≤ 8 then
    if positive : 0 < period.toNat then
      .ok ⟨algorithm, digits, period, skewSteps, width, positive⟩
    else .error (.invalidConfig "period must be greater than 0")
  else .error (.invalidConfig "digits must be in 6..=8")

/-- The standard authenticator profile. -/
def TotpConfig.default : TotpConfig where
  algorithm := .sha1
  digits := 6
  period := 30
  skewSteps := 1
  width := by decide
  positive := by decide

end Passman
