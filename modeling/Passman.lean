import Passman.Cli.Books
import Passman.Cli.Clearing
import Passman.Cli.Commands
import Passman.Cli.Processes
import Passman.Cli.Shell
import Passman.Core.Accounting
import Passman.Core.App
import Passman.Core.Attempt
import Passman.Core.Book
import Passman.Core.Capacity
import Passman.Core.Clipboard
import Passman.Core.Creation
import Passman.Core.Derivation
import Passman.Core.Disclosure
import Passman.Core.Effects
import Passman.Core.Enrolment
import Passman.Core.Error
import Passman.Core.Expiry
import Passman.Core.FileSteps
import Passman.Core.Footprint
import Passman.Core.Holding
import Passman.Core.Instance
import Passman.Core.Lockout
import Passman.Core.Merging
import Passman.Core.Mutations
import Passman.Core.Overlap
import Passman.Core.Persistence
import Passman.Core.Rebuilt
import Passman.Core.Rekeying
import Passman.Core.Repeats
import Passman.Core.Replay
import Passman.Core.Restart
import Passman.Core.Restore
import Passman.Core.Rotation
import Passman.Core.Session
import Passman.Core.SizeClasses
import Passman.Core.Storage
import Passman.Core.Stored
import Passman.Core.Throttle
import Passman.Core.Unlocked
import Passman.Core.Work
import Passman.Core.World
import Passman.Crates
import Passman.Crypto.Cipher
import Passman.Crypto.Params
import Passman.Ffi
import Passman.Ffi.Books
import Passman.Gtk.Clears
import Passman.Gtk.Current
import Passman.Gtk.Gate
import Passman.Gtk.Ui
import Passman.Hsm.Android
import Passman.Hsm.Backend
import Passman.Hsm.BlobCodecs
import Passman.Hsm.Mock
import Passman.Hsm.SecretService
import Passman.Hsm.SlotBinding
import Passman.Hsm.Store
import Passman.Hsm.StrayKeys
import Passman.Hsm.Tpm2
import Passman.Lib.Bytes
import Passman.Lib.Checked
import Passman.Lib.Draws
import Passman.Lib.Files
import Passman.Lib.Keyed
import Passman.Lib.Metered
import Passman.Lib.Op
import Passman.Lib.Paths
import Passman.Lib.PrefixCode
import Passman.Lib.Reader
import Passman.Lib.Run
import Passman.Lib.Segments
import Passman.Lib.Shuffles
import Passman.Lib.Slices
import Passman.Lib.Triple
import Passman.Lib.Words
import Passman.Policy.Charset
import Passman.Policy.Generate
import Passman.Policy.Policy
import Passman.Policy.Unbiased
import Passman.Policy.Validate
import Passman.Recovery.Format
import Passman.Recovery.Payload
import Passman.Recovery.RawParser
import Passman.Recovery.RoundTrip
import Passman.Reference
import Passman.Reference.Device
import Passman.Totp.Acceptance
import Passman.Totp.Config
import Passman.Totp.Digits
import Passman.Totp.Hotp
import Passman.Totp.Verifier
import Passman.Vault.Atomicity
import Passman.Vault.Authenticity
import Passman.Vault.Bounded
import Passman.Vault.Canonical
import Passman.Vault.Changes
import Passman.Vault.Error
import Passman.Vault.Facts
import Passman.Vault.Format
import Passman.Vault.Index
import Passman.Vault.Listing
import Passman.Vault.Outline
import Passman.Vault.RawParser
import Passman.Vault.Record
import Passman.Vault.RecordCodec
import Passman.Vault.Refinement
import Passman.Vault.Vault
import Passman.Vault.WrapBlobs
import Passman.Worker.Books
import Passman.Worker.Responses
import Passman.Worker.Retention
import Passman.Worker.Wipe
import Passman.Worker.Worker
