import AccessControl.Keeper
import AccessControl.Policy.MemoryEngine
import AccessControl.Store.Faulty
import AccessControl.Proofs.Registration.Binding
import AccessControl.Proofs.Identity.Issued
import AccessControl.Proofs.Registration.Opening
import AccessControl.Proofs.Policy.Records
import AccessControl.Proofs.Policy.MemoryEngine
import AccessControl.Proofs.Command.Dispatch
import AccessControl.Proofs.Keeper.Run
import AccessControl.Proofs.Keeper.Authority
import AccessControl.Proofs.Store.Lawful
import AccessControl.Proofs.Json.Number
import AccessControl.Proofs.Registration.Keys
import AccessControl.Proofs.Json.Literal
import AccessControl.Proofs.Json.RoundTrip
import AccessControl.Proofs.Time.Date
import AccessControl.Proofs.Time.Text
import AccessControl.Proofs.Encoding.Base64
import AccessControl.Proofs.Registration.Stored
import AccessControl.Proofs.Registration.Book
import AccessControl.Proofs.Registration.Repository
import AccessControl.Proofs.Command.Recorded
import AccessControl.Proofs.Keeper.Calls
import AccessControl.Proofs.Command.Openable
import AccessControl.Proofs.Time.Expiry
import AccessControl.Proofs.Keeper.Priority
import AccessControl.Proofs.Token.Jws
import AccessControl.Proofs.Command.Authentication
import AccessControl.Proofs.Registration.Indexed
import AccessControl.Proofs.Keeper.History
import AccessControl.Proofs.Keeper.Indexed
import AccessControl.Proofs.Keeper.AuditTrail
import AccessControl.Proofs.Policy.CleanFailure
import AccessControl.Proofs.Keeper.CleanFailure
import AccessControl.Proofs.Policy.Operations
import AccessControl.Proofs.Keeper.SingleUse
import AccessControl.Proofs.Token.Replay
import AccessControl.Proofs.Store.Reference
import AccessControl.Proofs.Store.Transparency
import AccessControl.Proofs.Agreement
import AccessControl.Proofs.Command.Marks
import AccessControl.Proofs.Command.Agreement
import AccessControl.Proofs.Keeper.Sweeps
import AccessControl.Proofs.Json.Settled
import AccessControl.Proofs.Command.RoundTrip
import AccessControl.Proofs.Encoding.Base58
import AccessControl.Proofs.Identity.Resolved
import AccessControl.Proofs.Token.Issued
import AccessControl.Proofs.Encoding.Regroup
import AccessControl.Proofs.Encoding.Unbounded
import AccessControl.Proofs.Encoding.Bech32
import AccessControl.Proofs.Account.Address
import AccessControl.Proofs.Token.Lifetime
import AccessControl.Proofs.Crypto.Secp256k1
import AccessControl.Proofs.Identity.Canonical
import AccessControl.Proofs.Keeper.Interruption
import AccessControl.Proofs.Registration.Inclusion
import AccessControl.Proofs.Registration.ReadBack
import AccessControl.Proofs.Keeper.Grown
import AccessControl.Proofs.Keeper.Reveal
import AccessControl.Proofs.Registration.WholeList
import AccessControl.Proofs.Time.Exact
import AccessControl.Proofs.Command.Due
import AccessControl.Proofs.Keeper.Swept
import AccessControl.Proofs.Policy.Refinement
import AccessControl.Proofs.Account.Substitution
import AccessControl.Proofs.Token.Grammar
import AccessControl.Proofs.Checked
import AccessControl.Proofs.Token.Checks
import AccessControl.Proofs.Token.Reported
import AccessControl.Proofs.Toml.Integer
import AccessControl.Proofs.Toml.Fits
import AccessControl.Proofs.Toml.RoundTrip
import AccessControl.Proofs.Policy.Params
import AccessControl.Proofs.Policy.Settings
