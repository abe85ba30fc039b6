import AccessControl.Account.Address
import AccessControl.Crypto.Digest
import AccessControl.Json.Record

/-!
# Ledger accounts

What the ledger knows of an account: its address, its sequence number and, once the account has
signed, its public key. The library only reads accounts.
-/

namespace AccessControl

/-- The public key that an account signs with. -/
structure AccountKey where
  /-- The name or the type URL of the key type. -/
  algorithm : String
  octets : Bytes
  deriving DecidableEq

namespace AccountKey

/-- Describes a key by the name of its type. -/
def ofPublicKey (key : PublicKey) : AccountKey :=
  ⟨key.type.name, key.octets⟩

/-- The key that is described. -/
def publicKey [SignatureSuite] (key : AccountKey) : Except KeyError PublicKey :=
  PublicKey.ofParts key.algorithm key.octets

/-- An account key in JSON. -/
def toJson (key : AccountKey) : Json :=
  .ofMembers [("algorithm", .ofText key.algorithm), ("bytes", Bytes.toJson key.octets)]

/-- Reads an account key from JSON. -/
def ofJson? (json : Json) : Option AccountKey := do
  let record ← json.record? ["algorithm", "bytes"] .skip
  return {
    algorithm := ← record.field? "algorithm" Json.text?
    octets := ← record.field? "bytes" Bytes.ofJson? }

end AccountKey

/-- A ledger account. -/
structure Account where
  address : Address
  /-- The key; absent until the account has signed once. -/
  key : Option AccountKey
  sequence : UInt64
  deriving DecidableEq

namespace Account

/-- An account in JSON; a missing key is left out. -/
def toJson (account : Account) : Json :=
  .ofMembers ([("address", account.address.toJson)] ++
    (match account.key with
      | some key => [("public_key", key.toJson)]
      | none => []) ++
    [("sequence", .ofUInt64 account.sequence)])

/-- Reads an account from JSON. -/
def ofJson? (json : Json) : Option Account := do
  let record ← json.record? ["address", "public_key", "sequence"] .skip
  return {
    address := ← record.field? "address" Address.ofJson?
    key := ← record.optional? "public_key" AccountKey.ofJson?
    sequence := ← record.fieldOr? "sequence" 0 Json.uint64? }

end Account

/-- Read access to the accounts of a ledger. -/
structure AccountKeeper where
  account? : Address → Option Account

namespace AccountKeeper

/-- The accounts of a list, of which the last one with an address counts. -/
def ofAccounts (accounts : List Account) : AccountKeeper where
  account? address := accounts.reverse.find? (·.address = address)

/-- The account of a key that has not signed yet. -/
def accountOfKey (readable : String) (key : PublicKey) : Except AddressError Account := do
  return ⟨← Address.ofKey readable key, some (.ofPublicKey key), 0⟩

end AccountKeeper

end AccessControl
