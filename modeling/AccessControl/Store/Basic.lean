import AccessControl.Action
import AccessControl.Encoding.Utf8
import AccessControl.ErrorKind
import AccessControl.Json.Parser
import AccessControl.Json.Printer

/-!
# Key-value stores

A store maps keys to values, both of them byte strings, and lists its entries in the order of their
keys. Every call may fail; a call that fails changes nothing.

Records are kept as JSON. A value that cannot be read as what it should be is an error that names
its key.
-/

namespace AccessControl

/-- Why a value cannot be used. -/
inductive Unreadable where
  /-- It is no record of the expected form. -/
  | record
  /-- It is a counter, but not of eight octets. -/
  | counter (length : Nat)
  /-- It is an index entry whose key does not end with a number. -/
  | indexKey
  /-- It is an index entry for a commitment that is not there. -/
  | danglingCommitment (id : UInt64)
  deriving DecidableEq

/-- Why a store does not answer. -/
inductive StoreError where
  /-- The store failed. -/
  | backend (reason : String)
  /-- A counter has handed out its last number. -/
  | sequenceExhausted
  /-- The value at a key cannot be used. -/
  | unreadable (key : Bytes) (reason : Unreadable)
  deriving DecidableEq

/-- The reason in words. -/
def Unreadable.message : Unreadable → String
  | record => decoderDetail
  | counter length => s!"expected 8 counter bytes, got {length}"
  | indexKey => "index key does not end with an id"
  | danglingCommitment id => s!"index points at missing commitment {id}"

namespace StoreError

/-- The error in words. -/
def message : StoreError → String
  | backend reason => "Storage backend error: " ++ reason
  | sequenceExhausted => "Storage backend error: sequence exhausted"
  | unreadable key reason =>
    "Failed to decode a record at " ++ Utf8.lossy key ++ ": " ++ reason.message

/-- The store is not in the hands of the one who sent a request. -/
def kind (_ : StoreError) : ErrorKind := .internal

end StoreError

/-- The calls to a store. -/
class Store (σ : Type) where
  /-- The value at a key, if there is one. -/
  get? (store : σ) (key : Bytes) : Except StoreError (Option Bytes)
  /-- The store with a value set. -/
  set (store : σ) (key value : Bytes) : Except StoreError σ
  /-- The store with a value removed, if there was one. -/
  delete (store : σ) (key : Bytes) : Except StoreError σ
  /-- The entries whose keys begin with `start`, in the order of their keys. -/
  scan (store : σ) (start : Bytes) : Except StoreError (List (Bytes × Bytes))

namespace Store

variable {σ α : Type} [Store σ]

/-- Sets the value at a key. -/
def write (key value : Bytes) : Action σ StoreError Unit :=
  .attempt fun store => return ((), ← set store key value)

/-- Removes the value at a key. -/
def remove (key : Bytes) : Action σ StoreError Unit :=
  .attempt fun store => return ((), ← delete store key)

omit [Store σ] in
/-- The record that a value at a key writes. -/
def decodeRecord (ofJson? : Json → Option α) (key value : Bytes) : Except StoreError α :=
  match (Json.parse? value).bind ofJson? with
  | some record => .ok record
  | none => .error (.unreadable key .record)

/-- The record at a key, if there is one. -/
def record? (ofJson? : Json → Option α) (store : σ) (key : Bytes) :
    Except StoreError (Option α) := do
  match ← get? store key with
  | some value => return some (← decodeRecord ofJson? key value)
  | none => return none

/-- Sets the record at a key. -/
def writeRecord (key : Bytes) (record : Json) : Action σ StoreError Unit :=
  write key record.render

end Store

end AccessControl
