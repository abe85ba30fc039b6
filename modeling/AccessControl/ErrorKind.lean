import AccessControl.Json.Basic

/-!
# Kinds of failure

Every error of the library falls into one of a few kinds. The kind decides how a host reports the
failure and whether the same request may succeed when it is sent again.
-/

namespace AccessControl

/-- What a failure means to the one who sent the request. -/
inductive ErrorKind where
  /-- The request is malformed. -/
  | badInput
  /-- A signature, token or claim could not be authenticated. -/
  | unauthenticated
  /-- The actor may not do what was asked. -/
  | unauthorized
  /-- Something that the request names does not exist. -/
  | notFound
  /-- A rule forbids a well-formed request. -/
  | operationForbidden
  /-- Storing or encoding failed. -/
  | internal
  /-- A service outside of the library failed. -/
  | external
  deriving DecidableEq, Repr

namespace ErrorKind

/-- All kinds. -/
def all : List ErrorKind :=
  [badInput, unauthenticated, unauthorized, notFound, operationForbidden, internal, external]

/-- The stable name of a kind. -/
def code : ErrorKind → String
  | badInput => "BAD_INPUT"
  | unauthenticated => "UNAUTHENTICATED"
  | unauthorized => "UNAUTHORIZED"
  | notFound => "NOT_FOUND"
  | operationForbidden => "OPERATION_FORBIDDEN"
  | internal => "INTERNAL"
  | external => "EXTERNAL"

/-- Whether the same request may succeed later. -/
def isRetryable : ErrorKind → Bool
  | internal => true
  | external => true
  | _ => false

/-- A kind in JSON is its name. -/
def toJson (kind : ErrorKind) : Json :=
  .ofText kind.code

theorem mem_all (kind : ErrorKind) : kind ∈ all := by
  cases kind <;> decide

end ErrorKind

/-- What messages show in place of a decoder's own words, which are not part of any contract. -/
def decoderDetail : String := "<decoder>"

end AccessControl
