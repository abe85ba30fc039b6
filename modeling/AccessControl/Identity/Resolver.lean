import AccessControl.Identity.Key

/-!
# Resolving identifiers

A resolver finds the document of an identifier: the keys that it can be verified with. Identifiers
of the method `key` carry their key and resolve by themselves; those of other methods resolve in
documents that the host has fetched. Two resolvers join into one that asks the second only where the
first does not handle the method.
-/

namespace AccessControl

/-- A key that a document publishes. -/
structure VerificationMethod where
  id : String
  /-- The identifier that controls the key. -/
  controller : Did
  key : PublicKey

/-- The resolved form of an identifier. -/
structure DidDocument where
  id : Did
  /-- The published keys, in order. -/
  methods : List VerificationMethod

/-- Why an identifier cannot be resolved to a key. -/
inductive ResolveError where
  /-- The identifier is of the method `key` but no key can be read from it. -/
  | malformedKey (error : DidKeyError)
  /-- No resolver handles the method. -/
  | unsupportedMethod (did : Did)
  /-- The method is handled but the identifier does not exist. -/
  | notFound (did : Did)
  /-- The document publishes no key. -/
  | noVerificationMethod (did : Did)
  /-- The resolver failed. -/
  | unavailable (did : Did) (reason : String)

namespace ResolveError

/-- The error in words. -/
def message : ResolveError → String
  | malformedKey error => "malformed did:key: " ++ error.message
  | unsupportedMethod did => "unsupported DID method '" ++ did.method ++ "' for " ++ did.text
  | notFound did => "DID not found: " ++ did.text
  | noVerificationMethod did => "DID document for " ++ did.text ++ " has no verification method"
  | unavailable did reason => "resolver unavailable for " ++ did.text ++ ": " ++ reason

/-- Only a failing resolver is out of the requester's hands. -/
def kind : ResolveError → ErrorKind
  | malformedKey _ => .badInput
  | unsupportedMethod _ => .notFound
  | notFound _ => .notFound
  | noVerificationMethod _ => .notFound
  | unavailable _ _ => .external

end ResolveError

/-- The first key of a document. Signatures are checked with no other key of it. -/
def DidDocument.firstMethod (document : DidDocument) : Except ResolveError VerificationMethod :=
  match document.methods with
  | method :: _ => .ok method
  | [] => .error (.noVerificationMethod document.id)

/-- Finds the document of an identifier. -/
structure Resolver where
  resolve : Did → Except ResolveError DidDocument

namespace Resolver

/-- Resolves identifiers of the method `key`, whose document publishes the key they carry. -/
def key [SignatureSuite] : Resolver where
  resolve did :=
    if did.method = "key" then
      match PublicKey.ofDidText did.text with
      | .ok publicKey => .ok ⟨did, [⟨did.text ++ "#" ++ did.identifier, did, publicKey⟩]⟩
      | .error error => .error (.malformedKey error)
    else .error (.unsupportedMethod did)

/-- Resolves identifiers in given documents, of which the last one with an identifier counts. The
methods that occur among them are handled. -/
def ofDocuments (documents : List DidDocument) : Resolver where
  resolve did :=
    match documents.reverse.find? (·.id = did) with
    | some document => .ok document
    | none =>
      -- The method counts as handled if any document is of it.
      if documents.any (·.id.method = did.method) then .error (.notFound did)
      else .error (.unsupportedMethod did)

/-- Always fails for the given reason. -/
def failing (reason : String) : Resolver where
  resolve did := .error (.unavailable did reason)

/-- Asks the second resolver where the first does not handle the method. -/
def orElse (first second : Resolver) : Resolver where
  resolve did :=
    match first.resolve did with
    | .error (.unsupportedMethod _) => second.resolve did
    | result => result

end Resolver

end AccessControl
