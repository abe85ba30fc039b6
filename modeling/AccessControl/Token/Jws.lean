import AccessControl.Encoding.Base64
import AccessControl.Identity.Resolver
import AccessControl.Json.Parser
import AccessControl.Json.Printer
import AccessControl.Json.Record
import AccessControl.Text.Blank

/-!
# Signed tokens

A token is a header, a payload and a signature in unpadded Base64 for URLs, with dots between them.
The signature is over the text of the first two. It is checked with the first key of the document of
an identifier that the caller has taken from the payload; what the header says about the algorithm
plays no part in that.
-/

namespace AccessControl

/-- The header of a token. -/
structure JwsHeader where
  /-- The name of the algorithm. -/
  alg : String
  /-- The type of the token. -/
  typ : Option String
  deriving DecidableEq

namespace JwsHeader

/-- A header in JSON; a missing type is left out. -/
def toJson (header : JwsHeader) : Json :=
  .ofMembers (("alg", .ofText header.alg) ::
    (header.typ.map fun typ => ("typ", Json.ofText typ)).toList)

/-- Reads a header from JSON. -/
def ofJson? (json : Json) : Option JwsHeader := do
  let record ← json.record? ["alg", "typ"] .skip
  return {
    alg := ← record.field? "alg" Json.text?
    typ := ← record.optional? "typ" Json.text? }

end JwsHeader

/-- A token whose signature has not been checked. -/
structure Jws where
  header : JwsHeader
  /-- The text that is signed. -/
  signingInput : String
  payload : Bytes
  signature : Bytes
  deriving DecidableEq

/-- The parts of a token. -/
inductive JwsSegment where
  | header
  | payload
  | signature
  deriving DecidableEq

/-- What is wrong with the form of a token. -/
inductive JwsDefect where
  /-- There are not three parts. -/
  | segmentCount
  /-- A part is not in Base64. -/
  | notBase64 (segment : JwsSegment)
  /-- The header is not JSON of the right form. -/
  | header
  deriving DecidableEq

/-- Why a token cannot be read, or does not hold. -/
inductive JwsError where
  /-- The token is in the other form, which can carry headers that are not signed. -/
  | jsonSerialization
  | malformed (defect : JwsDefect)
  /-- No key of the signer is known. -/
  | resolve (error : ResolveError)
  /-- The signature does not hold under the key of the signer. -/
  | invalidSignature (signer : Did) (type : KeyType)

/-- The name of a part. -/
def JwsSegment.name : JwsSegment → String
  | header => "header"
  | payload => "payload"
  | signature => "signature"

/-- The defect in words. -/
def JwsDefect.message : JwsDefect → String
  | segmentCount => "expected three dot-separated segments"
  | notBase64 segment => segment.name ++ " is not base64url: " ++ decoderDetail
  | header => "invalid header: " ++ decoderDetail

namespace JwsError

/-- The error in words. -/
def message : JwsError → String
  | jsonSerialization => "JWS JSON serialization is not supported"
  | malformed defect => "malformed JWS: " ++ defect.message
  | resolve error => error.message
  | invalidSignature signer type =>
    "JWS signature does not verify with " ++ type.algorithm ++ " key of " ++ signer.text

/-- The kind of the error. -/
def kind : JwsError → ErrorKind
  | jsonSerialization => .badInput
  | malformed _ => .badInput
  | resolve error => error.kind
  | invalidSignature _ _ => .unauthenticated

end JwsError

namespace Jws

/-- The parts of a text between dots. -/
def segments : List Char → List (List Char)
  | [] => [[]]
  | c :: rest =>
    match segments rest with
    | [] => [[c]]
    | first :: others => if c = '.' then [] :: first :: others else (c :: first) :: others

/-- The octets of a part. -/
def segmentOctets (segment : JwsSegment) (chars : List Char) : Except JwsError Bytes :=
  match Base64.urlUnpadded.decodeChars? chars with
  | some octets => .ok octets
  | none => .error (.malformed (.notBase64 segment))

/-- The token that a text writes, between any blanks. -/
def ofText (source : String) : Except JwsError Jws := do
  let chars := Text.trim source.toList
  if chars.head? = some '{' then .error .jsonSerialization
  else
    match segments chars with
    | [header, payload, signature] => do
      let headerOctets ← segmentOctets .header header
      let payloadOctets ← segmentOctets .payload payload
      let signatureOctets ← segmentOctets .signature signature
      match (Json.parse? headerOctets).bind JwsHeader.ofJson? with
      | some parsed =>
        .ok {
          header := parsed
          signingInput := String.ofList (header ++ '.' :: payload)
          payload := payloadOctets
          signature := signatureOctets }
      | none => .error (.malformed .header)
    | _ => .error (.malformed .segmentCount)

/-- The claims in the payload, which say who should have signed it. -/
def claims? {α : Type} (ofJson? : Json → Option α) (token : Jws) : Option α :=
  (Json.parse? token.payload).bind ofJson?

variable [SignatureSuite]

/-- Accepts a token that was signed with the first key of an identifier's document. -/
def verify (token : Jws) (signer : Did) (resolver : Resolver) : Except JwsError Unit := do
  let document ← (resolver.resolve signer).mapError .resolve
  let method ← document.firstMethod.mapError .resolve
  if method.key.verify (.ofText token.signingInput) token.signature then .ok ()
  else .error (.invalidSignature signer method.key.type)

/-- The text that is signed for some claims. -/
def signingInputOf (claims : Json) (type : KeyType) : String :=
  let header : JwsHeader := ⟨type.algorithm, some "JWT"⟩
  Base64.urlUnpadded.encode header.toJson.render ++ "." ++
    Base64.urlUnpadded.encode claims.render

/-- The token of some claims, signed with a key. -/
def sign (claims : Json) (key : SigningKey) : String :=
  let input := signingInputOf claims key.type
  input ++ "." ++ Base64.urlUnpadded.encode (key.sign (.ofText input))

end Jws

end AccessControl
