import Certctl.Source.Pkcs7.EnvelopedData

/-!
The RFC 8894 entry of the SCEP handler: a PKIMessage is opened from the outer signature
to the certificate request inside. Any failure sends the body to the older parser, so the
result is an `Option`.

Source: internal/api/handler/scep.go; internal/domain/scep.go.
-/
namespace Certctl.Source.Scep

open Lib Lib.Der Source.Pkcs7

/-- An attribute value as the certificate request parser decodes it. -/
inductive AttributeValue where
  | text (value : String)
  | other

structure RequestAttribute where
  type : Oid
  value : List (List AttributeValue)

/-- The library operations of the path; the last two are the PKCS#10 parser, of which the
attributes matter, and the PEM block of a request. -/
structure PKILibrary where
  signatures : SignatureLibrary
  ciphers : CipherLibrary
  parseCertificateRequest : Der.Bytes → Option (List RequestAttribute)
  encodeRequestPEM : Der.Bytes → String

structure SCEPHandler where
  raCert : Certificate
  raKey : PrivateKey

structure SCEPRequestEnvelope where
  messageType : Int
  transactionID : Der.Bytes
  senderNonce : Der.Bytes
  signerCert : Der.Bytes

def oidChallengePassword : Oid := [1, 2, 840, 113549, 1, 9, 7]

/-- The first challengePassword attribute with a text as its first value. -/
def extractChallengePasswordFromCSR (attributes : List RequestAttribute) : String :=
  (attributes.findSome? (fun attr =>
    if attr.type = oidChallengePassword then
      match attr.value with
      | (.text pwd :: _) :: _ => some pwd
      | _ => none
    else none)).getD ""

/-- The signer's part: signature, message type and transaction; a missing nonce is empty. -/
def requestEnvelope (lib : SignatureLibrary) (si : SignerInfo) : Option SCEPRequestEnvelope := do
  guard (verifySignature lib si)
  let messageType ← si.getMessageType.toOption
  let transactionID ← si.getTransactionID.toOption
  let senderNonce := si.getSenderNonce.toOption.getD []
  return ⟨messageType, transactionID, senderNonce, si.signerCert.raw⟩

/-- The content's part: the request under the RA key, its PEM and the challenge password. -/
def openContent (lib : PKILibrary) (h : SCEPHandler) (content : Der.Bytes) :
    Option (String × String) := do
  guard (content ≠ [])
  let env ← (parseEnvelopedData content).toOption
  let csrDER ← env.decrypt lib.ciphers h.raKey h.raCert
  let attributes ← lib.parseCertificateRequest csrDER
  return (lib.encodeRequestPEM csrDER, extractChallengePasswordFromCSR attributes)

def tryParseRFC8894 (lib : PKILibrary) (h : SCEPHandler) (body : Der.Bytes) :
    Option (SCEPRequestEnvelope × String × String) := do
  let sd ← (parseSignedData lib.signatures body).toOption
  let si ← sd.signerInfos.head?
  let envelope ← requestEnvelope lib.signatures si
  let (csrPEM, challengePassword) ← openContent lib h sd.encapContent
  return (envelope, csrPEM, challengePassword)

end Certctl.Source.Scep
