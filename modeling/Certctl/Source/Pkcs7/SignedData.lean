import Certctl.Lib.Der

/-!
CMS SignedData: the parser of the outer structure, the resolution of each signer's
certificate, the signature over the signed attributes, and the attribute extractors.
Hashes, public-key operations and the certificate parser are those of the standard
library and stay parameters.

Source: internal/pkcs7/envelopeddata.go, envelopeddata_builder.go, pkcs7.go, signedinfo.go.
-/
namespace Certctl.Source.Pkcs7

open Lib Lib.Der

def oidSCEPMessageType : Oid := [2, 16, 840, 1, 113733, 1, 9, 2]

def oidSCEPSenderNonce : Oid := [2, 16, 840, 1, 113733, 1, 9, 5]

def oidSCEPTransactionID : Oid := [2, 16, 840, 1, 113733, 1, 9, 7]

def oidMessageDigest : Oid := [1, 2, 840, 113549, 1, 9, 4]

def oidSHA1 : Oid := [1, 3, 14, 3, 2, 26]

def oidSHA256 : Oid := [2, 16, 840, 1, 101, 3, 4, 2, 1]

def oidSHA512 : Oid := [2, 16, 840, 1, 101, 3, 4, 2, 3]

def oidRSAEncryption : Oid := [1, 2, 840, 113549, 1, 1, 1]

def oidRSAWithSHA1 : Oid := [1, 2, 840, 113549, 1, 1, 5]

def oidRSAWithSHA256 : Oid := [1, 2, 840, 113549, 1, 1, 11]

def oidRSAWithSHA512 : Oid := [1, 2, 840, 113549, 1, 1, 13]

def oidECDSAWithSHA256 : Oid := [1, 2, 840, 10045, 4, 3, 2]

def oidECDSAWithSHA512 : Oid := [1, 2, 840, 10045, 4, 3, 4]

def oidSignedData : Oid := [1, 2, 840, 113549, 1, 7, 2]

/-! Encoding. -/

def asn1EncodeLength (length : Nat) : Bytes :=
  if length < 0x80 then [UInt8.ofNat length]
  else
    let lengthBytes := bigEndian length
    (0x80 ||| UInt8.ofNat lengthBytes.length) :: lengthBytes

def asn1Wrap (tag : UInt8) (content : Bytes) : Bytes :=
  tag :: (asn1EncodeLength content.length ++ content)

theorem length_asn1Wrap_le (tag : UInt8) (content : Bytes) (bound : content.length < 4294967296) :
    (asn1Wrap tag content).length ≤ content.length + 6 := by
  have few := length_bigEndian_le content.length 4 (by omega)
  unfold asn1Wrap asn1EncodeLength
  split
  · simp only [List.length_cons, List.length_append, List.length_nil]
    omega
  · simp only [List.length_cons, List.length_append]
    omega

section Written

variable {tag : UInt8} {cls : TagClass} {n : Nat} {compound : Bool} {content : Bytes}

theorem header_asn1Wrap (octet : identifierOctet tag = (cls, n, compound)) (low : n ≠ 31)
    (bound : content.length < 2147483648) (more : Bytes) :
    header (asn1Wrap tag content ++ more) =
      .ok (⟨cls, n, compound, content.length⟩, content ++ more) := by
  have octets : Der.length (asn1EncodeLength content.length ++ content ++ more) =
      .ok (content.length, content ++ more) := by
    rw [List.append_assoc]
    unfold asn1EncodeLength
    split
    next short => exact length_short short _
    next long => exact length_long (by omega) bound _
  have named : identifier (asn1Wrap tag content ++ more) =
      .ok ((cls, n, compound), asn1EncodeLength content.length ++ content ++ more) := by
    simp only [asn1Wrap, List.cons_append, identifier, octet]
    rw [if_neg low]
    rfl
  exact bind_eq_ok.mpr ⟨_, named, bind_eq_ok.mpr ⟨_, octets, rfl⟩⟩

theorem contents_append (h : Header) (size : h.length = content.length) (more : Bytes) :
    contents h (content ++ more) = .ok (content, more) := by
  refine bind_eq_ok.mpr ⟨(), ensure_eq_ok.mpr ?_, ?_⟩
  · rw [size, List.length_append]
    exact Nat.le_add_right ..
  · rw [size, List.take_left, List.drop_left]
    rfl

/-- A field that is written is read from its contents, whatever follows. -/
theorem field_asn1Wrap {α : Type} (read : Bytes → Except DerError α)
    (octet : identifierOctet tag = (.universal, n, compound)) (low : n ≠ 31)
    (bound : content.length < 2147483648) (more : Bytes) :
    field n compound read (asn1Wrap tag content ++ more) =
      (read content >>= fun a => pure (a, more)) := by
  have inside := contents_append ⟨.universal, n, compound, content.length⟩ rfl more
  unfold field
  rw [header_asn1Wrap octet low bound more]
  simp only [bind, Except.bind, inside, ensure, and_self, if_true]

/-- An element that is written is read with its contents. -/
theorem exists_rawBehind (input : Bytes) (h : Header) (size : h.length = content.length) :
    ∃ raw, rawBehind input h content = .ok (raw, []) ∧ raw.tag = h.tag ∧ raw.bytes = content := by
  have read := contents_append h size []
  rw [List.append_nil] at read
  exact ⟨_, bind_eq_ok.mpr ⟨_, read, rfl⟩, rfl, rfl⟩

end Written

/-! What the standard library provides. -/

inductive HashAlgorithm where
  | sha1
  | sha256
  | sha512
  deriving DecidableEq

inductive PublicKey where
  | rsa (key : Bytes)
  | ecdsa (key : Bytes)
  | other
  deriving DecidableEq

structure Certificate where
  raw : Bytes
  serialNumber : Int
  rawIssuer : Bytes
  subjectKeyId : Bytes
  publicKey : PublicKey
  deriving DecidableEq

structure SignatureLibrary where
  hash : HashAlgorithm → Bytes → Bytes
  rsaVerifyPKCS1v15 : Bytes → HashAlgorithm → Bytes → Bytes → Bool
  ecdsaVerifyASN1 : Bytes → Bytes → Bytes → Bool
  parseCertificate : Bytes → Option Certificate

/-! Parsing. -/

/-- The parsed signer; the map of attributes is the list of its assignments. -/
structure SignerInfo where
  version : Int
  signerCert : Certificate
  authAttributes : List (Oid × RawValue)
  rawSignedAttrs : Bytes
  digestAlgorithm : Oid
  signatureAlgorithm : Oid
  signature : Bytes
  deriving DecidableEq

structure SignedData where
  version : Int
  digestAlgorithms : List AlgorithmIdentifier
  encapContentType : Oid
  encapContent : Bytes
  certificates : List Certificate
  signerInfos : List SignerInfo
  deriving DecidableEq

structure SignedDataASN1 where
  version : Int
  digestAlgorithms : List AlgorithmIdentifier
  contentType : Oid
  content : RawValue
  certificates : RawValue
  signerInfos : List RawValue

def encapContentInfoASN1 (input : Bytes) : Except DerError (Oid × RawValue) := do
  let (contentType, input) ← objectIdentifier input
  let (content, _) ← optionalExplicit 0 input
  return (contentType, content)

def signedDataASN1 (input : Bytes) : Except DerError SignedDataASN1 := do
  let (version, input) ← Der.integer input
  let (digestAlgorithms, input) ← setOfAlgorithms input
  let ((contentType, content), input) ← Der.sequence encapContentInfoASN1 input
  let (certificates, input) ← optionalImplicit 0 input
  let (_, input) ← optionalImplicit 1 input
  let (signerInfos, _) ← setOfRaw input
  return ⟨version, digestAlgorithms, contentType, content, certificates, signerInfos⟩

structure SignerInfoASN1 where
  version : Int
  sid : RawValue
  digestAlgorithm : AlgorithmIdentifier
  signedAttrs : RawValue
  signatureAlgorithm : AlgorithmIdentifier
  signature : Bytes

def signerInfoASN1 (input : Bytes) : Except DerError SignerInfoASN1 := do
  let (version, input) ← Der.integer input
  let (sid, input) ← rawValue input
  let (digestAlgorithm, input) ← algorithmIdentifier input
  let (signedAttrs, input) ← optionalImplicit 0 input
  let (signatureAlgorithm, input) ← algorithmIdentifier input
  let (signature, input) ← octetString input
  let _ ← optionalImplicit 1 input
  return ⟨version, sid, digestAlgorithm, signedAttrs, signatureAlgorithm, signature⟩

/-- A raw field takes any element, so the `set` of the tag is not enforced. -/
def attributeASN1 (input : Bytes) : Except DerError (Oid × RawValue) := do
  let (type, input) ← objectIdentifier input
  let (values, _) ← rawValue input
  return (type, values)

def issuerAndSerialASN1 (input : Bytes) : Except DerError (RawValue × Int) := do
  let (issuer, input) ← rawValue input
  let (serialNumber, _) ← bigInteger input
  return (issuer, serialNumber)

def contentInfoASN1 (input : Bytes) : Except DerError (Oid × RawValue) := do
  let (contentType, input) ← objectIdentifier input
  let (content, _) ← explicitRawValue 0 input
  return (contentType, content)

/-- The optional outer ContentInfo is taken off when it is there. -/
def peelContentInfo (der : Bytes) (expectOID : Oid) : Option Bytes :=
  match Der.sequence contentInfoASN1 der with
  | .error _ => none
  | .ok ((contentType, content), _) => if contentType = expectOID then some content.bytes else none

/-- Issuer and serial number, or the subject key identifier under `[0]`. -/
def matchSignerCert (sid : RawValue) (certs : List Certificate) : Option Certificate :=
  if sid.tagClass = .universal ∧ sid.tag = 16 then
    match Der.sequence issuerAndSerialASN1 sid.fullBytes with
    | .error _ => none
    | .ok ((issuer, serialNumber), _) =>
      certs.find? (fun c => c.serialNumber = serialNumber ∧ c.rawIssuer = issuer.fullBytes)
  else if sid.tagClass = .contextSpecific ∧ sid.tag = 0 then
    certs.find? (fun c => c.subjectKeyId = sid.bytes)
  else none

inductive SignerInfoError where
  | parse (cause : DerError)
  | signerCertNotFound

def parseSignerInfoFromRaw (raw : RawValue) (certs : List Certificate) :
    Except SignerInfoError SignerInfo := do
  let (si, _) ← (Der.sequence signerInfoASN1 raw.fullBytes).mapError .parse
  let attrs := untilError (Der.sequence attributeASN1) si.signedAttrs.bytes.length
    si.signedAttrs.bytes
  let signerCert ← orFail (matchSignerCert si.sid certs) .signerCertNotFound
  return ⟨si.version, signerCert, attrs, si.signedAttrs.bytes, si.digestAlgorithm.algorithm,
    si.signatureAlgorithm.algorithm, si.signature⟩

/-- The OCTET STRING around the content is stripped by its tag, else the bytes stay. -/
def unwrapContent (content : RawValue) : Bytes :=
  if content.bytes = [] then []
  else match rawValue content.bytes with
    | .error _ => content.bytes
    | .ok (inner, _) => if inner.tag = 4 then inner.bytes else content.bytes

def parseCertificates (lib : SignatureLibrary) (bytes : Bytes) : List Certificate :=
  (untilError rawValue bytes.length bytes).filterMap (fun rv =>
    if rv.tagClass = .universal ∧ rv.tag = 16 then lib.parseCertificate rv.fullBytes else none)

inductive SignedDataError where
  | emptyInput
  | outerSequence (cause : DerError)
  deriving DecidableEq

/-- Signers that do not parse are skipped. -/
def parseSignedData (lib : SignatureLibrary) (der : Bytes) : Except SignedDataError SignedData := do
  ensure (der ≠ []) .emptyInput
  let (raw, _) ← (Der.sequence signedDataASN1
    ((peelContentInfo der oidSignedData).getD der)).mapError .outerSequence
  let certificates := parseCertificates lib raw.certificates.bytes
  return ⟨raw.version, raw.digestAlgorithms, raw.contentType, unwrapContent raw.content,
    certificates, raw.signerInfos.filterMap (fun si =>
      (parseSignerInfoFromRaw si certificates).toOption)⟩

/-- The content as a signer writes it: an OCTET STRING under `[0]`. -/
def wrapContent (content : Bytes) : Bytes := asn1Wrap 0xa0 (asn1Wrap 0x04 content)

variable {content : Bytes}

theorem unwrapContent_octetString {raw : RawValue} (bytes : raw.bytes = asn1Wrap 0x04 content)
    (bound : content.length < 2147483648) : unwrapContent raw = content := by
  have read := header_asn1Wrap (show identifierOctet 0x04 = (.universal, 4, false) from rfl)
    (by decide) bound []
  rw [List.append_nil, List.append_nil] at read
  obtain ⟨inner, element, tag, inside⟩ := exists_rawBehind (asn1Wrap 0x04 content)
    ⟨.universal, 4, false, content.length⟩ rfl
  have value : rawValue (asn1Wrap 0x04 content) = .ok (inner, []) :=
    bind_eq_ok.mpr ⟨_, read, element⟩
  unfold unwrapContent
  rw [bytes, if_neg (by simp [asn1Wrap]), value]
  dsimp only
  rw [if_pos tag, inside]

/-- What is written as content is found there again. -/
theorem optionalExplicit_wrapContent (bound : content.length < 1073741824) :
    ∃ raw, optionalExplicit 0 (wrapContent content) = .ok (raw, []) ∧
      unwrapContent raw = content := by
  have size := length_asn1Wrap_le 0x04 content (by omega)
  have read := header_asn1Wrap (show identifierOctet 0xa0 = (.contextSpecific, 0, true) from rfl)
    (by decide) (show (asn1Wrap 0x04 content).length < 2147483648 by omega) []
  rw [List.append_nil, List.append_nil] at read
  obtain ⟨raw, element, -, inside⟩ := exists_rawBehind (wrapContent content)
    ⟨.contextSpecific, 0, true, (asn1Wrap 0x04 content).length⟩ rfl
  refine ⟨raw, ?_, unwrapContent_octetString inside (by omega)⟩
  have wrapper : explicitRaw 0 (wrapContent content) = .ok (some (raw, [])) := by
    refine bind_eq_ok.mpr ⟨_, read, bind_eq_ok.mpr ⟨(), ensure_eq_ok.mpr (by simp [asn1Wrap]), ?_⟩⟩
    exact bind_eq_ok.mpr ⟨_, element, rfl⟩
  unfold optionalExplicit
  rw [if_neg (by simp [wrapContent, asn1Wrap]), wrapper]
  rfl

/-- Another content in the place of the old one, whatever follows. -/
theorem exists_encapContentInfo {input rest : Bytes} {contentType : Oid} {old : RawValue}
    (parsed : Der.sequence encapContentInfoASN1 input = .ok ((contentType, old), rest))
    (bound : input.length + content.length < 536870912) :
    ∃ used raw, used.length + rest.length ≤ input.length + content.length + 18 ∧
      unwrapContent raw = content ∧
      ∀ more,
        Der.sequence encapContentInfoASN1 (used ++ more) = .ok ((contentType, raw), more) := by
  obtain ⟨bytes, fields, size⟩ := exists_contents_of_field parsed
  obtain ⟨⟨_, after⟩, readType, fields⟩ := bind_eq_ok.mp fields
  obtain ⟨_, -, ⟨⟩⟩ := bind_eq_ok.mp fields
  obtain ⟨typeBytes, rfl, again⟩ := local_field _ _ _ _ _ _ readType
  obtain ⟨raw, readContent, unwrapped⟩ :=
    optionalExplicit_wrapContent (by omega : content.length < _)
  have inner := length_asn1Wrap_le 0x04 content (by omega)
  have outer := length_asn1Wrap_le 0xa0 (asn1Wrap 0x04 content) (by omega)
  rw [List.length_append] at size
  have length : (typeBytes ++ wrapContent content).length =
    typeBytes.length + (asn1Wrap 0xa0 (asn1Wrap 0x04 content)).length := List.length_append ..
  have whole := length_asn1Wrap_le 0x30 (typeBytes ++ wrapContent content) (by omega)
  refine ⟨asn1Wrap 0x30 (typeBytes ++ wrapContent content), raw, by omega, unwrapped, ?_⟩
  intro more
  have read : encapContentInfoASN1 (typeBytes ++ wrapContent content) = .ok (contentType, raw) :=
    bind_eq_ok.mpr ⟨_, again _, bind_eq_ok.mpr ⟨_, readContent, rfl⟩⟩
  unfold Der.sequence
  rw [field_asn1Wrap encapContentInfoASN1 rfl (by decide) (by omega) more, read]
  rfl

/-- The content is read between fields that do not depend on it. -/
theorem exists_signedData_content {bytes : Bytes} {raw : SignedDataASN1}
    (parsed : signedDataASN1 bytes = .ok raw) (bound : bytes.length + content.length < 536870912) :
    ∃ bytes' contentRaw, bytes'.length ≤ bytes.length + content.length + 18 ∧
      unwrapContent contentRaw = content ∧
      signedDataASN1 bytes' = .ok { raw with content := contentRaw } ∧
      ∀ r, objectIdentifier bytes' ≠ .ok r := by
  obtain ⟨⟨version, _⟩, readVersion, parsed⟩ := bind_eq_ok.mp parsed
  obtain ⟨⟨algorithms, _⟩, readAlgorithms, parsed⟩ := bind_eq_ok.mp parsed
  obtain ⟨⟨⟨contentType, old⟩, tail⟩, readContent, parsed⟩ := bind_eq_ok.mp parsed
  obtain ⟨⟨certificates, _⟩, readCertificates, parsed⟩ := bind_eq_ok.mp parsed
  obtain ⟨⟨crls, _⟩, readCRLs, parsed⟩ := bind_eq_ok.mp parsed
  obtain ⟨⟨signerInfos, _⟩, readSigners, ⟨⟩⟩ := bind_eq_ok.mp parsed
  obtain ⟨used₁, rfl, version'⟩ := local_field _ _ _ _ _ _ readVersion
  obtain ⟨used₂, rfl, algorithms'⟩ := local_field _ _ _ _ _ _ readAlgorithms
  simp only [List.length_append] at bound ⊢
  obtain ⟨used, contentRaw, size, unwrapped, content'⟩ :=
    exists_encapContentInfo readContent (by omega : _ + content.length < _)
  have again : signedDataASN1 (used₁ ++ (used₂ ++ (used ++ tail))) =
      .ok ⟨version, algorithms, contentType, contentRaw, certificates, signerInfos⟩ := by
    refine bind_eq_ok.mpr ⟨_, version' _, bind_eq_ok.mpr ⟨_, algorithms' _, ?_⟩⟩
    refine bind_eq_ok.mpr ⟨_, content' _, bind_eq_ok.mpr ⟨_, readCertificates, ?_⟩⟩
    exact bind_eq_ok.mpr ⟨_, readCRLs, bind_eq_ok.mpr ⟨_, readSigners, rfl⟩⟩
  refine ⟨_, contentRaw, ?_, unwrapped, again, fun r => ?_⟩
  · simp only [List.length_append]
    omega
  · exact not_field_of_field (version' _) (by decide)

/-- What is inside a ContentInfo is part of it. -/
theorem length_peelContentInfo_le (der : Bytes) (oid : Oid) :
    ((peelContentInfo der oid).getD der).length ≤ der.length := by
  unfold peelContentInfo
  split
  · exact Nat.le_refl _
  next contentType content after parsed =>
    split
    · obtain ⟨bytes, fields, size⟩ := exists_contents_of_field parsed
      obtain ⟨⟨_, input⟩, readType, fields⟩ := bind_eq_ok.mp fields
      obtain ⟨⟨_, _⟩, readContent, ⟨⟩⟩ := bind_eq_ok.mp fields
      obtain ⟨_, -, behindType⟩ := exists_contents_of_field readType
      have inside := length_explicitRawValue_le readContent
      rw [Option.getD_some]
      omega
    · exact Nat.le_refl _

/-- A message with another content and otherwise the same. -/
theorem exists_message_content {lib : SignatureLibrary} {body : Bytes} {sd : SignedData}
    (parsed : parseSignedData lib body = .ok sd)
    (bound : body.length + content.length < 268435456) :
    ∃ body', parseSignedData lib body' = .ok { sd with encapContent := content } := by
  obtain ⟨_, -, parsed⟩ := bind_eq_ok.mp parsed
  obtain ⟨⟨raw, _⟩, outer, ⟨⟩⟩ := bind_eq_ok.mp parsed
  have peeled := length_peelContentInfo_le body oidSignedData
  obtain ⟨bytes, fields, size⟩ := exists_contents_of_field ((mapError_eq_ok _).mp outer)
  obtain ⟨bytes', contentRaw, size', unwrapped, fields', started⟩ :=
    exists_signedData_content fields (by omega : _ + content.length < _)
  have written := fun {α : Type} (read : Bytes → Except DerError α) =>
    field_asn1Wrap read (show identifierOctet 0x30 = (.universal, 16, true) from rfl) (by decide)
      (show bytes'.length < 2147483648 by omega) []
  simp only [List.append_nil] at written
  have bare : peelContentInfo (asn1Wrap 0x30 bytes') oidSignedData = none := by
    unfold peelContentInfo Der.sequence contentInfoASN1
    rw [written]
    cases start : objectIdentifier bytes' with
    | error e => rfl
    | ok r => exact absurd start (started r)
  refine ⟨asn1Wrap 0x30 bytes', bind_eq_ok.mpr ⟨(), ensure_eq_ok.mpr (by simp [asn1Wrap]), ?_⟩⟩
  refine bind_eq_ok.mpr ⟨({ raw with content := contentRaw }, []), ?_, ?_⟩
  · rw [bare, Option.getD_none, Der.sequence, written, fields']
    rfl
  · dsimp only
    rw [unwrapped]
    rfl

/-! The signature over the signed attributes. -/

def hashAlgorithmForOID (oid : Oid) : Option HashAlgorithm :=
  if oid = oidSHA256 ∨ oid = oidRSAWithSHA256 ∨ oid = oidECDSAWithSHA256 then some .sha256
  else if oid = oidSHA512 ∨ oid = oidRSAWithSHA512 ∨ oid = oidECDSAWithSHA512 then some .sha512
  else if oid = oidSHA1 ∨ oid = oidRSAWithSHA1 then some .sha1
  else none

def hashForOID (lib : SignatureLibrary) (oid : Oid) (data : Bytes) :
    Option (Bytes × HashAlgorithm) :=
  (hashAlgorithmForOID oid).map (fun alg => (lib.hash alg data, alg))

def isRSASigAlg (oid : Oid) : Bool :=
  oid = oidRSAWithSHA1 ∨ oid = oidRSAWithSHA256 ∨ oid = oidRSAWithSHA512 ∨ oid = oidRSAEncryption

def isECDSASigAlg (oid : Oid) : Bool := oid = oidECDSAWithSHA256 ∨ oid = oidECDSAWithSHA512

/-- Every failure is the one error `signerInfo: signature verification failed`. -/
def verifySignature (lib : SignatureLibrary) (s : SignerInfo) : Bool :=
  if s.rawSignedAttrs = [] then false
  else match hashForOID lib s.digestAlgorithm (asn1Wrap 0x31 s.rawSignedAttrs) with
    | none => false
    | some (digest, hashAlg) =>
      match s.signerCert.publicKey with
      | .rsa key =>
        isRSASigAlg s.signatureAlgorithm && lib.rsaVerifyPKCS1v15 key hashAlg digest s.signature
      | .ecdsa key =>
        isECDSASigAlg s.signatureAlgorithm && lib.ecdsaVerifyASN1 key digest s.signature
      | .other => false

/-! Attribute extractors. -/

inductive AttributeError where
  | notPresent (oid : Oid)
  | emptyValue (oid : Oid)
  | unmarshalValue (oid : Oid) (cause : DerError)
  | unexpectedTag (oid : Oid) (tag : Nat)
  | messageTypeNotInteger (text : Bytes)
  deriving DecidableEq

namespace SignerInfo

/-- The entry of the map: the last attribute of the type. -/
def authAttribute (s : SignerInfo) (oid : Oid) : Option RawValue :=
  (s.authAttributes.reverse.find? (fun a => decide (a.1 = oid))).map Prod.snd

/-- The first value of an attribute, whose tag must be one of those given. -/
def attributeValue (s : SignerInfo) (oid : Oid) (tags : List Nat) :
    Except AttributeError Bytes := do
  let rv ← orFail (s.authAttribute oid) (.notPresent oid)
  ensure (rv.bytes ≠ []) (.emptyValue oid)
  let (inner, _) ← (rawValue rv.bytes).mapError (.unmarshalValue oid)
  ensure (inner.tag ∈ tags) (.unexpectedTag oid inner.tag)
  return inner.bytes

/-- PrintableString, IA5String or UTF8String. -/
def attrPrintableString (s : SignerInfo) (oid : Oid) : Except AttributeError Bytes :=
  s.attributeValue oid [19, 22, 12]

def attrOctetString (s : SignerInfo) (oid : Oid) : Except AttributeError Bytes :=
  s.attributeValue oid [4]

def getMessageType (s : SignerInfo) : Except AttributeError Int := do
  let text ← s.attrPrintableString oidSCEPMessageType
  orFail (decimalInt (text.map (fun b => Char.ofNat b.toNat))) (.messageTypeNotInteger text)

def getTransactionID (s : SignerInfo) : Except AttributeError Bytes :=
  s.attrPrintableString oidSCEPTransactionID

def getSenderNonce (s : SignerInfo) : Except AttributeError Bytes :=
  s.attrOctetString oidSCEPSenderNonce

def getMessageDigest (s : SignerInfo) : Except AttributeError Bytes :=
  s.attrOctetString oidMessageDigest

end SignerInfo

end Certctl.Source.Pkcs7
