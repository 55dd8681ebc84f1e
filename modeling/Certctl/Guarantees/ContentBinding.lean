import Certctl.Source.Scep.Rfc8894
import Mathlib.Data.Option.Basic

/-!
What ties the content of a PKIMessage to its signature. The signature covers the signed
attributes, and of these only the messageDigest speaks of the content; the handler never
compares it. Acceptance therefore splits into a condition on the signer and one on the
content, and two contents that both open are accepted under one signature.
-/
namespace Certctl.Guarantees.ContentBinding

open Lib Lib.Der Source.Pkcs7 Source.Scep

variable {lib : PKILibrary} {h : SCEPHandler}

def Accepts (lib : PKILibrary) (h : SCEPHandler) (body : Der.Bytes) : Prop :=
  (tryParseRFC8894 lib h body).isSome = true

/-- The messageDigest attribute is the hash of the content. -/
def DigestMatches (lib : PKILibrary) (sd : SignedData) (si : SignerInfo) : Prop :=
  ∃ alg, hashAlgorithmForOID si.digestAlgorithm = some alg ∧
    si.getMessageDigest = .ok (lib.signatures.hash alg sd.encapContent)

/-- The body parses to the signed data, whose first signer is `si`. -/
structure Carries (lib : PKILibrary) (body : Der.Bytes) (sd : SignedData) (si : SignerInfo) :
    Prop where
  parsed : parseSignedData lib.signatures body = .ok sd
  first : sd.signerInfos.head? = some si

/-- The attributes are signed with the key of the certificate and name a message type and
a transaction. -/
structure SignerSound (lib : SignatureLibrary) (si : SignerInfo) : Prop where
  signed : verifySignature lib si = true
  messageType : ∃ messageType, si.getMessageType = .ok messageType
  transaction : ∃ transactionID, si.getTransactionID = .ok transactionID

/-- The content is an envelope for the RA with a certificate request in it. -/
def Opens (lib : PKILibrary) (h : SCEPHandler) (content : Der.Bytes) : Prop :=
  ∃ env csrDER attributes, parseEnvelopedData content = .ok env ∧
    env.decrypt lib.ciphers h.raKey h.raCert = some csrDER ∧
    lib.parseCertificateRequest csrDER = some attributes

variable {si : SignerInfo}

theorem requestEnvelope_isSome :
    (requestEnvelope lib.signatures si).isSome = true ↔ SignerSound lib.signatures si := by
  constructor
  · intro found
    obtain ⟨envelope, found⟩ := Option.isSome_iff_exists.mp found
    simp only [requestEnvelope, Option.bind_eq_bind, Option.bind_eq_some_iff,
      Option.guard_eq_some'] at found
    obtain ⟨_, signed, messageType, typed, transactionID, named, -⟩ := found
    exact ⟨signed, ⟨messageType, toOption_eq_some.mp typed⟩,
      ⟨transactionID, toOption_eq_some.mp named⟩⟩
  · rintro ⟨signed, ⟨messageType, typed⟩, ⟨transactionID, named⟩⟩
    simp [requestEnvelope, signed, typed, named, Except.toOption, guard]

variable {content body : Der.Bytes} {sd : SignedData}

theorem ne_nil_of_parseEnvelopedData {env : EnvelopedData}
    (parsed : parseEnvelopedData content = .ok env) : content ≠ [] := by
  obtain ⟨_, nonempty, -⟩ := bind_eq_ok.mp parsed
  exact ensure_eq_ok.mp nonempty

theorem openContent_isSome :
    (openContent lib h content).isSome = true ↔ Opens lib h content := by
  constructor
  · intro found
    obtain ⟨opened, found⟩ := Option.isSome_iff_exists.mp found
    simp only [openContent, Option.bind_eq_bind, Option.bind_eq_some_iff] at found
    obtain ⟨_, -, env, parsed, csrDER, decrypted, attributes, request, -⟩ := found
    exact ⟨env, csrDER, attributes, toOption_eq_some.mp parsed, decrypted, request⟩
  · rintro ⟨env, csrDER, attributes, parsed, decrypted, request⟩
    simp [openContent, ne_nil_of_parseEnvelopedData parsed, parsed, decrypted, request,
      Except.toOption, guard]

/-- Acceptance asks something of the signer and something of the content, and nothing of
the two together. -/
theorem accepts_iff (carries : Carries lib body sd si) :
    Accepts lib h body ↔ SignerSound lib.signatures si ∧ Opens lib h sd.encapContent := by
  rw [← requestEnvelope_isSome, ← openContent_isSome, Accepts, tryParseRFC8894, carries.parsed]
  simp only [Except.toOption, Option.bind_eq_bind, Option.bind_some, carries.first]
  cases requestEnvelope lib.signatures si with
  | none => simp
  | some envelope =>
    cases openContent lib h sd.encapContent with
    | none => simp
    | some opened => simp

/-- The comparison would bind the content: under an ideal hash one signer's digest fits at
most one content. -/
theorem content_eq_of_digestMatches (ideal : ∀ alg, Function.Injective (lib.signatures.hash alg))
    {sd₁ sd₂ : SignedData} (match₁ : DigestMatches lib sd₁ si) (match₂ : DigestMatches lib sd₂ si) :
    sd₁.encapContent = sd₂.encapContent := by
  obtain ⟨alg, named, digest⟩ := match₁
  obtain ⟨alg', named', digest'⟩ := match₂
  rw [named] at named'
  cases named'
  rw [digest] at digest'
  exact ideal alg (Except.ok.inj digest')

/-- Two bodies with one first signer and different contents are not both accepted exactly
when the signer is refused or a content does not open; a body is accepted only with its
digest exactly when the digest fits or one of these refuses it. Were digests compared, only
one of the two contents could pass. -/
theorem content_bound_iff (ideal : ∀ alg, Function.Injective (lib.signatures.hash alg))
    {b₁ b₂ : Der.Bytes} {sd₁ sd₂ : SignedData} {si : SignerInfo} (carries₁ : Carries lib b₁ sd₁ si)
    (carries₂ : Carries lib b₂ sd₂ si) (differ : sd₁.encapContent ≠ sd₂.encapContent) :
    (¬ (Accepts lib h b₁ ∧ Accepts lib h b₂) ↔
      ¬ SignerSound lib.signatures si ∨ ¬ Opens lib h sd₁.encapContent ∨
        ¬ Opens lib h sd₂.encapContent) ∧
    ((Accepts lib h b₁ → DigestMatches lib sd₁ si) ↔
      DigestMatches lib sd₁ si ∨ ¬ SignerSound lib.signatures si ∨
        ¬ Opens lib h sd₁.encapContent) ∧
    ¬ (DigestMatches lib sd₁ si ∧ DigestMatches lib sd₂ si) := by
  rw [accepts_iff carries₁, accepts_iff carries₂]
  refine ⟨by tauto, by tauto, ?_⟩
  rintro ⟨match₁, match₂⟩
  exact differ (content_eq_of_digestMatches ideal match₁ match₂)

/-- Whoever sees an accepted message can put any other content that opens under its
signature. -/
theorem exists_accepted_content
    (carries : Carries lib body sd si) (accepted : Accepts lib h body) (opens : Opens lib h content)
    (bound : body.length + content.length < 268435456) :
    ∃ body', Carries lib body' { sd with encapContent := content } si ∧ Accepts lib h body' := by
  obtain ⟨body', parsed⟩ := exists_message_content carries.parsed bound
  have carries' : Carries lib body' { sd with encapContent := content } si :=
    ⟨parsed, carries.first⟩
  exact ⟨body', carries', (accepts_iff carries').mpr ⟨((accepts_iff carries).mp accepted).1, opens⟩⟩

section Instances

/-! A library in which hashing and decryption leave the bytes as they are and a signature is
the digest under the key, for concrete messages. -/

def deviceCert : Certificate := ⟨[0x30, 0x01, 0x07], 7, [0x30, 0x00], [], .rsa [0x07]⟩

def openLibrary : PKILibrary where
  signatures :=
    { hash := fun _ data => data
      rsaVerifyPKCS1v15 := fun key _ digest signature => decide (signature = key ++ digest)
      ecdsaVerifyASN1 := fun _ _ _ => false
      parseCertificate := fun der => if der = deviceCert.raw then some deviceCert else none }
  ciphers :=
    { rsaDecryptPKCS1v15 := fun _ encrypted => some encrypted
      aesBlock := fun _ block => (block ++ List.replicate 16 0).take 16
      tripleDESBlock := fun _ block => (block ++ List.replicate 8 0).take 8
      length_aesBlock := by
        intro key block
        simp
      length_tripleDESBlock := by
        intro key block
        simp }
  parseCertificateRequest := fun der => if der = [] then none else some []
  encodeRequestPEM := fun der => String.ofList (der.map (fun b => Char.ofNat b.toNat))

theorem openLibrary_ideal (alg : HashAlgorithm) :
    Function.Injective (openLibrary.signatures.hash alg) := fun _ _ same => same

def ra : SCEPHandler := ⟨⟨[], 1, [0x30, 0x00], [], .rsa []⟩, .rsa []⟩

def der (tag : UInt8) (parts : List Der.Bytes) : Der.Bytes := asn1Wrap tag parts.flatten

def smallInteger (n : UInt8) : Der.Bytes := [0x02, 0x01, n]

def rsaEncryption : Der.Bytes :=
  der 0x30 [[0x06, 0x09, 0x2a, 0x86, 0x48, 0x86, 0xf7, 0x0d, 0x01, 0x01, 0x01]]

def sha256 : Der.Bytes :=
  der 0x30 [[0x06, 0x09, 0x60, 0x86, 0x48, 0x01, 0x65, 0x03, 0x04, 0x02, 0x01]]

/-- AES-128-CBC with the zero vector. -/
def aes128 : Der.Bytes :=
  der 0x30 [[0x06, 0x09, 0x60, 0x86, 0x48, 0x01, 0x65, 0x03, 0x04, 0x01, 0x02],
    der 0x04 [List.replicate 16 0]]

def data : Der.Bytes := [0x06, 0x09, 0x2a, 0x86, 0x48, 0x86, 0xf7, 0x0d, 0x01, 0x07, 0x01]

/-- An envelope for the RA around a one-byte request. -/
def envelope (request : UInt8) : Der.Bytes :=
  der 0x30 [smallInteger 0,
    der 0x31 [der 0x30 [smallInteger 0, der 0x30 [[0x30, 0x00], smallInteger 1], rsaEncryption,
      der 0x04 [List.replicate 16 0]]],
    der 0x30 [data, aes128, der 0x80 [request :: List.replicate 15 15]]]

def scepAttribute (arc : UInt8) (value : Der.Bytes) : Der.Bytes :=
  der 0x30 [[0x06, 0x0a, 0x60, 0x86, 0x48, 0x01, 0x86, 0xf8, 0x45, 0x01, 0x09, arc],
    der 0x31 [value]]

/-- PKCSReq in transaction `t`, with the digest of the envelope around request 1. -/
def signedAttributes : Der.Bytes :=
  (scepAttribute 2 (der 0x13 [[0x31, 0x39]]) ++ scepAttribute 7 (der 0x13 [[0x74]])) ++
    der 0x30 [[0x06, 0x09, 0x2a, 0x86, 0x48, 0x86, 0xf7, 0x0d, 0x01, 0x09, 0x04],
      der 0x31 [der 0x04 [envelope 1]]]

def signerInfo : Der.Bytes :=
  der 0x30 [smallInteger 1, der 0x30 [[0x30, 0x00], smallInteger 7], sha256,
    der 0xa0 [signedAttributes], rsaEncryption,
    der 0x04 [0x07 :: asn1Wrap 0x31 signedAttributes]]

/-- The message with the given content and always the same certificate and signer. -/
def message (content : Der.Bytes) : Der.Bytes :=
  der 0x30 [smallInteger 1, der 0x31 [], der 0x30 [data, der 0xa0 [der 0x04 [content]]],
    der 0xa0 [deviceCert.raw], der 0x31 [signerInfo]]

def setValue (value : Der.Bytes) : RawValue := ⟨.universal, 17, true, value, der 0x31 [value]⟩

def firstSigner : SignerInfo where
  version := 1
  signerCert := deviceCert
  authAttributes :=
    [(oidSCEPMessageType, setValue (der 0x13 [[0x31, 0x39]])),
      (oidSCEPTransactionID, setValue (der 0x13 [[0x74]])),
      (oidMessageDigest, setValue (der 0x04 [envelope 1]))]
  rawSignedAttrs := signedAttributes
  digestAlgorithm := oidSHA256
  signatureAlgorithm := oidRSAEncryption
  signature := 0x07 :: asn1Wrap 0x31 signedAttributes

def signedData (content : Der.Bytes) : SignedData :=
  ⟨1, [], [1, 2, 840, 113549, 1, 7, 1], content, [deviceCert], [firstSigner]⟩

theorem certificates_signedData (content : Der.Bytes) :
    (signedData content).certificates = [deviceCert] := rfl

theorem carries_message_one :
    Carries openLibrary (message (envelope 1)) (signedData (envelope 1)) firstSigner :=
  ⟨by decide +kernel, rfl⟩

theorem carries_message_two :
    Carries openLibrary (message (envelope 2)) (signedData (envelope 2)) firstSigner :=
  ⟨by decide +kernel, rfl⟩

/-- A content that is no envelope does not go through under the signature. -/
theorem content_bound_plainContent :
    Accepts openLibrary ra (message (envelope 1)) ∧
      ¬ (Accepts openLibrary ra (message (envelope 1)) ∧
        Accepts openLibrary ra (message [0x05])) := by
  have carries : Carries openLibrary (message [0x05]) (signedData [0x05]) firstSigner :=
    ⟨by decide +kernel, rfl⟩
  have closed : ¬ Opens openLibrary ra [0x05] := by
    rw [← openContent_isSome]
    decide +kernel
  refine ⟨by unfold Accepts; decide +kernel, ?_⟩
  exact (content_bound_iff openLibrary_ideal carries_message_one carries (by decide +kernel)).1.mpr
    (.inr (.inr closed))

/-- The content of a signed message is exchanged; both messages are accepted, although the
signed digest fits only the first. -/
theorem content_swapped :
    (Carries openLibrary (message (envelope 1)) (signedData (envelope 1)) firstSigner ∧
      Carries openLibrary (message (envelope 2)) (signedData (envelope 2)) firstSigner) ∧
    (signedData (envelope 1)).certificates = (signedData (envelope 2)).certificates ∧
    (signedData (envelope 1)).encapContent ≠ (signedData (envelope 2)).encapContent ∧
    (Accepts openLibrary ra (message (envelope 1)) ∧
      Accepts openLibrary ra (message (envelope 2))) ∧
    DigestMatches openLibrary (signedData (envelope 1)) firstSigner ∧
    ¬ DigestMatches openLibrary (signedData (envelope 2)) firstSigner := by
  have differ :
      (signedData (envelope 1)).encapContent ≠ (signedData (envelope 2)).encapContent := by
    decide +kernel
  have fits : DigestMatches openLibrary (signedData (envelope 1)) firstSigner :=
    ⟨.sha256, by decide, by decide +kernel⟩
  refine ⟨⟨carries_message_one, carries_message_two⟩, ?_, differ, ?_, fits, fun again => ?_⟩
  · rw [certificates_signedData, certificates_signedData]
  · unfold Accepts
    decide +kernel
  · exact differ (content_eq_of_digestMatches openLibrary_ideal fits again)

/-- The signer of request 1 is made to ask for request 2. -/
theorem exists_accepted_two : ∃ body', Carries openLibrary body' (signedData (envelope 2))
    firstSigner ∧ Accepts openLibrary ra body' :=
  exists_accepted_content carries_message_one (by unfold Accepts; decide +kernel)
    (openContent_isSome.mp (by decide +kernel)) (by decide +kernel)

end Instances

end Certctl.Guarantees.ContentBinding
