import Certctl.Source.Pkcs7.SignedData

/-!
CMS EnvelopedData: the parser, the choice of the recipient, and decryption with its
padding check, whose arithmetic on bytes is kept as it is written. The private-key
operation and the block ciphers are parameters.

Source: internal/pkcs7/envelopeddata.go, envelopeddata_builder.go.
-/
namespace Certctl.Source.Pkcs7

open Lib Lib.Der

def oidEnvelopedData : Oid := [1, 2, 840, 113549, 1, 7, 3]

def oidAES128CBC : Oid := [2, 16, 840, 1, 101, 3, 4, 1, 2]

def oidAES192CBC : Oid := [2, 16, 840, 1, 101, 3, 4, 1, 22]

def oidAES256CBC : Oid := [2, 16, 840, 1, 101, 3, 4, 1, 42]

def oidDESEDE3CBC : Oid := [1, 2, 840, 113549, 3, 7]

structure IssuerAndSerial where
  issuerRaw : RawValue
  serialNumber : Int

structure KeyTransRecipientInfo where
  version : Int
  issuerAndSerial : IssuerAndSerial
  keyEncryptionAlg : AlgorithmIdentifier
  encryptedKey : Bytes

structure EnvelopedData where
  version : Int
  recipientInfos : List KeyTransRecipientInfo
  contentEncryptionAlg : AlgorithmIdentifier
  encryptedContent : Bytes

structure EnvelopedDataASN1 where
  version : Int
  recipientInfos : List RawValue
  contentEncryptionAlg : AlgorithmIdentifier
  encryptedContent : RawValue

def encryptedContentInfoASN1 (input : Bytes) :
    Except DerError (AlgorithmIdentifier × RawValue) := do
  let (_, input) ← objectIdentifier input
  let (algorithm, input) ← algorithmIdentifier input
  let (encryptedContent, _) ← optionalImplicit 0 input
  return (algorithm, encryptedContent)

def envelopedDataASN1 (input : Bytes) : Except DerError EnvelopedDataASN1 := do
  let (version, input) ← Der.integer input
  let (recipientInfos, input) ← setOfRaw input
  let ((algorithm, encryptedContent), input) ← Der.sequence encryptedContentInfoASN1 input
  let _ ← optionalImplicit 1 input
  return ⟨version, recipientInfos, algorithm, encryptedContent⟩

/-- Version, recipient identifier, algorithm and encrypted key. -/
def keyTransRecipientInfoASN1 (input : Bytes) :
    Except DerError (Int × RawValue × AlgorithmIdentifier × Bytes) := do
  let (version, input) ← Der.integer input
  let (rid, input) ← rawValue input
  let (algorithm, input) ← algorithmIdentifier input
  let (encryptedKey, _) ← octetString input
  return (version, rid, algorithm, encryptedKey)

/-- Members of the set that are of another kind are skipped. -/
def parseRecipientInfo (ri : RawValue) : Option KeyTransRecipientInfo :=
  if ri.tagClass = .universal ∧ ri.tag = 16 then do
    let ((version, rid, algorithm, encryptedKey), _) ←
      (Der.sequence keyTransRecipientInfoASN1 ri.fullBytes).toOption
    let ((issuer, serialNumber), _) ← (Der.sequence issuerAndSerialASN1 rid.fullBytes).toOption
    return ⟨version, ⟨issuer, serialNumber⟩, algorithm, encryptedKey⟩
  else none

inductive EnvelopedDataError where
  | emptyInput
  | outerSequence (cause : DerError)
  | noRecipient
  | emptyEncryptedContent

def parseEnvelopedData (der : Bytes) : Except EnvelopedDataError EnvelopedData := do
  ensure (der ≠ []) .emptyInput
  let (raw, _) ← (Der.sequence envelopedDataASN1
    ((peelContentInfo der oidEnvelopedData).getD der)).mapError .outerSequence
  let recipientInfos := raw.recipientInfos.filterMap parseRecipientInfo
  ensure (recipientInfos ≠ []) .noRecipient
  let encryptedContent :=
    if raw.encryptedContent.tagClass = .contextSpecific then raw.encryptedContent.bytes else []
  ensure (encryptedContent ≠ []) .emptyEncryptedContent
  return ⟨raw.version, recipientInfos, raw.contentEncryptionAlg, encryptedContent⟩

inductive PrivateKey where
  | rsa (key : Bytes)
  | other

/-- The inverse block functions take a key and a block and return a block. -/
structure CipherLibrary where
  rsaDecryptPKCS1v15 : Bytes → Bytes → Option Bytes
  aesBlock : Bytes → Bytes → Bytes
  tripleDESBlock : Bytes → Bytes → Bytes
  length_aesBlock : ∀ key block, (aesBlock key block).length = 16
  length_tripleDESBlock : ∀ key block, (tripleDESBlock key block).length = 8

inductive CBCError where
  | unsupportedAlgorithm (oid : Oid)
  | keySize (length : Nat)
  | ivLength (length blockSize : Nat)
  | ciphertextLength (length blockSize : Nat)
  | plaintextEmpty
  | invalidPadding

/-- Block size and inverse block function under the key. -/
def newCipher (lib : CipherLibrary) (algorithm : Oid) (key : Bytes) :
    Except CBCError (Nat × (Bytes → Bytes)) := do
  if algorithm = oidAES128CBC ∨ algorithm = oidAES192CBC ∨ algorithm = oidAES256CBC then
    ensure (key.length ∈ [16, 24, 32]) (.keySize key.length)
    return (16, lib.aesBlock key)
  else if algorithm = oidDESEDE3CBC then
    ensure (key.length = 24) (.keySize key.length)
    return (8, lib.tripleDESBlock key)
  else .error (.unsupportedAlgorithm algorithm)

/-- CBC mode over the given number of blocks. -/
def cryptBlocks (decrypt : Bytes → Bytes) (blockSize : Nat) : Nat → Bytes → Bytes → Bytes
  | 0, _, _ => []
  | n + 1, previous, input =>
    List.zipWith (fun a b => a ^^^ b) (decrypt (input.take blockSize)) previous ++
      cryptBlocks decrypt blockSize n (input.take blockSize) (input.drop blockSize)

/-- The padding of the builder: a whole block when nothing is missing. -/
def pkcs7Pad (input : Bytes) (blockSize : Nat) : Bytes :=
  let padLen := blockSize - input.length % blockSize
  input ++ List.replicate padLen (UInt8.ofNat padLen)

/-- All ones when `i` is past the padding, else zero; then flipped. -/
def inWindow (pad : UInt8) (i : Nat) : UInt8 :=
  ~~~ UInt8.ofInt (((pad.toNat : Int) - i) >>> (31 : Nat))

/-- One when the padding length is zero or more than a block. -/
def padTooBig (blockSize : Nat) (pad : UInt8) : UInt8 :=
  (UInt8.ofInt ((pad.toNat : Int) - 1) >>> 7) |||
    (UInt8.ofInt (((blockSize : Int) - pad.toNat) >>> (31 : Nat)) &&& 0x01)

/-- The accumulator of the padding check: zero when nothing is wrong. -/
def paddingFault (blockSize : Nat) (plaintext : Bytes) (pad : UInt8) : UInt8 :=
  (List.range' 1 (min blockSize plaintext.length)).foldl
    (fun bad i => bad ||| (inWindow pad i &&& (plaintext.getD (plaintext.length - i) 0 ^^^ pad)))
    (padTooBig blockSize pad)

def unpad (blockSize : Nat) (plaintext : Bytes) : Except CBCError Bytes := do
  let pad ← orFail plaintext.getLast? .plaintextEmpty
  ensure (paddingFault blockSize plaintext pad = 0) .invalidPadding
  return plaintext.take (plaintext.length - pad.toNat)

def decryptCBC (lib : CipherLibrary) (alg : AlgorithmIdentifier) (key ciphertext : Bytes) :
    Except CBCError Bytes := do
  let iv := alg.parameters.bytes
  let (blockSize, decrypt) ← newCipher lib alg.algorithm key
  ensure (iv.length = blockSize) (.ivLength iv.length blockSize)
  ensure (ciphertext ≠ [] ∧ ciphertext.length % blockSize = 0)
    (.ciphertextLength ciphertext.length blockSize)
  unpad blockSize (cryptBlocks decrypt blockSize (ciphertext.length / blockSize) iv ciphertext)

/-- Every failure is the one error `envelopedData: decrypt failed`. -/
def EnvelopedData.decrypt (lib : CipherLibrary) (e : EnvelopedData) (raKey : PrivateKey)
    (raCert : Certificate) : Option Bytes := do
  match raKey with
  | .other => none
  | .rsa key =>
    let ktri ← e.recipientInfos.find? (fun ri =>
      ri.issuerAndSerial.issuerRaw.fullBytes = raCert.rawIssuer ∧
        ri.issuerAndSerial.serialNumber = raCert.serialNumber)
    guard (ktri.keyEncryptionAlg.algorithm = oidRSAEncryption)
    let symKey ← lib.rsaDecryptPKCS1v15 key ktri.encryptedKey
    (decryptCBC lib e.contentEncryptionAlg symKey e.encryptedContent).toOption

end Certctl.Source.Pkcs7
