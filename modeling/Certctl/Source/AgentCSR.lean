import Certctl.Source.Jobs.AgentScope
import Certctl.Source.Jobs.Profiles
import Certctl.Source.LocalIssuer

/-!
The request an agent submits, on its way through the key rules of the profile and the local
issuer. The rules look at the key alone. The issuer looks at the spelling of the names, and
puts the names of the request beside those of the managed certificate. PEM and PKCS#10
decoding, the Unicode classes and the signature are taken as given.

Source: internal/validation/unicode.go; internal/service/crypto_validation.go;
internal/connector/issuer/local/local.go.
-/
namespace Certctl.Source.AgentCSR

open Lib Source.Jobs Source.LocalIssuer

inductive PublicKey where
  | rsa (bitLen : Nat)
  | ecdsa (bitSize : Nat)
  | ed25519
  | other (typeName : String)

/-- A parsed request, with what the check of its own signature gives. -/
structure SignedRequest where
  names : CertificateRequest
  publicKey : PublicKey
  checkSignature : Except String Unit

/-- The type of the first PEM block, if there is one, and its content read as a request. -/
abbrev Decoder := String → Option (String × Except String SignedRequest)

structure CSRValidationResult where
  keyAlgorithm : String
  keySize : Int

def keyInfo : PublicKey → Except String CSRValidationResult
  | .rsa bitLen => .ok ⟨"RSA", bitLen⟩
  | .ecdsa bitSize => .ok ⟨"ECDSA", bitSize⟩
  | .ed25519 => .ok ⟨"Ed25519", 256⟩
  | .other typeName => .error ("unsupported key type in CSR: " ++ typeName)

def extractCSRKeyInfo (decode : Decoder) (csrPEM : String) : Except String CSRValidationResult :=
  match decode csrPEM with
  | none => .error "failed to decode CSR PEM"
  | some (_, .error e) => .error ("failed to parse CSR: " ++ e)
  | some (_, .ok csr) =>
    match csr.checkSignature with
    | .error e => .error ("CSR signature verification failed: " ++ e)
    | .ok () => keyInfo csr.publicKey

/-- The two columns of a profile that the key check reads. -/
structure KeyRules where
  name : String
  allowedKeyAlgorithms : List KeyAlgorithmRule

/-- The `%v` verb on the rules. -/
def rulesText (rules : List KeyAlgorithmRule) : String :=
  "[" ++ " ".intercalate (rules.map (fun rule =>
    "\x7b" ++ rule.algorithm ++ " " ++ String.ofList (decimal rule.minSize) ++ "\x7d")) ++ "]"

def admits (result : CSRValidationResult) (rule : KeyAlgorithmRule) : Bool :=
  decide (rule.algorithm = result.keyAlgorithm) && decide (result.keySize ≥ rule.minSize)

def validateCSRAgainstProfile (decode : Decoder) (csrPEM : String) (profile : Option KeyRules) :
    Except String CSRValidationResult :=
  match profile with
  | none => extractCSRKeyInfo decode csrPEM
  | some profile =>
    match extractCSRKeyInfo decode csrPEM with
    | .error e => .error e
    | .ok result =>
      if profile.allowedKeyAlgorithms.isEmpty ||
          profile.allowedKeyAlgorithms.any (admits result) then
        .ok result
      else
        .error ("CSR key (" ++ result.keyAlgorithm ++ " " ++
          String.ofList (decimal result.keySize) ++
          "-bit) does not match any allowed algorithm in profile " ++ quote profile.name ++ ": " ++
          rulesText profile.allowedKeyAlgorithms)

def isRTLOverride (r : Char) : Bool :=
  (decide (0x202A ≤ r.val) && decide (r.val ≤ 0x202E)) ||
    (decide (0x2066 ≤ r.val) && decide (r.val ≤ 0x2069))

def isZeroWidth (r : Char) : Bool :=
  (decide (0x200B ≤ r.val) && decide (r.val ≤ 0x200D)) || decide (r.val = 0x2060) ||
    decide (r.val = 0xFEFF)

def isControl (r : Char) : Bool :=
  decide (r.val < 0x20) || (decide (0x7F ≤ r.val) && decide (r.val ≤ 0x9F))

/-- The `%U` verb. -/
def codePoint (r : Char) : String :=
  "U+" ++ String.ofList ((hexPadded 4 r.toNat).map Char.toUpper)

/-- The first pass, with the byte offset of the rune. -/
def scanRunes (offset : Nat) : List Char → Except String Unit
  | [] => .ok ()
  | r :: rest =>
    let place := codePoint r ++ " at byte offset " ++ toString offset ++ " — refuse"
    if isRTLOverride r then
      .error ("contains bidirectional override character " ++ place ++
        " (potential reverse-rendering attack, CWE-1007)")
    else if isZeroWidth r then
      .error ("contains zero-width character " ++ place ++ " (hidden content, CWE-176)")
    else if isControl r then .error ("contains control character " ++ place)
    else scanRunes (offset + r.utf8Size) rest

/-- The first character outside ASCII that is a letter, a digit or a mark. -/
def foreignRune (isScript : Char → Bool) (offset : Nat) : List Char → Option (Char × Nat)
  | [] => none
  | r :: rest =>
    if r.val < 0x80 || !isScript r then foreignRune isScript (offset + r.utf8Size) rest
    else some (r, offset)

def validateLabelSingleScript (isScript : Char → Bool) (label : List Char) : Except String Unit :=
  if label.any (fun r => decide (r.val < 0x80)) then
    match foreignRune isScript 0 label with
    | none => .ok ()
    | some (r, offset) =>
      .error ("label " ++ quote (String.ofList label) ++
        " mixes ASCII with non-ASCII script character " ++ codePoint r ++ " at byte offset " ++
        toString offset ++ " — refuse (potential IDN homograph, CWE-1007)")
  else .ok ()

def validateUnicodeSafe (isScript : Char → Bool) (name : String) : Except String Unit := do
  scanRunes 0 name.toList
  (name.toList.splitOn '.').forM (validateLabelSingleScript isScript)

/-- One entry of a list of names, with the words put before a refusal. -/
def checkEntry (isScript : Char → Bool) (list : String) (name : String) : Except String Unit :=
  (validateUnicodeSafe isScript name).mapError (fun e =>
    list ++ " entry " ++ quote name ++ " rejected: " ++ e)

/-- IP names are not looked at. -/
def validateCSRUnicode (isScript : Char → Bool) (csr : CertificateRequest)
    (additionalSANs : List String) : Except String Unit := do
  (validateUnicodeSafe isScript csr.commonName).mapError (fun e =>
    "CSR Subject.CommonName rejected: " ++ e)
  csr.dnsNames.forM (checkEntry isScript "CSR DNSNames")
  csr.emailAddresses.forM (checkEntry isScript "CSR EmailAddresses")
  additionalSANs.forM (checkEntry isScript "request SANs")

/-- The local connector: its configuration, the CA key and chain, the signing and encoding of
a template, and the letters, digits and marks of the Unicode tables. -/
structure LocalCA where
  config : LocalIssuer.Config
  ensureCA : Except String Unit
  isScript : Char → Bool
  createCertificate : CertificateTemplate → PublicKey → Except String String
  resolveChainPEM : Except String String

/-- The profile's part of a renewal request. -/
structure Policy where
  ekus : List String
  maxTTLSeconds : Int
  mustStaple : Bool

/-- `RenewCertificate` of the local connector: the template it signs and what it returns. -/
def renewCertificate (ca : LocalCA) (decode : Decoder) (now : Time) (serialNum : Nat)
    (sans : List String) (csrPEM : String) (policy : Policy) :
    Except String (CertificateTemplate × Issuance) := do
  ca.ensureCA.mapError (fun e => "CA initialization failed: " ++ e)
  let block ← orFail (decode csrPEM) "invalid CSR PEM format"
  ensure (block.1 = "CERTIFICATE REQUEST") "invalid CSR PEM format"
  let csr ← block.2.mapError (fun e => "invalid CSR: " ++ e)
  csr.checkSignature.mapError (fun e => "CSR signature verification failed: " ++ e)
  validateCSRUnicode ca.isScript csr.names sans
  let generated := generateCertificate ca.config now serialNum csr.names sans policy.ekus
    policy.maxTTLSeconds policy.mustStaple
  let certPEM ← (ca.createCertificate generated.1 csr.publicKey).mapError (fun e =>
    "certificate generation failed: " ++ e)
  let chainPEM ← ca.resolveChainPEM.mapError (fun e => "chain assembly failed: " ++ e)
  return (generated.1,
    ⟨generated.2, generated.1.notBefore, generated.1.notAfter, certPEM, chainPEM⟩)

/-- An answer comes from a request that was read, and the template is made of its names. -/
theorem renewCertificate_ok {ca : LocalCA} {decode : Decoder} {now : Time} {serialNum : Nat}
    {sans : List String} {csrPEM : String} {policy : Policy} {template : CertificateTemplate}
    {issued : Issuance} (signed : renewCertificate ca decode now serialNum sans csrPEM policy =
      .ok (template, issued)) :
    ∃ csr, decode csrPEM = some ("CERTIFICATE REQUEST", .ok csr) ∧
      template = (generateCertificate ca.config now serialNum csr.names sans policy.ekus
        policy.maxTTLSeconds policy.mustStaple).1 := by
  obtain ⟨-, -, signed⟩ := bind_eq_ok.mp signed
  obtain ⟨block, read, signed⟩ := bind_eq_ok.mp signed
  obtain ⟨_, isRequest, signed⟩ := bind_eq_ok.mp signed
  obtain ⟨csr, parsed, signed⟩ := bind_eq_ok.mp signed
  obtain ⟨-, -, signed⟩ := bind_eq_ok.mp signed
  obtain ⟨-, -, signed⟩ := bind_eq_ok.mp signed
  obtain ⟨certPEM, -, signed⟩ := bind_eq_ok.mp signed
  obtain ⟨chainPEM, -, signed⟩ := bind_eq_ok.mp signed
  have kept : block.2 = .ok csr := by
    cases content : block.2 with
    | error e => simp [content, Except.mapError] at parsed
    | ok request =>
      rw [content] at parsed
      exact parsed
  refine ⟨csr, ?_, ?_⟩
  · rw [orFail_eq_ok.mp read, ← ensure_eq_ok.mp isRequest, ← kept]
  · exact (congrArg Prod.fst (Except.ok.inj signed)).symm

/-- The key rules of the profile row decide, on the two columns the job tables leave out. -/
def checkCSR (decode : Decoder) (rules : Profile → KeyRules) (csrPEM : String)
    (profile : Option Profile) : Except String Unit :=
  (validateCSRAgainstProfile decode csrPEM (profile.map rules)).map (fun _ => ())

def keyChecked (env : Env) (decode : Decoder) (rules : Profile → KeyRules) : Env :=
  { env with validateCSR := checkCSR decode rules }

section Completion

variable {env : Env} {db : DB} {cert : ManagedCertificate} {csrPEM : String}
  {reply : Except String Issuance}

/-- Every new version is the issuer's answer to the request. -/
def StoredBy (env : Env) (db : DB) (cert : ManagedCertificate) (csrPEM : String)
    (reply : Except String Issuance) (inv : Inventory) : Prop :=
  ∀ v ∈ inv.versions.rows, v ∈ db.inventory.versions.rows ∨ ∃ id createdAt issued,
    reply = .ok issued ∧ v = issuedVersion env id cert.id csrPEM createdAt issued

/-- Operations after the answer: no version is stored but of the answer. -/
def StoresOnly (env : Env) (cert : ManagedCertificate) (csrPEM : String) (issued : Issuance) :
    Op → Prop
  | .query (.createVersion v) =>
    ∃ id createdAt, v = issuedVersion env id cert.id csrPEM createdAt issued
  | .query (.updateCertificate _) => True
  | o => o.keepsInventory

variable {issued : Issuance}

theorem storedBy_exec (answered : reply = .ok issued) {s : DB} {o : Op}
    (only : StoresOnly env cert csrPEM issued o) (c : Choice)
    (before : StoredBy env db cert csrPEM reply s.inventory) :
    StoredBy env db cert csrPEM reply (exec env s o c).1.inventory := by
  refine exec_rely (fun _ after => StoredBy env db cert csrPEM reply after.inventory) before o ?_
  intro q s' value isQuery performed
  subst isQuery
  unfold StoresOnly at only
  split at only
  next v same =>
    cases same
    obtain ⟨id, createdAt, rfl⟩ := only
    simp only [perform] at performed
    split at performed
    next inv created =>
      cases performed
      intro w stored
      rw [(Inventory.createVersion_rows created).2.1, List.mem_append,
        List.mem_singleton] at stored
      obtain old | rfl := stored
      · exact before w old
      · exact .inr ⟨id, createdAt, issued, answered, rfl⟩
    · cases performed
  next image same =>
    cases same
    simp only [perform] at performed
    split at performed
    next inv updated =>
      cases performed
      intro w stored
      rw [Inventory.update_versions updated] at stored
      exact before w stored
    · cases performed
  · rw [(perform_frame performed).2.2.1 only]
    exact before

theorem storesOnly_of_keeps (o : Op) (keeps : o.keepsInventory) :
    StoresOnly env cert csrPEM issued o := by
  unfold StoresOnly
  split
  · cases keeps
  · trivial
  · exact keeps

/-- A completed job stores the issuer's answer to the request that was submitted. -/
theorem completeAgentCSRRenewal_storedBy (job : Job) (targetIDs : List String)
    {next : Except String Unit → Service} (ends : ∀ r, (next r).All Op.keepsInventory) :
    Alone env (fun _ _ c => decide (c.issuance = reply))
      (completeAgentCSRRenewal env job cert targetIDs csrPEM next)
      (fun _ db' => StoredBy env db cert csrPEM reply db'.inventory) db := by
  have start : StoredBy env db cert csrPEM reply db.inventory := fun v stored => .inl stored
  have fails : ∀ errMsg r s, StoredBy env db cert csrPEM reply s.inventory →
      Alone env (fun _ _ c => decide (c.issuance = reply)) (failJob job.id errMsg (next r))
        (fun _ db' => StoredBy env db cert csrPEM reply db'.inventory) s :=
    fun errMsg r s stored => alone_of_keeps ⟨rfl, fun _ => ends r⟩ stored
  unfold completeAgentCSRRenewal
  split
  · exact fails _ _ db start
  refine alone_withProfile csrPEM fun profile _ => ?_
  cases env.validateCSR csrPEM profile with
  | error e => exact fails _ _ db start
  | ok _ =>
    refine alone_updateStatus fun r s same => ?_
    have running : StoredBy env db cert csrPEM reply s.inventory := same.symm ▸ start
    cases r with
    | error e => exact alone_of_keeps (ends _) running
    | ok _ =>
      refine alone_issue (fun e => fails _ _ s running) fun c issued allowed answer => ?_
      have answered : reply = .ok issued := by
        rw [← of_decide_eq_true allowed, answer]
      refine Program.All.ensures
        (I := fun s' : DB => StoredBy env db cert csrPEM reply s'.inventory)
        (p := StoresOnly env cert csrPEM issued)
        (fun s' o c only _ before => storedBy_exec answered only c before) ?_ running
      have ends' : ∀ r, (next r).All (StoresOnly env cert csrPEM issued) :=
        fun r => (ends r).mono storesOnly_of_keeps
      have fails' : ∀ errMsg r, (failJob job.id errMsg (next r)).All
          (StoresOnly env cert csrPEM issued) := fun errMsg r => ⟨rfl, fun _ => ends' r⟩
      have deploys : Deploys (StoresOnly env cert csrPEM issued) job := by
        refine ⟨fun o read certs => ?_, fun _ _ => rfl, fun _ _ => rfl⟩
        exact storesOnly_of_keeps o (keepsInventory_of_read o read certs)
      simp only [Program.All, query, forall_except]
      refine ⟨trivial, fun id => ⟨trivial, fun createdAt => ⟨⟨id, createdAt, rfl⟩,
        fun _ => fails' _ _, fun _ => ⟨trivial, fun now => ⟨trivial, fun _ => fails' _ _,
        fun _ => finishRenewal_all deploys cert.id targetIDs ends'⟩⟩⟩⟩⟩

end Completion

end Certctl.Source.AgentCSR
