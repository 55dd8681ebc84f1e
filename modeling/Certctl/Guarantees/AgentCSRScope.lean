import Certctl.Guarantees.JobSamples
import Certctl.Source.AgentCSR

/-!
The names of a certificate an agent renews. The key rules see only the key of the submitted
request, and the local issuer merges the names of the request with the SANs of the managed
certificate. So the issued names are those of the managed certificate exactly if the
request brings no others, and no name is `localhost`, which the issuer takes for an address,
unless that address is declared too.
-/
namespace Certctl.Guarantees.AgentCSRScope

open Lib Source Source.Jobs Source.LocalIssuer
open Source.AgentCSR

/-- The common name and the SANs. -/
def declaredNames (cert : ManagedCertificate) : List String := cert.commonName :: cert.sans

def IsDeclared (u : UnicodeCase) (cert : ManagedCertificate) (name : String) : Prop :=
  ∃ declared ∈ declaredNames cert, toLower u name = toLower u declared

/-- The address a name spells. -/
def addressOf (name : String) : Option IP := (parseIPText name.toList).map IP.to4

/-- An address is declared by a name that spells it. -/
def IsDeclaredIP (cert : ManagedCertificate) (ip : IP) : Prop :=
  ∃ declared ∈ declaredNames cert, addressOf declared = some ip

/-- Every name of the certificate is a declared one. -/
structure Within (u : UnicodeCase) (cert : ManagedCertificate) (t : CertificateTemplate) :
    Prop where
  dns : ∀ name ∈ t.dnsNames, IsDeclared u cert name
  emails : ∀ email ∈ t.emailAddresses, IsDeclared u cert email
  ips : ∀ ip ∈ t.ipAddresses, IsDeclaredIP cert ip

/-- The DNS, IP and email names of the request, as the issuer collects them. -/
def requestedNames (csr : CertificateRequest) : List String :=
  csr.dnsNames ++ csr.ipAddresses.map (fun ip => String.ofList ip.text) ++ csr.emailAddresses

/-- The name is a declared one, as an address where it spells one. -/
def IsOwn (u : UnicodeCase) (cert : ManagedCertificate) (name : String) : Prop :=
  (addressOf name).elim (IsDeclared u cert name) (IsDeclaredIP cert)

/-- The request asks for no other names, and `localhost` is no name or the address it stands for
is declared. -/
structure OwnNames (u : UnicodeCase) (cert : ManagedCertificate) (csr : CertificateRequest) :
    Prop where
  own : ∀ name ∈ requestedNames csr, name ≠ "localhost" → IsOwn u cert name
  loopback : "localhost" ∈ requestedNames csr ∨ "localhost" ∈ cert.sans →
    IsDeclaredIP cert (.v4 127 0 0 1)

section Names

variable {u : UnicodeCase} {cert : ManagedCertificate} {csr : CertificateRequest} {name : String}

theorem mem_sanSet_sans :
    name ∈ sanSet csr cert.sans ↔ name ∈ requestedNames csr ∨ name ∈ cert.sans := by
  rw [mem_sanSet]
  simp only [requestedNames, List.mem_append, List.mem_map, or_assoc]

theorem parseIP_localhost : parseIP "localhost" = some (.v4 127 0 0 1) := if_pos rfl

theorem parseIP_of_ne (other : name ≠ "localhost") :
    parseIP name = addressOf name := if_neg other

theorem isOwn_of_san (declared : name ∈ cert.sans) : IsOwn u cert name := by
  have member : name ∈ declaredNames cert := List.mem_cons_of_mem _ declared
  unfold IsOwn
  cases read : addressOf name with
  | none => exact ⟨name, member, rfl⟩
  | some ip => exact ⟨name, member, read⟩

theorem within_iff_ownNames (cfg : LocalIssuer.Config) (now : Time) (serialNum : Nat)
    (ekus : List String) (maxTTLSeconds : Int) (mustStaple : Bool) :
    Within u cert (generateCertificate cfg now serialNum csr cert.sans ekus maxTTLSeconds
      mustStaple).1 ↔ OwnNames u cert csr := by
  constructor
  · refine fun within => ⟨fun name requested other => ?_, fun there => ?_⟩
    · have collected : name ∈ sanSet csr cert.sans := mem_sanSet_sans.mpr (.inl requested)
      rw [IsOwn, ← parseIP_of_ne other]
      cases read : parseIP name with
      | some ip => exact within.ips ip (List.mem_filterMap.mpr ⟨name, collected, read⟩)
      | none =>
        cases mailbox : isEmail name with
        | true =>
          exact within.emails name (List.mem_filter.mpr ⟨collected, by simp [read, mailbox]⟩)
        | false => exact within.dns name (List.mem_filter.mpr ⟨collected, by simp [read, mailbox]⟩)
    · exact within.ips _ (List.mem_filterMap.mpr
        ⟨"localhost", mem_sanSet_sans.mpr there, parseIP_localhost⟩)
  · intro names
    have ownAll : ∀ name ∈ sanSet csr cert.sans, name ≠ "localhost" → IsOwn u cert name := by
      intro name collected other
      obtain requested | declared := mem_sanSet_sans.mp collected
      · exact names.own name requested other
      · exact isOwn_of_san declared
    -- A name that is no address is declared by its text.
    have named : ∀ (kind : String → Bool), ∀ name ∈ (sanSet csr cert.sans).filter
        (fun san => (parseIP san).isNone && kind san), IsDeclared u cert name := by
      intro kind name placed
      obtain ⟨collected, sorted⟩ := List.mem_filter.mp placed
      rw [Bool.and_eq_true, Option.isNone_iff_eq_none] at sorted
      have other : name ≠ "localhost" := by
        rintro rfl
        cases parseIP_localhost.symm.trans sorted.1
      have isOwn := ownAll name collected other
      rwa [IsOwn, ← parseIP_of_ne other, sorted.1] at isOwn
    refine ⟨named _, named _, ?_⟩
    intro ip placed
    obtain ⟨name, collected, read⟩ := List.mem_filterMap.mp placed
    by_cases loopback : name = "localhost"
    · subst loopback
      cases parseIP_localhost.symm.trans read
      exact names.loopback (mem_sanSet_sans.mp collected)
    · have isOwn := ownAll name collected loopback
      rwa [IsOwn, ← parseIP_of_ne loopback, read] at isOwn

end Names

/-- The completion of a job by itself, with the key rules of the profile. -/
def complete (env : Env) (decode : Decoder) (rules : Profile → KeyRules) (choices : Nat → Choice)
    (job : Job) (cert : ManagedCertificate) (targetIDs : List String) (csrPEM : String) (db : DB) :
    DB :=
  (runCall (keyChecked env decode rules) choices 0
    (completeAgentCSRRenewal (keyChecked env decode rules) job cert targetIDs csrPEM answer) db).1

/-- A version the completion stores is the certificate the local issuer signed for the
submitted request. Its names are the managed certificate's exactly if the request asks for
no others and `localhost` brings in no address. -/
theorem stored_names_within_iff (u : UnicodeCase) (ca : LocalCA) (decode : Decoder)
    (rules : Profile → KeyRules) (env : Env) (job : Job) (cert : ManagedCertificate)
    (targetIDs : List String) (csrPEM : String) (db : DB) (choices : Nat → Choice) (now : Time)
    (serialNum : Nat) (policy : Policy)
    (answers : ∀ n, (choices n).issuance =
      (renewCertificate ca decode now serialNum cert.sans csrPEM policy).map Prod.snd)
    (v : CertificateVersion)
    (stored : v ∈ (complete env decode rules choices job cert targetIDs csrPEM
      db).inventory.versions.rows) (new : v ∉ db.inventory.versions.rows) :
    ∃ csr template issued, decode csrPEM = some ("CERTIFICATE REQUEST", .ok csr) ∧
      renewCertificate ca decode now serialNum cert.sans csrPEM policy = .ok (template, issued) ∧
      v.certificateID = cert.id ∧ v.pemChain = issued.certPEM ++ "\n" ++ issued.chainPEM ∧
      (Within u cert template ↔ OwnNames u cert csr.names) := by
  have run : StoredBy (keyChecked env decode rules) db cert csrPEM
      ((renewCertificate ca decode now serialNum cert.sans csrPEM policy).map Prod.snd)
      (complete env decode rules choices job cert targetIDs csrPEM db).inventory :=
    Alone.run (completeAgentCSRRenewal_storedBy job targetIDs answer_all)
      fun s o n => decide_eq_true (answers n)
  obtain old | ⟨id, createdAt, issued, answered, rfl⟩ := run v stored
  · exact absurd old new
  · cases signed : renewCertificate ca decode now serialNum cert.sans csrPEM policy with
    | error e =>
      rw [signed] at answered
      cases answered
    | ok result =>
      obtain ⟨template, issued'⟩ := result
      rw [signed] at answered
      obtain rfl : issued' = issued := Except.ok.inj answered
      obtain ⟨csr, read, rfl⟩ := renewCertificate_ok signed
      exact ⟨csr, _, issued', read, rfl, rfl, rfl, within_iff_ownNames ..⟩

section Exhibits

/-- A CA that signs whatever it is given. -/
def signingCA : LocalCA := ⟨⟨365, []⟩, .ok (), fun _ => false, fun _ _ => .ok "cert", .ok "ca"⟩

/-- A signed request with a P-256 key and the DNS names. -/
def requestFor (dnsNames : List String) : Decoder :=
  fun _ => some ("CERTIFICATE REQUEST",
    .ok ⟨⟨"www.example.com", dnsNames, [], []⟩, .ecdsa 256, .ok ()⟩)

def webRules : Profile → KeyRules := fun _ => ⟨"web", [⟨"ECDSA", 256⟩]⟩

def webCert : ManagedCertificate := plainCert "mc-1" .renewalInProgress "prof-1"

def webJob : Job := newJob "job-1" "mc-1" .renewal .awaitingCSR 0 0

def webStore : DB :=
  { DB.empty with
    inventory := ⟨⟨[webCert], List.nodup_singleton _⟩, .empty _⟩
    profiles := ⟨[plainProfile "prof-1" false], List.nodup_singleton _⟩
    jobs := ⟨[webJob], List.nodup_singleton _⟩ }

def webEnv : Env := { Env.plain with issuers := ["iss-1"] }

def webPolicy : Policy := ⟨[], 0, false⟩

def renewed (dnsNames : List String) : Except String (CertificateTemplate × Issuance) :=
  renewCertificate signingCA (requestFor dnsNames) 0 1 webCert.sans "csr" webPolicy

def webChoices (dnsNames : List String) : Nat → Choice :=
  fun _ => { Choice.plain with id := "cv-1", issuance := (renewed dnsNames).map Prod.snd }

def webComplete (dnsNames : List String) : DB :=
  complete webEnv (requestFor dnsNames) webRules (webChoices dnsNames) webJob webCert [] "csr"
    webStore

def webVersion : CertificateVersion :=
  ⟨"cv-1", "mc-1", "0000000000000000000000000000000000000001", 0, 365 * 86400000000000, "",
    "cert\nca", "csr", 0⟩

/-- A request for the declared name, spelled otherwise, stays within. -/
theorem stored_names_within_web : ∃ template issued,
    renewed ["WWW.example.com"] = .ok (template, issued) ∧ Within .basic webCert template := by
  have stored : (webComplete ["WWW.example.com"]).inventory.versions.rows.contains webVersion =
      true := by decide +kernel
  obtain ⟨csr, template, issued, read, signed, -, -, scope⟩ :=
    stored_names_within_iff .basic signingCA (requestFor ["WWW.example.com"]) webRules webEnv webJob
      webCert [] "csr" webStore (webChoices ["WWW.example.com"]) 0 1 webPolicy (fun _ => rfl)
      webVersion (List.contains_iff_mem.mp stored) (by simp [webStore, Table.empty])
  simp only [requestFor, Option.some.injEq, Prod.mk.injEq, Except.ok.injEq, true_and] at read
  subst read
  refine ⟨template, issued, signed, scope.mpr ⟨fun name requested _ => ?_, ?_⟩⟩
  on_goal 2 => simp [requestedNames, webCert, plainCert]
  obtain rfl : name = "WWW.example.com" := by simpa [requestedNames] using requested
  exact ⟨"www.example.com", List.mem_cons_self, by decide +kernel⟩

/-- The key passes the rules, the names pass the Unicode check, and the certificate is
issued and stored with a name that is not the managed certificate's. -/
theorem foreign_name_issued : ∃ template issued,
    renewed ["www.example.com", "bank.example"] = .ok (template, issued) ∧
    webVersion ∈ (webComplete ["www.example.com", "bank.example"]).inventory.versions.rows ∧
    webVersion ∉ webStore.inventory.versions.rows ∧
    webVersion.pemChain = issued.certPEM ++ "\n" ++ issued.chainPEM ∧
    ¬ Within .basic webCert template := by
  have stored : (webComplete ["www.example.com", "bank.example"]).inventory.versions.rows.contains
      webVersion = true := by decide +kernel
  refine ⟨_, _, rfl, List.contains_iff_mem.mp stored, by simp [webStore, Table.empty], rfl, ?_⟩
  intro within
  obtain ⟨declared, member, same⟩ := within.dns "bank.example" (by decide +kernel)
  obtain rfl : declared = "www.example.com" := List.mem_singleton.mp member
  exact absurd same (by decide +kernel)

end Exhibits

end Certctl.Guarantees.AgentCSRScope
