import Certctl.Source.Acme.Order
import Certctl.Source.LocalIssuer

/-!
The names of an issued certificate against the identifiers of its order. The matcher
compares the common name and the DNS names of the request with the values typed
`dns`; the issuer then merges the DNS, IP and email names of the request with those
values and sorts every string anew. The two agree exactly on plain names.
-/
namespace Certctl.Guarantees.IssuanceScope

open Lib Source Source.Acme Source.LocalIssuer

def IsIdentifier (u : UnicodeCase) (ids : List Identifier) (name : String) : Prop :=
  ∃ id ∈ ids, toLower u name = toLower u id.value

/-- Every name of the template is an identifier of the order, and every identifier
is among its DNS names. -/
structure InScope (u : UnicodeCase) (ids : List Identifier) (t : CertificateTemplate) : Prop where
  dns : ∀ name ∈ t.dnsNames, IsIdentifier u ids name
  ips : ∀ ip ∈ t.ipAddresses, IsIdentifier u ids (String.ofList ip.text)
  emails : ∀ email ∈ t.emailAddresses, IsIdentifier u ids email
  complete : ∀ id ∈ ids, id.value ∈ t.dnsNames

/-- The strings the issuer sorts when the request has no IP names. -/
def requestNames (ids : List Identifier) (csr : CertificateRequest) : List String :=
  csr.dnsNames ++ csr.emailAddresses ++ dnsValues ids

/-- No IP names in the request, no name that the issuer takes for an address or a
mailbox, no mailbox outside the order, and no identifier under another spelling of
the type that is not also among the names. -/
structure PlainNames (u : UnicodeCase) (ids : List Identifier) (csr : CertificateRequest) :
    Prop where
  noIPs : csr.ipAddresses = []
  plain : ∀ s ∈ requestNames ids csr, parseIP s = none ∧ isEmail s = false
  mailboxes : ∀ email ∈ csr.emailAddresses, IsIdentifier u ids email
  typed : ∀ id ∈ ids, id.type ≠ "dns" → id.value ∈ requestNames ids csr

section

variable {u : UnicodeCase} {ids : List Identifier} {csr : CertificateRequest}
  {cfg : LocalIssuer.Config} {now : Time} {serialNum : Nat} {ekus : List String}
  {maxTTLSeconds : Int} {mustStaple : Bool} {s : String}

theorem mem_dnsNames {sans : List String} :
    s ∈ (generateCertificate cfg now serialNum csr sans ekus maxTTLSeconds mustStaple).1.dnsNames ↔
      s ∈ sanSet csr sans ∧ parseIP s = none ∧ isEmail s = false := by
  simp [generateCertificate]

variable (scope : InScope u ids (generateCertificate cfg now serialNum csr (dnsValues ids) ekus
  maxTTLSeconds mustStaple).1)

include scope in
/-- A template in scope carries no address at all: an identifier that spells one
would have to be a DNS name of the template as well. -/
theorem InScope.parseIP_none (member : s ∈ sanSet csr (dnsValues ids)) :
    parseIP s = none := by
  cases parsed : parseIP s with
  | none => rfl
  | some ip =>
    have placed : ip ∈ (generateCertificate cfg now serialNum csr (dnsValues ids) ekus
        maxTTLSeconds mustStaple).1.ipAddresses := List.mem_filterMap.mpr ⟨s, member, parsed⟩
    obtain ⟨id, inOrder, same⟩ := scope.ips ip placed
    obtain ⟨read, isAddress⟩ := parseIP_of_lower_eq same.symm
    have notAddress := (mem_dnsNames.mp (scope.complete id inOrder)).2.1
    rw [isAddress] at notAddress
    cases notAddress

include scope in
theorem InScope.isEmail_false (member : s ∈ sanSet csr (dnsValues ids)) :
    isEmail s = false := by
  cases email : isEmail s with
  | false => rfl
  | true =>
    have placed : s ∈ (generateCertificate cfg now serialNum csr (dnsValues ids) ekus
        maxTTLSeconds mustStaple).1.emailAddresses := by
      simp [generateCertificate, member, scope.parseIP_none member, email]
    obtain ⟨id, inOrder, same⟩ := scope.emails s placed
    have notEmail := (mem_dnsNames.mp (scope.complete id inOrder)).2.2
    rw [← isEmail_of_lower_eq same, email] at notEmail
    cases notEmail

include scope in
theorem InScope.noIPs : csr.ipAddresses = [] := by
  rw [List.eq_nil_iff_forall_not_mem]
  intro ip requested
  have member : String.ofList ip.text ∈ sanSet csr (dnsValues ids) :=
    mem_sanSet.mpr (.inr (.inl ⟨ip, requested, rfl⟩))
  obtain ⟨read, parsed⟩ := parseIP_text ip
  rw [scope.parseIP_none member] at parsed
  cases parsed

theorem mem_sanSet_iff (noIPs : csr.ipAddresses = []) :
    s ∈ sanSet csr (dnsValues ids) ↔ s ∈ requestNames ids csr := by
  rw [mem_sanSet, noIPs]
  simp [requestNames]

theorem isIdentifier_of_matched (matched : csrMatchesIdentifiers u csr ids = none) {name : String}
    (requested : name ∈ csr.dnsNames) : IsIdentifier u ids name := by
  have sets := (csrMatchesIdentifiers_none_iff u csr ids).mp matched (toLower u name)
  have inOrder := sets.mp (mem_csrNameSet.mpr (.inr ⟨name, requested, rfl⟩))
  obtain ⟨v, value, same⟩ := mem_orderNameSet.mp inOrder
  obtain ⟨id, member, _, rfl⟩ := mem_dnsValues.mp value
  exact ⟨id, member, same.symm⟩

theorem PlainNames.isIdentifier (plain : PlainNames u ids csr)
    (matched : csrMatchesIdentifiers u csr ids = none)
    (member : s ∈ requestNames ids csr) : IsIdentifier u ids s := by
  simp only [requestNames, List.mem_append] at member
  rcases member with (dns | email) | value
  · exact isIdentifier_of_matched matched dns
  · exact plain.mailboxes s email
  · obtain ⟨id, inOrder, _, rfl⟩ := mem_dnsValues.mp value
    exact ⟨id, inOrder, rfl⟩

end

/-- For a matched request the certificate stays within the order exactly when the
names are plain. -/
theorem inScope_iff_plainNames (u : UnicodeCase) (ids : List Identifier) (csr : CertificateRequest)
    (cfg : LocalIssuer.Config) (now : Time) (serialNum : Nat) (ekus : List String)
    (maxTTLSeconds : Int) (mustStaple : Bool)
    (matched : csrMatchesIdentifiers u csr ids = none) :
    InScope u ids (generateCertificate cfg now serialNum csr (dnsValues ids) ekus maxTTLSeconds
      mustStaple).1 ↔ PlainNames u ids csr := by
  constructor
  · intro scope
    have noIPs := scope.noIPs
    have plain {s : String} (member : s ∈ requestNames ids csr) :
        parseIP s = none ∧ isEmail s = false := by
      have sorted := (mem_sanSet_iff noIPs).mpr member
      exact ⟨scope.parseIP_none sorted, scope.isEmail_false sorted⟩
    refine ⟨noIPs, fun s member => plain member, ?_, ?_⟩
    · intro email requested
      have member : email ∈ requestNames ids csr := by simp [requestNames, requested]
      exact scope.dns email (mem_dnsNames.mpr ⟨(mem_sanSet_iff noIPs).mpr member, plain member⟩)
    · intro id inOrder _
      exact (mem_sanSet_iff noIPs).mp (mem_dnsNames.mp (scope.complete id inOrder)).1
  · intro plain
    have sorted {s : String} : s ∈ sanSet csr (dnsValues ids) ↔ s ∈ requestNames ids csr :=
      mem_sanSet_iff plain.noIPs
    refine ⟨?_, ?_, ?_, ?_⟩
    · intro name placed
      exact plain.isIdentifier matched (sorted.mp (mem_dnsNames.mp placed).1)
    · intro ip placed
      obtain ⟨s, member, parsed⟩ := List.mem_filterMap.mp placed
      rw [(plain.plain s (sorted.mp member)).1] at parsed
      cases parsed
    · intro email placed
      obtain ⟨member, _⟩ := List.mem_filter.mp placed
      exact plain.isIdentifier matched (sorted.mp member)
    · intro id inOrder
      have member : id.value ∈ requestNames ids csr := by
        by_cases dns : id.type = "dns"
        · have value : id.value ∈ dnsValues ids := mem_dnsValues.mpr ⟨id, inOrder, dns, rfl⟩
          simp [requestNames, value]
        · exact plain.typed id inOrder dns
      exact mem_dnsNames.mpr ⟨sorted.mpr member, plain.plain _ member⟩

def webOrder : List Identifier := [⟨"dns", "web.example"⟩]

/-- The request of an honest client. -/
def webRequest : CertificateRequest := ⟨"WEB.example", ["web.example"], [], []⟩

/-- The same request with a mailbox of another domain among its names. -/
def mailboxRequest : CertificateRequest :=
  { webRequest with emailAddresses := ["ceo@corp.example"] }

def yearConfig : LocalIssuer.Config := ⟨365, []⟩

theorem inScope_webRequest : csrMatchesIdentifiers .basic webRequest webOrder = none ∧
    InScope .basic webOrder
      (generateCertificate yearConfig 0 1 webRequest (dnsValues webOrder) [] 0 false).1 := by
  have matched : csrMatchesIdentifiers .basic webRequest webOrder = none := by decide +kernel
  refine ⟨matched, (inScope_iff_plainNames .basic webOrder webRequest yearConfig 0 1 [] 0 false
    matched).mpr ⟨rfl, by decide +kernel, ?_, by decide +kernel⟩⟩
  intro email requested
  cases requested

/-- The matcher accepts the request with the foreign mailbox, and the certificate
carries it. -/
theorem mailbox_out_of_scope : validateIdentifiers .basic webOrder = [] ∧
    csrMatchesIdentifiers .basic mailboxRequest webOrder = none ∧
    ¬ InScope .basic webOrder
      (generateCertificate yearConfig 0 1 mailboxRequest (dnsValues webOrder) [] 0 false).1 := by
  refine ⟨by decide +kernel, by decide +kernel, ?_⟩
  intro scope
  have placed : "ceo@corp.example" ∈ (generateCertificate yearConfig 0 1 mailboxRequest
      (dnsValues webOrder) [] 0 false).1.emailAddresses := by decide +kernel
  obtain ⟨id, inOrder, same⟩ := scope.emails _ placed
  rw [List.mem_singleton.mp inOrder] at same
  exact absurd same (by decide +kernel)

end Certctl.Guarantees.IssuanceScope
