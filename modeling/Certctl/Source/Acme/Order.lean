import Certctl.Source.Acme.Types
import Mathlib.Data.List.Dedup
import Mathlib.Data.List.Perm.Subperm

/-!
The order helpers of the ACME API package: the syntactic identifier check of
new-order and the comparison of a request's names with the order's identifiers.
The two Go maps of the comparison are duplicate-free lists here; where the source
ranges over a map, the first entry in list order stands for whichever entry the
runtime meets first.

Source: internal/api/acme/errors.go, order.go.
-/
namespace Certctl.Source.Acme

open Lib

def malformed (detail : String) : Problem :=
  ⟨"urn:ietf:params:acme:error:malformed", detail, 400⟩

def rejectedIdentifier (detail : String) (id : Identifier) : RejectedIdentifier :=
  ⟨⟨"urn:ietf:params:acme:error:rejectedIdentifier", detail, 400⟩, some id⟩

/-- The rejections of one identifier. -/
def identifierProblems (u : UnicodeCase) (id : Identifier) : List RejectedIdentifier :=
  if toLower u id.type = "dns" then
    if id.value = "" then [rejectedIdentifier "identifier value is empty" id] else []
  else
    [rejectedIdentifier ("identifier type " ++ quote id.type ++
      " is not supported (Phase 2: dns only)") id]

def validateIdentifiers (u : UnicodeCase) (ids : List Identifier) : List RejectedIdentifier :=
  if ids = [] then [⟨malformed "new-order requires at least one identifier", none⟩]
  else ids.flatMap (identifierProblems u)

/-- The case-folded common name and DNS names of the request. -/
def csrNameSet (u : UnicodeCase) (csr : CertificateRequest) : List String :=
  (((if csr.commonName = "" then [] else [csr.commonName]) ++ csr.dnsNames).map
    (toLower u)).dedup

/-- The values of the identifiers whose type is exactly `dns`. -/
def dnsValues (ids : List Identifier) : List String :=
  (ids.filter (fun id => decide (id.type = "dns"))).map Identifier.value

def orderNameSet (u : UnicodeCase) (ids : List Identifier) : List String :=
  ((dnsValues ids).map (toLower u)).dedup

def badCSR (detail : String) : Problem :=
  ⟨"urn:ietf:params:acme:error:badCSR", detail, 400⟩

/-- `none` is a match. -/
def csrMatchesIdentifiers (u : UnicodeCase) (csr : CertificateRequest) (ids : List Identifier) :
    Option Problem :=
  if (csrNameSet u csr).length ≠ (orderNameSet u ids).length then
    some (badCSR ("CSR identifier count (" ++ toString (csrNameSet u csr).length ++
      ") differs from order identifier count (" ++ toString (orderNameSet u ids).length ++ ")"))
  else
    match (orderNameSet u ids).find? (fun k => decide (k ∉ csrNameSet u csr)) with
    | some k => some (badCSR ("CSR is missing the order identifier " ++ quote k))
    | none => none

theorem validateIdentifiers_nil_iff (u : UnicodeCase) (ids : List Identifier) :
    validateIdentifiers u ids = [] ↔
      ids ≠ [] ∧ ∀ id ∈ ids, toLower u id.type = "dns" ∧ id.value ≠ "" := by
  unfold validateIdentifiers
  split
  next empty => simp [empty]
  next some =>
    have one (id : Identifier) : identifierProblems u id = [] ↔
        toLower u id.type = "dns" ∧ id.value ≠ "" := by
      unfold identifierProblems
      split
      next dns => by_cases blank : id.value = "" <;> simp [dns, blank]
      next other => simp [other]
    rw [List.flatMap_eq_nil_iff]
    constructor
    · intro accepted
      exact ⟨some, fun id member => (one id).mp (accepted id member)⟩
    · intro accepted id member
      exact (one id).mpr (accepted.2 id member)

variable {ids : List Identifier} {u : UnicodeCase} {k : String}

theorem mem_csrNameSet {csr : CertificateRequest} :
    k ∈ csrNameSet u csr ↔ (csr.commonName ≠ "" ∧ toLower u csr.commonName = k) ∨
      ∃ name ∈ csr.dnsNames, toLower u name = k := by
  unfold csrNameSet
  by_cases blank : csr.commonName = ""
  · simp [blank]
  · simp [blank, eq_comm]

theorem mem_dnsValues {v : String} :
    v ∈ dnsValues ids ↔ ∃ id ∈ ids, id.type = "dns" ∧ id.value = v := by
  simp [dnsValues, and_assoc]

theorem mem_orderNameSet : k ∈ orderNameSet u ids ↔ ∃ v ∈ dnsValues ids, toLower u v = k := by
  simp [orderNameSet]

/-- The comparison accepts exactly when both name sets are equal. -/
theorem csrMatchesIdentifiers_none_iff (u : UnicodeCase) (csr : CertificateRequest)
    (ids : List Identifier) :
    csrMatchesIdentifiers u csr ids = none ↔
      ∀ k, k ∈ csrNameSet u csr ↔ k ∈ orderNameSet u ids := by
  have nodupCsr : (csrNameSet u csr).Nodup := List.nodup_dedup _
  have nodupOrder : (orderNameSet u ids).Nodup := List.nodup_dedup _
  unfold csrMatchesIdentifiers
  constructor
  · intro accepted
    split at accepted
    · cases accepted
    next sameLength =>
      split at accepted
      · cases accepted
      next noMissing =>
        have subset : orderNameSet u ids ⊆ csrNameSet u csr := by
          intro k member
          have present := List.find?_eq_none.mp noMissing k member
          simpa using present
        have perm := (nodupOrder.subperm subset).perm_of_length_le (by omega)
        exact fun k => perm.symm.mem_iff
  · intro sameSet
    have perm : (csrNameSet u csr).Perm (orderNameSet u ids) :=
      (List.perm_ext_iff_of_nodup nodupCsr nodupOrder).mpr sameSet
    have noMissing :
        (orderNameSet u ids).find? (fun k => decide (k ∉ csrNameSet u csr)) = none := by
      apply List.find?_eq_none.mpr
      intro k member
      simpa using (sameSet k).mpr member
    rw [if_neg (by simpa using perm.length_eq), noMissing]

end Certctl.Source.Acme
