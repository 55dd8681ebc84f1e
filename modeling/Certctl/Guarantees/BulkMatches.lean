import Certctl.Source.BulkRevocation

/-!
Bulk revocation attempts certificates that satisfy every criterion, except that the source is
forgotten when the only other criterion are the ids: each of them is then attempted whatever its
source.
-/
namespace Certctl.Guarantees.BulkMatches

open Lib Source Source.BulkRevocation

/-- The certificate satisfies all criteria that are given. -/
structure Matches (columns : String → Columns) (c : Criteria) (cert : ManagedCertificate) :
    Prop where
  ids : c.certificateIDs ≠ [] → cert.id ∈ c.certificateIDs
  profile : c.profileID ≠ "" → cert.certificateProfileID = c.profileID
  owner : c.ownerID ≠ "" → (columns cert.id).ownerID = c.ownerID
  agent : c.agentID ≠ "" → c.agentID ∈ (columns cert.id).agentIDs
  issuer : c.issuerID ≠ "" → cert.issuerID = c.issuerID
  team : c.teamID ≠ "" → (columns cert.id).teamID = c.teamID
  source : c.source ≠ .unspecified → cert.source = c.source

/-- A source that is asked for beside ids only is that of every certificate they name, of those
that would be revoked. -/
def SourceAgrees (inventory : Inventory) (c : Criteria) : Prop :=
  c.hasFilter = true ∨ c.source = .unspecified ∨ ∀ id ∈ c.certificateIDs, ∀ cert,
    inventory.get id = some cert → skips cert = false → cert.source = c.source

/-- The certificates whose revocation is attempted. -/
def attempted (svc : RevocationSvc) (around : Surroundings) (columns : String → Columns)
    (db : RevocationDB) (c : Criteria) (reason actor : String) : List ManagedCertificate :=
  ((bulkRevoke svc around columns db c reason actor).toOption.map fun r => r.2.2).getD []

variable {columns : String → Columns} {c : Criteria} {cert : ManagedCertificate}
  {around : Surroundings}

theorem attempted_cases {svc : RevocationSvc} {db : RevocationDB}
    {reason actor : String} (member : cert ∈ attempted svc around columns db c reason actor) :
    ∃ certs, resolveCertificates around columns db.inventory c = .ok certs ∧ cert ∈ certs ∧
      skips cert = false := by
  unfold attempted at member
  cases done : bulkRevoke svc around columns db c reason actor with
  | error e =>
    rw [done] at member
    cases member
  | ok r =>
    rw [done] at member
    obtain ⟨_, -, done⟩ := bind_eq_ok.mp done
    obtain ⟨_, -, done⟩ := bind_eq_ok.mp done
    obtain ⟨_, -, done⟩ := bind_eq_ok.mp done
    obtain ⟨certs, resolved, done⟩ := bind_eq_ok.mp done
    cases done
    have kept : cert ∈ certs.filter (fun cert => !skips cert) := by
      rw [← revokeEach_attempted svc around reason actor certs 0 db ⟨certs.length, 0, 0, 0, []⟩]
      exact member
    obtain ⟨found, live⟩ := List.mem_filter.mp kept
    exact ⟨certs, (mapError_eq_ok _).mp resolved, found, by simpa using live⟩

theorem matches_of_selects (selected : c.selects columns cert = true)
    (ids : c.certificateIDs ≠ [] → cert.id ∈ c.certificateIDs)
    (source : c.source ≠ .unspecified → cert.source = c.source) : Matches columns c cert := by
  simp only [Criteria.selects, Bool.and_eq_true, Bool.or_eq_true, decide_eq_true_eq,
    or_iff_not_imp_left, List.contains_iff_mem] at selected
  obtain ⟨⟨⟨⟨owner, team⟩, issuer⟩, profile⟩, agent⟩ := selected
  exact ⟨ids, profile, owner, agent, issuer, team, source⟩

/-- What is found by ids only is stored under one of them; what is listed matches. -/
theorem mem_resolve {inventory : Inventory} {certs : List ManagedCertificate}
    (resolved : resolveCertificates around columns inventory c = .ok certs)
    (member : cert ∈ certs) :
    c.hasFilter = false ∧ c.certificateIDs ≠ [] ∧
        (∃ id ∈ c.certificateIDs, inventory.get id = some cert) ∨
      (c.hasFilter = true ∨ c.certificateIDs = []) ∧ Matches columns c cert := by
  unfold resolveCertificates at resolved
  split at resolved
  next only =>
    cases resolved
    obtain ⟨id, named, found⟩ := List.mem_filterMap.mp member
    exact .inl ⟨only.2, only.1, id, named, eq_some_of_lookup found⟩
  next notOnly =>
    obtain ⟨_, -, resolved⟩ := bind_eq_ok.mp resolved
    cases resolved
    have wide : c.hasFilter = true ∨ c.certificateIDs = [] := by
      by_contra neither
      rw [not_or] at neither
      exact notOnly ⟨neither.2, by simpa using neither.1⟩
    refine .inr ⟨wide, ?_⟩
    -- the filters by id and by source leave part of the page that was listed
    have narrowed : ∀ (on : Prop) [Decidable on] (keep : ManagedCertificate → Bool)
        (certs : List ManagedCertificate),
        cert ∈ (if on then certs.filter keep else certs) →
          cert ∈ certs ∧ (on → keep cert = true) := by
      intro on _ keep certs inside
      split at inside
      · exact ⟨(List.mem_filter.mp inside).1, fun _ => (List.mem_filter.mp inside).2⟩
      next off => exact ⟨inside, fun given => absurd given off⟩
    obtain ⟨inside, source⟩ := narrowed _ _ _ member
    obtain ⟨listed, named⟩ := narrowed _ _ _ inside
    have sorted := (List.mem_insertionSort _).mp (List.mem_of_mem_take listed)
    exact matches_of_selects (List.mem_filter.mp sorted).2
      (fun given => List.contains_iff_mem.mp (named given))
      (fun given => of_decide_eq_true (source given))

/-- Nothing fails on the way to the certificates. -/
def calm : Surroundings where
  getFails := fun _ => false
  listFault := none
  revocation := fun _ => (⟨none, none, none, none, none, none, none, false, false, fun _ => false⟩,
    0, "rev-1")

/-- With ids only, each certificate they name is attempted unless it is passed over. -/
theorem attempted_of_ids (svc : RevocationSvc) (columns : String → Columns) (db : RevocationDB)
    (only : c.hasFilter = false) {id : String} (named : id ∈ c.certificateIDs)
    (found : db.inventory.get id = some cert) (live : skips cert = false) :
    cert ∈ attempted svc calm columns db c "unspecified" "admin" := by
  have some : c.certificateIDs ≠ [] := List.ne_nil_of_mem named
  have resolved : resolveCertificates calm columns db.inventory c =
      .ok (c.certificateIDs.filterMap db.inventory.get) := by
    simp [resolveCertificates, some, only, calm, lookup, pure, Except.pure]
  have given : c.isEmpty = false := by simp [Criteria.isEmpty, only, some]
  have valid : isValidRevocationReason "unspecified" = true := by decide
  simp only [attempted, bulkRevoke, resolved, given, valid, ensure, Except.mapError, ne_eq,
    String.reduceEq, not_false_eq_true, if_true, bind, Except.bind, pure, Except.pure,
    Except.toOption, Option.map_some, Option.getD_some, revokeEach_attempted, List.mem_filter,
    List.mem_filterMap]
  exact ⟨⟨id, named, found⟩, by simp [live]⟩

/-- Whatever fails and whatever the reason, only certificates that satisfy all criteria are
attempted, if and only if a source beside ids only is that of the certificates they name. -/
theorem attempts_match_iff (columns : String → Columns) (db : RevocationDB) (c : Criteria) :
    (∀ svc around reason actor, ∀ cert ∈ attempted svc around columns db c reason actor,
      Matches columns c cert) ↔ SourceAgrees db.inventory c := by
  constructor
  · intro allMatch
    by_cases filtered : c.hasFilter = true
    · exact .inl filtered
    by_cases unspecified : c.source = .unspecified
    · exact .inr (.inl unspecified)
    refine .inr (.inr fun id named cert found live => ?_)
    have member := attempted_of_ids ⟨true, true, true, []⟩ columns db (by simpa using filtered)
      named found live
    exact (allMatch _ _ _ _ cert member).source unspecified
  · intro agrees svc around reason actor cert member
    obtain ⟨certs, resolved, inside, live⟩ := attempted_cases member
    rcases mem_resolve resolved inside with ⟨only, some, id, named, found⟩ | ⟨-, all⟩
    · have key : cert.id = id := Table.get?_key found
      simp only [Criteria.hasFilter, Bool.or_eq_false_iff, decide_eq_false_iff_not, not_not,
        ne_eq] at only
      obtain ⟨⟨⟨⟨profile, owner⟩, agent⟩, issuer⟩, team⟩ := only
      refine ⟨fun _ => key ▸ named, (absurd profile ·), (absurd owner ·), (absurd agent ·),
        (absurd issuer ·), (absurd team ·), fun given => ?_⟩
      rcases agrees with filtered | unspecified | same
      · simp [Criteria.hasFilter, profile, owner, agent, issuer, team] at filtered
      · exact absurd unspecified given
      · exact same id named cert found live
    · exact all

/-- A certificate issued over the API. -/
def apiCert : ManagedCertificate :=
  ⟨"mc-1", "web", "example.com", [], "iss-1", "", .active, 0, none, "", .api, 0⟩

/-- The request of the EST endpoint for the certificate by its id. -/
def estByID : Criteria := ⟨"", "", "", "", "", ["mc-1"], .est⟩

/-- The EST endpoint revokes a certificate that was not issued by EST. -/
theorem source_forgotten : ∃ db : RevocationDB, ∃ svc around columns reason actor,
    apiCert ∈ attempted svc around columns db estByID reason actor ∧
    ¬ Matches columns estByID apiCert := by
  refine ⟨⟨⟨⟨[apiCert], List.nodup_singleton _⟩, .empty _⟩, .empty _⟩, ⟨true, true, true, []⟩, calm,
    fun _ => ⟨"", "", 0, []⟩, "unspecified", "admin", ?_, fun matching => ?_⟩
  · exact attempted_of_ids _ _ _ rfl (List.mem_singleton_self _) rfl rfl
  · exact absurd (matching.source (by decide)) (by decide)

end Certctl.Guarantees.BulkMatches
