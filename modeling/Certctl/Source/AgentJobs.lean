import Certctl.Source.AgentKeys

/-!
The jobs of a settled agent, step by step. Between the write of a new key and the version
that is signed for it, the agent owes that version; a submission that is accepted stores it.
A deployment of a settled agent hands over a pair that belongs together.
-/
namespace Certctl.Source.Agents

open Lib Source.Jobs

variable {setup : Setup} {agentID : String}

section Submission

/-- The agent holds the key and its other certificates are in order. -/
structure Owing (setup : Setup) (agentID certID keyPEM : String) (w : World) : Prop where
  held : w.key? setup agentID certID = some keyPEM
  others : ∀ other, other ≠ certID → Fits setup agentID w other

variable {certID keyPEM : String}

theorem Owing.stable (w w' : World)
    (same : SamePart setup agentID w w') (owing : Owing setup agentID certID keyPEM w) :
    Owing setup agentID certID keyPEM w' :=
  ⟨(same.keys certID).trans owing.held, fun other apart => (owing.others other apart).stable same⟩

/-- The call stores nothing and fails, or it appends the version. -/
theorem createVersion_outcome (env : Env) (db : DB) (v : CertificateVersion) (c : Choice) :
    ((execQuery env db (.createVersion v) c).1.inventory.versions = db.inventory.versions ∧
      ∃ e, (execQuery env db (.createVersion v) c).2 = .error e) ∨
    ∀ certID, versionsOf (execQuery env db (.createVersion v) c).1 certID =
      if v.certificateID = certID then versionsOf db certID ++ [v] else versionsOf db certID := by
  obtain ⟨unchanged, e, failed⟩ | ⟨db', value, performed, store, -⟩ :=
    execQuery_cases env db (.createVersion v) c
  · exact .inl ⟨by rw [unchanged], e, failed⟩
  · refine .inr fun certID => ?_
    simp only [perform] at performed
    split at performed
    next inv created =>
      cases performed
      rw [store]
      simp only [versionsOf, (Inventory.createVersion_rows created).2.1, List.filter_append,
        List.filter_singleton]
      by_cases own : v.certificateID = certID
      · simp [own]
      · simp [own]
    · cases performed

section Stored

variable {w w' : World} {v : CertificateVersion} {keyPEM : String}
  (files : w'.files = w.files)
  (appended : ∀ certID, versionsOf w'.db certID =
    if v.certificateID = certID then versionsOf w.db certID ++ [v] else versionsOf w.db certID)
  (owing : Owing setup agentID v.certificateID keyPEM w)

include files appended owing

/-- The certificate is the agent's, so nobody else's part has changed. -/
theorem samePart_of_stored (sane : Sane setup w) {other : String} (apart : other ≠ agentID) :
    SamePart setup other w w' := by
  refine ⟨key?_of_files files other, fun certID held => ?_⟩
  have foreign : v.certificateID ≠ certID := by
    rintro rfl
    refine apart (sane.single other agentID _ held ?_)
    rw [owing.held]
    rfl
  rw [appended, if_neg foreign]

/-- The version that is stored settles the agent. -/
theorem settled_of_stored (signed : setup.Pairs v.pemChain keyPEM)
    (older : ∀ old ∈ versionsOf w.db v.certificateID, old.createdAt < v.createdAt) :
    Settled setup agentID w' := by
  intro certID key newest held chosen
  rw [key?_of_files files] at held
  rw [appended] at chosen
  by_cases own : v.certificateID = certID
  · subst own
    rw [if_pos rfl] at chosen
    obtain rfl := eq_of_newestOf_append older chosen
    rw [owing.held, Option.some.injEq] at held
    exact held ▸ signed
  · rw [if_neg own] at chosen
    exact owing.others certID (Ne.symm own) key newest held chosen

end Stored

theorem safe_createVersion {v : CertificateVersion}
    (signed : setup.requestKey v.csrPEM = some (setup.publicKey keyPEM))
    {next : Except RepoError Unit → AgentProgram}
    (fails : ∀ e w, Safe setup agentID (next (.error e)) w)
    (goes : SafeSettled setup agentID (next (.ok ()))) :
    SafeFrom setup agentID (Owing setup agentID v.certificateID keyPEM)
      (.op (.server (.query (.createVersion v))) next) := by
  intro w owing w₁ c moved sane met
  have owing₁ : Owing setup agentID v.certificateID keyPEM w₁ := owing.stable w w₁ moved
  have outcome := createVersion_outcome setup.env w₁.db v c.server
  have files : (execAgent setup w₁ (.server (.query (.createVersion v))) c).1.files = w₁.files :=
    rfl
  refine ⟨sane.of_eq files rfl, own_of_others fun other apart => ?_, ?_⟩
  · obtain ⟨versions, -⟩ | appended := outcome
    · exact samePart_of_eq files versions other
    · exact samePart_of_stored files appended owing₁ sane apart
  · generalize answer : (execAgent setup w₁ (.server (.query (.createVersion v))) c).2 = r
    cases r with
    | error e => exact fails e _
    | ok _ =>
      refine goes _ ?_
      obtain ⟨-, e, failed⟩ | appended := outcome
      · cases answer.symm.trans failed
      · have issued : setup.certKey v.pemChain = setup.requestKey v.csrPEM :=
          of_decide_eq_true met.1
        refine settled_of_stored files appended owing₁ (issued.trans signed) fun old member => ?_
        exact of_decide_eq_true (List.all_eq_true.mp met.2 old member)

section Signing

/-! The reply to a submission that is rejected is never taken; one that is accepted leaves
the agent settled. -/

variable {certID keyPEM csrPEM : String} {cert : ManagedCertificate} {next : Reply → AgentProgram}
  (signed : setup.requestKey csrPEM = some (setup.publicKey keyPEM))
  (own : cert.id = certID) (registered : cert.issuerID ∈ setup.env.issuers)
  (rejected : ∀ reply w, reply ≠ .ok → Safe setup agentID (next reply) w)
  (accepted : SafeSettled setup agentID (next .ok))

theorem safe_withProfile {goOn : Option Profile → Service} {J : World → Prop}
    (stable : ∀ w w', SamePart setup agentID w w' → J w → J w')
    (rest : ∀ profile, SafeFrom setup agentID J (serve next (goOn profile))) :
    SafeFrom setup agentID J (serve next (withProfile setup.env cert goOn)) := by
  unfold withProfile
  split
  · refine safe_still stable (o := .server (.query (.getProfile _))) rfl fun r => ?_
    cases r with
    | error e => exact rest none
    | ok profile => exact rest (some profile)
  · exact rest none

include signed own

/-- The signed request is stored, and the rest of the call leaves the versions alone. -/
theorem safe_signed {issued : Issuance} {goOn : String → Time → Except RepoError Unit → Service}
    (fails : ∀ id createdAt e w, Safe setup agentID (serve next (goOn id createdAt (.error e))) w)
    (goes : ∀ id createdAt, SafeSettled setup agentID (serve next (goOn id createdAt (.ok ())))) :
    SafeFrom setup agentID (Owing setup agentID certID keyPEM)
      (serve next (.op .newID fun id => .op .now fun createdAt =>
        query (.createVersion (issuedVersion setup.env id cert.id csrPEM createdAt issued))
          (goOn id createdAt))) := by
  refine safe_still Owing.stable (o := .server .newID) trivial fun id => ?_
  refine safe_still Owing.stable (o := .server .now) trivial fun createdAt => ?_
  subst own
  intro w owing
  exact safe_createVersion signed (fails id createdAt) (goes id createdAt) w owing

include registered rejected accepted

theorem safe_signDirectly : SafeFrom setup agentID (Owing setup agentID certID keyPEM)
    (serve next (signDirectly setup.env cert csrPEM)) := by
  unfold signDirectly
  rw [if_pos registered]
  refine safe_withProfile Owing.stable fun profile => ?_
  cases setup.env.validateCSR csrPEM profile with
  | error e => exact fun w _ => rejected _ w (by simp)
  | ok _ =>
    refine safe_still Owing.stable (o := .server .issue) trivial fun r => ?_
    cases r with
    | error e => exact fun w _ => rejected _ w (by simp)
    | ok issued =>
      refine safe_signed signed own ?_ fun _ _ => ?_
      · exact fun _ _ e w => rejected (.error _) w (by simp)
      · refine safe_still Settled.stable (o := .server .now) trivial fun now => ?_
        exact safe_still Settled.stable (o := .server (.query (.updateCertificate _))) rfl
          fun _ => accepted

/-- The completion of a job, for a caller that only puts its error into words. -/
theorem safe_completeAgentCSRRenewal (job : Job) (targetIDs : List String)
    {goOn : Except String Unit → Service}
    (fails : ∀ e, ∃ message, goOn (.error e) = .done (.error message))
    (goes : goOn (.ok ()) = .done .ok) :
    SafeFrom setup agentID (Owing setup agentID certID keyPEM)
      (serve next (completeAgentCSRRenewal setup.env job cert targetIDs csrPEM goOn)) := by
  have failed : ∀ e w, Safe setup agentID (serve next (goOn (.error e))) w := by
    intro e w
    obtain ⟨message, same⟩ := fails e
    rw [same]
    exact rejected _ w (by simp)
  have failsJob : ∀ errMsg e w,
      Safe setup agentID (serve next (failJob job.id errMsg (goOn (.error e)))) w := by
    intro errMsg e w
    exact safe_still (fun _ _ _ fact => fact) (J := fun _ => True)
      (o := .server (.query (.updateStatus ..))) rfl (fun _ w _ => failed e w) w trivial
  have ends : ∀ r, (goOn r).All keepsVersions := by
    rw [forall_except]
    refine ⟨fun e => ?_, fun _ => ?_⟩
    · obtain ⟨message, same⟩ := fails e
      rw [same]
      trivial
    · rw [goes]
      trivial
  have deploys : Deploys keepsVersions job :=
    ⟨fun o read _ => keepsVersions_of_read o read, fun _ _ => rfl, fun _ _ => rfl⟩
  unfold completeAgentCSRRenewal
  rw [if_neg (not_not_intro registered)]
  refine safe_withProfile Owing.stable fun profile => ?_
  cases setup.env.validateCSR csrPEM profile with
  | error e => exact fun w _ => failsJob _ _ w
  | ok _ =>
    refine safe_still Owing.stable (o := .server (.query (.updateStatus ..))) rfl fun r => ?_
    cases r with
    | error e => exact fun w _ => failed _ w
    | ok _ =>
      refine safe_still Owing.stable (o := .server .issue) trivial fun r => ?_
      cases r with
      | error e => exact fun w _ => failsJob _ _ w
      | ok issued =>
        refine safe_signed signed own (fun _ _ e w => failsJob _ _ w) fun _ _ => ?_
        refine safe_still Settled.stable (o := .server .now) trivial fun now => ?_
        refine safe_still Settled.stable (o := .server (.query (.updateCertificate _))) rfl
          fun r => ?_
        cases r with
        | error e => exact fun w _ => failsJob _ _ w
        | ok _ =>
          refine safe_serve Settled.stable (finishRenewal_all deploys cert.id targetIDs ends)
            fun reply => ?_
          by_cases ok : reply = .ok
          · rw [ok]
            exact accepted
          · exact fun w _ => rejected reply w ok

end Signing

/-- A submission for a certificate the agent has written a key for. -/
theorem safe_submitCSR {csrPEM : String} {next : Reply → AgentProgram}
    (named : certID ≠ "") (signed : setup.requestKey csrPEM = some (setup.publicKey keyPEM))
    (rejected : ∀ reply w, reply ≠ .ok → Safe setup agentID (next reply) w)
    (accepted : SafeSettled setup agentID (next .ok)) :
    SafeFrom setup agentID (Owing setup agentID certID keyPEM)
      (serve next (submitCSR setup.env agentID certID csrPEM)) := by
  refine safe_still Owing.stable (o := .server (.query (.getAgent agentID))) rfl fun r => ?_
  cases r with
  | error e => exact fun w _ => rejected _ w (by simp)
  | ok agent =>
    by_cases empty : csrPEM = ""
    · rw [if_pos empty]
      exact fun w _ => rejected _ w (by simp)
    rw [if_neg empty, if_neg named]
    refine safe_met Owing.stable (o := .server (.query (.getCertificate certID))) rfl
      fun w₁ c _ met owing => ?_
    generalize answer : (execAgent setup w₁ (.server (.query (.getCertificate certID))) c).2 = r
    generalize (execAgent setup w₁ (.server (.query (.getCertificate certID))) c).1 = w at owing ⊢
    cases r with
    | error e => exact rejected _ _ (by simp)
    | ok found =>
      obtain ⟨cert, targetIDs⟩ := found
      have stored : w₁.db.inventory.get certID = some cert := getCertificate_ok answer
      have registered : cert.issuerID ∈ setup.env.issuers := by
        have checked := met.2
        simp only [orderly, stored, Option.all_some, decide_eq_true_eq] at checked
        exact checked
      have own : cert.id = certID := Table.get?_key stored
      refine safe_still Owing.stable (o := .server (.query (.listByCertificate certID))) rfl
        (fun jobs => ?_) w owing
      dsimp only
      cases awaitingCSRJobs jobs with
      | nil => exact safe_signDirectly signed own registered rejected accepted
      | cons job rest =>
        exact safe_completeAgentCSRRenewal signed own registered rejected accepted job targetIDs
          (fun e => ⟨_, rfl⟩) rfl

end Submission

variable {next : AgentProgram} (rest : SafeSettled setup agentID next)

section Renewal

variable {path keyPEM : String} {job : JobItem}

/-- A key that is written for a certificate nobody else holds a key for. -/
theorem sane_write {w : World} (sane : Sane setup w) {certID : String} (keyPEM : String)
    (found : setup.keyPath agentID certID = .ok path)
    (sole : heldElsewhere setup w agentID certID = false) :
    Sane setup (w.write agentID path keyPEM) := by
  refine ⟨sane.handed, fun first second id held held' => ?_⟩
  by_cases same : id = certID
  · subst same
    have mine : ∀ other : String,
        ((w.write agentID path keyPEM).key? setup other id).isSome → other = agentID := by
      intro other held
      by_contra apart
      rw [key?_write_other keyPEM found (.inl apart), key?_eq_none_of_not_held sole apart] at held
      cases held
    rw [mine first held, mine second held']
  · rw [key?_write_other keyPEM found (.inr same)] at held held'
    exact sane.single first second id held held'

/-- The write of a key: it is refused, or the agent owes a version from then on. -/
theorem safe_writeKey (found : setup.keyPath agentID job.certificateID = .ok path)
    {next : Option String → AgentProgram} (refused : ∀ e, SafeSettled setup agentID (next (some e)))
    (written : job.commonName ≠ "" →
      SafeFrom setup agentID (Owing setup agentID job.certificateID keyPEM) (next none)) :
    SafeSettled setup agentID (.op (.writeKey agentID path job keyPEM) next) := by
  intro w settled w₁ c moved sane met
  have settled₁ : Settled setup agentID w₁ := settled.stable _ _ moved
  obtain ⟨-, checked⟩ := met
  simp only [orderly, Bool.and_eq_true, decide_eq_true_eq, Bool.not_eq_true'] at checked
  obtain ⟨⟨named, sole⟩, whole⟩ := checked
  simp only [execAgent]
  cases outcome : c.write with
  | stored =>
    refine ⟨sane_write sane keyPEM found sole, own_of_others fun other apart => ?_, ?_⟩
    · exact ⟨fun id => key?_write_other keyPEM found (.inl apart), fun _ _ => rfl⟩
    · refine written named _ ⟨by simp [key?_of_path found, World.read, World.write], ?_⟩
      intro other apart key v held newest
      rw [key?_write_other keyPEM found (.inr apart)] at held
      exact settled₁ other key v held newest
  | refused e =>
    exact ⟨sane, own_of_others fun other _ => .refl setup other w₁, refused e w₁ settled₁⟩
  | torn e left =>
    rw [outcome] at whole
    cases whole

include rest in
/-- The request for the new key is made, and it is accepted. -/
theorem safe_submitKey
    (found : setup.keyPath agentID job.certificateID = .ok path) (named : job.commonName ≠ "") :
    SafeFrom setup agentID (Owing setup agentID job.certificateID keyPEM)
      (submitKey setup agentID job keyPEM next) := by
  unfold submitKey
  rw [if_neg named]
  refine safe_met Owing.stable (o := .createCSR) trivial fun w₁ c _ met owing => ?_
  have fine : c.problem = none := Option.isNone_iff_eq_none.mp met.2
  simp only [execAgent, fine]
  refine safe_met Owing.stable (o := .send (.submitCSR job.certificateID (csrFor setup keyPEM job)))
    trivial (fun w₂ c _ met owing => ?_) _ owing
  have reaches : c.fate = .reaches := by
    have checked := met.2
    simp only [orderly] at checked
    split at checked
    next fate => exact fate
    · cases checked
  simp only [execAgent, reaches]
  refine safe_submitCSR (keyPath_ok found).1 (setup.requestKey_csr _ _ _ _) ?_ ?_ _ owing
  · intro reply w notOK w₃ c _ _ met
    have checked := met.2
    simp only [orderly, isOK, Bool.and_eq_true, decide_eq_true_eq] at checked
    exact absurd checked.1 notOK
  · intro w settled w₃ c moved sane met
    have checked := met.2
    simp only [orderly, isOK, Bool.and_eq_true, Option.isNone_iff_eq_none] at checked
    simp only [execAgent, checked.2]
    exact ⟨sane, own_of_others fun other _ => .refl setup other w₃,
      rest w₃ (settled.stable _ _ moved)⟩

include rest in
theorem safe_executeCSRJob (job : JobItem) :
    SafeSettled setup agentID (executeCSRJob setup agentID job next) := by
  have reports : ∀ errMsg, SafeSettled setup agentID (report job.id .failed errMsg next) :=
    fun errMsg => safe_report Settled.stable job.id .failed errMsg rest
  refine safe_still Settled.stable (o := .generateKey) trivial fun r => ?_
  cases r with
  | error e => exact reports _
  | ok keyPEM =>
    cases found : setup.keyPath agentID job.certificateID with
    | error e => exact reports _
    | ok path =>
      refine safe_still Settled.stable (o := .ensureKeyDir) trivial fun r => ?_
      cases r with
      | some e => exact reports _
      | none =>
        refine safe_still Settled.stable (o := .marshalKey) trivial fun r => ?_
        cases r with
        | some e => exact reports _
        | none =>
          refine safe_writeKey found (fun e => reports _) fun named => ?_
          exact safe_submitKey rest found named

end Renewal

section Deployment

/-- Any key the agent holds for the certificate belongs to the text. -/
structure Fetched (setup : Setup) (agentID certID certPEM : String) (w : World) : Prop where
  settled : Settled setup agentID w
  pairs : ∀ keyPEM, w.key? setup agentID certID = some keyPEM → setup.Pairs certPEM keyPEM

variable {certID certPEM : String}

theorem Fetched.stable (w w' : World) (same : SamePart setup agentID w w')
    (fetched : Fetched setup agentID certID certPEM w) : Fetched setup agentID certID certPEM w' :=
  ⟨fetched.settled.stable _ _ same, fun keyPEM held =>
    fetched.pairs keyPEM ((same.keys certID).symm.trans held)⟩

/-- What is known after the answer. -/
def PickedUp (setup : Setup) (agentID certID : String) :
    Except String String → World → Prop
  | .ok certPEM, w => Fetched setup agentID certID certPEM w
  | .error _, w => Settled setup agentID w

theorem PickedUp.settled (answer : Except String String) (w : World)
    (known : PickedUp setup agentID certID answer w) : Settled setup agentID w := by
  cases answer with
  | ok certPEM => exact Fetched.settled known
  | error e => exact known

theorem PickedUp.stable (answer : Except String String) (w w' : World)
    (same : SamePart setup agentID w w') (known : PickedUp setup agentID certID answer w) :
    PickedUp setup agentID certID answer w' := by
  cases answer with
  | ok certPEM => exact Fetched.stable w w' same known
  | error e => exact Settled.stable w w' same known

/-- The version that is listed first belongs to the key, if the agent is settled. -/
theorem fetched_of_listed {w : World} {c : Choice} {first : CertificateVersion}
    {rest : List CertificateVersion} (settled : Settled setup agentID w)
    (listed : listVersions w.db certID c = .ok (first :: rest)) :
    Fetched setup agentID certID (latestVersion first (first :: rest)).pemChain w := by
  refine ⟨settled, fun keyPEM held => settled certID keyPEM _ held ?_⟩
  unfold listVersions at listed
  split at listed
  · cases listed
  · simp only [newestOf, versionsOf, Except.ok.inj listed]

variable {goOn : Except String String → AgentProgram}

theorem safe_certificatePickup
    (rest : ∀ answer, SafeFrom setup agentID (PickedUp setup agentID certID answer) (goOn answer)) :
    SafeSettled setup agentID (certificatePickup agentID certID goOn) := by
  refine safe_still Settled.stable (o := .server (.query (.getAgent agentID))) rfl fun r => ?_
  cases r with
  | error e => exact rest (.error _)
  | ok agent =>
    refine safe_met Settled.stable (o := .listVersions certID) trivial fun w₁ c settled _ _ => ?_
    split
    next first others listed => exact rest (.ok _) w₁ (fetched_of_listed settled listed)
    · exact rest (.error _) w₁ settled

theorem certificatePickup_upTo {k : AgentProgram → Prop}
    (rest : ∀ answer, (goOn answer).UpTo AgentOp.still k) :
    (certificatePickup agentID certID goOn).UpTo AgentOp.still k := by
  refine .op rfl fun r => ?_
  cases r with
  | error e => exact rest _
  | ok agent =>
    refine .op trivial fun r => ?_
    split
    · exact rest _
    · exact rest _

include rest in
/-- A pair that belongs together is handed over. -/
theorem safe_deployPair {job : JobItem} {keyPEM : String} (pairs : setup.Pairs certPEM keyPEM) :
    SafeSettled setup agentID (deployPair agentID job certPEM keyPEM next) := by
  have reports : ∀ status errMsg, SafeSettled setup agentID (report job.id status errMsg next) :=
    fun status errMsg => safe_report Settled.stable job.id status errMsg rest
  unfold deployPair
  split
  · exact reports _ _
  · refine safe_still Settled.stable (o := .createTargetConnector job.targetType) trivial
      fun r => ?_
    cases r with
    | some e => exact reports _ _
    | none =>
      refine safe_still Settled.stable (o := .validateConfig job.targetType) trivial fun r => ?_
      cases r with
      | some e => exact reports _ _
      | none =>
        intro w settled w₁ c moved sane _
        refine ⟨⟨List.forall_mem_cons.mpr ⟨pairs, sane.handed⟩, sane.single⟩,
          own_of_others fun _ _ => ?_, ?_⟩
        · exact ⟨fun _ => rfl, fun _ _ => rfl⟩
        · have settled₁ : Settled setup agentID w₁ := settled.stable _ _ moved
          simp only [execAgent]
          cases c.problem with
          | some e => exact reports _ _ _ settled₁
          | none => exact reports _ _ _ settled₁

include rest in
theorem safe_executeDeploymentJob (job : JobItem) :
    SafeSettled setup agentID (executeDeploymentJob setup agentID job next) := by
  have reports : ∀ errMsg, SafeSettled setup agentID (report job.id .failed errMsg next) :=
    fun errMsg => safe_report Settled.stable job.id .failed errMsg rest
  refine safe_report Settled.stable job.id .running "" ?_
  refine safe_request Settled.stable PickedUp.stable PickedUp.settled
    (certificatePickup_upTo fun _ => .here trivial) (fun _ => safe_certificatePickup)
    (fun e => reports _) fun answer _ => ?_
  cases answer with
  | error e => exact reports _
  | ok certPEM =>
    cases found : setup.keyPath agentID job.certificateID with
    | error e => exact fun w known => reports _ w known.settled
    | ok path =>
      refine safe_met Fetched.stable (o := .readKey agentID path) trivial
        fun w₁ c fetched _ _ => ?_
      generalize content : (execAgent setup w₁ (.readKey agentID path) c).2 = r
      cases r with
      | error e => exact reports _ w₁ fetched.settled
      | ok keyPEM =>
        refine safe_deployPair rest (fetched.pairs keyPEM ?_) _ fetched.settled
        simp only [execAgent] at content
        split at content
        · cases content
        · rw [key?_of_path found]
          exact orFail_eq_ok.mp content

end Deployment

section Polling

variable {k : AgentProgram → Prop}

theorem describe_upTo {next : List JobItem → AgentProgram}
    (rest : ∀ items, (next items).UpTo AgentOp.still k) (jobs : List Job) (items : List JobItem) :
    (describe setup next jobs items).UpTo AgentOp.still k := by
  induction jobs generalizing items with
  | nil => exact rest items
  | cons job jobs ih =>
    have names : ∀ targetType, (withNames job fun commonName sans => describe setup next jobs
        (items ++ [⟨job.id, job.type, job.certificateID, commonName, sans, targetType,
          job.status⟩])).UpTo AgentOp.still k := by
      intro targetType
      unfold withNames
      split
      · refine .op rfl fun r => ?_
        cases r with
        | error e => exact ih _
        | ok found => exact ih _
      · exact ih _
    unfold describe withTargetType
    split
    · exact names ""
    · refine .op rfl fun r => ?_
      cases r with
      | error e => exact names ""
      | ok target => exact names _

theorem getWorkWithTargets_upTo {next : Except String (List JobItem) → AgentProgram}
    (rest : ∀ answer, (next answer).UpTo AgentOp.still k) :
    (getWorkWithTargets setup agentID next).UpTo AgentOp.still k := by
  refine serve_upTo (fun reply => ?_)
    (getPendingWork_all (fun o read _ => keepsVersions_of_read o read) agentID rfl)
  cases reply with
  | jobs jobs => exact describe_upTo (fun items => rest (.ok items)) jobs []
  | _ => exact rest _

include rest in
theorem safe_runJobs (jobs : List JobItem) :
    SafeSettled setup agentID (runJobs setup agentID next jobs) := by
  induction jobs with
  | nil => exact rest
  | cons job jobs ih =>
    unfold runJobs
    split
    · exact safe_executeCSRJob ih job
    · split
      · exact safe_executeDeploymentJob ih job
      · exact ih

include rest in
theorem safe_pollForWork : SafeSettled setup agentID (pollForWork setup agentID next) := by
  refine safe_request Settled.stable (K := fun _ => Settled setup agentID)
    (fun _ => Settled.stable) (fun _ _ known => known)
    (getWorkWithTargets_upTo fun _ => .here trivial) ?_ (fun _ => rest) fun answer _ => ?_
  · exact fun goOn known =>
      safe_upTo Settled.stable (getWorkWithTargets_upTo fun answer => .here (known answer))
  · cases answer with
    | error e => exact rest
    | ok jobs => exact safe_runJobs rest jobs

theorem safe_runAgent (rounds : Nat) :
    SafeSettled setup agentID (runAgent setup agentID rounds) := by
  induction rounds with
  | zero => exact fun _ _ => trivial
  | succ rounds ih => exact safe_pollForWork ih

end Polling

end Certctl.Source.Agents
