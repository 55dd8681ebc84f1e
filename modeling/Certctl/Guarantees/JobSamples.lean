import Certctl.Source.Jobs.Renewals

/-!
A deployment and a few rows at which the guarantees about jobs are instantiated.
-/
namespace Certctl.Source.Jobs

open Lib

/-- Everything wired, agents generate the keys, and no issuer is registered. -/
def Env.plain : Env :=
  ⟨.agent, false, true, true, true, true, true, true, .all, 0, [], fun _ => "", fun _ _ => true,
    fun _ => .error "unexpected end of JSON input", fun _ _ => .ok (), fun _ => "", .basic⟩

def plainCert (id : String) (status : CertificateStatus) (profileID : String) :
    ManagedCertificate :=
  ⟨id, id, "www.example.com", [], "iss-1", profileID, status, 0, none, "", .api, 0⟩

def plainProfile (id : String) (requiresApproval : Bool) : Profile :=
  { id, maxTTLSeconds := 0, allowedEKUs := [], allowShortLived := false, mustStaple := false,
    acmeAuthMode := "", requiresApproval }

/-- An Active certificate whose profile requires approval, and nothing else. -/
def DB.gated : DB :=
  { DB.empty with
    inventory := ⟨⟨[plainCert "mc-1" .active "prof-1"], by decide⟩, .empty _⟩
    profiles := ⟨[plainProfile "prof-1" true], by decide⟩ }

def waitingRequest : ApprovalRequest :=
  newRequest "ar-1" .certIssuance "mc-1" "job-1" "prof-1" "alice" [] 0

/-- An open request and the job that waits for it. -/
def DB.waiting : DB :=
  { DB.empty with
    approvals := ⟨[waitingRequest], by decide⟩
    jobs := ⟨[newJob "job-1" "mc-1" .renewal .awaitingApproval 0 0], by decide⟩ }

/-- A renewal is asked for and waits for approval. -/
def gatedRenewal {γ : Type} (triggerRenewal : γ) : List (Move γ Choice) :=
  [.start triggerRenewal, .step 0 .plain, .step 0 .plain, .step 0 .plain,
    .step 0 { Choice.plain with id := "job-1" }, .step 0 .plain, .step 0 .plain, .step 0 .plain,
    .step 0 .plain, .step 0 { Choice.plain with id := "ar-1" }, .step 0 .plain]

end Certctl.Source.Jobs
