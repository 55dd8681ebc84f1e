import Certctl.Source.Acme.Types
import Certctl.Lib.Table

/-!
Request authentication on the `kid` path: the handler's canonical account URL,
the extraction of the account id from the `kid` header and the account checks of
the verifier. A signature verifies exactly when it was made with the key stored on
the account. Nonces and algorithm selection are outside this module.

Source: internal/api/acme/jws.go; internal/api/handler/acme.go.
-/
namespace Certctl.Source.Acme

open Lib

/-- The canonical account URL below `base`, which is scheme and host. -/
def accountKID (base profileID accountID : String) : String :=
  base ++ (if profileID ≠ "" then "/acme/profile/" ++ profileID else "/acme") ++
    "/account/" ++ accountID

/-- The account id after the last `/account/`, provided that rebuilding the
canonical URL gives the header back. -/
def accountIDFromKID (kid base profileID : String) : Except AcmeError String :=
  match afterLast "/account/".toList kid.toList with
  | none => .error (.jwsMalformed "kid does not match expected /account/<id> shape")
  | some [] => .error (.jwsMalformed "kid has empty account id")
  | some chars =>
    if accountKID base profileID (String.ofList chars) ≠ kid then
      .error (.jwsMalformed "kid does not match canonical URL")
    else .ok (String.ofList chars)

/-- A request to a profile's endpoint. -/
structure SignedRequest where
  base : String
  profileID : String
  kid : String
  signerPEM : String

def verifyJWS (accounts : Table Account.accountID) (req : SignedRequest) :
    Except AcmeError Account := do
  let accountID ← accountIDFromKID req.kid req.base req.profileID
  match accounts.get? accountID with
  | none => .error .jwsAccountNotFound
  | some account =>
    if account.status ≠ .valid then .error (.jwsAccountInactive account.status)
    else if account.jwkPEM ≠ req.signerPEM then .error .jwsSignatureInvalid
    else .ok account

/-- The round trip says nothing about the profile an account was registered
under: the URL of any profile authenticates the account. -/
theorem accountIDFromKID_accountKID (base profileID accountID : String)
    (nonempty : accountID ≠ "") (plain : '/' ∉ accountID.toList) :
    accountIDFromKID (accountKID base profileID accountID) base profileID = .ok accountID := by
  have last : ¬ "/account/".toList <:+: "/account/".toList.tail ++ accountID.toList := by
    intro found
    have slashes := found.sublist.count_le '/'
    rw [List.count_append, List.count_eq_zero_of_not_mem plain] at slashes
    revert slashes
    decide
  have split : (accountKID base profileID accountID).toList =
      (base ++ (if profileID ≠ "" then "/acme/profile/" ++ profileID else "/acme")).toList ++
        ("/account/".toList ++ accountID.toList) := by
    simp only [accountKID, String.toList_append, List.append_assoc]
  have found : afterLast "/account/".toList (accountKID base profileID accountID).toList =
      some accountID.toList := by
    rw [split]
    exact afterLast_append _ _ _ (by decide) last
  unfold accountIDFromKID
  rw [found]
  cases chars : accountID.toList with
  | nil => exact absurd (String.toList_eq_nil_iff.mp chars) nonempty
  | cons c rest =>
    have back : String.ofList (c :: rest) = accountID := by
      rw [← chars, String.ofList_toList]
    simp [back]

theorem accountIDFromKID_profile :
    accountIDFromKID (accountKID "https://ca" "p" "a-1") "https://ca" "p" = .ok "a-1" :=
  accountIDFromKID_accountKID _ _ _ (by decide) (by decide)

end Certctl.Source.Acme
