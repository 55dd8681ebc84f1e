import Certctl.Source.Domain

/-!
The ACME domain records and the errors the ACME service answers with.

Source: internal/domain/acme.go; internal/api/acme/errors.go.
-/
namespace Certctl.Source.Acme

inductive AccountStatus where
  | valid | deactivated | revoked
  deriving DecidableEq

inductive OrderStatus where
  | pending | ready | processing | valid | invalid
  deriving DecidableEq

inductive AuthzStatus where
  | pending | valid | invalid | deactivated | expired | revoked
  deriving DecidableEq

inductive ChallengeStatus where
  | pending | processing | valid | invalid
  deriving DecidableEq

inductive ChallengeType where
  | http01 | dns01 | tlsAlpn01

/-- The two values the profile column and the server default may take. -/
inductive AuthMode where
  | trustAuthenticated | challenge
  deriving DecidableEq

structure Account where
  accountID : String
  jwkThumbprint : String
  jwkPEM : String
  contact : List String
  status : AccountStatus
  profileID : String
  deriving DecidableEq

structure Identifier where
  type : String
  value : String
  deriving DecidableEq

structure Problem where
  type : String
  detail : String
  status : Nat
  deriving DecidableEq

/-- A problem of the new-order answer together with the identifier it is about. -/
structure RejectedIdentifier where
  problem : Problem
  identifier : Option Identifier
  deriving DecidableEq

structure Order where
  orderID : String
  accountID : String
  identifiers : List Identifier
  status : OrderStatus
  expiresAt : Time
  notBefore : Option Time
  notAfter : Option Time
  error : Option Problem
  csrPEM : String
  certificateID : String
  createdAt : Time
  updatedAt : Time

structure Authorization where
  authzID : String
  orderID : String
  identifier : Identifier
  status : AuthzStatus
  expiresAt : Time
  wildcard : Bool
  createdAt : Time
  updatedAt : Time

structure Challenge where
  challengeID : String
  authzID : String
  type : ChallengeType
  status : ChallengeStatus
  token : String
  validatedAt : Option Time
  error : Option Problem
  createdAt : Time

/-- The failures of the modelled entry points. -/
inductive AcmeError where
  | unwired (detail : String)
  | finalizeUnconfigured
  | challengePoolUnconfigured
  | jwsMalformed (detail : String)
  | jwsAccountNotFound
  | jwsAccountInactive (status : AccountStatus)
  | jwsSignatureInvalid
  | rejectedIdentifiers (problems : List RejectedIdentifier)
  | rateLimited
  | concurrentOrdersExceeded
  | userActionRequired
  | profileNotFound
  | unsupportedAuthMode (mode : String)
  | accountDoesNotExist
  | orderNotFound
  | orderUnauthorized
  | orderNotReady (status : OrderStatus)
  | csrMismatch (detail : String)
  | authzNotFound
  | challengeNotFound
  | lookupParentAuthz
  | lookupParentOrder
  | certificateNotFound
  | latestVersion
  | storage (detail : String)
  deriving DecidableEq

/-- The statuses no writer is meant to leave. -/
def OrderStatus.terminal : OrderStatus → Bool
  | .valid => true
  | .invalid => true
  | _ => false

end Certctl.Source.Acme
