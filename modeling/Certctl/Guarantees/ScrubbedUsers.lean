import Certctl.Source.UserRetention

/-!
Removing a user's personal data replaces the email address and the name, but the subject under
which the identity provider knows the user stays in the row: it is hashed on the user that was
read, and no `Update` writes it.
-/
namespace Certctl.Guarantees.ScrubbedUsers

open Lib Source Source.UserRetention

/-- What the removal promises of user `u`, with the table afterwards. -/
structure Forgotten (digest : String → String) (users' : Users) (u : User) : Prop where
  scrubbed : ∀ row, users'.rows.get? u.id = some row → row.email ≠ u.email ∧
    row.displayName ≠ u.displayName ∧ ∀ subject ∈ u.oidcSubject, row.oidcSubject ≠ some subject
  distinct : (users'.rows.rows.filterMap User.identity).Nodup
  fresh : ∀ provider subject row, u.identity = some (provider, subject) →
    users'.getByOIDCSubject provider subject = some row → row.id ≠ u.id
  again : ∀ faults now users'', deleteUserPII digest faults now users' u.id = .ok users'' →
    users''.rows.get? u.id = (users'.rows.get? u.id).map fun row => { row with updatedAt := now }

/-- A user without a subject, whose email address and name are not the replacements. -/
def Removable (u : User) : Prop :=
  u.oidcSubject = none ∧ u.email ≠ purgedEmail ∧ u.displayName ≠ purgedName

/-- The data is gone for exactly the users that no identity provider knows. -/
theorem forgotten_iff_removable (digest : String → String) (faults : Faults) (now : Time)
    (users : Users) (userID : String) :
    (∀ u users', users.rows.get? userID = some u →
      deleteUserPII digest faults now users userID = .ok users' → Forgotten digest users' u) ↔
    ∀ u users', users.rows.get? userID = some u →
      deleteUserPII digest faults now users userID = .ok users' → Removable u := by
  refine forall₄_congr fun u users' found deleted => ?_
  obtain rfl := Table.get?_key found
  have row := deleteUserPII_row found deleted
  constructor
  · intro forgotten
    obtain ⟨email, name, subject⟩ := forgotten.scrubbed _ row
    refine ⟨?_, Ne.symm email, Ne.symm name⟩
    -- `Update` has left the subject as it was.
    by_contra known
    obtain ⟨s, stored⟩ := Option.ne_none_iff_exists'.mp known
    exact subject s stored stored
  · rintro ⟨unknown, email, name⟩
    refine ⟨?_, users'.identities, ?_, ?_⟩
    · intro stored present
      cases row.symm.trans present
      exact ⟨email.symm, name.symm, by simp [unknown]⟩
    · intro provider subject _ known
      simp [User.identity, unknown] at known
    · intro faults now' users'' deleted'
      rw [deleteUserPII_row row deleted', row]
      rfl

/-- A user of an identity provider, and the table with that user only. -/
def known : User :=
  ⟨"u-1", "t-default", "a@x.org", "A", some "alice", some "op-1", "", 0, "[]", 0, 0, none⟩

def knownOnly : Users :=
  ⟨⟨[known], List.nodup_singleton _⟩, List.nodup_singleton _, List.nodup_singleton _⟩

/-- After the removal a login with the old subject finds the scrubbed row. -/
theorem subject_kept : ∃ users', deleteUserPII id ⟨none, none⟩ 1 knownOnly "u-1" = .ok users' ∧
    (users'.getByOIDCSubject "op-1" "alice").map User.id = some "u-1" ∧
    ¬ Forgotten id users' known := by
  refine ⟨_, rfl, rfl, fun forgotten => ?_⟩
  exact forgotten.fresh "op-1" "alice" _ rfl rfl rfl

end Certctl.Guarantees.ScrubbedUsers
