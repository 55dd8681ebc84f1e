import Certctl.Source.Acme.RenewalInfo

/-!
The suggested renewal window. It can start in the past when the validity is unknown or
empty, because the default of one day before the expiry is not clamped, and it can end after
the expiry when the days of the policy do not fit a duration. Otherwise it is in order,
not in the past and within the life of the certificate.
-/
namespace Certctl.Guarantees.RenewalWindows

open Source Source.Acme Source.Scep

/-- In order, not in the past, and within the life of the certificate. -/
def SaneWindow (notAfter now : Time) (window : Time × Time) : Prop :=
  window.1 ≤ window.2 ∧ now ≤ window.1 ∧ (now ≤ notAfter → window.2 ≤ notAfter)

variable {notAfter now : Int}

/-- A clamped window is sane when what is clamped is within the life of the certificate. -/
theorem clampWindow_sane (nonzero : now ≠ 0) (alive : now ≤ notAfter)
    (start stop : Int) : SaneWindow notAfter now (clampWindow now start stop) ↔
      start ≤ notAfter ∧ stop ≤ notAfter := by
  simp only [SaneWindow, clampWindow]
  split <;> split <;> grind

/-- A window of so many days reaches over the expiry when the product is negative, unless it is
the least duration. -/
theorem daysWindow_sane (nonzero : now ≠ 0) (alive : now ≤ notAfter)
    (w : Int) : SaneWindow notAfter now (clampWindow now (notAfter + negateDuration w)
      (notAfter + negateDuration w + w.tdiv 2)) ↔ 0 ≤ w ∨ w = minDuration := by
  rw [clampWindow_sane nonzero alive]
  by_cases least : w = minDuration
  · subst least
    have back : negateDuration minDuration = -9223372036854775808 := by decide
    have half : minDuration.tdiv 2 = -4611686018427387904 := by decide
    rw [back, half]
    exact iff_of_true ⟨by omega, by omega⟩ (.inr rfl)
  · rw [negateDuration, if_neg least]
    simp only [least, or_false]
    constructor
    · intro within
      omega
    · intro nonnegative
      have half : w.tdiv 2 = w / 2 := Int.tdiv_eq_ediv_of_nonneg nonnegative
      constructor <;> omega

/-- The default window is the last third, without its last ninth. -/
theorem thirdWindow_sane (nonzero : now ≠ 0) (alive : now ≤ notAfter)
    {validity : Int} (positive : 0 < validity) :
    SaneWindow notAfter now (clampWindow now (notAfter - validity.tdiv 3)
      (notAfter + (-validity.tdiv 3).tdiv 3)) := by
  have third : 0 ≤ validity.tdiv 3 := Int.tdiv_nonneg (Int.le_of_lt positive) (by decide)
  have ninth : 0 ≤ (validity.tdiv 3).tdiv 3 := Int.tdiv_nonneg third (by decide)
  rw [clampWindow_sane nonzero alive, Int.neg_tdiv]
  constructor <;> omega

/-- When the suggested window is sane. -/
theorem window_sane_iff (cert : ManagedCertificate) (version : Option CertificateVersion)
    (days : Option Int) {now : Time} (nonzero : now ≠ 0) :
    SaneWindow cert.expiresAt now (computeRenewalWindow (some cert) version days now) ↔
      (now ≤ cert.expiresAt → match days.filter (0 < ·) with
        | some days => 0 ≤ daysDuration days ∨ daysDuration days = minDuration
        | none => validityOf cert version ≤ 0 → now ≤ cert.expiresAt - dayLength) := by
  unfold computeRenewalWindow
  by_cases alive : now ≤ cert.expiresAt
  · simp only [Int.not_lt.mpr alive, and_false, if_false, alive, true_implies]
    cases days.filter (0 < ·) with
    | some days => exact daysWindow_sane nonzero alive (daysDuration days)
    | none =>
      dsimp only
      split
      next empty =>
        have earlier : cert.expiresAt - dayLength ≤ cert.expiresAt := Int.sub_le_self _ (by decide)
        simp [SaneWindow, empty, earlier]
      next positive =>
        simpa [positive] using thirdWindow_sane nonzero alive (Int.not_le.mp positive)
  · have expired : now ≠ 0 ∧ cert.expiresAt < now := ⟨nonzero, Int.not_le.mp alive⟩
    have later : now ≤ now + dayLength := Int.le_add_of_nonneg_right (by decide)
    simp [SaneWindow, expired, alive, later]

/-- A certificate that expires at this instant. -/
def sampleCertificate (expiresAt : Time) : ManagedCertificate :=
  ⟨"mc-1", "web", "web", [], "iss-1", "", .active, expiresAt, none, "", .api, 0⟩

/-- A month before the expiry, with a policy of thirty days. -/
theorem window_sane_thirty_days :
    SaneWindow (40 * dayLength) (10 * dayLength)
      (computeRenewalWindow (some (sampleCertificate (40 * dayLength))) none (some 30)
        (10 * dayLength)) :=
  (window_sane_iff (sampleCertificate (40 * dayLength)) none (some 30) (by decide)).mpr
    (fun _ => .inl (by decide))

/-- A moment before the expiry without a version the window starts a day ago, and with
106752 days it ends after the expiry. -/
theorem window_not_sane :
    (computeRenewalWindow (some (sampleCertificate dayLength)) none none (dayLength - 1)).1 <
        dayLength - 1 ∧
      dayLength <
        (computeRenewalWindow (some (sampleCertificate dayLength)) none (some 106752) 1).2 := by
  decide +kernel

end Certctl.Guarantees.RenewalWindows
