import Certctl.Source.Notifications

/-!
The rows of expiry alerts: the tag in the message by which an alert is told apart, what the
check for earlier alerts takes for an alert, and that no operation removes a row.
-/
namespace Certctl.Source.Notifications

open Lib

section Tags

def tag (threshold : Int) : List Char := (thresholdTag threshold).toList

theorem tag_eq (threshold : Int) :
    tag threshold = "[threshold:".toList ++ (decimal threshold ++ [']']) := by
  simp [tag, thresholdTag]

theorem not_mem_decimal {c : Char} (sign : c ≠ '-') (digit : ∀ d < 10, c ≠ Nat.digitChar d)
    (n : Int) : c ∉ decimal n := by
  intro member
  rcases mem_decimalPadded member with isSign | ⟨d, small, isDigit⟩
  · exact sign isSign
  · exact digit d small isDigit

/-- A character that is not in the frame of a tag, no digit and no sign. -/
theorem not_mem_tag {c : Char} (frame : c ∉ "[threshold:]".toList) (sign : c ≠ '-')
    (digit : ∀ d < 10, c ≠ Nat.digitChar d) (threshold : Int) : c ∉ tag threshold := by
  have number := not_mem_decimal sign digit threshold
  rw [tag_eq, List.mem_append, List.mem_append]
  simp_all

theorem tag_plain (threshold : Int) :
    ∀ c ∈ tag threshold, c ≠ '%' ∧ c ≠ '_' ∧ c ≠ '\\' := by
  intro c member
  refine ⟨?_, ?_, ?_⟩
  all_goals
    rintro rfl
    exact not_mem_tag (by decide) (by decide) (by decide) threshold member

/-- One tag occurs in another only if they are the same. -/
theorem tag_infix_tag {a b : Int} (found : tag a <:+: tag b) : a = b := by
  obtain ⟨front, back, whole⟩ := found
  have bracket : '[' ∉ "threshold:".toList ++ (decimal b ++ [']']) := by
    have number := not_mem_decimal (c := '[') (by decide) (by decide) b
    simp [number]
  have opened : ∀ n, tag n = '[' :: ("threshold:".toList ++ (decimal n ++ [']'])) := by
    intro n
    rw [tag_eq]
    rfl
  rw [opened a, opened b] at whole
  -- The bracket at the front of a tag is its only one.
  cases front with
  | cons c front =>
    obtain ⟨-, rest⟩ := List.cons.inj whole
    exact absurd (rest ▸ by simp) bracket
  | nil =>
    simp only [List.nil_append, List.cons_append, List.append_assoc, List.cons.injEq, true_and,
      List.append_cancel_left_eq] at whole
    have closed : ∀ n, ']' ∉ decimal n := not_mem_decimal (by decide) (by decide)
    exact decimal_inj (append_cons_inj_first (closed a) (closed b) whole).1

/-- What stands in an alert before and behind the common name. -/
theorem alertBody_frame (env : Env) (commonName : String) (expiresAt : Time)
    (daysUntil threshold : Int) :
    ∃ front middle, (alertBody env commonName expiresAt daysUntil threshold).toList =
      front ++ ' ' :: (commonName.toList ++ ' ' :: (middle ++ '\n' :: tag threshold)) ∧
      ':' ∉ front ∧ '[' ∉ middle := by
  have date := env.date_plain expiresAt
  unfold alertBody
  split
  · refine ⟨"[EXPIRED] The certificate for".toList, "has expired (".toList ++
      ((env.date expiresAt).toList ++ ").\n\nImmediate action required.\n".toList),
      by simp [tag], by decide, by simp [date]⟩
  · have number := not_mem_decimal (c := '[') (by decide) (by decide) daysUntil
    refine ⟨"The certificate for".toList, "will expire in ".toList ++ (decimal daysUntil ++
      (" days (".toList ++ ((env.date expiresAt).toList ++
        ").\n\nPlease schedule renewal.\n".toList))), by simp [tag], by decide,
      by simp [date, number]⟩

/-- The tag of a threshold occurs in the alert for another one only through the common name. -/
theorem threshold_eq_of_tag {env : Env} {commonName : String} {expiresAt : Time}
    {daysUntil threshold other : Int} (absent : ¬ tag threshold <:+: commonName.toList)
    (found : tag threshold <:+:
      (alertBody env commonName expiresAt daysUntil other).toList) : threshold = other := by
  have blank : ' ' ∉ tag threshold := not_mem_tag (by decide) (by decide) (by decide) threshold
  have newline : '\n' ∉ tag threshold := not_mem_tag (by decide) (by decide) (by decide) threshold
  have colon : ':' ∈ tag threshold := by simp [tag_eq]
  have bracket : '[' ∈ tag threshold := by simp [tag_eq]
  obtain ⟨front, middle, text, noColon, noBracket⟩ :=
    alertBody_frame env commonName expiresAt daysUntil other
  rw [text] at found
  rcases infix_append_cons blank found with inFront | behind
  · exact absurd (inFront.subset colon) noColon
  · rcases infix_append_cons blank behind with inName | behind
    · exact absurd inName absent
    · rcases infix_append_cons newline behind with inMiddle | inTag
      · exact absurd (inMiddle.subset bracket) noBracket
      · exact tag_infix_tag inTag

theorem tag_suffix_alertBody (env : Env) (commonName : String) (expiresAt : Time)
    (daysUntil threshold : Int) :
    tag threshold <:+ (alertBody env commonName expiresAt daysUntil threshold).toList := by
  obtain ⟨front, middle, text, -, -⟩ :=
    alertBody_frame env commonName expiresAt daysUntil threshold
  rw [text]
  refine ⟨front ++ ' ' :: (commonName.toList ++ ' ' :: (middle ++ ['\n'])), ?_⟩
  simp

end Tags

section Rows

variable (certID : String) (threshold : Int) (channel : NotificationChannel)

/-- The row is the alert for the certificate, the threshold and the channel. -/
def isAlert (n : NotificationEvent) : Bool :=
  decide (n.certificateID = some certID) && decide (n.type = .expirationWarning) &&
    decide (n.channel = channel) && decide (tag threshold <:+ n.message.toList)

/-- The sweep takes the row for the alert. -/
def taken (n : NotificationEvent) : Bool := (thresholdFilter certID threshold channel).matches n

variable {certID threshold channel} {n : NotificationEvent}

theorem taken_iff (named : certID ≠ "") :
    taken certID threshold channel n = true ↔ n.certificateID = some certID ∧
      n.type = .expirationWarning ∧ n.channel = channel ∧ tag threshold <:+: n.message.toList := by
  have pattern : (thresholdFilter certID threshold channel).messageLike.toList =
      '%' :: (tag threshold ++ ['%']) := by
    simp [thresholdFilter, tag]
  have asked : (thresholdFilter certID threshold channel).messageLike ≠ "" := by
    intro empty
    rw [empty] at pattern
    cases pattern
  have contains := like_contains (tag_plain threshold) n.message.toList
  simp only [taken, NotificationFilter.matches, asked, pattern, decide_false, Bool.false_or,
    Bool.and_eq_true, contains]
  simp only [thresholdFilter, named, decide_false, Bool.false_or, Option.all_some, Option.all_none,
    decide_eq_true_eq]
  constructor
  · rintro ⟨⟨⟨⟨cert, type⟩, -⟩, message⟩, channel⟩
    exact ⟨of_decide_eq_true cert, type, channel, message⟩
  · rintro ⟨cert, type, channel, message⟩
    exact ⟨⟨⟨⟨decide_eq_true cert, type⟩, trivial⟩, message⟩, channel⟩

/-- An alert that the sweep creates is taken for another one only through its common name. -/
theorem isAlert_of_taken {env : Env} {commonName : String}
    {expiresAt : Time} {daysUntil other : Int} (named : certID ≠ "")
    (absent : n.certificateID = some certID → ¬ tag threshold <:+: commonName.toList)
    (message : n.message = alertBody env commonName expiresAt daysUntil other)
    (matched : taken certID threshold channel n = true) :
    isAlert certID threshold channel n = true := by
  obtain ⟨cert, type, onChannel, contains⟩ := (taken_iff named).mp matched
  rw [message] at contains
  have same := threshold_eq_of_tag (absent cert) contains
  subst same
  have ends := tag_suffix_alertBody env commonName expiresAt daysUntil threshold
  rw [← message] at ends
  simp [isAlert, cert, type, onChannel, ends]

end Rows

/-- The fields by which an alert is told apart. -/
def SameAlert (n n' : NotificationEvent) : Prop :=
  n'.id = n.id ∧ n'.certificateID = n.certificateID ∧ n'.type = n.type ∧ n'.channel = n.channel ∧
    n'.message = n.message

variable {f : NotificationEvent → NotificationEvent} {n n' : NotificationEvent}

theorem SameAlert.isAlert (same : SameAlert n n') (certID : String)
    (threshold : Int) (channel : NotificationChannel) :
    isAlert certID threshold channel n' = isAlert certID threshold channel n := by
  obtain ⟨-, cert, type, onChannel, message⟩ := same
  simp only [Notifications.isAlert, cert, type, onChannel, message]

theorem SameAlert.taken (same : SameAlert n n') (certID : String)
    (threshold : Int) (channel : NotificationChannel) :
    taken certID threshold channel n' = taken certID threshold channel n := by
  obtain ⟨-, cert, type, onChannel, message⟩ := same
  unfold Notifications.taken NotificationFilter.matches
  rw [cert, type, onChannel, message]
  rfl

/-- The rows stay, but for their delivery. -/
def Stay (db db' : DB) : Prop :=
  ∀ n ∈ db.notifications.rows, ∃ n' ∈ db'.notifications.rows, SameAlert n n'

variable {db db' : DB} {id : String}

theorem Stay.of_rows (rows : db'.notifications = db.notifications) : Stay db db' :=
  fun n member => ⟨n, rows ▸ member, rfl, rfl, rfl, rfl, rfl⟩

theorem Stay.trans {db db₁ db' : DB} (first : Stay db db₁) (second : Stay db₁ db') :
    Stay db db' := by
  intro n member
  obtain ⟨n₁, member₁, id₁, cert₁, type₁, channel₁, message₁⟩ := first n member
  obtain ⟨n', member', id', cert', type', channel', message'⟩ := second n₁ member₁
  exact ⟨n', member', id'.trans id₁, cert'.trans cert₁, type'.trans type₁,
    channel'.trans channel₁, message'.trans message₁⟩

theorem Stay.of_patched (patched : Patched id f db db') (same : ∀ n, SameAlert n (f n)) :
    Stay db db' := by
  intro n member
  have found := Table.get?_of_mem member
  by_cases own : n.id = id
  · refine ⟨f n, Table.get?_mem (k := n.id) ?_, same n⟩
    rw [patched.row, if_pos own, found, Option.map_some]
  · refine ⟨n, Table.get?_mem (k := n.id) ?_, rfl, rfl, rfl, rfl, rfl⟩
    rw [patched.row, if_neg own, found]

theorem stay_updateRow {α : Type} {keeps : ∀ n, (f n).id = n.id} {g : DB → DB × α} {value : α}
    (updated : (db.updateRow id f keeps).map g = .ok (db', value)) (same : ∀ n, SameAlert n (f n))
    (rows : ∀ db, (g db).1.notifications = db.notifications) : Stay db db' := by
  obtain ⟨db₁, updated₁, patched⟩ | ⟨⟨e, failed⟩, -⟩ := updateRow_patched db id f keeps
  · rw [updated₁] at updated
    have result : g db₁ = (db', value) := Except.ok.inj updated
    have after := rows db₁
    rw [result] at after
    exact (Stay.of_patched patched same).trans (.of_rows after)
  · rw [failed] at updated
    cases updated

theorem stay_perform {q : Query} {value : q.Value}
    (performed : perform db q = .ok (db', value)) : Stay db db' := by
  cases q with
  | create n =>
    simp only [perform] at performed
    split at performed
    next notifications inserted =>
      cases performed
      intro m member
      refine ⟨m, ?_, rfl, rfl, rfl, rfl, rfl⟩
      rw [(Table.insert_rows inserted).1]
      exact List.mem_append_left _ member
    next => cases performed
  | list | listRetryEligible =>
    cases performed
    exact .of_rows rfl
  | updateStatus | recordFailedAttempt | markAsDead | requeue =>
    exact stay_updateRow performed (fun _ => ⟨rfl, rfl, rfl, rfl, rfl⟩) (fun _ => rfl)
  | getPolicy id =>
    simp only [perform] at performed
    split at performed
    · cases performed
      exact .of_rows rfl
    · cases performed

/-- No operation removes a row, whatever fails. -/
theorem stay_exec (env : Env) (db : DB) (o : Op) (c : Choice) : Stay db (exec env db o c).1 := by
  cases o with
  | base o => exact .of_rows rfl
  | send delivery n => cases delivery <;> exact .of_rows rfl
  | query q =>
    simp only [exec, execQuery]
    split
    next performed => exact stay_perform performed
    next => exact .of_rows rfl
    next performed => exact stay_perform performed
    next => exact .of_rows rfl

theorem stay_run (env : Env) (body : Service) (choices : Nat → Choice) (db : DB) :
    Stay db (body.run (exec env) choices 0 db).1 := by
  have all : body.All (fun _ => True) := body.all_of_forall (fun _ => trivial)
  exact all.run (R := Stay) (fun _ => .of_rows rfl) (fun _ _ _ => Stay.trans)
    (fun db o c _ => stay_exec env db o c) choices 0 db

end Certctl.Source.Notifications
