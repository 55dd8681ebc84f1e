import Certctl.Lib.Table
import Certctl.Lib.Transition

/-!
Claiming rows of a table with row locks that are not waited for. A transaction runs one
locking select after another, each on the rows as they are committed when it begins. A row
that another transaction has locked is passed over. A row that has changed since the select
began is looked at again, in its present form but with the rest of the database as the
select found it. At the end the selected rows are updated, and the commit makes the update
visible and gives the locks back. Other writers change rows that are not locked.
-/
namespace Certctl.Lib.RowClaim

/-- A locking select: its condition on a row and on the rest of the database, its order, what
else the present form of a changed row has to meet, the most rows it takes, and whether the
transaction updates the rows it takes. -/
structure Select (ρ σ : Type) where
  selects : σ → ρ → Bool
  order : List ρ → List ρ
  perm : ∀ rows, (order rows).Perm rows
  follows : ρ → ρ → Bool
  stays : ∀ row, follows row row = true
  limit : Option Nat
  updates : Bool

/-- A row a select has taken, with the rest of the database as that select found it. -/
structure Taken (ρ σ : Type) where
  select : Select ρ σ
  row : ρ
  others : σ

inductive Stage (ρ σ : Type) where
  /-- Between two statements; the selects still to come. -/
  | between (rest : List (Select ρ σ))
  /-- In a select: the rows it has still to try, and how many it has taken. -/
  | scanning (select : Select ρ σ) (others : σ) (left : List ρ) (count : Nat)
      (rest : List (Select ρ σ))
  /-- The update is made and not yet visible. -/
  | updated (images : List ρ)
  | closed

structure Tx (ρ σ κ γ : Type) where
  call : γ
  stage : Stage ρ σ
  locks : List κ
  taken : List (Taken ρ σ)

/-- What a commit returns to its caller. -/
structure Delivery (ρ σ γ : Type) where
  call : γ
  taken : List (Taken ρ σ)

structure Sys (ρ σ κ γ : Type) (key : ρ → κ) where
  rows : Table key
  others : σ
  txs : List (Tx ρ σ κ γ)
  history : List (Delivery ρ σ γ)

inductive Move (ρ σ γ τ : Type) where
  | begin (call : γ)
  /-- The next step of a transaction; some other writer may have locked the row it tries. -/
  | next (i : Nat) (busy : Bool) (now : τ)
  | abort (i : Nat)
  /-- Another writer commits a change to a row, or a new row. -/
  | write (row : ρ)
  | change (others : σ)

/-- The moves of the claiming transactions. -/
def Move.claims {ρ σ γ τ : Type} : Move ρ σ γ τ → Bool
  | .write _ | .change _ => false
  | _ => true

variable {ρ σ κ γ τ : Type} [DecidableEq κ] {key : ρ → κ}

def updatedRows (taken : List (Taken ρ σ)) : List ρ :=
  (taken.filter (fun x => x.select.updates)).map Taken.row

/-- The written form of a row, where there is one. -/
def imageOf (key : ρ → κ) (images : List ρ) (row : ρ) : ρ :=
  (images.find? (fun image => decide (key image = key row))).getD row

theorem imageOf_key (images : List ρ) (row : ρ) : key (imageOf key images row) = key row := by
  unfold imageOf
  cases found : images.find? (fun image => decide (key image = key row)) with
  | none => rfl
  | some image => simpa using List.find?_some found

section Step

variable (statements : γ → List (Select ρ σ)) (image : τ → ρ → ρ)

/-- A try at a row: the transaction locks it, and takes it if it has not changed or still
meets the condition. -/
def tryRow (rows : Table key) (select : Select ρ σ) (others : σ) (row : ρ) : Option ρ :=
  (rows.get? (key row)).filter (fun present => select.selects others present &&
    select.follows row present)

def lockedByOther (s : Sys ρ σ κ γ key) (i : Nat) (k : κ) : Bool :=
  (s.txs.eraseIdx i).any (fun tx => tx.locks.contains k)

/-- The transaction after its next step, short of the commit. -/
def advance (s : Sys ρ σ κ γ key) (i : Nat) (busy : Bool) (now : τ) (tx : Tx ρ σ κ γ) :
    Option (Tx ρ σ κ γ) :=
  match tx.stage with
  | .between (select :: rest) => some { tx with
      stage := .scanning select s.others
        (select.order (s.rows.rows.filter (select.selects s.others))) 0 rest }
  | .between [] => some { tx with
      stage := .updated ((updatedRows tx.taken).filterMap (fun row =>
        (s.rows.get? (key row)).map (image now))) }
  | .scanning select others (row :: left) count rest =>
    if select.limit.any (fun most => decide (most ≤ count)) then
      some { tx with stage := .between rest }
    else if busy || lockedByOther s i (key row) then
      some { tx with stage := .scanning select others left count rest }
    else
      match tryRow s.rows select others row with
      | some present => some { tx with
          stage := .scanning select others left (count + 1) rest
          locks := key row :: tx.locks
          taken := tx.taken ++ [⟨select, present, others⟩] }
      | none => some { tx with
          stage := .scanning select others left count rest
          locks := key row :: tx.locks }
  | .scanning _ _ [] _ rest => some { tx with stage := .between rest }
  | .updated _ | .closed => none

def close (tx : Tx ρ σ κ γ) : Tx ρ σ κ γ := { tx with stage := .closed, locks := [] }

/-- The committed rows after the commit. -/
def publish (rows : Table key) (images : List ρ) : Table key :=
  rows.updateWhere (fun _ => true) (imageOf key images) (imageOf_key images)

def claimStep (s : Sys ρ σ κ γ key) : Move ρ σ γ τ → Option (Sys ρ σ κ γ key)
  | .begin call =>
    some { s with txs := s.txs ++ [⟨call, .between (statements call), [], []⟩] }
  | .next i busy now =>
    match s.txs[i]? with
    | none => none
    | some tx =>
      match tx.stage with
      | .updated images => some { s with
          rows := publish s.rows images
          txs := s.txs.set i (close tx)
          history := s.history ++ [⟨tx.call, tx.taken⟩] }
      | _ => (advance image s i busy now tx).map (fun tx' => { s with txs := s.txs.set i tx' })
  | .abort i =>
    match s.txs[i]? with
    | none => none
    | some tx => some { s with txs := s.txs.set i (close tx) }
  | .write row =>
    if s.txs.any (fun tx => tx.locks.contains (key row)) then none
    else some { s with rows := s.rows.upsert row }
  | .change others => some { s with others }

end Step

/-- No row meets both conditions. -/
def Exclusive (a b : Select ρ σ) : Prop :=
  ∀ others others' row, a.selects others row = true → b.selects others' row = true → False

section Invariant

variable (statements : γ → List (Select ρ σ)) (image : τ → ρ → ρ)

/-- The selects to come are those of the call, and no row taken so far meets one of them. -/
structure Ahead (call : γ) (taken : List (Taken ρ σ)) (rest : List (Select ρ σ)) : Prop where
  exclusive : rest.Pairwise Exclusive
  own : ∀ b ∈ rest, b ∈ statements call
  apart : ∀ b ∈ rest, ∀ x ∈ taken, Exclusive x.select b

/-- A select under way has still to try other rows than those it has taken. -/
structure Under (key : ρ → κ) (call : γ) (taken : List (Taken ρ σ)) (select : Select ρ σ)
    (left : List ρ) (rest : List (Select ρ σ)) : Prop where
  ahead : Ahead statements call taken rest
  own : select ∈ statements call
  exclusive : ∀ b ∈ rest, Exclusive select b
  distinct : (left.map key).Nodup
  apart : ∀ x ∈ taken, key x.row ∉ left.map key ∨ Exclusive x.select select

def StageOk (key : ρ → κ) (tx : Tx ρ σ κ γ) : Prop :=
  match tx.stage with
  | .between rest => Ahead statements tx.call tx.taken rest
  | .scanning select _ left _ rest => Under statements key tx.call tx.taken select left rest
  | .updated images => ∃ now, images = (updatedRows tx.taken).map (image now)
  | .closed => True

/-- The rows an open transaction has taken are its own: locked, and stored as it took them. -/
structure Open (rows : Table key) (tx : Tx ρ σ κ γ) : Prop where
  held : ∀ x ∈ tx.taken, key x.row ∈ tx.locks ∧ rows.get? (key x.row) = some x.row
  chosen : ∀ x ∈ tx.taken, x.select ∈ statements tx.call ∧ x.select.selects x.others x.row = true
  distinct : (tx.taken.map (fun x => key x.row)).Nodup
  stage : StageOk statements image key tx

structure Inv (s : Sys ρ σ κ γ key) : Prop where
  exclusive : ∀ (i j : Nat) (tx tx' : Tx ρ σ κ γ) k, s.txs[i]? = some tx →
    s.txs[j]? = some tx' → k ∈ tx.locks → k ∈ tx'.locks → i = j
  closed : ∀ tx ∈ s.txs, tx.stage = .closed → tx.locks = []
  sound : ∀ tx ∈ s.txs, tx.stage ≠ .closed → Open statements image s.rows tx

/-- What a commit returns and writes: rows that are stored as they are returned, each once and
each by one of the call's selects, and the images of those it updates. -/
structure Commit (s s' : Sys ρ σ κ γ key) (d : Delivery ρ σ γ) (now : τ) : Prop where
  history : s'.history = s.history ++ [d]
  distinct : (d.taken.map (fun x => key x.row)).Nodup
  chosen : ∀ x ∈ d.taken, x.select ∈ statements d.call ∧ x.select.selects x.others x.row = true
  stored : ∀ x ∈ d.taken, s.rows.get? (key x.row) = some x.row
  rows : ∀ k, s'.rows.get? k =
    if k ∈ (updatedRows d.taken).map key then (s.rows.get? k).map (image now) else s.rows.get? k

variable {statements image} {s : Sys ρ σ κ γ key} {tx : Tx ρ σ κ γ}

/-- The other tables and the locks of others play no part. -/
theorem Open.of_rows {rows rows' : Table key} (isOpen : Open statements image rows tx)
    (same : ∀ x ∈ tx.taken, rows'.get? (key x.row) = rows.get? (key x.row)) :
    Open statements image rows' tx :=
  ⟨fun x member => ⟨(isOpen.held x member).1, (same x member).trans (isOpen.held x member).2⟩,
    isOpen.chosen, isOpen.distinct, isOpen.stage⟩

variable {select : Select ρ σ} {rows : Table key} {row present : ρ}

theorem tryRow_some {others : σ} (found : tryRow rows select others row = some present) :
    rows.get? (key row) = some present ∧ select.selects others present = true := by
  unfold tryRow at found
  rw [Option.filter_eq_some_iff] at found
  exact ⟨found.1, (Bool.and_eq_true_iff.mp found.2).1⟩

variable (isOpen : Open statements image s.rows tx)

include isOpen in
/-- A row that is taken is none of those taken before. -/
theorem fresh_of_under {others : σ} {left : List ρ} {rest : List (Select ρ σ)}
    (under : Under statements key tx.call tx.taken select (row :: left) rest)
    (found : tryRow s.rows select others row = some present) :
    key present ∉ tx.taken.map (fun x => key x.row) := by
  obtain ⟨stored, selected⟩ := tryRow_some found
  have keyed : key present = key row := Table.get?_key stored
  intro again
  obtain ⟨x, member, same⟩ := List.mem_map.mp again
  rcases under.apart x member with absent | exclusive
  · exact absent (List.mem_map.mpr ⟨row, List.mem_cons_self, by rw [same, keyed]⟩)
  · have present' := (isOpen.held x member).2
    rw [same, keyed, stored] at present'
    cases present'
    exact exclusive _ _ _ (isOpen.chosen x member).2 selected

include isOpen in
/-- What the transaction knows once it has a lock more, or another stage. -/
theorem Open.restage {locks : List κ} {stage : Stage ρ σ} (keeps : ∀ k ∈ tx.locks, k ∈ locks)
    (ok : StageOk statements image key { tx with stage, locks }) :
    Open statements image s.rows { tx with stage, locks } :=
  ⟨fun x member => ⟨keeps _ (isOpen.held x member).1, (isOpen.held x member).2⟩, isOpen.chosen,
    isOpen.distinct, ok⟩

section Stages

variable {call : γ} {taken : List (Taken ρ σ)} {select : Select ρ σ} {others : σ} {row : ρ}
  {left : List ρ} {rest : List (Select ρ σ)}

omit [DecidableEq κ]

/-- A select begins with the rows that meet its condition, each once. -/
theorem under_begin (rows : Table key) (ahead : Ahead statements call taken (select :: rest))
    (others : σ) :
    Under statements key call taken select
      (select.order (rows.rows.filter (select.selects others))) rest := by
  obtain ⟨first, later⟩ := List.pairwise_cons.mp ahead.exclusive
  refine ⟨⟨later, fun b member => ahead.own b (List.mem_cons_of_mem _ member),
    fun b member => ahead.apart b (List.mem_cons_of_mem _ member)⟩,
    ahead.own select List.mem_cons_self, first, ?_, fun x member =>
    .inr (ahead.apart select List.mem_cons_self x member)⟩
  rw [((select.perm _).map key).nodup_iff]
  exact rows.unique.sublist (List.filter_sublist.map key)

theorem Under.pass (under : Under statements key call taken select (row :: left) rest) :
    Under statements key call taken select left rest :=
  ⟨under.ahead, under.own, under.exclusive, (List.nodup_cons.mp under.distinct).2,
    fun x member => (under.apart x member).imp_left fun absent later =>
      absent (List.mem_cons_of_mem _ later)⟩

theorem Under.take (under : Under statements key call taken select (row :: left) rest)
    {present : ρ} (keyed : key present = key row) :
    Under statements key call (taken ++ [⟨select, present, others⟩]) select left rest := by
  obtain ⟨notLater, distinct⟩ := List.nodup_cons.mp under.distinct
  refine ⟨⟨under.ahead.exclusive, under.ahead.own, fun b member x isTaken => ?_⟩, under.own,
    under.exclusive, distinct, fun x isTaken => ?_⟩
  · rcases mem_snoc isTaken with old | rfl
    · exact under.ahead.apart b member x old
    · exact under.exclusive b member
  · rcases mem_snoc isTaken with old | rfl
    · exact (under.apart x old).imp_left fun absent later => absent (List.mem_cons_of_mem _ later)
    · exact .inl (keyed ▸ notLater)

end Stages

include isOpen in
theorem Open.take {others : σ} {left : List ρ} {rest : List (Select ρ σ)}
    (under : Under statements key tx.call tx.taken select (row :: left) rest)
    (found : tryRow s.rows select others row = some present) {count : Nat} :
    Open statements image s.rows { tx with
      stage := .scanning select others left count rest
      locks := key row :: tx.locks
      taken := tx.taken ++ [⟨select, present, others⟩] } := by
  obtain ⟨stored, selected⟩ := tryRow_some found
  have keyed : key present = key row := Table.get?_key stored
  refine ⟨forall_mem_snoc (fun x old => ?_) ?_,
    forall_mem_snoc isOpen.chosen ⟨under.own, selected⟩, ?_, under.take keyed⟩
  · exact ⟨List.mem_cons_of_mem _ (isOpen.held x old).1, (isOpen.held x old).2⟩
  · rw [keyed]
    exact ⟨List.mem_cons_self, stored⟩
  · rw [List.map_append, List.map_singleton, (List.perm_append_singleton _ _).nodup_iff]
    exact List.nodup_cons.mpr ⟨fresh_of_under isOpen under found, isOpen.distinct⟩

include isOpen in
/-- The images of the update are those of the rows as they were taken. -/
theorem Open.images (now : τ) :
    (updatedRows tx.taken).filterMap (fun row => (s.rows.get? (key row)).map (image now)) =
      (updatedRows tx.taken).map (image now) := by
  rw [← List.filterMap_eq_map]
  refine List.filterMap_congr fun row member => ?_
  obtain ⟨x, isTaken, rfl⟩ := List.mem_map.mp member
  rw [(isOpen.held x (List.mem_filter.mp isTaken).1).2]
  rfl

variable {busy : Bool} {i : Nat} {now : τ} {tx' : Tx ρ σ κ γ} {s' : Sys ρ σ κ γ key}
  {init : Sys ρ σ κ γ key → Prop} {ok : Sys ρ σ κ γ key → Move ρ σ γ τ → Prop} {k : κ}

include isOpen in
/-- A step short of the commit keeps what the transaction has, and locks at most one row that
no other has locked. -/
theorem Open.advance (moved : advance image s i busy now tx = some tx') :
    Open statements image s.rows tx' ∧ tx'.stage ≠ .closed ∧
      (tx'.locks = tx.locks ∨
        ∃ k, lockedByOther s i k = false ∧ tx'.locks = k :: tx.locks) := by
  have ok := isOpen.stage
  unfold RowClaim.advance at moved
  unfold StageOk at ok
  cases stage : tx.stage with
  | between rest =>
    simp only [stage] at moved ok
    cases rest with
    | nil =>
      cases moved
      refine ⟨isOpen.restage (fun _ held => held) ?_, by simp, .inl rfl⟩
      exact ⟨now, isOpen.images now⟩
    | cons select rest =>
      cases moved
      exact ⟨isOpen.restage (fun _ held => held) (under_begin s.rows ok s.others), by simp,
        .inl rfl⟩
  | scanning select others left count rest =>
    simp only [stage] at moved ok
    cases left with
    | nil =>
      cases moved
      exact ⟨isOpen.restage (fun _ held => held) ok.ahead, by simp, .inl rfl⟩
    | cons row left =>
      dsimp only at moved
      split at moved
      · cases moved
        exact ⟨isOpen.restage (fun _ held => held) ok.ahead, by simp, .inl rfl⟩
      split at moved
      · cases moved
        exact ⟨isOpen.restage (fun _ held => held) ok.pass, by simp, .inl rfl⟩
      next free =>
        have unlocked : lockedByOther s i (key row) = false := by
          simp only [Bool.or_eq_true, not_or, Bool.not_eq_true] at free
          exact free.2
        split at moved
        next present found =>
          cases moved
          exact ⟨isOpen.take ok found, by simp, .inr ⟨_, unlocked, rfl⟩⟩
        next =>
          cases moved
          exact ⟨isOpen.restage (fun _ held => List.mem_cons_of_mem _ held) ok.pass, by simp,
            .inr ⟨_, unlocked, rfl⟩⟩
  | updated images =>
    simp only [stage] at moved
    cases moved
  | closed =>
    simp only [stage] at moved
    cases moved

theorem lockedByOther_eq_false {j : Nat} {other : Tx ρ σ κ γ} (free : lockedByOther s i k = false)
    (found : s.txs[j]? = some other) (held : k ∈ other.locks) : j = i := by
  by_contra different
  have member : other ∈ s.txs.eraseIdx i :=
    List.mem_eraseIdx_iff_getElem?.mpr ⟨j, different, found⟩
  unfold lockedByOther at free
  rw [List.any_eq_false] at free
  exact free other member (List.contains_iff_mem.mpr held)

variable (inv : Inv statements image s)

include inv in
/-- One transaction moves: it may lock what no other has locked, and the rows the others have
taken stay. -/
theorem Inv.move {history : List (Delivery ρ σ γ)} (current : s.txs[i]? = some tx)
    (locks : ∀ k ∈ tx'.locks, k ∈ tx.locks ∨ lockedByOther s i k = false)
    (closed : tx'.stage = .closed → tx'.locks = [])
    (sound : tx'.stage ≠ .closed → Open statements image rows tx')
    (kept : ∀ j other, j ≠ i → s.txs[j]? = some other → other.stage ≠ .closed →
      ∀ x ∈ other.taken, rows.get? (key x.row) = s.rows.get? (key x.row)) :
    Inv statements image { s with rows, history, txs := s.txs.set i tx' } := by
  have apart : ∀ j other k, j ≠ i → s.txs[j]? = some other → k ∈ other.locks →
      k ∉ tx'.locks := by
    intro j other k different found held mine
    rcases locks k mine with before | free
    · exact different (inv.exclusive j i other tx k found current held before)
    · exact different (lockedByOther_eq_false free found held)
  refine ⟨?_, ?_, ?_⟩
  · intro a b one two k atA atB heldA heldB
    rcases getElem?_set_cases atA with ⟨rfl, rfl⟩ | ⟨differentA, foundA⟩
    · rcases getElem?_set_cases atB with ⟨rfl, rfl⟩ | ⟨differentB, foundB⟩
      · rfl
      · exact absurd heldA (apart b two k differentB foundB heldB)
    · rcases getElem?_set_cases atB with ⟨rfl, rfl⟩ | ⟨differentB, foundB⟩
      · exact absurd heldB (apart a one k differentA foundA heldA)
      · exact inv.exclusive a b one two k foundA foundB heldA heldB
  · exact forall_mem_set inv.closed closed
  · intro other member notClosed
    obtain ⟨j, found⟩ := List.mem_iff_getElem?.mp member
    rcases getElem?_set_cases found with ⟨rfl, rfl⟩ | ⟨different, found⟩
    · exact sound notClosed
    · exact (inv.sound other (List.mem_of_getElem? found) notClosed).of_rows
        (kept j other different found notClosed)

section Commit

variable {images : List ρ}

theorem get?_publish (rows : Table key) (images : List ρ) (k : κ) :
    (publish rows images).get? k = (rows.get? k).map (imageOf key images) := by
  unfold publish
  rw [Table.get?_updateWhere]
  simp only [if_true]

theorem get?_publish_of_not_mem (other : k ∉ images.map key) :
    (publish rows images).get? k = rows.get? k := by
  rw [get?_publish]
  cases found : rows.get? k with
  | none => rfl
  | some row =>
    have absent : images.find? (fun image => decide (key image = key row)) = none := by
      rw [List.find?_eq_none]
      intro image member same
      rw [decide_eq_true_eq, Table.get?_key found] at same
      exact other (List.mem_map.mpr ⟨image, member, same⟩)
    rw [Option.map_some, imageOf, absent]
    rfl

/-- The commit gives each updated row its image and leaves the others. -/
theorem Open.get?_publish (keeps : ∀ now row, key (image now row) = key row)
    (isOpen : Open statements image s.rows tx) (now : τ) (k : κ) :
    (publish s.rows ((updatedRows tx.taken).map (image now))).get? k =
      if k ∈ (updatedRows tx.taken).map key then (s.rows.get? k).map (image now)
      else s.rows.get? k := by
  have sameKeys : ((updatedRows tx.taken).map (image now)).map key =
      (updatedRows tx.taken).map key := by
    rw [List.map_map]
    exact List.map_congr_left fun row _ => keeps now row
  have stored : ∀ row ∈ updatedRows tx.taken, s.rows.get? (key row) = some row := by
    intro row member
    obtain ⟨x, isTaken, rfl⟩ := List.mem_map.mp member
    exact (isOpen.held x (List.mem_filter.mp isTaken).1).2
  split
  next updated =>
    obtain ⟨row, member, rfl⟩ := List.mem_map.mp updated
    rw [RowClaim.get?_publish, stored row member, Option.map_some, Option.map_some]
    have found : ((updatedRows tx.taken).map (image now)).find?
        (fun image => decide (key image = key row)) = some (image now row) := by
      rw [List.find?_map]
      simp only [Function.comp_def, keeps, Table.find?_of_rows stored member, Option.map_some]
    rw [imageOf, found, Option.getD_some]
  next other => exact get?_publish_of_not_mem (sameKeys.symm ▸ other)

end Commit

/-- A step of a transaction is its commit or a step short of it. -/
theorem claimStep_next (taken : claimStep statements image s (.next i busy now) = some s') :
    ∃ tx, s.txs[i]? = some tx ∧
      ((∃ images, tx.stage = .updated images ∧ s' = { s with
          rows := publish s.rows images
          txs := s.txs.set i (close tx)
          history := s.history ++ [⟨tx.call, tx.taken⟩] }) ∨
        ∃ tx', advance image s i busy now tx = some tx' ∧
          s' = { s with txs := s.txs.set i tx' }) := by
  simp only [claimStep] at taken
  split at taken
  · cases taken
  next tx current =>
    refine ⟨tx, current, ?_⟩
    split at taken
    next images stage =>
      cases taken
      exact .inl ⟨images, stage, rfl⟩
    next =>
      obtain ⟨tx', moved, rfl⟩ := Option.map_eq_some_iff.mp taken
      exact .inr ⟨tx', moved, rfl⟩

theorem advance_isOpen (moved : advance image s i busy now tx = some tx') : tx.stage ≠ .closed := by
  intro stage
  simp only [advance, stage] at moved
  cases moved

/-- The images a commit writes belong to rows its transaction has locked. -/
theorem Open.image_locked (keeps : ∀ now row, key (image now row) = key row)
    (isOpen : Open statements image s.rows tx) {images : List ρ}
    (stage : tx.stage = .updated images) (written : k ∈ images.map key) : k ∈ tx.locks := by
  have ok := isOpen.stage
  simp only [StageOk, stage] at ok
  obtain ⟨now, rfl⟩ := ok
  rw [List.map_map] at written
  obtain ⟨row, member, rfl⟩ := List.mem_map.mp written
  obtain ⟨x, isTaken, rfl⟩ := List.mem_map.mp member
  rw [Function.comp_apply, keeps]
  exact (isOpen.held x (List.mem_filter.mp isTaken).1).1

variable (exclusive : ∀ call, (statements call).Pairwise Exclusive)
  (keeps : ∀ now row, key (image now row) = key row) {m : Move ρ σ γ τ}

include inv in
include exclusive in
theorem Inv.begin (call : γ) :
    Inv statements image
      { s with txs := s.txs ++ [⟨call, .between (statements call), [], []⟩] } := by
  refine ⟨?_, ?_, ?_⟩
  · intro a b one two k atA atB heldA heldB
    rcases getElem?_append_cases atA with foundA | ⟨-, rfl⟩
    · rcases getElem?_append_cases atB with foundB | ⟨-, rfl⟩
      · exact inv.exclusive a b one two k foundA foundB heldA heldB
      · cases heldB
    · cases heldA
  · exact forall_mem_snoc inv.closed fun _ => rfl
  · exact forall_mem_snoc inv.sound fun _ =>
      ⟨fun x isTaken => (by cases isTaken), fun x isTaken => (by cases isTaken),
        List.nodup_nil, exclusive call, fun _ own => own, fun _ _ x isTaken => (by cases isTaken)⟩

include inv in
theorem Inv.close (current : s.txs[i]? = some tx) :
    Inv statements image { s with txs := s.txs.set i (close tx) } :=
  inv.move current (fun _ held => (by cases held)) (fun _ => rfl)
    (fun notClosed => absurd rfl notClosed) (fun _ _ _ _ _ _ _ => rfl)

include inv in
include keeps in
theorem Inv.next (taken : claimStep statements image s (.next i busy now) = some s') :
    Inv statements image s' := by
  obtain ⟨tx, current, ⟨images, stage, rfl⟩ | ⟨tx', moved, rfl⟩⟩ := claimStep_next taken
  · have isOpen := inv.sound tx (List.mem_of_getElem? current) (by simp [stage])
    refine inv.move current (fun _ held => (by cases held)) (fun _ => rfl)
      (fun notClosed => absurd rfl notClosed) ?_
    -- the other transactions have taken rows that this one has not locked
    intro j other different found notClosed x isTaken
    apply get?_publish_of_not_mem
    intro written
    have mine := isOpen.image_locked keeps stage written
    have theirs := ((inv.sound other (List.mem_of_getElem? found) notClosed).held x isTaken).1
    exact different (inv.exclusive j i other tx _ found current theirs mine)
  · have isOpen := inv.sound tx (List.mem_of_getElem? current) (advance_isOpen moved)
    obtain ⟨stays, notClosed, locks⟩ := isOpen.advance moved
    refine inv.move current ?_ (fun isClosed => absurd isClosed notClosed) (fun _ => stays)
      (fun _ _ _ _ _ _ _ => rfl)
    intro k held
    rcases locks with same | ⟨new, free, locks⟩
    · exact .inl (same ▸ held)
    · rw [locks] at held
      rcases List.mem_cons.mp held with rfl | before
      · exact .inr free
      · exact .inl before

include inv in
theorem Inv.write {row : ρ} (free : s.txs.any (fun tx => tx.locks.contains (key row)) = false) :
    Inv statements image { s with rows := s.rows.upsert row } := by
  refine ⟨inv.exclusive, inv.closed, fun tx member notClosed => ?_⟩
  have isOpen := inv.sound tx member notClosed
  refine isOpen.of_rows fun x isTaken => ?_
  rw [Table.get?_upsert, if_neg]
  intro same
  exact List.any_eq_false.mp free tx member
    (List.contains_iff_mem.mpr (same ▸ (isOpen.held x isTaken).1))

include inv in
include exclusive keeps in
theorem Inv.step (taken : claimStep statements image s m = some s') : Inv statements image s' := by
  cases m with
  | begin call =>
    cases taken
    exact inv.begin exclusive call
  | next i busy now => exact inv.next keeps taken
  | abort i =>
    simp only [claimStep] at taken
    split at taken
    · cases taken
    next tx current =>
      cases taken
      exact inv.close current
  | write row =>
    obtain ⟨free, ⟨⟩⟩ := of_else taken nofun
    exact inv.write (by simpa using free)
  | change others =>
    cases taken
    exact ⟨inv.exclusive, inv.closed, inv.sound⟩

include exclusive keeps in
/-- In every interleaving, from any table and with no transaction under way. -/
theorem inv_of_reachable (idle : ∀ s, init s → s.txs = [])
    (reached : ReachableUnder (claimStep statements image) init ok s) : Inv statements image s := by
  refine reached.invariant (fun s initial => ?_) (fun _ _ _ inv _ taken =>
    inv.step exclusive keeps taken)
  have none := idle s initial
  exact ⟨fun i j tx tx' k found => by simp [none] at found,
    fun tx member => by simp [none] at member, fun tx member => by simp [none] at member⟩

include keeps in
/-- A claiming transaction changes a row in its commit only. -/
theorem Inv.claims (inv : Inv statements image s) (claims : m.claims = true)
    (taken : claimStep statements image s m = some s') :
    (s'.rows = s.rows ∧ s'.history = s.history) ∨
      ∃ tx ∈ s.txs, tx.stage ≠ .closed ∧
        ∃ now, Commit statements image s s' ⟨tx.call, tx.taken⟩ now := by
  cases m with
  | begin call =>
    cases taken
    exact .inl ⟨rfl, rfl⟩
  | next i busy now =>
    obtain ⟨tx, current, ⟨images, stage, rfl⟩ | ⟨tx', moved, rfl⟩⟩ := claimStep_next taken
    · have notClosed : tx.stage ≠ .closed := by simp [stage]
      have isOpen := inv.sound tx (List.mem_of_getElem? current) notClosed
      have ok := isOpen.stage
      simp only [StageOk, stage] at ok
      obtain ⟨at_, rfl⟩ := ok
      exact .inr ⟨tx, List.mem_of_getElem? current, notClosed, at_, rfl, isOpen.distinct,
        isOpen.chosen, fun x isTaken => (isOpen.held x isTaken).2, isOpen.get?_publish keeps at_⟩
    · exact .inl ⟨rfl, rfl⟩
  | abort i =>
    simp only [claimStep] at taken
    split at taken
    · cases taken
    · cases taken
      exact .inl ⟨rfl, rfl⟩
  | write row => cases claims
  | change others => cases claims

/-- What the transaction has read of the rest of the database. -/
structure Saw (others : σ) (tx : Tx ρ σ κ γ) : Prop where
  taken : ∀ x ∈ tx.taken, x.others = others
  scanning : ∀ select seen left count rest,
    tx.stage = .scanning select seen left count rest → seen = others

theorem Saw.advance (saw : Saw s.others tx) (moved : advance image s i busy now tx = some tx') :
    Saw s.others tx' := by
  obtain ⟨taken, scanning⟩ := saw
  unfold RowClaim.advance at moved
  split at moved
  · cases moved
    exact ⟨taken, fun _ _ _ _ _ stage => by cases stage; rfl⟩
  · cases moved
    exact ⟨taken, fun _ _ _ _ _ stage => by cases stage⟩
  next select seen row left count rest stage =>
    have same := scanning _ _ _ _ _ stage
    split at moved
    · cases moved
      exact ⟨taken, fun _ _ _ _ _ stage => by cases stage⟩
    split at moved
    · cases moved
      exact ⟨taken, fun _ _ _ _ _ stage => by cases stage; exact same⟩
    split at moved
    · cases moved
      exact ⟨forall_mem_snoc taken same, fun _ _ _ _ _ stage => by cases stage; exact same⟩
    · cases moved
      exact ⟨taken, fun _ _ _ _ _ stage => by cases stage; exact same⟩
  · cases moved
    exact ⟨taken, fun _ _ _ _ _ stage => by cases stage⟩
  · cases moved
  · cases moved

/-- The rule for what each transaction keeps to by itself. -/
theorem each_of_reachable {P : σ → Tx ρ σ κ γ → Prop} (idle : ∀ s, init s → s.txs = [])
    (opens : ∀ others call, P others ⟨call, .between (statements call), [], []⟩)
    (closes : ∀ others tx, P others tx → P others (close tx))
    (advances : ∀ (s : Sys ρ σ κ γ key) i busy now tx tx', P s.others tx →
      advance image s i busy now tx = some tx' → P s.others tx')
    (changes : ∀ s others tx, ok s (.change others) → P s.others tx → P others tx)
    (reached : ReachableUnder (claimStep statements image) init ok s) :
    ∀ tx ∈ s.txs, P s.others tx := by
  refine reached.invariant (I := fun s => ∀ tx ∈ s.txs, P s.others tx) (fun s initial => ?_) ?_
  · simp [idle s initial]
  intro s m s' each allowed taken
  cases m with
  | begin call =>
    cases taken
    exact forall_mem_snoc each (opens s.others call)
  | next i busy now =>
    obtain ⟨tx, current, ⟨images, stage, rfl⟩ | ⟨tx', moved, rfl⟩⟩ := claimStep_next taken
    · exact forall_mem_set each (closes _ _ (each tx (List.mem_of_getElem? current)))
    · exact forall_mem_set each
        (advances s i busy now tx tx' (each tx (List.mem_of_getElem? current)) moved)
  | abort i =>
    simp only [claimStep] at taken
    split at taken
    · cases taken
    next tx current =>
      cases taken
      exact forall_mem_set each (closes _ _ (each tx (List.mem_of_getElem? current)))
  | write row =>
    obtain ⟨-, ⟨⟩⟩ := of_else taken nofun
    exact each
  | change others =>
    cases taken
    exact fun tx member => changes s others tx allowed (each tx member)

/-- As long as the rest of the database does not change, the selects have found it as it is. -/
theorem saw_of_reachable (idle : ∀ s, init s → s.txs = [])
    (still : ∀ s others, ¬ ok s (.change others))
    (reached : ReachableUnder (claimStep statements image) init ok s) :
    ∀ tx ∈ s.txs, Saw s.others tx :=
  each_of_reachable idle
    (fun _ _ => ⟨fun x isTaken => (by cases isTaken), fun _ _ _ _ _ stage => (by cases stage)⟩)
    (fun _ _ saw => ⟨saw.taken, fun _ _ _ _ _ stage => (by cases stage)⟩)
    (fun _ _ _ _ _ _ saw moved => saw.advance moved)
    (fun s others _ allowed => absurd allowed (still s others)) reached

/-- The most rows that limited selects take together. -/
def allowance (selects : List (Select ρ σ)) : Nat :=
  (selects.map (fun select => select.limit.getD 0)).sum

/-- Where all selects of a call are limited, so is what it takes. -/
def Within (statements : γ → List (Select ρ σ)) (tx : Tx ρ σ κ γ) : Prop :=
  match tx.stage with
  | .between rest => (∀ b ∈ rest, b.limit.isSome) ∧
      tx.taken.length + allowance rest ≤ allowance (statements tx.call)
  | .scanning select _ _ count rest => (∀ b ∈ rest, b.limit.isSome) ∧
      ∃ most, select.limit = some most ∧ count ≤ most ∧
        tx.taken.length + most + allowance rest ≤ allowance (statements tx.call) + count
  | .updated _ => tx.taken.length ≤ allowance (statements tx.call)
  | .closed => True

omit [DecidableEq κ] in
theorem Within.length_le (within : Within statements tx) (notClosed : tx.stage ≠ .closed) :
    tx.taken.length ≤ allowance (statements tx.call) := by
  unfold Within at within
  cases stage : tx.stage with
  | between rest =>
    simp only [stage] at within
    exact Nat.le_of_add_right_le within.2
  | scanning select others left count rest =>
    simp only [stage] at within
    obtain ⟨-, most, -, few, room⟩ := within
    omega
  | updated images =>
    simp only [stage] at within
    exact within
  | closed => exact absurd stage notClosed

theorem Within.advance (within : Within statements tx)
    (moved : advance image s i busy now tx = some tx') : Within statements tx' := by
  unfold RowClaim.advance at moved
  unfold Within at within
  split at moved
  next select rest stage =>
    cases moved
    simp only [stage, List.forall_mem_cons] at within
    obtain ⟨⟨limited, later⟩, room⟩ := within
    obtain ⟨most, limit⟩ := Option.isSome_iff_exists.mp limited
    refine ⟨later, most, limit, Nat.zero_le _, ?_⟩
    simp only [allowance, List.map_cons, List.sum_cons, limit, Option.getD_some] at room ⊢
    omega
  next stage =>
    cases moved
    simp only [stage, allowance, List.map_nil, List.sum_nil] at within
    exact within.2
  next select seen row left count rest stage =>
    simp only [stage] at within
    obtain ⟨later, most, limit, few, room⟩ := within
    rw [limit] at moved
    simp only [Option.any_some, decide_eq_true_eq] at moved
    split at moved
    next full =>
      cases moved
      exact ⟨later, by dsimp only; omega⟩
    next notFull =>
      split at moved
      · cases moved
        exact ⟨later, most, limit, few, room⟩
      split at moved
      · cases moved
        refine ⟨later, most, limit, by omega, ?_⟩
        dsimp only
        rw [List.length_append, List.length_singleton]
        omega
      · cases moved
        exact ⟨later, most, limit, few, room⟩
  next stage =>
    cases moved
    simp only [stage] at within
    obtain ⟨later, most, limit, few, room⟩ := within
    exact ⟨later, by dsimp only; omega⟩
  · cases moved
  · cases moved

theorem advance_call (moved : advance image s i busy now tx = some tx') : tx'.call = tx.call := by
  unfold advance at moved
  split at moved
  · cases moved
    rfl
  · cases moved
    rfl
  · split at moved
    · cases moved
      rfl
    split at moved
    · cases moved
      rfl
    split at moved
    · cases moved
      rfl
    · cases moved
      rfl
  · cases moved
    rfl
  · cases moved
  · cases moved

theorem within_of_reachable (idle : ∀ s, init s → s.txs = [])
    (reached : ReachableUnder (claimStep statements image) init ok s) :
    ∀ tx ∈ s.txs, (∀ b ∈ statements tx.call, b.limit.isSome) → Within statements tx :=
  each_of_reachable (P := fun _ tx => (∀ b ∈ statements tx.call, b.limit.isSome) →
      Within statements tx) idle
    (fun _ _ limited => ⟨limited, Nat.le_of_eq (Nat.zero_add _)⟩)
    (fun _ _ _ _ => trivial)
    (fun _ _ _ _ _ _ within moved limited =>
      (within (advance_call moved ▸ limited)).advance moved)
    (fun _ _ _ _ within => within) reached

end Invariant

end Certctl.Lib.RowClaim
