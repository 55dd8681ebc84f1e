import Mathlib.Data.List.Basic

/-!
Rooted slash-separated paths and their lexical cleaning: empty components and single
dots go, a double dot takes the component before it along, and at the root it goes
alone. Cleaning a cleaned path changes nothing.
-/
namespace Certctl.Lib

/-- A component that stands for itself. -/
def Plain (component : List Char) : Prop :=
  component ≠ [] ∧ component ≠ ['.'] ∧ component ≠ ['.', '.'] ∧ '/' ∉ component

/-- One component, on the stack of those kept so far. -/
def cleanStep (kept : List (List Char)) (component : List Char) : List (List Char) :=
  if component = [] ∨ component = ['.'] then kept
  else if component = ['.', '.'] then kept.tail
  else component :: kept

def cleanComponents (path : List Char) : List (List Char) :=
  ((path.splitOn '/').foldl cleanStep []).reverse

/-- The path built from its components, below the root. -/
def rooted (components : List (List Char)) : List Char := '/' :: ['/'].intercalate components

/-- The shortest rooted path that is lexically the same. -/
def cleanRooted (path : List Char) : List Char := rooted (cleanComponents path)

theorem not_mem_of_mem_splitOn {sep : Char} {text part : List Char}
    (member : part ∈ text.splitOn sep) : sep ∉ part := by
  induction text generalizing part with
  | nil =>
    simp only [List.splitOn_nil, List.mem_singleton] at member
    simp [member]
  | cons c rest ih =>
    rw [List.splitOn_cons_eq_if_modifyHead] at member
    split at member
    · rcases List.mem_cons.mp member with rfl | later
      · simp
      · exact ih later
    next other =>
      cases parts : rest.splitOn sep with
      | nil => exact (List.splitOn_ne_nil _ _ parts).elim
      | cons first later =>
        rw [parts] at member ih
        rcases List.mem_cons.mp member with rfl | inside
        · intro found
          rcases List.mem_cons.mp found with same | inFirst
          · exact other (by simp [same])
          · exact ih (List.mem_cons_self ..) inFirst
        · exact ih (List.mem_cons_of_mem _ inside)

variable {kept parts : List (List Char)} {path resolved : String} {name : List Char}

/-- Only plain components are kept. -/
theorem plain_cleanStep {component : List Char}
    (known : ∀ c ∈ kept, Plain c) (slashless : '/' ∉ component) :
    ∀ c ∈ cleanStep kept component, Plain c := by
  unfold cleanStep
  split
  · exact known
  next ordinary =>
    split
    · intro c member
      exact known c (List.mem_of_mem_tail member)
    next up =>
      intro c member
      rcases List.mem_cons.mp member with rfl | old
      · rw [not_or] at ordinary
        exact ⟨ordinary.1, ordinary.2, up, slashless⟩
      · exact known c old

theorem plain_fold (slashless : ∀ part ∈ parts, '/' ∉ part) (known : ∀ c ∈ kept, Plain c) :
    ∀ c ∈ parts.foldl cleanStep kept, Plain c := by
  induction parts generalizing kept with
  | nil => exact known
  | cons part rest ih =>
    obtain ⟨here, later⟩ := List.forall_mem_cons.mp slashless
    exact ih later (plain_cleanStep known here)

theorem plain_cleanComponents (path : List Char) : ∀ c ∈ cleanComponents path, Plain c := by
  intro c member
  rw [cleanComponents, List.mem_reverse] at member
  exact plain_fold (fun _ inside => not_mem_of_mem_splitOn inside)
    (fun _ inside => absurd inside List.not_mem_nil) c member

/-- Plain components are all kept, in order. -/
theorem fold_plain (plain : ∀ c ∈ parts, Plain c)
    (kept : List (List Char)) : parts.foldl cleanStep kept = parts.reverse ++ kept := by
  induction parts generalizing kept with
  | nil => rfl
  | cons part rest ih =>
    obtain ⟨⟨nonempty, notDot, notUp, _⟩, later⟩ := List.forall_mem_cons.mp plain
    have step : cleanStep kept part = part :: kept := by
      rw [cleanStep, if_neg (by simp [nonempty, notDot]), if_neg notUp]
    rw [List.foldl_cons, step, ih later]
    simp

theorem cleanComponents_rooted {components : List (List Char)}
    (plain : ∀ c ∈ components, Plain c) : cleanComponents (rooted components) = components := by
  cases components with
  | nil => rfl
  | cons first rest =>
    have joined : rooted (first :: rest) = ['/'].intercalate ([] :: first :: rest) := rfl
    have parts : (rooted (first :: rest)).splitOn '/' = [] :: first :: rest := by
      rw [joined]
      apply List.splitOn_intercalate
      · intro part member
        rcases List.mem_cons.mp member with rfl | inside
        · simp
        · exact (plain part inside).2.2.2
      · simp
    rw [cleanComponents, parts, List.foldl_cons]
    have skipped : cleanStep [] [] = [] := rfl
    rw [skipped, fold_plain plain]
    simp

theorem cleanRooted_cleanRooted (path : List Char) :
    cleanRooted (cleanRooted path) = cleanRooted path := by
  unfold cleanRooted
  rw [cleanComponents_rooted (plain_cleanComponents path)]

theorem cleanComponents_append (path : List Char) (plain : Plain name) :
    cleanComponents (path ++ '/' :: name) = cleanComponents path ++ [name] := by
  have alone : name.splitOn '/' = [name] := List.splitOn_eq_singleton plain.2.2.2
  unfold cleanComponents
  rw [List.splitOn_append_cons_self, alone, List.foldl_append,
    fold_plain (List.forall_mem_singleton.mpr plain)]
  simp

theorem rooted_append (front : List (List Char)) (last more : List Char) :
    rooted (front ++ [last]) ++ more = rooted (front ++ [last ++ more]) := by
  have joined : ∀ front : List (List Char), ['/'].intercalate (front ++ [last]) ++ more =
      ['/'].intercalate (front ++ [last ++ more]) := by
    intro front
    induction front with
    | nil => simp [List.intercalate]
    | cons head tail ih =>
      cases tail with
      | nil => simp [List.intercalate]
      | cons next rest =>
        simp only [List.cons_append, List.intercalate_cons_cons, List.append_assoc] at ih ⊢
        rw [ih]
  simp only [rooted, List.cons_append, joined]

/-- The last component of a path; the root is its own. -/
def baseOf (path : List Char) : List Char := (cleanComponents path).getLast?.getD ['/']

/-- The path without its last component. -/
def dirOf (path : List Char) : List Char := rooted (cleanComponents path).dropLast

def joinPath (dir name : List Char) : List Char := cleanRooted (dir ++ '/' :: name)

/-- What is left of two lists after their common beginning. -/
def dropCommon {α : Type} [DecidableEq α] : List α → List α → List α × List α
  | a :: as, b :: bs => if a = b then dropCommon as bs else (a :: as, b :: bs)
  | as, bs => (as, bs)

/-- `filepath.Rel` for two rooted paths. -/
def relPath (base target : List Char) : String :=
  let rest := dropCommon (cleanComponents base) (cleanComponents target)
  let components := rest.1.map (fun _ => ['.', '.']) ++ rest.2
  if components = [] then "." else String.ofList (['/'].intercalate components)

theorem slash_not_mem_baseOf (path : List Char) : baseOf path = ['/'] ∨ '/' ∉ baseOf path := by
  unfold baseOf
  cases last : (cleanComponents path).getLast? with
  | none => exact .inl rfl
  | some component =>
    exact .inr (plain_cleanComponents path component (List.mem_of_getLast? last)).2.2.2

theorem baseOf_joinPath (dir : List Char) (plain : Plain name) :
    baseOf (joinPath dir name) = name := by
  have below : ∀ c ∈ cleanComponents dir ++ [name], Plain c := by
    intro c member
    rcases List.mem_append.mp member with inside | last
    · exact plain_cleanComponents dir c inside
    · exact List.mem_singleton.mp last ▸ plain
  rw [baseOf, joinPath, cleanRooted, cleanComponents_append dir plain, cleanComponents_rooted below,
    List.getLast?_concat, Option.getD_some]

/-- A sibling named after a cleaned path is that path with a longer name. -/
theorem joinPath_sibling {path more : List Char} (clean : cleanRooted path = path)
    (slashless : '/' ∉ more) (long : 3 ≤ more.length) :
    joinPath (dirOf path) (baseOf path ++ more) = path ++ more := by
  have plainMore : ∀ front : List Char, '/' ∉ front → Plain (front ++ more) := by
    intro front slashless'
    refine ⟨?_, ?_, ?_, by simp [slashless, slashless']⟩ <;>
    · intro equal
      have lengths := congrArg List.length equal
      simp only [List.length_append, List.length_cons, List.length_nil] at lengths
      omega
  have plain := plain_cleanComponents path
  unfold joinPath dirOf baseOf
  conv_rhs => rw [← clean, cleanRooted]
  rcases List.eq_nil_or_concat (cleanComponents path) with none | ⟨front, last, components⟩
  · have root : cleanComponents ['/', '/'] = [] := rfl
    have below := cleanComponents_append ['/', '/'] (plainMore [] List.not_mem_nil)
    rw [root] at below
    rw [none]
    change rooted (cleanComponents (['/', '/'] ++ '/' :: ([] ++ more))) = _
    rw [below]
    simp [rooted, List.intercalate]
  · rw [List.concat_eq_append] at components
    rw [components] at plain ⊢
    have inFront : ∀ c ∈ front, Plain c := fun c member => plain c (List.mem_append_left _ member)
    have inLast : Plain last := plain last (by simp)
    rw [List.getLast?_append_of_ne_nil _ (by simp), List.dropLast_concat]
    simp only [List.getLast?_singleton, Option.getD_some, cleanRooted]
    rw [cleanComponents_append _ (plainMore last inLast.2.2.2), cleanComponents_rooted inFront,
      rooted_append]

/-- `filepath.Abs` on a Unix system: a relative path is taken from the working directory,
whose lookup may fail. -/
def absolutePath (workingDir : Except String String) (path : String) : Except String String :=
  if path.toList.head? = some '/' then .ok (String.ofList (cleanRooted path.toList))
  else workingDir.map (fun dir => String.ofList (cleanRooted (dir.toList ++ '/' :: path.toList)))

variable {workingDir : Except String String}

/-- An absolute form is a cleaned path from the root. -/
theorem absolutePath_eq_ok (found : absolutePath workingDir path = .ok resolved) :
    ∃ text, resolved = String.ofList (cleanRooted text) := by
  unfold absolutePath at found
  split at found
  · cases found
    exact ⟨_, rfl⟩
  · cases workingDir with
    | error cause => cases found
    | ok dir =>
      cases found
      exact ⟨_, rfl⟩

/-- An absolute path is its own absolute form, whatever the working directory. -/
theorem absolutePath_absolutePath {other : Except String String}
    (found : absolutePath workingDir path = .ok resolved) :
    absolutePath other resolved = .ok resolved := by
  obtain ⟨text, rfl⟩ := absolutePath_eq_ok found
  have fromRoot : (cleanRooted text).head? = some '/' := rfl
  unfold absolutePath
  rw [String.toList_ofList, if_pos fromRoot, cleanRooted_cleanRooted]

end Certctl.Lib
