import Mathlib.Data.List.DropRight
import Mathlib.Data.List.Infix

/-!
Text operations of the Go standard library, on the code points of a string:
lower-casing through a simple case table, trimming of white space, prefix test, split at
the last occurrence of a separator, and double-quoted rendering.
-/
namespace Certctl.Lib

/-- The simple lower-case table of Unicode, as far as it meets ASCII: the ASCII
letters fold as usual, and the only other code points that fold into ASCII are
the Kelvin sign (to `k`) and the dotted capital I (to `i`). -/
structure UnicodeCase where
  lower : Char → Char
  ascii : ∀ c : Char, c.val < 128 → lower c = c.toLower
  into_ascii : ∀ c : Char, ¬ c.val < 128 → (lower c).val < 128 → lower c = 'k' ∨ lower c = 'i'

namespace UnicodeCase

/-- A table that folds exactly the code points the constraints speak about. -/
def basic : UnicodeCase where
  lower c := if c.val < 128 then c.toLower
    else if c = 'K' then 'k' else if c = 'İ' then 'i' else c
  ascii := by
    intro c small
    rw [if_pos small]
  into_ascii := by
    intro c big
    rw [if_neg big]
    split
    · exact fun _ => .inl rfl
    · split
      · exact fun _ => .inr rfl
      · exact fun small => absurd small big

instance : Inhabited UnicodeCase := ⟨basic⟩

/-- A test on characters that ignores the case of ASCII letters and is constant
outside ASCII, and at the two letters other code points fold into, ignores the
whole table. -/
theorem blind {α : Type} (u : UnicodeCase) (g : Char → α) (v : α)
    (ascii : ∀ n < 128, g (Char.ofNat n).toLower = g (Char.ofNat n))
    (outside : ∀ c : Char, ¬ c.val < 128 → g c = v) (k : g 'k' = v) (i : g 'i' = v) (c : Char) :
    g (u.lower c) = g c := by
  by_cases small : c.val < 128
  · rw [u.ascii c small]
    have test := ascii c.toNat small
    rwa [Char.ofNat_toNat] at test
  · rw [outside c small]
    by_cases into : (u.lower c).val < 128
    · rcases u.into_ascii c small into with isK | isI
      · rw [isK, k]
      · rw [isI, i]
    · exact outside _ into

/-- No code point but itself folds to a character that is not a letter. -/
theorem lower_eq_iff (u : UnicodeCase) {s : Char} (small : s.val < 128)
    (ascii : ∀ n < 128, ((Char.ofNat n).toLower = s ↔ Char.ofNat n = s)) (notK : s ≠ 'k')
    (notI : s ≠ 'i') (c : Char) : u.lower c = s ↔ c = s := by
  have same := u.blind (fun c => decide (c = s)) false
    (fun n bound => decide_eq_decide.mpr (ascii n bound))
    (fun c big => decide_eq_false (fun isS => big (isS ▸ small)))
    (decide_eq_false notK.symm) (decide_eq_false notI.symm) c
  exact decide_eq_decide.mp same

end UnicodeCase

/-- `strings.ToLower`. -/
def toLower (u : UnicodeCase) (s : String) : String := String.ofList (s.toList.map u.lower)

/-- `unicode.IsSpace`. -/
def isSpace (c : Char) : Bool :=
  c ∈ ['\t', '\n', '\x0b', '\x0c', '\r', ' ', '\u0085', '\u00a0', '\u1680', '\u2028', '\u2029',
    '\u202f', '\u205f', '\u3000'] ∨ ('\u2000' ≤ c ∧ c ≤ '\u200a')

/-- `strings.TrimSpace`. -/
def trimSpace (s : String) : String :=
  String.ofList ((s.toList.dropWhile isSpace).rdropWhile isSpace)

/-- `strings.HasPrefix(s, p)`. -/
def hasPrefixText (p s : String) : Bool := p.toList.isPrefixOf s.toList

/-- The text after the last occurrence of `sep`, `none` when there is none. The
tail is searched first, so the last occurrence wins. -/
def afterLast (sep : List Char) : List Char → Option (List Char)
  | [] => if sep = [] then some [] else none
  | c :: rest =>
    match afterLast sep rest with
    | some found => some found
    | none => if sep.isPrefixOf (c :: rest) then some ((c :: rest).drop sep.length) else none

/-- One code point under the `%q` verb, for printable text. -/
def quoteChar : Char → List Char
  | '"' => ['\\', '"']
  | '\\' => ['\\', '\\']
  | '\n' => ['\\', 'n']
  | '\r' => ['\\', 'r']
  | '\t' => ['\\', 't']
  | c => [c]

/-- The `%q` verb: a double-quoted string. -/
def quote (s : String) : String :=
  String.ofList ('"' :: s.toList.flatMap quoteChar ++ ['"'])

/-- `LIKE` of SQL: a percent sign stands for any text, an underscore for one character, and a
backslash takes the next character as it is. -/
def like : List Char → List Char → Bool
  | [], text => text.isEmpty
  | '%' :: rest, text => text.tails.any (like rest)
  | '_' :: rest, text => !text.isEmpty && like rest text.tail
  | '\\' :: c :: rest, text => decide (text.head? = some c) && like rest text.tail
  | c :: rest, text => decide (text.head? = some c) && like rest text.tail

theorem toLower_toList (u : UnicodeCase) (s : String) :
    (toLower u s).toList = s.toList.map u.lower := String.toList_ofList

theorem afterLast_eq_none_of_not_infix {sep : List Char} {text : List Char}
    (absent : ¬ sep <:+: text) : afterLast sep text = none := by
  induction text with
  | nil =>
    have nonempty : sep ≠ [] := fun empty => absent (empty ▸ List.nil_infix)
    rw [afterLast, if_neg nonempty]
  | cons c rest ih =>
    have later : ¬ sep <:+: rest := fun found => absent (List.infix_cons found)
    have here : ¬ sep <+: c :: rest := fun found => absent found.isInfix
    rw [afterLast, ih later]
    simp [here]

/-- Whatever stands before the separator, a suffix is recovered from behind it
when the separator does not occur again further right. -/
theorem afterLast_append (sep pre tail : List Char) (nonempty : sep ≠ [])
    (last : ¬ sep <:+: sep.tail ++ tail) : afterLast sep (pre ++ (sep ++ tail)) = some tail := by
  induction pre with
  | nil =>
    cases sep with
    | nil => exact absurd rfl nonempty
    | cons c rest =>
      have miss := afterLast_eq_none_of_not_infix last
      rw [List.tail_cons] at miss
      simp only [List.nil_append, List.cons_append, afterLast, miss]
      simp
  | cons c rest ih => simp only [List.cons_append, afterLast, ih]

variable {a b m n t : List Char} {s : Char}

/-- What stands before and behind the first separator is determined by the whole. -/
theorem append_cons_inj_first (first : s ∉ a) (first' : s ∉ b)
    (same : a ++ s :: m = b ++ s :: n) : a = b ∧ m = n := by
  induction a generalizing b with
  | nil =>
    cases b with
    | nil => simpa using same
    | cons c rest =>
      have head : s = c := (List.cons.inj same).1
      simp [head] at first'
  | cons c rest ih =>
    cases b with
    | nil =>
      have head : c = s := (List.cons.inj same).1
      simp [head] at first
    | cons d rest' =>
      obtain ⟨head, tail⟩ := List.cons.inj same
      have later := ih (List.not_mem_of_not_mem_cons first)
        (List.not_mem_of_not_mem_cons first') tail
      exact ⟨by rw [head, later.1], later.2⟩

/-- Two texts joined by a separator make the same whole only if they are the same, or if a
separator within them has moved across. -/
theorem append_cons_eq_append_cons : a ++ s :: m = b ++ s :: n ↔ (a = b ∧ m = n) ∨
    ∃ t, (a = b ++ s :: t ∧ n = t ++ s :: m) ∨ (b = a ++ s :: t ∧ m = t ++ s :: n) := by
  rw [List.append_eq_append_iff]
  constructor
  · rintro (⟨t, before, behind⟩ | ⟨t, before, behind⟩)
    · cases t with
      | nil => simp_all
      | cons c t =>
        obtain ⟨rfl, rfl⟩ := List.cons.inj behind
        exact .inr ⟨t, .inr ⟨before, rfl⟩⟩
    · cases t with
      | nil => simp_all
      | cons c t =>
        obtain ⟨rfl, rfl⟩ := List.cons.inj behind
        exact .inr ⟨t, .inl ⟨before, rfl⟩⟩
  · rintro (⟨rfl, rfl⟩ | ⟨t, ⟨rfl, rfl⟩ | ⟨rfl, rfl⟩⟩)
    · exact .inl ⟨[], by simp, rfl⟩
    · exact .inr ⟨s :: t, rfl, rfl⟩
    · exact .inl ⟨s :: t, rfl, rfl⟩

/-- What stands before and behind the last separator is determined by the whole. -/
theorem append_cons_inj (last : s ∉ m) (last' : s ∉ n)
    (same : a ++ s :: m = b ++ s :: n) : a = b ∧ m = n := by
  have turned := congrArg List.reverse same
  simp only [List.reverse_append, List.reverse_cons, List.append_assoc,
    List.singleton_append] at turned
  obtain ⟨behind, before⟩ := append_cons_inj_first (by simpa using last) (by simpa using last')
    turned
  exact ⟨List.reverse_inj.mp before, List.reverse_inj.mp behind⟩

/-- A text without the separator that occurs in a line occurs before the separator or behind
it. -/
theorem infix_append_cons {c : Char} {x y : List Char} (absent : c ∉ t)
    (found : t <:+: x ++ c :: y) : t <:+: x ∨ t <:+: y := by
  obtain ⟨p, q, whole⟩ := found
  rcases List.append_eq_append_iff.mp whole with ⟨a, inFront, -⟩ | ⟨a, past, rest⟩
  · exact .inl ⟨p, a, inFront.symm⟩
  · cases a with
    | nil =>
      rw [List.append_nil] at past
      exact .inl ⟨p, [], by rw [List.append_nil, past]⟩
    | cons d a =>
      obtain ⟨rfl, rfl⟩ := List.cons.inj rest
      rcases List.append_eq_append_iff.mp past with ⟨b, -, straddles⟩ | ⟨b, -, behind⟩
      · exact absurd (straddles ▸ List.mem_append_right b List.mem_cons_self) absent
      · cases b with
        | nil =>
          rw [List.nil_append] at behind
          exact absurd (behind ▸ List.mem_cons_self) absent
        | cons e b =>
          obtain ⟨rfl, rfl⟩ := List.cons.inj behind
          exact .inr ⟨b, q, rfl⟩

/-- A pattern of plain characters before a percent sign. -/
theorem like_append_percent (plain : ∀ c ∈ t, c ≠ '%' ∧ c ≠ '_' ∧ c ≠ '\\') (text : List Char) :
    like (t ++ ['%']) text = true ↔ t <+: text := by
  induction t generalizing text with
  | nil => simp [like]
  | cons c rest ih =>
    obtain ⟨⟨percent, underscore, backslash⟩, later⟩ := List.forall_mem_cons.mp plain
    have step : like (c :: rest ++ ['%']) text =
        (decide (text.head? = some c) && like (rest ++ ['%']) text.tail) := by
      rw [List.cons_append, like]
      all_goals simp_all
    rw [step, Bool.and_eq_true, decide_eq_true_eq, ih later]
    cases text with
    | nil => simp
    | cons d text => simp [List.cons_prefix_cons, eq_comm]

/-- `LIKE '%t%'` for a plain text. -/
theorem like_contains (plain : ∀ c ∈ t, c ≠ '%' ∧ c ≠ '_' ∧ c ≠ '\\')
    (text : List Char) : like ('%' :: (t ++ ['%'])) text = true ↔ t <:+: text := by
  rw [like, List.any_eq_true, List.infix_iff_prefix_suffix]
  constructor
  · rintro ⟨tail, member, starts⟩
    exact ⟨tail, (like_append_percent plain tail).mp starts, (List.mem_tails tail text).mp member⟩
  · rintro ⟨tail, starts, ends⟩
    exact ⟨tail, (List.mem_tails tail text).mpr ends, (like_append_percent plain tail).mpr starts⟩

theorem length_splitOn (s : Char) (text : List Char) :
    (text.splitOn s).length = text.count s + 1 := by
  induction text with
  | nil => rfl
  | cons c rest ih =>
    rw [List.splitOn_cons_eq_if_modifyHead, List.count_cons]
    split
    · rw [List.length_cons, ih]
    · rw [List.length_modifyHead, ih, Nat.add_zero]

/-- Splitting commutes with a map that keeps the separator apart. -/
theorem splitOn_map (f : Char → Char) (apart : ∀ c, f c = s ↔ c = s)
    (text : List Char) : (text.map f).splitOn s = (text.splitOn s).map (List.map f) := by
  induction text with
  | nil => rfl
  | cons c rest ih =>
    rw [List.map_cons, List.splitOn_cons_eq_if_modifyHead, List.splitOn_cons_eq_if_modifyHead, ih]
    by_cases sep : c = s
    · simp [sep, (apart s).mpr rfl]
    · have other : f c ≠ s := fun same => sep ((apart c).mp same)
      rw [if_neg (by simpa using other), if_neg (by simpa using sep)]
      cases rest.splitOn s <;> rfl

end Certctl.Lib
