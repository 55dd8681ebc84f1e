import Certctl.Lib.Numeral

/-!
IP addresses as the Go `net` package holds, prints and parses them. The printed
form of an address parses back to it, and parsing does not look at letter case.
-/
namespace Certctl.Lib

/-- Four bytes, or eight sixteen-bit groups. -/
inductive IP where
  | v4 (a b c d : UInt8)
  | v6 (groups : List UInt16) (width : groups.length = 8)

/-- `IP.To4`: a v4-mapped address becomes its four bytes. -/
def IP.to4 : IP → IP
  | .v6 [0, 0, 0, 0, 0, 0xffff, x, y] _ =>
    .v4 (x >>> 8).toUInt8 x.toUInt8 (y >>> 8).toUInt8 y.toUInt8
  | ip => ip

def decimalText (b : UInt8) : List Char := Nat.toDigits 10 b.toNat

def hexText (g : UInt16) : List Char := Nat.toDigits 16 g.toNat

def groupsText (groups : List UInt16) : List Char := [':'].intercalate (groups.map hexText)

/-- The number of zero groups from the position on. -/
def zerosAt (groups : List UInt16) (i : Nat) : Nat :=
  ((groups.drop i).takeWhile (fun g => decide (g = 0))).length

def longerRun (groups : List UInt16) (best : Nat × Nat) (i : Nat) : Nat × Nat :=
  if 2 ≤ zerosAt groups i ∧ best.2 < zerosAt groups i then (i, zerosAt groups i) else best

/-- The first longest run of zero groups, as its start and length; a run shorter
than two groups does not count and leaves the length zero. -/
def zeroRun (groups : List UInt16) : Nat × Nat := (List.range 8).foldl (longerRun groups) (0, 0)

/-- The sixteen-byte form, the longest run of zeros elided. -/
def textV6 (groups : List UInt16) : List Char :=
  let run := zeroRun groups
  if run.2 = 0 then groupsText groups
  else groupsText (groups.take run.1) ++ ':' :: ':' :: groupsText (groups.drop (run.1 + run.2))

/-- `IP.String`. -/
def IP.text (ip : IP) : List Char :=
  match ip.to4 with
  | .v4 a b c d =>
    ['.'].intercalate [decimalText a, decimalText b, decimalText c, decimalText d]
  | .v6 groups _ => textV6 groups

/-- A decimal field: one to three digits, no leading zero, at most 255. -/
def decimalByte (field : List Char) : Option UInt8 :=
  if field = [] ∨ (field.head? = some '0' ∧ 1 < field.length) then none
  else (numeral 10 field).bind (fun n => if n ≤ 255 then some (UInt8.ofNat n) else none)

def parseIPv4 (text : List Char) : Option (List UInt8) :=
  ((text.splitOn '.').mapM decimalByte).bind (fun bytes =>
    if bytes.length = 4 then some bytes else none)

/-- A group of one to four hexadecimal digits. -/
def hexGroup (field : List Char) : Option UInt16 :=
  if field = [] ∨ 4 < field.length then none else (numeral 16 field).map UInt16.ofNat

def byteGroups : List UInt8 → List UInt16
  | high :: low :: rest => ((high.toUInt16 <<< 8) ||| low.toUInt16) :: byteGroups rest
  | _ => []

/-- The groups of colon-separated fields, the last of which may be a dotted
address. -/
def tailGroups : List (List Char) → Option (List UInt16)
  | [] => some []
  | [last] =>
    if '.' ∈ last then (parseIPv4 last).map byteGroups else (hexGroup last).map (fun g => [g])
  | field :: rest => (hexGroup field).bind (fun g => (tailGroups rest).map (fun gs => g :: gs))

/-- The text before and after the first double colon. -/
def splitEllipsis : List Char → Option (List Char × List Char)
  | ':' :: ':' :: back => some ([], back)
  | c :: rest => (splitEllipsis rest).map (fun parts => (c :: parts.1, parts.2))
  | [] => none

def fieldsOf (text : List Char) : List (List Char) := if text = [] then [] else text.splitOn ':'

/-- The eight groups; an ellipsis stands for at least one group. -/
def parseIPv6 (text : List Char) : Option (List UInt16) :=
  match splitEllipsis text with
  | some (front, back) =>
    ((fieldsOf front).mapM hexGroup).bind (fun left =>
      (tailGroups (fieldsOf back)).bind (fun right =>
        if left.length + right.length < 8
        then some (left ++ List.replicate (8 - (left.length + right.length)) 0 ++ right)
        else none))
  | none => tailGroups (text.splitOn ':')

def addressMark (c : Char) : Bool := decide (c = '.' ∨ c = ':' ∨ c = '%')

/-- `net.ParseIP`: the first mark decides the family, and an address with a zone is
refused. -/
def parseIPText (text : List Char) : Option IP :=
  match text.find? addressMark with
  | some '.' => (parseIPv4 text).bind (fun bytes =>
      match bytes with
      | [a, b, c, d] => some (.v4 a b c d)
      | _ => none)
  | some ':' => (parseIPv6 text).bind (fun groups =>
      if width : groups.length = 8 then some (.v6 groups width) else none)
  | _ => none

section Printed

theorem decimalByte_decimalText (b : UInt8) : decimalByte (decimalText b) = some b := by
  have all : ∀ n < 256, decimalByte (Nat.toDigits 10 n) = some (UInt8.ofNat n) := by
    decide +kernel
  have read := all b.toNat b.toNat_lt
  rwa [UInt8.ofNat_toNat] at read

theorem hexGroup_hexText (g : UInt16) : hexGroup (hexText g) = some g := by
  have short : ¬ (hexText g = [] ∨ 4 < (hexText g).length) := by
    have bound : (hexText g).length ≤ 4 :=
      (Nat.length_toDigits_le_iff (by decide) (by decide)).mpr g.toNat_lt
    simp [hexText, Nat.toDigits_ne_nil] at bound ⊢
    exact bound
  rw [hexGroup, if_neg short, hexText, numeral_toDigits (by decide) (by decide)]
  simp

variable {c : Char}

theorem not_mem_decimalText (mark : digitValue c = none) (b : UInt8) :
    c ∉ decimalText b := by
  intro member
  obtain ⟨d, value⟩ := digitValue_of_mem_toDigits (by decide) (by decide) member
  simp [mark] at value

theorem not_mem_hexText (mark : digitValue c = none) (g : UInt16) :
    c ∉ hexText g := by
  intro member
  obtain ⟨d, value⟩ := digitValue_of_mem_toDigits (by decide) (by decide) member
  simp [mark] at value

theorem parseIPv4_dotted (a b c d : UInt8) :
    parseIPv4 (['.'].intercalate [decimalText a, decimalText b, decimalText c, decimalText d]) =
      some [a, b, c, d] := by
  have dotless := not_mem_decimalText (c := '.') rfl
  unfold parseIPv4
  rw [List.splitOn_intercalate '.' (by simp [dotless]) (by simp)]
  simp [decimalByte_decimalText]

theorem mapM_hexGroup (groups : List UInt16) :
    (groups.map hexText).mapM hexGroup = some groups := by
  induction groups with
  | nil => rfl
  | cons g rest ih => simp [hexGroup_hexText, ih]

theorem tailGroups_hexText (groups : List UInt16) :
    tailGroups (groups.map hexText) = some groups := by
  induction groups with
  | nil => rfl
  | cons g rest ih =>
    cases rest with
    | nil => simp [tailGroups, not_mem_hexText (c := '.') rfl, hexGroup_hexText]
    | cons next others =>
      simp only [List.map_cons, tailGroups, hexGroup_hexText, Option.bind_some] at ih ⊢
      rw [ih]
      rfl

theorem hexText_ne_nil (g : UInt16) : hexText g ≠ [] := Nat.toDigits_ne_nil

theorem groupsText_cons_cons (g next : UInt16) (rest : List UInt16) :
    groupsText (g :: next :: rest) = hexText g ++ ':' :: groupsText (next :: rest) := by
  simp [groupsText, List.intercalate_cons_cons]

variable {groups : List UInt16}

theorem groupsText_ne_nil (some : groups ≠ []) : groupsText groups ≠ [] := by
  cases groups with
  | nil => exact absurd rfl some
  | cons g rest =>
    cases rest with
    | nil => simpa [groupsText] using hexText_ne_nil g
    | cons next others => simp [groupsText_cons_cons]

theorem splitOn_groupsText (some : groups ≠ []) :
    (groupsText groups).splitOn ':' = groups.map hexText := by
  have colonless := not_mem_hexText (c := ':') rfl
  exact List.splitOn_intercalate ':' (by simp [colonless]) (by simpa using some)

theorem fieldsOf_groupsText (groups : List UInt16) :
    fieldsOf (groupsText groups) = groups.map hexText := by
  by_cases empty : groups = []
  · subst empty
    rfl
  · rw [fieldsOf, if_neg (groupsText_ne_nil empty), splitOn_groupsText empty]

/-- A character of the printed groups is a digit or a colon. -/
theorem mem_groupsText (member : c ∈ groupsText groups) :
    c = ':' ∨ ∃ d, digitValue c = some d := by
  induction groups with
  | nil => cases member
  | cons g rest ih =>
    have digit (within : c ∈ hexText g) : ∃ d, digitValue c = some d :=
      digitValue_of_mem_toDigits (by decide) (by decide) within
    cases rest with
    | nil =>
      simp only [groupsText, List.map_cons, List.map_nil, List.intercalate_singleton] at member
      exact .inr (digit member)
    | cons next others =>
      rw [groupsText_cons_cons, List.mem_append, List.mem_cons] at member
      rcases member with within | colon | later
      · exact .inr (digit within)
      · exact .inl colon
      · exact ih later

/-- No two colons in a row. -/
def Spaced : List Char → Prop
  | [] => True
  | c :: rest => (c = ':' → rest.head? ≠ some ':') ∧ Spaced rest

theorem spaced_field {field tail : List Char} (colonless : ':' ∉ field)
    (spaced : Spaced (':' :: tail)) : Spaced (field ++ ':' :: tail) := by
  induction field with
  | nil => exact spaced
  | cons c rest ih =>
    have notColon : c ≠ ':' := fun colon => colonless (by simp [colon])
    have later : ':' ∉ rest := fun within => colonless (List.mem_cons_of_mem c within)
    exact ⟨fun colon => absurd colon notColon, ih later⟩

theorem head_groupsText (g : UInt16) (rest : List UInt16) (tail : List Char) :
    (groupsText (g :: rest) ++ tail).head? ≠ some ':' := by
  have colonless := not_mem_hexText (c := ':') rfl g
  obtain ⟨c, digits, first⟩ := List.exists_cons_of_ne_nil (hexText_ne_nil g)
  have notColon : c ≠ ':' := fun colon => colonless (by simp [first, colon])
  cases rest with
  | nil => simpa [groupsText, first] using notColon
  | cons next others => simpa [groupsText_cons_cons, first] using notColon

/-- The printed groups never have two colons in a row, also when one follows. -/
theorem spaced_groupsText (groups : List UInt16) : Spaced (groupsText groups ++ [':']) := by
  have colonless := not_mem_hexText (c := ':') rfl
  induction groups with
  | nil => simp [groupsText, Spaced]
  | cons g rest ih =>
    cases rest with
    | nil => simpa [groupsText] using spaced_field (colonless g) (by simp [Spaced])
    | cons next others =>
      rw [groupsText_cons_cons, List.append_assoc, List.cons_append]
      exact spaced_field (colonless g) ⟨fun _ => head_groupsText next others [':'], ih⟩

theorem Spaced.front {front back : List Char} (spaced : Spaced (front ++ back)) : Spaced front := by
  induction front with
  | nil => trivial
  | cons c rest ih =>
    refine ⟨fun colon second => ?_, ih spaced.2⟩
    exact spaced.1 colon (by simp [second])

theorem splitEllipsis_eq_none {text : List Char} (spaced : Spaced text) :
    splitEllipsis text = none := by
  induction text with
  | nil => rfl
  | cons c rest ih =>
    rw [splitEllipsis, ih spaced.2]
    · rfl
    · intro back colon follows
      exact spaced.1 colon (by simp [follows])

theorem splitEllipsis_append {front : List Char} (back : List Char)
    (spaced : Spaced (front ++ [':'])) :
    splitEllipsis (front ++ ':' :: ':' :: back) = some (front, back) := by
  induction front with
  | nil => rfl
  | cons c rest ih =>
    rw [List.cons_append, splitEllipsis, ih spaced.2]
    · rfl
    · intro others colon follows
      apply spaced.1 colon
      cases rest with
      | nil => rfl
      | cons d more =>
        simp only [List.cons_append, List.cons.injEq] at follows
        simp [follows.1]

/-- The run is empty or consists of zero groups. -/
def Elides (groups : List UInt16) (run : Nat × Nat) : Prop :=
  run.2 = 0 ∨ groups = groups.take run.1 ++
    (List.replicate run.2 0 ++ groups.drop (run.1 + run.2))

theorem elides_zerosAt (groups : List UInt16) (i : Nat) : Elides groups (i, zerosAt groups i) := by
  have zeros : (groups.drop i).takeWhile (fun g => decide (g = 0)) =
      List.replicate (zerosAt groups i) 0 := by
    apply List.eq_replicate_of_mem
    intro g within
    exact of_decide_eq_true (List.all_eq_true.mp List.all_takeWhile g within)
  have parts : (groups.drop i).takeWhile (fun g => decide (g = 0)) ++
      (groups.drop i).dropWhile (fun g => decide (g = 0)) = groups.drop i :=
    List.takeWhile_append_dropWhile
  have rest : (groups.drop i).dropWhile (fun g => decide (g = 0)) =
      groups.drop (i + zerosAt groups i) := by
    rw [← List.drop_drop]
    have behind := congrArg (List.drop (zerosAt groups i)) parts
    rwa [zerosAt, List.drop_left] at behind
  rw [zeros, rest] at parts
  refine .inr ?_
  rw [parts, List.take_append_drop]

theorem elides_zeroRun (groups : List UInt16) : Elides groups (zeroRun groups) := by
  have fold (starts : List Nat) (best : Nat × Nat) (good : Elides groups best) :
      Elides groups (starts.foldl (longerRun groups) best) := by
    induction starts generalizing best with
    | nil => exact good
    | cons i rest ih =>
      apply ih
      unfold longerRun
      split
      · exact elides_zerosAt groups i
      · exact good
  exact fold (List.range 8) (0, 0) (.inl rfl)

/-- The sixteen-byte form parses back to its groups. -/
theorem parseIPv6_textV6 (width : groups.length = 8) : parseIPv6 (textV6 groups) = some groups := by
  have some : groups ≠ [] := by
    intro empty
    simp [empty] at width
  unfold textV6 parseIPv6
  by_cases none : (zeroRun groups).2 = 0
  · have plain := splitEllipsis_eq_none (spaced_groupsText groups).front
    simp only [none, ↓reduceIte, plain, splitOn_groupsText some, tailGroups_hexText]
  · have elided := (elides_zeroRun groups).resolve_left none
    have sum := congrArg List.length elided
    rw [List.length_append, List.length_append, List.length_replicate, width] at sum
    have short : (groups.take (zeroRun groups).1).length +
        (groups.drop ((zeroRun groups).1 + (zeroRun groups).2)).length < 8 := by omega
    have missing : 8 - ((groups.take (zeroRun groups).1).length +
        (groups.drop ((zeroRun groups).1 + (zeroRun groups).2)).length) = (zeroRun groups).2 := by
      omega
    simp only [none, ↓reduceIte, splitEllipsis_append _ (spaced_groupsText _),
      fieldsOf_groupsText, mapM_hexGroup, tailGroups_hexText, Option.bind_some]
    rw [if_pos short, missing, List.append_assoc, ← elided]

/-- The printed form has no mark before the first colon. -/
theorem find_textV6 (width : groups.length = 8) : (textV6 groups).find? addressMark = some ':' := by
  have chars {c : Char} (member : c ∈ textV6 groups) : c = ':' ∨ ∃ d, digitValue c = some d := by
    unfold textV6 at member
    simp only at member
    split at member
    · exact mem_groupsText member
    · simp only [List.mem_append, List.mem_cons] at member
      rcases member with left | colon | colon | right
      · exact mem_groupsText left
      · exact .inl colon
      · exact .inl colon
      · exact mem_groupsText right
  have colon : ':' ∈ textV6 groups := by
    unfold textV6
    simp only
    split
    · obtain ⟨g, rest, rfl⟩ := List.exists_cons_of_ne_nil (l := groups) (by
        intro empty
        simp [empty] at width)
      obtain ⟨next, others, rfl⟩ := List.exists_cons_of_ne_nil (l := rest) (by
        intro empty
        simp [empty] at width)
      simp [groupsText_cons_cons]
    · simp
  cases first : (textV6 groups).find? addressMark with
  | none => exact absurd (List.find?_eq_none.mp first ':' colon) (by decide)
  | some c =>
    have marked := List.find?_some first
    rcases chars (List.mem_of_find?_eq_some first) with isColon | ⟨d, value⟩
    · rw [isColon]
    · have mark := of_decide_eq_true marked
      rcases mark with rfl | rfl | rfl <;> cases value

theorem find_dotted (a : UInt8) (rest : List Char) :
    (decimalText a ++ '.' :: rest).find? addressMark = some '.' := by
  have digits : (decimalText a).find? addressMark = none := by
    rw [List.find?_eq_none]
    intro c member marked
    obtain ⟨d, value⟩ := digitValue_of_mem_toDigits (by decide) (by decide) member
    rcases of_decide_eq_true marked with rfl | rfl | rfl <;> cases value
  rw [List.find?_append, digits]
  rfl

/-- Printing and parsing: the address comes back in its shortest form. -/
theorem parseIPText_text (ip : IP) : parseIPText ip.text = some ip.to4 := by
  unfold IP.text
  cases ip.to4 with
  | v4 a b c d =>
    have first := find_dotted a (['.'].intercalate [decimalText b, decimalText c, decimalText d])
    have shape : ['.'].intercalate [decimalText a, decimalText b, decimalText c, decimalText d] =
        decimalText a ++
          '.' :: ['.'].intercalate [decimalText b, decimalText c, decimalText d] := by
      simp [List.intercalate_cons_cons]
    simp only [parseIPText, parseIPv4_dotted]
    rw [shape, first]
    rfl
  | v6 groups width =>
    simp only [parseIPText, find_textV6 width, parseIPv6_textV6 width, Option.bind_some]
    rw [dif_pos width]

end Printed

section Folded

variable (u : UnicodeCase)

theorem lower_dot (c : Char) : u.lower c = '.' ↔ c = '.' :=
  u.lower_eq_iff (by decide) (by decide +kernel) (by decide) (by decide) c

theorem lower_colon (c : Char) : u.lower c = ':' ↔ c = ':' :=
  u.lower_eq_iff (by decide) (by decide +kernel) (by decide) (by decide) c

theorem lower_percent (c : Char) : u.lower c = '%' ↔ c = '%' :=
  u.lower_eq_iff (by decide) (by decide +kernel) (by decide) (by decide) c

theorem lower_zero (c : Char) : u.lower c = '0' ↔ c = '0' :=
  u.lower_eq_iff (by decide) (by decide +kernel) (by decide) (by decide) c

theorem decimalByte_lower (field : List Char) :
    decimalByte (field.map u.lower) = decimalByte field := by
  have leading : (field.map u.lower).head? = some '0' ↔ field.head? = some '0' := by
    cases field with
    | nil => simp
    | cons c rest => simp [lower_zero]
  simp only [decimalByte, List.map_eq_nil_iff, leading, List.length_map, numeral_lower]

theorem hexGroup_lower (field : List Char) : hexGroup (field.map u.lower) = hexGroup field := by
  simp only [hexGroup, List.map_eq_nil_iff, List.length_map, numeral_lower]

theorem mapM_lower {α : Type} {f : List Char → Option α}
    (same : ∀ field, f (field.map u.lower) = f field) (fields : List (List Char)) :
    (fields.map (List.map u.lower)).mapM f = fields.mapM f := by
  induction fields with
  | nil => rfl
  | cons field rest ih => simp [same, ih]

theorem parseIPv4_lower (text : List Char) : parseIPv4 (text.map u.lower) = parseIPv4 text := by
  unfold parseIPv4
  rw [splitOn_map u.lower (lower_dot u), mapM_lower u (decimalByte_lower u)]

theorem tailGroups_lower (fields : List (List Char)) :
    tailGroups (fields.map (List.map u.lower)) = tailGroups fields := by
  induction fields with
  | nil => rfl
  | cons field rest ih =>
    cases rest with
    | nil =>
      simp only [List.map_cons, List.map_nil, tailGroups, List.mem_map, lower_dot,
        exists_eq_right, parseIPv4_lower, hexGroup_lower]
    | cons next others =>
      simp only [List.map_cons, tailGroups, hexGroup_lower] at ih ⊢
      rw [ih]

theorem splitEllipsis_lower (text : List Char) : splitEllipsis (text.map u.lower) =
    (splitEllipsis text).map (fun parts => (parts.1.map u.lower, parts.2.map u.lower)) := by
  induction text with
  | nil => rfl
  | cons c rest ih =>
    by_cases double : ∃ back, c = ':' ∧ rest = ':' :: back
    · obtain ⟨back, rfl, rfl⟩ := double
      have colon := (lower_colon u ':').mpr rfl
      simp [splitEllipsis, colon]
    · rw [List.map_cons, splitEllipsis, ih, splitEllipsis, Option.map_map, Option.map_map]
      · rfl
      · intro back colon follows
        exact double ⟨back, colon, follows⟩
      · intro back colon follows
        cases rest with
        | nil => cases follows
        | cons d others =>
          rw [List.map_cons, List.cons.injEq] at follows
          exact double ⟨others, (lower_colon u c).mp colon, by rw [(lower_colon u d).mp follows.1]⟩

theorem fieldsOf_lower (text : List Char) :
    fieldsOf (text.map u.lower) = (fieldsOf text).map (List.map u.lower) := by
  unfold fieldsOf
  by_cases empty : text = []
  · simp [empty]
  · rw [if_neg empty, if_neg (by simpa using empty), splitOn_map u.lower (lower_colon u)]

theorem parseIPv6_lower (text : List Char) : parseIPv6 (text.map u.lower) = parseIPv6 text := by
  unfold parseIPv6
  rw [splitEllipsis_lower]
  cases splitEllipsis text with
  | none =>
    simp only [Option.map_none]
    rw [splitOn_map u.lower (lower_colon u), tailGroups_lower]
  | some parts =>
    simp only [Option.map_some, fieldsOf_lower, tailGroups_lower]
    rw [mapM_lower u (hexGroup_lower u)]

/-- Whether and how a text parses as an address does not depend on letter case. -/
theorem parseIPText_lower (text : List Char) :
    parseIPText (text.map u.lower) = parseIPText text := by
  have mark : addressMark ∘ u.lower = addressMark := by
    funext c
    simp [addressMark, lower_dot, lower_colon, lower_percent]
  have first : (text.map u.lower).find? addressMark = text.find? addressMark := by
    rw [List.find?_map, mark]
    cases found : text.find? addressMark with
    | none => rfl
    | some c =>
      have marked := List.find?_some found
      rcases of_decide_eq_true marked with rfl | rfl | rfl
      · rw [Option.map_some, (lower_dot u '.').mpr rfl]
      · rw [Option.map_some, (lower_colon u ':').mpr rfl]
      · rw [Option.map_some, (lower_percent u '%').mpr rfl]
  unfold parseIPText
  rw [first, parseIPv4_lower, parseIPv6_lower]

end Folded

end Certctl.Lib
