import Certctl.Lib.Text
import Mathlib.Algebra.Group.Int.Defs
import Mathlib.Algebra.Group.Nat.Defs

/-!
Numerals in bases up to sixteen: the digits `Nat.toDigits` writes, and the value a
reader gives to a row of digits, letters of either case. Numbers as big-endian bytes.
-/
namespace Certctl.Lib

def digitValue (c : Char) : Option Nat :=
  if '0' ≤ c ∧ c ≤ '9' then some (c.toNat - '0'.toNat)
  else if 'a' ≤ c ∧ c ≤ 'f' then some (c.toNat - 'a'.toNat + 10)
  else if 'A' ≤ c ∧ c ≤ 'F' then some (c.toNat - 'A'.toNat + 10)
  else none

def digitBelow (base : Nat) (c : Char) : Option Nat :=
  (digitValue c).bind (fun d => if d < base then some d else none)

/-- The value of the digits read after `acc`; `none` when a character is not a
digit of the base. -/
def numeralFrom (base acc : Nat) : List Char → Option Nat
  | [] => some acc
  | c :: rest => (digitBelow base c).bind (fun d => numeralFrom base (base * acc + d) rest)

def numeral (base : Nat) (digits : List Char) : Option Nat := numeralFrom base 0 digits

/-- `big.Int.SetString(s, 16)`: an optional sign and at least one digit. -/
def hexInt : List Char → Option Int
  | '-' :: digits => if digits = [] then none else (numeral 16 digits).map (fun n => -(n : Int))
  | '+' :: digits => if digits = [] then none else (numeral 16 digits).map (fun n => (n : Int))
  | digits => if digits = [] then none else (numeral 16 digits).map (fun n => (n : Int))

/-- `strconv.Atoi`: an optional sign and decimal digits, within 64 bits. -/
def decimalInt (text : List Char) : Option Int :=
  let value : Option Int := match text with
    | '-' :: digits => if digits = [] then none else (numeral 10 digits).map (fun n => -(n : Int))
    | '+' :: digits => if digits = [] then none else (numeral 10 digits).map (fun n => (n : Int))
    | digits => if digits = [] then none else (numeral 10 digits).map (fun n => (n : Int))
  value.filter (fun n => decide (-(2 ^ 63) ≤ n) && decide (n < 2 ^ 63))

/-- The `%0wd` verb: padded with zeros to the width, the sign in front. -/
def decimalPadded (width : Nat) (n : Int) : List Char :=
  let digits := Nat.toDigits 10 n.natAbs
  if n < 0 then '-' :: (List.replicate (width - 1 - digits.length) '0' ++ digits)
  else List.replicate (width - digits.length) '0' ++ digits

/-- The `%d` verb. -/
def decimal (n : Int) : List Char := decimalPadded 0 n

/-- The last `places` digits of a number behind a point, without trailing zeros. -/
def fractionText (places n : Nat) : List Char :=
  let digits := (decimalPadded places ((n % 10 ^ places : Nat) : Int)).reverse.dropWhile (· = '0')
  if digits = [] then [] else '.' :: digits.reverse

/-- `Duration.String`, for a duration in nanoseconds. -/
def durationText (d : Int) : String :=
  let n := d.natAbs
  let seconds := n / 1000000000
  let text :=
    if n = 0 then ['0', 's']
    else if n < 1000 then decimal n ++ ['n', 's']
    else if n < 1000000 then decimal (n / 1000) ++ fractionText 3 n ++ ['µ', 's']
    else if n < 1000000000 then decimal (n / 1000000) ++ fractionText 6 n ++ ['m', 's']
    else
      (if seconds < 3600 then [] else decimal (seconds / 3600) ++ ['h']) ++
        (if seconds < 60 then [] else decimal (seconds / 60 % 60) ++ ['m']) ++
        decimal (seconds % 60) ++ fractionText 9 n ++ ['s']
  String.ofList (if d < 0 then '-' :: text else text)

/-- The `%x` verb: lower-case hexadecimal without leading zeros. -/
def hex (n : Nat) : List Char := Nat.toDigits 16 n

/-- The `%0wx` verb: padded with zeros to the width. -/
def hexPadded (width n : Nat) : List Char :=
  List.replicate (width - (hex n).length) '0' ++ hex n

variable {d base n width : Nat} {c : Char}

theorem digitValue_digitChar (small : d < 16) : digitValue d.digitChar = some d := by
  have all : ∀ d < 16, digitValue (Nat.digitChar d) = some d := by decide
  exact all d small

theorem digitBelow_digitChar (bounded : base ≤ 16) (small : d < base) :
    digitBelow base d.digitChar = some d := by
  simp [digitBelow, digitValue_digitChar (Nat.lt_of_lt_of_le small bounded), small]

theorem numeralFrom_append (base acc : Nat) (front back : List Char) :
    numeralFrom base acc (front ++ back) =
      (numeralFrom base acc front).bind (fun read => numeralFrom base read back) := by
  induction front generalizing acc with
  | nil => rfl
  | cons c rest ih =>
    simp only [List.cons_append, numeralFrom]
    cases digitBelow base c with
    | none => rfl
    | some d => exact ih (base * acc + d)

/-- Reading what was written gives the number back. -/
theorem numeral_toDigits (two : 1 < base) (bounded : base ≤ 16) (n : Nat) :
    numeral base (Nat.toDigits base n) = some n := by
  induction n using Nat.strongRecOn with
  | ind n ih =>
    rw [Nat.toDigits_eq_if two]
    split
    next small => simp [numeral, numeralFrom, digitBelow_digitChar bounded small]
    next big =>
      have smaller : n / base < n := Nat.div_lt_self (by omega) two
      have last : n % base < base := Nat.mod_lt n (by omega)
      have front := ih (n / base) smaller
      unfold numeral at front ⊢
      rw [numeralFrom_append, front]
      simp [numeralFrom, digitBelow_digitChar bounded last, Nat.div_add_mod]

theorem mem_toDigits (two : 1 < base)
    (member : c ∈ Nat.toDigits base n) : ∃ d < base, c = d.digitChar := by
  induction n using Nat.strongRecOn with
  | ind n ih =>
    rw [Nat.toDigits_eq_if two] at member
    split at member
    next small => exact ⟨n, small, List.mem_singleton.mp member⟩
    next big =>
      rcases List.mem_append.mp member with front | last
      · exact ih (n / base) (Nat.div_lt_self (by omega) two) front
      · exact ⟨n % base, Nat.mod_lt n (by omega), List.mem_singleton.mp last⟩

/-- A padded decimal has a sign and digits only. -/
theorem mem_decimalPadded {n : Int} (member : c ∈ decimalPadded width n) :
    c = '-' ∨ ∃ d < 10, c = Nat.digitChar d := by
  have digits : ∀ zeros, c ∈ List.replicate zeros '0' ++ Nat.toDigits 10 n.natAbs →
      ∃ d < 10, c = Nat.digitChar d := by
    intro zeros found
    rcases List.mem_append.mp found with zero | digit
    · exact ⟨0, by decide, (List.mem_replicate.mp zero).2⟩
    · exact mem_toDigits (by decide) digit
  unfold decimalPadded at member
  split at member
  · rcases List.mem_cons.mp member with sign | rest
    · exact .inl sign
    · exact .inr (digits _ rest)
  · exact .inr (digits _ member)

theorem toDigits_inj (two : 1 < base) (bounded : base ≤ 16) {m : Nat}
    (same : Nat.toDigits base m = Nat.toDigits base n) : m = n := by
  have value := numeral_toDigits two bounded m
  rw [same, numeral_toDigits two bounded n] at value
  exact (Option.some.inj value).symm

theorem decimal_inj {m n : Int} (same : decimal m = decimal n) : m = n := by
  have unsigned : ∀ k : Int, '-' ∉ Nat.toDigits 10 k.natAbs := by
    intro k sign
    obtain ⟨d, small, isDigit⟩ := mem_toDigits (by decide) sign
    have digits : ∀ d < 10, '-' ≠ Nat.digitChar d := by decide
    exact digits d small isDigit
  simp only [decimal, decimalPadded, Nat.zero_sub, List.replicate_zero, List.nil_append] at same
  split at same
  next negative =>
    split at same
    next negative' =>
      have equal := toDigits_inj (by decide) (by decide) (List.cons.inj same).2
      omega
    next => exact absurd (same ▸ List.mem_cons_self) (unsigned n)
  next positive =>
    split at same
    next => exact absurd (same ▸ List.mem_cons_self) (unsigned m)
    next positive' =>
      have equal := toDigits_inj (by decide) (by decide) same
      omega

theorem digitValue_of_mem_toDigits (two : 1 < base) (bounded : base ≤ 16)
    (member : c ∈ Nat.toDigits base n) : ∃ d, digitValue c = some d := by
  obtain ⟨d, small, rfl⟩ := mem_toDigits two member
  exact ⟨d, digitValue_digitChar (by omega)⟩

theorem lower_hex (u : UnicodeCase) (n : Nat) : (hex n).map u.lower = hex n := by
  have digits : ∀ d < 16,
      (Nat.digitChar d).val < 128 ∧ (Nat.digitChar d).toLower = d.digitChar := by decide
  rw [List.map_congr_left, List.map_id]
  intro c member
  obtain ⟨d, small, rfl⟩ := mem_toDigits (by decide) member
  rw [u.ascii _ (digits d small).1, (digits d small).2]
  rfl

/-- Padding changes nothing exactly when the number fills the width. -/
theorem hexPadded_eq_iff (positive : 0 < width) :
    hexPadded (width + 1) n = hex n ↔ 16 ^ width ≤ n := by
  have full : width + 1 ≤ (hex n).length ↔ 16 ^ width ≤ n := by
    have short := Nat.length_toDigits_le_iff (b := 16) (n := n) (by decide) positive
    unfold hex
    omega
  rw [← full]
  unfold hexPadded
  constructor
  · intro same
    have lengths := congrArg List.length same
    rw [List.length_append, List.length_replicate] at lengths
    omega
  · intro wide
    rw [Nat.sub_eq_zero_of_le wide]
    rfl

/-- The big-endian bytes of a number, without leading zeros. -/
def bigEndian (n : Nat) : List UInt8 :=
  if n = 0 then [] else bigEndian (n / 256) ++ [UInt8.ofNat (n % 256)]

/-- The number big-endian bytes stand for. -/
def ofBigEndian (bytes : List UInt8) : Nat := bytes.foldl (fun acc b => 256 * acc + b.toNat) 0

theorem ofBigEndian_bigEndian (n : Nat) : ofBigEndian (bigEndian n) = n := by
  induction n using Nat.strongRecOn with
  | ind n ih =>
    rw [bigEndian]
    split
    next zero => exact zero.symm
    next positive =>
      have front := ih (n / 256) (Nat.div_lt_self (by omega) (by decide))
      unfold ofBigEndian at front ⊢
      rw [List.foldl_append, front]
      have last : (UInt8.ofNat (n % 256)).toNat = n % 256 := by simp
      simp only [List.foldl_cons, List.foldl_nil, last]
      exact Nat.div_add_mod n 256

theorem ofBigEndian_zero_cons (bytes : List UInt8) :
    ofBigEndian (0 :: bytes) = ofBigEndian bytes := rfl

/-- Lower-casing does not change the value of a digit. -/
theorem digitValue_lower (u : UnicodeCase) (c : Char) :
    digitValue (u.lower c) = digitValue c := by
  refine u.blind digitValue none (by decide +kernel) ?_ rfl rfl c
  intro c big
  have high : ¬ c.toNat < 128 := big
  unfold digitValue
  have outside (lo hi : Char) (low : hi.toNat < 128) : ¬ (lo ≤ c ∧ c ≤ hi) := by
    intro within
    have le : c.toNat ≤ hi.toNat := within.2
    omega
  rw [if_neg (outside _ _ (by decide)), if_neg (outside _ _ (by decide)),
    if_neg (outside _ _ (by decide))]

theorem numeral_lower (u : UnicodeCase) (base : Nat) (digits : List Char) :
    numeral base (digits.map u.lower) = numeral base digits := by
  have step (acc : Nat) : numeralFrom base acc (digits.map u.lower) =
      numeralFrom base acc digits := by
    induction digits generalizing acc with
    | nil => rfl
    | cons c rest ih => simp only [List.map_cons, numeralFrom, digitBelow, digitValue_lower, ih]
  exact step 0

end Certctl.Lib
