import Certctl.Lib.Numeral
import Certctl.Lib.Result

/-!
DER elements as `encoding/asn1` reads them: identifier and length octets in their only
admitted form, raw values that keep their encoding, and the field readers from which the
readers of structures are composed. A reader returns what it read and the bytes behind it;
a structure ignores bytes behind its last field. Loops over elements carry a bound, which
the length of the input always covers.
-/
namespace Certctl.Lib.Der

abbrev Bytes := List UInt8

abbrev Oid := List Nat

inductive DerError where
  | sequenceTruncated
  | headerTruncated
  | base128Truncated
  | base128NotMinimal
  | base128TooLarge
  | tagNotMinimal
  | lengthIndefinite
  | lengthTooLarge
  | lengthLeadingZeros
  | lengthNotMinimal
  | dataTruncated
  | tagsDoNotMatch
  | explicitWithoutChild
  | explicitDoesNotMatch
  | emptyInteger
  | integerNotMinimal
  | integerTooLarge
  | emptyObjectIdentifier
  deriving DecidableEq

inductive TagClass where
  | universal
  | application
  | contextSpecific
  | privateUse
  deriving DecidableEq

def tagClass (b : UInt8) : TagClass :=
  if b.toNat < 64 then .universal
  else if b.toNat < 128 then .application
  else if b.toNat < 192 then .contextSpecific
  else .privateUse

/-- Class, number in the low five bits, and whether the element is constructed. -/
def identifierOctet (b : UInt8) : TagClass × Nat × Bool :=
  (tagClass b, b.toNat % 32, decide (b.toNat / 32 % 2 = 1))

structure Header where
  tagClass : TagClass
  tag : Nat
  compound : Bool
  length : Nat

/-- At most five groups of seven bits, the first one not empty, within 31 bits. -/
def base128From (shifted acc : Nat) : Bytes → Except DerError (Nat × Bytes)
  | [] => .error .base128Truncated
  | b :: rest =>
    if shifted = 5 then .error .base128TooLarge
    else if shifted = 0 ∧ b = 0x80 then .error .base128NotMinimal
    else if b.toNat < 128 then
      if acc * 128 + b.toNat ≤ 2147483647 then .ok (acc * 128 + b.toNat, rest)
      else .error .base128TooLarge
    else base128From (shifted + 1) (acc * 128 + (b.toNat - 128)) rest

def base128 : Bytes → Except DerError (Nat × Bytes) := base128From 0 0

def identifier : Bytes → Except DerError ((TagClass × Nat × Bool) × Bytes)
  | [] => .error .sequenceTruncated
  | b :: rest => do
    let (tagClass, low, compound) := identifierOctet b
    if low = 31 then
      let (tag, rest) ← base128 rest
      ensure (31 ≤ tag) .tagNotMinimal
      return ((tagClass, tag, compound), rest)
    else return ((tagClass, low, compound), rest)

/-- The length octets of the long form. -/
def longLength : Nat → Nat → Bytes → Except DerError (Nat × Bytes)
  | 0, acc, rest => if acc < 128 then .error .lengthNotMinimal else .ok (acc, rest)
  | _ + 1, _, [] => .error .headerTruncated
  | n + 1, acc, b :: rest =>
    if 8388608 ≤ acc then .error .lengthTooLarge
    else if acc * 256 + b.toNat = 0 then .error .lengthLeadingZeros
    else longLength n (acc * 256 + b.toNat) rest

def length : Bytes → Except DerError (Nat × Bytes)
  | [] => .error .headerTruncated
  | b :: rest =>
    if b.toNat < 128 then .ok (b.toNat, rest)
    else if b.toNat = 128 then .error .lengthIndefinite
    else longLength (b.toNat - 128) 0 rest

def header (input : Bytes) : Except DerError (Header × Bytes) := do
  let ((tagClass, tag, compound), rest) ← identifier input
  let (length, rest) ← length rest
  return (⟨tagClass, tag, compound, length⟩, rest)

def contents (h : Header) (rest : Bytes) : Except DerError (Bytes × Bytes) := do
  ensure (h.length ≤ rest.length) .dataTruncated
  return (rest.take h.length, rest.drop h.length)

/-- An element with its encoding. The zero value stands for an absent optional one. -/
structure RawValue where
  tagClass : TagClass
  tag : Nat
  compound : Bool
  bytes : Bytes
  fullBytes : Bytes
  deriving DecidableEq

def absent : RawValue := ⟨.universal, 0, false, [], []⟩

/-- The element whose header has been read off the input. -/
def rawBehind (input : Bytes) (h : Header) (rest : Bytes) : Except DerError (RawValue × Bytes) := do
  let (bytes, after) ← contents h rest
  return (⟨h.tagClass, h.tag, h.compound, bytes, input.take (input.length - after.length)⟩, after)

def rawValue (input : Bytes) : Except DerError (RawValue × Bytes) := do
  let (h, rest) ← header input
  rawBehind input h rest

/-! Optional fields: out of data or another tag means absent. -/

def optionalRawValue (input : Bytes) : Except DerError (RawValue × Bytes) :=
  if input = [] then .ok (absent, []) else rawValue input

/-- `optional,tag:n`. -/
def optionalImplicit (tag : Nat) (input : Bytes) : Except DerError (RawValue × Bytes) := do
  if input = [] then return (absent, [])
  let (h, rest) ← header input
  if h.tagClass = .contextSpecific ∧ h.tag = tag then rawBehind input h rest
  else return (absent, input)

/-- `explicit,tag:n` of a raw value: the wrapper itself is returned, `none` when it is
another element. -/
def explicitRaw (tag : Nat) (input : Bytes) : Except DerError (Option (RawValue × Bytes)) := do
  let (h, rest) ← header input
  ensure (rest ≠ []) .explicitWithoutChild
  if h.tagClass = .contextSpecific ∧ h.tag = tag ∧ (h.length = 0 ∨ h.compound) then
    return some (← rawBehind input h rest)
  else return none

def explicitRawValue (tag : Nat) (input : Bytes) : Except DerError (RawValue × Bytes) := do
  orFail (← explicitRaw tag input) .explicitDoesNotMatch

def optionalExplicit (tag : Nat) (input : Bytes) : Except DerError (RawValue × Bytes) := do
  if input = [] then return (absent, [])
  return (← explicitRaw tag input).getD (absent, input)

/-- A field of a fixed universal type. -/
def field {α : Type} (tag : Nat) (compound : Bool) (read : Bytes → Except DerError α)
    (input : Bytes) : Except DerError (α × Bytes) := do
  let (h, rest) ← header input
  ensure (h.tagClass = .universal ∧ h.tag = tag ∧ h.compound = compound) .tagsDoNotMatch
  let (bytes, after) ← contents h rest
  return (← read bytes, after)

/-- Two's complement, in the shortest form. -/
def bigInt : Bytes → Except DerError Int
  | [] => .error .emptyInteger
  | b :: rest => do
    ensure (¬ (b = 0 ∧ (rest.head?.map UInt8.toNat).any (fun n => decide (n < 128))))
      .integerNotMinimal
    ensure (¬ (b = 0xff ∧ (rest.head?.map UInt8.toNat).any (fun n => decide (128 ≤ n))))
      .integerNotMinimal
    let magnitude := ofBigEndian (b :: rest)
    return if b.toNat < 128 then (magnitude : Int)
      else (magnitude : Int) - (256 ^ (rest.length + 1) : Nat)

def int64 (bytes : Bytes) : Except DerError Int := do
  let n ← bigInt bytes
  ensure (bytes.length ≤ 8) .integerTooLarge
  return n

/-- The arcs behind the first two. -/
def arcs : Nat → Bytes → Except DerError Oid
  | 0, _ => .ok []
  | _ + 1, [] => .ok []
  | n + 1, input => do
    let (arc, rest) ← base128 input
    return arc :: (← arcs n rest)

def oid (bytes : Bytes) : Except DerError Oid := do
  ensure (bytes ≠ []) .emptyObjectIdentifier
  let (first, rest) ← base128 bytes
  let others ← arcs rest.length rest
  return (if first < 80 then [first / 40, first % 40] else [2, first - 80]) ++ others

def integer : Bytes → Except DerError (Int × Bytes) := field 2 false int64

def bigInteger : Bytes → Except DerError (Int × Bytes) := field 2 false bigInt

def octetString : Bytes → Except DerError (Bytes × Bytes) := field 4 false pure

def objectIdentifier : Bytes → Except DerError (Oid × Bytes) := field 6 false oid

def sequence {α : Type} (read : Bytes → Except DerError α) :
    Bytes → Except DerError (α × Bytes) := field 16 true read

/-- All elements of the input; `accept` looks at each header. -/
def elements (accept : Header → Bool) : Nat → Bytes → Except DerError (List RawValue)
  | 0, _ => .ok []
  | _ + 1, [] => .ok []
  | n + 1, input => do
    let (h, rest) ← header input
    ensure (accept h) .tagsDoNotMatch
    let (element, after) ← rawBehind input h rest
    return element :: (← elements accept n after)

def setOfRaw : Bytes → Except DerError (List RawValue × Bytes) :=
  field 17 true (fun input => elements (fun _ => true) input.length input)

structure AlgorithmIdentifier where
  algorithm : Oid
  parameters : RawValue
  deriving DecidableEq

def algorithmIdentifier : Bytes → Except DerError (AlgorithmIdentifier × Bytes) :=
  sequence (fun input => do
    let (algorithm, input) ← objectIdentifier input
    let (parameters, _) ← optionalRawValue input
    return ⟨algorithm, parameters⟩)

def setOfAlgorithms : Bytes → Except DerError (List AlgorithmIdentifier × Bytes) :=
  field 17 true (fun input => do
    let members ← elements (fun h => h.tagClass = .universal ∧ h.tag = 16 ∧ h.compound)
      input.length input
    members.mapM (fun m => return (← algorithmIdentifier m.fullBytes).1))

/-- What a reader gives one element after the other, up to the first error. -/
def untilError {α : Type} (read : Bytes → Except DerError (α × Bytes)) : Nat → Bytes → List α
  | 0, _ => []
  | _ + 1, [] => []
  | n + 1, input =>
    match read input with
    | .error _ => []
    | .ok (a, rest) => a :: untilError read n rest

/-! Readers look only at what they consume. -/

section Locality

variable {α β : Type}

/-- What a successful reader consumed, it reads again before any other rest. -/
def Local (read : Bytes → Except DerError (α × Bytes)) : Prop :=
  ∀ input a rest, read input = .ok (a, rest) →
    ∃ used, input = used ++ rest ∧ ∀ more, read (used ++ more) = .ok (a, more)

theorem Local.andThen {first : Bytes → Except DerError (α × Bytes)}
    {second : α → Bytes → Except DerError (β × Bytes)} (local₁ : Local first)
    (local₂ : ∀ a, Local (second a)) :
    Local (fun input => first input >>= fun read => second read.1 read.2) := by
  intro input b rest success
  obtain ⟨⟨a, middle⟩, firstRead, secondRead⟩ := bind_eq_ok.mp success
  obtain ⟨used₁, rfl, again₁⟩ := local₁ _ _ _ firstRead
  obtain ⟨used₂, rfl, again₂⟩ := local₂ a _ _ _ secondRead
  refine ⟨used₁ ++ used₂, (List.append_assoc ..).symm, fun more => ?_⟩
  rw [List.append_assoc]
  exact bind_eq_ok.mpr ⟨_, again₁ _, again₂ more⟩

variable {read : Bytes → Except DerError (α × Bytes)} {input rest : Bytes}

/-- A check that does not look at the input. -/
theorem Local.ensure (reads : Local read) (p : Prop) [Decidable p] (e : DerError) :
    Local (fun input => Lib.ensure p e >>= fun _ => read input) := by
  intro input a rest success
  obtain ⟨_, checked, success⟩ := bind_eq_ok.mp success
  obtain ⟨used, split, again⟩ := reads _ _ _ success
  exact ⟨used, split, fun more => bind_eq_ok.mpr ⟨_, checked, again more⟩⟩

/-- A reader that goes on behind its first byte. -/
theorem Local.cons (nothing : ∀ r, read [] ≠ .ok r)
    (behind : ∀ b, Local (fun tail => read (b :: tail))) : Local read := by
  intro input a rest success
  cases input with
  | nil => exact absurd success (nothing _)
  | cons b tail =>
    obtain ⟨used, rfl, again⟩ := behind b _ _ _ success
    exact ⟨b :: used, rfl, again⟩

/-- A choice that does not look at the input. -/
theorem Local.ite {p : Prop} [Decidable p] {other : Bytes → Except DerError (α × Bytes)}
    (reads : Local read) (reads' : Local other) :
    Local (fun input => if p then read input else other input) := by
  split
  · exact reads
  · exact reads'

theorem local_fail {e : DerError} : Local (fun _ => (.error e : Except DerError (α × Bytes))) :=
  nofun

theorem local_done {x : Except DerError α} :
    Local (fun input => x >>= fun a => pure (a, input)) := by
  intro input a rest success
  obtain ⟨_, computed, ⟨⟩⟩ := bind_eq_ok.mp success
  exact ⟨[], rfl, fun _ => bind_eq_ok.mpr ⟨_, computed, rfl⟩⟩

theorem Local.map (reads : Local read) (f : α → Except DerError β) :
    Local (fun input => read input >>= fun r => f r.1 >>= fun b => pure (b, r.2)) :=
  reads.andThen fun _ => local_done

theorem local_base128From {n shifted : Nat} (groups : shifted + n = 5) (acc : Nat) :
    Local (base128From shifted acc) := by
  induction n generalizing shifted acc with
  | zero =>
    subst groups
    exact .cons nofun fun _ => local_fail
  | succ n ih =>
    refine .cons nofun fun _ => .ite local_fail (.ite local_fail (.ite ?_ ?_))
    · exact .ite (local_done (x := .ok _)) local_fail
    · exact ih (by omega) _

theorem local_longLength (n acc : Nat) : Local (longLength n acc) := by
  induction n generalizing acc with
  | zero => exact .ite local_fail (local_done (x := .ok _))
  | succ n ih => exact .cons nofun fun _ => .ite local_fail (.ite local_fail (ih _))

theorem local_length : Local length :=
  .cons nofun fun _ => .ite (local_done (x := .ok _)) (.ite local_fail (local_longLength _ _))

theorem local_identifier : Local identifier := by
  refine .cons nofun fun b => .ite ?_ (local_done (x := .ok _))
  have rest := fun tag : Nat => local_done (x := .ok (tagClass b, tag, (identifierOctet b).2.2))
  exact (local_base128From (Nat.zero_add 5) 0).andThen fun tag =>
    (rest tag).ensure (31 ≤ tag) .tagNotMinimal

theorem local_header : Local header :=
  local_identifier.andThen (fun identifier =>
    local_length.map (fun length =>
      pure (⟨identifier.1, identifier.2.1, identifier.2.2, length⟩ : Header)))

theorem local_contents (h : Header) : Local (contents h) := by
  intro input a rest success
  obtain ⟨_, enough, success⟩ := bind_eq_ok.mp success
  cases success
  have enough := ensure_eq_ok.mp enough
  refine ⟨input.take h.length, (List.take_append_drop ..).symm, fun more => ?_⟩
  have taken : (input.take h.length).length = h.length := List.length_take_of_le enough
  refine bind_eq_ok.mpr ⟨(), ensure_eq_ok.mpr ?_, ?_⟩
  · rw [List.length_append, taken]
    exact Nat.le_add_right ..
  · rw [List.take_left' taken, List.drop_left' taken]
    rfl

theorem local_field (tag : Nat) (compound : Bool) (read : Bytes → Except DerError α) :
    Local (field tag compound read) :=
  local_header.andThen (fun h =>
    ((local_contents h).map read).ensure
      (h.tagClass = .universal ∧ h.tag = tag ∧ h.compound = compound) .tagsDoNotMatch)

/-- A field is read from its contents, which are part of the input. -/
theorem exists_contents_of_field {n : Nat} {c : Bool} {read : Bytes → Except DerError α} {a : α}
    (success : field n c read input = .ok (a, rest)) :
    ∃ bytes, read bytes = .ok a ∧ bytes.length + rest.length ≤ input.length := by
  obtain ⟨⟨h, behind⟩, start, success⟩ := bind_eq_ok.mp success
  obtain ⟨_, -, success⟩ := bind_eq_ok.mp success
  obtain ⟨⟨bytes, _⟩, split, success⟩ := bind_eq_ok.mp success
  obtain ⟨_, reads, ⟨⟩⟩ := bind_eq_ok.mp success
  obtain ⟨_, -, ⟨⟩⟩ := bind_eq_ok.mp split
  obtain ⟨used, rfl, -⟩ := local_header _ _ _ start
  refine ⟨_, reads, ?_⟩
  rw [List.length_take, List.length_drop, List.length_append]
  omega

theorem length_explicitRawValue_le {tag : Nat} {raw : RawValue}
    (success : explicitRawValue tag input = .ok (raw, rest)) : raw.bytes.length ≤ input.length := by
  obtain ⟨found, read, present⟩ := bind_eq_ok.mp success
  cases orFail_eq_ok.mp present
  obtain ⟨⟨h, behind⟩, start, read⟩ := bind_eq_ok.mp read
  obtain ⟨_, -, read⟩ := bind_eq_ok.mp read
  obtain ⟨used, rfl, -⟩ := local_header _ _ _ start
  obtain ⟨-, read⟩ := of_then read nofun
  obtain ⟨_, element, ⟨⟩⟩ := bind_eq_ok.mp read
  obtain ⟨_, split, ⟨⟩⟩ := bind_eq_ok.mp element
  obtain ⟨_, -, ⟨⟩⟩ := bind_eq_ok.mp split
  rw [List.length_take, List.length_append]
  omega

/-- Fields of different types do not start alike. -/
theorem not_field_of_field {n m : Nat} {c d : Bool} {read : Bytes → Except DerError α}
    {read' : Bytes → Except DerError β} {r : α × Bytes} {r' : β × Bytes}
    (success : field n c read input = .ok r) (other : n ≠ m) :
    field m d read' input ≠ .ok r' := by
  intro success'
  obtain ⟨⟨h, rest⟩, start, success⟩ := bind_eq_ok.mp success
  obtain ⟨⟨h', rest'⟩, start', success'⟩ := bind_eq_ok.mp success'
  obtain ⟨_, tag, -⟩ := bind_eq_ok.mp success
  obtain ⟨_, tag', -⟩ := bind_eq_ok.mp success'
  rw [start] at start'
  cases start'
  exact other ((ensure_eq_ok.mp tag).2.1.symm.trans (ensure_eq_ok.mp tag').2.1)

end Locality

/-! Length octets as they are written. -/

theorem length_short {n : Nat} (short : n < 128) (rest : Bytes) :
    length (UInt8.ofNat n :: rest) = .ok (n, rest) := by
  have value : (UInt8.ofNat n).toNat = n := by
    rw [UInt8.toNat_ofNat']
    omega
  simp only [length, value]
  rw [if_pos short]

/-- The long form reads a number back digit by digit, from the most significant one. -/
theorem longLength_bigEndian (n : Nat) (positive : 0 < n) (bound : n < 2147483648) (k : Nat)
    (rest : Bytes) :
    longLength ((bigEndian n).length + k) 0 (bigEndian n ++ rest) = longLength k n rest := by
  induction n using Nat.strongRecOn generalizing k rest with
  | ind n ih =>
    have last : (UInt8.ofNat (n % 256)).toNat = n % 256 := by simp
    have digits : bigEndian n = bigEndian (n / 256) ++ [UInt8.ofNat (n % 256)] := by
      rw [bigEndian, if_neg (by omega)]
    have step : longLength (k + 1) (n / 256) (UInt8.ofNat (n % 256) :: rest) =
        longLength k n rest := by
      have whole : n / 256 * 256 + n % 256 = n := by omega
      simp only [longLength, last, whole]
      rw [if_neg (by omega), if_neg (by omega)]
    rw [digits, List.append_assoc, List.length_append, List.length_singleton, Nat.add_assoc,
      Nat.add_comm 1 k]
    by_cases small : n / 256 = 0
    · rw [small] at step ⊢
      rw [bigEndian, if_pos rfl]
      simpa using step
    · rw [ih (n / 256) (by omega) (by omega) (by omega) (k + 1)]
      exact step

theorem length_bigEndian_le (n k : Nat) (bound : n < 256 ^ k) : (bigEndian n).length ≤ k := by
  induction k generalizing n with
  | zero =>
    have zero : n = 0 := by simpa using bound
    rw [zero, bigEndian, if_pos rfl]
    exact Nat.le_refl 0
  | succ k ih =>
    rw [bigEndian]
    split
    · exact Nat.zero_le _
    · rw [List.length_append, List.length_singleton]
      have smaller : n / 256 < 256 ^ k := by
        rw [Nat.div_lt_iff_lt_mul (by decide)]
        rwa [Nat.pow_succ] at bound
      have shorter := ih (n / 256) smaller
      omega

theorem length_long {n : Nat} (long : 128 ≤ n) (bound : n < 2147483648) (rest : Bytes) :
    length ((0x80 ||| UInt8.ofNat (bigEndian n).length) :: (bigEndian n ++ rest)) =
      .ok (n, rest) := by
  have few := length_bigEndian_le n 4 (by omega)
  have some : 0 < (bigEndian n).length := by
    rw [bigEndian, if_neg (by omega), List.length_append]
    exact Nat.succ_pos _
  have first : (0x80 ||| UInt8.ofNat (bigEndian n).length).toNat =
      128 + (bigEndian n).length := by
    have all : ∀ k < 5, ((0x80 : UInt8) ||| UInt8.ofNat k).toNat = 128 + k := by decide
    exact all _ (by omega)
  simp only [length, first]
  rw [if_neg (by omega), if_neg (by omega), Nat.add_sub_cancel_left]
  have digits := longLength_bigEndian n (by omega) bound 0 rest
  rw [Nat.add_zero] at digits
  rw [digits, longLength, if_neg (by omega)]

end Certctl.Lib.Der
