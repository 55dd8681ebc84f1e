import Mathlib.Data.List.Nodup
import Mathlib.Data.List.Perm.Basic

/-!
Hash chains. Every entry stores the hash of the entry before it and its own hash, and its
own hash can be recomputed from what it stores. A walk checks both along the list. What the
walk accepts is a linked list; the hashes of a linked list are pairwise different as soon as
a recomputed hash settles the predecessor's hash; and a linked list whose hashes all come
from another one is the beginning of that one.
-/
namespace Certctl.Lib

/-- How entries carry a chain: the stored hash of the predecessor, the stored hash of the
entry, and the hash recomputed from the entry. -/
structure HashChain (ε η : Type) where
  prev : ε → Option η
  own : ε → η
  recomputed : ε → η

namespace HashChain

variable {ε η : Type} (v : HashChain ε η)

/-- The two stored hashes of an entry. -/
def hashes (e : ε) : Option η × η := (v.prev e, v.own e)

/-- The list is a chain that continues the hash `expected`. -/
def Linked : Option η → List ε → Prop
  | _, [] => True
  | expected, e :: rest =>
    v.prev e = expected ∧ v.recomputed e = v.own e ∧ Linked (some (v.own e)) rest

/-- The hash that the next entry has to name. -/
def tip (expected : Option η) (entries : List ε) : Option η :=
  (entries.getLast?.map v.own).or expected

/-- The recomputed hash of an entry settles the hash of its predecessor. -/
def Commits (entries : List ε) : Prop :=
  ∀ a ∈ entries, ∀ b ∈ entries, v.recomputed a = v.recomputed b → v.prev a = v.prev b

variable {v} {expected : Option η} {entries honest survivors : List ε}

theorem tip_cons (expected : Option η) (first : ε) (rest : List ε) :
    v.tip expected (first :: rest) = v.tip (some (v.own first)) rest := by
  simp only [tip, List.getLast?_cons, Option.map_some, Option.some_or]
  cases rest.getLast? <;> simp

theorem tip_append_singleton (expected : Option η) (entries : List ε) (e : ε) :
    v.tip expected (entries ++ [e]) = some (v.own e) := by
  simp [tip]

variable {e a b : ε} {i j : Nat}

/-- A list grows by an entry that names the last hash. -/
theorem linked_append_singleton :
    v.Linked expected (entries ++ [e]) ↔
      v.Linked expected entries ∧ v.prev e = v.tip expected entries ∧ v.recomputed e = v.own e := by
  induction entries generalizing expected with
  | nil => simp [Linked, tip]
  | cons first rest ih =>
    simp only [List.cons_append, Linked, ih, tip_cons, and_assoc]

theorem Linked.of_append {later : List ε} (linked : v.Linked expected (entries ++ later)) :
    v.Linked expected entries := by
  induction entries generalizing expected with
  | nil => trivial
  | cons e rest ih => exact ⟨linked.1, linked.2.1, ih linked.2.2⟩

theorem Linked.recomputed_eq (linked : v.Linked expected entries) :
    ∀ e ∈ entries, v.recomputed e = v.own e := by
  induction entries generalizing expected with
  | nil => simp
  | cons e rest ih =>
    intro x member
    rcases List.mem_cons.mp member with rfl | later
    · exact linked.2.1
    · exact ih linked.2.2 x later

/-- The first entry names what the chain continues. -/
theorem Linked.prev_first (linked : v.Linked expected entries)
    (first : entries[0]? = some e) : v.prev e = expected := by
  cases entries with
  | nil => cases first
  | cons a rest =>
    simp only [List.getElem?_cons_zero, Option.some.injEq] at first
    exact first ▸ linked.1

/-- Every later entry names the hash of the one before it. -/
theorem Linked.prev_succ (linked : v.Linked expected entries)
    (before : entries[i]? = some a) (after : entries[i + 1]? = some b) :
    v.prev b = some (v.own a) := by
  induction entries generalizing expected i with
  | nil => cases before
  | cons e rest ih =>
    cases i with
    | zero =>
      simp only [List.getElem?_cons_zero, Option.some.injEq] at before
      subst before
      exact linked.2.2.prev_first after
    | succ i =>
      exact ih linked.2.2 before after

/-- Every entry of a chain from nothing is the first, or stands behind the one it names. -/
theorem Linked.prev_cases (linked : v.Linked none entries) (found : entries[j]? = some e) :
    j = 0 ∧ v.prev e = none ∨
      ∃ i a, j = i + 1 ∧ entries[i]? = some a ∧ v.prev e = some (v.own a) := by
  cases j with
  | zero => exact .inl ⟨rfl, linked.prev_first found⟩
  | succ i =>
    have inside : i < entries.length := by
      have := (List.getElem?_eq_some_iff.mp found).1
      omega
    have before : entries[i]? = some entries[i] := List.getElem?_eq_getElem inside
    exact .inr ⟨i, entries[i], rfl, before, linked.prev_succ before found⟩

/-- Only the first entry names none. -/
theorem Linked.getElem?_zero (linked : v.Linked none entries) (member : e ∈ entries)
    (first : v.prev e = none) : entries[0]? = some e := by
  obtain ⟨j, found⟩ := List.mem_iff_getElem?.mp member
  rcases linked.prev_cases found with ⟨rfl, -⟩ | ⟨_, _, -, -, named⟩
  · exact found
  · rw [first] at named
    cases named

/-- In a chain that commits, equal hashes have equal predecessors. -/
theorem Linked.prev_eq (linked : v.Linked expected entries)
    (commits : v.Commits entries) (memberA : a ∈ entries) (memberB : b ∈ entries)
    (same : v.own a = v.own b) : v.prev a = v.prev b := by
  apply commits a memberA b memberB
  rw [linked.recomputed_eq a memberA, linked.recomputed_eq b memberB, same]

/-- In a chain from nothing that commits, equal hashes stand at one position. -/
theorem Linked.index_eq (linked : v.Linked none entries)
    (commits : v.Commits entries) (atI : entries[i]? = some a) (atJ : entries[j]? = some b)
    (same : v.own a = v.own b) : i = j := by
  -- The predecessors are equal again, so the two positions go back to the start together.
  induction i using Nat.strongRecOn generalizing j a b with
  | ind i ih =>
    have prevs := linked.prev_eq commits (List.mem_of_getElem? atI) (List.mem_of_getElem? atJ) same
    rcases linked.prev_cases atI with ⟨rfl, first⟩ | ⟨i, _, rfl, beforeA, namedA⟩
    · rcases linked.prev_cases atJ with ⟨rfl, -⟩ | ⟨_, _, -, -, named⟩
      · rfl
      · rw [first, named] at prevs
        cases prevs
    · rcases linked.prev_cases atJ with ⟨-, none⟩ | ⟨j, _, rfl, beforeB, namedB⟩
      · rw [namedA, none] at prevs
        cases prevs
      · rw [namedA, namedB, Option.some.injEq] at prevs
        rw [ih i (Nat.lt_succ_self i) beforeA beforeB prevs]

section Survivors

variable {γ : Type} (f : ε → γ) (linked : v.Linked none honest) (commits : v.Commits honest)
  (passes : v.Linked none survivors)
  (kept : ∀ e ∈ survivors, ∃ h ∈ honest, v.hashes e = v.hashes h)

include linked commits passes kept

/-- A chain whose hashes all come from a chain that commits runs along it from the start. -/
theorem Linked.hashes_at {s : ε} (found : survivors[i]? = some s) :
    ∃ h, honest[i]? = some h ∧ v.hashes s = v.hashes h := by
  induction i using Nat.strongRecOn generalizing s with
  | ind i ih =>
    obtain ⟨h, member, same⟩ := kept s (List.mem_of_getElem? found)
    obtain ⟨j, atJ⟩ := List.mem_iff_getElem?.mp member
    have prevs : v.prev s = v.prev h := congrArg Prod.fst same
    rcases passes.prev_cases found with ⟨rfl, start⟩ | ⟨i, _, rfl, before, named⟩
    · rcases linked.prev_cases atJ with ⟨rfl, -⟩ | ⟨_, _, -, -, named⟩
      · exact ⟨h, atJ, same⟩
      · rw [start, named] at prevs
        cases prevs
    · rcases linked.prev_cases atJ with ⟨-, none⟩ | ⟨k, a, rfl, atK, namedH⟩
      · rw [named, none] at prevs
        cases prevs
      · rw [named, namedH, Option.some.injEq] at prevs
        obtain ⟨b, atI, sameB⟩ := ih i (Nat.lt_succ_self i) before
        have owns := congrArg Prod.snd sameB
        obtain rfl : k = i := linked.index_eq commits atK atI (prevs.symm.trans owns)
        exact ⟨h, atJ, same⟩

/-- What passes the walk with the hashes of an honest chain is its beginning, up to whatever
the hashes settle. -/
theorem Linked.map_eq_take
    (settled : ∀ s ∈ survivors, ∀ h ∈ honest, v.hashes s = v.hashes h → f s = f h) :
    survivors.map f = (honest.take survivors.length).map f := by
  apply List.ext_getElem?
  intro i
  rw [List.getElem?_map, List.getElem?_map, List.getElem?_take]
  by_cases inside : i < survivors.length
  · have here := List.getElem?_eq_getElem inside
    obtain ⟨h, atI, same⟩ := linked.hashes_at commits passes kept here
    rw [if_pos inside, here, atI, Option.map_some, Option.map_some,
      settled _ (List.mem_of_getElem? here) h (List.mem_of_getElem? atI) same]
  · rw [if_neg inside, List.getElem?_eq_none (by omega)]

end Survivors

/-- Whether a list is a chain depends only on the three hashes of its entries. -/
theorem linked_iff_of_map_eq {γ : Type} {f : ε → γ} {xs ys : List ε}
    (settles : ∀ a b, f a = f b → v.hashes a = v.hashes b ∧ v.recomputed a = v.recomputed b)
    (same : xs.map f = ys.map f) : v.Linked expected xs ↔ v.Linked expected ys := by
  induction xs generalizing ys expected with
  | nil =>
    have empty : ys = [] := by simpa using same.symm
    rw [empty]
  | cons x xs ih =>
    cases ys with
    | nil => cases same
    | cons y ys =>
      obtain ⟨heads, tails⟩ := List.cons.inj same
      obtain ⟨hashes, recomputed⟩ := settles x y heads
      have prevs : v.prev x = v.prev y := congrArg Prod.fst hashes
      have owns : v.own x = v.own y := congrArg Prod.snd hashes
      simp only [Linked, prevs, owns, recomputed, ih tails]

/-- An honest chain passes the walk in no other order. -/
theorem Linked.eq_of_perm (linked : v.Linked none honest) (commits : v.Commits honest)
    (shuffled : survivors.Perm honest) (passes : v.Linked none survivors) :
    survivors = honest := by
  have settled : ∀ s ∈ survivors, ∀ h ∈ honest, v.hashes s = v.hashes h → s = h := by
    intro s memberS h memberH same
    obtain ⟨i, atI⟩ := List.mem_iff_getElem?.mp (shuffled.mem_iff.mp memberS)
    obtain ⟨j, atJ⟩ := List.mem_iff_getElem?.mp memberH
    obtain rfl : i = j := linked.index_eq commits atI atJ (congrArg Prod.snd same)
    exact Option.some.inj (atI.symm.trans atJ)
  have whole := linked.map_eq_take id commits passes
    (fun e member => ⟨e, shuffled.mem_iff.mp member, rfl⟩) settled
  rwa [List.map_id, List.map_id, shuffled.length_eq, List.take_length] at whole

end HashChain

end Certctl.Lib
