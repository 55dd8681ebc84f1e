import Mathlib.Data.String.Basic
import Certctl.Lib.Table
import Certctl.Lib.Transition
import Certctl.Source.Deploy.Plan

/-!
The path locks of the deploy package. Both entry points map a destination to the mutex
stored under its absolute path; `Apply` takes the mutexes of its plan one by one in
sorted order and gives them back in reverse, `AtomicWriteFile` takes one. Loading a
mutex and locking it are two steps, so any number of calls interleave between them; what
a call does while it holds its locks is a number of steps that touch no mutex.

Source: internal/deploy/apply.go, atomic.go.
-/
namespace Certctl.Source.Deploy

open Lib

/-- The two entry points. -/
inductive Entry where
  | apply (plan : Plan)
  | atomicWriteFile (path : String)

/-- The key `lockFile` looks the mutex up by. -/
def lockKey (workingDir : Except String String) (path : String) : String :=
  match absolutePath workingDir path with
  | .ok abs => abs
  | .error _ => path

/-- The mutexes of a call in the order they are taken; `none` when the call returns an
error before it takes any. -/
def lockPaths (workingDir : Except String String) : Entry → Option (List String)
  | .apply plan =>
    match validatePlan workingDir plan, absPaths workingDir plan with
    | .ok _, .ok abs => some ((abs.insertionSort (· ≤ ·)).map (lockKey workingDir))
    | _, _ => none
  | .atomicWriteFile path =>
    if path = "" then none
    else match absolutePath workingDir path with
      | .ok abs => some [lockKey workingDir abs]
      | .error _ => none

/-- The destinations of a call, as absolute paths. -/
def destinations (workingDir : Except String String) : Entry → List String
  | .apply plan => ((absPaths workingDir plan).toOption).getD []
  | .atomicWriteFile path => (absolutePath workingDir path).toOption.toList

variable {workingDir : Except String String}

/-- A call locks exactly its destinations, each once and in increasing order. -/
theorem lockPaths_spec {entry : Entry} {paths : List String}
    (locks : lockPaths workingDir entry = some paths) :
    paths.Pairwise (· < ·) ∧ ∀ p, p ∈ paths ↔ p ∈ destinations workingDir entry := by
  cases entry with
  | apply plan =>
    simp only [lockPaths] at locks
    split at locks
    next valid resolved =>
      obtain ⟨abs', resolved', distinct⟩ := validatePlan_ok valid
      rw [resolved] at resolved'
      cases resolved'
      rename_i abs
      have keys : (abs.insertionSort (· ≤ ·)).map (lockKey workingDir) =
          abs.insertionSort (· ≤ ·) := by
        refine (List.map_congr_left fun p member => ?_).trans (List.map_id _)
        have own : absolutePath workingDir p = .ok p :=
          absolutePath_of_mem_absPaths resolved ((List.mem_insertionSort _).mp member)
        simp [lockKey, own]
      rw [keys] at locks
      cases locks
      refine ⟨?_, fun p => ?_⟩
      · have distinct' : (abs.insertionSort (· ≤ ·)).Nodup :=
          (List.perm_insertionSort _ abs).nodup_iff.mpr distinct
        have ordered := List.pairwise_insertionSort (· ≤ ·) abs
        exact (ordered.and distinct').imp (fun both => lt_of_le_of_ne both.1 both.2)
      · simp [destinations, resolved, Except.toOption, List.mem_insertionSort]
    · cases locks
  | atomicWriteFile path =>
    obtain ⟨-, locks⟩ := of_else locks (by simp)
    split at locks
    next abs resolved =>
      have key : lockKey workingDir abs = abs := by
        simp [lockKey, absolutePath_absolutePath resolved]
      cases locks
      rw [key]
      exact ⟨List.pairwise_singleton .., fun p => by simp [destinations, resolved, Except.toOption]⟩
    · cases locks

/-- A mutex of the package's map, with the call that has it locked. -/
structure Mutex where
  path : String
  holder : Option Nat
  deriving DecidableEq

/-- Where a call stands: how many locks it has taken and whether it has loaded the next
mutex; how many steps of its work are left; how many locks it has still to give back. -/
inductive Stage where
  | locking (taken : Nat) (loaded : Bool)
  | working (left : Nat)
  | unlocking (left : Nat)
  | returned
  deriving DecidableEq

structure DeployCall where
  entry : Entry
  paths : List String
  stage : Stage

/-- The locks a call has. -/
def DeployCall.held (call : DeployCall) : List String :=
  match call.stage with
  | .locking taken _ => call.paths.take taken
  | .working _ => call.paths
  | .unlocking left => call.paths.take left
  | .returned => []

/-- The lock a call asks for next. -/
def DeployCall.next (call : DeployCall) : Option String :=
  match call.stage with
  | .locking taken _ => call.paths[taken]?
  | _ => none

structure LockSys where
  mutexes : Table Mutex.path
  calls : List DeployCall

inductive LockAction where
  | call (entry : Entry)
  | loadOrStore (c : Nat)
  | lock (c : Nat)
  | enter (c steps : Nat)
  | work (c : Nat)
  | leave (c : Nat)
  | unlock (c : Nat)
  | finish (c : Nat)

def newCall (workingDir : Except String String) (entry : Entry) : DeployCall :=
  match lockPaths workingDir entry with
  | none => ⟨entry, [], .returned⟩
  | some paths => ⟨entry, paths, .locking 0 false⟩

def LockSys.move (s : LockSys) (c : Nat) (call : DeployCall) (stage : Stage)
    (mutexes : Table Mutex.path) : LockSys :=
  ⟨mutexes, s.calls.set c { call with stage := stage }⟩

namespace LockSys

def step (workingDir : Except String String) (s : LockSys) : LockAction → Option LockSys
  | .call entry => some { s with calls := s.calls ++ [newCall workingDir entry] }
  | .loadOrStore c => (s.calls[c]?).bind (fun call =>
      match call.stage with
      | .locking taken false => (call.paths[taken]?).map (fun p =>
          s.move c call (.locking taken true) (s.mutexes.insertOrIgnore ⟨p, none⟩))
      | _ => none)
  | .lock c => (s.calls[c]?).bind (fun call =>
      match call.stage with
      | .locking taken true => (call.paths[taken]?).bind (fun p =>
          -- Locking blocks while anyone has the mutex, the caller itself included.
          if s.mutexes.get? p = some ⟨p, none⟩ then
            some (s.move c call (.locking (taken + 1) false) (s.mutexes.upsert ⟨p, some c⟩))
          else none)
      | _ => none)
  | .enter c steps => (s.calls[c]?).bind (fun call =>
      match call.stage with
      | .locking taken false =>
        if taken = call.paths.length then some (s.move c call (.working steps) s.mutexes) else none
      | _ => none)
  | .work c => (s.calls[c]?).bind (fun call =>
      match call.stage with
      | .working (left + 1) => some (s.move c call (.working left) s.mutexes)
      | _ => none)
  | .leave c => (s.calls[c]?).bind (fun call =>
      match call.stage with
      | .working 0 => some (s.move c call (.unlocking call.paths.length) s.mutexes)
      | _ => none)
  | .unlock c => (s.calls[c]?).bind (fun call =>
      match call.stage with
      | .unlocking (left + 1) => (call.paths[left]?).map (fun p =>
          s.move c call (.unlocking left) (s.mutexes.upsert ⟨p, none⟩))
      | _ => none)
  | .finish c => (s.calls[c]?).bind (fun call =>
      match call.stage with
      | .unlocking 0 => some (s.move c call .returned s.mutexes)
      | _ => none)

def Initial (s : LockSys) : Prop := s.mutexes = .empty _ ∧ s.calls = []

/-- Everything a step can do. -/
inductive Effect (workingDir : Except String String) (s : LockSys) :
    LockAction → LockSys → Prop where
  | called {entry : Entry} :
      Effect workingDir s (.call entry) { s with calls := s.calls ++ [newCall workingDir entry] }
  | loaded {c taken : Nat} {call : DeployCall} {p : String} (current : s.calls[c]? = some call)
      (stage : call.stage = .locking taken false) (wanted : call.paths[taken]? = some p) :
      Effect workingDir s (.loadOrStore c)
        (s.move c call (.locking taken true) (s.mutexes.insertOrIgnore ⟨p, none⟩))
  | locked {c taken : Nat} {call : DeployCall} {p : String} (current : s.calls[c]? = some call)
      (stage : call.stage = .locking taken true) (wanted : call.paths[taken]? = some p)
      (free : s.mutexes.get? p = some ⟨p, none⟩) :
      Effect workingDir s (.lock c)
        (s.move c call (.locking (taken + 1) false) (s.mutexes.upsert ⟨p, some c⟩))
  | entered {c steps : Nat} {call : DeployCall} (current : s.calls[c]? = some call)
      (stage : call.stage = .locking call.paths.length false) :
      Effect workingDir s (.enter c steps) (s.move c call (.working steps) s.mutexes)
  | worked {c left : Nat} {call : DeployCall} (current : s.calls[c]? = some call)
      (stage : call.stage = .working (left + 1)) :
      Effect workingDir s (.work c) (s.move c call (.working left) s.mutexes)
  | left {c : Nat} {call : DeployCall} (current : s.calls[c]? = some call)
      (stage : call.stage = .working 0) :
      Effect workingDir s (.leave c) (s.move c call (.unlocking call.paths.length) s.mutexes)
  | unlocked {c left : Nat} {call : DeployCall} {p : String} (current : s.calls[c]? = some call)
      (stage : call.stage = .unlocking (left + 1)) (given : call.paths[left]? = some p) :
      Effect workingDir s (.unlock c)
        (s.move c call (.unlocking left) (s.mutexes.upsert ⟨p, none⟩))
  | returned {c : Nat} {call : DeployCall} (current : s.calls[c]? = some call)
      (stage : call.stage = .unlocking 0) :
      Effect workingDir s (.finish c) (s.move c call .returned s.mutexes)

theorem step_effect {s s' : LockSys} {a : LockAction} (taken : s.step workingDir a = some s') :
    Effect workingDir s a s' := by
  cases a
  case call =>
    cases taken
    exact .called
  all_goals obtain ⟨call, current, taken⟩ := Option.bind_eq_some_iff.mp taken
  case loadOrStore =>
    split at taken
    next i stage =>
      obtain ⟨p, wanted, rfl⟩ := Option.map_eq_some_iff.mp taken
      exact .loaded current stage wanted
    · cases taken
  case lock =>
    split at taken
    next i stage =>
      obtain ⟨p, wanted, taken⟩ := Option.bind_eq_some_iff.mp taken
      obtain ⟨free, ⟨⟩⟩ := of_then taken nofun
      exact .locked current stage wanted free
    · cases taken
  case enter =>
    split at taken
    next i stage =>
      obtain ⟨all, ⟨⟩⟩ := of_then taken nofun
      exact .entered current (all ▸ stage)
    · cases taken
  case work =>
    split at taken
    next i stage =>
      cases taken
      exact .worked current stage
    · cases taken
  case leave =>
    split at taken
    next stage =>
      cases taken
      exact .left current stage
    · cases taken
  case unlock =>
    split at taken
    next i stage =>
      obtain ⟨p, given, rfl⟩ := Option.map_eq_some_iff.mp taken
      exact .unlocked current stage given
    · cases taken
  case finish =>
    split at taken
    next stage =>
      cases taken
      exact .returned current stage
    · cases taken

end LockSys

end Certctl.Source.Deploy
