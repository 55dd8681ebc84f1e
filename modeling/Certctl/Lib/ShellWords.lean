import Mathlib.Data.List.Basic

/-!
The words of a command line as the POSIX shell recognises them. Quotes, parameter expansions,
arithmetic expansions and command substitutions open a context each, which is read to its own
end before the word goes on. A character of a word carries whether it is quoted; only unquoted
ones are subject to expansions, and those of an expansion are kept as they stand.

Texts on which shells differ, or whose end only the grammar of commands tells, are no words
here: quotes in an expansion that is itself in double quotes, `$'`, an escaped backquote, dollar
or backslash in backquotes, and in a substitution a here-document or the word `case`.
-/
namespace Certctl.Lib.ShellWords

abbrev Word := List (Char × Bool)

/-- A context that is open: quotes; `${ }`; `$(( ))` and a parenthesis in it; `$( )`, a
parenthesis in it and a comment; backquotes. -/
inductive Context where
  | single | double | parameter | arithmetic | group | command | subshell | comment | backquote
  deriving DecidableEq

/-- What the last character may be the beginning of. -/
inductive Ahead where
  | nothing | dollar | dollarParen | less | arithmeticEnd
  deriving DecidableEq

/-- The contexts, innermost first; whether the last character was an escaping backslash; of a
command in a substitution, the word so far if nothing in it is quoted or expanded; and the word
of the line, if one has begun. -/
structure State where
  contexts : List Context := []
  escaped : Bool := false
  ahead : Ahead := .nothing
  command : Option (List Char) := none
  word : Option Word := none

namespace State

variable (st : State) (c : Char)

/-- A character more in the word, which it begins if there is none yet. -/
def put (quoted : Bool) : State := { st with word := some (st.word.getD [] ++ [(c, quoted)]) }

/-- A character that stands for itself. -/
def keep : State := st.put c (decide (st.contexts = [.single] ∨ st.contexts = [.double]))

/-- A quote is part of the word only within an expansion. -/
def mark : State :=
  if st.contexts = [.single] ∨ st.contexts = [.double] then
    { st with word := some (st.word.getD []) }
  else st.put c false

def enter (context : Context) : State := { st with contexts := context :: st.contexts }

def leave : State := { st with contexts := st.contexts.tail, command := none }

/-- The quotes around the context are double ones. -/
def inDouble : List Context → Bool
  | .double :: _ | .arithmetic :: _ | .group :: _ => true
  | .parameter :: rest | .backquote :: rest => inDouble rest
  | _ => false

/-- The character before this one was not the beginning of anything longer. -/
def settle : Option State :=
  match st.ahead with
  | .dollarParen => some { st.enter .command with ahead := .nothing, command := some [] }
  | .arithmeticEnd => none
  | _ => some { st with ahead := .nothing }

/-- A character behind a backslash; an escaped newline continues the line. -/
def unescape : Option State :=
  if c = '\n' then some { st with escaped := false }
  else { st with escaped := false }.settle.bind fun st =>
    match st.contexts with
    | [] => some (st.put c true)
    | [.double] =>
      some (if c ∈ ['$', '\x60', '"', '\\'] then st.put c true else (st.put '\\' true).put c true)
    | .arithmetic :: _ | .group :: _ => none
    | contexts =>
      if c ∈ ['$', '\x60', '\\'] ∧ Context.backquote ∈ contexts then none
      else some { (st.put '\\' false).put c false with command := none }

/-- A character of a command. -/
def inCommand : Option State :=
  if c ∈ [' ', '\t', '\n', ';', '&', '|', '<', '>', '(', ')'] then
    if st.command = some ['c', 'a', 's', 'e'] then none
    else if c = '(' then some { (st.put c false).enter .subshell with command := some [] }
    else if c = ')' then
      match st.contexts with
      | .command :: _ => some (st.put c false).leave
      | .subshell :: _ => some { (st.put c false).leave with command := some [] }
      | _ => none
    else some { st.put c false with
      command := some [], ahead := if c = '<' then .less else .nothing }
  else if c = '#' ∧ st.command = some [] then some ((st.put c false).enter .comment)
  else some { st.put c false with command := st.command.map (· ++ [c]) }

def inArithmetic : Option State :=
  if c ∈ ['\'', '"', ';', '#', '\n'] then none
  else if c = '(' then some ((st.put c false).enter .group)
  else if c = ')' then
    some (if st.contexts.head? = some .group then (st.put c false).leave
      else { st.put c false with ahead := .arithmeticEnd })
  else some (st.put c false)

/-- A character that is not escaped and continues nothing. -/
def ordinary : Option State :=
  match st.contexts with
  | .single :: _ => some (if c = '\'' then (st.mark c).leave else st.keep c)
  | .comment :: _ =>
    if c = '\x60' ∧ .backquote ∈ st.contexts then none
    else some (if c = '\n' then { (st.put c false).leave with command := some [] }
      else st.put c false)
  | contexts =>
    if c = '$' then some { st.put c false with ahead := .dollar, command := none }
    else if c = '\x60' then
      if contexts.head? = some .backquote then some (st.put c false).leave
      else if .backquote ∈ contexts then none
      else some { (st.put c false).enter .backquote with command := some [] }
    else
      match contexts with
      | .double :: _ => some (if c = '"' then (st.mark c).leave else st.keep c)
      | .arithmetic :: _ | .group :: _ => st.inArithmetic c
      | contexts =>
        if c = '\'' ∨ c = '"' then
          if inDouble contexts then none
          else some { (st.enter (if c = '"' then .double else .single)).mark c with
            command := none }
        else
          match contexts with
          | [] =>
            -- Operators and comments are not words.
            if c ∈ ['\n', ';', '&', '|', '<', '>', '(', ')'] ∨ (c = '#' ∧ st.word = none) then none
            else some (st.keep c)
          | .parameter :: _ => some (if c = '\x7d' then (st.put c false).leave else st.put c false)
          | _ => st.inCommand c

def isEscape : Bool :=
  decide (c = '\\' ∧ st.contexts.head? ≠ some .single ∧ st.contexts.head? ≠ some .comment)

/-- One character more, and the word it ends. -/
def step : Option (State × List Word) :=
  if st.escaped then (st.unescape c).map (·, [])
  else if st.isEscape c then some ({ st with escaped := true }, [])
  else if st.ahead = .dollar ∧ c = '(' then
    some ({ st.put c false with ahead := .dollarParen }, [])
  else if st.ahead = .dollar ∧ c = '\x7b' then
    some ({ (st.put c false).enter .parameter with ahead := .nothing }, [])
  else if st.ahead = .dollar ∧ c = '$' then some ({ st.put c false with ahead := .nothing }, [])
  else if st.ahead = .dollar ∧ c = '\'' ∧ inDouble st.contexts = false then none
  else if st.ahead = .dollarParen ∧ c = '(' then
    some ({ (st.put c false).enter .arithmetic with ahead := .nothing }, [])
  else if st.ahead = .less ∧ c = '<' then none
  else if st.ahead = .arithmeticEnd ∧ c = ')' then
    some ({ (st.put c false).leave with ahead := .nothing }, [])
  else if st.contexts = [] ∧ (c = ' ' ∨ c = '\t') ∧ st.ahead ≠ .dollarParen then
    some ({}, st.word.toList)
  else (st.settle.bind (·.ordinary c)).map (·, [])

/-- Nothing is open; a dollar at the end of a word stands for itself. -/
def closed : Bool :=
  decide (st.contexts = [] ∧ st.escaped = false ∧ (st.ahead = .nothing ∨ st.ahead = .dollar))

end State

/-- The words of a text that is nothing but complete words and the blanks between them. -/
def lex (st : State) : List Char → Option (List Word)
  | [] => if st.closed then some st.word.toList else none
  | c :: rest => (st.step c).bind fun taken => (lex taken.1 rest).map (taken.2 ++ ·)

/-- A character that completes no word. -/
theorem lex_cons {st next : State} {c : Char} (taken : st.step c = some (next, []))
    (rest : List Char) : lex st (c :: rest) = lex next rest := by
  rw [lex, taken, Option.bind_some]
  cases lex next rest <;> rfl

/-- A blank after complete words ends the last of them. -/
theorem lex_blank {st : State} {text : List Char} {words : List Word}
    (complete : lex st text = some words) (rest : List Char) :
    lex st (text ++ ' ' :: rest) = (lex {} rest).map (words ++ ·) := by
  induction text generalizing st words with
  | nil =>
    rw [lex, Option.ite_none_right_eq_some] at complete
    obtain ⟨closed, same⟩ := complete
    obtain ⟨top, plain, ahead⟩ := of_decide_eq_true closed
    have ends : st.step ' ' = some ({}, st.word.toList) := by
      rcases ahead with ahead | ahead <;> simp [State.step, State.isEscape, top, plain, ahead]
    rw [← Option.some.inj same]
    simp [lex, ends]
  | cons c text ih =>
    obtain ⟨next, taken, later⟩ := Option.bind_eq_some_iff.mp complete
    obtain ⟨found, read, rfl⟩ := Option.map_eq_some_iff.mp later
    rw [List.cons_append, lex, taken, Option.bind_some, ih read, Option.map_map]
    simp [Function.comp_def]

end Certctl.Lib.ShellWords
