import Certctl.Lib.ShellWords
import Certctl.Source.Validation

/-!
A text quoted for the shell is one word wherever words may stand. Every quote in the text is
read in double quotes between two stretches in single quotes, and all else in single quotes.
-/
namespace Certctl.Guarantees.ShellQuoting

open Lib.ShellWords Source

/-- The word of a text, all of it quoted. -/
def literal (s : List Char) : Word := s.map (·, true)

/-- In a word, within single quotes. -/
def quoting (word : Word) : State := { contexts := [.single], word := some word }

theorem step_quoting {c : Char} (other : c ≠ '\'') (word : Word) :
    (quoting word).step c = some (quoting (word ++ [(c, true)]), []) := by
  simp [State.step, State.isEscape, State.settle, State.ordinary, State.keep, State.put, quoting,
    other]

theorem lex_close (word : Word) (rest : List Char) :
    lex (quoting word) ('\'' :: rest) = lex { word := some word } rest :=
  lex_cons rfl rest

/-- A quote in double quotes, and single quotes opened again. -/
theorem lex_reopen (word : Word) (rest : List Char) :
    lex { word := some word } ('"' :: '\'' :: '"' :: '\'' :: rest) =
      lex (quoting (word ++ [('\'', true)])) rest := by
  iterate 3 refine (lex_cons rfl _).trans ?_
  exact lex_cons rfl rest

/-- From within single quotes to the end of them. -/
theorem lex_single (s rest : List Char) (word : Word) :
    lex (quoting word) (replaceQuotes s ++ '\'' :: rest) =
      lex { word := some (word ++ literal s) } rest := by
  induction s generalizing word with
  | nil => simpa [replaceQuotes, literal] using lex_close word rest
  | cons c s ih =>
    have later : ∀ text, replaceQuotes (c :: s) ++ text = (if c = '\'' then
        ['\'', '"', '\'', '"', '\''] else [c]) ++ (replaceQuotes s ++ text) := by
      simp [replaceQuotes]
    rw [later]
    by_cases quote : c = '\''
    · simp [quote, lex_close, lex_reopen, ih, literal]
    · simp [quote, lex_cons (step_quoting quote word), ih, literal]

/-- Between complete words, a quoted text is one word: the text, with nothing left to expand. -/
theorem quoted_is_one_word (a s b : List Char) {before after : List Word}
    (left : lex {} a = some before) (right : lex {} b = some after) :
    lex {} (a ++ ' ' :: (sanitizeForShell s ++ ' ' :: b)) =
      some (before ++ literal s :: after) := by
  have opens : ∀ rest, lex {} ('\'' :: rest) = lex (quoting []) rest := lex_cons rfl
  have ends : lex { word := some (literal s) } (' ' :: b) = some (literal s :: after) := by
    have closed : lex { word := some (literal s) } [] = some [literal s] := rfl
    simpa [right] using lex_blank closed b
  have quoted : lex {} (sanitizeForShell s ++ ' ' :: b) = some (literal s :: after) := by
    have inside := lex_single s (' ' :: b) []
    rw [List.nil_append, ends] at inside
    simpa [sanitizeForShell, opens] using inside
  rw [lex_blank left, quoted]
  rfl

/-- Beside a substitution and an expansion with a blank in it. -/
theorem quoted_between_words :
    lex {} ("rm $(date)".toList ++ ' ' :: (sanitizeForShell "it's".toList ++
        ' ' :: "$\x7bx:-a b\x7d".toList)) =
      some (["rm".toList.map (·, false), "$(date)".toList.map (·, false)] ++
        literal "it's".toList :: ["$\x7bx:-a b\x7d".toList.map (·, false)]) :=
  quoted_is_one_word "rm $(date)".toList "it's".toList "$\x7bx:-a b\x7d".toList
    (by decide +kernel) (by decide +kernel)

end Certctl.Guarantees.ShellQuoting
