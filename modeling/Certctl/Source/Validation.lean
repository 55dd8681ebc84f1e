import Mathlib.Data.List.Basic

/-!
Quoting of texts that reach a command line. Texts are lists of characters.

Source: internal/validation/command.go.
-/
namespace Certctl.Source

/-- Each quote closes the quotes, stands in double quotes, and opens them again. -/
def replaceQuotes (s : List Char) : List Char :=
  s.flatMap fun c => if c = '\'' then ['\'', '"', '\'', '"', '\''] else [c]

def sanitizeForShell (s : List Char) : List Char := '\'' :: replaceQuotes s ++ ['\'']

end Certctl.Source
