/-!
# Shell Scripts

The commands of a shell, as trees.

A word is made of pieces, each of which knows whether it stood in quotes: what
an expansion yields is split at blanks only where it did not.

## Main definitions

* `Piece`: A part of a word.
* `Redirection`: Where a file descriptor leads.
* `Command`: A command.
-/

namespace Concordance

namespace Shell

mutual

/-- A part of a word. -/
inductive Piece where
  | text (cs : List Char) (isQuoted : Bool)
  /-- The value of a parameter, or of the word given for when it has none. -/
  | parameter (name : String) (fallback : Option (List Piece)) (isQuoted : Bool)
  | arithmetic (expression : List Piece) (isQuoted : Bool)
  /-- What a command writes. -/
  | output (c : Command) (isQuoted : Bool)

/-- Where a file descriptor leads. -/
inductive Redirection where
  /-- To a file. -/
  | toFile (descriptor : Nat) (path : List Piece)
  /-- From a file. -/
  | fromFile (descriptor : Nat) (path : List Piece)
  /-- Where another descriptor leads, or nowhere. -/
  | same (descriptor : Nat) (other : List Piece)

/-- A command. -/
inductive Command where
  | nothing
  | simple (assignments : List (String × List Piece)) (words : List (List Piece))
      (redirections : List Redirection)
  | pipeline (c d : Command)
  | negated (c : Command)
  | sequence (c d : Command)
  | both (c d : Command)
  | either (c d : Command)
  | background (c : Command)
  | conditional (condition yes no : Command)
  | repetition (untilHolds : Bool) (condition body : Command)
  | iteration (name : String) (words : List (List Piece)) (body : Command)
  | subshell (c : Command)
  | redirected (c : Command) (redirections : List Redirection)

end

end Shell

end Concordance
