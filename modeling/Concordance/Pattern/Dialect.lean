import Concordance.Pattern.Reader
import Concordance.Pattern.Search

/-!
# Dialects

Which texts are patterns, and where they match.

Libraries of regular expressions differ: in the classes that they have names
for, in the flags that they know, in how large a pattern may be. Whoever uses
a pattern does not need to know. A text is a pattern or it is none, a pattern
has so many groups, and the first one took part in some of the matches on a
text. A dialect is just that, and what is configured by a pattern is stated
for every dialect.

The standard dialect reads patterns with `read?` and searches with their
programs. It has no classes for the properties of Unicode and cannot look at
single bytes, and how large its patterns may be is its own choice.

## Main definitions

* `Expression`: A pattern that was read.
* `Dialect`: Which texts are patterns.
* `Dialect.standard`: The patterns of this library.
* `Dialect.Accepts`: A text is a pattern with a group.
-/

namespace Concordance

namespace Pattern

/-- A pattern that was read. -/
structure Expression where
  /-- How many groups a match has, the whole match among them. -/
  groupCount : Nat
  /-- Where the first group was in the matches on a text that it took part
      in, from left to right. -/
  firstGroups : Array Char → List (Nat × Nat)

/-- What is known of a pattern by its program. -/
def Expression.ofPattern (p : Pattern) : Expression :=
  let program := Program.ofPattern p
  { groupCount := p.groupCount
    firstGroups := fun text => (program.findAll text).filterMap fun m => m.group? 1 }

/-- Which texts are patterns. -/
structure Dialect where
  read? : String → Option Expression

namespace Dialect

/-- The patterns of this library. -/
def standard : Dialect where
  read? text := (Pattern.read? text).map .ofPattern

/-- Whether a text is a pattern with a group. -/
def Accepts (dialect : Dialect) (text : String) : Prop :=
  ∃ e, dialect.read? text = some e ∧ 2 ≤ e.groupCount

end Dialect

end Pattern

end Concordance
