import Concordance.Pattern.Class

/-!
# Patterns

Regular expressions with groups, anchors and bounded repetition.

Group zero is the whole match; the groups of a pattern count from one. A
repetition prefers as many rounds as possible, or as few as possible if it is
lazy.

A repetition of something that never takes a character is worth at most one
round, and a repetition of no rounds is empty. `repeated` builds repetitions
with these rules, so a group inside a dropped round is not part of the
pattern.

## Main definitions

* `Anchor`: A condition on a place in the text.
* `Pattern`: A regular expression.
* `Pattern.repeated`: A repetition.
* `Pattern.groupCount`: How many groups a match has.
-/

namespace Concordance

/-- A condition on a place in the text. -/
inductive Pattern.Anchor where
  | textStart
  | textEnd
  | lineStart
  | lineEnd
  /-- The start of a line, where carriage returns end lines too. -/
  | rowStart
  /-- The end of such a line. -/
  | rowEnd
  | wordEdge
  | noWordEdge
  | wordStart
  | wordEnd
  | halfWordStart
  | halfWordEnd

/-- A regular expression. -/
inductive Pattern where
  | empty
  | char (c : Pattern.Class)
  | anchor (a : Pattern.Anchor)
  | group (n : Nat) (p : Pattern)
  | seq (p q : Pattern)
  | alt (p q : Pattern)
  | rounds (p : Pattern) (min : Nat) (max? : Option Nat) (greedy : Bool)

namespace Pattern

/-- Whether a place with these neighbours satisfies a condition. -/
def Anchor.holds (before after : Option Char) (a : Anchor) : Bool :=
  let wordBefore := before.any Text.isWord
  let wordAfter := after.any Text.isWord
  match a with
  | .textStart => before.isNone
  | .textEnd => after.isNone
  | .lineStart => before.all (· = '\n')
  | .lineEnd => after.all (· = '\n')
  | .rowStart => before.all fun c => c = '\n' || (c = '\r' && after ≠ some '\n')
  | .rowEnd => after.all fun c => c = '\r' || (c = '\n' && before ≠ some '\r')
  | .wordEdge => wordBefore != wordAfter
  | .noWordEdge => wordBefore == wordAfter
  | .wordStart => !wordBefore && wordAfter
  | .wordEnd => wordBefore && !wordAfter
  | .halfWordStart => !wordBefore
  | .halfWordEnd => !wordAfter

/-- Whether a pattern never takes a character. -/
def isWeightless : Pattern → Bool
  | .empty => true
  | .char _ => false
  | .anchor _ => true
  | .group _ p => p.isWeightless
  | .seq p q => p.isWeightless && q.isWeightless
  | .alt p q => p.isWeightless && q.isWeightless
  | .rounds p _ max? _ => p.isWeightless || max? = some 0

/-- Whether a pattern may match without taking a character. -/
def isNullable : Pattern → Bool
  | .empty => true
  | .char _ => false
  | .anchor _ => true
  | .group _ p => p.isNullable
  | .seq p q => p.isNullable && q.isNullable
  | .alt p q => p.isNullable || q.isNullable
  | .rounds p min _ _ => p.isNullable || min = 0

/-- A repetition, with rounds that cannot matter left out. -/
def repeated (p : Pattern) (min : Nat) (max? : Option Nat) (greedy : Bool) : Pattern :=
  let most? := if p.isWeightless then some (Nat.min (max?.getD 1) 1) else max?
  let least := if p.isWeightless then Nat.min min 1 else min
  match most? with
  | some 0 => .empty
  | some 1 => if least = 1 then p else .rounds p 0 (some 1) greedy
  | _ => .rounds p least most? greedy

/-- One more than the highest number of a group. -/
def groupCount : Pattern → Nat
  | .empty => 1
  | .char _ => 1
  | .anchor _ => 1
  | .group n p => Nat.max (n + 1) p.groupCount
  | .seq p q => Nat.max p.groupCount q.groupCount
  | .alt p q => Nat.max p.groupCount q.groupCount
  | .rounds p _ _ _ => p.groupCount

/-- How large a pattern is with all its rounds written out. -/
def weight : Pattern → Nat
  | .empty => 0
  | .char _ => 1
  | .anchor _ => 1
  | .group _ p => p.weight + 2
  | .seq p q => p.weight + q.weight
  | .alt p q => p.weight + q.weight + 1
  | .rounds p min max? _ => (p.weight + 1) * (Nat.max min (max?.getD min) + 1)

end Pattern

end Concordance
