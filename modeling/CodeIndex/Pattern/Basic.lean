import CodeIndex.Pattern.CharSet

set_option autoImplicit false

/-!
# Patterns

Regular patterns over characters, and whether one occurs in a text. Only occurrence is asked for,
so a lazy operator is the same as a greedy one and a group is the same as its content.

A text of `n` characters has `n + 1` places: before each character, and at the end. The pattern is
first laid over the text, which replaces each condition in it by the set of places where the
condition holds. From then on every part of the pattern maps a set of places where it may begin to
the set of places where it may end.

## Main definitions

* `Pattern` — a pattern over conditions of some kind.
* `Condition` — what a written pattern asks for at a place: a character of a set, or a `Look`.
* `Pattern.ends` — where a laid pattern ends, from a set of starting places.
* `Pattern.occursIn` — whether a pattern occurs anywhere in a text.

## Implementation notes

A set of places is a number whose bit `k` stands for place `k`.
-/

namespace CodeIndex

/-- A pattern over conditions. -/
inductive Pattern (α : Type) where
  | empty
  | test (a : α)
  | seq (p q : Pattern α)
  | alt (p q : Pattern α)
  /-- Between `least` and `most` occurrences in a row, without an upper bound if there is no
  `most`. -/
  | loop (p : Pattern α) (least : Nat) (most : Option Nat)
deriving Repr

namespace Pattern

/-- A pattern with each condition replaced. -/
def map {α β : Type} (f : α → β) : Pattern α → Pattern β
  | empty => empty
  | test a => test (f a)
  | seq p q => seq (p.map f) (q.map f)
  | alt p q => alt (p.map f) (q.map f)
  | loop p least most => loop (p.map f) least most

end Pattern

/-! ## Conditions -/

/-- What can be asked about a place without taking a character. -/
inductive Look where
  | textStart
  | textEnd
  | lineStart
  | lineEnd
  /-- The start of a line, where a carriage return ends lines too. -/
  | lineStartCrlf
  /-- The end of a line, where a carriage return ends lines too. -/
  | lineEndCrlf
  | boundary (chars : CharSet)
  | notBoundary (chars : CharSet)
  | wordStart (chars : CharSet)
  | wordEnd (chars : CharSet)
  /-- No word character stands before the place. -/
  | wordStartHalf (chars : CharSet)
  /-- No word character stands after the place. -/
  | wordEndHalf (chars : CharSet)
deriving Repr

/-- Whether a place satisfies a condition, given the characters before and after it. -/
def Look.holds (before after : Option Char) : Look → Bool
  | textStart => before.isNone
  | textEnd => after.isNone
  | lineStart => before.isNone || before == some '\n'
  | lineEnd => after.isNone || after == some '\n'
  | lineStartCrlf =>
    before.isNone || before == some '\n' || (before == some '\r' && after != some '\n')
  | lineEndCrlf =>
    after.isNone || after == some '\r' || (after == some '\n' && before != some '\r')
  | boundary w => before.any w.has != after.any w.has
  | notBoundary w => before.any w.has == after.any w.has
  | wordStart w => !before.any w.has && after.any w.has
  | wordEnd w => before.any w.has && !after.any w.has
  | wordStartHalf w => !before.any w.has
  | wordEndHalf w => !after.any w.has

/-- What a written pattern asks for at a place. -/
inductive Condition where
  /-- A character of a set, which is taken. -/
  | one (set : CharSet)
  /-- A property of the place. -/
  | look (l : Look)
deriving Repr

/-- A condition laid over a text: the places where it holds, and how many characters it takes. -/
structure LaidCondition where
  places : Nat
  width : Nat
deriving Repr

/-- The number with the given bits, the lowest first. -/
def bitset : List Bool → Nat
  | [] => 0
  | b :: bs => 2 * bitset bs + (if b then 1 else 0)

/-- The places of a text with the characters before and after each. -/
def places (before : Option Char) : List Char → List (Option Char × Option Char)
  | [] => [(before, none)]
  | c :: cs => (before, some c) :: places (some c) cs

/-- Lay a condition over a text. -/
def Condition.lay (text : List Char) : Condition → LaidCondition
  | one set => ⟨bitset (text.map set.has), 1⟩
  | look l => ⟨bitset ((places none text).map fun (before, after) => l.holds before after), 0⟩

/-! ## Matching -/

namespace Pattern

/-- Apply a map of sets of places a number of times, until nothing is left. -/
def times (f : Nat → Nat) : Nat → Nat → Nat
  | 0, s => s
  | k + 1, s => if s = 0 then 0 else times f k (f s)

/-- Add what a map of sets of places yields, a number of times, until nothing is added. -/
def spread (f : Nat → Nat) : Nat → Nat → Nat
  | 0, s => s
  | k + 1, s =>
    let s' := s ||| f s
    if s' = s then s else spread f k s'

/-- The places where a laid pattern may end when it begins at one of the given places. In a text of
`size` characters an unbounded repetition adds nothing after `size + 1` rounds. -/
def ends (size : Nat) : Pattern LaidCondition → Nat → Nat
  | empty, s => s
  | test c, s => (s &&& c.places) <<< c.width
  | seq p q, s => q.ends size (p.ends size s)
  | alt p q, s => p.ends size s ||| q.ends size s
  | loop p least most, s =>
    let rounds := match most with
      | some n => min (n - least) (size + 1)
      | none => size + 1
    spread (p.ends size) rounds (times (p.ends size) least s)

/-- Whether a pattern occurs anywhere in a text. -/
def occursIn (p : Pattern Condition) (text : List Char) : Bool :=
  (p.map (Condition.lay text)).ends text.length ((1 <<< (text.length + 1)) - 1) != 0

/-- The number of steps that a pattern takes when its repetitions are written out. -/
def expansion : Pattern Condition → Nat
  | empty => 1
  | test _ => 1
  | seq p q => p.expansion + q.expansion
  | alt p q => p.expansion + q.expansion + 1
  | loop p least most => p.expansion * max 1 (max least (most.getD 0)) + 1

end Pattern

end CodeIndex
