import CodeIndex.Pattern.Escape

set_option autoImplicit false

/-!
# Classes in patterns

A set of characters written between brackets: characters, ranges, escapes, named ASCII sets and
nested classes, joined by set operations that group to the left.

## Main definitions

* `ClassLevel` — what was read so far of one bracketed class.
* `PatternFlags.class?` — read a class after its opening bracket.

## Implementation notes

The classes that are open form a stack. Every round of the loop takes at least one character, so
the length of the input bounds the number of rounds.
-/

namespace CodeIndex

/-- What was read so far of one bracketed class. -/
structure ClassLevel where
  negated : Bool
  /-- The union of the members since the last operation. -/
  members : CharSet
  /-- The operation that waits for its second operand, with the first. -/
  pending : Option ((CharSet → CharSet → CharSet) × CharSet)

namespace ClassLevel

/-- One more member. -/
def add (l : ClassLevel) (s : CharSet) : ClassLevel := { l with members := .union l.members s }

/-- The set so far, the complement aside. -/
def value (f : PatternFlags) (l : ClassLevel) : CharSet :=
  match l.pending with
  | none => l.members
  | some (op, first) => op (f.fold first) (f.fold l.members)

/-- The set so far becomes the first operand of an operation. -/
def operate (f : PatternFlags) (op : CharSet → CharSet → CharSet) (l : ClassLevel) : ClassLevel :=
  { l with members := .none, pending := some (op, l.value f) }

/-- The set of the finished class. -/
def finish (f : PatternFlags) (l : ClassLevel) : CharSet := f.close l.negated (l.value f)

end ClassLevel

namespace PatternFlags

variable (f : PatternFlags)

/-- Leading hyphens are members of a class. -/
def leadingHyphens (l : ClassLevel) (cs : List Char) : ClassLevel × List Char :=
  let isLead (c : Char) : Bool := c == '-' || (f.spaced && Text.isBlank c)
  if cs.head? == some '-' then (l.add (.single '-'), cs.dropWhile isLead) else (l, cs)

/-- Read the beginning of a class, after its bracket: the mark of a complement, then hyphens or one
closing bracket that are members. -/
def openClass (cs : List Char) : ClassLevel × List Char :=
  let (negated, cs) :=
    match f.skipSpace cs with
    | '^' :: cs => (true, f.skipSpace cs)
    | cs => (false, cs)
  let l : ClassLevel := ⟨negated, .none, none⟩
  match cs with
  | ']' :: cs => (l.add (.single ']'), f.skipSpace cs)
  | cs => f.leadingHyphens l cs

/-- Read a named ASCII set, after its bracket. -/
def asciiSet? : List Char → Option (CharSet × List Char)
  | ':' :: cs =>
    let (negated, cs) :=
      match cs with
      | '^' :: cs => (true, cs)
      | cs => (false, cs)
    match cs.dropWhile (· ≠ ':'), CharSet.ofAsciiName? (String.ofList (cs.takeWhile (· ≠ ':'))) with
    | ':' :: ']' :: rest, some s => some (f.close negated s, rest)
    | _, _ => none
  | _ => none

/-- Whether a character can be a member of a class under the flags. -/
def admits (c : Char) : Bool := f.unicode || decide (c.toNat < 0x80)

/-- Read a member of a class. -/
def member? : List Char → Option (PatternPiece × List Char)
  | [] => none
  | '\\' :: cs => f.escape? cs
  | c :: cs => some (.char c false, cs)

/-- The set of a member that is not an end of a range. -/
def memberSet? : PatternPiece → Option CharSet
  | .char c _ => if f.admits c then some (.single c) else none
  | .set s => some s
  | .look _ => none

/-- The set of a range; the ends are characters in order. -/
def range? : PatternPiece → PatternPiece → Option CharSet
  | .char a _, .char b _ =>
    if f.admits a && f.admits b && decide (a.toNat ≤ b.toNat) then some (.between a.toNat b.toNat)
    else none
  | _, _ => none

/-- Read a member or a range. A hyphen before a closing bracket or another hyphen makes no range. -/
def memberOrRange? (cs : List Char) : Option (CharSet × List Char) :=
  (f.member? cs).bind fun (first, rest) =>
    match f.skipSpace rest with
    | [] => none
    | '-' :: rest =>
      match f.skipSpace rest with
      | [] => none
      | ']' :: _ | '-' :: _ => (f.memberSet? first).map fun s => (s, '-' :: rest)
      | rest => (f.member? rest).bind fun (last, rest) => (f.range? first last).map (·, rest)
    | rest => (f.memberSet? first).map (·, rest)

/-- Read what is left of the open classes, the innermost first. -/
def classRounds : (rounds : Nat) → List ClassLevel → List Char → Option (CharSet × List Char)
  | 0, _, _ => none
  | _ + 1, [], _ => none
  | k + 1, l :: ls, cs =>
    match f.skipSpace cs with
    | [] => none
    | '[' :: rest =>
      match f.asciiSet? rest with
      | some (s, rest) => classRounds k (l.add s :: ls) rest
      | none =>
        let (inner, rest) := f.openClass rest
        classRounds k (inner :: l :: ls) rest
    | ']' :: rest =>
      match ls with
      | [] => some (l.finish f, rest)
      | outer :: ls => classRounds k (outer.add (l.finish f) :: ls) rest
    | '&' :: '&' :: rest => classRounds k (l.operate f .inter :: ls) rest
    | '-' :: '-' :: rest => classRounds k (l.operate f .diff :: ls) rest
    | '~' :: '~' :: rest => classRounds k (l.operate f .symmDiff :: ls) rest
    | cs =>
      match f.memberOrRange? cs with
      | none => none
      | some (s, rest) => classRounds k (l.add s :: ls) rest

/-- Read a class, after its opening bracket. -/
def class? (cs : List Char) : Option (CharSet × List Char) :=
  let (l, rest) := f.openClass cs
  f.classRounds (rest.length + 1) [l] rest

end PatternFlags

end CodeIndex
