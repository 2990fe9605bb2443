import CodeIndex.Pattern.Class

set_option autoImplicit false

/-!
# Reading patterns

The written form of patterns. Inside a group, flags hold from where they are set to the end of the
group. A text that is no pattern is refused as a whole: an unbalanced bracket, a repetition of
nothing, bounds in the wrong order, a look around or back, an unknown escape.

## Main definitions

* `OpenGroup` — what was read so far of one group.
* `Pattern.parse?` — the pattern that a text denotes.

## Implementation notes

The groups that are open form a stack. Every round of the loop takes at least one character, so the
length of the input bounds the number of rounds.
-/

namespace CodeIndex

/-- What was read so far of one group. -/
structure OpenGroup where
  flags : PatternFlags
  /-- The finished alternatives, the last first. -/
  branches : List (Pattern Condition)
  /-- The parts of the current alternative, the last first. -/
  items : List (Pattern Condition)
  /-- Whether something stands before this place that can be repeated. -/
  repeatable : Bool

namespace OpenGroup

/-- A group of which nothing was read. -/
def start (flags : PatternFlags) : OpenGroup := ⟨flags, [], [], false⟩

/-- One more part. -/
def push (g : OpenGroup) (p : Pattern Condition) : OpenGroup :=
  { g with items := p :: g.items, repeatable := true }

/-- The current alternative. -/
def branch (g : OpenGroup) : Pattern Condition := g.items.foldl (fun q p => .seq p q) .empty

/-- Begin another alternative. -/
def alternate (g : OpenGroup) : OpenGroup :=
  { g with branches := g.branch :: g.branches, items := [], repeatable := false }

/-- The pattern of the finished group. -/
def finish (g : OpenGroup) : Pattern Condition := g.branches.foldl (fun q p => .alt p q) g.branch

/-- Repeat the last part. -/
def loop? (g : OpenGroup) (least : Nat) (most : Option Nat) : Option OpenGroup :=
  match g.repeatable, g.items with
  | true, p :: items => some { g with items := .loop p least most :: items }
  | _, _ => none

/-- Set flags for the rest of the group. -/
def setFlags (g : OpenGroup) (flags : PatternFlags) : OpenGroup :=
  { g with flags := flags, repeatable := false }

end OpenGroup

namespace PatternFlags

/-! ## Flags -/

/-- Set one flag by its letter. Whether repetitions are lazy makes no difference to an
occurrence. -/
def set? (f : PatternFlags) (on : Bool) : Char → Option PatternFlags
  | 'i' => some { f with caseless := on }
  | 'm' => some { f with multiline := on }
  | 's' => some { f with dotAll := on }
  | 'x' => some { f with spaced := on }
  | 'R' => some { f with crlf := on }
  | 'u' => some { f with unicode := on }
  | 'U' => some f
  | _ => none

/-- What ends a list of flags: the group goes on with a pattern, or it only sets the flags. -/
inductive FlagsEnd where
  | pattern
  | setting
deriving DecidableEq

/-- Read flags: each letter at most once, at most one minus sign, and a letter after it. -/
def flags? (f : PatternFlags) (seen : List Char) :
    List Char → Option (PatternFlags × FlagsEnd × List Char)
  | [] => none
  | ':' :: cs => if seen.head? = some '-' then none else some (f, .pattern, cs)
  | ')' :: cs =>
    if seen.isEmpty || seen.head? == some '-' then none else some (f, .setting, cs)
  | c :: cs =>
    if seen.contains c then none
    else if c = '-' then flags? f (c :: seen) cs
    else
      match f.set? (!seen.contains '-') c with
      | none => none
      | some f => flags? f (c :: seen) cs

/-! ## Single pieces -/

variable (f : PatternFlags)

/-- The pattern of a character. -/
def character? (c : Char) (isByte : Bool) : Option (Pattern Condition) :=
  let ascii := decide (c.toNat < 0x80)
  if f.unicode || ascii then some (.test (.one (f.fold (.single c))))
  else if isByte || f.caseless then none
  else some (.test (.one (.single c)))

/-- The pattern of a set. A set that is read as ASCII has to stay within it. -/
def oneOf? (s : CharSet) : Option (Pattern Condition) :=
  if f.unicode || (List.range 0x80).all fun n => !s.has (Char.ofNat (n + 0x80)) then
    some (.test (.one s))
  else none

/-- The pattern of a piece. -/
def piece? : PatternPiece → Option (Pattern Condition)
  | .char c isByte => f.character? c isByte
  | .set s => f.oneOf? s
  | .look l => some (.test (.look l))

/-- The set of characters that the dot stands for. -/
def dot : CharSet :=
  if f.dotAll then .any
  else if f.crlf then .compl (.union (.single '\n') (.single '\r'))
  else .compl (.single '\n')

/-- What the anchor of a line start asks for. -/
def startAnchor : Look :=
  if f.multiline then (if f.crlf then .lineStartCrlf else .lineStart) else .textStart

/-- What the anchor of a line end asks for. -/
def endAnchor : Look :=
  if f.multiline then (if f.crlf then .lineEndCrlf else .lineEnd) else .textEnd

/-- Read a piece that is neither a group nor a class nor an operator. -/
def primitive? : List Char → Option (Pattern Condition × List Char)
  | [] => none
  | '\\' :: cs => (f.escape? cs).bind fun (piece, rest) => (f.piece? piece).map (·, rest)
  | '.' :: cs => (f.oneOf? f.dot).map (·, cs)
  | '^' :: cs => some (.test (.look f.startAnchor), cs)
  | '$' :: cs => some (.test (.look f.endAnchor), cs)
  | c :: cs => (f.character? c false).map (·, cs)

/-! ## Repetitions -/

/-- Leave out the mark of a lazy repetition. -/
def skipLazy : List Char → List Char
  | '?' :: cs => cs
  | cs => cs

/-- Whether a character can be part of a bound, where blanks may separate digits. -/
def isBoundChar (c : Char) : Bool := c.isDigit || (f.spaced && Text.isBlank c)

/-- Read a bound, with blanks around it. -/
def bound? (cs : List Char) : Option Nat × List Char :=
  let cs := (f.skipSpace cs).dropWhile Text.isBlank
  let digits := (cs.takeWhile f.isBoundChar).filter Char.isDigit
  let rest := f.skipSpace ((cs.dropWhile f.isBoundChar).dropWhile Text.isBlank)
  let value := digits.foldl (fun n d => n * 10 + (d.toNat - '0'.toNat)) 0
  (if digits.isEmpty || 0x100000000 ≤ value then none else some value, rest)

/-- Read the bounds of a repetition, after the opening brace. -/
def bounds? (cs : List Char) : Option (Nat × Option Nat × List Char) :=
  match f.bound? cs with
  | (some least, '\x7d' :: rest) => some (least, some least, skipLazy (f.skipSpace rest))
  | (some least, ',' :: rest) =>
    match f.skipSpace rest with
    | '\x7d' :: rest => some (least, none, skipLazy (f.skipSpace rest))
    | rest =>
      match f.bound? rest with
      | (some most, '\x7d' :: rest) =>
        if least ≤ most then some (least, some most, skipLazy (f.skipSpace rest)) else none
      | _ => none
  | _ => none

/-! ## Groups -/

/-- Whether a character can stand in the name of a group. -/
def isNameChar (first : Bool) (c : Char) : Bool :=
  c == '_' || Text.isAlphabetic c ||
    (!first && (c == '.' || c == '[' || c == ']' || Text.Category.numbers.any (·.has c)))

/-- Read the name of a group, which ends at an angle bracket. -/
def groupName? (names : List String) (cs : List Char) : Option (String × List Char) :=
  let name := cs.takeWhile (· ≠ '>')
  match cs.dropWhile (· ≠ '>'), name with
  | _ :: rest, c :: tail =>
    if isNameChar true c && tail.all (isNameChar false) && !names.contains (String.ofList name) then
      some (String.ofList name, rest)
    else none
  | _, _ => none

/-- What the beginning of a group says. -/
inductive GroupStart where
  /-- A group with its flags, and its name if it has one. -/
  | opened (flags : PatternFlags) (name : Option String)
  /-- Flags for the rest of the group around. -/
  | setting (flags : PatternFlags)

/-- Read the beginning of a group, after its parenthesis. -/
def groupStart? (names : List String) (cs : List Char) : Option (GroupStart × List Char) :=
  match f.skipSpace cs with
  | '?' :: '=' :: _ | '?' :: '!' :: _ | '?' :: '<' :: '=' :: _ | '?' :: '<' :: '!' :: _ => none
  | '?' :: 'P' :: '<' :: cs | '?' :: '<' :: cs =>
    (groupName? names cs).map fun (name, rest) => (.opened f (some name), rest)
  | '?' :: cs =>
    (f.flags? [] cs).map fun (flags, stop, rest) =>
      match stop with
      | .pattern => (.opened flags none, rest)
      | .setting => (.setting flags, rest)
  | cs => some (.opened f none, cs)

end PatternFlags

namespace Pattern

/-- Read what is left of the open groups, the innermost first. -/
def groupRounds : (rounds : Nat) → (names : List String) → OpenGroup → List OpenGroup → List Char →
    Option (Pattern Condition)
  | 0, _, _, _, _ => none
  | k + 1, names, g, gs, cs =>
    match g.flags.skipSpace cs with
    | [] => if gs.isEmpty then some g.finish else none
    | '(' :: cs =>
      match g.flags.groupStart? names cs with
      | none => none
      | some (.setting flags, rest) => groupRounds k names (g.setFlags flags) gs rest
      | some (.opened flags name, rest) =>
        groupRounds k (name.toList ++ names) (.start flags) (g :: gs) rest
    | ')' :: cs =>
      match gs with
      | [] => none
      | outer :: gs => groupRounds k names (outer.push g.finish) gs cs
    | '|' :: cs => groupRounds k names g.alternate gs cs
    | '[' :: cs =>
      match g.flags.class? cs with
      | none => none
      | some (s, rest) =>
        match g.flags.oneOf? s with
        | none => none
        | some p => groupRounds k names (g.push p) gs rest
    | '*' :: cs =>
      match g.loop? 0 none with
      | none => none
      | some g => groupRounds k names g gs (PatternFlags.skipLazy cs)
    | '+' :: cs =>
      match g.loop? 1 none with
      | none => none
      | some g => groupRounds k names g gs (PatternFlags.skipLazy cs)
    | '?' :: cs =>
      match g.loop? 0 (some 1) with
      | none => none
      | some g => groupRounds k names g gs (PatternFlags.skipLazy cs)
    | '\x7b' :: cs =>
      match g.flags.bounds? cs with
      | none => none
      | some (least, most, rest) =>
        match g.loop? least most with
        | none => none
        | some g => groupRounds k names g gs rest
    | cs =>
      match g.flags.primitive? cs with
      | none => none
      | some (p, rest) => groupRounds k names (g.push p) gs rest

/-- The largest number of steps that a pattern may take with its repetitions written out. -/
def maxExpansion : Nat := 327680

/-- The pattern that a text denotes, if it is a pattern and not too large. -/
def parse? (s : String) : Option (Pattern Condition) :=
  match groupRounds (s.toList.length + 1) [] (.start {}) [] s.toList with
  | none => none
  | some p => if p.expansion ≤ maxExpansion then some p else none

end Pattern

end CodeIndex
