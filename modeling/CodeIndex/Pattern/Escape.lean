import CodeIndex.Pattern.Basic

set_option autoImplicit false

/-!
# Escapes in patterns

What a backslash introduces in a pattern: a character, a set of characters, or a property of the
place. An escape that is not listed is refused, and so is a reference back to a group.

## Main definitions

* `PatternFlags` — the switches that change how a pattern is read.
* `PatternPiece` — a character, a set or a look.
* `PatternFlags.skipSpace` — leave out blanks and comments, where the flags say so.
* `PatternFlags.escape?` — read what follows a backslash.
-/

namespace CodeIndex

/-- The switches that change how a pattern is read. -/
structure PatternFlags where
  /-- Letters match without regard to case. -/
  caseless : Bool := false
  /-- The line anchors match at every line. -/
  multiline : Bool := false
  /-- The dot matches a line break too. -/
  dotAll : Bool := false
  /-- Blanks and comments in the pattern do not count. -/
  spaced : Bool := false
  /-- A carriage return ends a line too. -/
  crlf : Bool := false
  /-- The classes cover all characters, not the ASCII characters only. -/
  unicode : Bool := true
deriving DecidableEq, Repr, Inhabited

/-- A part of a pattern that cannot be divided. -/
inductive PatternPiece where
  /-- A character; `isByte` if it was written as a number of two hexadecimal digits. -/
  | char (c : Char) (isByte : Bool)
  | set (s : CharSet)
  | look (l : Look)

/-- Leave out blanks, and comments up to the end of their line. -/
def skipComments (inComment : Bool) : List Char → List Char
  | [] => []
  | c :: cs =>
    if inComment then skipComments (c != '\n') cs
    else if c = '#' then skipComments true cs
    else if Text.isBlank c then skipComments false cs
    else c :: cs

namespace PatternFlags

variable (f : PatternFlags)

/-- Leave out blanks and comments, where they do not count. -/
def skipSpace (cs : List Char) : List Char := if f.spaced then skipComments false cs else cs

/-- The digits of a set of characters. -/
def digits : CharSet := if f.unicode then .categories [.nd] else .asciiDigit

/-- The blanks as a set of characters. -/
def blanks : CharSet := if f.unicode then .blank else .asciiBlank

/-- The characters of words as a set. -/
def words : CharSet := if f.unicode then .word else .asciiWord

/-- A set closed under a change of case, if case does not count. -/
def fold (s : CharSet) : CharSet :=
  if f.caseless then (if f.unicode then .folded s else .foldedAscii s) else s

/-- A set closed under a change of case, then complemented if it is negated. -/
def close (negated : Bool) (s : CharSet) : CharSet :=
  if negated then .compl (f.fold s) else f.fold s

end PatternFlags

/-! ## Characters by number -/

/-- The value of a hexadecimal digit. -/
def hexValue? (c : Char) : Option Nat :=
  if '0' ≤ c && c ≤ '9' then some (c.toNat - '0'.toNat)
  else if 'a' ≤ c && c ≤ 'f' then some (c.toNat - 'a'.toNat + 10)
  else if 'A' ≤ c && c ≤ 'F' then some (c.toNat - 'A'.toNat + 10)
  else none

/-- The character with a number, if there is one. -/
def charOfNumber? (n : Nat) : Option Char := if n.isValidChar then some (Char.ofNat n) else none

namespace PatternFlags

variable (f : PatternFlags)

/-- Read an exact number of hexadecimal digits. -/
def hexDigits? : (count value : Nat) → List Char → Option (Nat × List Char)
  | 0, value, cs => some (value, cs)
  | _ + 1, _, [] => none
  | k + 1, value, c :: cs =>
    match hexValue? c with
    | none => none
    | some d => hexDigits? k (value * 16 + d) (f.skipSpace cs)

/-- The hexadecimal number between braces, which has at least one digit. -/
def bracedHex? (cs : List Char) : Option (Nat × List Char) :=
  let digits := (cs.takeWhile (· ≠ '\x7d')).filter fun c => !(f.spaced && Text.isBlank c)
  match cs.dropWhile (· ≠ '\x7d'), digits.mapM hexValue? with
  | _ :: rest, some (d :: ds) => some ((d :: ds).foldl (fun n d => n * 16 + d) 0, rest)
  | _, _ => none

/-- Read a character by its number, after the letter that announces how many digits there are. -/
def hexChar? (letter : Char) (cs : List Char) : Option (PatternPiece × List Char) :=
  match f.skipSpace cs with
  | [] => none
  | '\x7b' :: cs =>
    (f.bracedHex? cs).bind fun (n, rest) => (charOfNumber? n).map fun c => (.char c false, rest)
  | cs =>
    let count := if letter = 'x' then 2 else if letter = 'u' then 4 else 8
    (f.hexDigits? count 0 cs).bind fun (n, rest) =>
      (charOfNumber? n).map fun c => (.char c (letter == 'x'), rest)

/-! ## Properties -/

/-- The set that a property between braces stands for: a name, or a name and a value. -/
def property? (body : List Char) : Option CharSet :=
  let isMark (c : Char) : Bool := c == ':' || c == '='
  let name := String.ofList (body.takeWhile fun c => !isMark c)
  match body.dropWhile fun c => !isMark c with
  | [] => CharSet.ofProperty? name
  | mark :: value =>
    let negated := mark == '=' && name.toList.getLast? == some '!'
    let name := if negated then String.ofList name.toList.dropLast else name
    if ["gc", "generalcategory", "category"].contains (CharSet.normalName name) then
      (CharSet.ofProperty? (String.ofList value)).map fun s => if negated then .compl s else s
    else none

/-- Read a property, after the letter that announces it. -/
def propertySet? (negated : Bool) (cs : List Char) : Option (PatternPiece × List Char) :=
  if !f.unicode then none
  else
    match f.skipSpace cs with
    | [] => none
    | '\\' :: _ => none
    | '\x7b' :: cs =>
      let body := (cs.takeWhile (· ≠ '\x7d')).filter fun c => !(f.spaced && Text.isBlank c)
      match cs.dropWhile (· ≠ '\x7d') with
      | [] => none
      | _ :: rest => (property? body).map fun s => (.set (f.close negated s), rest)
    | c :: rest => (property? [c]).map fun s => (.set (f.close negated s), rest)

/-! ## Boundaries of words -/

/-- Whether a character can be part of the name of a boundary. -/
def isBoundaryLetter (c : Char) : Bool := c.isAlpha || c == '-'

/-- Read a boundary, after its letter. A name in braces makes it a boundary of one side; braces
that do not begin with a letter belong to a repetition. -/
def boundary? (cs : List Char) : Option (PatternPiece × List Char) :=
  match cs with
  | '\x7b' :: inner =>
    match f.skipSpace inner with
    | [] => none
    | c :: tail =>
      if isBoundaryLetter c then
        let inName (c : Char) : Bool := isBoundaryLetter c || (f.spaced && Text.isBlank c)
        match (c :: tail).dropWhile inName,
            String.ofList (((c :: tail).takeWhile inName).filter isBoundaryLetter) with
        | '\x7d' :: rest, "start" => some (.look (.wordStart f.words), rest)
        | '\x7d' :: rest, "end" => some (.look (.wordEnd f.words), rest)
        | '\x7d' :: rest, "start-half" => some (.look (.wordStartHalf f.words), rest)
        | '\x7d' :: rest, "end-half" => some (.look (.wordEndHalf f.words), rest)
        | _, _ => none
      else some (.look (.boundary f.words), cs)
  | _ => some (.look (.boundary f.words), cs)

/-! ## Escapes -/

/-- Whether a backslash before an ASCII character gives the character itself. -/
def isEscapable (c : Char) : Bool :=
  decide (c.toNat < 0x80) && !c.isAlphanum && c != '<' && c != '>'

/-- Read what follows a backslash. -/
def escape? : List Char → Option (PatternPiece × List Char)
  | [] => none
  | c :: cs =>
    if isEscapable c then some (.char c false, cs)
    else
      match c with
      | 'x' | 'u' | 'U' => f.hexChar? c cs
      | 'p' => f.propertySet? false cs
      | 'P' => f.propertySet? true cs
      | 'd' => some (.set f.digits, cs)
      | 'D' => some (.set (.compl f.digits), cs)
      | 's' => some (.set f.blanks, cs)
      | 'S' => some (.set (.compl f.blanks), cs)
      | 'w' => some (.set f.words, cs)
      | 'W' => some (.set (.compl f.words), cs)
      | 'a' => some (.char '\x07' false, cs)
      | 'f' => some (.char '\x0c' false, cs)
      | 't' => some (.char '\t' false, cs)
      | 'n' => some (.char '\n' false, cs)
      | 'r' => some (.char '\r' false, cs)
      | 'v' => some (.char '\x0b' false, cs)
      | 'A' => some (.look .textStart, cs)
      | 'z' => some (.look .textEnd, cs)
      | 'b' => f.boundary? cs
      | 'B' => some (.look (.notBoundary f.words), cs)
      | '<' => some (.look (.wordStart f.words), cs)
      | '>' => some (.look (.wordEnd f.words), cs)
      | _ => none

end PatternFlags

end CodeIndex
