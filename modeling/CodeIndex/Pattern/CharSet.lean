import CodeIndex.Text.Blank
import CodeIndex.Text.Category
import CodeIndex.Text.Fold

set_option autoImplicit false

/-!
# Sets of characters in patterns

A set is kept as the expression that it was written as, and membership is decided on that
expression. A set can be closed under a change of letter case; the closure is taken before a
complement, so that the complement never holds a letter in one case only.

## Main definitions

* `CharSet` — an expression for a set of characters.
* `CharSet.has` — membership.
* `CharSet.ofAsciiName?` — the named sets of ASCII characters.
* `CharSet.ofProperty?` — the sets named by a general category or another property.
-/

namespace CodeIndex

/-- An expression for a set of characters. -/
inductive CharSet where
  | none
  | any
  | between (first last : Nat)
  | categories (ks : List Text.Category)
  | alphabetic
  | blank
  | word
  | union (a b : CharSet)
  | inter (a b : CharSet)
  | diff (a b : CharSet)
  | symmDiff (a b : CharSet)
  | compl (a : CharSet)
  /-- Every character that differs from a member at most in case. -/
  | folded (a : CharSet)
  /-- Every ASCII letter that differs from a member at most in case, and all members. -/
  | foldedAscii (a : CharSet)
deriving Repr

namespace CharSet

/-- The other case of an ASCII letter, and every other character itself. -/
def swapAsciiCase (c : Char) : Char := if c.isUpper then c.toLower else c.toUpper

/-- Whether a character is a member. -/
def has : CharSet → Char → Bool
  | none, _ => false
  | any, _ => true
  | between first last, c => decide (first ≤ c.toNat) && decide (c.toNat ≤ last)
  | categories ks, c => ks.any (·.has c)
  | alphabetic, c => Text.isAlphabetic c
  | blank, c => Text.isBlank c
  | word, c => Text.isWord c
  | union a b, c => a.has c || b.has c
  | inter a b, c => a.has c && b.has c
  | diff a b, c => a.has c && !b.has c
  | symmDiff a b, c => a.has c != b.has c
  | compl a, c => !a.has c
  | folded a, c => (Text.sameFold c).any fun d => a.has d
  | foldedAscii a, c => a.has c || a.has (swapAsciiCase c)

/-- The set of one character. -/
def single (c : Char) : CharSet := between c.toNat c.toNat

/-- The union of several runs of ASCII characters. -/
def runs (rs : List (Char × Char)) : CharSet :=
  rs.foldr (fun (first, last) s => union (between first.toNat last.toNat) s) none

/-- The union of the runs of a table without gaps inside its runs. -/
def ofRuns (rs : Text.Runs) : CharSet :=
  rs.foldr (fun (first, last, _) s => union (between first last) s) none

/-- The upper-case characters, letters or not. -/
def uppercase : CharSet := union (categories [.lu]) (ofRuns Text.upperExtras)

/-- The lower-case characters, letters or not. -/
def lowercase : CharSet :=
  union (categories [.ll]) (diff (ofRuns Text.casedExtras) (ofRuns Text.upperExtras))

/-- The ASCII digits. -/
def asciiDigit : CharSet := runs [('0', '9')]

/-- The ASCII blanks. -/
def asciiBlank : CharSet := runs [('\t', '\r'), (' ', ' ')]

/-- The ASCII letters, digits and the underscore. -/
def asciiWord : CharSet := runs [('0', '9'), ('A', 'Z'), ('_', '_'), ('a', 'z')]

/-- The set that a name between colons stands for. -/
def ofAsciiName? : String → Option CharSet
  | "alnum" => some (runs [('0', '9'), ('A', 'Z'), ('a', 'z')])
  | "alpha" => some (runs [('A', 'Z'), ('a', 'z')])
  | "ascii" => some (between 0 0x7F)
  | "blank" => some (runs [('\t', '\t'), (' ', ' ')])
  | "cntrl" => some (union (between 0 0x1F) (between 0x7F 0x7F))
  | "digit" => some asciiDigit
  | "graph" => some (runs [('!', '~')])
  | "lower" => some (runs [('a', 'z')])
  | "print" => some (runs [(' ', '~')])
  | "punct" => some (runs [('!', '/'), (':', '@'), ('[', '\x60'), ('\x7b', '~')])
  | "space" => some asciiBlank
  | "upper" => some (runs [('A', 'Z')])
  | "word" => some asciiWord
  | "xdigit" => some (runs [('0', '9'), ('A', 'F'), ('a', 'f')])
  | _ => Option.none

/-- Every assigned character. -/
def assigned : CharSet :=
  categories (Text.Category.letters ++ Text.Category.marks ++ Text.Category.numbers ++
    Text.Category.punctuation ++ Text.Category.symbols ++ Text.Category.separators ++
    [.cc, .cf, .co])

/-- A property name without what does not count in it: letter case, spaces, hyphens, underscores,
and a leading "is". -/
def normalName (name : String) : String :=
  match (name.toList.filter fun c => !(c == ' ' || c == '_' || c == '-')).map Char.toLower with
  | 'i' :: 's' :: cs => String.ofList cs
  | cs => String.ofList cs

/-- The set of the characters with a property, by the name of the property. -/
def ofProperty? (name : String) : Option CharSet :=
  match normalName name with
  | "any" => some any
  | "ascii" => some (between 0 0x7F)
  | "assigned" => some assigned
  | "cn" | "unassigned" => some (compl assigned)
  | "c" | "other" => some (union (compl assigned) (categories [.cc, .cf, .co]))
  | "alphabetic" | "alpha" => some alphabetic
  | "whitespace" | "wspace" | "space" => some blank
  | "uppercase" | "upper" => some uppercase
  | "lowercase" | "lower" => some lowercase
  | "cased" => some (union (categories [.lt]) (union uppercase lowercase))
  | normal => (Text.Category.ofName? normal).map categories

end CharSet

end CodeIndex
