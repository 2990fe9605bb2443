import CodeIndex.Position

set_option autoImplicit false

/-!
# Tokens

The lexical tokens of a file, and the one that a completion starts from.

## Main definitions

* `Token` — a lexical token.
* `Token.current?` — the first token around a point.
* `Token.previous?` — the last token that ends before a point.
-/

namespace CodeIndex

/-- A lexical token of a file. -/
structure Token where
  /-- Its position in the token stream. -/
  index : Nat
  kind : Nat
  text : String
  span : Span
deriving DecidableEq, Repr, Inhabited

namespace Token

/-- The first token around a point. -/
def current? (tokens : List Token) (p : Point) : Option Token :=
  tokens.find? fun t => t.span.containsPoint p

/-- The last token of the stream that ends before a point. -/
def previous? (tokens : List Token) (p : Point) : Option Token :=
  tokens.reverse.find? fun t => decide (t.span.stop < p)

end Token

end CodeIndex
