set_option autoImplicit false

/-!
# Faults of a language adapter

The parser, the tokenizer and the other language-specific pieces are supplied from outside and may
break off instead of answering. Such a call yields a `Fault` in place of a value.

## Main definitions

* `Fault` — an abandoned call, with the message it left.
-/

namespace CodeIndex

/-- A call into a language adapter that was abandoned. -/
structure Fault where
  message : String
deriving DecidableEq, Repr, Inhabited

end CodeIndex
