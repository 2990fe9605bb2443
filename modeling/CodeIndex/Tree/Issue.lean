import CodeIndex.Tree.Node

set_option autoImplicit false

/-!
# Results of a parse

A parse yields a tree, if any structure was recovered, and the issues that were found on the way.

## Main definitions

* `Issue`, `IssueCategory`, `IssueSeverity` — a problem that the parser reports.
* `Parse` — the result of one parse.
-/

namespace CodeIndex

/-- The stage at which an issue arose. -/
inductive IssueCategory where
  | lexical
  | syntactic
  | semantic
deriving DecidableEq, Repr, Inhabited

/-- The name of a category. -/
def IssueCategory.text : IssueCategory → String
  | .lexical => "lexical"
  | .syntactic => "syntactic"
  | .semantic => "semantic"

/-- How serious an issue is. -/
inductive IssueSeverity where
  | error
  | warning
  | information
deriving DecidableEq, Repr, Inhabited

/-- A problem that the parser reports. -/
structure Issue where
  message : String
  span : Option Span
  severity : IssueSeverity
  category : IssueCategory
deriving DecidableEq, Repr, Inhabited

/-- The result of one parse. -/
structure Parse where
  /-- The tree, absent when no structure was recovered. -/
  root : Option Node
  issues : List Issue

end CodeIndex
