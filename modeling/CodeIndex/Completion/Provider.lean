import CodeIndex.Document.FileState
import CodeIndex.Tree.Lookup
import CodeIndex.Tree.Walk

set_option autoImplicit false

/-!
# Completion

Proposals for the token at the caret. The grammar says which rules and tokens could stand there: a
rule that denotes a reference brings in the names visible from the node around the token, and a
token with a fixed spelling brings in that spelling. Every proposal replaces the same token. Each
piece that the adapter supplies may break off, and then there are no proposals.

## Main definitions

* `CompletionSupport` — what a language adapter supplies.
* `CompletionOptions` — which secondary sources are consulted.
* `CompletionSupport.provide` — the proposals at a point.
-/

namespace CodeIndex

/-- What the grammar could accept at a token. -/
structure Candidates where
  rules : List Nat
  tokens : List Nat
deriving DecidableEq, Repr, Inhabited

/-- The pieces that a language adapter supplies for completion. -/
structure CompletionSupport where
  tokenize : String → Except Fault (List Token)
  /-- The candidates at the token with the given index, if the grammar has an answer. -/
  collect : List Token → Nat → Except Fault (Option Candidates)
  /-- The fixed spelling of a token kind, if it has one. -/
  literalName : Nat → Except Fault (Option String)
  /-- The names visible from the second node in the tree of the first, if that is known. -/
  scope : Node → Node → Except Fault (Option (List String))
  /-- The rules that denote a named reference. -/
  referenceRules : List Nat
  /-- The token kinds that are never proposed. -/
  ignoredTokens : List Nat

/-- The scope in which every name of the tree is visible. -/
def scopeless (root : Node) (_ : Node) : Except Fault (Option (List String)) :=
  .ok (some root.names)

/-- Which secondary sources a completion consults. -/
structure CompletionOptions where
  /-- Start from the last token before the caret when none contains it. -/
  previousTokenFallback : Bool
  /-- Propose tokens with a fixed spelling. -/
  tokenLiterals : Bool
deriving DecidableEq, Repr, Inhabited

/-- What a proposal is: a name in scope or a fixed spelling. -/
inductive CompletionKind where
  | variable
  | keyword
deriving DecidableEq, Repr, Inhabited

/-- A proposal: a text that replaces a range. -/
structure CompletionItem where
  /-- What the editor shows. -/
  label : String
  kind : CompletionKind
  /-- The range that is replaced. -/
  range : Editor.Range
  /-- What replaces it. -/
  newText : String
deriving DecidableEq, Repr, Inhabited

/-- The proposal to put a text in the place of a token. -/
def Token.item (token : Token) (kind : CompletionKind) (text : String) : CompletionItem :=
  ⟨text, kind, token.span.toEditor, text⟩

/-- Insert a number into an ascending list, unless it is there. -/
def insertAscending (n : Nat) : List Nat → List Nat
  | [] => [n]
  | m :: ms => if n < m then n :: m :: ms else if n = m then m :: ms else m :: insertAscending n ms

/-- The numbers of a list in ascending order, each once. -/
def ascending (ns : List Nat) : List Nat := ns.foldr insertAscending []

namespace CompletionSupport

/-- The token that a completion starts from. -/
def startToken? (tokens : List Token) (p : Point) (options : CompletionOptions) : Option Token :=
  match Token.current? tokens p with
  | some token => some token
  | none => if options.previousTokenFallback then Token.previous? tokens p else none

/-- The fixed spellings of token kinds, in order; kinds without one are left out. -/
def spellings (literalName : Nat → Except Fault (Option String)) :
    List Nat → Except Fault (List String)
  | [] => .ok []
  | k :: ks =>
    match literalName k with
    | .error fault => .error fault
    | .ok none => spellings literalName ks
    | .ok (some spelling) => (spellings literalName ks).map (spelling :: ·)

variable (support : CompletionSupport)

/-- The names visible from the deepest node around a token. -/
def visibleNames (file : FileState) (token : Token) : Except Fault (List String) :=
  match file.root with
  | none => .ok []
  | some root =>
    match root.findAround token.span with
    | none => .ok []
    | some node => (support.scope root node).map (·.getD [])

/-- The token kinds whose spellings are proposed, in ascending order. -/
def proposedKinds (c : Candidates) : List Nat :=
  (ascending c.tokens).filter fun k => !support.ignoredTokens.contains k

/-- The names that are proposed for a token, if a reference could stand there. -/
def names (file : FileState) (token : Token) (c : Candidates) : Except Fault (List String) :=
  if c.rules.any support.referenceRules.contains then support.visibleNames file token else .ok []

/-- The spellings that are proposed, if they are asked for. -/
def literals (options : CompletionOptions) (c : Candidates) : Except Fault (List String) :=
  if options.tokenLiterals then spellings support.literalName (support.proposedKinds c) else .ok []

/-- The proposals for a token, given what the grammar accepts there: first names, then spellings. -/
def items (file : FileState) (token : Token) (options : CompletionOptions) (c : Candidates) :
    Except Fault (List CompletionItem) :=
  (support.names file token c).bind fun names =>
    (support.literals options c).map fun literals =>
      names.map (token.item .variable) ++ literals.map (token.item .keyword)

/-- The proposals at a point from a stream of tokens. -/
def propose (file : FileState) (tokens : List Token) (p : Point) (options : CompletionOptions) :
    Except Fault (List CompletionItem) :=
  match startToken? tokens p options with
  | none => .ok []
  | some token =>
    match support.collect tokens token.index with
    | .error fault => .error fault
    | .ok none => .ok []
    | .ok (some candidates) => support.items file token options candidates

/-- The proposals at a point, and the state of the file with its tokens cached. -/
def provide (file : FileState) (p : Point) (options : CompletionOptions) :
    FileState × Except Fault (List CompletionItem) :=
  match file.tokenized support.tokenize with
  | (file, .error fault) => (file, .error fault)
  | (file, .ok tokens) => (file, support.propose file tokens p options)

end CompletionSupport

end CodeIndex
