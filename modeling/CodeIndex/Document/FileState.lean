import CodeIndex.Completion.Token
import CodeIndex.Text.Quoted
import CodeIndex.Tree.Issue
import CodeIndex.Uri.Basic

set_option autoImplicit false

/-!
# The state of one file

The latest synchronised view of a file: its text, the tree and the issues of its parse, and its
tokens once they were asked for. A synchronisation replaces the state as a whole.

## Main definitions

* `FileState` — the view of one file.
* `FileState.tokenized` — the tokens, computed on first use and kept.
* `FileState.summary`, `Parse.summary` — one-line descriptions.
-/

namespace CodeIndex

/-- The latest synchronised view of one file. -/
structure FileState where
  uri : Uri
  text : String
  /-- The version that the editor gave, absent for text read from disk. -/
  version : Option Int
  root : Option Node
  issues : List Issue
  /-- The tokens, once they were computed. -/
  tokens : Option (List Token)

namespace FileState

/-- The state of a file after a parse of its text. -/
def ofParse (uri : Uri) (text : String) (version : Option Int) (parse : Parse) : FileState :=
  ⟨uri, text, version, parse.root, parse.issues, none⟩

/-- Whether the tokens were computed. -/
def hasTokens (f : FileState) : Bool := f.tokens.isSome

/-- The tokens of the file, from the cache or from the tokenizer, which may fail. The state that is
returned has them cached. -/
def tokenized (f : FileState) (tokenize : String → Except Fault (List Token)) :
    FileState × Except Fault (List Token) :=
  match f.tokens with
  | some tokens => (f, .ok tokens)
  | none =>
    match tokenize f.text with
    | .ok tokens => ({ f with tokens := some tokens }, .ok tokens)
    | .error fault => (f, .error fault)

end FileState

/-! ## Descriptions -/

/-- An optional value in a description. -/
def describeOption (value : Option String) : String :=
  match value with
  | some text => "Some(" ++ text ++ ")"
  | none => "None"

/-- A truth value in a description. -/
def describeBool (b : Bool) : String := if b then "true" else "false"

/-- A record in a description: its name and its fields, and a mark if there are more. -/
def describeRecord (name : String) (fields : List (String × String)) (abridged : Bool) : String :=
  name ++ " \x7b " ++ ", ".intercalate ((fields.map fun (k, v) => k ++ ": " ++ v) ++
    (if abridged then [".."] else [])) ++ " \x7d"

/-- A list in a description. -/
def describeList (items : List String) : String := "[" ++ ", ".intercalate items ++ "]"

/-- A point in a description. -/
def Point.summary (p : Point) : String :=
  describeRecord "Point"
    [("line", toString p.line.toNat), ("column", toString p.column.toNat)] false

/-- A span in a description. -/
def Span.summary (s : Span) : String :=
  describeRecord "Span" [("start", s.start.summary), ("end", s.stop.summary)] false

/-- An issue in a description. -/
def Issue.summary (i : Issue) : String :=
  let severity :=
    match i.severity with
    | .error => "Error"
    | .warning => "Warning"
    | .information => "Information"
  let category :=
    match i.category with
    | .lexical => "Lexical"
    | .syntactic => "Syntactic"
    | .semantic => "Semantic"
  describeRecord "Issue"
    [("message", Text.quoted i.message), ("span", describeOption (i.span.map Span.summary)),
      ("severity", severity), ("category", category)] false

/-- The result of a parse in one line: the type of the root and the issues. -/
def Parse.summary (p : Parse) : String :=
  describeRecord "ParseResult"
    [("root", describeOption (p.root.map fun n => Text.quoted n.type)),
      ("issues", describeList (p.issues.map Issue.summary))] false

/-- The state of a file in one line, without its text. -/
def FileState.summary (f : FileState) : String :=
  describeRecord "FileState"
    [("uri", Text.quoted f.uri.text), ("version", describeOption (f.version.map toString)),
      ("has_tree", describeBool f.root.isSome), ("issues", toString f.issues.length)] true

end CodeIndex
