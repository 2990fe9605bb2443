import CodeIndex.Completion.Provider
import CodeIndex.Symbol.Extraction

set_option autoImplicit false

/-!
# Language support

Everything that a language adapter plugs into the index.

## Main definitions

* `Language` — the adapter: its name, its files, its parser and its conventions.
* `Language.handlesPath` — whether a file belongs to the language.
* `Language.globs` — the patterns under which an editor is asked to watch files.
-/

namespace CodeIndex

/-- What a language adapter plugs into the index. -/
structure Language where
  /-- The name of the language, which is also the name of its settings section. -/
  id : String
  /-- The file extensions without a leading dot; none means every file. -/
  extensions : List String
  parse : Uri → String → Except Fault Parse
  ids : IdScheme
  /-- Whether references without a target resolve by name within the file. -/
  resolveByName : Bool
  completion : Option CompletionSupport

namespace Language

/-- A language for every file, with the default identifiers and no completion. -/
def create (id : String) (parse : Uri → String → Except Fault Parse) : Language :=
  ⟨id, [], parse, .position, false, none⟩

/-- The language restricted to files with the given extensions, whose leading dots do not count. -/
def withExtensions (l : Language) (extensions : List String) : Language :=
  { l with extensions := extensions.map fun e => String.ofList (e.toList.dropWhile (· = '.')) }

/-- Whether two extensions agree, the case of ASCII letters aside. -/
def sameExtension (a b : String) : Bool := a.toList.map Char.toLower == b.toList.map Char.toLower

/-- Whether an extension is one of the language; one that is no text never is. -/
def handlesExtension (l : Language) (extension : Option FileName) : Bool :=
  l.extensions.isEmpty ||
    (extension.bind FileName.text?).any fun e => l.extensions.any fun known => sameExtension known e

/-- Whether the file at a path belongs to the language. -/
def handlesPath (l : Language) (p : Path) : Bool := l.handlesExtension p.extension?

/-- Whether a document belongs to the language; one that is no local file always does. -/
def handlesUri (l : Language) (uri : Uri) : Bool :=
  match uri.toPath? with
  | some p => l.handlesPath p
  | none => true

/-- The patterns that match the files of the language, one for each extension. -/
def globs (l : Language) : List String :=
  if l.extensions.isEmpty then ["**/*"] else l.extensions.map ("**/*." ++ ·)

/-- The language in one line. -/
def summary (l : Language) : String :=
  describeRecord "LanguageSupport"
    [("language_id", Text.quoted l.id),
      ("file_extensions", describeList (l.extensions.map Text.quoted)),
      ("resolve_references_by_name", describeBool l.resolveByName),
      ("completion", describeBool l.completion.isSome)] true

end Language

end CodeIndex
