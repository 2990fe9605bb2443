import CodeIndex.Json.Value
import CodeIndex.Server.Handlers

set_option autoImplicit false

/-!
# Messages to the client

The JSON form of everything that the server sends. A member that has no value is left out.

## Main definitions

* `Editor.Range.toJson`, `Location.toJson`, `Hover.toJson`, … — the forms of single values.
* `Answer.toJson` — the result of a request.
* `Outgoing.method`, `Outgoing.params` — a message that the server sends on its own.
-/

namespace CodeIndex

/-- The form of an editor position. -/
def Editor.Position.toJson (p : Editor.Position) : Json :=
  .object [("line", .nat p.line.toNat), ("character", .nat p.character.toNat)]

/-- The form of an editor range. -/
def Editor.Range.toJson (r : Editor.Range) : Json :=
  .object [("start", r.start.toJson), ("end", r.stop.toJson)]

/-- The form of a location. -/
def Location.toJson (l : Location) : Json :=
  .object [("uri", .string l.uri.text), ("range", l.range.toJson)]

/-- The form of what is shown about a symbol. -/
def Hover.toJson (h : Hover) : Json :=
  .compact
    [("contents", some (.object [("kind", .string "markdown"), ("value", .string h.markdown)])),
      ("range", h.range.map Editor.Range.toJson)]

/-- The form of a symbol found by its name. -/
def SymbolInformation.toJson (s : SymbolInformation) : Json :=
  .compact
    [("name", some (.string s.name)), ("kind", some (.nat s.kind.code)),
      ("location", some s.location.toJson), ("containerName", s.container.map .string)]

/-- The number that the editor knows a kind of proposal by. -/
def CompletionKind.code : CompletionKind → Nat
  | .variable => 6
  | .keyword => 14

/-- The form of a proposal. -/
def CompletionItem.toJson (i : CompletionItem) : Json :=
  .object
    [("label", .string i.label), ("kind", .nat i.kind.code),
      ("textEdit", .object [("range", i.range.toJson), ("newText", .string i.newText)])]

namespace Outline

mutual

/-- The form of an outline entry. -/
def toJson : Outline → Json
  | entry name type kind range children =>
    .compact
      [("name", some (.string name)), ("detail", some (.string type)),
        ("kind", some (.nat kind.code)), ("range", some range.toJson),
        ("selectionRange", some range.toJson),
        ("children",
          match children with
          | [] => none
          | first :: rest => some (.array (toJson first :: toJsonAll rest)))]

/-- The forms of several outline entries. -/
def toJsonAll : List Outline → List Json
  | [] => []
  | o :: os => toJson o :: toJsonAll os

end

end Outline

/-- The number that the editor knows a severity by. -/
def IssueSeverity.code : IssueSeverity → Nat
  | .error => 1
  | .warning => 2
  | .information => 3

/-- The form of a diagnostic. -/
def Diagnostic.toJson (d : Diagnostic) : Json :=
  .compact
    [("range", some d.range.toJson), ("severity", some (.nat d.severity.code)),
      ("code", d.code.map fun c => .string c.text), ("source", some (.string d.source)),
      ("message", some (.string d.message))]

/-! ## Capabilities -/

/-- The form of what a registration is about. A watcher asks for every kind of change. -/
def RegistrationScope.toJson : RegistrationScope → Json
  | documents language globs =>
    .object [("documentSelector", .array (globs.map fun g =>
      .object
        [("language", .string language), ("scheme", .string "file"), ("pattern", .string g)]))]
  | watchers globs =>
    .object [("watchers", .array (globs.map fun g =>
      .object [("globPattern", .string g), ("kind", .nat 7)]))]

/-- The form of a registration. -/
def Registration.toJson (r : Registration) : Json :=
  .object [("id", .string r.id), ("method", .string r.method), ("registerOptions", r.scope.toJson)]

/-- The name and the version under which the server presents itself. -/
def serverInfo : Json :=
  .object [("name", .string "arbor-analyzer"), ("version", .string "0.1.0")]

/-- The form of an offered feature, absent if it is not offered. -/
def offered (value : Json) (offers : Bool) : Option Json := if offers then some value else none

/-- The form of what the server offers. -/
def ServerCapabilities.toJson (c : ServerCapabilities) : Json :=
  .compact
    [("textDocumentSync", some (.object
        [("openClose", .bool true), ("change", .nat 1),
          ("save", .object [("includeText", .bool true)])])),
      ("hoverProvider", some (.bool true)),
      ("definitionProvider", offered (.bool true) c.definition),
      ("referencesProvider", offered (.bool true) c.references),
      ("completionProvider", offered (.object []) c.completion),
      ("documentSymbolProvider", some (.bool true)),
      ("workspaceSymbolProvider", some (.bool true)),
      ("workspace", some (.object
        [("workspaceFolders", .object
            [("supported", .bool true), ("changeNotifications", .bool true)]),
          ("fileOperations", .object [("didRename", .object [("filters",
            .array (c.renameGlobs.map fun g =>
              .object [("scheme", .string "file"),
                ("pattern", .object [("glob", .string g), ("matches", .string "file")])]))])])]))]

/-! ## Answers and messages -/

/-- The result of a request. -/
def Answer.toJson : Answer → Json
  | connected c => .object [("capabilities", c.toJson), ("serverInfo", serverInfo)]
  | acknowledged => .null
  | hover h => (h.map Hover.toJson).getD .null
  | definition l => (l.map Location.toJson).getD .null
  | references ls => .array (ls.map Location.toJson)
  | completion items => (items.map fun is => .array (is.map CompletionItem.toJson)).getD .null
  | outline entries => (entries.map fun es => .array (Outline.toJsonAll es)).getD .null
  | symbols found => .array (found.map SymbolInformation.toJson)

/-- The form of a step of a progress session. -/
def ProgressValue.toJson : ProgressValue → Json
  | start title message =>
    .compact
      [("kind", some (.string "begin")), ("title", some (.string title)),
        ("cancellable", some (.bool false)), ("message", message.map .string),
        ("percentage", some (.nat 0))]
  | report message percentage =>
    .compact
      [("kind", some (.string "report")), ("cancellable", some (.bool false)),
        ("message", message.map .string), ("percentage", percentage.map .nat)]
  | finish message => .compact [("kind", some (.string "end")), ("message", message.map .string)]

/-- The name of a message. -/
def Outgoing.method : Outgoing → String
  | publish _ _ _ => "textDocument/publishDiagnostics"
  | log _ => "window/logMessage"
  | showError _ => "window/showMessage"
  | progress (.create _) => "window/workDoneProgress/create"
  | progress (.value _ _) => "$/progress"
  | register _ => "client/registerCapability"

/-- The parameters of a message. -/
def Outgoing.params : Outgoing → Json
  | publish uri diagnostics version =>
    .compact
      [("uri", some (.string uri.text)),
        ("diagnostics", some (.array (diagnostics.map Diagnostic.toJson))),
        ("version", version.map .int)]
  | log message => .object [("type", .nat 3), ("message", .string message)]
  | showError message => .object [("type", .nat 1), ("message", .string message)]
  | progress (.create token) => .object [("token", .string token)]
  | progress (.value token value) => .object [("token", .string token), ("value", value.toJson)]
  | register registrations =>
    .object [("registrations", .array (registrations.map Registration.toJson))]

end CodeIndex
