import CodeIndex.Document.FileState
import CodeIndex.Pattern.Parser
import CodeIndex.Settings.Basic
import CodeIndex.Source
import CodeIndex.Tree.Lookup
import CodeIndex.Tree.Walk

set_option autoImplicit false

/-!
# Diagnostics

What is reported about a file: the issues of its parser, unless the settings suppress them, and on
request the state of the leaves of its tree.

## Main definitions

* `DiagnosticFilter` — the suppressed categories and messages, with the patterns read once.
* `Diagnostic` — one report.
* `FileState.diagnostics` — everything to report about a file.
-/

namespace CodeIndex

/-- The issues that are not reported. -/
structure DiagnosticFilter where
  categories : List IssueCategory := []
  patterns : List (Pattern Condition) := []
deriving Inhabited

namespace DiagnosticFilter

/-- The filter of some settings. A text that is no pattern suppresses nothing. -/
def ofSettings (s : DiagnosticsSettings) : DiagnosticFilter :=
  ⟨s.suppressCategories, s.suppressPatterns.filterMap Pattern.parse?⟩

/-- Whether an issue is reported. -/
def allows (f : DiagnosticFilter) (issue : Issue) : Bool :=
  !f.categories.contains issue.category &&
    !f.patterns.any fun p => p.occursIn issue.message.toList

end DiagnosticFilter

/-- A report about a range of a file. -/
structure Diagnostic where
  range : Editor.Range
  severity : IssueSeverity
  /-- The category of an issue of the parser. -/
  code : Option IssueCategory
  /-- The language that reports. -/
  source : String
  message : String
deriving DecidableEq, Repr

/-- The report of an issue; one without a range cannot be shown. -/
def Issue.diagnostic? (source : String) (issue : Issue) : Option Diagnostic :=
  issue.span.map fun s => ⟨s.toEditor, issue.severity, some issue.category, source, issue.message⟩

namespace Node

/-- The nodes of a tree with a range and without children, in pre-order. -/
def positionedLeaves (root : Node) : List Node :=
  root.walk.filter fun n => n.positioned && n.children.isEmpty

/-- The warning about a leaf that a look-up of its range does not find again. -/
def leafWarning? (source : String) (root leaf : Node) : Option Diagnostic :=
  leaf.span.bind fun s =>
    let found := root.findAround s
    if found.any fun n => n.sameAs leaf then none
    else
      some ⟨s.toEditor, .warning, none, source,
        "Leaf type: " ++ leaf.type ++ " but findByPositionType: " ++
          (found.map Node.type).getD "null"⟩

/-- The report of the range of a leaf and of the text there. -/
def leafPosition? (source text : String) (leaf : Node) : Option Diagnostic :=
  leaf.span.map fun s =>
    ⟨s.toEditor, .information, none, source,
      "Leaf position: " ++ s.text ++ ", Source text: " ++
        String.ofList ((Source.slice? text.toList s).getD [])⟩

/-- The reports about one leaf. -/
def leafDiagnostics (settings : DiagnosticsSettings) (source text : String) (root leaf : Node) :
    List Diagnostic :=
  (if settings.showAstWarnings then (leafWarning? source root leaf).toList else []) ++
  (if settings.showLeafPositions then (leafPosition? source text leaf).toList else [])

/-- The reports about all leaves of a tree. -/
def leavesDiagnostics (settings : DiagnosticsSettings) (source text : String) (root : Node) :
    List Diagnostic :=
  root.positionedLeaves.flatMap (leafDiagnostics settings source text root)

end Node

/-- Everything to report about a file: the issues that the filter allows, then the leaves. -/
def FileState.diagnostics (f : FileState) (settings : DiagnosticsSettings)
    (filter : DiagnosticFilter) (source : String) : List Diagnostic :=
  (if settings.showParsingErrors then
    (f.issues.filter filter.allows).filterMap (Issue.diagnostic? source)
  else []) ++
  (match f.root with
  | some root => root.leavesDiagnostics settings source f.text
  | none => [])

end CodeIndex
