import CodeIndex.Json.Value
import CodeIndex.Settings.Basic

set_option autoImplicit false

/-!
# Merging payloads into settings

A client sends settings as JSON, either at the top level or under the name of the language. Each of
the two is decoded as a whole: one ill-typed known field discards it entirely. What decodes is
applied field by field, the section after the top level; absent and null fields keep their value.

## Main definitions

* `Settings.Patch` — the fields that a payload sets, and `Settings.Patch.decode?`.
* `Settings.merge` — settings after a payload.
* `Settings.ofPayload` — the settings that an optional first payload gives.
-/

namespace CodeIndex

namespace Settings

/-- What a payload sets among the diagnostics settings. -/
structure DiagnosticsPatch where
  showParsingErrors : Option Bool
  showAstWarnings : Option Bool
  showLeafPositions : Option Bool
  suppressCategories : Option (List IssueCategory)
  suppressPatterns : Option (List String)

/-- What a payload sets among the indexing settings. -/
structure IndexingPatch where
  enabled : Option Bool
  maxFileSizeKb : Option Nat
  excludePaths : Option (List String)

/-- What a payload sets among the completion settings. -/
structure CompletionPatch where
  previousTokenFallback : Option Bool
  tokenLiterals : Option Bool

/-- What a payload sets. -/
structure Patch where
  diagnostics : Option DiagnosticsPatch
  indexing : Option IndexingPatch
  completion : Option CompletionPatch
  /-- The level of the logging section, if the section is there. -/
  logLevel : Option (Option LogLevel)

/-! ## Decoding -/

/-- The members of an object. -/
def members? : Json → Option (List (String × Json))
  | .object members => some members
  | _ => none

/-- An optional field: absent and null give nothing, anything else has to decode. -/
def field? {α : Type} (decode : Json → Option α) (value : Option Json) : Option (Option α) :=
  match value with
  | none => some none
  | some .null => some none
  | some value => (decode value).map some

/-- A list whose elements all decode. -/
def listOf? {α : Type} (decode : Json → Option α) : Json → Option (List α)
  | .array elements => elements.mapM decode
  | _ => none

/-- The name of a choice: a string, or an object with that one member and no content. -/
def choice? : Json → Option String
  | .string name => some name
  | .object [(name, .null)] => some name
  | _ => none

/-- A category of issues. -/
def category? (value : Json) : Option IssueCategory :=
  match choice? value with
  | some "lexical" => some .lexical
  | some "syntactic" => some .syntactic
  | some "semantic" => some .semantic
  | _ => none

/-- A log level. -/
def level? (value : Json) : Option LogLevel :=
  match choice? value with
  | some "error" => some .error
  | some "warn" => some .warn
  | some "info" => some .info
  | some "debug" => some .debug
  | some "trace" => some .trace
  | _ => none

/-- The value of a field with two spellings; giving both is refused. -/
def either? (a b : Option Json) : Option (Option Json) :=
  match a, b with
  | some _, some _ => none
  | some a, none => some (some a)
  | none, b => some b

/-- Decode the diagnostics section. -/
def DiagnosticsPatch.decode? (value : Json) : Option DiagnosticsPatch :=
  (members? value).bind fun ms =>
    (field? Json.bool? (ms.lookup "showParsingErrors")).bind fun showParsingErrors =>
    (either? (ms.lookup "showAstWarnings") (ms.lookup "showASTWarnings")).bind fun warnings =>
    (field? Json.bool? warnings).bind fun showAstWarnings =>
    (field? Json.bool? (ms.lookup "showLeafPositions")).bind fun showLeafPositions =>
    (field? (listOf? category?) (ms.lookup "suppressCategories")).bind fun suppressCategories =>
    (field? (listOf? Json.string?) (ms.lookup "suppressPatterns")).map fun suppressPatterns =>
      ⟨showParsingErrors, showAstWarnings, showLeafPositions, suppressCategories, suppressPatterns⟩

/-- Decode the indexing section. -/
def IndexingPatch.decode? (value : Json) : Option IndexingPatch :=
  (members? value).bind fun ms =>
    (field? Json.bool? (ms.lookup "enabled")).bind fun enabled =>
    (field? Json.nat? (ms.lookup "maxFileSizeKb")).bind fun maxFileSizeKb =>
    (field? (listOf? Json.string?) (ms.lookup "excludePaths")).map fun excludePaths =>
      ⟨enabled, maxFileSizeKb, excludePaths⟩

/-- Decode the completion section. -/
def CompletionPatch.decode? (value : Json) : Option CompletionPatch :=
  (members? value).bind fun ms =>
    (field? Json.bool? (ms.lookup "previousTokenFallback")).bind fun previousTokenFallback =>
    (field? Json.bool? (ms.lookup "tokenLiterals")).map fun tokenLiterals =>
      ⟨previousTokenFallback, tokenLiterals⟩

/-- Decode the logging section. -/
def decodeLogging? (value : Json) : Option (Option LogLevel) :=
  (members? value).bind fun ms => field? level? (ms.lookup "level")

/-- Decode a payload as a whole. Unknown members do not matter. -/
def Patch.decode? (value : Json) : Option Patch :=
  (members? value).bind fun ms =>
    (field? DiagnosticsPatch.decode? (ms.lookup "diagnostics")).bind fun diagnostics =>
    (field? IndexingPatch.decode? (ms.lookup "indexing")).bind fun indexing =>
    (field? CompletionPatch.decode? (ms.lookup "completion")).bind fun completion =>
    (field? decodeLogging? (ms.lookup "logging")).map fun logLevel =>
      ⟨diagnostics, indexing, completion, logLevel⟩

/-! ## Applying -/

/-- The diagnostics settings with the fields of a patch. -/
def DiagnosticsPatch.apply (p : DiagnosticsPatch) (s : DiagnosticsSettings) : DiagnosticsSettings :=
  { showParsingErrors := p.showParsingErrors.getD s.showParsingErrors
    showAstWarnings := p.showAstWarnings.getD s.showAstWarnings
    showLeafPositions := p.showLeafPositions.getD s.showLeafPositions
    suppressCategories := p.suppressCategories.getD s.suppressCategories
    suppressPatterns := p.suppressPatterns.getD s.suppressPatterns }

/-- The indexing settings with the fields of a patch. -/
def IndexingPatch.apply (p : IndexingPatch) (s : IndexingSettings) : IndexingSettings :=
  { enabled := p.enabled.getD s.enabled
    maxFileSizeKb := p.maxFileSizeKb.getD s.maxFileSizeKb
    excludePaths := p.excludePaths.getD s.excludePaths }

/-- The completion settings with the fields of a patch. -/
def CompletionPatch.apply (p : CompletionPatch) (s : CompletionOptions) : CompletionOptions :=
  { previousTokenFallback := p.previousTokenFallback.getD s.previousTokenFallback
    tokenLiterals := p.tokenLiterals.getD s.tokenLiterals }

/-- The settings with the fields of a patch. -/
def Patch.apply (p : Patch) (s : Settings) : Settings :=
  { diagnostics := (p.diagnostics.map (·.apply s.diagnostics)).getD s.diagnostics
    indexing := (p.indexing.map (·.apply s.indexing)).getD s.indexing
    completion := (p.completion.map (·.apply s.completion)).getD s.completion
    logLevel := (p.logLevel.bind id).getD s.logLevel }

/-- The settings after one candidate, which counts only if it decodes as a whole. -/
def applyCandidate (s : Settings) (candidate : Json) : Settings :=
  match Patch.decode? candidate with
  | some patch => patch.apply s
  | none => s

/-- The parts of a payload that may hold settings: the payload itself, then its section. -/
def candidates (payload : Json) (sectionName : String) : List Json :=
  payload :: (payload.member? sectionName).toList

/-- The settings after a payload, in normal form. -/
def merge (s : Settings) (payload : Json) (sectionName : String) : Settings :=
  ((candidates payload sectionName).foldl applyCandidate s).normalize

/-- The settings that an optional first payload gives. -/
def ofPayload (payload : Option Json) (sectionName : String) : Settings :=
  match payload with
  | some payload => merge {} payload sectionName
  | none => {}

end Settings

end CodeIndex
