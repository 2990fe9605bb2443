import CodeIndex.Completion.Provider
import CodeIndex.Text.Blank
import CodeIndex.Tree.Issue

set_option autoImplicit false

/-!
# Settings

What a client can configure, with the values in force until it does, and the normal form that
settings are kept in.

## Main definitions

* `Settings` — all settings, by section.
* `Settings.normalize` — sizes clamped, texts trimmed, repetitions dropped.
* `DiscoveryOptions` — the filters of a search for files, and `IndexingSettings.discovery`.
-/

namespace CodeIndex

/-- What is reported about a file. -/
structure DiagnosticsSettings where
  /-- Report the issues of the parser. -/
  showParsingErrors : Bool := true
  /-- Warn on leaves that a look-up by position does not find again. -/
  showAstWarnings : Bool := false
  /-- Report the position of every leaf. -/
  showLeafPositions : Bool := false
  /-- Categories of issues that are not reported. -/
  suppressCategories : List IssueCategory := []
  /-- Patterns of messages that are not reported. -/
  suppressPatterns : List String := []
deriving DecidableEq, Repr, Inhabited

/-- Which files are indexed. -/
structure IndexingSettings where
  enabled : Bool := true
  maxFileSizeKb : Nat := 512
  excludePaths : List String := []
deriving DecidableEq, Repr, Inhabited

/-- How much is logged, from least to most. -/
inductive LogLevel where
  | error
  | warn
  | info
  | debug
  | trace
deriving DecidableEq, Repr, Inhabited

/-- The name of a level. -/
def LogLevel.text : LogLevel → String
  | .error => "error"
  | .warn => "warn"
  | .info => "info"
  | .debug => "debug"
  | .trace => "trace"

/-- Whether informative messages are logged. -/
def LogLevel.allowsInfo : LogLevel → Bool
  | .error | .warn => false
  | .info | .debug | .trace => true

/-- All settings. -/
structure Settings where
  diagnostics : DiagnosticsSettings := {}
  indexing : IndexingSettings := {}
  completion : CompletionOptions := ⟨false, false⟩
  logLevel : LogLevel := .info
deriving DecidableEq, Repr, Inhabited

/-- The filters of a search for files. -/
structure DiscoveryOptions where
  /-- The largest size of a file in bytes. -/
  maxBytes : Option Nat := none
  /-- Paths that are left out with all below them: absolute, or relative to each folder. -/
  exclude : List String := []
  /-- Leave out hidden directories and the usual directories of build products. -/
  skipBuildDirs : Bool := false
deriving DecidableEq, Repr, Inhabited

/-! ## Normal form -/

/-- The smallest size limit that can be set, in kilobytes. -/
def minFileSizeKb : Nat := 16

/-- The largest size limit that can be set, in kilobytes. -/
def maxFileSizeKb : Nat := 1024 * 64

/-- Trimmed texts without the empty ones. -/
def trimAll (texts : List String) : List String := (texts.map Text.trim).filter (· ≠ "")

/-- Each category once, and patterns trimmed. -/
def DiagnosticsSettings.normalize (s : DiagnosticsSettings) : DiagnosticsSettings :=
  { s with
    suppressCategories := s.suppressCategories.eraseDups
    suppressPatterns := trimAll s.suppressPatterns }

/-- The size limit clamped, and excluded paths trimmed, each once. -/
def IndexingSettings.normalize (s : IndexingSettings) : IndexingSettings :=
  { s with
    maxFileSizeKb := min (max s.maxFileSizeKb minFileSizeKb) CodeIndex.maxFileSizeKb
    excludePaths := (trimAll s.excludePaths).eraseDups }

/-- The normal form of settings. -/
def Settings.normalize (s : Settings) : Settings :=
  { s with diagnostics := s.diagnostics.normalize, indexing := s.indexing.normalize }

/-! ## Searching for files -/

/-- The size limit in bytes, within a 64-bit word. -/
def IndexingSettings.maxFileSizeBytes (s : IndexingSettings) : Nat :=
  min (s.maxFileSizeKb * 1024) 0xFFFFFFFFFFFFFFFF

/-- The filters that an index of the workspace uses. -/
def IndexingSettings.discovery (s : IndexingSettings) : DiscoveryOptions :=
  { maxBytes := some s.maxFileSizeBytes, exclude := s.excludePaths, skipBuildDirs := true }

end CodeIndex
