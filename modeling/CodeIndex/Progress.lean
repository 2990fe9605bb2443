import CodeIndex.Text.Blank

set_option autoImplicit false

/-!
# Progress of long work

A session tells the client how far a long piece of work has come: it opens with a title, reports in
between, and is closed once. A session that is dropped before its end is closed as cancelled.

## Main definitions

* `ProgressEvent` — what a session sends.
* `ProgressSession` — a session, possibly one that reports nothing.
* `ProgressSession.start`, `ProgressSession.report`, `ProgressSession.finish`,
  `ProgressSession.drop` — its life.
* `percentOf` — a share in per cent.
-/

namespace CodeIndex

/-- The name under which messages to the client are sent. -/
def messageLabel : String := "arbor-analyzer:"

/-- A step of a session as the client sees it. -/
inductive ProgressValue where
  | start (title : String) (message : Option String)
  | report (message : Option String) (percentage : Option Nat)
  | finish (message : Option String)
deriving DecidableEq, Repr

/-- What a session sends to the client. -/
inductive ProgressEvent where
  /-- Ask the client to accept a session under a token. -/
  | create (token : String)
  /-- Tell the client about a step of a session. -/
  | value (token : String) (value : ProgressValue)
deriving DecidableEq, Repr

/-- A session that may be open. -/
structure ProgressSession where
  /-- The token of the session, absent when it reports nothing. -/
  token : Option String
deriving DecidableEq, Repr

/-- The title as it is shown: trimmed, and labelled unless it is already. -/
def progressTitle (title : String) : String :=
  let trimmed := Text.trim title
  if messageLabel.toList.isPrefixOf trimmed.toList then trimmed
  else messageLabel ++ " " ++ trimmed

/-- The token of a session, unique by its number. -/
def progressToken (title : String) (id : Nat) : String :=
  "arborAnalyzer/" ++ Text.trim title ++ "/" ++ toString id

/-- How many per cent of a total are done; all of an empty total is. -/
def percentOf (done total : Nat) : Nat := if total = 0 then 100 else min done total * 100 / total

namespace ProgressSession

/-- A session that reports nothing. -/
def disabled : ProgressSession := ⟨none⟩

/-- Open a session under a number of its own. -/
def start (id : Nat) (title : String) (message : Option String) :
    ProgressSession × List ProgressEvent :=
  let token := progressToken title id
  (⟨some token⟩, [.create token, .value token (.start (progressTitle title) message)])

/-- Whether the session is open. -/
def isActive (s : ProgressSession) : Bool := s.token.isSome

/-- Report an intermediate state; a share above 100 counts as 100. -/
def report (s : ProgressSession) (message : Option String) (percentage : Option Nat) :
    List ProgressEvent :=
  match s.token with
  | none => []
  | some token => [.value token (.report message (percentage.map (min · 100)))]

/-- Close the session. -/
def finish (s : ProgressSession) (message : Option String) : List ProgressEvent :=
  match s.token with
  | none => []
  | some token => [.value token (.finish message)]

/-- Give the session up, which closes it as cancelled. -/
def drop (s : ProgressSession) : List ProgressEvent := s.finish (some "Cancelled")

end ProgressSession

end CodeIndex
