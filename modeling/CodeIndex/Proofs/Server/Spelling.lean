import Mathlib.Tactic.Lemma
import CodeIndex.Proofs.Server.Session
import CodeIndex.Proofs.Uri.Canonical

set_option relaxedAutoImplicit false
set_option autoImplicit false

/-!
# Files that are indexed twice

Whether a file is open, tracked or indexed is decided by the text of its identifier. A load makes
identifiers from paths and spells every file in one way; an editor may escape more than that. A file
that the editor opened under a spelling of its own is therefore indexed a second time, from disk, as
soon as a load finds it. This file shows that this is the only way for a file to be indexed twice.

## Main results

* `Session.misspelled_of_indexed_twice` — a file is indexed under two names only if the client used
  a spelling of its own for it.
-/

namespace CodeIndex

namespace Session

/-- **A file is indexed under two names only if the client misspells it.** Take any session, with
whatever messages and loads in whatever order. If two names of one file both have symbols, then one
of the two is not spelled as a load spells it, and it is the client who used it. So no file is
indexed twice for a client that spells files as loads do.

**Proof sketch.** Every symbol belongs to a file for which a text was synchronised, and texts are
synchronised only for files that the client names and for files that a load finds. The names of the
latter are canonical, and a file has one canonical name. -/
theorem misspelled_of_indexed_twice (language : Language) (events : List Event) {u v : Uri}
    (hu : (run language events).server.workspace.repository.symbolsIn u ≠ [])
    (hv : (run language events).server.workspace.repository.symbolsIn v ≠ [])
    (hne : u ≠ v) (hsame : u.SameFile v) :
    ∃ name, (name = u ∨ name = v) ∧ ¬ name.Canonical ∧ ∃ event ∈ events, name ∈ event.names := by
  have hindexed : (run language events).server.workspace.IndexedUnder fun name =>
      name.Canonical ∨ ∃ event ∈ events, name ∈ event.names :=
    kept_run (Workspace.kept_indexedUnder language _)
      (fun path uri huri => .inl (Uri.canonical_of_ofPath? huri))
      ⟨Repository.consistent_empty, nofun⟩
      fun event hevent name hname => .inr ⟨event, hevent, hname⟩
  have hnamed : ∀ {name : Uri},
      (run language events).server.workspace.repository.symbolsIn name ≠ [] →
        ¬ name.Canonical → ∃ event ∈ events, name ∈ event.names := fun hsymbols hnot =>
    (hindexed.of_symbolsIn_ne_nil hsymbols).resolve_left hnot
  by_cases hcanonical : u.Canonical
  · by_cases hcanonical' : v.Canonical
    · exact absurd (hcanonical.eq_of_sameFile hcanonical' hsame) hne
    · exact ⟨v, .inr rfl, hcanonical', hnamed hv hcanonical'⟩
  · exact ⟨u, .inl rfl, hcanonical, hnamed hu hcanonical⟩

/-- A disk with a file whose name may be escaped. -/
def plusFileDisk : Disk := ⟨.ofList [(["a+b"], .file (.text "x"))]⟩

/-- The editor opens the file with an escape in its name, and a load finds it on disk. -/
def openedEscaped : List Event :=
  [.received plusFileDisk (.request (.connect ⟨none, {}, some [⟨"file:///"⟩], none⟩)),
    .received plusFileDisk (.notification .ready),
    .received plusFileDisk (.notification (.opened ⟨"file:///a%2Bb"⟩ "x" 1)),
    .settled plusFileDisk]

/-- The two names are of one file. -/
lemma sameFile_escaped : Uri.SameFile ⟨"file:///a%2Bb"⟩ ⟨"file:///a+b"⟩ :=
  ⟨"/a+b", "/a+b", by decide, by decide, rfl⟩

/-- One of the names is misspelled. -/
theorem misspelled_of_indexed_twice_openedEscaped :
    ∃ name, (name = (⟨"file:///a%2Bb"⟩ : Uri) ∨ name = ⟨"file:///a+b"⟩) ∧ ¬ name.Canonical ∧
      ∃ event ∈ openedEscaped, name ∈ event.names :=
  misspelled_of_indexed_twice Workspace.twinLanguage openedEscaped (by decide) (by decide)
    (by decide) sameFile_escaped

/-- The file is open in the editor, and it is indexed from disk as well. -/
theorem open_file_indexed_twice :
    (run Workspace.twinLanguage openedEscaped).server.workspace.files.isOpen
        ⟨"file:///a%2Bb"⟩ = true ∧
      ((run Workspace.twinLanguage openedEscaped).server.workspace.repository.symbolsIn
        ⟨"file:///a%2Bb"⟩).length = 2 ∧
      ((run Workspace.twinLanguage openedEscaped).server.workspace.repository.symbolsIn
        ⟨"file:///a+b"⟩).length = 2 ∧
      (⟨"file:///a%2Bb"⟩ : Uri) ≠ ⟨"file:///a+b"⟩ ∧
      Uri.SameFile ⟨"file:///a%2Bb"⟩ ⟨"file:///a+b"⟩ :=
  ⟨by decide, by decide, by decide, by decide, sameFile_escaped⟩

end Session

end CodeIndex
