import Mathlib.Tactic.Lemma
import CodeIndex.Text.Pieces

set_option relaxedAutoImplicit false
set_option autoImplicit false

/-!
# Dividing a text into pieces

A text without the separator is its only piece; the first separator of any other text ends the first
piece, and the pieces of what follows are the others. What holds of all texts can be proved along
these two cases.

## Main results

* `Text.pieces_of_notMem`, `Text.pieces_append_cons` — the pieces in the two cases.
* `Text.pieces_induction` — induction along the separators of a text.
* `Text.notMem_of_mem_pieces` — no piece holds the separator.
-/

namespace CodeIndex

namespace Text

variable {α : Type} [DecidableEq α] {separator : α}

lemma pieces_of_notMem {cs : List α} (h : separator ∉ cs) : pieces separator cs = [cs] := by
  induction cs with
  | nil => rfl
  | cons c cs ih =>
    rw [List.mem_cons, not_or] at h
    rw [pieces, if_neg (Ne.symm h.1), ih h.2]

lemma pieces_append_cons {cs : List α} (h : separator ∉ cs) (ds : List α) :
    pieces separator (cs ++ separator :: ds) = cs :: pieces separator ds := by
  induction cs with
  | nil => rw [List.nil_append, pieces, if_pos rfl]
  | cons c cs ih =>
    rw [List.mem_cons, not_or] at h
    rw [List.cons_append, pieces, if_neg (Ne.symm h.1), ih h.2]

/-- What holds of a text without the separator, and of a text before which a piece is put whenever
it holds of the text, holds of every text. -/
@[elab_as_elim]
lemma pieces_induction {P : List α → Prop} (separator : α)
    (last : ∀ piece, separator ∉ piece → P piece)
    (more : ∀ piece rest, separator ∉ piece → P rest → P (piece ++ separator :: rest))
    (cs : List α) : P cs := by
  -- the characters of the first piece are collected until its end is found
  have hgeneral : ∀ piece, separator ∉ piece → P (piece ++ cs) := by
    induction cs with
    | nil =>
      intro piece hpiece
      rw [List.append_nil]
      exact last piece hpiece
    | cons c cs ih =>
      intro piece hpiece
      by_cases hc : c = separator
      · subst hc
        exact more piece cs hpiece (ih [] List.not_mem_nil)
      · rw [List.append_cons]
        refine ih (piece ++ [c]) ?_
        rw [List.mem_append, List.mem_singleton, not_or]
        exact ⟨hpiece, Ne.symm hc⟩
  exact hgeneral [] List.not_mem_nil

/-- No piece holds the separator. -/
lemma notMem_of_mem_pieces {cs piece : List α} (h : piece ∈ pieces separator cs) :
    separator ∉ piece := by
  induction cs using pieces_induction separator with
  | last only honly =>
    rw [pieces_of_notMem honly, List.mem_singleton] at h
    exact h ▸ honly
  | more first rest hfirst ih =>
    rw [pieces_append_cons hfirst] at h
    rcases List.mem_cons.1 h with rfl | hrest
    · exact hfirst
    · exact ih hrest

end Text

end CodeIndex
