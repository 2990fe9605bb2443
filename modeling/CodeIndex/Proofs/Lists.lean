import Mathlib.Data.List.Nodup
import Mathlib.Tactic.Lemma

set_option relaxedAutoImplicit false
set_option autoImplicit false

/-!
# Before and behind in a list

One member of a list stands before another if the two of them, in this order, are a sublist. What an
order of the list says of its members decides who stands before whom.

## Main results

* `pair_sublist_or` — of two different members one stands before the other.
* `pair_sublist_of_pairwise` — a member that an ordered list could not have behind another one
  stands before it.
* `not_pair_sublist_swap` — in a list without repetitions not each of two stands before the other.
-/

namespace CodeIndex

variable {α : Type} {l : List α} {x y : α}

/-- Of two different members of a list one stands before the other. -/
lemma pair_sublist_or (hx : x ∈ l) (hy : y ∈ l) (hne : x ≠ y) :
    [x, y].Sublist l ∨ [y, x].Sublist l := by
  obtain ⟨front, back, rfl⟩ := List.append_of_mem hx
  rcases List.mem_append.1 hy with hfront | hback
  · exact .inr ((List.singleton_sublist.2 hfront).append
      (List.singleton_sublist.2 List.mem_cons_self))
  · have hback : y ∈ back := (List.mem_cons.1 hback).resolve_left hne.symm
    exact .inl (((List.singleton_sublist.2 hback).cons_cons x).trans
      (List.sublist_append_right front _))

/-- In an ordered list, a member that the order does not let stand behind another one stands before
it. -/
lemma pair_sublist_of_pairwise {R : α → α → Prop} (h : l.Pairwise R) (hx : x ∈ l) (hy : y ∈ l)
    (hne : x ≠ y) (hback : ¬ R y x) : [x, y].Sublist l :=
  (pair_sublist_or hx hy hne).resolve_right fun hyx =>
    hback (List.pairwise_iff_forall_sublist.1 h hyx)

/-- In a list without repetitions it is not so that each of two members stands before the other. -/
lemma not_pair_sublist_swap (h : l.Nodup) (hxy : [x, y].Sublist l) : ¬ [y, x].Sublist l := by
  induction l with
  | nil => cases hxy
  | cons z l ih =>
    obtain ⟨hz, hnodup⟩ := List.nodup_cons.1 h
    intro hyx
    cases hxy with
    | cons _ hxy =>
      cases hyx with
      | cons _ hyx => exact ih hnodup hxy hyx
      | cons_cons _ hx => exact hz (hxy.subset (List.mem_cons_of_mem _ List.mem_cons_self))
    | cons_cons _ hy =>
      cases hyx with
      | cons _ hyx => exact hz (hyx.subset (List.mem_cons_of_mem _ List.mem_cons_self))
      | cons_cons _ _ => exact hz (List.singleton_sublist.1 hy)

end CodeIndex
