import Mathlib.Data.List.Infix
import CodeIndex.Text.Lowercase

set_option relaxedAutoImplicit false
set_option autoImplicit false

/-!
# The lower case of a piece of a text

All characters but one have a lower-case form of their own. A capital sigma has two, and which one
it takes depends on the characters around it, also on those outside of a piece that is looked at.
So the lower-case form of a piece stands in that of the whole text where the piece stands in the
text, as long as every capital sigma of the piece stands at the end of a word of the piece exactly
if it stands at the end of a word of the text; otherwise another form stands there.

## Main definitions

* `Text.lowerWithin` — the lower-case form of a piece where it stands in a text.
* `Text.SigmasKeep` — no capital sigma of a piece takes another form for what is around the piece.

## Main results

* `Text.toList_lowercase_append` — the lower-case form of a text piece by piece.
* `Text.lowerWithin_eq_iff_sigmasKeep` — when a piece has one lower-case form, alone and in the
  text.
* `Text.lowercase_isInfix` — then its lower-case form is a piece of that of the text.
-/

namespace CodeIndex

namespace Text

/-- The lower-case form of one character between the reversed text `before` and `after`. -/
def lowerBetween (before : List Char) (c : Char) (after : List Char) : List Char :=
  if c = 'Σ' then [if isFinalSigma before after then 'ς' else 'σ'] else lowerChar c

/-- The lower-case form of characters that follow the reversed text `before` and that `after`
follows. -/
def lowerWithin (before : List Char) : (cs after : List Char) → List Char
  | [], _ => []
  | c :: cs, after => lowerBetween before c (cs ++ after) ++ lowerWithin (c :: before) cs after

/-- Every capital sigma of a piece stands at the end of a word of the piece exactly if it stands at
the end of a word of the text `before ++ piece ++ after`. -/
def SigmasKeep (before piece after : List Char) : Prop :=
  ∀ l r, piece = l ++ 'Σ' :: r →
    isFinalSigma (l.reverse ++ before.reverse) (r ++ after) = isFinalSigma l.reverse r

lemma sigmasKeep_of_notMem {piece : List Char} (h : 'Σ' ∉ piece) (before after : List Char) :
    SigmasKeep before piece after := by
  rintro l r rfl
  exact absurd (List.mem_append_right _ List.mem_cons_self) h

/-! ## Piece by piece -/

lemma lowerAfter_cons (before : List Char) (c : Char) (cs : List Char) :
    lowerAfter before (c :: cs) = lowerBetween before c cs ++ lowerAfter (c :: before) cs := rfl

lemma lowerAfter_append (before cs after : List Char) :
    lowerAfter before (cs ++ after) =
      lowerWithin before cs after ++ lowerAfter (cs.reverse ++ before) after := by
  induction cs generalizing before with
  | nil => rfl
  | cons c cs ih =>
    rw [List.cons_append, lowerAfter_cons, ih, lowerWithin, List.append_assoc, List.reverse_cons,
      List.append_assoc, List.singleton_append]

/-- The lower-case form of a text is made of those of its pieces, each in its place. -/
theorem toList_lowercase_append {s : String} {before piece after : List Char}
    (h : s.toList = before ++ piece ++ after) :
    (lowercase s).toList =
      lowerWithin [] before (piece ++ after) ++ lowerWithin before.reverse piece after ++
        lowerAfter (piece.reverse ++ before.reverse) after := by
  rw [lowercase, String.toList_ofList, h, List.append_assoc, lowerAfter_append, lowerAfter_append,
    List.append_nil, List.append_assoc]

/-! ## A piece alone and in a text -/

/-- How many characters the lower-case form of a character has does not depend on its place. -/
lemma length_lowerBetween (before before' : List Char) (c : Char) (after after' : List Char) :
    (lowerBetween before c after).length = (lowerBetween before' c after').length := by
  unfold lowerBetween
  split <;> rfl

lemma lowerBetween_eq_iff {before before' : List Char} {c : Char} {after after' : List Char} :
    lowerBetween before c after = lowerBetween before' c after' ↔
      (c = 'Σ' → isFinalSigma before after = isFinalSigma before' after') := by
  unfold lowerBetween
  split
  · next hc =>
    cases isFinalSigma before after <;> cases isFinalSigma before' after' <;> simp [hc]
  · next hc => simp [hc]

/-- Characters have the same lower-case form between more text exactly if their capital sigmas do.

**Proof sketch.** By induction on the characters. The forms of a character are equally long, so two
texts made of them are equal exactly if they are at every place; and a split of the characters at a
capital sigma is one at the first character or one of the others. -/
lemma lowerWithin_eq_iff (before before' cs after : List Char) :
    lowerWithin (before ++ before') cs after = lowerAfter before cs ↔
      ∀ l r, cs = l ++ 'Σ' :: r →
        isFinalSigma (l.reverse ++ (before ++ before')) (r ++ after) =
          isFinalSigma (l.reverse ++ before) r := by
  induction cs generalizing before with
  | nil =>
    refine iff_of_true rfl fun l r h => ?_
    simp at h
  | cons c cs ih =>
    have happend : lowerWithin (before ++ before') (c :: cs) after = lowerAfter before (c :: cs) ↔
        lowerBetween (before ++ before') c (cs ++ after) = lowerBetween before c cs ∧
          lowerWithin (c :: before ++ before') cs after = lowerAfter (c :: before) cs := by
      rw [lowerWithin, lowerAfter_cons]
      exact ⟨fun h => List.append_inj h (length_lowerBetween ..), fun h => by rw [h.1, ← h.2]; rfl⟩
    rw [happend, lowerBetween_eq_iff, ih]
    constructor
    · rintro ⟨hfirst, hrest⟩ (_ | ⟨d, l⟩) r h
      · obtain ⟨hc, rfl⟩ := List.cons.inj h
        exact hfirst hc
      · obtain ⟨rfl, rfl⟩ := List.cons.inj h
        simpa [List.append_assoc] using hrest l r rfl
    · intro h
      refine ⟨fun hc => ?_, fun l r hcs => ?_⟩
      · exact h [] cs (by rw [hc, List.nil_append])
      · simpa [List.append_assoc] using h (c :: l) r (by rw [hcs, List.cons_append])

/-- A piece has one lower-case form, alone and in the text, exactly if its capital sigmas keep
theirs. -/
theorem lowerWithin_eq_iff_sigmasKeep {before piece after : List Char} :
    lowerWithin before.reverse piece after = lowerAfter [] piece ↔
      SigmasKeep before piece after := by
  have h := lowerWithin_eq_iff [] before.reverse piece after
  simp only [List.nil_append, List.append_nil] at h
  exact h

/-- If the capital sigmas of a piece keep their forms, its lower-case form is a piece of that of the
text. -/
theorem lowercase_isInfix {s t : String} {before after : List Char}
    (h : t.toList = before ++ s.toList ++ after) (hkeep : SigmasKeep before s.toList after) :
    (lowercase s).toList <:+: (lowercase t).toList := by
  rw [toList_lowercase_append h, lowerWithin_eq_iff_sigmasKeep.2 hkeep, lowercase,
    String.toList_ofList]
  exact ⟨_, _, rfl⟩

end Text

end CodeIndex
