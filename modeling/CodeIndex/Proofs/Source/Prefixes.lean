import Mathlib.Algebra.Ring.Nat
import Mathlib.Data.List.Infix
import Mathlib.Order.Bounds.Basic
import CodeIndex.Source

set_option relaxedAutoImplicit false
set_option autoImplicit false

/-!
# Beginnings of a text by weight

A text is measured in bytes and in 16-bit units. Both measures give every character a positive
weight, and in both of them a place in a text is found by taking characters until their weight
suffices. What comes out is the shortest beginning that is heavy enough: its weight is the least
boundary between characters that does not lie below the weight asked for.

## Main definitions

* `Source.weight` — the weight of a text, where every character has a weight.
* `Source.width` — the weight of a text in 16-bit units.
* `Source.upTo` — the shortest beginning of a text with at least a given weight.
* `Source.boundaries` — the measures of the beginnings of a text.

## Main results

* `Source.upTo_prefix_of_le` — no beginning that is heavy enough is shorter.
* `Source.isLeast_weight_upTo` — its weight is the least boundary that is heavy enough.
* `Source.columnAt_eq`, `Source.bytesBefore_eq` — the two searches within a line measure such a
  beginning in the other unit.
-/

namespace CodeIndex

namespace Source

/-- The weight of a text, where every character has a weight. -/
def weight (f : Char → Nat) (cs : List Char) : Nat := (cs.map f).sum

/-- The number of 16-bit units of a character. -/
def unitCount (c : Char) : Nat := (units c).toNat

/-- The width of a text in 16-bit units. -/
def width : List Char → Nat := weight unitCount

/-- The shortest beginning of a text that weighs at least `n`, or the whole text. -/
def upTo (f : Char → Nat) : (n : Nat) → List Char → List Char
  | _, [] => []
  | n, c :: cs => if n = 0 then [] else c :: upTo f (n - f c) cs

/-- The places between the characters of a text and at its ends, in some measure. -/
def boundaries (measure : List Char → Nat) (cs : List Char) : Set Nat :=
  {n | ∃ u, u <+: cs ∧ measure u = n}

/-! ## Weights -/

section Weight

variable {f : Char → Nat} {u v cs : List Char} {n m : Nat}

@[simp] lemma weight_nil : weight f [] = 0 := rfl

@[simp] lemma weight_cons (c : Char) : weight f (c :: cs) = f c + weight f cs := by
  simp [weight]

@[simp] lemma weight_append : weight f (u ++ v) = weight f u + weight f v := by
  simp [weight]

lemma weight_replicate (n : Nat) (c : Char) : weight f (List.replicate n c) = n * f c := by
  simp [weight]

lemma weight_le_weight {g : Char → Nat} (hfg : ∀ c, f c ≤ g c) (cs : List Char) :
    weight f cs ≤ weight g cs := by
  induction cs with
  | nil => exact le_rfl
  | cons c cs ih =>
    have := hfg c
    rw [weight_cons, weight_cons]
    omega

lemma weight_mono (h : u <+: v) : weight f u ≤ weight f v := by
  obtain ⟨t, rfl⟩ := h
  simp

/-- Where every character weighs something, only the empty text weighs nothing. -/
lemma eq_nil_of_weight_eq_zero (hf : ∀ c, 0 < f c) (h : weight f cs = 0) : cs = [] := by
  cases cs with
  | nil => rfl
  | cons c cs =>
    have := hf c
    rw [weight_cons] at h
    omega

/-- Where every character weighs something, a beginning is determined by its weight. -/
lemma eq_of_weight_eq (hf : ∀ c, 0 < f c) (hu : u <+: v) (h : weight f u = weight f v) :
    u = v := by
  obtain ⟨t, rfl⟩ := hu
  have ht : t = [] := eq_nil_of_weight_eq_zero hf (by rw [weight_append] at h; omega)
  rw [ht, List.append_nil]

/-- Of two beginnings of a text the lighter one is a beginning of the other. -/
lemma prefix_of_weight_le (hf : ∀ c, 0 < f c) (hu : u <+: cs) (hv : v <+: cs)
    (h : weight f u ≤ weight f v) : u <+: v := by
  rcases List.prefix_or_prefix_of_prefix hu hv with huv | hvu
  · exact huv
  · exact (eq_of_weight_eq hf hvu (le_antisymm (weight_mono hvu) h)) ▸ List.prefix_rfl

/-! ## The shortest beginning of a weight -/

@[simp] lemma upTo_zero : upTo f 0 cs = [] := by
  cases cs <;> simp [upTo]

lemma upTo_isPrefix (n : Nat) (cs : List Char) : upTo f n cs <+: cs := by
  induction cs generalizing n with
  | nil => exact List.prefix_rfl
  | cons c cs ih =>
    rw [upTo]
    split
    · exact List.nil_prefix
    · exact List.cons_prefix_cons.2 ⟨rfl, ih _⟩

/-- A beginning that is heavy enough holds all that counts. -/
lemma upTo_append (h : n ≤ weight f u) (v : List Char) : upTo f n (u ++ v) = upTo f n u := by
  induction u generalizing n with
  | nil =>
    obtain rfl : n = 0 := by simpa using h
    simp
  | cons c u ih =>
    rw [weight_cons] at h
    rw [List.cons_append, upTo, upTo, ih (by omega)]

/-- A beginning that is not heavy enough is taken as a whole. -/
lemma upTo_append_of_lt (h : weight f u < n) (v : List Char) :
    upTo f n (u ++ v) = u ++ upTo f (n - weight f u) v := by
  induction u generalizing n with
  | nil => simp
  | cons c u ih =>
    rw [weight_cons] at h
    rw [List.cons_append, upTo, if_neg (by omega), ih (by omega), weight_cons, Nat.sub_sub]
    rfl

/-- A text that is not too heavy is taken as a whole. -/
lemma upTo_of_weight_le (hf : ∀ c, 0 < f c) (h : weight f cs ≤ n) : upTo f n cs = cs := by
  induction cs generalizing n with
  | nil => rfl
  | cons c cs ih =>
    have := hf c
    rw [weight_cons] at h
    rw [upTo, if_neg (by omega), ih (by omega)]

lemma upTo_min (hf : ∀ c, 0 < f c) (n : Nat) (cs : List Char) :
    upTo f (min n (weight f cs)) cs = upTo f n cs := by
  rcases le_total n (weight f cs) with h | h
  · rw [min_eq_left h]
  · rw [min_eq_right h, upTo_of_weight_le hf le_rfl, upTo_of_weight_le hf h]

/-- A beginning is found by its weight. -/
lemma upTo_weight (hf : ∀ c, 0 < f c) (h : u <+: cs) : upTo f (weight f u) cs = u := by
  obtain ⟨v, rfl⟩ := h
  rw [upTo_append le_rfl, upTo_of_weight_le hf le_rfl]

lemma le_weight_upTo (h : n ≤ weight f cs) : n ≤ weight f (upTo f n cs) := by
  induction cs generalizing n with
  | nil => exact h
  | cons c cs ih =>
    rw [weight_cons] at h
    rw [upTo]
    split
    · next hn => simp [hn]
    · have := ih (n := n - f c) (by omega)
      rw [weight_cons]
      omega

/-- No beginning that is heavy enough is shorter. -/
lemma upTo_prefix_of_le (hu : u <+: cs) (h : n ≤ weight f u) : upTo f n cs <+: u := by
  obtain ⟨v, rfl⟩ := hu
  rw [upTo_append h]
  exact upTo_isPrefix n u

lemma upTo_mono (hf : ∀ c, 0 < f c) (h : n ≤ m) (cs : List Char) :
    upTo f n cs <+: upTo f m cs := by
  rcases le_total m (weight f cs) with hm | hm
  · exact upTo_prefix_of_le (upTo_isPrefix m cs) (h.trans (le_weight_upTo hm))
  · rw [upTo_of_weight_le hf hm]
    exact upTo_isPrefix n cs

/-- **The shortest beginning that is heavy enough ends at the least boundary that is.** -/
theorem isLeast_weight_upTo (h : n ≤ weight f cs) :
    IsLeast {k | k ∈ boundaries (weight f) cs ∧ n ≤ k} (weight f (upTo f n cs)) := by
  refine ⟨⟨⟨_, upTo_isPrefix n cs, rfl⟩, le_weight_upTo h⟩, ?_⟩
  rintro _ ⟨⟨u, hu, rfl⟩, hn⟩
  exact weight_mono (upTo_prefix_of_le hu hn)

end Weight

/-! ## Bytes and units -/

lemma byteSize_eq_weight : byteSize = weight Char.utf8Size := by
  funext cs
  induction cs with
  | nil => rfl
  | cons c cs ih => rw [byteSize, weight_cons, ih]

lemma byteSize_append (u v : List Char) : byteSize (u ++ v) = byteSize u + byteSize v := by
  rw [byteSize_eq_weight, weight_append]

lemma byteSize_mono {u v : List Char} (h : u <+: v) : byteSize u ≤ byteSize v := by
  rw [byteSize_eq_weight]
  exact weight_mono h

lemma prefix_of_byteSize_le {u v cs : List Char} (hu : u <+: cs) (hv : v <+: cs)
    (h : byteSize u ≤ byteSize v) : u <+: v := by
  rw [byteSize_eq_weight] at h
  exact prefix_of_weight_le Char.utf8Size_pos hu hv h

lemma unitCount_pos (c : Char) : 0 < unitCount c := by
  unfold unitCount units
  split <;> decide

/-- A character of two units takes four bytes. -/
lemma unitCount_le_utf8Size (c : Char) : unitCount c ≤ c.utf8Size := by
  unfold unitCount units
  split
  · exact c.utf8Size_pos
  · next h =>
    have h1 : ¬ c.val ≤ 0x7F := fun hc => h (UInt32.le_trans hc (by decide))
    have h2 : ¬ c.val ≤ 0x7FF := fun hc => h (UInt32.le_trans hc (by decide))
    have hsize : c.utf8Size = 4 := (if_neg h1).trans ((if_neg h2).trans (if_neg h))
    rw [hsize]
    decide

lemma width_le_byteSize (cs : List Char) : width cs ≤ byteSize cs := by
  rw [byteSize_eq_weight]
  exact weight_le_weight unitCount_le_utf8Size cs

lemma length_le_byteSize (cs : List Char) : cs.length ≤ byteSize cs := by
  have hlength : weight (fun _ => 1) cs = cs.length := by simp [weight]
  rw [byteSize_eq_weight, ← hlength]
  exact weight_le_weight Char.utf8Size_pos cs

/-- The column at a byte offset is the width of the shortest beginning with that many bytes. -/
lemma columnAt_eq (o : Nat) (line : List Char) :
    columnAt o line = UInt32.ofNat (width (upTo Char.utf8Size o line)) := by
  induction line generalizing o with
  | nil => rfl
  | cons c cs ih =>
    rw [columnAt, upTo]
    split
    · rfl
    · rw [ih, width, weight_cons, UInt32.ofNat_add, unitCount, UInt32.ofNat_toNat]

/-- The bytes before a column are those of the shortest beginning with that many units. -/
lemma bytesBefore_eq {column seen : UInt32} {line : List Char}
    (h : seen.toNat + width line < 2 ^ 32) :
    bytesBefore column seen line =
      byteSize (upTo unitCount (column.toNat - seen.toNat) line) := by
  induction line generalizing seen with
  | nil => rfl
  | cons c cs ih =>
    rw [width, weight_cons] at h
    have hseen : (seen + units c).toNat = seen.toNat + unitCount c := by
      rw [UInt32.toNat_add, ← unitCount, Nat.mod_eq_of_lt (by omega)]
    rw [bytesBefore, upTo]
    by_cases hcolumn : column ≤ seen
    · rw [UInt32.le_iff_toNat_le] at hcolumn
      rw [if_pos (UInt32.le_iff_toNat_le.2 hcolumn), if_pos (Nat.sub_eq_zero_of_le hcolumn),
        byteSize]
    · have hlt : seen.toNat < column.toNat := by
        rwa [UInt32.le_iff_toNat_le, not_le] at hcolumn
      rw [if_neg hcolumn, if_neg (by omega), byteSize, ih (by rw [hseen, width]; omega), hseen,
        Nat.sub_sub]

end Source

end CodeIndex
