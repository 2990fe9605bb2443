set_option autoImplicit false

/-!
# Sets of characters as runs of code points

Properties of characters are published as tables. A table here is a list of runs: a first code
point, a last one and a step between members, so that alternating alphabets take one entry.

## Main definitions

* `Text.Runs` — a table of runs.
* `Text.Runs.has` — whether a character belongs to a table.
* `Text.Shifts`, `Text.Shifts.image?` — a table of runs with shifted images, and its look-up.
-/

namespace CodeIndex

namespace Text

/-- A set of code points as runs `(first, last, step)`. -/
abbrev Runs := List (Nat × Nat × Nat)

/-- Whether a code point is one of `first`, `first + step`, … up to `last`. -/
def inRun (n first last step : Nat) : Bool :=
  decide (first ≤ n) && decide (n ≤ last) && decide ((n - first) % step = 0)

/-- Whether a character belongs to the set. -/
def Runs.has (rs : Runs) (c : Char) : Bool :=
  rs.any fun (first, last, step) => inRun c.toNat first last step

/-- A partial map of code points as runs `(first, last, step, image of the first)`. -/
abbrev Shifts := List (Nat × Nat × Nat × Nat)

/-- The image of a character, if a run has it. -/
def Shifts.image? (rs : Shifts) (c : Char) : Option Char :=
  (rs.find? fun (first, last, step, _) => inRun c.toNat first last step).map
    fun (first, _, _, image) => Char.ofNat (image + (c.toNat - first))

/-- The characters whose image is `c`. -/
def Shifts.preimages (rs : Shifts) (c : Char) : List Char :=
  (rs.filter fun (first, last, step, image) =>
    decide (image ≤ c.toNat) && inRun (first + (c.toNat - image)) first last step).map
      fun (first, _, _, image) => Char.ofNat (first + (c.toNat - image))

end Text

end CodeIndex
