set_option autoImplicit false

/-!
# JSON values

The dynamic values that clients send: settings payloads and message parameters. A number keeps how
it was written, because `32` is an integer and `32.0` is not.

## Main definitions

* `Json` — a JSON value.
* `Json.Number` — a number as written: sign, digits, decimal scale, and whether it is an integer.
* `Json.member?` — the value of an object under a key; `Json.present?` takes null for absent.
* `Json.compact` — an object without its absent members.
-/

namespace CodeIndex

/-- A JSON number as written: `± digits · 10 ^ scale`. -/
structure Json.Number where
  negative : Bool
  digits : Nat
  scale : Int
  /-- Whether the number was written without a point and without an exponent. -/
  integral : Bool
deriving DecidableEq, Repr

/-- A JSON value. The members of an object have distinct keys. -/
inductive Json where
  | null
  | bool (value : Bool)
  | number (value : Json.Number)
  | string (value : String)
  | array (elements : List Json)
  | object (members : List (String × Json))
deriving Repr, Inhabited

namespace Json

/-- A natural number. -/
def nat (n : Nat) : Json := .number ⟨false, n, 0, true⟩

/-- An integer. -/
def int (n : Int) : Json := .number ⟨decide (n < 0), n.natAbs, 0, true⟩

/-- The value under a key, if this is an object that has the key. -/
def member? (key : String) : Json → Option Json
  | .object members => members.lookup key
  | _ => none

/-- The value under a key, where null counts as absent. -/
def present? (key : String) (j : Json) : Option Json :=
  match j.member? key with
  | some .null => none
  | found => found

/-- An object whose absent members are left out. -/
def compact (members : List (String × Option Json)) : Json :=
  .object (members.filterMap fun (key, value) => value.map (key, ·))

/-- Give a key its value; a repeated key takes the later value. -/
def putMember (key : String) (value : Json) : List (String × Json) → List (String × Json)
  | [] => [(key, value)]
  | (k, v) :: ms => if k = key then (key, value) :: ms else (k, v) :: putMember key value ms

/-- The text of a string value. -/
def string? : Json → Option String
  | .string s => some s
  | _ => none

/-- The truth value of a boolean. -/
def bool? : Json → Option Bool
  | .bool b => some b
  | _ => none

/-- The elements of an array. -/
def array? : Json → Option (List Json)
  | .array xs => some xs
  | _ => none

/-- The largest unsigned 64-bit number. -/
def maxWord : Nat := 0xFFFFFFFFFFFFFFFF

/-- The value of an integer that fits in an unsigned 64-bit word. A negative sign is refused, even
on zero. -/
def nat? : Json → Option Nat
  | .number n =>
    if n.integral && !n.negative && decide (n.digits ≤ maxWord) then some n.digits else none
  | _ => none

/-- The value of an integer. -/
def int? : Json → Option Int
  | .number n =>
    if n.integral then some (if n.negative then -(n.digits : Int) else n.digits) else none
  | _ => none

/-- The text under a key. -/
def stringAt? (key : String) (j : Json) : Option String := (j.present? key).bind string?

/-- The truth value under a key. -/
def boolAt? (key : String) (j : Json) : Option Bool := (j.present? key).bind bool?

/-- The elements under a key; none if the key is absent. -/
def arrayAt (key : String) (j : Json) : List Json := ((j.present? key).bind array?).getD []

/-- The number under a key that fits in an unsigned 64-bit word. -/
def natAt? (key : String) (j : Json) : Option Nat := (j.present? key).bind nat?

/-- The integer under a key. -/
def intAt? (key : String) (j : Json) : Option Int := (j.present? key).bind int?

/-- The value under a key, null if it is absent. -/
def getAt (key : String) (j : Json) : Json := (j.present? key).getD .null

end Json

end CodeIndex
