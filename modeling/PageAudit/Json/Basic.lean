/-!
# JSON values

Objects keep their members in the order in which they were written. Whole numbers and decimal
numbers are told apart, as `1` and `1.0` are two values of different kinds.
-/

namespace PageAudit

/-- A number with a fraction or an exponent: `coefficient · 10 ^ exponent`, negated if need be. -/
structure Json.Decimal where
  negative : Bool
  coefficient : Nat
  exponent : Int
  deriving DecidableEq, Repr, Inhabited

/-- A value. -/
inductive Json where
  | null
  | bool (value : Bool)
  | int (value : Int)
  | decimal (value : Json.Decimal)
  | str (value : String)
  | arr (items : List Json)
  | obj (members : List (String × Json))
  deriving Repr, Inhabited

namespace Json

/-- The member of an object under a key. -/
def field? (key : String) : Json → Option Json
  | obj members => members.lookup key
  | _ => none

/-- The text that a value is. -/
def str? : Json → Option String
  | str s => some s
  | _ => none

/-- The truth value that a value is. -/
def bool? : Json → Option Bool
  | bool b => some b
  | _ => none

/-- The whole number that a value is. -/
def int? : Json → Option Int
  | int n => some n
  | _ => none

/-- The items of an array; of any other value there are none. -/
def items : Json → List Json
  | arr xs => xs
  | _ => []

/-- The members of an object; of any other value there are none. -/
def members : Json → List (String × Json)
  | obj ms => ms
  | _ => []

/-- An array of texts. -/
def strs (ss : List String) : Json :=
  arr (ss.map str)

/-- Writes a member: a key that is already there keeps its place and takes the new value. -/
def put (key : String) (value : Json) : List (String × Json) → List (String × Json)
  | [] => [(key, value)]
  | (k, v) :: ms => if k = key then (key, value) :: ms else (k, v) :: put key value ms

end Json

end PageAudit
