/-!
JSON values. The members of an object keep the order in which they are listed.
-/

namespace Rolebook

inductive Json where
  | null
  | bool (value : Bool)
  /-- The number `mantissa / 10 ^ exponent`. -/
  | number (mantissa : Int) (exponent : Nat)
  | text (value : String)
  | array (items : List Json)
  | object (members : List (String × Json))
  deriving Inhabited

namespace Json

def ofNat (value : Nat) : Json :=
  number value 0

def texts (values : List String) : Json :=
  array (values.map text)

def ofText? : Option String → Json
  | some value => text value
  | none => null

def text? : Json → Option String
  | text value => some value
  | _ => none

end Json

end Rolebook
