/-!
Natural numbers in decimal digits, with an optional plus sign in front, up to a limit.
-/

namespace Rolebook.Text

def digitValue? (character : Char) : Option Nat :=
  if '0' ≤ character ∧ character ≤ '9' then some (character.toNat - '0'.toNat) else none

def digitsNumber? : List Char → Option Nat
  | [] => none
  | digits =>
      digits.foldlM (fun number digit => (digitValue? digit).map (number * 10 + ·)) 0

/-- The number below the limit that a text writes; signs other than one leading plus, blanks and an
empty text write none. -/
def natural? (limit : Nat) (text : String) : Option Nat :=
  let digits :=
    match text.toList with
    | '+' :: rest => rest
    | characters => characters
  (digitsNumber? digits).filter (· < limit)

end Rolebook.Text
