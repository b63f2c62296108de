/-!
Hexadecimal digits: a fixed number of small digits for printing, digits of either case for reading.
-/

namespace Rolebook.Text

def hexDigit (value : Nat) : Char :=
  "0123456789abcdef".toList.getD value '0'

def hexValue? (digit : Char) : Option Nat :=
  if '0' ≤ digit ∧ digit ≤ '9' then some (digit.toNat - '0'.toNat)
  else if 'a' ≤ digit ∧ digit ≤ 'f' then some (digit.toNat - 'a'.toNat + 10)
  else if 'A' ≤ digit ∧ digit ≤ 'F' then some (digit.toNat - 'A'.toNat + 10)
  else none

def hexDigits : Nat → Nat → List Char
  | 0, _ => []
  | count + 1, value => hexDigits count (value / 16) ++ [hexDigit (value % 16)]

def hexNumber? (digits : List Char) : Option Nat :=
  digits.foldlM (fun number digit => (hexValue? digit).map (number * 16 + ·)) 0

@[simp]
theorem length_hexDigits (count value : Nat) : (hexDigits count value).length = count := by
  induction count generalizing value with
  | zero => rfl
  | succ count inductionHypothesis => simp [hexDigits, inductionHypothesis]

@[simp]
theorem hexValue?_hexDigit {value : Nat} (small : value < 16) :
    hexValue? (hexDigit value) = some value := by
  have every : ∀ value : Fin 16, hexValue? (hexDigit value.val) = some value.val := by decide
  exact every ⟨value, small⟩

theorem hexNumber?_hexDigits (count value : Nat) :
    hexNumber? (hexDigits count value) = some (value % Nat.pow 16 count) := by
  induction count generalizing value with
  | zero => simp [hexDigits, hexNumber?, Nat.mod_one]
  | succ count inductionHypothesis =>
      have before := inductionHypothesis (value / 16)
      unfold hexNumber? at before
      simp only [hexNumber?, hexDigits, List.foldlM_append, before]
      simp only [Option.bind_eq_bind, Option.bind_some, List.foldlM_cons, List.foldlM_nil,
        hexValue?_hexDigit (Nat.mod_lt value (by decide)), Option.map_some]
      have split : Nat.pow 16 (count + 1) = 16 * Nat.pow 16 count := Nat.mul_comm _ _
      rw [split, Nat.mod_mul]
      congr 1
      omega

end Rolebook.Text
