import Rolebook.Text.Hex

/-!
Gaps between JSON tokens, and written JSON strings. A string is a list of pieces, because an escape may
write one half of a character that takes two code units; such halves must come in pairs.
-/

namespace Rolebook.Json

def isGap (character : Char) : Bool :=
  character == ' ' || character == '\t' || character == '\n' || character == '\r'

def skipGaps (text : List Char) : List Char :=
  text.dropWhile isGap

/-- A piece of a written string: a character, or a code unit of 16 bits given by its number. -/
inductive Piece where
  | plain (character : Char)
  | unit (number : Nat)
  deriving DecidableEq

namespace Piece

def ofEscape? : Char → Option Char
  | '"' => some '"'
  | '\\' => some '\\'
  | '/' => some '/'
  | 'b' => some '\x08'
  | 'f' => some '\x0c'
  | 'n' => some '\n'
  | 'r' => some '\r'
  | 't' => some '\t'
  | _ => none

/-- The pieces of a string from after its opening quote to its closing quote, and what follows. No
control character stands in a string. -/
def read? : List Char → Option (List Piece × List Char)
  | [] => none
  | '"' :: rest => some ([], rest)
  | '\\' :: 'u' :: first :: second :: third :: fourth :: rest => do
      let number ← Text.hexNumber? [first, second, third, fourth]
      let (pieces, after) ← read? rest
      return (unit number :: pieces, after)
  | '\\' :: letter :: rest => do
      let character ← ofEscape? letter
      let (pieces, after) ← read? rest
      return (plain character :: pieces, after)
  | character :: rest =>
      if character = '\\' ∨ character.toNat < 0x20 then none
      else do
        let (pieces, after) ← read? rest
        return (plain character :: pieces, after)

def pair? (high low : Nat) : Option Char :=
  if 0xD800 ≤ high ∧ high < 0xDC00 ∧ 0xDC00 ≤ low ∧ low < 0xE000 then
    some (Char.ofNat (0x10000 + (high - 0xD800) * 0x400 + (low - 0xDC00)))
  else none

def single? (number : Nat) : Option Char :=
  if number.isValidChar then some (Char.ofNat number) else none

/-- The characters that the pieces write; none if half of a pair stands alone. -/
def characters? : List Piece → Option (List Char)
  | [] => some []
  | plain character :: rest => (characters? rest).map (character :: ·)
  | unit high :: unit low :: rest =>
      match pair? high low with
      | some character => (characters? rest).map (character :: ·)
      | none => do
          let character ← single? high
          let others ← characters? (unit low :: rest)
          return character :: others
  | unit code :: rest => do
      let character ← single? code
      let others ← characters? rest
      return character :: others

end Piece

end Rolebook.Json
