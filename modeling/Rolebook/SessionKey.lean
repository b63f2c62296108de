import Rolebook.Text.Blank
import Rolebook.Text.Hex

/-!
Keys of sessions, as cookies write them. A key has 128 bits and is written in 22 letters, digits, hyphens
and underscores of six bits each, of which the last four bits are zero. The cookie has the name `id`, and
its characters may be escaped; quotes are not taken off.
-/

namespace Rolebook

structure SessionKey where
  bits : BitVec 128
  deriving DecidableEq

namespace SessionKey

def sextet? (character : Char) : Option Nat :=
  if 'A' ≤ character ∧ character ≤ 'Z' then some (character.toNat - 'A'.toNat)
  else if 'a' ≤ character ∧ character ≤ 'z' then some (character.toNat - 'a'.toNat + 26)
  else if '0' ≤ character ∧ character ≤ '9' then some (character.toNat - '0'.toNat + 52)
  else if character = '-' then some 62
  else if character = '_' then some 63
  else none

def parse? (characters : List Char) : Option SessionKey := do
  let number ← characters.foldlM
    (fun number character => (sextet? character).map (number * 64 + ·)) 0
  if characters.length = 22 ∧ number % 16 = 0 then some ⟨BitVec.ofNat 128 (number / 16)⟩ else none

/-- The characters with escapes read, which are percent signs with two hexadecimal digits. -/
def unescape : List Char → List Char
  | '%' :: high :: low :: rest =>
      match Text.hexNumber? [high, low] with
      | some number => .ofNat number :: unescape rest
      | none => '%' :: unescape (high :: low :: rest)
  | character :: rest => character :: unescape rest
  | [] => []

/-- The value of a cookie with the name of session cookies. Blanks around name and value do not count. -/
def value? (cookie : List Char) : Option (List Char) :=
  match cookie.dropWhile (· ≠ '=') with
  | '=' :: value =>
      if unescape (Text.trimChars (cookie.takeWhile (· ≠ '='))) = ['i', 'd'] then
        some (unescape (Text.trimChars value))
      else none
  | _ => none

/-- The key that is written by what is sent as the value of a session cookie. A semicolon in it starts
another cookie, and the last session cookie counts. -/
def ofCookie? (sent : String) : Option SessionKey := do
  let value ← ((("id=" ++ sent).toList.splitOn ';').filterMap value?).getLast?
  parse? value

end SessionKey

end Rolebook
