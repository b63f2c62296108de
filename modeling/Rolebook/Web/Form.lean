import Rolebook.Submission
import Rolebook.Text.Hex

/-!
Contents of forms: pairs of texts, divided by ampersands, each divided by its first equals sign. A plus
sign writes a space and a percent sign with two hexadecimal digits writes an octet; the octets are read
as UTF-8, where each ill-formed sequence counts as one replacement character.
-/

namespace Rolebook.Web.Form

/-- The octets that a piece of a form writes. A percent sign without two digits stands for itself. -/
def octets : List UInt8 → List UInt8
  | 0x25 :: high :: low :: rest =>
      match Text.hexNumber? [Char.ofNat high.toNat, Char.ofNat low.toNat] with
      | some number => .ofNat number :: octets rest
      | none => 0x25 :: octets (high :: low :: rest)
  | 0x2B :: rest => 0x20 :: octets rest
  | octet :: rest => octet :: octets rest
  | [] => []

/-- How many octets follow the first octet of a sequence, and the range of the first of these. -/
def continuation? (first : UInt8) : Option (Nat × UInt8 × UInt8) :=
  if 0xC2 ≤ first ∧ first ≤ 0xDF then some (1, 0x80, 0xBF)
  else if first = 0xE0 then some (2, 0xA0, 0xBF)
  else if first = 0xED then some (2, 0x80, 0x9F)
  else if 0xE1 ≤ first ∧ first ≤ 0xEF then some (2, 0x80, 0xBF)
  else if first = 0xF0 then some (3, 0x90, 0xBF)
  else if 0xF1 ≤ first ∧ first ≤ 0xF3 then some (3, 0x80, 0xBF)
  else if first = 0xF4 then some (3, 0x80, 0x8F)
  else none

/-- The octets at the front that continue a sequence, so many at most. The first of them lies in the
given range, the others between 80 and BF. -/
def continued : Nat → UInt8 → UInt8 → List UInt8 → List UInt8
  | 0, _, _, _ => []
  | _, _, _, [] => []
  | count + 1, least, greatest, octet :: rest =>
      if least ≤ octet ∧ octet ≤ greatest then octet :: continued count 0x80 0xBF rest else []

def scalar (first : UInt8) (others : List UInt8) : Nat :=
  let lead := first.toNat % (64 >>> others.length)
  others.foldl (fun number octet => number * 64 + octet.toNat % 64) lead

/-- Reads octets as UTF-8. The longest beginning of a sequence that is not completed counts as one
replacement character. -/
def decode : List UInt8 → List Char
  | [] => []
  | first :: rest =>
      if first < 0x80 then .ofNat first.toNat :: decode rest
      else
        match continuation? first with
        | none => '\uFFFD' :: decode rest
        | some (count, least, greatest) =>
            let others := continued count least greatest rest
            (if others.length = count then Char.ofNat (scalar first others) else '\uFFFD') ::
              decode (rest.drop others.length)
  termination_by text => text.length
  decreasing_by all_goals simp; try omega

def pieceText (piece : List Char) : String :=
  .ofList (decode (octets (String.ofList piece).toUTF8.toList))

def pair (piece : List Char) : String × String :=
  (pieceText (piece.takeWhile (· ≠ '=')), pieceText ((piece.dropWhile (· ≠ '=')).drop 1))

def pairs (content : String) : List (String × String) :=
  ((content.toList.splitOn '&').filter fun piece => !piece.isEmpty).map pair

/-- The submission that a form writes, in which the last of several pairs of one name counts. -/
def submission (content : String) : Submission :=
  .ofList (pairs content)

end Rolebook.Web.Form
