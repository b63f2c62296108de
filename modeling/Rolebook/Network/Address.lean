import Rolebook.Text.Hex

/-!
Internet addresses and their texts. An address of version 4 is four decimal octets without leading
zeros. An address of version 6 is eight groups of up to four hexadecimal digits, of which one run of
zero groups may be left out and the last two may be written as an address of version 4. Printing leaves
out the first longest run of at least two zero groups and writes mapped addresses with dots.
-/

namespace Rolebook.Network

inductive Address where
  | v4 (octets : List Nat)
  | v6 (groups : List Nat)
  deriving DecidableEq

/-- A reader of the front of a text: what it read, and the rest. -/
abbrev Reader (Value : Type) := List Char → Option (Value × List Char)

def number (base maxDigits bound : Nat) (leadingZeros : Bool) : Reader Nat := fun characters =>
  let isDigit := fun character =>
    match Text.hexValue? character with
    | some value => decide (value < base)
    | none => false
  let digits := characters.takeWhile isDigit
  if digits.isEmpty || digits.length > maxDigits then none
  else if !leadingZeros && digits.length > 1 && digits.head? == some '0' then none
  else
    let value := digits.foldl (fun value digit => value * base + (Text.hexValue? digit).getD 0) 0
    if value < bound then some (value, characters.dropWhile isDigit) else none

def after {Value : Type} (separator : Char) (reader : Reader Value) : Reader Value
  | [] => none
  | character :: rest => if character = separator then reader rest else none

def octet : Reader Nat :=
  number 10 3 256 false

def readV4 : Reader (List Nat) := fun characters => do
  let (first, rest) ← octet characters
  let (second, rest) ← after '.' octet rest
  let (third, rest) ← after '.' octet rest
  let (fourth, rest) ← after '.' octet rest
  return ([first, second, third, fourth], rest)

def group : Reader Nat :=
  number 16 4 65536 true

def groupsOfOctets : List Nat → List Nat
  | [first, second, third, fourth] => [first * 256 + second, third * 256 + fourth]
  | _ => []

/-- Up to so many groups with colons between them, and whether the last two were written as octets.
The first group has no colon before it. -/
def readGroups : Nat → Bool → List Char → List Nat × Bool × List Char
  | 0, _, characters => ([], false, characters)
  | room + 1, isFirst, characters =>
      let front {Value : Type} (reader : Reader Value) : Reader Value :=
        if isFirst then reader else after ':' reader
      match if room = 0 then none else front readV4 characters with
      | some (octets, rest) => (groupsOfOctets octets, true, rest)
      | none =>
          match front group characters with
          | none => ([], false, characters)
          | some (value, rest) =>
              let (others, dotted, final) := readGroups room false rest
              (value :: others, dotted, final)

/-- Eight groups, or fewer around two colons that stand for at least one zero group. -/
def readV6 : Reader (List Nat) := fun characters =>
  let (head, dotted, rest) := readGroups 8 true characters
  if head.length = 8 then some (head, rest)
  else if dotted then none
  else
    match rest with
    | ':' :: ':' :: rest =>
        let (tail, _, rest) := readGroups (7 - head.length) true rest
        some (head ++ List.replicate (8 - head.length - tail.length) 0 ++ tail, rest)
    | _ => none

namespace Address

def parse? (text : String) : Option Address :=
  match readV4 text.toList with
  | some (octets, rest) => if rest.isEmpty then some (v4 octets) else none
  | none =>
      match readV6 text.toList with
      | some (groups, rest) => if rest.isEmpty then some (v6 groups) else none
      | none => none

def octetsText (octets : List Nat) : String :=
  ".".intercalate (octets.map fun octet => toString octet)

def groupsText (groups : List Nat) : String :=
  ":".intercalate (groups.map fun group => String.ofList (Nat.toDigits 16 group))

/-- The start and the length of the first longest run of zero groups. -/
def zeroRun (groups : List Nat) : Nat × Nat :=
  let runAt := fun start => (start, ((groups.drop start).takeWhile (· == 0)).length)
  (List.range groups.length).foldl
    (fun best start => if (runAt start).2 > best.2 then runAt start else best) (0, 0)

def v6Text (groups : List Nat) : String :=
  match groups with
  | [0, 0, 0, 0, 0, 0xFFFF, high, low] =>
      "::ffff:" ++ octetsText [high / 256, high % 256, low / 256, low % 256]
  | _ =>
      let (start, length) := zeroRun groups
      if length > 1 then
        groupsText (groups.take start) ++ "::" ++ groupsText (groups.drop (start + length))
      else groupsText groups

def withPort (address : Address) (port : Nat) : String :=
  match address with
  | v4 octets => octetsText octets ++ s!":{port}"
  | v6 groups => "[" ++ v6Text groups ++ s!"]:{port}"

end Address

end Rolebook.Network
