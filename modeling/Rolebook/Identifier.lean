import Rolebook.Text.Hex
import Rolebook.Text.Letters

/-!
Identifiers of roles and actors: numbers of 128 bits, printed as groups of 8, 4, 4, 4 and 12 small
hexadecimal digits. Reading also takes 32 digits without hyphens, the hyphenated form in braces and the
hyphenated form as a URN, and reads every printed identifier back.
-/

namespace Rolebook

structure Uuid where
  bits : BitVec 128
  deriving DecidableEq, Inhabited

namespace Uuid

def nil : Uuid :=
  ⟨0⟩

/-- An identifier of version 4 whose other 122 bits are the given ones. -/
def ofRandom (bits : BitVec 128) : Uuid :=
  let cleared := bits &&& ~~~(0xF#128 <<< 76) &&& ~~~(0x3#128 <<< 62)
  ⟨cleared ||| (0x4#128 <<< 76) ||| (0x2#128 <<< 62)⟩

def digits (uuid : Uuid) : List Char :=
  Text.hexDigits 32 uuid.bits.toNat

def hyphenate (digits : List Char) : List Char :=
  digits.take 8 ++ '-' :: (digits.drop 8).take 4 ++ '-' :: (digits.drop 12).take 4 ++
    '-' :: (digits.drop 16).take 4 ++ '-' :: digits.drop 20

def text (uuid : Uuid) : String :=
  String.ofList (hyphenate uuid.digits)

def ofDigits? (digits : List Char) : Option Uuid :=
  if digits.length = 32 then (Text.hexNumber? digits).map fun number => ⟨BitVec.ofNat 128 number⟩
  else none

def ofHyphenated? (characters : List Char) : Option Uuid :=
  if characters.length = 36 ∧ [8, 13, 18, 23].all (fun place => characters[place]? == some '-') then
    ofDigits? (characters.take 8 ++ (characters.drop 9).take 4 ++ (characters.drop 14).take 4 ++
      (characters.drop 19).take 4 ++ characters.drop 24)
  else none

def ofBraced? : List Char → Option Uuid
  | '{' :: rest => if rest.getLast? = some '}' then ofHyphenated? rest.dropLast else none
  | _ => none

/-- The hyphenated form after `urn:uuid:`, in which the case of letters does not matter. -/
def ofUrn? (characters : List Char) : Option Uuid :=
  if Text.sameLetters (String.ofList (characters.take 9)) "urn:uuid:" then
    ofHyphenated? (characters.drop 9)
  else none

def parse? (text : String) : Option Uuid :=
  let characters := text.toList
  ofDigits? characters <|> ofHyphenated? characters <|> ofBraced? characters <|> ofUrn? characters

end Uuid

structure RoleId where
  uuid : Uuid
  deriving DecidableEq, Inhabited

namespace RoleId

def nil : RoleId :=
  ⟨.nil⟩

def isNil (id : RoleId) : Bool :=
  id == nil

def text (id : RoleId) : String :=
  id.uuid.text

def parse? (text : String) : Option RoleId :=
  (Uuid.parse? text).map RoleId.mk

/-- The number that the digits write; identifiers are ordered by it. -/
def number (id : RoleId) : Nat :=
  id.uuid.bits.toNat

theorem number_injective {left right : RoleId} (same : left.number = right.number) : left = right := by
  obtain ⟨⟨leftBits⟩⟩ := left
  obtain ⟨⟨rightBits⟩⟩ := right
  simpa [number, BitVec.toNat_inj] using same

instance : Ord RoleId :=
  ⟨fun left right => compare left.number right.number⟩

theorem compare_eq (left right : RoleId) : compare left right = compare left.number right.number :=
  rfl

instance : Std.TransOrd RoleId where
  eq_swap := by
    intro left right
    rw [compare_eq, compare_eq]
    exact Std.OrientedCmp.eq_swap
  isLE_trans := by
    intro first second third
    rw [compare_eq, compare_eq, compare_eq]
    exact Std.TransCmp.isLE_trans

instance : Std.LawfulEqOrd RoleId where
  compare_self := by
    intro id
    rw [compare_eq]
    exact Std.ReflCmp.compare_self
  eq_of_compare := by
    intro left right same
    rw [compare_eq] at same
    exact number_injective (Std.LawfulEqCmp.eq_of_compare same)

instance : ToString RoleId :=
  ⟨text⟩

end RoleId

structure ActorId where
  uuid : Uuid
  deriving DecidableEq, Inhabited

namespace ActorId

def nil : ActorId :=
  ⟨.nil⟩

def isNil (id : ActorId) : Bool :=
  id == nil

def text (id : ActorId) : String :=
  id.uuid.text

def parse? (text : String) : Option ActorId :=
  (Uuid.parse? text).map ActorId.mk

end ActorId

end Rolebook
