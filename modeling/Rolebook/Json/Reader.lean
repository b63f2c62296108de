import Rolebook.Json.Numeral
import Rolebook.Json.Token

/-!
Reading JSON text against an expected shape. A reader goes through the text once, from left to right,
and stops at the first place where the text breaks the rules of JSON or a value is not of the shape that
is asked for; which of the two it is depends only on the text up to there. Values that nobody asks for
are passed over, and need only be well written.
-/

namespace Rolebook.Json

inductive Misfit where
  /-- It breaks the rules of JSON. -/
  | malformed
  /-- It holds a value of another shape. -/
  | misshapen
  deriving DecidableEq

abbrev Reader (Value : Type) := StateT (List Char) (Except Misfit) Value

namespace Reader

variable {Value : Type}

def peek : Reader Char := do
  let rest := skipGaps (← get)
  set rest
  match rest with
  | [] => throw .malformed
  | next :: _ => return next

def advance : Reader Unit :=
  modify List.tail

def expect (character : Char) : Reader Unit := do
  if (← peek) = character then advance else throw .malformed

def word (text : String) : Reader Unit := do
  let rest ← get
  if text.toList.isPrefixOf rest then set (rest.drop text.length) else throw .malformed

def taking (read? : List Char → Option (Value × List Char)) : Reader Value := do
  match read? (← get) with
  | some (value, rest) =>
      set rest
      return value
  | none => throw .malformed

def pieces : Reader (List Piece) := do
  expect '"'
  taking Piece.read?

/-- A string in which every code unit belongs to a character. -/
def string : Reader String := do
  match Piece.characters? (← pieces) with
  | some characters => return .ofList characters
  | none => throw .malformed

/-- Refuses the next value for its shape. It must be well written if it is not a list or an object. -/
def refuse : Reader Value := do
  match ← peek with
  | 'n' => word "null"
  | 't' => word "true"
  | 'f' => word "false"
  | '"' => let _ ← string
  | '[' | '{' => pure ()
  | _ =>
      let numeral ← taking Numeral.read?
      unless numeral.isFinite do throw .malformed
  throw .misshapen

def text : Reader String := do
  if (← peek) = '"' then string else refuse

def bool : Reader Bool := do
  match ← peek with
  | 't' =>
      word "true"
      return true
  | 'f' =>
      word "false"
      return false
  | _ => refuse

def optional (value : Reader Value) : Reader (Option Value) := do
  if (← peek) = 'n' then
    word "null"
    return none
  else
    return some (← value)

/-- Whether one more element comes before the closing bracket. The comma in front of the element, or the
bracket, is taken; no comma stands before the bracket. -/
def more (close : Char) (first : Bool) : Reader Bool := do
  let next ← peek
  if next = close then
    advance
    return false
  else if first then
    return true
  else
    expect ','
    if (← peek) = close then throw .malformed else return true

def itemsWithin (item : Reader Value) : Nat → Bool → Reader (List Value)
  | 0, _ => throw .malformed
  | bound + 1, first => do
      if ← more ']' first then
        let value ← item
        let others ← itemsWithin item bound false
        return value :: others
      else
        return []

/-- A list of values. Each takes a character of the text at least. -/
def list (item : Reader Value) : Reader (List Value) := do
  if (← peek) = '[' then
    advance
    itemsWithin item ((← get).length + 1) true
  else refuse

def membersWithin (member : String → Value → Reader Value) : Nat → Bool → Value → Reader Value
  | 0, _, _ => throw .malformed
  | bound + 1, first, value => do
      if ← more '}' first then
        let key ← string
        let after ← member key value
        membersWithin member bound false after
      else
        return value

def object (start : Value) (member : String → Value → Reader Value) : Reader Value := do
  if (← peek) = '{' then
    advance
    membersWithin member ((← get).length + 1) true start
  else refuse

mutual

def skipWithin : Nat → Reader Unit
  | 0 => throw .malformed
  | bound + 1 => do
      match ← peek with
      | 'n' => word "null"
      | 't' => word "true"
      | 'f' => word "false"
      | '"' => let _ ← pieces
      | '[' =>
          advance
          skipItems bound true
      | '{' =>
          advance
          skipMembers bound true
      | _ => let _ ← taking Numeral.read?

def skipItems : Nat → Bool → Reader Unit
  | 0, _ => throw .malformed
  | bound + 1, first => do
      if ← more ']' first then
        skipWithin bound
        skipItems bound false

def skipMembers : Nat → Bool → Reader Unit
  | 0, _ => throw .malformed
  | bound + 1, first => do
      if ← more '}' first then
        let _ ← pieces
        expect ':'
        skipWithin bound
        skipMembers bound false

end

/-- Passes over a value. Two steps go down a level, which has two brackets, and one step goes on to the
next element, which has a comma in front, so that the bound is not reached in a well-written text. -/
def skip : Reader Unit := do
  skipWithin ((← get).length + 1)

def memberValue (value : Reader Value) : Reader Value := do
  expect ':'
  value

/-- A member of a record: its name, how a record takes its value, and whether it may be left out of an
object or off the end of a list. -/
structure Member (Record : Type) where
  name : String
  take : Record → Reader Record
  omissible : Bool
  droppable : Bool

variable {Record : Type}

def recordItems : List (Member Record) → Bool → Record → Reader Record
  | [], _, record => do
      expect ']'
      return record
  | member :: rest, first, record => do
      if ← more ']' first then
        let after ← member.take record
        recordItems rest false after
      else if (member :: rest).all Member.droppable then return record
      else throw .misshapen

/-- One member of a record that is written as an object. A second member of the same name is refused
before its value is looked at, and members of unknown names are passed over. -/
def recordMember (members : List (Member Record)) (key : String) :
    Record × List String → Reader (Record × List String)
  | (record, seen) =>
      match members.find? fun member => member.name == key with
      | none => do
          memberValue skip
          return (record, seen)
      | some member =>
          if seen.contains key then throw .misshapen
          else do
            let after ← memberValue (member.take record)
            return (after, key :: seen)

def record (members : List (Member Record)) (start : Record) : Reader Record := do
  if (← peek) = '[' then
    advance
    recordItems members true start
  else
    let (record, seen) ← object (start, []) (recordMember members)
    if members.all fun member => member.omissible || seen.contains member.name then return record
    else throw .misshapen

def readAll (reader : Reader Value) (text : String) : Except Misfit Value := do
  let (value, rest) ← reader.run text.toList
  if (skipGaps rest).isEmpty then return value else throw .malformed

end Reader

end Rolebook.Json
