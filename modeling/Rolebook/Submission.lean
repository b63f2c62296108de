import Rolebook.RuleSet

/-!
Flat submissions: pairs of texts that spell out a rule set. An entry `<scope>.accessLevel` gives the
level of a scope and an entry `<scope>.field.<name>` the level of one of its fields; the entry `role`
names the role that is edited and says nothing about its rules. Entries are checked in the order of
their keys, and a scope that only has field entries has the lowest level.
-/

namespace Rolebook

abbrev Submission := OrderedMap String String

/-- What the key of an entry speaks of. -/
inductive RuleKey where
  | scopeLevel (scope : Scope)
  | fieldLevel (scope : Scope) (field : String)
  deriving DecidableEq

def roleKey : String :=
  "role"

def cutAtStop : List Char → List Char × Option (List Char)
  | [] => ([], none)
  | '.' :: rest => ([], some rest)
  | character :: rest =>
      let (before, after) := cutAtStop rest
      (character :: before, after)

def segments (key : String) : String × Option String × Option String :=
  let (first, more) := cutAtStop key.toList
  match more with
  | none => (String.ofList first, none, none)
  | some more =>
      let (second, last) := cutAtStop more
      (String.ofList first, some (String.ofList second), last.map String.ofList)

namespace RuleKey

/-- Reads the scope first; a key of neither shape is reported whole. -/
def read (key : String) : Except AccessError RuleKey := do
  let (token, aspect, field) := segments key
  let scope ← Scope.read token
  match aspect, field with
  | some "accessLevel", none => return .scopeLevel scope
  | some "field", some field =>
      if scope.declares field then return .fieldLevel scope field
      else throw (.unknownField scope field)
  | _, _ => throw (.unknownScope key)

def ofScope (scope : Scope) : String :=
  scope.name ++ ".accessLevel"

def ofField (scope : Scope) (field : String) : String :=
  scope.name ++ ".field." ++ field

end RuleKey

namespace Submission

/-- The levels gathered so far, for scopes and for the fields of each scope in the order of the keys. -/
structure Gathered where
  levels : OrderedMap Scope Level
  fields : OrderedMap Scope (List FieldRule)

namespace Gathered

def empty : Gathered :=
  ⟨.empty, .empty⟩

def fieldsOf (gathered : Gathered) (scope : Scope) : List FieldRule :=
  (gathered.fields.get? scope).getD []

def add (gathered : Gathered) (entry : String × String) : Except AccessError Gathered := do
  match ← RuleKey.read entry.1 with
  | .scopeLevel scope =>
      let level ← Level.read entry.2
      return { gathered with levels := gathered.levels.insert scope level }
  | .fieldLevel scope field =>
      let level ← Level.read entry.2
      return { gathered with
        fields := gathered.fields.insert scope (gathered.fieldsOf scope ++ [⟨field, level⟩]) }

def scopes (gathered : Gathered) : List Scope :=
  Scope.all.filter fun scope => gathered.levels.contains scope || gathered.fields.contains scope

def rule (gathered : Gathered) (scope : Scope) : Except AccessError Rule :=
  Rule.build scope ((gathered.levels.get? scope).getD .nothing) (gathered.fieldsOf scope)

end Gathered

def ruleEntries (submission : Submission) : List (String × String) :=
  submission.entries.filter fun entry => entry.1 ≠ roleKey

def ruleSet (submission : Submission) : Except AccessError RuleSet := do
  let gathered ← submission.ruleEntries.foldlM Gathered.add .empty
  let rules ← gathered.scopes.mapM gathered.rule
  RuleSet.ofRules rules

/-- The role that the submission selects, by an identifier with blanks around it or none. -/
def selectedRole (submission : Submission) : Except ServiceError RoleId :=
  match ((submission.get? roleKey).map Text.trim).filter (· ≠ "") with
  | none => .error .roleEntryMissing
  | some text =>
      match RoleId.parse? text with
      | some role => .ok role
      | none => .error (.invalidRoleId text)

end Submission

end Rolebook
