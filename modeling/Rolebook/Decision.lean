import Rolebook.Role

/-!
Decisions: whether access is allowed, the level that the role holds for the scope, and the fields that
stay below the required level. A role decides by its own rules; a super role is allowed everything.
-/

namespace Rolebook

/-- The outcome of one access check. `restricted` lists the fields to leave out, in the order of their
names, and is never an empty list. -/
structure Decision where
  allowed : Bool
  level : Level
  restricted : Option (List String)
  deriving DecidableEq

namespace Decision

def sortNames (names : List String) : List String :=
  (OrderedMap.ofList (names.map fun name => (name, ()))).keys

def allow (level : Level) (fields : List String) : Decision :=
  ⟨true, level, if fields.isEmpty then none else some (sortNames fields)⟩

def allowFull : Decision :=
  ⟨true, .full, none⟩

def deny (level : Level) : Decision :=
  ⟨false, level, none⟩

def restricts (decision : Decision) (field : String) : Bool :=
  match decision.restricted with
  | some fields => fields.contains field
  | none => false

end Decision

def Role.decide (role : Role) (scope : Scope) (required : Level) : Decision :=
  if role.isSuper then .allowFull
  else
    match role.rule? scope with
    | none => .deny .nothing
    | some rule =>
        if rule.level.satisfies required then .allow rule.level (rule.fieldsBelow required)
        else .deny rule.level

end Rolebook
