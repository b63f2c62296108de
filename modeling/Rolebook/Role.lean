import Rolebook.RuleSet

/-!
Roles. A role's name is never blank and has no blanks around it. A role value is a snapshot: other rules
give another value that agrees in all else.
-/

namespace Rolebook

/-- A named set of rules. The rules of a super role are kept for display only. -/
structure Role where
  id : RoleId
  name : String
  description : Option String
  isSuper : Bool
  rules : RuleSet
  trimmed : Text.trim name = name
  named : name ≠ ""
  deriving DecidableEq

def nonBlank (text : String) : Except ServiceError String :=
  if Text.blank text then .error .blankText else .ok text

namespace Role

def make (id : RoleId) (name : String) (description : Option String) (isSuper : Bool)
    (rules : RuleSet) : Except ServiceError Role :=
  if named : Text.trim name = "" then
    .error .blankText
  else
    .ok ⟨id, Text.trim name, description, isSuper, rules, Text.trim_trim name, named⟩

theorem make_eq_ok {id : RoleId} {name : String} {description : Option String} {isSuper : Bool}
    {rules : RuleSet} {role : Role} (made : make id name description isSuper rules = .ok role) :
    role.id = id ∧ role.name = Text.trim name := by
  unfold make at made
  split at made
  · cases made
  · cases made
    exact ⟨rfl, rfl⟩

theorem make_eq_error {id : RoleId} {name : String} {description : Option String} {isSuper : Bool}
    {rules : RuleSet} {error : ServiceError}
    (failed : make id name description isSuper rules = .error error) :
    Text.trim name = "" ∧ error = .blankText := by
  unfold make at failed
  split at failed
  · cases failed
    exact ⟨‹_›, rfl⟩
  · cases failed

def rule? (role : Role) (scope : Scope) : Option Rule :=
  role.rules.get? scope

/-- Whether a text names this role, up to blanks around it and the case of its letters. -/
def answersTo (role : Role) (name : String) : Bool :=
  Text.sameLetters role.name (Text.trim name)

def withRules (role : Role) (rules : RuleSet) : Role :=
  { role with rules }

@[simp]
theorem withRules_id (role : Role) (rules : RuleSet) : (role.withRules rules).id = role.id :=
  rfl

@[simp]
theorem withRules_rules (role : Role) (rules : RuleSet) : (role.withRules rules).rules = rules :=
  rfl

@[simp]
theorem withRules_withRules (role : Role) (first second : RuleSet) :
    (role.withRules first).withRules second = role.withRules second :=
  rfl

end Role

structure NewRole where
  name : String
  description : Option String
  isSuper : Bool
  rules : RuleSet
  deriving DecidableEq

namespace NewRole

def withId (role : NewRole) (id : RoleId) : Except ServiceError Role :=
  Role.make id role.name role.description role.isSuper role.rules

end NewRole

end Rolebook
