import Rolebook.Role

/-!
Roles and rules as a client writes them, with every scope, level and field still a text. Checking a
draft reads its scope, then its level, then the levels of all its fields, and builds the rule last; the
drafts of a role are checked in the order in which they are written.
-/

namespace Rolebook

structure FieldDraft where
  field : String
  level : String
  deriving DecidableEq

structure RuleDraft where
  scope : String
  level : String
  fields : List FieldDraft
  deriving DecidableEq

structure RoleDraft where
  name : String
  description : Option String
  isSuper : Bool
  rules : List RuleDraft
  deriving DecidableEq

def FieldDraft.check (draft : FieldDraft) : Except AccessError FieldRule := do
  let level ← Level.read draft.level
  return ⟨draft.field, level⟩

def RuleDraft.check (draft : RuleDraft) : Except AccessError Rule := do
  let scope ← Scope.read draft.scope
  let level ← Level.read draft.level
  let fields ← draft.fields.mapM FieldDraft.check
  Rule.build scope level fields

/-- The rule set of a list of drafts. Every draft is checked before a repeated scope is looked for. -/
def RuleDraft.checkAll (drafts : List RuleDraft) : Except AccessError RuleSet := do
  let rules ← drafts.mapM RuleDraft.check
  RuleSet.ofRules rules

/-- The role that a draft asks for. Its name is left as written. -/
def RoleDraft.check (draft : RoleDraft) : Except ServiceError NewRole := do
  let rules ← asService (RuleDraft.checkAll draft.rules)
  return ⟨draft.name, draft.description, draft.isSuper, rules⟩

/-- The draft that writes a rule: its fields in the order of their names. -/
def Rule.draft (rule : Rule) : RuleDraft :=
  ⟨rule.scope.name, rule.level.name,
    rule.fieldRules.map fun entry => ⟨entry.field, entry.level.name⟩⟩

def RuleSet.drafts (set : RuleSet) : List RuleDraft :=
  set.toList.map Rule.draft

end Rolebook
