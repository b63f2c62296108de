import Rolebook.Rule

/-!
The rules of one role, at most one for each scope and each filed under its own scope. Overlaying a set
with another takes the other's rule wherever it has one; the changed scopes of two sets are those where
they look up differently.
-/

namespace Rolebook

/-- At most one rule for each scope. -/
structure RuleSet where
  rules : OrderedMap Scope Rule
  filed : ∀ scope rule, rules.get? scope = some rule → rule.scope = scope
  deriving DecidableEq

namespace RuleSet

def empty : RuleSet :=
  ⟨.empty, by simp⟩

instance : Inhabited RuleSet :=
  ⟨empty⟩

def get? (set : RuleSet) (scope : Scope) : Option Rule :=
  set.rules.get? scope

def toList (set : RuleSet) : List Rule :=
  set.rules.values

def scopes (set : RuleSet) : List Scope :=
  set.rules.keys

def size (set : RuleSet) : Nat :=
  set.rules.size

def isEmpty (set : RuleSet) : Bool :=
  set.rules.isEmpty

def put (set : RuleSet) (rule : Rule) : RuleSet :=
  ⟨set.rules.insert rule.scope rule, by
    intro scope found located
    rw [OrderedMap.get?_insert] at located
    split at located
    · rename_i same
      have equal : scope = rule.scope := Std.LawfulEqCmp.compare_eq_iff_eq.mp same
      rw [equal, ← Option.some.inj located]
    · exact set.filed scope found located⟩

/-- The set with one more rule; its scope must not have one yet. -/
def add (set : RuleSet) (rule : Rule) : Except AccessError RuleSet :=
  if (set.get? rule.scope).isSome then .error (.repeatedScope rule.scope) else .ok (set.put rule)

/-- The set of the listed rules, or the first scope that occurs again. -/
def ofRules (rules : List Rule) : Except AccessError RuleSet :=
  rules.foldlM add empty

/-- This set with every rule of the other in place of its own. -/
def overlay (set overrides : RuleSet) : RuleSet :=
  overrides.toList.foldl put set

def changedScopes (before after : RuleSet) : List Scope :=
  Scope.all.filter fun scope => before.get? scope ≠ after.get? scope

@[simp]
theorem get?_empty (scope : Scope) : empty.get? scope = none :=
  rfl

@[simp]
theorem get?_put (set : RuleSet) (rule : Rule) (scope : Scope) :
    (set.put rule).get? scope = if scope = rule.scope then some rule else set.get? scope := by
  simp [get?, put]

theorem ext_get? {left right : RuleSet} (sameLookups : ∀ scope, left.get? scope = right.get? scope) :
    left = right := by
  have sameRules := OrderedMap.ext_get? sameLookups
  cases left
  cases right
  simp_all

end RuleSet

end Rolebook
