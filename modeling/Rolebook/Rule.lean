import Rolebook.Error
import Rolebook.OrderedMap

/-!
The rule of one scope: a level for the scope and levels of their own for some of its fields. A field's
level may only narrow the level of the scope, the field is one that the scope declares, and no field
occurs twice; a rule that breaks any of this cannot be built.
-/

namespace Rolebook

structure FieldRule where
  field : String
  level : Level
  deriving DecidableEq

/-- A scope's level and the narrower levels of some of its fields. -/
structure Rule where
  scope : Scope
  level : Level
  fields : OrderedMap String Level
  declared : ∀ field own, fields.get? field = some own → scope.declares field = true
  narrower : ∀ field own, fields.get? field = some own → own ≤ level
  deriving DecidableEq

namespace Rule

def bare (scope : Scope) (level : Level) : Rule :=
  ⟨scope, level, .empty, by simp, by simp⟩

/-- The rule with a level for one more field. The level is compared first, then the field is looked up
among the declared ones, then among those that the rule already has. -/
def narrow (rule : Rule) (entry : FieldRule) : Except AccessError Rule :=
  if narrower : entry.level ≤ rule.level then
    if declared : rule.scope.declares entry.field then
      if rule.fields.contains entry.field then
        .error (.repeatedField rule.scope entry.field)
      else
        .ok ⟨rule.scope, rule.level, rule.fields.insert entry.field entry.level,
          by
            intro field own found
            rw [OrderedMap.get?_insert] at found
            split at found
            · rename_i same
              have equal : field = entry.field := Std.LawfulEqCmp.compare_eq_iff_eq.mp same
              exact equal ▸ declared
            · exact rule.declared field own found,
          by
            intro field own found
            rw [OrderedMap.get?_insert] at found
            split at found
            · rw [← Option.some.inj found]
              exact narrower
            · exact rule.narrower field own found⟩
    else
      .error (.unknownField rule.scope entry.field)
  else
    .error (.fieldAboveScope rule.scope entry.field entry.level rule.level)

def build (scope : Scope) (level : Level) (entries : List FieldRule) : Except AccessError Rule :=
  entries.foldlM narrow (bare scope level)

def fieldRules (rule : Rule) : List FieldRule :=
  rule.fields.entries.map fun entry => ⟨entry.1, entry.2⟩

def hasFields (rule : Rule) : Bool :=
  !rule.fields.isEmpty

def fieldLevel? (rule : Rule) (field : String) : Option Level :=
  rule.fields.get? field

/-- The fields whose own level does not reach what is required, in the order of their names. -/
def fieldsBelow (rule : Rule) (required : Level) : List String :=
  (rule.fields.entries.filter fun entry => !entry.2.satisfies required).map Prod.fst

end Rule

end Rolebook
