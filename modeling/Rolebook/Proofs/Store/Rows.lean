import Mathlib.Data.List.Nodup
import Rolebook.Proofs.Rule
import Rolebook.Proofs.RuleSet
import Rolebook.Store.Rows

/-!
Rows read back. What the field rows say is gathered by scope, and each scope row builds its rule of what
was gathered for its scope. The rows that a rule set is written in make up the same set again, in whatever
order they come.
-/

namespace Rolebook

def FieldRow.check (row : FieldRow) : Except AccessError (Scope × FieldRule) := do
  let scope ← Scope.read row.scope
  let level ← Level.read row.level
  return (scope, ⟨row.field, level⟩)

namespace FieldGroups

def put (groups : FieldGroups) (said : Scope × FieldRule) : FieldGroups :=
  groups.insert said.1 (groups.ofScope said.1 ++ [said.2])

theorem add_eq (groups : FieldGroups) (row : FieldRow) : groups.add row = row.check.map groups.put := by
  unfold add FieldRow.check
  cases Scope.read row.scope with
  | error cause => rfl
  | ok scope => cases Level.read row.level <;> rfl

def field? (scope : Scope) (said : Scope × FieldRule) : Option FieldRule :=
  if said.1 = scope then some said.2 else none

theorem field?_eq_some_iff {scope : Scope} {said : Scope × FieldRule} {entry : FieldRule} :
    field? scope said = some entry ↔ said = (scope, entry) := by
  simp [field?, Prod.ext_iff]

@[simp]
theorem ofScope_empty (scope : Scope) : ofScope .empty scope = [] :=
  rfl

theorem ofScope_put (groups : FieldGroups) (said : Scope × FieldRule) (scope : Scope) :
    (groups.put said).ofScope scope = groups.ofScope scope ++ (field? scope said).toList := by
  unfold put ofScope field?
  by_cases same : said.1 = scope
  · simp [same]
  · have different : scope ≠ said.1 := fun equal => same equal.symm
    simp [same, different]

theorem ofScope_erase (groups : FieldGroups) {erased scope : Scope} (different : scope ≠ erased) :
    ofScope (groups.erase erased) scope = groups.ofScope scope := by
  simp [ofScope, different]

theorem ofScope_foldl_put (said : List (Scope × FieldRule)) (start : FieldGroups) (scope : Scope) :
    (said.foldl put start).ofScope scope = start.ofScope scope ++ said.filterMap (field? scope) := by
  induction said generalizing start with
  | nil => simp
  | cons head tail inductionHypothesis =>
      rw [List.foldl_cons, inductionHypothesis, ofScope_put, List.append_assoc]
      cases isField : field? scope head <;> simp [isField]

end FieldGroups

namespace ScopeRow

def rule (groups : FieldGroups) (row : ScopeRow) : Except AccessError Rule := do
  let scope ← Scope.read row.scope
  let level ← Level.read row.level
  Rule.build scope level (groups.ofScope scope)

theorem rule_erase (groups : FieldGroups) {erased : Scope} {row : ScopeRow}
    (different : row.scope ≠ erased.name) : row.rule (groups.erase erased) = row.rule groups := by
  unfold rule
  cases isScope : Scope.read row.scope with
  | error cause => simp only [bind, Except.bind]
  | ok scope =>
      have isName : scope.name = row.scope := Scope.read_eq_ok_iff.mp isScope
      have isOther : scope ≠ erased := fun same => different (isName.symm.trans (by rw [same]))
      simp only [bind, Except.bind, FieldGroups.ofScope_erase groups isOther]

/-- As long as no scope occurs again, no row misses the fields that another one used up. -/
theorem rules_eq_mapM {groups : FieldGroups} {rows : List ScopeRow}
    (distinct : (rows.map ScopeRow.scope).Nodup) : rules groups rows = rows.mapM (rule groups) := by
  induction rows generalizing groups with
  | nil => rfl
  | cons row rest inductionHypothesis =>
      rw [List.map_cons, List.nodup_cons] at distinct
      rw [rules, List.mapM_cons, rule]
      cases isScope : Scope.read row.scope with
      | error cause => rfl
      | ok scope =>
          have isName : scope.name = row.scope := Scope.read_eq_ok_iff.mp isScope
          have kept : rest.mapM (rule (groups.erase scope)) = rest.mapM (rule groups) := by
            apply mapM_congr
            intro other isListed
            apply rule_erase
            intro sameScope
            apply distinct.1
            rw [← isName, ← sameScope]
            exact List.mem_map_of_mem isListed
          cases isLevel : Level.read row.level with
          | error cause => rfl
          | ok level =>
              simp only [bind, Except.bind, inductionHypothesis distinct.2, kept]

end ScopeRow

namespace RuleSet

def fieldLevels (set : RuleSet) : List (Scope × FieldRule) :=
  set.toList.flatMap fun rule => rule.fieldRules.map fun entry => (rule.scope, entry)

theorem mem_fieldLevels {set : RuleSet} {rule : Rule} (isRule : rule ∈ set.toList) {entry : FieldRule} :
    (rule.scope, entry) ∈ set.fieldLevels ↔ rule.fieldLevel? entry.field = some entry.level := by
  rw [← Rule.mem_fieldRules, fieldLevels, List.mem_flatMap]
  constructor
  · rintro ⟨other, isOther, isEntry⟩
    obtain ⟨found, isField, same⟩ := List.mem_map.mp isEntry
    obtain ⟨sameScope, rfl⟩ := Prod.mk.inj same
    have isSame : other = rule := by
      have isFound := mem_toList.mp isOther
      rw [sameScope, mem_toList.mp isRule] at isFound
      exact (Option.some.inj isFound).symm
    exact isSame ▸ isField
  · intro isField
    exact ⟨rule, isRule, List.mem_map_of_mem isField⟩

theorem distinct_fieldLevels (set : RuleSet) :
    (set.fieldLevels.map fun said => (said.1, said.2.field)).Nodup := by
  rw [fieldLevels, List.map_flatMap, List.nodup_flatMap]
  constructor
  · intro rule _
    rw [List.map_map]
    refine (List.pairwise_map.mp rule.distinct_fieldRules).map _ ?_
    intro left right isOther same
    exact isOther (Prod.mk.inj same).2
  · refine (List.pairwise_map.mp set.distinct_toList).imp ?_
    intro left right isOther key isLeft isRight
    simp only [List.map_map, List.mem_map] at isLeft isRight
    obtain ⟨_, _, rfl⟩ := isLeft
    obtain ⟨_, _, same⟩ := isRight
    exact isOther (Prod.mk.inj same).1.symm

theorem mapM_check_fieldRows (set : RuleSet) (role : RoleId) :
    (set.fieldRows role).mapM FieldRow.check = .ok set.fieldLevels := by
  have isRead (scope : Scope) (entry : FieldRule) :
      FieldRow.check ⟨role, scope.name, entry.field, entry.level.name⟩ = .ok (scope, entry) := by
    simp [FieldRow.check, bind, Except.bind, pure, Except.pure]
  rw [mapM_eq_ok_iff, fieldRows, fieldLevels, List.map_flatMap, List.map_flatMap]
  simp [Rule.fieldRows, Function.comp_def, isRead]

theorem distinct_scopeRows (set : RuleSet) (role : RoleId) :
    ((set.scopeRows role).map ScopeRow.scope).Nodup := by
  rw [scopeRows, List.map_map]
  refine (List.pairwise_map.mp set.distinct_toList).map _ ?_
  intro left right isOther sameName
  exact isOther (Scope.name_injective sameName)

section Gathering

variable {set : RuleSet} {said : List (Scope × FieldRule)} (sameSaid : said.Perm set.fieldLevels)

include sameSaid

theorem build_of_said {rule : Rule} (isListed : rule ∈ set.toList) :
    Rule.build rule.scope rule.level (said.filterMap (FieldGroups.field? rule.scope)) = .ok rule := by
  apply Rule.build_eq_ok_of_mem
  · intro entry
    rw [List.mem_filterMap]
    simp only [FieldGroups.field?_eq_some_iff, exists_eq_right, sameSaid.mem_iff]
    exact mem_fieldLevels isListed
  · have distinct : (said.map fun said => (said.1, said.2.field)).Nodup :=
      (sameSaid.map _).nodup_iff.mpr set.distinct_fieldLevels
    refine List.pairwise_map.mpr ((List.pairwise_map.mp distinct).filterMap _ ?_)
    intro first second isOther left isLeft right isRight sameField
    rw [FieldGroups.field?_eq_some_iff.mp isLeft, FieldGroups.field?_eq_some_iff.mp isRight] at isOther
    exact isOther (by rw [sameField])

theorem mapM_rule_scopeRows (role : RoleId) :
    (set.scopeRows role).mapM (ScopeRow.rule (said.foldl FieldGroups.put .empty)) =
      .ok set.toList := by
  rw [mapM_eq_ok_iff, scopeRows, List.map_map]
  apply List.map_congr_left
  intro rule isListed
  have isBuilt := build_of_said sameSaid isListed
  simp [ScopeRow.rule, Rule.scopeRow, FieldGroups.ofScope_foldl_put, isBuilt, bind, Except.bind]

end Gathering

theorem ofRows?_of_perm {set : RuleSet} {role : RoleId} {scopes : List ScopeRow} {fields : List FieldRow}
    (sameScopes : scopes.Perm (set.scopeRows role)) (sameFields : fields.Perm (set.fieldRows role)) :
    ofRows? scopes fields = .ok set := by
  obtain ⟨said, isSaid, sameSaid⟩ := mapM_of_perm sameFields (set.mapM_check_fieldRows role)
  have gathered : fields.foldlM FieldGroups.add .empty = .ok (said.foldl FieldGroups.put .empty) := by
    rw [foldlM_eq_map_mapM FieldGroups.add_eq, isSaid]
    rfl
  have distinct : (scopes.map ScopeRow.scope).Nodup :=
    (sameScopes.map _).nodup_iff.mpr (set.distinct_scopeRows role)
  obtain ⟨rules, areBuilt, sameRules⟩ := mapM_of_perm sameScopes (mapM_rule_scopeRows sameSaid role)
  simp [ofRows?, gathered, ScopeRow.rules_eq_mapM distinct, areBuilt, ofRules_of_perm sameRules, bind,
    Except.bind]

end RuleSet

theorem Role.read_row {role : Role} {scopes : List ScopeRow} {fields : List FieldRow}
    (sameScopes : scopes.Perm (role.rules.scopeRows role.id))
    (sameFields : fields.Perm (role.rules.fieldRows role.id)) :
    role.row.read scopes fields = .ok role := by
  have isRead : RuleSet.ofRows role.row.id scopes fields = .ok role.rules := by
    rw [RuleSet.ofRows, RuleSet.ofRows?_of_perm sameScopes sameFields]
    rfl
  have isMade : role.row.toRole role.rules = .ok role := by
    simp [RoleRow.toRole, Role.row, Role.make, role.trimmed, role.named]
  simp only [RoleRow.read, isRead, isMade, bind, Except.bind]

end Rolebook
