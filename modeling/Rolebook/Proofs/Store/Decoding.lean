import Rolebook.Proofs.Store.Writes
import Rolebook.Proofs.Submission.Grammar

/-!
Rows of any kind. Rows decode to a rule set just if all of them can be read, no scope has two rows, and
the field rows of a scope fit its row. The set then says what the rows say, one rule for each scope row,
and the order of the rows is of no account.
-/

namespace Rolebook

/-- The field rows that speak of the scope of a row. -/
def ScopeRow.fieldsIn (row : ScopeRow) (fieldRows : List FieldRow) : List FieldRow :=
  fieldRows.filter fun other => other.scope = row.scope

/-- A row of a scope makes a rule together with the field rows of the scope. -/
structure ScopeRow.Fits (row : ScopeRow) (fieldRows : List FieldRow) : Prop where
  scope : ∃ scope : Scope, scope.name = row.scope
  level : ∃ level : Level, level.NamedBy row.level
  declared : ∀ entry ∈ row.fieldsIn fieldRows, ∀ scope : Scope, scope.name = row.scope →
    entry.field ∈ scope.fields
  distinct : ((row.fieldsIn fieldRows).map FieldRow.field).Nodup
  narrower : ∀ entry ∈ row.fieldsIn fieldRows, ∀ level own : Level, level.NamedBy row.level →
    own.NamedBy entry.level → own ≤ level

/-- A rule says what a row and the field rows of its scope say, and nothing else. -/
structure ScopeRow.Describes (row : ScopeRow) (fieldRows : List FieldRow) (rule : Rule) : Prop where
  scope : rule.scope.name = row.scope
  level : rule.level.NamedBy row.level
  fields : ∀ field own, rule.fieldLevel? field = some own ↔
    ∃ entry ∈ row.fieldsIn fieldRows, entry.field = field ∧ own.NamedBy entry.level

/-- Rows that make a rule set. Field rows of a scope that has no row of its own only have to be legible. -/
structure RuleSet.Readable (scopeRows : List ScopeRow) (fieldRows : List FieldRow) : Prop where
  legible : ∀ row ∈ fieldRows,
    (∃ scope : Scope, scope.name = row.scope) ∧ ∃ level : Level, level.NamedBy row.level
  distinct : (scopeRows.map ScopeRow.scope).Nodup
  fits : ∀ row ∈ scopeRows, row.Fits fieldRows

/-- A rule set says what rows say: it has one rule for each scope row, and no others. -/
structure RuleSet.ReadOff (set : RuleSet) (scopeRows : List ScopeRow) (fieldRows : List FieldRow) : Prop where
  size : set.size = scopeRows.length
  rows : ∀ row ∈ scopeRows, ∃ rule ∈ set.toList, row.Describes fieldRows rule
  rules : ∀ rule ∈ set.toList, ∃ row ∈ scopeRows, row.Describes fieldRows rule

namespace ScopeRow

variable {row : ScopeRow} {fieldRows others : List FieldRow} {rule : Rule}

theorem Describes.unique {other : Rule} (describes : row.Describes fieldRows rule)
    (describesToo : row.Describes fieldRows other) : rule = other := by
  apply Rule.ext_fieldLevel?
  · exact Scope.name_injective (describes.scope.trans describesToo.scope.symm)
  · exact describes.level.unique describesToo.level
  · intro field
    refine Option.ext fun own => ?_
    rw [describes.fields, describesToo.fields]

theorem Fits.perm (fits : row.Fits fieldRows) (same : fieldRows.Perm others) : row.Fits others where
  scope := fits.scope
  level := fits.level
  declared entry isListed := fits.declared entry ((same.filter _).mem_iff.mpr isListed)
  distinct := ((same.filter _).map _).nodup_iff.mp fits.distinct
  narrower entry isListed := fits.narrower entry ((same.filter _).mem_iff.mpr isListed)

theorem Describes.perm (describes : row.Describes fieldRows rule) (same : fieldRows.Perm others) :
    row.Describes others rule where
  scope := describes.scope
  level := describes.level
  fields field own := by
    rw [describes.fields]
    simp only [fieldsIn, (same.filter _).mem_iff]

end ScopeRow

namespace RuleSet

variable {scopeRows otherScopes : List ScopeRow} {fieldRows otherFields : List FieldRow}

theorem Readable.perm (readable : Readable scopeRows fieldRows) (sameScopes : scopeRows.Perm otherScopes)
    (sameFields : fieldRows.Perm otherFields) : Readable otherScopes otherFields where
  legible row isListed := readable.legible row (sameFields.mem_iff.mpr isListed)
  distinct := (sameScopes.map _).nodup_iff.mp readable.distinct
  fits row isListed := (readable.fits row (sameScopes.mem_iff.mpr isListed)).perm sameFields

theorem ReadOff.perm {set : RuleSet} (readOff : set.ReadOff scopeRows fieldRows)
    (sameScopes : scopeRows.Perm otherScopes) (sameFields : fieldRows.Perm otherFields) :
    set.ReadOff otherScopes otherFields where
  size := readOff.size.trans sameScopes.length_eq
  rows row isListed := by
    obtain ⟨rule, isRule, describes⟩ := readOff.rows row (sameScopes.mem_iff.mpr isListed)
    exact ⟨rule, isRule, describes.perm sameFields⟩
  rules rule isRule := by
    obtain ⟨row, isListed, describes⟩ := readOff.rules rule isRule
    exact ⟨row, sameScopes.mem_iff.mp isListed, describes.perm sameFields⟩

theorem ReadOff.mem_iff {set : RuleSet} (readOff : set.ReadOff scopeRows fieldRows) {rule : Rule} :
    rule ∈ set.toList ↔ ∃ row ∈ scopeRows, row.Describes fieldRows rule := by
  constructor
  · exact readOff.rules rule
  · rintro ⟨row, isListed, describes⟩
    obtain ⟨found, isRule, describesToo⟩ := readOff.rows row isListed
    exact describes.unique describesToo ▸ isRule

theorem ReadOff.unique {set other : RuleSet} (readOff : set.ReadOff scopeRows fieldRows)
    (readOffToo : other.ReadOff scopeRows fieldRows) : set = other := by
  refine ext_get? fun scope => Option.ext fun rule => ?_
  have isRule_iff {of : RuleSet} : of.get? scope = some rule ↔ rule ∈ of.toList ∧ rule.scope = scope := by
    rw [mem_toList]
    constructor
    · intro located
      have isScope := of.filed scope rule located
      exact ⟨isScope ▸ located, isScope⟩
    · rintro ⟨located, rfl⟩
      exact located
  rw [isRule_iff, isRule_iff, readOff.mem_iff, readOffToo.mem_iff]

end RuleSet

theorem FieldRow.check_eq_ok_iff {row : FieldRow} {scope : Scope} {entry : FieldRule} :
    row.check = .ok (scope, entry) ↔
      scope.name = row.scope ∧ row.field = entry.field ∧ entry.level.NamedBy row.level := by
  rw [← Scope.read_eq_ok_iff, ← Level.parse?_eq_some_iff, ← Level.read_eq_ok_iff]
  unfold check
  obtain ⟨field, own⟩ := entry
  cases Scope.read row.scope with
  | error cause => simp [bind, Except.bind]
  | ok found => cases Level.read row.level <;> simp [bind, Except.bind, pure, Except.pure]

section Gathering

variable {fieldRows : List FieldRow} {said : List (Scope × FieldRule)}
  (areRead : fieldRows.mapM FieldRow.check = .ok said) {row : ScopeRow} {scope : Scope}
  (isScope : scope.name = row.scope)

include areRead isScope

/-- What was gathered for the scope of a row is what the field rows of that scope say. -/
theorem ScopeRow.mem_gathered {entry : FieldRule} :
    entry ∈ said.filterMap (FieldGroups.field? scope) ↔
      ∃ other ∈ row.fieldsIn fieldRows, other.field = entry.field ∧ entry.level.NamedBy other.level := by
  simp only [List.mem_filterMap, FieldGroups.field?_eq_some_iff, exists_eq_right, mem_of_mapM areRead,
    FieldRow.check_eq_ok_iff, fieldsIn, List.mem_filter, decide_eq_true_eq, isScope, and_assoc,
    eq_comm (a := row.scope)]

theorem ScopeRow.map_field_gathered :
    (said.filterMap (FieldGroups.field? scope)).map FieldRule.field =
      (row.fieldsIn fieldRows).map FieldRow.field := by
  rw [mapM_eq_ok_iff] at areRead
  induction fieldRows generalizing said with
  | nil =>
      obtain rfl : said = [] := by simpa using areRead
      rfl
  | cons head tail inductionHypothesis =>
      cases said with
      | nil => simp at areRead
      | cons first rest =>
          obtain ⟨isFirst, areRest⟩ := List.cons.inj areRead
          obtain ⟨isHeadScope, isField, _⟩ := FieldRow.check_eq_ok_iff.mp isFirst
          have sameScope : first.1 = scope ↔ head.scope = row.scope := by
            rw [← isHeadScope, ← isScope]
            exact ⟨fun same => by rw [same], Scope.name_injective⟩
          have isTail := inductionHypothesis areRest
          unfold fieldsIn at isTail ⊢
          by_cases isHere : head.scope = row.scope
          · simp [FieldGroups.field?, sameScope, isHere, isField, isTail]
          · simp [FieldGroups.field?, sameScope, isHere, isTail]

end Gathering

namespace ScopeRow

variable {row : ScopeRow} {fieldRows : List FieldRow} {said : List (Scope × FieldRule)}

theorem rule_eq_ok_iff {groups : FieldGroups} {rule : Rule} : row.rule groups = .ok rule ↔
    ∃ (scope : Scope) (level : Level), scope.name = row.scope ∧ level.NamedBy row.level ∧
      Rule.build scope level (groups.ofScope scope) = .ok rule := by
  simp only [← Scope.read_eq_ok_iff, ← Level.parse?_eq_some_iff, ← Level.read_eq_ok_iff]
  unfold ScopeRow.rule
  cases Scope.read row.scope with
  | error cause => simp [bind, Except.bind]
  | ok scope => cases Level.read row.level <;> simp [bind, Except.bind]

theorem describes_of_rule (areRead : fieldRows.mapM FieldRow.check = .ok said) {rule : Rule}
    (built : row.rule (said.foldl FieldGroups.put .empty) = .ok rule) : row.Describes fieldRows rule := by
  obtain ⟨scope, level, isScope, isLevel, built⟩ := rule_eq_ok_iff.mp built
  rw [FieldGroups.ofScope_foldl_put, FieldGroups.ofScope_empty, List.nil_append] at built
  obtain ⟨rfl, rfl, fields⟩ := Rule.build_eq_ok built
  refine ⟨isScope, isLevel, fun field own => ?_⟩
  rw [fields, mem_gathered areRead isScope]

theorem exists_rule_iff (areRead : fieldRows.mapM FieldRow.check = .ok said) :
    (∃ rule, row.rule (said.foldl FieldGroups.put .empty) = .ok rule) ↔ row.Fits fieldRows := by
  have isEntry {scope : Scope} (isScope : scope.name = row.scope) {other : FieldRow}
      (isListed : other ∈ row.fieldsIn fieldRows) {own : Level} (isOwn : own.NamedBy other.level) :
      ⟨other.field, own⟩ ∈ said.filterMap (FieldGroups.field? scope) :=
    (mem_gathered areRead isScope).mpr ⟨other, isListed, rfl, isOwn⟩
  simp only [rule_eq_ok_iff, FieldGroups.ofScope_foldl_put, FieldGroups.ofScope_empty, List.nil_append]
  constructor
  · rintro ⟨rule, scope, level, isScope, isLevel, built⟩
    obtain ⟨fits, distinct⟩ := Rule.exists_build_iff.mp ⟨rule, built⟩
    rw [map_field_gathered areRead isScope] at distinct
    refine ⟨⟨scope, isScope⟩, ⟨level, isLevel⟩, ?_, distinct, ?_⟩
    · intro other isListed otherScope isOtherScope
      obtain rfl := Scope.name_injective (isOtherScope.trans isScope.symm)
      obtain ⟨⟨_, entry⟩, passed⟩ := exists_of_mapM areRead (List.mem_filter.mp isListed).1
      obtain ⟨_, _, isOwn⟩ := FieldRow.check_eq_ok_iff.mp passed
      exact (fits _ (isEntry isScope isListed isOwn)).2
    · intro other isListed otherLevel own isOtherLevel isOwn
      obtain rfl := isOtherLevel.unique isLevel
      exact (fits _ (isEntry isScope isListed isOwn)).1
  · rintro ⟨⟨scope, isScope⟩, ⟨level, isLevel⟩, declared, distinct, narrower⟩
    have fits : ∀ entry ∈ said.filterMap (FieldGroups.field? scope),
        entry.level ≤ level ∧ entry.field ∈ scope.fields := by
      intro entry isGathered
      obtain ⟨other, isListed, sameField, isOwn⟩ := (mem_gathered areRead isScope).mp isGathered
      exact ⟨narrower other isListed level entry.level isLevel isOwn,
        sameField ▸ declared other isListed scope isScope⟩
    have distinctGathered : ((said.filterMap (FieldGroups.field? scope)).map FieldRule.field).Nodup := by
      rwa [map_field_gathered areRead isScope]
    obtain ⟨rule, built⟩ := Rule.exists_build_iff.mpr ⟨fits, distinctGathered⟩
    exact ⟨rule, scope, level, isScope, isLevel, built⟩

/-- Rules that were built have the scopes of their rows, whatever was used up on the way. -/
theorem map_scope_of_rules {rows : List ScopeRow} {groups : FieldGroups} {built : List Rule}
    (areBuilt : rules groups rows = .ok built) :
    rows.map ScopeRow.scope = (built.map Rule.scope).map Scope.name := by
  induction rows generalizing groups built with
  | nil =>
      obtain rfl := Except.ok.inj areBuilt
      rfl
  | cons row rest inductionHypothesis =>
      rw [rules] at areBuilt
      cases scopeRead : Scope.read row.scope with
      | error cause => simp [scopeRead, bind, Except.bind] at areBuilt
      | ok scope =>
          cases levelRead : Level.read row.level with
          | error cause => simp [scopeRead, levelRead, bind, Except.bind] at areBuilt
          | ok level =>
              cases isBuilt : Rule.build scope level (groups.ofScope scope) with
              | error cause => simp [scopeRead, levelRead, isBuilt, bind, Except.bind] at areBuilt
              | ok rule =>
                  cases areOthers : rules (groups.erase scope) rest with
                  | error cause =>
                      simp [scopeRead, levelRead, isBuilt, areOthers, bind, Except.bind] at areBuilt
                  | ok others =>
                      obtain rfl : rule :: others = built := by
                        simpa [scopeRead, levelRead, isBuilt, areOthers, bind, Except.bind, pure,
                          Except.pure] using areBuilt
                      rw [List.map_cons, List.map_cons, List.map_cons, inductionHypothesis areOthers,
                        (Rule.build_eq_ok isBuilt).1, Scope.read_eq_ok_iff.mp scopeRead]

end ScopeRow

namespace RuleSet

variable {scopeRows : List ScopeRow} {fieldRows : List FieldRow}

/-- Rows decode if each can be read, the rules of the scope rows can be built, and no scope occurs twice. -/
theorem ofRows?_eq_ok_iff {set : RuleSet} : ofRows? scopeRows fieldRows = .ok set ↔
    ∃ said rules, fieldRows.mapM FieldRow.check = .ok said ∧ (scopeRows.map ScopeRow.scope).Nodup ∧
      scopeRows.mapM (ScopeRow.rule (said.foldl FieldGroups.put .empty)) = .ok rules ∧
      ofRules rules = .ok set := by
  have gathered : fieldRows.foldlM FieldGroups.add .empty =
      (fieldRows.mapM FieldRow.check).map fun said => said.foldl FieldGroups.put .empty :=
    foldlM_eq_map_mapM FieldGroups.add_eq _
  unfold ofRows?
  rw [gathered]
  cases areRead : fieldRows.mapM FieldRow.check with
  | error cause => simp [Except.map, bind, Except.bind]
  | ok said =>
      simp only [Except.map, bind, Except.bind, Except.ok.injEq, exists_and_left, exists_eq_left']
      constructor
      · intro decoded
        cases areBuilt : ScopeRow.rules (said.foldl FieldGroups.put .empty) scopeRows with
        | error cause => simp [areBuilt] at decoded
        | ok rules =>
            have isSet : ofRules rules = .ok set := by simpa [areBuilt] using decoded
            have distinct : (scopeRows.map ScopeRow.scope).Nodup := by
              rw [ScopeRow.map_scope_of_rules areBuilt]
              exact (ofRules_eq_ok isSet).1.map fun _ _ => Scope.name_injective
            exact ⟨distinct, rules, ScopeRow.rules_eq_mapM distinct ▸ areBuilt, isSet⟩
      · rintro ⟨distinct, rules, areBuilt, isSet⟩
        rw [ScopeRow.rules_eq_mapM distinct, areBuilt]
        exact isSet

theorem readable_of_ofRows? {set : RuleSet} (decoded : ofRows? scopeRows fieldRows = .ok set) :
    Readable scopeRows fieldRows := by
  obtain ⟨said, rules, areRead, distinct, areBuilt, _⟩ := ofRows?_eq_ok_iff.mp decoded
  refine ⟨?_, distinct, ?_⟩
  · intro row isListed
    obtain ⟨⟨scope, entry⟩, passed⟩ := exists_of_mapM areRead isListed
    obtain ⟨isScope, _, isLevel⟩ := FieldRow.check_eq_ok_iff.mp passed
    exact ⟨⟨scope, isScope⟩, entry.level, isLevel⟩
  · intro row isListed
    exact (ScopeRow.exists_rule_iff areRead).mp (exists_of_mapM areBuilt isListed)

theorem toList_perm_of_ofRules {set : RuleSet} {rules : List Rule} (isSet : ofRules rules = .ok set) :
    set.toList.Perm rules := by
  obtain ⟨distinct, lookups⟩ := ofRules_eq_ok isSet
  refine (List.perm_ext_iff_of_nodup set.distinct_toList.of_map distinct.of_map).mpr fun rule => ?_
  rw [mem_toList, lookups, and_iff_left rfl]

theorem readOff_of_ofRows? {set : RuleSet} (decoded : ofRows? scopeRows fieldRows = .ok set) :
    set.ReadOff scopeRows fieldRows := by
  obtain ⟨said, rules, areRead, distinct, areBuilt, isSet⟩ := ofRows?_eq_ok_iff.mp decoded
  have sameRules := toList_perm_of_ofRules isSet
  refine ⟨?_, ?_, ?_⟩
  · calc set.size
      _ = set.toList.length := by simp [size, toList, OrderedMap.size, OrderedMap.values]
      _ = rules.length := sameRules.length_eq
      _ = scopeRows.length := by simpa using (congrArg List.length (mapM_eq_ok_iff.mp areBuilt)).symm
  · intro row isListed
    obtain ⟨rule, built⟩ := exists_of_mapM areBuilt isListed
    exact ⟨rule, sameRules.mem_iff.mpr ((mem_of_mapM areBuilt).mpr ⟨row, isListed, built⟩),
      ScopeRow.describes_of_rule areRead built⟩
  · intro rule isRule
    obtain ⟨row, isListed, built⟩ := (mem_of_mapM areBuilt).mp (sameRules.mem_iff.mp isRule)
    exact ⟨row, isListed, ScopeRow.describes_of_rule areRead built⟩

theorem Readable.exists_ofRows? (readable : Readable scopeRows fieldRows) :
    ∃ set, ofRows? scopeRows fieldRows = .ok set := by
  obtain ⟨said, areRead⟩ : ∃ said, fieldRows.mapM FieldRow.check = .ok said := by
    apply exists_mapM_of_forall
    intro row isListed
    obtain ⟨⟨scope, isScope⟩, level, isLevel⟩ := readable.legible row isListed
    exact ⟨(scope, ⟨row.field, level⟩), FieldRow.check_eq_ok_iff.mpr ⟨isScope, rfl, isLevel⟩⟩
  obtain ⟨rules, areBuilt⟩ := exists_mapM_of_forall fun row isListed =>
    (ScopeRow.exists_rule_iff areRead).mpr (readable.fits row isListed)
  have distinct : (rules.map Rule.scope).Nodup := by
    have sameScopes : scopeRows.map ScopeRow.scope = (rules.map Rule.scope).map Scope.name := by
      rw [List.map_map]
      exact map_eq_of_mapM areBuilt fun _ _ built => (ScopeRow.describes_of_rule areRead built).scope.symm
    exact (sameScopes ▸ readable.distinct).of_map
  obtain ⟨set, isSet, _⟩ := exists_ofRules distinct
  exact ⟨set, ofRows?_eq_ok_iff.mpr ⟨said, rules, areRead, readable.distinct, areBuilt, isSet⟩⟩

/-- In another order the rows decode to the same set. -/
theorem ofRows?_reorder {otherScopes : List ScopeRow} {otherFields : List FieldRow} {set : RuleSet}
    (sameScopes : scopeRows.Perm otherScopes) (sameFields : fieldRows.Perm otherFields)
    (decoded : ofRows? scopeRows fieldRows = .ok set) : ofRows? otherScopes otherFields = .ok set := by
  obtain ⟨found, isFound⟩ :=
    ((readable_of_ofRows? decoded).perm sameScopes sameFields).exists_ofRows?
  have isSet : found = set :=
    (readOff_of_ofRows? isFound).unique ((readOff_of_ofRows? decoded).perm sameScopes sameFields)
  rw [isFound, isSet]

theorem ofRows_eq_ok_iff {role : RoleId} {set : RuleSet} :
    ofRows role scopeRows fieldRows = .ok set ↔ ofRows? scopeRows fieldRows = .ok set := by
  unfold ofRows
  cases ofRows? scopeRows fieldRows <;> simp [Except.mapError]

/-- Rows decode exactly or not at all. -/
theorem decodes_exactly (role : RoleId) (scopeRows : List ScopeRow) (fieldRows : List FieldRow) :
    ((∃ set, ofRows role scopeRows fieldRows = .ok set) ↔ Readable scopeRows fieldRows) ∧
    (∀ set, ofRows role scopeRows fieldRows = .ok set → set.ReadOff scopeRows fieldRows) ∧
    (¬ Readable scopeRows fieldRows →
      ∃ error, ofRows role scopeRows fieldRows = .error error ∧ error.kind = .internal) ∧
    (∀ otherScopes otherFields, scopeRows.Perm otherScopes → fieldRows.Perm otherFields → ∀ set,
      ofRows role scopeRows fieldRows = .ok set ↔ ofRows role otherScopes otherFields = .ok set) ∧
    (∀ set : RuleSet, scopeRows.Perm ((set.inserts role).foldl Statement.effect .empty).scopes →
      fieldRows.Perm ((set.inserts role).foldl Statement.effect .empty).fields →
        ofRows role scopeRows fieldRows = .ok set) := by
  have decodes_iff : (∃ set, ofRows role scopeRows fieldRows = .ok set) ↔ Readable scopeRows fieldRows := by
    simp only [ofRows_eq_ok_iff]
    exact ⟨fun ⟨_, decoded⟩ => readable_of_ofRows? decoded, Readable.exists_ofRows?⟩
  refine ⟨decodes_iff, ?_, ?_, ?_, ?_⟩
  · intro set decoded
    exact readOff_of_ofRows? (ofRows_eq_ok_iff.mp decoded)
  · intro isUnreadable
    cases decoded : ofRows? scopeRows fieldRows with
    | ok set => exact absurd (readable_of_ofRows? decoded) isUnreadable
    | error cause => exact ⟨.corruptRule role cause, by rw [ofRows, decoded]; rfl, rfl⟩
  · intro otherScopes otherFields sameScopes sameFields set
    rw [ofRows_eq_ok_iff, ofRows_eq_ok_iff]
    exact ⟨ofRows?_reorder sameScopes sameFields, ofRows?_reorder sameScopes.symm sameFields.symm⟩
  · intro set sameScopes sameFields
    rw [foldl_effect_inserts] at sameScopes sameFields
    exact ofRows_eq_ok_iff.mpr (ofRows?_of_perm sameScopes sameFields)

end RuleSet

section Shelf

/-- Rows in no order, one of them of a field whose scope has no row. -/
def ScopeRow.shelf : List ScopeRow :=
  [⟨⟨⟨1⟩⟩, "RBAC_ADMIN", " full "⟩, ⟨⟨⟨1⟩⟩, "EMPLOYMENT_RECORDS", "Edit"⟩]

def FieldRow.shelf : List FieldRow :=
  [⟨⟨⟨1⟩⟩, "EMPLOYMENT_RECORDS", "status", "VIEW"⟩, ⟨⟨⟨1⟩⟩, "EMPLOYEE_RECORDS", "dob", "FULL"⟩,
    ⟨⟨⟨1⟩⟩, "EMPLOYMENT_RECORDS", "salary", "NONE"⟩]

def RuleSet.shelf : RuleSet :=
  (RuleSet.ofRows ⟨⟨1⟩⟩ ScopeRow.shelf FieldRow.shelf).toOption.get (by decide)

/-- With a scope row too many the same rows decode to nothing. -/
theorem RuleSet.decodes_exactly_shelf :
    shelf.ReadOff ScopeRow.shelf FieldRow.shelf ∧
    ofRows ⟨⟨1⟩⟩ ScopeRow.shelf.reverse FieldRow.shelf.reverse = .ok shelf ∧
    (∃ error, ofRows ⟨⟨1⟩⟩ (⟨⟨⟨1⟩⟩, "RBAC_ADMIN", "NONE"⟩ :: ScopeRow.shelf) FieldRow.shelf = .error error ∧
      error.kind = .internal) ∧
    ofRows ⟨⟨1⟩⟩ (shelf.scopeRows ⟨⟨1⟩⟩).reverse (shelf.fieldRows ⟨⟨1⟩⟩).reverse = .ok shelf := by
  have decoded : ofRows ⟨⟨1⟩⟩ ScopeRow.shelf FieldRow.shelf = .ok shelf := by rfl
  have isRepeated : ¬ Readable (⟨⟨⟨1⟩⟩, "RBAC_ADMIN", "NONE"⟩ :: ScopeRow.shelf) FieldRow.shelf :=
    fun readable => absurd readable.distinct (by decide)
  obtain ⟨-, readsOff, -, reorders, -⟩ := decodes_exactly ⟨⟨1⟩⟩ ScopeRow.shelf FieldRow.shelf
  obtain ⟨-, -, fails, -, -⟩ :=
    decodes_exactly ⟨⟨1⟩⟩ (⟨⟨⟨1⟩⟩, "RBAC_ADMIN", "NONE"⟩ :: ScopeRow.shelf) FieldRow.shelf
  obtain ⟨-, -, -, -, writesBack⟩ := decodes_exactly ⟨⟨1⟩⟩ (shelf.scopeRows ⟨⟨1⟩⟩).reverse
    (shelf.fieldRows ⟨⟨1⟩⟩).reverse
  refine ⟨readsOff shelf decoded, ?_, fails isRepeated, ?_⟩
  · exact (reorders _ _ (List.reverse_perm _).symm (List.reverse_perm _).symm shelf).mp decoded
  · apply writesBack shelf
    · rw [foldl_effect_inserts]
      exact List.reverse_perm _
    · rw [foldl_effect_inserts]
      exact List.reverse_perm _

end Shelf

end Rolebook
