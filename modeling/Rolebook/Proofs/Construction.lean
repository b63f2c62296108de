import Mathlib.Data.List.Nodup
import Rolebook.Proofs.Rule
import Rolebook.Proofs.RuleSet

/-!
Construction. Rules and rule sets are only ever built from lists. A list of field levels makes a rule, and a
list of rules a set, exactly if nothing in it is at fault; what is built has what is in the list and nothing
else, in whatever order it was listed. A list with faults is refused for the first of them.
-/

namespace Rolebook

namespace Rule

variable {scope : Scope} {level : Level} {entries : List FieldRule}

/-- The levels are for declared fields of the scope, one for each field, and none is above the scope's. -/
structure Admits (scope : Scope) (level : Level) (entries : List FieldRule) : Prop where
  declared : ∀ entry ∈ entries, entry.field ∈ scope.fields
  narrower : ∀ entry ∈ entries, entry.level ≤ level
  distinct : (entries.map FieldRule.field).Nodup

/-- The rule of the scope at the level whose fields have the listed levels and no others. -/
structure Overrides (rule : Rule) (scope : Scope) (level : Level) (entries : List FieldRule) : Prop where
  scope : rule.scope = scope
  level : rule.level = level
  fields : ∀ field own, rule.fieldLevel? field = some own ↔ ⟨field, own⟩ ∈ entries

/-- What is wrong with a field's level that follows on others. Its height is looked at first, then whether
the field is declared, and only then whether it has come before. -/
inductive EntryFault (scope : Scope) (level : Level) (before : List FieldRule) (entry : FieldRule) :
    AccessError → Prop where
  | above (isAbove : ¬ entry.level ≤ level) :
      EntryFault scope level before entry (.fieldAboveScope scope entry.field entry.level level)
  | unknown (narrower : entry.level ≤ level) (isUnknown : entry.field ∉ scope.fields) :
      EntryFault scope level before entry (.unknownField scope entry.field)
  | repeated (narrower : entry.level ≤ level) (declared : entry.field ∈ scope.fields)
      (isRepeated : entry.field ∈ before.map FieldRule.field) :
      EntryFault scope level before entry (.repeatedField scope entry.field)

theorem Overrides.unique {left right : Rule} (first : left.Overrides scope level entries)
    (second : right.Overrides scope level entries) : left = right := by
  refine ext_fieldLevel? (first.scope.trans second.scope.symm) (first.level.trans second.level.symm) ?_
  intro field
  exact Option.ext fun own => (first.fields field own).trans (second.fields field own).symm

theorem Overrides.perm {rule : Rule} {others : List FieldRule} (overrides : rule.Overrides scope level entries)
    (reordered : entries.Perm others) : rule.Overrides scope level others :=
  ⟨overrides.scope, overrides.level, fun field own => (overrides.fields field own).trans reordered.mem_iff⟩

theorem Admits.perm {others : List FieldRule} (admits : Admits scope level entries)
    (reordered : entries.Perm others) : Admits scope level others where
  declared entry isListed := admits.declared entry (reordered.mem_iff.mpr isListed)
  narrower entry isListed := admits.narrower entry (reordered.mem_iff.mpr isListed)
  distinct := (reordered.map FieldRule.field).nodup_iff.mp admits.distinct

theorem exists_build_iff_admits :
    (∃ rule, build scope level entries = .ok rule) ↔ Admits scope level entries := by
  rw [exists_build_iff]
  constructor
  · rintro ⟨fits, distinct⟩
    exact ⟨fun entry isListed => (fits entry isListed).2, fun entry isListed => (fits entry isListed).1,
      distinct⟩
  · intro admits
    exact ⟨fun entry isListed => ⟨admits.narrower entry isListed, admits.declared entry isListed⟩,
      admits.distinct⟩

theorem build_eq_ok_iff {rule : Rule} :
    build scope level entries = .ok rule ↔ Admits scope level entries ∧ rule.Overrides scope level entries := by
  have overrides : ∀ {found : Rule}, build scope level entries = .ok found →
      found.Overrides scope level entries := by
    intro found built
    obtain ⟨sameScope, sameLevel, fields⟩ := build_eq_ok built
    exact ⟨sameScope, sameLevel, fields⟩
  constructor
  · intro built
    exact ⟨exists_build_iff_admits.mp ⟨rule, built⟩, overrides built⟩
  · rintro ⟨admits, isRule⟩
    obtain ⟨found, built⟩ := exists_build_iff_admits.mpr admits
    rw [built, (overrides built).unique isRule]

/-- Whether a field has come before is whether the rule has a level for it by now. -/
theorem failsBy_narrow (scope : Scope) (level : Level) :
    FailsBy narrow (bare scope level) (EntryFault scope level) := by
  intro before reached entry error built
  obtain ⟨sameScope, sameLevel, fields⟩ := build_eq_ok built
  have isRepeated : reached.fields.contains entry.field = true ↔ entry.field ∈ before.map FieldRule.field := by
    rw [OrderedMap.contains, Option.isSome_iff_exists, List.mem_map]
    constructor
    · rintro ⟨own, isField⟩
      exact ⟨⟨entry.field, own⟩, (fields _ _).mp isField, rfl⟩
    · rintro ⟨other, isListed, sameField⟩
      exact ⟨other.level, (fields _ _).mpr (sameField ▸ isListed)⟩
  simp only [narrow, sameScope, sameLevel, Scope.declares_iff]
  split
  · rename_i narrower
    split
    · rename_i declared
      split
      · rename_i isOld
        constructor
        · rintro ⟨⟩
          exact .repeated narrower declared (isRepeated.mp isOld)
        · rintro (isAbove | ⟨_, isUnknown⟩ | _)
          · exact absurd narrower isAbove
          · exact absurd declared isUnknown
          · rfl
      · rename_i isNew
        constructor
        · rintro ⟨⟩
        · rintro (isAbove | ⟨_, isUnknown⟩ | ⟨_, _, isOld⟩)
          · exact absurd narrower isAbove
          · exact absurd declared isUnknown
          · exact absurd (isRepeated.mpr isOld) isNew
    · rename_i isUnknown
      constructor
      · rintro ⟨⟩
        exact .unknown narrower isUnknown
      · rintro (isAbove | _ | ⟨_, declared, _⟩)
        · exact absurd narrower isAbove
        · rfl
        · exact absurd declared isUnknown
  · rename_i isAbove
    constructor
    · rintro ⟨⟩
      exact .above isAbove
    · rintro (_ | ⟨narrower, _⟩ | ⟨narrower, _, _⟩)
      · rfl
      · exact absurd narrower isAbove
      · exact absurd narrower isAbove

end Rule

namespace RuleSet

variable {rules : List Rule}

inductive ScopeFault (before : List Rule) (rule : Rule) : AccessError → Prop where
  | repeated (isRepeated : rule.scope ∈ before.map Rule.scope) :
      ScopeFault before rule (.repeatedScope rule.scope)

theorem exists_ofRules_iff : (∃ set, ofRules rules = .ok set) ↔ (rules.map Rule.scope).Nodup := by
  constructor
  · rintro ⟨set, isSet⟩
    exact (ofRules_eq_ok isSet).1
  · intro distinct
    obtain ⟨set, isSet, _⟩ := exists_ofRules distinct
    exact ⟨set, isSet⟩

theorem ofRules_eq_ok_iff {set : RuleSet} :
    ofRules rules = .ok set ↔ (rules.map Rule.scope).Nodup ∧ ∀ rule, rule ∈ set.toList ↔ rule ∈ rules := by
  constructor
  · intro isSet
    obtain ⟨distinct, lookups⟩ := ofRules_eq_ok isSet
    refine ⟨distinct, fun rule => ?_⟩
    rw [mem_toList, lookups]
    simp
  · rintro ⟨distinct, sameRules⟩
    refine ofRules_of_perm ?_
    rw [List.perm_ext_iff_of_nodup (.of_map Rule.scope distinct) (.of_map Rule.scope set.distinct_toList)]
    exact fun rule => (sameRules rule).symm

theorem failsBy_add : FailsBy add empty ScopeFault := by
  intro before reached rule error isSet
  obtain ⟨_, lookups⟩ := ofRules_eq_ok isSet
  have isRepeated : (reached.get? rule.scope).isSome = true ↔ rule.scope ∈ before.map Rule.scope := by
    rw [Option.isSome_iff_exists, List.mem_map]
    exact exists_congr fun other => lookups rule.scope other
  unfold add
  split
  · rename_i isOld
    constructor
    · rintro ⟨⟩
      exact .repeated (isRepeated.mp isOld)
    · rintro ⟨_⟩
      rfl
  · rename_i isNew
    refine ⟨fun failed => (nomatch failed), ?_⟩
    rintro ⟨isOld⟩
    exact absurd (isRepeated.mpr isOld) isNew

end RuleSet

/-- Lists of field levels make rules, and lists of rules make sets, just if nothing in them is at fault. What
is made is what is listed, and what is refused is refused for the first fault. -/
theorem builds_what_is_listed :
    (∀ (scope : Scope) (level : Level) (entries : List FieldRule),
      ((∃ rule, Rule.build scope level entries = .ok rule) ↔ Rule.Admits scope level entries) ∧
      (∀ rule, Rule.build scope level entries = .ok rule ↔
        Rule.Admits scope level entries ∧ rule.Overrides scope level entries) ∧
      (∀ others, entries.Perm others → ∀ rule,
        (Rule.build scope level entries = .ok rule ↔ Rule.build scope level others = .ok rule)) ∧
      ∀ error, Rule.build scope level entries = .error error ↔
        FirstFault entries (Rule.EntryFault scope level) error) ∧
    ∀ rules : List Rule,
      ((∃ set, RuleSet.ofRules rules = .ok set) ↔ (rules.map Rule.scope).Nodup) ∧
      (∀ set, RuleSet.ofRules rules = .ok set ↔
        (rules.map Rule.scope).Nodup ∧ ∀ rule, rule ∈ set.toList ↔ rule ∈ rules) ∧
      ∀ error, RuleSet.ofRules rules = .error error ↔ FirstFault rules RuleSet.ScopeFault error := by
  constructor
  · intro scope level entries
    refine ⟨Rule.exists_build_iff_admits, fun rule => Rule.build_eq_ok_iff, ?_,
      fun error => (Rule.failsBy_narrow scope level).foldlM_eq_error_iff⟩
    intro others reordered rule
    rw [Rule.build_eq_ok_iff, Rule.build_eq_ok_iff]
    constructor
    · rintro ⟨admits, overrides⟩
      exact ⟨admits.perm reordered, overrides.perm reordered⟩
    · rintro ⟨admits, overrides⟩
      exact ⟨admits.perm reordered.symm, overrides.perm reordered.symm⟩
  · intro rules
    exact ⟨RuleSet.exists_ofRules_iff, fun set => RuleSet.ofRules_eq_ok_iff,
      fun error => RuleSet.failsBy_add.foldlM_eq_error_iff⟩

/-- Two levels in either order, and a list whose first fault is a level that is too high for a field that
has come before. -/
theorem builds_what_is_listed_payroll :
    let status : FieldRule := ⟨"status", .view⟩
    let salary : FieldRule := ⟨"salary", .nothing⟩
    (∃ rule, Rule.build .employmentRecords .edit [status, salary] = .ok rule ∧
      Rule.build .employmentRecords .edit [salary, status] = .ok rule) ∧
    Rule.build .employmentRecords .edit [status, ⟨"status", .full⟩, ⟨"wage", .view⟩] =
      .error (.fieldAboveScope .employmentRecords "status" .full .edit) := by
  intro status salary
  obtain ⟨accepts, -, reorders, -⟩ := builds_what_is_listed.1 .employmentRecords .edit [status, salary]
  obtain ⟨-, -, -, refuses⟩ :=
    builds_what_is_listed.1 .employmentRecords .edit [status, ⟨"status", .full⟩, ⟨"wage", .view⟩]
  constructor
  · obtain ⟨rule, built⟩ := accepts.mpr ⟨by decide, by decide, by decide⟩
    exact ⟨rule, built, (reorders _ (.swap salary status []) rule).mp built⟩
  · refine (refuses _).mpr ⟨[status], ⟨"status", .full⟩, [⟨"wage", .view⟩], rfl, ?_, .above (by decide)⟩
    intro cause
    rw [faultIn_cons]
    rintro ((isAbove | ⟨_, isUnknown⟩ | ⟨_, _, isRepeated⟩) | isFault)
    · exact isAbove (by decide)
    · exact isUnknown (by decide)
    · exact absurd isRepeated (by decide)
    · exact faultIn_nil isFault

end Rolebook
