import Mathlib.Data.List.Nodup
import Rolebook.Draft
import Rolebook.Proofs.Rule
import Rolebook.Proofs.RuleSet
import Rolebook.Proofs.Submission.Grammar

/-!
Drafts and what they describe. A draft passes if it describes a rule: its texts name the rule's scope and
levels, and no field is written twice. Drafts of distinct scopes describe a rule set together, which has
their rules and no others.
-/

namespace Rolebook

theorem FieldDraft.check_eq_ok_iff {draft : FieldDraft} {entry : FieldRule} :
    draft.check = .ok entry ↔ draft.field = entry.field ∧ entry.level.NamedBy draft.level := by
  rw [← Level.parse?_eq_some_iff, ← Level.read_eq_ok_iff]
  unfold check
  obtain ⟨field, own⟩ := entry
  cases Level.read draft.level <;> simp [bind, Except.bind, pure, Except.pure]

namespace RuleDraft

/-- The draft is that of a rule. -/
structure Describes (draft : RuleDraft) (rule : Rule) : Prop where
  scope : rule.scope.name = draft.scope
  level : rule.level.NamedBy draft.level
  legible : ∀ entry ∈ draft.fields, ∃ own : Level, own.NamedBy entry.level
  distinct : (draft.fields.map FieldDraft.field).Nodup
  fields : ∀ field own, rule.fieldLevel? field = some own ↔
    ∃ entry ∈ draft.fields, entry.field = field ∧ own.NamedBy entry.level

theorem describes_of_check {draft : RuleDraft} {rule : Rule} (checked : draft.check = .ok rule) :
    draft.Describes rule := by
  unfold check at checked
  cases isScope : Scope.read draft.scope with
  | error cause => simp [isScope, bind, Except.bind] at checked
  | ok scope =>
      cases isLevel : Level.read draft.level with
      | error cause => simp [isScope, isLevel, bind, Except.bind] at checked
      | ok level =>
          cases areRead : draft.fields.mapM FieldDraft.check with
          | error cause => simp [isScope, isLevel, areRead, bind, Except.bind] at checked
          | ok entries =>
              have built : Rule.build scope level entries = .ok rule := by
                simpa [isScope, isLevel, areRead, bind, Except.bind] using checked
              obtain ⟨rfl, rfl, fields⟩ := Rule.build_eq_ok built
              have sameFields : draft.fields.map FieldDraft.field = entries.map FieldRule.field :=
                map_eq_of_mapM areRead fun _ _ passed => (FieldDraft.check_eq_ok_iff.mp passed).1
              refine ⟨Scope.read_eq_ok_iff.mp isScope,
                Level.parse?_eq_some_iff.mp (Level.read_eq_ok_iff.mp isLevel), ?_, ?_, ?_⟩
              · intro entry isListed
                obtain ⟨own, passed⟩ := exists_of_mapM areRead isListed
                exact ⟨own.level, (FieldDraft.check_eq_ok_iff.mp passed).2⟩
              · rw [sameFields]
                exact (Rule.gains_of_foldlM built).distinct
              · intro field own
                simp only [fields, mem_of_mapM areRead, FieldDraft.check_eq_ok_iff]

theorem Describes.check {draft : RuleDraft} {rule : Rule} (describes : draft.Describes rule) :
    draft.check = .ok rule := by
  have legible : ∀ entry ∈ draft.fields, ∃ own, entry.check = .ok own := by
    intro entry isListed
    obtain ⟨own, isNamed⟩ := describes.legible entry isListed
    exact ⟨⟨entry.field, own⟩, FieldDraft.check_eq_ok_iff.mpr ⟨rfl, isNamed⟩⟩
  obtain ⟨entries, areRead⟩ := exists_mapM_of_forall legible
  have sameFields : draft.fields.map FieldDraft.field = entries.map FieldRule.field :=
    map_eq_of_mapM areRead fun _ _ passed => (FieldDraft.check_eq_ok_iff.mp passed).1
  have built : Rule.build rule.scope rule.level entries = .ok rule := by
    apply Rule.build_eq_ok_of_mem
    · intro entry
      simp only [describes.fields, mem_of_mapM areRead, FieldDraft.check_eq_ok_iff]
    · exact sameFields ▸ describes.distinct
  have isScope := Scope.read_eq_ok_iff.mpr describes.scope
  have isLevel := Level.read_eq_ok_iff.mpr (Level.parse?_eq_some_iff.mpr describes.level)
  simp only [RuleDraft.check, isScope, isLevel, areRead, built, bind, Except.bind]

theorem check_eq_ok_iff {draft : RuleDraft} {rule : Rule} :
    draft.check = .ok rule ↔ draft.Describes rule :=
  ⟨describes_of_check, Describes.check⟩

theorem Describes.unique {draft : RuleDraft} {rule other : Rule} (describes : draft.Describes rule)
    (describesToo : draft.Describes other) : rule = other :=
  Except.ok.inj (describes.check.symm.trans describesToo.check)

structure DescribeAll (drafts : List RuleDraft) (set : RuleSet) : Prop where
  distinct : (drafts.map RuleDraft.scope).Nodup
  rules : ∀ draft ∈ drafts, ∃ rule ∈ set.toList, draft.Describes rule
  drafts : ∀ rule ∈ set.toList, ∃ draft ∈ drafts, draft.Describes rule

theorem map_scope_of_mapM {drafts : List RuleDraft} {rules : List Rule}
    (checked : drafts.mapM check = .ok rules) :
    drafts.map RuleDraft.scope = (rules.map Rule.scope).map Scope.name := by
  rw [List.map_map]
  exact map_eq_of_mapM checked fun _ _ passed => (describes_of_check passed).scope.symm

theorem describeAll_of_checkAll {drafts : List RuleDraft} {set : RuleSet}
    (checked : checkAll drafts = .ok set) : DescribeAll drafts set := by
  unfold checkAll at checked
  cases areChecked : drafts.mapM check with
  | error cause => simp [areChecked, bind, Except.bind] at checked
  | ok rules =>
      have isSet : RuleSet.ofRules rules = .ok set := by
        simpa [areChecked, bind, Except.bind] using checked
      obtain ⟨distinct, lookups⟩ := RuleSet.ofRules_eq_ok isSet
      have isRule_iff {rule : Rule} : rule ∈ set.toList ↔ ∃ draft ∈ drafts, draft.Describes rule := by
        rw [RuleSet.mem_toList, lookups, mem_of_mapM areChecked]
        simp only [check_eq_ok_iff, and_true]
      refine ⟨?_, ?_, fun rule => isRule_iff.mp⟩
      · rw [map_scope_of_mapM areChecked]
        exact distinct.map fun _ _ => Scope.name_injective
      · intro draft isListed
        obtain ⟨rule, passed⟩ := exists_of_mapM areChecked isListed
        exact ⟨rule, isRule_iff.mpr ⟨draft, isListed, describes_of_check passed⟩, describes_of_check passed⟩

theorem DescribeAll.checkAll {drafts : List RuleDraft} {set : RuleSet}
    (describe : DescribeAll drafts set) : checkAll drafts = .ok set := by
  obtain ⟨rules, areChecked⟩ : ∃ rules, drafts.mapM check = .ok rules := by
    apply exists_mapM_of_forall
    intro draft isListed
    obtain ⟨rule, _, describes⟩ := describe.rules draft isListed
    exact ⟨rule, describes.check⟩
  have distinct : (rules.map Rule.scope).Nodup := by
    have distinctNames := describe.distinct
    rw [map_scope_of_mapM areChecked] at distinctNames
    exact distinctNames.of_map
  obtain ⟨found, isFound, lookups⟩ := RuleSet.exists_ofRules distinct
  have isRule_iff {rule : Rule} : rule ∈ rules ↔ rule ∈ set.toList := by
    simp only [mem_of_mapM areChecked, check_eq_ok_iff]
    constructor
    · rintro ⟨draft, isListed, describes⟩
      obtain ⟨other, isOther, describesToo⟩ := describe.rules draft isListed
      exact describes.unique describesToo ▸ isOther
    · exact describe.drafts rule
  have isSet : found = set := by
    refine RuleSet.ext_get? fun scope => Option.ext fun rule => ?_
    rw [lookups, isRule_iff, RuleSet.mem_toList]
    constructor
    · rintro ⟨isListed, rfl⟩
      exact isListed
    · intro isListed
      have isScope := set.filed scope rule isListed
      exact ⟨isScope ▸ isListed, isScope⟩
  simp only [RuleDraft.checkAll, areChecked, isFound, isSet, bind, Except.bind]

theorem checkAll_eq_ok_iff {drafts : List RuleDraft} {set : RuleSet} :
    RuleDraft.checkAll drafts = .ok set ↔ DescribeAll drafts set :=
  ⟨describeAll_of_checkAll, DescribeAll.checkAll⟩

end RuleDraft

theorem RoleDraft.check_eq_ok_iff {draft : RoleDraft} {role : NewRole} :
    draft.check = .ok role ↔ ∃ set, RuleDraft.checkAll draft.rules = .ok set ∧
      ⟨draft.name, draft.description, draft.isSuper, set⟩ = role := by
  unfold check
  cases RuleDraft.checkAll draft.rules <;> simp [bind, Except.bind, pure, Except.pure]

end Rolebook
