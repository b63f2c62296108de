import Rolebook.Proofs.Submission.Flat

/-!
Rules written out and read back. The drafts that write a rule set describe it, and still do so in another
order of drafts and fields. Hence they pass as they are, and a submission of their entries is read as the
set, whether it also selects a role or not.
-/

namespace Rolebook

theorem exists_of_forall₂ {First Second : Type} {related : First → Second → Prop} {firsts : List First}
    {seconds : List Second} (areRelated : List.Forall₂ related firsts seconds) :
    (∀ first ∈ firsts, ∃ second ∈ seconds, related first second) ∧
      ∀ second ∈ seconds, ∃ first ∈ firsts, related first second := by
  induction areRelated with
  | nil => simp
  | @cons first second firsts seconds isRelated _ inductionHypothesis =>
      simp only [List.mem_cons, forall_eq_or_imp, exists_eq_or_imp]
      exact ⟨⟨.inl isRelated, fun other isOther => .inr (inductionHypothesis.1 other isOther)⟩,
        .inl isRelated, fun other isOther => .inr (inductionHypothesis.2 other isOther)⟩

theorem Level.namedBy_name (level : Level) : level.NamedBy level.name :=
  Level.parse?_eq_some_iff.mp (Level.read_eq_ok_iff.mp (Level.read_name level))

namespace RuleDraft

theorem describes_draft (rule : Rule) : rule.draft.Describes rule where
  scope := rfl
  level := rule.level.namedBy_name
  legible entry isListed := by
    obtain ⟨own, _, rfl⟩ := List.mem_map.mp isListed
    exact ⟨own.level, own.level.namedBy_name⟩
  distinct := by
    have sameFields : rule.draft.fields.map FieldDraft.field = rule.fieldRules.map FieldRule.field :=
      List.map_map
    exact sameFields ▸ rule.distinct_fieldRules
  fields field own := by
    constructor
    · intro isField
      exact ⟨_, List.mem_map_of_mem (Rule.mem_fieldRules.mpr isField : ⟨field, own⟩ ∈ rule.fieldRules),
        rfl, own.namedBy_name⟩
    · rintro ⟨_, isListed, rfl, isNamed⟩
      obtain ⟨entry, isEntry, rfl⟩ := List.mem_map.mp isListed
      rw [isNamed.unique entry.level.namedBy_name]
      exact Rule.mem_fieldRules.mp isEntry

theorem describeAll_drafts (set : RuleSet) : DescribeAll set.drafts set where
  distinct := by
    have sameScopes : set.drafts.map RuleDraft.scope = (set.toList.map Rule.scope).map Scope.name := by
      rw [RuleSet.drafts, List.map_map, List.map_map]
      rfl
    rw [sameScopes]
    exact set.distinct_toList.map fun _ _ => Scope.name_injective
  rules draft isListed := by
    obtain ⟨rule, isRule, rfl⟩ := List.mem_map.mp isListed
    exact ⟨rule, isRule, describes_draft rule⟩
  drafts rule isRule := ⟨rule.draft, List.mem_map_of_mem isRule, describes_draft rule⟩

/-- The same draft but for the order of its fields. -/
structure Reordered (draft other : RuleDraft) : Prop where
  scope : draft.scope = other.scope
  level : draft.level = other.level
  fields : draft.fields.Perm other.fields

theorem Describes.reorder {draft other : RuleDraft} {rule : Rule} (describes : draft.Describes rule)
    (reordered : draft.Reordered other) : other.Describes rule where
  scope := describes.scope.trans reordered.scope
  level := reordered.level ▸ describes.level
  legible entry isListed := describes.legible entry (reordered.fields.mem_iff.mpr isListed)
  distinct := (reordered.fields.map FieldDraft.field).nodup_iff.mp describes.distinct
  fields field own := by
    rw [describes.fields]
    simp only [reordered.fields.mem_iff]

/-- The same drafts but for their order and that of their fields. -/
def AllReordered (drafts others : List RuleDraft) : Prop :=
  ∃ shuffled, drafts.Perm shuffled ∧ List.Forall₂ Reordered shuffled others

theorem map_scope_of_forall₂ {drafts others : List RuleDraft}
    (reordered : List.Forall₂ Reordered drafts others) :
    drafts.map RuleDraft.scope = others.map RuleDraft.scope := by
  induction reordered with
  | nil => rfl
  | cons isReordered _ inductionHypothesis =>
      rw [List.map_cons, List.map_cons, isReordered.scope, inductionHypothesis]

theorem DescribeAll.reorder {drafts others : List RuleDraft} {set : RuleSet}
    (describe : DescribeAll drafts set) (reordered : AllReordered drafts others) :
    DescribeAll others set := by
  obtain ⟨shuffled, isShuffled, areReordered⟩ := reordered
  obtain ⟨onwards, backwards⟩ := exists_of_forall₂ areReordered
  refine ⟨?_, ?_, ?_⟩
  · rw [← map_scope_of_forall₂ areReordered]
    exact (isShuffled.map RuleDraft.scope).nodup_iff.mp describe.distinct
  · intro other isOther
    obtain ⟨draft, isListed, isReordered⟩ := backwards other isOther
    obtain ⟨rule, isRule, describes⟩ := describe.rules draft (isShuffled.mem_iff.mpr isListed)
    exact ⟨rule, isRule, describes.reorder isReordered⟩
  · intro rule isRule
    obtain ⟨draft, isListed, describes⟩ := describe.drafts rule isRule
    obtain ⟨other, isOther, isReordered⟩ := onwards draft (isShuffled.mem_iff.mp isListed)
    exact ⟨other, isOther, describes.reorder isReordered⟩

theorem DescribeAll.isDistinct {drafts : List RuleDraft} {set : RuleSet}
    (describe : DescribeAll drafts set) : Distinct drafts where
  scopes := describe.distinct
  fields draft isListed := by
    obtain ⟨_, _, describes⟩ := describe.rules draft isListed
    exact describes.distinct

theorem ne_roleKey_of_entry {draft : RuleDraft} {entry : String × String}
    (isEntry : entry ∈ draft.entries) : entry.1 ≠ roleKey := by
  apply RuleKey.ne_roleKey_of_mem
  rcases List.mem_cons.mp isEntry with rfl | isField
  · simp
  · obtain ⟨field, _, rfl⟩ := List.mem_map.mp isField
    simp

end RuleDraft

namespace Submission

/-- The entries of drafts in any order, and an entry that selects a role, or none. -/
def Flattens (submission : Submission) (drafts : List RuleDraft) : Prop :=
  ∃ (selected : Option String) (entries : List (String × String)), submission = .ofList entries ∧
    entries.Perm (selected.toList.map (fun text => (roleKey, text)) ++
      drafts.flatMap RuleDraft.entries)

/-- What selects a role says nothing about rules. -/
theorem ruleSet_erase_roleKey (submission : Submission) :
    ruleSet (submission.erase roleKey) = submission.ruleSet := by
  have sameEntries : ruleEntries (submission.erase roleKey) = submission.ruleEntries := by
    unfold ruleEntries OrderedMap.erase
    rw [List.filter_filter]
    apply List.filter_congr
    intro entry _
    by_cases isRole : entry.1 = roleKey
    · simp [isRole]
    · have isOther : compare roleKey entry.1 ≠ .eq := fun same =>
        isRole (Std.LawfulEqCmp.compare_eq_iff_eq.mp same).symm
      simp [isRole, isOther]
  unfold ruleSet
  rw [sameEntries]

theorem ruleSet_insert_roleKey (submission : Submission) (text : String) :
    ruleSet (submission.insert roleKey text) = submission.ruleSet := by
  have sameRest : (submission.insert roleKey text).erase roleKey = submission.erase roleKey := by
    refine OrderedMap.ext_get? fun key => ?_
    rw [OrderedMap.get?_erase, OrderedMap.get?_erase, OrderedMap.get?_insert]
    split <;> rfl
  rw [← ruleSet_erase_roleKey (submission.insert roleKey text), sameRest, ruleSet_erase_roleKey]

theorem Flattens.keeps {submission : Submission} {drafts : List RuleDraft}
    (flattens : submission.Flattens drafts) :
    Keeps (submission.erase roleKey) (drafts.flatMap RuleDraft.entries) := by
  obtain ⟨selected, entries, rfl, reordered⟩ := flattens
  constructor
  · intro key value isKept
    rw [OrderedMap.get?_erase] at isKept
    split at isKept
    · cases isKept
    · rename_i isOther
      have isEntry := reordered.mem_iff.mp (OrderedMap.mem_of_get?_ofList isKept)
      rcases List.mem_append.mp isEntry with isSelection | isRule
      · obtain ⟨_, _, same⟩ := List.mem_map.mp isSelection
        rw [← (Prod.mk.inj same).1] at isOther
        simp at isOther
      · exact isRule
  · intro entry isEntry
    obtain ⟨draft, _, isOwn⟩ := List.mem_flatMap.mp isEntry
    have isOther : compare entry.1 roleKey ≠ .eq := fun same =>
      RuleDraft.ne_roleKey_of_entry isOwn (Std.LawfulEqCmp.compare_eq_iff_eq.mp same)
    rw [OrderedMap.get?_erase, if_neg isOther]
    exact OrderedMap.get?_ofList_isSome (reordered.mem_iff.mpr (List.mem_append_right _ isEntry))

/-- A submission of the entries of drafts is read as the rule set that they describe. -/
theorem Flattens.ruleSet {submission : Submission} {drafts : List RuleDraft} {set : RuleSet}
    (flattens : submission.Flattens drafts) (describe : RuleDraft.DescribeAll drafts set) :
    submission.ruleSet = .ok set := by
  rw [← ruleSet_erase_roleKey]
  exact (RuleDraft.ruleSet_eq_ok_iff describe.isDistinct flattens.keeps).mpr describe.checkAll

end Submission

/-- A role's rules as its drafts say them are the rules that the role has: in the draft of another role, and
in a submission. -/
structure Role.ReadsBack (role : Role) (drafts : List RuleDraft) : Prop where
  drafted : ∀ name description isSuper, RoleDraft.check ⟨name, description, isSuper, drafts⟩ =
    .ok ⟨name, description, isSuper, role.rules⟩
  submitted : ∀ submission : Submission, submission.Flattens drafts → submission.ruleSet = .ok role.rules

theorem Role.readsBack {role : Role} {drafts others : List RuleDraft}
    (describe : RuleDraft.DescribeAll drafts role.rules)
    (reordered : RuleDraft.AllReordered drafts others) : role.ReadsBack others where
  drafted _ _ _ := RoleDraft.check_eq_ok_iff.mpr
    ⟨role.rules, (describe.reorder reordered).checkAll, rfl⟩
  submitted _ flattens := flattens.ruleSet (describe.reorder reordered)

end Rolebook
