import Rolebook.Service.Settings

/-!
Merged rule sets. Rule sets are told by their look-ups: an overlay looks a scope up in the other set
first, and a submission after another one either takes its place or adds to it, as the mode has it.
-/

namespace Rolebook

namespace RuleSet

theorem get?_foldl_put (rules : List Rule) (set : RuleSet) (scope : Scope) :
    (rules.foldl put set).get? scope =
      (rules.reverse.find? fun rule => rule.scope = scope).or (set.get? scope) := by
  induction rules generalizing set with
  | nil => simp
  | cons rule others inductionHypothesis =>
      rw [List.foldl_cons, inductionHypothesis, get?_put, List.reverse_cons, List.find?_append,
        Option.or_assoc]
      congr 1
      by_cases same : scope = rule.scope
      · simp [same]
      · have different : rule.scope ≠ scope := fun equal => same equal.symm
        simp [same, different]

theorem mem_toList {set : RuleSet} {rule : Rule} :
    rule ∈ set.toList ↔ set.get? rule.scope = some rule := by
  unfold toList OrderedMap.values get?
  rw [OrderedMap.get?_eq_some_iff]
  constructor
  · intro isListed
    obtain ⟨⟨scope, found⟩, isEntry, rfl⟩ := List.mem_map.mp isListed
    rwa [set.filed scope found (OrderedMap.get?_eq_some_of_mem isEntry)]
  · intro isEntry
    exact List.mem_map.mpr ⟨_, isEntry, rfl⟩

theorem map_scope_toList (set : RuleSet) : set.toList.map Rule.scope = set.scopes := by
  unfold toList OrderedMap.values scopes OrderedMap.keys
  rw [List.map_map]
  apply List.map_congr_left
  intro entry isEntry
  exact set.filed entry.1 entry.2 (OrderedMap.get?_eq_some_of_mem isEntry)

theorem distinct_toList (set : RuleSet) : (set.toList.map Rule.scope).Nodup := by
  rw [map_scope_toList]
  exact set.rules.distinct_keys

@[simp]
theorem get?_overlay (set overrides : RuleSet) (scope : Scope) :
    (set.overlay overrides).get? scope = (overrides.get? scope).or (set.get? scope) := by
  unfold overlay
  rw [get?_foldl_put]
  congr 1
  cases located : overrides.toList.reverse.find? fun rule => rule.scope = scope with
  | none =>
      rw [List.find?_eq_none] at located
      cases found : overrides.get? scope with
      | none => rfl
      | some rule =>
          have isScope := overrides.filed scope rule found
          have isListed : rule ∈ overrides.toList := mem_toList.mpr (by rw [isScope, found])
          exact absurd (by simpa using isScope) (located rule (List.mem_reverse.mpr isListed))
  | some rule =>
      have isScope : rule.scope = scope := by simpa using List.find?_some located
      have isListed := List.mem_reverse.mp (List.mem_of_find?_eq_some located)
      rw [← isScope, mem_toList.mp isListed]

@[simp]
theorem mem_changedScopes {before after : RuleSet} {scope : Scope} :
    scope ∈ before.changedScopes after ↔ before.get? scope ≠ after.get? scope := by
  simp [changedScopes, Scope.mem_all]

@[simp]
theorem changedScopes_self (set : RuleSet) : set.changedScopes set = [] := by
  simp [changedScopes]

theorem changedScopes_increasing (before after : RuleSet) :
    (before.changedScopes after).Pairwise fun first second => compare first second = .lt :=
  List.Pairwise.filter _ (by decide)

theorem foldlM_add_of_distinct {start : RuleSet} {rules : List Rule}
    (areNew : ∀ rule ∈ rules, start.get? rule.scope = none)
    (distinct : (rules.map Rule.scope).Nodup) :
    ∃ set, rules.foldlM add start = .ok set ∧ ∀ scope rule, set.get? scope = some rule ↔
      rule ∈ rules ∧ rule.scope = scope ∨ start.get? scope = some rule := by
  induction rules generalizing start with
  | nil => exact ⟨start, rfl, by simp⟩
  | cons head tail inductionHypothesis =>
      rw [List.map_cons, List.nodup_cons] at distinct
      have isNew : start.get? head.scope = none := areNew head (by simp)
      have isOther : ∀ rule ∈ tail, rule.scope ≠ head.scope := fun rule isListed sameScope =>
        distinct.1 (sameScope ▸ List.mem_map_of_mem isListed)
      have stillNew : ∀ rule ∈ tail, (start.put head).get? rule.scope = none := by
        intro rule isListed
        rw [get?_put, if_neg (isOther rule isListed)]
        exact areNew rule (by simp [isListed])
      obtain ⟨set, added, lookups⟩ := inductionHypothesis stillNew distinct.2
      refine ⟨set, ?_, ?_⟩
      · have isAdded : start.add head = .ok (start.put head) := by simp [add, isNew]
        rw [List.foldlM_cons, isAdded]
        exact added
      · intro scope rule
        rw [lookups, get?_put, List.mem_cons]
        by_cases same : scope = head.scope
        · subst same
          simp only [if_true, isNew, Option.some.injEq, reduceCtorEq, or_false]
          constructor
          · rintro (⟨isListed, sameScope⟩ | rfl)
            · exact ⟨.inr isListed, sameScope⟩
            · exact ⟨.inl rfl, rfl⟩
          · rintro ⟨rfl | isListed, sameScope⟩
            · exact .inr rfl
            · exact .inl ⟨isListed, sameScope⟩
        · have different : rule = head → rule.scope ≠ scope := by
            rintro rfl equal
            exact same equal.symm
          simp only [same, if_false]
          constructor
          · rintro (⟨isListed, sameScope⟩ | isOld)
            · exact .inl ⟨.inr isListed, sameScope⟩
            · exact .inr isOld
          · rintro (⟨isHead | isListed, sameScope⟩ | isOld)
            · exact absurd sameScope (different isHead)
            · exact .inl ⟨isListed, sameScope⟩
            · exact .inr isOld

/-- Rules for distinct scopes make a set, which has them and no others. -/
theorem exists_ofRules {rules : List Rule} (distinct : (rules.map Rule.scope).Nodup) :
    ∃ set, ofRules rules = .ok set ∧
      ∀ scope rule, set.get? scope = some rule ↔ rule ∈ rules ∧ rule.scope = scope := by
  have areNew : ∀ rule ∈ rules, empty.get? rule.scope = none := by simp
  simpa [ofRules] using foldlM_add_of_distinct areNew distinct

theorem distinct_of_foldlM_add {start set : RuleSet} {rules : List Rule}
    (added : rules.foldlM add start = .ok set) :
    (rules.map Rule.scope).Nodup ∧ ∀ rule ∈ rules, start.get? rule.scope = none := by
  induction rules generalizing start with
  | nil => simp
  | cons head tail inductionHypothesis =>
      rw [List.foldlM_cons, add] at added
      cases isOld : start.get? head.scope with
      | some other => simp [isOld, bind, Except.bind] at added
      | none =>
          have isAdded : tail.foldlM add (start.put head) = .ok set := by
            simpa [isOld, bind, Except.bind] using added
          obtain ⟨distinct, areNew⟩ := inductionHypothesis isAdded
          have areOther : ∀ rule ∈ tail, rule.scope ≠ head.scope ∧ start.get? rule.scope = none := by
            intro rule isListed
            have isNew := areNew rule isListed
            rw [get?_put] at isNew
            split at isNew
            · cases isNew
            · exact ⟨by assumption, isNew⟩
          rw [List.map_cons, List.nodup_cons, List.forall_mem_cons]
          refine ⟨⟨?_, distinct⟩, isOld, fun rule isListed => (areOther rule isListed).2⟩
          intro isListed
          obtain ⟨rule, isRule, sameScope⟩ := List.mem_map.mp isListed
          exact (areOther rule isRule).1 sameScope

theorem ofRules_eq_ok {set : RuleSet} {rules : List Rule} (isSet : ofRules rules = .ok set) :
    (rules.map Rule.scope).Nodup ∧
      ∀ scope rule, set.get? scope = some rule ↔ rule ∈ rules ∧ rule.scope = scope := by
  have distinct := (distinct_of_foldlM_add isSet).1
  obtain ⟨found, isFound, lookups⟩ := exists_ofRules distinct
  obtain rfl := Except.ok.inj (isSet.symm.trans isFound)
  exact ⟨distinct, lookups⟩

/-- The rules of a set, in any order, make the set. -/
theorem ofRules_of_perm {set : RuleSet} {rules : List Rule} (sameRules : rules.Perm set.toList) :
    ofRules rules = .ok set := by
  obtain ⟨found, isFound, lookups⟩ :=
    exists_ofRules ((sameRules.map Rule.scope).nodup_iff.mpr set.distinct_toList)
  have isSet : found = set := by
    refine ext_get? fun scope => Option.ext fun rule => ?_
    rw [lookups, sameRules.mem_iff, mem_toList]
    constructor
    · rintro ⟨isListed, rfl⟩
      exact isListed
    · intro isListed
      have isScope := set.filed scope rule isListed
      exact ⟨isScope ▸ isListed, isScope⟩
  rw [isFound, isSet]

end RuleSet

namespace Mode

@[simp]
theorem merge_merge (mode : Mode) (stored submitted : RuleSet) :
    mode.merge (mode.merge stored submitted) submitted = mode.merge stored submitted := by
  cases mode with
  | snapshot => rfl
  | patch =>
      refine RuleSet.ext_get? fun scope => ?_
      simp only [merge, RuleSet.get?_overlay]
      cases submitted.get? scope <;> rfl

def mergeAll (mode : Mode) (stored : RuleSet) (submitted : List RuleSet) : RuleSet :=
  submitted.foldl mode.merge stored

@[simp]
theorem mergeAll_append (mode : Mode) (stored : RuleSet) (earlier later : List RuleSet) :
    mode.mergeAll stored (earlier ++ later) =
      mode.mergeAll (mode.mergeAll stored earlier) later := by
  simp [mergeAll]

theorem get?_mergeAll_patch (stored : RuleSet) (submitted : List RuleSet) (scope : Scope) :
    (patch.mergeAll stored submitted).get? scope =
      (submitted.reverse.findSome? fun rules => rules.get? scope).or (stored.get? scope) := by
  induction submitted generalizing stored with
  | nil => simp [mergeAll]
  | cons rules others inductionHypothesis =>
      change (patch.mergeAll (stored.overlay rules) others).get? scope = _
      rw [inductionHypothesis, RuleSet.get?_overlay, List.reverse_cons, List.findSome?_append,
        Option.or_assoc]
      congr 1
      cases found : rules.get? scope <;> simp [found]

theorem mergeAll_snapshot (stored : RuleSet) (submitted : List RuleSet) :
    snapshot.mergeAll stored submitted = submitted.getLast?.getD stored := by
  induction submitted generalizing stored with
  | nil => rfl
  | cons rules others inductionHypothesis =>
      change snapshot.mergeAll rules others = _
      rw [inductionHypothesis, List.getLast?_cons, Option.getD_some]

end Mode

end Rolebook
