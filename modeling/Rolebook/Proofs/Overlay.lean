import Mathlib.Data.List.Nodup
import Rolebook.Proofs.RuleSet

/-!
The laws of overlaying and comparing. Overlays form a monoid of idempotents, in which sets without a scope in
common commute. Where two sets differ is told alike from either side, it is nowhere only if they are equal,
and a way through a third set passes all the differences. What an overlay changes is what of the overrides was
not there before.
-/

namespace Rolebook.RuleSet

theorem mem_scopes {set : RuleSet} {scope : Scope} :
    scope ∈ set.scopes ↔ ∃ rule, set.get? scope = some rule := by
  unfold scopes OrderedMap.keys get?
  simp only [List.mem_map, OrderedMap.get?_eq_some_iff]
  constructor
  · rintro ⟨⟨key, rule⟩, isEntry, rfl⟩
    exact ⟨rule, isEntry⟩
  · rintro ⟨rule, isEntry⟩
    exact ⟨_, isEntry, rfl⟩

theorem get?_eq_none_iff {set : RuleSet} {scope : Scope} : set.get? scope = none ↔ scope ∉ set.scopes := by
  rw [mem_scopes, ← Option.isSome_iff_exists, Option.not_isSome_iff_eq_none]

theorem increasing_scopes (set : RuleSet) :
    set.scopes.Pairwise fun first second => compare first second = .lt :=
  List.pairwise_map.mpr set.rules.increasing

theorem nodup_of_increasing {scopes : List Scope}
    (increasing : scopes.Pairwise fun first second => compare first second = .lt) : scopes.Nodup :=
  increasing.imp (by rintro scope _ isLess rfl; simp at isLess)

theorem scopes_ext {left right : List Scope}
    (leftIncreasing : left.Pairwise fun first second => compare first second = .lt)
    (rightIncreasing : right.Pairwise fun first second => compare first second = .lt)
    (sameScopes : ∀ scope, scope ∈ left ↔ scope ∈ right) : left = right := by
  have reordered := (List.perm_ext_iff_of_nodup (nodup_of_increasing leftIncreasing)
    (nodup_of_increasing rightIncreasing)).mpr sameScopes
  refine reordered.eq_of_pairwise ?_ leftIncreasing rightIncreasing
  intro first second _ _ isLess isGreater
  exact absurd (Std.TransCmp.lt_trans isLess isGreater) (by simp)

section Overlay

variable (set overrides later : RuleSet)

@[simp]
theorem overlay_empty : set.overlay empty = set :=
  ext_get? fun scope => by simp

@[simp]
theorem empty_overlay : empty.overlay set = set :=
  ext_get? fun scope => by simp

@[simp]
theorem overlay_self : set.overlay set = set :=
  ext_get? fun scope => by simp

theorem overlay_assoc : (set.overlay overrides).overlay later = set.overlay (overrides.overlay later) :=
  ext_get? fun scope => by simp [Option.or_assoc]

theorem overlay_right_comm (disjoint : overrides.scopes.Disjoint later.scopes) :
    (set.overlay overrides).overlay later = (set.overlay later).overlay overrides := by
  refine ext_get? fun scope => ?_
  rw [get?_overlay, get?_overlay, get?_overlay, get?_overlay, ← Option.or_assoc, ← Option.or_assoc]
  congr 1
  by_cases isOverridden : scope ∈ overrides.scopes
  · rw [get?_eq_none_iff.mpr (disjoint isOverridden), Option.none_or, Option.or_none]
  · rw [get?_eq_none_iff.mpr isOverridden, Option.none_or, Option.or_none]

end Overlay

section Comparison

variable (before between after : RuleSet)

theorem changedScopes_comm : before.changedScopes after = after.changedScopes before := by
  simp only [changedScopes, ne_comm]

theorem changedScopes_eq_nil_iff : before.changedScopes after = [] ↔ before = after := by
  constructor
  · intro unchanged
    refine ext_get? fun scope => ?_
    by_contra different
    exact List.not_mem_nil (unchanged ▸ mem_changedScopes.mpr different)
  · rintro rfl
    exact changedScopes_self before

/-- A scope at which the first and the last differ is one at which some two that follow on each other do. -/
theorem changedScopes_subset :
    before.changedScopes after ⊆ before.changedScopes between ++ between.changedScopes after := by
  intro scope isChanged
  rw [List.mem_append, mem_changedScopes, mem_changedScopes]
  by_contra isUnchanged
  rw [not_or, not_not, not_not] at isUnchanged
  exact mem_changedScopes.mp isChanged (isUnchanged.1.trans isUnchanged.2)

/-- An overlay changes the scopes of the overrides where the rule was another one or was missing. -/
theorem changedScopes_overlay (set overrides : RuleSet) :
    set.changedScopes (set.overlay overrides) =
      overrides.scopes.filter fun scope => set.get? scope ≠ overrides.get? scope := by
  refine scopes_ext (changedScopes_increasing ..) (overrides.increasing_scopes.filter _) fun scope => ?_
  rw [mem_changedScopes, get?_overlay, List.mem_filter, mem_scopes]
  cases found : overrides.get? scope <;> simp

end Comparison

/-- The algebra of rule sets. An overlay looks up in the overrides first, and two sets are compared by all
that they look up. -/
theorem overlays_and_compares (first second third : RuleSet) :
    ((∀ scope, (first.overlay second).get? scope = (second.get? scope).or (first.get? scope)) ∧
      (∀ scope rule, (first.overlay second).get? scope = some rule → rule.scope = scope) ∧
      (first.overlay second).overlay third = first.overlay (second.overlay third) ∧
      first.overlay first = first ∧ first.overlay empty = first ∧ empty.overlay first = first ∧
      (second.scopes.Disjoint third.scopes →
        (first.overlay second).overlay third = (first.overlay third).overlay second)) ∧
    (∀ scope, scope ∈ first.changedScopes second ↔ first.get? scope ≠ second.get? scope) ∧
    (first.changedScopes second).Pairwise (fun earlier later => compare earlier later = .lt) ∧
    (first.changedScopes second).Nodup ∧
    first.changedScopes second = second.changedScopes first ∧
    (first.changedScopes second = [] ↔ first = second) ∧
    first.changedScopes third ⊆ first.changedScopes second ++ second.changedScopes third ∧
    first.changedScopes (first.overlay second) =
      second.scopes.filter fun scope => first.get? scope ≠ second.get? scope := by
  constructor
  · exact ⟨get?_overlay first second, (first.overlay second).filed, overlay_assoc .., overlay_self ..,
      overlay_empty .., empty_overlay .., overlay_right_comm first second third⟩
  · have inOrder := changedScopes_increasing first second
    exact ⟨fun scope => mem_changedScopes, inOrder, nodup_of_increasing inOrder, changedScopes_comm ..,
      changedScopes_eq_nil_iff .., changedScopes_subset .., changedScopes_overlay ..⟩

/-- A rule in place of an old one and a rule for a scope that had none, in either order. -/
theorem overlays_and_compares_promotion :
    let held := empty.put (.bare .employeeRecords .view)
    let raised := empty.put (.bare .employeeRecords .edit)
    let added := empty.put (.bare .rbacAdmin .full)
    (held.overlay raised).overlay added = (held.overlay added).overlay raised ∧
    held.changedScopes (held.overlay raised) = [.employeeRecords] ∧
    raised.changedScopes (raised.overlay raised) = [] := by
  intro held raised added
  have disjoint : raised.scopes.Disjoint added.scopes := by
    have scopes : raised.scopes = [.employeeRecords] ∧ added.scopes = [.rbacAdmin] := by decide
    simp [scopes]
  obtain ⟨⟨-, -, -, -, -, -, commutes⟩, -, -, -, -, -, -, changes⟩ := overlays_and_compares held raised added
  obtain ⟨⟨-, -, -, idempotent, -⟩, -, -, -, -, unchanged, -⟩ := overlays_and_compares raised raised added
  refine ⟨commutes disjoint, changes.trans (by decide), ?_⟩
  rw [idempotent]
  exact unchanged.mpr rfl

end Rolebook.RuleSet
