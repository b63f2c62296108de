import Rolebook.Proofs.FirstFault
import Rolebook.Rule

/-!
Building rules. A rule is told by its scope, its level and the levels of its fields. A list of field
levels makes a rule if every entry fits by itself and no field occurs twice, and the rule then has the
listed levels and no others.
-/

namespace Rolebook.Rule

theorem ext_fieldLevel? {left right : Rule} (sameScope : left.scope = right.scope)
    (sameLevel : left.level = right.level)
    (sameFields : ∀ field, left.fieldLevel? field = right.fieldLevel? field) : left = right := by
  have sameMap := OrderedMap.ext_get? sameFields
  cases left
  cases right
  simp_all

@[simp]
theorem fieldLevel?_bare (scope : Scope) (level : Level) (field : String) :
    (bare scope level).fieldLevel? field = none :=
  rfl

structure Fits (rule : Rule) (entry : FieldRule) : Prop where
  narrower : entry.level ≤ rule.level
  declared : entry.field ∈ rule.scope.fields
  isNew : rule.fieldLevel? entry.field = none

theorem fits_iff {rule : Rule} {entry : FieldRule} :
    rule.Fits entry ↔ entry.level ≤ rule.level ∧ rule.scope.declares entry.field = true ∧
      rule.fields.contains entry.field = false := by
  constructor
  · intro fits
    exact ⟨fits.narrower, by simpa using fits.declared, Option.isSome_eq_false_iff.mpr
      (Option.isNone_iff_eq_none.mpr fits.isNew)⟩
  · rintro ⟨narrower, declared, isNew⟩
    exact ⟨narrower, by simpa using declared,
      Option.isNone_iff_eq_none.mp (Option.isSome_eq_false_iff.mp isNew)⟩

theorem Fits.narrow {rule : Rule} {entry : FieldRule} (fits : rule.Fits entry) :
    ∃ after, rule.narrow entry = .ok after ∧ after.scope = rule.scope ∧ after.level = rule.level ∧
      ∀ field, after.fieldLevel? field =
        if field = entry.field then some entry.level else rule.fieldLevel? field := by
  obtain ⟨narrower, declared, isNew⟩ := fits_iff.mp fits
  rw [Rule.narrow, dif_pos narrower, dif_pos declared, if_neg (by simp [isNew])]
  exact ⟨_, rfl, rfl, rfl, fun field => by simp [fieldLevel?]⟩

theorem fits_of_narrow {rule after : Rule} {entry : FieldRule}
    (narrowed : rule.narrow entry = .ok after) : rule.Fits entry := by
  rw [fits_iff]
  unfold narrow at narrowed
  split at narrowed
  · split at narrowed
    · split at narrowed
      · cases narrowed
      · rename_i narrower declared isNew
        exact ⟨narrower, declared, Bool.eq_false_iff.mpr isNew⟩
    · cases narrowed
  · cases narrowed

structure Gains (start : Rule) (entries : List FieldRule) (rule : Rule) : Prop where
  scope : rule.scope = start.scope
  level : rule.level = start.level
  fits : ∀ entry ∈ entries, start.Fits entry
  distinct : (entries.map FieldRule.field).Nodup
  fields : ∀ field own, rule.fieldLevel? field = some own ↔
    ⟨field, own⟩ ∈ entries ∨ start.fieldLevel? field = some own

theorem gains_of_foldlM {start rule : Rule} {entries : List FieldRule}
    (built : entries.foldlM narrow start = .ok rule) : start.Gains entries rule := by
  induction entries generalizing start with
  | nil =>
      obtain rfl := Except.ok.inj built
      exact ⟨rfl, rfl, by simp, by simp, by simp⟩
  | cons head tail inductionHypothesis =>
      rw [List.foldlM_cons] at built
      cases narrowed : start.narrow head with
      | error error =>
          rw [narrowed] at built
          cases built
      | ok next =>
          rw [narrowed] at built
          have gains := inductionHypothesis built
          have fits := fits_of_narrow narrowed
          obtain ⟨found, isFound, nextScope, nextLevel, nextFields⟩ := fits.narrow
          obtain rfl := Except.ok.inj (narrowed.symm.trans isFound)
          have isOther : ∀ entry ∈ tail, entry.field ≠ head.field ∧ start.fieldLevel? entry.field = none := by
            intro entry isListed
            have isNew := (gains.fits entry isListed).isNew
            rw [nextFields] at isNew
            split at isNew
            · cases isNew
            · exact ⟨by assumption, isNew⟩
          refine ⟨gains.scope.trans nextScope, gains.level.trans nextLevel, ?_, ?_, ?_⟩
          · intro entry isListed
            rcases List.mem_cons.mp isListed with rfl | isListed
            · exact fits
            · have fitsNext := gains.fits entry isListed
              exact ⟨nextLevel ▸ fitsNext.narrower, nextScope ▸ fitsNext.declared,
                (isOther entry isListed).2⟩
          · rw [List.map_cons, List.nodup_cons]
            refine ⟨?_, gains.distinct⟩
            intro isListed
            obtain ⟨entry, isEntry, sameField⟩ := List.mem_map.mp isListed
            exact (isOther entry isEntry).1 sameField
          · intro field own
            have isHead : (⟨field, own⟩ : FieldRule) = head ↔ field = head.field ∧ own = head.level := by
              cases head
              simp
            rw [gains.fields, nextFields, List.mem_cons, isHead]
            by_cases same : field = head.field
            · simp only [same, if_true, fits.isNew, true_and, reduceCtorEq, or_false, Option.some.injEq,
                eq_comm (a := head.level)]
              exact or_comm
            · simp [same]

theorem Gains.fits_next {start reached : Rule} {before : List FieldRule} {entry : FieldRule}
    (gains : start.Gains before reached) (fits : start.Fits entry)
    (isOther : ∀ other ∈ before, other.field ≠ entry.field) : reached.Fits entry := by
  refine ⟨gains.level ▸ fits.narrower, gains.scope ▸ fits.declared, ?_⟩
  cases found : reached.fieldLevel? entry.field with
  | none => rfl
  | some own =>
      rcases (gains.fields _ _).mp found with isListed | isOld
      · exact absurd rfl (isOther ⟨_, own⟩ isListed)
      · exact absurd isOld (by simp [fits.isNew])

theorem foldlM_narrow_eq_error_iff {start : Rule} {entries : List FieldRule} {error : AccessError} :
    entries.foldlM narrow start = .error error ↔ FaultIn entries fun before entry =>
      ∃ reached, start.Gains before reached ∧ before.foldlM narrow start = .ok reached ∧
        reached.narrow entry = .error error := by
  rw [foldlM_eq_error_iff]
  apply faultIn_congr
  intro before entry after _
  constructor
  · rintro ⟨reached, built, failed⟩
    exact ⟨reached, gains_of_foldlM built, built, failed⟩
  · rintro ⟨reached, _, built, failed⟩
    exact ⟨reached, built, failed⟩

theorem ne_of_distinct {entries before after : List FieldRule} {entry : FieldRule}
    (distinct : (entries.map FieldRule.field).Nodup) (isList : entries = before ++ entry :: after) :
    ∀ other ∈ before, other.field ≠ entry.field := by
  rw [isList, List.map_append, List.nodup_append] at distinct
  intro other isBefore
  exact distinct.2.2 _ (List.mem_map_of_mem isBefore) _ (by simp)

theorem exists_foldlM_narrow {start : Rule} {entries : List FieldRule}
    (fits : ∀ entry ∈ entries, start.Fits entry) (distinct : (entries.map FieldRule.field).Nodup) :
    ∃ rule, entries.foldlM narrow start = .ok rule := by
  cases built : entries.foldlM narrow start with
  | ok rule => exact ⟨rule, rfl⟩
  | error error =>
      obtain ⟨before, entry, after, isList, reached, gains, _, failed⟩ :=
        foldlM_narrow_eq_error_iff.mp built
      have fitsNext := gains.fits_next (fits entry (by simp [isList])) (ne_of_distinct distinct isList)
      obtain ⟨_, narrowed, _⟩ := fitsNext.narrow
      simp [narrowed] at failed

theorem build_eq_ok {scope : Scope} {level : Level} {entries : List FieldRule} {rule : Rule}
    (built : build scope level entries = .ok rule) : rule.scope = scope ∧ rule.level = level ∧
      ∀ field own, rule.fieldLevel? field = some own ↔ ⟨field, own⟩ ∈ entries := by
  have gains := gains_of_foldlM built
  exact ⟨gains.scope, gains.level, fun field own => by simpa using gains.fields field own⟩

/-- A list of levels makes a rule just if each is for a declared field and narrower than the scope's, and
no field occurs twice. -/
theorem exists_build_iff {scope : Scope} {level : Level} {entries : List FieldRule} :
    (∃ rule, build scope level entries = .ok rule) ↔
      (∀ entry ∈ entries, entry.level ≤ level ∧ entry.field ∈ scope.fields) ∧
        (entries.map FieldRule.field).Nodup := by
  constructor
  · rintro ⟨rule, built⟩
    have gains := gains_of_foldlM built
    exact ⟨fun entry isListed => ⟨(gains.fits entry isListed).narrower, (gains.fits entry isListed).declared⟩,
      gains.distinct⟩
  · rintro ⟨fits, distinct⟩
    exact exists_foldlM_narrow (fun entry isListed => ⟨(fits entry isListed).1, (fits entry isListed).2, rfl⟩)
      distinct

theorem mem_fieldRules {rule : Rule} {entry : FieldRule} :
    entry ∈ rule.fieldRules ↔ rule.fieldLevel? entry.field = some entry.level := by
  rw [fieldLevel?, OrderedMap.get?_eq_some_iff, fieldRules, List.mem_map]
  constructor
  · rintro ⟨entry, isListed, rfl⟩
    exact isListed
  · intro isListed
    exact ⟨_, isListed, rfl⟩

theorem distinct_fieldRules (rule : Rule) : (rule.fieldRules.map FieldRule.field).Nodup := by
  rw [fieldRules, List.map_map]
  exact rule.fields.distinct_keys

theorem build_eq_ok_of_mem {rule : Rule} {entries : List FieldRule}
    (sameEntries : ∀ entry, entry ∈ entries ↔ rule.fieldLevel? entry.field = some entry.level)
    (distinct : (entries.map FieldRule.field).Nodup) :
    build rule.scope rule.level entries = .ok rule := by
  have fits : ∀ entry ∈ entries, (bare rule.scope rule.level).Fits entry := by
    intro entry isListed
    have isField := (sameEntries entry).mp isListed
    exact ⟨rule.narrower _ _ isField, Scope.declares_iff.mp (rule.declared _ _ isField), rfl⟩
  obtain ⟨built, isBuilt⟩ := exists_foldlM_narrow fits distinct
  obtain ⟨sameScope, sameLevel, fields⟩ := build_eq_ok isBuilt
  have isRule : built = rule := by
    refine ext_fieldLevel? sameScope sameLevel fun field => Option.ext fun own => ?_
    rw [fields, sameEntries]
  rw [build, isBuilt, isRule]

/-- Of levels for distinct and declared fields, the first one above the level of the scope is at fault. -/
theorem build_eq_error_iff_of_declared {scope : Scope} {level : Level} {entries : List FieldRule}
    {error : AccessError} (declared : ∀ entry ∈ entries, entry.field ∈ scope.fields)
    (distinct : (entries.map FieldRule.field).Nodup) :
    build scope level entries = .error error ↔ FaultIn entries fun before entry =>
      (∀ other ∈ before, other.level ≤ level) ∧ ¬ entry.level ≤ level ∧
        error = .fieldAboveScope scope entry.field entry.level level := by
  have fits : ∀ entry ∈ entries, entry.level ≤ level → (bare scope level).Fits entry :=
    fun entry isListed narrower => ⟨narrower, declared entry isListed, rfl⟩
  refine foldlM_narrow_eq_error_iff.trans (faultIn_congr ?_)
  intro before entry after isList
  have isEntry : entry ∈ entries := by simp [isList]
  have areEntries : ∀ other ∈ before, other ∈ entries := by
    intro other isBefore
    simp [isList, isBefore]
  have above {reached : Rule} (gains : (bare scope level).Gains before reached)
      (isAbove : ¬ entry.level ≤ level) :
      reached.narrow entry = .error (.fieldAboveScope scope entry.field entry.level level) := by
    have isAboveReached : ¬ entry.level ≤ reached.level := by
      rw [gains.level]
      exact isAbove
    rw [Rule.narrow, dif_neg isAboveReached, gains.scope, gains.level]
    rfl
  constructor
  · rintro ⟨reached, gains, _, failed⟩
    have isAbove : ¬ entry.level ≤ level := by
      intro narrower
      obtain ⟨_, narrowed, _⟩ := (gains.fits_next (fits entry isEntry narrower)
        (ne_of_distinct distinct isList)).narrow
      simp [narrowed] at failed
    refine ⟨fun other isBefore => (gains.fits other isBefore).narrower, isAbove, ?_⟩
    exact Except.error.inj (failed.symm.trans (above gains isAbove))
  · rintro ⟨narrower, isAbove, rfl⟩
    have distinctBefore : (before.map FieldRule.field).Nodup := by
      rw [isList, List.map_append, List.nodup_append] at distinct
      exact distinct.1
    obtain ⟨reached, built⟩ := exists_foldlM_narrow
      (fun other isBefore => fits other (areEntries other isBefore) (narrower other isBefore)) distinctBefore
    have gains := gains_of_foldlM built
    exact ⟨reached, gains, built, above gains isAbove⟩

end Rolebook.Rule
