import Rolebook.Proofs.Rule
import Rolebook.Proofs.RuleSet
import Rolebook.Proofs.Submission.Grammar

/-!
Spelling out rule sets. What the entries of a submission say is gathered by scope, and a rule is built of
what was said for each scope. So a rule set is read off exactly the well-formed submissions, it has what
is written and nothing else, and any other submission is refused on account of its first fault.
-/

namespace Rolebook.Submission

variable {submission : Submission}

section Gathering

def Gathered.put (gathered : Gathered) : RuleKey × Level → Gathered
  | (.scopeLevel scope, level) => { gathered with levels := gathered.levels.insert scope level }
  | (.fieldLevel scope field, level) =>
      { gathered with
        fields := gathered.fields.insert scope (gathered.fieldsOf scope ++ [⟨field, level⟩]) }

theorem Gathered.add_eq (gathered : Gathered) (entry : String × String) :
    gathered.add entry = (readEntry entry).map gathered.put := by
  unfold add readEntry
  cases RuleKey.read entry.1 with
  | error cause => rfl
  | ok key =>
      cases Level.read entry.2 <;> cases key <;> rfl

def scopeLevel? (scope : Scope) (said : RuleKey × Level) : Option Level :=
  if said.1 = .scopeLevel scope then some said.2 else none

def fieldRule? (scope : Scope) : RuleKey × Level → Option FieldRule
  | (.scopeLevel _, _) => none
  | (.fieldLevel other field, level) => if other = scope then some ⟨field, level⟩ else none

theorem Gathered.levels_foldl_put (said : List (RuleKey × Level)) (start : Gathered) (scope : Scope) :
    (said.foldl put start).levels.get? scope =
      (said.reverse.findSome? (scopeLevel? scope)).or (start.levels.get? scope) := by
  induction said generalizing start with
  | nil => rfl
  | cons head tail inductionHypothesis =>
      rw [List.foldl_cons, inductionHypothesis, List.reverse_cons, List.findSome?_append, Option.or_assoc]
      congr 1
      obtain ⟨key, level⟩ := head
      cases key with
      | fieldLevel other field => simp [put, scopeLevel?]
      | scopeLevel other =>
          by_cases same : scope = other
          · simp [put, scopeLevel?, same]
          · have different : other ≠ scope := fun equal => same equal.symm
            simp [put, scopeLevel?, same, different]

theorem Gathered.fields_foldl_put (said : List (RuleKey × Level)) (start : Gathered) (scope : Scope) :
    (said.foldl put start).fields.get? scope =
      match said.filterMap (fieldRule? scope) with
      | [] => start.fields.get? scope
      | rules => some (start.fieldsOf scope ++ rules) := by
  induction said generalizing start with
  | nil => rfl
  | cons head tail inductionHypothesis =>
      rw [List.foldl_cons, inductionHypothesis]
      obtain ⟨key, level⟩ := head
      cases key with
      | scopeLevel other => rfl
      | fieldLevel other field =>
          by_cases same : scope = other
          · subst same
            cases isRest : tail.filterMap (fieldRule? scope) <;>
              simp [put, fieldRule?, fieldsOf, isRest]
          · have different : other ≠ scope := fun equal => same equal.symm
            simp [put, fieldRule?, fieldsOf, same, different]

def gather (said : List (RuleKey × Level)) : Gathered :=
  said.foldl Gathered.put .empty

theorem fieldsOf_gather (said : List (RuleKey × Level)) (scope : Scope) :
    (gather said).fieldsOf scope = said.filterMap (fieldRule? scope) := by
  rw [Gathered.fieldsOf, gather, Gathered.fields_foldl_put]
  cases said.filterMap (fieldRule? scope) <;> rfl

theorem fieldRule?_eq_some_iff {scope : Scope} {said : RuleKey × Level} {entry : FieldRule} :
    fieldRule? scope said = some entry ↔ said = (.fieldLevel scope entry.field, entry.level) := by
  obtain ⟨key, level⟩ := said
  obtain ⟨field, own⟩ := entry
  cases key with
  | scopeLevel other => simp [fieldRule?]
  | fieldLevel other field =>
      by_cases same : other = scope <;> simp [fieldRule?, same]

theorem mem_fieldsOf_gather {said : List (RuleKey × Level)} {scope : Scope} {entry : FieldRule} :
    entry ∈ (gather said).fieldsOf scope ↔ (.fieldLevel scope entry.field, entry.level) ∈ said := by
  rw [fieldsOf_gather, List.mem_filterMap]
  simp only [fieldRule?_eq_some_iff, exists_eq_right]

theorem scopeLevel?_eq_some_iff {scope : Scope} {said : RuleKey × Level} {level : Level} :
    scopeLevel? scope said = some level ↔ said = (.scopeLevel scope, level) := by
  simp [scopeLevel?, Prod.ext_iff]

theorem levels_gather (said : List (RuleKey × Level)) (scope : Scope) :
    (gather said).levels.get? scope = said.reverse.findSome? (scopeLevel? scope) := by
  rw [gather, Gathered.levels_foldl_put]
  exact Option.or_none

theorem mem_of_levels_gather {said : List (RuleKey × Level)} {scope : Scope} {level : Level}
    (isFound : (gather said).levels.get? scope = some level) : (.scopeLevel scope, level) ∈ said := by
  rw [levels_gather] at isFound
  obtain ⟨entry, isListed, isLevel⟩ := List.exists_of_findSome?_eq_some isFound
  rw [scopeLevel?_eq_some_iff.mp isLevel] at isListed
  exact List.mem_reverse.mp isListed

theorem levels_gather_isSome {said : List (RuleKey × Level)} {scope : Scope} {level : Level}
    (isListed : (.scopeLevel scope, level) ∈ said) :
    ∃ found, (gather said).levels.get? scope = some found := by
  rw [levels_gather, ← Option.isSome_iff_exists, List.findSome?_isSome_iff]
  exact ⟨_, List.mem_reverse.mpr isListed, by simp [scopeLevel?]⟩

theorem mem_scopes_gather {said : List (RuleKey × Level)} {scope : Scope} :
    scope ∈ (gather said).scopes ↔ ∃ entry ∈ said, entry.1.scope = scope := by
  have isField : (gather said).fields.contains scope = true ↔
      ∃ entry : FieldRule, (.fieldLevel scope entry.field, entry.level) ∈ said := by
    simp only [← mem_fieldsOf_gather, fieldsOf_gather]
    rw [OrderedMap.contains, gather, Gathered.fields_foldl_put]
    cases said.filterMap (fieldRule? scope) with
    | nil => simp [Gathered.empty]
    | cons first rest => exact iff_of_true rfl ⟨first, by simp⟩
  simp only [Gathered.scopes, List.mem_filter, Scope.mem_all, true_and, Bool.or_eq_true, isField]
  constructor
  · rintro (isLevel | ⟨entry, isListed⟩)
    · obtain ⟨level, isFound⟩ := Option.isSome_iff_exists.mp isLevel
      exact ⟨_, mem_of_levels_gather isFound, rfl⟩
    · exact ⟨_, isListed, rfl⟩
  · rintro ⟨⟨key, level⟩, isListed, rfl⟩
    cases key with
    | scopeLevel scope => exact .inl (Option.isSome_iff_exists.mpr (levels_gather_isSome isListed))
    | fieldLevel scope field => exact .inr ⟨⟨field, level⟩, isListed⟩

end Gathering

section Reading

def Reads (submission : Submission) (said : List (RuleKey × Level)) : Prop :=
  submission.ruleEntries.mapM readEntry = .ok said

variable {said : List (RuleKey × Level)} (reads : submission.Reads said)

include reads

theorem readable_of_said {key value : String} (isEntry : submission.Says key value) :
    ∃ parsed level, (parsed, level) ∈ said ∧ parsed.IsDeclared ∧ parsed.text = key ∧
      level.NamedBy value := by
  have isListed : readEntry (key, value) ∈ said.map .ok := by
    rw [← mapM_eq_ok_iff.mp reads]
    exact List.mem_map_of_mem (mem_ruleEntries.mpr isEntry)
  obtain ⟨⟨parsed, level⟩, isSaid, isRead⟩ := List.mem_map.mp isListed
  exact ⟨parsed, level, isSaid, readEntry_eq_ok_iff.mp isRead.symm⟩

theorem mem_said {key : RuleKey} {level : Level} : (key, level) ∈ said ↔ submission.Gives key level := by
  constructor
  · intro isSaid
    obtain ⟨entry, isEntry, isRead⟩ := (mem_of_mapM reads).mp isSaid
    obtain ⟨_, isText, isNamed⟩ := readEntry_eq_ok_iff.mp isRead
    exact ⟨entry.2, isText ▸ (mem_ruleEntries.mp isEntry).1, isNamed⟩
  · rintro ⟨value, isEntry, isNamed⟩
    obtain ⟨parsed, found, isSaid, _, isText, isFound⟩ :=
      readable_of_said reads ⟨isEntry, key.text_ne_roleKey⟩
    obtain rfl := RuleKey.text_injective isText
    rwa [isNamed.unique isFound]

theorem said_inOrder : said.Pairwise fun left right => compare left.1.text right.1.text = .lt := by
  have inOrder : (submission.ruleEntries.map Prod.fst).Pairwise fun left right =>
      compare left right = .lt := List.pairwise_map.mpr (submission.increasing.filter _)
  have sameKeys : submission.ruleEntries.map Prod.fst = said.map fun entry => entry.1.text :=
    map_eq_of_mapM reads fun entry result isRead => (readEntry_eq_ok_iff.mp isRead).2.1.symm
  rw [sameKeys] at inOrder
  exact List.pairwise_map.mp inOrder

theorem mem_fieldsOf {scope : Scope} {entry : FieldRule} :
    entry ∈ (gather said).fieldsOf scope ↔
      submission.Gives (.fieldLevel scope entry.field) entry.level :=
  mem_fieldsOf_gather.trans (mem_said reads)

theorem fieldsOf_declared {scope : Scope} : ∀ entry ∈ (gather said).fieldsOf scope,
    entry.field ∈ scope.fields := by
  intro entry isListed
  obtain ⟨value, isEntry, _⟩ := (mem_fieldsOf reads).mp isListed
  obtain ⟨parsed, _, _, isDeclared, isText, _⟩ := readable_of_said reads ⟨isEntry, RuleKey.text_ne_roleKey _⟩
  rw [RuleKey.text_injective isText] at isDeclared
  exact isDeclared

theorem fieldsOf_inOrder (scope : Scope) : ((gather said).fieldsOf scope).Pairwise fun left right =>
    compare (RuleKey.ofField scope left.field) (RuleKey.ofField scope right.field) = .lt := by
  rw [fieldsOf_gather]
  refine (said_inOrder reads).filterMap _ ?_
  intro first second isLess left isLeft right isRight
  rw [fieldRule?_eq_some_iff.mp isLeft, fieldRule?_eq_some_iff.mp isRight] at isLess
  exact isLess

theorem fieldsOf_distinct (scope : Scope) :
    (((gather said).fieldsOf scope).map FieldRule.field).Nodup := by
  refine List.pairwise_map.mpr ((fieldsOf_inOrder reads scope).imp ?_)
  intro left right isLess sameField
  simp [sameField] at isLess

theorem grants_iff {scope : Scope} {level : Level} :
    submission.Grants scope level ↔ level = ((gather said).levels.get? scope).getD .nothing := by
  cases isFound : (gather said).levels.get? scope with
  | some found =>
      have gives := (mem_said reads).mp (mem_of_levels_gather isFound)
      constructor
      · rintro (givesToo | ⟨isAbsent, _⟩)
        · exact givesToo.unique gives
        · obtain ⟨_, isEntry, _⟩ := gives
          exact absurd (isEntry.symm.trans isAbsent) (by simp)
      · rintro rfl
        exact .inl gives
  | none =>
      have isAbsent : ∀ level, ¬ submission.Gives (.scopeLevel scope) level := by
        intro level gives
        obtain ⟨found, isSome⟩ := levels_gather_isSome ((mem_said reads).mpr gives)
        exact absurd (isFound.symm.trans isSome) (by simp)
      constructor
      · rintro (gives | ⟨_, rfl⟩)
        · exact absurd gives (isAbsent level)
        · rfl
      · rintro rfl
        refine .inr ⟨?_, rfl⟩
        rw [Option.eq_none_iff_forall_ne_some]
        intro value isEntry
        obtain ⟨parsed, found, _, _, _, isNamed⟩ :=
          readable_of_said reads ⟨isEntry, RuleKey.text_ne_roleKey (.scopeLevel scope)⟩
        exact isAbsent found ⟨value, isEntry, isNamed⟩

/-- The rules of all scopes, or what is wrong with one of them, is all that is left to find out. -/
theorem ruleSet_eq : submission.ruleSet =
    ((gather said).scopes.mapM (gather said).rule).bind RuleSet.ofRules := by
  have gathered : submission.ruleEntries.foldlM Gathered.add .empty = .ok (gather said) := by
    rw [foldlM_eq_map_mapM Gathered.add_eq, show submission.ruleEntries.mapM readEntry = _ from reads]
    rfl
  rw [ruleSet, gathered]
  rfl

theorem rule_eq_ok {scope : Scope} {rule : Rule} (built : (gather said).rule scope = .ok rule) :
    rule.scope = scope ∧ submission.Grants scope rule.level ∧ ∀ field own,
      rule.fieldLevel? field = some own ↔ submission.Gives (.fieldLevel scope field) own := by
  obtain ⟨isScope, isLevel, fields⟩ := Rule.build_eq_ok built
  exact ⟨isScope, (grants_iff reads).mpr isLevel, fun field own =>
    (fields field own).trans (mem_fieldsOf reads)⟩

/-- A rule of a scope cannot be built if some field is above the scope, and the first one is at fault. -/
theorem rule_eq_error_iff {scope : Scope} {error : AccessError} :
    (gather said).rule scope = .error error ↔ ∃ field own level,
      submission.Gives (.fieldLevel scope field) own ∧ submission.Grants scope level ∧ ¬ own ≤ level ∧
        error = .fieldAboveScope scope field own level ∧
          ∀ other otherOwn, submission.Gives (.fieldLevel scope other) otherOwn →
            compare (RuleKey.ofField scope other) (RuleKey.ofField scope field) = .lt →
              otherOwn ≤ level := by
  rw [Gathered.rule, Rule.build_eq_error_iff_of_declared (fieldsOf_declared reads)
      (fieldsOf_distinct reads scope),
    faultIn_iff_of_pairwise (fieldsOf_inOrder reads scope) fun _ _ => compare_asymmetric _ _]
  constructor
  · rintro ⟨entry, isListed, ⟨isAbove, isError⟩, isFirst⟩
    have grants : submission.Grants scope _ := (grants_iff reads).mpr rfl
    refine ⟨entry.field, entry.level, _, (mem_fieldsOf reads).mp isListed, grants, isAbove, isError, ?_⟩
    intro other otherOwn gives isEarlier
    exact isFirst ⟨other, otherOwn⟩ ((mem_fieldsOf reads).mpr gives) isEarlier
  · rintro ⟨field, own, level, gives, grants, isAbove, isError, isFirst⟩
    obtain rfl := (grants_iff reads).mp grants
    refine ⟨⟨field, own⟩, (mem_fieldsOf reads).mpr gives, ⟨isAbove, isError⟩, ?_⟩
    intro other isListed isEarlier
    exact isFirst other.field other.level ((mem_fieldsOf reads).mp isListed) isEarlier

theorem exists_rule_iff {scope : Scope} : (∃ rule, (gather said).rule scope = .ok rule) ↔
    ∀ field own level, submission.Gives (.fieldLevel scope field) own → submission.Grants scope level →
      own ≤ level := by
  constructor
  · rintro ⟨rule, built⟩ field own level gives grants
    obtain ⟨_, grantsRule, fields⟩ := rule_eq_ok reads built
    rw [grants.unique grantsRule]
    exact rule.narrower field own ((fields field own).mpr gives)
  · intro narrower
    cases built : (gather said).rule scope with
    | ok rule => exact ⟨rule, rfl⟩
    | error error =>
        obtain ⟨field, own, level, gives, grants, isAbove, _⟩ := (rule_eq_error_iff reads).mp built
        exact absurd (narrower field own level gives grants) isAbove

omit reads in
theorem scopes_inOrder (said : List (RuleKey × Level)) :
    (gather said).scopes.Pairwise fun left right => compare left right = .lt :=
  List.Pairwise.filter _ (by decide)

theorem isClean : ∀ key value, submission.Says key value → ∀ cause, ¬ EntryFault key value cause := by
  intro key value isEntry
  obtain ⟨parsed, level, _, isDeclared, isText, isNamed⟩ := readable_of_said reads isEntry
  exact not_entryFault isDeclared isText isNamed

/-- If all entries can be read, what is left to be wrong is a field above its scope. -/
theorem ruleSet_eq_error_iff_of_reads {error : AccessError} :
    (gather said).scopes.mapM (gather said).rule = .error error ↔ submission.Refusal error := by
  rw [mapM_eq_error_iff, faultIn_iff_of_pairwise (scopes_inOrder said) compare_asymmetric]
  constructor
  · rintro ⟨scope, _, failed, passed⟩
    obtain ⟨field, own, level, gives, grants, isAbove, rfl, isFirst⟩ := (rule_eq_error_iff reads).mp failed
    refine .excess (isClean reads) gives grants isAbove ?_
    rintro other otherField otherOwn otherLevel otherGives otherGrants (isEarlier | ⟨rfl, isEarlier⟩)
    · have isScope : other ∈ (gather said).scopes :=
        mem_scopes_gather.mpr ⟨_, (mem_said reads).mpr otherGives, rfl⟩
      exact (exists_rule_iff reads).mp (passed other isScope isEarlier) _ _ _ otherGives otherGrants
    · rw [otherGrants.unique grants]
      exact isFirst otherField otherOwn otherGives isEarlier
  · intro refusal
    cases refusal with
    | entry isEntry fault _ => exact absurd fault (isClean reads _ _ isEntry _)
    | @excess scope field own level _ gives grants isAbove isFirst =>
        refine ⟨scope, mem_scopes_gather.mpr ⟨_, (mem_said reads).mpr gives, rfl⟩, ?_, ?_⟩
        · refine (rule_eq_error_iff reads).mpr ⟨field, own, level, gives, grants, isAbove, rfl, ?_⟩
          intro other otherOwn otherGives isEarlier
          exact isFirst scope other otherOwn level otherGives grants (.inr ⟨rfl, isEarlier⟩)
        · intro other _ isEarlier
          refine (exists_rule_iff reads).mpr fun otherField otherOwn otherLevel otherGives otherGrants => ?_
          exact isFirst other otherField otherOwn otherLevel otherGives otherGrants (.inl isEarlier)

section Built

variable {rules : List Rule} (built : (gather said).scopes.mapM (gather said).rule = .ok rules)

include built

theorem exists_ofRules_of_built : ∃ set, RuleSet.ofRules rules = .ok set ∧
    ∀ scope rule, set.get? scope = some rule ↔
      scope ∈ (gather said).scopes ∧ (gather said).rule scope = .ok rule := by
  have sameScopes : (gather said).scopes.map id = rules.map Rule.scope :=
    map_eq_of_mapM built fun scope rule isRule => (rule_eq_ok reads isRule).1.symm
  have distinct : (rules.map Rule.scope).Nodup := by
    rw [← sameScopes, List.map_id]
    refine (scopes_inOrder said).imp ?_
    rintro left _ isLess rfl
    simp at isLess
  obtain ⟨set, isSet, lookups⟩ := RuleSet.exists_ofRules distinct
  refine ⟨set, isSet, fun scope rule => (lookups scope rule).trans ?_⟩
  rw [mem_of_mapM built]
  constructor
  · rintro ⟨⟨other, isScope, isRule⟩, rfl⟩
    obtain rfl := (rule_eq_ok reads isRule).1
    exact ⟨isScope, isRule⟩
  · rintro ⟨isScope, isRule⟩
    exact ⟨⟨scope, isScope, isRule⟩, (rule_eq_ok reads isRule).1⟩

omit reads in
theorem exists_rule_of_built {scope : Scope} (isScope : scope ∈ (gather said).scopes) :
    ∃ rule, (gather said).rule scope = .ok rule := by
  have isListed : (gather said).rule scope ∈ rules.map .ok := by
    rw [← mapM_eq_ok_iff.mp built]
    exact List.mem_map_of_mem isScope
  obtain ⟨rule, _, isRule⟩ := List.mem_map.mp isListed
  exact ⟨rule, isRule.symm⟩

theorem wellFormed_of_built : submission.WellFormed where
  keys key value isEntry := by
    obtain ⟨parsed, _, _, isDeclared, isText, _⟩ := readable_of_said reads isEntry
    exact ⟨parsed, isDeclared, isText⟩
  values key value isEntry := by
    obtain ⟨_, level, _, _, _, isNamed⟩ := readable_of_said reads isEntry
    exact ⟨level, isNamed⟩
  narrower scope field own level gives grants := by
    have isScope : scope ∈ (gather said).scopes :=
      mem_scopes_gather.mpr ⟨_, (mem_said reads).mpr gives, rfl⟩
    exact (exists_rule_iff reads).mp (exists_rule_of_built built isScope) field own level gives grants

theorem spells_of_built {set : RuleSet} (isSet : RuleSet.ofRules rules = .ok set) :
    submission.Spells set := by
  obtain ⟨found, isFound, lookups⟩ := exists_ofRules_of_built reads built
  obtain rfl := Except.ok.inj (isSet.symm.trans isFound)
  refine ⟨fun scope => ⟨?_, ?_⟩, ?_, ?_⟩
  · intro isSome
    obtain ⟨rule, isRule⟩ := Option.isSome_iff_exists.mp isSome
    obtain ⟨⟨key, level⟩, isSaid, isScope⟩ := mem_scopes_gather.mp ((lookups scope rule).mp isRule).1
    obtain ⟨value, isEntry, _⟩ := (mem_said reads).mp isSaid
    exact ⟨key, isScope, Option.isSome_iff_exists.mpr ⟨value, isEntry⟩⟩
  · rintro ⟨key, rfl, isSome⟩
    obtain ⟨value, isEntry⟩ := Option.isSome_iff_exists.mp isSome
    obtain ⟨parsed, level, isSaid, _, isText, _⟩ :=
      readable_of_said reads ⟨isEntry, key.text_ne_roleKey⟩
    have isScope : key.scope ∈ (gather said).scopes :=
      mem_scopes_gather.mpr ⟨_, isSaid, by rw [RuleKey.text_injective isText]⟩
    obtain ⟨rule, isRule⟩ := exists_rule_of_built built isScope
    exact Option.isSome_iff_exists.mpr ⟨rule, (lookups _ rule).mpr ⟨isScope, isRule⟩⟩
  · intro scope rule isRule
    exact (rule_eq_ok reads ((lookups scope rule).mp isRule).2).2.1
  · intro scope rule isRule
    exact (rule_eq_ok reads ((lookups scope rule).mp isRule).2).2.2

end Built

end Reading

theorem ruleSet_eq_of_unread {error : AccessError}
    (unread : submission.ruleEntries.mapM readEntry = .error error) :
    submission.ruleSet = .error error := by
  rw [ruleSet, foldlM_eq_map_mapM Gathered.add_eq, unread]
  rfl

theorem ruleSet_eq_error_iff {error : AccessError} :
    submission.ruleSet = .error error ↔ submission.Refusal error := by
  cases reads : submission.ruleEntries.mapM readEntry with
  | ok said =>
      rw [ruleSet_eq reads, ← ruleSet_eq_error_iff_of_reads reads]
      cases built : (gather said).scopes.mapM (gather said).rule with
      | error cause => simp [Except.bind]
      | ok rules =>
          obtain ⟨set, isSet, _⟩ := exists_ofRules_of_built reads built
          simp [Except.bind, isSet]
  | error cause =>
      -- All entries are read before any rule is built, so fields above their scope do not come up.
      obtain ⟨key, value, isEntry, fault, isFirst⟩ := mapM_readEntry_eq_error_iff.mp reads
      rw [ruleSet_eq_of_unread reads, Except.error.injEq]
      constructor
      · rintro rfl
        exact .entry isEntry fault isFirst
      · intro refusal
        cases refusal with
        | entry isEntryToo faultToo isFirstToo =>
            have readsToo := mapM_readEntry_eq_error_iff.mpr ⟨_, _, isEntryToo, faultToo, isFirstToo⟩
            exact Except.error.inj (reads.symm.trans readsToo)
        | excess isClean _ _ _ _ => exact absurd fault (isClean key value isEntry cause)

/-- A submission that can be read is well-formed, and spells out the rule set that is read off it. -/
theorem spells_of_ruleSet {set : RuleSet} (isRead : submission.ruleSet = .ok set) :
    submission.WellFormed ∧ submission.Spells set := by
  cases reads : submission.ruleEntries.mapM readEntry with
  | error cause =>
      rw [ruleSet_eq_of_unread reads] at isRead
      cases isRead
  | ok said =>
      rw [ruleSet_eq reads] at isRead
      cases built : (gather said).scopes.mapM (gather said).rule with
      | error cause => simp [built, Except.bind] at isRead
      | ok rules =>
          rw [built] at isRead
          exact ⟨wellFormed_of_built reads built, spells_of_built reads built isRead⟩

theorem Spells.unique {left right : RuleSet} (first : submission.Spells left)
    (second : submission.Spells right) : left = right := by
  apply RuleSet.ext_get?
  intro scope
  have sameScopes := (first.scopes scope).trans (second.scopes scope).symm
  cases isLeft : left.get? scope with
  | none =>
      have isRight : right.get? scope = none := by simpa [isLeft] using sameScopes
      exact isRight.symm
  | some rule =>
      cases isRight : right.get? scope with
      | none => simp [isLeft, isRight] at sameScopes
      | some other =>
          have sameRule : rule = other := by
            apply Rule.ext_fieldLevel?
            · exact (left.filed scope rule isLeft).trans (right.filed scope other isRight).symm
            · exact (first.level scope rule isLeft).unique (second.level scope other isRight)
            · intro field
              apply Option.ext
              intro own
              exact (first.fields scope rule isLeft field own).trans
                (second.fields scope other isRight field own).symm
          rw [sameRule]

theorem WellFormed.not_refusal (wellFormed : submission.WellFormed) {error : AccessError} :
    ¬ submission.Refusal error := by
  intro refusal
  cases refusal with
  | @entry key value _ isEntry fault _ =>
      obtain ⟨parsed, isDeclared, isText⟩ := wellFormed.keys key value isEntry
      obtain ⟨level, isNamed⟩ := wellFormed.values key value isEntry
      exact not_entryFault isDeclared isText isNamed error fault
  | excess _ gives grants isAbove _ => exact isAbove (wellFormed.narrower _ _ _ _ gives grants)

theorem WellFormed.exists_ruleSet (wellFormed : submission.WellFormed) :
    ∃ set, submission.ruleSet = .ok set := by
  cases isRead : submission.ruleSet with
  | ok set => exact ⟨set, rfl⟩
  | error error => exact absurd (ruleSet_eq_error_iff.mp isRead) wellFormed.not_refusal

/-- A rule set is read off exactly the well-formed submissions, and it is the one that is spelled out; any
other submission is refused on account of its first fault. -/
theorem reads_exactly (submission : Submission) :
    ((∃ set, submission.ruleSet = .ok set) ↔ submission.WellFormed) ∧
      (∀ set, submission.ruleSet = .ok set ↔ submission.WellFormed ∧ submission.Spells set) ∧
        ∀ error, submission.ruleSet = .error error ↔ submission.Refusal error := by
  refine ⟨⟨?_, WellFormed.exists_ruleSet⟩, fun set => ⟨spells_of_ruleSet, ?_⟩, fun _ =>
    ruleSet_eq_error_iff⟩
  · rintro ⟨set, isRead⟩
    exact (spells_of_ruleSet isRead).1
  · rintro ⟨wellFormed, spells⟩
    obtain ⟨found, isRead⟩ := wellFormed.exists_ruleSet
    rw [isRead, (spells_of_ruleSet isRead).2.unique spells]

example : ruleSet (.ofList [("SYSTEM_ADMIN.accessLevel", " view "), ("role", "?")]) =
    .ok (RuleSet.empty.put (.bare .systemAdmin .view)) := by
  rfl

end Rolebook.Submission
