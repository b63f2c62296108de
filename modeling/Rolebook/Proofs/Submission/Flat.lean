import Rolebook.Proofs.Draft
import Rolebook.Proofs.Submission.Spelling

/-!
Drafts written flat. The entries of a draft are the level of its scope and those of its fields, under keys
that are put together of the texts as they are. Texts with full stops in them may make keys that collide
or that read as something else; no such key is one of a declared field, so a submission of these entries
is read exactly if the drafts pass, and as the same rule set.
-/

namespace Rolebook

namespace RuleDraft

def entries (draft : RuleDraft) : List (String × String) :=
  (draft.scope ++ ".accessLevel", draft.level) ::
    draft.fields.map fun entry => (draft.scope ++ ".field." ++ entry.field, entry.level)

inductive Says (draft : RuleDraft) : RuleKey → String → Prop where
  | level {scope : Scope} (isScope : scope.name = draft.scope) : Says draft (.scopeLevel scope) draft.level
  | field {scope : Scope} {entry : FieldDraft} (isScope : scope.name = draft.scope)
      (isEntry : entry ∈ draft.fields) : Says draft (.fieldLevel scope entry.field) entry.level

theorem Says.isScope {draft : RuleDraft} {key : RuleKey} {value : String} (isSaid : draft.Says key value) :
    key.scope.name = draft.scope := by
  cases isSaid <;> assumption

theorem Says.mem_entries {draft : RuleDraft} {key : RuleKey} {value : String}
    (isSaid : draft.Says key value) : (key.text, value) ∈ draft.entries := by
  cases isSaid with
  | level isScope =>
      rw [RuleKey.text, RuleKey.ofScope, isScope]
      exact List.mem_cons_self
  | field isScope isEntry =>
      rw [RuleKey.text, RuleKey.ofField, isScope]
      exact List.mem_cons_of_mem _ (List.mem_map_of_mem isEntry)

theorem exists_saying {draft : RuleDraft} {scope : Scope} (isScope : scope.name = draft.scope)
    {entry : String × String} (isEntry : entry ∈ draft.entries) :
    ∃ key : RuleKey, key.text = entry.1 ∧ draft.Says key entry.2 := by
  rcases List.mem_cons.mp isEntry with rfl | isField
  · exact ⟨.scopeLevel scope, by rw [RuleKey.text, RuleKey.ofScope, isScope], .level isScope⟩
  · obtain ⟨field, isListed, rfl⟩ := List.mem_map.mp isField
    exact ⟨.fieldLevel scope field.field, by rw [RuleKey.text, RuleKey.ofField, isScope],
      .field isScope isListed⟩

section Described

variable {draft : RuleDraft} {rule : Rule} (describes : draft.Describes rule) {key : RuleKey}
  {value : String} (isSaid : draft.Says key value)

include describes isSaid

theorem Describes.scope_of_says : key.scope = rule.scope :=
  Scope.name_injective (isSaid.isScope.trans describes.scope.symm)

theorem Describes.isDeclared_of_says : key.IsDeclared := by
  have isScope := describes.scope_of_says isSaid
  cases isSaid with
  | level _ => trivial
  | @field scope entry _ isEntry =>
      obtain ⟨own, isNamed⟩ := describes.legible entry isEntry
      have isField := (describes.fields entry.field own).mpr ⟨entry, isEntry, rfl, isNamed⟩
      obtain rfl : scope = rule.scope := isScope
      exact Scope.declares_iff.mp (rule.declared entry.field own isField)

theorem Describes.named_of_says : ∃ level : Level, level.NamedBy value := by
  cases isSaid with
  | level _ => exact ⟨rule.level, describes.level⟩
  | field _ isEntry => exact describes.legible _ isEntry

end Described

/-- Drafts with texts of all kinds, of which no two are for one scope and none has a field twice. -/
structure Distinct (drafts : List RuleDraft) : Prop where
  scopes : (drafts.map RuleDraft.scope).Nodup
  fields : ∀ draft ∈ drafts, (draft.fields.map FieldDraft.field).Nodup

theorem Distinct.unique {drafts : List RuleDraft} (distinct : Distinct drafts) {left right : RuleDraft}
    (isLeft : left ∈ drafts) (isRight : right ∈ drafts) {key : RuleKey} {value other : String}
    (isSaid : left.Says key value) (isSaidToo : right.Says key other) : left = right ∧ value = other := by
  obtain rfl : left = right :=
    List.inj_on_of_nodup_map distinct.scopes isLeft isRight (isSaid.isScope.symm.trans isSaidToo.isScope)
  refine ⟨rfl, ?_⟩
  cases isSaid with
  | level _ => cases isSaidToo; rfl
  | @field scope entry _ isEntry =>
      generalize isKey : RuleKey.fieldLevel scope entry.field = key at isSaidToo
      cases isSaidToo with
      | level _ => cases isKey
      | @field _ second _ isSecond =>
          obtain ⟨_, sameField⟩ := RuleKey.fieldLevel.inj isKey
          rw [List.inj_on_of_nodup_map (distinct.fields left isLeft) isEntry isSecond sameField]

end RuleDraft

namespace RuleKey

theorem eq_scopeLevel_of_text {parsed : RuleKey} {name : String} (isDeclared : parsed.IsDeclared)
    (isKey : parsed.text = name ++ ".accessLevel") :
    ∃ scope : Scope, parsed = .scopeLevel scope ∧ scope.name = name := by
  cases parsed with
  | scopeLevel scope => exact ⟨scope, rfl, (String.append_left_inj _).mp isKey⟩
  | fieldLevel scope field =>
      have noEnd : ∀ scope : Scope, ∀ field ∈ scope.fields,
          ¬ ".accessLevel".toList <:+ (ofField scope field).toList := by
        intro scope
        cases scope <;> decide
      refine absurd ?_ (noEnd scope field isDeclared)
      rw [show ofField scope field = _ from isKey, String.toList_append]
      exact List.suffix_append _ _

/-- A text with a full stop in it is not the one that selects a role. -/
theorem ne_roleKey_of_mem {key : String} (isCut : '.' ∈ key.toList) : key ≠ roleKey := by
  rintro rfl
  exact absurd isCut (by decide)

end RuleKey

/-- A submission of the entries, in which one of those that have the same key has been kept. -/
structure Submission.Keeps (submission : Submission) (entries : List (String × String)) : Prop where
  isEntry : ∀ key value, submission.get? key = some value → (key, value) ∈ entries
  isSome : ∀ entry ∈ entries, (submission.get? entry.1).isSome

theorem Submission.keeps_ofList {entries others : List (String × String)} (reordered : others.Perm entries) :
    Submission.Keeps (.ofList others) entries where
  isEntry _ _ found := reordered.mem_iff.mp (OrderedMap.mem_of_get?_ofList found)
  isSome _ isListed := OrderedMap.get?_ofList_isSome (reordered.mem_iff.mpr isListed)

namespace RuleDraft

section Agreement

variable {drafts : List RuleDraft} {submission : Submission} (distinct : Distinct drafts)
  (keeps : submission.Keeps (drafts.flatMap entries))

theorem exists_scope_of_wellFormed (keeps : submission.Keeps (drafts.flatMap entries))
    (wellFormed : submission.WellFormed) {draft : RuleDraft} (isListed : draft ∈ drafts) :
    ∃ scope : Scope, scope.name = draft.scope := by
  have isEntry : (draft.scope ++ ".accessLevel", draft.level) ∈ drafts.flatMap entries :=
    List.mem_flatMap.mpr ⟨draft, isListed, List.mem_cons_self⟩
  obtain ⟨value, isKept⟩ := Option.isSome_iff_exists.mp (keeps.isSome _ isEntry)
  have isNotRole : draft.scope ++ ".accessLevel" ≠ roleKey :=
    RuleKey.ne_roleKey_of_mem (by simp)
  obtain ⟨parsed, isDeclared, isKey⟩ := wellFormed.keys _ value ⟨isKept, isNotRole⟩
  obtain ⟨scope, _, isScope⟩ := RuleKey.eq_scopeLevel_of_text isDeclared isKey
  exact ⟨scope, isScope⟩

section Named

variable (named : ∀ draft ∈ drafts, ∃ scope : Scope, scope.name = draft.scope)

include keeps named

theorem exists_saying_of_kept {key value : String} (isKept : submission.get? key = some value) :
    ∃ draft ∈ drafts, ∃ parsed : RuleKey, parsed.text = key ∧ draft.Says parsed value := by
  obtain ⟨draft, isListed, isEntry⟩ := List.mem_flatMap.mp (keeps.isEntry key value isKept)
  obtain ⟨scope, isScope⟩ := named draft isListed
  obtain ⟨parsed, isKey, isSaid⟩ := exists_saying isScope isEntry
  exact ⟨draft, isListed, parsed, isKey, isSaid⟩

include distinct

/-- What a draft says of a key is what has been kept of it. -/
theorem get?_text {draft : RuleDraft} (isListed : draft ∈ drafts) {key : RuleKey} {value : String}
    (isSaid : draft.Says key value) : submission.get? key.text = some value := by
  have isEntry : (key.text, value) ∈ drafts.flatMap entries :=
    List.mem_flatMap.mpr ⟨draft, isListed, isSaid.mem_entries⟩
  obtain ⟨other, isKept⟩ := Option.isSome_iff_exists.mp (keeps.isSome _ isEntry)
  obtain ⟨second, isSecond, parsed, isKey, isSaidToo⟩ := exists_saying_of_kept keeps named isKept
  obtain rfl := RuleKey.text_injective isKey
  rw [isKept, (distinct.unique isSecond isListed isSaidToo isSaid).2]

section Draft

variable {draft : RuleDraft} (isListed : draft ∈ drafts) {scope : Scope}
  (isScope : scope.name = draft.scope)

include isListed isScope

theorem gives_scopeLevel_iff {level : Level} :
    submission.Gives (.scopeLevel scope) level ↔ level.NamedBy draft.level := by
  have isKept := get?_text distinct keeps named isListed (.level isScope)
  constructor
  · rintro ⟨value, isKeptToo, isNamed⟩
    exact Option.some.inj (isKept.symm.trans isKeptToo) ▸ isNamed
  · intro isNamed
    exact ⟨draft.level, isKept, isNamed⟩

theorem gives_fieldLevel_iff {field : String} {own : Level} :
    submission.Gives (.fieldLevel scope field) own ↔
      ∃ entry ∈ draft.fields, entry.field = field ∧ own.NamedBy entry.level := by
  constructor
  · rintro ⟨value, isKept, isNamed⟩
    obtain ⟨other, isOther, parsed, isKey, isSaid⟩ := exists_saying_of_kept keeps named isKept
    obtain rfl := RuleKey.text_injective isKey
    obtain rfl : other = draft :=
      List.inj_on_of_nodup_map distinct.scopes isOther isListed (isSaid.isScope.symm.trans isScope)
    cases isSaid with
    | @field _ entry _ isEntry => exact ⟨entry, isEntry, rfl, isNamed⟩
  · rintro ⟨entry, isEntry, rfl, isNamed⟩
    exact ⟨entry.level, get?_text distinct keeps named isListed (.field isScope isEntry), isNamed⟩

end Draft

end Named

section Described

variable {set : RuleSet} (describe : DescribeAll drafts set)

include describe

theorem named_of_describeAll : ∀ draft ∈ drafts, ∃ scope : Scope, scope.name = draft.scope := by
  intro draft isListed
  obtain ⟨rule, _, describes⟩ := describe.rules draft isListed
  exact ⟨rule.scope, describes.scope⟩

include keeps

theorem exists_rule_of_kept {key value : String} (isKept : submission.get? key = some value) :
    ∃ draft ∈ drafts, ∃ rule ∈ set.toList, draft.Describes rule ∧
      ∃ parsed : RuleKey, parsed.text = key ∧ draft.Says parsed value := by
  obtain ⟨draft, isListed, said⟩ :=
    exists_saying_of_kept keeps (named_of_describeAll describe) isKept
  obtain ⟨rule, isRule, describes⟩ := describe.rules draft isListed
  exact ⟨draft, isListed, rule, isRule, describes, said⟩

include distinct

theorem spells_of_describeAll : submission.Spells set := by
  have named := named_of_describeAll describe
  have described {scope : Scope} {rule : Rule} (isRule : set.get? scope = some rule) :
      ∃ draft ∈ drafts, scope.name = draft.scope ∧ draft.Describes rule := by
    obtain rfl := set.filed scope rule isRule
    obtain ⟨draft, isListed, describes⟩ := describe.drafts rule (RuleSet.mem_toList.mpr isRule)
    exact ⟨draft, isListed, describes.scope, describes⟩
  refine ⟨fun scope => ⟨?_, ?_⟩, ?_, ?_⟩
  · intro isSome
    obtain ⟨rule, isRule⟩ := Option.isSome_iff_exists.mp isSome
    obtain ⟨draft, isListed, isScope, _⟩ := described isRule
    have isKept := get?_text distinct keeps named isListed (.level isScope)
    exact ⟨.scopeLevel scope, rfl, Option.isSome_of_mem isKept⟩
  · rintro ⟨key, rfl, isSome⟩
    obtain ⟨value, isKept⟩ := Option.isSome_iff_exists.mp isSome
    obtain ⟨draft, _, rule, isRule, describes, parsed, isKey, isSaid⟩ :=
      exists_rule_of_kept keeps describe isKept
    obtain rfl := RuleKey.text_injective isKey
    rw [describes.scope_of_says isSaid, RuleSet.mem_toList.mp isRule]
    rfl
  · intro scope rule isRule
    obtain ⟨draft, isListed, isScope, describes⟩ := described isRule
    exact .inl ((gives_scopeLevel_iff distinct keeps named isListed isScope).mpr describes.level)
  · intro scope rule isRule field own
    obtain ⟨draft, isListed, isScope, describes⟩ := described isRule
    rw [describes.fields, gives_fieldLevel_iff distinct keeps named isListed isScope]

theorem wellFormed_of_describeAll : submission.WellFormed where
  keys key value isEntry := by
    obtain ⟨_, _, _, _, describes, parsed, isKey, isSaid⟩ := exists_rule_of_kept keeps describe isEntry.1
    exact ⟨parsed, describes.isDeclared_of_says isSaid, isKey⟩
  values key value isEntry := by
    obtain ⟨_, _, _, _, describes, parsed, _, isSaid⟩ := exists_rule_of_kept keeps describe isEntry.1
    exact describes.named_of_says isSaid
  narrower scope field own level gives grants := by
    have spelled := spells_of_describeAll distinct keeps describe
    have isGiven := gives
    obtain ⟨value, isKept, _⟩ := gives
    have isRuled : (set.get? scope).isSome :=
      (spelled.scopes scope).mpr ⟨.fieldLevel scope field, rfl, Option.isSome_of_mem isKept⟩
    obtain ⟨rule, isRule⟩ := Option.isSome_iff_exists.mp isRuled
    rw [grants.unique (spelled.level scope rule isRule)]
    exact rule.narrower field own ((spelled.fields scope rule isRule field own).mpr isGiven)

end Described

include distinct keeps

theorem describeAll_of_spells (wellFormed : submission.WellFormed) {set : RuleSet}
    (spelled : submission.Spells set) : DescribeAll drafts set := by
  have named : ∀ draft ∈ drafts, ∃ scope : Scope, scope.name = draft.scope := fun _ isListed =>
    exists_scope_of_wellFormed keeps wellFormed isListed
  have describes : ∀ draft ∈ drafts, ∃ rule ∈ set.toList, draft.Describes rule := by
    intro draft isListed
    obtain ⟨scope, isScope⟩ := named draft isListed
    have isKept := get?_text distinct keeps named isListed (.level isScope)
    obtain ⟨rule, isRule⟩ := Option.isSome_iff_exists.mp
      ((spelled.scopes scope).mpr ⟨.scopeLevel scope, rfl, Option.isSome_of_mem isKept⟩)
    obtain rfl := set.filed scope rule isRule
    refine ⟨rule, RuleSet.mem_toList.mpr isRule, isScope, ?_, ?_, distinct.fields draft isListed, ?_⟩
    · rcases spelled.level rule.scope rule isRule with gives | ⟨isAbsent, _⟩
      · exact (gives_scopeLevel_iff distinct keeps named isListed isScope).mp gives
      · cases isKept.symm.trans isAbsent
    · intro entry isEntry
      have isFieldKept := get?_text distinct keeps named isListed (.field isScope isEntry)
      exact wellFormed.values _ _ ⟨isFieldKept, RuleKey.text_ne_roleKey _⟩
    · intro field own
      rw [spelled.fields rule.scope rule isRule,
        gives_fieldLevel_iff distinct keeps named isListed isScope]
  refine ⟨distinct.scopes, describes, fun rule isRule => ?_⟩
  have isRuled : (set.get? rule.scope).isSome := Option.isSome_of_mem (RuleSet.mem_toList.mp isRule)
  obtain ⟨key, isScope, isSome⟩ := (spelled.scopes rule.scope).mp isRuled
  obtain ⟨value, isKept⟩ := Option.isSome_iff_exists.mp isSome
  obtain ⟨draft, isListed, parsed, isKey, isSaid⟩ := exists_saying_of_kept keeps named isKept
  obtain rfl := RuleKey.text_injective isKey
  obtain ⟨other, isOther, describesOther⟩ := describes draft isListed
  have sameScope : other.scope = rule.scope := (describesOther.scope_of_says isSaid).symm.trans isScope
  have isFound := RuleSet.mem_toList.mp isOther
  rw [sameScope, RuleSet.mem_toList.mp isRule] at isFound
  exact ⟨draft, isListed, Option.some.inj isFound ▸ describesOther⟩

/-- The submission of the drafts' entries spells out the rule set that the drafts describe. -/
theorem ruleSet_eq_ok_iff {set : RuleSet} :
    submission.ruleSet = .ok set ↔ checkAll drafts = .ok set := by
  rw [checkAll_eq_ok_iff]
  constructor
  · intro isRead
    obtain ⟨wellFormed, spelled⟩ := Submission.spells_of_ruleSet isRead
    exact describeAll_of_spells distinct keeps wellFormed spelled
  · intro describe
    obtain ⟨found, isRead⟩ :=
      (wellFormed_of_describeAll distinct keeps describe).exists_ruleSet
    rw [isRead, (Submission.spells_of_ruleSet isRead).2.unique (spells_of_describeAll distinct keeps describe)]

end Agreement

end RuleDraft

namespace RoleDraft

/-- The rules of a draft pass exactly if a submission of their entries is read, in whatever order they are
submitted, and come to the same rule set. -/
theorem reads_flat_alike {draft : RoleDraft} (distinct : RuleDraft.Distinct draft.rules)
    {entries : List (String × String)}
    (reordered : entries.Perm (draft.rules.flatMap RuleDraft.entries)) :
    ((∃ role, draft.check = .ok role) ↔ ∃ set, Submission.ruleSet (.ofList entries) = .ok set) ∧
      ∀ role set, draft.check = .ok role → Submission.ruleSet (.ofList entries) = .ok set →
        role.rules = set := by
  have readsAlike {set : RuleSet} : Submission.ruleSet (.ofList entries) = .ok set ↔
      RuleDraft.checkAll draft.rules = .ok set :=
    RuleDraft.ruleSet_eq_ok_iff distinct (Submission.keeps_ofList reordered)
  simp only [check_eq_ok_iff, readsAlike]
  constructor
  · constructor
    · rintro ⟨role, set, areChecked, _⟩
      exact ⟨set, areChecked⟩
    · rintro ⟨set, areChecked⟩
      exact ⟨_, set, areChecked, rfl⟩
  · rintro role set ⟨other, areChecked, rfl⟩ areCheckedToo
    exact Except.ok.inj (areChecked.symm.trans areCheckedToo)

def auditor : RoleDraft :=
  ⟨"Auditor", none, false,
    [⟨"EMPLOYEE_RECORDS", "Edit", [⟨"dob", " none"⟩, ⟨"contact", "VIEW"⟩]⟩, ⟨"SYSTEM_ADMIN", "view", []⟩]⟩

theorem reads_flat_alike_auditor : RuleDraft.Distinct auditor.rules ∧
    ∃ role, auditor.check = .ok role ∧
      Submission.ruleSet (.ofList (auditor.rules.flatMap RuleDraft.entries).reverse) =
        .ok role.rules := by
  have distinct : RuleDraft.Distinct auditor.rules := ⟨by decide, by decide⟩
  obtain ⟨bothPass, sameRules⟩ := reads_flat_alike distinct (List.reverse_perm _)
  obtain ⟨role, isChecked⟩ : ∃ role, auditor.check = .ok role := ⟨_, rfl⟩
  obtain ⟨set, isRead⟩ := bothPass.mp ⟨role, isChecked⟩
  rw [← sameRules role set isChecked isRead] at isRead
  exact ⟨distinct, role, isChecked, isRead⟩

end RoleDraft

end Rolebook
