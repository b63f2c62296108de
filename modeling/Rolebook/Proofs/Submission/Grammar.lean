import Rolebook.Proofs.FirstFault
import Rolebook.Proofs.Submission.Key

/-!
The grammar of submissions. A submission is well-formed if each of its entries can be read by itself and
no field is above its scope. One that is not is refused on account of the first entry that cannot be
read, or if all can be read, of the first field that is above its scope.
-/

namespace Rolebook

/-- A text names a level if it is the name, up to blanks around it and the case of its letters. -/
def Level.NamedBy (level : Level) (text : String) : Prop :=
  Text.sameLetters level.name (Text.trim text) = true

theorem Level.parse?_eq_some_iff {text : String} {level : Level} :
    parse? text = some level ↔ level.NamedBy text := by
  constructor
  · intro found
    simpa [NamedBy] using List.find?_some found
  · intro isNamed
    cases found : parse? text with
    | none =>
        have isListed : level ∈ all := by cases level <;> simp [all]
        exact absurd isNamed (List.find?_eq_none.mp found level isListed)
    | some other =>
        have isOther : other.NamedBy text := by simpa [NamedBy] using List.find?_some found
        rw [NamedBy, Text.sameLetters_iff] at isNamed isOther
        have sameName := isOther.trans isNamed.symm
        revert sameName
        cases other <;> cases level <;> decide

theorem Level.NamedBy.unique {left right : Level} {text : String} (first : left.NamedBy text)
    (second : right.NamedBy text) : left = right :=
  Option.some.inj ((parse?_eq_some_iff.mpr first).symm.trans (parse?_eq_some_iff.mpr second))

theorem Level.read_eq_error_iff {text : String} {error : AccessError} :
    Level.read text = .error error ↔
      error = .invalidLevel text ∧ ∀ level : Level, ¬ level.NamedBy text := by
  simp only [← Level.parse?_eq_some_iff, ← Option.eq_none_iff_forall_ne_some]
  unfold Level.read
  cases parse? text <;> simp [eq_comm]

namespace Submission

variable {submission : Submission}

/-- The submission has an entry for what the key speaks of, and the entry names the level. -/
def Gives (submission : Submission) (key : RuleKey) (level : Level) : Prop :=
  ∃ value, submission.get? key.text = some value ∧ level.NamedBy value

theorem Gives.unique {key : RuleKey} {left right : Level} (first : submission.Gives key left)
    (second : submission.Gives key right) : left = right := by
  obtain ⟨value, isEntry, isLeft⟩ := first
  obtain ⟨other, isOther, isRight⟩ := second
  obtain rfl := Option.some.inj (isEntry.symm.trans isOther)
  exact isLeft.unique isRight

/-- The level of a scope: the one that is given for it, or the lowest one if there is no entry. -/
def Grants (submission : Submission) (scope : Scope) (level : Level) : Prop :=
  submission.Gives (.scopeLevel scope) level ∨
    submission.get? (RuleKey.ofScope scope) = none ∧ level = .nothing

theorem Grants.unique {scope : Scope} {left right : Level} (first : submission.Grants scope left)
    (second : submission.Grants scope right) : left = right := by
  rcases first with gives | ⟨isAbsent, rfl⟩ <;> rcases second with givesToo | ⟨isAbsentToo, rfl⟩
  · exact gives.unique givesToo
  · obtain ⟨_, isEntry, _⟩ := gives
    exact absurd (isEntry.symm.trans isAbsentToo) (by simp)
  · obtain ⟨_, isEntry, _⟩ := givesToo
    exact absurd (isEntry.symm.trans isAbsent) (by simp)
  · rfl

/-- An entry that says something about rules. -/
def Says (submission : Submission) (key value : String) : Prop :=
  submission.get? key = some value ∧ key ≠ roleKey

structure WellFormed (submission : Submission) : Prop where
  keys : ∀ key value, submission.Says key value →
    ∃ parsed : RuleKey, parsed.IsDeclared ∧ parsed.text = key
  values : ∀ key value, submission.Says key value → ∃ level : Level, level.NamedBy value
  narrower : ∀ scope field own level, submission.Gives (.fieldLevel scope field) own →
    submission.Grants scope level → own ≤ level

/-- The rule set has what is written in the submission and nothing else. -/
structure Spells (submission : Submission) (rules : RuleSet) : Prop where
  scopes : ∀ scope, (rules.get? scope).isSome = true ↔
    ∃ key : RuleKey, key.scope = scope ∧ (submission.get? key.text).isSome = true
  level : ∀ scope rule, rules.get? scope = some rule → submission.Grants scope rule.level
  fields : ∀ scope rule, rules.get? scope = some rule → ∀ field own,
    rule.fieldLevel? field = some own ↔ submission.Gives (.fieldLevel scope field) own

/-- What is wrong with an entry. Its key is looked at first. -/
inductive EntryFault (key value : String) : AccessError → Prop where
  | key {error : AccessError} (fault : RuleKey.Fault key error) : EntryFault key value error
  | level {parsed : RuleKey} (isDeclared : parsed.IsDeclared) (isKey : parsed.text = key)
      (isUnknown : ∀ level : Level, ¬ level.NamedBy value) : EntryFault key value (.invalidLevel value)

/-- A field that comes before another one: by its scope, or by its key within the scope. -/
def FieldBefore (scope other : Scope) (field otherField : String) : Prop :=
  compare scope other = .lt ∨
    scope = other ∧ compare (RuleKey.ofField scope field) (RuleKey.ofField other otherField) = .lt

/-- What is wrong with a submission: the fault of its first faulty entry, or of its first field that is
above its scope. -/
inductive Refusal (submission : Submission) : AccessError → Prop where
  | entry {key value : String} {error : AccessError} (isEntry : submission.Says key value)
      (fault : EntryFault key value error)
      (isFirst : ∀ earlier other, submission.Says earlier other → compare earlier key = .lt →
        ∀ cause, ¬ EntryFault earlier other cause) : Refusal submission error
  | excess {scope : Scope} {field : String} {own level : Level}
      (isClean : ∀ key value, submission.Says key value → ∀ cause, ¬ EntryFault key value cause)
      (gives : submission.Gives (.fieldLevel scope field) own) (grants : submission.Grants scope level)
      (isAbove : ¬ own ≤ level)
      (isFirst : ∀ other otherField otherOwn otherLevel,
        submission.Gives (.fieldLevel other otherField) otherOwn → submission.Grants other otherLevel →
          FieldBefore other scope otherField field → otherOwn ≤ otherLevel) :
      Refusal submission (.fieldAboveScope scope field own level)

section Entries

def readEntry (entry : String × String) : Except AccessError (RuleKey × Level) := do
  let key ← RuleKey.read entry.1
  let level ← Level.read entry.2
  return (key, level)

theorem readEntry_eq_ok_iff {entry : String × String} {key : RuleKey} {level : Level} :
    readEntry entry = .ok (key, level) ↔
      key.IsDeclared ∧ key.text = entry.1 ∧ level.NamedBy entry.2 := by
  rw [← Level.parse?_eq_some_iff, ← Level.read_eq_ok_iff, ← and_assoc, ← RuleKey.read_eq_ok_iff]
  unfold readEntry
  cases RuleKey.read entry.1 <;> cases Level.read entry.2 <;>
    simp [bind, Except.bind, pure, Except.pure]

theorem readEntry_eq_error_iff {entry : String × String} {error : AccessError} :
    readEntry entry = .error error ↔ EntryFault entry.1 entry.2 error := by
  unfold readEntry
  constructor
  · intro failed
    cases isKey : RuleKey.read entry.1 with
    | error cause =>
        rw [isKey] at failed
        obtain rfl := Except.error.inj failed
        exact .key (RuleKey.read_eq_error_iff.mp isKey)
    | ok key =>
        obtain ⟨isDeclared, isText⟩ := RuleKey.read_eq_ok_iff.mp isKey
        cases isLevel : Level.read entry.2 with
        | error cause =>
            rw [isKey, isLevel] at failed
            obtain rfl := Except.error.inj failed
            obtain ⟨rfl, isUnknown⟩ := Level.read_eq_error_iff.mp isLevel
            exact .level isDeclared isText isUnknown
        | ok level =>
            rw [isKey, isLevel] at failed
            cases failed
  · rintro (fault | ⟨isDeclared, isText, isUnknown⟩)
    · rw [RuleKey.read_eq_error_iff.mpr fault]
      rfl
    · rw [RuleKey.read_eq_ok_iff.mpr ⟨isDeclared, isText⟩, Level.read_eq_error_iff.mpr ⟨rfl, isUnknown⟩]
      rfl

theorem readable_iff {entry : String × String} :
    (∃ said, readEntry entry = .ok said) ↔ ∀ cause, ¬ EntryFault entry.1 entry.2 cause := by
  simp only [← readEntry_eq_error_iff]
  cases readEntry entry <;> simp

theorem not_entryFault {parsed : RuleKey} {level : Level} {key value : String}
    (isDeclared : parsed.IsDeclared) (isText : parsed.text = key) (isNamed : level.NamedBy value)
    (cause : AccessError) : ¬ EntryFault key value cause := by
  have isReadable : ∃ said, readEntry (key, value) = .ok said :=
    ⟨(parsed, level), readEntry_eq_ok_iff.mpr ⟨isDeclared, isText, isNamed⟩⟩
  exact readable_iff.mp isReadable cause

theorem mem_ruleEntries {entry : String × String} :
    entry ∈ submission.ruleEntries ↔ submission.Says entry.1 entry.2 := by
  simp [ruleEntries, Says, OrderedMap.get?_eq_some_iff]

theorem compare_asymmetric {Key : Type} [Ord Key] [Std.TransOrd Key] (left right : Key)
    (isLess : compare left right = .lt) : compare right left ≠ .lt := by
  intro isMore
  exact absurd (Std.TransCmp.lt_trans isLess isMore) (by simp)

theorem mapM_readEntry_eq_error_iff {error : AccessError} :
    submission.ruleEntries.mapM readEntry = .error error ↔
      ∃ key value, submission.Says key value ∧ EntryFault key value error ∧
        ∀ earlier other, submission.Says earlier other → compare earlier key = .lt →
          ∀ cause, ¬ EntryFault earlier other cause := by
  have inOrder : submission.ruleEntries.Pairwise fun left right => compare left.1 right.1 = .lt :=
    submission.increasing.filter _
  rw [mapM_eq_error_iff, faultIn_iff_of_pairwise inOrder fun _ _ => compare_asymmetric _ _]
  simp only [mem_ruleEntries, readEntry_eq_error_iff, readable_iff]
  simp only [Prod.exists, Prod.forall]

end Entries

end Submission

end Rolebook
