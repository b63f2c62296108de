import Rolebook.Decision

/-!
What a decision says. A role that is not super holds for a scope the level of its rule, is allowed what
that level reaches, and has to leave out just those fields of the scope that are held below what is
required. All that is known of lower requirements and of super roles follows from this account.
-/

namespace Rolebook

namespace Level

instance : LT Level :=
  ⟨fun left right => left.rank < right.rank⟩

theorem not_le {left right : Level} : ¬ left ≤ right ↔ right < left :=
  Nat.not_le

theorem lt_of_lt_of_le {low middle high : Level} (first : low < middle) (second : middle ≤ high) :
    low < high :=
  Nat.lt_of_lt_of_le first second

end Level

namespace Rule

def levelOf (rule : Rule) (field : String) : Level :=
  (rule.fieldLevel? field).getD rule.level

theorem mem_fieldsBelow {rule : Rule} {required : Level} {field : String} :
    field ∈ rule.fieldsBelow required ↔ ∃ own, rule.fieldLevel? field = some own ∧ own < required := by
  simp only [fieldsBelow, fieldLevel?, List.mem_map, List.mem_filter, OrderedMap.get?_eq_some_iff,
    Bool.not_eq_true', ← Bool.not_eq_true, Level.satisfies_iff, Level.not_le]
  constructor
  · rintro ⟨entry, ⟨isListed, isBelow⟩, rfl⟩
    exact ⟨entry.2, isListed, isBelow⟩
  · rintro ⟨own, isListed, isBelow⟩
    exact ⟨(field, own), ⟨isListed, isBelow⟩, rfl⟩

/-- Where the scope's level suffices, the fields below what is required are all that have too low a level,
as a field is never held above its scope and only declared fields have levels of their own. -/
theorem mem_fieldsBelow_iff_levelOf {rule : Rule} {required : Level} (reaches : required ≤ rule.level)
    {field : String} :
    field ∈ rule.fieldsBelow required ↔ field ∈ rule.scope.fields ∧ rule.levelOf field < required := by
  rw [mem_fieldsBelow, levelOf]
  cases found : rule.fieldLevel? field with
  | none => simp [← Level.not_le, reaches]
  | some own =>
      have isDeclared : field ∈ rule.scope.fields := Scope.declares_iff.mp (rule.declared field own found)
      simp [isDeclared]

end Rule

namespace Decision

theorem mem_sortNames {names : List String} {name : String} :
    name ∈ sortNames names ↔ name ∈ names := by
  simp only [sortNames, OrderedMap.keys, List.mem_map]
  constructor
  · rintro ⟨entry, isEntry, rfl⟩
    have isListed := OrderedMap.mem_of_get?_ofList (OrderedMap.get?_eq_some_of_mem isEntry)
    obtain ⟨found, isFound, isName⟩ := List.mem_map.mp isListed
    rwa [← congrArg Prod.fst isName]
  · intro isListed
    have isSome := OrderedMap.get?_ofList_isSome
      (List.mem_map_of_mem (f := fun name => (name, ())) isListed)
    obtain ⟨value, found⟩ := Option.isSome_iff_exists.mp isSome
    exact ⟨(name, value), OrderedMap.mem_of_get?_eq_some found, rfl⟩

theorem sortNames_increasing (names : List String) :
    (sortNames names).Pairwise fun first second => compare first second = .lt :=
  List.pairwise_map.mpr (OrderedMap.increasing _)

theorem restricts_iff {decision : Decision} {field : String} :
    decision.restricts field = true ↔ ∃ fields, decision.restricted = some fields ∧ field ∈ fields := by
  unfold restricts
  cases decision.restricted <;> simp

theorem restricted_allow {level : Level} {names fields : List String}
    (isList : (allow level names).restricted = some fields) :
    fields ≠ [] ∧ fields.Pairwise (fun first second => compare first second = .lt) ∧
      ∀ field, field ∈ fields ↔ field ∈ names := by
  unfold allow at isList
  cases names with
  | nil => cases isList
  | cons name others =>
      obtain rfl := Option.some.inj isList
      have isIn : name ∈ sortNames (name :: others) := mem_sortNames.mpr (by simp)
      exact ⟨List.ne_nil_of_mem isIn, sortNames_increasing _, fun _ => mem_sortNames⟩

theorem restricts_allow {level : Level} {names : List String} {field : String} :
    (allow level names).restricts field = true ↔ field ∈ names := by
  rw [restricts_iff]
  cases isList : (allow level names).restricted with
  | none =>
      have areNone : names = [] := by simpa [allow] using isList
      simp [areNone]
  | some fields => simp [(restricted_allow isList).2.2]

/-- A decision gives an account of a role: of what the role holds for the scope, and of how far that
reaches. -/
structure Accounts (decision : Decision) (role : Role) (scope : Scope) (required : Level) : Prop where
  allowed : decision.allowed = true ↔
    role.isSuper = true ∨ ∃ rule, role.rule? scope = some rule ∧ required ≤ rule.level
  super : role.isSuper = true → decision.level = .full
  ruled : role.isSuper = false → ∀ rule, role.rule? scope = some rule → decision.level = rule.level
  unruled : role.isSuper = false → role.rule? scope = none → decision.level = .nothing
  distinct : ∀ fields, decision.restricted = some fields →
    fields ≠ [] ∧ fields.Pairwise fun first second => compare first second = .lt
  unrestricted : role.isSuper = true ∨ decision.allowed = false → decision.restricted = none
  restricts : role.isSuper = false → decision.allowed = true → ∀ rule, role.rule? scope = some rule →
    ∀ field, decision.restricts field = true ↔ field ∈ scope.fields ∧ rule.levelOf field < required

namespace Accounts

variable {role : Role} {scope : Scope} {required : Level}

theorem allowFull (isSuper : role.isSuper = true) :
    Decision.allowFull.Accounts role scope required where
  allowed := by simp [Decision.allowFull, isSuper]
  super _ := rfl
  ruled isOrdinary := by simp [isSuper] at isOrdinary
  unruled isOrdinary := by simp [isSuper] at isOrdinary
  distinct _ isList := by simp [Decision.allowFull] at isList
  unrestricted _ := rfl
  restricts isOrdinary := by simp [isSuper] at isOrdinary

theorem deny {level : Level} (isOrdinary : role.isSuper = false)
    (isBelow : ∀ rule, role.rule? scope = some rule → level = rule.level ∧ ¬ required ≤ rule.level)
    (isNothing : role.rule? scope = none → level = .nothing) :
    (Decision.deny level).Accounts role scope required where
  allowed := by
    simp only [Decision.deny, Bool.false_eq_true, isOrdinary, false_or, false_iff, not_exists, not_and]
    exact fun rule isRule => (isBelow rule isRule).2
  super isSuper := by simp [isOrdinary] at isSuper
  ruled _ rule isRule := (isBelow rule isRule).1
  unruled _ := isNothing
  distinct _ isList := by simp [Decision.deny] at isList
  unrestricted _ := rfl
  restricts _ isAllowed := by simp [Decision.deny] at isAllowed

theorem allow {rule : Rule} (isOrdinary : role.isSuper = false) (isRule : role.rule? scope = some rule)
    (reaches : required ≤ rule.level) :
    (Decision.allow rule.level (rule.fieldsBelow required)).Accounts role scope required where
  allowed := iff_of_true rfl (.inr ⟨rule, isRule, reaches⟩)
  super isSuper := by simp [isOrdinary] at isSuper
  ruled _ other isOther := by
    obtain rfl := Option.some.inj (isRule.symm.trans isOther)
    rfl
  unruled _ isNone := by simp [isRule] at isNone
  distinct _ isList := ⟨(restricted_allow isList).1, (restricted_allow isList).2.1⟩
  unrestricted isDenied := by simp [isOrdinary, Decision.allow] at isDenied
  restricts _ _ other isOther field := by
    obtain rfl := Option.some.inj (isRule.symm.trans isOther)
    rw [restricts_allow, Rule.mem_fieldsBelow_iff_levelOf reaches, role.rules.filed scope rule isRule]

/-- Two accounts of super roles are equal. -/
theorem eq_of_isSuper {other : Role} {first second : Decision}
    (ofFirst : first.Accounts role scope required) (ofSecond : second.Accounts other scope required)
    (isSuper : role.isSuper = true) (isOtherSuper : other.isSuper = true) : first = second := by
  have sameAllowed : first.allowed = second.allowed :=
    (ofFirst.allowed.mpr (.inl isSuper)).trans (ofSecond.allowed.mpr (.inl isOtherSuper)).symm
  have sameLevel : first.level = second.level :=
    (ofFirst.super isSuper).trans (ofSecond.super isOtherSuper).symm
  have sameFields : first.restricted = second.restricted :=
    (ofFirst.unrestricted (.inl isSuper)).trans (ofSecond.unrestricted (.inl isOtherSuper)).symm
  cases first
  cases second
  simp_all

/-- What is allowed stays allowed if less is required, at the same level, and no further field has to be
left out. -/
theorem lower {lower : Level} {easier harder : Decision} (ofEasier : easier.Accounts role scope lower)
    (ofHarder : harder.Accounts role scope required) (isLower : lower ≤ required)
    (isAllowed : harder.allowed = true) :
    easier.allowed = true ∧ easier.level = harder.level ∧
      ∀ field, easier.restricts field = true → harder.restricts field = true := by
  cases isSuper : role.isSuper with
  | true =>
      refine ⟨ofEasier.allowed.mpr (.inl isSuper),
        (ofEasier.super isSuper).trans (ofHarder.super isSuper).symm, ?_⟩
      intro field isRestricted
      obtain ⟨fields, isList, _⟩ := restricts_iff.mp isRestricted
      simp [ofEasier.unrestricted (.inl isSuper)] at isList
  | false =>
      obtain ⟨rule, isRule, reaches⟩ := (ofHarder.allowed.mp isAllowed).resolve_left (by simp [isSuper])
      have isEasierAllowed : easier.allowed = true :=
        ofEasier.allowed.mpr (.inr ⟨rule, isRule, Level.le_trans isLower reaches⟩)
      refine ⟨isEasierAllowed,
        (ofEasier.ruled isSuper rule isRule).trans (ofHarder.ruled isSuper rule isRule).symm, ?_⟩
      intro field isRestricted
      obtain ⟨isDeclared, isBelow⟩ :=
        (ofEasier.restricts isSuper isEasierAllowed rule isRule field).mp isRestricted
      exact (ofHarder.restricts isSuper isAllowed rule isRule field).mpr
        ⟨isDeclared, Level.lt_of_lt_of_le isBelow isLower⟩

end Accounts

end Decision

namespace Role

theorem accounts_decide (role : Role) (scope : Scope) (required : Level) :
    (role.decide scope required).Accounts role scope required := by
  unfold decide
  split
  · rename_i isSuper
    exact .allowFull isSuper
  · rename_i notSuper
    have isOrdinary : role.isSuper = false := Bool.eq_false_iff.mpr notSuper
    cases isRule : role.rule? scope with
    | none => exact .deny isOrdinary (by simp [isRule]) fun _ => rfl
    | some rule =>
        by_cases reaches : required ≤ rule.level
        · simpa [reaches] using Decision.Accounts.allow isOrdinary isRule reaches
        · simpa [reaches] using
            Decision.Accounts.deny isOrdinary (by simp [isRule, reaches]) (by simp [isRule])

/-- A decision is a full account of the role, requiring less only loosens it, and super roles are all
decided alike. -/
theorem decide_accountably (role : Role) (scope : Scope) :
    (∀ required, (role.decide scope required).Accounts role scope required) ∧
    (∀ lower higher, lower ≤ higher → (role.decide scope higher).allowed = true →
      (role.decide scope lower).allowed = true ∧
      (role.decide scope lower).level = (role.decide scope higher).level ∧
      ∀ field, (role.decide scope lower).restricts field = true →
        (role.decide scope higher).restricts field = true) ∧
    (∀ other : Role, role.isSuper = true → other.isSuper = true →
      ∀ required, role.decide scope required = other.decide scope required) := by
  refine ⟨role.accounts_decide scope, ?_, ?_⟩
  · intro lower higher isLower isAllowed
    exact (role.accounts_decide scope lower).lower (role.accounts_decide scope higher) isLower isAllowed
  · intro other isSuper isOtherSuper required
    exact (role.accounts_decide scope required).eq_of_isSuper (other.accounts_decide scope required)
      isSuper isOtherSuper

end Role

section Office

/-- Employment records may be edited, but for the salary, which is hidden, and the status, which may only
be seen. -/
def archive : Rule :=
  (Rule.build .employmentRecords .edit [⟨"status", .view⟩, ⟨"salary", .nothing⟩]).toOption.get (by decide)

def archivist : Role :=
  ⟨⟨⟨3⟩⟩, "Archivist", none, false, RuleSet.empty.put archive, by decide, by decide⟩

def founder : Role :=
  ⟨⟨⟨4⟩⟩, "Founder", none, true, .empty, by decide, by decide⟩

def deputy : Role :=
  ⟨⟨⟨5⟩⟩, "Deputy", none, true, archivist.rules, by decide, by decide⟩

theorem Role.decide_accountably_archivist :
    archivist.decide .employmentRecords .edit = ⟨true, .edit, some ["salary", "status"]⟩ ∧
    archivist.decide .employmentRecords .view = ⟨true, .edit, some ["salary"]⟩ ∧
    (archivist.decide .employmentRecords .edit).Accounts archivist .employmentRecords .edit ∧
    (∀ field, (archivist.decide .employmentRecords .view).restricts field = true →
      (archivist.decide .employmentRecords .edit).restricts field = true) ∧
    founder.rules ≠ deputy.rules ∧
    founder.decide .employmentRecords .edit = deputy.decide .employmentRecords .edit := by
  refine ⟨by decide, by decide, ?_, ?_, by decide, ?_⟩
  · exact (decide_accountably archivist .employmentRecords).1 .edit
  · exact ((decide_accountably archivist .employmentRecords).2.1 .view .edit (by decide) (by decide)).2.2
  · exact (decide_accountably founder .employmentRecords).2.2 deputy (by decide) (by decide) .edit

end Office

end Rolebook
