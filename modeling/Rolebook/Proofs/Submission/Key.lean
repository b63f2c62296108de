import Rolebook.Submission

/-!
The keys of submissions. A key is the written form of what it speaks of, and there is one such form for
each scope and for each field that a scope declares. Any other key is at fault, and the fault tells how
far it could be read.
-/

namespace Rolebook

theorem cutAtStop_of_not_mem {characters : List Char} (isWhole : '.' ∉ characters) :
    cutAtStop characters = (characters, none) := by
  induction characters with
  | nil => rfl
  | cons head tail inductionHypothesis =>
      simp only [List.mem_cons, not_or] at isWhole
      rw [cutAtStop, inductionHypothesis isWhole.2]
      exact fun isStop => isWhole.1 isStop.symm

theorem cutAtStop_append {before : List Char} (isFirst : '.' ∉ before) (after : List Char) :
    cutAtStop (before ++ '.' :: after) = (before, some after) := by
  induction before with
  | nil => rfl
  | cons head tail inductionHypothesis =>
      simp only [List.mem_cons, not_or] at isFirst
      rw [List.cons_append, cutAtStop, inductionHypothesis isFirst.2]
      exact fun isStop => isFirst.1 isStop.symm

def beforeStop (text : String) : String :=
  String.ofList (text.toList.takeWhile (· ≠ '.'))

theorem cutAtStop_fst (characters : List Char) :
    (cutAtStop characters).1 = characters.takeWhile (· ≠ '.') := by
  induction characters with
  | nil => rfl
  | cons head tail inductionHypothesis =>
      by_cases isStop : head = '.'
      · subst isStop
        rfl
      · rw [cutAtStop, List.takeWhile_cons, if_pos (by simpa using isStop), ← inductionHypothesis]
        exact isStop

theorem eq_of_cutAtStop {characters before : List Char} {after : Option (List Char)}
    (cut : cutAtStop characters = (before, after)) :
    characters = before ++ (after.map ('.' :: ·)).getD [] := by
  by_cases isCut : '.' ∈ characters
  · obtain ⟨first, rest, rfl, isFirst⟩ := List.eq_append_cons_of_mem isCut
    rw [cutAtStop_append isFirst] at cut
    obtain ⟨rfl, rfl⟩ := Prod.mk.inj cut
    rfl
  · rw [cutAtStop_of_not_mem isCut] at cut
    obtain ⟨rfl, rfl⟩ := Prod.mk.inj cut
    simp

theorem segments_fst (key : String) : (segments key).1 = beforeStop key := by
  unfold segments beforeStop
  rw [← cutAtStop_fst]
  cases cutAtStop key.toList with
  | mk first more => cases more <;> rfl

theorem eq_of_segments {key first : String} {second third : Option String}
    (cut : segments key = (first, second, third)) :
    key = first ++ (second.map ("." ++ ·)).getD "" ++ (third.map ("." ++ ·)).getD "" := by
  unfold segments at cut
  cases outer : cutAtStop key.toList with
  | mk before more =>
      have isKey := eq_of_cutAtStop outer
      rw [outer] at cut
      cases more with
      | none =>
          obtain ⟨rfl, rfl, rfl⟩ : String.ofList before = first ∧ none = second ∧ none = third := by
            simpa using cut
          apply String.toList_inj.mp
          simpa using isKey
      | some more =>
          cases inner : cutAtStop more with
          | mk middle last =>
              have isMore := eq_of_cutAtStop inner
              simp only [inner, Prod.mk.injEq] at cut
              obtain ⟨rfl, rfl, rfl⟩ := cut
              apply String.toList_inj.mp
              rw [isKey, isMore]
              cases last <;> simp

namespace RuleKey

def text : RuleKey → String
  | scopeLevel scope => ofScope scope
  | fieldLevel scope field => ofField scope field

def scope : RuleKey → Scope
  | scopeLevel scope | fieldLevel scope _ => scope

def IsDeclared : RuleKey → Prop
  | scopeLevel _ => True
  | fieldLevel scope field => field ∈ scope.fields

/-- What is wrong with a key that speaks neither of a scope nor of a declared field. -/
inductive Fault (key : String) : AccessError → Prop where
  | scope (isUnknown : ∀ scope : Scope, scope.name ≠ beforeStop key) :
      Fault key (.unknownScope (beforeStop key))
  | field {scope : Scope} {field : String} (isKey : ofField scope field = key)
      (isUndeclared : field ∉ scope.fields) : Fault key (.unknownField scope field)
  | shape {scope : Scope} (isScope : scope.name = beforeStop key)
      (isNeither : ∀ parsed : RuleKey, parsed.text ≠ key) : Fault key (.unknownScope key)

theorem segments_ofScope (scope : Scope) :
    segments (ofScope scope) = (scope.name, some "accessLevel", none) := by
  cases scope <;> decide

theorem segments_ofField (scope : Scope) (field : String) :
    segments (ofField scope field) = (scope.name, some "field", some field) := by
  have isName : '.' ∉ scope.name.toList := by cases scope <;> decide
  have isOuter : (ofField scope field).toList =
      scope.name.toList ++ '.' :: ("field".toList ++ '.' :: field.toList) := by
    simp [ofField]
  rw [segments, isOuter, cutAtStop_append isName]
  simp only
  rw [cutAtStop_append (by decide)]
  simp

/-- What a key speaks of can be told from its written form. -/
theorem text_injective {left right : RuleKey} (same : left.text = right.text) : left = right := by
  have sameSegments : segments left.text = segments right.text := by rw [same]
  cases left <;> cases right <;>
    simp only [text, segments_ofScope, segments_ofField, Prod.mk.injEq, Option.some.injEq, reduceCtorEq,
      and_false, and_true] at sameSegments
  · rw [Scope.name_injective sameSegments]
  · rw [Scope.name_injective sameSegments.1, sameSegments.2.2]

theorem beforeStop_text (parsed : RuleKey) : beforeStop parsed.text = parsed.scope.name := by
  rw [← segments_fst]
  cases parsed with
  | scopeLevel scope => rw [text, segments_ofScope]; rfl
  | fieldLevel scope field => rw [text, segments_ofField]; rfl

theorem text_ne_roleKey (parsed : RuleKey) : parsed.text ≠ roleKey := by
  intro same
  have isName := parsed.beforeStop_text
  rw [same] at isName
  revert isName
  cases parsed.scope <;> decide

theorem read_text {parsed : RuleKey} (isDeclared : parsed.IsDeclared) :
    read parsed.text = .ok parsed := by
  have isScope : ∀ scope : Scope, Scope.read scope.name = .ok scope :=
    fun scope => Scope.read_eq_ok_iff.mpr rfl
  cases parsed with
  | scopeLevel scope =>
      simp [read, text, segments_ofScope, isScope, bind, Except.bind, pure, Except.pure]
  | fieldLevel scope field =>
      have declared : scope.declares field = true := Scope.declares_iff.mpr isDeclared
      simp [read, text, segments_ofField, isScope, declared, bind, Except.bind, pure, Except.pure]

theorem read_cases (key : String) :
    (∃ parsed : RuleKey, parsed.IsDeclared ∧ parsed.text = key) ∨ ∃ error, Fault key error := by
  by_cases isScope : ∃ scope : Scope, scope.name = beforeStop key
  · obtain ⟨scope, isScope⟩ := isScope
    by_cases isWritten : ∃ parsed : RuleKey, parsed.text = key
    · obtain ⟨parsed, isKey⟩ := isWritten
      cases parsed with
      | scopeLevel scope => exact .inl ⟨.scopeLevel scope, trivial, isKey⟩
      | fieldLevel scope field =>
          by_cases declared : field ∈ scope.fields
          · exact .inl ⟨.fieldLevel scope field, declared, isKey⟩
          · exact .inr ⟨_, .field isKey declared⟩
    · exact .inr ⟨_, .shape isScope fun parsed isKey => isWritten ⟨parsed, isKey⟩⟩
  · exact .inr ⟨_, .scope fun scope isName => isScope ⟨scope, isName⟩⟩

theorem read_of_fault {key : String} {error : AccessError} (fault : Fault key error) :
    read key = .error error := by
  cases cut : segments key with
  | mk token rest =>
      obtain rfl : token = beforeStop key := by rw [← segments_fst, cut]
      cases fault with
      | scope isUnknown =>
          have unread : Scope.read (beforeStop key) = .error (.unknownScope (beforeStop key)) := by
            unfold Scope.read
            split
            · rename_i scope found
              exact absurd (Scope.ofName?_eq_some_iff.mp found) (isUnknown scope)
            · rfl
          simp [read, cut, unread, bind, Except.bind]
      | @field scope field isKey isUndeclared =>
          have isScope : Scope.read scope.name = .ok scope := Scope.read_eq_ok_iff.mpr rfl
          simp [read, ← isKey, segments_ofField, isScope, isUndeclared, bind, Except.bind, throw, throwThe,
            MonadExceptOf.throw]
      | @shape scope isScope isNeither =>
          have isRead : Scope.read (beforeStop key) = .ok scope := Scope.read_eq_ok_iff.mpr isScope
          have isKey := eq_of_segments cut
          simp only [read, cut, isRead, bind, Except.bind]
          -- A key of one of the two shapes would be the written form of something.
          split
          · rename_i isLevel isLast
            refine absurd ?_ (isNeither (.scopeLevel scope))
            rw [isKey, isLevel, isLast, ← isScope]
            apply String.toList_inj.mp
            simp [text, ofScope]
          · rename_i field isField isLast
            refine absurd ?_ (isNeither (.fieldLevel scope field))
            rw [isKey, isField, isLast, ← isScope]
            apply String.toList_inj.mp
            simp [text, ofField]
          · rfl

theorem read_eq_ok_iff {key : String} {parsed : RuleKey} :
    read key = .ok parsed ↔ parsed.IsDeclared ∧ parsed.text = key := by
  constructor
  · intro isRead
    rcases read_cases key with ⟨found, isDeclared, rfl⟩ | ⟨error, fault⟩
    · obtain rfl := Except.ok.inj ((read_text isDeclared).symm.trans isRead)
      exact ⟨isDeclared, rfl⟩
    · rw [read_of_fault fault] at isRead
      cases isRead
  · rintro ⟨isDeclared, rfl⟩
    exact read_text isDeclared

theorem read_eq_error_iff {key : String} {error : AccessError} :
    read key = .error error ↔ Fault key error := by
  constructor
  · intro isRead
    rcases read_cases key with ⟨found, isDeclared, rfl⟩ | ⟨cause, fault⟩
    · rw [read_text isDeclared] at isRead
      cases isRead
    · obtain rfl := Except.error.inj ((read_of_fault fault).symm.trans isRead)
      exact fault
  · exact read_of_fault

end RuleKey

end Rolebook
