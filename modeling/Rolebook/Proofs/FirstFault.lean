/-!
Checks in a row. A list that is gone through item by item passes if every item does, and what is wrong
with it is what is wrong with the first item that fails.
-/

namespace Rolebook

variable {Item State Result Error : Type} {items : List Item}

/-- Some item of the list is at fault, given those before it. -/
def FaultIn (items : List Item) (fault : List Item → Item → Prop) : Prop :=
  ∃ before item after, items = before ++ item :: after ∧ fault before item

@[simp]
theorem faultIn_nil {fault : List Item → Item → Prop} : ¬ FaultIn [] fault := by
  simp [FaultIn]

@[simp]
theorem faultIn_cons {head : Item} {fault : List Item → Item → Prop} :
    FaultIn (head :: items) fault ↔
      fault [] head ∨ FaultIn items fun before => fault (head :: before) := by
  constructor
  · rintro ⟨before, item, after, isList, isFault⟩
    rcases List.cons_eq_append_iff.mp isList with ⟨rfl, isHead⟩ | ⟨others, rfl, isTail⟩
    · obtain ⟨rfl, rfl⟩ := List.cons.inj isHead
      exact .inl isFault
    · exact .inr ⟨others, item, after, isTail, isFault⟩
  · rintro (isFault | ⟨before, item, after, rfl, isFault⟩)
    · exact ⟨[], head, items, rfl, isFault⟩
    · exact ⟨head :: before, item, after, rfl, isFault⟩

@[simp]
theorem not_faultIn_false : ¬ FaultIn items fun _ _ => False := by
  simp [FaultIn]

theorem faultIn_and {condition : Prop} {fault : List Item → Item → Prop} :
    FaultIn items (fun before item => condition ∧ fault before item) ↔ condition ∧ FaultIn items fault := by
  constructor
  · rintro ⟨before, item, after, isList, isMet, isFault⟩
    exact ⟨isMet, before, item, after, isList, isFault⟩
  · rintro ⟨isMet, before, item, after, isList, isFault⟩
    exact ⟨before, item, after, isList, isMet, isFault⟩

theorem faultIn_congr {fault other : List Item → Item → Prop}
    (same : ∀ before item after, items = before ++ item :: after → (fault before item ↔ other before item)) :
    FaultIn items fault ↔ FaultIn items other := by
  constructor
  · rintro ⟨before, item, after, isList, isFault⟩
    exact ⟨before, item, after, isList, (same before item after isList).mp isFault⟩
  · rintro ⟨before, item, after, isList, isFault⟩
    exact ⟨before, item, after, isList, (same before item after isList).mpr isFault⟩

/-- In a list that is in order, the items before one are those that precede it. -/
theorem faultIn_iff_of_pairwise {precedes : Item → Item → Prop} (inOrder : items.Pairwise precedes)
    (asymmetric : ∀ left right, precedes left right → ¬ precedes right left)
    {passes fails : Item → Prop} :
    FaultIn items (fun before item => (∀ other ∈ before, passes other) ∧ fails item) ↔
      ∃ item ∈ items, fails item ∧ ∀ other ∈ items, precedes other item → passes other := by
  have isBefore {before after : List Item} {item other : Item} (isList : items = before ++ item :: after)
      (isListed : other ∈ items) : precedes other item ↔ other ∈ before := by
    rw [isList, List.pairwise_append, List.pairwise_cons] at inOrder
    constructor
    · intro isEarlier
      rcases List.mem_append.mp (isList ▸ isListed) with isBefore | isLater
      · exact isBefore
      · rcases List.mem_cons.mp isLater with rfl | isAfter
        · exact absurd isEarlier (asymmetric _ _ isEarlier)
        · exact absurd isEarlier (asymmetric _ _ (inOrder.2.1.1 other isAfter))
    · intro isBefore
      exact inOrder.2.2 other isBefore item (by simp)
  constructor
  · rintro ⟨before, item, after, isList, passed, failed⟩
    exact ⟨item, by simp [isList], failed, fun other isListed isEarlier =>
      passed other ((isBefore isList isListed).mp isEarlier)⟩
  · rintro ⟨item, isListed, failed, passed⟩
    obtain ⟨before, after, isList⟩ := List.append_of_mem isListed
    refine ⟨before, item, after, isList, fun other isOther => ?_, failed⟩
    have isOtherListed : other ∈ items := by simp [isList, isOther]
    exact passed other isOtherListed ((isBefore isList isOtherListed).mpr isOther)

theorem foldlM_eq_error_iff {step : State → Item → Except Error State} {start : State} {error : Error} :
    items.foldlM step start = .error error ↔ FaultIn items fun before item =>
      ∃ reached, before.foldlM step start = .ok reached ∧ step reached item = .error error := by
  induction items generalizing start with
  | nil => simp [pure, Except.pure]
  | cons head tail inductionHypothesis =>
      cases first : step start head with
      | error cause => simp [first, bind, Except.bind, pure, Except.pure]
      | ok next => simp [first, bind, Except.bind, pure, Except.pure, inductionHypothesis]

/-- The first item at fault, given those before it, and what is wrong with it. -/
def FirstFault (items : List Item) (fault : List Item → Item → Error → Prop) (error : Error) : Prop :=
  FaultIn items fun before item =>
    (∀ cause, ¬ FaultIn before fun earlier other => fault earlier other cause) ∧ fault before item error

theorem not_firstFault_nil {fault : List Item → Item → Error → Prop} {error : Error} :
    ¬ FirstFault [] fault error :=
  faultIn_nil

theorem firstFault_cons {head : Item} {fault : List Item → Item → Error → Prop} {error : Error} :
    FirstFault (head :: items) fault error ↔
      fault [] head error ∨
        (∀ cause, ¬ fault [] head cause) ∧ FirstFault items (fun before => fault (head :: before)) error := by
  simp only [FirstFault, faultIn_cons, not_or, faultIn_nil, not_false_eq_true, implies_true, true_and,
    forall_and, and_assoc, faultIn_and]

theorem exists_firstFault_iff {fault : List Item → Item → Error → Prop} :
    (∃ error, FirstFault items fault error) ↔
      FaultIn items fun before item => ∃ error, fault before item error := by
  induction items generalizing fault with
  | nil => simp [not_firstFault_nil]
  | cons head tail inductionHypothesis =>
      rw [faultIn_cons, ← inductionHypothesis]
      constructor
      · rintro ⟨error, isFirst⟩
        rcases firstFault_cons.mp isFirst with isFault | ⟨_, isLater⟩
        · exact .inl ⟨error, isFault⟩
        · exact .inr ⟨error, isLater⟩
      · intro someFault
        by_cases isHead : ∃ error, fault [] head error
        · obtain ⟨error, isFault⟩ := isHead
          exact ⟨error, firstFault_cons.mpr (.inl isFault)⟩
        · obtain ⟨error, isLater⟩ := someFault.resolve_left isHead
          exact ⟨error, firstFault_cons.mpr (.inr ⟨not_exists.mp isHead, isLater⟩)⟩

/-- A step fails with what is wrong with its item, given the items that were taken in before it. -/
def FailsBy (step : State → Item → Except Error State) (start : State)
    (fault : List Item → Item → Error → Prop) : Prop :=
  ∀ before reached item error, before.foldlM step start = .ok reached →
    (step reached item = .error error ↔ fault before item error)

/-- Items are all taken in as long as none of them is at fault. -/
theorem FailsBy.exists_foldlM_iff {step : State → Item → Except Error State} {start : State}
    {fault : List Item → Item → Error → Prop} (failsBy : FailsBy step start fault) :
    (∃ reached, items.foldlM step start = .ok reached) ↔
      ∀ error, ¬ FaultIn items fun before item => fault before item error := by
  constructor
  · rintro ⟨reached, passed⟩ error ⟨before, item, after, rfl, isFault⟩
    rw [List.foldlM_append] at passed
    cases isReached : before.foldlM step start with
    | error cause => simp [isReached, bind, Except.bind] at passed
    | ok state =>
        have failed := (failsBy before state item error isReached).mpr isFault
        simp [isReached, failed, bind, Except.bind] at passed
  · intro isClean
    cases outcome : items.foldlM step start with
    | ok reached => exact ⟨reached, rfl⟩
    | error error =>
        obtain ⟨before, item, after, isList, reached, isReached, failed⟩ := foldlM_eq_error_iff.mp outcome
        exact absurd ⟨before, item, after, isList, (failsBy before reached item error isReached).mp failed⟩
          (isClean error)

/-- What is wrong with a list of items is what is wrong with the first one at fault. -/
theorem FailsBy.foldlM_eq_error_iff {step : State → Item → Except Error State} {start : State}
    {fault : List Item → Item → Error → Prop} (failsBy : FailsBy step start fault) {error : Error} :
    items.foldlM step start = .error error ↔ FirstFault items fault error := by
  refine Rolebook.foldlM_eq_error_iff.trans (faultIn_congr fun before item after _ => ?_)
  rw [← failsBy.exists_foldlM_iff]
  constructor
  · rintro ⟨reached, isReached, failed⟩
    exact ⟨⟨reached, isReached⟩, (failsBy before reached item error isReached).mp failed⟩
  · rintro ⟨⟨reached, isReached⟩, isFault⟩
    exact ⟨reached, isReached, (failsBy before reached item error isReached).mpr isFault⟩

theorem mapM_eq_error_iff {check : Item → Except Error Result} {error : Error} :
    items.mapM check = .error error ↔ FaultIn items fun before item =>
      (∀ other ∈ before, ∃ result, check other = .ok result) ∧ check item = .error error := by
  induction items with
  | nil => simp [pure, Except.pure]
  | cons head tail inductionHypothesis =>
      cases first : check head with
      | error cause => simp [first, bind, Except.bind]
      | ok result =>
          simp only [faultIn_cons, List.forall_mem_cons, first, Except.ok.injEq, exists_eq', true_and,
            reduceCtorEq, and_false, false_or, ← inductionHypothesis]
          cases rest : tail.mapM check <;> simp [first, rest, bind, Except.bind, pure, Except.pure]

theorem mapM_eq_ok_iff {check : Item → Except Error Result} {results : List Result} :
    items.mapM check = .ok results ↔ items.map check = results.map .ok := by
  induction items generalizing results with
  | nil => cases results <;> simp [pure, Except.pure]
  | cons head tail inductionHypothesis =>
      cases first : check head with
      | error cause => cases results <;> simp [first, bind, Except.bind]
      | ok result =>
          cases results with
          | nil => cases rest : tail.mapM check <;> simp [first, rest, bind, Except.bind, pure, Except.pure]
          | cons other others =>
              rw [List.map_cons, List.map_cons, List.cons.injEq, ← inductionHypothesis]
              cases rest : tail.mapM check <;>
                simp [first, rest, bind, Except.bind, pure, Except.pure]

theorem mapM_congr {check other : Item → Except Error Result}
    (same : ∀ item ∈ items, check item = other item) : items.mapM check = items.mapM other := by
  induction items with
  | nil => rfl
  | cons head tail inductionHypothesis =>
      rw [List.forall_mem_cons] at same
      rw [List.mapM_cons, List.mapM_cons, same.1, inductionHypothesis same.2]

theorem exists_mapM_of_forall {check : Item → Except Error Result}
    (passes : ∀ item ∈ items, ∃ result, check item = .ok result) :
    ∃ results, items.mapM check = .ok results := by
  cases checked : items.mapM check with
  | ok results => exact ⟨results, rfl⟩
  | error error =>
      obtain ⟨before, item, after, isList, _, failed⟩ := mapM_eq_error_iff.mp checked
      obtain ⟨result, passed⟩ := passes item (by simp [isList])
      cases passed.symm.trans failed

theorem mapM_of_perm {check : Item → Except Error Result} {others : List Item} {results : List Result}
    (reordered : items.Perm others) (passed : others.mapM check = .ok results) :
    ∃ found, items.mapM check = .ok found ∧ found.Perm results := by
  simp only [mapM_eq_ok_iff] at passed ⊢
  induction reordered generalizing results with
  | nil => exact ⟨results, passed, .refl _⟩
  | @cons head _ _ _ inductionHypothesis =>
      cases results with
      | nil => simp at passed
      | cons result rest =>
          obtain ⟨isHead, areRest⟩ := List.cons.inj passed
          obtain ⟨found, areFound, sameResults⟩ := inductionHypothesis areRest
          exact ⟨result :: found, by simp [isHead, areFound], sameResults.cons result⟩
  | swap first second rest =>
      obtain ⟨one, tail, rfl, isOne, isTail⟩ := List.map_eq_cons_iff.mp passed.symm
      obtain ⟨other, others, rfl, isOther, areOthers⟩ := List.map_eq_cons_iff.mp isTail
      exact ⟨other :: one :: others, by simp [isOne, isOther, areOthers], .swap one other others⟩
  | trans _ _ firstHypothesis secondHypothesis =>
      obtain ⟨middle, areMiddle, sameMiddle⟩ := secondHypothesis passed
      obtain ⟨found, areFound, sameFound⟩ := firstHypothesis areMiddle
      exact ⟨found, areFound, sameFound.trans sameMiddle⟩

/-- To check each item and to add what it says is to check all and then to add it all. -/
theorem foldlM_eq_map_mapM {check : Item → Except Error Result} {add : State → Result → State}
    {step : State → Item → Except Error State}
    (adds : ∀ state item, step state item = (check item).map (add state)) (start : State) :
    items.foldlM step start = (items.mapM check).map fun results => results.foldl add start := by
  induction items generalizing start with
  | nil => rfl
  | cons head tail inductionHypothesis =>
      rw [List.foldlM_cons, List.mapM_cons, adds]
      cases check head with
      | error cause => rfl
      | ok result =>
          refine (inductionHypothesis (add start result)).trans ?_
          cases tail.mapM check <;> rfl

theorem map_eq_of_mapM {Feature : Type} {check : Item → Except Error Result} {results : List Result}
    {left : Item → Feature} {right : Result → Feature} (passed : items.mapM check = .ok results)
    (same : ∀ item result, check item = .ok result → left item = right result) :
    items.map left = results.map right := by
  rw [mapM_eq_ok_iff] at passed
  induction items generalizing results with
  | nil => simp_all
  | cons head tail inductionHypothesis =>
      cases results with
      | nil => simp at passed
      | cons result others =>
          obtain ⟨first, rest⟩ := List.cons.inj passed
          rw [List.map_cons, List.map_cons, same head result first, inductionHypothesis rest]

theorem exists_of_mapM {check : Item → Except Error Result} {results : List Result}
    (passed : items.mapM check = .ok results) {item : Item} (isListed : item ∈ items) :
    ∃ result, check item = .ok result := by
  have isChecked : check item ∈ results.map .ok :=
    mapM_eq_ok_iff.mp passed ▸ List.mem_map_of_mem isListed
  obtain ⟨result, _, isResult⟩ := List.mem_map.mp isChecked
  exact ⟨result, isResult.symm⟩

theorem mem_of_mapM {check : Item → Except Error Result} {results : List Result}
    (passed : items.mapM check = .ok results) {result : Result} :
    result ∈ results ↔ ∃ item ∈ items, check item = .ok result := by
  have isMapped := mapM_eq_ok_iff.mp passed
  calc result ∈ results
    _ ↔ Except.ok result ∈ results.map (Except.ok (ε := Error)) := by simp
    _ ↔ ∃ item ∈ items, check item = .ok result := by rw [← isMapped, List.mem_map]

end Rolebook
