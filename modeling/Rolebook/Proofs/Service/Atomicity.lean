import Rolebook.Proofs.Cache.Coherence
import Rolebook.Proofs.RuleSet
import Rolebook.Proofs.Service.Alone
import Rolebook.Proofs.Submission.Spelling

/-!
A reconciliation is carried out as a whole or not at all. However it ends, the stored rules of the role are
the old ones or all of the new ones, and the cache shows what is stored, or nothing, or it was left alone
because the repository was.
-/

namespace Rolebook

/-- The rules that come of a submission: what was submitted and nothing else, or that and the stored rules
of all other scopes. -/
def Mode.Combines (mode : Mode) (stored submitted rules : RuleSet) : Prop :=
  match mode with
  | snapshot => rules = submitted
  | patch => ∀ scope, rules.get? scope = (submitted.get? scope).or (stored.get? scope)

theorem Mode.combines_merge (mode : Mode) (stored submitted : RuleSet) :
    mode.Combines stored submitted (mode.merge stored submitted) := by
  cases mode with
  | snapshot => rfl
  | patch => exact stored.get?_overlay submitted

theorem Submission.isValidation_of_refused {submission : Submission} {error : AccessError}
    (isRefused : submission.ruleSet = .error error) : error.isValidation = true := by
  cases ruleSet_eq_error_iff.mp isRefused with
  | entry isEntry fault isFirst =>
      cases fault with
      | key fault => cases fault <;> rfl
      | level isDeclared isKey isUnknown => rfl
  | excess isClean gives grants isAbove isFirst => rfl

theorem MemoryStore.assignments_save {store after : MemoryStore} {id : RoleId} {rules : RuleSet}
    (saved : store.save id rules = (.ok (), after)) : after.assignments = store.assignments := by
  unfold save at saved
  split at saved
  · simp at saved
  · rw [← (Prod.mk.inj saved).2]

namespace Reconciliation

theorem storageError_cases (role : RoleId) (error : ServiceError) :
    error.kind = .notFound ∧ storageError role error = .roleVanished role ∨
      error.kind ≠ .notFound ∧ storageError role error = .storage error.message := by
  unfold storageError
  split
  · exact .inl ⟨by assumption, rfl⟩
  · exact .inr ⟨by assumption, rfl⟩

/-- Once the repository can be read, whoever resolves the role is told what is stored. -/
def Reloads (world : World MemoryStore) (role : RoleId) : Prop :=
  ∀ reader conditions, conditions.fault .find = none → ∃ stored, world.store.role? role = some stored ∧
    ((Authorization.resolve role).run reader { world with conditions }).1 = .ok stored

/-- What a reconciliation may leave, by what it answers. -/
structure AllOrNothing (mode : Mode) (role : RoleId) (submission : Submission) (before : World MemoryStore)
    (answer : Except AccessError Update) (after : World MemoryStore) : Prop where
  /-- Nothing is asked of the repository, so that not even its calls are more than before. -/
  invalid : ∀ error, answer = .error error → error.isValidation = true →
    submission.ruleSet = .error error ∧ after = before
  failed : ∀ message, answer = .error (.storage message) →
    after.store = before.store ∧ after.cache.get role = before.cache.get role
  vanished : ∀ named, answer = .error (.roleVanished named) → named = role ∧
    after.store = before.store ∧
      (after.cache.get role = none ∨ after.cache.get role = before.cache.get role)
  timedOut : ∀ named, answer = .error (.writeTimedOut named) → named = role ∧
    after.cache.get role = none ∧ Reloads after role ∧
      ∃ submitted stored rules, submission.ruleSet = .ok submitted ∧
        before.store.role? role = some stored ∧ mode.Combines stored.rules submitted rules ∧
          (after.store.role? role = some stored ∨
            after.store.role? role = some (stored.withRules rules))
  done : ∀ update, answer = .ok update → ∃ submitted stored rules, submission.ruleSet = .ok submitted ∧
    before.store.role? role = some stored ∧ mode.Combines stored.rules submitted rules ∧
      update.role = stored.withRules rules ∧ after.store.role? role = some update.role ∧
        after.cache.get role = some update.role
  /-- There are no other errors. -/
  accounted : ∀ error, answer = .error error → error.isValidation = true ∨
    (∃ message, error = .storage message) ∨ error = .roleVanished role ∨ error = .writeTimedOut role
  others : ∀ other, other ≠ role → after.store.role? other = before.store.role? other ∧
    after.cache.get other = before.cache.get other
  assignments : after.store.assignments = before.store.assignments
  atRest : after.cache.AtRest

theorem reloads_of_get_eq_none {world : World MemoryStore} {role : RoleId} {stored : Role}
    (atRest : world.cache.AtRest) (isHidden : world.cache.get role = none)
    (isStored : world.store.role? role = some stored) : Reloads world role := by
  intro reader conditions isReadable
  refine ⟨stored, isStored, ?_⟩
  have isRecalled : World.recall { world with conditions } role = .ok stored := by
    have isFound : Repository.find world.store role = .ok (some stored) := congrArg Except.ok isStored
    simp [World.recall, isHidden, World.look, World.ask, isReadable, isFound]
  have resolves : (Authorization.resolve role).Yields reader (fun answer _ => answer = .ok stored)
      { world with conditions } := by
    have sameRest : ({ world with conditions } : World MemoryStore).cache.AtRest := atRest
    apply Authorization.resolve_yields sameRest
    intro after _ _
    exact isRecalled
  exact resolves

theorem allOrNothing_of_refused {mode : Mode} {deadline : Nat} {role : RoleId} {submission : Submission}
    {me : TaskId} {before : World MemoryStore} (atRest : before.cache.AtRest) {error : AccessError}
    (isRefused : submission.ruleSet = .error error) :
    AllOrNothing mode role submission before
      ((applyWithin mode deadline role submission).run me before).1
      ((applyWithin mode deadline role submission).run me before).2 := by
  have isDone : applyWithin mode deadline role submission = .done (.error error) := by
    unfold applyWithin
    rw [isRefused]
    rfl
  have isValidation := Submission.isValidation_of_refused isRefused
  rw [isDone]
  refine ⟨?_, ?_, ?_, ?_, ?_, ?_, fun _ _ => ⟨rfl, rfl⟩, rfl, atRest⟩
  · rintro _ ⟨⟩ _
    exact ⟨isRefused, rfl⟩
  · rintro message ⟨⟩
    cases isValidation
  · rintro named ⟨⟩
    cases isValidation
  · rintro named ⟨⟩
    cases isValidation
  · rintro update ⟨⟩
  · rintro _ ⟨⟩
    exact .inl isValidation

section Ends

variable {mode : Mode} {role : RoleId} {submission : Submission} {before after : World MemoryStore}
  {entry : Option Role}

theorem allOrNothing_of_unsaved (leaves : before.Leaves after role entry)
    (sameStore : after.store = before.store) {error : AccessError}
    (isFailure : error = .roleVanished role ∧ (entry = none ∨ entry = before.cache.get role) ∨
      (∃ message, error = .storage message) ∧ entry = before.cache.get role) :
    AllOrNothing mode role submission before (.error error) after := by
  rw [← leaves.get_self] at isFailure
  refine ⟨?_, ?_, ?_, ?_, ?_, ?_, ?_, by rw [sameStore], leaves.atRest⟩
  · rintro _ ⟨⟩ isValidation
    rcases isFailure with ⟨rfl, _⟩ | ⟨⟨message, rfl⟩, _⟩ <;> cases isValidation
  · rintro message ⟨⟩
    rcases isFailure with ⟨⟨⟩, _⟩ | ⟨_, isKept⟩
    exact ⟨sameStore, isKept⟩
  · rintro named ⟨⟩
    rcases isFailure with ⟨isVanished, isGone⟩ | ⟨⟨_, ⟨⟩⟩, _⟩
    exact ⟨AccessError.roleVanished.inj isVanished, sameStore, isGone⟩
  · rintro named ⟨⟩
    rcases isFailure with ⟨⟨⟩, _⟩ | ⟨⟨_, ⟨⟩⟩, _⟩
  · rintro update ⟨⟩
  · rintro _ ⟨⟩
    rcases isFailure with ⟨rfl, _⟩ | ⟨isStorage, _⟩
    · exact .inr (.inr (.inl rfl))
    · exact .inr (.inl isStorage)
  · intro other isOther
    exact ⟨by rw [sameStore], leaves.get_of_ne isOther⟩

theorem allOrNothing_of_timedOut (leaves : before.Leaves after role none) {submitted : RuleSet}
    {stored : Role} (isRead : submission.ruleSet = .ok submitted)
    (isStored : before.store.role? role = some stored)
    (isSaved : after.store = before.store ∨
      before.store.save role (mode.merge stored.rules submitted) = (.ok (), after.store)) :
    AllOrNothing mode role submission before (.error (.writeTimedOut role)) after := by
  have isCurrent : after.store.role? role = some stored ∨
      after.store.role? role = some (stored.withRules (mode.merge stored.rules submitted)) := by
    rcases isSaved with isKept | saved
    · rw [isKept]
      exact .inl isStored
    · rw [MemoryStore.role?_save saved, if_pos rfl, isStored]
      exact .inr rfl
  have reloads : Reloads after role := by
    rcases isCurrent with isOld | isNew
    · exact reloads_of_get_eq_none leaves.atRest leaves.get_self isOld
    · exact reloads_of_get_eq_none leaves.atRest leaves.get_self isNew
  refine ⟨?_, ?_, ?_, ?_, ?_, ?_, ?_, ?_, leaves.atRest⟩
  · rintro _ ⟨⟩ ⟨⟩
  · rintro message ⟨⟩
  · rintro named ⟨⟩
  · rintro named ⟨⟩
    exact ⟨rfl, leaves.get_self, reloads, submitted, stored, _, isRead, isStored,
      mode.combines_merge stored.rules submitted, isCurrent⟩
  · rintro update ⟨⟩
  · rintro _ ⟨⟩
    exact .inr (.inr (.inr rfl))
  · intro other isOther
    refine ⟨?_, leaves.get_of_ne isOther⟩
    rcases isSaved with isKept | saved
    · rw [isKept]
    · rw [MemoryStore.role?_save saved, if_neg isOther]
  · rcases isSaved with isKept | saved
    · rw [isKept]
    · exact MemoryStore.assignments_save saved

theorem allOrNothing_of_done {submitted : RuleSet} {stored : Role} {changed : List Scope}
    (leaves : before.Leaves after role (some (stored.withRules (mode.merge stored.rules submitted))))
    (isRead : submission.ruleSet = .ok submitted) (isStored : before.store.role? role = some stored)
    (saved : before.store.save role (mode.merge stored.rules submitted) = (.ok (), after.store)) :
    AllOrNothing mode role submission before
      (.ok ⟨stored.withRules (mode.merge stored.rules submitted), changed⟩) after := by
  refine ⟨?_, ?_, ?_, ?_, ?_, ?_, ?_, MemoryStore.assignments_save saved, leaves.atRest⟩
  · rintro _ ⟨⟩
  · rintro message ⟨⟩
  · rintro named ⟨⟩
  · rintro named ⟨⟩
  · rintro update ⟨⟩
    refine ⟨submitted, stored, _, isRead, isStored, mode.combines_merge stored.rules submitted, rfl, ?_,
      leaves.get_self⟩
    rw [MemoryStore.role?_save saved, if_pos rfl, isStored]
    rfl
  · rintro _ ⟨⟩
  · intro other isOther
    exact ⟨by rw [MemoryStore.role?_save saved, if_neg isOther], leaves.get_of_ne isOther⟩

end Ends

/-- Whatever is stored and cached, and however the repository fails and delays, a reconciliation at work
alone is carried out as a whole or not at all. -/
theorem applyWithin_allOrNothing (mode : Mode) (deadline : Nat) (role : RoleId) (submission : Submission)
    (me : TaskId) {before : World MemoryStore} (atRest : before.cache.AtRest) :
    AllOrNothing mode role submission before
      ((applyWithin mode deadline role submission).run me before).1
      ((applyWithin mode deadline role submission).run me before).2 := by
  cases isRead : submission.ruleSet with
  | error error => exact allOrNothing_of_refused atRest isRead
  | ok submitted =>
      change Program.Yields me (AllOrNothing mode role submission before) _ before
      apply applyWithin_yields atRest
      intro answer entry after exits leaves
      have isRole : ∀ {stored : Role}, before.look role = .ok (some stored) →
          before.store.role? role = some stored :=
        fun isLooked => Except.ok.inj (World.find_of_look isLooked)
      generalize isAfter : after.store = store at exits
      cases exits with
      | refused isRefused =>
          rw [isRead] at isRefused
          cases isRefused
      | absent _ isAbsent => exact allOrNothing_of_unsaved leaves isAfter (.inl ⟨rfl, .inl rfl⟩)
      | @unread _ error _ failed =>
          apply allOrNothing_of_unsaved leaves isAfter
          rcases storageError_cases role error with ⟨_, isVanished⟩ | ⟨_, isStorage⟩
          · exact .inl ⟨isVanished, .inr rfl⟩
          · exact .inr ⟨⟨_, isStorage⟩, rfl⟩
      | unwritten isRead isStored isLate =>
          exact allOrNothing_of_timedOut leaves isRead (isRole isStored) (.inl isAfter)
      | @unsaved _ _ error _ isStored _ failed =>
          apply allOrNothing_of_unsaved leaves isAfter
          rcases storageError_cases role error with ⟨isGone, isVanished⟩ | ⟨isKept, isStorage⟩
          · exact .inl ⟨isVanished, .inl (if_pos isGone)⟩
          · exact .inr ⟨⟨_, isStorage⟩, if_neg isKept⟩
      | unanswered isRead isStored _ saved isLate =>
          subst isAfter
          exact allOrNothing_of_timedOut leaves isRead (isRole isStored) (.inr saved)
      | done isRead isStored saved inTime =>
          subst isAfter
          exact allOrNothing_of_done leaves isRead (isRole isStored) saved

section Office

def sluggish : World MemoryStore :=
  (World.start .office RoleId.drawn).disturb (fun _ => none) 10 10

/-- The time is over when the rules were written, and the answer was still awaited. -/
theorem applyWithin_allOrNothing_sluggish :
    let outcome := (applyWithin .snapshot 15 keeper.id .empty).run 0 sluggish
    sluggish.cache.AtRest ∧ outcome.1 = .error (.writeTimedOut keeper.id) ∧
      outcome.2.store.role? keeper.id = some (keeper.withRules .empty) ∧
        AllOrNothing .snapshot keeper.id .empty sluggish outcome.1 outcome.2 :=
  ⟨Cache.atRest_empty, by rfl, by decide,
    applyWithin_allOrNothing .snapshot 15 keeper.id .empty 0 Cache.atRest_empty⟩

end Office

end Reconciliation

end Rolebook
