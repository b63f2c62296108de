import Rolebook.Proofs.RuleSet
import Rolebook.Proofs.Service.Vanishing

/-!
Reconciliations that are tried again. Who is told that the time for a write was over cannot know whether
the rules were written. To try again is right in both cases: rules that are submitted once more are there
already, so that all attempts together come to what the last one alone comes to, and to try on after that
changes nothing.
-/

namespace Rolebook

variable {Store : Type} [Repository Store]

/-- Readers see what they saw before, in the repository and in the cache. -/
structure World.SeenAs (before after : World Store) : Prop where
  found : ∀ id, Repository.find after.store id = Repository.find before.store id
  shown : ∀ id, after.cache.get id = before.cache.get id

namespace Reconciliation

/-- Who tries a reconciliation, the deadline for the write, and how the collaborators behave meanwhile. -/
structure Attempt where
  task : TaskId
  deadline : Nat
  conditions : Conditions

namespace Attempt

variable (mode : Mode) (role : RoleId) (submission : Submission)

def run (attempt : Attempt) (world : World Store) : Except AccessError Update × World Store :=
  (applyWithin mode attempt.deadline role submission).run attempt.task
    { world with conditions := attempt.conditions }

def runAll (attempts : List Attempt) (world : World Store) : World Store :=
  attempts.foldl (fun reached attempt => (attempt.run mode role submission reached).2) world

end Attempt

variable {mode : Mode} {deadline : Nat} {role : RoleId} {submission : Submission}
  {before world : World Store}

/-- A reconciliation writes the merged rules, or it writes nothing. -/
theorem Exit.writes {answer : Except AccessError Update} {store : Store} {entry : Option Role}
    (exits : Exit mode deadline role submission world answer store entry) :
    store = world.store ∨ ∃ submitted stored, submission.ruleSet = .ok submitted ∧
      Repository.find world.store role = .ok (some stored) ∧
      Repository.save world.store role (mode.merge stored.rules submitted) = (.ok (), store) := by
  cases exits with
  | refused | absent | unread | unwritten | unsaved => exact .inl rfl
  | unanswered isRead isStored _ saved => exact .inr ⟨_, _, isRead, World.find_of_look isStored, saved⟩
  | done isRead isStored saved => exact .inr ⟨_, _, isRead, World.find_of_look isStored, saved⟩

/-- What it takes to carry a reconciliation out, and what is answered, stored and shown then. -/
structure Exit.Carried (mode : Mode) (deadline : Nat) (role : RoleId) (submission : Submission)
    (world : World Store) (submitted : RuleSet) (stored : Role) (store : Store) : Prop where
  isRead : submission.ruleSet = .ok submitted
  isReadable : world.conditions.fault .find = none
  isWritable : world.conditions.fault .save = none
  inTime : world.conditions.saveDelay + world.conditions.ackDelay ≤ deadline
  isStored : Repository.find world.store role = .ok (some stored)
  saved : Repository.save world.store role (mode.merge stored.rules submitted) = (.ok (), store)

theorem Exit.carried {update : Update} {store : Store} {entry : Option Role}
    (exits : Exit mode deadline role submission world (.ok update) store entry) :
    ∃ submitted stored, Exit.Carried mode deadline role submission world submitted stored store ∧
      update = ⟨stored.withRules (mode.merge stored.rules submitted),
        stored.rules.changedScopes (mode.merge stored.rules submitted)⟩ ∧
      entry = some (stored.withRules (mode.merge stored.rules submitted)) := by
  cases exits with
  | @done submitted stored _ isRead isLooked saved inTime answered =>
      obtain ⟨isReadable, isStored⟩ := World.ask_eq_ok_iff.mp isLooked
      have isWritable := (World.ask_eq_ok_iff.mp answered).1
      exact ⟨submitted, stored, ⟨isRead, isReadable, isWritable, inTime, isStored, saved⟩, rfl, rfl⟩

structure Landed (role : RoleId) (before : World Store) (updated : Role) (world : World Store) : Prop where
  atRest : world.cache.AtRest
  shown : ∀ id, id ≠ role → world.cache.get id = before.cache.get id
  found : ∀ id, Repository.find world.store id =
    if id = role then .ok (some updated) else Repository.find before.store id

/-- What attempts may have come to, whatever they answered: nothing was written, or the merged rules were. -/
inductive Tried (mode : Mode) (role : RoleId) (submission : Submission) (before world : World Store) :
    Prop where
  | untouched (atRest : world.cache.AtRest)
      (shown : ∀ id, id ≠ role → world.cache.get id = before.cache.get id)
      (sameStore : world.store = before.store)
  | landed {submitted : RuleSet} {stored : Role} {after : Store} (isRead : submission.ruleSet = .ok submitted)
      (isStored : Repository.find before.store role = .ok (some stored))
      (saved : Repository.save before.store role (mode.merge stored.rules submitted) = (.ok (), after))
      (hasLanded : Landed role before (stored.withRules (mode.merge stored.rules submitted)) world)

section Attempts

variable [LawfulRepository Store]

theorem Attempt.ends (mode : Mode) (role : RoleId) (submission : Submission) (attempt : Attempt)
    (atRest : world.cache.AtRest) :
    ∃ entry, Exit mode attempt.deadline role submission { world with conditions := attempt.conditions }
        (attempt.run mode role submission world).1 (attempt.run mode role submission world).2.store entry ∧
      (attempt.run mode role submission world).2.cache.AtRest ∧
      ∀ id, (attempt.run mode role submission world).2.cache.get id =
        if id = role then entry else world.cache.get id := by
  change Program.Yields attempt.task (fun answer after => ∃ entry,
    Exit mode attempt.deadline role submission { world with conditions := attempt.conditions } answer
      after.store entry ∧ after.cache.AtRest ∧
        ∀ id, after.cache.get id = if id = role then entry else world.cache.get id) _ _
  have stillAtRest : ({ world with conditions := attempt.conditions } : World Store).cache.AtRest := atRest
  exact applyWithin_yields stillAtRest fun _ entry _ exits leaves =>
    ⟨entry, exits, leaves.atRest, leaves.get⟩

/-- Once the rules have landed, attempts change nothing but what the cache shows of the role. -/
theorem Landed.attempt {submitted : RuleSet} {updated : Role} (landed : Landed role before updated world)
    (isRead : submission.ruleSet = .ok submitted)
    (isMerged : mode.merge updated.rules submitted = updated.rules) (attempt : Attempt) :
    Landed role before updated (attempt.run mode role submission world).2 ∧
      ∀ update, (attempt.run mode role submission world).1 = .ok update →
        update = ⟨updated, []⟩ ∧
          (attempt.run mode role submission world).2.cache.get role = some updated := by
  obtain ⟨entry, exits, atRest, shown⟩ := attempt.ends mode role submission landed.atRest
  have isStored : Repository.find world.store role = .ok (some updated) := by
    rw [landed.found, if_pos rfl]
  refine ⟨⟨atRest, fun id isOther => ?_, fun id => ?_⟩, fun update isAnswer => ?_⟩
  · rw [shown, if_neg isOther, landed.shown id isOther]
  · rcases exits.writes with sameStore | ⟨submittedToo, storedToo, isReadToo, isStoredToo, saved⟩
    · rw [sameStore]
      exact landed.found id
    · obtain rfl := Except.ok.inj (isRead.symm.trans isReadToo)
      obtain rfl := Option.some.inj (Except.ok.inj (isStored.symm.trans isStoredToo))
      rw [LawfulRepository.find_of_save saved isStoredToo, isMerged, landed.found]
      split <;> rfl
  · rw [isAnswer] at exits
    obtain ⟨submittedToo, storedToo, carried, isUpdate, isEntry⟩ := exits.carried
    obtain rfl := Except.ok.inj (isRead.symm.trans carried.isRead)
    obtain rfl := Option.some.inj (Except.ok.inj (isStored.symm.trans carried.isStored))
    rw [shown, if_pos rfl, isEntry, isUpdate, isMerged, RuleSet.changedScopes_self]
    exact ⟨rfl, rfl⟩

theorem Landed.runAll {submitted : RuleSet} {updated : Role} (landed : Landed role before updated world)
    (isRead : submission.ruleSet = .ok submitted)
    (isMerged : mode.merge updated.rules submitted = updated.rules) (attempts : List Attempt) :
    Landed role before updated (Attempt.runAll mode role submission attempts world) := by
  induction attempts generalizing world with
  | nil => exact landed
  | cons attempt others inductionHypothesis =>
      exact inductionHypothesis (landed.attempt isRead isMerged attempt).1

theorem Tried.attempt (tried : Tried mode role submission before world) (attempt : Attempt) :
    Tried mode role submission before (attempt.run mode role submission world).2 := by
  cases tried with
  | untouched atRest shown sameStore =>
      obtain ⟨entry, exits, atRest, shows⟩ := attempt.ends mode role submission atRest
      have shownToo : ∀ id, id ≠ role →
          (attempt.run mode role submission world).2.cache.get id = before.cache.get id := by
        intro id isOther
        rw [shows, if_neg isOther, shown id isOther]
      rcases exits.writes with sameAgain | ⟨submitted, stored, isRead, isStored, saved⟩
      · exact .untouched atRest shownToo (sameAgain.trans sameStore)
      · simp only [sameStore] at isStored saved
        exact .landed isRead isStored saved
          ⟨atRest, shownToo, LawfulRepository.find_of_save saved isStored⟩
  | landed isRead isStored saved hasLanded =>
      exact .landed isRead isStored saved (hasLanded.attempt isRead (by simp) attempt).1

theorem Tried.runAll (tried : Tried mode role submission before world) (attempts : List Attempt) :
    Tried mode role submission before (Attempt.runAll mode role submission attempts world) := by
  induction attempts generalizing world with
  | nil => exact tried
  | cons attempt others inductionHypothesis => exact inductionHypothesis (tried.attempt attempt)

/-- Whatever was tried before, an attempt that is carried out could have been carried out at once, and
comes to the same. -/
theorem Tried.done (tried : Tried mode role submission before world) (attempt : Attempt) {update : Update}
    (isDone : (attempt.run mode role submission world).1 = .ok update) :
    ∃ submitted stored after, Exit.Carried mode attempt.deadline role submission
        { before with conditions := attempt.conditions } submitted stored after ∧
      update.role = stored.withRules (mode.merge stored.rules submitted) ∧
      Landed role before update.role (attempt.run mode role submission world).2 ∧
      (attempt.run mode role submission world).2.cache.get role = some update.role := by
  cases tried with
  | untouched atRest shown sameStore =>
      obtain ⟨entry, exits, atRest, shows⟩ := attempt.ends mode role submission atRest
      rw [isDone] at exits
      obtain ⟨submitted, stored, carried, rfl, rfl⟩ := exits.carried
      have isStored := carried.isStored
      have saved := carried.saved
      simp only [sameStore] at isStored saved
      refine ⟨submitted, stored, _, { carried with isStored, saved }, rfl, ⟨atRest, ?_, ?_⟩, ?_⟩
      · intro id isOther
        rw [shows, if_neg isOther, shown id isOther]
      · exact LawfulRepository.find_of_save saved isStored
      · rw [shows, if_pos rfl]
  | @landed submitted stored after isRead isStored saved hasLanded =>
      have isMerged := mode.merge_merge stored.rules submitted
      obtain ⟨stillLanded, answers⟩ := hasLanded.attempt isRead isMerged attempt
      obtain ⟨entry, exits, -⟩ := attempt.ends mode role submission hasLanded.atRest
      rw [isDone] at exits
      obtain ⟨_, _, carried, -⟩ := exits.carried
      obtain ⟨rfl, isShown⟩ := answers update isDone
      exact ⟨submitted, stored, after, { carried with isRead, isStored, saved }, rfl, stillLanded, isShown⟩

omit [LawfulRepository Store] in
theorem Landed.seenAs {left right : World Store} {updated : Role} (landed : Landed role before updated left)
    (isShown : left.cache.get role = some updated) (landedToo : Landed role before updated right)
    (isShownToo : right.cache.get role = some updated) : left.SeenAs right where
  found id := by rw [landed.found, landedToo.found]
  shown id := by
    by_cases isRole : id = role
    · rw [isRole, isShown, isShownToo]
    · rw [landed.shown id isRole, landedToo.shown id isRole]

/-- Attempts that ended with one that was carried out have come to what that one alone comes to, and to
try on changes nothing. -/
structure Settles (mode : Mode) (role : RoleId) (submission : Submission) (last : Attempt) (update : Update)
    (before after : World Store) : Prop where
  once : ∃ alone, (last.run mode role submission before).1 = .ok alone ∧ alone.role = update.role
  sameAsOnce : (last.run mode role submission before).2.SeenAs after
  stored : Repository.find after.store role = .ok (some update.role)
  shown : after.cache.get role = some update.role
  again : ∀ (later : List Attempt) (next : Attempt) (repeated : Update),
    (next.run mode role submission (Attempt.runAll mode role submission later after)).1 = .ok repeated →
      repeated = ⟨update.role, []⟩ ∧
        after.SeenAs (next.run mode role submission (Attempt.runAll mode role submission later after)).2

/-- Whatever the attempts before it answered, be it that their time was over and whether or not they had
written by then: an attempt that is carried out settles the matter. -/
theorem retry_settles (atRest : before.cache.AtRest) (earlier : List Attempt) (last : Attempt)
    {update : Update} (isDone :
      (last.run mode role submission (Attempt.runAll mode role submission earlier before)).1 = .ok update) :
    Settles mode role submission last update before
      (last.run mode role submission (Attempt.runAll mode role submission earlier before)).2 := by
  have untried : Tried mode role submission before before := .untouched atRest (fun _ _ => rfl) rfl
  obtain ⟨submitted, stored, after, carried, isUpdate, hasLanded, isShown⟩ :=
    (untried.runAll earlier).done last isDone
  have isMerged : mode.merge update.role.rules submitted = update.role.rules := by simp [isUpdate]
  -- The last attempt alone meets with nothing that it did not meet with after the others.
  obtain ⟨entry, exits, -⟩ := last.ends mode role submission atRest
  have isLooked : World.look { before with conditions := last.conditions } role = .ok (some stored) :=
    World.ask_eq_ok_iff.mpr ⟨carried.isReadable, carried.isStored⟩
  obtain ⟨isAnswer, -⟩ :=
    exits.succeeds carried.isRead isLooked carried.inTime carried.isWritable carried.saved
  obtain ⟨_, _, _, _, _, aloneLanded, aloneShown⟩ := untried.done last isAnswer
  rw [← isUpdate] at aloneLanded aloneShown
  refine ⟨⟨_, isAnswer, isUpdate.symm⟩, aloneLanded.seenAs aloneShown hasLanded isShown, ?_, isShown, ?_⟩
  · rw [hasLanded.found, if_pos rfl]
  · intro later next repeated isRepeated
    obtain ⟨landedAgain, answers⟩ :=
      (hasLanded.runAll carried.isRead isMerged later).attempt carried.isRead isMerged next
    obtain ⟨isSame, shownAgain⟩ := answers repeated isRepeated
    exact ⟨isSame, hasLanded.seenAs isShown landedAgain shownAgain⟩

end Attempts

section Office

/-- While a save is slow before it writes and after that, the time of one attempt is over before the rules
are written, and that of another one after that. -/
def impatient : List Attempt :=
  [⟨0, 5, { Conditions.calm with saveDelay := 10, ackDelay := 10 }⟩,
    ⟨1, 15, { Conditions.calm with saveDelay := 10, ackDelay := 10 }⟩]

def patient : Attempt :=
  ⟨2, Settings.defaultWriteTimeout, .calm⟩

def demoted : Role :=
  keeper.withRules (RuleSet.empty.put (.bare .rbacAdmin .nothing))

/-- The patient attempt has nothing left to change, but alone it would have had. -/
theorem retry_settles_impatient :
    let reached := Attempt.runAll .patch keeper.id .demotion impatient .acquainted
    (impatient.map fun attempt => (attempt.run .patch keeper.id .demotion .acquainted).1) =
      [.error (.writeTimedOut keeper.id), .error (.writeTimedOut keeper.id)] ∧
    reached.store.role? keeper.id = some demoted ∧ reached.cache.get keeper.id = none ∧
    (patient.run .patch keeper.id .demotion reached).1 = .ok ⟨demoted, []⟩ ∧
    (patient.run .patch keeper.id .demotion .acquainted).1 = .ok ⟨demoted, [.rbacAdmin]⟩ ∧
    Settles .patch keeper.id .demotion patient ⟨demoted, []⟩ .acquainted
      (patient.run .patch keeper.id .demotion reached).2 := by
  have isDone : (patient.run .patch keeper.id .demotion
      (Attempt.runAll .patch keeper.id .demotion impatient .acquainted)).1 = .ok ⟨demoted, []⟩ := by rfl
  exact ⟨by rfl, by decide, by decide, isDone, by rfl,
    retry_settles World.atRest_acquainted impatient patient isDone⟩

end Office

end Reconciliation

end Rolebook
