import Rolebook.Proofs.Cache.Alone
import Rolebook.Proofs.Service.Call

/-!
Services at work alone. Whatever readers see of a role and however the repository answers, a service that
starts with every gate free lets go of every gate again, and changes what readers see of the one role that
it is about.
-/

namespace Rolebook

variable {Store : Type} [Repository Store]

/-- What a service that was at work alone has made of the cache: every gate is free, readers see the entry
of the one role, and of all others they see what they saw before. -/
structure World.Leaves (before after : World Store) (role : RoleId) (entry : Option Role) : Prop where
  atRest : after.cache.AtRest
  get : ∀ other, after.cache.get other = if other = role then entry else before.cache.get other
  conditions : after.conditions = before.conditions
  identify : after.identify = before.identify
  created : after.created = before.created

omit [Repository Store] in
theorem World.Leaves.get_self {before after : World Store} {role : RoleId} {entry : Option Role}
    (leaves : before.Leaves after role entry) : after.cache.get role = entry := by
  rw [leaves.get, if_pos rfl]

omit [Repository Store] in
theorem World.Leaves.get_of_ne {before after : World Store} {role other : RoleId} {entry : Option Role}
    (leaves : before.Leaves after role entry) (isOther : other ≠ role) :
    after.cache.get other = before.cache.get other := by
  rw [leaves.get, if_neg isOther]

omit [Repository Store] in
theorem World.Leaves.self {world : World Store} {role : RoleId} {entry : Option Role}
    (atRest : world.cache.AtRest) (isEntry : world.cache.get role = entry) :
    world.Leaves world role entry := by
  subst isEntry
  exact ⟨atRest, world.cache.get_eq_ite role, rfl, rfl, rfl⟩

/-- Somebody alone has come to hold the gate of the role, and readers see what they saw before. -/
structure World.Enters (before after : World Store) (me : TaskId) (role : RoleId) (slot : SlotId) : Prop where
  held : after.cache.HeldBy me role slot
  get : ∀ other, after.cache.get other = before.cache.get other
  conditions : after.conditions = before.conditions
  identify : after.identify = before.identify
  created : after.created = before.created

omit [Repository Store] in
theorem World.ask_of_faultless {Answer : Type} {world : World Store} {operation : Operation}
    (isFaultless : world.conditions.fault operation = none) (answer : Except ServiceError Answer) :
    world.ask operation answer = answer := by
  rw [ask, isFaultless]

omit [Repository Store] in
theorem World.ask_eq_ok_iff {Answer : Type} {world : World Store} {operation : Operation}
    {answer : Except ServiceError Answer} {value : Answer} :
    world.ask operation answer = .ok value ↔
      world.conditions.fault operation = none ∧ answer = .ok value := by
  unfold ask
  cases world.conditions.fault operation <;> simp

def World.look (world : World Store) (role : RoleId) : Except ServiceError (Option Role) :=
  world.ask .find (Repository.find world.store role)

theorem World.find_of_look {world : World Store} {role : RoleId} {found : Option Role}
    (isLooked : world.look role = .ok found) : Repository.find world.store role = .ok found :=
  (ask_eq_ok_iff.mp isLooked).2

/-- The role that somebody alone takes for the current one: the one in the cache, or else the stored one. -/
def World.recall (world : World Store) (role : RoleId) : Except AccessError Role :=
  match world.cache.get role with
  | some snapshot => .ok snapshot
  | none =>
      match world.look role with
      | .ok (some stored) => .ok stored
      | .ok none => .error (.roleMissing role)
      | .error error => .error (.storage error.message)

variable {me : TaskId} {world : World Store} {role : RoleId}

theorem World.perform_write_frame {after : World Store} {rules : RuleSet}
    {answer : Except ServiceError Unit} (performed : world.perform me (.write role rules) = (answer, after)) :
    (after.cache = world.cache ∧ after.identify = world.identify ∧ after.created = world.created) ∧
      after.conditions = world.conditions ∧
      world.ask .save (Repository.save world.store role rules).1 = answer := by
  rw [perform_write] at performed
  refine ⟨change_frame performed, ?_⟩
  unfold change at performed
  unfold ask
  split at performed
  · obtain ⟨isAnswer, rfl⟩ := Prod.mk.inj performed
    exact ⟨rfl, isAnswer⟩
  · obtain ⟨isAnswer, rfl⟩ := Prod.mk.inj performed
    exact ⟨rfl, isAnswer⟩

theorem World.perform_write_ok {after : World Store} {rules : RuleSet}
    (performed : world.perform me (.write role rules) = (.ok (), after)) :
    Repository.save world.store role rules = (.ok (), after.store) := by
  rw [perform_write] at performed
  exact change_ok performed

theorem Program.yields_find {Answer : Type} {post : Answer → World Store → Prop}
    {next : Except ServiceError (Option Role) → Program Answer}
    (continued : ∀ found, world.look role = found →
      (next found).Yields me post { world with finds := world.finds + 1 }) :
    (Program.act (.find role) next).Yields me post world :=
  continued _ rfl

namespace World.Enters

variable {Answer : Type} {post : Answer → World Store → Prop} {before : World Store} {slot : SlotId}
  {rest : Program Answer} (enters : before.Enters world me role slot)

include enters

omit [Repository Store] in
theorem find : before.Enters { world with finds := world.finds + 1 } me role slot :=
  ⟨enters.held, enters.get, enters.conditions, enters.identify, enters.created⟩

omit [Repository Store] in
theorem announceSave : before.Enters { world with saves := world.saves + 1 } me role slot :=
  ⟨enters.held, enters.get, enters.conditions, enters.identify, enters.created⟩

theorem write {after : World Store} {rules : RuleSet} {answer : Except ServiceError Unit}
    (performed : world.perform me (.write role rules) = (answer, after)) :
    before.Enters after me role slot := by
  obtain ⟨⟨cache, identify, created⟩, conditions, _⟩ := perform_write_frame performed
  refine ⟨?_, ?_, conditions.trans enters.conditions, identify.trans enters.identify,
    created.trans enters.created⟩
  · rw [cache]
    exact enters.held
  · rw [cache]
    exact enters.get

theorem yields_release (continued : ∀ after, after.store = world.store →
      before.Leaves after role (before.cache.get role) → rest.Yields me post after) :
    (do Program.take (.release slot); rest : Program Answer).Yields me post world := by
  apply Program.yields_release enters.held
  intro cache atRest unchanged
  refine continued _ rfl ⟨atRest, fun other => ?_, enters.conditions, enters.identify, enters.created⟩
  exact (unchanged other).trans ((enters.get other).trans (before.cache.get_eq_ite role other))

theorem yields_publish {shown : Role} (continued : ∀ after, after.store = world.store →
      before.Leaves after role (some shown) → rest.Yields me post after) :
    (do Program.take (.publish slot shown); Program.take (.release slot); rest : Program Answer).Yields
      me post world := by
  apply Program.yields_publish enters.held
  intro published held shows
  apply Program.yields_release held
  intro cache atRest unchanged
  refine continued _ rfl ⟨atRest, fun other => ?_, enters.conditions, enters.identify, enters.created⟩
  exact (unchanged other).trans ((shows other).trans (by rw [enters.get]))

theorem yields_clear (continued : ∀ after, after.store = world.store → before.Leaves after role none →
      rest.Yields me post after) :
    (do Program.take (.clear slot); Program.take (.release slot); rest : Program Answer).Yields
      me post world := by
  apply Program.yields_clear enters.held
  intro cleared held hides
  apply Program.yields_release held
  intro cache atRest unchanged
  refine continued _ rfl ⟨atRest, fun other => ?_, enters.conditions, enters.identify, enters.created⟩
  exact (unchanged other).trans ((hides other).trans (by rw [enters.get]))

theorem yields_evict {post : Unit → World Store → Prop} (evicted : ∀ after, after.store = world.store →
      before.Leaves after role none → post () after) :
    (Program.evict role slot).Yields me post world := by
  apply Program.yields_evict enters.held
  intro cache atRest hides
  refine evicted _ rfl ⟨atRest, fun other => ?_, enters.conditions, enters.identify, enters.created⟩
  exact (hides other).trans (by rw [enters.get])

end World.Enters

namespace Authorization

theorem resolve_yields {post : Except AccessError Role → World Store → Prop}
    (atRest : world.cache.AtRest)
    (resolved : ∀ after, after.store = world.store →
      world.Leaves after role (world.recall role).toOption → post (world.recall role) after) :
    (resolve role).Yields me post world := by
  unfold World.recall at resolved
  apply Program.yields_peek
  intro shown isShown
  rw [isShown] at resolved
  cases shown with
  | some snapshot => exact resolved world rfl (.self atRest isShown)
  | none =>
      apply Program.yields_lock atRest
      intro slot entered held same
      have enters : world.Enters (world.setCache entered) me role slot := ⟨held, same, rfl, rfl, rfl⟩
      apply Program.yields_current held
      rintro shown rfl
      rw [enters.get, isShown]
      apply Program.yields_find
      intro found isFound
      have isLooked : world.look role = found := isFound
      rw [isLooked] at resolved
      cases found with
      | ok found =>
          cases found with
          | some stored => exact enters.find.yields_publish resolved
          | none =>
              exact (Program.yields_bind (Program.evict role slot) _).mpr
                (enters.find.yields_evict resolved)
      | error error =>
          exact (Program.yields_bind (Program.evict role slot) _).mpr (enters.find.yields_evict resolved)

theorem invalidate_yields {post : Unit → World Store → Prop} (atRest : world.cache.AtRest)
    (removed : ∀ after, after.store = world.store → world.Leaves after role none → post () after) :
    (invalidate role).Yields me post world := by
  apply Program.yields_lockPublished atRest
  · intro isAbsent
    have isHidden : world.cache.get role = none := by simp [Cache.get, isAbsent]
    exact removed world rfl (.self atRest isHidden)
  · intro slot entered held same
    have enters : world.Enters (world.setCache entered) me role slot := ⟨held, same, rfl, rfl, rfl⟩
    exact enters.yields_evict removed

end Authorization

namespace Reconciliation

variable {mode : Mode} {deadline : Nat} {submission : Submission} {rules : RuleSet}

/-- The ways in which a reconciliation that is at work alone comes to its end: what it answers, what is
stored then, and what readers see of the role. -/
inductive Exit (mode : Mode) (deadline : Nat) (role : RoleId) (submission : Submission)
    (world : World Store) : Except AccessError Update → Store → Option Role → Prop where
  | refused {error : AccessError} (isRefused : submission.ruleSet = .error error) :
      Exit mode deadline role submission world (.error error) world.store (world.cache.get role)
  | absent {submitted : RuleSet} (isRead : submission.ruleSet = .ok submitted)
      (isAbsent : world.look role = .ok none) :
      Exit mode deadline role submission world (.error (.roleVanished role)) world.store none
  | unread {submitted : RuleSet} {error : ServiceError} (isRead : submission.ruleSet = .ok submitted)
      (failed : world.look role = .error error) :
      Exit mode deadline role submission world (.error (storageError role error)) world.store
        (world.cache.get role)
  | unwritten {submitted : RuleSet} {stored : Role} (isRead : submission.ruleSet = .ok submitted)
      (isStored : world.look role = .ok (some stored)) (isLate : deadline < world.conditions.saveDelay) :
      Exit mode deadline role submission world (.error (.writeTimedOut role)) world.store none
  | unsaved {submitted : RuleSet} {stored : Role} {error : ServiceError}
      (isRead : submission.ruleSet = .ok submitted) (isStored : world.look role = .ok (some stored))
      (inTime : world.conditions.saveDelay ≤ deadline)
      (failed : world.ask .save
        (Repository.save world.store role (mode.merge stored.rules submitted)).1 = .error error) :
      Exit mode deadline role submission world (.error (storageError role error)) world.store
        (if error.kind = .notFound then none else world.cache.get role)
  | unanswered {submitted : RuleSet} {stored : Role} {after : Store}
      (isRead : submission.ruleSet = .ok submitted) (isStored : world.look role = .ok (some stored))
      (inTime : world.conditions.saveDelay ≤ deadline)
      (saved : Repository.save world.store role (mode.merge stored.rules submitted) = (.ok (), after))
      (isLate : deadline < world.conditions.saveDelay + world.conditions.ackDelay) :
      Exit mode deadline role submission world (.error (.writeTimedOut role)) after none
  | done {submitted : RuleSet} {stored : Role} {after : Store}
      (isRead : submission.ruleSet = .ok submitted) (isStored : world.look role = .ok (some stored))
      (saved : Repository.save world.store role (mode.merge stored.rules submitted) = (.ok (), after))
      (inTime : world.conditions.saveDelay + world.conditions.ackDelay ≤ deadline)
      (answered : world.ask .save
        (Repository.save world.store role (mode.merge stored.rules submitted)).1 = .ok ()) :
      Exit mode deadline role submission world
        (.ok ⟨stored.withRules (mode.merge stored.rules submitted),
          stored.rules.changedScopes (mode.merge stored.rules submitted)⟩) after
        (some (stored.withRules (mode.merge stored.rules submitted)))

/-- Nothing hinders a reconciliation with a role that is there, rules that are saved, and time enough. -/
theorem Exit.succeeds {answer : Except AccessError Update} {store after : Store} {entry : Option Role}
    {submitted : RuleSet} {stored : Role}
    (exits : Exit mode deadline role submission world answer store entry)
    (isRead : submission.ruleSet = .ok submitted) (isStored : world.look role = .ok (some stored))
    (inTime : world.conditions.saveDelay + world.conditions.ackDelay ≤ deadline)
    (faultless : world.conditions.fault .save = none)
    (saved : Repository.save world.store role (mode.merge stored.rules submitted) = (.ok (), after)) :
    answer = .ok ⟨stored.withRules (mode.merge stored.rules submitted),
      stored.rules.changedScopes (mode.merge stored.rules submitted)⟩ ∧ store = after ∧
        entry = some (stored.withRules (mode.merge stored.rules submitted)) := by
  cases exits with
  | refused isRefused =>
      rw [isRead] at isRefused
      cases isRefused
  | absent _ isAbsent =>
      rw [isStored] at isAbsent
      cases isAbsent
  | unread _ failed =>
      rw [isStored] at failed
      cases failed
  | unwritten _ _ isLate => omega
  | unsaved isReadToo isStoredToo _ failed =>
      obtain rfl := Except.ok.inj (isRead.symm.trans isReadToo)
      obtain rfl := Option.some.inj (Except.ok.inj (isStored.symm.trans isStoredToo))
      rw [World.ask_of_faultless faultless, saved] at failed
      cases failed
  | unanswered _ _ _ _ isLate => omega
  | done isReadToo isStoredToo savedToo =>
      obtain rfl := Except.ok.inj (isRead.symm.trans isReadToo)
      obtain rfl := Option.some.inj (Except.ok.inj (isStored.symm.trans isStoredToo))
      exact ⟨rfl, (congrArg Prod.snd (saved.symm.trans savedToo)).symm, rfl⟩

theorem waitWithin_yields {post : Bool → World Store → Prop} {before duration : Nat}
    (late : deadline < before + duration → post true world)
    (inTime : before + duration ≤ deadline → post false world) :
    (waitWithin (some deadline) before duration).Yields me post world := by
  change post (decide (deadline < before + duration)) world
  by_cases isLate : deadline < before + duration
  · rw [decide_eq_true isLate]
    exact late isLate
  · rw [decide_eq_false isLate]
    exact inTime (Nat.le_of_not_lt isLate)

theorem saveWithin_yields {post : Option (Except ServiceError Unit) → World Store → Prop}
    (unwritten : deadline < world.conditions.saveDelay → post none { world with saves := world.saves + 1 })
    (unsaved : world.conditions.saveDelay ≤ deadline → ∀ error after,
      World.perform { world with saves := world.saves + 1 } me (.write role rules) = (.error error, after) →
        post (some (.error error)) after)
    (unanswered : world.conditions.saveDelay ≤ deadline →
      deadline < world.conditions.saveDelay + world.conditions.ackDelay → ∀ after,
        World.perform { world with saves := world.saves + 1 } me (.write role rules) = (.ok (), after) →
          post none after)
    (done : world.conditions.saveDelay + world.conditions.ackDelay ≤ deadline → ∀ after,
      World.perform { world with saves := world.saves + 1 } me (.write role rules) = (.ok (), after) →
        post (some (.ok ())) after) :
    (saveWithin (some deadline) role rules).Yields me post world := by
  change ((waitWithin (some deadline) 0 world.conditions.saveDelay).bind _).Yields me post
    { world with saves := world.saves + 1 }
  refine (Program.yields_bind _ _).mpr (waitWithin_yields ?_ ?_)
  · rw [Nat.zero_add]
    exact unwritten
  · rw [Nat.zero_add]
    intro inTime
    apply Program.yields_act
    intro answer after performed
    cases answer with
    | error error => exact unsaved inTime error after performed
    | ok =>
        change ((waitWithin (some deadline) world.conditions.saveDelay _).bind _).Yields me post after
        exact (Program.yields_bind _ _).mpr (waitWithin_yields
          (fun isLate => unanswered inTime isLate after performed) fun isDone => done isDone after performed)

/-- A reconciliation at work alone comes to one of its ends. -/
theorem applyWithin_yields [LawfulRepository Store] {post : Except AccessError Update → World Store → Prop}
    (atRest : world.cache.AtRest)
    (ended : ∀ answer entry after, Exit mode deadline role submission world answer after.store entry →
      world.Leaves after role entry → post answer after) :
    (applyWithin mode deadline role submission).Yields me post world := by
  unfold applyWithin
  split
  · rename_i error isRefused
    exact ended _ _ world (.refused isRefused) (.self atRest rfl)
  · rename_i submitted isRead
    apply Program.yields_lock atRest
    intro slot entered held same
    have enters : world.Enters (world.setCache entered) me role slot := ⟨held, same, rfl, rfl, rfl⟩
    apply Program.yields_find
    intro found isFound
    have isLooked : world.look role = found := isFound
    cases found with
    | error error =>
        apply enters.find.yields_release
        intro after sameStore
        exact ended _ _ after (sameStore ▸ .unread isRead isLooked)
    | ok found =>
        cases found with
        | none =>
            refine (Program.yields_bind (Program.evict role slot) _).mpr (enters.find.yields_evict ?_)
            intro after sameStore
            exact ended _ _ after (sameStore ▸ .absent isRead isLooked)
        | some stored =>
            have begun := enters.find.announceSave
            change ((saveWithin (some deadline) role _).bind _).Yields me post _
            refine (Program.yields_bind _ _).mpr (saveWithin_yields ?unwritten ?unsaved ?unanswered ?done)
            case unwritten =>
              intro isLate
              apply begun.yields_clear
              intro after sameStore
              exact ended _ _ after (sameStore ▸ .unwritten isRead isLooked isLate)
            case unsaved =>
              intro inTime error written performed
              have isSame := World.perform_write_error performed
              have exits := Exit.unsaved isRead isLooked inTime (World.perform_write_frame performed).2.2
              by_cases isGone : error.kind = .notFound
              · simp only [isGone, if_true] at exits ⊢
                refine (Program.yields_bind (Program.evict role slot) _).mpr
                  ((begun.write performed).yields_evict ?_)
                intro after sameStore
                exact ended _ _ after (sameStore.trans isSame ▸ exits)
              · simp only [isGone, if_false] at exits ⊢
                apply (begun.write performed).yields_release
                intro after sameStore
                exact ended _ _ after (sameStore.trans isSame ▸ exits)
            case unanswered =>
              intro inTime isLate written performed
              have saved := World.perform_write_ok performed
              apply (begun.write performed).yields_clear
              intro after sameStore
              exact ended _ _ after (sameStore ▸ .unanswered isRead isLooked inTime saved isLate)
            case done =>
              intro inTime written performed
              have saved := World.perform_write_ok performed
              apply (begun.write performed).yields_publish
              intro after sameStore
              have answered := (World.perform_write_frame performed).2.2
              exact ended _ _ after (sameStore ▸ .done isRead isLooked saved inTime answered)

end Reconciliation

/-- To carry out a call alone is to run a machine on which it is the only task. -/
theorem Call.runs_alone [LawfulRepository Store] (settings : Settings) (call : Call)
    (atRest : world.cache.AtRest) :
    ∃ log, (Machine.load world [call.program settings]).Run log
      ⟨((call.program settings).run 0 world).2,
        [.finished ((call.program settings).run 0 world).1]⟩ := by
  have located : ([call].map (Call.program settings))[0]? = some (call.program settings) := rfl
  exact (Machine.orderly_load atRest (Call.isIdle 0 _ located)).runs

end Rolebook
