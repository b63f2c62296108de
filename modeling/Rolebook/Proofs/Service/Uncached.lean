import Rolebook.Proofs.Cache.Coherence
import Rolebook.Proofs.Service.Alone

/-!
The service without a cache. It looks a role up in the store whenever it needs one. As long as errands are
run one after the other and the repository does not fail, nobody can tell the two services apart: a role
that the cache shows is the stored one, so that to take it from there is the same as to look it up.
-/

namespace Rolebook

/-- A service that keeps no cache: what is stored, how many roles were created, and how long a save takes
before it writes and after that. -/
structure Uncached (Store : Type) where
  store : Store
  identify : Nat → RoleId
  created : Nat
  saveDelay : Nat
  ackDelay : Nat

namespace Uncached

variable {Store : Type}

def start (store : Store) (identify : Nat → RoleId) : Uncached Store :=
  ⟨store, identify, 0, 0, 0⟩

variable [Repository Store] (service : Uncached Store)

def resolve (role : RoleId) : Except AccessError Role :=
  match Repository.find service.store role with
  | .ok (some stored) => .ok stored
  | .ok none => .error (.roleMissing role)
  | .error error => .error (.storage error.message)

def authorize (policy : Policy) (session : Session) (scope : Scope) (required : Level) :
    Except AccessError Decision :=
  if session.isEmpty then .ok (policy.decide required)
  else (service.resolve session.role).map fun role => role.decide scope required

def isAllowed (policy : Policy) (session : Session) (scope : Scope) (required : Level) : Bool :=
  match service.authorize policy session scope required with
  | .ok decision => decision.allowed
  | .error _ => false

/-- A session whose role is gone lacks access like any other that is denied it. -/
def require (policy : Policy) (session : Session) (scope : Scope) (required : Level) :
    Except ServiceError Decision :=
  match service.authorize policy session scope required with
  | .ok decision =>
      if decision.allowed then .ok decision
      else .error (.accessLacking session.username required scope)
  | .error (.roleMissing _) => .error (.accessLacking session.username required scope)
  | .error error => .error (.access error)

def asAdmin {Answer : Type} (settings : Settings) (session : Session) (required : Level)
    (outcome : Except ServiceError Answer × Uncached Store) :
    Except ServiceError Answer × Uncached Store :=
  match service.require settings.policy session .rbacAdmin required with
  | .ok _ => outcome
  | .error error => (.error error, service)

def list : Except ServiceError (List Role) :=
  Repository.list service.store

def find (role : RoleId) : Except ServiceError Role :=
  match Repository.find service.store role with
  | .ok (some stored) => .ok stored
  | .ok none => .error (.roleMissing role)
  | .error error => .error error

def create (role : NewRole) : Except ServiceError Role × Uncached Store :=
  match Repository.create service.store (service.identify (service.created + 1)) role with
  | (.ok created, store) => (.ok created, { service with store, created := service.created + 1 })
  | (.error error, store) => (.error error, { service with store })

def delete (role : RoleId) : Except ServiceError Unit × Uncached Store :=
  let (answer, store) := Repository.delete service.store role
  (answer, { service with store })

/-- Merges a submission into the stored rules. The time may be over before the rules are written, and then
they are not, or before that is answered. -/
def apply (settings : Settings) (role : RoleId) (submission : Submission) :
    Except AccessError Update × Uncached Store :=
  match submission.ruleSet, Repository.find service.store role with
  | .error error, _ => (.error error, service)
  | .ok _, .error error => (.error (Reconciliation.storageError role error), service)
  | .ok _, .ok none => (.error (.roleVanished role), service)
  | .ok submitted, .ok (some stored) =>
      let rules := settings.mode.merge stored.rules submitted
      if settings.writeTimeout < service.saveDelay then (.error (.writeTimedOut role), service)
      else
        match Repository.save service.store role rules with
        | (.error error, store) =>
            (.error (Reconciliation.storageError role error), { service with store })
        | (.ok (), store) =>
            if settings.writeTimeout < service.saveDelay + service.ackDelay then
              (.error (.writeTimedOut role), { service with store })
            else (.ok ⟨stored.withRules rules, stored.rules.changedScopes rules⟩, { service with store })

def carryOut (settings : Settings) (service : Uncached Store) : (call : Call) → call.Answer × Uncached Store
  | .authorize session scope required =>
      (service.authorize settings.policy session scope required, service)
  | .isAllowed session scope required =>
      (service.isAllowed settings.policy session scope required, service)
  | .require session scope required => (service.require settings.policy session scope required, service)
  | .resolve role => (service.resolve role, service)
  | .invalidate _ => ((), service)
  | .apply role submission => service.apply settings role submission
  | .createRole session role => service.asAdmin settings session .edit (service.create role)
  | .deleteRole session role => service.asAdmin settings session .full (service.delete role)
  | .updateRules session role submission =>
      let (answer, after) := service.apply settings role submission
      service.asAdmin settings session .edit (asService answer, after)
  | .listRoles session => service.asAdmin settings session .view (service.list, service)
  | .findRole session role => service.asAdmin settings session .view (service.find role, service)

end Uncached

/-- Something to be done at the office: a call, a look whether a session may edit rules, or a role for an
actor. In between, the repository may become slower or faster. -/
inductive Errand where
  | call (call : Call)
  | requireEditor (session : Session)
  | assign (actor : ActorId) (role : RoleId)
  | delay (saveDelay ackDelay : Nat)

namespace Errand

abbrev Answer : Errand → Type
  | call errand => errand.Answer
  | requireEditor _ | assign _ _ => Except ServiceError Unit
  | delay _ _ => Unit

structure Result where
  errand : Errand
  answer : errand.Answer

def runAll {State : Type} (run : State → (errand : Errand) → errand.Answer × State) :
    List Errand → State → List Result × State
  | [], state => ([], state)
  | errand :: rest, state =>
      let (answer, after) := run state errand
      let (results, last) := runAll run rest after
      (⟨errand, answer⟩ :: results, last)

end Errand

/-- Runs an errand with no other task at work. -/
def World.run (settings : Settings) (world : World MemoryStore) :
    (errand : Errand) → errand.Answer × World MemoryStore
  | .call call => (call.body settings).run 0 world
  | .requireEditor session => (Administration.requireEditor settings session).run 0 world
  | .assign actor role =>
      let (answer, store) := world.store.assign actor role
      (answer, { world with store })
  | .delay saveDelay ackDelay => ((), world.disturb world.conditions.fault saveDelay ackDelay)

def Uncached.run (settings : Settings) (service : Uncached MemoryStore) :
    (errand : Errand) → errand.Answer × Uncached MemoryStore
  | .call call => service.carryOut settings call
  | .requireEditor session => service.asAdmin settings session .edit (.ok (), service)
  | .assign actor role =>
      let (answer, store) := service.store.assign actor role
      (answer, { service with store })
  | .delay saveDelay ackDelay => ((), { service with saveDelay, ackDelay })

section Mirrors

variable {Store Answer : Type} [Repository Store] [LawfulRepository Store] {limit : Nat} {me : TaskId}
  {service : Uncached Store} {world after : World Store} {settings : Settings} {session : Session}
  {role : RoleId}

/-- A world in which the service with a cache stands as the one without: it has the same roles, shows
nothing that is not stored, and its repository does not fail. -/
structure World.Mirrors (limit : Nat) (service : Uncached Store) (world : World Store) : Prop where
  store : world.store = service.store
  identify : world.identify = service.identify
  created : world.created = service.created
  saveDelay : world.conditions.saveDelay = service.saveDelay
  ackDelay : world.conditions.ackDelay = service.ackDelay
  settled : world.Settled
  faultless : ∀ operation, world.conditions.fault operation = none
  fresh : world.Fresh limit

def Uncached.Matches (limit : Nat) (outcome : Answer × Uncached Store) (answer : Answer)
    (world : World Store) : Prop :=
  answer = outcome.1 ∧ world.Mirrors limit outcome.2

omit [LawfulRepository Store] in
theorem Uncached.resolve_eq_ok_iff {snapshot : Role} :
    service.resolve role = .ok snapshot ↔ Repository.find service.store role = .ok (some snapshot) := by
  unfold resolve
  split <;> simp_all

namespace World.Mirrors

theorem ask (mirrors : world.Mirrors limit service) (operation : Operation)
    (answer : Except ServiceError Answer) : world.ask operation answer = answer :=
  World.ask_of_faultless (mirrors.faultless operation) answer

theorem change (mirrors : world.Mirrors limit service) (operation : Operation)
    (effect : Store → Except ServiceError Answer × Store) :
    world.change operation effect =
      ((effect service.store).1, { world with store := (effect service.store).2 }) := by
  unfold World.change
  rw [mirrors.faultless, mirrors.store]

theorem look_eq (mirrors : world.Mirrors limit service) (role : RoleId) :
    world.look role = Repository.find service.store role := by
  rw [World.look, mirrors.ask, mirrors.store]

/-- What the cache shows is what is stored, so it does not matter where a role is taken from. -/
theorem recall_eq (mirrors : world.Mirrors limit service) (role : RoleId) :
    world.recall role = service.resolve role := by
  unfold World.recall
  cases isShown : world.cache.get role with
  | some snapshot =>
      have isStored := mirrors.settled.isTrue role snapshot isShown
      rw [mirrors.store] at isStored
      exact (Uncached.resolve_eq_ok_iff.mpr isStored).symm
  | none =>
      rw [mirrors.look_eq]
      rfl

theorem changed (mirrors : world.Mirrors limit service) {entry : Option Role}
    (leaves : world.Leaves after role entry)
    (others : ∀ other, other ≠ role →
      Repository.find after.store other = Repository.find world.store other)
    (isTrue : ∀ snapshot, entry = some snapshot → Repository.find after.store role = .ok (some snapshot))
    (stores : ∀ id, LawfulRepository.stores after.store id → LawfulRepository.stores world.store id) :
    after.Mirrors limit { service with store := after.store } where
  store := rfl
  identify := leaves.identify.trans mirrors.identify
  created := leaves.created.trans mirrors.created
  saveDelay := by rw [leaves.conditions, mirrors.saveDelay]
  ackDelay := by rw [leaves.conditions, mirrors.ackDelay]
  settled := by
    refine ⟨leaves.atRest, ?_⟩
    intro other snapshot isShown
    by_cases isRole : other = role
    · subst isRole
      rw [leaves.get_self] at isShown
      exact isTrue snapshot isShown
    · rw [leaves.get_of_ne isRole] at isShown
      rw [others other isRole]
      exact mirrors.settled.isTrue other snapshot isShown
  faultless operation := by rw [leaves.conditions, mirrors.faultless]
  fresh := mirrors.fresh.congr stores leaves.identify leaves.created

theorem unchanged (mirrors : world.Mirrors limit service) {entry : Option Role}
    (leaves : world.Leaves after role entry) (sameStore : after.store = world.store)
    (isTrue : ∀ snapshot, entry = some snapshot →
      Repository.find service.store role = .ok (some snapshot)) : after.Mirrors limit service := by
  have isService : after.store = service.store := sameStore.trans mirrors.store
  have changed := mirrors.changed leaves (fun other _ => by rw [sameStore])
    (by rw [isService]; exact isTrue) (fun _ => by rw [sameStore]; exact id)
  rwa [isService] at changed

end World.Mirrors

theorem Authorization.resolve_matches (mirrors : world.Mirrors limit service) (role : RoleId) :
    (resolve role).Yields me (Uncached.Matches limit (service.resolve role, service)) world := by
  apply resolve_yields mirrors.settled.atRest
  intro after sameStore leaves
  rw [mirrors.recall_eq] at leaves ⊢
  refine ⟨rfl, mirrors.unchanged leaves sameStore ?_⟩
  intro snapshot isShown
  apply Uncached.resolve_eq_ok_iff.mp
  cases resolved : service.resolve role with
  | ok found =>
      rw [resolved] at isShown
      rw [Option.some.inj isShown]
  | error error =>
      rw [resolved] at isShown
      cases isShown

theorem Authorization.invalidate_matches (mirrors : world.Mirrors limit service) (role : RoleId) :
    (invalidate role).Yields me (Uncached.Matches limit ((), service)) world := by
  apply invalidate_yields mirrors.settled.atRest
  intro after sameStore leaves
  exact ⟨rfl, mirrors.unchanged leaves sameStore (by simp)⟩

variable (settings session) in
theorem Authorization.authorize_matches (mirrors : world.Mirrors limit service) (scope : Scope)
    (required : Level) :
    (authorize settings.policy session scope required).Yields me
      (Uncached.Matches limit (service.authorize settings.policy session scope required, service))
        world := by
  unfold authorize Uncached.authorize
  by_cases isEmpty : session.isEmpty = true
  · rw [if_pos isEmpty, if_pos isEmpty]
    exact ⟨rfl, mirrors⟩
  · rw [if_neg isEmpty, if_neg isEmpty]
    refine (Program.yields_bind _ _).mpr ((resolve_matches mirrors session.role).mono ?_)
    rintro answer after ⟨rfl, stillMirrors⟩
    cases service.resolve session.role with
    | ok role => exact ⟨rfl, stillMirrors⟩
    | error error => exact ⟨rfl, stillMirrors⟩

variable (settings session) in
theorem Authorization.isAllowed_matches (mirrors : world.Mirrors limit service) (scope : Scope)
    (required : Level) :
    (isAllowed settings.policy session scope required).Yields me
      (Uncached.Matches limit (service.isAllowed settings.policy session scope required, service))
        world := by
  refine (Program.yields_bind _ _).mpr
    ((authorize_matches settings session mirrors scope required).mono ?_)
  rintro answer after ⟨rfl, stillMirrors⟩
  unfold Uncached.isAllowed
  cases service.authorize settings.policy session scope required with
  | ok decision => exact ⟨rfl, stillMirrors⟩
  | error error => exact ⟨rfl, stillMirrors⟩

variable (settings session) in
theorem Authorization.require_matches (mirrors : world.Mirrors limit service) (scope : Scope)
    (required : Level) :
    (require settings.policy session scope required).Yields me
      (Uncached.Matches limit (service.require settings.policy session scope required, service))
        world := by
  refine (Program.yields_bind _ _).mpr
    ((authorize_matches settings session mirrors scope required).mono ?_)
  rintro answer after ⟨rfl, stillMirrors⟩
  unfold Uncached.require
  cases service.authorize settings.policy session scope required with
  | ok decision =>
      by_cases isAllowed : decision.allowed = true
      · simp only [denyMissing, isAllowed, if_true]
        exact ⟨rfl, stillMirrors⟩
      · simp only [denyMissing, isAllowed]
        exact ⟨rfl, stillMirrors⟩
  | error error => cases error <;> exact ⟨rfl, stillMirrors⟩

variable (settings session) in
theorem Administration.requireAdmin_matches (mirrors : world.Mirrors limit service) (required : Level) :
    (requireAdmin settings session required).Yields me
      (Uncached.Matches limit (service.asAdmin settings session required (.ok (), service))) world := by
  refine (Program.yields_bind _ _).mpr
    ((Authorization.require_matches settings session mirrors .rbacAdmin required).mono ?_)
  rintro answer after ⟨rfl, stillMirrors⟩
  unfold Uncached.asAdmin
  cases service.require settings.policy session .rbacAdmin required with
  | ok decision => exact ⟨rfl, stillMirrors⟩
  | error error => exact ⟨rfl, stillMirrors⟩

variable (settings session) in
theorem Administration.asAdmin_matches (mirrors : world.Mirrors limit service) {required : Level}
    {operation : Program (Except ServiceError Answer)}
    {outcome : Except ServiceError Answer × Uncached Store}
    (isBelow : (service.asAdmin settings session required outcome).2.created ≤ limit)
    (operated : outcome.2.created ≤ limit → ∀ after, after.Mirrors limit service →
      operation.Yields me (Uncached.Matches limit outcome) after) :
    (asAdmin settings session required operation).Yields me
      (Uncached.Matches limit (service.asAdmin settings session required outcome)) world := by
  refine (Program.yields_bind _ _).mpr
    ((requireAdmin_matches settings session mirrors required).mono ?_)
  rintro answer after ⟨rfl, stillMirrors⟩
  unfold Uncached.asAdmin at isBelow stillMirrors ⊢
  cases isAdmitted : service.require settings.policy session .rbacAdmin required with
  | ok decision =>
      rw [isAdmitted] at isBelow stillMirrors
      exact operated isBelow after stillMirrors
  | error error =>
      rw [isAdmitted] at stillMirrors
      exact ⟨rfl, stillMirrors⟩

namespace World.Mirrors

variable (mirrors : world.Mirrors limit service)

include mirrors

theorem list : (Program.take .list).Yields me (Uncached.Matches limit (service.list, service)) world := by
  refine ⟨?_, mirrors⟩
  change world.ask .list (Repository.list world.store) = _
  rw [mirrors.ask, mirrors.store]
  rfl

theorem find (role : RoleId) :
    (Program.take (.find role)).Yields me (Uncached.Matches limit (Repository.find service.store role,
      service)) world := by
  refine ⟨?_, mirrors.store, mirrors.identify, mirrors.created, mirrors.saveDelay, mirrors.ackDelay,
    ⟨mirrors.settled.atRest, mirrors.settled.isTrue⟩, mirrors.faultless,
    mirrors.fresh.congr (fun _ => id) rfl rfl⟩
  exact mirrors.look_eq role

theorem isStored {snapshot : Role} (isShown : world.cache.get role = some snapshot) :
    Repository.find service.store role = .ok (some snapshot) := by
  rw [← mirrors.store]
  exact mirrors.settled.isTrue role snapshot isShown

/-- A role that is created is one that was not stored, so the cache shows nothing of it. -/
theorem create (role : NewRole) (isBelow : (service.create role).2.created ≤ limit) :
    (Program.take (.create role)).Yields me (Uncached.Matches limit (service.create role)) world := by
  apply Program.yields_act
  intro answer after performed
  have isPerformed := performed
  simp only [World.perform, World.createRole, mirrors.change, mirrors.identify, mirrors.created]
    at isPerformed
  unfold Uncached.create at isBelow ⊢
  cases outcome : Repository.create service.store (service.identify (service.created + 1)) role with
  | mk answer store =>
      rw [outcome] at isPerformed isBelow
      cases answer with
      | error error =>
          obtain ⟨rfl, rfl⟩ := Prod.mk.inj isPerformed
          obtain rfl := LawfulRepository.create_error outcome
          exact ⟨rfl, rfl, rfl, rfl, mirrors.saveDelay, mirrors.ackDelay,
            ⟨mirrors.settled.atRest, fun _ _ => mirrors.isStored⟩, mirrors.faultless,
            mirrors.fresh.congr (fun _ => by rw [mirrors.store]; exact id) mirrors.identify.symm
              mirrors.created.symm⟩
      | ok created =>
          obtain ⟨rfl, rfl⟩ := Prod.mk.inj isPerformed
          have isCount : service.created + 1 ≤ limit := isBelow
          obtain ⟨fresh, id, isNew, found, _⟩ := mirrors.fresh.create performed isCount
          refine ⟨rfl, rfl, rfl, rfl, mirrors.saveDelay, mirrors.ackDelay,
            ⟨mirrors.settled.atRest, ?_⟩, mirrors.faultless, fresh⟩
          intro other snapshot isShown
          have isStored := mirrors.settled.isTrue other snapshot isShown
          refine (found other ?_).trans isStored
          rintro rfl
          exact isNew (LawfulRepository.stores_of_find isStored)

theorem deleted (leaves : world.Leaves after role none)
    (isGone : Repository.delete world.store role = (.ok (), after.store)) :
    after.Mirrors limit { service with store := after.store } := by
  have isAfter : after.store = (Repository.delete world.store role).2 := by rw [isGone]
  refine mirrors.changed leaves ?_ (by simp) ?_
  · intro other isOther
    rw [isAfter]
    exact LawfulRepository.find_delete_of_ne isOther
  · intro id isStored
    have isOther : id ≠ role := by
      rintro rfl
      exact LawfulRepository.not_stores_of_delete isGone isStored
    rw [isAfter] at isStored
    exact (LawfulRepository.stores_delete_of_ne isOther).mp isStored

theorem delete (role : RoleId) :
    (do
      match ← Program.take (.delete role) with
      | .error error => return .error error
      | .ok () =>
          Authorization.invalidate role
          return .ok () : Program (Except ServiceError Unit)).Yields me
      (Uncached.Matches limit (service.delete role)) world := by
  apply Program.yields_act
  intro answer after performed
  rw [World.perform_delete, mirrors.change] at performed
  unfold Uncached.delete
  cases deleted : Repository.delete service.store role with
  | mk outcome store =>
      rw [deleted] at performed
      obtain ⟨rfl, rfl⟩ := Prod.mk.inj performed
      cases outcome with
      | error error =>
          obtain rfl := LawfulRepository.delete_error deleted
          refine ⟨rfl, ?_⟩
          have isSame : { world with store := service.store } = world := by rw [← mirrors.store]
          rw [isSame]
          exact mirrors
      | ok =>
          refine (Program.yields_bind (Authorization.invalidate role) _).mpr
            (Authorization.invalidate_yields mirrors.settled.atRest ?_)
          intro after sameStore leaves
          have isGone : Repository.delete world.store role = (.ok (), after.store) := by
            rw [mirrors.store, deleted]
            exact congrArg (Prod.mk _) sameStore.symm
          have stillMirrors := mirrors.deleted
            ⟨leaves.atRest, leaves.get, leaves.conditions, leaves.identify, leaves.created⟩ isGone
          rw [sameStore] at stillMirrors
          exact ⟨rfl, stillMirrors⟩

theorem saved {entry : Option Role} (leaves : world.Leaves after role entry) {rules : RuleSet}
    (saved : Repository.save world.store role rules = (.ok (), after.store))
    (isTrue : ∀ snapshot, entry = some snapshot →
      Repository.find after.store role = .ok (some snapshot)) :
    after.Mirrors limit { service with store := after.store } := by
  have isAfter : after.store = (Repository.save world.store role rules).2 := by rw [saved]
  refine mirrors.changed leaves ?_ isTrue ?_
  · intro other isOther
    rw [isAfter]
    exact LawfulRepository.find_save_of_ne rules isOther
  · intro id isStored
    rw [isAfter] at isStored
    exact (LawfulRepository.stores_save rules).mp isStored

theorem apply (settings : Settings) (role : RoleId) (submission : Submission) :
    (Reconciliation.apply settings role submission).Yields me
      (Uncached.Matches limit (service.apply settings role submission)) world := by
  apply Reconciliation.applyWithin_yields mirrors.settled.atRest
  intro answer entry after exits leaves
  generalize isAfter : after.store = store at exits
  unfold Uncached.apply
  cases exits with
  | refused isRefused =>
      rw [isRefused]
      exact ⟨rfl, mirrors.unchanged leaves isAfter fun _ => mirrors.isStored⟩
  | absent isRead isAbsent =>
      rw [mirrors.look_eq] at isAbsent
      rw [isRead, isAbsent]
      exact ⟨rfl, mirrors.unchanged leaves isAfter (by simp)⟩
  | unread isRead failed =>
      rw [mirrors.look_eq] at failed
      rw [isRead, failed]
      exact ⟨rfl, mirrors.unchanged leaves isAfter fun _ => mirrors.isStored⟩
  | unwritten isRead isStored isLate =>
      rw [mirrors.look_eq] at isStored
      rw [mirrors.saveDelay] at isLate
      rw [isRead, isStored]
      simp only [isLate, if_true]
      exact ⟨rfl, mirrors.unchanged leaves isAfter (by simp)⟩
  | @unsaved _ stored error isRead isStored inTime failed =>
      rw [mirrors.look_eq] at isStored
      rw [mirrors.saveDelay] at inTime
      rw [mirrors.ask, mirrors.store] at failed
      rw [isRead, isStored]
      simp only [Nat.not_lt.mpr inTime, if_false]
      split
      · rename_i cause store isUnsaved
        rw [isUnsaved] at failed
        obtain rfl := Except.error.inj failed
        obtain rfl := LawfulRepository.save_error isUnsaved
        refine ⟨rfl, mirrors.unchanged leaves isAfter ?_⟩
        intro snapshot isShown
        split at isShown
        · cases isShown
        · exact mirrors.isStored isShown
      · rename_i saved
        rw [saved] at failed
        cases failed
  | unanswered isRead isStored inTime saved isLate =>
      subst isAfter
      have stillMirrors := mirrors.saved leaves saved (by simp)
      rw [mirrors.look_eq] at isStored
      rw [mirrors.store] at saved
      rw [mirrors.saveDelay] at inTime isLate
      rw [mirrors.ackDelay] at isLate
      rw [isRead, isStored]
      simp only [Nat.not_lt.mpr inTime, if_false, saved, isLate, if_true]
      exact ⟨rfl, stillMirrors⟩
  | @done _ stored _ isRead isStored saved inTime =>
      subst isAfter
      have stillMirrors := mirrors.saved leaves saved (by
        rintro snapshot ⟨⟩
        rw [mirrors.look_eq, ← mirrors.store] at isStored
        exact LawfulRepository.find_save saved isStored)
      rw [mirrors.look_eq] at isStored
      rw [mirrors.store] at saved
      rw [mirrors.saveDelay, mirrors.ackDelay] at inTime
      rw [isRead, isStored]
      simp only [Nat.not_lt.mpr inTime, Nat.not_lt.mpr (Nat.le_of_add_right_le inTime), if_false, saved]
      exact ⟨rfl, stillMirrors⟩

/-- Every call is carried out as by the service without a cache. -/
theorem carryOut (settings : Settings) (call : Call)
    (isBelow : (service.carryOut settings call).2.created ≤ limit) :
    (call.body settings).Yields me (Uncached.Matches limit (service.carryOut settings call)) world := by
  cases call with
  | authorize session scope required =>
      exact Authorization.authorize_matches settings session mirrors scope required
  | isAllowed session scope required =>
      exact Authorization.isAllowed_matches settings session mirrors scope required
  | require session scope required =>
      exact Authorization.require_matches settings session mirrors scope required
  | resolve role => exact Authorization.resolve_matches mirrors role
  | invalidate role => exact Authorization.invalidate_matches mirrors role
  | apply role submission => exact mirrors.apply settings role submission
  | createRole session role =>
      exact Administration.asAdmin_matches settings session mirrors isBelow fun isLow _ stillMirrors =>
        stillMirrors.create role isLow
  | deleteRole session role =>
      exact Administration.asAdmin_matches settings session mirrors isBelow fun _ _ stillMirrors =>
        stillMirrors.delete role
  | updateRules session role submission =>
      apply Administration.asAdmin_matches settings session mirrors isBelow
      intro _ after stillMirrors
      refine (Program.yields_bind _ _).mpr ((stillMirrors.apply settings role submission).mono ?_)
      rintro answer last ⟨rfl, mirrors⟩
      exact ⟨rfl, mirrors⟩
  | listRoles session =>
      exact Administration.asAdmin_matches settings session mirrors isBelow fun _ _ stillMirrors =>
        stillMirrors.list
  | findRole session role =>
      apply Administration.asAdmin_matches settings session mirrors isBelow
      intro _ after stillMirrors
      refine (Program.yields_bind (Program.take (.find role)) _).mpr ((stillMirrors.find role).mono ?_)
      rintro answer last ⟨rfl, mirrors⟩
      unfold Uncached.find
      cases Repository.find service.store role with
      | error error => exact ⟨rfl, mirrors⟩
      | ok found => cases found <;> exact ⟨rfl, mirrors⟩

end World.Mirrors

end Mirrors

namespace Uncached

variable {Store Answer : Type} [Repository Store] {service : Uncached Store} {settings : Settings}

theorem created_le_create (role : NewRole) : service.created ≤ (service.create role).2.created := by
  unfold create
  split
  · exact Nat.le_succ _
  · exact Nat.le_refl _

theorem created_apply (role : RoleId) (submission : Submission) :
    (service.apply settings role submission).2.created = service.created := by
  unfold apply
  split
  · rfl
  · rfl
  · rfl
  · split
    · rfl
    · dsimp only
      split
      · rfl
      · split <;> rfl

theorem created_le_asAdmin {session : Session} {required : Level}
    {outcome : Except ServiceError Answer × Uncached Store} (grows : service.created ≤ outcome.2.created) :
    service.created ≤ (service.asAdmin settings session required outcome).2.created := by
  unfold asAdmin
  split
  · exact grows
  · exact Nat.le_refl _

theorem created_le_run (service : Uncached MemoryStore) (errand : Errand) :
    service.created ≤ (service.run settings errand).2.created := by
  cases errand with
  | call call =>
      cases call with
      | createRole session role => exact created_le_asAdmin (created_le_create role)
      | apply role submission => exact Nat.le_of_eq (created_apply role submission).symm
      | updateRules session role submission =>
          exact created_le_asAdmin (Nat.le_of_eq (created_apply role submission).symm)
      | deleteRole | listRoles | findRole => exact created_le_asAdmin (Nat.le_refl _)
      | authorize | isAllowed | require | resolve | invalidate => exact Nat.le_refl _
  | requireEditor session => exact created_le_asAdmin (Nat.le_refl _)
  | assign | delay => exact Nat.le_refl _

theorem created_le_runAll (service : Uncached MemoryStore) (errands : List Errand) :
    service.created ≤ (Errand.runAll (Uncached.run settings) errands service).2.created := by
  induction errands generalizing service with
  | nil => exact Nat.le_refl _
  | cons errand rest inductionHypothesis =>
      exact Nat.le_trans (service.created_le_run errand) (inductionHypothesis _)

end Uncached

theorem MemoryStore.role?_assign (store : MemoryStore) (actor : ActorId) (id other : RoleId) :
    (store.assign actor id).2.role? other = store.role? other := by
  unfold assign
  split <;> rfl

namespace World.Mirrors

variable {limit : Nat} {service : Uncached MemoryStore} {world : World MemoryStore} {settings : Settings}

theorem run (mirrors : world.Mirrors limit service) (errand : Errand)
    (isBelow : (service.run settings errand).2.created ≤ limit) :
    (world.run settings errand).1 = (service.run settings errand).1 ∧
      (world.run settings errand).2.Mirrors limit (service.run settings errand).2 := by
  cases errand with
  | call call => exact mirrors.carryOut settings call isBelow
  | requireEditor session => exact Administration.requireAdmin_matches settings session mirrors .edit
  | assign actor role =>
      have sameRole : ∀ other, (service.store.assign actor role).2.role? other = service.store.role? other :=
        fun other => MemoryStore.role?_assign service.store actor role other
      have isSame : world.run settings (.assign actor role) =
          ((service.store.assign actor role).1,
            { world with store := (service.store.assign actor role).2 }) := by
        rw [← mirrors.store]
        rfl
      rw [isSame]
      refine ⟨rfl, rfl, mirrors.identify, mirrors.created, mirrors.saveDelay, mirrors.ackDelay,
        ⟨mirrors.settled.atRest, ?_⟩, mirrors.faultless, mirrors.fresh.congr ?_ rfl rfl⟩
      · intro other snapshot isShown
        exact (congrArg Except.ok (sameRole other)).trans (mirrors.isStored isShown)
      · intro id isStored
        change ((service.store.assign actor role).2.role? id).isSome = true at isStored
        rw [sameRole, ← mirrors.store] at isStored
        exact isStored
  | delay saveDelay ackDelay =>
      exact ⟨rfl, mirrors.store, mirrors.identify, mirrors.created, rfl, rfl,
        ⟨mirrors.settled.atRest, mirrors.settled.isTrue⟩, mirrors.faultless,
        mirrors.fresh.congr (fun _ => id) rfl rfl⟩

theorem runAll (mirrors : world.Mirrors limit service) (errands : List Errand)
    (isBelow : (Errand.runAll (Uncached.run settings) errands service).2.created ≤ limit) :
    (Errand.runAll (World.run settings) errands world).1 =
        (Errand.runAll (Uncached.run settings) errands service).1 ∧
      (Errand.runAll (World.run settings) errands world).2.Mirrors limit
        (Errand.runAll (Uncached.run settings) errands service).2 := by
  induction errands generalizing world service with
  | nil => exact ⟨rfl, mirrors⟩
  | cons errand rest inductionHypothesis =>
      obtain ⟨sameAnswer, stillMirrors⟩ := mirrors.run errand
        (Nat.le_trans (Uncached.created_le_runAll _ rest) isBelow)
      obtain ⟨sameResults, mirrorsLast⟩ := inductionHypothesis stillMirrors isBelow
      exact ⟨by simp only [Errand.runAll, sameAnswer, sameResults], mirrorsLast⟩

end World.Mirrors

/-- Whatever is stored at first, errands have the same results with the cache as without it, and leave the
same roles. -/
theorem Errand.runAll_eq_uncached (settings : Settings) (errands : List Errand) {store : MemoryStore}
    {identify : Nat → RoleId}
    (fresh : (World.start store identify).Fresh
      (runAll (Uncached.run settings) errands (.start store identify)).2.created) :
    (runAll (World.run settings) errands (World.start store identify)).1 =
        (runAll (Uncached.run settings) errands (.start store identify)).1 ∧
      (runAll (World.run settings) errands (World.start store identify)).2.store =
        (runAll (Uncached.run settings) errands (.start store identify)).2.store := by
  have begins : (World.start store identify).Mirrors
      (runAll (Uncached.run settings) errands (.start store identify)).2.created
      (.start store identify) :=
    ⟨rfl, rfl, rfl, rfl, rfl, World.settled_start store identify, fun _ => rfl, fresh⟩
  obtain ⟨sameResults, mirrors⟩ := begins.runAll errands (Nat.le_refl _)
  exact ⟨sameResults, mirrors.store⟩

section Office

/-- A day at the office. The keeper deletes its own role in the end, and may not see the roles any more. -/
def Errand.day : List Errand :=
  [.call (.resolve keeper.id), .call (.createRole keeperSession porter), .assign ⟨⟨9⟩⟩ clerk.id,
    .delay 10 10, .call (.updateRules keeperSession clerk.id .empty),
    .call (.deleteRole keeperSession keeper.id), .call (.listRoles keeperSession)]

theorem Errand.runAll_eq_uncached_day :
    let cached := runAll (World.run .office) day (World.start .office RoleId.drawn)
    let plain := runAll (Uncached.run .office) day (.start .office RoleId.drawn)
    (World.start MemoryStore.office RoleId.drawn).Fresh plain.2.created ∧
      plain.2.store.role? keeper.id = none ∧ cached.1 = plain.1 ∧ cached.2.store = plain.2.store := by
  have isOne : (runAll (Uncached.run .office) day (.start .office RoleId.drawn)).2.created = 1 := by
    decide
  have fresh : (World.start MemoryStore.office RoleId.drawn).Fresh
      (runAll (Uncached.run .office) day (.start .office RoleId.drawn)).2.created := by
    rw [isOne]
    exact World.fresh_office
  exact ⟨fresh, by decide, runAll_eq_uncached .office day fresh⟩

end Office

end Rolebook
