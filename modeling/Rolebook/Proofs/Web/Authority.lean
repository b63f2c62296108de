import Rolebook.Proofs.Cache.Coherence
import Rolebook.Proofs.Cache.Progress
import Rolebook.Proofs.Web.Admission

/-!
Authority. Requests are handled one after the other. What a request changes in the stored roles, and what
it tells of them, it does by the authority of its session, as it is stored just before the request, and
not as some cache remembers it.
-/

namespace Rolebook

variable {Store : Type} [Repository Store]

/-- Whether a session may administer roles at a level, by what is stored under its role or, if it is
empty, by the policy. -/
def Session.MayAdminister (session : Session) (policy : Policy) (store : Store) (required : Level) :
    Prop :=
  (session.isEmpty = false ∧ ∃ stored, Repository.find store session.role = .ok (some stored) ∧
    (stored.isSuper = true ∨ ∃ rule, stored.rule? .rbacAdmin = some rule ∧ required ≤ rule.level)) ∨
  (session.isEmpty = true ∧ policy.isEnforced = false ∧ required ≤ policy.openLevel)

/-- Whether a request comes from a session that may administer roles at a level. -/
def World.Authorizes (world : World Store) (settings : Settings) (request : Web.Request)
    (required : Level) : Prop :=
  ∃ session, world.asker? settings request = some session ∧
    session.MayAdminister settings.policy world.store required

theorem Session.MayAdminister.mono {session : Session} {policy : Policy} {store : Store}
    {required lower : Level} (may : session.MayAdminister policy store required)
    (isLower : lower ≤ required) : session.MayAdminister policy store lower := by
  rcases may with ⟨isKnown, stored, isStored, isSuper | ⟨rule, isRule, reaches⟩⟩ |
    ⟨isEmpty, isOpen, reaches⟩
  · exact .inl ⟨isKnown, stored, isStored, .inl isSuper⟩
  · exact .inl ⟨isKnown, stored, isStored, .inr ⟨rule, isRule, Level.le_trans isLower reaches⟩⟩
  · exact .inr ⟨isEmpty, isOpen, Level.le_trans isLower reaches⟩

theorem Role.allowed_decide {role : Role} {scope : Scope} {required : Level}
    (isAllowed : (role.decide scope required).allowed = true) :
    role.isSuper = true ∨ ∃ rule, role.rule? scope = some rule ∧ required ≤ rule.level := by
  unfold Role.decide at isAllowed
  split at isAllowed
  · rename_i isSuper
    exact .inl isSuper
  · split at isAllowed
    · simp [Decision.deny] at isAllowed
    · rename_i rule isRule
      split at isAllowed
      · rename_i isSatisfied
        exact .inr ⟨rule, isRule, Level.satisfies_iff.mp isSatisfied⟩
      · simp [Decision.deny] at isAllowed

theorem Policy.allowed_decide {policy : Policy} {required : Level}
    (isAllowed : (policy.decide required).allowed = true) :
    policy.isEnforced = false ∧ required ≤ policy.openLevel := by
  unfold Policy.decide at isAllowed
  split at isAllowed
  · simp [Decision.deny] at isAllowed
  · rename_i isOpened
    split at isAllowed
    · rename_i isSatisfied
      exact ⟨by simpa using isOpened, Level.satisfies_iff.mp isSatisfied⟩
    · simp [Decision.deny] at isAllowed

/-- As long as a task has changed nothing, no reply tells it of a role but what is stored. -/
def expectsStored (store : Store) (stance : Stance) (writes : List Write) (action : Action)
    (reply : action.Reply) : Prop :=
  writes = [] → ∀ role told, stance.Tells role told action reply →
    Repository.find store role = .ok (some told)

/-- Whoever may be given a decision that allows administration may administer roles by what is stored. -/
theorem Terms.Admits.mayAdminister {terms : Terms} {policy : Policy} {session : Session} {store : Store}
    {required : Level} (expects : ∀ stance writes action reply,
      terms.expects stance writes action reply → expectsStored store stance writes action reply)
    (admits : terms.Admits policy session .rbacAdmin required []) :
    session.MayAdminister policy store required := by
  obtain ⟨decision, granted, isAllowed⟩ := admits
  unfold Terms.Grants at granted
  split at granted
  · rename_i isEmpty
    subst granted
    exact .inr ⟨isEmpty, Policy.allowed_decide isAllowed⟩
  · rename_i isKnown
    obtain ⟨snapshot, ⟨stance, action, reply, expected, tells⟩, rfl⟩ := granted
    exact .inl ⟨by simpa using isKnown, snapshot, expects _ _ _ _ expected rfl _ _ tells,
      Role.allowed_decide isAllowed⟩

def Action.required? : Action → Option Level
  | .create _ | .write _ _ => some .edit
  | .delete _ => some .full
  | _ => none

theorem Action.isWrite_of_required {action : Action} {required : Level}
    (isRequired : action.required? = some required) : action.isWrite = true := by
  cases action with
  | create _ | write _ _ | delete _ => rfl
  | _ => cases isRequired

theorem Action.not_isLook_of_required {action : Action} {required : Level}
    (isRequired : action.required? = some required) : ¬ action.isLook = true := by
  cases action with
  | create _ | write _ _ | delete _ => simp [isLook]
  | _ => cases isRequired

/-- The terms on which the first task handles a request, and no other task does anything: replies tell the
truth, and changes need authority. -/
def Terms.ofRequest (settings : Settings) (world : World Store) (request : Web.Request)
    (task : TaskId) : Terms :=
  ⟨fun stance writes action reply =>
      task = 0 → expectsStored world.store stance writes action reply,
    fun _ _ action => task = 0 ∧
      ∀ required, action.required? = some required → world.Authorizes settings request required⟩

theorem Terms.mayAdminister_ofRequest {settings : Settings} {world : World Store}
    {request : Web.Request} {session : Session} {required : Level}
    (admits : (Terms.ofRequest settings world request 0).Admits settings.policy session .rbacAdmin
      required []) : session.MayAdminister settings.policy world.store required := by
  refine Terms.Admits.mayAdminister ?_ admits
  intro stance writes action reply expected
  exact expected rfl

theorem Terms.trusts_ofRequest {settings : Settings} {world : World Store} {request : Web.Request}
    {session : Session} (isAsker : world.asker? settings request = some session) :
    (Terms.ofRequest settings world request 0).Trusts settings.policy session := by
  constructor
  · rintro admitted _ _
    refine ⟨rfl, ?_⟩
    rintro _ ⟨⟩
    exact ⟨session, isAsker, mayAdminister_ofRequest admitted⟩
  · rintro admitted _ _ _
    refine ⟨rfl, ?_⟩
    rintro _ ⟨⟩
    exact ⟨session, isAsker, mayAdminister_ofRequest admitted⟩
  · rintro admitted _ _
    refine ⟨rfl, ?_⟩
    rintro _ ⟨⟩
    exact ⟨session, isAsker, mayAdminister_ofRequest admitted⟩

namespace Scene

/-- What a request has done so far. Roles were stored, changed or removed by its authority only, and as
long as it has changed nothing, the roles are stored as before, and there is nothing to tell the cache. -/
structure Warranted (settings : Settings) (before : World Store) (request : Web.Request)
    (log : List Deed) (scene : Scene Store) : Prop where
  attempts : ∀ deed ∈ log, ∀ required, deed.action.required? = some required →
    before.Authorizes settings request required
  gains : ∀ id role, Repository.find scene.world.store id = .ok (some role) →
    Repository.find before.store id ≠ .ok (some role) → before.Authorizes settings request .edit
  loses : ∀ id role, Repository.find before.store id = .ok (some role) →
    (∀ other, Repository.find scene.world.store id ≠ .ok (some other)) →
      before.Authorizes settings request .full
  alone : ∀ task, task ≠ 0 → scene.writes task = []
  unchanged : scene.writes 0 = [] → scene.world.store = before.store
  areSettled : ∀ task, scene.writes task = [] → (scene.stance task).isSettled = true

namespace Warranted

variable [LawfulRepository Store] {settings : Settings} {before : World Store} {request : Web.Request}
  {scene next : Scene Store} {log : List Deed} {me : TaskId} {deed : Option Deed} {limit : Nat}

omit [LawfulRepository Store] in
theorem start {world : World Store} (sameStore : world.store = before.store) :
    (Scene.start world).Warranted settings before request [] where
  attempts := by simp
  gains id role isStored notStored := by
    rw [Scene.start, sameStore] at isStored
    exact absurd isStored notStored
  loses id role isStored isLost := by
    rw [Scene.start, sameStore] at isLost
    exact absurd isStored (isLost role)
  alone _ _ := rfl
  unchanged _ := sameStore
  areSettled _ _ := rfl

omit [LawfulRepository Store] in
theorem setStance (warranted : scene.Warranted settings before request log) {stance : Stance}
    (isSettled : (scene.stance me).isSettled = true → stance.isSettled = true) :
    (scene.setStance me stance).Warranted settings before request log where
  attempts := warranted.attempts
  gains := warranted.gains
  loses := warranted.loses
  alone := warranted.alone
  unchanged := warranted.unchanged
  areSettled task isUnwritten := by
    by_cases same : task = me
    · subst same
      rw [setStance_stance_self]
      exact isSettled (warranted.areSettled task isUnwritten)
    · rw [setStance_stance_of_ne _ same]
      exact warranted.areSettled task isUnwritten

theorem act (warranted : scene.Warranted settings before request log)
    (fresh : scene.world.Fresh limit) {action : Action} {reply : action.Reply} {world : World Store}
    {stance : Stance} {written : List Write}
    (performed : scene.world.perform me action = (reply, world))
    (step : (scene.stance me).Step action reply stance written)
    (permitted : action.isWrite = true → me = 0 ∧
      ∀ required, action.required? = some required → before.Authorizes settings request required)
    (isBelow : world.created ≤ limit) :
    (scene.acted me world stance written).Warranted settings before request
      (log ++ [⟨me, action, reply⟩]) where
  attempts deed isDone required isRequired := by
    rcases List.mem_append.mp isDone with isEarlier | isLast
    · exact warranted.attempts deed isEarlier required isRequired
    · obtain rfl := List.mem_singleton.mp isLast
      exact (permitted (Action.isWrite_of_required isRequired)).2 required isRequired
  gains id role isStored notStored := by
    by_cases isReading : action.isWrite = false ∨ ∃ other, action = .delete other
    · exact warranted.gains id role (World.find_of_perform performed isStored isReading) notStored
    · have isWrite : action.isWrite = true := by simpa using fun isRead => isReading (.inl isRead)
      apply (permitted isWrite).2 .edit
      cases action with
      | create _ | write _ _ => rfl
      | delete other => exact absurd (.inr ⟨other, rfl⟩) isReading
      | _ => simp [Action.isWrite] at isWrite
  loses id role isStored isLost := by
    by_cases isDeletion : action = .delete id
    · subst isDeletion
      exact (permitted rfl).2 .full rfl
    · apply warranted.loses id role isStored
      intro other isKept
      obtain ⟨found, isFound⟩ := World.find_perform_some fresh isKept performed isBelow isDeletion
      exact isLost found isFound
  alone task isOther := by
    by_cases same : task = me
    · subst same
      have isRead : action.isWrite = false := by simpa using fun isWrite => isOther (permitted isWrite).1
      simp [acted, warranted.alone task isOther, step.written_eq_nil isRead]
    · simpa [acted, Function.update_of_ne same] using warranted.alone task isOther
  unchanged isUnwritten := by
    by_cases isMine : me = 0
    · subst isMine
      simp only [acted, Function.update_self, List.append_eq_nil_iff] at isUnwritten
      obtain ⟨wasUnwritten, rfl⟩ := isUnwritten
      exact (World.store_of_step performed step).trans (warranted.unchanged wasUnwritten)
    · have isRead : action.isWrite = false := by simpa using fun isWrite => isMine (permitted isWrite).1
      have isKept := scene.world.perform_store me isRead
      rw [performed] at isKept
      refine isKept.trans (warranted.unchanged ?_)
      simpa [acted, Function.update_of_ne (Ne.symm isMine)] using isUnwritten
  areSettled task isUnwritten := by
    by_cases same : task = me
    · subst same
      simp only [acted, Function.update_self, List.append_eq_nil_iff] at isUnwritten
      obtain ⟨wasUnwritten, rfl⟩ := isUnwritten
      rw [acted_stance_self]
      exact step.isSettled (warranted.areSettled task wasUnwritten)
    · rw [acted_stance_of_ne _ same]
      apply warranted.areSettled task
      simpa [acted, Function.update_of_ne same] using isUnwritten

theorem move (warranted : scene.Warranted settings before request log) (fresh : scene.world.Fresh limit)
    (moved : scene.Move me deed next)
    (permitted : ∀ taken, deed = some taken → taken.action.isWrite = true →
      (Terms.ofRequest settings before request me).permits (scene.stance me) (scene.writes me)
        taken.action)
    (isBelow : next.world.created ≤ limit) :
    next.Warranted settings before request (log ++ deed.toList) := by
  have isSame : log ++ (none : Option Deed).toList = log := List.append_nil log
  cases moved with
  | rest => rwa [isSame]
  | act isInside performed step =>
      exact warranted.act fresh performed step (permitted _ rfl) isBelow
  | miss =>
      rw [isSame]
      exact warranted.setStance fun _ => rfl
  | @enter _ role slot =>
      have entered : (scene.setStance me ((scene.stance me).enter role slot)).Warranted settings before
          request log := warranted.setStance Stance.isSettled_enter
      rw [isSame]
      exact ⟨entered.attempts, entered.gains, entered.loses, entered.alone, entered.unchanged,
        entered.areSettled⟩
  | disturb | aim | join | retry =>
      rw [isSame]
      exact ⟨warranted.attempts, warranted.gains, warranted.loses, warranted.alone, warranted.unchanged,
        warranted.areSettled⟩

end Warranted

end Scene

variable [LawfulRepository Store] {settings : Settings} {before : World Store} {request : Web.Request}

/-- Until a request has changed anything, replies tell it of a role what was stored before. -/
theorem Scene.Warranted.expects {scene : Scene Store} {limit : Nat} {log : List Deed}
    (warranted : scene.Warranted settings before request log) (sound : scene.Sound limit log)
    (task : TaskId) (action : Action) :
    (Terms.ofRequest settings before request task).expects (scene.stance task) (scene.writes task) action
      (scene.world.perform task action).1 := by
  rintro rfl isUnwritten role told tells
  have areUnwritten : ∀ task, scene.writes task = [] := by
    intro task
    by_cases isMine : task = 0
    · rw [isMine, isUnwritten]
    · exact warranted.alone task isMine
  rw [← warranted.unchanged isUnwritten]
  rcases sound.gated.told tells with isShown | isStored
  · exact sound.truthful.find_of_get
      (fun task => warranted.areSettled task (areUnwritten task)) isShown
  · exact isStored

namespace Machine

variable {log : List Deed} {machine : Machine Store Web.Response}

theorem Run.warranted {rest : Program Web.Response} {reveals : Web.Response → Prop} {limit : Nat}
    (settled : before.Settled) (fresh : before.Fresh limit) (isBelow : machine.world.created ≤ limit)
    (ensured : rest.Ensures (Terms.ofRequest settings before request 0)
      (fun response stance _ => stance = .idle ∧ reveals response) .idle [])
    {fault : Operation → Option ServiceError} {saveDelay ackDelay : Nat}
    (run : (load (before.disturb fault saveDelay ackDelay) [rest]).Run log machine) :
    ∃ scene : Scene Store, scene.Sound limit log ∧ scene.Warranted settings before request log ∧
      machine.Plays (Terms.ofRequest settings before request) (fun _ response _ => reveals response)
        scene := by
  have begins : (load (before.disturb fault saveDelay ackDelay) [rest]).Plays
      (Terms.ofRequest settings before request) (fun _ response _ => reveals response)
      (Scene.start (before.disturb fault saveDelay ackDelay)) := by
    apply Plays.load
    intro task program located
    cases task with
    | zero =>
        obtain rfl := Option.some.inj located
        exact ensured
    | succ task => simp at located
  have isSettled : (before.disturb fault saveDelay ackDelay).Settled := ⟨settled.atRest, settled.isTrue⟩
  obtain ⟨scene, plays, sound, warranted⟩ := run.plays (List.Subset.refl _) isBelow
    (fun log scene => scene.Sound limit log ∧ scene.Warranted settings before request log)
    begins ⟨.start isSettled (fresh.congr (fun _ => id) rfl rfl), .start rfl⟩
    (fun _ _ task action held _ => held.2.expects held.1 task action)
    fun _ _ _ _ _ held moved permitted isBelow =>
      ⟨held.1.move moved isBelow, held.2.move held.1.truthful.fresh moved permitted isBelow⟩
  exact ⟨scene, sound, warranted, plays⟩

theorem Plays.settled {terms : TaskId → Terms} {posts : TaskId → Web.Response → List Write → Prop}
    {scene : Scene Store} {limit : Nat} (plays : machine.Plays terms posts scene)
    (sound : scene.Sound limit log) {response : Web.Response}
    (isOver : machine.tasks = [.finished response]) : machine.world.Settled := by
  rw [← plays.world]
  apply sound.settled
  · intro task
    cases located : machine.tasks[task]? with
    | none => exact (plays.others task located).1
    | some current =>
        apply plays.idle_of_isOver located
        rw [isOver] at located
        obtain rfl := List.mem_singleton.mp (List.mem_of_getElem? located)
        rfl
  · intro task
    rw [plays.place, Machine.place, isOver]
    cases task <;> rfl

end Machine

namespace Web

/-- The worlds that follow on each other while requests are handled one after the other. Meanwhile sessions
come and go, and the repository and the sessions may begin or cease to fail. -/
inductive Served (settings : Settings) (first : World Store) : World Store → Prop where
  | first : Served settings first first
  | meanwhile {world : World Store} (sessions : SessionStore) (conditions : Conditions) :
      Served settings first world → Served settings first { world with sessions, conditions }
  | request {world after : World Store} {request : Request} {response : Response} {log : List Deed} :
      Served settings first world →
      (Machine.load world [answer settings request]).Run log ⟨after, [.finished response]⟩ →
      Served settings first after

variable {first world : World Store} {log : List Deed} {machine : Machine Store Response}

/-- A request is still looking at who asks, or does what is warranted. -/
theorem answer_warranted {limit : Nat} (settled : world.Settled) (fresh : world.Fresh limit)
    (run : (Machine.load world [answer settings request]).Run log machine)
    (isBelow : machine.world.created ≤ limit) :
    (∃ fault saveDelay ackDelay program, (∀ deed ∈ log, deed.action.isLook = true) ∧
      machine = .load (world.disturb fault saveDelay ackDelay) [program]) ∨
    ∃ (scene : Scene Store) (since : List Deed),
      (∀ deed ∈ log, deed.action.isLook = true ∨ deed ∈ since) ∧ scene.Sound limit since ∧
      scene.Warranted settings world request since ∧
      machine.Plays (Terms.ofRequest settings world request)
        (fun _ response _ =>
          Reveals (Terms.ofRequest settings world request 0) settings world request response) scene := by
  have trusts : ∀ session, world.asker? settings request = some session →
      (Terms.ofRequest settings world request 0).Trusts settings.policy session :=
    fun _ => Terms.trusts_ofRequest
  obtain ⟨rest, leads, ensured⟩ := answer_leads trusts
  cases run.looked leads with
  | still fault saveDelay ackDelay looks isHere =>
      exact .inl ⟨fault, saveDelay, ackDelay, _, looks, isHere⟩
  | on fault saveDelay ackDelay looks continued =>
      obtain ⟨scene, sound, warranted, plays⟩ := continued.warranted settled fresh isBelow ensured
      exact .inr ⟨scene, _, looks, sound, warranted, plays⟩

/-- Between requests the cache is at rest and true. -/
theorem Served.settled (served : Served settings first world) (settled : first.Settled) {limit : Nat}
    (fresh : first.Fresh limit) (isBelow : world.created ≤ limit) :
    world.Settled ∧ world.Fresh limit := by
  induction served with
  | first => exact ⟨settled, fresh⟩
  | meanwhile sessions conditions _ inductionHypothesis =>
      obtain ⟨isSettled, isFresh⟩ := inductionHypothesis isBelow
      exact ⟨⟨isSettled.atRest, isSettled.isTrue⟩, isFresh.congr (fun _ => id) rfl rfl⟩
  | request _ run inductionHypothesis =>
      obtain ⟨isSettled, isFresh⟩ := inductionHypothesis (Nat.le_trans run.created_le isBelow)
      rcases answer_warranted isSettled isFresh run isBelow with
        ⟨_, _, _, program, _, isLooking⟩ | ⟨scene, since, _, sound, _, plays⟩
      · simp [Machine.load] at isLooking
      · refine ⟨plays.settled sound rfl, ?_⟩
        have stillFresh := sound.truthful.fresh
        rwa [plays.world] at stillFresh

/-- What a request has done to the stored roles so far, and what it answers, it does by the authority of its
session. -/
structure Rightful (settings : Settings) (world : World Store) (request : Request) (log : List Deed)
    (machine : Machine Store Response) : Prop where
  /-- It takes authority even to try to create a role, to change its rules or to delete it. -/
  attempted : ∀ deed ∈ log, ∀ required, deed.action.required? = some required →
    world.Authorizes settings request required
  /-- A role that is stored now and was not stored so before was created or changed. -/
  changed : ∀ id role, Repository.find machine.world.store id = .ok (some role) →
    Repository.find world.store id ≠ .ok (some role) → world.Authorizes settings request .edit
  deleted : ∀ id role, Repository.find world.store id = .ok (some role) →
    (∀ other, Repository.find machine.world.store id ≠ .ok (some other)) →
      world.Authorizes settings request .full
  told : ∀ place response, Resource.ofPath? request.path = some (.guarded place) →
    place.isAboutRoles = true → machine.tasks = [.finished response] → response.isRefusal = false →
      world.Authorizes settings request .view
  /-- Without stored context nothing is done while security is enforced. -/
  unsigned : ∀ place, Resource.ofPath? request.path = some (.guarded place) →
    settings.policy.isEnforced = true → world.context? request = none →
      machine.world.store = world.store ∧ machine.world.cache = world.cache ∧
        ∀ response, machine.tasks = [.finished response] → response.status = 401 ∨
          world.conditions.sessionLoadFails = true ∧ response.status = 500
  ends : machine.Ends

/-- While requests are handled one after the other, each of them does what it does to roles by the authority
of its session, and all of them are answered. -/
theorem answers_rightfully {store : Store} {identify : Nat → RoleId}
    (served : Served settings (.start store identify) world)
    (run : (Machine.load world [answer settings request]).Run log machine)
    (fresh : (World.start store identify).Fresh machine.world.created) :
    Rightful settings world request log machine := by
  obtain ⟨settled, isFresh⟩ := served.settled (World.settled_start store identify) fresh run.created_le
  have unsigned : ∀ place, Resource.ofPath? request.path = some (.guarded place) →
      settings.policy.isEnforced = true → world.context? request = none →
        machine.world.store = world.store ∧ machine.world.cache = world.cache ∧
          ∀ response, machine.tasks = [.finished response] → response.status = 401 ∨
            world.conditions.sessionLoadFails = true ∧ response.status = 500 := by
    intro place isGuarded isEnforced isUnsigned
    obtain ⟨response, leads, status⟩ := answer_leads_refusal isGuarded isEnforced isUnsigned
    cases run.looked leads with
    | still _ _ _ _ isHere =>
        subst isHere
        exact ⟨rfl, rfl, by simp [Machine.load]⟩
    | on _ _ _ _ continued =>
        obtain ⟨_, _, _, isWorld, isRunning | isOver⟩ := continued.ended
        · rw [isWorld, isRunning]
          exact ⟨rfl, rfl, by simp⟩
        · rw [isWorld, isOver]
          refine ⟨rfl, rfl, ?_⟩
          intro other isOther
          obtain rfl : response = other := by simpa using isOther
          exact status
  have ends : machine.Ends := by
    apply run.ends settled.atRest
    intro task program located
    obtain rfl := List.mem_singleton.mp (List.mem_of_getElem? located)
    exact answer_isIdle
  -- The request is still looking at who asks and has done nothing, or what it does is warranted.
  rcases answer_warranted settled isFresh run (Nat.le_refl _) with
    ⟨_, _, _, _, looks, rfl⟩ | ⟨scene, since, looks, sound, warranted, plays⟩
  · refine ⟨?_, ?_, ?_, ?_, unsigned, ends⟩
    · intro deed isDone required isRequired
      exact absurd (looks deed isDone) (Action.not_isLook_of_required isRequired)
    · intro id role isStored notStored
      exact absurd isStored notStored
    · intro id role isStored isLost
      exact absurd isStored (isLost role)
    · intro _ _ _ _ isOver
      simp [Machine.load] at isOver
  · refine ⟨?_, ?_, ?_, ?_, unsigned, ends⟩
    · intro deed isDone required isRequired
      rcases looks deed isDone with isLook | isSince
      · exact absurd isLook (Action.not_isLook_of_required isRequired)
      · exact warranted.attempts deed isSince required isRequired
    · rw [← plays.world]
      exact warranted.gains
    · rw [← plays.world]
      exact warranted.loses
    · intro place response isGuarded isAbout isOver isGranted
      have located : machine.tasks[0]? = some (.finished response) := by rw [isOver]; rfl
      obtain ⟨_, reveals⟩ := plays.tasks 0 _ located
      obtain ⟨session, isAsker, required, isEnough, admits⟩ :=
        reveals place isGuarded isAbout isGranted
      exact ⟨session, isAsker, (Terms.mayAdminister_ofRequest admits).mono isEnough⟩

section Office

def signedIn : World MemoryStore :=
  (World.start .office RoleId.drawn).signIn "kim" keeperSession.storedJson

def dismissal : Request :=
  ⟨.delete, ["api", "rbac", "roles", "00000000-0000-0000-0000-000000000002"], [], some "kim", none, ""⟩

def dismissed : List Deed × Machine MemoryStore Response :=
  ((Machine.load signedIn [answer .office dismissal]).follow? (List.replicate 13 0)).get (by decide)

def inquiry : Request :=
  ⟨.get, ["api", "rbac", "roles"], [], some "kim", none, ""⟩

def informed : List Deed × Machine MemoryStore Response :=
  ((Machine.load dismissed.2.world [answer .office inquiry]).follow? (List.replicate 5 0)).get (by decide)

theorem answers_rightfully_office :
    Served .office (.start .office RoleId.drawn) dismissed.2.world ∧
    Repository.find dismissed.2.world.store clerk.id = .ok none ∧
    informed.2.tasks.map (fun task => task.answer?.map Response.status) = [some 200] ∧
    Rightful .office dismissed.2.world inquiry informed.1 informed.2 := by
  have greeted : Served .office (.start .office RoleId.drawn) signedIn :=
    .meanwhile signedIn.sessions signedIn.conditions .first
  have isDismissed : (Machine.load signedIn [answer .office dismissal]).Run dismissed.1
      ⟨dismissed.2.world, [.finished ⟨204, none⟩]⟩ := Machine.Run.get (by decide)
  have served : Served .office (.start .office RoleId.drawn) dismissed.2.world :=
    greeted.request isDismissed
  have run : (Machine.load dismissed.2.world [answer .office inquiry]).Run informed.1 informed.2 :=
    Machine.Run.get _
  exact ⟨served, by rfl, by decide, answers_rightfully served run (.of_le (by decide))⟩

end Office

end Web

end Rolebook
