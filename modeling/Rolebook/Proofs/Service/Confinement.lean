import Rolebook.Proofs.Cache.Coherence

/-!
What the policy has a say in. A guest, who has neither an actor nor a role, is decided on by the policy
alone: nothing is looked up for a guest, and nothing is changed. Whoever has one of the two is none of the
policy's business: every service answers and does the same under any other policy.
-/

namespace Rolebook

namespace Session

def guest (username : String) : Session :=
  ⟨.nil, username, .nil⟩

/-- A session that has an actor or a role. -/
def IsKnown (session : Session) : Prop :=
  session.actor ≠ .nil ∨ session.role ≠ .nil

theorem IsKnown.isEmpty_eq_false {session : Session} (isKnown : session.IsKnown) :
    session.isEmpty = false := by
  unfold isEmpty
  rcases isKnown with hasActor | hasRole
  · simp [ActorId.isNil, hasActor]
  · simp [RoleId.isNil, hasRole]

end Session

/-- A decision is what the policy has for guests: a denial of everything while it is enforced, else the
one level that is open, with no field left out. -/
structure Policy.Confines (policy : Policy) (required : Level) (decision : Decision) : Prop where
  enforced : policy.isEnforced = true → decision.allowed = false ∧ decision.level = .nothing
  opened : policy.isEnforced = false →
    (decision.allowed = true ↔ required ≤ policy.openLevel) ∧ decision.level = policy.openLevel
  unrestricted : decision.restricted = none

theorem Policy.confines_decide (policy : Policy) (required : Level) :
    policy.Confines required (policy.decide required) := by
  unfold decide
  split
  · rename_i isEnforced
    exact ⟨fun _ => ⟨rfl, rfl⟩, by simp [isEnforced], rfl⟩
  · rename_i isOpened
    split
    · rename_i satisfies
      exact ⟨by simp [isOpened], fun _ => ⟨iff_of_true rfl (Level.satisfies_iff.mp satisfies), rfl⟩, rfl⟩
    · rename_i fails
      exact ⟨by simp [isOpened],
        fun _ => ⟨iff_of_false (by simp [Decision.deny]) (fails ∘ Level.satisfies_iff.mpr), rfl⟩, rfl⟩

namespace Machine

variable {Store Answer : Type} [Repository Store] {start machine after : Machine Store Answer}
  {task : TaskId} {answer : Answer}

def HandsOver (machine : Machine Store Answer) (task : TaskId) (answer : Answer) : Prop :=
  machine.tasks[task]? = some (.running (.done answer)) ∨ machine.tasks[task]? = some (.finished answer)

omit [Repository Store] in
theorem HandsOver.disturb (handsOver : machine.HandsOver task answer)
    (fault : Operation → Option ServiceError) (saveDelay ackDelay : Nat) :
    (machine.disturb fault saveDelay ackDelay).HandsOver task answer :=
  handsOver

theorem HandsOver.deed? (handsOver : machine.HandsOver task answer) : machine.deed? task = none := by
  rcases handsOver with isLast | isOver
  · simp [Machine.deed?, isLast]
  · simp [Machine.deed?, isOver]

theorem HandsOver.world (handsOver : machine.HandsOver task answer)
    (moved : machine.step? task = some after) : after.world = machine.world := by
  rcases handsOver with isLast | isOver
  · obtain rfl : _ = after := by simpa [step?, isLast, Task.step] using moved
    rfl
  · simp [step?, isOver, Task.step] at moved

theorem HandsOver.move (handsOver : machine.HandsOver task answer) {mover : TaskId}
    (moved : machine.step? mover = some after) : after.HandsOver task answer := by
  obtain ⟨current, present, rest⟩ := Option.bind_eq_some_iff.mp moved
  obtain ⟨⟨next, world⟩, step, isAfter⟩ := Option.bind_eq_some_iff.mp rest
  obtain rfl := Option.some.inj isAfter
  by_cases same : mover = task
  · subst same
    obtain ⟨isBelow, _⟩ := List.getElem?_eq_some_iff.mp present
    rcases handsOver with isLast | isOver
    · obtain rfl := Option.some.inj (present.symm.trans isLast)
      obtain ⟨rfl, rfl⟩ := Prod.mk.inj (Option.some.inj step)
      exact .inr (by simp [isBelow])
    · obtain rfl := Option.some.inj (present.symm.trans isOver)
      cases step
  · simpa [HandsOver, List.getElem?_set_ne same] using handsOver

/-- In a run, a task that has its answer from the start takes no action. -/
theorem Run.handsOver {log : List Deed} (run : start.Run log machine)
    (handsOver : start.HandsOver task answer) :
    (∀ deed ∈ log, deed.task ≠ task) ∧ machine.HandsOver task answer := by
  induction run with
  | start => exact ⟨by simp, handsOver⟩
  | @move log before after mover _ moved inductionHypothesis =>
      obtain ⟨areOthers, handsOver⟩ := inductionHypothesis
      refine ⟨fun deed isDone => ?_, handsOver.move moved⟩
      rcases List.mem_append.mp isDone with isEarlier | isLast
      · exact areOthers deed isEarlier
      · have isDeed : before.deed? mover = some deed := Option.mem_toList.mp isLast
        rintro rfl
        have same := deed?_task isDeed
        rw [← same, handsOver.deed?] at isDeed
        cases isDeed
  | disturb fault saveDelay ackDelay _ inductionHypothesis =>
      exact ⟨inductionHypothesis.1, inductionHypothesis.2.disturb fault saveDelay ackDelay⟩

end Machine

namespace Authorization

theorem authorize_guest (policy : Policy) (username : String) (scope : Scope) (required : Level) :
    authorize policy (.guest username) scope required = .done (.ok (policy.decide required)) :=
  rfl

variable {session : Session} (isKnown : session.IsKnown)

include isKnown

theorem authorize_eq_of_isKnown (policy other : Policy) (scope : Scope) (required : Level) :
    authorize policy session scope required = authorize other session scope required := by
  unfold authorize
  rw [isKnown.isEmpty_eq_false]
  rfl

theorem isAllowed_eq_of_isKnown (policy other : Policy) (scope : Scope) (required : Level) :
    isAllowed policy session scope required = isAllowed other session scope required := by
  unfold isAllowed
  rw [authorize_eq_of_isKnown isKnown policy other]

theorem require_eq_of_isKnown (policy other : Policy) (scope : Scope) (required : Level) :
    require policy session scope required = require other session scope required := by
  unfold require
  rw [authorize_eq_of_isKnown isKnown policy other]

end Authorization

def Settings.withPolicy (settings : Settings) (policy : Policy) : Settings :=
  { settings with policy }

namespace Administration

variable {session : Session} (isKnown : session.IsKnown)

include isKnown

theorem requireAdmin_withPolicy (settings : Settings) (policy : Policy) (required : Level) :
    requireAdmin (settings.withPolicy policy) session required =
      requireAdmin settings session required := by
  unfold requireAdmin
  rw [Authorization.require_eq_of_isKnown isKnown _ settings.policy]

theorem asAdmin_withPolicy {Answer : Type} (settings : Settings) (policy : Policy) (required : Level)
    (operation : Program (Except ServiceError Answer)) :
    asAdmin (settings.withPolicy policy) session required operation =
      asAdmin settings session required operation := by
  unfold asAdmin
  rw [requireAdmin_withPolicy isKnown]

end Administration

namespace Call

def asker? : Call → Option Session
  | authorize session _ _ | isAllowed session _ _ | require session _ _ => some session
  | createRole session _ | deleteRole session _ | updateRules session _ _ => some session
  | listRoles session | findRole session _ => some session
  | resolve _ | invalidate _ | apply _ _ => none

/-- Nobody unknown asks for the call. -/
def IsKnown (call : Call) : Prop :=
  ∀ session, call.asker? = some session → session.IsKnown

theorem body_withPolicy {call : Call} (isKnown : call.IsKnown) (settings : Settings) (policy : Policy) :
    call.body (settings.withPolicy policy) = call.body settings := by
  cases call with
  | authorize session scope required =>
      exact Authorization.authorize_eq_of_isKnown (isKnown session rfl) ..
  | isAllowed session scope required =>
      exact Authorization.isAllowed_eq_of_isKnown (isKnown session rfl) ..
  | require session scope required =>
      exact Authorization.require_eq_of_isKnown (isKnown session rfl) ..
  | resolve role => rfl
  | invalidate role => rfl
  | apply role submission => rfl
  | createRole session role => exact Administration.asAdmin_withPolicy (isKnown session rfl) ..
  | deleteRole session role => exact Administration.asAdmin_withPolicy (isKnown session rfl) ..
  | updateRules session role submission =>
      exact Administration.asAdmin_withPolicy (isKnown session rfl) ..
  | listRoles session => exact Administration.asAdmin_withPolicy (isKnown session rfl) ..
  | findRole session role => exact Administration.asAdmin_withPolicy (isKnown session rfl) ..

theorem program_withPolicy {call : Call} (isKnown : call.IsKnown) (settings : Settings)
    (policy : Policy) : call.program (settings.withPolicy policy) = call.program settings := by
  rw [program, program, body_withPolicy isKnown]

theorem programs_withPolicy {calls : List Call} (areKnown : ∀ call ∈ calls, call.IsKnown)
    (settings : Settings) (policy : Policy) :
    calls.map (program (settings.withPolicy policy)) = calls.map (program settings) :=
  List.map_congr_left fun call isCall => program_withPolicy (areKnown call isCall) settings policy

end Call

namespace Policy

variable {Store : Type} [Repository Store] {world : World Store}

/-- Among other tasks, a guest is told what the policy decides, and leaves everything as it is. -/
theorem guest_among_others (settings : Settings) {username : String} {scope : Scope} {required : Level}
    {calls : List Call} {place : TaskId} {log : List Deed} {machine : Machine Store Outcome}
    (isGuest : calls[place]? = some (.authorize (.guest username) scope required))
    (run : (Machine.load world (calls.map (Call.program settings))).Run log machine) :
    (∀ deed ∈ log, deed.task ≠ place) ∧
      machine.HandsOver place
        ⟨.authorize (.guest username) scope required, .ok (settings.policy.decide required)⟩ ∧
      ∀ after, machine.step? place = some after → after.world = machine.world := by
  have begins : (Machine.load world (calls.map (Call.program settings))).HandsOver place
      ⟨.authorize (.guest username) scope required, .ok (settings.policy.decide required)⟩ := by
    refine .inl ?_
    simp only [Machine.load, List.getElem?_map, isGuest]
    rfl
  obtain ⟨areOthers, handsOver⟩ := run.handsOver begins
  exact ⟨areOthers, handsOver, fun _ moved => handsOver.world moved⟩

/-- A guest is told what the policy decides, whatever is stored or cached and whoever else is at work;
for a guest no action is taken, and nothing changes. To all others no service answers otherwise under
another policy, nor does it do anything else, and their calls may go through the same runs. -/
theorem governs_guests_alone (settings : Settings) :
    (∀ username scope required, ∃ decision, settings.policy.Confines required decision ∧
      ∀ {Store : Type} [Repository Store] (world : World Store),
        (∀ task, (Authorization.authorize settings.policy (.guest username) scope required).run task world =
          (.ok decision, world)) ∧
        ∀ (calls : List Call) (place : TaskId) (log : List Deed) (machine : Machine Store Outcome),
          calls[place]? = some (.authorize (.guest username) scope required) →
          (Machine.load world (calls.map (Call.program settings))).Run log machine →
            (∀ deed ∈ log, deed.task ≠ place) ∧
            machine.HandsOver place ⟨.authorize (.guest username) scope required, .ok decision⟩ ∧
            ∀ after, machine.step? place = some after → after.world = machine.world) ∧
    ∀ (policy : Policy) {Store : Type} [Repository Store] (world : World Store),
      (∀ (call : Call) (task : TaskId), call.IsKnown →
        (call.body settings).run task world = (call.body (settings.withPolicy policy)).run task world) ∧
      (∀ (session : Session) (task : TaskId), session.IsKnown →
        (Administration.requireEditor settings session).run task world =
          (Administration.requireEditor (settings.withPolicy policy) session).run task world) ∧
      ∀ (calls : List Call) (log : List Deed) (machine : Machine Store Outcome),
        (∀ call ∈ calls, call.IsKnown) →
          ((Machine.load world (calls.map (Call.program settings))).Run log machine ↔
            (Machine.load world (calls.map (Call.program (settings.withPolicy policy)))).Run
              log machine) := by
  refine ⟨fun username scope required => ?_, fun policy Store _ world => ⟨?_, ?_, ?_⟩⟩
  · refine ⟨_, settings.policy.confines_decide required, fun world => ⟨fun task => ?_, ?_⟩⟩
    · rw [Authorization.authorize_guest]
      rfl
    · intro calls place log machine isGuest run
      exact guest_among_others settings isGuest run
  · intro call task isKnown
    rw [Call.body_withPolicy isKnown]
  · intro session task isKnown
    have sameProgram : Administration.requireEditor (settings.withPolicy policy) session =
        Administration.requireEditor settings session :=
      Administration.requireAdmin_withPolicy isKnown settings policy .edit
    rw [sameProgram]
  · intro calls log machine areKnown
    rw [Call.programs_withPolicy areKnown]

section Office

def roleOnly : Session :=
  ⟨.nil, "lee", clerk.id⟩

def actorOnly : Session :=
  ⟨⟨⟨9⟩⟩, "lou", .nil⟩

/-- While everybody may look at everything, a guest is let in, one who has no actor is let in for the role,
and one who has no role is still turned away. -/
theorem governs_guests_alone_office :
    let settings := Settings.office.withPolicy (.opened .view)
    let world := World.start MemoryStore.office RoleId.drawn
    let visit (session : Session) := Authorization.authorize settings.policy session .employeeRecords .view
    (∃ decision, settings.policy.Confines .view decision ∧ decision.allowed = true ∧
      (visit (.guest "no-actor")).run 0 world = (.ok decision, world)) ∧
    ((visit roleOnly).run 0 world).1 = .ok (.allow .view []) ∧
    ((visit actorOnly).run 0 world).1 = .error (.roleMissing .nil) ∧
    ∀ call ∈ [Call.authorize roleOnly .employeeRecords .view, .authorize actorOnly .employeeRecords .view,
        .deleteRole keeperSession clerk.id],
      (call.body settings).run 0 world = (call.body (settings.withPolicy .enforced)).run 0 world := by
  intro settings world visit
  obtain ⟨guests, others⟩ := governs_guests_alone settings
  refine ⟨?_, by rfl, by rfl, fun call isCall => (others .enforced world).1 call 0 ?_⟩
  · obtain ⟨decision, confined, answers⟩ := guests "no-actor" .employeeRecords .view
    exact ⟨decision, confined, (confined.opened rfl).1.mpr (by decide), (answers world).1 0⟩
  · rintro session isAsker
    simp only [List.mem_cons, List.not_mem_nil, or_false] at isCall
    rcases isCall with rfl | rfl | rfl <;> obtain rfl := Option.some.inj isAsker
    · exact .inr (by decide)
    · exact .inl (by decide)
    · exact .inl (by decide)

end Office

end Policy

end Rolebook
