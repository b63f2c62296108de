import Rolebook.Proofs.Cache.Succession

/-!
Guards. Whoever comes in at the gate of a slot has a guard in hand, and without one nobody writes to the
slot or takes it out of the cache. A guard is good until it is given up. So every snapshot of a slot that
was made after some moment was published by somebody who came in at its gate after that moment.
-/

namespace Rolebook

/-- The gate of a role's slot in somebody's hand. -/
structure Guard where
  role : RoleId
  slot : SlotId
  deriving DecidableEq

def Action.Covered (held : List Guard) : Action → Prop
  | publish slot _ | clear slot | release slot => ∃ guard ∈ held, guard.slot = slot
  | withdraw role slot => ⟨role, slot⟩ ∈ held
  | _ => True

def Action.keep (held : List Guard) : Action → List Guard
  | release slot => held.filter fun guard => guard.slot ≠ slot
  | _ => held

/-- From the guards in hand on, a program only takes actions that are covered by them, and gives all of
them up in the end. Apart from that it may do whatever it likes. -/
def Program.Guarded {Answer : Type} : Program Answer → List Guard → Prop
  | .done _, held => held = []
  | .act action next, held => action.Covered held ∧ ∀ reply, (next reply).Guarded (action.keep held)
  | .lock role next, held => ∀ slot, (next slot).Guarded (⟨role, slot⟩ :: held)
  | .lockPublished role absent next, held =>
      absent.Guarded held ∧ ∀ slot, (next slot).Guarded (⟨role, slot⟩ :: held)

def Task.Guarded {Answer : Type} (held : List Guard) : Task Answer → Prop
  | running program => program.Guarded held
  | arriving role _ again next | queued role _ again next =>
      again.Guarded held ∧ ∀ slot, (next slot).Guarded (⟨role, slot⟩ :: held)
  | finished _ | dropped => held = []

theorem Action.mem_of_mem_keep {held : List Guard} {action : Action} {guard : Guard}
    (isKept : guard ∈ action.keep held) : guard ∈ held ∧ action ≠ .release guard.slot := by
  cases action with
  | release slot =>
      obtain ⟨isHeld, isOther⟩ := List.mem_filter.mp isKept
      refine ⟨isHeld, ?_⟩
      rintro ⟨⟩
      simp at isOther
  | _ => exact ⟨isKept, by simp⟩

section Discipline

variable {Answer : Type}

def Stance.guards : Stance → List Guard
  | holding role slot _ => [⟨role, slot⟩]
  | _ => []

theorem Stance.Step.guards_eq {before after : Stance} {action : Action} {reply : action.Reply}
    {written : List Write} (step : before.Step action reply after written) :
    after.guards = action.keep before.guards := by
  cases step with
  | quiet isQuiet => cases action <;> first | rfl | cases isQuiet
  | release => simp [guards, Action.keep]
  | _ => rfl

theorem Stance.Step.covered {before after : Stance} {action : Action} {reply : action.Reply}
    {written : List Write} (step : before.Step action reply after written) :
    action.Covered before.guards := by
  cases step with
  | quiet isQuiet => cases action <;> trivial
  | publish | clear | withdraw | release => simp [Action.Covered, guards]
  | _ => trivial

theorem Action.nonempty_reply (action : Action) : Nonempty action.Reply := by
  cases action with
  | find _ | list | loadSession _ => exact ⟨.error .blankText⟩
  | create _ | write _ _ | delete _ | removeSession _ => exact ⟨.error .blankText⟩
  | peek _ | current _ | recognize _ => exact ⟨none⟩
  | announceSave => exact ⟨(0, 0)⟩
  | _ => exact ⟨()⟩

/-- To take only the actions that are open in one's stance is to have a guard wherever one is needed. -/
theorem Program.Ensures.guarded {program : Program Answer} {stance : Stance} {writes : List Write}
    (ensured : program.Ensures .free (fun _ stance _ => stance = .idle) stance writes) :
    program.Guarded stance.guards := by
  induction program generalizing stance writes with
  | done answer =>
      obtain rfl : stance = .idle := ensured
      rfl
  | act action next inductionHypothesis =>
      constructor
      · obtain ⟨reply⟩ := action.nonempty_reply
        obtain ⟨after, written, step, _⟩ := ensured.2 reply trivial
        exact step.covered
      · intro reply
        obtain ⟨after, written, step, continued⟩ := ensured.2 reply trivial
        exact step.guards_eq ▸ inductionHypothesis reply continued
  | lock role next inductionHypothesis =>
      obtain ⟨rfl, continued⟩ := ensured
      exact fun slot => inductionHypothesis slot (continued slot)
  | lockPublished role absent next absentHypothesis nextHypothesis =>
      obtain ⟨isFree, missed, continued⟩ := ensured
      have isBare : stance.guards = [] := by rcases isFree with rfl | rfl <;> rfl
      have isEntered : ∀ slot, (stance.enter role slot).guards = ⟨role, slot⟩ :: stance.guards := by
        rcases isFree with rfl | rfl <;> exact fun _ => rfl
      exact ⟨isBare ▸ absentHypothesis missed,
        fun slot => isEntered slot ▸ nextHypothesis slot (continued slot)⟩

end Discipline

variable {Store Answer : Type} [Repository Store]

theorem Task.Moves.retains_of_silent {me : TaskId} {world after : World Store} {current moved : Task Answer}
    (moves : current.Moves me world [] moved after) : world.cache.Retains after.cache := by
  cases moves with
  | reach opened => exact Cache.retains_openSlot opened
  | join | retry => exact Cache.retains_of_same rfl (by simp [World.setCache])
  | _ => exact Cache.retains_of_same rfl fun _ => rfl

namespace Machine

/-- A task that waits at a gate finds it free, and its slot still in the cache, and comes in. -/
structure Acquires (before : Machine Store Answer) (task : TaskId) (guard : Guard)
    (after : Machine Store Answer) : Prop where
  waits : ∃ again next, before.tasks[task]? = some (.queued guard.role guard.slot again next)
  isFirst : before.world.cache.holds guard.slot task = true
  isPublished : before.world.cache.published guard.role = some guard.slot
  moved : before.step? task = some after

variable {mayLand : Machine Store Answer → RoleId → Prop} {begun machine next : Machine Store Answer}
  {log deeds : List Deed} {task me : TaskId} {guard : Guard} {snapshot : Role}

/-- A task has come by a guard in the course of a run, and has not given it up since. -/
def Acquired (mayLand : Machine Store Answer → RoleId → Prop) (begun : Machine Store Answer)
    (log : List Deed) (machine : Machine Store Answer) (task : TaskId) (guard : Guard) : Prop :=
  ∃ earlier later before after, log = earlier ++ later ∧ RoughRun mayLand begun earlier before ∧
    before.Acquires task guard after ∧ RoughRun mayLand after later machine ∧
      ∀ deed ∈ later, deed.task = task → deed.action ≠ .release guard.slot

/-- A task has published a snapshot in the course of a run, with a guard that it had come by in the same
run and had not given up. -/
def Published (mayLand : Machine Store Answer → RoleId → Prop) (begun : Machine Store Answer)
    (log : List Deed) (machine : Machine Store Answer) (task : TaskId) (guard : Guard)
    (snapshot : Role) : Prop :=
  ∃ earlier later before after, log = earlier ++ ⟨task, .publish guard.slot snapshot, ()⟩ :: later ∧
    Acquired mayLand begun earlier before task guard ∧
      before.deed? task = some ⟨task, .publish guard.slot snapshot, ()⟩ ∧
        before.step? task = some after ∧ RoughRun mayLand after later machine

theorem Acquired.extend (acquired : Acquired mayLand begun log machine task guard)
    (continues : Continues mayLand machine deeds next)
    (keeps : ∀ deed ∈ deeds, deed.task = task → deed.action ≠ .release guard.slot) :
    Acquired mayLand begun (log ++ deeds) next task guard := by
  obtain ⟨earlier, later, before, after, rfl, begins, acquires, isRest, kept⟩ := acquired
  refine ⟨earlier, later ++ deeds, before, after, List.append_assoc _ _ _, begins, acquires,
    continues _ _ isRest, fun deed isDone => ?_⟩
  rcases List.mem_append.mp isDone with isLater | isLast
  · exact kept deed isLater
  · exact keeps deed isLast

theorem Published.extend (published : Published mayLand begun log machine task guard snapshot)
    (continues : Continues mayLand machine deeds next) :
    Published mayLand begun (log ++ deeds) next task guard snapshot := by
  obtain ⟨earlier, later, before, after, rfl, acquired, isDeed, moved, isRest⟩ := published
  exact ⟨earlier, later ++ deeds, before, after, by simp, acquired, isDeed, moved, continues _ _ isRest⟩

/-- A guard in the hand of a task is one for the slot's role, and for a slot that was made in the course of
the run the task came by it in that course. -/
structure Backs (mayLand : Machine Store Answer → RoleId → Prop) (begun : Machine Store Answer)
    (log : List Deed) (machine : Machine Store Answer) (task : TaskId) (guard : Guard) : Prop where
  serves : machine.world.cache.Serves guard.role guard.slot
  acquired : begun.world.cache.made ≤ guard.slot → Acquired mayLand begun log machine task guard

/-- Every slot that was made in the course of a run shows only what was published in that course, with
guards that tasks came by in it. -/
structure Attributed (mayLand : Machine Store Answer → RoleId → Prop) (begun : Machine Store Answer)
    (log : List Deed) (machine : Machine Store Answer) : Prop where
  run : RoughRun mayLand begun log machine
  filed : machine.world.cache.Filed
  guards : ∀ task (current : Task Answer), machine.tasks[task]? = some current →
    ∃ held, current.Guarded held ∧ ∀ guard ∈ held, Backs mayLand begun log machine task guard
  shown : ∀ slot snapshot, begun.world.cache.made ≤ slot → slot < machine.world.cache.made →
    (machine.world.cache.slot slot).snapshot = some snapshot →
      ∃ publisher role, machine.world.cache.Serves role slot ∧
        Published mayLand begun log machine publisher ⟨role, slot⟩ snapshot

theorem Backs.extend (backs : Backs mayLand begun log machine task guard)
    (precedes : machine.world.cache.Precedes next.world.cache)
    (continues : Continues mayLand machine deeds next)
    (keeps : ∀ deed ∈ deeds, deed.task = task → deed.action ≠ .release guard.slot) :
    Backs mayLand begun (log ++ deeds) next task guard where
  serves := backs.serves.later precedes
  acquired isNew := (backs.acquired isNew).extend continues keeps

omit [Repository Store] in
theorem located_set {tasks : List (Task Answer)} {current moved : Task Answer}
    (located : (tasks.set me moved)[task]? = some current) :
    task = me ∧ current = moved ∨ task ≠ me ∧ tasks[task]? = some current := by
  by_cases isMine : task = me
  · subst isMine
    rw [List.getElem?_set_self'] at located
    obtain ⟨_, _, rfl⟩ := Option.map_eq_some_iff.mp located
    exact .inl ⟨rfl, rfl⟩
  · rw [List.getElem?_set_ne (Ne.symm isMine)] at located
    exact .inr ⟨isMine, located⟩

/-- A task that does something without an action keeps the guards that it has, or comes by one more. -/
theorem guarded_of_silent {current moved : Task Answer} {world : World Store}
    (present : machine.tasks[me]? = some current) (moves : current.Moves me machine.world [] moved world) :
    ∀ held, current.Guarded held → moved.Guarded held ∨
      ∃ guard : Guard, moved.Guarded (guard :: held) ∧
        machine.Acquires me guard ⟨world, machine.tasks.set me moved⟩ := by
  intro held guarded
  have isMoved := (step?_of_moves present moves).1
  cases moves with
  | answer => exact .inl guarded
  | reach => exact .inl ⟨guarded, guarded⟩
  | aim => exact .inl ⟨guarded, guarded.2⟩
  | miss => exact .inl guarded.1
  | join => exact .inl guarded
  | @enter role slot again next isFirst isPublished =>
      exact .inr ⟨⟨role, slot⟩, guarded.2 slot, ⟨again, next, present⟩, isFirst, isPublished, isMoved⟩
  | retry => exact .inl guarded.1

namespace Attributed

variable (attributed : Attributed mayLand begun log machine)

include attributed

/-- Whoever keeps to what was left keeps the guards, and a slot goes on to show only what was published in
the course of the run. -/
theorem change (continues : Continues mayLand machine deeds next)
    (precedes : machine.world.cache.Precedes next.world.cache)
    (guards : ∀ task (current : Task Answer), next.tasks[task]? = some current →
      machine.tasks[task]? = some current ∧ (∀ deed ∈ deeds, deed.task ≠ task) ∨
        ∃ held, current.Guarded held ∧ ∀ guard ∈ held, Backs mayLand begun (log ++ deeds) next task guard)
    (shown : ∀ slot snapshot, begun.world.cache.made ≤ slot → slot < next.world.cache.made →
      (next.world.cache.slot slot).snapshot = some snapshot →
        slot < machine.world.cache.made ∧ (machine.world.cache.slot slot).snapshot = some snapshot ∨
        ∃ publisher role, next.world.cache.Serves role slot ∧
          Published mayLand begun (log ++ deeds) next publisher ⟨role, slot⟩ snapshot) :
    Attributed mayLand begun (log ++ deeds) next where
  run := continues _ _ attributed.run
  filed := attributed.filed.later precedes
  guards task current located := by
    rcases guards task current located with ⟨wasLocated, areOthers⟩ | isGuarded
    · obtain ⟨held, guarded, backs⟩ := attributed.guards task current wasLocated
      refine ⟨held, guarded, fun guard isHeld => (backs guard isHeld).extend precedes continues ?_⟩
      exact fun deed isDone isTheirs => absurd isTheirs (areOthers deed isDone)
    · exact isGuarded
  shown slot snapshot isNew isMade isShown := by
    rcases shown slot snapshot isNew isMade isShown with ⟨wasMade, wasShown⟩ | isPublished
    · obtain ⟨publisher, role, serves, published⟩ := attributed.shown slot snapshot isNew wasMade wasShown
      exact ⟨publisher, role, serves.later precedes, published.extend continues⟩
    · exact isPublished

theorem act {action : Action} {rest : action.Reply → Program Answer}
    (present : machine.tasks[me]? = some (.running (.act action rest)))
    (continues : Continues mayLand machine [⟨me, action, (machine.world.perform me action).1⟩]
      ⟨(machine.world.perform me action).2,
        machine.tasks.set me (.running (rest (machine.world.perform me action).1))⟩) :
    Attributed mayLand begun (log ++ [⟨me, action, (machine.world.perform me action).1⟩])
      ⟨(machine.world.perform me action).2,
        machine.tasks.set me (.running (rest (machine.world.perform me action).1))⟩ := by
  have moves : Task.Moves me machine.world (.running (.act action rest)) _ _ _ := .act
  have precedes := moves.precedes attributed.filed
  obtain ⟨isMoved, isDeed⟩ := step?_of_moves present moves
  obtain ⟨held, guarded, backs⟩ := attributed.guards me _ present
  refine attributed.change continues precedes ?_ ?_
  · intro task current located
    rcases located_set located with ⟨rfl, rfl⟩ | ⟨isOther, wasLocated⟩
    · refine .inr ⟨action.keep held, guarded.2 _, fun guard isKept => ?_⟩
      obtain ⟨isHeld, notReleased⟩ := Action.mem_of_mem_keep isKept
      exact (backs guard isHeld).extend precedes continues (by simpa using notReleased)
    · exact .inl ⟨wasLocated, by simpa using isOther.symm⟩
  · intro slot snapshot isNew isMade isShown
    have isPerformed := machine.world.perform_cache me action
    rw [isPerformed] at isMade isShown
    -- A snapshot that was not there is the one that is published now, with a guard that is in hand.
    by_cases isPublish : ∃ other role, action = .publish other role
    · obtain ⟨other, role, rfl⟩ := isPublish
      simp only [Action.onCache, Cache.snapshot_setSnapshot] at isShown
      split at isShown
      · obtain rfl := Option.some.inj isShown
        obtain ⟨⟨id, found⟩, isHeld, rfl⟩ := guarded.1
        rename_i isSlot
        subst isSlot
        have isBacked := backs _ isHeld
        refine .inr ⟨me, id, isBacked.serves.later precedes, log, [], machine, _, rfl, isBacked.acquired isNew,
          ?_, isMoved, .start⟩
        simpa using isDeed
      · exact .inl ⟨isMade, isShown⟩
    · refine .inl (action.retains_onCache me machine.world.cache ?_ slot snapshot isMade isShown)
      intro other role isAction
      exact isPublish ⟨other, role, isAction⟩

theorem silent {current moved : Task Answer} {world : World Store}
    (present : machine.tasks[me]? = some current) (moves : current.Moves me machine.world [] moved world)
    (continues : Continues mayLand machine [] ⟨world, machine.tasks.set me moved⟩) :
    Attributed mayLand begun (log ++ []) ⟨world, machine.tasks.set me moved⟩ := by
  have precedes := moves.precedes attributed.filed
  obtain ⟨held, guarded, backs⟩ := attributed.guards me _ present
  have kept : ∀ guard ∈ held, Backs mayLand begun (log ++ []) ⟨world, machine.tasks.set me moved⟩ me guard :=
    fun guard isHeld => (backs guard isHeld).extend precedes continues (by simp)
  refine attributed.change continues precedes ?_ fun slot snapshot _ isMade isShown =>
    .inl (moves.retains_of_silent slot snapshot isMade isShown)
  intro task current located
  rcases located_set located with ⟨rfl, rfl⟩ | ⟨isOther, wasLocated⟩
  · rcases guarded_of_silent present moves held guarded with isGuarded | ⟨guard, isGuarded, acquires⟩
    · exact .inr ⟨held, isGuarded, kept⟩
    · refine .inr ⟨guard :: held, isGuarded, fun other isHeld => ?_⟩
      rcases List.mem_cons.mp isHeld with rfl | wasHeld
      · refine ⟨(attributed.filed _ _ acquires.isPublished).later precedes, fun _ => ?_⟩
        exact ⟨log, [], machine, _, rfl, attributed.run, acquires, .start, by simp⟩
      · exact kept other wasHeld
  · exact .inl ⟨wasLocated, by simp⟩

theorem turn (turned : machine.Turn deeds next) (continues : Continues mayLand machine deeds next) :
    Attributed mayLand begun (log ++ deeds) next := by
  have precedes := turned.precedes attributed.filed
  cases turned with
  | move present moves =>
      have moved := moves
      cases moves with
      | act => exact attributed.act present continues
      | _ => exact attributed.silent present moved continues
  | drop task =>
      refine attributed.change continues precedes ?_ fun _ _ _ isMade isShown => .inl ⟨isMade, isShown⟩
      intro other current located
      rcases located_set located with ⟨rfl, rfl⟩ | ⟨isOther, wasLocated⟩
      · exact .inr ⟨[], rfl, by simp⟩
      · exact .inl ⟨wasLocated, by simp⟩
  | disturb | land =>
      exact attributed.change continues precedes (fun _ _ located => .inl ⟨located, by simp⟩)
        fun _ _ _ isMade isShown => .inl ⟨isMade, isShown⟩

omit attributed in
theorem load {world : World Store} {programs : List (Program Answer)} (filed : world.cache.Filed)
    (guarded : ∀ program ∈ programs, program.Guarded []) :
    Attributed mayLand (load world programs) [] (load world programs) where
  run := .start
  filed := filed
  guards task current located := by
    obtain ⟨program, isProgram, rfl⟩ := List.mem_map.mp (List.mem_of_getElem? located)
    exact ⟨[], guarded program isProgram, by simp⟩
  shown slot _ isNew isMade := absurd isMade (Nat.not_lt.mpr isNew)

/-- Whatever there is at some moment was made before it, so nothing is left to attribute. -/
theorem renew : Attributed mayLand machine [] machine where
  run := .start
  filed := attributed.filed
  guards task current located := by
    obtain ⟨held, guarded, backs⟩ := attributed.guards task current located
    refine ⟨held, guarded, fun guard isHeld => ⟨(backs guard isHeld).serves, fun isNew => ?_⟩⟩
    exact absurd (backs guard isHeld).serves.isMade (Nat.not_lt.mpr isNew)
  shown slot _ isNew isMade := absurd isMade (Nat.not_lt.mpr isNew)

theorem later (run : RoughRun mayLand machine deeds next) : Attributed mayLand machine deeds next :=
  run.lasts attributed.renew fun _ _ _ _ attributed turned continues => attributed.turn turned continues

end Attributed

end Machine

end Rolebook
