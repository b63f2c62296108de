import Rolebook.Proofs.Cache.Guard

/-!
Where snapshots come from. A task that only takes the actions that are open to it knows of a stored role
what it has read since it came in at the gate of the role's slot. So what it publishes was read after it
came by its guard, and not before.
-/

namespace Rolebook

/-- The program only takes the actions that are open to it, and has no gate in hand in the end. -/
def Program.Orderly {Answer : Type} (program : Program Answer) : Prop :=
  program.Ensures .free (fun _ stance _ => stance = .idle) .idle []

/-- The snapshot is the role as the task has read it from the repository, or that role with other rules. -/
def ReadBy (log : List Deed) (task : TaskId) (role : RoleId) (snapshot : Role) : Prop :=
  ∃ stored, ⟨task, .find role, .ok (some stored)⟩ ∈ log ∧
    (snapshot = stored ∨ ∃ rules, snapshot = stored.withRules rules)

namespace ReadBy

variable {log deeds : List Deed} {task : TaskId} {role : RoleId} {snapshot : Role}

theorem mono (readBy : ReadBy log task role snapshot) (areDone : log ⊆ deeds) :
    ReadBy deeds task role snapshot := by
  obtain ⟨stored, isRead, isSame⟩ := readBy
  exact ⟨stored, areDone isRead, isSame⟩

theorem withRules (readBy : ReadBy log task role snapshot) (rules : RuleSet) :
    ReadBy log task role (snapshot.withRules rules) := by
  obtain ⟨stored, isRead, rfl | ⟨others, rfl⟩⟩ := readBy
  all_goals exact ⟨_, isRead, .inr ⟨rules, rfl⟩⟩

end ReadBy

def Knowledge.stored? : Knowledge → Option Role
  | seen stored | saved stored => some stored
  | _ => none

/-- As long as the gate is not let go of, what its holder comes to know of the stored role was read. -/
theorem Stance.Step.readBy {log : List Deed} {role : RoleId} {slot : SlotId} {knowledge : Knowledge}
    {later : Stance} {action : Action} {reply : action.Reply} {written : List Write}
    (step : (Stance.holding role slot knowledge).Step action reply later written)
    (isKept : action ≠ .release slot) (me : TaskId)
    (reads : ∀ stored, knowledge.stored? = some stored → ReadBy log me role stored) :
    ∃ known, later = .holding role slot known ∧
      ∀ stored, known.stored? = some stored → ReadBy (log ++ [⟨me, action, reply⟩]) me role stored := by
  have stillReads : ∀ stored, knowledge.stored? = some stored →
      ReadBy (log ++ [⟨me, action, reply⟩]) me role stored :=
    fun stored isKnown => (reads stored isKnown).mono (List.subset_append_left _ _)
  cases step with
  | quiet | create | createFailed => exact ⟨knowledge, rfl, stillReads⟩
  | @see _ _ stored =>
      refine ⟨.seen stored, rfl, ?_⟩
      rintro found ⟨⟩
      exact ⟨stored, by simp, .inl rfl⟩
  | @publish _ _ _ stored known =>
      refine ⟨.seen stored, rfl, ?_⟩
      rintro found ⟨⟩
      exact stillReads stored (by rcases known with rfl | rfl <;> rfl)
  | clear => exact ⟨.vacant, rfl, fun _ isKnown => nomatch isKnown⟩
  | withdraw => exact ⟨.withdrawn, rfl, fun _ isKnown => nomatch isKnown⟩
  | release => exact absurd rfl isKept
  | @save _ _ stored rules =>
      refine ⟨.saved (stored.withRules rules), rfl, ?_⟩
      rintro found ⟨⟩
      exact (stillReads stored rfl).withRules rules
  | @saveFailed _ _ stored => exact ⟨.seen stored, rfl, stillReads⟩

variable {Answer : Type}

theorem Call.orderly (settings : Settings) (call : Call) : (call.program settings).Orderly :=
  Call.isIdle 0 _ (rfl : ([call].map (Call.program settings))[0]? = some _)

theorem Program.Ensures.after {program : Program Answer} {stance : Stance} {writes : List Write}
    (ensured : program.Ensures .free (fun _ stance _ => stance = .idle) stance writes) (others : List Write) :
    program.Ensures .free (fun _ stance _ => stance = .idle) stance others := by
  induction program generalizing stance writes others with
  | done answer => exact ensured
  | act action next inductionHypothesis =>
      refine ⟨fun _ => trivial, fun reply expected => ?_⟩
      obtain ⟨later, written, step, continued⟩ := ensured.2 reply expected
      exact ⟨later, written, step, inductionHypothesis reply continued _⟩
  | lock role next inductionHypothesis =>
      exact ⟨ensured.1, fun slot => inductionHypothesis slot (ensured.2 slot) others⟩
  | lockPublished role absent next absentHypothesis nextHypothesis =>
      exact ⟨ensured.1, absentHypothesis ensured.2.1 others,
        fun slot => nextHypothesis slot (ensured.2.2 slot) others⟩

theorem Program.Orderly.bind {Result : Type} {program : Program Answer} {rest : Answer → Program Result}
    (orderly : program.Orderly) (others : ∀ answer, (rest answer).Orderly) : (program.bind rest).Orderly := by
  refine (Program.ensures_bind program rest).mpr (orderly.mono ?_)
  rintro answer stance writes rfl
  exact (others answer).after writes

theorem Program.Orderly.guarded {program : Program Answer} (orderly : program.Orderly) : program.Guarded [] :=
  Program.Ensures.guarded orderly

namespace Task

def Orderly (current : Task Answer) : Prop :=
  ∃ stance writes, current.Ensures .free (fun _ stance _ => stance = .idle) stance writes

/-- The task was dropped, or it holds the gate of the role's slot, and what it knows of the stored role it
has read itself. -/
def Informed (log : List Deed) (me : TaskId) (role : RoleId) (slot : SlotId) (current : Task Answer) : Prop :=
  current = .dropped ∨ ∃ knowledge writes,
    current.Ensures .free (fun _ stance _ => stance = .idle) (.holding role slot knowledge) writes ∧
      ∀ stored, knowledge.stored? = some stored → ReadBy log me role stored

variable {Store : Type} [Repository Store] {me : TaskId} {world after : World Store}
  {current moved : Task Answer} {log deeds : List Deed} {role : RoleId} {slot : SlotId}

theorem Moves.orderly (moves : current.Moves me world deeds moved after) (orderly : current.Orderly) :
    moved.Orderly := by
  obtain ⟨stance, writes, ensured⟩ := orderly
  cases moves with
  | answer | join => exact ⟨stance, writes, ensured⟩
  | @act action next =>
      obtain ⟨later, written, _, continued⟩ := ensured.2 (world.perform me action).1 trivial
      exact ⟨later, _, continued⟩
  | reach =>
      obtain ⟨rfl, continued⟩ := ensured
      exact ⟨.idle, writes, .inl rfl, ⟨rfl, continued⟩, continued⟩
  | aim => exact ⟨stance, writes, ensured.1, ensured, ensured.2.2⟩
  | miss => exact ⟨.idle, writes, ensured.2.1⟩
  | @enter role slot => exact ⟨stance.enter role slot, writes, ensured.2.2 slot⟩
  | retry => exact ⟨stance, writes, ensured.2.1⟩

/-- As long as the gate is not let go of, the task that holds it stays informed. -/
theorem Moves.informed (moves : current.Moves me world deeds moved after)
    (informed : current.Informed log me role slot)
    (keeps : ∀ deed ∈ deeds, deed.task = me → deed.action ≠ .release slot) :
    moved.Informed (log ++ deeds) me role slot := by
  rcases informed with rfl | ⟨knowledge, writes, ensured, reads⟩
  · cases moves
  cases moves with
  | answer => cases ensured
  | reach => cases ensured.1
  | aim | miss | join | enter | retry => rcases ensured.1 with isIdle | isOwing <;> contradiction
  | @act action next =>
      obtain ⟨later, written, step, continued⟩ := ensured.2 (world.perform me action).1 trivial
      obtain ⟨known, rfl, stillReads⟩ := step.readBy (keeps _ (List.mem_singleton_self _) rfl) me reads
      exact .inr ⟨known, _, continued, stillReads⟩

theorem Informed.append (informed : current.Informed log me role slot) (deeds : List Deed) :
    current.Informed (log ++ deeds) me role slot := by
  rcases informed with rfl | ⟨knowledge, writes, ensured, reads⟩
  · exact .inl rfl
  · exact .inr ⟨knowledge, writes, ensured,
      fun stored isKnown => (reads stored isKnown).mono (List.subset_append_left _ _)⟩

theorem Informed.readBy {snapshot : Role} {rest : Unit → Program Answer}
    (informed : Informed log me role slot (.running (.act (.publish slot snapshot) rest))) :
    ReadBy log me role snapshot := by
  obtain isDropped | ⟨knowledge, writes, ensured, reads⟩ := informed
  · cases isDropped
  obtain ⟨later, written, step, _⟩ := ensured.2 () trivial
  cases step with
  | quiet isQuiet => cases isQuiet
  | publish known => exact reads snapshot (by rcases known with rfl | rfl <;> rfl)

end Task

namespace Machine

variable {Store : Type} [Repository Store] {mayLand : Machine Store Answer → RoleId → Prop}
  {start machine : Machine Store Answer} {log : List Deed} {task : TaskId} {role : RoleId} {slot : SlotId}
  {snapshot : Role}

theorem RoughRun.orderly (run : RoughRun mayLand start log machine)
    (orderly : ∀ current, start.tasks[task]? = some current → current.Orderly) :
    ∀ current, machine.tasks[task]? = some current → current.Orderly := by
  apply run.lasts (motive := fun _ machine =>
    ∀ current : Task Answer, machine.tasks[task]? = some current → current.Orderly) orderly
  intro log before deeds after wasOrderly turned _ current located
  cases turned with
  | move present moves =>
      rcases located_set located with ⟨rfl, rfl⟩ | ⟨_, wasLocated⟩
      · exact moves.orderly (wasOrderly _ present)
      · exact wasOrderly current wasLocated
  | drop =>
      rcases located_set located with ⟨rfl, rfl⟩ | ⟨_, wasLocated⟩
      · exact ⟨.idle, [], rfl⟩
      · exact wasOrderly current wasLocated
  | disturb | land => exact wasOrderly current located

/-- From the gate on, a task that keeps its guard stays informed. -/
theorem RoughRun.informed (run : RoughRun mayLand start log machine)
    (informed : ∀ current, start.tasks[task]? = some current → current.Informed [] task role slot)
    (keeps : ∀ deed ∈ log, deed.task = task → deed.action ≠ .release slot) :
    ∀ current, machine.tasks[task]? = some current → current.Informed log task role slot := by
  revert keeps
  apply run.lasts (motive := fun log machine =>
    (∀ deed ∈ log, deed.task = task → deed.action ≠ .release slot) →
      ∀ current : Task Answer, machine.tasks[task]? = some current → current.Informed log task role slot)
    fun _ => informed
  intro log before deeds after wasInformed turned _ keeps current located
  have stillInformed : ∀ former : Task Answer, before.tasks[task]? = some former →
      former.Informed (log ++ deeds) task role slot := fun former wasLocated =>
    (wasInformed (fun deed isDone => keeps deed (List.mem_append_left _ isDone)) former wasLocated).append deeds
  cases turned with
  | move present moves =>
      rcases located_set located with ⟨rfl, rfl⟩ | ⟨_, wasLocated⟩
      · refine moves.informed (wasInformed ?_ _ present) ?_
        · exact fun deed isDone => keeps deed (List.mem_append_left _ isDone)
        · exact fun deed isDone => keeps deed (List.mem_append_right _ isDone)
      · exact stillInformed current wasLocated
  | drop =>
      rcases located_set located with ⟨rfl, rfl⟩ | ⟨_, wasLocated⟩
      · exact .inl rfl
      · exact stillInformed current wasLocated
  | disturb | land => exact stillInformed current located

/-- What an orderly task publishes it has read since it came by its guard. -/
theorem Published.readBy {guard : Guard} (published : Published mayLand start log machine task guard snapshot)
    (orderly : ∀ current, start.tasks[task]? = some current → current.Orderly) :
    ReadBy log task guard.role snapshot := by
  obtain ⟨earlier, later, before, after, rfl, acquired, isDeed, _, _⟩ := published
  obtain ⟨first, second, outside, inside, rfl, begins, acquires, isInside, keeps⟩ := acquired
  obtain ⟨again, next, isQueued⟩ := acquires.waits
  obtain ⟨stance, writes, isFree, _, continued⟩ := begins.orderly orderly _ isQueued
  -- Whether the task still had to tell of a deletion or not, it comes in without knowing what is stored.
  have isInformed : ∀ current, inside.tasks[task]? = some current →
      current.Informed [] task guard.role guard.slot := by
    intro current located
    have entered := step?_of_moves isQueued (.enter acquires.isFirst acquires.isPublished)
    obtain rfl := Option.some.inj (acquires.moved.symm.trans entered.1)
    rcases located_set located with ⟨_, rfl⟩ | ⟨isOther, _⟩
    · rcases isFree with rfl | rfl
      · exact .inr ⟨.sound, writes, continued guard.slot, fun _ isKnown => nomatch isKnown⟩
      · exact .inr ⟨.stale, writes, continued guard.slot, fun _ isKnown => nomatch isKnown⟩
    · exact absurd rfl isOther
  have readBy : ReadBy second task guard.role snapshot := by
    unfold deed? at isDeed
    split at isDeed
    · rename_i action rest isRunning
      obtain ⟨_, isAction, _⟩ := Deed.mk.inj (Option.some.inj isDeed)
      subst isAction
      exact (isInside.informed isInformed keeps _ isRunning).readBy
    · cases isDeed
  exact readBy.mono (by simp)

end Machine

end Rolebook
