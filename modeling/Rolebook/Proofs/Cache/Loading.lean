import Rolebook.Proofs.Cache.Hiding
import Rolebook.Proofs.Cache.History

/-!
Loads. A task that sees no snapshot at the gate of a role asks the repository, and shows what it is told
before anything else. Nobody else publishes in a slot whose gate it holds, so nobody loads the role a second
time as long as readers go on to see it.
-/

namespace Rolebook

variable {Answer Result : Type}

/-- How far a task is with a load under a guard. -/
inductive Loading where
  | apart
  | inside (guard : Guard)
  /-- There is no snapshot in the slot. -/
  | lacking (guard : Guard)
  /-- The repository has found the role, which is not published yet. -/
  | loaded (guard : Guard) (stored : Role)
  /-- The repository has not found the role. -/
  | failed (guard : Guard)

/-- A program looks into a slot only to load the role of its guard if there is no snapshot: it asks the
repository next, and then publishes what it is told, or clears the slot. -/
inductive Program.Fetches : Program Answer → Loading → Prop where
  | done {answer : Answer} : Fetches (.done answer) .apart
  | act {action : Action} {next : action.Reply → Program Answer} (isOther : ∀ slot, action ≠ .current slot)
      (continued : ∀ reply, (next reply).Fetches .apart) : Fetches (.act action next) .apart
  | lock {role : RoleId} {next : SlotId → Program Answer} (continued : ∀ slot, (next slot).Fetches .apart) :
      Fetches (.lock role next) .apart
  | lockPublished {role : RoleId} {absent : Program Answer} {next : SlotId → Program Answer}
      (missed : absent.Fetches .apart) (continued : ∀ slot, (next slot).Fetches .apart) :
      Fetches (.lockPublished role absent next) .apart
  | enter {role : RoleId} {next : SlotId → Program Answer}
      (continued : ∀ slot, (next slot).Fetches (.inside ⟨role, slot⟩)) : Fetches (.lock role next) .apart
  | look {role : RoleId} {slot : SlotId} {next : Option Role → Program Answer}
      (absent : (next none).Fetches (.lacking ⟨role, slot⟩))
      (shown : ∀ snapshot, (next (some snapshot)).Fetches .apart) :
      Fetches (.act (.current slot) next) (.inside ⟨role, slot⟩)
  | load {role : RoleId} {slot : SlotId} {next : Except ServiceError (Option Role) → Program Answer}
      (found : ∀ stored, (next (.ok (some stored))).Fetches (.loaded ⟨role, slot⟩ stored))
      (absent : (next (.ok none)).Fetches (.failed ⟨role, slot⟩))
      (failed : ∀ error, (next (.error error)).Fetches (.failed ⟨role, slot⟩)) :
      Fetches (.act (.find role) next) (.lacking ⟨role, slot⟩)
  | publish {role : RoleId} {slot : SlotId} {stored : Role} {next : Unit → Program Answer}
      (continued : (next ()).Fetches .apart) :
      Fetches (.act (.publish slot stored) next) (.loaded ⟨role, slot⟩ stored)
  | clear {role : RoleId} {slot : SlotId} {next : Unit → Program Answer} (continued : (next ()).Fetches .apart) :
      Fetches (.act (.clear slot) next) (.failed ⟨role, slot⟩)

theorem Program.Fetches.bind {program : Program Answer} {rest : Answer → Program Result} {loading : Loading}
    (fetches : program.Fetches loading) (continued : ∀ answer, (rest answer).Fetches .apart) :
    (program.bind rest).Fetches loading := by
  induction fetches with
  | done => exact continued _
  | act isOther _ inductionHypothesis => exact .act isOther inductionHypothesis
  | lock _ inductionHypothesis => exact .lock inductionHypothesis
  | lockPublished _ _ missedHypothesis continuedHypothesis =>
      exact .lockPublished missedHypothesis continuedHypothesis
  | enter _ inductionHypothesis => exact .enter inductionHypothesis
  | look _ _ absentHypothesis shownHypothesis => exact .look absentHypothesis shownHypothesis
  | load _ _ _ foundHypothesis absentHypothesis failedHypothesis =>
      exact .load foundHypothesis absentHypothesis failedHypothesis
  | publish _ inductionHypothesis => exact .publish inductionHypothesis
  | clear _ inductionHypothesis => exact .clear inductionHypothesis

namespace Task

def Fetches : Task Answer → Loading → Prop
  | running program, loading => program.Fetches loading
  | arriving role _ again next, loading | queued role _ again next, loading =>
      loading = .apart ∧ again.Fetches .apart ∧
        ((∀ slot, (next slot).Fetches .apart) ∨ ∀ slot, (next slot).Fetches (.inside ⟨role, slot⟩))
  | finished _, loading | dropped, loading => loading = .apart

end Task

def Loading.guard? : Loading → Option Guard
  | apart => none
  | inside guard | lacking guard | loaded guard _ | failed guard => some guard

structure Loading.Holds (loading : Loading) (task : TaskId) (cache : Cache) (past : List Deed) : Prop where
  serves : ∀ guard, loading.guard? = some guard → cache.Serves guard.role guard.slot
  bare : ∀ guard, loading = .lacking guard → (cache.slot guard.slot).snapshot = none
  looked : ∀ slot, past.getLast? = some ⟨task, .current slot, none⟩ → ∃ guard, loading = .lacking guard

theorem Loading.Holds.of_action {loading : Loading} {task : TaskId} {cache : Cache} {past : List Deed}
    {action : Action} {reply : action.Reply} (isOther : ∀ slot, action ≠ .current slot)
    (serves : ∀ guard, loading.guard? = some guard → cache.Serves guard.role guard.slot)
    (isKnown : ∀ guard, loading ≠ .lacking guard) :
    loading.Holds task cache (past ++ [⟨task, action, reply⟩]) where
  serves := serves
  bare guard isLacking := absurd isLacking (isKnown guard)
  looked slot isLast := by
    rw [List.getLast?_concat] at isLast
    exact absurd (congrArg Deed.action (Option.some.inj isLast)) (isOther slot)

variable {Store : Type} [Repository Store] {me task : TaskId} {role : RoleId}

theorem Task.Moves.fetches {world after : World Store} {current moved : Task Answer} {deeds past : List Deed}
    {loading : Loading} (moves : current.Moves me world deeds moved after) (filed : world.cache.Filed)
    (fetches : current.Fetches loading) (holds : loading.Holds me world.cache past) :
    ∃ next : Loading, moved.Fetches next ∧ next.Holds me after.cache (past ++ deeds) := by
  have precedes := moves.precedes filed
  have served : ∀ guard, loading.guard? = some guard → after.cache.Serves guard.role guard.slot :=
    fun guard isGuard => (holds.serves guard isGuard).later precedes
  -- Whoever is apart has not just looked, and has not if nothing is done.
  have silent : loading = .apart → deeds = [] → moved.Fetches .apart →
      ∃ next : Loading, moved.Fetches next ∧ next.Holds me after.cache (past ++ deeds) := by
    rintro rfl rfl isApart
    refine ⟨.apart, isApart, by simp [Loading.guard?], by simp, fun slot isLast => ?_⟩
    exact holds.looked slot (by simpa using isLast)
  cases moves with
  | answer =>
      cases fetches
      exact silent rfl rfl rfl
  | reach =>
      cases fetches with
      | lock continued => exact silent rfl rfl ⟨rfl, .lock continued, .inl continued⟩
      | enter continued => exact silent rfl rfl ⟨rfl, .enter continued, .inr continued⟩
  | aim =>
      cases fetches with
      | lockPublished missed continued =>
          exact silent rfl rfl ⟨rfl, .lockPublished missed continued, .inl continued⟩
  | miss =>
      cases fetches with
      | lockPublished missed continued => exact silent rfl rfl missed
  | join =>
      obtain ⟨rfl, others⟩ := fetches
      exact silent rfl rfl ⟨rfl, others⟩
  | retry => exact silent fetches.1 rfl fetches.2.1
  | @enter role slot again next isFirst isPublished =>
      obtain ⟨rfl, _, isApart | isInside⟩ := fetches
      · exact silent rfl rfl (isApart slot)
      · refine ⟨.inside ⟨role, slot⟩, isInside slot, ?_, by simp, fun other isLast => ?_⟩
        · rintro guard isGuard
          obtain rfl := Option.some.inj isGuard
          exact filed _ _ isPublished
        · obtain ⟨guard, isLacking⟩ := holds.looked other (by simpa using isLast)
          cases isLacking
  | @act action next =>
      cases fetches with
      | act isOther continued =>
          exact ⟨.apart, continued _, .of_action isOther (by simp [Loading.guard?]) (by simp)⟩
      | @look role slot _ absent shown =>
          cases isSnapshot : (world.cache.slot slot).snapshot with
          | none =>
              refine ⟨.lacking ⟨role, slot⟩, by simpa [Task.Fetches, World.perform, isSnapshot] using absent, ?_⟩
              refine ⟨served, ?_, fun _ _ => ⟨_, rfl⟩⟩
              rintro _ ⟨⟩
              exact isSnapshot
          | some snapshot =>
              refine ⟨.apart, by simpa [Task.Fetches, World.perform, isSnapshot] using shown snapshot, ?_⟩
              refine ⟨by simp [Loading.guard?], by simp, fun other isLast => ?_⟩
              simp [World.perform, isSnapshot] at isLast
      | @load role slot _ found absent failed =>
          generalize (world.perform me (.find role)).1 = reply
          rcases reply with error | _ | stored
          · exact ⟨.failed ⟨role, slot⟩, failed error, .of_action (by simp) served (by simp)⟩
          · exact ⟨.failed ⟨role, slot⟩, absent, .of_action (by simp) served (by simp)⟩
          · exact ⟨.loaded ⟨role, slot⟩ stored, found stored, .of_action (by simp) served (by simp)⟩
      | publish continued => exact ⟨.apart, continued, .of_action (by simp) (by simp [Loading.guard?]) (by simp)⟩
      | clear continued => exact ⟨.apart, continued, .of_action (by simp) (by simp [Loading.guard?]) (by simp)⟩

/-- Whoever is about to ask the repository, or to publish what it was told, holds the gate of the slot. -/
theorem Program.Fetches.holder {program : Program Answer} {post : Answer → Stance → List Write → Prop}
    {stance : Stance} {writes : List Write} {guard : Guard}
    (ensured : program.Ensures .free post stance writes)
    (fetches : program.Fetches (.lacking guard) ∨ ∃ stored, program.Fetches (.loaded guard stored)) :
    ∃ role knowledge, stance = .holding role guard.slot knowledge ∧ knowledge.isWithdrawn = false := by
  rcases fetches with isLacking | ⟨stored, isLoaded⟩
  · cases isLacking with
    | @load _ _ next found absent failed =>
        -- If the repository did not find the role, the slot would be cleared, which is open to the holder only.
        obtain ⟨after, written, step, continued⟩ := ensured.2 (.ok none) trivial
        generalize next (.ok none) = rest at absent continued
        cases absent with
        | clear =>
            obtain ⟨_, _, cleared, _⟩ := continued.2 () trivial
            cases step
            exact cleared.clearer
  · cases isLoaded with
    | publish =>
        obtain ⟨_, _, published, _⟩ := ensured.2 () trivial
        obtain ⟨role, knowledge, isHolder, isKnown⟩ := published.publisher
        exact ⟨role, knowledge, isHolder, by rcases isKnown with rfl | rfl <;> rfl⟩

/-- A load: a task that has just seen no snapshot at the gate is told the role by the repository. -/
def Loads (role : RoleId) (earlier : List Deed) (load : Deed) : Prop :=
  (∃ slot, (deedsOf load.task earlier).getLast? = some ⟨load.task, .current slot, none⟩) ∧
    ∃ stored, load = ⟨load.task, .find role, .ok (some stored)⟩

namespace Machine

variable {machine after : Machine Store Answer} {scene : Scene Store} {guard : Guard} {log : List Deed}

omit [Repository Store] in
theorem Stages.fetcher (stages : machine.Stages scene) {current : Task Answer}
    (present : machine.tasks[task]? = some current)
    (fetches : current.Fetches (.lacking guard) ∨ ∃ stored, current.Fetches (.loaded guard stored)) :
    ∃ role knowledge, scene.stance task = .holding role guard.slot knowledge ∧
      knowledge.isWithdrawn = false := by
  have ensured := stages.plays.tasks task current present
  cases current with
  | running program => exact Program.Fetches.holder ensured fetches
  | _ => simp [Task.Fetches] at fetches

omit [Repository Store] in
theorem Stages.guards (stages : machine.Stages scene) {current : Task Answer}
    (present : machine.tasks[task]? = some current)
    (fetches : current.Fetches (.lacking guard) ∨ ∃ stored, current.Fetches (.loaded guard stored))
    (serves : machine.world.cache.Serves guard.role guard.slot) :
    machine.world.cache.published guard.role = some guard.slot ∧
      ∃ knowledge, scene.stance task = .holding guard.role guard.slot knowledge ∧
        knowledge.isWithdrawn = false := by
  obtain ⟨role, knowledge, isHolder, isKept⟩ := stages.fetcher present fetches
  have isPublished := stages.gated.published_of_holding isHolder isKept
  rw [stages.plays.world] at isPublished
  obtain rfl := serves.only role isPublished
  exact ⟨isPublished, knowledge, isHolder, isKept⟩

def Fetching (machine : Machine Store Answer) (log : List Deed) : Prop :=
  ∀ task current, machine.tasks[task]? = some current →
    ∃ loading : Loading, current.Fetches loading ∧
      loading.Holds task machine.world.cache (deedsOf task log)

theorem Fetching.step (fetching : machine.Fetching log) (stages : machine.Stages scene)
    (filed : machine.world.cache.Filed) (stepped : machine.step? me = some after) :
    after.Fetching (log ++ (machine.deed? me).toList) := by
  have snapshot := stages.snapshot stepped
  have precedes := (turn_of_step stepped).precedes filed
  obtain ⟨current, moved, world, present, moves, rfl⟩ := moves_of_step stepped
  intro task other located
  rw [deedsOf_append, moves.deedsOf_eq task]
  rcases located_set located with ⟨rfl, rfl⟩ | ⟨isOther, wasLocated⟩
  · obtain ⟨loading, fetches, holds⟩ := fetching task current present
    rw [if_pos rfl]
    exact moves.fetches filed fetches holds
  · obtain ⟨loading, fetches, holds⟩ := fetching task other wasLocated
    rw [if_neg (Ne.symm isOther), List.append_nil]
    refine ⟨loading, fetches, fun guard isGuard => (holds.serves guard isGuard).later precedes, ?_, holds.looked⟩
    rintro guard rfl
    rcases snapshot guard.slot with isSame | isNone | ⟨published, isDeed⟩
    · exact isSame.trans (holds.bare guard rfl)
    · exact isNone
    · -- Only the task itself could publish in the slot, and it is about to ask the repository.
      obtain ⟨_, next, isPublishing⟩ := present_of_deed? isDeed
      obtain ⟨_, _, step, _⟩ := stages.step isPublishing ()
      obtain ⟨_, _, isPublisher, _⟩ := step.publisher
      obtain ⟨_, _, isHolder, _⟩ := stages.fetcher wasLocated (.inl fetches)
      exact absurd (stages.gated.holder_eq_of_slot isHolder isPublisher) isOther

variable [LawfulRepository Store] {world : World Store} {programs : List (Program Answer)}

theorem Run.fetching (atRest : world.cache.AtRest) (orderly : ∀ program ∈ programs, program.Orderly)
    (fetches : ∀ program ∈ programs, program.Fetches .apart) (run : (load world programs).Run log machine) :
    machine.Fetching log := by
  induction run with
  | start =>
      intro task current located
      obtain ⟨program, isProgram, rfl⟩ := List.mem_map.mp (List.mem_of_getElem? located)
      exact ⟨.apart, fetches program isProgram, by simp [Loading.guard?], by simp, by simp [deedsOf]⟩
  | move toBefore stepped inductionHypothesis =>
      obtain ⟨scene, stages⟩ := toBefore.stages atRest orderly
      exact inductionHypothesis.step stages (atRest.filed.later (toBefore.precedes atRest.filed)) stepped
  | disturb _ _ _ _ inductionHypothesis => exact inductionHypothesis

omit [LawfulRepository Store] in
/-- Where a task loads a role, readers do not see it, and the task publishes it next. -/
theorem Fetching.load (fetching : machine.Fetching log) (stages : machine.Stages scene) {load : Deed}
    (loads : Loads role log load) (isDeed : machine.deed? load.task = some load)
    (stepped : machine.step? load.task = some after) :
    machine.world.cache.get role = none ∧ ∃ (slot : SlotId) (current : Task Answer) (stored : Role)
      (next : Unit → Program Answer), machine.tasks[load.task]? = some current ∧
        current.Fetches (.lacking ⟨role, slot⟩) ∧ machine.world.cache.Serves role slot ∧
          after.tasks[load.task]? = some (.running (.act (.publish slot stored) next)) ∧
            (Program.act (.publish slot stored) next).Fetches (.loaded ⟨role, slot⟩ stored) := by
  obtain ⟨⟨slot, isLast⟩, stored, isLoad⟩ := loads
  obtain ⟨isPerformed, next, present⟩ := present_of_deed? isDeed
  obtain ⟨me, action, reply⟩ := load
  cases isLoad
  obtain ⟨loading, fetches, holds⟩ := fetching me _ present
  obtain ⟨guard, rfl⟩ := holds.looked slot isLast
  have serves := holds.serves guard rfl
  obtain ⟨isPublished, _⟩ := stages.guards present (.inl fetches) serves
  have isBare := holds.bare guard rfl
  cases fetches with
  | @load _ slot next found absent failed =>
      have isReply : (machine.world.perform me (.find role)).1 = .ok (some stored) := by
        simpa using isPerformed.symm
      obtain rfl := Option.some.inj (stepped.symm.trans (step?_of_moves present .act).1)
      have isNext := found stored
      obtain ⟨last, isLast⟩ : ∃ last, next (.ok (some stored)) = .act (.publish slot stored) last := by
        generalize next (.ok (some stored)) = rest at isNext
        cases isNext
        exact ⟨_, rfl⟩
      rw [isReply, isLast]
      rw [isLast] at isNext
      have isTask := (List.getElem?_eq_some_iff.mp present).1
      exact ⟨by simp [Cache.get, isPublished, isBare], slot, _, stored, last, present,
        .load found absent failed, serves, List.getElem?_set_self isTask, isNext⟩

/-- Between two loads of a role, some task clears the published slot in which readers see it. -/
theorem Run.hides_of_loads (atRest : world.cache.AtRest) (orderly : ∀ program ∈ programs, program.Orderly)
    (fetches : ∀ program ∈ programs, program.Fetches .apart) {earlier between later : List Deed}
    {first second : Deed}
    (run : (Machine.load world programs).Run (earlier ++ first :: between ++ second :: later) machine)
    (isFirst : Loads role earlier first) (isSecond : Loads role (earlier ++ first :: between) second) :
    ∃ done rest task slot, between = done ++ ⟨task, .clear slot, ()⟩ :: rest ∧
      (Machine.load world programs).Hides (earlier ++ first :: done) role task slot := by
  obtain ⟨begun, loaded, toBegun, isDeed, asked, afterwards⟩ :=
    run.splitAt (List.append_assoc earlier (first :: between) (second :: later))
  obtain ⟨again, _, toAgain, isDeedAgain, askedAgain, _⟩ := afterwards.splitAt rfl
  have toLoaded : (Machine.load world programs).Run (earlier ++ [first]) loaded := by
    simpa [isDeed] using toBegun.move asked
  have whole : (Machine.load world programs).Run (earlier ++ first :: between) again := by
    simpa using toLoaded.append toAgain
  -- The first task has the role to publish; at the second load nobody sees it.
  obtain ⟨scene, stages⟩ := toBegun.stages atRest orderly
  obtain ⟨_, slot, _, stored, next, _, _, served, isLoaded, publishes⟩ :=
    (toBegun.fetching atRest orderly fetches).load stages isFirst isDeed asked
  have filed := atRest.filed.later (toBegun.precedes atRest.filed)
  have filedLoaded := atRest.filed.later (toLoaded.precedes atRest.filed)
  have serves := served.later ((Run.start.move asked).precedes filed)
  obtain ⟨sceneAgain, stagesAgain⟩ := whole.stages atRest orderly
  obtain ⟨isHidden, slotAgain, current, _, _, presentAgain, isLacking, servesAgain, _⟩ :=
    (whole.fetching atRest orderly fetches).load stagesAgain isSecond isDeedAgain askedAgain
  rcases toAgain.awaits isLoaded with isStill | ⟨done, rest, before, shown, rfl, toBefore, present, step, toLast⟩
  · -- If it has not published the role yet, both hold the gate, so that they are the same task.
    obtain ⟨_, _, isHolder, isKept⟩ := stagesAgain.guards isStill (.inr ⟨stored, publishes⟩)
      (serves.later (toAgain.precedes filedLoaded))
    obtain ⟨_, _, isHolderAgain, isKeptAgain⟩ := stagesAgain.guards presentAgain (.inl isLacking) servesAgain
    have same := stagesAgain.gated.holder_eq isHolder isKept isHolderAgain isKeptAgain
    rw [same, presentAgain] at isStill
    obtain rfl := Option.some.inj isStill
    cases isLacking
  · -- Otherwise readers saw the role once it had, and somebody has hidden it since.
    have toPublish := toLoaded.append toBefore
    obtain ⟨sceneBefore, stagesBefore⟩ := toPublish.stages atRest orderly
    obtain ⟨isPublished, _⟩ := stagesBefore.guards present (.inr ⟨stored, publishes⟩)
      (serves.later (toBefore.precedes filedLoaded))
    obtain ⟨isStep, isDone⟩ := step?_of_moves present .act
    obtain rfl := Option.some.inj (isStep.symm.trans step)
    have isShown : (before.world.perform first.task (.publish slot stored)).2.cache.get role ≠ none := by
      simp [World.perform, Cache.get, isPublished]
    have toShown := toPublish.move step
    rw [isDone] at toShown
    obtain ⟨since, others, task, cleared, rfl, isHiding⟩ :=
      Run.hides atRest orderly toShown toLast isShown isHidden
    exact ⟨done ++ ⟨first.task, .publish slot stored, ()⟩ :: since, others, task, cleared, by simp,
      by simpa using isHiding⟩

end Machine

end Rolebook
