import Rolebook.Proofs.Cache.Coherence

/-!
Interruptions. A task may be dropped wherever it stands, which lets go of its gates, and a write that was
sent may take effect after all when nobody reckons with it any more. The cache shows nothing but what is
stored all the same, unless a task is dropped after changing a role and before telling the cache of it, or
a late write takes effect on a role that is shown or about to be.
-/

namespace Rolebook

section Debts

/-- Whether a task has changed a stored role, as it was told by the repository. -/
def Deed.changes (role : RoleId) : Deed → Bool
  | ⟨_, .write other _, .ok ()⟩ | ⟨_, .delete other, .ok ()⟩ => other = role
  | _ => false

/-- Whether a task shows a role to readers, or takes away what they see of one. -/
def Deed.isNotice : Deed → Bool
  | ⟨_, .publish _ _, _⟩ | ⟨_, .clear _, _⟩ => true
  | _ => false

/-- The task has changed the role and has told the cache nothing since. -/
def Untold (log : List Deed) (task : TaskId) (role : RoleId) : Prop :=
  ∃ earlier deed later, log = earlier ++ deed :: later ∧ deed.task = task ∧
    deed.changes role = true ∧ ∀ notice ∈ later, notice.task = task → notice.isNotice = false

theorem Untold.exists_mem {log : List Deed} {task : TaskId} {role : RoleId}
    (untold : Untold log task role) : ∃ deed ∈ log, deed.task = task ∧ deed.changes role = true := by
  obtain ⟨earlier, deed, later, rfl, isMine, changes, _⟩ := untold
  exact ⟨deed, by simp, isMine, changes⟩

theorem Untold.append {log : List Deed} {task : TaskId} {role : RoleId} (untold : Untold log task role)
    {deed : Option Deed}
    (silent : ∀ taken, deed = some taken → taken.task = task → taken.isNotice = false) :
    Untold (log ++ deed.toList) task role := by
  obtain ⟨earlier, change, later, rfl, isMine, changes, isSilent⟩ := untold
  refine ⟨earlier, change, later ++ deed.toList, by simp, isMine, changes, ?_⟩
  intro notice isListed
  rcases List.mem_append.mp isListed with isLater | isTaken
  · exact isSilent notice isLater
  · exact silent notice (Option.mem_toList.mp isTaken)

theorem Untold.of_change {log : List Deed} {deed : Deed} {role : RoleId}
    (changes : deed.changes role = true) : Untold (log ++ [deed]) deed.task role :=
  ⟨log, deed, [], rfl, rfl, changes, by simp⟩

/-- The role that a task in this stance has changed without having told the cache. -/
def Stance.debt? : Stance → Option RoleId
  | owing role | holding role _ .stale | holding role _ (.saved _) => some role
  | _ => none

/-- Where a task that is dropped leaves its debt, which nobody will pay. -/
def Stance.cut (stance : Stance) : Stance :=
  match stance.debt? with
  | some role => owing role
  | none => idle

@[simp]
theorem Stance.grip?_cut (stance : Stance) : stance.cut.grip? = none := by
  unfold cut
  split <;> rfl

@[simp]
theorem Stance.debt?_cut (stance : Stance) : stance.cut.debt? = stance.debt? := by
  unfold cut
  cases isDebt : stance.debt? <;> rfl

theorem Stance.Dooms.debt?_eq {stance : Stance} {role : RoleId} (dooms : stance.Dooms role) :
    stance.debt? = some role := by
  rcases dooms with rfl | ⟨slot, rfl⟩ <;> rfl

theorem Stance.dooms_cut {stance : Stance} {role : RoleId} (isDebt : stance.debt? = some role) :
    stance.cut.Dooms role := by
  simp [cut, isDebt, Dooms]

/-- A debt is an old one, of which the cache is still not told, or the change is made now. -/
theorem Stance.Step.debt {before after : Stance} {action : Action} {reply : action.Reply}
    {written : List Write} {role : RoleId} (step : before.Step action reply after written)
    (isDebt : after.debt? = some role) (task : TaskId) :
    before.debt? = some role ∧ Deed.isNotice ⟨task, action, reply⟩ = false ∨
      Deed.changes role ⟨task, action, reply⟩ = true := by
  cases step with
  | quiet isQuiet =>
      refine .inl ⟨isDebt, ?_⟩
      cases action <;> first | rfl | cases isQuiet
  | create | createFailed | saveFailed | deleteFailed => exact .inl ⟨isDebt, rfl⟩
  | save | delete =>
      obtain rfl := Option.some.inj isDebt
      exact .inr (decide_eq_true rfl)
  | see | publish | clear | withdraw | release => cases isDebt

end Debts

variable {Store : Type}

namespace Scene

variable {scene next : Scene Store} {limit : Nat} {log : List Deed}

def Indebted (log : List Deed) (scene : Scene Store) : Prop :=
  ∀ task role, (scene.stance task).debt? = some role → Untold log task role

theorem Indebted.move [Repository Store] {me : TaskId} {deed : Option Deed} (indebted : scene.Indebted log)
    (gated : scene.Gated) (moved : scene.Move me deed next) : next.Indebted (log ++ deed.toList) := by
  intro task role isDebt
  by_cases isMine : task = me
  · subst isMine
    cases moved with
    | rest | disturb | aim | join | retry => simpa using indebted task role isDebt
    | miss => simp [Scene.setStance, Stance.debt?] at isDebt
    | @enter _ found slot isQueued _ _ =>
        obtain ⟨_, _, isIdle | isOwing⟩ := gated.waiting task found slot (.inr isQueued)
        · simp [Scene.setStance, Scene.setPlace, isIdle, Stance.enter, Stance.debt?] at isDebt
        · rw [Option.toList_none, List.append_nil]
          apply indebted
          simpa [Scene.setStance, Scene.setPlace, isOwing, Stance.enter, Stance.debt?] using isDebt
    | @act _ action reply world stance written isInside performed step =>
        rw [acted_stance_self] at isDebt
        rcases step.debt isDebt task with ⟨wasDebt, isSilent⟩ | changes
        · apply (indebted task role wasDebt).append
          rintro taken ⟨⟩ _
          exact isSilent
        · exact .of_change changes
  · rw [(moved.others isMine).1] at isDebt
    apply (indebted task role isDebt).append
    rintro taken rfl isTask
    cases moved with
    | act => exact absurd isTask.symm isMine

def cut (scene : Scene Store) (me : TaskId) : Scene Store :=
  { world := scene.world.setCache (scene.world.cache.leaveAll me)
    stance := Function.update scene.stance me (scene.stance me).cut
    writes := scene.writes
    place := Function.update scene.place me .inside }

theorem Indebted.cut (indebted : scene.Indebted log) (me : TaskId) : (scene.cut me).Indebted log := by
  intro task role isDebt
  apply indebted task role
  by_cases isMine : task = me
  · subst isMine
    simpa [Scene.cut] using isDebt
  · simpa [Scene.cut, Function.update_of_ne isMine] using isDebt

theorem Gated.cut (gated : scene.Gated) (me : TaskId) : (scene.cut me).Gated := by
  -- The other tasks stand where they stood, and the one that is dropped neither waits nor holds a gate.
  have gripping : ∀ task grip, ((scene.cut me).stance task).grip? = some grip →
      task ≠ me ∧ (scene.stance task).grip? = some grip := by
    intro task grip isGrip
    by_cases isMine : task = me
    · subst isMine
      simp [Scene.cut] at isGrip
    · exact ⟨isMine, by simpa [Scene.cut, Function.update_of_ne isMine] using isGrip⟩
  refine ⟨gated.made, gated.own, ?_, ?_, ?_, ?_, ?_, ?_⟩
  · intro task role slot isWaiting
    have isOther : task ≠ me := by
      rintro rfl
      simp [Scene.cut] at isWaiting
    simp only [Scene.cut, Function.update_of_ne isOther] at isWaiting ⊢
    exact gated.waiting task role slot isWaiting
  · intro task grip isGrip
    obtain ⟨isOther, wasGrip⟩ := gripping task grip isGrip
    obtain ⟨isInside, isMade, isFirst⟩ := gated.holder task grip wasGrip
    refine ⟨by simp [Scene.cut, Function.update_of_ne isOther, isInside], isMade, ?_⟩
    change ((scene.world.cache.slot grip.slot).queue.erase me).head? = some task
    cases isQueue : (scene.world.cache.slot grip.slot).queue with
    | nil => simp [isQueue] at isFirst
    | cons first rest =>
        obtain rfl : first = task := by simpa [isQueue] using isFirst
        simp [isOther]
  · intro task grip isGrip
    exact gated.published task grip (gripping task grip isGrip).2
  · intro task grip isGrip
    exact gated.unpublished task grip (gripping task grip isGrip).2
  · intro slot
    exact (gated.distinct slot).erase me
  · intro slot task isMember
    have wasMember : task ∈ (scene.world.cache.slot slot).queue := List.mem_of_mem_erase isMember
    have isOther : task ≠ me := by
      rintro rfl
      exact (gated.distinct slot).not_mem_erase isMember
    simpa only [Scene.cut, Function.update_of_ne isOther] using gated.queued slot task wasMember

variable [Repository Store] [LawfulRepository Store]

theorem Truthful.cut (truthful : scene.Truthful limit) (me : TaskId) :
    (scene.cut me).Truthful limit := by
  have others : ∀ task, task ≠ me → (scene.cut me).stance task = scene.stance task :=
    fun task isOther => Function.update_of_ne isOther _ _
  have mine : (scene.cut me).stance me = (scene.stance me).cut := Function.update_self _ _ _
  have holding : ∀ task role slot knowledge, (scene.cut me).stance task = .holding role slot knowledge →
      scene.stance task = .holding role slot knowledge := by
    intro task role slot knowledge isHolder
    by_cases isMine : task = me
    · subst isMine
      have isGrip := Stance.grip_of_eq isHolder
      rw [mine, Stance.grip?_cut] at isGrip
      cases isGrip
    · rwa [others task isMine] at isHolder
  -- What the task had not told the cache now dooms the role for good.
  have dooms : ∀ role, (scene.stance me).debt? = some role → (scene.cut me).Doomed role :=
    fun role isDebt => ⟨me, by rw [mine]; exact Stance.dooms_cut isDebt⟩
  have vouches : ∀ role stored, scene.Vouches role stored → (scene.cut me).Vouches role stored := by
    rintro role stored (isStored | ⟨task, isDoomed⟩)
    · exact .inl isStored
    · by_cases isMine : task = me
      · subst isMine
        exact .inr (dooms role isDoomed.debt?_eq)
      · exact .inr ⟨task, by rw [others task isMine]; exact isDoomed⟩
  refine ⟨?_, ?_, ?_, truthful.fresh.congr (fun _ => id) rfl rfl⟩
  · intro task role slot stored isHolder
    exact vouches role stored (truthful.known task role slot stored
      (isHolder.imp (holding task role slot _) (holding task role slot _)))
  · intro task role slot knowledge isHolder isBare
    exact truthful.bare task role slot knowledge (holding task role slot knowledge isHolder) isBare
  · intro role slot snapshot isPublished isShown
    rcases truthful.shown role slot snapshot isPublished isShown with isVouched | ⟨task, stored, isSaving⟩
    · exact .inl (vouches role snapshot isVouched)
    · by_cases isMine : task = me
      · subst isMine
        exact .inl (.inr (dooms role (by rw [isSaving]; rfl)))
      · exact .inr ⟨task, stored, by rw [others task isMine]; exact isSaving⟩

end Scene

/-- A save or a deletion of the role takes effect in the store, whatever its sender was told. -/
inductive Lands (role : RoleId) (store : Store) [Repository Store] : Store → Prop where
  | save (rules : RuleSet) : Lands role store (Repository.save store role rules).2
  | delete : Lands role store (Repository.delete store role).2

section Landing

variable [Repository Store] [LawfulRepository Store] {role : RoleId} {store after : Store}

theorem Lands.find_of_ne (lands : Lands role store after) {other : RoleId} (isOther : other ≠ role) :
    Repository.find after other = Repository.find store other := by
  cases lands with
  | save rules => exact LawfulRepository.find_save_of_ne rules isOther
  | delete => exact LawfulRepository.find_delete_of_ne isOther

theorem Lands.stores (lands : Lands role store after) {id : RoleId}
    (isStored : LawfulRepository.stores after id) : LawfulRepository.stores store id := by
  cases lands with
  | save rules => exact (LawfulRepository.stores_save rules).mp isStored
  | delete =>
      by_cases isRole : id = role
      · subst isRole
        cases deleted : Repository.delete store id with
        | mk answer after =>
            rw [deleted] at isStored
            cases answer with
            | ok => exact absurd isStored (LawfulRepository.not_stores_of_delete deleted)
            | error error => rwa [LawfulRepository.delete_error deleted] at isStored
      · exact (LawfulRepository.stores_delete_of_ne isRole).mp isStored

end Landing

def World.setStore (world : World Store) (store : Store) : World Store :=
  { world with store }

def Scene.setStore (scene : Scene Store) (store : Store) : Scene Store :=
  { scene with world := scene.world.setStore store }

variable [Repository Store] [LawfulRepository Store]

/-- A late write does no harm to a role that nobody sees, while nobody has gone through its gate. -/
theorem Scene.Truthful.land {scene : Scene Store} {limit : Nat} (truthful : scene.Truthful limit)
    (gated : scene.Gated) {role : RoleId} (isHidden : scene.world.cache.get role = none)
    (areOutside : ∀ slot task, scene.world.cache.published role = some slot →
      scene.world.cache.holds slot task = true → scene.place task ≠ .inside) {store : Store}
    (lands : Lands role scene.world.store store) : (scene.setStore store).Truthful limit := by
  have vouches : ∀ id stored, id ≠ role → scene.Vouches id stored →
      (scene.setStore store).Vouches id stored := by
    rintro id stored isOther (isStored | doomed)
    · exact .inl ((lands.find_of_ne isOther).trans isStored)
    · exact .inr doomed
  -- Whoever relies on what was stored has gone through the gate of the published slot.
  have notHolding : ∀ task slot knowledge, scene.stance task = .holding role slot knowledge →
      knowledge.isWithdrawn = true := by
    intro task slot knowledge isHolder
    by_contra isKept
    have isPublished := gated.published_of_holding isHolder (by simpa using isKept)
    obtain ⟨isInside, _, isFirst⟩ := gated.holder task _ (Stance.grip_of_eq isHolder)
    exact areOutside slot task isPublished (beq_iff_eq.mpr isFirst) isInside
  refine ⟨?_, truthful.bare, ?_, truthful.fresh.congr (fun _ => lands.stores) rfl rfl⟩
  · intro task id slot stored isHolder
    refine vouches id stored ?_ (truthful.known task id slot stored isHolder)
    rintro rfl
    rcases isHolder with isSeen | isSaved
    · cases notHolding task slot _ isSeen
    · cases notHolding task slot _ isSaved
  · intro id slot snapshot isPublished isShown
    have isOther : id ≠ role := by
      rintro rfl
      have isSeen : scene.world.cache.get id = some snapshot := by
        change scene.world.cache.published id = some slot at isPublished
        rw [Cache.get, isPublished]
        exact isShown
      rw [isHidden] at isSeen
      cases isSeen
    exact (truthful.shown id slot snapshot isPublished isShown).imp_left (vouches id snapshot isOther)

namespace Machine

/-- Readers see nothing of the role, and whoever is first at the gate of its slot has not gone through. -/
def Unused {Answer : Type} (machine : Machine Store Answer) (role : RoleId) : Prop :=
  machine.world.cache.get role = none ∧
    ∀ slot task, machine.world.cache.published role = some slot →
      machine.world.cache.holds slot task = true →
        ∃ again next, machine.tasks[task]? = some (.queued role slot again next)

/-- A run in which tasks may also be dropped, and in which writes of a role may take effect late, whenever
the machine is such that they may. -/
inductive RoughRun {Answer : Type} (mayLand : Machine Store Answer → RoleId → Prop)
    (start : Machine Store Answer) : List Deed → Machine Store Answer → Prop where
  | start : RoughRun mayLand start [] start
  | move {log : List Deed} {before after : Machine Store Answer} {task : TaskId} :
      RoughRun mayLand start log before → before.step? task = some after →
      RoughRun mayLand start (log ++ (before.deed? task).toList) after
  | disturb {log : List Deed} {before : Machine Store Answer}
      (fault : Operation → Option ServiceError) (saveDelay ackDelay : Nat) :
      RoughRun mayLand start log before →
      RoughRun mayLand start log (before.disturb fault saveDelay ackDelay)
  | drop {log : List Deed} {before : Machine Store Answer} {task : TaskId} {current : Task Answer}
      (present : before.tasks[task]? = some current) :
      RoughRun mayLand start log before → RoughRun mayLand start log (before.drop task)
  | land {log : List Deed} {before : Machine Store Answer} {role : RoleId} {store : Store}
      (isAllowed : mayLand before role) (lands : Lands role before.world.store store) :
      RoughRun mayLand start log before →
      RoughRun mayLand start log { before with world := before.world.setStore store }

omit [LawfulRepository Store] in
theorem RoughRun.append {Answer : Type} {mayLand : Machine Store Answer → RoleId → Prop}
    {first second third : Machine Store Answer} {earlier later : List Deed}
    (before : RoughRun mayLand first earlier second) (after : second.Run later third) :
    RoughRun mayLand first (earlier ++ later) third := by
  induction after with
  | start => simpa using before
  | move _ moved inductionHypothesis =>
      rw [← List.append_assoc]
      exact .move inductionHypothesis moved
  | disturb fault saveDelay ackDelay _ inductionHypothesis =>
      exact .disturb fault saveDelay ackDelay inductionHypothesis

omit [LawfulRepository Store] in
theorem RoughRun.ofRun {Answer : Type} {mayLand : Machine Store Answer → RoleId → Prop}
    {start machine : Machine Store Answer} {log : List Deed} (run : start.Run log machine) :
    RoughRun mayLand start log machine := by
  simpa using RoughRun.append .start run

/-- The machine is like another in which the tasks that were dropped may go on, but do not. -/
structure Shadows (machine shadow : Machine Store Outcome) : Prop where
  world : shadow.world = machine.world
  tasks : ∀ task : TaskId, shadow.tasks[task]? = machine.tasks[task]? ∨
    machine.tasks[task]? = some .dropped ∧ ∃ program, shadow.tasks[task]? = some (.running program)

omit [Repository Store] [LawfulRepository Store] in
theorem Unused.place_ne_inside {machine shadow : Machine Store Outcome} {role : RoleId}
    (isUnused : machine.Unused role) (shadows : machine.Shadows shadow) {terms : TaskId → Terms}
    {posts : TaskId → Outcome → List Write → Prop} {scene : Scene Store}
    (plays : shadow.Plays terms posts scene) (slot : SlotId) (task : TaskId)
    (isPublished : scene.world.cache.published role = some slot)
    (isFirst : scene.world.cache.holds slot task = true) : scene.place task ≠ .inside := by
  rw [plays.world, shadows.world] at isPublished isFirst
  obtain ⟨again, next, isWaiting⟩ := isUnused.2 slot task isPublished isFirst
  -- Whoever waits was not dropped, and so waits in the shadow as well.
  have isThere : shadow.tasks[task]? = some (.queued role slot again next) := by
    rcases shadows.tasks task with same | ⟨isDropped, _⟩
    · exact same.trans isWaiting
    · rw [isWaiting] at isDropped
      cases isDropped
  rw [plays.place, place, isThere]
  exact Place.noConfusion

omit [LawfulRepository Store] in
theorem Shadows.step {machine shadow after : Machine Store Outcome} (shadows : machine.Shadows shadow)
    {task : TaskId} (moved : machine.step? task = some after) :
    ∃ next, shadow.step? task = some next ∧ after.Shadows next ∧
      shadow.deed? task = machine.deed? task := by
  unfold step? at moved
  obtain ⟨current, present, rest⟩ := Option.bind_eq_some_iff.mp moved
  obtain ⟨⟨turned, world⟩, step, isAfter⟩ := Option.bind_eq_some_iff.mp rest
  obtain rfl := Option.some.inj isAfter
  have isThere : shadow.tasks[task]? = some current := by
    rcases shadows.tasks task with same | ⟨isDropped, _⟩
    · rw [same, present]
    · rw [present] at isDropped
      obtain rfl := Option.some.inj isDropped
      cases step
  refine ⟨⟨world, shadow.tasks.set task turned⟩, ?_, ⟨rfl, ?_⟩, ?_⟩
  · unfold step?
    rw [isThere, shadows.world]
    simp [step]
  · intro other
    by_cases isTask : task = other
    · subst isTask
      left
      rw [List.getElem?_set_self', List.getElem?_set_self', isThere, present]
    · rw [List.getElem?_set_ne isTask, List.getElem?_set_ne isTask]
      exact shadows.tasks other
  · unfold deed?
    rw [isThere, present, shadows.world]

/-- What becomes of a dropped task in the shadow: one with a debt may still remove the entry of the role. -/
def afterlife (settings : Settings) (stance : Stance) : Task Outcome :=
  match stance.debt? with
  | some role => .running ((Call.invalidate role).program settings)
  | none => .dropped

omit [Repository Store] [LawfulRepository Store] in
theorem Shadows.drop {machine shadow : Machine Store Outcome} (shadows : machine.Shadows shadow)
    (settings : Settings) {task : TaskId} {current : Task Outcome}
    (present : machine.tasks[task]? = some current) {scene : Scene Store}
    (plays : shadow.Plays (fun _ => .free) (fun _ _ _ => True) scene) :
    ∃ next, (machine.drop task).Shadows next ∧
      next.Plays (fun _ => .free) (fun _ _ _ => True) (scene.cut task) := by
  have isThere : ∃ other, shadow.tasks[task]? = some other := by
    rcases shadows.tasks task with same | ⟨_, program, isRunning⟩
    · exact ⟨current, same.trans present⟩
    · exact ⟨_, isRunning⟩
  obtain ⟨other, isThere⟩ := isThere
  have ensured : (afterlife settings (scene.stance task)).Ensures .free
      (fun _ stance _ => stance = .idle ∧ True) (scene.stance task).cut (scene.writes task) := by
    unfold afterlife Stance.cut
    cases (scene.stance task).debt? with
    | none => rfl
    | some role =>
        exact (Program.ensures_bind _ _).mpr
          (Authorization.invalidate_ensures (.inr rfl) ⟨rfl, trivial⟩)
  have isInside : (afterlife settings (scene.stance task)).place = .inside := by
    unfold afterlife
    split <;> rfl
  have played := plays.set (afterlife settings (scene.stance task)) isThere
    (shadow.world.setCache (shadow.world.cache.leaveAll task)) ensured
  rw [isInside, Function.update_eq_self, ← plays.world] at played
  refine ⟨_, ⟨?_, ?_⟩, played⟩
  · rw [plays.world, shadows.world]
    rfl
  · intro others
    change (shadow.tasks.set task _)[others]? = (machine.tasks.set task .dropped)[others]? ∨
      (machine.tasks.set task .dropped)[others]? = some .dropped ∧ _
    by_cases isTask : task = others
    · subst isTask
      rw [List.getElem?_set_self', List.getElem?_set_self', isThere, present]
      unfold afterlife
      cases (scene.stance task).debt? with
      | none => exact .inl rfl
      | some role => exact .inr ⟨rfl, _, rfl⟩
    · rw [List.getElem?_set_ne isTask, List.getElem?_set_ne isTask]
      exact shadows.tasks others

variable {settings : Settings} {calls : List Call} {log : List Deed} {machine : Machine Store Outcome}

/-- Whoever is dropped, and whatever lands late, the gates stay in order, and the cache is true but for the
debts of tasks that have not told it of what they changed. -/
theorem RoughRun.plays {world : World Store} (settled : world.Settled)
    (run : RoughRun Unused (load world (calls.map (Call.program settings))) log machine) {limit : Nat}
    (fresh : world.Fresh limit) (isBelow : machine.world.created ≤ limit) :
    ∃ (shadow : Machine Store Outcome) (scene : Scene Store), machine.Shadows shadow ∧
      shadow.Plays (fun _ => .free) (fun _ _ _ => True) scene ∧ scene.Gated ∧ scene.Truthful limit ∧
        scene.Indebted log := by
  induction run with
  | start =>
      refine ⟨_, Scene.start world, ⟨rfl, fun _ => .inl rfl⟩, .load ?_, .start settled.atRest,
        .start settled.isTrue fresh, ?_⟩
      · intro task program located
        exact (Call.isIdle task program located).mono fun _ _ _ isIdle => ⟨isIdle, trivial⟩
      · intro task role isDebt
        cases isDebt
  | @move log before after task _ moved inductionHypothesis =>
      obtain ⟨shadow, scene, shadows, plays, gated, truthful, indebted⟩ :=
        inductionHypothesis (Nat.le_trans (created_le_step moved) isBelow)
      obtain ⟨next, shadowMoved, stillShadows, sameDeed⟩ := shadows.step moved
      obtain ⟨turned, stillPlays, sceneMoved⟩ := plays.move (fun _ _ => trivial) shadowMoved
      rw [sameDeed] at sceneMoved
      refine ⟨next, turned, stillShadows, stillPlays, gated.move sceneMoved,
        truthful.move gated sceneMoved ?_, indebted.move gated sceneMoved⟩
      rw [stillPlays.world, stillShadows.world]
      exact isBelow
  | disturb fault saveDelay ackDelay _ inductionHypothesis =>
      obtain ⟨shadow, scene, shadows, plays, gated, truthful, indebted⟩ := inductionHypothesis isBelow
      have sceneMoved : scene.Move 0 none _ := .disturb fault saveDelay ackDelay
      refine ⟨shadow.disturb fault saveDelay ackDelay, _, ⟨?_, shadows.tasks⟩,
        plays.disturb fault saveDelay ackDelay, gated.move sceneMoved,
        truthful.move gated sceneMoved ?_, indebted⟩
      · exact congrArg (World.disturb · fault saveDelay ackDelay) shadows.world
      · rw [Scene.disturb, plays.world, shadows.world]
        exact isBelow
  | drop present _ inductionHypothesis =>
      obtain ⟨shadow, scene, shadows, plays, gated, truthful, indebted⟩ := inductionHypothesis isBelow
      obtain ⟨next, stillShadows, stillPlays⟩ := shadows.drop settings present plays
      exact ⟨next, _, stillShadows, stillPlays, gated.cut _, truthful.cut _, indebted.cut _⟩
  | @land log before role store isUnused lands _ inductionHypothesis =>
      obtain ⟨shadow, scene, shadows, plays, gated, truthful, indebted⟩ := inductionHypothesis isBelow
      have sameWorld : scene.world = before.world := plays.world.trans shadows.world
      have isHidden : scene.world.cache.get role = none := by rw [sameWorld]; exact isUnused.1
      have areOutside := isUnused.place_ne_inside shadows plays
      rw [← sameWorld] at lands
      refine ⟨⟨shadow.world.setStore store, shadow.tasks⟩, scene.setStore store, ⟨?_, shadows.tasks⟩, ?_,
        ?_, truthful.land gated isHidden areOutside lands, indebted⟩
      · exact congrArg (World.setStore · store) shadows.world
      · exact ⟨congrArg (World.setStore · store) plays.world, plays.place, plays.tasks, plays.others⟩
      · exact gated.congr rfl rfl (fun _ => rfl) (fun _ => rfl) rfl (fun _ _ => rfl)

/-- Whoever is dropped right after changing a role leaves readers what they saw of it before. -/
theorem get_drop_of_change {before after : Machine Store Outcome} {task : TaskId} {deed : Deed}
    {role : RoleId} (isNext : before.deed? task = some deed) (changes : deed.changes role = true)
    (moved : before.step? task = some after) :
    (after.drop task).world.cache.get role = before.world.cache.get role := by
  have isWrite : deed.action.isWrite = true := by
    unfold Deed.changes at changes
    split at changes
    · rfl
    · rfl
    · cases changes
  unfold deed? at isNext
  split at isNext
  · rename_i action next present
    obtain rfl := Option.some.inj isNext
    unfold step? at moved
    rw [present] at moved
    obtain rfl := Option.some.inj moved
    have sameCache : (before.world.perform task action).2.cache = before.world.cache :=
      World.perform_write_cache isWrite rfl
    change (before.world.perform task action).2.cache.get role = _
    rw [sameCache]
  · cases isNext

/-- Whoever was dropped, and whatever landed late: a role is shown as it is stored, or not at all, if those
who changed it and have not told the cache of it came to their end, and if late writes of roles only took
effect while these were not in use. -/
theorem get_eq_none_or_find_eq_of_told {world : World Store} (settled : world.Settled)
    (run : RoughRun Unused (load world (calls.map (Call.program settings))) log machine)
    (fresh : world.Fresh machine.world.created) {role : RoleId}
    (areTold : ∀ task current, Untold log task role → machine.tasks[task]? = some current →
      current.isFinished = true) :
    machine.world.cache.get role = none ∨
      Repository.find machine.world.store role = .ok (machine.world.cache.get role) := by
  obtain ⟨shadow, scene, shadows, plays, gated, truthful, indebted⟩ :=
    run.plays settled fresh (Nat.le_refl _)
  -- A task that came to its end is over in the shadow as well, where it has no debt.
  have noDebt : ∀ task, (scene.stance task).debt? ≠ some role := by
    intro task isDebt
    have isBusy : scene.stance task ≠ .idle := by
      intro isIdle
      simp [isIdle, Stance.debt?] at isDebt
    rcases shadows.tasks task with same | ⟨isDropped, _⟩
    · cases present : shadow.tasks[task]? with
      | none => exact isBusy (plays.others task present).1
      | some current =>
          rw [present] at same
          have isFinished := areTold task current (indebted task role isDebt) same.symm
          cases current with
          | finished answer => exact isBusy (plays.idle_of_isOver present rfl)
          | running _ | arriving _ _ _ _ | queued _ _ _ _ | dropped => cases isFinished
    · cases areTold task .dropped (indebted task role isDebt) isDropped
  rw [← plays.world.trans shadows.world]
  apply truthful.get
  · rintro ⟨task, dooms⟩
    exact noDebt task dooms.debt?_eq
  · rintro slot _ ⟨task, stored, isSaving⟩
    exact noDebt task (by rw [isSaving]; rfl)

end Machine

section Office

def Settings.strict : Settings :=
  { Settings.office with mode := .snapshot }

def stripped : Role :=
  keeper.withRules .empty

def Machine.strictOffice (calls : List Call) : Machine MemoryStore Outcome :=
  .load (.start .office RoleId.drawn) (calls.map (Call.program .strict))

def Machine.strip (machine : Machine MemoryStore Outcome) : Machine MemoryStore Outcome :=
  { machine with
    world := machine.world.setStore (Repository.save machine.world.store keeper.id .empty).2 }

/-- One call is to replace the rules of the role, and another one reads the role. -/
def Call.parting : List Call :=
  [.apply keeper.id .empty, .resolve keeper.id]

/-- The rules are about to be written, and the other call waits at the gate. -/
def Machine.parting : List Deed × Machine MemoryStore Outcome :=
  ((Machine.strictOffice Call.parting).follow? (List.replicate 6 0 ++ List.replicate 3 1)).get (by decide)

/-- The call that is to write them is dropped, and they are written after all. Then the role is read. -/
def Machine.partingOver : List Deed × Machine MemoryStore Outcome :=
  ((parting.2.drop 0).strip.follow? (List.replicate 6 1)).get (by decide)

theorem Machine.get_eq_none_or_find_eq_of_told_parting :
    (World.start MemoryStore.office RoleId.drawn).Settled ∧
      RoughRun Unused (strictOffice Call.parting)
        (parting.1 ++ partingOver.1) partingOver.2 ∧
      (World.start MemoryStore.office RoleId.drawn).Fresh partingOver.2.world.created ∧
      partingOver.2.world.cache.get keeper.id = some stripped ∧
      (partingOver.2.world.cache.get keeper.id = none ∨
        Repository.find partingOver.2.world.store keeper.id =
          .ok (partingOver.2.world.cache.get keeper.id)) := by
  have isUnused : (parting.2.drop 0).Unused keeper.id := by
    refine ⟨by decide, fun slot task isPublished isFirst => ?_⟩
    have isOnly : (parting.2.drop 0).world.cache.published keeper.id = some 0 := by decide
    obtain rfl := Option.some.inj (isOnly.symm.trans isPublished)
    have isNext : some 1 = some task := beq_iff_eq.mp isFirst
    obtain rfl := Option.some.inj isNext
    exact ⟨_, _, rfl⟩
  have run : RoughRun Unused (strictOffice Call.parting)
      (parting.1 ++ partingOver.1) partingOver.2 :=
    .append (.land isUnused (.save .empty) (.drop rfl (.ofRun (Run.get _)))) (Run.get _)
  have fresh : (World.start MemoryStore.office RoleId.drawn).Fresh partingOver.2.world.created :=
    .of_le (by decide)
  have settled := World.settled_start MemoryStore.office RoleId.drawn
  refine ⟨settled, run, fresh, by decide, get_eq_none_or_find_eq_of_told settled run fresh ?_⟩
  intro task current untold _
  obtain ⟨deed, isDone, _, changes⟩ := untold.exists_mem
  have areReads : (parting.1 ++ partingOver.1).all (fun deed => !deed.changes keeper.id) = true := by
    decide
  simpa [changes] using List.all_eq_true.mp areReads deed isDone

/-- Two calls read the roles of the office, one is to replace the rules of the keeper, and one is to delete
the clerk. -/
def Call.quarrel : List Call :=
  [.resolve keeper.id, .resolve clerk.id, .apply keeper.id .empty, .deleteRole keeperSession clerk.id]

def Machine.quarrel : List Deed × Machine MemoryStore Outcome :=
  ((Machine.strictOffice Call.quarrel).follow? (List.replicate 9 0 ++ List.replicate 9 1)).get (by decide)

/-- The call that replaces the rules is told that the transaction was not committed. -/
def Machine.quarrelSent : List Deed × Machine MemoryStore Outcome :=
  ((quarrel.2.disturb (Conditions.calm.setFault .save (some (.failedTo "commit transaction"))).fault
    0 0).follow? (List.replicate 9 2)).get (by decide)

/-- It was committed all the same. The other call has just deleted its role. -/
def Machine.quarrelDone : List Deed × Machine MemoryStore Outcome :=
  (quarrelSent.2.strip.follow? [3, 3]).get (by decide)

def Machine.quarrelOver : Machine MemoryStore Outcome :=
  quarrelDone.2.drop 3

/-- When a write that was answered by an error takes effect on a role that readers see, or a call is
dropped between deleting a role and removing its entry, readers go on to see the role as it was, and
sessions to be admitted by it. -/
theorem Machine.shows_what_is_not_stored :
    RoughRun (fun _ _ => True) (strictOffice Call.quarrel)
        (quarrel.1 ++ quarrelSent.1 ++ quarrelDone.1) quarrelOver ∧
      ⟨2, .write keeper.id .empty, .error (.failedTo "commit transaction")⟩ ∈ quarrelSent.1 ∧
      quarrelOver.tasks.all Task.isOver = true ∧
      (quarrelOver.world.cache.get keeper.id = some keeper ∧
        Repository.find quarrelOver.world.store keeper.id = .ok (some stripped) ∧
        ((Authorization.authorize .enforced keeperSession .rbacAdmin .full).run 4 quarrelOver.world).1 =
          .ok (.allow .full []) ∧
        stripped.decide .rbacAdmin .full = .deny .nothing) ∧
      quarrelOver.world.cache.get clerk.id = some clerk ∧
      Repository.find quarrelOver.world.store clerk.id = .ok none := by
  have sent : RoughRun (fun _ _ => True) (strictOffice Call.quarrel) (quarrel.1 ++ quarrelSent.1)
      quarrelSent.2 :=
    .append (.disturb _ 0 0 (.ofRun (Run.get _))) (Run.get _)
  have done : RoughRun (fun _ _ => True) (strictOffice Call.quarrel)
      (quarrel.1 ++ quarrelSent.1 ++ quarrelDone.1) quarrelDone.2 :=
    .append (.land trivial (.save .empty) sent) (Run.get _)
  have isSent : quarrelSent.1[3]? =
      some ⟨2, .write keeper.id .empty, .error (.failedTo "commit transaction")⟩ := rfl
  exact ⟨.drop rfl done, List.mem_of_getElem? isSent, by decide, ⟨by decide, rfl, rfl, by decide⟩,
    by decide, rfl⟩

end Office

end Rolebook
