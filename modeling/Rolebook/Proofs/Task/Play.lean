import Rolebook.Proofs.Task.Perform
import Rolebook.Proofs.Task.Scene

/-!
Machines and their scenes. A machine whose tasks behave plays a scene, and each of its moves is a move of
that scene. So what the moves of scenes preserve holds at the end of every run.
-/

namespace Rolebook

namespace Task

variable {Answer : Type}

def isOver : Task Answer → Bool
  | running (.done _) | finished _ | dropped => true
  | _ => false

def place : Task Answer → Place
  | arriving role slot _ _ => .aiming role slot
  | queued role slot _ _ => .queued role slot
  | running _ | finished _ | dropped => .inside

/-- What the rest of a task ensures. One that waits for a gate may come to start over. -/
def Ensures (terms : Terms) (post : Answer → Stance → List Write → Prop) :
    Task Answer → Stance → List Write → Prop
  | running program, stance, writes => program.Ensures terms post stance writes
  | arriving role _ again next, stance, writes | queued role _ again next, stance, writes =>
      (stance = .idle ∨ stance = .owing role) ∧ again.Ensures terms post stance writes ∧
        ∀ slot, (next slot).Ensures terms post (stance.enter role slot) writes
  | finished answer, stance, writes => post answer stance writes
  | dropped, stance, _ => stance = .idle

end Task

namespace Machine

variable {Store Answer : Type}

theorem created_le_step [Repository Store] {before after : Machine Store Answer} {task : TaskId}
    (moved : before.step? task = some after) : before.world.created ≤ after.world.created := by
  unfold step? at moved
  obtain ⟨current, _, rest⟩ := Option.bind_eq_some_iff.mp moved
  obtain ⟨⟨task', world⟩, step, isAfter⟩ := Option.bind_eq_some_iff.mp rest
  obtain rfl := Option.some.inj isAfter
  cases current with
  | running program =>
      cases program with
      | act action next =>
          obtain ⟨_, rfl⟩ := Prod.mk.inj (Option.some.inj step)
          exact before.world.created_le_perform task action
      | lockPublished role absent next =>
          simp only [Task.step] at step
          split at step <;> obtain ⟨_, rfl⟩ := Prod.mk.inj (Option.some.inj step) <;>
            exact Nat.le_refl _
      | done _ | lock _ _ =>
          obtain ⟨_, rfl⟩ := Prod.mk.inj (Option.some.inj step)
          exact Nat.le_refl _
  | arriving role slot again next =>
      obtain ⟨_, rfl⟩ := Prod.mk.inj (Option.some.inj step)
      exact Nat.le_refl _
  | queued role slot again next =>
      simp only [Task.step] at step
      split at step
      · split at step <;> obtain ⟨_, rfl⟩ := Prod.mk.inj (Option.some.inj step) <;>
          exact Nat.le_refl _
      · simp at step
  | finished answer => simp [Task.step] at step
  | dropped => simp [Task.step] at step

def place (machine : Machine Store Answer) (task : TaskId) : Place :=
  match machine.tasks[task]? with
  | some current => current.place
  | none => .inside

/-- What holds of the tasks up to a count, and of those that come after them, counted anew. -/
def beyond {Feature : Type} (count : Nat) (early late : TaskId → Feature) (task : TaskId) : Feature :=
  if task < count then early task else late (task - count)

@[simp]
theorem beyond_add {Feature : Type} (count : Nat) (early late : TaskId → Feature) (task : TaskId) :
    beyond count early late (count + task) = late task := by
  rw [beyond, if_neg (Nat.not_lt.mpr (Nat.le_add_right count task)), Nat.add_sub_cancel_left]

/-- A machine plays a scene: it has the world and the places of the scene, each of its tasks behaves from
its stance on, and will have no gate in hand when it gives its answer. -/
structure Plays (machine : Machine Store Answer) (terms : TaskId → Terms)
    (posts : TaskId → Answer → List Write → Prop) (scene : Scene Store) : Prop where
  world : scene.world = machine.world
  place : scene.place = machine.place
  tasks : ∀ task (current : Task Answer), machine.tasks[task]? = some current →
    current.Ensures (terms task)
      (fun answer stance writes => stance = .idle ∧ posts task answer writes)
      (scene.stance task) (scene.writes task)
  others : ∀ task, machine.tasks[task]? = none → scene.stance task = .idle ∧ scene.writes task = []

namespace Plays

variable {machine : Machine Store Answer} {terms : TaskId → Terms}
  {posts : TaskId → Answer → List Write → Prop} {scene : Scene Store}

theorem load {world : World Store} {programs : List (Program Answer)}
    (ensured : ∀ (task : TaskId) (program : Program Answer), programs[task]? = some program →
      program.Ensures (terms task)
        (fun answer stance writes => stance = .idle ∧ posts task answer writes) .idle []) :
    (Machine.load world programs).Plays terms posts (Scene.start world) where
  world := rfl
  place := by
    funext task
    unfold Machine.place Machine.load
    cases located : (programs.map fun program => Task.running program)[task]? with
    | none => rfl
    | some current =>
        obtain ⟨program, _, isRunning⟩ := List.mem_map.mp (List.mem_of_getElem? located)
        rw [← isRunning]
        rfl
  tasks := by
    intro task current located
    rw [Machine.load, List.getElem?_map, Option.map_eq_some_iff] at located
    obtain ⟨program, present, isRunning⟩ := located
    rw [← isRunning]
    exact ensured task program present
  others := fun _ _ => ⟨rfl, rfl⟩

theorem set (plays : machine.Plays terms posts scene) {task : TaskId} (moved : Task Answer)
    {current : Task Answer}
    (present : machine.tasks[task]? = some current) (world : World Store) {stance : Stance}
    {writes : List Write}
    (ensured : moved.Ensures (terms task)
      (fun answer stance writes => stance = .idle ∧ posts task answer writes) stance writes) :
    Plays (⟨world, machine.tasks.set task moved⟩ : Machine Store Answer) terms posts
      ⟨world, Function.update scene.stance task stance, Function.update scene.writes task writes,
        Function.update scene.place task moved.place⟩ := by
  have isTask : task < machine.tasks.length := (List.getElem?_eq_some_iff.mp present).1
  refine ⟨rfl, ?_, ?_, ?_⟩
  · funext other
    simp only [Machine.place, plays.place, List.getElem?_set]
    by_cases same : other = task
    · subst same
      simp [isTask]
    · have different : task ≠ other := fun equal => same equal.symm
      simp [Function.update_of_ne same, different, Machine.place]
  · intro other found located
    simp only [List.getElem?_set] at located
    by_cases same : other = task
    · subst same
      simp only [isTask, if_true, Option.some.injEq] at located
      subst located
      simpa using ensured
    · have different : task ≠ other := fun equal => same equal.symm
      simp only [different, if_false] at located
      simpa [Function.update_of_ne same] using plays.tasks other found located
  · intro other located
    simp only [List.getElem?_set] at located
    by_cases same : other = task
    · subst same
      simp [isTask] at located
    · have different : task ≠ other := fun equal => same equal.symm
      simp only [different, if_false] at located
      simpa [Function.update_of_ne same] using plays.others other located

theorem disturb (plays : machine.Plays terms posts scene) (fault : Operation → Option ServiceError)
    (saveDelay ackDelay : Nat) :
    (machine.disturb fault saveDelay ackDelay).Plays terms posts
      (scene.disturb fault saveDelay ackDelay) where
  world := by rw [Scene.disturb, plays.world]; rfl
  place := plays.place
  tasks := plays.tasks
  others := plays.others

theorem setPlace (plays : machine.Plays terms posts scene) {task : TaskId} (moved : Task Answer)
    {current : Task Answer} (present : machine.tasks[task]? = some current) (cache : Cache)
    (ensured : moved.Ensures (terms task)
      (fun answer stance writes => stance = .idle ∧ posts task answer writes)
      (scene.stance task) (scene.writes task)) :
    Plays (⟨machine.world.setCache cache, machine.tasks.set task moved⟩ : Machine Store Answer) terms
      posts ((scene.setCache cache).setPlace task moved.place) := by
  have played := plays.set moved present (machine.world.setCache cache) ensured
  simp only [Function.update_eq_self] at played
  simpa only [Scene.setPlace, Scene.setCache, plays.world] using played

theorem setStance (plays : machine.Plays terms posts scene) {task : TaskId} (moved : Task Answer)
    {current : Task Answer} (present : machine.tasks[task]? = some current) {stance : Stance}
    (ensured : moved.Ensures (terms task)
      (fun answer stance writes => stance = .idle ∧ posts task answer writes)
      stance (scene.writes task)) :
    Plays (⟨machine.world, machine.tasks.set task moved⟩ : Machine Store Answer) terms posts
      ((scene.setStance task stance).setPlace task moved.place) := by
  have played := plays.set moved present machine.world ensured
  simp only [Function.update_eq_self] at played
  simpa only [Scene.setPlace, Scene.setStance, plays.world] using played

variable [Repository Store]

theorem move_running (plays : machine.Plays terms posts scene) {task : TaskId}
    {program : Program Answer} (present : machine.tasks[task]? = some (.running program))
    {moved : Task Answer} {world : World Store}
    (expected : ∀ deed, machine.deed? task = some deed →
      (terms task).expects (scene.stance task) (scene.writes task) deed.action deed.reply)
    (step : (Task.running program).step task machine.world = some (moved, world)) :
    ∃ next, Plays ⟨world, machine.tasks.set task moved⟩ terms posts next ∧
      scene.Move task (machine.deed? task) next := by
  have ensured := plays.tasks task _ present
  have isInside : scene.place task = .inside := by
    rw [plays.place, Machine.place, present]
    rfl
  unfold deed? at expected ⊢
  rw [present] at expected ⊢
  cases program with
  | done answer =>
      obtain ⟨rfl, rfl⟩ := Prod.mk.inj (Option.some.inj step)
      have played := plays.setPlace (.finished answer) present machine.world.cache ensured
      rw [← plays.world, Scene.setCache_self, Task.place, Scene.setPlace_self isInside] at played
      exact ⟨scene, by rw [← plays.world]; exact played, .rest⟩
  | act action next =>
      obtain ⟨rfl, rfl⟩ := Prod.mk.inj (Option.some.inj step)
      obtain ⟨stance, written, allowed, continued⟩ := ensured.2 _ (expected _ rfl)
      have played := plays.set (.running (next (machine.world.perform task action).1)) present
        (machine.world.perform task action).2 continued
      rw [Task.place, ← isInside, Function.update_eq_self] at played
      exact ⟨_, played, .act isInside (by rw [plays.world]) allowed⟩
  | lock role next =>
      obtain ⟨isIdle, continued⟩ := ensured
      cases opened : machine.world.cache.openSlot role with
      | mk slot cache =>
          simp only [Task.step, opened] at step
          obtain ⟨rfl, rfl⟩ := Prod.mk.inj (Option.some.inj step)
          refine ⟨_, plays.setPlace (.arriving role slot _ next) present cache ?_,
            .aim isInside (.inl isIdle) (by rw [plays.world, opened])⟩
          exact ⟨.inl isIdle, ⟨isIdle, continued⟩, fun slot => by rw [isIdle]; exact continued slot⟩
  | lockPublished role absent next =>
      obtain ⟨isFree, missed, continued⟩ := ensured
      simp only [Task.step] at step
      split at step
      · rename_i isAbsent
        obtain ⟨rfl, rfl⟩ := Prod.mk.inj (Option.some.inj step)
        have played := plays.setStance (.running absent) present missed
        rw [Task.place, Scene.setPlace_self (by exact isInside)] at played
        exact ⟨_, played, .miss isInside isFree (by rw [plays.world]; exact isAbsent)⟩
      · rename_i slot isPublished
        obtain ⟨rfl, rfl⟩ := Prod.mk.inj (Option.some.inj step)
        refine ⟨_, plays.setPlace (.arriving role slot _ next) present machine.world.cache ?_,
          .aim isInside isFree ?_⟩
        · exact ⟨isFree, ⟨isFree, missed, continued⟩, continued⟩
        · rw [plays.world, Cache.openSlot, isPublished]

theorem move_waiting (plays : machine.Plays terms posts scene) {task : TaskId} {current moved : Task Answer}
    (present : machine.tasks[task]? = some current) {world : World Store}
    (isWaiting : current.place ≠ .inside) (step : current.step task machine.world = some (moved, world)) :
    ∃ next, Plays ⟨world, machine.tasks.set task moved⟩ terms posts next ∧
      scene.Move task none next := by
  have ensured := plays.tasks task _ present
  have standing : scene.place task = current.place := by
    rw [plays.place, Machine.place, present]
  cases current with
  | running program => exact absurd rfl isWaiting
  | arriving role slot again next =>
      obtain ⟨rfl, rfl⟩ := Prod.mk.inj (Option.some.inj step)
      have played := plays.setPlace (.queued role slot again next) present
        (machine.world.cache.join slot task) ensured
      rw [← plays.world] at played ⊢
      exact ⟨_, played, .join standing⟩
  | queued role slot again next =>
      obtain ⟨isFree, restarted, continued⟩ := ensured
      simp only [Task.step] at step
      split at step
      · rename_i isFirst
        rw [← plays.world] at isFirst
        split at step
        · rename_i isPublished
          obtain ⟨rfl, rfl⟩ := Prod.mk.inj (Option.some.inj step)
          have played := plays.setStance (.running (next slot)) present (continued slot)
          rw [← plays.world] at isPublished
          exact ⟨_, played, .enter standing isFirst isPublished⟩
        · rename_i isWithdrawn
          obtain ⟨rfl, rfl⟩ := Prod.mk.inj (Option.some.inj step)
          have played := plays.setPlace (.running again) present
            (machine.world.cache.leave slot task) restarted
          rw [← plays.world] at isWithdrawn played ⊢
          exact ⟨_, played, .retry standing isFirst isWithdrawn⟩
      · simp at step
  | finished answer => exact absurd rfl isWaiting
  | dropped => exact absurd rfl isWaiting

/-- Every move of a machine whose tasks behave is a move of its scene, as long as the reply to an action
is one to be reckoned with. -/
theorem move (plays : machine.Plays terms posts scene) {task : TaskId} {after : Machine Store Answer}
    (expected : ∀ deed, machine.deed? task = some deed →
      (terms task).expects (scene.stance task) (scene.writes task) deed.action deed.reply)
    (moved : machine.step? task = some after) :
    ∃ next, after.Plays terms posts next ∧ scene.Move task (machine.deed? task) next := by
  unfold step? at moved
  obtain ⟨current, present, rest⟩ := Option.bind_eq_some_iff.mp moved
  obtain ⟨⟨task', world⟩, step, isAfter⟩ := Option.bind_eq_some_iff.mp rest
  obtain rfl := Option.some.inj isAfter
  cases current with
  | running program => exact plays.move_running present expected step
  | arriving role slot again next =>
      have silent : machine.deed? task = none := by simp [deed?, present]
      rw [silent]
      exact plays.move_waiting present (by simp [Task.place]) step
  | queued role slot again next =>
      have silent : machine.deed? task = none := by simp [deed?, present]
      rw [silent]
      exact plays.move_waiting present (by simp [Task.place]) step
  | finished answer => simp [Task.step] at step
  | dropped => simp [Task.step] at step

omit [Repository Store] in
/-- More tasks may begin, on terms of their own. -/
theorem extend (plays : machine.Plays terms posts scene) {programs : List (Program Answer)}
    {lateTerms : TaskId → Terms} {latePosts : TaskId → Answer → List Write → Prop}
    (ensured : ∀ (task : TaskId) (program : Program Answer), programs[task]? = some program →
      program.Ensures (lateTerms task)
        (fun answer stance writes => stance = .idle ∧ latePosts task answer writes) .idle []) :
    (machine.spawnAll programs).Plays (beyond machine.tasks.length terms lateTerms)
      (beyond machine.tasks.length posts latePosts) scene := by
  unfold spawnAll
  refine ⟨plays.world, ?_, ?_, ?_⟩
  · rw [plays.place]
    funext task
    unfold Machine.place
    rcases Nat.lt_or_ge task machine.tasks.length with isOld | isNew
    · rw [List.getElem?_append_left isOld]
    · rw [List.getElem?_append_right isNew, List.getElem?_map, List.getElem?_eq_none isNew]
      cases programs[task - machine.tasks.length]? <;> rfl
  · intro task current located
    rcases Nat.lt_or_ge task machine.tasks.length with isOld | isNew
    · rw [List.getElem?_append_left isOld] at located
      simp only [beyond, if_pos isOld]
      exact plays.tasks task current located
    · rw [List.getElem?_append_right isNew, List.getElem?_map, Option.map_eq_some_iff] at located
      obtain ⟨program, present, isRunning⟩ := located
      obtain ⟨isIdle, isUnwritten⟩ := plays.others task (List.getElem?_eq_none isNew)
      simp only [beyond, if_neg (Nat.not_lt.mpr isNew)]
      rw [← isRunning, isIdle, isUnwritten]
      exact ensured (task - machine.tasks.length) program present
  · intro task located
    have isBeyond := List.getElem?_eq_none_iff.mp located
    rw [List.length_append] at isBeyond
    exact plays.others task (List.getElem?_eq_none (Nat.le_of_add_right_le isBeyond))

theorem permitted (plays : machine.Plays terms posts scene) {task : TaskId} {deed : Deed}
    (isNext : machine.deed? task = some deed) (isWrite : deed.action.isWrite = true) :
    (terms task).permits (scene.stance task) (scene.writes task) deed.action := by
  unfold deed? at isNext
  split at isNext
  · rename_i present
    obtain rfl := Option.some.inj isNext
    exact (plays.tasks task _ present).1 isWrite
  · simp at isNext

omit [Repository Store] in
theorem idle_of_isOver (plays : machine.Plays terms posts scene) {task : TaskId} {current : Task Answer}
    (present : machine.tasks[task]? = some current) (isOver : current.isOver = true) :
    scene.stance task = .idle := by
  have ensured := plays.tasks task current present
  unfold Task.isOver at isOver
  split at isOver
  · exact ensured.1
  · exact ensured.1
  · exact ensured
  · simp at isOver

theorem performed (plays : machine.Plays terms posts scene) {task : TaskId} {deed : Deed}
    (isNext : machine.deed? task = some deed) :
    deed.task = task ∧ (scene.world.perform task deed.action).1 = deed.reply := by
  unfold deed? at isNext
  split at isNext
  · obtain rfl := Option.some.inj isNext
    exact ⟨rfl, by rw [plays.world]⟩
  · simp at isNext

end Plays

theorem Run.created_le [Repository Store] {start machine : Machine Store Answer} {log : List Deed}
    (run : start.Run log machine) : start.world.created ≤ machine.world.created := by
  induction run with
  | start => exact Nat.le_refl _
  | move _ moved inductionHypothesis => exact Nat.le_trans inductionHypothesis (created_le_step moved)
  | disturb _ _ _ _ inductionHypothesis => exact inductionHypothesis

/-- Whatever every move of a scene preserves holds after every run, if the tasks behave, and if it follows
that they only get replies to be reckoned with. The replies are among those that the run is known to
have. -/
theorem Run.plays_within [Repository Store] {terms : TaskId → Terms} {posts : TaskId → Answer → List Write → Prop}
    {start machine : Machine Store Answer} {log known : List Deed} (run : start.Run log machine)
    (isKnown : log ⊆ known) {limit : Nat} (isBelow : machine.world.created ≤ limit)
    (holds : List Deed → Scene Store → Prop) {scene : Scene Store}
    (begins : start.Plays terms posts scene) (isHeld : holds [] scene)
    (expects : ∀ log scene task action, log ⊆ known → holds log scene →
      ⟨task, action, (scene.world.perform task action).1⟩ ∈ known →
      (terms task).expects (scene.stance task) (scene.writes task) action
        (scene.world.perform task action).1)
    (keeps : ∀ log scene me deed next, holds log scene → scene.Move me deed next →
      (∀ taken, deed = some taken → taken.action.isWrite = true →
        (terms me).permits (scene.stance me) (scene.writes me) taken.action) →
      next.world.created ≤ limit → holds (log ++ deed.toList) next) :
    ∃ last, machine.Plays terms posts last ∧ holds log last := by
  induction run with
  | start => exact ⟨scene, begins, isHeld⟩
  | @move log before after task _ moved inductionHypothesis =>
      have grows := Machine.created_le_step moved
      obtain ⟨isEarlier, isNow⟩ := List.append_subset.mp isKnown
      obtain ⟨reached, plays, isHeld⟩ := inductionHypothesis isEarlier (Nat.le_trans grows isBelow)
      have expected : ∀ deed, before.deed? task = some deed →
          (terms task).expects (reached.stance task) (reached.writes task) deed.action deed.reply := by
        intro deed isNext
        obtain ⟨isMine, isReply⟩ := plays.performed isNext
        have isMember : deed ∈ known := isNow (by simp [isNext])
        rw [← isReply]
        apply expects log reached task deed.action isEarlier isHeld
        rw [isReply, ← isMine]
        exact isMember
      obtain ⟨next, stillPlays, sceneMoved⟩ := plays.move expected moved
      refine ⟨next, stillPlays, keeps log reached task _ next isHeld sceneMoved ?_ ?_⟩
      · intro taken isTaken isWrite
        exact plays.permitted isTaken isWrite
      · rw [stillPlays.world]
        exact isBelow
  | disturb fault saveDelay ackDelay _ inductionHypothesis =>
      obtain ⟨reached, plays, isHeld⟩ := inductionHypothesis isKnown isBelow
      have isLow : reached.world.created ≤ limit := by
        rw [plays.world]
        exact isBelow
      have kept := keeps _ reached 0 none _ isHeld (.disturb fault saveDelay ackDelay) (by simp) isLow
      exact ⟨_, plays.disturb fault saveDelay ackDelay, by simpa using kept⟩

theorem Run.plays [Repository Store] {terms : TaskId → Terms} {posts : TaskId → Answer → List Write → Prop}
    {start machine : Machine Store Answer} {log known : List Deed} (run : start.Run log machine)
    (isKnown : log ⊆ known) {limit : Nat} (isBelow : machine.world.created ≤ limit)
    (holds : List Deed → Scene Store → Prop) {scene : Scene Store}
    (begins : start.Plays terms posts scene) (isHeld : holds [] scene)
    (expects : ∀ log scene task action, holds log scene →
      ⟨task, action, (scene.world.perform task action).1⟩ ∈ known →
      (terms task).expects (scene.stance task) (scene.writes task) action
        (scene.world.perform task action).1)
    (keeps : ∀ log scene me deed next, holds log scene → scene.Move me deed next →
      (∀ taken, deed = some taken → taken.action.isWrite = true →
        (terms me).permits (scene.stance me) (scene.writes me) taken.action) →
      next.world.created ≤ limit → holds (log ++ deed.toList) next) :
    ∃ last, machine.Plays terms posts last ∧ holds log last :=
  run.plays_within isKnown isBelow holds begins isHeld
    (fun log scene task action _ => expects log scene task action) keeps

end Machine

end Rolebook
