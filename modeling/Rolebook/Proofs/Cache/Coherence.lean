import Rolebook.Proofs.Cache.Truth
import Rolebook.Proofs.Service.Call

/-!
Coherence. While calls of the services are carried out in any order of moves, a role that readers see in
the cache is the stored one, unless somebody holds the gate of its slot, or has deleted the role and is
still to remove its entry.
-/

namespace Rolebook

variable {Store : Type} [Repository Store] [LawfulRepository Store]

/-- A world at rest in which readers see nothing but what is stored. -/
structure World.Settled (world : World Store) : Prop where
  atRest : world.cache.AtRest
  isTrue : ∀ role snapshot, world.cache.get role = some snapshot →
    Repository.find world.store role = .ok (some snapshot)

omit [LawfulRepository Store] in
theorem World.settled_start (store : Store) (identify : Nat → RoleId) :
    (World.start store identify).Settled :=
  ⟨Cache.atRest_empty, by simp [World.start, Cache.get, Cache.empty]⟩

namespace Scene

variable {scene next : Scene Store} {limit : Nat}

/-- Whoever dooms a role has deleted it. -/
def Accounted (log : List Deed) (scene : Scene Store) : Prop :=
  ∀ task role, (scene.stance task).Dooms role → ⟨task, .delete role, .ok ()⟩ ∈ log

omit [LawfulRepository Store] in
/-- A task comes to doom a role by deleting it only. -/
theorem Move.dooms {me task : TaskId} {deed : Option Deed} {role : RoleId} (gated : scene.Gated)
    (moved : scene.Move me deed next) (dooms : (next.stance task).Dooms role) :
    (scene.stance task).Dooms role ∨ deed = some ⟨task, .delete role, .ok ()⟩ := by
  by_cases same : task = me
  · subst same
    cases moved with
    | rest | disturb | aim | join | retry => exact .inl dooms
    | @act _ action reply world stance written isInside performed step =>
        rw [acted_stance_self] at dooms
        generalize scene.stance task = before at step
        cases step with
        | quiet | create | createFailed => exact .inl dooms
        | delete =>
            rcases dooms with isOwing | ⟨_, isHolding⟩
            · obtain rfl := Stance.owing.inj isOwing
              exact .inr rfl
            · simp at isHolding
        | _ => simp [Stance.Dooms] at dooms
    | miss => simp [Stance.Dooms] at dooms
    | @enter _ found slot isQueued isFirst isPublished =>
        change ((scene.setStance task _).stance task).Dooms role at dooms
        rw [setStance_stance_self] at dooms
        exact .inl ((gated.enter_dooms isQueued).mp dooms)
  · rw [(moved.others same).1] at dooms
    exact .inl dooms

omit [LawfulRepository Store] in
theorem Accounted.move {log : List Deed} {me : TaskId} {deed : Option Deed}
    (accounted : scene.Accounted log) (gated : scene.Gated) (moved : scene.Move me deed next) :
    next.Accounted (log ++ deed.toList) := by
  intro task role dooms
  rcases moved.dooms gated dooms with doomed | rfl
  · exact List.mem_append_left _ (accounted task role doomed)
  · simp

/-- What the tasks' calls preserve: the gates are in order, the cache is true, and whoever dooms a role
has deleted it. -/
structure Sound (limit : Nat) (log : List Deed) (scene : Scene Store) : Prop where
  gated : scene.Gated
  truthful : scene.Truthful limit
  accounted : scene.Accounted log

theorem Sound.start {world : World Store} (settled : world.Settled) (fresh : world.Fresh limit) :
    (Scene.start world).Sound limit [] where
  gated := .start settled.atRest
  truthful := .start settled.isTrue fresh
  accounted _ _ dooms := by simp [Scene.start, Stance.Dooms] at dooms

theorem Sound.move {log : List Deed} {me : TaskId} {deed : Option Deed} (sound : scene.Sound limit log)
    (moved : scene.Move me deed next) (isBelow : next.world.created ≤ limit) :
    next.Sound limit (log ++ deed.toList) where
  gated := sound.gated.move moved
  truthful := sound.truthful.move sound.gated moved isBelow
  accounted := sound.accounted.move sound.gated moved

/-- What readers see of a role is stored, if nobody dooms the role and nobody has saved rules that are not
published yet. -/
theorem Truthful.get (truthful : scene.Truthful limit) {role : RoleId} (isSafe : ¬ scene.Doomed role)
    (isFree : ∀ slot, scene.world.cache.published role = some slot → ¬ scene.Saving role slot) :
    scene.world.cache.get role = none ∨
      Repository.find scene.world.store role = .ok (scene.world.cache.get role) := by
  cases isPublished : scene.world.cache.published role with
  | none => exact .inl (by simp [Cache.get, isPublished])
  | some slot =>
      have reads : scene.world.cache.get role = (scene.world.cache.slot slot).snapshot := by
        simp [Cache.get, isPublished]
      rw [reads]
      cases isShown : (scene.world.cache.slot slot).snapshot with
      | none => exact .inl rfl
      | some snapshot =>
          rcases truthful.shown role slot snapshot isPublished isShown with
            (isStored | isDoomed) | isSaving
          · exact .inr isStored
          · exact absurd isDoomed isSafe
          · exact absurd isSaving (isFree slot isPublished)

theorem Truthful.find_of_get (truthful : scene.Truthful limit)
    (areSettled : ∀ task, (scene.stance task).isSettled = true) {role : RoleId} {snapshot : Role}
    (isShown : scene.world.cache.get role = some snapshot) :
    Repository.find scene.world.store role = .ok (some snapshot) := by
  have isSafe : ¬ scene.Doomed role := by
    rintro ⟨task, isOwing | ⟨slot, isHolding⟩⟩
    · simpa [isOwing, Stance.isSettled] using areSettled task
    · simpa [isHolding, Stance.isSettled, Knowledge.isSettled] using areSettled task
  have isFree : ∀ slot, scene.world.cache.published role = some slot → ¬ scene.Saving role slot := by
    rintro slot _ ⟨task, stored, isSaving⟩
    simpa [isSaving, Stance.isSettled, Knowledge.isSettled] using areSettled task
  rcases truthful.get isSafe isFree with isHidden | isStored
  · simp [isHidden] at isShown
  · rwa [isShown] at isStored

/-- Once every task is over, the world is at rest and true again. -/
theorem Sound.settled {log : List Deed} (sound : scene.Sound limit log)
    (areIdle : ∀ task, scene.stance task = .idle) (areInside : ∀ task, scene.place task = .inside) :
    scene.world.Settled where
  atRest := sound.gated.atRest (fun task => by rw [areIdle task]; rfl) areInside
  isTrue _ _ := sound.truthful.find_of_get fun task => by rw [areIdle task]; rfl

end Scene

namespace Machine

variable {settings : Settings} {calls : List Call} {log : List Deed} {machine : Machine Store Outcome}

/-- Whatever the replies, calls keep the gates in order and the cache true. -/
theorem Run.sound {world : World Store}
    (run : (load world (calls.map (Call.program settings))).Run log machine) (settled : world.Settled)
    (fresh : world.Fresh machine.world.created) :
    ∃ scene : Scene Store, scene.Sound machine.world.created log ∧
      machine.Plays (Terms.ofCalls Terms.free.expects calls)
        (Call.Fits settings calls (Terms.ofCalls Terms.free.expects calls)) scene := by
  have begins : (load world (calls.map (Call.program settings))).Plays
      (Terms.ofCalls Terms.free.expects calls)
      (Call.Fits settings calls (Terms.ofCalls Terms.free.expects calls)) (Scene.start world) :=
    .load Call.fits
  obtain ⟨scene, plays, sound⟩ := run.plays (List.Subset.refl _) (Nat.le_refl _)
    (fun log scene => scene.Sound machine.world.created log) begins (.start settled fresh)
    (fun _ _ _ _ _ _ => trivial) (fun _ _ _ _ _ sound moved _ isBelow => sound.move moved isBelow)
  exact ⟨scene, sound, plays⟩

/-- The stored role is what readers see, or they see none, once nobody holds the gate of the role's slot,
and everybody who deleted the role is over. -/
theorem get_eq_none_or_find_eq {store : Store} {identify : Nat → RoleId}
    (run : (load (World.start store identify) (calls.map (Call.program settings))).Run log machine)
    (fresh : (World.start store identify).Fresh machine.world.created) {role : RoleId}
    (isFree : ∀ slot task program, machine.world.cache.published role = some slot →
      machine.tasks[task]? = some (.running program) → machine.world.cache.holds slot task = false)
    (isSettled : ∀ task current, ⟨task, .delete role, .ok ()⟩ ∈ log →
      machine.tasks[task]? = some current → current.isOver = true) :
    machine.world.cache.get role = none ∨
      Repository.find machine.world.store role = .ok (machine.world.cache.get role) := by
  obtain ⟨scene, sound, plays⟩ := run.sound (World.settled_start store identify) fresh
  have present : ∀ task, scene.stance task ≠ .idle → ∃ current, machine.tasks[task]? = some current := by
    intro task isBusy
    by_contra isAbsent
    simp only [not_exists, ← Option.eq_none_iff_forall_ne_some] at isAbsent
    exact isBusy (plays.others task isAbsent).1
  rw [← plays.world] at isFree ⊢
  apply sound.truthful.get
  · rintro ⟨task, dooms⟩
    have isBusy : scene.stance task ≠ .idle := by
      intro isIdle
      simp [isIdle, Stance.Dooms] at dooms
    obtain ⟨current, located⟩ := present task isBusy
    exact isBusy (plays.idle_of_isOver located
      (isSettled task current (sound.accounted task role dooms) located))
  · rintro slot isPublished ⟨task, stored, isSaving⟩
    have isBusy : scene.stance task ≠ .idle := by simp [isSaving]
    obtain ⟨current, located⟩ := present task isBusy
    have isGrip : (scene.stance task).grip? = some ⟨role, slot, false⟩ := by
      rw [isSaving]
      rfl
    obtain ⟨isInside, _, isFirst⟩ := sound.gated.holder task _ isGrip
    cases current with
    | running program =>
        have isHeld := (Cache.holds_iff scene.world.cache).mpr isFirst
        rw [isFree slot task program isPublished located] at isHeld
        simp at isHeld
    | arriving _ _ _ _ | queued _ _ _ _ =>
        rw [plays.place, Machine.place, located] at isInside
        simp [Task.place] at isInside
    | finished answer => exact isBusy (plays.idle_of_isOver located rfl)
    | dropped => exact isBusy (plays.idle_of_isOver located rfl)

end Machine

section Office

def keeper : Role :=
  ⟨⟨⟨1⟩⟩, "Keeper", none, false, RuleSet.empty.put (.bare .rbacAdmin .full), by decide, by decide⟩

def clerk : Role :=
  ⟨⟨⟨2⟩⟩, "Clerk", none, false, RuleSet.empty.put (.bare .employeeRecords .view), by decide, by decide⟩

def MemoryStore.office : MemoryStore :=
  ⟨[(keeper.id, keeper), (clerk.id, clerk)], []⟩

def Settings.office : Settings :=
  ⟨.enforced, .patch, Settings.defaultWriteTimeout⟩

def keeperSession : Session :=
  ⟨⟨⟨7⟩⟩, "kim", keeper.id⟩

def RoleId.drawn (number : Nat) : RoleId :=
  ⟨.ofRandom (.ofNat 128 number)⟩

def porter : NewRole :=
  ⟨"Porter", none, false, .empty⟩

theorem World.fresh_office : (World.start MemoryStore.office RoleId.drawn).Fresh 1 where
  unused number isNew isLow := by
    obtain rfl : number = 1 := Nat.le_antisymm isLow isNew
    change ¬ (MemoryStore.office.role? (RoleId.drawn 1)).isSome = true
    decide
  distinct first second isNew isLess isLow := by
    change 0 < first at isNew
    omega

/-- One call reads the role of the office, another one changes it, and a third one creates a role. -/
def Machine.office : Machine MemoryStore Outcome :=
  .load (.start .office RoleId.drawn)
    ([.resolve keeper.id, .apply keeper.id .empty, .createRole keeperSession porter].map
      (Call.program .office))

/-- The call that creates a role looks at the role of its session between the other two. -/
def Machine.officeOver : List Deed × Machine MemoryStore Outcome :=
  (Machine.office.follow? (List.replicate 9 0 ++ [2] ++ List.replicate 11 1 ++
    List.replicate 2 2)).get (by decide)

/-- Once the calls are over, readers see the role as it is stored. -/
theorem Machine.get_eq_none_or_find_eq_office : office.Run officeOver.1 officeOver.2 ∧
    (World.start MemoryStore.office RoleId.drawn).Fresh officeOver.2.world.created ∧
    officeOver.2.world.cache.get keeper.id ≠ none ∧
    (officeOver.2.world.cache.get keeper.id = none ∨
      Repository.find officeOver.2.world.store keeper.id =
        .ok (officeOver.2.world.cache.get keeper.id)) := by
  have run : office.Run officeOver.1 officeOver.2 := Run.get _
  have areOver : officeOver.2.isFinished = true := by decide
  have isOne : officeOver.2.world.created = 1 := by decide
  have fresh : (World.start MemoryStore.office RoleId.drawn).Fresh officeOver.2.world.created := by
    rw [isOne]
    exact World.fresh_office
  refine ⟨run, fresh, by decide, ?_⟩
  apply get_eq_none_or_find_eq run fresh
  · intro slot task program _ located
    obtain ⟨answer, isAnswer⟩ := answered areOver located
    simp at isAnswer
  · intro task current _ located
    obtain ⟨answer, rfl⟩ := answered areOver located
    rfl

end Office

end Rolebook
