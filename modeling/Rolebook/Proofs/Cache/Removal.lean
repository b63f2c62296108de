import Rolebook.Proofs.Cache.Coherence

/-!
Removal. Once a role was deleted and whoever deleted it is over, nobody sees the role again: readers see
nothing of it, whoever holds the gate of its slot has read nothing, and no look-up finds it. A task that
read the role before it was deleted has given up the gate by then, since the deleting task waits for it.
-/

namespace Rolebook

variable {Store : Type} [Repository Store] [LawfulRepository Store]

/-- The role is not stored, and its identifier is not among those that are still to come. -/
def World.Lacks (world : World Store) (limit : Nat) (role : RoleId) : Prop :=
  ¬ LawfulRepository.stores world.store role ∧
    ∀ number, world.created < number → number ≤ limit → world.identify number ≠ role

namespace Scene

/-- Nobody can see the role. -/
structure Gone (limit : Nat) (role : RoleId) (scene : Scene Store) : Prop where
  lacks : scene.world.Lacks limit role
  hidden : ∀ slot, scene.world.cache.published role = some slot →
    (scene.world.cache.slot slot).snapshot = none
  forgotten : ∀ task slot stored, scene.stance task ≠ .holding role slot (.seen stored) ∧
    scene.stance task ≠ .holding role slot (.saved stored)

end Scene

namespace World.Lacks

variable {world after : World Store} {limit : Nat} {role : RoleId}

theorem congr (lacks : world.Lacks limit role) (sameStore : LawfulRepository.stores after.store role →
    LawfulRepository.stores world.store role) (sameIdentify : after.identify = world.identify)
    (sameCount : after.created = world.created) : after.Lacks limit role := by
  refine ⟨fun isStored => lacks.1 (sameStore isStored), ?_⟩
  rw [sameIdentify, sameCount]
  exact lacks.2

theorem perform (lacks : world.Lacks limit role) {me : TaskId} {action : Action} {reply : action.Reply}
    (performed : world.perform me action = (reply, after)) (isBelow : after.created ≤ limit) :
    after.Lacks limit role := by
  by_cases isQuiet : action.isQuiet = true
  · obtain ⟨store, _, identify, count⟩ := world.perform_quiet me isQuiet
    rw [performed] at store identify count
    exact lacks.congr (by rw [store]; exact id) identify count
  · cases action with
    | create new =>
        cases reply with
        | ok created =>
            obtain ⟨stored, _, identify, count⟩ := perform_create_ok performed
            rw [count] at isBelow
            have isAfter : after.store =
                (Repository.create world.store (world.identify (world.created + 1)) new).2 := by
              rw [stored]
            have different := lacks.2 (world.created + 1) (Nat.lt_succ_self _) isBelow
            refine ⟨fun isStored => lacks.1 ?_, ?_⟩
            · rw [isAfter] at isStored
              exact (LawfulRepository.stores_create new different.symm).mp isStored
            · intro number isNew isLow
              rw [identify]
              exact lacks.2 number (by omega) isLow
        | error error =>
            obtain ⟨store, _, identify, count⟩ := perform_create_error performed
            exact lacks.congr (by rw [store]; exact id) identify count
    | write other rules =>
        cases reply with
        | ok done =>
            rw [perform_write] at performed
            have isAfter : after.store = (Repository.save world.store other rules).2 := by
              rw [change_ok performed]
            obtain ⟨_, identify, count⟩ := change_frame performed
            exact lacks.congr (by rw [isAfter]; exact (LawfulRepository.stores_save rules).mp)
              identify count
        | error error =>
            have store := perform_write_error performed
            rw [perform_write] at performed
            obtain ⟨_, identify, count⟩ := change_frame performed
            exact lacks.congr (by rw [store]; exact id) identify count
    | delete other =>
        cases reply with
        | ok done =>
            rw [perform_delete] at performed
            have deleted := change_ok performed
            obtain ⟨_, identify, count⟩ := change_frame performed
            refine lacks.congr ?_ identify count
            intro isStored
            have different : role ≠ other := by
              rintro rfl
              exact LawfulRepository.not_stores_of_delete deleted isStored
            have isAfter : after.store = (Repository.delete world.store other).2 := by rw [deleted]
            rw [isAfter] at isStored
            exact (LawfulRepository.stores_delete_of_ne different).mp isStored
        | error error =>
            have store := perform_delete_error performed
            rw [perform_delete] at performed
            obtain ⟨_, identify, count⟩ := change_frame performed
            exact lacks.congr (by rw [store]; exact id) identify count
    | publish _ _ | clear _ | withdraw _ _ | release _ =>
        obtain ⟨_, rfl⟩ := Prod.mk.inj performed
        exact lacks.congr id rfl rfl
    | _ => simp [Action.isQuiet] at isQuiet

end World.Lacks

namespace Scene

variable {scene next : Scene Store} {me : TaskId} {role : RoleId} {limit : Nat} {deed : Option Deed}

/-- Whatever a task knows after an action that leaves the role lacking, if it knows something of the role,
then it knew as much before, or it found the role. -/
theorem Gone.forgets (gone : scene.Gone limit role) {action : Action} {reply : action.Reply}
    {world : World Store} {stance : Stance} {written : List Write}
    (performed : scene.world.perform me action = (reply, world))
    (step : (scene.stance me).Step action reply stance written) (slot : SlotId) (stored : Role) :
    stance ≠ .holding role slot (.seen stored) ∧ stance ≠ .holding role slot (.saved stored) := by
  have before := gone.forgotten me
  generalize scene.stance me = stanceBefore at step before
  cases step with
  | quiet | create | createFailed | saveFailed => exact before slot stored
  | see =>
      refine ⟨?_, by simp⟩
      rintro equal
      obtain ⟨rfl, _, _⟩ := Stance.holding.inj equal
      exact gone.lacks.1 (LawfulRepository.stores_of_find (World.perform_find_ok performed))
  | @publish other found knowledge shown known =>
      refine ⟨?_, by simp⟩
      rintro equal
      obtain ⟨rfl, rfl, _⟩ := Stance.holding.inj equal
      rcases known with rfl | rfl
      · exact (before found shown).1 rfl
      · exact (before found shown).2 rfl
  | @save other found read rules =>
      refine ⟨by simp, ?_⟩
      rintro equal
      obtain ⟨rfl, rfl, _⟩ := Stance.holding.inj equal
      exact (before found read).1 rfl
  | _ => simp

/-- No action that is open to a task brings a role back into the cache. -/
theorem Gone.hides (gone : scene.Gone limit role) (gated : scene.Gated) {action : Action}
    {reply : action.Reply} {world : World Store} {stance : Stance} {written : List Write}
    (performed : scene.world.perform me action = (reply, world))
    (step : (scene.stance me).Step action reply stance written) {slot : SlotId}
    (isPublished : world.cache.published role = some slot) : (world.cache.slot slot).snapshot = none := by
  by_cases isQuiet : action.isQuiet = true
  · have cache := (scene.world.perform_quiet me isQuiet).2.1
    rw [performed] at cache
    rw [cache] at isPublished ⊢
    exact gone.hidden slot isPublished
  · generalize isStance : scene.stance me = before at step
    cases step with
    | quiet isQuiet' => exact absurd isQuiet' isQuiet
    | see => simp [Action.isQuiet] at isQuiet
    | @publish other found knowledge shown known =>
        obtain ⟨_, rfl⟩ := Prod.mk.inj performed
        change scene.world.cache.published role = some slot at isPublished
        change ((scene.world.cache.setSnapshot found (some shown)).slot slot).snapshot = none
        rw [Cache.snapshot_setSnapshot, if_neg, gone.hidden slot isPublished]
        rintro rfl
        have isKept : knowledge.isWithdrawn = false := by rcases known with rfl | rfl <;> rfl
        have sameRole := gated.own _ _ _ (gated.published_of_holding isStance isKept) isPublished
        subst sameRole
        rcases known with rfl | rfl
        · exact (gone.forgotten me slot shown).1 isStance
        · exact (gone.forgotten me slot shown).2 isStance
    | clear =>
        obtain ⟨_, rfl⟩ := Prod.mk.inj performed
        change scene.world.cache.published role = some slot at isPublished
        simp only [Cache.snapshot_setSnapshot]
        split
        · rfl
        · exact gone.hidden slot isPublished
    | @withdraw other found =>
        obtain ⟨_, rfl⟩ := Prod.mk.inj performed
        change ((scene.world.cache.withdraw other found).slot slot).snapshot = none
        rw [Cache.slot_withdraw]
        exact gone.hidden slot (Cache.published_of_withdraw isPublished)
    | @release other found knowledge isSettled =>
        obtain ⟨_, rfl⟩ := Prod.mk.inj performed
        change ((scene.world.cache.leave found me).slot slot).snapshot = none
        rw [Cache.snapshot_leave]
        exact gone.hidden slot isPublished
    | save | saveFailed | create | createFailed | delete | deleteFailed =>
        have cache := World.perform_write_cache rfl performed
        rw [cache] at isPublished ⊢
        exact gone.hidden slot isPublished

theorem Gone.move (gone : scene.Gone limit role) (gated : scene.Gated)
    (moved : scene.Move me deed next) (isBelow : next.world.created ≤ limit) : next.Gone limit role := by
  cases moved with
  | rest => exact gone
  | disturb => exact ⟨gone.lacks.congr id rfl rfl, gone.hidden, gone.forgotten⟩
  | @act _ action reply world stance written isInside performed step =>
      refine ⟨gone.lacks.perform performed isBelow, fun slot => gone.hides gated performed step, ?_⟩
      intro task slot stored
      by_cases same : task = me
      · subst same
        rw [acted_stance_self]
        exact gone.forgets performed step slot stored
      · rw [acted_stance_of_ne _ same]
        exact gone.forgotten task slot stored
  | @aim _ other slot cache isInside isFree opened =>
      refine ⟨gone.lacks.congr id rfl rfl, ?_, gone.forgotten⟩
      intro found isPublished
      rcases Cache.openSlot_cases opened with ⟨_, rfl⟩ | ⟨_, rfl, _, published, slots⟩
      · exact gone.hidden found isPublished
      · change (cache.slot found).snapshot = none
        change cache.published role = some found at isPublished
        rw [slots]
        split
        · rfl
        · rename_i isOld
          rw [published] at isPublished
          split at isPublished
          · exact absurd (Option.some.inj isPublished).symm isOld
          · exact gone.hidden found isPublished
  | miss =>
      refine ⟨gone.lacks, gone.hidden, ?_⟩
      intro task slot stored
      by_cases same : task = me
      · subst same
        simp
      · rw [setStance_stance_of_ne _ same]
        exact gone.forgotten task slot stored
  | @join _ other slot isAiming =>
      refine ⟨gone.lacks.congr id rfl rfl, ?_, gone.forgotten⟩
      intro found isPublished
      exact (Cache.snapshot_join _ slot found me).trans (gone.hidden found isPublished)
  | @enter _ other slot isQueued isFirst isPublished =>
      refine ⟨gone.lacks, gone.hidden, ?_⟩
      intro task found stored
      by_cases same : task = me
      · subst same
        change (scene.setStance task _).stance task ≠ _ ∧ (scene.setStance task _).stance task ≠ _
        rw [setStance_stance_self]
        cases scene.stance task <;> simp [Stance.enter]
      · change (scene.setStance me _).stance task ≠ _ ∧ (scene.setStance me _).stance task ≠ _
        rw [setStance_stance_of_ne _ same]
        exact gone.forgotten task found stored
  | @retry _ other slot isQueued isFirst isWithdrawn =>
      refine ⟨gone.lacks.congr id rfl rfl, ?_, gone.forgotten⟩
      intro found isPublished
      exact (Cache.snapshot_leave _ slot found me).trans (gone.hidden found isPublished)

/-- A role that is lacking is gone as soon as its slot shows nothing and nobody holds its gate knowing
something of the role. -/
theorem Gone.of_clear (lacks : scene.world.Lacks limit role) (gated : scene.Gated) {slot : SlotId}
    (isHolder : scene.stance me = .holding role slot .stale) :
    (scene.acted me (scene.world.setCache (scene.world.cache.setSnapshot slot none))
      (.holding role slot .vacant) []).Gone limit role where
  lacks := lacks.congr id rfl rfl
  hidden found isPublished := by
    change scene.world.cache.published role = some found at isPublished
    rw [gated.published_of_holding isHolder rfl] at isPublished
    obtain rfl := Option.some.inj isPublished
    change ((scene.world.cache.setSnapshot slot none).slot slot).snapshot = none
    simp
  forgotten task found stored := by
    by_cases same : task = me
    · subst same
      simp
    · rw [acted_stance_of_ne _ same]
      exact ⟨fun isSeen => same (gated.holder_eq isSeen rfl isHolder rfl),
        fun isSaved => same (gated.holder_eq isSaved rfl isHolder rfl)⟩

theorem Gone.of_miss (lacks : scene.world.Lacks limit role) (gated : scene.Gated)
    (isAbsent : scene.world.cache.published role = none) :
    (scene.setStance me .idle).Gone limit role where
  lacks := lacks
  hidden found isPublished := by
    change scene.world.cache.published role = some found at isPublished
    simp [isAbsent] at isPublished
  forgotten task found stored := by
    by_cases same : task = me
    · subst same
      simp
    · rw [setStance_stance_of_ne _ same]
      constructor
      · intro isSeen
        simp [gated.published_of_holding isSeen rfl] at isAbsent
      · intro isSaved
        simp [gated.published_of_holding isSaved rfl] at isAbsent

/-- A role that a task has deleted is lacking, and is gone unless the task is still to remove its entry. -/
def Removing (limit : Nat) (scene : Scene Store) : Prop :=
  ∀ task role, .deleted role ∈ scene.writes task →
    scene.world.Lacks limit role ∧ (scene.stance task).Dooms role ∨ scene.Gone limit role

theorem Gone.of_act (lacks : scene.world.Lacks limit role) (gated : scene.Gated) {action : Action}
    {reply : action.Reply} {world : World Store} {stance : Stance} {written : List Write}
    (performed : scene.world.perform me action = (reply, world))
    (step : (scene.stance me).Step action reply stance written) (dooms : (scene.stance me).Dooms role) :
    stance.Dooms role ∨ (scene.acted me world stance written).Gone limit role := by
  generalize isStance : scene.stance me = before at step dooms
  rcases dooms with rfl | ⟨slot, rfl⟩
  · cases step with
    | quiet | create | createFailed => exact .inl (.inl rfl)
  · cases step with
    | quiet | create | createFailed => exact .inl (.inr ⟨slot, rfl⟩)
    | clear =>
        obtain ⟨_, rfl⟩ := Prod.mk.inj performed
        exact .inr (Gone.of_clear lacks gated isStance)
    | publish known => simp at known
    | release isSettled => simp [Knowledge.isSettled] at isSettled

theorem lacks_move (lacks : scene.world.Lacks limit role)
    (moved : scene.Move me deed next) (isBelow : next.world.created ≤ limit) :
    next.world.Lacks limit role := by
  cases moved with
  | act isInside performed step => exact lacks.perform performed isBelow
  | rest | disturb | aim | miss | join | enter | retry => exact lacks.congr id rfl rfl

theorem Move.removes (moved : scene.Move me deed next) (gated : scene.Gated)
    (lacks : scene.world.Lacks limit role) {task : TaskId} (dooms : (scene.stance task).Dooms role) :
    (next.stance task).Dooms role ∨ next.Gone limit role := by
  by_cases same : task = me
  · subst same
    cases moved with
    | rest | disturb | aim | join | retry => exact .inl dooms
    | act isInside performed step =>
        rw [acted_stance_self]
        exact Gone.of_act lacks gated performed step dooms
    | miss isInside isFree isAbsent =>
        rcases isFree with isIdle | isOwing
        · simp [isIdle, Stance.Dooms] at dooms
        · simp only [isOwing, Stance.Dooms, Stance.owing.injEq, reduceCtorEq, exists_false, or_false]
            at dooms
          subst dooms
          exact .inr (Gone.of_miss lacks gated isAbsent)
    | enter isQueued isFirst isPublished =>
        apply Or.inl
        change ((scene.setStance task _).stance task).Dooms role
        rw [setStance_stance_self]
        exact (gated.enter_dooms isQueued).mpr dooms
  · rw [(moved.others same).1]
    exact .inl dooms

theorem Move.deletes (moved : scene.Move me deed next) (fresh : scene.world.Fresh limit) {task : TaskId}
    (isDeleted : .deleted role ∈ next.writes task) : .deleted role ∈ scene.writes task ∨
      next.world.Lacks limit role ∧ (next.stance task).Dooms role := by
  by_cases same : task = me
  · subst same
    cases moved with
    | rest | disturb | aim | miss | join | enter | retry => exact .inl isDeleted
    | @act _ action reply world stance written isInside performed step =>
        simp only [acted, Function.update_self, List.mem_append] at isDeleted
        apply isDeleted.imp_right
        intro isNow
        rw [acted_stance_self]
        generalize scene.stance task = before at step
        cases step with
        | delete =>
            obtain rfl := Write.deleted.inj (List.mem_singleton.mp isNow)
            rw [World.perform_delete] at performed
            have deleted := World.change_ok performed
            obtain ⟨_, identify, count⟩ := World.change_frame performed
            refine ⟨⟨LawfulRepository.not_stores_of_delete deleted, ?_⟩, .inl rfl⟩
            intro number isNew isLow isSame
            change world.created < number at isNew
            change world.identify number = role at isSame
            rw [count] at isNew
            rw [identify] at isSame
            exact fresh.unused number isNew isLow (isSame ▸ LawfulRepository.stores_of_delete deleted)
        | _ => simp at isNow
  · rw [(moved.others same).2] at isDeleted
    exact .inl isDeleted

theorem Removing.move (removing : scene.Removing limit) (gated : scene.Gated)
    (fresh : scene.world.Fresh limit) (moved : scene.Move me deed next)
    (isBelow : next.world.created ≤ limit) : next.Removing limit := by
  intro task role isDeleted
  rcases moved.deletes fresh isDeleted with wasDeleted | isNow
  · rcases removing task role wasDeleted with ⟨lacks, dooms⟩ | gone
    · exact (moved.removes gated lacks dooms).imp_left fun stillDooms =>
        ⟨lacks_move lacks moved isBelow, stillDooms⟩
    · exact .inr (gone.move gated moved isBelow)
  · exact .inl isNow

end Scene

end Rolebook
