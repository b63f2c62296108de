import Rolebook.Proofs.Cache.Gate
import Rolebook.Proofs.Cache.Provenance

/-!
What it takes to hide a role. Readers go on to see a role, by one snapshot or another, until the holder of the
gate clears the published slot: to publish shows the role, and whoever takes a slot out of the cache has
cleared it before.
-/

namespace Rolebook

variable {Store : Type} [Repository Store] {role : RoleId} {slot : SlotId} {me task : TaskId}

namespace Stance.Step

variable {before after : Stance} {written : List Write} {reply : Unit}

theorem publisher {snapshot : Role} (step : before.Step (.publish slot snapshot) reply after written) :
    ∃ role knowledge, before = .holding role slot knowledge ∧
      (knowledge = .seen snapshot ∨ knowledge = .saved snapshot) := by
  cases step with
  | quiet isQuiet => cases isQuiet
  | publish known => exact ⟨_, _, rfl, known⟩

theorem clearer (step : before.Step (.clear slot) reply after written) :
    ∃ role knowledge, before = .holding role slot knowledge ∧ knowledge.isWithdrawn = false := by
  cases step with
  | quiet isQuiet => cases isQuiet
  | @clear _ _ knowledge isKept =>
      exact ⟨_, _, rfl, by cases knowledge <;> first | rfl | exact absurd rfl isKept⟩

theorem withdrawer (step : before.Step (.withdraw role slot) reply after written) :
    before = .holding role slot .vacant := by
  cases step with
  | quiet isQuiet => cases isQuiet
  | withdraw => rfl

end Stance.Step

namespace Scene

variable {scene next : Scene Store} {deed : Option Deed}

def Bare (scene : Scene Store) : Prop :=
  ∀ task role slot knowledge, scene.stance task = .holding role slot knowledge →
    knowledge = .vacant ∨ knowledge = .withdrawn → (scene.world.cache.slot slot).snapshot = none

/-- A move leaves a slot the snapshot that it has, if any, or takes it away, or publishes one. -/
theorem Move.snapshot (moved : scene.Move me deed next) (slot : SlotId) :
    (next.world.cache.slot slot).snapshot = (scene.world.cache.slot slot).snapshot ∨
      (next.world.cache.slot slot).snapshot = none ∨
        ∃ snapshot, deed = some ⟨me, .publish slot snapshot, ()⟩ := by
  cases moved with
  | rest | disturb | miss | enter => exact .inl rfl
  | aim isInside isFree opened =>
      rcases Cache.openSlot_cases opened with ⟨_, rfl⟩ | ⟨_, _, _, _, slots⟩
      · exact .inl rfl
      · by_cases isNew : slot = scene.world.cache.made
        · exact .inr (.inl (by simp [setPlace, setCache, World.setCache, slots, isNew]))
        · exact .inl (by simp [setPlace, setCache, World.setCache, slots, isNew])
  | join | retry => exact .inl (by simp [setPlace, setCache, World.setCache])
  | @act _ action reply world stance written isInside performed step =>
      have cache : world.cache = action.onCache me scene.world.cache := by
        rw [← World.perform_cache, performed]
      change (world.cache.slot slot).snapshot = _ ∨ (world.cache.slot slot).snapshot = none ∨ _
      rw [cache]
      cases action with
      | publish other snapshot =>
          by_cases isHere : slot = other
          · exact .inr (.inr ⟨snapshot, by rw [isHere]⟩)
          · exact .inl (by simp [Action.onCache, isHere])
      | clear other =>
          by_cases isHere : slot = other
          · exact .inr (.inl (by simp [Action.onCache, isHere]))
          · exact .inl (by simp [Action.onCache, isHere])
      | _ => exact .inl (by simp [Action.onCache])

/-- Whoever comes to know that a slot has no snapshot has just cleared it. -/
theorem Move.clears (moved : scene.Move me deed next) {knowledge : Knowledge}
    (isHolder : next.stance task = .holding role slot knowledge)
    (isBare : knowledge = .vacant ∨ knowledge = .withdrawn) :
    (∃ former, scene.stance task = .holding role slot former ∧ (former = .vacant ∨ former = .withdrawn)) ∨
      (next.world.cache.slot slot).snapshot = none := by
  by_cases same : task = me
  · subst same
    cases moved with
    | rest | disturb | aim | join | retry => exact .inl ⟨knowledge, isHolder, isBare⟩
    | miss => simp at isHolder
    | enter =>
        change ((scene.setStance task _).stance task) = _ at isHolder
        rw [setStance_stance_self] at isHolder
        generalize scene.stance task = stance at isHolder
        cases stance <;> simp [Stance.enter] at isHolder <;> simp [← isHolder.2.2] at isBare
    | @act _ action reply world stance written isInside performed step =>
        rw [acted_stance_self] at isHolder
        subst isHolder
        generalize scene.stance task = before at step
        cases step with
        | quiet | create | createFailed => exact .inl ⟨knowledge, rfl, isBare⟩
        | see | publish | save | saveFailed => simp at isBare
        | withdraw => exact .inl ⟨.vacant, rfl, .inl rfl⟩
        | clear =>
            obtain ⟨_, rfl⟩ := Prod.mk.inj performed
            exact .inr (by simp [acted])
  · rw [(moved.others same).1] at isHolder
    exact .inl ⟨knowledge, isHolder, isBare⟩

theorem Move.publisher {snapshot : Role}
    (moved : scene.Move me (some ⟨me, .publish slot snapshot, ()⟩) next) :
    ∃ role knowledge, scene.stance me = .holding role slot knowledge ∧
      (knowledge = .seen snapshot ∨ knowledge = .saved snapshot) := by
  cases moved with
  | act isInside performed step => exact step.publisher

theorem Bare.move (bare : scene.Bare) (gated : scene.Gated) (moved : scene.Move me deed next) :
    next.Bare := by
  intro task role slot knowledge isHolder isBare
  rcases moved.clears isHolder isBare with ⟨former, wasHolder, wasBare⟩ | isCleared
  · rcases moved.snapshot slot with isSame | isNone | ⟨snapshot, rfl⟩
    · exact isSame.trans (bare task role slot former wasHolder wasBare)
    · exact isNone
    · -- Only the task itself could publish there, and it does not know of anything to publish.
      obtain ⟨other, known, isPublisher, isKnown⟩ := moved.publisher
      obtain rfl := gated.holder_eq_of_slot wasHolder isPublisher
      rw [wasHolder] at isPublisher
      obtain ⟨_, _, rfl⟩ := Stance.holding.inj isPublisher
      rcases isKnown with rfl | rfl <;> simp at wasBare
  · exact isCleared

end Scene

namespace Machine

variable {Answer : Type} {machine after : Machine Store Answer} {scene : Scene Store}

structure Stages (machine : Machine Store Answer) (scene : Scene Store) : Prop where
  plays : machine.Plays (fun _ => .free) (fun _ _ _ => True) scene
  gated : scene.Gated
  bare : scene.Bare

theorem Run.stages [LawfulRepository Store] {world : World Store} {programs : List (Program Answer)}
    (atRest : world.cache.AtRest) (orderly : ∀ program ∈ programs, program.Orderly) {log : List Deed}
    (run : (load world programs).Run log machine) : ∃ scene, machine.Stages scene := by
  have begins : (load world programs).Plays (fun _ => .free) (fun _ _ _ => True) (Scene.start world) :=
    .load fun task program located =>
      (orderly program (List.mem_of_getElem? located)).mono fun _ _ _ isIdle => ⟨isIdle, trivial⟩
  have isHeld : (Scene.start world).Gated ∧ (Scene.start world).Bare :=
    ⟨.start atRest, by simp [Scene.Bare, Scene.start]⟩
  obtain ⟨scene, plays, gated, bare⟩ := run.plays (List.Subset.refl _) (Nat.le_refl _)
    (fun _ scene => scene.Gated ∧ scene.Bare) begins isHeld (fun _ _ _ _ _ _ => trivial)
    fun _ _ _ _ _ held moved _ _ => ⟨held.1.move moved, held.2.move held.1 moved⟩
  exact ⟨scene, plays, gated, bare⟩

namespace Stages

variable (stages : machine.Stages scene)

include stages

omit [Repository Store] in
theorem step {action : Action} {next : action.Reply → Program Answer}
    (present : machine.tasks[me]? = some (.running (.act action next))) (reply : action.Reply) :
    ∃ stance written, (scene.stance me).Step action reply stance written ∧
      (next reply).Ensures .free (fun _ stance _ => stance = .idle) stance
        (scene.writes me ++ written) := by
  obtain ⟨stance, written, step, continued⟩ := (stages.plays.tasks me _ present).2 reply trivial
  exact ⟨stance, written, step, continued.mono fun _ _ _ ended => ended.1⟩

theorem snapshot (stepped : machine.step? me = some after) (slot : SlotId) :
    (after.world.cache.slot slot).snapshot = (machine.world.cache.slot slot).snapshot ∨
      (after.world.cache.slot slot).snapshot = none ∨
        ∃ snapshot, machine.deed? me = some ⟨me, .publish slot snapshot, ()⟩ := by
  obtain ⟨next, plays, moved⟩ := stages.plays.move (fun _ _ => trivial) stepped
  rw [← plays.world, ← stages.plays.world]
  exact moved.snapshot slot

/-- A role that was seen and is no more was seen in a slot that somebody cleared. -/
theorem hides (stepped : machine.step? me = some after) (isShown : machine.world.cache.get role ≠ none)
    (isHidden : after.world.cache.get role = none) :
    ∃ slot, machine.world.cache.published role = some slot ∧
      machine.deed? me = some ⟨me, .clear slot, ()⟩ := by
  have made : ∀ role slot, machine.world.cache.published role = some slot →
      slot < machine.world.cache.made := by
    rw [← stages.plays.world]
    exact stages.gated.made
  obtain ⟨current, moved, world, present, moves, rfl⟩ := moves_of_step stepped
  generalize isDeed : (machine.deed? me).toList = deeds at moves
  cases moves with
  | answer | aim | miss | enter => exact absurd isHidden isShown
  | reach opened =>
      rw [World.setCache, Cache.get_openSlot made opened] at isHidden
      exact absurd isHidden isShown
  | join =>
      rw [World.setCache, Cache.get_join] at isHidden
      exact absurd isHidden isShown
  | retry =>
      rw [World.setCache, Cache.get_leave] at isHidden
      exact absurd isHidden isShown
  | @act action next =>
      rw [World.perform_cache] at isHidden
      cases action with
      | clear slot =>
          rw [Action.onCache, Cache.get_setSnapshot] at isHidden
          split at isHidden
          · rename_i isPublished
            exact ⟨slot, isPublished, Option.toList_eq_singleton_iff.mp isDeed⟩
          · exact absurd isHidden isShown
      | publish slot loaded =>
          rw [Action.onCache, Cache.get_setSnapshot] at isHidden
          split at isHidden
          · cases isHidden
          · exact absurd isHidden isShown
      | withdraw other slot =>
          obtain ⟨_, _, step, _⟩ := stages.step present ()
          have isHolder := step.withdrawer
          have isBare := stages.bare me other slot .vacant isHolder (.inl rfl)
          have isPublished := stages.gated.published_of_holding isHolder rfl
          rw [stages.plays.world] at isBare isPublished
          rw [Action.onCache, Cache.get_withdraw _ isPublished] at isHidden
          split at isHidden
          · rename_i isRole
            rw [isRole, Cache.get_of_published isPublished] at isShown
            exact absurd isBare isShown
          · exact absurd isHidden isShown
      | release =>
          rw [Action.onCache, Cache.get_leave] at isHidden
          exact absurd isHidden isShown
      | _ => exact absurd isHidden isShown

end Stages

/-- After what was done in a run, a task clears the slot that is published for a role, and so hides from
readers a role that they saw. -/
def Hides (start : Machine Store Answer) (done : List Deed) (role : RoleId) (task : TaskId) (slot : SlotId) :
    Prop :=
  ∃ before after, start.Run done before ∧ before.deed? task = some ⟨task, .clear slot, ()⟩ ∧
    before.step? task = some after ∧ before.world.cache.published role = some slot ∧
      before.world.cache.get role ≠ none ∧ after.world.cache.get role = none

theorem Run.hides [LawfulRepository Store] {world : World Store} {programs : List (Program Answer)}
    (atRest : world.cache.AtRest) (orderly : ∀ program ∈ programs, program.Orderly)
    {first last : Machine Store Answer} {past log : List Deed}
    (toFirst : (load world programs).Run past first) (run : first.Run log last)
    (isShown : first.world.cache.get role ≠ none) (isHidden : last.world.cache.get role = none) :
    ∃ done rest task slot, log = done ++ ⟨task, .clear slot, ()⟩ :: rest ∧
      (load world programs).Hides (past ++ done) role task slot := by
  induction run with
  | start => exact absurd isHidden isShown
  | @move log before after task toBefore stepped inductionHypothesis =>
      by_cases wasHidden : before.world.cache.get role = none
      · obtain ⟨done, rest, other, slot, rfl, isHiding⟩ := inductionHypothesis wasHidden
        exact ⟨done, rest ++ (before.deed? task).toList, other, slot, by simp, isHiding⟩
      · obtain ⟨scene, stages⟩ := (toFirst.append toBefore).stages atRest orderly
        obtain ⟨slot, isPublished, isDeed⟩ := stages.hides stepped wasHidden isHidden
        exact ⟨log, [], task, slot, by simp [isDeed], before, after, toFirst.append toBefore, isDeed, stepped,
          isPublished, wasHidden, isHidden⟩
  | disturb _ _ _ _ inductionHypothesis => exact inductionHypothesis isHidden

end Machine

end Rolebook
