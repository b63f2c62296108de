import Mathlib.Logic.Function.Basic
import Rolebook.Proofs.Task.Run
import Rolebook.Proofs.Task.Stance

/-!
Scenes: a world together with where each task stands. The programs of the tasks are left out; what
matters of them is that they only take the actions open to them. There are few moves of a scene, so that
a property of scenes is shown to last move by move.
-/

namespace Rolebook

/-- Where a task stands towards the gates: not waiting for any, with a slot in hand whose queue it has
not joined, or in the queue. -/
inductive Place where
  | inside
  | aiming (role : RoleId) (slot : SlotId)
  | queued (role : RoleId) (slot : SlotId)

structure Scene (Store : Type) where
  world : World Store
  stance : TaskId → Stance
  /-- The changes that each task has made to the repository. -/
  writes : TaskId → List Write
  place : TaskId → Place

namespace Scene

variable {Store : Type}

def start (world : World Store) : Scene Store :=
  ⟨world, fun _ => .idle, fun _ => [], fun _ => .inside⟩

def setCache (scene : Scene Store) (cache : Cache) : Scene Store :=
  { scene with world := scene.world.setCache cache }

def setPlace (scene : Scene Store) (me : TaskId) (place : Place) : Scene Store :=
  { scene with place := Function.update scene.place me place }

def setStance (scene : Scene Store) (me : TaskId) (stance : Stance) : Scene Store :=
  { scene with stance := Function.update scene.stance me stance }

@[simp]
theorem setCache_self (scene : Scene Store) : scene.setCache scene.world.cache = scene :=
  rfl

theorem setPlace_self {scene : Scene Store} {me : TaskId} {place : Place}
    (isThere : scene.place me = place) : scene.setPlace me place = scene := by
  rw [setPlace, ← isThere, Function.update_eq_self]

def disturb (scene : Scene Store) (fault : Operation → Option ServiceError)
    (saveDelay ackDelay : Nat) : Scene Store :=
  { scene with world := scene.world.disturb fault saveDelay ackDelay }

def acted (scene : Scene Store) (me : TaskId) (world : World Store) (stance : Stance)
    (written : List Write) : Scene Store :=
  { scene with
    world
    stance := Function.update scene.stance me stance
    writes := Function.update scene.writes me (scene.writes me ++ written) }

@[simp]
theorem acted_stance_self (scene : Scene Store) (me : TaskId) (world : World Store) (stance : Stance)
    (written : List Write) : (scene.acted me world stance written).stance me = stance := by
  simp [acted]

theorem acted_stance_of_ne (scene : Scene Store) {me task : TaskId} (different : task ≠ me)
    (world : World Store) (stance : Stance) (written : List Write) :
    (scene.acted me world stance written).stance task = scene.stance task := by
  simp [acted, Function.update_of_ne different]

@[simp]
theorem setStance_stance_self (scene : Scene Store) (me : TaskId) (stance : Stance) :
    (scene.setStance me stance).stance me = stance := by
  simp [setStance]

theorem setStance_stance_of_ne (scene : Scene Store) {me task : TaskId} (different : task ≠ me)
    (stance : Stance) : (scene.setStance me stance).stance task = scene.stance task := by
  simp [setStance, Function.update_of_ne different]

variable [Repository Store]

/-- A move of one task, with what it does if it takes an action, or a change of conditions. -/
inductive Move (me : TaskId) : Option Deed → Scene Store → Scene Store → Prop where
  | rest {scene : Scene Store} : Move me none scene scene
  | disturb {scene : Scene Store} (fault : Operation → Option ServiceError) (saveDelay ackDelay : Nat) :
      Move me none scene (scene.disturb fault saveDelay ackDelay)
  | act {scene : Scene Store} {action : Action} {reply : action.Reply} {world : World Store}
      {stance : Stance} {written : List Write} (isInside : scene.place me = .inside)
      (performed : scene.world.perform me action = (reply, world))
      (step : (scene.stance me).Step action reply stance written) :
      Move me (some ⟨me, action, reply⟩) scene (scene.acted me world stance written)
  | aim {scene : Scene Store} {role : RoleId} {slot : SlotId} {cache : Cache}
      (isInside : scene.place me = .inside)
      (isFree : scene.stance me = .idle ∨ scene.stance me = .owing role)
      (opened : scene.world.cache.openSlot role = (slot, cache)) :
      Move me none scene ((scene.setCache cache).setPlace me (.aiming role slot))
  | miss {scene : Scene Store} {role : RoleId} (isInside : scene.place me = .inside)
      (isFree : scene.stance me = .idle ∨ scene.stance me = .owing role)
      (isAbsent : scene.world.cache.published role = none) :
      Move me none scene (scene.setStance me .idle)
  | join {scene : Scene Store} {role : RoleId} {slot : SlotId}
      (isAiming : scene.place me = .aiming role slot) :
      Move me none scene
        ((scene.setCache (scene.world.cache.join slot me)).setPlace me (.queued role slot))
  | enter {scene : Scene Store} {role : RoleId} {slot : SlotId}
      (isQueued : scene.place me = .queued role slot)
      (isFirst : scene.world.cache.holds slot me = true)
      (isPublished : scene.world.cache.published role = some slot) :
      Move me none scene
        ((scene.setStance me ((scene.stance me).enter role slot)).setPlace me .inside)
  | retry {scene : Scene Store} {role : RoleId} {slot : SlotId}
      (isQueued : scene.place me = .queued role slot)
      (isFirst : scene.world.cache.holds slot me = true)
      (isWithdrawn : scene.world.cache.published role ≠ some slot) :
      Move me none scene
        ((scene.setCache (scene.world.cache.leave slot me)).setPlace me .inside)

theorem Move.others {me task : TaskId} {deed : Option Deed} {scene next : Scene Store}
    (moved : scene.Move me deed next) (different : task ≠ me) :
    next.stance task = scene.stance task ∧ next.writes task = scene.writes task := by
  cases moved <;>
    exact ⟨by simp [acted, setStance, setPlace, setCache, Scene.disturb, Function.update_of_ne different],
      by simp [acted, setStance, setPlace, setCache, Scene.disturb, Function.update_of_ne different]⟩

end Scene

end Rolebook
