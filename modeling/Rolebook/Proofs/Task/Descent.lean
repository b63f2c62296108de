import Mathlib.Logic.Hydra
import Mathlib.Tactic.Abel
import Rolebook.Proofs.Cache.Slots
import Rolebook.Proofs.Task.Run

/-!
No schedule goes on for ever. With each move the mover's program gets shorter, or the mover comes closer
to the gate for which it waits. A task is sent away from a gate only if its slot was withdrawn, and a
slot is withdrawn only by an action, with which somebody's program gets shorter.
-/

namespace Rolebook

namespace Program

variable {Answer : Type}

/-- The first program is what may be left of the second after its first step. -/
inductive Follows : Program Answer → Program Answer → Prop where
  | act {action : Action} {next : action.Reply → Program Answer} (reply : action.Reply) :
      Follows (next reply) (.act action next)
  | lock {role : RoleId} {next : SlotId → Program Answer} (slot : SlotId) :
      Follows (next slot) (.lock role next)
  | absent {role : RoleId} {absent : Program Answer} {next : SlotId → Program Answer} :
      Follows absent (.lockPublished role absent next)
  | lockPublished {role : RoleId} {absent : Program Answer} {next : SlotId → Program Answer}
      (slot : SlotId) : Follows (next slot) (.lockPublished role absent next)

def Awaits (role : RoleId) (next : SlotId → Program Answer) (program : Program Answer) : Prop :=
  program = .lock role next ∨ ∃ absent, program = .lockPublished role absent next

theorem Awaits.follows {role : RoleId} {next : SlotId → Program Answer} {program : Program Answer}
    (awaits : program.Awaits role next) (slot : SlotId) : (next slot).Follows program := by
  rcases awaits with rfl | ⟨absent, rfl⟩
  · exact .lock slot
  · exact .lockPublished slot

end Program

/-- Nothing is less than something, and what is left of a program is less than the program. -/
inductive Shorter {Answer : Type} : Option (Program Answer) → Option (Program Answer) → Prop where
  | ended {program : Program Answer} : Shorter none (some program)
  | follows {later earlier : Program Answer} (isLater : later.Follows earlier) :
      Shorter (some later) (some earlier)

theorem wellFounded_shorter {Answer : Type} : WellFounded (@Shorter Answer) := by
  have isNone : Acc Shorter (none : Option (Program Answer)) := ⟨_, fun _ isLess => nomatch isLess⟩
  refine ⟨?_⟩
  intro rest
  cases rest with
  | none => exact isNone
  | some program =>
      induction program with
      | done answer =>
          refine ⟨_, ?_⟩
          intro less isLess
          cases isLess with
          | ended => exact isNone
          | follows isLater => nomatch isLater
      | act action next inductionHypothesis =>
          refine ⟨_, ?_⟩
          intro less isLess
          cases isLess with
          | ended => exact isNone
          | follows isLater =>
              cases isLater with
              | act reply => exact inductionHypothesis reply
      | lock role next inductionHypothesis =>
          refine ⟨_, ?_⟩
          intro less isLess
          cases isLess with
          | ended => exact isNone
          | follows isLater =>
              cases isLater with
              | lock slot => exact inductionHypothesis slot
      | lockPublished role absent next absentHypothesis nextHypothesis =>
          refine ⟨_, ?_⟩
          intro less isLess
          cases isLess with
          | ended => exact isNone
          | follows isLater =>
              cases isLater with
              | absent => exact absentHypothesis
              | lockPublished slot => exact nextHypothesis slot

theorem Program.ne_of_follows {Answer : Type} {later earlier : Program Answer}
    (follows : Relation.TransGen Program.Follows later earlier) : later ≠ earlier := by
  rintro rfl
  exact wellFounded_shorter.transGen.irrefl.irrefl _ (follows.lift some fun _ _ => .follows)

namespace Task

variable {Answer : Type}

/-- What is left of the program of a task. One that waits for a gate is where it was before. -/
def rest : Task Answer → Option (Program Answer)
  | running program => some program
  | arriving _ _ again _ | queued _ _ again _ => some again
  | finished _ | dropped => none

/-- How many moves the task is from its gate at most, if no slot is withdrawn in between. -/
def distance (cache : Cache) : Task Answer → Nat
  | running _ => 3
  | arriving role slot _ _ => if cache.published role = some slot then 2 else 5
  | queued role slot _ _ => if cache.published role = some slot then 1 else 4
  | finished _ | dropped => 0

/-- The task was not dropped, and the program to start over with is the one that came to wait. -/
def IsWhole : Task Answer → Prop
  | arriving role _ again next | queued role _ again next => again.Awaits role next
  | dropped => False
  | running _ | finished _ => True

/-- A slot that is made for a role brings nobody further away from a gate. -/
theorem distance_openSlot {cache after : Cache} {role : RoleId} {slot : SlotId}
    (opened : cache.openSlot role = (slot, after)) :
    after.published role = some slot ∧
      ∀ other : Task Answer, other.distance after ≤ other.distance cache := by
  refine ⟨Cache.published_of_openSlot opened, fun other => ?_⟩
  cases other with
  | arriving aimed found _ _ | queued aimed found _ _ =>
      simp only [distance]
      by_cases isPublished : cache.published aimed = some found
      · rw [if_pos isPublished, if_pos (Cache.published_openSlot opened isPublished)]
      · rw [if_neg isPublished]
        split <;> omega
  | running _ | finished _ | dropped => exact Nat.le_refl _

variable {Store : Type} [Repository Store]

/-- With a move the program gets shorter, or stays and the gate comes closer; in the latter case nobody
comes further away from a gate. -/
theorem step_descends {me : TaskId} {world after : World Store} {current moved : Task Answer}
    (isWhole : current.IsWhole) (step : current.step me world = some (moved, after)) :
    moved.IsWhole ∧ (Shorter moved.rest current.rest ∨
      moved.rest = current.rest ∧ moved.distance after.cache < current.distance world.cache ∧
        ∀ other : Task Answer, other.distance after.cache ≤ other.distance world.cache) := by
  cases current with
  | running program =>
      cases program with
      | done answer =>
          obtain ⟨rfl, rfl⟩ := Prod.mk.inj (Option.some.inj step)
          exact ⟨trivial, .inl .ended⟩
      | act action next =>
          obtain ⟨rfl, rfl⟩ := Prod.mk.inj (Option.some.inj step)
          exact ⟨trivial, .inl (.follows (.act _))⟩
      | lock role next =>
          cases opened : world.cache.openSlot role with
          | mk slot cache =>
              simp only [Task.step, opened] at step
              obtain ⟨rfl, rfl⟩ := Prod.mk.inj (Option.some.inj step)
              obtain ⟨isPublished, isNearer⟩ := distance_openSlot opened
              exact ⟨.inl rfl, .inr ⟨rfl, by simp [distance, isPublished], isNearer⟩⟩
      | lockPublished role absent next =>
          simp only [Task.step] at step
          split at step
          · obtain ⟨rfl, rfl⟩ := Prod.mk.inj (Option.some.inj step)
            exact ⟨trivial, .inl (.follows .absent)⟩
          · rename_i slot isPublished
            obtain ⟨rfl, rfl⟩ := Prod.mk.inj (Option.some.inj step)
            refine ⟨.inr ⟨absent, rfl⟩, .inr ⟨rfl, ?_, fun _ => Nat.le_refl _⟩⟩
            simp [distance, isPublished]
  | arriving role slot again next =>
      obtain ⟨rfl, rfl⟩ := Prod.mk.inj (Option.some.inj step)
      refine ⟨isWhole, .inr ⟨rfl, ?_, fun _ => Nat.le_refl _⟩⟩
      by_cases isPublished : world.cache.published role = some slot <;>
        simp [distance, isPublished]
  | queued role slot again next =>
      simp only [Task.step] at step
      split at step
      · split at step
        · obtain ⟨rfl, rfl⟩ := Prod.mk.inj (Option.some.inj step)
          exact ⟨trivial, .inl (.follows (isWhole.follows slot))⟩
        · rename_i isWithdrawn
          obtain ⟨rfl, rfl⟩ := Prod.mk.inj (Option.some.inj step)
          refine ⟨trivial, .inr ⟨rfl, ?_, fun _ => Nat.le_refl _⟩⟩
          simp [distance, isWithdrawn]
      · simp at step
  | finished answer => simp [Task.step] at step
  | dropped => simp [Task.step] at step

end Task

section Lists

variable {Item Label : Type} {items : List Item} {place : Nat} {old new : Item}

theorem coe_map_set (label : Item → Label) (new : Item) (located : items[place]? = some old) :
    (((items.set place new).map label : List Label) : Multiset Label) + {label old} =
      ((items.map label : List Label) : Multiset Label) + {label new} := by
  induction items generalizing place with
  | nil => simp at located
  | cons first others inductionHypothesis =>
      cases place with
      | zero =>
          obtain rfl : first = old := by simpa using located
          simp only [List.set_cons_zero, List.map_cons, ← Multiset.cons_coe, ← Multiset.singleton_add]
          abel
      | succ place =>
          have isThere : others[place]? = some old := by simpa using located
          have continued := inductionHypothesis isThere
          simp only [List.set_cons_succ, List.map_cons, ← Multiset.cons_coe, ← Multiset.singleton_add,
            add_assoc, continued]

theorem sum_map_set_lt {before after : Item → Nat} (noneRises : ∀ item, after item ≤ before item)
    (falls : after new < before old) (located : items[place]? = some old) :
    ((items.set place new).map after).sum < (items.map before).sum := by
  induction items generalizing place with
  | nil => simp at located
  | cons first others inductionHypothesis =>
      have othersFall : (others.map after).sum ≤ (others.map before).sum :=
        List.sum_le_sum fun item _ => noneRises item
      cases place with
      | zero =>
          obtain rfl : first = old := by simpa using located
          simp only [List.set_cons_zero, List.map_cons, List.sum_cons]
          omega
      | succ place =>
          have isThere : others[place]? = some old := by simpa using located
          have continued := inductionHypothesis isThere
          have firstFalls := noneRises first
          simp only [List.set_cons_succ, List.map_cons, List.sum_cons]
          omega

end Lists

namespace Machine

variable {Store Answer : Type}

def rests (machine : Machine Store Answer) : Multiset (Option (Program Answer)) :=
  (machine.tasks.map Task.rest : List (Option (Program Answer)))

def distance (machine : Machine Store Answer) : Nat :=
  (machine.tasks.map (Task.distance machine.world.cache)).sum

/-- Less is left of the programs, or as much, and the tasks are closer to their gates. -/
def Below (later earlier : Machine Store Answer) : Prop :=
  Prod.Lex (Relation.CutExpand Shorter) (· < ·) (later.rests, later.distance)
    (earlier.rests, earlier.distance)

theorem wellFounded_below : WellFounded (@Below Store Answer) :=
  InvImage.wf (fun machine : Machine Store Answer => (machine.rests, machine.distance))
    (WellFounded.prod_lex wellFounded_shorter.cutExpand wellFounded_lt)

def IsWhole (machine : Machine Store Answer) : Prop :=
  ∀ (task : TaskId) (current : Task Answer), machine.tasks[task]? = some current → current.IsWhole

variable [Repository Store]

theorem step_below {before after : Machine Store Answer} {task : TaskId} (isWhole : before.IsWhole)
    (moved : before.step? task = some after) : after.IsWhole ∧ after.Below before := by
  unfold step? at moved
  obtain ⟨current, present, rest⟩ := Option.bind_eq_some_iff.mp moved
  obtain ⟨⟨next, world⟩, step, isAfter⟩ := Option.bind_eq_some_iff.mp rest
  obtain rfl := Option.some.inj isAfter
  obtain ⟨stillWhole, descends⟩ := Task.step_descends (isWhole task current present) step
  constructor
  · intro other found located
    rw [List.getElem?_set] at located
    split at located
    · split at located
      · obtain rfl := Option.some.inj located
        exact stillWhole
      · simp at located
    · exact isWhole other found located
  · have replaced := coe_map_set Task.rest next present
    rcases descends with isShorter | ⟨sameRest, isNearer, noneFurther⟩
    · exact .left _ _ ⟨{next.rest}, current.rest, by simpa using isShorter, replaced⟩
    · have sameRests : rests ⟨world, before.tasks.set task next⟩ = before.rests := by
        rw [sameRest] at replaced
        exact add_right_cancel replaced
      unfold Below
      rw [sameRests]
      exact .right _ (sum_map_set_lt noneFurther isNearer present)

end Machine

end Rolebook
