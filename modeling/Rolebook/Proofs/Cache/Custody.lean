import Mathlib.Logic.Function.Basic
import Rolebook.Proofs.Cache.Provenance

/-!
Custody. Whoever has a guard in hand is the first in the queue of its slot, and whoever else is there waits
for a guard of the same role. A slot is only ever used for the role for which it was made, so that the guards
of one role have nothing to do with the gates of another.
-/

namespace Rolebook

/-- From the guards in hand on, a program only takes actions that are covered by them, asks for no second
guard of a role, for which it would wait in vain, and gives all of them up in the end. Apart from that it may
do whatever it likes, and have guards of several roles at once, as their slots are not the same. -/
def Program.Prudent {Answer : Type} : Program Answer → List Guard → Prop
  | .done _, held => held = []
  | .act action next, held => action.Covered held ∧ ∀ reply, (next reply).Prudent (action.keep held)
  | .lock role next, held =>
      (∀ guard ∈ held, guard.role ≠ role) ∧
        ∀ slot, (∀ guard ∈ held, guard.slot ≠ slot) → (next slot).Prudent (⟨role, slot⟩ :: held)
  | .lockPublished role absent next, held =>
      (∀ guard ∈ held, guard.role ≠ role) ∧ absent.Prudent held ∧
        ∀ slot, (∀ guard ∈ held, guard.slot ≠ slot) → (next slot).Prudent (⟨role, slot⟩ :: held)

def Task.Prudent {Answer : Type} (held : List Guard) : Task Answer → Prop
  | running program => program.Prudent held
  | arriving role _ again next | queued role _ again next =>
      (∀ guard ∈ held, guard.role ≠ role) ∧ again.Prudent held ∧
        ∀ slot, (∀ guard ∈ held, guard.slot ≠ slot) → (next slot).Prudent (⟨role, slot⟩ :: held)
  | finished _ | dropped => held = []

theorem Program.Ensures.prudent {Answer : Type} {program : Program Answer} {stance : Stance}
    {writes : List Write}
    (ensured : program.Ensures .free (fun _ stance _ => stance = .idle) stance writes) :
    program.Prudent stance.guards := by
  induction program generalizing stance writes with
  | done answer =>
      obtain rfl : stance = .idle := ensured
      rfl
  | act action next inductionHypothesis =>
      constructor
      · obtain ⟨reply⟩ := action.nonempty_reply
        obtain ⟨after, written, step, _⟩ := ensured.2 reply trivial
        exact step.covered
      · intro reply
        obtain ⟨after, written, step, continued⟩ := ensured.2 reply trivial
        exact step.guards_eq ▸ inductionHypothesis reply continued
  | lock role next inductionHypothesis =>
      obtain ⟨rfl, continued⟩ := ensured
      exact ⟨by simp [Stance.guards], fun slot _ => inductionHypothesis slot (continued slot)⟩
  | lockPublished role absent next absentHypothesis nextHypothesis =>
      obtain ⟨isFree, missed, continued⟩ := ensured
      have isBare : stance.guards = [] := by rcases isFree with rfl | rfl <;> rfl
      have isEntered : ∀ slot, (stance.enter role slot).guards = ⟨role, slot⟩ :: stance.guards := by
        rcases isFree with rfl | rfl <;> exact fun _ => rfl
      exact ⟨by simp [isBare], isBare ▸ absentHypothesis missed,
        fun slot _ => isEntered slot ▸ nextHypothesis slot (continued slot)⟩

theorem Program.Orderly.prudent {Answer : Type} {program : Program Answer} (orderly : program.Orderly) :
    program.Prudent [] :=
  Program.Ensures.prudent orderly

/-- The guards that tasks have in hand, and the role for which each slot was made. -/
structure Custody where
  hands : TaskId → List Guard
  owner : SlotId → RoleId

namespace Custody

def Assigns (custody : Custody) (cache : Cache) (role : RoleId) (slot : SlotId) : Prop :=
  slot < cache.made ∧ custody.owner slot = role

theorem Assigns.later {custody : Custody} {cache after : Cache} {role : RoleId} {slot : SlotId}
    (assigns : custody.Assigns cache role slot) (isEarlier : cache.made ≤ after.made) :
    custody.Assigns after role slot :=
  ⟨Nat.lt_of_lt_of_le assigns.1 isEarlier, assigns.2⟩

/-- The gates are in the hands of those who have guards. -/
structure Governs (custody : Custody) (cache : Cache) (place : TaskId → Place) : Prop where
  published : ∀ role slot, cache.published role = some slot → custody.Assigns cache role slot
  waiting : ∀ task role slot, place task = .aiming role slot ∨ place task = .queued role slot →
    custody.Assigns cache role slot ∧ ∀ guard ∈ custody.hands task, guard.role ≠ role
  held : ∀ task, ∀ guard ∈ custody.hands task,
    custody.Assigns cache guard.role guard.slot ∧ (cache.slot guard.slot).queue.head? = some task
  distinct : ∀ slot, (cache.slot slot).queue.Nodup
  /-- Whoever is in a queue waits for a guard or has it, and the other way round. -/
  present : ∀ slot task, task ∈ (cache.slot slot).queue ↔
    (∃ role, place task = .queued role slot) ∨ ∃ guard ∈ custody.hands task, guard.slot = slot

def assign (custody : Custody) (role : RoleId) (slot : SlotId) : Custody :=
  { custody with owner := Function.update custody.owner slot role }

def give (custody : Custody) (me : TaskId) (guard : Guard) : Custody :=
  { custody with hands := Function.update custody.hands me (guard :: custody.hands me) }

def part (custody : Custody) (me : TaskId) (gone : SlotId → Bool) : Custody :=
  { custody with
    hands := Function.update custody.hands me ((custody.hands me).filter fun guard => !gone guard.slot) }

section Updates

variable (custody : Custody) (me : TaskId) {task : TaskId}

@[simp]
theorem hands_assign (role : RoleId) (slot : SlotId) : (custody.assign role slot).hands = custody.hands :=
  rfl

@[simp]
theorem hands_give_self (guard : Guard) : (custody.give me guard).hands me = guard :: custody.hands me :=
  Function.update_self ..

theorem hands_give_of_ne (isOther : task ≠ me) (guard : Guard) :
    (custody.give me guard).hands task = custody.hands task :=
  Function.update_of_ne isOther ..

@[simp]
theorem hands_part_self (gone : SlotId → Bool) :
    (custody.part me gone).hands me = (custody.hands me).filter fun guard => !gone guard.slot :=
  Function.update_self ..

theorem hands_part_of_ne (isOther : task ≠ me) (gone : SlotId → Bool) :
    (custody.part me gone).hands task = custody.hands task :=
  Function.update_of_ne isOther ..

theorem mem_hands_part {gone : SlotId → Bool} {guard : Guard}
    (isHeld : guard ∈ (custody.part me gone).hands task) : guard ∈ custody.hands task := by
  by_cases isMine : task = me
  · subst isMine
    rw [hands_part_self] at isHeld
    exact (List.mem_filter.mp isHeld).1
  · rwa [hands_part_of_ne custody me isMine] at isHeld

end Updates

namespace Governs

variable {custody : Custody} {cache after : Cache} {place : TaskId → Place} {me task : TaskId}
  {role : RoleId} {slot : SlotId} {guard : Guard}

theorem filed (governs : custody.Governs cache place) : cache.Filed := fun role slot isPublished =>
  ⟨(governs.published role slot isPublished).1, fun other isOther =>
    (governs.published other slot isOther).2.symm.trans (governs.published role slot isPublished).2⟩

theorem not_held_of_waiting (governs : custody.Governs cache place)
    (isWaiting : place task = .aiming role slot ∨ place task = .queued role slot) :
    ∀ guard ∈ custody.hands task, guard.slot ≠ slot := by
  rintro guard isHeld rfl
  obtain ⟨⟨_, isOwner⟩, isOther⟩ := governs.waiting task role guard.slot isWaiting
  exact isOther guard isHeld ((governs.held task guard isHeld).1.2.symm.trans isOwner)

theorem assign_of_assigns (assigns : custody.Assigns cache role slot) : custody.assign role slot = custody := by
  rw [assign, ← assigns.2, Function.update_eq_self]

theorem assigns_assign (assigns : custody.Assigns cache role slot) (sameMade : after.made = cache.made + 1)
    (maker : RoleId) : (custody.assign maker cache.made).Assigns after role slot := by
  refine ⟨sameMade ▸ Nat.lt_succ_of_lt assigns.1, ?_⟩
  exact (Function.update_of_ne (Nat.ne_of_lt assigns.1) ..).trans assigns.2

theorem openSlot (governs : custody.Governs cache place) (opened : cache.openSlot role = (slot, after)) :
    (custody.assign role slot).Governs after place := by
  rcases Cache.openSlot_cases opened with ⟨isPublished, rfl⟩ | ⟨_, rfl, made, published, slots⟩
  · rw [assign_of_assigns (governs.published role slot isPublished)]
    exact governs
  -- Nobody has or wants the fresh slot, and its queue is empty.
  have old : ∀ found, found < cache.made → after.slot found = cache.slot found := by
    intro found isOld
    rw [slots, if_neg (Nat.ne_of_lt isOld)]
  refine ⟨?_, ?_, ?_, ?_, ?_⟩
  · intro other found isPublished
    rw [published] at isPublished
    split at isPublished
    · rename_i isRole
      obtain rfl := Option.some.inj isPublished
      exact ⟨made ▸ Nat.lt_succ_self _, by simp [assign, isRole]⟩
    · exact assigns_assign (governs.published other found isPublished) made role
  · intro task aimed found isWaiting
    obtain ⟨assigns, isOther⟩ := governs.waiting task aimed found isWaiting
    exact ⟨assigns_assign assigns made role, isOther⟩
  · intro task guard isHeld
    obtain ⟨assigns, isFirst⟩ := governs.held task guard isHeld
    exact ⟨assigns_assign assigns made role, by rw [old guard.slot assigns.1]; exact isFirst⟩
  · intro found
    rw [slots]
    split
    · exact List.nodup_nil
    · exact governs.distinct found
  · intro found task
    rw [slots, hands_assign]
    split
    · rename_i isFresh
      subst isFresh
      refine iff_of_false List.not_mem_nil ?_
      rintro (⟨aimed, isQueued⟩ | ⟨guard, isHeld, isFound⟩)
      · exact Nat.lt_irrefl _ (governs.waiting task aimed _ (.inr isQueued)).1.1
      · exact Nat.lt_irrefl _ (isFound ▸ (governs.held task guard isHeld).1.1)
    · exact governs.present found task

theorem aim (governs : custody.Governs cache place) (isInside : place me = .inside)
    (isPublished : cache.published role = some slot) (isOther : ∀ guard ∈ custody.hands me, guard.role ≠ role) :
    custody.Governs cache (Function.update place me (.aiming role slot)) where
  published := governs.published
  waiting task aimed found isWaiting := by
    by_cases isMine : task = me
    · subst isMine
      simp only [Function.update_self, Place.aiming.injEq, reduceCtorEq, or_false] at isWaiting
      obtain ⟨rfl, rfl⟩ := isWaiting
      exact ⟨governs.published _ _ isPublished, isOther⟩
    · rw [Function.update_of_ne isMine] at isWaiting
      exact governs.waiting task aimed found isWaiting
  held := governs.held
  distinct := governs.distinct
  present found task := by
    rw [governs.present]
    by_cases isMine : task = me
    · subst isMine
      simp [isInside]
    · rw [Function.update_of_ne isMine]

theorem join (governs : custody.Governs cache place) (isAiming : place me = .aiming role slot) :
    custody.Governs (cache.join slot me) (Function.update place me (.queued role slot)) := by
  have notHeld := governs.not_held_of_waiting (.inl isAiming)
  have isAbsent : me ∉ (cache.slot slot).queue := by
    rw [governs.present]
    rintro (⟨other, isQueued⟩ | ⟨guard, isHeld, isThere⟩)
    · simp [isAiming] at isQueued
    · exact notHeld guard isHeld isThere
  refine ⟨governs.published, ?_, ?_, ?_, ?_⟩
  · intro task aimed found isWaiting
    by_cases isMine : task = me
    · subst isMine
      simp only [Function.update_self, Place.queued.injEq, reduceCtorEq, false_or] at isWaiting
      obtain ⟨rfl, rfl⟩ := isWaiting
      exact governs.waiting task _ _ (.inl isAiming)
    · rw [Function.update_of_ne isMine] at isWaiting
      exact governs.waiting task aimed found isWaiting
  · intro task guard isHeld
    obtain ⟨assigns, isFirst⟩ := governs.held task guard isHeld
    refine ⟨assigns, ?_⟩
    rw [Cache.queue_join]
    split
    · rw [List.head?_append, isFirst]
      rfl
    · exact isFirst
  · intro found
    rw [Cache.queue_join]
    split
    · rename_i isThere
      subst isThere
      exact List.nodup_append.mpr ⟨governs.distinct _, List.pairwise_singleton _ me, by
        rintro task isMember _ isMine rfl
        exact isAbsent (List.mem_singleton.mp isMine ▸ isMember)⟩
    · exact governs.distinct found
  · intro found task
    have isMember : task ∈ ((cache.join slot me).slot found).queue ↔
        task ∈ (cache.slot found).queue ∨ found = slot ∧ task = me := by
      rw [Cache.queue_join]
      split <;> simp_all
    rw [isMember, governs.present]
    by_cases isMine : task = me
    · subst isMine
      simp [isAiming, or_comm, eq_comm]
    · simp [isMine]

theorem enter (governs : custody.Governs cache place) (isQueued : place me = .queued role slot)
    (isFirst : (cache.slot slot).queue.head? = some me) :
    (custody.give me ⟨role, slot⟩).Governs cache (Function.update place me .inside) where
  published := governs.published
  waiting task aimed found isWaiting := by
    have isOther : task ≠ me := by
      rintro rfl
      simp at isWaiting
    rw [Function.update_of_ne isOther] at isWaiting
    rw [hands_give_of_ne custody me isOther]
    exact governs.waiting task aimed found isWaiting
  held task guard isHeld := by
    by_cases isMine : task = me
    · subst isMine
      rw [hands_give_self] at isHeld
      rcases List.mem_cons.mp isHeld with rfl | wasHeld
      · exact ⟨(governs.waiting task role slot (.inr isQueued)).1, isFirst⟩
      · exact governs.held task guard wasHeld
    · rw [hands_give_of_ne custody me isMine] at isHeld
      exact governs.held task guard isHeld
  distinct := governs.distinct
  present found task := by
    rw [governs.present]
    by_cases isMine : task = me
    · subst isMine
      simp [isQueued]
    · rw [Function.update_of_ne isMine, hands_give_of_ne custody me isMine]

/-- A task goes away from the gates of some slots, at which it waited or of which it had guards. Slots may be
removed thereby. -/
theorem leave (governs : custody.Governs cache place) (me : TaskId) {gone : SlotId → Bool}
    (published : ∀ role slot, after.published role = some slot → cache.published role = some slot)
    (sameMade : after.made = cache.made)
    (queues : ∀ found, (after.slot found).queue =
      if gone found then (cache.slot found).queue.erase me else (cache.slot found).queue)
    (isGone : ∀ role slot, place me = .queued role slot → gone slot = true) :
    (custody.part me gone).Governs after (Function.update place me .inside) := by
  have isEarlier : cache.made ≤ after.made := Nat.le_of_eq sameMade.symm
  have isMember : ∀ found task, task ∈ (after.slot found).queue ↔
      task ∈ (cache.slot found).queue ∧ (task = me → gone found = false) := by
    intro found task
    rw [queues]
    split
    · rw [(governs.distinct found).mem_erase_iff]
      simp_all [and_comm]
    · simp_all
  refine ⟨?_, ?_, ?_, ?_, ?_⟩
  · intro role slot isPublished
    exact (governs.published role slot (published role slot isPublished)).later isEarlier
  · intro task aimed found isWaiting
    have isOther : task ≠ me := by
      rintro rfl
      simp at isWaiting
    rw [Function.update_of_ne isOther] at isWaiting
    rw [hands_part_of_ne custody me isOther]
    exact (governs.waiting task aimed found isWaiting).imp_left (·.later isEarlier)
  · intro task guard isHeld
    obtain ⟨assigns, isFirst⟩ := governs.held task guard (custody.mem_hands_part me isHeld)
    refine ⟨assigns.later isEarlier, ?_⟩
    rw [queues]
    split
    · rename_i isAway
      have isOther : task ≠ me := by
        rintro rfl
        simp [isAway] at isHeld
      obtain ⟨others, isQueue⟩ := List.head?_eq_some_iff.mp isFirst
      rw [isQueue, List.erase_cons_tail (by simpa using isOther)]
      rfl
    · exact isFirst
  · intro found
    rw [queues]
    split
    · exact (governs.distinct found).erase me
    · exact governs.distinct found
  · intro found task
    rw [isMember, governs.present]
    by_cases isMine : task = me
    · subst isMine
      rw [hands_part_self, Function.update_self]
      constructor
      · rintro ⟨⟨role, isQueued⟩ | ⟨guard, isHeld, rfl⟩, isKept⟩
        · simp [isGone role found isQueued] at isKept
        · exact .inr ⟨guard, by simpa [isHeld] using isKept, rfl⟩
      · rintro (⟨_, isQueued⟩ | ⟨guard, isHeld, rfl⟩)
        · cases isQueued
        · obtain ⟨wasHeld, isKept⟩ := List.mem_filter.mp isHeld
          exact ⟨.inr ⟨guard, wasHeld, rfl⟩, by simpa using isKept⟩
    · simp [hands_part_of_ne custody me isMine, isMine]

end Governs

end Custody

namespace Action

def givesUp : Action → SlotId → Bool
  | release slot, other => other = slot
  | _, _ => false

variable {action : Action} {slot : SlotId}

theorem givesUp_iff : action.givesUp slot = true ↔ action = .release slot := by
  cases action <;> simp [givesUp, eq_comm]

theorem keep_eq (action : Action) (held : List Guard) :
    action.keep held = held.filter fun guard => !action.givesUp guard.slot := by
  cases action with
  | release slot => simp [keep, givesUp]
  | _ => exact (List.filter_eq_self.mpr fun _ _ => rfl).symm

variable (me : TaskId) (cache : Cache)

theorem queue_onCache (action : Action) (slot : SlotId) :
    ((action.onCache me cache).slot slot).queue =
      if action.givesUp slot then (cache.slot slot).queue.erase me else (cache.slot slot).queue := by
  cases action <;> simp [onCache, givesUp]

@[simp]
theorem made_onCache (action : Action) : (action.onCache me cache).made = cache.made := by
  cases action <;> simp [onCache]

theorem published_of_onCache {role : RoleId}
    (isPublished : (action.onCache me cache).published role = some slot) :
    cache.published role = some slot := by
  cases action with
  | withdraw => exact Cache.published_of_withdraw isPublished
  | _ => exact isPublished

theorem published_onCache {role : RoleId} (isPublished : cache.published role = some slot) :
    (action.onCache me cache).published role = some slot ∨ action = .withdraw role slot := by
  cases action with
  | withdraw other found =>
      rw [onCache, Cache.withdraw]
      split
      · rename_i isThere
        by_cases isRole : role = other
        · subst isRole
          exact .inr (by rw [Option.some.inj (isThere.symm.trans isPublished)])
        · exact .inl (by simpa [isRole] using isPublished)
      · exact .inl isPublished
  | _ => exact .inl isPublished

end Action

end Rolebook
