import Rolebook.Proofs.Cache.Holding
import Rolebook.Proofs.Task.Descent

/-!
Mutual exclusion. However tasks take turns, and whoever is dropped in between, there is at most one guard of
a role whose slot was not removed, and its slot is the published one. A removed slot is never published again.
Whoever has to wait for a guard waits for somebody who has a guard of the same role or is about to take it.
-/

namespace Rolebook

variable {Store Answer : Type} [Repository Store]

namespace Machine

variable {mayLand : Machine Store Answer → RoleId → Prop} {begun machine after : Machine Store Answer}
  {log deeds : List Deed} {custody : Custody} {task : TaskId}

namespace Watched

variable (watched : Watched mayLand begun log machine custody)

include watched

theorem not_removed_of_published {role : RoleId} {slot : SlotId}
    (isPublished : machine.world.cache.published role = some slot) : ¬ Removed log slot :=
  fun isRemoved => (watched.removed slot isRemoved).2 role isPublished

/-- A slot leaves the cache only as somebody takes it out who has its guard in hand. -/
theorem withdraws (turned : machine.Turn deeds after) {role : RoleId} {slot : SlotId}
    (wasPublished : machine.world.cache.published role = some slot)
    (isGone : after.world.cache.published role ≠ some slot) :
    ∃ task, deeds = [⟨task, .withdraw role slot, ()⟩] ∧ ⟨role, slot⟩ ∈ custody.hands task := by
  cases turned with
  | @move me _ _ _ _ present moves =>
      cases moves with
      | @act action next =>
          rw [machine.world.perform_cache me action] at isGone
          have isWithdraw : action = .withdraw role slot :=
            (Action.published_onCache me _ wasPublished).resolve_left isGone
          subst isWithdraw
          exact ⟨me, rfl, (watched.prudent.of_present present).1⟩
      | reach opened => exact absurd (Cache.published_openSlot opened wasPublished) isGone
      | answer | aim | miss | join | enter | retry => exact absurd wasPublished isGone
  | drop | disturb | land => exact absurd wasPublished isGone

/-- A task that cannot go on waits for somebody who has a guard of the same role, or is about to take it. -/
theorem waits {current : Task Answer} (present : machine.tasks[task]? = some current)
    (isStuck : machine.step? task = none) : current.isOver = true ∨
      ∃ role slot again next other, current = .queued role slot again next ∧ other ≠ task ∧
        machine.world.cache.holds slot other = true ∧
          (⟨role, slot⟩ ∈ custody.hands other ∨ ∃ again next moved,
            machine.tasks[other]? = some (.queued role slot again next) ∧
              machine.step? other = some moved) := by
  have governs := watched.governs
  have cannot : ∀ {deeds moved world}, ¬ current.Moves task machine.world deeds moved world := by
    intro deeds moved world moves
    rw [(step?_of_moves present moves).1] at isStuck
    cases isStuck
  cases current with
  | finished | dropped => exact .inl rfl
  | arriving role slot again next => exact absurd .join cannot
  | running program =>
      cases program with
      | done answer => exact absurd .answer cannot
      | act action next => exact absurd .act cannot
      | lock role next => exact absurd (.reach rfl) cannot
      | lockPublished role absent next =>
          cases isThere : machine.world.cache.published role with
          | none => exact absurd (.miss isThere) cannot
          | some slot => exact absurd (.aim isThere) cannot
  | queued role slot again next =>
      have isPlace : machine.place task = .queued role slot := place_of_present present
      have isListed : task ∈ (machine.world.cache.slot slot).queue :=
        (governs.present slot task).mpr (.inl ⟨role, isPlace⟩)
      obtain ⟨other, isFirst⟩ : ∃ other, (machine.world.cache.slot slot).queue.head? = some other :=
        Option.isSome_iff_exists.mp (List.isSome_head?.mpr (List.ne_nil_of_mem isListed))
      have holds := (Cache.holds_iff machine.world.cache).mpr isFirst
      -- Whoever is first can move, if not with a guard in hand.
      have canMove : ∀ {other again} {next : SlotId → Program Answer},
          machine.world.cache.holds slot other = true →
            machine.tasks[other]? = some (.queued role slot again next) →
              ∃ moved, machine.step? other = some moved := by
        intro other again next isFirst isQueued
        by_cases isPublished : machine.world.cache.published role = some slot
        · exact ⟨_, (step?_of_moves isQueued (.enter isFirst isPublished)).1⟩
        · exact ⟨_, (step?_of_moves isQueued (.retry isFirst isPublished)).1⟩
      have isOwner := (governs.waiting task role slot (.inr isPlace)).1.2
      refine .inr ⟨role, slot, again, next, other, rfl, ?_, holds, ?_⟩
      · rintro rfl
        obtain ⟨moved, stepped⟩ := canMove holds present
        rw [stepped] at isStuck
        cases isStuck
      rcases (governs.present slot other).mp (List.mem_of_head? isFirst) with
        ⟨aimed, isQueued⟩ | ⟨guard, isHeld, rfl⟩
      · obtain rfl := (governs.waiting other aimed slot (.inr isQueued)).1.2.symm.trans isOwner
        obtain ⟨again, next, isThere⟩ := queued_of_place isQueued
        obtain ⟨moved, stepped⟩ := canMove holds isThere
        exact .inr ⟨again, next, moved, isThere, stepped⟩
      · obtain rfl := (governs.held other guard isHeld).1.2.symm.trans isOwner
        exact .inl isHeld

/-- Nobody is at the gate of a role's slot if nobody has a guard of the role or waits for one there. -/
theorem queue_eq_nil {role : RoleId} {slot : SlotId}
    (isPublished : machine.world.cache.published role = some slot)
    (isFree : ∀ task, ∀ guard ∈ custody.hands task, guard.role = role → Removed log guard.slot)
    (noneWaits : ∀ (task : TaskId) again next, machine.tasks[task]? ≠ some (.queued role slot again next)) :
    (machine.world.cache.slot slot).queue = [] := by
  have governs := watched.governs
  have isOwner := (governs.published role slot isPublished).2
  refine List.eq_nil_iff_forall_not_mem.mpr fun task isListed => ?_
  rcases (governs.present slot task).mp isListed with ⟨aimed, isQueued⟩ | ⟨guard, isHeld, rfl⟩
  · obtain rfl := (governs.waiting task aimed slot (.inr isQueued)).1.2.symm.trans isOwner
    obtain ⟨again, next, isThere⟩ := queued_of_place isQueued
    exact noneWaits task again next isThere
  · have isRole := (governs.held task guard isHeld).1.2.symm.trans isOwner
    exact watched.not_removed_of_published isPublished (isFree task guard isHeld isRole)

end Watched

/-- A task that finds the gate of a role's slot free, or the role without a slot, has the guard of the role
within three moves, whatever else it has in hand. -/
theorem acquires_of_free {role : RoleId} {next : SlotId → Program Answer} {call : Program Answer}
    (awaits : call.Awaits role next) (present : machine.tasks[task]? = some (.running call))
    (isThere : call = .lock role next ∨ ∃ slot, machine.world.cache.published role = some slot)
    (isFree : ∀ slot, machine.world.cache.published role = some slot →
      (machine.world.cache.slot slot).queue = []) :
    ∃ slot before after, machine.follow? [task, task] = some ([], before) ∧
      before.Acquires task ⟨role, slot⟩ after := by
  -- The task reaches the slot, whose queue is empty, and joins it as the first.
  have reaches : ∃ slot world, Task.Moves task machine.world (.running call) []
      (.arriving role slot call next) world ∧ world.cache.published role = some slot ∧
        (world.cache.slot slot).queue = [] := by
    rcases awaits with rfl | ⟨absent, rfl⟩
    · cases opened : machine.world.cache.openSlot role with
      | mk slot cache =>
          refine ⟨slot, _, .reach opened, Cache.published_of_openSlot opened, ?_⟩
          rcases Cache.openSlot_cases opened with ⟨isPublished, rfl⟩ | ⟨_, rfl, _, _, slots⟩
          · exact isFree slot isPublished
          · change (cache.slot machine.world.cache.made).queue = []
            rw [slots, if_pos rfl]
    · obtain ⟨slot, isPublished⟩ := isThere.resolve_left (by simp)
      exact ⟨slot, _, .aim isPublished, isPublished, isFree slot isPublished⟩
  obtain ⟨slot, world, reaching, isPublished, isEmpty⟩ := reaches
  obtain ⟨reached, reachedSilent⟩ := step?_of_moves present reaching
  have isThere : (Machine.mk world (machine.tasks.set task (.arriving role slot call next))).tasks[task]? =
      some (.arriving role slot call next) := by
    simp [List.getElem?_set_self', present]
  obtain ⟨joined, joinedSilent⟩ := step?_of_moves isThere .join
  rw [List.set_set] at joined
  have isQueued : (Machine.mk (world.setCache (world.cache.join slot task))
      (machine.tasks.set task (.queued role slot call next))).tasks[task]? =
        some (.queued role slot call next) := by
    simp [List.getElem?_set_self', present]
  have isFirst : (world.cache.join slot task).holds slot task = true := by
    rw [Cache.holds_iff, Cache.queue_join, if_pos rfl, isEmpty]
    rfl
  have entered := (step?_of_moves isQueued (.enter isFirst isPublished)).1
  refine ⟨slot, _, _, ?_, ⟨call, next, isQueued⟩, isFirst, isPublished, entered⟩
  simp [follow?, reached, joined, reachedSilent, joinedSilent]

/-- The guards of a role exclude each other, and those of one role have nothing to do with another one. -/
structure Excludes (mayLand : Machine Store Answer → RoleId → Prop) (begun : Machine Store Answer)
    (log : List Deed) (machine : Machine Store Answer) : Prop where
  /-- Whoever has a guard in hand is the one who holds the gate of its slot. -/
  holds : ∀ task guard, InHand mayLand begun log machine task guard →
    machine.world.cache.holds guard.slot task = true
  /-- There is at most one guard of a role whose slot was not removed. -/
  alone : ∀ task other guard rival, InHand mayLand begun log machine task guard →
    InHand mayLand begun log machine other rival → rival.role = guard.role →
      ¬ Removed log guard.slot → ¬ Removed log rival.slot → other = task ∧ rival = guard
  published : ∀ task guard, InHand mayLand begun log machine task guard → ¬ Removed log guard.slot →
    machine.world.cache.published guard.role = some guard.slot
  /-- A slot that was removed is not published again, under whatever role. -/
  gone : ∀ slot, Removed log slot → ∀ role, machine.world.cache.published role ≠ some slot
  /-- A slot leaves the cache only as the holder of its gate takes it out. -/
  taken : ∀ deeds after role slot, machine.Turn deeds after →
    machine.world.cache.published role = some slot → after.world.cache.published role ≠ some slot →
      ∃ task, deeds = [⟨task, .withdraw role slot, ()⟩] ∧
        InHand mayLand begun log machine task ⟨role, slot⟩ ∧ machine.world.cache.holds slot task = true
  /-- A reader who sees a snapshot sees that of the published slot. -/
  shown : ∀ task role snapshot, machine.deed? task = some ⟨task, .peek role, some snapshot⟩ →
    ∃ slot, machine.world.cache.published role = some slot ∧ ¬ Removed log slot ∧
      (machine.world.cache.slot slot).snapshot = some snapshot
  /-- A task that cannot go on waits for somebody who has a guard of the same role, or is about to take it. -/
  waits : ∀ task current, machine.tasks[task]? = some current → machine.step? task = none →
    current.isOver = true ∨ ∃ role slot again next other, current = .queued role slot again next ∧
      other ≠ task ∧ machine.world.cache.holds slot other = true ∧
        (InHand mayLand begun log machine other ⟨role, slot⟩ ∨ ∃ again next moved,
          machine.tasks[other]? = some (.queued role slot again next) ∧ machine.step? other = some moved)
  /-- A task comes by a guard with no one else's help if nobody has one of that role, nor waits for it. -/
  free : ∀ task role next call, Program.Awaits role next call → machine.tasks[task]? = some (.running call) →
    (call = .lock role next ∨ ∃ slot, machine.world.cache.published role = some slot) →
    (∀ other guard, InHand mayLand begun log machine other guard → guard.role = role →
      Removed log guard.slot) →
    (∀ (other : TaskId) slot again next, machine.tasks[other]? = some (.queued role slot again next) →
      machine.world.cache.published role ≠ some slot) →
    ∃ slot before after, machine.follow? [task, task] = some ([], before) ∧
      before.Acquires task ⟨role, slot⟩ after

/-- However tasks take turns, and whoever is dropped on the way, their guards exclude each other. Nothing is
asked of the tasks but that they act by the guards that they have, which they give up in the end. A call that
is under way while its caller has a guard of the same role, or that may be dropped while its caller goes on,
is a task of its own. -/
theorem guards_exclude {world : World Store} {programs : List (Program Answer)} (atRest : world.cache.AtRest)
    (prudent : ∀ program ∈ programs, program.Prudent [])
    (run : RoughRun mayLand (load world programs) log machine) :
    Excludes mayLand (load world programs) log machine := by
  obtain ⟨custody, watched⟩ := Watched.ofRun atRest prudent run
  have holds : ∀ task guard, InHand mayLand (load world programs) log machine task guard →
      machine.world.cache.holds guard.slot task = true := by
    intro task guard isHeld
    obtain ⟨custody, watched, isThere⟩ := isHeld.watched atRest prudent
    exact (Cache.holds_iff _).mpr (watched.governs.held task guard isThere).2
  have published : ∀ task guard, InHand mayLand (load world programs) log machine task guard →
      ¬ Removed log guard.slot → machine.world.cache.published guard.role = some guard.slot := by
    intro task guard isHeld isKept
    obtain ⟨custody, watched, isThere⟩ := isHeld.watched atRest prudent
    exact (watched.kept task guard isThere).resolve_right isKept
  refine ⟨holds, ?_, published, fun slot isRemoved => (watched.removed slot isRemoved).2, ?_, ?_, ?_, ?_⟩
  · rintro task other ⟨role, slot⟩ ⟨_, rivalSlot⟩ isHeld isRival rfl isKept isRivalKept
    -- Both slots are the published one, and its gate has only one holder.
    obtain rfl : slot = rivalSlot := Option.some.inj
      ((published task _ isHeld isKept).symm.trans (published other _ isRival isRivalKept))
    have isFirst := (Cache.holds_iff _).mp (holds task _ isHeld)
    have isFirstToo := (Cache.holds_iff _).mp (holds other _ isRival)
    exact ⟨Option.some.inj (isFirstToo.symm.trans isFirst), rfl⟩
  · intro deeds after role slot turned wasPublished isGone
    obtain ⟨task, isDeed, isHeld⟩ := watched.withdraws turned wasPublished isGone
    exact ⟨task, isDeed, watched.inHand isHeld, holds task _ (watched.inHand isHeld)⟩
  · intro task role snapshot isDeed
    obtain ⟨isReply, _⟩ := present_of_deed? isDeed
    obtain ⟨slot, isPublished, isSnapshot⟩ := Option.bind_eq_some_iff.mp
      (show machine.world.cache.get role = some snapshot by simpa [World.perform, eq_comm] using isReply)
    exact ⟨slot, isPublished, watched.not_removed_of_published isPublished, isSnapshot⟩
  · intro task current present isStuck
    rcases watched.waits present isStuck with isOver | ⟨role, slot, again, next, other, isQueued, isOther, isFirst, has⟩
    · exact .inl isOver
    · exact .inr ⟨role, slot, again, next, other, isQueued, isOther, isFirst, has.imp_left watched.inHand⟩
  · intro task role next call awaits present isThere isFree noneWaits
    refine acquires_of_free awaits present isThere fun slot isPublished => ?_
    refine watched.queue_eq_nil isPublished (fun other guard isHeld => isFree other guard (watched.inHand isHeld)) ?_
    exact fun other again rest isQueued => noneWaits other slot again rest isQueued isPublished

end Machine

section Office

/-- One task takes hold of both roles of the office and removes the entry of the first. Two others want that
one for themselves, and so does the fourth, which is to read the role. -/
def Program.contest : List (Program Unit) :=
  [do
      let first ← Program.enter keeper.id
      let second ← Program.enter clerk.id
      Program.evict keeper.id first
      Program.take (.release second),
    Authorization.invalidate keeper.id,
    do
      let slot ← Program.enter keeper.id
      Program.take (.release slot),
    do
      let _ ← Authorization.resolve keeper.id]

theorem Program.prudent_contest : ∀ program ∈ contest, program.Prudent [] := by
  simp only [contest, List.mem_cons, List.not_mem_nil, or_false]
  have isNamed : keeper.id ≠ clerk.id := by decide
  rintro program (rfl | rfl | rfl | rfl)
  · refine ⟨by simp, fun first _ => ⟨by simpa using isNamed, fun second isOther => ?_⟩⟩
    have isApart : first ≠ second := isOther _ (List.mem_singleton_self _)
    simp [Program.Prudent, Program.evict, Program.take, Program.bind, Action.Covered, Action.keep, isApart.symm]
  · exact Program.Orderly.prudent (Authorization.invalidate_ensures (.inl rfl) rfl)
  · exact ⟨by simp, fun slot _ => ⟨by simp [Action.Covered], fun _ => by simp [Action.keep, Program.Prudent]⟩⟩
  · refine Program.Orderly.prudent ((Program.ensures_bind _ _).mpr ?_)
    exact Authorization.resolve_ensures (fun _ _ => rfl) (fun _ => rfl) fun _ _ => rfl

def Machine.contest : List Deed × Machine MemoryStore Unit :=
  ((load (.start .office RoleId.drawn) Program.contest).follow?
    (List.replicate 6 0 ++ List.replicate 2 1 ++ List.replicate 2 2)).get (by decide)

/-- The second task is dropped. The first one removes the entry, and the fourth one has a guard of a fresh
one before the first gives up that of the old one, for which the third still waits. -/
def Machine.contestOver : List Deed × Machine MemoryStore Unit :=
  ((contest.2.drop 1).follow? (List.replicate 2 0 ++ List.replicate 4 3)).get (by decide)

theorem Machine.guards_exclude_contest :
    (World.start MemoryStore.office RoleId.drawn).cache.AtRest ∧
      (∀ program ∈ Program.contest, program.Prudent []) ∧
      contestOver.2.world.cache.holds 0 0 = true ∧ contestOver.2.world.cache.holds 1 0 = true ∧
      contestOver.2.world.cache.holds 2 3 = true ∧
      contestOver.2.world.cache.published keeper.id = some 2 ∧
      RoughRun (fun _ _ => True) (load (.start .office RoleId.drawn) Program.contest)
        (contest.1 ++ contestOver.1) contestOver.2 ∧
      Excludes (fun _ _ => True) (load (.start .office RoleId.drawn) Program.contest)
        (contest.1 ++ contestOver.1) contestOver.2 := by
  have run : RoughRun (fun _ _ => True) (load (.start .office RoleId.drawn) Program.contest)
      (contest.1 ++ contestOver.1) contestOver.2 :=
    .append (.drop rfl (.ofRun (Run.get _))) (Run.get _)
  exact ⟨Cache.atRest_empty, Program.prudent_contest, by decide, by decide, by decide, by decide, run,
    guards_exclude Cache.atRest_empty Program.prudent_contest run⟩

end Office

end Rolebook
