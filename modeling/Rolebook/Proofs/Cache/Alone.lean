import Rolebook.Proofs.Cache.Gate
import Rolebook.Proofs.Task.Play

/-!
A task at work alone. It finds every gate free and never waits, so its program runs through. While it holds
a gate, no task is in any other queue, and once it has let go, every gate is free again.
-/

namespace Rolebook

namespace Cache

/-- One task holds the gate of a role's slot, and every other gate is free. -/
structure HeldBy (cache : Cache) (me : TaskId) (role : RoleId) (slot : SlotId) : Prop where
  published : cache.published role = some slot
  made : ∀ role slot, cache.published role = some slot → slot < cache.made
  own : ∀ role other slot, cache.published role = some slot → cache.published other = some slot →
    other = role
  queue : ∀ other, (cache.slot other).queue = if other = slot then [me] else []

variable {cache : Cache} {me : TaskId} {role : RoleId} {slot : SlotId}

theorem get_eq_ite (cache : Cache) (role other : RoleId) :
    cache.get other = if other = role then cache.get role else cache.get other := by
  split
  · rename_i isRole
    rw [isRole]
  · rfl

theorem AtRest.openSlot {after : Cache} (atRest : cache.AtRest)
    (opened : cache.openSlot role = (slot, after)) :
    after.AtRest ∧ after.published role = some slot ∧ ∀ other, after.get other = cache.get other := by
  rcases openSlot_cases opened with ⟨isPublished, rfl⟩ | ⟨isAbsent, rfl, made, published, slots⟩
  · exact ⟨atRest, isPublished, fun _ => rfl⟩
  · have old : ∀ other found, other ≠ role → after.published other = some found →
        cache.published other = some found ∧ found < cache.made := by
      intro other found isOther isPublished
      rw [published, if_neg isOther] at isPublished
      exact ⟨isPublished, atRest.made other found isPublished⟩
    have new : after.published role = some cache.made := by rw [published, if_pos rfl]
    refine ⟨⟨?_, ?_, ?_⟩, new, ?_⟩
    · intro other found isPublished
      rw [made]
      by_cases isRole : other = role
      · rw [isRole, new] at isPublished
        exact Option.some.inj isPublished ▸ Nat.lt_succ_self _
      · exact Nat.lt_succ_of_lt (old other found isRole isPublished).2
    · intro first second found isFirst isSecond
      by_cases firstIsRole : first = role <;> by_cases secondIsRole : second = role
      · rw [firstIsRole, secondIsRole]
      · rw [firstIsRole, new] at isFirst
        obtain rfl := Option.some.inj isFirst
        exact absurd (old second _ secondIsRole isSecond).2 (Nat.lt_irrefl _)
      · rw [secondIsRole, new] at isSecond
        obtain rfl := Option.some.inj isSecond
        exact absurd (old first _ firstIsRole isFirst).2 (Nat.lt_irrefl _)
      · exact atRest.own first second found (old first found firstIsRole isFirst).1
          (old second found secondIsRole isSecond).1
    · intro other
      rw [slots]
      split
      · rfl
      · exact atRest.queue other
    · exact get_openSlot atRest.made opened

theorem AtRest.join (atRest : cache.AtRest) (isPublished : cache.published role = some slot) :
    (cache.join slot me).HeldBy me role slot where
  published := isPublished
  made := atRest.made
  own := atRest.own
  queue other := by simp [atRest.queue]

namespace HeldBy

theorem snapshot (held : cache.HeldBy me role slot) : (cache.slot slot).snapshot = cache.get role := by
  simp [get, held.published]

theorem setSnapshot (held : cache.HeldBy me role slot) (snapshot : Option Role) :
    (cache.setSnapshot slot snapshot).HeldBy me role slot where
  published := held.published
  made := held.made
  own := held.own
  queue other := by rw [queue_setSnapshot, held.queue]

theorem get_setSnapshot (held : cache.HeldBy me role slot) (snapshot : Option Role) (other : RoleId) :
    (cache.setSnapshot slot snapshot).get other = if other = role then snapshot else cache.get other := by
  rw [Cache.get_setSnapshot]
  refine if_congr ⟨fun isPublished => held.own role other slot held.published isPublished, ?_⟩ rfl rfl
  rintro rfl
  exact held.published

theorem leave (held : cache.HeldBy me role slot) : (cache.leave slot me).AtRest where
  made := held.made
  own := held.own
  queue other := by
    rw [queue_leave, held.queue]
    split <;> simp

theorem withdraw (held : cache.HeldBy me role slot) :
    ((cache.withdraw role slot).leave slot me).AtRest where
  made other found isPublished := by
    rw [made_leave, made_withdraw]
    exact held.made other found (published_of_withdraw isPublished)
  own first second found isFirst isSecond :=
    held.own first second found (published_of_withdraw isFirst) (published_of_withdraw isSecond)
  queue other := by
    rw [queue_leave, slot_withdraw, held.queue]
    split <;> simp

theorem get_withdraw (held : cache.HeldBy me role slot) (other : RoleId) :
    (cache.withdraw role slot).get other = if other = role then none else cache.get other :=
  Cache.get_withdraw cache held.published other

end HeldBy

end Cache

variable {Store Answer Result : Type}

namespace Machine

/-- Whatever the replies, the tasks of the machine keep the gates in order. -/
def Orderly (machine : Machine Store Answer) : Prop :=
  ∃ scene : Scene Store, machine.Plays (fun _ => .free) (fun _ _ _ => True) scene ∧ scene.Gated

variable {world : World Store}

theorem orderly_load {program : Program Answer} (atRest : world.cache.AtRest)
    (ensured : program.Ensures .free (fun _ stance _ => stance = .idle) .idle []) :
    (load world [program]).Orderly := by
  refine ⟨Scene.start world, .load ?_, .start atRest⟩
  intro task found located
  obtain rfl := List.mem_singleton.mp (List.mem_of_getElem? located)
  exact ensured.mono fun _ _ _ isIdle => ⟨isIdle, trivial⟩

theorem Orderly.atRest {program : Program Answer} (orderly : (load world [program]).Orderly)
    (isFree : ∀ post stance writes, program.Ensures .free post stance writes → stance.grip? = none) :
    world.cache.AtRest := by
  obtain ⟨scene, plays, gated⟩ := orderly
  obtain rfl : scene.world = world := plays.world
  apply gated.atRest
  · intro task
    cases task with
    | zero => exact isFree _ _ _ (plays.tasks 0 _ rfl)
    | succ other =>
        rw [(plays.others (other + 1) rfl).1]
        rfl
  · intro task
    rw [plays.place]
    cases task <;> rfl

variable [Repository Store] [LawfulRepository Store]

theorem Orderly.step {machine after : Machine Store Answer} {task : TaskId}
    (orderly : machine.Orderly) (moved : machine.step? task = some after) : after.Orderly := by
  obtain ⟨scene, plays, gated⟩ := orderly
  obtain ⟨next, stillPlays, sceneMoved⟩ := plays.move (fun _ _ => trivial) moved
  exact ⟨next, stillPlays, gated.move sceneMoved⟩

theorem Orderly.enters {role : RoleId} {slot : SlotId} {again : Program Answer}
    {next : SlotId → Program Answer}
    (orderly : (⟨world, [.arriving role slot again next]⟩ : Machine Store Answer).Orderly)
    (atRest : world.cache.AtRest) (isPublished : world.cache.published role = some slot) :
    (load (world.setCache (world.cache.join slot 0)) [next slot]).Orderly ∧
      ∃ log, (⟨world, [.arriving role slot again next]⟩ : Machine Store Answer).Run log
        (load (world.setCache (world.cache.join slot 0)) [next slot]) := by
  have joined : step? (⟨world, [.arriving role slot again next]⟩ : Machine Store Answer) 0 =
      some ⟨world.setCache (world.cache.join slot 0), [.queued role slot again next]⟩ := rfl
  have isFirst : (world.cache.join slot 0).holds slot 0 = true := by
    simp [Cache.holds, atRest.queue]
  have entered : step? (⟨world.setCache (world.cache.join slot 0), [.queued role slot again next]⟩ :
      Machine Store Answer) 0 = some (load (world.setCache (world.cache.join slot 0)) [next slot]) := by
    simp [step?, Task.step, World.setCache, isFirst, isPublished, load]
  exact ⟨(orderly.step joined).step entered, _, .move (.move .start joined) entered⟩

/-- What a program answers when it is run alone, and the world that it leaves, are those of a machine on
which it is the only task. -/
theorem Orderly.runs {program : Program Answer} (orderly : (load world [program]).Orderly) :
    ∃ log, (load world [program]).Run log
      ⟨(program.run 0 world).2, [.finished (program.run 0 world).1]⟩ := by
  induction program generalizing world with
  | done answer =>
      have answered : (load world [.done answer]).step? 0 = some ⟨world, [.finished answer]⟩ := rfl
      exact ⟨_, .move .start answered⟩
  | act action next inductionHypothesis =>
      have moved : (load world [.act action next]).step? 0 =
          some (load (world.perform 0 action).2 [next (world.perform 0 action).1]) := rfl
      obtain ⟨log, run⟩ := inductionHypothesis _ (orderly.step moved)
      exact ⟨_, (Run.start.move moved).append run⟩
  | lock role next inductionHypothesis =>
      have atRest := orderly.atRest fun _ _ _ ensured => by
        rw [ensured.1]
        rfl
      cases opened : world.cache.openSlot role with
      | mk slot cache =>
          obtain ⟨stillAtRest, isPublished, _⟩ := atRest.openSlot opened
          have aimed : (load world [.lock role next]).step? 0 =
              some ⟨world.setCache cache, [.arriving role slot (.lock role next) next]⟩ := by
            simp [step?, Task.step, load, opened, World.setCache]
          obtain ⟨stillOrderly, log, entered⟩ := (orderly.step aimed).enters stillAtRest isPublished
          obtain ⟨rest, run⟩ := inductionHypothesis slot stillOrderly
          simp only [Program.run, opened]
          exact ⟨_, ((Run.start.move aimed).append entered).append run⟩
  | lockPublished role absent next absentHypothesis nextHypothesis =>
      have atRest := orderly.atRest fun _ _ _ ensured => by
        rcases ensured.1 with rfl | rfl <;> rfl
      cases isPublished : world.cache.published role with
      | none =>
          have missed : (load world [.lockPublished role absent next]).step? 0 =
              some (load world [absent]) := by
            simp [step?, Task.step, load, isPublished]
          obtain ⟨log, run⟩ := absentHypothesis (orderly.step missed)
          simp only [Program.run, isPublished]
          exact ⟨_, (Run.start.move missed).append run⟩
      | some slot =>
          have aimed : (load world [.lockPublished role absent next]).step? 0 =
              some ⟨world, [.arriving role slot (.lockPublished role absent next) next]⟩ := by
            simp [step?, Task.step, load, isPublished]
          obtain ⟨stillOrderly, log, entered⟩ := (orderly.step aimed).enters atRest isPublished
          obtain ⟨rest, run⟩ := nextHypothesis slot stillOrderly
          simp only [Program.run, isPublished]
          exact ⟨_, ((Run.start.move aimed).append entered).append run⟩

end Machine

namespace Program

variable [Repository Store]

def Yields (me : TaskId) (post : Answer → World Store → Prop) (program : Program Answer)
    (world : World Store) : Prop :=
  post (program.run me world).1 (program.run me world).2

variable {me : TaskId} {world : World Store} {role : RoleId} {slot : SlotId}

@[simp]
theorem yields_bind {post : Result → World Store → Prop} (program : Program Answer)
    (rest : Answer → Program Result) :
    (program.bind rest).Yields me post world ↔
      program.Yields me (fun answer => (rest answer).Yields me post) world := by
  simp only [Yields, run_bind]

theorem Yields.mono {strong weak : Answer → World Store → Prop} {program : Program Answer}
    (yields : program.Yields me strong world) (implied : ∀ answer after, strong answer after →
      weak answer after) : program.Yields me weak world :=
  implied _ _ yields

theorem yields_lock {post : Answer → World Store → Prop} {next : SlotId → Program Answer}
    (atRest : world.cache.AtRest)
    (continued : ∀ slot cache, cache.HeldBy me role slot →
      (∀ other, cache.get other = world.cache.get other) →
        (next slot).Yields me post (world.setCache cache)) :
    (Program.lock role next).Yields me post world := by
  cases opened : world.cache.openSlot role with
  | mk slot cache =>
      obtain ⟨stillAtRest, isPublished, same⟩ := atRest.openSlot opened
      simp only [Yields, run, opened]
      exact continued slot (cache.join slot me) (stillAtRest.join isPublished) (by simp [same])

theorem yields_lockPublished {post : Answer → World Store → Prop} {absent : Program Answer}
    {next : SlotId → Program Answer} (atRest : world.cache.AtRest)
    (missed : world.cache.published role = none → absent.Yields me post world)
    (continued : ∀ slot cache, cache.HeldBy me role slot →
      (∀ other, cache.get other = world.cache.get other) →
        (next slot).Yields me post (world.setCache cache)) :
    (Program.lockPublished role absent next).Yields me post world := by
  unfold Yields run
  split
  · rename_i isAbsent
    exact missed isAbsent
  · rename_i slot isPublished
    exact continued slot _ (atRest.join isPublished) (by simp)

theorem yields_act {post : Answer → World Store → Prop} {action : Action}
    {next : action.Reply → Program Answer}
    (continued : ∀ reply after, world.perform me action = (reply, after) →
      (next reply).Yields me post after) :
    (Program.act action next).Yields me post world :=
  continued _ _ rfl

theorem yields_peek {post : Answer → World Store → Prop} {next : Option Role → Program Answer}
    (continued : ∀ shown, world.cache.get role = shown → (next shown).Yields me post world) :
    (Program.act (.peek role) next).Yields me post world :=
  continued _ rfl

theorem yields_current {post : Answer → World Store → Prop} {next : Option Role → Program Answer}
    (held : world.cache.HeldBy me role slot)
    (continued : ∀ shown, world.cache.get role = shown → (next shown).Yields me post world) :
    (Program.act (.current slot) next).Yields me post world :=
  continued _ held.snapshot.symm

theorem yields_release {post : Answer → World Store → Prop} {next : Unit → Program Answer}
    (held : world.cache.HeldBy me role slot)
    (continued : ∀ cache, cache.AtRest → (∀ other, cache.get other = world.cache.get other) →
      (next ()).Yields me post (world.setCache cache)) :
    (Program.act (.release slot) next).Yields me post world :=
  continued _ held.leave (by simp)

theorem yields_publish {post : Answer → World Store → Prop} {next : Unit → Program Answer} {shown : Role}
    (held : world.cache.HeldBy me role slot)
    (continued : ∀ cache, cache.HeldBy me role slot →
      (∀ other, cache.get other = if other = role then some shown else world.cache.get other) →
        (next ()).Yields me post (world.setCache cache)) :
    (Program.act (.publish slot shown) next).Yields me post world :=
  continued _ (held.setSnapshot _) (held.get_setSnapshot _)

theorem yields_clear {post : Answer → World Store → Prop} {next : Unit → Program Answer}
    (held : world.cache.HeldBy me role slot)
    (continued : ∀ cache, cache.HeldBy me role slot →
      (∀ other, cache.get other = if other = role then none else world.cache.get other) →
        (next ()).Yields me post (world.setCache cache)) :
    (Program.act (.clear slot) next).Yields me post world :=
  continued _ (held.setSnapshot _) (held.get_setSnapshot _)

theorem yields_evict {post : Unit → World Store → Prop} (held : world.cache.HeldBy me role slot)
    (evicted : ∀ cache, cache.AtRest →
      (∀ other, cache.get other = if other = role then none else world.cache.get other) →
        post () (world.setCache cache)) :
    (evict role slot).Yields me post world := by
  apply yields_clear held
  intro cleared stillHeld cleans
  refine evicted ((cleared.withdraw role slot).leave slot me) stillHeld.withdraw ?_
  intro other
  rw [Cache.get_leave, stillHeld.get_withdraw, cleans]
  split <;> rfl

end Program

end Rolebook
