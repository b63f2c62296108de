import Rolebook.Proofs.Cache.Provenance
import Rolebook.Proofs.Task.Descent

/-!
Invalidation. The entry of a role is removed for good: once the call has come back, the slots that may be
published under the role were made after the call began, so that nothing is shown from before it. The call
may find no slot, or wait at a gate, or be sent away from one since somebody else removed the entry first.
-/

namespace Rolebook

/-- What is published under the role was made after the slots up to the limit, but for one that may be left. -/
def Cache.Renewed (cache : Cache) (role : RoleId) (limit : SlotId) (left : Option SlotId) : Prop :=
  ∀ slot, cache.published role = some slot → left = some slot ∨ limit ≤ slot

theorem Cache.Renewed.later {before after : Cache} {role : RoleId} {limit : SlotId} {left : Option SlotId}
    (renewed : before.Renewed role limit left) (precedes : before.Precedes after)
    (isEarlier : limit ≤ before.made) : after.Renewed role limit left := by
  intro slot isPublished
  rcases precedes.published role slot isPublished with wasPublished | ⟨isNew, _⟩
  · exact renewed slot wasPublished
  · exact .inr (Nat.le_trans isEarlier isNew)

theorem Cache.Renewed.withdraw {cache : Cache} {role : RoleId} {limit slot : SlotId}
    (renewed : cache.Renewed role limit (some slot)) : (cache.withdraw role slot).Renewed role limit none := by
  intro found isPublished
  rcases renewed found (published_of_withdraw isPublished) with isLeft | isNew
  · obtain rfl := Option.some.inj isLeft
    exact absurd isPublished (cache.not_published_withdraw role slot)
  · exact .inr isNew

variable {Answer : Type}

/-- How far a task has come with removing the entry of a role, before it is removed. The limit tells the
slots from before the call from those that came later. -/
inductive Task.Invalidates (role : RoleId) (rest : Unit → Program Answer) (limit : SlotId) (cache : Cache) :
    Task Answer → Prop where
  | called : Invalidates role rest limit cache (.running ((Authorization.invalidate role).bind rest))
  | arriving (slot : SlotId) : Invalidates role rest limit cache
      (.arriving role slot ((Authorization.invalidate role).bind rest)
        fun slot => (Program.evict role slot).bind rest)
  | queued (slot : SlotId) : Invalidates role rest limit cache
      (.queued role slot ((Authorization.invalidate role).bind rest)
        fun slot => (Program.evict role slot).bind rest)
  | entered {slot : SlotId} (isLast : cache.Renewed role limit (some slot)) :
      Invalidates role rest limit cache (.running ((Program.evict role slot).bind rest))
  | cleared {slot : SlotId} (isLast : cache.Renewed role limit (some slot)) :
      Invalidates role rest limit cache
        (.running (.act (.withdraw role slot) fun _ => .act (.release slot) rest))
  | dropped : Invalidates role rest limit cache .dropped

namespace Task

variable {role : RoleId} {rest : Unit → Program Answer} {limit : SlotId} {before after : Cache}
  {current : Task Answer}

theorem Invalidates.later (invalidates : current.Invalidates role rest limit before)
    (precedes : before.Precedes after) (isEarlier : limit ≤ before.made) :
    current.Invalidates role rest limit after := by
  cases invalidates with
  | called => exact .called
  | arriving slot => exact .arriving slot
  | queued slot => exact .queued slot
  | entered isLast => exact .entered (isLast.later precedes isEarlier)
  | cleared isLast => exact .cleared (isLast.later precedes isEarlier)
  | dropped => exact .dropped

theorem Invalidates.not_returned (invalidates : current.Invalidates role rest limit before) :
    current ≠ .running (rest ()) := by
  have released (slot : SlotId) : Relation.TransGen Program.Follows (rest ()) (.act (.release slot) rest) :=
    .single (@Program.Follows.act _ (.release slot) rest ())
  have cleared (slot : SlotId) : Relation.TransGen Program.Follows (rest ())
      (.act (.withdraw role slot) fun _ => .act (.release slot) rest) :=
    (released slot).tail (@Program.Follows.act _ (.withdraw role slot) (fun _ => .act (.release slot) rest) ())
  intro isReturned
  cases invalidates with
  | called =>
      have called : Relation.TransGen Program.Follows (rest ()) ((Authorization.invalidate role).bind rest) :=
        .single .absent
      exact Program.ne_of_follows called (Task.running.inj isReturned).symm
  | @entered slot =>
      have entered : Relation.TransGen Program.Follows (rest ()) ((Program.evict role slot).bind rest) :=
        (cleared slot).tail (@Program.Follows.act _ (.clear slot)
          (fun _ => .act (.withdraw role slot) fun _ => .act (.release slot) rest) ())
      exact Program.ne_of_follows entered (Task.running.inj isReturned).symm
  | @cleared slot => exact Program.ne_of_follows (cleared slot) (Task.running.inj isReturned).symm
  | arriving | queued | dropped => cases isReturned

variable {Store : Type} [Repository Store] {me : TaskId} {world next : World Store} {moved : Task Answer}
  {deeds : List Deed}

/-- With its next move a task has removed the entry of the role, or come closer to that or started over. -/
theorem Moves.invalidates (moves : current.Moves me world deeds moved next)
    (invalidates : current.Invalidates role rest limit world.cache) :
    next.cache.Renewed role limit none ∨ moved.Invalidates role rest limit next.cache := by
  cases invalidates with
  | called =>
      cases moves with
      | aim => exact .inr (.arriving _)
      | miss isAbsent => exact .inl fun slot isPublished => by simp [isAbsent] at isPublished
  | arriving slot =>
      cases moves with
      | join => exact .inr (.queued slot)
  | queued slot =>
      cases moves with
      | enter _ isPublished =>
          exact .inr (.entered fun found isFound => .inl (isPublished.symm.trans isFound))
      | retry => exact .inr .called
  | @entered slot isLast =>
      cases moves with
      | act => exact .inr (.cleared isLast)
  | @cleared slot isLast =>
      cases moves with
      | act => exact .inl isLast.withdraw
  | dropped => cases moves

end Task

namespace Machine

variable {Store : Type} [Repository Store] {mayLand : Machine Store Answer → RoleId → Prop}
  {begun ended machine after : Machine Store Answer} {during deeds : List Deed} {task : TaskId} {role : RoleId}
  {rest : Unit → Program Answer} {limit : SlotId}

def Invalidates (machine : Machine Store Answer) (task : TaskId) (role : RoleId) (rest : Unit → Program Answer)
    (limit : SlotId) : Prop :=
  machine.world.cache.Renewed role limit none ∨
    ∀ current, machine.tasks[task]? = some current → current.Invalidates role rest limit machine.world.cache

theorem Invalidates.turn (invalidates : machine.Invalidates task role rest limit)
    (turned : machine.Turn deeds after) (filed : machine.world.cache.Filed)
    (isEarlier : limit ≤ machine.world.cache.made) : after.Invalidates task role rest limit := by
  have precedes := turned.precedes filed
  rcases invalidates with isRemoved | invalidates
  · exact .inl (isRemoved.later precedes isEarlier)
  have others : ∀ current : Task Answer, machine.tasks[task]? = some current →
      current.Invalidates role rest limit after.world.cache :=
    fun current located => (invalidates current located).later precedes isEarlier
  cases turned with
  | @move me current moved deeds world present moves =>
      by_cases isMine : task = me
      · subst isMine
        refine (moves.invalidates (invalidates current present)).imp_right fun moved current located => ?_
        rcases located_set located with ⟨_, rfl⟩ | ⟨isOther, _⟩
        · exact moved
        · exact absurd rfl isOther
      · refine .inr fun current located => ?_
        rcases located_set located with ⟨isMe, _⟩ | ⟨_, wasLocated⟩
        · exact absurd isMe isMine
        · exact others current wasLocated
  | drop =>
      refine .inr fun current located => ?_
      rcases located_set located with ⟨_, rfl⟩ | ⟨_, wasLocated⟩
      · exact .dropped
      · exact others current wasLocated
  | disturb | land => exact .inr others

/-- Once the call has come back, what is published under the role was made after the call began. -/
theorem RoughRun.renewed (run : RoughRun mayLand begun during ended) (filed : begun.world.cache.Filed)
    (called : begun.tasks[task]? = some (.running ((Authorization.invalidate role).bind rest)))
    (returned : ended.tasks[task]? = some (.running (rest ()))) :
    ended.world.cache.Renewed role begun.world.cache.made none := by
  have invalidates : begun.world.cache.Precedes ended.world.cache ∧
      ended.Invalidates task role rest begun.world.cache.made := by
    apply run.lasts (motive := fun _ machine => begun.world.cache.Precedes machine.world.cache ∧
      machine.Invalidates task role rest begun.world.cache.made)
    · refine ⟨Cache.precedes_of_same rfl rfl, .inr fun current located => ?_⟩
      obtain rfl := Option.some.inj (called.symm.trans located)
      exact .called
    · rintro log before deeds after ⟨precedes, invalidates⟩ turned _
      have filedBefore := filed.later precedes
      exact ⟨precedes.trans (turned.precedes filedBefore), invalidates.turn turned filedBefore precedes.made⟩
  rcases invalidates.2 with isRemoved | isBusy
  · exact isRemoved
  · exact absurd rfl (isBusy _ returned).not_returned

/-- Whatever tasks do with the cache as long as they have a guard in hand for what they write: what readers
see of a role once its entry was invalidated was published by somebody who came by a guard after the call had
begun. If that was a load, a reconciliation or any other orderly work, it had read the role after that, too. -/
theorem nothing_earlier_shown_after_invalidate {world : World Store} {programs : List (Program Answer)}
    (filed : world.cache.Filed) (guarded : ∀ program ∈ programs, program.Guarded [])
    {before since : List Deed} {last : Machine Store Answer}
    (toBegun : RoughRun mayLand (load world programs) before begun)
    (called : begun.tasks[task]? = some (.running ((Authorization.invalidate role).bind rest)))
    (toEnded : RoughRun mayLand begun during ended)
    (returned : ended.tasks[task]? = some (.running (rest ())))
    (toLast : RoughRun mayLand ended since last) {snapshot : Role}
    (isShown : last.world.cache.get role = some snapshot) :
    ∃ publisher slot, last.world.cache.published role = some slot ∧
      Published mayLand begun (during ++ since) last publisher ⟨role, slot⟩ snapshot ∧
        ∀ program, programs[publisher]? = some program → program.Orderly →
          ReadBy (during ++ since) publisher role snapshot := by
  have atBegun := (Attributed.load filed guarded).later toBegun
  have throughout : RoughRun mayLand begun (during ++ since) last := toLast.continues _ _ toEnded
  have atLast := atBegun.later throughout
  have isRenewed : last.world.cache.Renewed role begun.world.cache.made none := by
    have isEarlier := toEnded.precedes atBegun.filed
    have renewed := toEnded.renewed atBegun.filed called returned
    exact renewed.later (toLast.precedes (atBegun.filed.later isEarlier)) isEarlier.made
  obtain ⟨slot, isPublished, isSnapshot⟩ := Option.bind_eq_some_iff.mp isShown
  have isNew : begun.world.cache.made ≤ slot := (isRenewed slot isPublished).resolve_left (by simp)
  obtain ⟨publisher, other, serves, published⟩ := atLast.shown slot snapshot isNew
    (atLast.filed role slot isPublished).isMade isSnapshot
  obtain rfl := serves.only role isPublished
  refine ⟨publisher, slot, isPublished, published, fun program located orderly => ?_⟩
  refine published.readBy (toBegun.orderly ?_)
  intro current isAtStart
  rw [load, List.getElem?_map, located] at isAtStart
  obtain rfl := Option.some.inj isAtStart
  exact ⟨.idle, [], orderly⟩

end Machine

section Office

/-- One task loads the role of the office and one invalidates it. Another one loads it, too, and replaces
its rules afterwards. -/
def Program.refresh : List (Program Outcome) :=
  [(Call.resolve keeper.id).program .strict, (Call.invalidate keeper.id).program .strict,
    ((Call.resolve keeper.id).program .strict).bind fun _ => (Call.apply keeper.id .empty).program .strict]

theorem Program.refresh_orderly {program : Program Outcome} (isListed : program ∈ refresh) :
    program.Orderly := by
  simp only [refresh, List.mem_cons, List.not_mem_nil, or_false] at isListed
  rcases isListed with rfl | rfl | rfl
  · exact Call.orderly .strict _
  · exact Call.orderly .strict _
  · exact (Call.orderly .strict _).bind fun _ => Call.orderly .strict _

def Machine.refreshBegun : List Deed × Machine MemoryStore Outcome :=
  ((load (.start .office RoleId.drawn) Program.refresh).follow? (List.replicate 6 0)).get (by decide)

def Machine.refreshEnded : List Deed × Machine MemoryStore Outcome :=
  (refreshBegun.2.follow? [1, 1, 0, 0, 1, 1, 1, 1]).get (by decide)

def Machine.refreshLast : List Deed × Machine MemoryStore Outcome :=
  (refreshEnded.2.follow? (List.replicate 17 2)).get (by decide)

/-- What the first task read too early is published, but not shown once the second one has come back. -/
theorem Machine.nothing_earlier_shown_after_invalidate_refresh :
    ⟨0, .find keeper.id, .ok (some keeper)⟩ ∈ refreshBegun.1 ∧
      ⟨0, .publish 0 keeper, ()⟩ ∈ refreshEnded.1 ∧
      refreshEnded.2.world.cache.get keeper.id = none ∧
      refreshLast.2.world.cache.get keeper.id = some stripped ∧
      ∃ publisher slot, refreshLast.2.world.cache.published keeper.id = some slot ∧
        Published (fun _ _ => True) refreshBegun.2 (refreshEnded.1 ++ refreshLast.1) refreshLast.2 publisher
          ⟨keeper.id, slot⟩ stripped ∧
          ∀ program, Program.refresh[publisher]? = some program →
            ReadBy (refreshEnded.1 ++ refreshLast.1) publisher keeper.id stripped := by
  have guarded : ∀ program ∈ Program.refresh, program.Guarded [] :=
    fun program isListed => (Program.refresh_orderly isListed).guarded
  have called : refreshBegun.2.tasks[1]? = some (.running ((Authorization.invalidate keeper.id).bind
      fun answer => .done ⟨.invalidate keeper.id, answer⟩)) := rfl
  have returned : refreshEnded.2.tasks[1]? = some (.running (.done ⟨.invalidate keeper.id, ()⟩)) := rfl
  have isRead : refreshBegun.1[2]? = some ⟨0, .find keeper.id, .ok (some keeper)⟩ := rfl
  have isPublishedLate : refreshEnded.1[0]? = some ⟨0, .publish 0 keeper, ()⟩ := rfl
  have isShown : refreshLast.2.world.cache.get keeper.id = some stripped := by decide
  have filed : (World.start MemoryStore.office RoleId.drawn).cache.Filed := Cache.atRest_empty.filed
  obtain ⟨publisher, slot, isPublished, published, reads⟩ :=
    nothing_earlier_shown_after_invalidate filed guarded (.ofRun (Run.get _)) called (.ofRun (Run.get _))
      returned (.ofRun (Run.get _)) isShown
  exact ⟨List.mem_of_getElem? isRead, List.mem_of_getElem? isPublishedLate, by decide, isShown, publisher, slot,
    isPublished, published, fun program located =>
    reads program located (Program.refresh_orderly (List.mem_of_getElem? located))⟩

end Office

end Rolebook
