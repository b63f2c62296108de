import Rolebook.Proofs.Cache.Custody
import Rolebook.Proofs.Task.Descent

/-!
Attempts at a gate. Whoever waits at the gate of a slot is sent away only if the slot was removed since it was
found in the cache, and the next one that is found there was made after that. So a call is sent away at most
once for each slot of its role that is removed while it is under way, and on no other account.
-/

namespace Rolebook

/-- A slot was removed from the cache, or a task that waited at the gate of a removed one was sent away. -/
inductive Happening where
  | removal (role : RoleId) (slot : SlotId)
  | retry (task : TaskId) (slot : SlotId)
  deriving DecidableEq

namespace Happening

def removed? (role : RoleId) : Happening → Option SlotId
  | removal other slot => if other = role then some slot else none
  | retry _ _ => none

def retried? (task : TaskId) : Happening → Option SlotId
  | removal _ _ => none
  | retry other slot => if other = task then some slot else none

end Happening

section Chronicles

variable (chronicle told : List Happening) (role : RoleId) (task : TaskId)

def removals : List SlotId :=
  chronicle.filterMap (Happening.removed? role)

def retries : List SlotId :=
  chronicle.filterMap (Happening.retried? task)

def attempts : Nat :=
  (retries chronicle task).length + 1

@[simp]
theorem removals_append : removals (chronicle ++ told) role = removals chronicle role ++ removals told role :=
  List.filterMap_append

@[simp]
theorem retries_append : retries (chronicle ++ told) task = retries chronicle task ++ retries told task :=
  List.filterMap_append

/-- At every moment the slots from which the task was sent away are some of those that were removed by then,
in the same order. -/
def Caused : Prop :=
  ∀ part, part <+: chronicle → (retries part task).Sublist (removals part role)

end Chronicles

variable {Store Answer : Type}

namespace Machine

def happening? (machine : Machine Store Answer) (me : TaskId) : Option Happening :=
  match machine.tasks[me]? with
  | some (.running (.act (.withdraw role slot) _)) =>
      if machine.world.cache.published role = some slot then some (.removal role slot) else none
  | some (.queued role slot _ _) =>
      if machine.world.cache.published role = some slot then none else some (.retry me slot)
  | _ => none

variable [Repository Store]

def tell (machine : Machine Store Answer) : List TaskId → List Happening
  | [] => []
  | task :: rest => (machine.happening? task).toList ++ ((machine.step? task).map (tell · rest)).getD []

inductive Aside (mayLand : Machine Store Answer → RoleId → Prop) (before : Machine Store Answer) :
    Machine Store Answer → Prop where
  | disturb (fault : Operation → Option ServiceError) (saveDelay ackDelay : Nat) :
      Aside mayLand before (before.disturb fault saveDelay ackDelay)
  | drop {task : TaskId} {current : Task Answer} (present : before.tasks[task]? = some current) :
      Aside mayLand before (before.drop task)
  | land {role : RoleId} {store : Store} (isAllowed : mayLand before role)
      (lands : Lands role before.world.store store) :
      Aside mayLand before { before with world := before.world.setStore store }

inductive Chronicled (mayLand : Machine Store Answer → RoleId → Prop) (start : Machine Store Answer) :
    List Happening → Machine Store Answer → Prop where
  | start : Chronicled mayLand start [] start
  | move {chronicle : List Happening} {before after : Machine Store Answer} {task : TaskId} :
      Chronicled mayLand start chronicle before → before.step? task = some after →
      Chronicled mayLand start (chronicle ++ (before.happening? task).toList) after
  | aside {chronicle : List Happening} {before after : Machine Store Answer} :
      Chronicled mayLand start chronicle before → Aside mayLand before after →
      Chronicled mayLand start chronicle after

variable {mayLand : Machine Store Answer → RoleId → Prop}
  {start before after machine : Machine Store Answer} {log : List Deed}
  {chronicle : List Happening} {me task : TaskId} {role : RoleId} {slot : SlotId}

/-- Of every run there is a chronicle. -/
theorem RoughRun.chronicled (run : RoughRun mayLand start log machine) :
    ∃ chronicle, Chronicled mayLand start chronicle machine := by
  induction run with
  | start => exact ⟨[], .start⟩
  | move _ moved inductionHypothesis =>
      obtain ⟨chronicle, told⟩ := inductionHypothesis
      exact ⟨_, told.move moved⟩
  | disturb fault saveDelay ackDelay _ inductionHypothesis =>
      obtain ⟨chronicle, told⟩ := inductionHypothesis
      exact ⟨chronicle, told.aside (.disturb fault saveDelay ackDelay)⟩
  | drop present _ inductionHypothesis =>
      obtain ⟨chronicle, told⟩ := inductionHypothesis
      exact ⟨chronicle, told.aside (.drop present)⟩
  | land isAllowed lands _ inductionHypothesis =>
      obtain ⟨chronicle, told⟩ := inductionHypothesis
      exact ⟨chronicle, told.aside (.land isAllowed lands)⟩

theorem Chronicled.follow {schedule : List TaskId} (told : Chronicled mayLand start chronicle before)
    (followed : before.follow? schedule = some (log, machine)) :
    Chronicled mayLand start (chronicle ++ before.tell schedule) machine := by
  induction schedule generalizing chronicle before log with
  | nil =>
      obtain ⟨rfl, rfl⟩ := Prod.mk.inj (Option.some.inj followed)
      simpa [tell] using told
  | cons task rest inductionHypothesis =>
      obtain ⟨after, moved, others⟩ := Option.bind_eq_some_iff.mp followed
      obtain ⟨⟨later, reached⟩, continued, isLast⟩ := Option.bind_eq_some_iff.mp others
      obtain ⟨rfl, rfl⟩ := Prod.mk.inj (Option.some.inj isLast)
      have toLast := inductionHypothesis (told.move moved) continued
      simpa [tell, moved] using toLast

theorem Chronicled.get {schedule : List TaskId} (isPossible : (machine.follow? schedule).isSome = true) :
    Chronicled mayLand machine (machine.tell schedule) ((machine.follow? schedule).get isPossible).2 := by
  have told : Chronicled mayLand machine ([] ++ machine.tell schedule)
      ((machine.follow? schedule).get isPossible).2 :=
    Chronicled.start.follow (Option.some_get isPossible).symm
  exact told

theorem published_of_move (moved : before.step? me = some after)
    (isPublished : before.world.cache.published role = some slot) :
    after.world.cache.published role = some slot ∨ slot ∈ removals (before.happening? me).toList role := by
  obtain ⟨current, left, world, present, moves, rfl⟩ := moves_of_step moved
  generalize (before.deed? me).toList = deeds at moves
  cases moves with
  | @act action next =>
      have isStill : (before.world.perform me action).2.cache.published role = some slot ∨
          action = .withdraw role slot := by
        rw [before.world.perform_cache me action]
        exact Action.published_onCache me _ isPublished
      refine isStill.imp_right fun isWithdraw => ?_
      subst isWithdraw
      simp [happening?, present, isPublished, removals, Happening.removed?]
  | reach opened => exact .inl (Cache.published_openSlot opened isPublished)
  | answer | aim | miss | join | enter | retry => exact .inl isPublished

theorem removed_by_move (moved : before.step? me = some after)
    (isRemoval : before.happening? me = some (.removal role slot)) :
    before.world.cache.published role = some slot ∧ after.world.cache.published role ≠ some slot := by
  obtain ⟨current, left, world, present, moves, rfl⟩ := moves_of_step moved
  generalize (before.deed? me).toList = deeds at moves
  unfold happening? at isRemoval
  rw [present] at isRemoval
  split at isRemoval
  · rename_i other found next isAction
    obtain rfl := Option.some.inj isAction
    split at isRemoval
    · obtain ⟨rfl, rfl⟩ := Happening.removal.inj (Option.some.inj isRemoval)
      cases moves with
      | act => exact ⟨by assumption, Cache.not_published_withdraw before.world.cache _ _⟩
    · cases isRemoval
  · split at isRemoval <;> cases isRemoval
  · cases isRemoval

omit [Repository Store] in
theorem retries_of_other (isOther : task ≠ me) : retries (machine.happening? me).toList task = [] := by
  unfold happening?
  split
  · split <;> simp [retries, Happening.retried?]
  · split <;> simp [retries, Happening.retried?, isOther.symm]
  · rfl

end Machine

/-- The slots of the role that were removed are gone for good. -/
structure Cache.Records (cache : Cache) (role : RoleId) (removed : List SlotId) : Prop where
  filed : cache.Filed
  gone : ∀ slot ∈ removed, slot < cache.made ∧ cache.published role ≠ some slot
  distinct : removed.Nodup

/-- The slot is still in the cache, or was removed after those from which somebody was sent away. -/
def Cache.Awaited (cache : Cache) (role : RoleId) (removed left : List SlotId) (slot : SlotId) : Prop :=
  ∃ earlier later, removed = earlier ++ later ∧ left.Sublist earlier ∧
    (cache.published role = some slot ∨ slot ∈ later)

namespace Cache

variable {before after : Cache} {role : RoleId} {removed left more : List SlotId} {slot : SlotId}

theorem Records.later (records : before.Records role removed) (precedes : before.Precedes after) :
    after.Records role removed where
  filed := records.filed.later precedes
  gone slot isRemoved := by
    obtain ⟨isMade, isGone⟩ := records.gone slot isRemoved
    exact ⟨Nat.lt_of_lt_of_le isMade precedes.made, precedes.stays_gone isMade isGone⟩
  distinct := records.distinct

theorem Records.remove (records : before.Records role removed) (precedes : before.Precedes after)
    (wasPublished : before.published role = some slot) (isGone : after.published role ≠ some slot) :
    after.Records role (removed ++ [slot]) where
  filed := records.filed.later precedes
  gone other isRemoved := by
    rcases List.mem_append.mp isRemoved with wasRemoved | isLast
    · exact (records.later precedes).gone other wasRemoved
    · obtain rfl := List.mem_singleton.mp isLast
      exact ⟨Nat.lt_of_lt_of_le (records.filed role other wasPublished).isMade precedes.made, isGone⟩
  distinct := by
    refine List.nodup_append.mpr ⟨records.distinct, List.nodup_singleton slot, ?_⟩
    rintro other wasRemoved _ isLast rfl
    obtain rfl := List.mem_singleton.mp isLast
    exact (records.gone other wasRemoved).2 wasPublished

theorem Awaited.later (awaited : before.Awaited role removed left slot)
    (kept : ∀ slot, before.published role = some slot → after.published role = some slot ∨ slot ∈ more) :
    after.Awaited role (removed ++ more) left slot := by
  obtain ⟨earlier, others, rfl, isPart, isPublished | isRemoved⟩ := awaited
  · exact ⟨earlier, others ++ more, List.append_assoc .., isPart,
      (kept slot isPublished).imp_right (List.mem_append_right others)⟩
  · exact ⟨earlier, others ++ more, List.append_assoc .., isPart, .inr (List.mem_append_left more isRemoved)⟩

theorem Awaited.sublist (awaited : before.Awaited role removed left slot)
    (isGone : before.published role ≠ some slot) : (left ++ [slot]).Sublist removed := by
  obtain ⟨earlier, later, rfl, isPart, isThere⟩ := awaited
  exact isPart.append (List.singleton_sublist.mpr (isThere.resolve_left isGone))

end Cache

namespace Task

/-- The task is at the call, and waits for the gate of a slot unless it has yet to find one. -/
inductive Asks (role : RoleId) (next : SlotId → Program Answer) (call : Program Answer) :
    Task Answer → Option SlotId → Prop where
  | called : Asks role next call (.running call) none
  | arriving (slot : SlotId) : Asks role next call (.arriving role slot call next) (some slot)
  | queued (slot : SlotId) : Asks role next call (.queued role slot call next) (some slot)

inductive Past (call : Program Answer) : Task Answer → Prop where
  | running {program : Program Answer} (isLater : Relation.TransGen Program.Follows program call) :
      Past call (.running program)
  | arriving {role : RoleId} {slot : SlotId} {again : Program Answer} {next : SlotId → Program Answer}
      (isLater : Relation.TransGen Program.Follows again call) (awaits : again.Awaits role next) :
      Past call (.arriving role slot again next)
  | queued {role : RoleId} {slot : SlotId} {again : Program Answer} {next : SlotId → Program Answer}
      (isLater : Relation.TransGen Program.Follows again call) (awaits : again.Awaits role next) :
      Past call (.queued role slot again next)
  | finished (answer : Answer) : Past call (.finished answer)
  | dropped : Past call .dropped

variable {role : RoleId} {next : SlotId → Program Answer} {call : Program Answer}
  {current moved : Task Answer} {aim : Option SlotId}

theorem Asks.not_past (asks : current.Asks role next call aim) : ¬ current.Past call := by
  intro past
  cases asks <;> cases past <;> exact Program.ne_of_follows (by assumption) rfl

variable [Repository Store] {me : TaskId} {world after : World Store} {deeds : List Deed}

theorem Moves.past (moves : current.Moves me world deeds moved after) (past : current.Past call) :
    moved.Past call := by
  cases past with
  | running isLater =>
      cases moves with
      | answer => exact .finished _
      | act => exact .running (.head (.act _) isLater)
      | reach => exact .arriving isLater (.inl rfl)
      | aim => exact .arriving isLater (.inr ⟨_, rfl⟩)
      | miss => exact .running (.head .absent isLater)
  | arriving isLater awaits =>
      cases moves with
      | join => exact .queued isLater awaits
  | queued isLater awaits =>
      cases moves with
      | enter => exact .running (.head (awaits.follows _) isLater)
      | retry => exact .running isLater
  | finished | dropped => cases moves

end Task

theorem Caused.extend {chronicle : List Happening} {told : Option Happening} {role : RoleId} {task : TaskId}
    (caused : Caused chronicle role task)
    (whole : (retries (chronicle ++ told.toList) task).Sublist (removals (chronicle ++ told.toList) role)) :
    Caused (chronicle ++ told.toList) role task := by
  intro part isPart
  cases told with
  | none => exact caused part (by simpa using isPart)
  | some happening =>
      rcases List.prefix_concat_iff.mp isPart with rfl | isEarlier
      · exact whole
      · exact caused part isEarlier

/-- What is known of a call from the chronicle since it began, as long as it is under way. -/
structure Cache.Pursues (cache : Cache) (role : RoleId) (chronicle : List Happening) (task : TaskId)
    (aim : Option SlotId) : Prop where
  caused : Caused chronicle role task
  awaited : ∀ slot, aim = some slot →
    cache.Awaited role (removals chronicle role) (retries chronicle task) slot

namespace Cache.Pursues

variable {cache after : Cache} {role : RoleId} {chronicle : List Happening} {task : TaskId} {slot : SlotId}
  {aim : Option SlotId}

theorem find (pursues : cache.Pursues role chronicle task none) (isPublished : cache.published role = some slot) :
    cache.Pursues role chronicle task (some slot) where
  caused := pursues.caused
  awaited found isFound := by
    obtain rfl := Option.some.inj isFound
    exact ⟨_, [], (List.append_nil _).symm, pursues.caused chronicle (List.prefix_refl _), .inl isPublished⟩

theorem wait {told : Option Happening} (pursues : cache.Pursues role chronicle task aim)
    (noRetry : retries told.toList task = [])
    (kept : ∀ slot, cache.published role = some slot →
      after.published role = some slot ∨ slot ∈ removals told.toList role) :
    after.Pursues role (chronicle ++ told.toList) task aim where
  caused := by
    refine pursues.caused.extend ?_
    rw [retries_append, noRetry, List.append_nil, removals_append]
    exact (pursues.caused chronicle (List.prefix_refl _)).trans (List.sublist_append_left _ _)
  awaited slot isAim := by
    rw [retries_append, noRetry, List.append_nil, removals_append]
    exact (pursues.awaited slot isAim).later kept

end Cache.Pursues

namespace Machine

/-- The task has done with the call, or what happened in the meantime tells how it fared. -/
structure Traces (machine : Machine Store Answer) (role : RoleId) (next : SlotId → Program Answer)
    (call : Program Answer) (chronicle : List Happening) (task : TaskId) : Prop where
  records : machine.world.cache.Records role (removals chronicle role)
  stands : ∃ current, machine.tasks[task]? = some current ∧ (current.Past call ∨
    ∃ aim, current.Asks role next call aim ∧ machine.world.cache.Pursues role chronicle task aim)

variable [Repository Store] {mayLand : Machine Store Answer → RoleId → Prop}
  {called before after machine : Machine Store Answer} {log : List Deed}
  {chronicle : List Happening} {me task : TaskId} {role : RoleId} {slot : SlotId}
  {next : SlotId → Program Answer} {call : Program Answer} {aim : Option SlotId}

theorem records_of_move {removed : List SlotId} (records : before.world.cache.Records role removed)
    (moved : before.step? me = some after) :
    after.world.cache.Records role (removed ++ removals (before.happening? me).toList role) := by
  have later := records.later ((turn_of_step moved).precedes records.filed)
  cases isTold : before.happening? me with
  | none => simpa [removals] using later
  | some happening =>
      cases happening with
      | retry other slot => simpa [removals, List.filterMap_cons, Happening.removed?] using later
      | removal other slot =>
          by_cases isRole : other = role
          · subst isRole
            obtain ⟨wasPublished, isGone⟩ := removed_by_move moved isTold
            simpa [removals, Happening.removed?] using
              records.remove ((turn_of_step moved).precedes records.filed) wasPublished isGone
          · simpa [removals, Happening.removed?, isRole] using later

/-- What one move of a task preserves of a call that is not sent away with it. -/
theorem pursues_of_move (pursues : before.world.cache.Pursues role chronicle task aim)
    (moved : before.step? me = some after) (noRetry : retries (before.happening? me).toList task = []) :
    after.world.cache.Pursues role (chronicle ++ (before.happening? me).toList) task aim :=
  pursues.wait noRetry fun _ isPublished => published_of_move moved isPublished

/-- With its own next move a call comes in at the gate, or comes closer to it, or is sent away as the slot
was removed. -/
theorem pursues_of_moves {current moved : Task Answer} {deeds : List Deed} {world : World Store}
    (pursues : before.world.cache.Pursues role chronicle task aim) (awaits : call.Awaits role next)
    (asks : current.Asks role next call aim) (present : before.tasks[task]? = some current)
    (moves : current.Moves task before.world deeds moved world) :
    moved.Past call ∨ ∃ later, moved.Asks role next call later ∧
      world.cache.Pursues role (chronicle ++ (before.happening? task).toList) task later := by
  have stepped := (step?_of_moves present moves).1
  cases asks with
  | called =>
      have waits := pursues_of_move pursues stepped
        (by rcases awaits with rfl | ⟨absent, rfl⟩ <;> simp [happening?, present, retries])
      rcases awaits with rfl | ⟨absent, rfl⟩
      · cases moves with
        | reach opened => exact .inr ⟨_, .arriving _, waits.find (Cache.published_of_openSlot opened)⟩
      · cases moves with
        | aim isPublished => exact .inr ⟨_, .arriving _, waits.find isPublished⟩
        | miss => exact .inl (.running (.single .absent))
  | arriving slot =>
      have waits := pursues_of_move pursues stepped (by simp [happening?, present, retries])
      cases moves with
      | join => exact .inr ⟨_, .queued slot, waits⟩
  | queued slot =>
      cases moves with
      | enter => exact .inl (.running (.single (awaits.follows slot)))
      | retry _ isGone =>
          have isTold : before.happening? task = some (.retry task slot) := by
            simp [happening?, present, isGone]
          refine .inr ⟨none, .called, pursues.caused.extend ?_, by simp⟩
          rw [isTold]
          simpa [removals, retries, List.filterMap_cons, Happening.removed?, Happening.retried?] using
            (pursues.awaited slot rfl).sublist isGone

theorem Traces.move (traces : before.Traces role next call chronicle task) (awaits : call.Awaits role next)
    (stepped : before.step? me = some after) :
    after.Traces role next call (chronicle ++ (before.happening? me).toList) task := by
  refine ⟨by rw [removals_append]; exact records_of_move traces.records stepped, ?_⟩
  obtain ⟨current, present, stands⟩ := traces.stands
  have isStep := stepped
  obtain ⟨mover, moved, world, isMover, moves, rfl⟩ := moves_of_step isStep
  by_cases isMine : task = me
  · subst isMine
    obtain rfl := Option.some.inj (isMover.symm.trans present)
    refine ⟨moved, by simp [List.getElem?_set_self', present], ?_⟩
    rcases stands with isPast | ⟨aim, asks, pursues⟩
    · exact .inl (moves.past isPast)
    · exact pursues_of_moves pursues awaits asks present moves
  · refine ⟨current, (List.getElem?_set_ne (Ne.symm isMine)).trans present, ?_⟩
    exact stands.imp_right fun ⟨aim, asks, pursues⟩ =>
      ⟨aim, asks, pursues_of_move pursues stepped (retries_of_other isMine)⟩

theorem Aside.cache (isAside : Aside mayLand before after) :
    after.world.cache.published = before.world.cache.published ∧ after.world.cache.made = before.world.cache.made := by
  cases isAside <;> exact ⟨rfl, rfl⟩

theorem Traces.aside (traces : before.Traces role next call chronicle task)
    (isAside : Aside mayLand before after) : after.Traces role next call chronicle task := by
  obtain ⟨samePublished, sameMade⟩ := isAside.cache
  obtain ⟨records, current, present, stands⟩ := traces
  refine ⟨records.later (Cache.precedes_of_same samePublished sameMade), ?_⟩
  have stillStands : current.Past call ∨ ∃ aim, current.Asks role next call aim ∧
      after.world.cache.Pursues role chronicle task aim := by
    refine stands.imp_right fun ⟨aim, asks, pursues⟩ => ⟨aim, asks, ?_⟩
    have kept : ∀ slot, before.world.cache.published role = some slot →
        after.world.cache.published role = some slot ∨ slot ∈ removals (none : Option Happening).toList role :=
      fun _ isPublished => .inl (samePublished ▸ isPublished)
    simpa using pursues.wait rfl kept
  cases isAside with
  | @drop me _ isThere =>
      by_cases isMine : task = me
      · subst isMine
        exact ⟨.dropped, by simp [Machine.drop, List.getElem?_set_self', present], .inl .dropped⟩
      · exact ⟨current, (List.getElem?_set_ne (Ne.symm isMine)).trans present, stillStands⟩
  | disturb | land => exact ⟨current, present, stillStands⟩

/-- What is known of a call at the end of a run in whose course it was made. -/
theorem Chronicled.traces (told : Chronicled mayLand called chronicle machine)
    (filed : called.world.cache.Filed) (awaits : call.Awaits role next)
    (begins : called.tasks[task]? = some (.running call)) :
    machine.Traces role next call chronicle task := by
  induction told with
  | start =>
      refine ⟨⟨filed, by simp [removals], List.nodup_nil⟩, _, begins, .inr ⟨none, .called, ?_, by simp⟩⟩
      intro part isPart
      rw [List.prefix_nil.mp isPart]
      exact List.Sublist.refl _
  | move _ stepped inductionHypothesis => exact inductionHypothesis.move awaits stepped
  | aside _ isAside inductionHypothesis => exact inductionHypothesis.aside isAside

/-- How a call fares that waits for the gate of a role's slot, from what happened since it began. -/
structure Fares (machine : Machine Store Answer) (role : RoleId) (next : SlotId → Program Answer)
    (call : Program Answer) (chronicle : List Happening) (task : TaskId) : Prop where
  /-- Each time that it was sent away from a gate, the slot had been removed, and each time another one. -/
  caused : Caused chronicle role task
  distinct : (removals chronicle role).Nodup ∧ (retries chronicle task).Nodup
  bounded : attempts chronicle task ≤ (removals chronicle role).length + 1
  /-- Once it has come to the gate, it comes in, unless the slot was removed since it began. -/
  enters : ∀ slot, machine.tasks[task]? = some (.queued role slot call next) →
    machine.world.cache.holds slot task = true → slot ∉ removals chronicle role →
      ∃ after, machine.Acquires task ⟨role, slot⟩ after ∧ after.tasks[task]? = some (.running (next slot))
  first : removals chronicle role = [] → attempts chronicle task = 1

theorem enter_awaits (role : RoleId) (rest : SlotId → Program Answer) :
    ((Program.enter role).bind rest).Awaits role rest :=
  .inl rfl

theorem invalidate_awaits (role : RoleId) (rest : Unit → Program Answer) :
    ((Authorization.invalidate role).bind rest).Awaits role fun slot => (Program.evict role slot).bind rest :=
  .inr ⟨_, rfl⟩

/-- In whatever order tasks move, and whoever is dropped: a call that waits for the gate of a role's slot, as
it is to take hold of the role or to remove its entry, is sent away from a gate only because the slot was
removed while the call was under way, and from each slot once. -/
theorem call_fares {world : World Store} {programs : List (Program Answer)} (filed : world.cache.Filed)
    (run : RoughRun mayLand (load world programs) log called) (awaits : call.Awaits role next)
    (begins : called.tasks[task]? = some (.running call))
    (told : Chronicled mayLand called chronicle machine) {current : Task Answer}
    (present : machine.tasks[task]? = some current) (asks : current.Asks role next call aim) :
    machine.Fares role next call chronicle task := by
  have atCall := filed.later (run.precedes filed)
  obtain ⟨records, found, isThere, stands⟩ := told.traces atCall awaits begins
  obtain rfl := Option.some.inj (isThere.symm.trans present)
  obtain ⟨aim, asking, pursues⟩ := stands.resolve_left asks.not_past
  have isPart := pursues.caused chronicle (List.prefix_refl _)
  refine ⟨pursues.caused, ⟨records.distinct, isPart.nodup records.distinct⟩, ?_, ?_, ?_⟩
  · exact Nat.succ_le_succ isPart.length_le
  · intro slot isQueued isFirst isKept
    obtain rfl := Option.some.inj (isQueued.symm.trans present)
    cases asking with
    | queued =>
        obtain ⟨earlier, later, isSplit, _, isThere⟩ := pursues.awaited slot rfl
        have isPublished := isThere.resolve_right fun isLater =>
          isKept (isSplit ▸ List.mem_append_right earlier isLater)
        have entered := (step?_of_moves present (.enter isFirst isPublished)).1
        exact ⟨_, ⟨⟨call, next, present⟩, isFirst, isPublished, entered⟩, by
          simp [List.getElem?_set_self', present]⟩
  · intro isCalm
    rw [isCalm, List.sublist_nil] at isPart
    rw [attempts, isPart, List.length_nil]

end Machine

section Office

/-- Two tasks remove the entries of the roles of the office. A third one is to take hold of the first role, and
a fourth one to remove its entry, too. -/
def Program.turnover : List (Program Unit) :=
  [do
      let slot ← Program.enter keeper.id
      Program.evict keeper.id slot,
    do
      let slot ← Program.enter clerk.id
      Program.evict clerk.id slot,
    (Program.enter keeper.id).bind fun slot => Program.take (.release slot),
    (Authorization.invalidate keeper.id).bind .done]

def Machine.turnover : List Deed × Machine MemoryStore Unit :=
  ((load (.start .office RoleId.drawn) Program.turnover).follow? (List.replicate 3 0)).get (by decide)

/-- The last two tasks come to wait, and both entries are removed. Then the two are sent away, and the third
task waits at the gate of another slot. -/
def Machine.turnoverSchedule : List TaskId :=
  List.replicate 2 2 ++ List.replicate 2 3 ++ List.replicate 6 1 ++ List.replicate 3 0 ++ [2, 3, 2, 2]

def Machine.turnoverOver : List Deed × Machine MemoryStore Unit :=
  (turnover.2.follow? turnoverSchedule).get (by decide)

theorem Machine.call_fares_turnover :
    turnover.2.tell turnoverSchedule =
        [.removal clerk.id 1, .removal keeper.id 0, .retry 2 0, .retry 3 0] ∧
      Chronicled (fun _ _ => True) turnover.2 (turnover.2.tell turnoverSchedule) turnoverOver.2 ∧
      attempts (turnover.2.tell turnoverSchedule) 2 = 2 ∧
      turnoverOver.2.world.cache.holds 2 2 = true ∧
      Fares turnoverOver.2 keeper.id (fun slot => Program.take (.release slot))
        ((Program.enter keeper.id).bind fun slot => Program.take (.release slot))
        (turnover.2.tell turnoverSchedule) 2 ∧
      Fares turnoverOver.2 keeper.id (fun slot => (Program.evict keeper.id slot).bind .done)
        ((Authorization.invalidate keeper.id).bind .done) (turnover.2.tell turnoverSchedule) 3 := by
  have filed : (World.start MemoryStore.office RoleId.drawn).cache.Filed := Cache.atRest_empty.filed
  have run : RoughRun (fun _ _ => True) (load (.start .office RoleId.drawn) Program.turnover) turnover.1 turnover.2 :=
    .ofRun (Run.get _)
  have told : Chronicled (fun _ _ => True) turnover.2 (turnover.2.tell turnoverSchedule) turnoverOver.2 := .get _
  have isWaiting : turnoverOver.2.tasks[2]? = some (.queued keeper.id 2
      ((Program.enter keeper.id).bind fun slot => Program.take (.release slot))
        fun slot => Program.take (.release slot)) := rfl
  have isBack : turnoverOver.2.tasks[3]? = some (.running ((Authorization.invalidate keeper.id).bind .done)) := rfl
  exact ⟨by decide, told, by decide, by decide,
    call_fares filed run (enter_awaits _ _) rfl told isWaiting (.queued 2),
    call_fares filed run (invalidate_awaits _ _) rfl told isBack .called⟩

end Office

end Rolebook
