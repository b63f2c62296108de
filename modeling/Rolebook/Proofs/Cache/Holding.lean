import Rolebook.Proofs.Cache.Custody

/-!
Guards in hand. In the course of a run guards are come by and given up, and slots are removed. Whoever has a
guard in hand has its gate in custody, and its slot is still in the cache unless it was removed, in which case
it stays away.
-/

namespace Rolebook

def Removed (log : List Deed) (slot : SlotId) : Prop :=
  ∃ task role, ⟨task, .withdraw role slot, ()⟩ ∈ log

@[simp]
theorem not_removed_nil (slot : SlotId) : ¬ Removed [] slot := by
  simp [Removed]

theorem removed_append {earlier later : List Deed} {slot : SlotId} :
    Removed (earlier ++ later) slot ↔ Removed earlier slot ∨ Removed later slot := by
  simp only [Removed, List.mem_append, exists_or]

variable {Store Answer : Type}

namespace Machine

theorem place_of_present {machine : Machine Store Answer} {task : TaskId} {current : Task Answer}
    (present : machine.tasks[task]? = some current) : machine.place task = current.place := by
  rw [place, present]

theorem place_set {machine : Machine Store Answer} {me : TaskId} {current : Task Answer}
    (present : machine.tasks[me]? = some current) (world : World Store) (moved : Task Answer) :
    place (⟨world, machine.tasks.set me moved⟩ : Machine Store Answer) =
      Function.update machine.place me moved.place := by
  funext task
  by_cases isMine : task = me
  · subst isMine
    simp [place, List.getElem?_set_self', present]
  · simp [place, List.getElem?_set_ne (Ne.symm isMine), Function.update_of_ne isMine]

theorem place_drop (machine : Machine Store Answer) (me : TaskId) :
    (machine.drop me).place = Function.update machine.place me .inside := by
  cases present : machine.tasks[me]? with
  | some current => exact place_set present _ _
  | none =>
      have isInside : machine.place me = .inside := by rw [place, present]
      rw [← isInside, Function.update_eq_self]
      have isBeyond : machine.tasks.length ≤ me := List.getElem?_eq_none_iff.mp present
      unfold place drop
      rw [List.set_eq_of_length_le isBeyond]

end Machine

variable [Repository Store]

namespace Machine

variable {mayLand : Machine Store Answer → RoleId → Prop} {begun machine after : Machine Store Answer}
  {log deeds : List Deed} {custody later : Custody} {me task other : TaskId} {guard rival : Guard}

/-- A task has a guard in hand: it has come by it in the course of the run, and since then it has neither
given it up nor was it dropped. -/
def InHand (mayLand : Machine Store Answer → RoleId → Prop) (begun : Machine Store Answer) (log : List Deed)
    (machine : Machine Store Answer) (task : TaskId) (guard : Guard) : Prop :=
  Acquired mayLand begun log machine task guard ∧ machine.tasks[task]? ≠ some .dropped

/-- Every task is prudent with its guards. One that there is not is like one that was dropped. -/
def Prudent (machine : Machine Store Answer) (hands : TaskId → List Guard) : Prop :=
  ∀ task, (machine.tasks[task]?.getD Task.dropped).Prudent (hands task)

/-- The custody tells rightly who has which guards in hand, and the slots that were removed stay so. -/
structure Watched (mayLand : Machine Store Answer → RoleId → Prop) (begun : Machine Store Answer)
    (log : List Deed) (machine : Machine Store Answer) (custody : Custody) : Prop where
  run : RoughRun mayLand begun log machine
  governs : custody.Governs machine.world.cache machine.place
  prudent : machine.Prudent custody.hands
  acquired : ∀ task, ∀ guard ∈ custody.hands task, Acquired mayLand begun log machine task guard
  kept : ∀ task, ∀ guard ∈ custody.hands task,
    machine.world.cache.published guard.role = some guard.slot ∨ Removed log guard.slot
  removed : ∀ slot, Removed log slot →
    slot < machine.world.cache.made ∧ ∀ role, machine.world.cache.published role ≠ some slot

/-- Guards stay in hand until they are given up or their holder is dropped, and are had before or come by. -/
structure Passes (before : Machine Store Answer) (deeds : List Deed) (after : Machine Store Answer)
    (custody later : Custody) : Prop where
  stays : ∀ task, ∀ guard ∈ custody.hands task, after.tasks[task]? ≠ some .dropped →
    (∀ deed ∈ deeds, deed.task = task → deed.action ≠ .release guard.slot) → guard ∈ later.hands task
  comes : ∀ task, ∀ guard ∈ later.hands task,
    (guard ∈ custody.hands task ∧ ∀ deed ∈ deeds, deed.task = task → deed.action ≠ .release guard.slot) ∨
      before.Acquires task guard after ∧ deeds = []

theorem Passes.of_same (sameHands : later.hands = custody.hands) : Passes machine [] after custody later where
  stays _ _ isHeld _ _ := sameHands ▸ isHeld
  comes _ _ isHeld := .inl ⟨sameHands ▸ isHeld, by simp⟩

theorem Passes.give (acquires : machine.Acquires me guard after) :
    Passes machine [] after custody (custody.give me guard) where
  stays task other isHeld _ _ := by
    by_cases isMine : task = me
    · subst isMine
      rw [custody.hands_give_self]
      exact List.mem_cons_of_mem _ isHeld
    · rwa [custody.hands_give_of_ne me isMine]
  comes task other isHeld := by
    by_cases isMine : task = me
    · subst isMine
      rw [custody.hands_give_self] at isHeld
      rcases List.mem_cons.mp isHeld with rfl | wasHeld
      · exact .inr ⟨acquires, rfl⟩
      · exact .inl ⟨wasHeld, by simp⟩
    · rw [custody.hands_give_of_ne me isMine] at isHeld
      exact .inl ⟨isHeld, by simp⟩

/-- A task goes away from the gates of some slots, as it gives up its guards of these or is dropped. -/
theorem Passes.part {gone : SlotId → Bool}
    (areMine : ∀ deed ∈ deeds, deed.task = me)
    (isGone : ∀ slot, gone slot = true → after.tasks[me]? = some .dropped ∨
      ∃ deed ∈ deeds, deed.action = .release slot)
    (isKept : ∀ slot, gone slot = false → ∀ deed ∈ deeds, deed.action ≠ .release slot) :
    Passes machine deeds after custody (custody.part me gone) where
  stays task guard isHeld isThere notReleased := by
    by_cases isMine : task = me
    · subst isMine
      rw [custody.hands_part_self]
      refine List.mem_filter.mpr ⟨isHeld, ?_⟩
      by_contra isAway
      rcases isGone guard.slot (by simpa using isAway) with isDropped | ⟨deed, isDone, isRelease⟩
      · exact isThere isDropped
      · exact notReleased deed isDone (areMine deed isDone) isRelease
    · rwa [custody.hands_part_of_ne me isMine]
  comes task guard isHeld := by
    refine .inl ⟨custody.mem_hands_part me isHeld, fun deed isDone isTask => ?_⟩
    obtain rfl := (areMine deed isDone).symm.trans isTask
    rw [custody.hands_part_self] at isHeld
    exact isKept guard.slot (by simpa using (List.mem_filter.mp isHeld).2) deed isDone

theorem Passes.act (action : Action) (reply : action.Reply) :
    Passes machine [⟨me, action, reply⟩] after custody (custody.part me action.givesUp) := by
  apply Passes.part
  · simp
  · intro slot isGone
    exact .inr ⟨_, List.mem_singleton_self _, Action.givesUp_iff.mp isGone⟩
  · intro slot isKept deed isDone isRelease
    obtain rfl := List.mem_singleton.mp isDone
    rw [Action.givesUp_iff.mpr isRelease] at isKept
    cases isKept

omit [Repository Store] in
theorem queued_of_place {role : RoleId} {slot : SlotId} (isQueued : machine.place task = .queued role slot) :
    ∃ again next, machine.tasks[task]? = some (.queued role slot again next) := by
  unfold place at isQueued
  split at isQueued
  · rename_i current present
    cases current with
    | queued =>
        obtain ⟨rfl, rfl⟩ := Place.queued.inj isQueued
        exact ⟨_, _, present⟩
    | _ => cases isQueued
  · cases isQueued

omit [Repository Store] in
theorem Prudent.of_present (prudent : machine.Prudent custody.hands) {current : Task Answer}
    (present : machine.tasks[task]? = some current) : current.Prudent (custody.hands task) := by
  simpa [present] using prudent task

omit [Repository Store] in
theorem Prudent.of_absent (prudent : machine.Prudent custody.hands) (isAbsent : machine.tasks[task]? = none) :
    custody.hands task = [] := by
  have isPrudent := prudent task
  rw [isAbsent] at isPrudent
  exact isPrudent

omit [Repository Store] in
theorem Prudent.set (prudent : machine.Prudent custody.hands) (world : World Store) {moved : Task Answer}
    (others : ∀ task, task ≠ me → later.hands task = custody.hands task)
    (mine : moved.Prudent (later.hands me)) (isNobody : machine.tasks[me]? = none → later.hands me = []) :
    Prudent (⟨world, machine.tasks.set me moved⟩ : Machine Store Answer) later.hands := by
  intro task
  by_cases isMine : task = me
  · subst isMine
    cases present : machine.tasks[task]? with
    | none =>
        simp only [List.getElem?_set_self', present]
        exact isNobody present
    | some current => simpa [List.getElem?_set_self', present] using mine
  · rw [List.getElem?_set_ne (Ne.symm isMine), others task isMine]
    exact prudent task

namespace Acquires

theorem eq_set (acquires : machine.Acquires task guard after) :
    ∃ again next, machine.tasks[task]? = some (.queued guard.role guard.slot again next) ∧
      after = ⟨machine.world, machine.tasks.set task (.running (next guard.slot))⟩ := by
  obtain ⟨again, next, present⟩ := acquires.waits
  have moved := (step?_of_moves present (.enter acquires.isFirst acquires.isPublished)).1
  exact ⟨again, next, present, Option.some.inj (acquires.moved.symm.trans moved)⟩

theorem turn (acquires : machine.Acquires task guard after) : machine.Turn [] after := by
  obtain ⟨again, next, present, rfl⟩ := acquires.eq_set
  exact .move present (.enter acquires.isFirst acquires.isPublished)

theorem continues (acquires : machine.Acquires task guard after) : Continues mayLand machine [] after := by
  obtain ⟨again, next, present, _⟩ := acquires.eq_set
  have isSilent : (machine.deed? task).toList = [] :=
    (step?_of_moves present (.enter acquires.isFirst acquires.isPublished)).2
  intro first log reached
  exact isSilent ▸ reached.move acquires.moved

end Acquires

namespace Watched

variable (watched : Watched mayLand begun log machine custody)

include watched

theorem change (turned : machine.Turn deeds after) (continues : Continues mayLand machine deeds after)
    (passes : Passes machine deeds after custody later)
    (governs : later.Governs after.world.cache after.place)
    (prudent : after.Prudent later.hands)
    (kept : ∀ role slot, machine.world.cache.published role = some slot →
      after.world.cache.published role = some slot ∨ Removed deeds slot)
    (removed : ∀ slot, Removed deeds slot →
      slot < machine.world.cache.made ∧ ∀ role, after.world.cache.published role ≠ some slot) :
    Watched mayLand begun (log ++ deeds) after later := by
  have precedes := turned.precedes watched.governs.filed
  refine ⟨continues _ _ watched.run, governs, prudent, ?_, ?_, ?_⟩
  · intro task guard isHeld
    rcases passes.comes task guard isHeld with ⟨wasHeld, notReleased⟩ | ⟨acquires, rfl⟩
    · exact (watched.acquired task guard wasHeld).extend continues notReleased
    · rw [List.append_nil]
      exact ⟨log, [], machine, after, by simp, watched.run, acquires, .start, by simp⟩
  · intro task guard isHeld
    rw [removed_append]
    rcases passes.comes task guard isHeld with ⟨wasHeld, _⟩ | ⟨acquires, rfl⟩
    · rcases watched.kept task guard wasHeld with isPublished | isRemoved
      · exact (kept guard.role guard.slot isPublished).imp_right .inr
      · exact .inr (.inl isRemoved)
    · exact (kept guard.role guard.slot acquires.isPublished).imp_right .inr
  · intro slot isRemoved
    rcases removed_append.mp isRemoved with wasRemoved | isRemovedNow
    · obtain ⟨isMade, isGone⟩ := watched.removed slot wasRemoved
      exact ⟨Nat.lt_of_lt_of_le isMade precedes.made, fun role => precedes.stays_gone isMade (isGone role)⟩
    · exact (removed slot isRemovedNow).imp_left (Nat.lt_of_lt_of_le · precedes.made)

theorem silent (turned : machine.Turn [] after) (continues : Continues mayLand machine [] after)
    (passes : Passes machine [] after custody later) (governs : later.Governs after.world.cache after.place)
    (prudent : after.Prudent later.hands)
    (kept : ∀ role slot, machine.world.cache.published role = some slot →
      after.world.cache.published role = some slot) :
    ∃ later, Watched mayLand begun (log ++ []) after later ∧ Passes machine [] after custody later :=
  ⟨later, watched.change turned continues passes governs prudent
    (fun role slot isPublished => .inl (kept role slot isPublished)) (by simp), passes⟩

theorem enter (acquires : machine.Acquires me guard after) :
    Watched mayLand begun (log ++ []) after (custody.give me guard) := by
  obtain ⟨again, next, present, rfl⟩ := acquires.eq_set
  have prudent := watched.prudent.of_present present
  refine watched.change acquires.turn acquires.continues (.give acquires) ?_ ?_
    (fun _ _ isPublished => .inl isPublished) (by simp)
  · rw [place_set present]
    exact watched.governs.enter (place_of_present present) ((Cache.holds_iff _).mp acquires.isFirst)
  · refine watched.prudent.set _ (fun task isOther => custody.hands_give_of_ne me isOther _) ?_ (by simp [present])
    rw [custody.hands_give_self]
    exact prudent.2.2 guard.slot (watched.governs.not_held_of_waiting (.inr (place_of_present present)))

/-- A task that does something without an action comes closer to a guard, or starts over. -/
theorem move_silent {current moved : Task Answer} {world : World Store}
    (present : machine.tasks[me]? = some current) (moves : current.Moves me machine.world [] moved world)
    (continues : Continues mayLand machine [] ⟨world, machine.tasks.set me moved⟩) :
    ∃ later, Watched mayLand begun (log ++ []) ⟨world, machine.tasks.set me moved⟩ later ∧
      Passes machine [] ⟨world, machine.tasks.set me moved⟩ custody later := by
  have turned : machine.Turn [] ⟨world, machine.tasks.set me moved⟩ := .move present moves
  have isPlace := place_of_present present
  have prudent := watched.prudent.of_present present
  have governs := watched.governs
  -- The guards in hand are what they were, but for one who comes in.
  have still : ∀ {later : Custody}, later.hands = custody.hands → moved.Prudent (custody.hands me) →
      Prudent (⟨world, machine.tasks.set me moved⟩ : Machine Store Answer) later.hands := by
    intro later sameHands mine
    exact watched.prudent.set world (fun task _ => by rw [sameHands]) (sameHands ▸ mine) (by simp [present])
  have governed : ∀ {later : Custody}, later.Governs world.cache (Function.update machine.place me moved.place) →
      later.Governs world.cache (place (⟨world, machine.tasks.set me moved⟩ : Machine Store Answer)) := by
    intro later governs
    rwa [place_set present]
  cases moves with
  | answer =>
      refine watched.silent turned continues (.of_same rfl) (governed ?_) (still rfl prudent) fun _ _ => id
      exact isPlace ▸ (Function.update_eq_self me machine.place).symm ▸ governs
  | @reach role slot cache next opened =>
      refine watched.silent turned continues (.of_same (custody.hands_assign role slot)) (governed ?_)
        (still rfl ⟨prudent.1, prudent, prudent.2⟩) fun _ _ => Cache.published_openSlot opened
      exact (governs.openSlot opened).aim isPlace (Cache.published_of_openSlot opened) prudent.1
  | aim isPublished =>
      refine watched.silent turned continues (.of_same rfl) (governed ?_)
        (still rfl ⟨prudent.1, prudent, prudent.2.2⟩) fun _ _ => id
      exact governs.aim isPlace isPublished prudent.1
  | miss isAbsent =>
      refine watched.silent turned continues (.of_same rfl) (governed ?_) (still rfl prudent.2.1) fun _ _ => id
      exact isPlace ▸ (Function.update_eq_self me machine.place).symm ▸ governs
  | join =>
      refine watched.silent turned continues (.of_same rfl) (governed ?_) (still rfl prudent) fun _ _ => id
      exact governs.join isPlace
  | @enter role slot again next isFirst isPublished =>
      have acquires : machine.Acquires me ⟨role, slot⟩ ⟨machine.world, machine.tasks.set me (.running (next slot))⟩ :=
        ⟨⟨again, next, present⟩, isFirst, isPublished, (step?_of_moves present (.enter isFirst isPublished)).1⟩
      exact ⟨_, watched.enter acquires, .give acquires⟩
  | @retry role slot again next isFirst isWithdrawn =>
      -- Whoever waited for a guard of the slot has none of it to give up.
      have isSame : (custody.part me fun found => decide (found = slot)).hands = custody.hands := by
        rw [Custody.part, List.filter_eq_self.mpr, Function.update_eq_self]
        intro guard isHeld
        simpa using governs.not_held_of_waiting (.inr isPlace) guard isHeld
      refine watched.silent turned continues (.of_same isSame) (governed ?_) (still isSame prudent.2.1)
        fun _ _ => id
      refine governs.leave me (fun _ _ => id) rfl (fun found => ?_) fun other found isQueued => ?_
      · simp [World.setCache]
      · rw [isPlace] at isQueued
        simpa using (Place.queued.inj isQueued).2.symm

theorem act {action : Action} {rest : action.Reply → Program Answer} {moved : Task Answer} {world : World Store}
    (present : machine.tasks[me]? = some (.running (.act action rest)))
    (moves : Task.Moves me machine.world (.running (.act action rest)) deeds moved world)
    (continues : Continues mayLand machine deeds ⟨world, machine.tasks.set me moved⟩) :
    ∃ later, Watched mayLand begun (log ++ deeds) ⟨world, machine.tasks.set me moved⟩ later ∧
      Passes machine deeds ⟨world, machine.tasks.set me moved⟩ custody later := by
  cases moves
  obtain ⟨isCovered, prudent⟩ := watched.prudent.of_present present
  have isPlace := place_of_present present
  have isCache := machine.world.perform_cache me action
  refine ⟨_, watched.change (.move present .act) continues (.act action _) ?_ ?_ ?_ ?_, .act action _⟩
  · rw [place_set present]
    refine watched.governs.leave me ?_ ?_ ?_ ?_
    · intro role slot isPublished
      rw [isCache] at isPublished
      exact Action.published_of_onCache me _ isPublished
    · simp [isCache]
    · simp [isCache, Action.queue_onCache]
    · simp [isPlace, Task.place]
  · refine watched.prudent.set _ (fun task isOther => custody.hands_part_of_ne me isOther _) ?_ (by simp [present])
    rw [custody.hands_part_self, ← Action.keep_eq]
    exact prudent _
  · intro role slot isPublished
    have isWithdrawn : (action.onCache me machine.world.cache).published role = some slot ∨
        action = .withdraw role slot := Action.published_onCache me _ isPublished
    rw [isCache]
    refine isWithdrawn.imp_right fun isWithdraw => ?_
    subst isWithdraw
    exact ⟨me, role, List.mem_singleton_self _⟩
  · rintro slot ⟨task, role, isDone⟩
    obtain ⟨rfl, rfl, _⟩ := Deed.mk.inj (List.mem_singleton.mp isDone)
    obtain ⟨isMade, isOwner⟩ := (watched.governs.held task ⟨role, slot⟩ isCovered).1
    refine ⟨isMade, fun other isPublished => ?_⟩
    rw [isCache] at isPublished
    have wasPublished := Action.published_of_onCache task _ isPublished
    obtain rfl := (watched.governs.published other slot wasPublished).2.symm.trans isOwner
    exact Cache.not_published_withdraw machine.world.cache other slot isPublished

theorem drop (continues : Continues mayLand machine [] (machine.drop me)) :
    ∃ later, Watched mayLand begun (log ++ []) (machine.drop me) later ∧
      Passes machine [] (machine.drop me) custody later := by
  have passes : Passes machine [] (machine.drop me) custody (custody.part me fun _ => true) := by
    cases present : machine.tasks[me]? with
    | none =>
        apply Passes.of_same
        rw [Custody.part, watched.prudent.of_absent present, List.filter_nil,
          ← watched.prudent.of_absent present, Function.update_eq_self]
    | some current =>
        refine .part (by simp) (fun _ _ => .inl ?_) (by simp)
        simp [Machine.drop, List.getElem?_set_self', present]
  refine watched.silent (.drop me) continues passes ?_ ?_ fun _ _ => id
  · rw [place_drop]
    exact watched.governs.leave me (fun _ _ => id) rfl (fun _ => rfl) fun _ _ _ => rfl
  · refine watched.prudent.set _ (fun task isOther => custody.hands_part_of_ne me isOther _) ?_ ?_
    · simp [Task.Prudent]
    · simp

/-- What one turn of the machine preserves. -/
theorem turn (turned : machine.Turn deeds after) (continues : Continues mayLand machine deeds after) :
    ∃ later, Watched mayLand begun (log ++ deeds) after later ∧ Passes machine deeds after custody later := by
  cases turned with
  | move present moves =>
      have moved := moves
      cases moves with
      | act => exact watched.act present moved continues
      | _ => exact watched.move_silent present moved continues
  | drop => exact watched.drop continues
  | disturb | land =>
      exact watched.silent (by constructor) continues (.of_same rfl) watched.governs watched.prudent fun _ _ => id

theorem inHand (isHeld : guard ∈ custody.hands task) : InHand mayLand begun log machine task guard := by
  refine ⟨watched.acquired task guard isHeld, fun isDropped => ?_⟩
  have isBare : custody.hands task = [] := watched.prudent.of_present isDropped
  rw [isBare] at isHeld
  cases isHeld

end Watched

theorem Watched.load {world : World Store} {programs : List (Program Answer)} (atRest : world.cache.AtRest)
    (prudent : ∀ program ∈ programs, program.Prudent []) :
    ∃ custody, Watched mayLand (Machine.load world programs) [] (Machine.load world programs) custody := by
  have own : ∀ slot, ∃ owner, ∀ role, world.cache.published role = some slot → owner = role := by
    intro slot
    by_cases isPublished : ∃ role, world.cache.published role = some slot
    · obtain ⟨owner, isOwner⟩ := isPublished
      exact ⟨owner, fun role isRole => atRest.own role owner slot isRole isOwner⟩
    · exact ⟨.drawn 0, fun role isRole => absurd ⟨role, isRole⟩ isPublished⟩
  obtain ⟨owner, isOwner⟩ := Classical.axiomOfChoice own
  have isInside : ∀ task, place (Machine.load world programs) task = .inside := by
    intro task
    unfold place Machine.load
    rw [List.getElem?_map]
    cases programs[task]? <;> rfl
  refine ⟨⟨fun _ => [], owner⟩, .start, ⟨?_, ?_, by simp, ?_, ?_⟩, ?_, by simp, by simp, by simp⟩
  · intro role slot isPublished
    exact ⟨atRest.made role slot isPublished, isOwner slot role isPublished⟩
  · intro task role slot isWaiting
    simp [isInside] at isWaiting
  · intro slot
    change (world.cache.slot slot).queue.Nodup
    rw [atRest.queue]
    exact List.nodup_nil
  · intro slot task
    change task ∈ (world.cache.slot slot).queue ↔ _
    rw [atRest.queue]
    simp [isInside]
  · intro task
    unfold Machine.load
    rw [List.getElem?_map]
    cases located : programs[task]? with
    | none => rfl
    | some program => exact prudent program (List.mem_of_getElem? located)

theorem Watched.ofRun {world : World Store} {programs : List (Program Answer)} (atRest : world.cache.AtRest)
    (prudent : ∀ program ∈ programs, program.Prudent [])
    (run : RoughRun mayLand (Machine.load world programs) log machine) :
    ∃ custody, Watched mayLand (Machine.load world programs) log machine custody := by
  refine run.lasts (motive := fun log reached => ∃ custody,
    Watched mayLand (Machine.load world programs) log reached custody) (Watched.load atRest prudent) ?_
  rintro log before deeds after ⟨custody, watched⟩ turned continues
  obtain ⟨later, stillWatched, _⟩ := watched.turn turned continues
  exact ⟨later, stillWatched⟩

theorem Turn.dropped (turned : machine.Turn deeds after) (isDropped : machine.tasks[task]? = some .dropped) :
    after.tasks[task]? = some .dropped := by
  cases turned with
  | @move me _ _ _ _ present moves =>
      by_cases isMine : me = task
      · subst isMine
        obtain rfl := Option.some.inj (present.symm.trans isDropped)
        cases moves
      · exact (List.getElem?_set_ne isMine).trans isDropped
  | drop me =>
      by_cases isMine : me = task
      · subst isMine
        simp [Machine.drop, List.getElem?_set_self', isDropped]
      · exact (List.getElem?_set_ne isMine).trans isDropped
  | disturb | land => exact isDropped

/-- Whoever has a guard in hand has it in the custody that the run leads to. -/
theorem InHand.watched {world : World Store} {programs : List (Program Answer)} (atRest : world.cache.AtRest)
    (prudent : ∀ program ∈ programs, program.Prudent [])
    (isHeld : InHand mayLand (load world programs) log machine task guard) :
    ∃ custody, Watched mayLand (load world programs) log machine custody ∧
      guard ∈ custody.hands task := by
  obtain ⟨⟨earlier, rest, before, after, rfl, run, acquires, continued, notReleased⟩, isThere⟩ := isHeld
  obtain ⟨custody, watched⟩ := Watched.ofRun atRest prudent run
  have entered := watched.enter acquires
  rw [List.append_nil] at entered
  -- As long as the guard is not given up, nor its holder dropped, it stays in hand.
  have lasting : ∃ later, Watched mayLand (load world programs) (earlier ++ rest) machine later ∧
      (machine.tasks[task]? ≠ some .dropped →
        (∀ deed ∈ rest, deed.task = task → deed.action ≠ .release guard.slot) → guard ∈ later.hands task) := by
    refine continued.lasts (motive := fun done reached => ∃ later,
      Watched mayLand (load world programs) (earlier ++ done) reached later ∧
        (reached.tasks[task]? ≠ some .dropped →
          (∀ deed ∈ done, deed.task = task → deed.action ≠ .release guard.slot) →
            guard ∈ later.hands task)) ?_ ?_
    · exact ⟨_, by rwa [List.append_nil], fun _ _ => by simp⟩
    · rintro done before deeds after ⟨custody, watched, isKept⟩ turned continues
      obtain ⟨later, stillWatched, passes⟩ := watched.turn turned continues
      refine ⟨later, by rwa [List.append_assoc] at stillWatched, fun isThere notReleased => ?_⟩
      have wasHeld : guard ∈ custody.hands task :=
        isKept (fun isDropped => isThere (turned.dropped isDropped))
          fun deed isDone => notReleased deed (List.mem_append_left _ isDone)
      exact passes.stays task guard wasHeld isThere
        fun deed isDone => notReleased deed (List.mem_append_right _ isDone)
  obtain ⟨later, stillWatched, isKept⟩ := lasting
  exact ⟨later, stillWatched, isKept isThere notReleased⟩

end Machine

end Rolebook
