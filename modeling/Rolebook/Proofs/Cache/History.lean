import Rolebook.Proofs.Cache.Guard

/-!
Histories. What a task may do can depend on what it did before and at which gates it came in. A program that
keeps to that whatever it is told keeps to it in every run, in which the slots of those gates serve the roles
for which the task came in.
-/

namespace Rolebook

variable {Answer Result : Type} {allows : List Guard → List Deed → Action → Prop} {me : TaskId}

/-- Whatever it is told, a program takes only actions that are allowed after what was done before and at the
gates at which it came in, and gives an answer as told. -/
def Program.Heeds (allows : List Guard → List Deed → Action → Prop) (me : TaskId)
    (post : Answer → List Guard → List Deed → Prop) : Program Answer → List Guard → List Deed → Prop
  | .done answer, entered, past => post answer entered past
  | .act action next, entered, past =>
      allows entered past action ∧
        ∀ reply, (next reply).Heeds allows me post entered (past ++ [⟨me, action, reply⟩])
  | .lock role next, entered, past =>
      ∀ slot, (next slot).Heeds allows me post (⟨role, slot⟩ :: entered) past
  | .lockPublished role absent next, entered, past =>
      absent.Heeds allows me post entered past ∧
        ∀ slot, (next slot).Heeds allows me post (⟨role, slot⟩ :: entered) past

namespace Program

theorem heeds_bind {post : Result → List Guard → List Deed → Prop} (program : Program Answer)
    (rest : Answer → Program Result) {entered : List Guard} {past : List Deed} :
    (program.bind rest).Heeds allows me post entered past ↔
      program.Heeds allows me (fun answer => (rest answer).Heeds allows me post) entered past := by
  induction program generalizing entered past with
  | done answer => rfl
  | act action next inductionHypothesis => simp only [bind, Heeds, inductionHypothesis]
  | lock role next inductionHypothesis => simp only [bind, Heeds, inductionHypothesis]
  | lockPublished role absent next absentHypothesis nextHypothesis =>
      simp only [bind, Heeds, absentHypothesis, nextHypothesis]

theorem Heeds.mono {strong weak : Answer → List Guard → List Deed → Prop} {program : Program Answer}
    {entered : List Guard} {past : List Deed} (heeds : program.Heeds allows me strong entered past)
    (implied : ∀ answer now since, entered ⊆ now → past <+: since → strong answer now since →
      weak answer now since) : program.Heeds allows me weak entered past := by
  induction program generalizing entered past with
  | done answer => exact implied answer entered past (List.Subset.refl _) (List.prefix_refl _) heeds
  | act action next inductionHypothesis =>
      refine ⟨heeds.1, fun reply => inductionHypothesis reply (heeds.2 reply) ?_⟩
      intro answer now since isEntered isPast
      exact implied answer now since isEntered ((List.prefix_append _ _).trans isPast)
  | lock role next inductionHypothesis =>
      refine fun slot => inductionHypothesis slot (heeds slot) fun answer now since isEntered isPast => ?_
      exact implied answer now since (List.subset_of_cons_subset isEntered) isPast
  | lockPublished role absent next absentHypothesis nextHypothesis =>
      refine ⟨absentHypothesis heeds.1 implied, fun slot => nextHypothesis slot (heeds.2 slot) ?_⟩
      intro answer now since isEntered isPast
      exact implied answer now since (List.subset_of_cons_subset isEntered) isPast

end Program

def Task.Heeds (allows : List Guard → List Deed → Action → Prop) (me : TaskId)
    (post : Answer → List Guard → List Deed → Prop) : Task Answer → List Guard → List Deed → Prop
  | running program, entered, past => program.Heeds allows me post entered past
  | arriving role _ again next, entered, past | queued role _ again next, entered, past =>
      again.Heeds allows me post entered past ∧
        ∀ slot, (next slot).Heeds allows me post (⟨role, slot⟩ :: entered) past
  | finished answer, entered, past => post answer entered past
  | dropped, _, _ => True

def deedsOf (task : TaskId) (log : List Deed) : List Deed :=
  log.filter fun deed => deed.task = task

@[simp]
theorem mem_deedsOf {task : TaskId} {log : List Deed} {deed : Deed} :
    deed ∈ deedsOf task log ↔ deed ∈ log ∧ deed.task = task := by
  simp [deedsOf]

@[simp]
theorem deedsOf_append (task : TaskId) (earlier later : List Deed) :
    deedsOf task (earlier ++ later) = deedsOf task earlier ++ deedsOf task later :=
  List.filter_append ..

variable {Store : Type} [Repository Store] {post : Answer → List Guard → List Deed → Prop}

theorem Task.Moves.deedsOf_eq {world after : World Store} {current moved : Task Answer} {deeds : List Deed}
    (moves : current.Moves me world deeds moved after) (task : TaskId) :
    deedsOf task deeds = if me = task then deeds else [] := by
  cases moves <;> by_cases isMine : me = task <;> simp [deedsOf, isMine]

theorem Task.Moves.heeds {world after : World Store} {current moved : Task Answer} {deeds : List Deed}
    (moves : current.Moves me world deeds moved after) {entered : List Guard} {past : List Deed}
    (heeds : current.Heeds allows me post entered past) :
    moved.Heeds allows me post entered (past ++ deeds) ∨
      ∃ guard : Guard, world.cache.published guard.role = some guard.slot ∧
        moved.Heeds allows me post (guard :: entered) (past ++ deeds) := by
  cases moves with
  | act => exact .inl (heeds.2 _)
  | @enter role slot again next isFirst isPublished =>
      rw [List.append_nil]
      exact .inr ⟨⟨role, slot⟩, isPublished, heeds.2 slot⟩
  | answer | join => rw [List.append_nil]; exact .inl heeds
  | reach => rw [List.append_nil]; exact .inl ⟨heeds, heeds⟩
  | aim => rw [List.append_nil]; exact .inl ⟨heeds, heeds.2⟩
  | miss | retry => rw [List.append_nil]; exact .inl heeds.1

namespace Machine

/-- A task has kept to what is allowed so far, and the slots at whose gates it came in serve the roles for
which it did. -/
def Heeds (machine : Machine Store Answer) (allows : List Guard → List Deed → Action → Prop)
    (post : Answer → List Guard → List Deed → Prop) (task : TaskId) (log : List Deed) : Prop :=
  ∀ current, machine.tasks[task]? = some current →
    ∃ entered, current.Heeds allows task post entered (deedsOf task log) ∧
      ∀ guard ∈ entered, machine.world.cache.Serves guard.role guard.slot

theorem Heeds.turn {before after : Machine Store Answer} {task : TaskId} {log deeds : List Deed}
    (heeds : before.Heeds allows post task log) (filed : before.world.cache.Filed)
    (turned : before.Turn deeds after) : after.Heeds allows post task (log ++ deeds) := by
  have precedes := turned.precedes filed
  have others : ∀ current : Task Answer, before.tasks[task]? = some current → deedsOf task deeds = [] →
      ∃ entered, current.Heeds allows task post entered (deedsOf task (log ++ deeds)) ∧
        ∀ guard ∈ entered, after.world.cache.Serves guard.role guard.slot := by
    intro current located areOthers
    obtain ⟨entered, isHeeding, serves⟩ := heeds current located
    refine ⟨entered, ?_, fun guard isEntered => (serves guard isEntered).later precedes⟩
    rwa [deedsOf_append, areOthers, List.append_nil]
  intro current located
  cases turned with
  | @move me former moved deeds next present moves =>
      rcases located_set located with ⟨rfl, rfl⟩ | ⟨isOther, wasLocated⟩
      · obtain ⟨entered, isHeeding, serves⟩ := heeds former present
        rw [deedsOf_append, moves.deedsOf_eq task, if_pos rfl]
        rcases moves.heeds isHeeding with stillHeeding | ⟨guard, isPublished, stillHeeding⟩
        · exact ⟨entered, stillHeeding, fun guard isEntered => (serves guard isEntered).later precedes⟩
        · refine ⟨guard :: entered, stillHeeding, ?_⟩
          rw [List.forall_mem_cons]
          exact ⟨(filed _ _ isPublished).later precedes,
            fun other isEntered => (serves other isEntered).later precedes⟩
      · exact others current wasLocated (by rw [moves.deedsOf_eq, if_neg (Ne.symm isOther)])
  | drop other =>
      rcases located_set located with ⟨rfl, rfl⟩ | ⟨_, wasLocated⟩
      · exact ⟨[], trivial, by simp⟩
      · exact others current wasLocated rfl
  | disturb | land => exact others current located rfl

/-- A task whose program keeps to what is allowed does so in every run. -/
theorem RoughRun.heeds {mayLand : Machine Store Answer → RoleId → Prop} {world : World Store}
    {programs : List (Program Answer)} {machine : Machine Store Answer} {log : List Deed}
    (run : RoughRun mayLand (load world programs) log machine) (filed : world.cache.Filed) {task : TaskId}
    {program : Program Answer} (located : programs[task]? = some program)
    (heeds : program.Heeds allows task post [] []) : machine.Heeds allows post task log := by
  have throughout : machine.world.cache.Filed ∧ machine.Heeds allows post task log := by
    apply run.lasts (motive := fun log machine =>
      machine.world.cache.Filed ∧ machine.Heeds allows post task log)
    · refine ⟨filed, fun current isCurrent => ⟨[], ?_, by simp⟩⟩
      rw [load, List.getElem?_map, located] at isCurrent
      obtain rfl := Option.some.inj isCurrent
      exact heeds
    · rintro log before deeds after ⟨isFiled, isHeeding⟩ turned _
      exact ⟨isFiled.later (turned.precedes isFiled), isHeeding.turn isFiled turned⟩
  exact throughout.2

theorem Heeds.allowed {machine : Machine Store Answer} {task : TaskId} {log : List Deed} {deed : Deed}
    (heeds : machine.Heeds allows post task log) (isNext : machine.deed? task = some deed) :
    ∃ entered, allows entered (deedsOf task log) deed.action ∧
      ∀ guard ∈ entered, machine.world.cache.Serves guard.role guard.slot := by
  obtain ⟨_, next, present⟩ := present_of_deed? isNext
  obtain ⟨entered, isHeeding, serves⟩ := heeds _ present
  exact ⟨entered, isHeeding.1, serves⟩

/-- Whatever the task did in a run was allowed after what it had done before. -/
theorem Run.heeded {world : World Store} {programs : List (Program Answer)} {machine : Machine Store Answer}
    {earlier later : List Deed} {deed : Deed} (run : (load world programs).Run (earlier ++ deed :: later) machine)
    (filed : world.cache.Filed) {program : Program Answer} (located : programs[deed.task]? = some program)
    (heeds : program.Heeds allows deed.task post [] []) :
    ∃ entered, allows entered (deedsOf deed.task earlier) deed.action := by
  obtain ⟨before, _, toBefore, isDeed, _⟩ := run.splitAt rfl
  have rough : RoughRun (fun _ _ => True) (load world programs) earlier before := .ofRun toBefore
  obtain ⟨entered, allowed, _⟩ := (rough.heeds filed located heeds).allowed isDeed
  exact ⟨entered, allowed⟩

end Machine

end Rolebook
