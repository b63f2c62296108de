import Rolebook.Proofs.Cache.Coherence
import Rolebook.Proofs.RuleSet

/-!
Commits. Calls that reconcile one role follow each other: what each of them merges its submission into is
what the one before it has saved. So no submission is lost, and each call is told truly what it changed.
-/

namespace Rolebook

def Deed.saver? (role : RoleId) : Deed → Option TaskId
  | ⟨task, .write other _, .ok ()⟩ => if other = role then some task else none
  | _ => none

theorem Deed.saver?_eq_none {role : RoleId} {task : TaskId} {action : Action} {reply : action.Reply}
    (notSaved : ∀ rules, action ≠ .write role rules) : saver? role ⟨task, action, reply⟩ = none := by
  cases action with
  | write other rules =>
      have different : other ≠ role := by
        rintro rfl
        exact notSaved rules rfl
      cases reply <;> simp [saver?, different]
  | _ => rfl

/-- The tasks that saved the role, in the order of their saves. -/
def savers (role : RoleId) (log : List Deed) : List TaskId :=
  log.filterMap (Deed.saver? role)

theorem mem_savers {role : RoleId} {log : List Deed} {task : TaskId} :
    task ∈ savers role log ↔ ∃ rules, ⟨task, .write role rules, .ok ()⟩ ∈ log := by
  rw [savers, List.mem_filterMap]
  constructor
  · rintro ⟨deed, isDone, isSaver⟩
    unfold Deed.saver? at isSaver
    split at isSaver
    · split at isSaver
      · next same =>
          subst same
          obtain rfl := Option.some.inj isSaver
          exact ⟨_, isDone⟩
      · cases isSaver
    · cases isSaver
  · rintro ⟨rules, isDone⟩
    exact ⟨_, isDone, if_pos rfl⟩

namespace Call

def submitted? (role : RoleId) : Call → Option RuleSet
  | apply other submission => if other = role then submission.ruleSet.toOption else none
  | _ => none

def Spares (role : RoleId) : Call → Prop
  | deleteRole _ other | updateRules _ other _ => other ≠ role
  | _ => True

theorem not_writes_delete {role : RoleId} {call : Call} (spares : call.Spares role) :
    ¬ call.Writes (.delete role) := by
  intro writes
  cases call <;> simp only [Writes] at writes
  exact spares writes.symm

theorem eq_apply_of_writes {role : RoleId} {call : Call} (spares : call.Spares role) {rules : RuleSet}
    (writes : call.Writes (.write role rules)) : ∃ submission, call = .apply role submission := by
  cases call <;> simp only [Writes] at writes
  · exact ⟨_, by rw [writes]⟩
  · exact absurd writes.symm spares

end Call

/-- The rule sets that were submitted to the role by the calls that saved it, in the order of their saves. -/
def committed (role : RoleId) (calls : List Call) (log : List Deed) : List RuleSet :=
  (savers role log).filterMap fun task => calls[task]?.bind (Call.submitted? role)

/-- A save of a role: the task, the role that was stored before, and the rules that were saved. -/
structure Commit where
  task : TaskId
  stored : Role
  rules : RuleSet

/-- Each save follows on what the one before it has left. -/
inductive Linked (initial : Role) : List Commit → Role → Prop where
  | none : Linked initial [] initial
  | more {history : List Commit} {last : Role} (task : TaskId) (rules : RuleSet) :
      Linked initial history last →
      Linked initial (history ++ [⟨task, last, rules⟩]) (last.withRules rules)

def Write.commit? (role : RoleId) (task : TaskId) : Write → Option Commit
  | .saved other stored rules => if other = role then some ⟨task, stored, rules⟩ else none
  | _ => none

variable {Store : Type} [Repository Store] [LawfulRepository Store]

namespace Scene

/-- The history of a role: it leads from the first stored role to the present one, the tasks that wrote it
are those that saved the role by the log, and each keeps its own part of it. -/
structure Chronicle (role : RoleId) (initial : Role) (calls : List Call) (log : List Deed)
    (history : List Commit) (last : Role) (scene : Scene Store) : Prop where
  linked : Linked initial history last
  stored : Repository.find scene.world.store role = .ok (some last)
  savers : history.map Commit.task = savers role log
  writes : ∀ task, (scene.writes task).filterMap (Write.commit? role task) =
    history.filter fun commit => commit.task = task
  callers : ∀ commit ∈ history, ∃ submission, calls[commit.task]? = some (.apply role submission)
  isSafe : ¬ scene.Doomed role

variable {scene next : Scene Store} {role : RoleId} {initial last : Role} {calls : List Call}
  {log : List Deed} {history : List Commit} {me : TaskId} {limit : Nat}

namespace Chronicle

omit [LawfulRepository Store] in
theorem kept (chronicle : scene.Chronicle role initial calls log history last) (deed : Option Deed)
    (sameStored : Repository.find next.world.store role = Repository.find scene.world.store role)
    (noSave : deed.bind (Deed.saver? role) = none)
    (sameWrites : ∀ task, (next.writes task).filterMap (Write.commit? role task) =
      (scene.writes task).filterMap (Write.commit? role task))
    (isSafe : ¬ next.Doomed role) :
    next.Chronicle role initial calls (log ++ deed.toList) history last where
  linked := chronicle.linked
  stored := sameStored.trans chronicle.stored
  savers := by
    rw [chronicle.savers, Rolebook.savers, Rolebook.savers, List.filterMap_append]
    cases deed <;> simp_all
  writes task := (sameWrites task).trans (chronicle.writes task)
  callers := chronicle.callers
  isSafe := isSafe

omit [LawfulRepository Store] in
theorem kept_of_act (chronicle : scene.Chronicle role initial calls log history last) {action : Action}
    {reply : action.Reply} {world : World Store} {stance : Stance} {written : List Write}
    (sameStored : Repository.find world.store role = Repository.find scene.world.store role)
    (noSave : Deed.saver? role ⟨me, action, reply⟩ = none)
    (noCommit : written.filterMap (Write.commit? role me) = [])
    (isSafe : ¬ (scene.acted me world stance written).Doomed role) :
    (scene.acted me world stance written).Chronicle role initial calls
      (log ++ [⟨me, action, reply⟩]) history last := by
  refine chronicle.kept (some ⟨me, action, reply⟩) sameStored noSave ?_ isSafe
  intro task
  by_cases same : task = me
  · subst same
    simp [acted, noCommit]
  · simp [acted, Function.update_of_ne same]

theorem save (chronicle : scene.Chronicle role initial calls log history last)
    (sound : scene.Sound limit log) {slot : SlotId} {stored : Role} {rules : RuleSet}
    {world : World Store} (isHolder : scene.stance me = .holding role slot (.seen stored))
    (performed : scene.world.perform me (.write role rules) = (.ok (), world))
    (isCaller : ∃ submission, calls[me]? = some (.apply role submission))
    (isSafe : ¬ (scene.acted me world (.holding role slot (.saved (stored.withRules rules)))
      [.saved role stored rules]).Doomed role) :
    (scene.acted me world (.holding role slot (.saved (stored.withRules rules)))
      [.saved role stored rules]).Chronicle role initial calls
        (log ++ [⟨me, .write role rules, .ok ()⟩]) (history ++ [⟨me, last, rules⟩])
        (last.withRules rules) := by
  have isStored : Repository.find scene.world.store role = .ok (some stored) :=
    (sound.truthful.known me role slot stored (.inl isHolder)).resolve_right chronicle.isSafe
  obtain rfl : stored = last := by
    rw [chronicle.stored] at isStored
    exact (Option.some.inj (Except.ok.inj isStored)).symm
  rw [World.perform_write] at performed
  refine ⟨.more me rules chronicle.linked, LawfulRepository.find_save (World.change_ok performed) isStored,
    ?_, ?_, ?_, isSafe⟩
  · simpa [Rolebook.savers, Deed.saver?] using chronicle.savers
  · intro task
    by_cases same : task = me
    · subst same
      simp [acted, Write.commit?, chronicle.writes]
    · have different : me ≠ task := fun equal => same equal.symm
      simp [acted, Function.update_of_ne same, chronicle.writes, different]
  · intro commit isMember
    rcases List.mem_append.mp isMember with isOld | isNew
    · exact chronicle.callers commit isOld
    · rw [List.mem_singleton.mp isNew]
      exact isCaller

theorem act (chronicle : scene.Chronicle role initial calls log history last)
    (sound : scene.Sound limit log) (spared : ∀ call ∈ calls, call.Spares role) {action : Action}
    {reply : action.Reply} {world : World Store} {stance : Stance} {written : List Write}
    (performed : scene.world.perform me action = (reply, world))
    (step : (scene.stance me).Step action reply stance written)
    (permitted : action.isWrite = true → ∃ call, calls[me]? = some call ∧ call.Writes action)
    (isBelow : world.created ≤ limit)
    (isSafe : ¬ (scene.acted me world stance written).Doomed role) :
    ∃ more now, (scene.acted me world stance written).Chronicle role initial calls
      (log ++ [⟨me, action, reply⟩]) (history ++ more) now := by
  by_cases isSave : ∃ rules, action = .write role rules
  · obtain ⟨rules, rfl⟩ := isSave
    obtain ⟨call, isCall, writes⟩ := permitted rfl
    obtain ⟨submission, rfl⟩ := Call.eq_apply_of_writes (spared call (List.mem_of_getElem? isCall)) writes
    generalize isStance : scene.stance me = before at step
    cases step with
    | quiet isQuiet => simp [Action.isQuiet] at isQuiet
    | save =>
        exact ⟨_, _, chronicle.save sound isStance performed ⟨submission, isCall⟩ isSafe⟩
    | saveFailed =>
        refine ⟨[], last, ?_⟩
        rw [List.append_nil]
        exact chronicle.kept_of_act (by rw [World.perform_write_error performed]) rfl rfl isSafe
  · have notSaved : ∀ rules, action ≠ .write role rules := fun rules equal => isSave ⟨rules, equal⟩
    have notDeleted : action ≠ .delete role := by
      rintro rfl
      obtain ⟨call, isCall, writes⟩ := permitted rfl
      exact Call.not_writes_delete (spared call (List.mem_of_getElem? isCall)) writes
    refine ⟨[], last, ?_⟩
    rw [List.append_nil]
    refine chronicle.kept_of_act (World.find_perform sound.truthful.fresh chronicle.stored performed
      isBelow notSaved notDeleted) (Deed.saver?_eq_none notSaved) ?_ isSafe
    generalize scene.stance me = before at step
    cases step with
    | @save other slot stored rules =>
        have different : other ≠ role := by
          rintro rfl
          exact notSaved rules rfl
        simp [Write.commit?, different]
    | _ => rfl

theorem move (chronicle : scene.Chronicle role initial calls log history last)
    (sound : scene.Sound limit log) (spared : ∀ call ∈ calls, call.Spares role) {deed : Option Deed}
    (moved : scene.Move me deed next)
    (permitted : ∀ taken, deed = some taken → taken.action.isWrite = true →
      ∃ call, calls[me]? = some call ∧ call.Writes taken.action)
    (isBelow : next.world.created ≤ limit) :
    ∃ more now, next.Chronicle role initial calls (log ++ deed.toList) (history ++ more) now := by
  -- Only a deletion of the role dooms it, and none of the calls deletes it.
  have isSafe : ¬ next.Doomed role := by
    rintro ⟨task, dooms⟩
    rcases moved.dooms sound.gated dooms with wasDoomed | rfl
    · exact chronicle.isSafe ⟨task, wasDoomed⟩
    · obtain ⟨call, isCall, writes⟩ := permitted _ rfl rfl
      exact Call.not_writes_delete (spared call (List.mem_of_getElem? isCall)) writes
  cases moved with
  | act isInside performed step =>
      exact chronicle.act sound spared performed step (permitted _ rfl) isBelow isSafe
  | rest | disturb | aim | miss | join | enter | retry =>
      refine ⟨[], last, ?_⟩
      rw [List.append_nil]
      exact chronicle.kept none rfl rfl (fun _ => rfl) isSafe

omit [LawfulRepository Store] in
theorem start {world : World Store} (isStored : Repository.find world.store role = .ok (some initial)) :
    (Scene.start world).Chronicle role initial calls [] [] initial where
  linked := .none
  stored := isStored
  savers := rfl
  writes _ := rfl
  callers := by simp
  isSafe := by simp [Doomed, Scene.start, Stance.Dooms]

end Chronicle

end Scene

/-- Submissions that are merged one after the other lead to what is stored last. -/
theorem Linked.last_eq {mode : Mode} {initial last : Role} {history : List Commit}
    (linked : Linked initial history last) (submitted? : TaskId → Option RuleSet)
    (merges : ∀ commit ∈ history, ∃ submitted, submitted? commit.task = some submitted ∧
      commit.rules = mode.merge commit.stored.rules submitted) :
    last = initial.withRules
      (mode.mergeAll initial.rules ((history.map Commit.task).filterMap submitted?)) := by
  induction linked with
  | none => rfl
  | @more history last task rules linked inductionHypothesis =>
      have earlier := inductionHypothesis fun commit isMember =>
        merges commit (List.mem_append_left _ isMember)
      obtain ⟨submitted, isSubmitted, isMerged⟩ :=
        merges ⟨task, last, rules⟩ (List.mem_append_right _ (List.mem_singleton.mpr rfl))
      have mergedRules : rules = mode.merge last.rules submitted := isMerged
      rw [mergedRules, List.map_append, List.filterMap_append, Mode.mergeAll_append]
      simp only [List.map_cons, List.map_nil, List.filterMap_cons, isSubmitted, List.filterMap_nil]
      rw [earlier, Role.withRules_withRules, Role.withRules_rules]
      rfl

namespace Machine

variable {settings : Settings} {calls : List Call} {past log : List Deed}
  {start machine : Machine Store Outcome} {role : RoleId} {initial last : Role}
  {history : List Commit} {limit : Nat} {scene : Scene Store}

/-- A run carries the history of a role on. -/
theorem Run.records (run : start.Run log machine)
    (plays : start.Plays (Terms.ofCalls Terms.free.expects calls)
      (Call.Fits settings calls (Terms.ofCalls Terms.free.expects calls)) scene)
    (sound : scene.Sound limit past)
    (chronicle : scene.Chronicle role initial calls past history last)
    (spared : ∀ call ∈ calls, call.Spares role) (isBelow : machine.world.created ≤ limit) :
    ∃ reached more now, machine.Plays (Terms.ofCalls Terms.free.expects calls)
        (Call.Fits settings calls (Terms.ofCalls Terms.free.expects calls)) reached ∧
      reached.Sound limit (past ++ log) ∧
      reached.Chronicle role initial calls (past ++ log) (history ++ more) now := by
  obtain ⟨reached, stillPlays, stillSound, more, now, recorded⟩ :=
    run.plays (List.Subset.refl _) isBelow
      (fun log scene => scene.Sound limit (past ++ log) ∧
        ∃ more now, scene.Chronicle role initial calls (past ++ log) (history ++ more) now)
      plays (by simpa using ⟨sound, [], last, by simpa using chronicle⟩)
      (fun _ _ _ _ _ _ => trivial) fun earlier scene me deed next held moved permitted isLow => by
        obtain ⟨sound, more, now, recorded⟩ := held
        rw [← List.append_assoc]
        refine ⟨sound.move moved isLow, ?_⟩
        obtain ⟨added, after, continued⟩ := recorded.move sound spared moved permitted isLow
        exact ⟨more ++ added, after, by rwa [← List.append_assoc]⟩
  exact ⟨reached, more, now, stillPlays, stillSound, recorded⟩

omit [LawfulRepository Store] in
theorem Plays.answer_of_commit {past : List Deed}
    (plays : machine.Plays (Terms.ofCalls Terms.free.expects calls)
      (Call.Fits settings calls (Terms.ofCalls Terms.free.expects calls)) scene)
    (chronicle : scene.Chronicle role initial calls past history last)
    (isFinished : machine.isFinished = true)
    (inTime : ∀ (task : TaskId) (submission : Submission), machine.tasks[task]? ≠
      some (.finished ⟨.apply role submission, .error (.writeTimedOut role)⟩))
    {commit : Commit} (isMember : commit ∈ history) :
    ∃ submission submitted, submission.ruleSet = .ok submitted ∧
      commit.rules = settings.mode.merge commit.stored.rules submitted ∧
      calls[commit.task]? = some (.apply role submission) ∧
      machine.tasks[commit.task]? = some (.finished ⟨.apply role submission,
        .ok ⟨commit.stored.withRules commit.rules, commit.stored.rules.changedScopes commit.rules⟩⟩) ∧
      (history.filter fun other => other.task = commit.task) = [commit] := by
  have isWritten := chronicle.writes commit.task
  have isOwn : commit ∈ history.filter fun other => other.task = commit.task :=
    List.mem_filter.mpr ⟨isMember, by simp⟩
  cases present : machine.tasks[commit.task]? with
  | none =>
      rw [(plays.others commit.task present).2] at isWritten
      rw [← isWritten] at isOwn
      simp at isOwn
  | some current =>
      obtain ⟨⟨call, answer⟩, rfl⟩ := answered isFinished present
      obtain ⟨_, isCall, rests⟩ := plays.tasks commit.task _ present
      obtain ⟨submission, isCaller⟩ := chronicle.callers commit isMember
      rw [isCaller] at isCall
      obtain rfl := Option.some.inj isCall
      cases answer with
      | error error =>
          rcases rests with rfl | isUnwritten
          · exact absurd present (inTime commit.task submission)
          · rw [isUnwritten] at isWritten
            rw [← isWritten] at isOwn
            simp at isOwn
      | ok update =>
          obtain ⟨submitted, stored, isRead, rfl, hasWritten⟩ := rests
          rw [hasWritten] at isWritten
          simp only [Write.commit?, if_true, List.filterMap_cons, List.filterMap_nil] at isWritten
          rw [← isWritten] at isOwn ⊢
          have isCommit := List.mem_singleton.mp isOwn
          refine ⟨submission, submitted, isRead, ?_, isCaller, ?_, by rw [← isCommit]⟩
          · rw [isCommit]
          · rw [isCommit]

omit [LawfulRepository Store] in
theorem Plays.commit_of_answer {past : List Deed}
    (plays : machine.Plays (Terms.ofCalls Terms.free.expects calls)
      (Call.Fits settings calls (Terms.ofCalls Terms.free.expects calls)) scene)
    (chronicle : scene.Chronicle role initial calls past history last) {task : TaskId}
    {submission : Submission} {update : Update}
    (present : machine.tasks[task]? = some (.finished ⟨.apply role submission, .ok update⟩)) :
    ∃ commit ∈ history, commit.task = task := by
  obtain ⟨_, _, submitted, stored, _, _, hasWritten⟩ := plays.tasks task _ present
  have isWritten := chronicle.writes task
  rw [hasWritten] at isWritten
  simp only [Write.commit?, if_true, List.filterMap_cons, List.filterMap_nil] at isWritten
  have isMember : ⟨task, stored, settings.mode.merge stored.rules submitted⟩ ∈
      history.filter fun commit => commit.task = task := by
    rw [← isWritten]
    exact List.mem_singleton.mpr rfl
  exact ⟨_, (List.mem_filter.mp isMember).1, rfl⟩

end Machine

theorem map_eq_map_some {Item Image : Type} {items : List Item} {image? : Item → Option Image}
    (isTotal : ∀ item ∈ items, ∃ image, image? item = some image) :
    items.map image? = (items.filterMap image?).map some := by
  induction items with
  | nil => rfl
  | cons first others inductionHypothesis =>
      obtain ⟨image, isImage⟩ := isTotal first List.mem_cons_self
      have continued := inductionHypothesis fun item isMember =>
        isTotal item (List.mem_cons_of_mem _ isMember)
      simp [isImage, continued]

theorem Commit.nodup {history : List Commit} (once : ∀ commit ∈ history,
    (history.filter fun other => other.task = commit.task) = [commit]) :
    (history.map Commit.task).Nodup := by
  rw [List.nodup_iff_count]
  intro task
  by_cases isMember : task ∈ history.map Commit.task
  · obtain ⟨commit, isCommit, rfl⟩ := List.mem_map.mp isMember
    rw [List.count_eq_countP, List.countP_map, List.countP_eq_length_filter]
    exact Nat.le_of_eq (congrArg List.length (once commit isCommit))
  · rw [List.count_eq_zero.mpr isMember]
    exact Nat.zero_le _

theorem Linked.unique {initial first second : Role} {history : List Commit}
    (left : Linked initial history first) (right : Linked initial history second) : first = second := by
  induction left generalizing second with
  | none =>
      generalize isEmpty : ([] : List Commit) = history at right
      cases right with
      | none => rfl
      | more => simp at isEmpty
  | @more earlier last task rules linked inductionHypothesis =>
      generalize isSame : earlier ++ [Commit.mk task last rules] = history at right
      cases right with
      | none => simp at isSame
      | more other others before =>
          obtain ⟨rfl, isLast⟩ := List.append_inj' isSame rfl
          simp only [List.cons.injEq, Commit.mk.injEq, and_true] at isLast
          obtain ⟨_, rfl, rfl⟩ := isLast
          rfl

theorem Linked.last_commit {initial before after : Role} {history : List Commit} {commit : Commit}
    (earlier : Linked initial history before) (all : Linked initial (history ++ [commit]) after) :
    commit.stored = before ∧ after = before.withRules commit.rules := by
  generalize isAll : history ++ [commit] = whole at all
  cases all with
  | none => simp at isAll
  | @more found last task rules linked =>
      obtain ⟨rfl, isLast⟩ := List.append_inj' isAll rfl
      obtain rfl := List.singleton_inj.mp isLast
      rw [earlier.unique linked]
      exact ⟨rfl, rfl⟩

namespace Machine

variable {settings : Settings} {calls : List Call} {log : List Deed} {machine : Machine Store Outcome}

theorem Run.records_save {before after : Machine Store Outcome} {past : List Deed} {scene : Scene Store}
    {role : RoleId} {initial last : Role} {history : List Commit} {limit : Nat} {task : TaskId}
    {rules : RuleSet}
    (plays : before.Plays (Terms.ofCalls Terms.free.expects calls)
      (Call.Fits settings calls (Terms.ofCalls Terms.free.expects calls)) scene)
    (sound : scene.Sound limit past)
    (chronicle : scene.Chronicle role initial calls past history last)
    (spared : ∀ call ∈ calls, call.Spares role)
    (isSave : before.deed? task = some ⟨task, .write role rules, .ok ()⟩)
    (moved : before.step? task = some after) (isBelow : after.world.created ≤ limit) :
    ∃ reached commit, commit.task = task ∧ commit.stored = last ∧
      after.Plays (Terms.ofCalls Terms.free.expects calls)
        (Call.Fits settings calls (Terms.ofCalls Terms.free.expects calls)) reached ∧
      reached.Sound limit (past ++ [⟨task, .write role rules, .ok ()⟩]) ∧
      reached.Chronicle role initial calls (past ++ [⟨task, .write role rules, .ok ()⟩])
        (history ++ [commit]) (last.withRules commit.rules) := by
  have step : before.Run [⟨task, .write role rules, .ok ()⟩] after := by
    simpa [isSave] using Run.start.move moved
  obtain ⟨reached, more, now, stillPlays, stillSound, recorded⟩ :=
    step.records plays sound chronicle spared isBelow
  have isOne : more.map Commit.task = [task] := by
    have saved := recorded.savers
    rw [List.map_append, chronicle.savers, savers, savers, List.filterMap_append] at saved
    simpa [Deed.saver?] using saved
  obtain ⟨commit, rfl, isTask⟩ := List.map_eq_singleton_iff.mp isOne
  obtain ⟨isLast, rfl⟩ := chronicle.linked.last_commit recorded.linked
  exact ⟨reached, commit, isTask, isLast, stillPlays, stillSound, recorded⟩

/-- What came of calls that reconciled a role at once: they were carried out one after the other, in the
order of their saves. -/
structure InOrder (settings : Settings) (calls : List Call) (role : RoleId) (initial : Role)
    (log : List Deed) (start machine : Machine Store Outcome) : Prop where
  once : (savers role log).Nodup
  /-- Those that saved the role are those that answered that they did. -/
  told : ∀ task, task ∈ savers role log ↔ ∃ submission update,
    machine.tasks[task]? = some (.finished ⟨.apply role submission, .ok update⟩)
  submitted : (savers role log).map (fun task => calls[task]?.bind (Call.submitted? role)) =
    (committed role calls log).map some
  stored : Repository.find machine.world.store role = .ok (some (initial.withRules
    (settings.mode.mergeAll initial.rules (committed role calls log))))
  /-- Under patches the last submission that names a scope counts for it. -/
  patched : settings.mode = .patch → ∀ scope,
    (settings.mode.mergeAll initial.rules (committed role calls log)).get? scope =
      ((committed role calls log).reverse.findSome? fun rules => rules.get? scope).or
        (initial.rules.get? scope)
  /-- Under snapshots the last submission counts for all. -/
  replaced : settings.mode = .snapshot →
    settings.mode.mergeAll initial.rules (committed role calls log) =
      (committed role calls log).getLast?.getD initial.rules
  /-- Each call tells the scopes at which its own save changed what was stored. -/
  changed : ∀ task submission update,
    machine.tasks[task]? = some (.finished ⟨.apply role submission, .ok update⟩) →
    ∃ rules earlier later before after old new,
      log = earlier ++ ⟨task, .write role rules, .ok ()⟩ :: later ∧ start.Run earlier before ∧
      before.step? task = some after ∧ after.Run later machine ∧
      Repository.find before.world.store role = .ok (some old) ∧
      Repository.find after.world.store role = .ok (some new) ∧
      (∀ scope, scope ∈ update.changed ↔ old.rule? scope ≠ new.rule? scope) ∧
      update.changed.Pairwise fun first second => compare first second = .lt

/-- Calls that reconcile a role at once, and are not late, are carried out one after the other. -/
theorem reconciles_in_order {world : World Store} (settled : world.Settled)
    (run : (load world (calls.map (Call.program settings))).Run log machine)
    (fresh : world.Fresh machine.world.created) {role : RoleId} {initial : Role}
    (isStored : Repository.find world.store role = .ok (some initial))
    (spared : ∀ call ∈ calls, call.Spares role) (isFinished : machine.isFinished = true)
    (inTime : ∀ (task : TaskId) (submission : Submission), machine.tasks[task]? ≠
      some (.finished ⟨.apply role submission, .error (.writeTimedOut role)⟩)) :
    InOrder settings calls role initial log (load world (calls.map (Call.program settings))) machine := by
  have begins : (load world (calls.map (Call.program settings))).Plays
      (Terms.ofCalls Terms.free.expects calls)
      (Call.Fits settings calls (Terms.ofCalls Terms.free.expects calls)) (Scene.start world) :=
    .load Call.fits
  have sound := Scene.Sound.start settled fresh
  have chronicle : (Scene.start world).Chronicle role initial calls [] [] initial := .start isStored
  obtain ⟨reached, history, last, plays, _, recorded⟩ :=
    run.records begins sound chronicle spared (Nat.le_refl _)
  rw [List.nil_append, List.nil_append] at recorded
  have merges : ∀ commit ∈ history, ∃ submitted,
      calls[commit.task]?.bind (Call.submitted? role) = some submitted ∧
        commit.rules = settings.mode.merge commit.stored.rules submitted := by
    intro commit isMember
    obtain ⟨submission, submitted, isRead, isMerged, isCall, _⟩ :=
      plays.answer_of_commit recorded isFinished inTime isMember
    exact ⟨submitted, by simp [isCall, Call.submitted?, isRead, Except.toOption], isMerged⟩
  refine ⟨?_, fun task => ⟨?_, ?_⟩, ?_, ?_, ?_, ?_, ?_⟩
  · rw [← recorded.savers]
    apply Commit.nodup
    intro commit isMember
    obtain ⟨_, _, _, _, _, _, isOne⟩ := plays.answer_of_commit recorded isFinished inTime isMember
    exact isOne
  · intro isSaver
    rw [← recorded.savers] at isSaver
    obtain ⟨commit, isMember, rfl⟩ := List.mem_map.mp isSaver
    obtain ⟨submission, _, _, _, _, isAnswer, _⟩ :=
      plays.answer_of_commit recorded isFinished inTime isMember
    exact ⟨submission, _, isAnswer⟩
  · rintro ⟨submission, update, isAnswer⟩
    obtain ⟨commit, isMember, rfl⟩ := plays.commit_of_answer recorded isAnswer
    rw [← recorded.savers]
    exact List.mem_map.mpr ⟨commit, isMember, rfl⟩
  · rw [committed, ← recorded.savers]
    apply map_eq_map_some
    intro task isSaver
    obtain ⟨commit, isMember, rfl⟩ := List.mem_map.mp isSaver
    obtain ⟨submitted, isSubmitted, _⟩ := merges commit isMember
    exact ⟨submitted, isSubmitted⟩
  · rw [← plays.world, recorded.stored, recorded.linked.last_eq
      (fun task => calls[task]?.bind (Call.submitted? role)) merges, recorded.savers]
    rfl
  · intro isPatch scope
    rw [isPatch, Mode.get?_mergeAll_patch]
  · intro isSnapshot
    rw [isSnapshot, Mode.mergeAll_snapshot]
  · intro task submission update isAnswer
    obtain ⟨commit, isMember, rfl⟩ := plays.commit_of_answer recorded isAnswer
    have isSaver : commit.task ∈ savers role log := by
      rw [← recorded.savers]
      exact List.mem_map_of_mem isMember
    obtain ⟨rules, isDone⟩ := mem_savers.mp isSaver
    obtain ⟨earlier, later, before, after, isLog, first, isSave, moved, rest⟩ := run.split isDone
    have isLate := rest.created_le
    have isEarly := created_le_step moved
    -- The history is followed up to the save, through the save itself, and on to the end of the run.
    obtain ⟨scene, earlierHistory, old, playsBefore, soundBefore, recordedBefore⟩ :=
      first.records begins sound chronicle spared (Nat.le_trans isEarly isLate)
    obtain ⟨scene', own, isOwn, rfl, playsAfter, soundAfter, recordedAfter⟩ :=
      Run.records_save playsBefore soundBefore recordedBefore spared isSave moved isLate
    obtain ⟨final, more, now, playsEnd, _, recordedEnd⟩ :=
      rest.records playsAfter soundAfter recordedAfter spared (Nat.le_refl _)
    obtain ⟨_, _, _, _, _, isOwnAnswer, _⟩ := playsEnd.answer_of_commit recordedEnd isFinished
      inTime (List.mem_append_left more (List.mem_append_right _ (List.mem_singleton.mpr rfl)))
    rw [isOwn, isAnswer] at isOwnAnswer
    obtain ⟨-, rfl⟩ := by simpa using isOwnAnswer
    refine ⟨rules, earlier, later, before, after, own.stored, own.stored.withRules own.rules, isLog, first,
      moved, rest, ?_, ?_, ?_, RuleSet.changedScopes_increasing _ _⟩
    · rw [← playsBefore.world]
      exact recordedBefore.stored
    · rw [← playsAfter.world]
      exact recordedAfter.stored
    · intro scope
      exact RuleSet.mem_changedScopes

end Machine

section Office

def raising : Submission :=
  ⟨[("EMPLOYEE_RECORDS.accessLevel", "EDIT")], by simp⟩

def adding : Submission :=
  ⟨[("EMPLOYMENT_RECORDS.accessLevel", "VIEW")], by simp⟩

namespace Machine

def reconciling : List Call :=
  [.apply clerk.id raising, .apply clerk.id adding]

def reconciliation : Machine MemoryStore Outcome :=
  .load (.start .office RoleId.drawn) (reconciling.map (Call.program .office))

def reconciled : List Deed × Machine MemoryStore Outcome :=
  (reconciliation.follow? (List.replicate 4 0 ++ List.replicate 2 1 ++ List.replicate 7 0 ++
    List.replicate 9 1)).get (by decide)

theorem reconciles_in_order_office :
    reconciliation.Run reconciled.1 reconciled.2 ∧ reconciled.2.isFinished = true ∧
    (savers clerk.id reconciled.1).length = 2 ∧
    InOrder .office reconciling clerk.id clerk reconciled.1 reconciliation reconciled.2 := by
  have run : reconciliation.Run reconciled.1 reconciled.2 := Run.get _
  have isFinished : reconciled.2.isFinished = true := by decide
  refine ⟨run, isFinished, by decide, ?_⟩
  refine reconciles_in_order (World.settled_start _ _) run (.of_le (by decide)) rfl ?_ isFinished ?_
  · simp [reconciling, Call.Spares]
  · intro task submission
    rcases task with _ | _ | task
    · obtain ⟨update, isAnswer⟩ : ∃ update, reconciled.2.tasks[0]? =
          some (.finished ⟨.apply clerk.id raising, .ok update⟩) := ⟨_, by rfl⟩
      simp [isAnswer]
    · obtain ⟨update, isAnswer⟩ : ∃ update, reconciled.2.tasks[1]? =
          some (.finished ⟨.apply clerk.id adding, .ok update⟩) := ⟨_, by rfl⟩
      simp [isAnswer]
    · have isAbsent : reconciled.2.tasks[task + 2]? = none :=
        List.getElem?_eq_none (Nat.le_add_left _ _)
      simp [isAbsent]

end Machine

end Office

end Rolebook
