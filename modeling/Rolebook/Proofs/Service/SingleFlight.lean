import Rolebook.Proofs.Cache.Progress
import Rolebook.Proofs.Cache.Steady
import Rolebook.Proofs.Service.Clearing

/-!
One load serves everybody. Between two loads of a role somebody hides it from readers, and has a cause for
that. So any number of calls that ask for a stored role do with one load of it as long as nobody interferes
and the repository does not fail, and each of them answers by the role as it is stored. A call that sees the
role in the cache does nothing else.
-/

namespace Rolebook

section Consulting

theorem Program.bind_assoc {First Second Third : Type} (program : Program First)
    (rest : First → Program Second) (last : Second → Program Third) :
    (program.bind rest).bind last = program.bind fun answer => (rest answer).bind last := by
  induction program with
  | done answer => rfl
  | act action next inductionHypothesis => simp only [bind, inductionHypothesis]
  | lock role next inductionHypothesis => simp only [bind, inductionHypothesis]
  | lockPublished role absent next absentHypothesis nextHypothesis =>
      simp only [bind, absentHypothesis, nextHypothesis]

/-- A call does nothing but ask for the role, and answers by what it is told. -/
inductive Call.Consults (role : RoleId) : (call : Call) → (Except AccessError Role → call.Answer) → Prop where
  | resolve : Consults role (.resolve role) fun told => told
  | authorize {session : Session} {scope : Scope} {required : Level} (isKnown : session.isEmpty = false)
      (isRole : session.role = role) : Consults role (.authorize session scope required) fun told =>
        told.map fun found => found.decide scope required
  | isAllowed {session : Session} {scope : Scope} {required : Level} (isKnown : session.isEmpty = false)
      (isRole : session.role = role) : Consults role (.isAllowed session scope required) fun told =>
        match told with
        | .ok found => (found.decide scope required).allowed
        | .error _ => false
  | require {session : Session} {scope : Scope} {required : Level} (isKnown : session.isEmpty = false)
      (isRole : session.role = role) : Consults role (.require session scope required) fun told =>
        match Authorization.denyMissing (told.map fun found => found.decide scope required) with
        | .ok decision =>
            if decision.allowed then .ok decision else .error (.accessLacking session.username required scope)
        | .error error => .error (.access error)

/-- Whether a call is to remove what the cache has of a role, or the role itself. -/
def Call.Removes (role : RoleId) : Call → Prop
  | invalidate other | deleteRole _ other => other = role
  | _ => False

/-- Whether a call may have to do with a role. -/
def Call.Touches (role : RoleId) (call : Call) : Prop :=
  call.asks? = some role ∨ call.LooksUp role ∨ call.Removes role

variable {settings : Settings} {call : Call} {role : RoleId} {answer : Except AccessError Role → call.Answer}

namespace Call.Consults

theorem program_eq (consults : call.Consults role answer) : call.program settings =
    (Authorization.resolve role).bind fun told => .done ⟨call, answer told⟩ := by
  have authorizes : ∀ session scope required, session.isEmpty = false →
      Authorization.authorize settings.policy session scope required =
        (Authorization.resolve session.role).bind fun told =>
          .done (told.map fun found => found.decide scope required) := by
    intro session scope required isKnown
    unfold Authorization.authorize
    rw [if_neg (by simp [isKnown])]
    refine congrArg (Program.bind _) (funext fun told => ?_)
    cases told <;> rfl
  unfold program
  cases consults with
  | resolve => rfl
  | authorize isKnown isRole =>
      subst isRole
      rw [body, authorizes _ _ _ isKnown, Program.bind_assoc]
      rfl
  | isAllowed isKnown isRole =>
      subst isRole
      rw [body, Authorization.isAllowed, authorizes _ _ _ isKnown, Program.bind_eq, Program.bind_assoc,
        Program.bind_assoc]
      refine congrArg (Program.bind _) (funext fun told => ?_)
      cases told <;> rfl
  | require isKnown isRole =>
      subst isRole
      rw [body, Authorization.require, authorizes _ _ _ isKnown, Program.bind_eq, Program.bind_assoc,
        Program.bind_assoc]
      refine congrArg (Program.bind _) (funext fun told => ?_)
      cases told with
      | ok found =>
          simp only [Program.bind, Except.map, Authorization.denyMissing]
          split <;> rfl
      | error error => cases error <;> rfl

theorem unique {other : Except AccessError Role → call.Answer} (consults : call.Consults role answer)
    (alsoConsults : call.Consults role other) : answer = other := by
  cases consults <;> cases alsoConsults <;> rfl

theorem not_looksUp (consults : call.Consults role answer) : ¬ call.LooksUp role := by
  cases consults <;> exact id

theorem not_removes (consults : call.Consults role answer) : ¬ call.Removes role := by
  cases consults <;> exact id

end Call.Consults

theorem Call.Reconciles.looksUp (reconciles : call.Reconciles role) : call.LooksUp role := by
  cases call with
  | findRole => exact absurd reconciles id
  | _ => exact reconciles

/-- A call leaves a role alone if all that it may have to do with it is to ask for it. -/
def Call.LeavesAlone (role : RoleId) (call : Call) : Prop :=
  (∃ answer, call.Consults role answer) ∨ ¬ call.Touches role

theorem Call.LeavesAlone.not_looksUp (leavesAlone : call.LeavesAlone role) : ¬ call.LooksUp role := by
  rcases leavesAlone with ⟨answer, consults⟩ | isApart
  · exact consults.not_looksUp
  · exact fun looksUp => isApart (.inr (.inl looksUp))

theorem Call.LeavesAlone.not_removes (leavesAlone : call.LeavesAlone role) : ¬ call.Removes role := by
  rcases leavesAlone with ⟨answer, consults⟩ | isApart
  · exact consults.not_removes
  · exact fun removes => isApart (.inr (.inr removes))

theorem Call.LeavesAlone.not_writes (leavesAlone : call.LeavesAlone role) {action : Action}
    (writes : call.Writes action) : (∀ rules, action ≠ .write role rules) ∧ action ≠ .delete role := by
  constructor
  · rintro rules rfl
    apply leavesAlone.not_looksUp
    cases call <;> first | exact writes.symm | cases writes
  · rintro rfl
    apply leavesAlone.not_removes
    cases call <;> first | exact writes.symm | cases writes

theorem Call.LeavesAlone.unresolved {task : TaskId} {past : List Deed} (leavesAlone : call.LeavesAlone role)
    (unseats : call.Unseats settings role task past) :
    ∃ reply, ⟨task, .find role, reply⟩ ∈ past ∧ ∀ stored, reply ≠ .ok (some stored) := by
  cases unseats with
  | invalidated => exact absurd rfl leavesAlone.not_removes
  | deleted => exact absurd rfl leavesAlone.not_removes
  | unresolved _ reply isAnswered isInVain => exact ⟨reply, isAnswered, isInVain⟩
  | timedOut reconciles => exact absurd reconciles.looksUp leavesAlone.not_looksUp
  | vanished reconciles => exact absurd reconciles.looksUp leavesAlone.not_looksUp

end Consulting

section Telling

variable {role : RoleId} {stored : Role} {log : List Deed} {Store : Type} [Repository Store]

/-- What is told of a stored role, once it was read, is what is stored, and every look-up finds it. -/
def Discloses (role : RoleId) (stored : Role) (log : List Deed) (stance : Stance) (_writes : List Write)
    (action : Action) (reply : action.Reply) : Prop :=
  (∀ told, stance.Tells role told action reply → told = stored ∧ IsRead log role stored) ∧
    ∀ task answer, (⟨task, action, reply⟩ : Deed) = ⟨task, .find role, answer⟩ → answer = .ok (some stored)

theorem Authorization.resolve_discloses {permits : Stance → List Write → Action → Prop}
    {post : Except AccessError Role → Stance → List Write → Prop}
    (resolved : IsRead log role stored → post (.ok stored) .idle []) :
    (resolve role).Ensures ⟨Discloses role stored log, permits⟩ post .idle [] := by
  apply resolve_ensures
  · rintro snapshot ⟨stance, action, reply, discloses, tells⟩
    obtain ⟨rfl, isRead⟩ := discloses.1 snapshot tells
    exact resolved isRead
  · rintro ⟨slot, discloses⟩
    cases discloses.2 0 _ rfl
  · rintro error ⟨slot, discloses⟩
    cases discloses.2 0 _ rfl

def AnswersBy (calls : List Call) (role : RoleId) (stored : Role) (log : List Deed) (task : TaskId)
    (outcome : Outcome) : Prop :=
  ∀ (call : Call) answer, calls[task]? = some call → call.Consults role answer →
    outcome = ⟨call, answer (.ok stored)⟩ ∧ IsRead log role stored

theorem Call.answersBy_ensures {settings : Settings} {calls : List Call} (task : TaskId)
    (program : Program Outcome) (located : (calls.map (Call.program settings))[task]? = some program) :
    program.Ensures (Terms.ofCalls (Discloses role stored log) calls task) (fun outcome stance _ =>
      stance = .idle ∧ AnswersBy calls role stored log task outcome) .idle [] := by
  rw [List.getElem?_map, Option.map_eq_some_iff] at located
  obtain ⟨call, isCall, rfl⟩ := located
  by_cases isAsking : ∃ answer, call.Consults role answer
  · obtain ⟨answer, consults⟩ := isAsking
    rw [consults.program_eq]
    refine (Program.ensures_bind _ _).mpr (Authorization.resolve_discloses fun isRead => ⟨rfl, ?_⟩)
    intro other found isOther alsoConsults
    obtain rfl := Option.some.inj (isCall.symm.trans isOther)
    obtain rfl := consults.unique alsoConsults
    exact ⟨rfl, isRead⟩
  · have ensured : (call.program settings).Ensures (Terms.ofCalls (Discloses role stored log) calls task) _
        .idle [] := call.ensures fun _ action writes => ⟨call, isCall, writes⟩
    refine ensured.mono fun outcome stance writes isIdle => ⟨isIdle.1, fun other answer isOther consults => ?_⟩
    obtain rfl := Option.some.inj (isCall.symm.trans isOther)
    exact absurd ⟨answer, consults⟩ isAsking

theorem Scene.Steady.discloses {scene : Scene Store} {limit : Nat} {past : List Deed}
    [LawfulRepository Store] (steady : scene.Steady limit role stored past) (gated : scene.Gated)
    (isPast : past ⊆ log) (isSound : ∀ task error, ⟨task, .find role, .error error⟩ ∉ log) {task : TaskId}
    {action : Action} (isDone : ⟨task, action, (scene.world.perform task action).1⟩ ∈ log) :
    Discloses role stored log (scene.stance task) (scene.writes task) action
      (scene.world.perform task action).1 := by
  have answered : ∀ asker answer,
      (⟨asker, action, (scene.world.perform task action).1⟩ : Deed) = ⟨asker, .find role, answer⟩ →
        answer = .ok (some stored) := by
    intro asker answer isFind
    obtain ⟨_, rfl, isAnswer⟩ := Deed.mk.inj isFind
    obtain rfl := eq_of_heq isAnswer
    cases asked : (scene.world.perform task (.find role)).1 with
    | error error => exact absurd (asked ▸ isDone) (isSound task error)
    | ok found => exact (World.perform_find_ok (Prod.ext asked rfl)).symm.trans steady.isStored
  refine ⟨fun told tells => ?_, answered⟩
  rcases gated.shown_or_found tells with isShown | isFound
  · obtain ⟨isStored, reader, isRead⟩ := steady.shown told isShown
    exact ⟨isStored, reader, isPast isRead⟩
  · obtain rfl := Option.some.inj (Except.ok.inj (answered task _ isFound))
    exact ⟨rfl, task, isFound ▸ isDone⟩

end Telling

section Sight

variable {role : RoleId} {me : TaskId}

/-- A task looks for the role in the cache before all else, and does nothing more if it sees it there. -/
def StopsAtSight (role : RoleId) (me : TaskId) (_entered : List Guard) (past : List Deed) (action : Action) :
    Prop :=
  (action = .peek role → past = []) ∧ ∀ snapshot, ⟨me, .peek role, some snapshot⟩ ∉ past

theorem Authorization.resolve_stopsAtSight : (resolve role).Heeds (StopsAtSight role me) me
    (fun told _ past => ∀ snapshot, ⟨me, .peek role, some snapshot⟩ ∈ past → told = .ok snapshot) [] [] := by
  refine ⟨⟨fun _ => rfl, by simp⟩, fun shown => ?_⟩
  cases shown with
  | some shown =>
      intro snapshot isSeen
      simp only [List.nil_append, List.mem_singleton, Deed.mk.injEq, heq_eq_eq, true_and, Option.some.injEq]
        at isSeen
      exact congrArg Except.ok isSeen.symm
  | none =>
      refine fun slot => ⟨⟨by simp, by simp⟩, fun current => ?_⟩
      cases current with
      | some snapshot => exact ⟨⟨by simp, by simp⟩, fun _ _ isSeen => by simp at isSeen⟩
      | none =>
          refine ⟨⟨by simp, by simp⟩, fun found => ?_⟩
          match found with
          | .ok (some loaded) =>
              exact ⟨⟨by simp, by simp⟩, fun _ => ⟨⟨by simp, by simp⟩, fun _ _ isSeen => by simp at isSeen⟩⟩
          | .ok none =>
              exact ⟨⟨by simp, by simp⟩, fun _ => ⟨⟨by simp, by simp⟩, fun _ =>
                ⟨⟨by simp, by simp⟩, fun _ _ isSeen => by simp at isSeen⟩⟩⟩
          | .error error =>
              exact ⟨⟨by simp, by simp⟩, fun _ => ⟨⟨by simp, by simp⟩, fun _ =>
                ⟨⟨by simp, by simp⟩, fun _ _ isSeen => by simp at isSeen⟩⟩⟩

end Sight

def Deed.asksFor (role : RoleId) : Deed → Bool
  | ⟨_, .find other, _⟩ => other = role
  | _ => false

theorem Deed.asksFor_iff {role : RoleId} {deed : Deed} :
    deed.asksFor role = true ↔ ∃ reply, deed = ⟨deed.task, .find role, reply⟩ := by
  constructor
  · intro asks
    obtain ⟨task, action, reply⟩ := deed
    cases action with
    | find other =>
        obtain rfl : other = role := by simpa [asksFor] using asks
        exact ⟨reply, rfl⟩
    | _ => simp [asksFor] at asks
  · rintro ⟨reply, isFind⟩
    rw [isFind]
    simp [asksFor]

def Deed.isFailedFind : Deed → Bool
  | ⟨_, .find _, .error _⟩ => true
  | _ => false

theorem exists_two_of_countP {Item : Type} {kind : Item → Bool} {items : List Item}
    (isMore : 1 < items.countP kind) : ∃ earlier first between second later,
      items = earlier ++ first :: between ++ second :: later ∧ kind first = true ∧ kind second = true := by
  induction items with
  | nil => simp at isMore
  | cons item rest inductionHypothesis =>
      by_cases isKind : kind item = true
      · rw [List.countP_cons_of_pos isKind] at isMore
        obtain ⟨second, isLater, isSecond⟩ := List.countP_pos_iff.mp (Nat.lt_of_succ_lt_succ isMore)
        obtain ⟨between, later, rfl⟩ := List.append_of_mem isLater
        exact ⟨[], item, between, second, later, rfl, isKind, isSecond⟩
      · rw [List.countP_cons_of_neg isKind] at isMore
        obtain ⟨earlier, first, between, second, later, rfl, areKind⟩ := inductionHypothesis isMore
        exact ⟨item :: earlier, first, between, second, later, rfl, areKind⟩

namespace Machine

variable {Store : Type} [Repository Store] {settings : Settings} {calls : List Call} {world : World Store}
  {role : RoleId} {stored : Role} {log earlier later : List Deed} {machine : Machine Store Outcome}

/-- A look-up by a call that does not look the role up for its own sake is a load, if it finds the role. -/
theorem Run.loads_of_find {task : TaskId} {call : Call}
    (run : (load world (calls.map (Call.program settings))).Run
      (earlier ++ ⟨task, .find role, .ok (some stored)⟩ :: later) machine)
    (filed : world.cache.Filed) (located : calls[task]? = some call) (isOther : ¬ call.LooksUp role) :
    Loads role earlier ⟨task, .find role, .ok (some stored)⟩ := by
  obtain ⟨before, _, toBefore, isDeed, _⟩ := run.splitAt rfl
  obtain ⟨_, conducts, _⟩ := toBefore.conducts filed located isDeed
  obtain ⟨_, hasLooked⟩ := (conducts.finds role rfl).resolve_left isOther
  exact ⟨hasLooked, stored, rfl⟩

/-- A stored role is not cached, and calls leave it alone but for asking for it, while no look-up of it fails
and no role that is created takes its identifier. -/
structure Cold (calls : List Call) (world : World Store) (role : RoleId) (stored : Role) (log : List Deed)
    (machine : Machine Store Outcome) [LawfulRepository Store] : Prop where
  leavesAlone : ∀ call ∈ calls, call.LeavesAlone role
  isStored : Repository.find world.store role = .ok (some stored)
  isUncached : world.cache.get role = none
  isSound : ∀ task error, ⟨task, .find role, .error error⟩ ∉ log
  fresh : world.Fresh machine.world.created

variable [LawfulRepository Store]

theorem Cold.steady (cold : Cold calls world role stored log machine)
    (run : (load world (calls.map (Call.program settings))).Run log machine) (atRest : world.cache.AtRest) :
    (∃ scene : Scene Store, scene.Steady machine.world.created role stored log) ∧
      ∀ task outcome, machine.tasks[task]? = some (.finished outcome) →
        AnswersBy calls role stored log task outcome := by
  have begins : (load world (calls.map (Call.program settings))).Plays
      (Terms.ofCalls (Discloses role stored log) calls)
      (fun task outcome _ => AnswersBy calls role stored log task outcome) (Scene.start world) :=
    .load Call.answersBy_ensures
  have isHeld : (Scene.start world).Gated ∧ (Scene.start world).Steady machine.world.created role stored [] :=
    ⟨.start atRest, cold.isStored, cold.fresh, by simp [Scene.start],
      by simp [Scene.start, cold.isUncached], by simp⟩
  have spares : ∀ (scene : Scene Store) (me : TaskId) (taken : Deed), (taken.action.isWrite = true →
      (Terms.ofCalls (Discloses role stored log) calls me).permits (scene.stance me) (scene.writes me)
        taken.action) → (∀ rules, taken.action ≠ .write role rules) ∧ taken.action ≠ .delete role := by
    intro scene me taken permitted
    by_cases isWrite : taken.action.isWrite = true
    · obtain ⟨call, located, writes⟩ := permitted isWrite
      exact (cold.leavesAlone call (List.mem_of_getElem? located)).not_writes writes
    · refine ⟨fun rules isSave => isWrite ?_, fun isDelete => isWrite ?_⟩
      · rw [isSave]
        rfl
      · rw [isDelete]
        rfl
  obtain ⟨scene, plays, _, steady⟩ := run.plays_within (List.Subset.refl _) (Nat.le_refl _)
    (fun past scene => scene.Gated ∧ scene.Steady machine.world.created role stored past) begins isHeld
    (fun past scene task action isPast held isDone => held.2.discloses held.1 isPast cold.isSound isDone)
    fun past scene me deed next held moved permitted isBelow => ⟨held.1.move moved,
      held.2.move held.1 moved isBelow fun taken isTaken => spares scene me taken (permitted taken isTaken)⟩
  exact ⟨⟨scene, steady⟩, fun task outcome isFinished => (plays.tasks task _ isFinished).2⟩

/-- Between two loads somebody hides the role from readers, and has a cause. -/
theorem Run.unseats_of_loads (atRest : world.cache.AtRest) {between : List Deed} {first second : Deed}
    (run : (load world (calls.map (Call.program settings))).Run
      (earlier ++ first :: between ++ second :: later) machine)
    (isFirst : Loads role earlier first) (isSecond : Loads role (earlier ++ first :: between) second) :
    ∃ done rest task slot call, between = done ++ ⟨task, .clear slot, ()⟩ :: rest ∧
      (load world (calls.map (Call.program settings))).Hides (earlier ++ first :: done) role task slot ∧
        calls[task]? = some call ∧ call.Unseats settings role task (earlier ++ first :: done) := by
  have orderly : ∀ program ∈ calls.map (Call.program settings), program.Orderly := by
    rintro program isListed
    obtain ⟨call, _, rfl⟩ := List.mem_map.mp isListed
    exact call.orderly settings
  have fetches : ∀ program ∈ calls.map (Call.program settings), program.Fetches .apart := by
    rintro program isListed
    obtain ⟨call, _, rfl⟩ := List.mem_map.mp isListed
    exact call.fetches settings
  obtain ⟨done, rest, task, slot, isBetween, hides⟩ := run.hides_of_loads atRest orderly fetches isFirst isSecond
  obtain ⟨call, located, unseats⟩ := hides.unseats atRest.filed
  exact ⟨done, rest, task, slot, call, isBetween, hides, located, unseats⟩

theorem Cold.loads {deed : Deed} (cold : Cold calls world role stored (earlier ++ deed :: later) machine)
    (run : (load world (calls.map (Call.program settings))).Run (earlier ++ deed :: later) machine)
    (atRest : world.cache.AtRest) (asks : deed.asksFor role = true) : Loads role earlier deed := by
  obtain ⟨⟨scene, steady⟩, _⟩ := cold.steady run atRest
  obtain ⟨reply, isFind⟩ := Deed.asksFor_iff.mp asks
  obtain ⟨before, _, toBefore, isDeed, _⟩ := run.splitAt rfl
  obtain ⟨_, _, present⟩ := present_of_deed? isDeed
  obtain ⟨call, located⟩ := toBefore.carriesOut present
  have isOther := (cold.leavesAlone call (List.mem_of_getElem? located)).not_looksUp
  have isDone : ⟨deed.task, .find role, reply⟩ ∈ earlier ++ deed :: later := by simp [← isFind]
  rcases steady.answered deed.task reply isDone with ⟨error, rfl⟩ | rfl
  · exact absurd isDone (cold.isSound deed.task error)
  · rw [isFind] at run ⊢
    exact run.loads_of_find atRest.filed located isOther

theorem Cold.countP_le (cold : Cold calls world role stored log machine)
    (run : (load world (calls.map (Call.program settings))).Run log machine) (atRest : world.cache.AtRest) :
    log.countP (Deed.asksFor role) ≤ 1 := by
  by_contra isMore
  obtain ⟨earlier, first, between, second, later, rfl, isFirst, isSecond⟩ :=
    exists_two_of_countP (Nat.lt_of_not_le isMore)
  have loadsSecond : Loads role (earlier ++ first :: between) second := cold.loads run atRest isSecond
  rw [List.append_assoc] at cold run
  have loadsFirst : Loads role earlier first := cold.loads run atRest isFirst
  rw [← List.append_assoc] at cold run
  obtain ⟨⟨scene, steady⟩, _⟩ := cold.steady run atRest
  obtain ⟨done, rest, task, slot, call, rfl, _, located, unseats⟩ :=
    run.unseats_of_loads atRest loadsFirst loadsSecond
  obtain ⟨reply, isAnswered, isInVain⟩ :=
    (cold.leavesAlone call (List.mem_of_getElem? located)).unresolved unseats
  have isDone : ⟨task, .find role, reply⟩ ∈
      earlier ++ first :: (done ++ ⟨task, .clear slot, ()⟩ :: rest) ++ second :: later := by
    simp only [List.mem_append, List.mem_cons] at isAnswered ⊢
    tauto
  rcases steady.answered task reply isDone with ⟨error, rfl⟩ | rfl
  · exact cold.isSound task error isDone
  · exact isInVain stored rfl

omit [LawfulRepository Store] in
/-- A call that sees the role in the cache does nothing else, and answers by what it has seen. -/
theorem Run.stopsAtSight {task : TaskId} {call : Call} {answer : Except AccessError Role → call.Answer}
    {snapshot : Role} (run : (load world (calls.map (Call.program settings))).Run log machine)
    (filed : world.cache.Filed) (located : calls[task]? = some call) (consults : call.Consults role answer)
    (isSeen : ⟨task, .peek role, some snapshot⟩ ∈ log) :
    deedsOf task log = [⟨task, .peek role, some snapshot⟩] ∧
      ∀ outcome, machine.tasks[task]? = some (.finished outcome) →
        outcome = ⟨call, answer (.ok snapshot)⟩ := by
  have isProgram : (calls.map (Call.program settings))[task]? = some (call.program settings) := by
    rw [List.getElem?_map, located, Option.map_some]
  have heeds : (call.program settings).Heeds (StopsAtSight role task) task (fun outcome _ past =>
      ∀ snapshot, ⟨task, .peek role, some snapshot⟩ ∈ past → outcome = ⟨call, answer (.ok snapshot)⟩) [] [] := by
    rw [consults.program_eq]
    refine (Program.heeds_bind _ _).mpr (Authorization.resolve_stopsAtSight.mono ?_)
    intro told _ past _ _ isTold snapshot isSeen
    rw [isTold snapshot isSeen]
  constructor
  · obtain ⟨earlier, later, rfl⟩ := List.append_of_mem isSeen
    obtain ⟨_, isFirst, _⟩ := run.heeded filed isProgram heeds
    have isLast : deedsOf task later = [] := by
      refine List.filter_eq_nil_iff.mpr fun deed isLater => ?_
      rw [decide_eq_true_iff]
      rintro rfl
      obtain ⟨between, rest, rfl⟩ := List.append_of_mem isLater
      rw [← List.cons_append, ← List.append_assoc] at run
      obtain ⟨_, _, isUnseen⟩ := run.heeded filed isProgram heeds
      exact isUnseen snapshot (by simp)
    rw [deedsOf_append, isFirst rfl, List.nil_append, deedsOf, List.filter_cons_of_pos (by simp)]
    exact congrArg _ isLast
  · intro outcome isFinished
    have rough : RoughRun (fun _ _ => True) (load world (calls.map (Call.program settings))) log machine :=
      .ofRun run
    obtain ⟨_, isAnswer, _⟩ := rough.heeds filed isProgram heeds _ isFinished
    exact isAnswer snapshot (by simpa using isSeen)

/-- How a role is loaded in the course of a run. -/
structure LoadsOnce (settings : Settings) (calls : List Call) (world : World Store) (role : RoleId)
    (log : List Deed) (machine : Machine Store Outcome) : Prop where
  /-- A look-up by a call that does not look the role up for its own sake is a load, if it finds the role. -/
  loads : ∀ (task : TaskId) (call : Call) stored earlier later, calls[task]? = some call → ¬ call.LooksUp role →
    log = earlier ++ ⟨task, .find role, .ok (some stored)⟩ :: later →
      Loads role earlier ⟨task, .find role, .ok (some stored)⟩
  /-- Between two loads somebody hides from readers a role that they saw, and has a cause for it. -/
  hidden : ∀ earlier first between second later, log = earlier ++ first :: between ++ second :: later →
    Loads role earlier first → Loads role (earlier ++ first :: between) second →
      ∃ done rest task slot call, between = done ++ ⟨task, .clear slot, ()⟩ :: rest ∧
        (load world (calls.map (Call.program settings))).Hides (earlier ++ first :: done) role task slot ∧
          calls[task]? = some call ∧ call.Unseats settings role task (earlier ++ first :: done)
  /-- A stored role is loaded once, however many calls ask for it, and all of them answer by what is stored. -/
  cold : ∀ stored, Cold calls world role stored log machine → log.countP (Deed.asksFor role) ≤ 1 ∧
    ∀ (task : TaskId) (call : Call) answer outcome, calls[task]? = some call → call.Consults role answer →
      machine.tasks[task]? = some (.finished outcome) →
        log.countP (Deed.asksFor role) = 1 ∧ outcome = ⟨call, answer (.ok stored)⟩
  /-- Whoever sees the role in the cache asks nobody else, and answers by what it has seen. -/
  warm : ∀ (task : TaskId) (call : Call) answer snapshot, calls[task]? = some call →
    call.Consults role answer → ⟨task, .peek role, some snapshot⟩ ∈ log →
      deedsOf task log = [⟨task, .peek role, some snapshot⟩] ∧
        ∀ outcome, machine.tasks[task]? = some (.finished outcome) → outcome = ⟨call, answer (.ok snapshot)⟩
  /-- In whatever order the calls go on, all of them answer in the end. -/
  ends : machine.Ends

/-- However the calls take turns, one load of a role serves them all until somebody hides it from readers. -/
theorem loads_once (run : (load world (calls.map (Call.program settings))).Run log machine)
    (atRest : world.cache.AtRest) (role : RoleId) : LoadsOnce settings calls world role log machine where
  loads task call stored earlier later located isOther isLog := by
    subst isLog
    exact run.loads_of_find atRest.filed located isOther
  hidden earlier first between second later isLog isFirst isSecond := by
    subst isLog
    exact run.unseats_of_loads atRest isFirst isSecond
  cold stored cold := by
    have isOnce := cold.countP_le run atRest
    refine ⟨isOnce, fun task call answer outcome located consults isFinished => ?_⟩
    obtain ⟨_, answers⟩ := cold.steady run atRest
    obtain ⟨isAnswer, reader, isRead⟩ := answers task outcome isFinished call answer located consults
    have isSome := List.countP_pos_iff.mpr ⟨_, isRead, Deed.asksFor_iff.mpr ⟨_, rfl⟩⟩
    exact ⟨Nat.le_antisymm isOnce isSome, isAnswer⟩
  warm task call answer snapshot located consults isSeen := run.stopsAtSight atRest.filed located consults isSeen
  ends := run.ends atRest Call.isIdle

end Machine

section Office

def Call.rush : List Call :=
  [.resolve keeper.id, .authorize keeperSession .rbacAdmin .view, .resolve keeper.id]

def Machine.rush : Machine MemoryStore Outcome :=
  .load (.start .office RoleId.drawn) (Call.rush.map (Call.program .office))

def Machine.rushOver : List Deed × Machine MemoryStore Outcome :=
  (rush.follow? ([0, 1, 0, 1, 0, 1] ++ List.replicate 6 0 ++ List.replicate 4 1 ++ [2, 2])).get (by decide)

def Call.refill : List Call :=
  [.resolve keeper.id, .invalidate keeper.id, .resolve keeper.id]

def Machine.refill : Machine MemoryStore Outcome :=
  .load (.start .office RoleId.drawn) (Call.refill.map (Call.program .office))

def Machine.refillOver : List Deed × Machine MemoryStore Outcome :=
  (refill.follow? (List.replicate 9 0 ++ List.replicate 7 1 ++ List.replicate 9 2)).get (by decide)

theorem Call.leavesAlone_rush {call : Call} (isListed : call ∈ rush) : call.LeavesAlone keeper.id := by
  simp only [rush, List.mem_cons, List.not_mem_nil, or_false] at isListed
  rcases isListed with rfl | rfl | rfl
  · exact .inl ⟨_, .resolve⟩
  · exact .inl ⟨_, .authorize rfl rfl⟩
  · exact .inl ⟨_, .resolve⟩

/-- One load serves all three calls of the rush, the last of which only looks into the cache. Between the two
loads of the refill the snapshot was cleared by the call that invalidates the role. -/
theorem Machine.loads_once_rush : rush.Run rushOver.1 rushOver.2 ∧ refill.Run refillOver.1 refillOver.2 ∧
    Cold Call.rush (.start .office RoleId.drawn) keeper.id keeper rushOver.1 rushOver.2 ∧
    rushOver.1.countP (Deed.asksFor keeper.id) = 1 ∧
    (∃ outcome, rushOver.2.tasks[1]? = some (.finished outcome) ∧
      outcome = ⟨.authorize keeperSession .rbacAdmin .view, .ok (keeper.decide .rbacAdmin .view)⟩) ∧
    deedsOf 2 rushOver.1 = [⟨2, .peek keeper.id, some keeper⟩] ∧
    refillOver.1.countP (Deed.asksFor keeper.id) = 2 ∧
    ∃ earlier first between second later, refillOver.1 = earlier ++ first :: between ++ second :: later ∧
      Loads keeper.id earlier first ∧ Loads keeper.id (earlier ++ first :: between) second ∧
        ∃ done rest task slot call, between = done ++ ⟨task, .clear slot, ()⟩ :: rest ∧
          refill.Hides (earlier ++ first :: done) keeper.id task slot ∧ Call.refill[task]? = some call ∧
            call.Unseats .office keeper.id task (earlier ++ first :: done) := by
  have run : rush.Run rushOver.1 rushOver.2 := Run.get _
  have again : refill.Run refillOver.1 refillOver.2 := Run.get _
  have areSound : rushOver.1.any Deed.isFailedFind = false := rfl
  have cold : Cold Call.rush (.start .office RoleId.drawn) keeper.id keeper rushOver.1 rushOver.2 :=
    { leavesAlone := fun call isListed => Call.leavesAlone_rush isListed
      isStored := by decide
      isUncached := rfl
      isSound := fun task error isDone => List.any_eq_false.mp areSound _ isDone rfl
      fresh := .of_le (by decide) }
  have isFinished : rushOver.2.tasks[1]? = some (.finished
      ⟨.authorize keeperSession .rbacAdmin .view, .ok (keeper.decide .rbacAdmin .view)⟩) := rfl
  have isSeen : rushOver.1[8]? = some ⟨2, .peek keeper.id, some keeper⟩ := rfl
  have once := loads_once run Cache.atRest_empty keeper.id
  have isSplit : refillOver.1 = refillOver.1.take 2 ++ ⟨0, .find keeper.id, .ok (some keeper)⟩ ::
      (refillOver.1.drop 3).take 7 ++ ⟨2, .find keeper.id, .ok (some keeper)⟩ :: refillOver.1.drop 11 := rfl
  have isFirst : Loads keeper.id (refillOver.1.take 2) ⟨0, .find keeper.id, .ok (some keeper)⟩ :=
    ⟨⟨0, rfl⟩, keeper, rfl⟩
  have isSecond : Loads keeper.id (refillOver.1.take 2 ++ ⟨0, .find keeper.id, .ok (some keeper)⟩ ::
      (refillOver.1.drop 3).take 7) ⟨2, .find keeper.id, .ok (some keeper)⟩ := ⟨⟨1, rfl⟩, keeper, rfl⟩
  obtain ⟨isOnce, isAnswer⟩ := (once.cold keeper cold).2 1 _ _ _ rfl (.authorize rfl rfl) isFinished
  refine ⟨run, again, cold, isOnce, ⟨_, isFinished, isAnswer⟩, ?_, rfl, _, _, _, _, _, isSplit, isFirst,
    isSecond, ?_⟩
  · exact (once.warm 2 _ _ keeper rfl .resolve (List.mem_of_getElem? isSeen)).1
  · exact (loads_once again Cache.atRest_empty keeper.id).hidden _ _ _ _ _ isSplit isFirst isSecond

end Office

end Rolebook
