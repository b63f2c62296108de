import Rolebook.Proofs.Cache.Loading

/-!
Who clears what readers see of a role. A call clears the slot of a role only for a reason: it invalidates or
has deleted the role, it asked for the role in vain, or it was to reconcile the role, which took too long or
found it gone. And a call asks the repository for the role of its session only where it has seen no snapshot.
-/

namespace Rolebook

section Composable

/-- A kind of programs that may be run one after the other. -/
structure Program.Composable (kind : ∀ Answer : Type, Program Answer → Prop) : Prop where
  done : ∀ {Answer : Type} (answer : Answer), kind Answer (.done answer)
  bind : ∀ {Answer Result : Type} {program : Program Answer} {rest : Answer → Program Result},
    kind Answer program → (∀ answer, kind Result (rest answer)) → kind Result (program.bind rest)

namespace Program.Composable

variable {kind : ∀ Answer : Type, Program Answer → Prop} {settings : Settings} {policy : Policy}
  {session : Session} {scope : Scope} {required : Level}

theorem authorize (composable : Composable kind)
    (resolves : session.isEmpty = false → kind _ (Authorization.resolve session.role)) :
    kind _ (Authorization.authorize policy session scope required) := by
  unfold Authorization.authorize
  by_cases isEmpty : session.isEmpty = true
  · rw [if_pos isEmpty]
    exact composable.done _
  · rw [if_neg isEmpty]
    refine composable.bind (resolves (by simpa using isEmpty)) fun outcome => ?_
    cases outcome <;> exact composable.done _

theorem isAllowed (composable : Composable kind)
    (resolves : session.isEmpty = false → kind _ (Authorization.resolve session.role)) :
    kind _ (Authorization.isAllowed policy session scope required) := by
  refine composable.bind (composable.authorize resolves) fun outcome => ?_
  cases outcome <;> exact composable.done _

theorem require (composable : Composable kind)
    (resolves : session.isEmpty = false → kind _ (Authorization.resolve session.role)) :
    kind _ (Authorization.require policy session scope required) := by
  refine composable.bind (composable.authorize resolves) fun outcome => ?_
  cases Authorization.denyMissing outcome with
  | error error => exact composable.done _
  | ok decision =>
      dsimp only
      split <;> exact composable.done _

theorem asAdmin {Answer : Type} {operation : Program (Except ServiceError Answer)}
    (composable : Composable kind)
    (resolves : session.isEmpty = false → kind _ (Authorization.resolve session.role))
    (operates : kind _ operation) :
    kind _ (Administration.asAdmin settings session required operation) := by
  have requires : kind _ (Administration.requireAdmin settings session required) := by
    refine composable.bind (composable.require resolves) fun outcome => ?_
    cases outcome <;> exact composable.done _
  refine composable.bind requires fun outcome => ?_
  cases outcome with
  | error error => exact composable.done _
  | ok done => exact operates

end Program.Composable

end Composable

section Fetching

theorem Program.composable_fetches : Composable fun _ program => program.Fetches .apart :=
  ⟨fun _ => .done, fun fetches continued => fetches.bind continued⟩

theorem Program.evict_fetches (role : RoleId) (slot : SlotId) : (evict role slot).Fetches .apart :=
  .act (by simp) fun _ => .act (by simp) fun _ => .act (by simp) fun _ => .done

theorem Program.evict_fetches_failed (role : RoleId) (slot : SlotId) :
    (evict role slot).Fetches (.failed ⟨role, slot⟩) :=
  .clear (.act (by simp) fun _ => .act (by simp) fun _ => .done)

namespace Authorization

theorem resolve_fetches (role : RoleId) : (resolve role).Fetches .apart := by
  refine .act (by simp) fun shown => ?_
  cases shown with
  | some snapshot => exact .done
  | none =>
      refine .enter fun slot => .look (.load (fun stored => ?_) ?_ fun error => ?_) fun snapshot => ?_
      · exact .publish (.act (by simp) fun _ => .done)
      · exact (Program.evict_fetches_failed role slot).bind fun _ => .done
      · exact (Program.evict_fetches_failed role slot).bind fun _ => .done
      · exact .act (by simp) fun _ => .done

theorem invalidate_fetches (role : RoleId) : (invalidate role).Fetches .apart :=
  .lockPublished .done fun slot => Program.evict_fetches role slot

end Authorization

namespace Reconciliation

theorem waitWithin_fetches (deadline : Option Nat) (before duration : Nat) :
    (waitWithin deadline before duration).Fetches .apart := by
  cases deadline <;> exact .act (by simp) fun _ => .done

theorem saveWithin_fetches (deadline : Option Nat) (role : RoleId) (rules : RuleSet) :
    (saveWithin deadline role rules).Fetches .apart := by
  refine .act (by simp) fun delays => (waitWithin_fetches deadline 0 delays.1).bind fun isLate => ?_
  split
  · exact .done
  · refine .act (by simp) fun written => ?_
    match written with
    | .error error => exact .done
    | .ok () =>
        refine (waitWithin_fetches deadline delays.1 delays.2).bind fun isLate => ?_
        split <;> exact .done

theorem applyWithin_fetches (mode : Mode) (deadline : Nat) (role : RoleId) (submission : Submission) :
    (applyWithin mode deadline role submission).Fetches .apart := by
  unfold applyWithin
  split
  · exact .done
  · refine .lock fun slot => .act (by simp) fun found => ?_
    match found with
    | .ok none => exact (Program.evict_fetches role slot).bind fun _ => .done
    | .error error => exact .act (by simp) fun _ => .done
    | .ok (some stored) =>
        refine (saveWithin_fetches (some deadline) role _).bind fun saved => ?_
        match saved with
        | none => exact .act (by simp) fun _ => .act (by simp) fun _ => .done
        | some (.ok ()) => exact .act (by simp) fun _ => .act (by simp) fun _ => .done
        | some (.error error) =>
            by_cases isGone : error.kind = .notFound
            · simp only [isGone, if_true]
              exact (Program.evict_fetches role slot).bind fun _ => .done
            · simp only [isGone, if_false]
              exact .act (by simp) fun _ => .done

end Reconciliation

end Fetching

namespace Call

def asks? : Call → Option RoleId
  | resolve role => some role
  | authorize session _ _ | isAllowed session _ _ | require session _ _ | createRole session _
  | deleteRole session _ | updateRules session _ _ | listRoles session | findRole session _ =>
      if session.isEmpty then none else some session.role
  | invalidate _ | apply _ _ => none

def Reconciles (role : RoleId) : Call → Prop
  | apply other _ | updateRules _ other _ => other = role
  | _ => False

/-- Whether a call looks the role up for its own sake, and not to resolve it. -/
def LooksUp (role : RoleId) : Call → Prop
  | findRole _ other => other = role
  | call => call.Reconciles role

/-- The cause for which a task clears what readers see of a role, given what it did before. -/
inductive Unseats (settings : Settings) (role : RoleId) (task : TaskId) (past : List Deed) : Call → Prop where
  | invalidated : Unseats settings role task past (.invalidate role)
  | deleted {session : Session} (isDeleted : ⟨task, .delete role, .ok ()⟩ ∈ past) :
      Unseats settings role task past (.deleteRole session role)
  /-- The load has failed, or has found that there is no such role. -/
  | unresolved {call : Call} (asks : call.asks? = some role) (reply : Except ServiceError (Option Role))
      (isAnswered : ⟨task, .find role, reply⟩ ∈ past) (isInVain : ∀ stored, reply ≠ .ok (some stored)) :
      Unseats settings role task past call
  | timedOut {call : Call} (reconciles : call.Reconciles role) {before after : Nat}
      (isAnnounced : ⟨task, .announceSave, (before, after)⟩ ∈ past)
      (isLate : settings.writeTimeout < before + after) : Unseats settings role task past call
  | vanished {call : Call} (reconciles : call.Reconciles role) (isGone : ⟨task, .find role, .ok none⟩ ∈ past ∨
      ∃ rules error, ⟨task, .write role rules, .error error⟩ ∈ past ∧ error.kind = .notFound) :
      Unseats settings role task past call

theorem Unseats.mono {settings : Settings} {role : RoleId} {task : TaskId} {past log : List Deed} {call : Call}
    (unseats : call.Unseats settings role task past) (areDone : past ⊆ log) :
    call.Unseats settings role task log := by
  cases unseats with
  | invalidated => exact .invalidated
  | deleted isDeleted => exact .deleted (areDone isDeleted)
  | unresolved asks reply isAnswered isInVain => exact .unresolved asks reply (areDone isAnswered) isInVain
  | timedOut reconciles isAnnounced isLate => exact .timedOut reconciles (areDone isAnnounced) isLate
  | vanished reconciles isGone =>
      refine .vanished reconciles (isGone.imp (fun isMissing => areDone isMissing) ?_)
      exact fun ⟨rules, error, isRefused, isMissing⟩ => ⟨rules, error, areDone isRefused, isMissing⟩

/-- What a call may do under the guards by which it came in and after what it did: to clear a slot for a
cause, and to look up the role of its session where it has just seen no snapshot. -/
structure Conducts (settings : Settings) (me : TaskId) (call : Call) (entered : List Guard) (past : List Deed)
    (action : Action) : Prop where
  clears : ∀ slot, action = .clear slot →
    ∃ guard ∈ entered, guard.slot = slot ∧ call.Unseats settings guard.role me past
  finds : ∀ role, action = .find role → call.LooksUp role ∨
    call.asks? = some role ∧ ∃ slot, past.getLast? = some ⟨me, .current slot, none⟩

theorem Conducts.of_other {settings : Settings} {me : TaskId} {call : Call} {entered : List Guard}
    {past : List Deed} {action : Action} (notClear : ∀ slot, action ≠ .clear slot)
    (notFind : ∀ role, action ≠ .find role) : call.Conducts settings me entered past action :=
  ⟨fun slot isClear => absurd isClear (notClear slot), fun role isFind => absurd isFind (notFind role)⟩

end Call

section Heeding

variable {Answer : Type} {settings : Settings} {me : TaskId} {call : Call} {role : RoleId} {slot : SlotId}
  {entered : List Guard} {past : List Deed}

def Program.Observes (settings : Settings) (me : TaskId) (call : Call) (program : Program Answer) : Prop :=
  ∀ entered past, program.Heeds (call.Conducts settings me) me (fun _ _ _ => True) entered past

theorem Program.composable_observes (settings : Settings) (me : TaskId) (call : Call) :
    Composable fun _ program => program.Observes settings me call :=
  ⟨fun _ _ _ => trivial, fun observes continued entered past =>
    (heeds_bind _ _).mpr ((observes entered past).mono fun answer now since _ _ _ => continued answer now since)⟩

theorem Program.evict_heeds (isEntered : ⟨role, slot⟩ ∈ entered)
    (unseats : call.Unseats settings role me past) :
    (evict role slot).Heeds (call.Conducts settings me) me (fun _ _ _ => True) entered past := by
  refine ⟨⟨?_, by simp⟩, fun _ => ⟨.of_other (by simp) (by simp), fun _ =>
    ⟨.of_other (by simp) (by simp), fun _ => trivial⟩⟩⟩
  rintro _ ⟨⟩
  exact ⟨_, isEntered, rfl, unseats⟩

namespace Authorization

theorem resolve_observes (asks : call.asks? = some role) : (resolve role).Observes settings me call := by
  refine fun entered past => ⟨.of_other (by simp) (by simp), fun shown => ?_⟩
  cases shown with
  | some snapshot => trivial
  | none =>
      refine fun slot => ⟨.of_other (by simp) (by simp), fun current => ?_⟩
      cases current with
      | some snapshot => exact ⟨.of_other (by simp) (by simp), fun _ => trivial⟩
      | none =>
          refine ⟨⟨by simp, ?_⟩, fun found => ?_⟩
          · rintro _ ⟨⟩
            exact .inr ⟨asks, slot, by simp⟩
          · match found with
            | .ok (some loaded) =>
                exact ⟨.of_other (by simp) (by simp), fun _ => ⟨.of_other (by simp) (by simp), fun _ => trivial⟩⟩
            | .ok none =>
                exact (Program.heeds_bind _ _).mpr
                  (Program.evict_heeds (by simp) (.unresolved asks (.ok none) (by simp) (by simp)))
            | .error error =>
                exact (Program.heeds_bind _ _).mpr
                  (Program.evict_heeds (by simp) (.unresolved asks (.error error) (by simp) (by simp)))

theorem invalidate_heeds (unseats : call.Unseats settings role me past) :
    (invalidate role).Heeds (call.Conducts settings me) me (fun _ _ _ => True) entered past :=
  ⟨trivial, fun slot => Program.evict_heeds (by simp) unseats⟩

end Authorization

namespace Reconciliation

/-- A save that is given up took longer than the deadline allows, and one that failed was refused. -/
theorem saveWithin_heeds {limit : Nat} {rules : RuleSet}
    {post : Option (Except ServiceError Unit) → List Guard → List Deed → Prop}
    (late : ∀ before after since, ⟨me, .announceSave, (before, after)⟩ ∈ since → limit < before + after →
      post none entered since)
    (failed : ∀ error since, ⟨me, .write role rules, .error error⟩ ∈ since →
      post (some (.error error)) entered since)
    (done : ∀ since, post (some (.ok ())) entered since) :
    (saveWithin (some limit) role rules).Heeds (call.Conducts settings me) me post entered past := by
  refine ⟨.of_other (by simp) (by simp), ?_⟩
  rintro ⟨before, after⟩
  have announced : ∀ {since}, ⟨me, .announceSave, (before, after)⟩ ∈
      past ++ [⟨me, .announceSave, (before, after)⟩] ++ since := by simp
  refine (Program.heeds_bind _ _).mpr ⟨.of_other (by simp) (by simp), fun _ => ?_⟩
  by_cases isLate : limit < 0 + before
  · simp only [isLate, decide_true]
    exact late before after _ announced (by omega)
  · simp only [isLate, decide_false]
    refine ⟨.of_other (by simp) (by simp), fun written => ?_⟩
    match written with
    | .error error => exact failed error _ (by simp)
    | .ok () =>
        refine (Program.heeds_bind _ _).mpr ⟨.of_other (by simp) (by simp), fun _ => ?_⟩
        by_cases isOverdue : limit < before + after
        · simp only [isOverdue, decide_true]
          exact late before after _ (by simp) isOverdue
        · simp only [isOverdue, decide_false]
          exact done _

theorem apply_observes {submission : Submission} (reconciles : call.Reconciles role)
    (looksUp : call.LooksUp role) : (apply settings role submission).Observes settings me call := by
  intro entered past
  unfold apply applyWithin
  split
  · trivial
  · refine fun slot => ⟨⟨by simp, ?_⟩, fun found => ?_⟩
    · rintro _ ⟨⟩
      exact .inl looksUp
    · match found with
      | .ok none =>
          exact (Program.heeds_bind _ _).mpr
            (Program.evict_heeds (by simp) (.vanished reconciles (.inl (by simp))))
      | .error error => exact ⟨.of_other (by simp) (by simp), fun _ => trivial⟩
      | .ok (some stored) =>
          change ((saveWithin (some settings.writeTimeout) role _).bind _).Heeds _ me _ _ _
          refine (Program.heeds_bind _ _).mpr (saveWithin_heeds ?_ ?_ ?_)
          · intro before after since isAnnounced isLate
            refine ⟨⟨?_, by simp⟩, fun _ => ⟨.of_other (by simp) (by simp), fun _ => trivial⟩⟩
            rintro _ ⟨⟩
            exact ⟨⟨role, slot⟩, by simp, rfl, .timedOut reconciles isAnnounced isLate⟩
          · intro error since isRefused
            by_cases isGone : error.kind = .notFound
            · simp only [isGone, if_true]
              exact (Program.heeds_bind _ _).mpr (Program.evict_heeds (by simp)
                (.vanished reconciles (.inr ⟨_, error, isRefused, isGone⟩)))
            · simp only [isGone, if_false]
              exact ⟨.of_other (by simp) (by simp), fun _ => trivial⟩
          · exact fun since =>
              ⟨.of_other (by simp) (by simp), fun _ => ⟨.of_other (by simp) (by simp), fun _ => trivial⟩⟩

end Reconciliation

end Heeding

namespace Call

variable {settings : Settings} {me : TaskId}

theorem fetches (settings : Settings) (call : Call) : (call.program settings).Fetches .apart := by
  have composable := Program.composable_fetches
  have resolves : ∀ session : Session, session.isEmpty = false →
      (Authorization.resolve session.role).Fetches .apart := fun session _ => Authorization.resolve_fetches _
  refine Program.Fetches.bind ?_ fun _ => .done
  cases call with
  | authorize session => exact composable.authorize (resolves session)
  | isAllowed session => exact composable.isAllowed (resolves session)
  | require session => exact composable.require (resolves session)
  | resolve role => exact Authorization.resolve_fetches role
  | invalidate role => exact Authorization.invalidate_fetches role
  | apply role submission => exact Reconciliation.applyWithin_fetches _ _ role submission
  | createRole session role => exact composable.asAdmin (resolves session) (.act (by simp) fun _ => .done)
  | deleteRole session role =>
      refine composable.asAdmin (resolves session) (.act (by simp) fun deleted => ?_)
      match deleted with
      | .error error => exact .done
      | .ok () => exact (Authorization.invalidate_fetches role).bind fun _ => .done
  | updateRules session role submission =>
      exact composable.asAdmin (resolves session)
        ((Reconciliation.applyWithin_fetches _ _ role submission).bind fun _ => .done)
  | listRoles session => exact composable.asAdmin (resolves session) (.act (by simp) fun _ => .done)
  | findRole session role =>
      refine composable.asAdmin (resolves session) (.act (by simp) fun found => ?_)
      match found with
      | .ok (some found) => exact .done
      | .ok none => exact .done
      | .error error => exact .done

theorem observes (settings : Settings) (me : TaskId) (call : Call) :
    (call.program settings).Observes settings me call := by
  have composable := Program.composable_observes settings me call
  have resolves : ∀ session : Session, call.asks? = (if session.isEmpty then none else some session.role) →
      session.isEmpty = false → (Authorization.resolve session.role).Observes settings me call :=
    fun session asks isKnown => Authorization.resolve_observes (asks.trans (by simp [isKnown]))
  refine composable.bind ?_ fun _ => composable.done _
  cases call with
  | authorize session => exact composable.authorize (resolves session rfl)
  | isAllowed session => exact composable.isAllowed (resolves session rfl)
  | require session => exact composable.require (resolves session rfl)
  | resolve role => exact Authorization.resolve_observes rfl
  | invalidate role => exact fun _ _ => Authorization.invalidate_heeds .invalidated
  | apply role submission => exact Reconciliation.apply_observes rfl rfl
  | createRole session role =>
      exact composable.asAdmin (resolves session rfl) fun _ _ => ⟨.of_other (by simp) (by simp), fun _ => trivial⟩
  | deleteRole session role =>
      refine composable.asAdmin (resolves session rfl) fun entered past =>
        ⟨.of_other (by simp) (by simp), fun deleted => ?_⟩
      match deleted with
      | .error error => trivial
      | .ok () =>
          exact (Program.heeds_bind _ _).mpr (Authorization.invalidate_heeds (.deleted (by simp)))
  | updateRules session role submission =>
      exact composable.asAdmin (resolves session rfl)
        (composable.bind (Reconciliation.apply_observes rfl rfl) fun _ => composable.done _)
  | listRoles session =>
      exact composable.asAdmin (resolves session rfl) fun _ _ => ⟨.of_other (by simp) (by simp), fun _ => trivial⟩
  | findRole session role =>
      refine composable.asAdmin (resolves session rfl) fun entered past => ⟨⟨by simp, ?_⟩, fun found => ?_⟩
      · rintro _ ⟨⟩
        exact .inl rfl
      · match found with
        | .ok (some found) => trivial
        | .ok none => trivial
        | .error error => trivial

end Call

namespace Machine

variable {Store : Type} [Repository Store] {settings : Settings} {calls : List Call} {world : World Store}
  {log : List Deed} {machine : Machine Store Outcome}

theorem Run.conducts (run : (load world (calls.map (Call.program settings))).Run log machine)
    (filed : world.cache.Filed) {task : TaskId} {deed : Deed} {call : Call}
    (located : calls[task]? = some call) (isNext : machine.deed? task = some deed) :
    ∃ entered, call.Conducts settings task entered (deedsOf task log) deed.action ∧
      ∀ guard ∈ entered, machine.world.cache.Serves guard.role guard.slot := by
  have rough : RoughRun (fun _ _ => True) (load world (calls.map (Call.program settings))) log machine :=
    .ofRun run
  have isProgram : (calls.map (Call.program settings))[task]? = some (call.program settings) := by
    rw [List.getElem?_map, located, Option.map_some]
  exact (rough.heeds filed isProgram (call.observes settings task [] [])).allowed isNext

theorem Run.carriesOut (run : (load world (calls.map (Call.program settings))).Run log machine) {task : TaskId}
    {current : Task Outcome} (present : machine.tasks[task]? = some current) :
    ∃ call, calls[task]? = some call := by
  have isTask := (List.getElem?_eq_some_iff.mp present).1
  rw [run.length_tasks, load, List.length_map, List.length_map] at isTask
  exact ⟨_, List.getElem?_eq_getElem isTask⟩

/-- Whoever hides a role from readers has a cause for it. -/
theorem Hides.unseats {done : List Deed} {role : RoleId} {task : TaskId} {slot : SlotId}
    (hides : (load world (calls.map (Call.program settings))).Hides done role task slot)
    (filed : world.cache.Filed) :
    ∃ call, calls[task]? = some call ∧ call.Unseats settings role task done := by
  obtain ⟨before, _, toBefore, isDeed, _, isPublished, _⟩ := hides
  obtain ⟨_, _, present⟩ := present_of_deed? isDeed
  obtain ⟨call, located⟩ := toBefore.carriesOut present
  obtain ⟨entered, conducts, serves⟩ := toBefore.conducts filed located isDeed
  obtain ⟨guard, isEntered, rfl, unseats⟩ := conducts.clears slot rfl
  obtain rfl := (serves guard isEntered).only role isPublished
  exact ⟨call, located, unseats.mono fun deed isDone => (mem_deedsOf.mp isDone).1⟩

end Machine

end Rolebook
