import Rolebook.Proofs.Service.Sparing
import Rolebook.Proofs.Web.Dashboard

/-!
When the dashboard ends a session. It goes by the kind of the error that a form comes to, and that kind is
the one of a denial only when the session was denied the administration of roles, or has lost its role: a
repository may report such an error of its own, but it does not get through as one. A session that is
denied is ended before anything is read of the form, and all others are not so much as looked at.
-/

namespace Rolebook

variable {Store : Type} [Repository Store] {world : World Store} {me : TaskId} {settings : Settings}
  {session : Session}

omit [Repository Store] in
theorem World.store_ended (world : World Store) (origin : Option SessionId) :
    (world.ended origin).store = world.store := by
  cases origin <;> rfl

omit [Repository Store] in
theorem World.sessions_ended {reached : World Store} (same : reached.sessions = world.sessions)
    (origin : Option SessionId) : (reached.ended origin).sessions = (world.ended origin).sessions := by
  cases origin with
  | none => exact same
  | some stored => simp [ended, clearSession, same]

def Authorization.Denied (outcome : Except AccessError Decision) : Prop :=
  (∃ decision, outcome = .ok decision ∧ decision.allowed = false) ∨
    ∃ role, outcome = .error (.roleMissing role)

theorem Administration.verdict_of_denied {outcome : Except AccessError Decision} {required : Level}
    (isDenied : Authorization.Denied outcome) :
    verdict session required outcome = .error (.accessLacking session.username required .rbacAdmin) := by
  rcases isDenied with ⟨decision, rfl, isDenied⟩ | ⟨role, rfl⟩
  · simp [verdict, Authorization.demand, Authorization.denyMissing, isDenied, Except.map]
  · rfl

theorem Administration.kind_of_not_denied {outcome : Except AccessError Decision} {required : Level}
    {error : ServiceError} (isOther : ¬ Authorization.Denied outcome)
    (isRefused : verdict session required outcome = .error error) : error.kind ≠ .forbidden := by
  intro isForbidden
  refine isOther ((Web.failsClosed session.username .rbacAdmin required outcome).forbidden_iff.mp
    ⟨error, ?_, isForbidden⟩)
  unfold verdict at isRefused
  cases isDemanded : Authorization.demand session.username .rbacAdmin required outcome with
  | ok decision => rw [isDemanded] at isRefused; cases isRefused
  | error cause => rw [isDemanded] at isRefused; cases isRefused; rfl

theorem Submission.kind_of_selectedRole {submission : Submission} {error : ServiceError}
    (isUnselected : submission.selectedRole = .error error) : error.kind = .validation := by
  unfold selectedRole at isUnselected
  split at isUnselected
  · cases isUnselected; rfl
  · split at isUnselected <;> cases isUnselected
    rfl

theorem kind_of_asService {Answer : Type} {outcome : Except AccessError Answer} {error : ServiceError}
    (isFailed : asService outcome = .error error) : error.kind ≠ .forbidden := by
  cases outcome with
  | ok answer => cases isFailed
  | error cause => cases isFailed; exact Authorization.kind_ne_forbidden cause

namespace Web

theorem applyForm_takes (settings : Settings) (session : Session) (submission : Submission) :
    (applyForm settings session submission).Takes Action.sparesSessions := by
  refine (Administration.requireAdmin_takes settings session .edit).spares.bind fun outcome => ?_
  cases outcome with
  | error error => trivial
  | ok =>
      dsimp only
      cases submission.selectedRole with
      | error error => trivial
      | ok role => exact Administration.updateRules_takes settings session role submission

theorem endSession_takes (origin : Option SessionId) :
    (endSession origin).Takes fun action => !action.isWrite := by
  cases origin with
  | none => trivial
  | some stored =>
      refine ⟨rfl, fun removed => ?_⟩
      cases removed with
      | ok => trivial
      | error error => exact ⟨rfl, fun _ => trivial⟩

theorem removeSession_mem_endSession {origin : Option SessionId} {stored : SessionId} :
    .removeSession stored ∈ (endSession origin).actions me world ↔ origin = some stored := by
  cases origin with
  | none => simp [endSession, logOut, Program.actions, Program.record, Program.bind]
  | some other =>
      cases fails : world.conditions.sessionRemovalFails <;>
        simp [endSession, logOut, Program.take, Program.bind, Program.actions, Program.record,
          World.perform, fails, eq_comm]

variable {request : Request}

/-- What becomes of the session that a form at the dashboard comes from, by the outcome of its
authorization for role administration. -/
structure EndsOnDenial (settings : Settings) (session : Session) (origin : Option SessionId)
    (request : Request) (me : TaskId) (world : World Store) (outcome : Except AccessError Decision) :
    Prop where
  removed_iff (stored : SessionId) :
    .removeSession stored ∈ (updateDashboard settings session origin request).actions me world ↔
      origin = some stored ∧ Authorization.Denied outcome
  forbidden_iff : ((updateDashboard settings session origin request).run me world).1.status = 403 ↔
    Authorization.Denied outcome
  unread {other : Request} (isForm : other.contentType.any MediaType.isForm = true) :
    Authorization.Denied outcome →
      (updateDashboard settings session origin other).record me world =
        (updateDashboard settings session origin request).record me world
  unwritten : Authorization.Denied outcome →
    (∀ action ∈ (updateDashboard settings session origin request).actions me world,
      action.isWrite = false) ∧
    ((updateDashboard settings session origin request).run me world).2.store = world.store
  ended : Authorization.Denied outcome →
    ((updateDashboard settings session origin request).run me world).2.sessions =
      (world.ended origin).sessions
  spared : ¬ Authorization.Denied outcome →
    (∀ action ∈ (updateDashboard settings session origin request).actions me world,
      action.sparesSessions = true) ∧
    ((updateDashboard settings session origin request).run me world).2.sessions = world.sessions

section Denied

variable (isDenied : Authorization.Denied
  ((Authorization.authorize settings.policy session .rbacAdmin .edit).run me world).1)
include isDenied

theorem applyForm_record_of_denied (submission : Submission) :
    (applyForm settings session submission).record me world =
      ((Administration.requireEditor settings session).actions me world,
        .error (.accessLacking session.username .edit .rbacAdmin),
        ((Administration.requireEditor settings session).run me world).2) := by
  rw [applyForm, Program.bind_eq, Program.record_bind, Program.record_eq]
  have isRefused : ((Administration.requireEditor settings session).run me world).1 =
      .error (.accessLacking session.username .edit .rbacAdmin) := by
    rw [Administration.requireEditor, Administration.requireAdmin_run]
    exact Administration.verdict_of_denied isDenied
  dsimp only
  rw [isRefused]
  exact congrArg (·, _) (List.append_nil _)

theorem updateDashboard_record_of_denied (isForm : request.contentType.any MediaType.isForm = true)
    (origin : Option SessionId) :
    let checked := Administration.requireEditor settings session
    (updateDashboard settings session origin request).record me world =
      (checked.actions me world ++ (endSession origin).actions me (checked.run me world).2,
        .ofError (.accessLacking session.username .edit .rbacAdmin),
        (checked.run me world).2.ended origin) := by
  have isForbidden : (ServiceError.accessLacking session.username .edit .rbacAdmin).kind = .forbidden := rfl
  rw [updateDashboard, if_pos isForm, Program.bind_eq, Program.record_bind,
    applyForm_record_of_denied isDenied]
  dsimp only
  rw [if_pos isForbidden, Program.bind_eq, Program.record_bind, Program.record_eq, endSession_run]
  exact congrArg (fun later => (_ ++ later, _)) (List.append_nil _)

theorem endsOnDenial_of_denied (isForm : request.contentType.any MediaType.isForm = true)
    (origin : Option SessionId) :
    EndsOnDenial settings session origin request me world
      ((Authorization.authorize settings.policy session .rbacAdmin .edit).run me world).1 := by
  have takes := Administration.requireAdmin_takes settings session .edit
  have recorded := updateDashboard_record_of_denied isDenied isForm origin
  rw [Program.record_eq] at recorded
  obtain ⟨isRecorded, isRun⟩ := Prod.mk.inj recorded
  constructor
  case removed_iff =>
    intro stored
    rw [isRecorded, List.mem_append, removeSession_mem_endSession, and_iff_left isDenied]
    exact or_iff_right fun isTaken => by cases takes.spares.of_mem_actions isTaken
  case forbidden_iff =>
    rw [isRun]
    exact iff_of_true rfl isDenied
  case unread =>
    intro other otherForm _
    rw [updateDashboard_record_of_denied isDenied isForm origin,
      updateDashboard_record_of_denied isDenied otherForm origin]
  case unwritten =>
    intro _
    rw [isRecorded, isRun]
    constructor
    · intro action isTaken
      rcases List.mem_append.mp isTaken with isEarlier | isLater
      · exact (Action.isHarmless_iff.mp (takes.of_mem_actions isEarlier)).1
      · simpa using (endSession_takes origin).of_mem_actions isLater
    · exact (World.store_ended _ origin).trans (takes.store_run world)
  case ended =>
    intro _
    rw [isRun]
    exact World.sessions_ended (takes.spares.sessions_run world) origin
  case spared => exact fun isOther => absurd isDenied isOther

end Denied

section NotDenied

variable (isOther : ¬ Authorization.Denied
  ((Authorization.authorize settings.policy session .rbacAdmin .edit).run me world).1)
include isOther

/-- Whatever the repository reports: what a form comes to is of the kind of a denial only by a denial. -/
theorem applyForm_kind_of_not_denied {submission : Submission} {error : ServiceError}
    (isFailed : ((applyForm settings session submission).run me world).1 = .error error) :
    error.kind ≠ .forbidden := by
  rw [applyForm_run] at isFailed
  dsimp only at isFailed
  split at isFailed
  next cause isRefused =>
    cases isFailed
    exact Administration.kind_of_not_denied isOther isRefused
  next isAdmitted =>
    split at isFailed
    next cause isUnselected =>
      cases isFailed
      simp [Submission.kind_of_selectedRole isUnselected]
    next role isSelected => exact kind_of_asService isFailed

theorem updateDashboard_record_of_not_denied (isForm : request.contentType.any MediaType.isForm = true)
    (origin : Option SessionId) :
    let applied := applyForm settings session (Form.submission request.content)
    (updateDashboard settings session origin request).record me world =
      (applied.actions me world, .ofResult 200 Update.json (applied.run me world).1,
        (applied.run me world).2) := by
  rw [updateDashboard, if_pos isForm, Program.bind_eq, Program.record_bind, Program.record_eq]
  dsimp only
  cases isApplied : ((applyForm settings session (Form.submission request.content)).run me world).1 with
  | ok update => exact congrArg (·, _) (List.append_nil _)
  | error error =>
      dsimp only
      rw [if_neg (applyForm_kind_of_not_denied isOther isApplied)]
      exact congrArg (·, _) (List.append_nil _)

theorem endsOnDenial_of_not_denied (isForm : request.contentType.any MediaType.isForm = true)
    (origin : Option SessionId) :
    EndsOnDenial settings session origin request me world
      ((Authorization.authorize settings.policy session .rbacAdmin .edit).run me world).1 := by
  have takes := applyForm_takes settings session (Form.submission request.content)
  have recorded := updateDashboard_record_of_not_denied isOther isForm origin
  rw [Program.record_eq] at recorded
  obtain ⟨isRecorded, isRun⟩ := Prod.mk.inj recorded
  constructor
  case removed_iff =>
    intro stored
    rw [isRecorded]
    exact iff_of_false (fun isTaken => by cases takes.of_mem_actions isTaken) (isOther ·.2)
  case forbidden_iff =>
    rw [isRun, status_eq_forbidden_iff]
    refine iff_of_false ?_ isOther
    rintro ⟨error, isFailed, isForbidden⟩
    exact applyForm_kind_of_not_denied isOther isFailed isForbidden
  case unread => exact fun _ isDenied => absurd isDenied isOther
  case unwritten => exact fun isDenied => absurd isDenied isOther
  case ended => exact fun isDenied => absurd isDenied isOther
  case spared =>
    intro _
    rw [isRecorded, isRun]
    exact ⟨fun _ isTaken => takes.of_mem_actions isTaken, takes.sessions_run world⟩

end NotDenied

/-- Whatever is stored and cached, however the repository delays and fails, also with errors of the kind of
a denial, and whether or not sessions can be removed: the session that a form comes from is ended exactly if
it is denied the administration of roles. -/
theorem dashboard_ends_on_denial (isForm : request.contentType.any MediaType.isForm = true)
    (settings : Settings) (session : Session) (origin : Option SessionId) (me : TaskId)
    (world : World Store) :
    EndsOnDenial settings session origin request me world
      ((Authorization.authorize settings.policy session .rbacAdmin .edit).run me world).1 := by
  by_cases isDenied : Authorization.Denied
    ((Authorization.authorize settings.policy session .rbacAdmin .edit).run me world).1
  · exact endsOnDenial_of_denied isDenied isForm origin
  · exact endsOnDenial_of_not_denied isDenied isForm origin

section Office

def clerkStuck : World MemoryStore :=
  { clerkSignedIn with conditions := { Conditions.calm with sessionRemovalFails := true } }

def keeperHampered : World MemoryStore :=
  { (World.start .office RoleId.drawn).signIn "pat" keeperSession.storedJson with
    conditions := Conditions.calm.setFault .find (some (.reported .forbidden "permission denied")) }

/-- The clerk's session is ended although it cannot be removed, and the keeper's is kept although the error
of the repository is of the kind of a denial. -/
theorem dashboard_ends_on_denial_office :
    let byClerk := updateDashboard .office clerkSession (some (.opened 0)) demotionForm
    let byKeeper := updateDashboard .office keeperSession (some (.opened 0)) demotionForm
    (.removeSession (.opened 0) ∈ byClerk.actions 0 clerkStuck ∧
      (byClerk.run 0 clerkStuck).1.status = 403 ∧
      (byClerk.run 0 clerkStuck).2.sessions = (clerkStuck.clearSession (.opened 0)).sessions ∧
      (byClerk.run 0 clerkStuck).2.store = clerkStuck.store) ∧
    (.removeSession (.opened 0) ∉ byKeeper.actions 0 keeperHampered ∧
      (byKeeper.run 0 keeperHampered).1.status = 500 ∧
      (byKeeper.run 0 keeperHampered).2.sessions = keeperHampered.sessions) := by
  intro byClerk byKeeper
  have ofClerk := dashboard_ends_on_denial asksAlike_demotion.isForm .office clerkSession
    (some (.opened 0)) 0 clerkStuck
  have ofKeeper := dashboard_ends_on_denial asksAlike_demotion.isForm .office keeperSession
    (some (.opened 0)) 0 keeperHampered
  have isForbidden : (byClerk.run 0 clerkStuck).1.status = 403 := by decide +kernel
  have isFailed : (byKeeper.run 0 keeperHampered).1.status = 500 := by decide +kernel
  have isDenied := ofClerk.forbidden_iff.mp isForbidden
  have isOther := ofKeeper.forbidden_iff.not.mp (by rw [isFailed]; decide)
  refine ⟨⟨?_, isForbidden, ?_, ?_⟩, ?_, isFailed, ?_⟩
  · exact (ofClerk.removed_iff (.opened 0)).mpr ⟨rfl, isDenied⟩
  · exact ofClerk.ended isDenied
  · exact (ofClerk.unwritten isDenied).2
  · exact fun isRemoved => isOther ((ofKeeper.removed_iff (.opened 0)).mp isRemoved).2
  · exact (ofKeeper.spared isOther).2

end Office

end Web

end Rolebook
