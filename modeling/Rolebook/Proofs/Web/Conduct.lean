import Rolebook.Proofs.Service.Conduct
import Rolebook.Web.Answer

/-!
The conduct of the web: whatever is asked at a guarded resource, roles are changed, and told of, only for a
session that may be given a decision that allows it.
-/

namespace Rolebook

structure Terms.Trusts (terms : Terms) (policy : Policy) (session : Session) : Prop where
  create : terms.Admits policy session .rbacAdmin .edit [] → ∀ stance role,
    terms.permits stance [] (.create role)
  write : terms.Admits policy session .rbacAdmin .edit [] → ∀ stance role rules,
    terms.permits stance [] (.write role rules)
  delete : terms.Admits policy session .rbacAdmin .full [] → ∀ stance role,
    terms.permits stance [] (.delete role)

namespace Web

def Guarded.isAboutRoles : Guarded → Bool
  | roles | role _ | rules _ | dashboard => true
  | access _ | session => false

namespace Response

def isRefusal (response : Response) : Bool :=
  400 ≤ response.status

theorem le_status (kind : ErrorKind) : 400 ≤ kind.status := by
  cases kind <;> decide

@[simp]
theorem isRefusal_ofError (error : ServiceError) : (ofError error).isRefusal = true :=
  decide_eq_true (le_status error.kind)

end Response

variable {terms : Terms} {settings : Settings} {session : Session}

def Views (terms : Terms) (settings : Settings) (session : Session) : Prop :=
  ∃ required, Level.view ≤ required ∧ terms.Admits settings.policy session .rbacAdmin required []

/-- A response is a refusal, or one to a session that may look at roles. -/
def Discloses (terms : Terms) (settings : Settings) (session : Session) (response : Response)
    (stance : Stance) (_ : List Write) : Prop :=
  stance = .idle ∧ (response.isRefusal = false → Views terms settings session)

theorem discloses_error (error : ServiceError) (writes : List Write) :
    Discloses terms settings session (.ofError error) .idle writes :=
  ⟨rfl, by simp⟩

theorem withRole_ensures {post : Response → Stance → List Write → Prop} {id : String}
    {next : RoleId → Program Response} {stance : Stance} {writes : List Write}
    (refused : post (.refusal 400) stance writes)
    (continued : ∀ role, (next role).Ensures terms post stance writes) :
    (withRole id next).Ensures terms post stance writes := by
  unfold withRole
  split
  · exact continued _
  · exact refused

theorem withJson_ensures {Value : Type} {post : Response → Stance → List Write → Prop}
    {request : Request} {read : String → Except Json.Misfit Value} {next : Value → Program Response}
    {stance : Stance} {writes : List Write}
    (refused : ∀ status, 400 ≤ status → post (.refusal status) stance writes)
    (continued : ∀ value, (next value).Ensures terms post stance writes) :
    (withJson request read next).Ensures terms post stance writes := by
  unfold withJson
  split
  · split
    · exact continued _
    · exact refused 400 (by decide)
    · exact refused 422 (by decide)
  · exact refused 415 (by decide)

theorem discloses_refusal {status : Nat} (isRefusal : 400 ≤ status) (writes : List Write) :
    Discloses terms settings session (.refusal status) .idle writes :=
  ⟨rfl, by simp [Response.isRefusal, Response.refusal, isRefusal]⟩

theorem listRoles_ensures :
    (listRoles settings session).Ensures terms (Discloses terms settings session) .idle [] := by
  refine (Program.ensures_bind _ _).mpr (Administration.listRoles_ensures
    (fun admitted roles => ⟨rfl, fun _ => ⟨.view, Level.le_refl _, admitted⟩⟩) ?_)
  intro error
  exact discloses_error error []

theorem findRole_ensures (id : String) :
    (findRole settings session id).Ensures terms (Discloses terms settings session) .idle [] := by
  apply withRole_ensures (discloses_refusal (by decide) [])
  intro role
  refine (Program.ensures_bind _ _).mpr (Administration.findRole_ensures
    (fun admitted role => ⟨rfl, fun _ => ⟨.view, Level.le_refl _, admitted⟩⟩) ?_)
  intro error
  exact discloses_error error []

theorem createRole_ensures (request : Request) (trusts : terms.Trusts settings.policy session) :
    (createRole settings session request).Ensures terms (Discloses terms settings session) .idle [] := by
  apply withJson_ensures (fun status isRefusal => discloses_refusal isRefusal [])
  intro draft
  cases draft.check with
  | error error => exact discloses_error error []
  | ok role =>
      refine (Program.ensures_bind _ _).mpr (Administration.createRole_ensures
        (fun admitted => trusts.create admitted _ _)
        (fun admitted role => ⟨rfl, fun _ => ⟨.edit, by decide, admitted⟩⟩) ?_)
      intro error
      exact discloses_error error []

theorem deleteRole_ensures (id : String) (trusts : terms.Trusts settings.policy session) :
    (deleteRole settings session id).Ensures terms (Discloses terms settings session) .idle [] := by
  apply withRole_ensures (discloses_refusal (by decide) [])
  intro role
  refine (Program.ensures_bind _ _).mpr (Administration.deleteRole_ensures
    (fun admitted => trusts.delete admitted _ _)
    (fun admitted => ⟨rfl, fun _ => ⟨.full, by decide, admitted⟩⟩) ?_)
  intro error
  exact discloses_error error []

theorem updateRules_ensures (request : Request) (id : String)
    (trusts : terms.Trusts settings.policy session) :
    (updateRules settings session request id).Ensures terms (Discloses terms settings session) .idle
      [] := by
  apply withRole_ensures (discloses_refusal (by decide) [])
  intro role
  apply withJson_ensures (fun status isRefusal => discloses_refusal isRefusal [])
  intro submission
  refine (Program.ensures_bind _ _).mpr (Administration.updateRules_ensures
    (fun admitted _ _ _ _ => trusts.write admitted _ _ _) (fun error => discloses_error error [])
    (fun _ _ _ => discloses_error _ _)
    (fun admitted _ _ _ => ⟨rfl, fun _ => ⟨.edit, by decide, admitted⟩⟩))

theorem checkAccess_ensures (request : Request) (scope : String) :
    (checkAccess settings session request scope).Ensures terms (fun _ stance _ => stance = .idle) .idle
      [] := by
  unfold checkAccess
  split
  · rfl
  · split
    · rfl
    · exact (Program.ensures_bind _ _).mpr
        (Authorization.authorize_ensures (fun _ _ => rfl) (fun _ => rfl) fun _ _ _ => rfl)

theorem applyForm_ensures {post : Except ServiceError Update → Stance → List Write → Prop}
    (submission : Submission) (trusts : terms.Trusts settings.policy session)
    (refused : ∀ error writes, post (.error error) .idle writes)
    (done : terms.Admits settings.policy session .rbacAdmin .edit [] → ∀ update writes,
      post (.ok update) .idle writes) :
    (applyForm settings session submission).Ensures terms post .idle [] := by
  refine (Program.ensures_bind _ _).mpr (Administration.requireEditor_ensures ?_
    fun error => refused error [])
  intro admitted
  cases submission.selectedRole with
  | error error => exact refused error []
  | ok role =>
      exact Administration.updateRules_ensures
        (fun admitted _ _ _ _ => trusts.write admitted _ _ _) (fun error => refused error [])
        (fun _ _ _ => refused _ _) (fun admitted _ _ _ => done admitted _ _)

theorem logOut_ensures {post : Except ServiceError Unit → Stance → List Write → Prop} {stance : Stance}
    {writes : List Write} (origin : Option SessionId) (ended : ∀ outcome, post outcome stance writes) :
    (logOut origin).Ensures terms post stance writes := by
  cases origin with
  | none => exact ended _
  | some session => exact Program.ensures_quiet rfl fun outcome _ => ended outcome

theorem endSession_ensures {post : Unit → Stance → List Write → Prop} {stance : Stance}
    {writes : List Write} (origin : Option SessionId) (ended : post () stance writes) :
    (endSession origin).Ensures terms post stance writes := by
  refine (Program.ensures_bind _ _).mpr (logOut_ensures origin ?_)
  intro outcome
  split
  · exact Program.ensures_quiet rfl fun _ _ => ended
  · exact ended

theorem updateDashboard_ensures (origin : Option SessionId) (request : Request)
    (trusts : terms.Trusts settings.policy session) :
    (updateDashboard settings session origin request).Ensures terms (Discloses terms settings session)
      .idle [] := by
  unfold updateDashboard
  split
  · refine (Program.ensures_bind _ _).mpr (applyForm_ensures _ trusts ?_
      fun admitted _ _ => ⟨rfl, fun _ => ⟨.edit, by decide, admitted⟩⟩)
    intro error writes
    by_cases isForbidden : error.kind = .forbidden
    · simp only [isForbidden, if_true]
      exact (Program.ensures_bind _ _).mpr (endSession_ensures origin (discloses_error error writes))
    · simp only [isForbidden, if_false]
      exact discloses_error error writes
  · exact discloses_refusal (by decide) []

/-- What is done at a guarded resource for a session that was admitted. -/
theorem answerSession_ensures (origin : Option SessionId) (request : Request) (place : Guarded)
    (method : Method) (trusts : terms.Trusts settings.policy session) :
    (answerSession settings session origin request place method).Ensures terms
      (fun response stance _ => stance = .idle ∧
        (place.isAboutRoles = true → response.isRefusal = false → Views terms settings session))
      .idle [] := by
  have weaken : ∀ response stance writes, Discloses terms settings session response stance writes →
      stance = .idle ∧
        (place.isAboutRoles = true → response.isRefusal = false → Views terms settings session) :=
    fun _ _ _ discloses => ⟨discloses.1, fun _ => discloses.2⟩
  unfold answerSession
  split
  · exact listRoles_ensures.mono weaken
  · exact (createRole_ensures request trusts).mono weaken
  · exact (findRole_ensures _).mono weaken
  · exact (deleteRole_ensures _ trusts).mono weaken
  · exact (updateRules_ensures request _ trusts).mono weaken
  · exact (checkAccess_ensures request _).mono fun _ _ _ isIdle =>
      ⟨isIdle, by simp [Guarded.isAboutRoles]⟩
  · exact (updateDashboard_ensures origin request trusts).mono weaken
  · exact ⟨rfl, by simp [Guarded.isAboutRoles]⟩
  · exact ⟨rfl, fun _ => by simp [Response.isRefusal, Response.refusal]⟩

end Web

end Rolebook
