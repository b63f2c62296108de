import Rolebook.Proofs.Service.Deletion
import Rolebook.Proofs.Web.Access
import Rolebook.Proofs.Web.Endpoint

/-!
What a session is told that is denied the administration of roles. The answer is the same whatever the
request says and whatever is stored, with one exception: rules in the draft of a new role are read before
the session is looked at, so that what is wrong with them is told to everybody.
-/

namespace Rolebook

variable {Store Answer : Type} [Repository Store] {world : World Store}

/-- Role administration at a level is denied to a session: for the rules of its role, or because the role
is gone, or by the policy. -/
def World.Denies (world : World Store) (settings : Settings) (session : Session) (required : Level) :
    Prop :=
  ∃ decision, Authorization.denyMissing
    ((Authorization.authorize settings.policy session .rbacAdmin required).run 0 world).1 = .ok decision ∧
      decision.allowed = false

namespace Administration

variable {settings : Settings} {session : Session} {required : Level}

theorem requireAdmin_run_of_denies (denies : world.Denies settings session required) :
    ((requireAdmin settings session required).run 0 world).1 =
      .error (.accessLacking session.username required .rbacAdmin) := by
  obtain ⟨decision, isDecision, isDenied⟩ := denies
  have isDemanded : ((Authorization.require settings.policy session .rbacAdmin required).run 0 world).1 =
      .error (.accessLacking session.username required .rbacAdmin) := by
    rw [Authorization.require_eq, Program.run_bind_done, Authorization.demand, isDecision]
    simp [isDenied]
  rw [requireAdmin, Program.bind_eq, Program.run_bind, isDemanded]
  rfl

/-- Nothing of an operation is carried out for a session that is denied it. -/
theorem asAdmin_run_of_denies (denies : world.Denies settings session required)
    (operation : Program (Except ServiceError Answer)) :
    ((asAdmin settings session required operation).run 0 world).1 =
      .error (.accessLacking session.username required .rbacAdmin) := by
  rw [asAdmin, Program.bind_eq, Program.run_bind, requireAdmin_run_of_denies denies]
  rfl

end Administration

namespace Web

/-- What a session is told that is denied what an endpoint is for. -/
def Endpoint.denial (endpoint : Endpoint) (session : Session) : ServiceError :=
  .accessLacking session.username endpoint.required .rbacAdmin

def Request.flaw? (request : Request) : Endpoint → Option ServiceError
  | .create =>
      match RoleDraft.ofJson request.content with
      | .error _ => none
      | .ok draft =>
          match draft.check with
          | .error error => some error
          | .ok _ => none
  | _ => none

/-- A request to an endpoint comes from a session that is denied what the endpoint is for. -/
structure DeniedAt (settings : Settings) (session : Session) (endpoint : Endpoint) (world : World Store)
    (request : Request) : Prop where
  reaches : request.Reaches endpoint
  isAdmitted : admission settings world (request.cookie.bind world.sessions.find?) = .ok session
  denies : world.Denies settings session endpoint.required

variable {settings : Settings} {session : Session} {endpoint : Endpoint} {request : Request}

theorem applyForm_run_of_denies (denies : world.Denies settings session .edit) (submission : Submission) :
    ((applyForm settings session submission).run 0 world).1 =
      .error (.accessLacking session.username .edit .rbacAdmin) := by
  have isRefused : ((Administration.requireEditor settings session).run 0 world).1 = _ :=
    Administration.requireAdmin_run_of_denies denies
  rw [applyForm, Program.bind_eq, Program.run_bind, isRefused]
  rfl

/-- The session may be ended meanwhile, which does not show in the response. -/
theorem updateDashboard_run_of_denies (denies : world.Denies settings session .edit)
    (isForm : request.contentType.any MediaType.isForm = true) (origin : Option SessionId) :
    ((updateDashboard settings session origin request).run 0 world).1 =
      .ofError (.accessLacking session.username .edit .rbacAdmin) := by
  rw [updateDashboard, if_pos isForm, Program.bind_eq, Program.run_bind,
    applyForm_run_of_denies denies]
  exact congrArg Prod.fst (Program.run_bind_done ..)

theorem respond_run_of_denies {Value : Type} {required : Level}
    (denies : world.Denies settings session required) (operation : Program (Except ServiceError Value))
    (respond : Except ServiceError Value → Response) :
    (((Administration.asAdmin settings session required operation).bind fun outcome =>
      .done (respond outcome)).run 0 world).1 =
      respond (.error (.accessLacking session.username required .rbacAdmin)) := by
  rw [Program.run_bind_done, Administration.asAdmin_run_of_denies denies]

theorem createRole_run_of_denies (denies : world.Denies settings session .edit)
    (isJson : request.contentType.any MediaType.isJson = true) {draft : RoleDraft}
    (isDraft : RoleDraft.ofJson request.content = .ok draft) :
    ((createRole settings session request).run 0 world).1 =
      .ofError ((request.flaw? .create).getD (Endpoint.create.denial session)) := by
  rw [createRole, withJson, if_pos isJson, isDraft, Request.flaw?, isDraft]
  cases isChecked : draft.check with
  | error error => simp only [isChecked]; rfl
  | ok role =>
      simp only [isChecked]
      exact respond_run_of_denies denies _ (.ofResult 201 Role.json)

theorem answerSession_run_of_denied (denied : DeniedAt settings session endpoint world request)
    (origin : Option SessionId) :
    ∃ place, Resource.ofPath? request.path = some (.guarded place) ∧
      ((answerSession settings session origin request place request.method.asked).run 0 world).1 =
        .ofError ((request.flaw? endpoint).getD (endpoint.denial session)) := by
  obtain ⟨reaches, _, denies⟩ := denied
  cases endpoint with
  | list =>
      obtain ⟨isPlace, isAsked⟩ := reaches
      refine ⟨_, isPlace, ?_⟩
      rw [isAsked]
      exact respond_run_of_denies denies _ (.ofResult 200 fun roles : List Role => .array (roles.map Role.json))
  | find =>
      obtain ⟨id, role, isPlace, isRole, isAsked⟩ := reaches
      refine ⟨_, isPlace, ?_⟩
      rw [isAsked, answerSession, findRole, withRole, isRole]
      exact respond_run_of_denies denies _ (.ofResult 200 Role.json)
  | create =>
      obtain ⟨draft, isPlace, isAsked, isJson, isDraft⟩ := reaches
      refine ⟨_, isPlace, ?_⟩
      rw [isAsked]
      exact createRole_run_of_denies denies isJson isDraft
  | update =>
      obtain ⟨id, role, submission, isPlace, isRole, isAsked, isJson, isSubmission⟩ := reaches
      refine ⟨_, isPlace, ?_⟩
      rw [isAsked, answerSession, updateRules, withRole, isRole]
      simp only [withJson, if_pos isJson, isSubmission]
      exact respond_run_of_denies denies _ (.ofResult 200 Update.json)
  | delete =>
      obtain ⟨id, role, isPlace, isRole, isAsked⟩ := reaches
      refine ⟨_, isPlace, ?_⟩
      rw [isAsked, answerSession, deleteRole, withRole, isRole]
      exact respond_run_of_denies denies _ .ofOutcome
  | dashboard =>
      obtain ⟨isPlace, isAsked, isForm⟩ := reaches
      refine ⟨_, isPlace, ?_⟩
      rw [isAsked]
      exact updateDashboard_run_of_denies denies isForm origin

/-- A session that is denied is told so, or what is wrong with the rules that it drafts. -/
theorem answer_run_of_denied (denied : DeniedAt settings session endpoint world request) :
    ((answer settings request).run 0 world).1 =
      request.shown (.ofError ((request.flaw? endpoint).getD (endpoint.denial session))) := by
  obtain ⟨place, isPlace, isAnswered⟩ :=
    answerSession_run_of_denied denied (request.cookie.bind world.sessions.find?)
  rw [answer_run_of_admitted isPlace denied.isAdmitted]
  exact congrArg request.shown isAnswered

/-- Only a request to create a role can have a flaw, and such a request does not ask for the head alone. -/
theorem shown_of_flaw {error : ServiceError} (reaches : request.Reaches endpoint)
    (isFlaw : request.flaw? endpoint = some error) (response : Response) :
    request.shown response = response := by
  have isWhole : request.method ≠ .head := by
    intro isHead
    cases endpoint with
    | create =>
        obtain ⟨_, _, isAsked, _⟩ := reaches
        simp [isHead, Method.asked] at isAsked
    | _ => cases isFlaw
  exact if_neg isWhole

/-- Two requests to one endpoint, both from a session that is denied what the endpoint is for, get one and
the same response, whatever they say and in whatever worlds they arrive. They are told apart only where
one of them drafts a role with rules that are wrong: it is told what is wrong with them. -/
theorem denied_alike {Other : Type} [Repository Other] {there : World Other} {first second : Request}
    (isFirst : DeniedAt settings session endpoint world first)
    (isSecond : DeniedAt settings session endpoint there second)
    (alike : first.method = .head ↔ second.method = .head) :
    let response := ((answer settings first).run 0 world).1
    (first.flaw? endpoint = none → second.flaw? endpoint = none →
      response = ((answer settings second).run 0 there).1 ∧ response.status = 403 ∧
        (first.method ≠ .head → response.body = some (endpoint.denial session).json)) ∧
      ∀ error, first.flaw? endpoint = some error → response = .ofError error := by
  intro response
  have isResponse : response = _ := answer_run_of_denied isFirst
  rw [isResponse]
  constructor
  · intro isFlawless othersFlawless
    rw [answer_run_of_denied isSecond, isFlawless, othersFlawless]
    unfold Request.shown
    by_cases isHead : first.method = .head
    · simp [isHead, alike.mp isHead, Response.refusal, Response.ofError, Endpoint.denial,
        ServiceError.kind, ErrorKind.status]
    · have isWhole : second.method ≠ .head := isHead ∘ alike.mpr
      simp [isHead, isWhole, Response.ofError, Endpoint.denial, ServiceError.kind, ErrorKind.status]
  · intro error isFlaw
    rw [shown_of_flaw isFirst.reaches isFlaw, isFlaw]
    rfl

section Office

def clerkSignedIn : World MemoryStore :=
  (World.start .office RoleId.drawn).signIn "lee" clerkSession.storedJson

def snoop (id : String) : Request :=
  ⟨.get, ["api", "rbac", "roles", id], [], some "lee", none, ""⟩

theorem snoop_denied {id : String} {role : RoleId} (isNamed : id ≠ "")
    (isRole : RoleId.parse? id = some role) :
    DeniedAt .office clerkSession .find clerkSignedIn (snoop id) where
  reaches := ⟨id, role, if_neg isNamed, isRole, rfl⟩
  isAdmitted := by rfl
  denies := ⟨.deny .nothing, by rfl, rfl⟩

theorem denied_alike_snoop :
    let stored := snoop "00000000-0000-0000-0000-000000000001"
    let missing := snoop "00000000-0000-0000-0000-000000000005"
    ((answer .office stored).run 0 clerkSignedIn).1 = ((answer .office missing).run 0 clerkSignedIn).1 ∧
      ((answer .office stored).run 0 clerkSignedIn).1.status = 403 := by
  have isStored : RoleId.parse? "00000000-0000-0000-0000-000000000001" = some ⟨⟨1⟩⟩ := by decide
  have isMissing : RoleId.parse? "00000000-0000-0000-0000-000000000005" = some ⟨⟨5⟩⟩ := by decide
  obtain ⟨same, isForbidden, _⟩ := (denied_alike (snoop_denied (by decide) isStored)
    (snoop_denied (by decide) isMissing) Iff.rfl).1 rfl rfl
  exact ⟨same, isForbidden⟩

def proposal (scope : String) : Request :=
  ⟨.post, ["api", "rbac", "roles"], [], some "lee", some "application/json",
    "\x7b\"name\": \"Auditor\", \"rules\": [\x7b\"scope\": \"" ++ scope ++
      "\", \"access_level\": \"VIEW\"\x7d]\x7d"⟩

def proposed (scope : String) : RoleDraft :=
  ⟨"Auditor", none, false, [⟨scope, "VIEW", []⟩]⟩

theorem eq_ok_of_toOption {Problem Value : Type} {outcome : Except Problem Value} {value : Value}
    (isOk : outcome.toOption = some value) : outcome = .ok value := by
  cases outcome with
  | error problem => cases isOk
  | ok other => exact congrArg Except.ok (Option.some.inj isOk)

theorem proposal_denied {scope : String}
    (isRead : (RoleDraft.ofJson (proposal scope).content).toOption = some (proposed scope)) :
    DeniedAt .office clerkSession .create clerkSignedIn (proposal scope) where
  reaches := by
    have isJson : (some "application/json").any MediaType.isJson = true := by decide
    exact ⟨proposed scope, rfl, rfl, isJson, eq_ok_of_toOption isRead⟩
  isAdmitted := by rfl
  denies := ⟨.deny .nothing, by rfl, rfl⟩

/-- A clerk may not create roles, and is told so, but of a scope that there is not the clerk is told that
there is none. -/
theorem tells_flaw_to_denied :
    let sound := proposal "EMPLOYEE_RECORDS"
    let flawed := proposal "PAYROLL"
    DeniedAt .office clerkSession .create clerkSignedIn sound ∧
    DeniedAt .office clerkSession .create clerkSignedIn flawed ∧
    ((answer .office sound).run 0 clerkSignedIn).1.status = 403 ∧
    ((answer .office flawed).run 0 clerkSignedIn).1.status = 400 ∧
    ((answer .office flawed).run 0 clerkSignedIn).1 = .ofError (.access (.unknownScope "PAYROLL")) := by
  have soundRead : (RoleDraft.ofJson (proposal "EMPLOYEE_RECORDS").content).toOption =
      some (proposed "EMPLOYEE_RECORDS") := by decide +kernel
  have flawedRead : (RoleDraft.ofJson (proposal "PAYROLL").content).toOption =
      some (proposed "PAYROLL") := by decide +kernel
  have soundDenied := proposal_denied soundRead
  have flawedDenied := proposal_denied flawedRead
  have isFlawless : (proposal "EMPLOYEE_RECORDS").flaw? .create = none := by
    rw [Request.flaw?, eq_ok_of_toOption soundRead]
    rfl
  have isFlaw : (proposal "PAYROLL").flaw? .create = some (.access (.unknownScope "PAYROLL")) := by
    rw [Request.flaw?, eq_ok_of_toOption flawedRead]
    rfl
  refine ⟨soundDenied, flawedDenied, ?_⟩
  rw [answer_run_of_denied soundDenied, answer_run_of_denied flawedDenied, isFlawless, isFlaw]
  exact ⟨rfl, rfl, rfl⟩

end Office

end Web

end Rolebook
