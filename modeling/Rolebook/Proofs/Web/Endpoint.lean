import Rolebook.Proofs.Web.Admission

/-!
Endpoints of role administration. A request reaches one of them if its method and its path lead there and
what it says can be read. Alone at work, it is answered by what is done there for the session that was
admitted, as far as the request asks to be shown it.
-/

namespace Rolebook

variable {Store Answer : Type} [Repository Store] {world : World Store}

theorem Program.Leads.run_eq {first last : Program Answer} (leads : first.Leads world last) :
    first.run 0 world = last.run 0 world := by
  induction leads with
  | here => rfl
  | @look action next last isLook _ inductionHypothesis =>
      have looked : world.perform 0 action = ((world.perform 0 action).1, world) :=
        world.perform_look isLook 0 0 world.conditions.fault world.conditions.saveDelay
          world.conditions.ackDelay
      rw [Program.run, looked]
      exact inductionHypothesis

namespace Web

/-- What can be asked for in the administration of roles. -/
inductive Endpoint where
  | list
  | find
  | create
  | update
  | delete
  | dashboard
  deriving DecidableEq

/-- The level of role administration that an endpoint is for. -/
def Endpoint.required : Endpoint → Level
  | list | find => .view
  | create | update | dashboard => .edit
  | delete => .full

/-- The request is one to the endpoint, and what it says in its path and its content can be read. -/
def Request.Reaches (request : Request) : Endpoint → Prop
  | .list => Resource.ofPath? request.path = some (.guarded .roles) ∧ request.method.asked = .get
  | .find => ∃ id role, Resource.ofPath? request.path = some (.guarded (.role id)) ∧
      RoleId.parse? id = some role ∧ request.method.asked = .get
  | .create => ∃ draft, Resource.ofPath? request.path = some (.guarded .roles) ∧
      request.method.asked = .post ∧ request.contentType.any MediaType.isJson = true ∧
      RoleDraft.ofJson request.content = .ok draft
  | .update => ∃ id role submission, Resource.ofPath? request.path = some (.guarded (.rules id)) ∧
      RoleId.parse? id = some role ∧ request.method.asked = .post ∧
      request.contentType.any MediaType.isJson = true ∧
      Submission.ofJson request.content = .ok submission
  | .delete => ∃ id role, Resource.ofPath? request.path = some (.guarded (.role id)) ∧
      RoleId.parse? id = some role ∧ request.method.asked = .delete
  | .dashboard => Resource.ofPath? request.path = some (.guarded .dashboard) ∧
      request.method.asked = .post ∧ request.contentType.any MediaType.isForm = true

/-- What a request is shown of a response: one that asks for the head alone is not shown the body. -/
def Request.shown (request : Request) (response : Response) : Response :=
  if request.method = .head then .refusal response.status else response

variable {settings : Settings} {request : Request}

theorem shorten_run (program : Program Response) :
    (shorten request program).run 0 world =
      (request.shown (program.run 0 world).1, (program.run 0 world).2) := by
  unfold shorten Request.shown
  split
  · exact Program.run_bind ..
  · rfl

theorem answer_run_of_refused {place : Guarded} {error : ServiceError}
    (isPlace : Resource.ofPath? request.path = some (.guarded place))
    (isRefused : admission settings world (request.cookie.bind world.sessions.find?) = .error error) :
    ((answer settings request).run 0 world).1 = request.shown (.ofError error) := by
  have leads : (answer settings request).Leads world _ := answer_leads_guarded isPlace
  rw [leads.run_eq, shorten_run, isRefused]
  rfl

theorem answer_run_of_admitted {place : Guarded} {session : Session}
    (isPlace : Resource.ofPath? request.path = some (.guarded place))
    (isAdmitted : admission settings world (request.cookie.bind world.sessions.find?) = .ok session) :
    (answer settings request).run 0 world =
      let outcome := (answerSession settings session (request.cookie.bind world.sessions.find?) request
        place request.method.asked).run 0 world
      (request.shown outcome.1, outcome.2) := by
  have leads : (answer settings request).Leads world _ := answer_leads_guarded isPlace
  rw [leads.run_eq, shorten_run, isAdmitted]

end Web

end Rolebook
