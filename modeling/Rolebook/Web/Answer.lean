import Rolebook.Json.Decode
import Rolebook.Service.Administration
import Rolebook.Web.Body
import Rolebook.Web.Exchange
import Rolebook.Web.Form
import Rolebook.Web.MediaType
import Rolebook.Web.Resource

/-!
Answers to requests. The session of a request to a protected resource is established first; then the method
is looked at, then the parameters of the path, then the content. A session that tries to edit rules at
the dashboard without being allowed to is ended. A request keeps to the session that its cookie stands for
when it arrives; a cookie that stands for none counts as no cookie.
-/

namespace Rolebook.Web

open Program

/-- Who asks in a stored session. Without stored context it is nobody, who is only admitted while security
is not enforced. -/
def authenticate (settings : Settings) (origin : Option SessionId) :
    Program (Except ServiceError Session) := do
  let stored ← match origin with
    | some session => take (.loadSession session)
    | none => pure (.ok none)
  match stored with
  | .error error => return .error error
  | .ok none =>
      if settings.policy.isEnforced then return .error .notSignedIn
      else return .ok .nobody
  | .ok (some context) =>
      match context.session? with
      | some session => return .ok session
      | none => return .error (.failedTo "read session context")

def logOut : Option SessionId → Program (Except ServiceError Unit)
  | some session => take (.removeSession session)
  | none => return .ok ()

/-- Ends a session: it is removed, or at least emptied. -/
def endSession (origin : Option SessionId) : Program Unit := do
  match ← logOut origin, origin with
  | .error _, some session => take (.emptySession session)
  | _, _ => return ()

def withRole (id : String) (next : RoleId → Program Response) : Program Response :=
  match RoleId.parse? id with
  | some role => next role
  | none => return .refusal 400

def withJson {Value : Type} (request : Request) (read : String → Except Json.Misfit Value)
    (next : Value → Program Response) : Program Response :=
  if request.contentType.any MediaType.isJson then
    match read request.content with
    | .ok value => next value
    | .error .malformed => return .refusal 400
    | .error .misshapen => return .refusal 422
  else return .refusal 415

def listRoles (settings : Settings) (session : Session) : Program Response := do
  return .ofResult 200 (fun roles => .array (roles.map Role.json))
    (← Administration.listRoles settings session)

def createRole (settings : Settings) (session : Session) (request : Request) : Program Response :=
  withJson request RoleDraft.ofJson fun draft => do
    match draft.check with
    | .error error => return .ofError error
    | .ok role => return .ofResult 201 Role.json (← Administration.createRole settings session role)

def findRole (settings : Settings) (session : Session) (id : String) : Program Response :=
  withRole id fun role => do
    return .ofResult 200 Role.json (← Administration.findRole settings session role)

def deleteRole (settings : Settings) (session : Session) (id : String) : Program Response :=
  withRole id fun role => do
    return .ofOutcome (← Administration.deleteRole settings session role)

def updateRules (settings : Settings) (session : Session) (request : Request) (id : String) :
    Program Response :=
  withRole id fun role =>
    withJson request Submission.ofJson fun submission => do
      return .ofResult 200 Update.json
        (← Administration.updateRules settings session role submission)

/-- The scope of a check, and the level that it asks for, which is the view level if none is given. -/
def readCheck (scope : String) (level : Option String) : Except ServiceError (Scope × Level) := do
  let scope ← asService (Scope.read scope)
  let level ← match level with
    | some text => asService (Level.read text)
    | none => pure .view
  return (scope, level)

/-- Tells what the session may do in a scope. A denial is a regular answer. -/
def checkAccess (settings : Settings) (session : Session) (request : Request) (scope : String) :
    Program Response :=
  match request.query.filter fun parameter => parameter.1 == "level" with
  | _ :: _ :: _ => return .refusal 400
  | levels => do
      match readCheck scope (levels.head?.map Prod.snd) with
      | .error error => return .ofError error
      | .ok (scope, level) =>
          let outcome ← Authorization.authorize settings.policy session scope level
          return .ofResult 200 (fun decision => decision.answerJson scope level)
            (asService (Authorization.denyMissing outcome))

/-- Updates the role that a form selects. The session is checked before the form is looked at. -/
def applyForm (settings : Settings) (session : Session) (submission : Submission) :
    Program (Except ServiceError Update) := do
  match ← Administration.requireEditor settings session with
  | .error error => return .error error
  | .ok () =>
      match submission.selectedRole with
      | .error error => return .error error
      | .ok role => Administration.updateRules settings session role submission

def updateDashboard (settings : Settings) (session : Session) (origin : Option SessionId)
    (request : Request) : Program Response := do
  if request.contentType.any MediaType.isForm then
    match ← applyForm settings session (Form.submission request.content) with
    | .ok update => return ⟨200, some update.json⟩
    | .error error =>
        if error.kind = .forbidden then endSession origin
        return .ofError error
  else return .refusal 415

/-- The answer at a guarded resource, to a session that was admitted, and that is stored if it has an
origin. -/
def answerSession (settings : Settings) (session : Session) (origin : Option SessionId)
    (request : Request) : Guarded → Method → Program Response
  | .roles, .get => listRoles settings session
  | .roles, .post => createRole settings session request
  | .role id, .get => findRole settings session id
  | .role id, .delete => deleteRole settings session id
  | .rules id, .post => updateRules settings session request id
  | .access scope, .get => checkAccess settings session request scope
  | .dashboard, .post => updateDashboard settings session origin request
  | .session, .get => return ⟨200, some session.json⟩
  | _, _ => return .refusal 405

def answerAt (settings : Settings) (origin : Option SessionId) (request : Request) :
    Resource → Method → Program Response
  | .health, .get => return ⟨200, some (.object [("status", .text "ok")])⟩
  | .logout, .post => do return .ofOutcome (← logOut origin)
  | .guarded place, method => do
      match ← authenticate settings origin with
      | .error error => return .ofError error
      | .ok session => answerSession settings session origin request place method
  | _, _ => return .refusal 405

def recognize : Option String → Program (Option SessionId)
  | some cookie => take (.recognize cookie)
  | none => return none

/-- The answer to a request. One that asks for the head alone is answered as if it asked for all, and the
body is left out. -/
def answer (settings : Settings) (request : Request) : Program Response := do
  match Resource.ofPath? request.path with
  | none => return .refusal 404
  | some resource =>
      let origin ← recognize request.cookie
      if request.method = .head then
        return .refusal (← answerAt settings origin request resource .get).status
      else answerAt settings origin request resource request.method

end Rolebook.Web
