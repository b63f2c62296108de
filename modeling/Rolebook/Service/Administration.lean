import Rolebook.Service.Authorization
import Rolebook.Service.Reconciliation

/-!
Administration of roles. Every operation first requires access to the scope of role administration:
the view level to look, the edit level to create and to change rules, the full level to delete.
-/

namespace Rolebook.Administration

open Program

def requireAdmin (settings : Settings) (session : Session) (required : Level) :
    Program (Except ServiceError Unit) := do
  match ← Authorization.require settings.policy session .rbacAdmin required with
  | .ok _ => return .ok ()
  | .error error => return .error error

def asAdmin {Answer : Type} (settings : Settings) (session : Session) (required : Level)
    (operation : Program (Except ServiceError Answer)) : Program (Except ServiceError Answer) := do
  match ← requireAdmin settings session required with
  | .error error => return .error error
  | .ok () => operation

def listRoles (settings : Settings) (session : Session) :
    Program (Except ServiceError (List Role)) :=
  asAdmin settings session .view (take .list)

def findRole (settings : Settings) (session : Session) (role : RoleId) :
    Program (Except ServiceError Role) :=
  asAdmin settings session .view do
    match ← take (.find role) with
    | .ok (some found) => return .ok found
    | .ok none => return .error (.roleMissing role)
    | .error error => return .error error

def createRole (settings : Settings) (session : Session) (role : NewRole) :
    Program (Except ServiceError Role) :=
  asAdmin settings session .edit (take (.create role))

def updateRules (settings : Settings) (session : Session) (role : RoleId) (submission : Submission) :
    Program (Except ServiceError Update) :=
  asAdmin settings session .edit do
    return asService (← Reconciliation.apply settings role submission)

/-- Deletes a role, then drops what the cache has of it. -/
def deleteRole (settings : Settings) (session : Session) (role : RoleId) :
    Program (Except ServiceError Unit) :=
  asAdmin settings session .full do
    match ← take (.delete role) with
    | .error error => return .error error
    | .ok () =>
        Authorization.invalidate role
        return .ok ()

def requireEditor (settings : Settings) (session : Session) : Program (Except ServiceError Unit) :=
  requireAdmin settings session .edit

end Rolebook.Administration
