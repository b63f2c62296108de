import Rolebook.Service.Settings
import Rolebook.Task.Program

/-!
Authorization. The role of a session is taken from the cache, or loaded under its gate, so that one
load serves everybody who waits. Every failure to resolve the role is a denial or an error, never a
grant.
-/

namespace Rolebook.Authorization

open Program

/-- The current snapshot of a role. On a miss the role is loaded, unless somebody else loaded it while
this task waited for the gate; a failed load removes the entry. -/
def resolve (role : RoleId) : Program (Except AccessError Role) := do
  match ← take (.peek role) with
  | some snapshot => return .ok snapshot
  | none =>
      let slot ← enter role
      match ← take (.current slot) with
      | some snapshot =>
          take (.release slot)
          return .ok snapshot
      | none =>
          match ← take (.find role) with
          | .ok (some loaded) =>
              take (.publish slot loaded)
              take (.release slot)
              return .ok loaded
          | .ok none =>
              evict role slot
              return .error (.roleMissing role)
          | .error error =>
              evict role slot
              return .error (.storage error.message)

/-- Removes the entry of a role, after whoever holds its gate. -/
def invalidate (role : RoleId) : Program Unit := do
  match ← enterPublished role with
  | none => return ()
  | some slot => evict role slot

/-- The decision for a session. The empty session is decided by the policy alone. -/
def authorize (policy : Policy) (session : Session) (scope : Scope) (required : Level) :
    Program (Except AccessError Decision) := do
  if session.isEmpty then
    return .ok (policy.decide required)
  else
    match ← resolve session.role with
    | .ok role => return .ok (role.decide scope required)
    | .error error => return .error error

/-- Whether access is allowed; every failure counts as a denial. -/
def isAllowed (policy : Policy) (session : Session) (scope : Scope) (required : Level) :
    Program Bool := do
  match ← authorize policy session scope required with
  | .ok decision => return decision.allowed
  | .error _ => return false

def denyMissing : Except AccessError Decision → Except AccessError Decision
  | .error (.roleMissing _) => .ok (.deny .nothing)
  | outcome => outcome

def require (policy : Policy) (session : Session) (scope : Scope) (required : Level) :
    Program (Except ServiceError Decision) := do
  match denyMissing (← authorize policy session scope required) with
  | .error error => return .error (.access error)
  | .ok decision =>
      if decision.allowed then return .ok decision
      else return .error (.accessLacking session.username required scope)

end Rolebook.Authorization
