/-!
What paths lead to. Segments are compared letter by letter, and a parameter is empty only where another
segment follows it. All but two resources are guarded: they are for sessions only.
-/

namespace Rolebook.Web

inductive Guarded where
  | roles
  | role (id : String)
  | rules (id : String)
  | access (scope : String)
  | dashboard
  | session
  deriving DecidableEq

inductive Resource where
  | health
  | logout
  | guarded (place : Guarded)
  deriving DecidableEq

def Guarded.ofParameter (place : String → Guarded) (parameter : String) : Option Resource :=
  if parameter = "" then none else some (.guarded (place parameter))

def Resource.ofPath? : List String → Option Resource
  | ["health"] => some .health
  | ["rbac", "logout"] => some .logout
  | ["api", "rbac", "roles"] => some (.guarded .roles)
  | ["api", "rbac", "roles", id] => Guarded.ofParameter .role id
  | ["api", "rbac", "roles", id, "rules"] => some (.guarded (.rules id))
  | ["api", "rbac", "access", scope] => Guarded.ofParameter .access scope
  | ["rbac", "dashboard"] => some (.guarded .dashboard)
  | ["rbac", "session"] => some (.guarded .session)
  | _ => none

end Rolebook.Web
