import Rolebook.Decision

/-!
Sessions, and the policy for the session of nobody. A session is empty when neither its actor nor its
role is known, whatever its username; such a session is never looked up.
-/

namespace Rolebook

structure Session where
  actor : ActorId
  username : String
  role : RoleId
  deriving DecidableEq

namespace Session

def nobody : Session :=
  ⟨.nil, "no-actor", .nil⟩

def isEmpty (session : Session) : Bool :=
  session.actor.isNil && session.role.isNil

end Session

/-- What the empty session may do: nothing while security is enforced, else one level everywhere. -/
structure Policy where
  isEnforced : Bool
  /-- Counts only while security is not enforced. -/
  openLevel : Level
  deriving DecidableEq

namespace Policy

def enforced : Policy :=
  ⟨true, .nothing⟩

def opened (level : Level) : Policy :=
  ⟨false, level⟩

def decide (policy : Policy) (required : Level) : Decision :=
  if policy.isEnforced then .deny .nothing
  else if policy.openLevel.satisfies required then .allow policy.openLevel []
  else .deny policy.openLevel

end Policy

end Rolebook
