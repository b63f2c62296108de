import Rolebook.Session

/-!
Settings of the services: the policy for the empty session, how a submission combines with the stored
rules, and how long a write may take.
-/

namespace Rolebook

inductive Mode where
  /-- The submission is the whole rule set. -/
  | snapshot
  /-- Only the submitted scopes change. -/
  | patch
  deriving DecidableEq, Inhabited

namespace Mode

def name : Mode → String
  | snapshot => "snapshot"
  | patch => "patch"

def read (text : String) : Except ServiceError Mode :=
  match Text.trim text with
  | "snapshot" => .ok snapshot
  | "patch" => .ok patch
  | other => .error (.unknownMode other)

def merge (mode : Mode) (stored submitted : RuleSet) : RuleSet :=
  match mode with
  | snapshot => submitted
  | patch => stored.overlay submitted

end Mode

structure Settings where
  policy : Policy
  mode : Mode
  /-- The longest that a write may take, in milliseconds. -/
  writeTimeout : Nat
  deriving DecidableEq

namespace Settings

/-- Five seconds. -/
def defaultWriteTimeout : Nat :=
  5000

end Settings

end Rolebook
