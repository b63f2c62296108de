import Rolebook.Service.Settings
import Rolebook.Submission
import Rolebook.Task.Program

/-!
Reconciliation of a role's rules with a submission. The submission is checked first; then the gate of
the role is held from reading the stored role to publishing the new one, so that reconciliations of one
role follow each other. A write that takes too long leaves its outcome unknown and clears the snapshot.
-/

namespace Rolebook

/-- A reconciliation that was carried out: the role as published, and the scopes that changed. -/
structure Update where
  role : Role
  changed : List Scope
  deriving DecidableEq

namespace Reconciliation

open Program

/-- Waits, but not past the deadline, given how long has been waited before. Tells whether the deadline
cut the wait short. -/
def waitWithin (deadline : Option Nat) (before duration : Nat) : Program Bool := do
  match deadline with
  | none =>
      take (.wait duration)
      return false
  | some limit =>
      take (.wait (min duration (limit - before)))
      return limit < before + duration

/-- Saves rules and waits for the answer, which is none once the deadline has passed. The deadline may
pass before the rules are written, and then they are not, or while the answer is awaited. -/
def saveWithin (deadline : Option Nat) (role : RoleId) (rules : RuleSet) :
    Program (Option (Except ServiceError Unit)) := do
  let (before, after) ← take .announceSave
  if ← waitWithin deadline 0 before then
    return none
  else
    match ← take (.write role rules) with
    | .error error => return some (.error error)
    | .ok () => if ← waitWithin deadline before after then return none else return some (.ok ())

/-- A role that the repository does not find has vanished; every other failure is one of storage. -/
def storageError (role : RoleId) (error : ServiceError) : AccessError :=
  if error.kind = .notFound then .roleVanished role else .storage error.message

/-- Brings the rules of a role in line with a submission, with a deadline for the write. -/
def applyWithin (mode : Mode) (deadline : Nat) (role : RoleId) (submission : Submission) :
    Program (Except AccessError Update) := do
  match submission.ruleSet with
  | .error error => return .error error
  | .ok submitted =>
      let slot ← enter role
      match ← take (.find role) with
      | .ok none =>
          evict role slot
          return .error (.roleVanished role)
      | .error error =>
          take (.release slot)
          return .error (storageError role error)
      | .ok (some stored) =>
          let rules := mode.merge stored.rules submitted
          match ← saveWithin (some deadline) role rules with
          | none =>
              take (.clear slot)
              take (.release slot)
              return .error (.writeTimedOut role)
          | some (.error error) =>
              if error.kind = .notFound then evict role slot else take (.release slot)
              return .error (storageError role error)
          | some (.ok ()) =>
              let updated := stored.withRules rules
              take (.publish slot updated)
              take (.release slot)
              return .ok ⟨updated, stored.rules.changedScopes rules⟩

def apply (settings : Settings) (role : RoleId) (submission : Submission) :
    Program (Except AccessError Update) :=
  applyWithin settings.mode settings.writeTimeout role submission

end Reconciliation

end Rolebook
