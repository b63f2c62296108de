import Rolebook.Identifier
import Rolebook.Level
import Rolebook.Scope

/-!
What can go wrong. An access error comes from the rules, from resolving a role or from changing its
rules; a service error is what a caller of a service sees. Each cause has one wording, and a service
error's message starts with the heading of its kind.
-/

namespace Rolebook

inductive AccessError where
  | roleMissing (role : RoleId)
  | roleVanished (role : RoleId)
  | unknownScope (text : String)
  | unknownField (scope : Scope) (field : String)
  | invalidLevel (text : String)
  | fieldAboveScope (scope : Scope) (field : String) (fieldLevel scopeLevel : Level)
  | repeatedScope (scope : Scope)
  | repeatedField (scope : Scope) (field : String)
  /-- The repository failed; the text is its own message. -/
  | storage (message : String)
  | writeTimedOut (role : RoleId)
  deriving DecidableEq

inductive ErrorKind where
  | validation
  | notFound
  | conflict
  | unauthorized
  | forbidden
  | internal
  deriving DecidableEq

def ErrorKind.heading : ErrorKind → String
  | validation => "validation error"
  | notFound => "not found"
  | conflict => "conflict"
  | unauthorized => "unauthorized"
  | forbidden => "forbidden"
  | internal => "internal error"

namespace AccessError

def message : AccessError → String
  | roleMissing role => s!"role '{role}' was not found"
  | roleVanished role => s!"role '{role}' vanished during reconciliation"
  | unknownScope text => s!"unknown scope '{text}'"
  | unknownField scope field => s!"unknown field '{field}' for scope '{scope.name}'"
  | invalidLevel text => s!"invalid access level '{text}'"
  | fieldAboveScope scope field fieldLevel scopeLevel =>
      s!"field '{field}' access level {fieldLevel.name} exceeds scope '{scope.name}' " ++
        s!"access level {scopeLevel.name}"
  | repeatedScope scope => s!"duplicate rule for scope '{scope.name}'"
  | repeatedField scope field => s!"duplicate field rule '{field}' for scope '{scope.name}'"
  | storage message => s!"persistence error: {message}"
  | writeTimedOut role => s!"persistence write for role '{role}' timed out"

def kind : AccessError → ErrorKind
  | roleMissing _ | roleVanished _ => .notFound
  | storage _ | writeTimedOut _ => .internal
  | _ => .validation

def isValidation (error : AccessError) : Bool :=
  error.kind == .validation

end AccessError

def Level.read (text : String) : Except AccessError Level :=
  match parse? text with
  | some level => .ok level
  | none => .error (.invalidLevel text)

def Scope.read (text : String) : Except AccessError Scope :=
  match ofName? text with
  | some scope => .ok scope
  | none => .error (.unknownScope text)

theorem Level.read_eq_ok_iff {text : String} {level : Level} :
    Level.read text = .ok level ↔ parse? text = some level := by
  unfold read
  split <;> simp_all

theorem Scope.read_eq_ok_iff {text : String} {scope : Scope} :
    Scope.read text = .ok scope ↔ scope.name = text := by
  rw [← ofName?_eq_some_iff]
  unfold read
  split <;> simp_all

@[simp]
theorem Level.read_name (level : Level) : Level.read level.name = .ok level := by
  cases level <;> rfl

@[simp]
theorem Scope.read_name (scope : Scope) : Scope.read scope.name = .ok scope :=
  Scope.read_eq_ok_iff.mpr rfl

inductive ServiceError where
  | blankText
  | roleMissing (role : RoleId)
  | nameTaken (name : String)
  | roleAssigned (role : RoleId)
  | access (cause : AccessError)
  | notSignedIn
  | accessLacking (username : String) (level : Level) (scope : Scope)
  /-- A collaborator could not do what was asked of it. -/
  | failedTo (activity : String)
  | corruptRule (role : RoleId) (cause : AccessError)
  | roleEntryMissing
  | invalidRoleId (text : String)
  | unknownMode (text : String)
  | variableMissing (name : String)
  | notBoolean (name text : String)
  | notPositive (name text : String)
  | invalidOpenLevel (cause : AccessError)
  | invalidHost (text : String)
  /-- An error reported as such from outside. -/
  | reported (kind : ErrorKind) (detail : String)
  deriving DecidableEq

namespace ServiceError

def kind : ServiceError → ErrorKind
  | roleMissing _ => .notFound
  | nameTaken _ | roleAssigned _ => .conflict
  | access cause => cause.kind
  | notSignedIn => .unauthorized
  | accessLacking _ _ _ => .forbidden
  | failedTo _ | corruptRule _ _ | invalidHost _ => .internal
  | blankText | roleEntryMissing | invalidRoleId _ | unknownMode _ | variableMissing _
  | notBoolean _ _ | notPositive _ _ | invalidOpenLevel _ => .validation
  | reported kind _ => kind

def detail : ServiceError → String
  | blankText => "value must not be empty or whitespace"
  | roleMissing role => s!"role '{role}' was not found"
  | nameTaken name => s!"role '{name}' already exists"
  | roleAssigned role => s!"role '{role}' is still assigned to actors"
  | access cause => cause.message
  | notSignedIn => "authentication required"
  | accessLacking username level scope =>
      s!"actor '{username}' lacks {level.name} access to scope '{scope.name}'"
  | failedTo activity => s!"failed to {activity}"
  | corruptRule role cause => s!"invalid stored rule for role '{role}': {cause.message}"
  | roleEntryMissing => "'role' is required"
  | invalidRoleId text => s!"invalid role id '{text}'"
  | unknownMode text => s!"reconcile mode must be either 'snapshot' or 'patch', got '{text}'"
  | variableMissing name => s!"{name} is required"
  | notBoolean name text => s!"{name} must be 'true' or 'false', got '{text}'"
  | notPositive name text => s!"{name} must be a positive integer, got '{text}'"
  | invalidOpenLevel cause => s!"invalid RBAC_DISABLED_ACCESS_LEVEL: {cause.message}"
  | invalidHost text => s!"invalid API_HOST '{text}': invalid IP address syntax"
  | reported _ detail => detail

def message (error : ServiceError) : String :=
  s!"{error.kind.heading}: {error.detail}"

end ServiceError

def asService {Value : Type} (result : Except AccessError Value) :
    Except ServiceError Value :=
  result.mapError .access

@[simp]
theorem asService_ok {Value : Type} (value : Value) : asService (.ok value) = .ok value :=
  rfl

@[simp]
theorem asService_error {Value : Type} (error : AccessError) :
    asService (.error error : Except AccessError Value) = .error (.access error) :=
  rfl

end Rolebook
