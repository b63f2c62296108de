import Rolebook.Network.Address
import Rolebook.Service.Settings
import Rolebook.Text.Decimal

/-!
Configuration from environment variables. A variable that decides about security or reconciliation is
taken at its word or refused: unset and blank mean the default, everything else must follow its
grammar. The variables are looked at in a fixed order, and the first that is wrong is reported.
-/

namespace Rolebook

abbrev Environment := String → Option String

structure Config where
  databaseUrl : String
  apiHost : String
  apiPort : Nat
  cookieSecure : Bool
  settings : Settings
  deriving DecidableEq

namespace Config

def given? (environment : Environment) (name : String) : Option String :=
  (environment name).map Text.trim |>.filter fun value => value ≠ ""

/-- A switch: `true` or `1`, `false` or `0`, in letters of any case. -/
def readSwitch (name text : String) : Except ServiceError Bool :=
  if Text.sameLetters text "true" || text == "1" then .ok true
  else if Text.sameLetters text "false" || text == "0" then .ok false
  else .error (.notBoolean name text)

/-- Security is enforced unless it is switched off; only then does the open level count. -/
def readPolicy (environment : Environment) : Except ServiceError Policy := do
  let enforced ← match given? environment "RBAC_SECURITY_ENABLED" with
    | none => pure true
    | some text => readSwitch "RBAC_SECURITY_ENABLED" text
  if enforced then return .enforced
  else
    match given? environment "RBAC_DISABLED_ACCESS_LEVEL" with
    | none => return .opened .nothing
    | some text =>
        match Level.read text with
        | .ok level => return .opened level
        | .error error => throw (.invalidOpenLevel error)

def readMode (environment : Environment) : Except ServiceError Mode :=
  match given? environment "RBAC_RECONCILE_MODE" with
  | none => .ok .snapshot
  | some text => Mode.read text

def readWriteTimeout (environment : Environment) : Except ServiceError Nat :=
  match given? environment "RBAC_WRITE_TIMEOUT_MS" with
  | none => .ok Settings.defaultWriteTimeout
  | some text =>
      match (Text.natural? UInt64.size text).filter (0 < ·) with
      | some milliseconds => .ok milliseconds
      | none => .error (.notPositive "RBAC_WRITE_TIMEOUT_MS" text)

def load (environment : Environment) : Except ServiceError Config := do
  let databaseUrl ← match environment "DATABASE_URL" with
    | some url => pure url
    | none => throw (.variableMissing "DATABASE_URL")
  let policy ← readPolicy environment
  let mode ← readMode environment
  let writeTimeout ← readWriteTimeout environment
  return {
    databaseUrl
    apiHost := (environment "API_HOST").getD "127.0.0.1"
    apiPort := ((environment "API_PORT").bind (Text.natural? UInt16.size)).getD 3001
    cookieSecure := Text.sameLetters ((environment "SESSION_COOKIE_SECURE").getD "false") "true"
    settings := ⟨policy, mode, writeTimeout⟩ }

def socketAddress (config : Config) : Except ServiceError String :=
  match Network.Address.parse? config.apiHost with
  | some address => .ok (address.withPort config.apiPort)
  | none => .error (.invalidHost config.apiHost)

end Config

end Rolebook
