import Rolebook.Proofs.Web.Conduct
import Rolebook.Store.Memory

/-!
Four ways to ask for access. A bare yes or no, a decision that is required, and the answer to a check on
the web all authorize first and then make something of the outcome without another look at the world. So
they agree on what is granted, none of them grants on a failure, and they leave the same world.
-/

namespace Rolebook

namespace Program

variable {Store Answer Result : Type} [Repository Store]

theorem run_bind_done (task : TaskId) (program : Program Answer) (finish : Answer → Result)
    (world : World Store) :
    (program.bind fun answer => done (finish answer)).run task world =
      (finish (program.run task world).1, (program.run task world).2) :=
  run_bind task program _ world

end Program

namespace Authorization

def allows : Except AccessError Decision → Bool
  | .ok decision => decision.allowed
  | .error _ => false

def demand (username : String) (scope : Scope) (required : Level)
    (outcome : Except AccessError Decision) : Except ServiceError Decision :=
  match denyMissing outcome with
  | .error error => .error (.access error)
  | .ok decision =>
      if decision.allowed then .ok decision else .error (.accessLacking username required scope)

theorem isAllowed_eq (policy : Policy) (session : Session) (scope : Scope) (required : Level) :
    isAllowed policy session scope required =
      (authorize policy session scope required).bind fun outcome => .done (allows outcome) := by
  rw [isAllowed, Program.bind_eq]
  congr 1
  funext outcome
  cases outcome <;> rfl

theorem require_eq (policy : Policy) (session : Session) (scope : Scope) (required : Level) :
    require policy session scope required =
      (authorize policy session scope required).bind fun outcome =>
        .done (demand session.username scope required outcome) := by
  rw [require, Program.bind_eq]
  congr 1
  funext outcome
  unfold demand
  cases denyMissing outcome with
  | error error => rfl
  | ok decision =>
      simp only
      split <;> rfl

theorem denyMissing_of_ne {error : AccessError} (isOther : ∀ role, error ≠ .roleMissing role) :
    denyMissing (.error error) = .error error := by
  cases error with
  | roleMissing role => exact absurd rfl (isOther role)
  | _ => rfl

theorem kind_ne_forbidden (error : AccessError) : error.kind ≠ .forbidden := by
  cases error <;> simp [AccessError.kind]

end Authorization

def Json.member? (name : String) : Json → Option Json
  | object members => (members.find? fun member => member.1 == name).map Prod.snd
  | _ => none

namespace Web

namespace Response

/-- The response reports whether access is allowed, and the level that is held. -/
def Reports (response : Response) (allowed : Bool) (level : Level) : Prop :=
  response.status = 200 ∧ ∃ body, response.body = some body ∧
    body.member? "allowed" = some (.bool allowed) ∧
    body.member? "effective_level" = some (.text level.name)

end Response

def respond (scope : Scope) (required : Level) (outcome : Except AccessError Decision) : Response :=
  .ofResult 200 (fun decision => decision.answerJson scope required)
    (asService (Authorization.denyMissing outcome))

/-- A request to check a scope, at a level that is given at most once. -/
def AsksFor (request : Request) (text : String) (scope : Scope) (level : Level) : Prop :=
  ∃ given, (request.query.filter fun parameter => parameter.1 == "level") = given ∧ given.length ≤ 1 ∧
    readCheck text (given.head?.map Prod.snd) = .ok (scope, level)

theorem asksFor_names {request : Request} {level : Level} (isOnly : request.query = [("level", level.name)])
    (scope : Scope) : AsksFor request scope.name scope level :=
  ⟨[("level", level.name)], by rw [isOnly]; rfl, by simp, by
    simp [readCheck, bind, Except.bind, pure, Except.pure]⟩

theorem checkAccess_eq {request : Request} {text : String} {scope : Scope} {level : Level}
    (asks : AsksFor request text scope level) (settings : Settings) (session : Session) :
    checkAccess settings session request text =
      (Authorization.authorize settings.policy session scope level).bind fun outcome =>
        .done (respond scope level outcome) := by
  obtain ⟨given, isGiven, isSingle, isRead⟩ := asks
  unfold checkAccess
  rw [isGiven]
  split
  · simp at isSingle
  · rw [isRead]
    rfl

/-- What the outcome of an authorization is made into: whether access is allowed, the decision that was
required, and the response to a check. -/
structure FailsClosed (outcome : Except AccessError Decision) (allowed : Bool)
    (required : Except ServiceError Decision) (response : Response) : Prop where
  allowed_iff : allowed = true ↔ ∃ decision, outcome = .ok decision ∧ decision.allowed = true
  required_iff : ∀ decision, required = .ok decision ↔ outcome = .ok decision ∧ decision.allowed = true
  response_iff : (∃ level, response.Reports true level) ↔
    ∃ decision, outcome = .ok decision ∧ decision.allowed = true
  failure : ∀ error, outcome = .error error →
    allowed = false ∧ (∃ cause, required = .error cause) ∧
      ((∃ role, error = .roleMissing role) ∧ response.Reports false .nothing ∨
        (∀ role, error ≠ .roleMissing role) ∧ response = .ofError (.access error) ∧ 400 ≤ response.status)
  forbidden_iff : (∃ cause, required = .error cause ∧ cause.kind = .forbidden) ↔
    (∃ decision, outcome = .ok decision ∧ decision.allowed = false) ∨
      ∃ role, outcome = .error (.roleMissing role)

theorem reports_respond_ok {scope : Scope} {required : Level} {decision : Decision} {allowed : Bool}
    {level : Level} : (respond scope required (.ok decision)).Reports allowed level ↔
      decision.allowed = allowed ∧ decision.level.name = level.name := by
  simp [Response.Reports, respond, Response.ofResult, Authorization.denyMissing, Decision.answerJson,
    Json.member?]

theorem not_reports_ofError (error : ServiceError) (allowed : Bool) (level : Level) :
    ¬ (Response.ofError error).Reports allowed level := by
  rintro ⟨isFine, _⟩
  have isRefused : 400 ≤ (Response.ofError error).status := Response.le_status error.kind
  omega

section Outcomes

variable (username : String) (scope : Scope) (level : Level)

theorem failsClosed_ok (decision : Decision) :
    FailsClosed (.ok decision) (Authorization.allows (.ok decision))
      (Authorization.demand username scope level (.ok decision))
      (respond scope level (.ok decision)) := by
  have isDemanded : Authorization.demand username scope level (.ok decision) =
      if decision.allowed then .ok decision else .error (.accessLacking username level scope) := rfl
  rw [isDemanded]
  constructor
  · simp [Authorization.allows]
  · intro other
    cases isAllowed : decision.allowed with
    | true => simpa using fun same : decision = other => same ▸ isAllowed
    | false => simpa using fun same : decision = other => same ▸ isAllowed
  · simp only [reports_respond_ok]
    constructor
    · rintro ⟨_, isAllowed, _⟩
      exact ⟨decision, rfl, isAllowed⟩
    · rintro ⟨_, ⟨⟩, isAllowed⟩
      exact ⟨decision.level, isAllowed, rfl⟩
  · rintro error ⟨⟩
  · cases isAllowed : decision.allowed <;> simp [ServiceError.kind, isAllowed]

theorem failsClosed_missing (role : RoleId) :
    FailsClosed (.error (.roleMissing role)) (Authorization.allows (.error (.roleMissing role)))
      (Authorization.demand username scope level (.error (.roleMissing role)))
      (respond scope level (.error (.roleMissing role))) := by
  have isDemanded : Authorization.demand username scope level (.error (.roleMissing role)) =
      .error (.accessLacking username level scope) := rfl
  have isAnswered : respond scope level (.error (.roleMissing role)) =
      respond scope level (.ok (.deny .nothing)) := rfl
  rw [isDemanded, isAnswered]
  constructor
  · simp [Authorization.allows]
  · simp
  · simp [reports_respond_ok, Decision.deny]
  · rintro error ⟨⟩
    exact ⟨rfl, ⟨_, rfl⟩, .inl ⟨⟨role, rfl⟩, reports_respond_ok.mpr ⟨rfl, rfl⟩⟩⟩
  · simp [ServiceError.kind]

theorem failsClosed_error {error : AccessError} (isOther : ∀ role, error ≠ .roleMissing role) :
    FailsClosed (.error error) (Authorization.allows (.error error))
      (Authorization.demand username scope level (.error error))
      (respond scope level (.error error)) := by
  have isDemanded : Authorization.demand username scope level (.error error) = .error (.access error) := by
    rw [Authorization.demand, Authorization.denyMissing_of_ne isOther]
  have isAnswered : respond scope level (.error error) = .ofError (.access error) := by
    rw [respond, Authorization.denyMissing_of_ne isOther]
    rfl
  rw [isDemanded, isAnswered]
  constructor
  · simp [Authorization.allows]
  · simp
  · simp [not_reports_ofError]
  · rintro other ⟨⟩
    exact ⟨rfl, ⟨_, rfl⟩, .inr ⟨isOther, rfl, Response.le_status error.kind⟩⟩
  · simp [ServiceError.kind, Authorization.kind_ne_forbidden, isOther]

end Outcomes

theorem failsClosed (username : String) (scope : Scope) (level : Level)
    (outcome : Except AccessError Decision) :
    FailsClosed outcome (Authorization.allows outcome)
      (Authorization.demand username scope level outcome) (respond scope level outcome) := by
  cases outcome with
  | ok decision => exact failsClosed_ok username scope level decision
  | error error =>
      by_cases isMissing : ∃ role, error = .roleMissing role
      · obtain ⟨role, rfl⟩ := isMissing
        exact failsClosed_missing username scope level role
      · exact failsClosed_error username scope level (not_exists.mp isMissing)

/-- In whatever state the cache is, whatever the repository holds and however it fails: who is granted
access in one way is granted it in all, a failure grants it in none, and all leave the same world. -/
theorem access_agrees {Store : Type} [Repository Store] (world : World Store) (task : TaskId)
    (settings : Settings) (session : Session) {request : Request} {text : String} {scope : Scope}
    {level : Level} (asks : AsksFor request text scope level) :
    let authorized := (Authorization.authorize settings.policy session scope level).run task world
    let allowed := (Authorization.isAllowed settings.policy session scope level).run task world
    let required := (Authorization.require settings.policy session scope level).run task world
    let checked := (checkAccess settings session request text).run task world
    FailsClosed authorized.1 allowed.1 required.1 checked.1 ∧
      allowed.2 = authorized.2 ∧ required.2 = authorized.2 ∧ checked.2 = authorized.2 := by
  simp only [Authorization.isAllowed_eq, Authorization.require_eq, checkAccess_eq asks,
    Program.run_bind_done, and_self, and_true]
  exact failsClosed session.username scope level _

section Stranger

def stranger : Session :=
  ⟨⟨⟨7⟩⟩, "kim", ⟨⟨5⟩⟩⟩

def glance : Request :=
  ⟨.get, ["api", "rbac", "access", "RBAC_ADMIN"], [("level", "EDIT")], none, none, ""⟩

theorem access_agrees_stranger :
    let world : World MemoryStore := .start .empty fun _ => .nil
    AsksFor glance "RBAC_ADMIN" .rbacAdmin .edit ∧
      ((Authorization.isAllowed .enforced stranger .rbacAdmin .edit).run 0 world).1 = false ∧
      ((checkAccess ⟨.enforced, .patch, Settings.defaultWriteTimeout⟩ stranger glance
        "RBAC_ADMIN").run 0 world).1.Reports false .nothing := by
  have asks : AsksFor glance "RBAC_ADMIN" .rbacAdmin .edit := asksFor_names rfl .rbacAdmin
  intro world
  obtain ⟨closed, _⟩ :=
    access_agrees world 0 ⟨.enforced, .patch, Settings.defaultWriteTimeout⟩ stranger asks
  obtain ⟨isDenied, _, isAnswered⟩ := closed.failure (.roleMissing stranger.role) rfl
  refine ⟨asks, isDenied, ?_⟩
  rcases isAnswered with ⟨_, reports⟩ | ⟨isOther, _⟩
  · exact reports
  · exact absurd rfl (isOther stranger.role)

end Stranger

end Web

end Rolebook
