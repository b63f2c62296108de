import Rolebook.Proofs.Service.Conduct
import Rolebook.Proofs.Task.Play

/-!
Calls. A task at work carries out one call of a service and hands over the outcome, which tells of the
call and of its answer. What an answer rests on, and what the task has changed by then, is told under the
terms on which the task works.
-/

namespace Rolebook

inductive Call where
  | authorize (session : Session) (scope : Scope) (required : Level)
  | isAllowed (session : Session) (scope : Scope) (required : Level)
  | require (session : Session) (scope : Scope) (required : Level)
  | resolve (role : RoleId)
  | invalidate (role : RoleId)
  | apply (role : RoleId) (submission : Submission)
  | createRole (session : Session) (role : NewRole)
  | deleteRole (session : Session) (role : RoleId)
  | updateRules (session : Session) (role : RoleId) (submission : Submission)
  | listRoles (session : Session)
  | findRole (session : Session) (role : RoleId)

namespace Call

abbrev Answer : Call → Type
  | authorize _ _ _ => Except AccessError Decision
  | isAllowed _ _ _ => Bool
  | require _ _ _ => Except ServiceError Decision
  | resolve _ => Except AccessError Role
  | invalidate _ => Unit
  | apply _ _ => Except AccessError Update
  | createRole _ _ | findRole _ _ => Except ServiceError Role
  | deleteRole _ _ => Except ServiceError Unit
  | updateRules _ _ _ => Except ServiceError Update
  | listRoles _ => Except ServiceError (List Role)

def body (settings : Settings) : (call : Call) → Program call.Answer
  | authorize session scope required =>
      Authorization.authorize settings.policy session scope required
  | isAllowed session scope required =>
      Authorization.isAllowed settings.policy session scope required
  | require session scope required => Authorization.require settings.policy session scope required
  | resolve role => Authorization.resolve role
  | invalidate role => Authorization.invalidate role
  | apply role submission => Reconciliation.apply settings role submission
  | createRole session role => Administration.createRole settings session role
  | deleteRole session role => Administration.deleteRole settings session role
  | updateRules session role submission =>
      Administration.updateRules settings session role submission
  | listRoles session => Administration.listRoles settings session
  | findRole session role => Administration.findRole settings session role

def Writes : Call → Action → Prop
  | createRole _ role, .create other => other = role
  | deleteRole _ role, .delete other => other = role
  | apply role _, .write other _ | updateRules _ role _, .write other _ => other = role
  | _, _ => False

end Call

structure Outcome where
  call : Call
  answer : call.Answer

/-- The program of a task that carries out the call. -/
def Call.program (settings : Settings) (call : Call) : Program Outcome :=
  (call.body settings).bind fun answer => .done ⟨call, answer⟩

def AccessError.IsUnresolved (error : AccessError) (role : RoleId) (causes : ServiceError → Prop) :
    Prop :=
  error = .roleMissing role ∨ ∃ cause, causes cause ∧ error = .storage cause.message

/-- The update is the one that brings stored rules in line with the submission, and that change was
made. -/
def Update.Reconciles (update : Update) (settings : Settings) (role : RoleId) (submission : Submission)
    (writes : List Write) : Prop :=
  ∃ submitted stored, submission.ruleSet = .ok submitted ∧
    let rules := settings.mode.merge stored.rules submitted
    update = ⟨stored.withRules rules, stored.rules.changedScopes rules⟩ ∧
      writes = [.saved role stored rules]

namespace Call

variable {terms : Terms} {settings : Settings}

/-- What an answer to a call rests on, with the changes that were made. -/
def Rests (terms : Terms) (settings : Settings) : (call : Call) → call.Answer → List Write → Prop
  | authorize session scope required, .ok decision, writes =>
      terms.Grants settings.policy session scope required [] decision ∧ writes = []
  | authorize session _ _, .error error, writes =>
      session.isEmpty = false ∧ error.IsUnresolved session.role (terms.Fails [] session.role) ∧
        writes = []
  | isAllowed session scope required, allowed, writes =>
      (allowed = true → terms.Admits settings.policy session scope required []) ∧ writes = []
  | require session scope required, .ok _, writes =>
      terms.Admits settings.policy session scope required [] ∧ writes = []
  | resolve role, .ok snapshot, writes => terms.Offers [] role snapshot ∧ writes = []
  | resolve role, .error error, writes => error.IsUnresolved role (terms.Fails [] role) ∧ writes = []
  | apply role submission, .ok update, writes => update.Reconciles settings role submission writes
  | apply role _, .error error, writes => error = .writeTimedOut role ∨ writes = []
  | updateRules session role submission, .ok update, writes =>
      terms.Admits settings.policy session .rbacAdmin .edit [] ∧
        update.Reconciles settings role submission writes
  | updateRules _ role _, .error error, writes => error = .access (.writeTimedOut role) ∨ writes = []
  | createRole session _, .ok _, writes =>
      terms.Admits settings.policy session .rbacAdmin .edit [] ∧ writes = [.created]
  | deleteRole session role, .ok (), writes =>
      terms.Admits settings.policy session .rbacAdmin .full [] ∧ writes = [.deleted role]
  | listRoles session, .ok _, writes | findRole session _, .ok _, writes =>
      terms.Admits settings.policy session .rbacAdmin .view [] ∧ writes = []
  | require _ _ _, .error _, writes | invalidate _, (), writes | createRole _ _, .error _, writes
  | deleteRole _ _, .error _, writes | listRoles _, .error _, writes
  | findRole _ _, .error _, writes => writes = []

/-- A call ends with no gate in hand, and its answer rests on what it should. -/
theorem ensures (call : Call)
    (permitted : ∀ stance action, call.Writes action → terms.permits stance [] action) :
    (call.program settings).Ensures terms (fun outcome stance writes =>
      stance = .idle ∧ outcome.call = call ∧ outcome.call.Rests terms settings outcome.answer writes)
      .idle [] := by
  apply (Program.ensures_bind _ _).mpr
  cases call with
  | authorize session scope required =>
      exact Authorization.authorize_ensures (fun decision granted => ⟨rfl, rfl, granted, rfl⟩)
        (fun isKnown => ⟨rfl, rfl, isKnown, .inl rfl, rfl⟩)
        (fun isKnown error isFailure => ⟨rfl, rfl, isKnown, .inr ⟨error, isFailure, rfl⟩, rfl⟩)
  | isAllowed session scope required =>
      exact Authorization.isAllowed_ensures
        (fun decision granted => ⟨rfl, rfl, fun isAllowed => ⟨decision, granted, isAllowed⟩, rfl⟩)
        ⟨rfl, rfl, by simp, rfl⟩
  | require session scope required =>
      exact Authorization.require_ensures
        (fun decision granted isAllowed => ⟨rfl, rfl, ⟨decision, granted, isAllowed⟩, rfl⟩)
        (fun _ => ⟨rfl, rfl, rfl⟩)
  | resolve role =>
      exact Authorization.resolve_ensures (fun snapshot offered => ⟨rfl, rfl, offered, rfl⟩)
        (fun _ => ⟨rfl, rfl, .inl rfl, rfl⟩)
        (fun error isFailure => ⟨rfl, rfl, .inr ⟨error, isFailure, rfl⟩, rfl⟩)
  | invalidate role => exact Authorization.invalidate_ensures (.inl rfl) ⟨rfl, rfl, rfl⟩
  | apply role submission =>
      refine Reconciliation.applyWithin_ensures (fun _ _ _ _ => permitted _ _ rfl)
        (fun _ => ⟨rfl, rfl, .inr rfl⟩) (fun _ _ _ => ⟨rfl, rfl, .inl rfl⟩)
        (fun submitted stored isRead => ⟨rfl, rfl, submitted, stored, isRead, rfl, rfl⟩)
  | createRole session role =>
      exact Administration.createRole_ensures (fun _ => permitted _ _ rfl)
        (fun admitted _ => ⟨rfl, rfl, admitted, rfl⟩) (fun _ => ⟨rfl, rfl, rfl⟩)
  | deleteRole session role =>
      exact Administration.deleteRole_ensures (fun _ => permitted _ _ rfl)
        (fun admitted => ⟨rfl, rfl, admitted, rfl⟩) (fun _ => ⟨rfl, rfl, rfl⟩)
  | updateRules session role submission =>
      exact Administration.updateRules_ensures (fun _ _ _ _ _ => permitted _ _ rfl)
        (fun _ => ⟨rfl, rfl, .inr rfl⟩) (fun _ _ _ => ⟨rfl, rfl, .inl rfl⟩)
        (fun admitted submitted stored isRead =>
          ⟨rfl, rfl, admitted, submitted, stored, isRead, rfl, rfl⟩)
  | listRoles session =>
      exact Administration.listRoles_ensures (fun admitted _ => ⟨rfl, rfl, admitted, rfl⟩)
        (fun _ => ⟨rfl, rfl, rfl⟩)
  | findRole session role =>
      exact Administration.findRole_ensures (fun admitted _ => ⟨rfl, rfl, admitted, rfl⟩)
        (fun _ => ⟨rfl, rfl, rfl⟩)

end Call

/-- The terms on which each of the calls is carried out: no change but those that it is about. -/
def Terms.ofCalls (expects : Stance → List Write → (action : Action) → action.Reply → Prop)
    (calls : List Call) (task : TaskId) : Terms :=
  ⟨expects, fun _ _ action => ∃ call, calls[task]? = some call ∧ call.Writes action⟩

def Call.Fits (settings : Settings) (calls : List Call) (terms : TaskId → Terms) (task : TaskId)
    (outcome : Outcome) (writes : List Write) : Prop :=
  calls[task]? = some outcome.call ∧
    outcome.call.Rests (terms task) settings outcome.answer writes

theorem Call.fits {settings : Settings} {calls : List Call}
    {expects : Stance → List Write → (action : Action) → action.Reply → Prop} (task : TaskId)
    (program : Program Outcome) (located : (calls.map (Call.program settings))[task]? = some program) :
    program.Ensures (Terms.ofCalls expects calls task) (fun outcome stance writes =>
      stance = .idle ∧ Call.Fits settings calls (Terms.ofCalls expects calls) task outcome writes)
      .idle [] := by
  rw [List.getElem?_map, Option.map_eq_some_iff] at located
  obtain ⟨call, isCall, rfl⟩ := located
  have ensured : (call.program settings).Ensures (Terms.ofCalls expects calls task) _ .idle [] :=
    call.ensures fun _ action writes => ⟨call, isCall, writes⟩
  apply ensured.mono
  rintro outcome stance writes ⟨isIdle, rfl, rests⟩
  exact ⟨isIdle, isCall, rests⟩

theorem Call.isIdle {settings : Settings} {calls : List Call} (task : TaskId)
    (program : Program Outcome) (located : (calls.map (Call.program settings))[task]? = some program) :
    program.Ensures .free (fun _ stance _ => stance = .idle) .idle [] := by
  rw [List.getElem?_map, Option.map_eq_some_iff] at located
  obtain ⟨call, _, rfl⟩ := located
  exact (call.ensures fun _ _ _ => trivial).mono fun _ _ _ ensured => ensured.1

end Rolebook
