import Rolebook.Proofs.Identifier
import Rolebook.Proofs.Service.Vanishing
import Rolebook.Proofs.Submission.RoundTrip
import Rolebook.Proofs.Web.Denial
import Rolebook.Proofs.Web.Readmission

/-!
The dashboard beside the endpoint for rules. A form says which role to change and how, and the session is
checked before the form is looked at and again before the rules are changed. As the second check comes to
what the first one came to, a form does what the endpoint does that is given the role and the rest of the
form, and what is more is only that a session is ended that is turned away.
-/

namespace Rolebook

variable {Store : Type} [Repository Store] {world : World Store} {me : TaskId} {settings : Settings}
  {session : Session}

def World.ended (world : World Store) : Option SessionId → World Store
  | some stored => world.clearSession stored
  | none => world

namespace Submission

theorem selectedRole_insert (submission : Submission) (role : RoleId) {before after : String}
    (areBefore : ∀ character ∈ before.toList, Text.isBlank character = true)
    (areAfter : ∀ character ∈ after.toList, Text.isBlank character = true) :
    selectedRole (submission.insert roleKey (before ++ role.text ++ after)) = .ok role := by
  have isTrimmed : Text.trim (before ++ role.text ++ after) = role.text :=
    Text.trim_padded areBefore areAfter fun _ isListed => Uuid.isBlank_text isListed
  have isWritten : role.text ≠ "" := by
    intro isEmpty
    have isRead := RoleId.parse?_text role
    rw [isEmpty] at isRead
    cases isRead
  simp [selectedRole, isTrimmed, Option.filter_some, isWritten]

end Submission

theorem Reconciliation.apply_congr {role : RoleId} {submission other : Submission}
    (sameRules : submission.ruleSet = other.ruleSet) :
    apply settings role submission = apply settings role other := by
  rw [apply, applyWithin, sameRules]
  rfl

theorem Administration.updateRules_run (role : RoleId) (submission : Submission) :
    (updateRules settings session role submission).run me world =
      let authorized := (Authorization.authorize settings.policy session .rbacAdmin .edit).run me world
      match verdict session .edit authorized.1 with
      | .error error => (.error error, authorized.2)
      | .ok () =>
          let applied := (Reconciliation.apply settings role submission).run me authorized.2
          (asService applied.1, applied.2) := by
  rw [updateRules, asAdmin, Program.bind_eq, Program.run_bind, requireAdmin_run]
  dsimp only
  cases verdict session .edit
    ((Authorization.authorize settings.policy session .rbacAdmin .edit).run me world).1 with
  | error error => rfl
  | ok => exact Program.run_bind_done ..

namespace Web

theorem applyForm_run (submission : Submission) :
    (applyForm settings session submission).run me world =
      let authorized := (Authorization.authorize settings.policy session .rbacAdmin .edit).run me world
      match Administration.verdict session .edit authorized.1 with
      | .error error => (.error error, authorized.2)
      | .ok () =>
          match submission.selectedRole with
          | .error error => (.error error, authorized.2)
          | .ok role =>
              let applied := (Reconciliation.apply settings role submission).run me authorized.2
              (asService applied.1, applied.2) := by
  rw [applyForm, Administration.requireEditor, Program.bind_eq, Program.run_bind,
    Administration.requireAdmin_run]
  cases isAuthorized : (Authorization.authorize settings.policy session .rbacAdmin .edit).run me world with
  | mk outcome reached =>
      dsimp only
      cases isAdmitted : Administration.verdict session .edit outcome with
      | error error => rfl
      | ok =>
          dsimp only
          cases submission.selectedRole with
          | error error => rfl
          | ok role =>
              obtain ⟨decision, rfl, -⟩ := Administration.verdict_eq_ok_iff.mp isAdmitted
              have isAgain := Authorization.authorize_again isAuthorized
              dsimp only
              rw [Administration.updateRules_run, isAgain]
              dsimp only
              rw [isAdmitted]

theorem endSession_run (origin : Option SessionId) :
    (endSession origin).run me world = ((), world.ended origin) := by
  cases origin with
  | none => rfl
  | some stored =>
      cases fails : world.conditions.sessionRemovalFails <;>
        simp [endSession, logOut, Program.take, Program.bind, Program.run, World.perform, fails, World.ended]

theorem status_eq_forbidden_iff {Value : Type} {body : Value → Json} {outcome : Except ServiceError Value} :
    (Response.ofResult 200 body outcome).status = 403 ↔
      ∃ error, outcome = .error error ∧ error.kind = .forbidden := by
  cases outcome with
  | ok value => simp [Response.ofResult]
  | error error =>
      cases isKind : error.kind <;> simp [Response.ofResult, Response.ofError, isKind, ErrorKind.status]

variable {request : Request}

/-- A form is answered by what is done of it, and only who is turned away loses the session. -/
theorem updateDashboard_run (isForm : request.contentType.any MediaType.isForm = true)
    (origin : Option SessionId) :
    (updateDashboard settings session origin request).run me world =
      let applied := (applyForm settings session (Form.submission request.content)).run me world
      let response := Response.ofResult 200 Update.json applied.1
      (response, if response.status = 403 then applied.2.ended origin else applied.2) := by
  rw [updateDashboard, if_pos isForm, Program.bind_eq, Program.run_bind]
  generalize (applyForm settings session (Form.submission request.content)).run me world = applied
  obtain ⟨outcome, reached⟩ := applied
  cases outcome with
  | ok update => rfl
  | error error =>
      dsimp only
      by_cases isForbidden : error.kind = .forbidden
      · rw [if_pos isForbidden, if_pos (status_eq_forbidden_iff.mpr ⟨error, rfl, isForbidden⟩),
          Program.bind_eq, Program.run_bind, endSession_run]
        rfl
      · have isOther : (Response.ofResult 200 Update.json (.error error)).status ≠ 403 := by
          simpa [status_eq_forbidden_iff] using isForbidden
        rw [if_neg isForbidden, if_neg isOther]
        rfl

theorem updateRules_run {id : String} {role : RoleId} {submission : Submission}
    (isJson : request.contentType.any MediaType.isJson = true) (isRole : RoleId.parse? id = some role)
    (isSubmission : Submission.ofJson request.content = .ok submission) :
    (updateRules settings session request id).run me world =
      let updated := (Administration.updateRules settings session role submission).run me world
      (.ofResult 200 Update.json updated.1, updated.2) := by
  simp only [updateRules, withRole, isRole, withJson, if_pos isJson, isSubmission]
  exact Program.run_bind_done ..

/-- A form selects the role of a path, by its identifier with blanks around it, and otherwise has the
entries of a submission to the rules of that role. -/
structure AsksAlike (form rules : Request) (id : String) : Prop where
  isForm : form.contentType.any MediaType.isForm = true
  isJson : rules.contentType.any MediaType.isJson = true
  alike : ∃ role submission before after, RoleId.parse? id = some role ∧
    Submission.ofJson rules.content = .ok submission ∧
    (∀ character ∈ before.toList, Text.isBlank character = true) ∧
    (∀ character ∈ after.toList, Text.isBlank character = true) ∧
    Form.submission form.content = submission.insert roleKey (before ++ role.text ++ after)

/-- Whatever is stored and cached, and however the repository fails and delays: a form at the dashboard is
answered as the submission to the rules is that asks for the same, and leaves the same world, but for the
session of whoever is turned away. -/
theorem form_agrees_with_rules {form rules : Request} {id : String} (asksAlike : AsksAlike form rules id)
    (settings : Settings) (session : Session) (origin : Option SessionId) (me : TaskId)
    (world : World Store) :
    let updated := (updateRules settings session rules id).run me world
    (updateDashboard settings session origin form).run me world =
      (updated.1, if updated.1.status = 403 then updated.2.ended origin else updated.2) := by
  obtain ⟨isForm, isJson, role, submission, before, after, isRole, isSubmission, areBefore, areAfter,
    isInserted⟩ := asksAlike
  have isSelected := Submission.selectedRole_insert submission role areBefore areAfter
  have sameRules := Submission.ruleSet_insert_roleKey submission (before ++ role.text ++ after)
  have sameUpdate : (applyForm settings session (Form.submission form.content)).run me world =
      (Administration.updateRules settings session role submission).run me world := by
    rw [isInserted, applyForm_run, isSelected, Administration.updateRules_run]
    dsimp only
    rw [Reconciliation.apply_congr sameRules]
  rw [updateDashboard_run isForm, updateRules_run isJson isRole isSubmission, sameUpdate]

section Office

def demotionForm : Request :=
  ⟨.post, ["dashboard"], [], none, some "application/x-www-form-urlencoded",
    "role=%09" ++ keeper.id.text ++ "+&RBAC_ADMIN.accessLevel=NONE"⟩

def demotionRules : Request :=
  ⟨.post, ["api", "rbac", "roles", keeper.id.text, "rules"], [], none, some "application/json",
    "\x7b\"RBAC_ADMIN.accessLevel\": \"NONE\"\x7d"⟩

theorem asksAlike_demotion : AsksAlike demotionForm demotionRules keeper.id.text where
  isForm := by decide
  isJson := by decide
  alike := by
    have isRead : (Submission.ofJson demotionRules.content).toOption = some .demotion := by decide +kernel
    have isInserted : Form.submission demotionForm.content =
        Submission.demotion.insert roleKey ("\t" ++ keeper.id.text ++ " ") := by decide +kernel
    have isBlank : "\t".toList.all Text.isBlank = true ∧ " ".toList.all Text.isBlank = true := by decide
    exact ⟨keeper.id, .demotion, "\t", " ", RoleId.parse?_text keeper.id, eq_ok_of_toOption isRead,
      List.all_eq_true.mp isBlank.1, List.all_eq_true.mp isBlank.2, isInserted⟩

/-- The keeper may do this, even to its own role, and a clerk may not. -/
theorem form_agrees_with_rules_demotion :
    let office : World MemoryStore := .start .office RoleId.drawn
    let byKeeper := (updateRules .office keeperSession demotionRules keeper.id.text).run 0 office
    let byClerk := (updateRules .office clerkSession demotionRules keeper.id.text).run 0 clerkSignedIn
    (updateDashboard .office keeperSession none demotionForm).run 0 office = byKeeper ∧
    byKeeper.1.status = 200 ∧ byKeeper.2.store.role? keeper.id ≠ office.store.role? keeper.id ∧
    (updateDashboard .office clerkSession (some (.opened 0)) demotionForm).run 0 clerkSignedIn =
      (byClerk.1, byClerk.2.clearSession (.opened 0)) ∧
    byClerk.1.status = 403 := by
  -- Told of any world, so that no run is evaluated only to be compared with itself.
  have ofKeeper {world : World MemoryStore} {updated : Response × World MemoryStore}
      (isRun : (updateRules .office keeperSession demotionRules keeper.id.text).run 0 world = updated)
      (isDone : updated.1.status = 200) :
      (updateDashboard .office keeperSession none demotionForm).run 0 world = updated := by
    rw [form_agrees_with_rules asksAlike_demotion, isRun]
    simp [isDone]
  have ofClerk {world : World MemoryStore} {updated : Response × World MemoryStore}
      (isRun : (updateRules .office clerkSession demotionRules keeper.id.text).run 0 world = updated)
      (isDenied : updated.1.status = 403) :
      (updateDashboard .office clerkSession (some (.opened 0)) demotionForm).run 0 world =
        (updated.1, updated.2.clearSession (.opened 0)) := by
    rw [form_agrees_with_rules asksAlike_demotion, isRun]
    simp [isDenied, World.ended]
  intro office byKeeper byClerk
  have isDone : byKeeper.1.status = 200 := by decide +kernel
  have isDenied : byClerk.1.status = 403 := by decide +kernel
  have isChanged : byKeeper.2.store.role? keeper.id ≠ office.store.role? keeper.id := by decide +kernel
  exact ⟨ofKeeper rfl isDone, isDone, isChanged, ofClerk rfl isDenied, isDenied⟩

end Office

end Web

end Rolebook
