import Rolebook.Proofs.Task.Record
import Rolebook.Service.Administration

/-!
What services do not touch. No service has to do with the sessions of the web, whatever the repository
answers, and to authorize changes nothing in the repository either.
-/

namespace Rolebook

theorem Program.evict_takes (role : RoleId) (slot : SlotId) :
    (evict role slot).Takes Action.isHarmless :=
  ⟨rfl, fun _ => ⟨rfl, fun _ => ⟨rfl, fun _ => trivial⟩⟩⟩

theorem Program.Takes.spares {Answer : Type} {program : Program Answer}
    (takes : program.Takes Action.isHarmless) : program.Takes Action.sparesSessions :=
  takes.mono fun _ isHarmless => (Action.isHarmless_iff.mp isHarmless).2

namespace Authorization

theorem resolve_takes (role : RoleId) : (resolve role).Takes Action.isHarmless := by
  refine ⟨rfl, fun shown => ?_⟩
  cases shown with
  | some snapshot => trivial
  | none =>
      refine fun slot => ⟨rfl, fun current => ?_⟩
      cases current with
      | some snapshot => exact ⟨rfl, fun _ => trivial⟩
      | none =>
          refine ⟨rfl, fun found => ?_⟩
          match found with
          | .ok (some loaded) => exact ⟨rfl, fun _ => ⟨rfl, fun _ => trivial⟩⟩
          | .ok none => exact (Program.evict_takes role slot).bind fun _ => trivial
          | .error error => exact (Program.evict_takes role slot).bind fun _ => trivial

theorem authorize_takes (policy : Policy) (session : Session) (scope : Scope) (required : Level) :
    (authorize policy session scope required).Takes Action.isHarmless := by
  unfold authorize
  split
  · trivial
  · refine (resolve_takes session.role).bind fun outcome => ?_
    cases outcome <;> trivial

theorem require_takes (policy : Policy) (session : Session) (scope : Scope) (required : Level) :
    (require policy session scope required).Takes Action.isHarmless := by
  refine (authorize_takes policy session scope required).bind fun outcome => ?_
  cases denyMissing outcome with
  | error error => trivial
  | ok decision =>
      dsimp only
      split <;> trivial

end Authorization

namespace Reconciliation

theorem waitWithin_takes (deadline : Option Nat) (before duration : Nat) :
    (waitWithin deadline before duration).Takes Action.sparesSessions := by
  cases deadline <;> exact ⟨rfl, fun _ => trivial⟩

theorem saveWithin_takes (deadline : Option Nat) (role : RoleId) (rules : RuleSet) :
    (saveWithin deadline role rules).Takes Action.sparesSessions := by
  refine ⟨rfl, fun delays => (waitWithin_takes deadline 0 delays.1).bind fun isLate => ?_⟩
  split
  · trivial
  · refine ⟨rfl, fun written => ?_⟩
    match written with
    | .error error => trivial
    | .ok () =>
        refine (waitWithin_takes deadline delays.1 delays.2).bind fun isLate => ?_
        split <;> trivial

theorem applyWithin_takes (mode : Mode) (deadline : Nat) (role : RoleId) (submission : Submission) :
    (applyWithin mode deadline role submission).Takes Action.sparesSessions := by
  unfold applyWithin
  split
  · trivial
  · refine fun slot => ⟨rfl, fun found => ?_⟩
    match found with
    | .ok none => exact (Program.evict_takes role slot).spares.bind fun _ => trivial
    | .error error => exact ⟨rfl, fun _ => trivial⟩
    | .ok (some stored) =>
        refine (saveWithin_takes (some deadline) role _).bind fun saved => ?_
        match saved with
        | none => exact ⟨rfl, fun _ => ⟨rfl, fun _ => trivial⟩⟩
        | some (.ok ()) => exact ⟨rfl, fun _ => ⟨rfl, fun _ => trivial⟩⟩
        | some (.error error) =>
            by_cases isGone : error.kind = .notFound
            · simp only [isGone, if_true]
              exact (Program.evict_takes role slot).spares.bind fun _ => trivial
            · simp only [isGone, if_false]
              exact ⟨rfl, fun _ => trivial⟩

end Reconciliation

namespace Administration

variable (settings : Settings) (session : Session)

theorem requireAdmin_takes (required : Level) :
    (requireAdmin settings session required).Takes Action.isHarmless := by
  refine (Authorization.require_takes settings.policy session .rbacAdmin required).bind fun outcome => ?_
  cases outcome <;> trivial

theorem updateRules_takes (role : RoleId) (submission : Submission) :
    (updateRules settings session role submission).Takes Action.sparesSessions := by
  refine (requireAdmin_takes settings session .edit).spares.bind fun outcome => ?_
  cases outcome with
  | error error => trivial
  | ok =>
      exact (Reconciliation.applyWithin_takes settings.mode settings.writeTimeout role submission).bind
        fun _ => trivial

end Administration

end Rolebook
