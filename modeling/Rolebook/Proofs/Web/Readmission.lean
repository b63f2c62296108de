import Rolebook.Proofs.Cache.Alone
import Rolebook.Proofs.Web.Access

/-!
Checks that are made again. A role that was resolved is in the cache, whoever else is waiting there, so
that to resolve it once more answers the same and changes nothing. Hence whoever was given a decision, and
is alone at work, is given the same again, and a check that is made twice lets in whom it has let in.
-/

namespace Rolebook

variable {Store : Type} [Repository Store] {world after : World Store} {me : TaskId}

theorem Program.yields_lock_of_openSlot {Answer : Type} {post : Answer → World Store → Prop} {role : RoleId}
    {next : SlotId → Program Answer} {slot : SlotId} {opened : Cache}
    (isOpened : world.cache.openSlot role = (slot, opened))
    (continued : (next slot).Yields me post (world.setCache (opened.join slot me))) :
    (Program.lock role next).Yields me post world := by
  simp only [Yields, run, isOpened]
  exact continued

namespace Authorization

theorem resolve_shows (role : RoleId) : (resolve role).Yields me
    (fun answer after => ∀ snapshot, answer = .ok snapshot → after.cache.get role = some snapshot) world := by
  apply Program.yields_peek
  intro shown isShown
  cases shown with
  | some snapshot =>
      rintro _ ⟨⟩
      exact isShown
  | none =>
      cases isOpened : world.cache.openSlot role with
      | mk slot opened =>
          have isPublished := Cache.published_of_openSlot isOpened
          apply Program.yields_lock_of_openSlot isOpened
          refine Program.yields_act fun current entered performed => ?_
          obtain ⟨isCurrent, rfl⟩ := Prod.mk.inj performed
          cases current with
          | some snapshot =>
              rintro _ ⟨⟩
              have isPublishedStill : ((opened.join slot me).leave slot me).published role = some slot :=
                isPublished
              change Cache.get ((opened.join slot me).leave slot me) role = some snapshot
              rw [Cache.get_of_published isPublishedStill]
              simpa [World.setCache] using isCurrent
          | none =>
              refine Program.yields_act fun found asked performed => ?_
              obtain ⟨-, rfl⟩ := Prod.mk.inj performed
              cases found with
              | error error =>
                  apply (Program.yields_bind (Program.evict role slot) _).mpr
                  rintro _ ⟨⟩
              | ok found =>
                  cases found with
                  | none =>
                      apply (Program.yields_bind (Program.evict role slot) _).mpr
                      rintro _ ⟨⟩
                  | some loaded =>
                      rintro _ ⟨⟩
                      have isPublishedStill : (((opened.join slot me).setSnapshot slot (some loaded)).leave slot
                          me).published role = some slot := isPublished
                      exact (Cache.get_of_published isPublishedStill).trans (by simp)

theorem resolve_run_of_get {role : RoleId} {snapshot : Role}
    (isShown : world.cache.get role = some snapshot) :
    (resolve role).run me world = (.ok snapshot, world) := by
  have resolved : (resolve role).Yields me (fun answer after => answer = .ok snapshot ∧ after = world)
      world := by
    apply Program.yields_peek
    intro shown isSeen
    obtain rfl := isShown.symm.trans isSeen
    exact ⟨rfl, rfl⟩
  exact Prod.ext resolved.1 resolved.2

variable {policy : Policy} {session : Session} {scope : Scope} {required : Level}

/-- Whoever was given a decision is given the same again, and nothing is asked of the repository then. -/
theorem authorize_again {decision : Decision}
    (isDecided : (authorize policy session scope required).run me world = (.ok decision, after)) :
    (authorize policy session scope required).run me after = (.ok decision, after) := by
  unfold authorize at isDecided ⊢
  by_cases isEmpty : session.isEmpty = true
  · rw [if_pos isEmpty] at isDecided ⊢
    obtain ⟨isDecision, -⟩ := Prod.mk.inj isDecided
    exact Prod.ext isDecision rfl
  · rw [if_neg isEmpty, Program.bind_eq, Program.run_bind] at isDecided ⊢
    cases resolved : (resolve session.role).run me world with
    | mk outcome reached =>
        rw [resolved] at isDecided
        cases outcome with
        | error error => cases isDecided
        | ok role =>
            obtain ⟨isDecision, rfl⟩ := Prod.mk.inj isDecided
            have isShown : reached.cache.get session.role = some role := by
              have shows : (resolve session.role).Yields me _ world := resolve_shows session.role
              unfold Program.Yields at shows
              rw [resolved] at shows
              exact shows role rfl
            rw [resolve_run_of_get isShown]
            exact Prod.ext isDecision rfl

end Authorization

namespace Administration

variable {settings : Settings} {session : Session} {required : Level}

def verdict (session : Session) (required : Level) (outcome : Except AccessError Decision) :
    Except ServiceError Unit :=
  (Authorization.demand session.username .rbacAdmin required outcome).map fun _ => ()

theorem verdict_eq_ok_iff {outcome : Except AccessError Decision} :
    verdict session required outcome = .ok () ↔
      ∃ decision, outcome = .ok decision ∧ decision.allowed = true := by
  have closed := Web.failsClosed session.username .rbacAdmin required outcome
  unfold verdict
  cases isDemanded : Authorization.demand session.username .rbacAdmin required outcome with
  | error error =>
      have isRefused := closed.required_iff
      simp only [isDemanded, reduceCtorEq, false_iff] at isRefused
      simpa [Except.map] using isRefused
  | ok decision => simpa [Except.map] using ⟨decision, (closed.required_iff decision).mp isDemanded⟩

theorem requireAdmin_run (required : Level) :
    (requireAdmin settings session required).run me world =
      let authorized := (Authorization.authorize settings.policy session .rbacAdmin required).run me world
      (verdict session required authorized.1, authorized.2) := by
  rw [requireAdmin, Authorization.require_eq, Program.bind_eq, Program.run_bind, Program.run_bind_done]
  generalize (Authorization.authorize settings.policy session .rbacAdmin required).run me world = authorized
  simp only [verdict]
  cases Authorization.demand session.username .rbacAdmin required authorized.1 <;> rfl

end Administration

end Rolebook
