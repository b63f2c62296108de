import Rolebook.Proofs.Service.Atomicity

/-!
Vanished roles. A reconciliation that reads of its role that there is none, or is told so when it saves,
removes the entry of the role, so that the next decision is the repository's. If the absence is reported as
an error of the reading itself, the entry stays, and readers go on seeing it.
-/

namespace Rolebook

variable {Store : Type} [Repository Store]

def World.load (world : World Store) (role : RoleId) : Except AccessError Role :=
  match world.look role with
  | .ok (some stored) => .ok stored
  | .ok none => .error (.roleMissing role)
  | .error error => .error (.storage error.message)

/-- Whoever has to decide for the role next decides by what the repository answers at that time. -/
def World.Consults (world : World Store) (role : RoleId) : Prop :=
  ∀ later : World Store, later.cache = world.cache → ∀ reader policy session scope required,
    session.isEmpty = false → session.role = role →
      ((Authorization.authorize policy session scope required).run reader later).1 =
        (later.load role).map fun stored => stored.decide scope required

theorem World.consults_of_get_eq_none {world : World Store} {role : RoleId} (atRest : world.cache.AtRest)
    (isHidden : world.cache.get role = none) : world.Consults role := by
  rintro later sameCache reader policy session scope required isKnown rfl
  rw [← sameCache] at atRest isHidden
  have isRecalled : later.recall session.role = later.load session.role := by
    rw [World.recall, isHidden]
    rfl
  have resolves : (Authorization.resolve session.role).Yields reader
      (fun answer _ => answer = later.load session.role) later :=
    Authorization.resolve_yields atRest fun _ _ _ => isRecalled
  have decides : (Authorization.authorize policy session scope required).Yields reader
      (fun answer _ => answer = (later.load session.role).map fun stored => stored.decide scope required)
      later := by
    unfold Authorization.authorize
    rw [if_neg (by simp [isKnown])]
    refine (Program.yields_bind _ _).mpr (resolves.mono ?_)
    rintro answer after rfl
    cases later.load session.role with
    | ok stored => rfl
    | error error => rfl
  exact decides

namespace Reconciliation

/-- What a reconciliation leaves that reports its role as vanished: nothing that readers see of the role,
unless the reading itself failed, for then it leaves what was there. -/
structure Vanishes (role named : RoleId) (before after : World Store) : Prop where
  isNamed : named = role
  evicted : (∃ found, before.look role = .ok found) → after.cache.get role = none ∧ after.Consults role
  kept : ∀ error, before.look role = .error error →
    error.kind = .notFound ∧ after.cache.get role = before.cache.get role

variable {mode : Mode} {deadline : Nat} {role named : RoleId} {submission : Submission} {me : TaskId}
  {before after : World Store}

theorem vanishes_of_evicted (leaves : before.Leaves after role none) {found : Option Role}
    (isLooked : before.look role = .ok found) : Vanishes role role before after where
  isNamed := rfl
  evicted _ := ⟨leaves.get_self, World.consults_of_get_eq_none leaves.atRest leaves.get_self⟩
  kept error failed := by simp [isLooked] at failed

theorem vanishes_of_unread (leaves : before.Leaves after role (before.cache.get role))
    {error : ServiceError} (failed : before.look role = .error error)
    (isVanished : storageError role error = .roleVanished named) : Vanishes role named before after := by
  rcases storageError_cases role error with ⟨isGone, isAnswer⟩ | ⟨_, isAnswer⟩
  · rw [isAnswer] at isVanished
    refine ⟨(AccessError.roleVanished.inj isVanished).symm, ?_, ?_⟩
    · rintro ⟨found, isLooked⟩
      simp [failed] at isLooked
    · intro other isOther
      obtain rfl := Except.error.inj (failed.symm.trans isOther)
      exact ⟨isGone, leaves.get_self⟩
  · simp [isAnswer] at isVanished

/-- Whatever is stored and cached and however the repository answers, a reconciliation at work alone that
reports its role as vanished has removed the entry of the role, unless it could not read the role. -/
theorem applyWithin_vanishes (mode : Mode) (deadline : Nat) (role : RoleId) (submission : Submission)
    (me : TaskId) {before : World Store} (atRest : before.cache.AtRest) {named : RoleId}
    (isVanished : ((applyWithin mode deadline role submission).run me before).1 =
      .error (.roleVanished named)) :
    Vanishes role named before ((applyWithin mode deadline role submission).run me before).2 := by
  revert isVanished
  change (applyWithin mode deadline role submission).Yields me (fun answer after =>
    answer = .error (.roleVanished named) → Vanishes role named before after) before
  unfold applyWithin
  split
  · rename_i error isRefused
    rintro ⟨⟩
    have isValidation := Submission.isValidation_of_refused isRefused
    cases isValidation
  · apply Program.yields_lock atRest
    intro slot entered held same
    have enters : before.Enters (before.setCache entered) me role slot := ⟨held, same, rfl, rfl, rfl⟩
    apply Program.yields_find
    intro found isFound
    have isLooked : before.look role = found := isFound
    cases found with
    | error error =>
        apply enters.find.yields_release
        intro after _ leaves isVanished
        exact vanishes_of_unread leaves isLooked (Except.error.inj isVanished)
    | ok found =>
        cases found with
        | none =>
            refine (Program.yields_bind (Program.evict role slot) _).mpr (enters.find.yields_evict ?_)
            rintro after _ leaves ⟨⟩
            exact vanishes_of_evicted leaves isLooked
        | some stored =>
            have begun := enters.find.announceSave
            change ((saveWithin (some deadline) role _).bind _).Yields me _ _
            refine (Program.yields_bind _ _).mpr (saveWithin_yields ?unwritten ?unsaved ?unanswered ?done)
            case unwritten =>
              intro _
              apply begun.yields_clear
              rintro after _ _ ⟨⟩
            case unsaved =>
              intro _ error written performed
              by_cases isGone : error.kind = .notFound
              · simp only [isGone, if_true]
                refine (Program.yields_bind (Program.evict role slot) _).mpr
                  ((begun.write performed).yields_evict ?_)
                intro after _ leaves isVanished
                have isAnswer : storageError role error = .roleVanished role := if_pos isGone
                obtain rfl : role = named :=
                  AccessError.roleVanished.inj (isAnswer.symm.trans (Except.error.inj isVanished))
                exact vanishes_of_evicted leaves isLooked
              · simp only [isGone, if_false]
                apply (begun.write performed).yields_release
                intro after _ _ isVanished
                have isAnswer : storageError role error = .storage error.message := if_neg isGone
                cases isAnswer.symm.trans (Except.error.inj isVanished)
            case unanswered =>
              intro _ _ written performed
              apply (begun.write performed).yields_clear
              rintro after _ _ ⟨⟩
            case done =>
              intro _ written performed
              apply (begun.write performed).yields_publish
              rintro after _ _ ⟨⟩

end Reconciliation

section Office

def World.acquainted : World MemoryStore :=
  ((Authorization.resolve keeper.id).run 0 (.start .office RoleId.drawn)).2

theorem World.atRest_acquainted : acquainted.cache.AtRest := by
  have asked : (Authorization.resolve keeper.id).Yields 0 (fun _ after => after.cache.AtRest)
      (World.start MemoryStore.office RoleId.drawn) :=
    Authorization.resolve_yields Cache.atRest_empty fun _ _ leaves => leaves.atRest
  exact asked

def Submission.demotion : Submission :=
  .ofList [("RBAC_ADMIN.accessLevel", "NONE")]

def World.abandoned : World MemoryStore :=
  { World.acquainted with store := ⟨[], []⟩ }

def World.misreported : World MemoryStore :=
  { World.acquainted with
    conditions := Conditions.calm.setFault .find (some (.reported .notFound "simulated find failure")) }

def Reconciliation.demotion : Program (Except AccessError Update) :=
  applyWithin .patch Settings.defaultWriteTimeout keeper.id .demotion

theorem Reconciliation.applyWithin_vanishes_abandoned :
    World.abandoned.cache.get keeper.id = some keeper ∧
    (demotion.run 0 .abandoned).1 = .error (.roleVanished keeper.id) ∧
    (demotion.run 0 .abandoned).2.cache.get keeper.id = none ∧
    (demotion.run 0 .abandoned).2.Consults keeper.id := by
  have atRest : World.abandoned.cache.AtRest := World.atRest_acquainted
  have isVanished : (demotion.run 0 .abandoned).1 = .error (.roleVanished keeper.id) := by rfl
  have vanishes := applyWithin_vanishes .patch Settings.defaultWriteTimeout keeper.id .demotion 0 atRest
    isVanished
  exact ⟨by decide, isVanished, vanishes.evicted ⟨none, rfl⟩⟩

/-- A role that is reported as vanished goes on granting access, and nobody asks the repository for it. -/
theorem Reconciliation.keeps_what_vanished :
    (demotion.run 0 .misreported).1 = .error (.roleVanished keeper.id) ∧
    (demotion.run 0 .misreported).2.cache.get keeper.id = some keeper ∧
    ((Authorization.authorize .enforced keeperSession .rbacAdmin .full).run 0
      (demotion.run 0 .misreported).2).1 = .ok .allowFull ∧
    ((Authorization.authorize .enforced keeperSession .rbacAdmin .full).run 0
      (demotion.run 0 .misreported).2).2.finds = (demotion.run 0 .misreported).2.finds :=
  ⟨by rfl, by decide, by rfl, by rfl⟩

end Office

end Rolebook
