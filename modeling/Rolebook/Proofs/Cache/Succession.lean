import Rolebook.Proofs.Task.Turn

/-!
One cache after another. Slots are numbered as they are made, and each one serves the role for which it was
made. Whatever tasks do, with or without a gate in hand, a slot that comes to be published under a role was
published there before or has just been made, so that its number tells whether it is an old one.
-/

namespace Rolebook

namespace Cache

/-- The slot was made, and it is published under no other role. -/
structure Serves (cache : Cache) (role : RoleId) (slot : SlotId) : Prop where
  isMade : slot < cache.made
  only : ∀ other, cache.published other = some slot → other = role

/-- Every published slot serves the role that it is published under. -/
def Filed (cache : Cache) : Prop :=
  ∀ role slot, cache.published role = some slot → cache.Serves role slot

/-- What is published afterwards was published before, or is a slot that was made in between. -/
structure Precedes (before after : Cache) : Prop where
  made : before.made ≤ after.made
  published : ∀ role slot, after.published role = some slot →
    before.published role = some slot ∨ before.made ≤ slot ∧ after.Serves role slot

def Retains (before after : Cache) : Prop :=
  ∀ slot snapshot, slot < after.made → (after.slot slot).snapshot = some snapshot →
    slot < before.made ∧ (before.slot slot).snapshot = some snapshot

variable {cache before after : Cache} {role : RoleId} {slot : SlotId}

theorem AtRest.filed (atRest : cache.AtRest) : cache.Filed :=
  fun role slot isPublished =>
    ⟨atRest.made role slot isPublished, fun other isOther => atRest.own role other slot isPublished isOther⟩

theorem Serves.later (serves : before.Serves role slot) (precedes : before.Precedes after) :
    after.Serves role slot where
  isMade := Nat.lt_of_lt_of_le serves.isMade precedes.made
  only other isPublished := by
    rcases precedes.published other slot isPublished with wasPublished | ⟨isNew, _⟩
    · exact serves.only other wasPublished
    · exact absurd serves.isMade (Nat.not_lt.mpr isNew)

theorem Filed.later (filed : before.Filed) (precedes : before.Precedes after) : after.Filed := by
  intro role slot isPublished
  rcases precedes.published role slot isPublished with wasPublished | ⟨_, serves⟩
  · exact (filed role slot wasPublished).later precedes
  · exact serves

theorem Precedes.trans {middle : Cache} (first : before.Precedes middle) (second : middle.Precedes after) :
    before.Precedes after where
  made := Nat.le_trans first.made second.made
  published role slot isPublished := by
    rcases second.published role slot isPublished with wasPublished | ⟨isNew, serves⟩
    · exact (first.published role slot wasPublished).imp_right fun ⟨isNew, serves⟩ =>
        ⟨isNew, serves.later second⟩
    · exact .inr ⟨Nat.le_trans first.made isNew, serves⟩

/-- A slot that was taken out of the cache does not come back. -/
theorem Precedes.stays_gone (precedes : before.Precedes after) (isMade : slot < before.made)
    (isGone : before.published role ≠ some slot) : after.published role ≠ some slot := by
  intro isPublished
  rcases precedes.published role slot isPublished with wasPublished | ⟨isNew, _⟩
  · exact isGone wasPublished
  · exact Nat.not_lt.mpr isNew isMade

theorem precedes_of_same (samePublished : after.published = before.published)
    (sameMade : after.made = before.made) : before.Precedes after where
  made := Nat.le_of_eq sameMade.symm
  published _ _ isPublished := .inl (samePublished ▸ isPublished)

theorem precedes_withdraw (cache : Cache) (role : RoleId) (slot : SlotId) :
    cache.Precedes (cache.withdraw role slot) where
  made := Nat.le_of_eq (made_withdraw cache role slot).symm
  published _ _ isPublished := .inl (published_of_withdraw isPublished)

theorem not_published_withdraw (cache : Cache) (role : RoleId) (slot : SlotId) :
    (cache.withdraw role slot).published role ≠ some slot := by
  intro isPublished
  rw [cache.published_withdraw (published_of_withdraw isPublished), if_pos rfl] at isPublished
  cases isPublished

theorem Filed.precedes_openSlot (filed : cache.Filed) (opened : cache.openSlot role = (slot, after)) :
    cache.Precedes after ∧ after.Serves role slot := by
  rcases openSlot_cases opened with ⟨isPublished, rfl⟩ | ⟨_, rfl, made, published, _⟩
  · exact ⟨precedes_of_same rfl rfl, filed role slot isPublished⟩
  · have serves : after.Serves role cache.made := by
      refine ⟨made ▸ Nat.lt_succ_self _, fun other isPublished => ?_⟩
      rw [published] at isPublished
      split at isPublished
      · assumption
      · exact absurd (filed other _ isPublished).isMade (Nat.lt_irrefl _)
    refine ⟨⟨made ▸ Nat.le_succ _, fun other found isPublished => ?_⟩, serves⟩
    rw [published] at isPublished
    split at isPublished
    · rename_i isRole
      obtain rfl := Option.some.inj isPublished
      exact .inr ⟨Nat.le_refl _, isRole ▸ serves⟩
    · exact .inl isPublished

theorem retains_openSlot (opened : cache.openSlot role = (slot, after)) : cache.Retains after := by
  rcases openSlot_cases opened with ⟨_, rfl⟩ | ⟨_, rfl, made, _, slots⟩
  · exact fun _ _ isMade isShown => ⟨isMade, isShown⟩
  · intro found snapshot isMade isShown
    rw [slots] at isShown
    split at isShown
    · cases isShown
    · rename_i isOld
      rw [made] at isMade
      exact ⟨Nat.lt_of_le_of_ne (Nat.lt_succ_iff.mp isMade) isOld, isShown⟩

theorem retains_of_same (sameMade : after.made = before.made)
    (sameSnapshots : ∀ slot, (after.slot slot).snapshot = (before.slot slot).snapshot) :
    before.Retains after :=
  fun slot _ isMade isShown => ⟨sameMade ▸ isMade, sameSnapshots slot ▸ isShown⟩

theorem retains_clear (cache : Cache) (slot : SlotId) : cache.Retains (cache.setSnapshot slot none) := by
  intro found snapshot isMade isShown
  rw [snapshot_setSnapshot] at isShown
  split at isShown
  · cases isShown
  · exact ⟨isMade, isShown⟩

end Cache

def Action.onCache (me : TaskId) (cache : Cache) : Action → Cache
  | publish slot role => cache.setSnapshot slot (some role)
  | clear slot => cache.setSnapshot slot none
  | withdraw role slot => cache.withdraw role slot
  | release slot => cache.leave slot me
  | _ => cache

variable {Store : Type} [Repository Store]

theorem World.perform_cache (world : World Store) (me : TaskId) (action : Action) :
    (world.perform me action).2.cache = action.onCache me world.cache := by
  cases action with
  | create role =>
      simp only [perform, createRole]
      split
      · rename_i outcome
        exact (change_frame outcome).1
      · rename_i outcome
        exact (change_frame outcome).1
  | write role rules =>
      rw [perform_write]
      exact (change_frame (Prod.eta _).symm).1
  | delete role =>
      rw [perform_delete]
      exact (change_frame (Prod.eta _).symm).1
  | loadSession session =>
      simp only [perform]
      split <;> rfl
  | removeSession session =>
      simp only [perform]
      split <;> rfl
  | _ => rfl

theorem Action.precedes_onCache (me : TaskId) (cache : Cache) (action : Action) :
    cache.Precedes (action.onCache me cache) := by
  cases action with
  | withdraw role slot => exact cache.precedes_withdraw role slot
  | _ => exact Cache.precedes_of_same rfl rfl

/-- Only to publish brings a snapshot about. -/
theorem Action.retains_onCache (me : TaskId) (cache : Cache) {action : Action}
    (isOther : ∀ slot role, action ≠ .publish slot role) : cache.Retains (action.onCache me cache) := by
  cases action with
  | publish slot role => exact absurd rfl (isOther slot role)
  | clear slot => exact cache.retains_clear slot
  | withdraw role slot => exact Cache.retains_of_same (by simp [onCache]) (by simp [onCache])
  | release slot => exact Cache.retains_of_same rfl (by simp [onCache])
  | _ => exact Cache.retains_of_same rfl fun _ => rfl

theorem Task.Moves.precedes {Answer : Type} {me : TaskId} {world after : World Store}
    {current moved : Task Answer} {deeds : List Deed} (moves : current.Moves me world deeds moved after)
    (filed : world.cache.Filed) : world.cache.Precedes after.cache := by
  cases moves with
  | @act action next =>
      rw [World.perform_cache]
      exact action.precedes_onCache me world.cache
  | reach opened => exact (filed.precedes_openSlot opened).1
  | _ => exact Cache.precedes_of_same rfl rfl

theorem Machine.Turn.precedes {Answer : Type} {before after : Machine Store Answer} {deeds : List Deed}
    (turn : before.Turn deeds after) (filed : before.world.cache.Filed) :
    before.world.cache.Precedes after.world.cache := by
  cases turn with
  | move present moves => exact moves.precedes filed
  | _ => exact Cache.precedes_of_same rfl rfl

theorem Machine.RoughRun.precedes {Answer : Type} {mayLand : Machine Store Answer → RoleId → Prop}
    {start machine : Machine Store Answer} {log : List Deed} (run : RoughRun mayLand start log machine)
    (filed : start.world.cache.Filed) : start.world.cache.Precedes machine.world.cache := by
  apply run.lasts
  · exact Cache.precedes_of_same rfl rfl
  · intro log before deeds after precedes turn _
    exact precedes.trans (turn.precedes (filed.later precedes))

theorem Machine.Run.precedes {Answer : Type} {start machine : Machine Store Answer} {log : List Deed}
    (run : start.Run log machine) (filed : start.world.cache.Filed) :
    start.world.cache.Precedes machine.world.cache := by
  have rough : RoughRun (fun _ _ => True) start log machine := .ofRun run
  exact rough.precedes filed

end Rolebook
