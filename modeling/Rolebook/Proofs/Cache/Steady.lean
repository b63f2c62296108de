import Rolebook.Proofs.Cache.Hiding

/-!
A role that nobody changes. As long as the role is neither saved nor deleted, whoever learns of it learns what
is stored, and nobody learns of it, by the cache or in a slot, before the repository was asked.
-/

namespace Rolebook

variable {Store : Type} [Repository Store] {me task : TaskId} {role : RoleId}

/-- What a task comes to know of a stored role it knew before, or was told, or has saved. -/
theorem Stance.Step.knows {before after : Stance} {action : Action} {reply : action.Reply}
    {written : List Write} {slot : SlotId} {knowledge : Knowledge} {found : Role}
    (step : before.Step action reply after written) (isHolder : after = .holding role slot knowledge)
    (isKnown : knowledge.stored? = some found) (me : TaskId) :
    (∃ former, before = .holding role slot former ∧ former.stored? = some found) ∨
      (⟨me, action, reply⟩ : Deed) = ⟨me, .find role, .ok (some found)⟩ ∨
        ∃ rules, action = .write role rules := by
  subst isHolder
  generalize isAfter : Stance.holding role slot knowledge = after at step
  cases step with
  | quiet | create | createFailed => exact .inl ⟨knowledge, isAfter.symm, isKnown⟩
  | see =>
      obtain ⟨rfl, rfl, rfl⟩ := Stance.holding.inj isAfter
      obtain rfl := Option.some.inj isKnown
      exact .inr (.inl rfl)
  | @publish _ _ former stored known =>
      obtain ⟨rfl, rfl, rfl⟩ := Stance.holding.inj isAfter
      obtain rfl := Option.some.inj isKnown
      exact .inl ⟨former, rfl, by rcases known with rfl | rfl <;> rfl⟩
  | save =>
      obtain ⟨rfl, rfl, rfl⟩ := Stance.holding.inj isAfter
      exact .inr (.inr ⟨_, rfl⟩)
  | saveFailed =>
      obtain ⟨rfl, rfl, rfl⟩ := Stance.holding.inj isAfter
      exact .inl ⟨_, rfl, isKnown⟩
  | clear | withdraw =>
      obtain ⟨rfl, rfl, rfl⟩ := Stance.holding.inj isAfter
      cases isKnown
  | release | delete | deleteFailed => cases isAfter

namespace Scene

variable {scene next : Scene Store} {deed : Option Deed} {found : Role}

/-- What readers come to see of a role they saw before, or the holder of the gate knew to be stored. -/
theorem Move.shown (moved : scene.Move me deed next) (gated : scene.Gated)
    (isShown : next.world.cache.get role = some found) :
    scene.world.cache.get role = some found ∨ ∃ slot knowledge,
      scene.stance me = .holding role slot knowledge ∧ knowledge.stored? = some found := by
  cases moved with
  | rest | disturb | miss | enter => exact .inl isShown
  | aim isInside isFree opened =>
      exact .inl ((Cache.get_openSlot gated.made opened role).symm.trans isShown)
  | join | retry => exact .inl (by simpa [setPlace, setCache, World.setCache] using isShown)
  | @act _ action reply world stance written isInside performed step =>
      have cache : world.cache = action.onCache me scene.world.cache := by
        rw [← World.perform_cache, performed]
      change world.cache.get role = some found at isShown
      rw [cache] at isShown
      cases action with
      | publish slot stored =>
          rw [Action.onCache, Cache.get_setSnapshot] at isShown
          split at isShown
          · rename_i isPublished
            obtain rfl := Option.some.inj isShown
            obtain ⟨holder, knowledge, isHolder, isKnown⟩ := step.publisher
            have isKept : knowledge.isWithdrawn = false := by rcases isKnown with rfl | rfl <;> rfl
            obtain rfl := gated.own _ _ _ (gated.published_of_holding isHolder isKept) isPublished
            exact .inr ⟨slot, knowledge, isHolder, by rcases isKnown with rfl | rfl <;> rfl⟩
          · exact .inl isShown
      | clear slot =>
          rw [Action.onCache, Cache.get_setSnapshot] at isShown
          split at isShown
          · cases isShown
          · exact .inl isShown
      | withdraw => exact .inl (Cache.get_of_withdraw isShown)
      | release => exact .inl (by simpa [Action.onCache] using isShown)
      | _ => exact .inl isShown

theorem Move.knows (moved : scene.Move me deed next) {slot : SlotId} {knowledge : Knowledge}
    (isHolder : next.stance task = .holding role slot knowledge) (isKnown : knowledge.stored? = some found) :
    (∃ former, scene.stance task = .holding role slot former ∧ former.stored? = some found) ∨
      deed = some ⟨task, .find role, .ok (some found)⟩ ∨
        ∃ taken rules, deed = some taken ∧ taken.action = .write role rules := by
  by_cases same : task = me
  · subst same
    cases moved with
    | rest | disturb | aim | join | retry => exact .inl ⟨knowledge, isHolder, isKnown⟩
    | miss => simp at isHolder
    | enter =>
        change ((scene.setStance task _).stance task) = _ at isHolder
        rw [setStance_stance_self] at isHolder
        generalize scene.stance task = stance at isHolder
        cases stance <;> simp [Stance.enter] at isHolder <;> simp [← isHolder.2.2, Knowledge.stored?] at isKnown
    | @act _ action reply world stance written isInside performed step =>
        rw [acted_stance_self] at isHolder
        rcases step.knows isHolder isKnown task with wasKnown | isTold | ⟨rules, isSaved⟩
        · exact .inl wasKnown
        · exact .inr (.inl (congrArg some isTold))
        · exact .inr (.inr ⟨_, rules, rfl, isSaved⟩)
  · rw [(moved.others same).1] at isHolder
    exact .inl ⟨knowledge, isHolder, isKnown⟩

end Scene

variable [LawfulRepository Store]

theorem World.Fresh.perform {world after : World Store} {limit : Nat} (fresh : world.Fresh limit)
    {action : Action} {reply : action.Reply} (performed : world.perform me action = (reply, after))
    (isBelow : after.created ≤ limit) : after.Fresh limit := by
  have unchanged : after.store = world.store → after.identify = world.identify →
      after.created = world.created → after.Fresh limit :=
    fun store => fresh.congr (by rw [store]; exact fun _ => id)
  by_cases isQuiet : action.isQuiet = true
  · obtain ⟨store, _, identify, count⟩ := world.perform_quiet me isQuiet
    rw [performed] at store identify count
    exact unchanged store identify count
  · cases action with
    | create new =>
        cases reply with
        | ok created => exact (fresh.create performed isBelow).1
        | error error =>
            obtain ⟨store, _, identify, count⟩ := World.perform_create_error performed
            exact unchanged store identify count
    | write other rules =>
        cases reply with
        | ok done =>
            rw [World.perform_write] at performed
            obtain ⟨_, identify, count⟩ := World.change_frame performed
            have isAfter : after.store = (Repository.save world.store other rules).2 := by
              rw [World.change_ok performed]
            exact fresh.congr (by rw [isAfter]; exact fun _ => (LawfulRepository.stores_save rules).mp) identify
              count
        | error error =>
            have store := World.perform_write_error performed
            rw [World.perform_write] at performed
            obtain ⟨_, identify, count⟩ := World.change_frame performed
            exact unchanged store identify count
    | delete other =>
        cases reply with
        | ok done =>
            rw [World.perform_delete] at performed
            obtain ⟨_, identify, count⟩ := World.change_frame performed
            have deleted := World.change_ok performed
            refine fresh.congr (fun id isStored => ?_) identify count
            have different : id ≠ other := by
              rintro rfl
              exact LawfulRepository.not_stores_of_delete deleted isStored
            rwa [← LawfulRepository.stores_delete_of_ne different, deleted]
        | error error =>
            have store := World.perform_delete_error performed
            rw [World.perform_delete] at performed
            obtain ⟨_, identify, count⟩ := World.change_frame performed
            exact unchanged store identify count
    | publish _ _ | clear _ | withdraw _ _ | release _ =>
        obtain ⟨_, rfl⟩ := Prod.mk.inj performed
        exact unchanged rfl rfl rfl
    | _ => simp [Action.isQuiet] at isQuiet

def IsRead (log : List Deed) (role : RoleId) (stored : Role) : Prop :=
  ∃ task, ⟨task, .find role, .ok (some stored)⟩ ∈ log

/-- The role is stored as it was. Whoever knows of it, and whoever sees it in the cache, has it as it is
stored, and somebody has read it. -/
structure Scene.Steady (limit : Nat) (role : RoleId) (stored : Role) (log : List Deed) (scene : Scene Store) :
    Prop where
  isStored : Repository.find scene.world.store role = .ok (some stored)
  fresh : scene.world.Fresh limit
  known : ∀ task slot knowledge found, scene.stance task = .holding role slot knowledge →
    knowledge.stored? = some found → found = stored ∧ IsRead log role stored
  shown : ∀ found, scene.world.cache.get role = some found → found = stored ∧ IsRead log role stored
  answered : ∀ task reply, ⟨task, .find role, reply⟩ ∈ log →
    (∃ error, reply = .error error) ∨ reply = .ok (some stored)

namespace Scene

variable {scene next : Scene Store} {deed : Option Deed} {stored : Role} {limit : Nat} {log : List Deed}

omit [LawfulRepository Store] in
theorem Move.unchanged (moved : scene.Move me deed next) :
    (∃ action reply, deed = some ⟨me, action, reply⟩ ∧ scene.world.perform me action = (reply, next.world)) ∨
      deed = none ∧ next.world.store = scene.world.store ∧ next.world.identify = scene.world.identify ∧
        next.world.created = scene.world.created := by
  cases moved with
  | act isInside performed step => exact .inl ⟨_, _, rfl, performed⟩
  | _ => exact .inr ⟨rfl, rfl, rfl, rfl⟩

/-- No move changes what is known of a role that it neither saves nor deletes. -/
theorem Steady.move (steady : scene.Steady limit role stored log) (gated : scene.Gated)
    (moved : scene.Move me deed next) (isBelow : next.world.created ≤ limit)
    (spares : ∀ taken, deed = some taken → (∀ rules, taken.action ≠ .write role rules) ∧
      taken.action ≠ .delete role) : next.Steady limit role stored (log ++ deed.toList) := by
  have stillRead : IsRead log role stored → IsRead (log ++ deed.toList) role stored :=
    fun ⟨reader, isRead⟩ => ⟨reader, List.mem_append_left _ isRead⟩
  have told : ∀ task reply, deed = some ⟨task, .find role, reply⟩ →
      (∃ error, reply = .error error) ∨ reply = .ok (some stored) := by
    rintro task reply rfl
    cases moved with
    | act isInside performed step =>
        cases reply with
        | error error => exact .inl ⟨error, rfl⟩
        | ok found =>
            have isFound := World.perform_find_ok performed
            exact .inr (isFound.symm.trans steady.isStored)
  have wasKnown : ∀ task slot knowledge found, scene.stance task = .holding role slot knowledge →
      knowledge.stored? = some found → found = stored ∧ IsRead (log ++ deed.toList) role stored :=
    fun task slot knowledge found isHolder isKnown =>
      (steady.known task slot knowledge found isHolder isKnown).imp_right stillRead
  refine ⟨?_, ?_, ?_, ?_, ?_⟩
  · rcases moved.unchanged with ⟨action, reply, isTaken, performed⟩ | ⟨_, store, _⟩
    · obtain ⟨notSaved, notDeleted⟩ := spares _ isTaken
      rw [World.find_perform steady.fresh steady.isStored performed isBelow notSaved notDeleted]
      exact steady.isStored
    · rw [store]
      exact steady.isStored
  · rcases moved.unchanged with ⟨action, reply, _, performed⟩ | ⟨_, store, identify, count⟩
    · exact steady.fresh.perform performed isBelow
    · exact steady.fresh.congr (by rw [store]; exact fun _ => id) identify count
  · intro task slot knowledge found isHolder isKnown
    rcases moved.knows isHolder isKnown with
      ⟨former, wasHolder, wasStored⟩ | isTold | ⟨taken, rules, isTaken, isSave⟩
    · exact wasKnown task slot former found wasHolder wasStored
    · rcases told task _ isTold with ⟨error, isError⟩ | isRole
      · cases isError
      · obtain rfl := Option.some.inj (Except.ok.inj isRole)
        exact ⟨rfl, task, by simp [isTold]⟩
    · exact absurd isSave ((spares taken isTaken).1 rules)
  · intro found isShown
    rcases moved.shown gated isShown with wasShown | ⟨slot, knowledge, isHolder, isKnown⟩
    · exact (steady.shown found wasShown).imp_right stillRead
    · exact wasKnown me slot knowledge found isHolder isKnown
  · intro task reply isDone
    rcases List.mem_append.mp isDone with isEarlier | isNow
    · exact steady.answered task reply isEarlier
    · exact told task reply (Option.mem_toList.mp isNow)

end Scene

end Rolebook
