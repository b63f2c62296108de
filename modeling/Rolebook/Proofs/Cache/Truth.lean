import Rolebook.Proofs.Cache.Gate

/-!
What the cache shows is true. A snapshot that readers can see is the stored role, unless the holder of
the gate has just saved other rules, or the role was deleted and whoever deleted it is still to remove
the entry. What a holder of a gate has read or saved itself stays true for the same reasons.
-/

namespace Rolebook

variable {Store : Type} [Repository Store] [LawfulRepository Store]

/-- The identifiers of the roles to come, up to the limit, are unused and all different. -/
structure World.Fresh (world : World Store) (limit : Nat) : Prop where
  unused : ∀ number, world.created < number → number ≤ limit →
    ¬ LawfulRepository.stores world.store (world.identify number)
  distinct : ∀ first second, world.created < first → first < second → second ≤ limit →
    world.identify first ≠ world.identify second

/-- Whether a task in this stance has deleted the role and is still to remove its entry. -/
def Stance.Dooms (stance : Stance) (role : RoleId) : Prop :=
  stance = .owing role ∨ ∃ slot, stance = .holding role slot .stale

namespace Scene

/-- Some task has deleted the role and is still to remove its entry. -/
def Doomed (scene : Scene Store) (role : RoleId) : Prop :=
  ∃ task, (scene.stance task).Dooms role

/-- The role is stored, or it is doomed. -/
def Vouches (scene : Scene Store) (id : RoleId) (role : Role) : Prop :=
  Repository.find scene.world.store id = .ok (some role) ∨ scene.Doomed id

/-- The holder of the gate has saved rules that it has not published. -/
def Saving (scene : Scene Store) (role : RoleId) (slot : SlotId) : Prop :=
  ∃ task stored, scene.stance task = .holding role slot (.saved stored)

structure Truthful (scene : Scene Store) (limit : Nat) : Prop where
  known : ∀ task role slot stored,
    scene.stance task = .holding role slot (.seen stored) ∨
      scene.stance task = .holding role slot (.saved stored) → scene.Vouches role stored
  bare : ∀ task role slot knowledge, scene.stance task = .holding role slot knowledge →
    knowledge = .vacant ∨ knowledge = .withdrawn → (scene.world.cache.slot slot).snapshot = none
  shown : ∀ role slot snapshot, scene.world.cache.published role = some slot →
    (scene.world.cache.slot slot).snapshot = some snapshot →
      scene.Vouches role snapshot ∨ scene.Saving role slot
  fresh : scene.world.Fresh limit

end Scene

namespace World.Fresh

variable {world after : World Store} {limit : Nat}

theorem of_le (isBelow : limit ≤ world.created) : world.Fresh limit where
  unused _ isNew isLow := absurd (Nat.lt_of_lt_of_le isNew (Nat.le_trans isLow isBelow)) (Nat.lt_irrefl _)
  distinct _ _ isNew isLess isLow :=
    absurd (Nat.lt_of_lt_of_le (Nat.lt_trans isNew isLess) (Nat.le_trans isLow isBelow))
      (Nat.lt_irrefl _)

theorem congr (fresh : world.Fresh limit) (sameStore : ∀ id,
      LawfulRepository.stores after.store id → LawfulRepository.stores world.store id)
    (sameIdentify : after.identify = world.identify) (sameCount : after.created = world.created) :
    after.Fresh limit where
  unused number isNew isBelow isStored := by
    rw [sameCount] at isNew
    rw [sameIdentify] at isStored
    exact fresh.unused number isNew isBelow (sameStore _ isStored)
  distinct := by
    rw [sameIdentify, sameCount]
    exact fresh.distinct

theorem create (fresh : world.Fresh limit) {me : TaskId} {role : NewRole} {created : Role}
    (performed : world.perform me (.create role) = (.ok created, after))
    (isBelow : after.created ≤ limit) :
    after.Fresh limit ∧ ∃ id, ¬ LawfulRepository.stores world.store id ∧
      (∀ other, other ≠ id →
        Repository.find after.store other = Repository.find world.store other) ∧
      ∀ other, other ≠ id →
        (LawfulRepository.stores after.store other ↔ LawfulRepository.stores world.store other) := by
  obtain ⟨stored, _, identify, count⟩ := perform_create_ok performed
  have isAfter : after.store =
      (Repository.create world.store (world.identify (world.created + 1)) role).2 := by rw [stored]
  have found : ∀ other, other ≠ world.identify (world.created + 1) →
      Repository.find after.store other = Repository.find world.store other := by
    intro other different
    rw [isAfter]
    exact LawfulRepository.find_create role different
  have kept : ∀ other, other ≠ world.identify (world.created + 1) →
      (LawfulRepository.stores after.store other ↔ LawfulRepository.stores world.store other) := by
    intro other different
    rw [isAfter]
    exact LawfulRepository.stores_create role different
  rw [count] at isBelow
  refine ⟨⟨?_, ?_⟩, world.identify (world.created + 1),
    fresh.unused _ (Nat.lt_succ_self _) isBelow, found, kept⟩
  · intro number isNew isLow isStored
    rw [count] at isNew
    rw [identify] at isStored
    have different := fresh.distinct (world.created + 1) number (Nat.lt_succ_self _) isNew isLow
    exact fresh.unused number (by omega) isLow ((kept _ different.symm).mp isStored)
  · rw [identify, count]
    intro first second isNew isLess isLow
    exact fresh.distinct first second (by omega) isLess isLow

end World.Fresh

/-- A stored role is found as before after every action but a save or a deletion of its own. -/
theorem World.find_perform {world after : World Store} {limit : Nat} (fresh : world.Fresh limit)
    {role : RoleId} {stored : Role} (isStored : Repository.find world.store role = .ok (some stored))
    {me : TaskId} {action : Action} {reply : action.Reply}
    (performed : world.perform me action = (reply, after)) (isBelow : after.created ≤ limit)
    (notSaved : ∀ rules, action ≠ .write role rules) (notDeleted : action ≠ .delete role) :
    Repository.find after.store role = Repository.find world.store role := by
  by_cases isQuiet : action.isQuiet = true
  · have store := (world.perform_quiet me isQuiet).1
    rw [performed] at store
    rw [store]
  · cases action with
    | create new =>
        cases reply with
        | ok created =>
            obtain ⟨_, id, isNew, found, _⟩ := fresh.create performed isBelow
            apply found role
            rintro rfl
            exact isNew (LawfulRepository.stores_of_find isStored)
        | error error => rw [(perform_create_error performed).1]
    | write other rules =>
        cases reply with
        | ok done =>
            rw [perform_write] at performed
            have isAfter : after.store = (Repository.save world.store other rules).2 := by
              rw [change_ok performed]
            rw [isAfter]
            apply LawfulRepository.find_save_of_ne rules
            rintro rfl
            exact notSaved rules rfl
        | error error => rw [perform_write_error performed]
    | delete other =>
        cases reply with
        | ok done =>
            rw [perform_delete] at performed
            have isAfter : after.store = (Repository.delete world.store other).2 := by
              rw [change_ok performed]
            rw [isAfter]
            apply LawfulRepository.find_delete_of_ne
            rintro rfl
            exact notDeleted rfl
        | error error => rw [perform_delete_error performed]
    | publish _ _ | clear _ | withdraw _ _ | release _ =>
        obtain ⟨_, rfl⟩ := Prod.mk.inj performed
        rfl
    | _ => simp [Action.isQuiet] at isQuiet

/-- A stored role is found, with other rules perhaps, after every action but its deletion. -/
theorem World.find_perform_some {world after : World Store} {limit : Nat} (fresh : world.Fresh limit)
    {role : RoleId} {stored : Role} (isStored : Repository.find world.store role = .ok (some stored))
    {me : TaskId} {action : Action} {reply : action.Reply}
    (performed : world.perform me action = (reply, after)) (isBelow : after.created ≤ limit)
    (notDeleted : action ≠ .delete role) :
    ∃ other, Repository.find after.store role = .ok (some other) := by
  by_cases isSaved : ∃ rules, action = .write role rules
  · obtain ⟨rules, rfl⟩ := isSaved
    cases reply with
    | ok done =>
        rw [perform_write] at performed
        exact ⟨_, LawfulRepository.find_save (change_ok performed) isStored⟩
    | error error =>
        rw [perform_write_error performed]
        exact ⟨stored, isStored⟩
  · have isKept := World.find_perform fresh isStored performed isBelow
      (fun rules isWrite => isSaved ⟨rules, isWrite⟩) notDeleted
    exact ⟨stored, isKept.trans isStored⟩

theorem World.find_of_perform {world after : World Store} {role : RoleId} {stored : Role} {me : TaskId}
    {action : Action} {reply : action.Reply} (performed : world.perform me action = (reply, after))
    (isStored : Repository.find after.store role = .ok (some stored))
    (isReading : action.isWrite = false ∨ ∃ other, action = .delete other) :
    Repository.find world.store role = .ok (some stored) := by
  rcases isReading with isRead | ⟨other, rfl⟩
  · have store := world.perform_store me isRead
    rw [performed] at store
    rw [← store]
    exact isStored
  · cases reply with
    | error error =>
        rw [← perform_delete_error performed]
        exact isStored
    | ok done =>
        rw [perform_delete] at performed
        have deleted : Repository.delete world.store other = (.ok (), after.store) :=
          change_ok performed
        have different : role ≠ other := by
          rintro rfl
          exact LawfulRepository.not_stores_of_delete deleted (LawfulRepository.stores_of_find isStored)
        rw [← LawfulRepository.find_delete_of_ne different, deleted]
        exact isStored

namespace Scene

variable {scene next : Scene Store} {me : TaskId} {role : RoleId} {slot : SlotId} {limit : Nat}

omit [Repository Store] [LawfulRepository Store] in
theorem Doomed.kept (doomed : scene.Doomed role) (me : TaskId)
    (others : ∀ task, task ≠ me → next.stance task = scene.stance task)
    (mine : (scene.stance me).Dooms role → (next.stance me).Dooms role) : next.Doomed role := by
  obtain ⟨task, dooms⟩ := doomed
  by_cases same : task = me
  · subst same
    exact ⟨task, mine dooms⟩
  · exact ⟨task, by rw [others task same]; exact dooms⟩

omit [LawfulRepository Store] in
theorem Vouches.kept {stored : Role} (vouches : scene.Vouches role stored) (me : TaskId)
    (found : Repository.find scene.world.store role = .ok (some stored) →
      Repository.find next.world.store role = .ok (some stored))
    (others : ∀ task, task ≠ me → next.stance task = scene.stance task)
    (mine : (scene.stance me).Dooms role → (next.stance me).Dooms role) :
    next.Vouches role stored := by
  rcases vouches with isStored | doomed
  · exact .inl (found isStored)
  · exact .inr (doomed.kept me others mine)

omit [Repository Store] [LawfulRepository Store] in
theorem Saving.kept (saving : scene.Saving role slot) (me : TaskId)
    (others : ∀ task, task ≠ me → next.stance task = scene.stance task)
    (mine : ∀ stored, scene.stance me = .holding role slot (.saved stored) →
      next.stance me = .holding role slot (.saved stored)) : next.Saving role slot := by
  obtain ⟨task, stored, isSaving⟩ := saving
  by_cases same : task = me
  · subst same
    exact ⟨task, stored, mine stored isSaving⟩
  · exact ⟨task, stored, by rw [others task same]; exact isSaving⟩

omit [Repository Store] [LawfulRepository Store] in
theorem Gated.enter_dooms (gated : scene.Gated) (isQueued : scene.place me = .queued role slot)
    {other : RoleId} :
    ((scene.stance me).enter role slot).Dooms other ↔ (scene.stance me).Dooms other := by
  obtain ⟨_, _, isIdle | isOwing⟩ := gated.waiting me role slot (.inr isQueued)
  · simp [isIdle, Stance.enter, Stance.Dooms]
  · simp [isOwing, Stance.enter, Stance.Dooms]

namespace Truthful

/-- A move keeps the truth that leaves alone the snapshots, publishes nothing new, and takes back
nothing that was vouched for. -/
theorem kept (truthful : scene.Truthful limit) (me : TaskId)
    (others : ∀ task, task ≠ me → next.stance task = scene.stance task)
    (snapshots : ∀ slot, (next.world.cache.slot slot).snapshot = (scene.world.cache.slot slot).snapshot)
    (published : ∀ role slot, next.world.cache.published role = some slot →
      scene.world.cache.published role = some slot)
    (vouches : ∀ role stored, scene.Vouches role stored → next.Vouches role stored)
    (known : ∀ role slot stored, next.stance me = .holding role slot (.seen stored) ∨
      next.stance me = .holding role slot (.saved stored) → next.Vouches role stored)
    (bare : ∀ role slot knowledge, next.stance me = .holding role slot knowledge →
      knowledge = .vacant ∨ knowledge = .withdrawn → (scene.world.cache.slot slot).snapshot = none)
    (saving : ∀ role slot stored, scene.stance me = .holding role slot (.saved stored) →
      next.stance me = .holding role slot (.saved stored))
    (fresh : next.world.Fresh limit) : next.Truthful limit where
  known task role slot stored isHolder := by
    by_cases same : task = me
    · subst same
      exact known role slot stored isHolder
    · rw [others task same] at isHolder
      exact vouches role stored (truthful.known task role slot stored isHolder)
  bare task role slot knowledge isHolder isBare := by
    rw [snapshots]
    by_cases same : task = me
    · subst same
      exact bare role slot knowledge isHolder isBare
    · rw [others task same] at isHolder
      exact truthful.bare task role slot knowledge isHolder isBare
  shown role slot snapshot isPublished isShown := by
    rw [snapshots] at isShown
    rcases truthful.shown role slot snapshot (published role slot isPublished) isShown with
      isVouched | isSaving
    · exact .inl (vouches role snapshot isVouched)
    · exact .inr (isSaving.kept me others (saving role slot))
  fresh := fresh

theorem publish (truthful : scene.Truthful limit) (gated : scene.Gated) {knowledge : Knowledge}
    {stored : Role} (isHolder : scene.stance me = .holding role slot knowledge)
    (isKnown : knowledge = .seen stored ∨ knowledge = .saved stored) :
    (scene.acted me (scene.world.setCache (scene.world.cache.setSnapshot slot (some stored)))
      (.holding role slot (.seen stored)) []).Truthful limit := by
  have isKept : knowledge.isWithdrawn = false := by rcases isKnown with rfl | rfl <;> rfl
  have isVouched : scene.Vouches role stored :=
    truthful.known me role slot stored (by rcases isKnown with rfl | rfl <;> simp [isHolder])
  have others : ∀ task, task ≠ me →
      (scene.acted me (scene.world.setCache (scene.world.cache.setSnapshot slot (some stored)))
        (.holding role slot (.seen stored)) []).stance task = scene.stance task :=
    fun task different => scene.acted_stance_of_ne different _ _ _
  have vouches : ∀ id found, scene.Vouches id found →
      (scene.acted me (scene.world.setCache (scene.world.cache.setSnapshot slot (some stored)))
        (.holding role slot (.seen stored)) []).Vouches id found := by
    intro id found vouched
    refine vouched.kept me (fun isStored => isStored) others ?_
    intro dooms
    rcases isKnown with rfl | rfl <;> simp [isHolder, Stance.Dooms] at dooms
  refine ⟨?_, ?_, ?_, truthful.fresh.congr (fun _ => id) rfl rfl⟩
  · intro task other found read isRead
    by_cases same : task = me
    · subst same
      simp only [acted, Function.update_self, Stance.holding.injEq, Knowledge.seen.injEq,
        reduceCtorEq, and_false, or_false] at isRead
      obtain ⟨rfl, rfl, rfl⟩ := isRead
      exact vouches _ _ isVouched
    · simp only [acted, Function.update_of_ne same] at isRead
      exact vouches _ _ (truthful.known task other found read isRead)
  · intro task other found knows isHolding isBare
    by_cases same : task = me
    · subst same
      simp only [acted, Function.update_self, Stance.holding.injEq] at isHolding
      obtain ⟨_, _, rfl⟩ := isHolding
      simp at isBare
    · simp only [acted, Function.update_of_ne same] at isHolding
      have otherSlot : found ≠ slot := by
        rintro rfl
        exact same (gated.holder_eq_of_slot isHolding isHolder)
      simpa [acted, World.setCache, otherSlot] using truthful.bare task other found knows isHolding isBare
  · intro other found snapshot isPublished isShown
    change scene.world.cache.published other = some found at isPublished
    simp only [acted, World.setCache, Cache.snapshot_setSnapshot] at isShown
    split at isShown
    · rename_i here
      subst here
      obtain rfl := Option.some.inj isShown
      have sameRole := gated.own _ _ _ (gated.published_of_holding isHolder isKept) isPublished
      subst sameRole
      exact .inl (vouches _ _ isVouched)
    · rename_i otherSlot
      rcases truthful.shown other found snapshot isPublished isShown with vouched | isSaving
      · exact .inl (vouches _ _ vouched)
      · refine .inr (isSaving.kept me others ?_)
        intro read isMine
        rw [isHolder] at isMine
        exact absurd (Stance.holding.inj isMine).2.1.symm otherSlot

theorem clear (truthful : scene.Truthful limit) (gated : scene.Gated) {knowledge : Knowledge}
    (isHolder : scene.stance me = .holding role slot knowledge) (isKept : knowledge.isWithdrawn = false) :
    (scene.acted me (scene.world.setCache (scene.world.cache.setSnapshot slot none))
      (.holding role slot .vacant) []).Truthful limit := by
  have others : ∀ task, task ≠ me →
      (scene.acted me (scene.world.setCache (scene.world.cache.setSnapshot slot none))
        (.holding role slot .vacant) []).stance task = scene.stance task :=
    fun task different => scene.acted_stance_of_ne different _ _ _
  have vouches : ∀ id found, id ≠ role → scene.Vouches id found →
      (scene.acted me (scene.world.setCache (scene.world.cache.setSnapshot slot none))
        (.holding role slot .vacant) []).Vouches id found := by
    intro id found otherRole vouched
    refine vouched.kept me (fun isStored => isStored) others ?_
    rintro (isOwing | ⟨other, isStale⟩)
    · simp [isHolder] at isOwing
    · rw [isHolder] at isStale
      exact absurd (Stance.holding.inj isStale).1.symm otherRole
  refine ⟨?_, ?_, ?_, truthful.fresh.congr (fun _ => id) rfl rfl⟩
  · intro task other found read isRead
    by_cases same : task = me
    · subst same
      simp [acted] at isRead
    · simp only [acted, Function.update_of_ne same] at isRead
      refine vouches _ _ ?_ (truthful.known task other found read isRead)
      rintro rfl
      rcases isRead with isSeen | isSaved
      · exact same (gated.holder_eq isSeen rfl isHolder isKept)
      · exact same (gated.holder_eq isSaved rfl isHolder isKept)
  · intro task other found knows isHolding isBare
    simp only [acted, World.setCache, Cache.snapshot_setSnapshot]
    split
    · rfl
    · rename_i otherSlot
      by_cases same : task = me
      · subst same
        simp only [acted, Function.update_self, Stance.holding.injEq] at isHolding
        exact absurd isHolding.2.1.symm otherSlot
      · simp only [acted, Function.update_of_ne same] at isHolding
        exact truthful.bare task other found knows isHolding isBare
  · intro other found snapshot isPublished isShown
    change scene.world.cache.published other = some found at isPublished
    simp only [acted, World.setCache, Cache.snapshot_setSnapshot] at isShown
    split at isShown
    · simp at isShown
    · rename_i otherSlot
      rcases truthful.shown other found snapshot isPublished isShown with vouched | isSaving
      · refine .inl (vouches _ _ ?_ vouched)
        rintro rfl
        rw [gated.published_of_holding isHolder isKept] at isPublished
        exact otherSlot (Option.some.inj isPublished).symm
      · refine .inr (isSaving.kept me others ?_)
        intro read isMine
        rw [isHolder] at isMine
        exact absurd (Stance.holding.inj isMine).2.1.symm otherSlot

/-- The holder saves rules, so that the snapshot is out of date until it publishes the role. -/
theorem save (truthful : scene.Truthful limit) (gated : scene.Gated) {stored : Role} {rules : RuleSet}
    {world : World Store} {written : List Write}
    (isHolder : scene.stance me = .holding role slot (.seen stored))
    (performed : scene.world.perform me (.write role rules) = (.ok (), world)) :
    (scene.acted me world (.holding role slot (.saved (stored.withRules rules))) written).Truthful
      limit := by
  rw [World.perform_write] at performed
  have saved := World.change_ok performed
  obtain ⟨cache, identify, count⟩ := World.change_frame performed
  have isAfter : world.store = (Repository.save scene.world.store role rules).2 := by rw [saved]
  have isPublished := gated.published_of_holding isHolder rfl
  have others : ∀ task, task ≠ me →
      (scene.acted me world (.holding role slot (.saved (stored.withRules rules))) written).stance
        task = scene.stance task := fun task different => scene.acted_stance_of_ne different _ _ _
  have vouches : ∀ id found, id ≠ role → scene.Vouches id found →
      (scene.acted me world (.holding role slot (.saved (stored.withRules rules))) written).Vouches
        id found := by
    intro id found otherRole vouched
    refine vouched.kept me ?_ others ?_
    · intro isStored
      change Repository.find world.store id = _
      rw [isAfter, LawfulRepository.find_save_of_ne rules otherRole]
      exact isStored
    · intro dooms
      simp [isHolder, Stance.Dooms] at dooms
  have mine : (scene.acted me world (.holding role slot (.saved (stored.withRules rules)))
      written).Vouches role (stored.withRules rules) := by
    rcases truthful.known me role slot stored (.inl isHolder) with isStored | doomed
    · exact .inl (LawfulRepository.find_save saved isStored)
    · exact .inr (doomed.kept me others fun dooms => by simp [isHolder, Stance.Dooms] at dooms)
  refine ⟨?_, ?_, ?_, ?_⟩
  · intro task other found read isRead
    by_cases same : task = me
    · subst same
      simp only [acted, Function.update_self, Stance.holding.injEq, Knowledge.saved.injEq,
        reduceCtorEq, and_false, false_or] at isRead
      obtain ⟨rfl, rfl, rfl⟩ := isRead
      exact mine
    · rw [others task same] at isRead
      refine vouches _ _ ?_ (truthful.known task other found read isRead)
      rintro rfl
      rcases isRead with isSeen | isSaved
      · exact same (gated.holder_eq isSeen rfl isHolder rfl)
      · exact same (gated.holder_eq isSaved rfl isHolder rfl)
  · intro task other found knows isHolding isBare
    by_cases same : task = me
    · subst same
      simp only [acted, Function.update_self, Stance.holding.injEq] at isHolding
      obtain ⟨_, _, rfl⟩ := isHolding
      simp at isBare
    · rw [others task same] at isHolding
      change (world.cache.slot found).snapshot = none
      rw [cache]
      exact truthful.bare task other found knows isHolding isBare
  · intro other found snapshot isShownAt isShown
    change world.cache.published other = some found at isShownAt
    change (world.cache.slot found).snapshot = some snapshot at isShown
    rw [cache] at isShownAt isShown
    by_cases sameRole : other = role
    · subst sameRole
      rw [isPublished] at isShownAt
      obtain rfl := Option.some.inj isShownAt
      exact .inr ⟨me, _, by simp only [acted, Function.update_self]; rfl⟩
    · rcases truthful.shown other found snapshot isShownAt isShown with vouched | isSaving
      · exact .inl (vouches _ _ sameRole vouched)
      · refine .inr (isSaving.kept me others ?_)
        intro read isMine
        rw [isHolder] at isMine
        exact absurd (Stance.holding.inj isMine).1.symm sameRole
  · refine truthful.fresh.congr ?_ identify count
    intro id isStored
    change LawfulRepository.stores world.store id at isStored
    rw [isAfter] at isStored
    exact (LawfulRepository.stores_save rules).mp isStored

theorem aim (truthful : scene.Truthful limit) {cache : Cache} {place : Place}
    (opened : scene.world.cache.openSlot role = (slot, cache)) :
    ((scene.setCache cache).setPlace me place).Truthful limit := by
  rcases Cache.openSlot_cases opened with
    ⟨isPublished, rfl⟩ | ⟨isAbsent, rfl, made, published, slots⟩
  · exact ⟨truthful.known, truthful.bare, truthful.shown, truthful.fresh⟩
  · refine ⟨truthful.known, ?_, ?_, truthful.fresh.congr (fun _ => id) rfl rfl⟩
    · intro task other found knows isHolding isBare
      change (cache.slot found).snapshot = none
      rw [slots]
      split
      · rfl
      · exact truthful.bare task other found knows isHolding isBare
    · intro other found snapshot isPublished isShown
      change cache.published other = some found at isPublished
      change (cache.slot found).snapshot = some snapshot at isShown
      rw [slots] at isShown
      split at isShown
      · simp at isShown
      · rename_i isOld
        rw [published] at isPublished
        split at isPublished
        · exact absurd (Option.some.inj isPublished).symm isOld
        · exact truthful.shown other found snapshot isPublished isShown

theorem miss (truthful : scene.Truthful limit) (gated : scene.Gated)
    (isFree : scene.stance me = .idle ∨ scene.stance me = .owing role)
    (isAbsent : scene.world.cache.published role = none) :
    (scene.setStance me .idle).Truthful limit := by
  have others : ∀ task, task ≠ me → (scene.setStance me .idle).stance task = scene.stance task :=
    fun task different => scene.setStance_stance_of_ne different _
  have vouches : ∀ id found, id ≠ role → scene.Vouches id found →
      (scene.setStance me .idle).Vouches id found := by
    intro id found otherRole vouched
    refine vouched.kept me (fun isStored => isStored) others ?_
    intro dooms
    rcases isFree with isIdle | isOwing
    · simp [isIdle, Stance.Dooms] at dooms
    · simp only [isOwing, Stance.Dooms, Stance.owing.injEq, reduceCtorEq, exists_false, or_false]
        at dooms
      exact absurd dooms.symm otherRole
  refine ⟨?_, ?_, ?_, truthful.fresh⟩
  · intro task other found read isRead
    by_cases same : task = me
    · subst same
      simp [setStance] at isRead
    · simp only [setStance, Function.update_of_ne same] at isRead
      refine vouches _ _ ?_ (truthful.known task other found read isRead)
      rintro rfl
      rcases isRead with isSeen | isSaved
      · rw [gated.published_of_holding isSeen rfl] at isAbsent
        simp at isAbsent
      · rw [gated.published_of_holding isSaved rfl] at isAbsent
        simp at isAbsent
  · intro task other found knows isHolding isBare
    by_cases same : task = me
    · subst same
      simp [setStance] at isHolding
    · simp only [setStance, Function.update_of_ne same] at isHolding
      exact truthful.bare task other found knows isHolding isBare
  · intro other found snapshot isPublished isShown
    rcases truthful.shown other found snapshot isPublished isShown with vouched | isSaving
    · refine .inl (vouches _ _ ?_ vouched)
      rintro rfl
      change scene.world.cache.published other = some found at isPublished
      simp [isAbsent] at isPublished
    · refine .inr (isSaving.kept me others ?_)
      intro read isMine
      rcases isFree with is | is <;> simp [is] at isMine

theorem setStance (truthful : scene.Truthful limit) (me : TaskId) (stance : Stance)
    (mine : ∀ role, (scene.stance me).Dooms role → stance.Dooms role)
    (isBlank : ∀ role slot knowledge, stance = .holding role slot knowledge →
      knowledge = .sound ∨ knowledge = .stale)
    (notSaving : ∀ role slot stored, scene.stance me ≠ .holding role slot (.saved stored)) :
    (scene.setStance me stance).Truthful limit := by
  have others : ∀ task, task ≠ me → (scene.setStance me stance).stance task = scene.stance task :=
    fun task different => scene.setStance_stance_of_ne different _
  have moved : (scene.setStance me stance).stance me = stance := by simp [Scene.setStance]
  refine truthful.kept me others (fun _ => rfl) (fun _ _ => id) ?_ ?_ ?_
    (fun role slot stored isSaving => absurd isSaving (notSaving role slot stored)) truthful.fresh
  · intro role stored vouched
    exact vouched.kept me id others fun dooms => by rw [moved]; exact mine role dooms
  · intro role slot stored isRead
    rw [moved] at isRead
    rcases isRead with isSeen | isSaved
    · simpa using isBlank role slot _ isSeen
    · simpa using isBlank role slot _ isSaved
  · intro role slot knowledge isHolder isBare
    rw [moved] at isHolder
    rcases isBlank role slot knowledge isHolder with rfl | rfl <;> simp at isBare

theorem withdraw (truthful : scene.Truthful limit)
    (isHolder : scene.stance me = .holding role slot .vacant) :
    (scene.acted me (scene.world.setCache (scene.world.cache.withdraw role slot))
      (.holding role slot .withdrawn) []).Truthful limit := by
  have others : ∀ task, task ≠ me →
      (scene.acted me (scene.world.setCache (scene.world.cache.withdraw role slot))
        (.holding role slot .withdrawn) []).stance task = scene.stance task :=
    fun task different => scene.acted_stance_of_ne different _ _ _
  refine truthful.kept me others ?_ ?_ ?_ (by simp [acted]) ?_ (by simp [isHolder])
    (truthful.fresh.congr (fun _ => id) rfl rfl)
  · intro other
    change ((scene.world.cache.withdraw role slot).slot other).snapshot = _
    rw [Cache.slot_withdraw]
  · intro other found isPublished
    exact Cache.published_of_withdraw isPublished
  · intro other stored vouched
    exact vouched.kept me id others fun dooms => by simp [isHolder, Stance.Dooms] at dooms
  · intro other found knows isHolding _
    simp only [acted, Function.update_self, Stance.holding.injEq] at isHolding
    obtain ⟨rfl, rfl, rfl⟩ := isHolding
    exact truthful.bare me _ _ _ isHolder (.inl rfl)

theorem acted (truthful : scene.Truthful limit) {world : World Store} {stance : Stance}
    {written : List Write} (sameCache : world.cache = scene.world.cache)
    (vouches : ∀ role stored, scene.Vouches role stored →
      (scene.acted me world stance written).Vouches role stored)
    (sameStance : stance = scene.stance me ∨ (∃ role, stance = .owing role) ∧ scene.stance me = .idle)
    (fresh : world.Fresh limit) : (scene.acted me world stance written).Truthful limit := by
  have moved : (scene.acted me world stance written).stance me = stance := by simp [Scene.acted]
  have held : ∀ role slot knowledge, stance = .holding role slot knowledge →
      scene.stance me = .holding role slot knowledge := by
    intro role slot knowledge isHolder
    rcases sameStance with same | ⟨⟨other, isOwing⟩, _⟩
    · rw [← same, isHolder]
    · simp [isOwing] at isHolder
  refine truthful.kept me (fun task different => scene.acted_stance_of_ne different _ _ _) ?_ ?_
    vouches ?_ ?_ ?_ fresh
  · intro slot
    change (world.cache.slot slot).snapshot = _
    rw [sameCache]
  · intro role slot isShown
    change world.cache.published role = some slot at isShown
    rwa [sameCache] at isShown
  · intro role slot stored isRead
    rw [moved] at isRead
    exact vouches role stored (truthful.known me role slot stored
      (isRead.imp (held role slot _) (held role slot _)))
  · intro role slot knowledge isHolder isBare
    rw [moved] at isHolder
    exact truthful.bare me role slot knowledge (held role slot knowledge isHolder) isBare
  · intro role slot stored isSaving
    rw [moved]
    rcases sameStance with same | ⟨_, isIdle⟩
    · rw [same, isSaving]
    · simp [isIdle] at isSaving

theorem start {world : World Store}
    (isTrue : ∀ role snapshot, world.cache.get role = some snapshot →
      Repository.find world.store role = .ok (some snapshot))
    (fresh : world.Fresh limit) : (Scene.start world).Truthful limit where
  known := by simp [Scene.start]
  bare := by simp [Scene.start]
  shown role slot snapshot isPublished isShown := by
    change world.cache.published role = some slot at isPublished
    refine .inl (.inl (isTrue role snapshot ?_))
    rw [Cache.get, isPublished]
    exact isShown
  fresh := fresh

theorem acted_of_store_eq (truthful : scene.Truthful limit) {world : World Store} {written : List Write}
    (sameCache : world.cache = scene.world.cache) (sameStore : world.store = scene.world.store)
    (sameIdentify : world.identify = scene.world.identify)
    (sameCount : world.created = scene.world.created) :
    (scene.acted me world (scene.stance me) written).Truthful limit := by
  refine truthful.acted sameCache ?_ (.inl rfl)
    (truthful.fresh.congr (fun id => by rw [sameStore]; exact fun isStored => isStored) sameIdentify
      sameCount)
  intro role stored vouched
  refine vouched.kept me ?_ (fun task different => scene.acted_stance_of_ne different _ _ _) ?_
  · intro isStored
    change Repository.find world.store role = _
    rwa [sameStore]
  · intro dooms
    rwa [acted_stance_self]

/-- A role that is created is one that was not stored, so nothing was vouched for under its identifier
unless it is doomed. -/
theorem create (truthful : scene.Truthful limit) {role : NewRole} {created : Role} {world : World Store}
    {written : List Write} (performed : scene.world.perform me (.create role) = (.ok created, world))
    (isBelow : world.created ≤ limit) :
    (scene.acted me world (scene.stance me) written).Truthful limit := by
  obtain ⟨fresh, id, isNew, found, _⟩ := truthful.fresh.create performed isBelow
  refine truthful.acted (World.perform_create_ok performed).2.1 ?_ (.inl rfl) fresh
  intro other stored vouched
  refine vouched.kept me ?_ (fun task different => scene.acted_stance_of_ne different _ _ _) ?_
  · intro isStored
    change Repository.find world.store other = _
    rw [found other, isStored]
    rintro rfl
    exact isNew (LawfulRepository.stores_of_find isStored)
  · intro dooms
    rwa [acted_stance_self]

/-- A task that has deleted a role dooms whatever was vouched for under its identifier. -/
theorem delete (truthful : scene.Truthful limit) {world : World Store} {written : List Write}
    (isIdle : scene.stance me = .idle)
    (performed : scene.world.perform me (.delete role) = (.ok (), world)) :
    (scene.acted me world (.owing role) written).Truthful limit := by
  rw [World.perform_delete] at performed
  have deleted := World.change_ok performed
  obtain ⟨cache, identify, count⟩ := World.change_frame performed
  have isAfter : world.store = (Repository.delete scene.world.store role).2 := by rw [deleted]
  refine truthful.acted cache ?_ (.inr ⟨⟨role, rfl⟩, isIdle⟩) (truthful.fresh.congr ?_ identify count)
  · intro other stored vouched
    by_cases same : other = role
    · subst same
      exact .inr ⟨me, .inl (by simp [Scene.acted])⟩
    · refine vouched.kept me ?_ (fun task different => scene.acted_stance_of_ne different _ _ _) ?_
      · intro isStored
        change Repository.find world.store other = _
        rw [isAfter, LawfulRepository.find_delete_of_ne same, isStored]
      · intro dooms
        simp [isIdle, Stance.Dooms] at dooms
  · intro id isStored
    have different : id ≠ role := by
      rintro rfl
      exact LawfulRepository.not_stores_of_delete deleted isStored
    rw [isAfter] at isStored
    exact (LawfulRepository.stores_delete_of_ne different).mp isStored

/-- No action that is open to a task makes the cache show what is not so. -/
theorem act (truthful : scene.Truthful limit) (gated : scene.Gated) {action : Action}
    {reply : action.Reply} {world : World Store} {stance : Stance} {written : List Write}
    (performed : scene.world.perform me action = (reply, world))
    (step : (scene.stance me).Step action reply stance written) (isBelow : world.created ≤ limit) :
    (scene.acted me world stance written).Truthful limit := by
  generalize isStance : scene.stance me = before at step
  cases step with
  | quiet isQuiet =>
      obtain ⟨store, cache, identify, count⟩ := scene.world.perform_quiet me isQuiet
      rw [performed] at store cache identify count
      rw [← isStance]
      exact truthful.acted_of_store_eq cache store identify count
  | @see role slot stored =>
      have isStored := World.perform_find_ok performed
      obtain ⟨_, rfl⟩ := Prod.mk.inj performed
      refine truthful.kept me (fun task different => scene.acted_stance_of_ne different _ _ _)
        (fun _ => rfl) (fun _ _ => id) ?_ ?_ (by simp) (by simp [isStance])
        (truthful.fresh.congr (fun _ => id) rfl rfl)
      · intro other found vouched
        exact vouched.kept me id (fun task different => scene.acted_stance_of_ne different _ _ _)
          fun dooms => by simp [isStance, Stance.Dooms] at dooms
      · intro other found read isRead
        simp only [acted_stance_self, Stance.holding.injEq, Knowledge.seen.injEq, reduceCtorEq,
          and_false, or_false] at isRead
        obtain ⟨rfl, rfl, rfl⟩ := isRead
        exact .inl isStored
  | publish known =>
      obtain ⟨_, rfl⟩ := Prod.mk.inj performed
      exact truthful.publish gated isStance known
  | @clear role slot knowledge isKept =>
      obtain ⟨_, rfl⟩ := Prod.mk.inj performed
      apply truthful.clear gated isStance
      cases knowledge <;> first | rfl | exact absurd rfl isKept
  | withdraw =>
      obtain ⟨_, rfl⟩ := Prod.mk.inj performed
      exact truthful.withdraw isStance
  | @release role slot knowledge isSettled =>
      obtain ⟨_, rfl⟩ := Prod.mk.inj performed
      refine truthful.kept me (fun task different => scene.acted_stance_of_ne different _ _ _) ?_
        (fun _ _ => id) ?_ (by simp) (by simp) ?_ (truthful.fresh.congr (fun _ => id) rfl rfl)
      · intro other
        change ((scene.world.cache.leave slot me).slot other).snapshot = _
        rw [Cache.snapshot_leave]
      · intro other found vouched
        refine vouched.kept me id (fun task different => scene.acted_stance_of_ne different _ _ _) ?_
        intro dooms
        rcases dooms with isOwing | ⟨_, isStale⟩
        · simp [isStance] at isOwing
        · rw [isStance] at isStale
          obtain ⟨_, _, rfl⟩ := Stance.holding.inj isStale
          simp [Knowledge.isSettled] at isSettled
      · intro other found stored isSaving
        rw [isStance] at isSaving
        obtain ⟨_, _, rfl⟩ := Stance.holding.inj isSaving
        simp [Knowledge.isSettled] at isSettled
  | save => exact truthful.save gated isStance performed
  | saveFailed =>
      have sameStore := World.perform_write_error performed
      rw [World.perform_write] at performed
      obtain ⟨cache, identify, count⟩ := World.change_frame performed
      rw [← isStance]
      exact truthful.acted_of_store_eq cache sameStore identify count
  | create =>
      rw [← isStance]
      exact truthful.create performed isBelow
  | createFailed =>
      obtain ⟨sameStore, cache, identify, count⟩ := World.perform_create_error performed
      rw [← isStance]
      exact truthful.acted_of_store_eq cache sameStore identify count
  | delete => exact truthful.delete isStance performed
  | deleteFailed =>
      have sameStore := World.perform_delete_error performed
      rw [World.perform_delete] at performed
      obtain ⟨cache, identify, count⟩ := World.change_frame performed
      rw [← isStance]
      exact truthful.acted_of_store_eq cache sameStore identify count

/-- What the cache shows stays true whatever the tasks do, as long as the identifiers last. -/
theorem move (truthful : scene.Truthful limit) (gated : scene.Gated) {deed : Option Deed}
    (moved : scene.Move me deed next) (isBelow : next.world.created ≤ limit) : next.Truthful limit := by
  cases moved with
  | rest => exact truthful
  | disturb =>
      exact ⟨truthful.known, truthful.bare, truthful.shown, truthful.fresh.congr (fun _ => id) rfl rfl⟩
  | act isInside performed step => exact truthful.act gated performed step isBelow
  | aim isInside isFree opened => exact truthful.aim opened
  | miss isInside isFree isAbsent => exact truthful.miss gated isFree isAbsent
  | @join _ role slot isAiming =>
      have snapshots := fun other => Cache.snapshot_join scene.world.cache slot other me
      refine ⟨truthful.known, ?_, ?_, truthful.fresh.congr (fun _ => id) rfl rfl⟩
      · intro task other found knows isHolder isBare
        exact (snapshots found).trans (truthful.bare task other found knows isHolder isBare)
      · intro other found snapshot isPublished isShown
        exact truthful.shown other found snapshot isPublished ((snapshots found).symm.trans isShown)
  | @enter _ role slot isQueued isFirst isPublished =>
      obtain ⟨_, _, isFree⟩ := gated.waiting me role slot (.inr isQueued)
      have entered := truthful.setStance me ((scene.stance me).enter role slot)
        (fun other => (gated.enter_dooms isQueued).mpr) (fun other found knowledge isHolder => ?_)
        (fun other found stored isSaving => ?_)
      · exact ⟨entered.known, entered.bare, entered.shown, entered.fresh⟩
      · rcases isFree with is | is <;>
          simp only [is, Stance.enter, Stance.holding.injEq] at isHolder <;> simp [← isHolder.2.2]
      · rcases isFree with is | is <;> simp [is] at isSaving
  | @retry _ role slot isQueued isFirst isWithdrawn =>
      have snapshots := fun other => Cache.snapshot_leave scene.world.cache slot other me
      refine ⟨truthful.known, ?_, ?_, truthful.fresh.congr (fun _ => id) rfl rfl⟩
      · intro task other found knows isHolder isBare
        exact (snapshots found).trans (truthful.bare task other found knows isHolder isBare)
      · intro other found snapshot isPublished isShown
        exact truthful.shown other found snapshot isPublished ((snapshots found).symm.trans isShown)

end Truthful

end Scene

end Rolebook
