import Rolebook.Proofs.Cache.Slots
import Rolebook.Proofs.Task.Perform
import Rolebook.Proofs.Task.Scene

/-!
The gates of the cache. Whoever holds a gate is the first in the queue of its slot, and that slot is the
published one of its role until the holder itself withdraws it. So no two tasks hold the gate of one
role, and a withdrawn slot is never published again.
-/

namespace Rolebook

/-- The gate that a task holds, and whether it has withdrawn the slot. -/
structure Grip where
  role : RoleId
  slot : SlotId
  isWithdrawn : Bool

def Knowledge.isWithdrawn : Knowledge → Bool
  | withdrawn => true
  | _ => false

def Stance.grip? : Stance → Option Grip
  | holding role slot knowledge => some ⟨role, slot, knowledge.isWithdrawn⟩
  | _ => none

theorem Stance.grip_of_eq {stance : Stance} {role : RoleId} {slot : SlotId} {knowledge : Knowledge}
    (isHolder : stance = .holding role slot knowledge) :
    stance.grip? = some ⟨role, slot, knowledge.isWithdrawn⟩ := by
  rw [isHolder]
  rfl

namespace Scene

variable {Store : Type}

structure Gated (scene : Scene Store) : Prop where
  made : ∀ role slot, scene.world.cache.published role = some slot → slot < scene.world.cache.made
  own : ∀ role other slot, scene.world.cache.published role = some slot →
    scene.world.cache.published other = some slot → other = role
  /-- A slot in hand is one that was made for the role. -/
  waiting : ∀ task role slot,
    scene.place task = .aiming role slot ∨ scene.place task = .queued role slot →
      slot < scene.world.cache.made ∧
        (∀ other, scene.world.cache.published other = some slot → other = role) ∧
        (scene.stance task = .idle ∨ scene.stance task = .owing role)
  holder : ∀ task grip, (scene.stance task).grip? = some grip →
    scene.place task = .inside ∧ grip.slot < scene.world.cache.made ∧
      (scene.world.cache.slot grip.slot).queue.head? = some task
  published : ∀ task grip, (scene.stance task).grip? = some grip → grip.isWithdrawn = false →
    scene.world.cache.published grip.role = some grip.slot
  unpublished : ∀ task grip, (scene.stance task).grip? = some grip → grip.isWithdrawn = true →
    ∀ role, scene.world.cache.published role ≠ some grip.slot
  distinct : ∀ slot, (scene.world.cache.slot slot).queue.Nodup
  /-- Whoever is in a queue waits for the gate or holds it. -/
  queued : ∀ slot task, task ∈ (scene.world.cache.slot slot).queue →
    (∃ role, scene.place task = .queued role slot) ∨
      ∃ grip, (scene.stance task).grip? = some grip ∧ grip.slot = slot

namespace Gated

variable {scene : Scene Store}

theorem holder_unique (gated : scene.Gated) {task other : TaskId} {left right : Grip}
    (first : (scene.stance task).grip? = some left) (second : (scene.stance other).grip? = some right)
    (sameSlot : left.slot = right.slot) : task = other := by
  have here := (gated.holder task left first).2.2
  rw [sameSlot, (gated.holder other right second).2.2] at here
  exact (Option.some.inj here).symm

theorem holder_unique_of_role (gated : scene.Gated) {task other : TaskId} {left right : Grip}
    (first : (scene.stance task).grip? = some left) (second : (scene.stance other).grip? = some right)
    (sameRole : left.role = right.role) (leftKept : left.isWithdrawn = false)
    (rightKept : right.isWithdrawn = false) : task = other := by
  refine gated.holder_unique first second ?_
  have here := gated.published task left first leftKept
  rw [sameRole, gated.published other right second rightKept] at here
  exact (Option.some.inj here).symm

theorem holder_eq (gated : scene.Gated) {task other : TaskId} {role : RoleId} {left right : SlotId}
    {knowledge mine : Knowledge} (first : scene.stance task = .holding role left knowledge)
    (leftKept : knowledge.isWithdrawn = false)
    (second : scene.stance other = .holding role right mine) (rightKept : mine.isWithdrawn = false) :
    task = other :=
  gated.holder_unique_of_role (Stance.grip_of_eq first) (Stance.grip_of_eq second) rfl leftKept rightKept

theorem published_of_holding (gated : scene.Gated) {task : TaskId} {role : RoleId} {slot : SlotId}
    {knowledge : Knowledge} (isHolder : scene.stance task = .holding role slot knowledge)
    (isKept : knowledge.isWithdrawn = false) : scene.world.cache.published role = some slot :=
  gated.published task ⟨role, slot, knowledge.isWithdrawn⟩ (by rw [isHolder]; rfl) isKept

theorem shown_or_found [Repository Store] (gated : scene.Gated) {task : TaskId} {role : RoleId} {told : Role}
    {action : Action}
    (tells : (scene.stance task).Tells role told action (scene.world.perform task action).1) :
    scene.world.cache.get role = some told ∨
      (⟨task, action, (scene.world.perform task action).1⟩ : Deed) = ⟨task, .find role, .ok (some told)⟩ := by
  cases action with
  | peek other =>
      cases isShown : scene.world.cache.get other with
      | none => simp [World.perform, isShown, Stance.Tells] at tells
      | some snapshot =>
          simp only [World.perform, isShown, Stance.Tells] at tells
          obtain ⟨rfl, rfl⟩ := tells
          exact .inl isShown
  | current slot =>
      obtain ⟨isHolder, isShown⟩ := Stance.tells_current tells
      apply Or.inl
      simpa [Cache.get, gated.published_of_holding isHolder rfl, World.perform] using isShown
  | find other =>
      cases asked : (scene.world.perform task (.find other)).1 with
      | error error => simp [asked, Stance.Tells] at tells
      | ok found =>
          cases found with
          | none => simp [asked, Stance.Tells] at tells
          | some stored =>
              simp only [asked, Stance.Tells] at tells
              obtain ⟨rfl, rfl⟩ := tells
              exact .inr rfl
  | _ => simp [Stance.Tells] at tells

theorem told [Repository Store] (gated : scene.Gated) {task : TaskId} {role : RoleId} {told : Role}
    {action : Action}
    (tells : (scene.stance task).Tells role told action (scene.world.perform task action).1) :
    scene.world.cache.get role = some told ∨
      Repository.find scene.world.store role = .ok (some told) := by
  refine (gated.shown_or_found tells).imp_right fun isFound => ?_
  cases isAction : action with
  | find other =>
      subst isAction
      obtain ⟨_, isRole, isReply⟩ := Deed.mk.inj isFound
      obtain rfl := Action.find.inj isRole
      exact World.perform_find_ok (Prod.ext (eq_of_heq isReply) rfl)
  | _ => simp [isAction] at isFound

theorem holder_eq_of_slot (gated : scene.Gated) {task other : TaskId} {left right : RoleId}
    {slot : SlotId} {knowledge mine : Knowledge}
    (first : scene.stance task = .holding left slot knowledge)
    (second : scene.stance other = .holding right slot mine) : task = other :=
  gated.holder_unique (Stance.grip_of_eq first) (Stance.grip_of_eq second) rfl

theorem start {world : World Store} (atRest : world.cache.AtRest) : (Scene.start world).Gated where
  made := atRest.made
  own := atRest.own
  waiting := by simp [Scene.start]
  holder := by simp [Scene.start, Stance.grip?]
  published := by simp [Scene.start, Stance.grip?]
  unpublished := by simp [Scene.start, Stance.grip?]
  distinct := by simp [Scene.start, atRest.queue]
  queued := by simp [Scene.start, atRest.queue]

/-- Once no task holds a gate or waits for one, the cache is at rest. -/
theorem atRest (gated : scene.Gated) (isIdle : ∀ task, (scene.stance task).grip? = none)
    (isInside : ∀ task, scene.place task = .inside) : scene.world.cache.AtRest where
  made := gated.made
  own := gated.own
  queue slot := by
    rw [List.eq_nil_iff_forall_not_mem]
    intro task isMember
    rcases gated.queued slot task isMember with ⟨role, isQueued⟩ | ⟨grip, isGrip, _⟩
    · simp [isInside] at isQueued
    · simp [isIdle] at isGrip

/-- Only the published slots, the queues, the grips and the waiting tasks matter. -/
theorem congr (gated : scene.Gated) {next : Scene Store}
    (samePublished : next.world.cache.published = scene.world.cache.published)
    (sameMade : next.world.cache.made = scene.world.cache.made)
    (sameQueue : ∀ slot,
      (next.world.cache.slot slot).queue = (scene.world.cache.slot slot).queue)
    (sameGrip : ∀ task, (next.stance task).grip? = (scene.stance task).grip?)
    (samePlace : next.place = scene.place)
    (sameWaiting : ∀ task, scene.place task ≠ .inside → next.stance task = scene.stance task) :
    next.Gated where
  made := by rw [samePublished, sameMade]; exact gated.made
  own := by rw [samePublished]; exact gated.own
  waiting task role slot isWaiting := by
    rw [samePlace] at isWaiting
    rw [samePublished, sameMade, sameWaiting task (by rcases isWaiting with is | is <;> simp [is])]
    exact gated.waiting task role slot isWaiting
  holder task grip isGrip := by
    rw [sameGrip] at isGrip
    rw [samePlace, sameMade, sameQueue]
    exact gated.holder task grip isGrip
  published task grip isGrip := by
    rw [sameGrip] at isGrip
    rw [samePublished]
    exact gated.published task grip isGrip
  unpublished task grip isGrip := by
    rw [sameGrip] at isGrip
    rw [samePublished]
    exact gated.unpublished task grip isGrip
  distinct slot := by rw [sameQueue]; exact gated.distinct slot
  queued slot task isMember := by
    rw [sameQueue] at isMember
    rw [samePlace, sameGrip]
    exact gated.queued slot task isMember

variable {me : TaskId} {role : RoleId} {slot : SlotId}

theorem withdraw (gated : scene.Gated) {next : Scene Store} (me : TaskId)
    (isHolder : (scene.stance me).grip? = some ⟨role, slot, false⟩)
    (cache : next.world.cache = scene.world.cache.withdraw role slot)
    (samePlace : next.place = scene.place)
    (after : (next.stance me).grip? = some ⟨role, slot, true⟩)
    (others : ∀ task, task ≠ me → next.stance task = scene.stance task) : next.Gated := by
  have isPublished := gated.published me _ isHolder rfl
  obtain ⟨isInside, isMade, isFirst⟩ := gated.holder me _ isHolder
  have published := Cache.published_withdraw _ isPublished
  -- Whatever is published after that was published before, for a role that is not this one.
  have kept : ∀ other found, next.world.cache.published other = some found →
      other ≠ role ∧ scene.world.cache.published other = some found := by
    intro other found located
    rw [cache, published] at located
    split at located
    · simp at located
    · exact ⟨by assumption, located⟩
  have waits : ∀ task, scene.place task ≠ .inside → task ≠ me := by
    intro task isWaiting same
    exact isWaiting (same ▸ isInside)
  refine ⟨?_, ?_, ?_, ?_, ?_, ?_, ?_, ?_⟩
  · intro other found located
    rw [cache, Cache.made_withdraw]
    exact gated.made other found (kept other found located).2
  · intro first second found left right
    exact gated.own first second found (kept _ _ left).2 (kept _ _ right).2
  · intro task aimed found isWaiting
    rw [samePlace] at isWaiting
    obtain ⟨bounded, owned, stance⟩ := gated.waiting task aimed found isWaiting
    rw [cache, Cache.made_withdraw, others task (waits task (by rcases isWaiting with is | is <;>
      simp [is]))]
    exact ⟨bounded, fun other located => owned other (kept other found (cache ▸ located)).2, stance⟩
  · intro task grip isGrip
    rw [samePlace, cache, Cache.made_withdraw, Cache.slot_withdraw]
    by_cases same : task = me
    · subst same
      rw [after] at isGrip
      obtain rfl := Option.some.inj isGrip
      exact ⟨isInside, isMade, isFirst⟩
    · rw [others task same] at isGrip
      exact gated.holder task grip isGrip
  · intro task grip isGrip isKept
    have different : task ≠ me := by
      rintro rfl
      rw [after] at isGrip
      obtain rfl := Option.some.inj isGrip
      simp at isKept
    rw [others task different] at isGrip
    have located := gated.published task grip isGrip isKept
    rw [cache, published, if_neg, located]
    intro sameRole
    exact different (gated.holder_unique_of_role isGrip isHolder sameRole isKept rfl)
  · intro task grip isGrip isGone other located
    obtain ⟨differentRole, before⟩ := kept other _ located
    by_cases same : task = me
    · subst same
      rw [after] at isGrip
      obtain rfl := Option.some.inj isGrip
      exact differentRole (gated.own role other slot isPublished before)
    · rw [others task same] at isGrip
      exact gated.unpublished task grip isGrip isGone other before
  · intro found
    rw [cache, Cache.slot_withdraw]
    exact gated.distinct found
  · intro found task isMember
    rw [cache, Cache.slot_withdraw] at isMember
    rw [samePlace]
    rcases gated.queued found task isMember with isQueued | ⟨grip, isGrip, isFound⟩
    · exact .inl isQueued
    · by_cases same : task = me
      · subst same
        rw [isHolder] at isGrip
        obtain rfl := Option.some.inj isGrip
        exact .inr ⟨_, after, isFound⟩
      · exact .inr ⟨grip, by rw [others task same]; exact isGrip, isFound⟩

theorem leave (gated : scene.Gated) {next : Scene Store}
    (isFirst : (scene.world.cache.slot slot).queue.head? = some me)
    (onlyHere : ∀ grip, (scene.stance me).grip? = some grip → grip.slot = slot)
    (noOtherPlace : ∀ role other, scene.place me = .queued role other → other = slot)
    (cache : next.world.cache = scene.world.cache.leave slot me)
    (place : next.place = Function.update scene.place me .inside)
    (after : (next.stance me).grip? = none)
    (others : ∀ task, task ≠ me → next.stance task = scene.stance task) : next.Gated := by
  have gripping : ∀ task grip, (next.stance task).grip? = some grip →
      task ≠ me ∧ (scene.stance task).grip? = some grip := by
    intro task grip isGrip
    by_cases same : task = me
    · subst same
      simp [after] at isGrip
    · exact ⟨same, by rw [← others task same]; exact isGrip⟩
  refine ⟨?_, ?_, ?_, ?_, ?_, ?_, ?_, ?_⟩
  · rw [cache]
    exact gated.made
  · rw [cache]
    exact gated.own
  · intro task aimed found isWaiting
    have different : task ≠ me := by
      rintro rfl
      simp [place] at isWaiting
    rw [place, Function.update_of_ne different] at isWaiting
    rw [cache, others task different]
    exact gated.waiting task aimed found isWaiting
  · intro task grip isGrip
    obtain ⟨different, wasGrip⟩ := gripping task grip isGrip
    obtain ⟨isInside, isMade, isHead⟩ := gated.holder task grip wasGrip
    have otherSlot : grip.slot ≠ slot := by
      intro same
      rw [same, isFirst] at isHead
      exact different (Option.some.inj isHead).symm
    rw [place, Function.update_of_ne different, cache, Cache.queue_leave, if_neg otherSlot]
    exact ⟨isInside, isMade, isHead⟩
  · intro task grip isGrip
    rw [cache]
    exact gated.published task grip (gripping task grip isGrip).2
  · intro task grip isGrip
    rw [cache]
    exact gated.unpublished task grip (gripping task grip isGrip).2
  · intro found
    rw [cache, Cache.queue_leave]
    split
    · exact (gated.distinct found).erase me
    · exact gated.distinct found
  · intro found task isMember
    rw [cache, Cache.queue_leave] at isMember
    have wasMember : task ∈ (scene.world.cache.slot found).queue := by
      split at isMember
      · exact List.mem_of_mem_erase isMember
      · exact isMember
    have different : task ≠ me := by
      rintro rfl
      have here : found = slot := by
        rcases gated.queued found task wasMember with ⟨role, isQueued⟩ | ⟨grip, isGrip, isFound⟩
        · exact noOtherPlace role found isQueued
        · rw [← isFound]
          exact onlyHere grip isGrip
      rw [if_pos here] at isMember
      exact (gated.distinct found).not_mem_erase isMember
    rw [place, Function.update_of_ne different, others task different]
    exact gated.queued found task wasMember

theorem openSlot (gated : scene.Gated) {cache : Cache}
    (opened : scene.world.cache.openSlot role = (slot, cache)) :
    (scene.setCache cache).Gated ∧ cache.published role = some slot := by
  rcases Cache.openSlot_cases opened with
    ⟨isPublished, rfl⟩ | ⟨isAbsent, rfl, made, published, slots⟩
  · exact ⟨gated, isPublished⟩
  -- The fresh slot has a number that no slot has had before.
  have fresh : ∀ other found, found < scene.world.cache.made → cache.published other = some found →
      scene.world.cache.published other = some found := by
    intro other found isOld located
    rw [published] at located
    split at located
    · exact absurd (Option.some.inj located) (Nat.ne_of_gt isOld)
    · exact located
  have old : ∀ found, found < scene.world.cache.made → cache.slot found = scene.world.cache.slot found := by
    intro found isOld
    rw [slots, if_neg (Nat.ne_of_lt isOld)]
  refine ⟨⟨?_, ?_, ?_, ?_, ?_, ?_, ?_, ?_⟩, by simp [published]⟩
  · intro other found located
    change cache.published other = some found at located
    change found < cache.made
    rw [published] at located
    rw [made]
    split at located
    · obtain rfl := Option.some.inj located
      exact Nat.lt_succ_self _
    · exact Nat.lt_succ_of_lt (gated.made other found located)
  · intro first second found left right
    change cache.published first = some found at left
    change cache.published second = some found at right
    rw [published] at left right
    split at left <;> split at right
    · simp_all
    · obtain rfl := Option.some.inj left
      exact absurd (gated.made second _ right) (Nat.lt_irrefl _)
    · obtain rfl := Option.some.inj right
      exact absurd (gated.made first _ left) (Nat.lt_irrefl _)
    · exact gated.own first second found left right
  · intro task aimed found isWaiting
    obtain ⟨bounded, owned, stance⟩ := gated.waiting task aimed found isWaiting
    refine ⟨?_, fun other located => owned other (fresh other found bounded located), stance⟩
    change found < cache.made
    rw [made]
    exact Nat.lt_succ_of_lt bounded
  · intro task grip isGrip
    obtain ⟨isInside, isMade, isHead⟩ := gated.holder task grip isGrip
    refine ⟨isInside, ?_, ?_⟩
    · change grip.slot < cache.made
      rw [made]
      exact Nat.lt_succ_of_lt isMade
    · change (cache.slot grip.slot).queue.head? = some task
      rw [old grip.slot isMade]
      exact isHead
  · intro task grip isGrip isKept
    have located := gated.published task grip isGrip isKept
    change cache.published grip.role = some grip.slot
    rw [published, if_neg, located]
    intro sameRole
    rw [sameRole, isAbsent] at located
    simp at located
  · intro task grip isGrip isGone other located
    exact gated.unpublished task grip isGrip isGone other
      (fresh other grip.slot (gated.holder task grip isGrip).2.1 located)
  · intro found
    change (cache.slot found).queue.Nodup
    rw [slots]
    split
    · simp
    · exact gated.distinct found
  · intro found task isMember
    change task ∈ (cache.slot found).queue at isMember
    rw [slots] at isMember
    split at isMember
    · simp at isMember
    · exact gated.queued found task isMember

theorem aim (gated : scene.Gated) (isInside : scene.place me = .inside)
    (isFree : scene.stance me = .idle ∨ scene.stance me = .owing role)
    (isPublished : scene.world.cache.published role = some slot) :
    (scene.setPlace me (.aiming role slot)).Gated := by
  refine ⟨gated.made, gated.own, ?_, ?_, gated.published, gated.unpublished, gated.distinct, ?_⟩
  · intro task aimed found isWaiting
    by_cases same : task = me
    · subst same
      simp only [setPlace, Function.update_self, Place.aiming.injEq, reduceCtorEq, or_false]
        at isWaiting
      obtain ⟨rfl, rfl⟩ := isWaiting
      exact ⟨gated.made _ _ isPublished, fun other => gated.own _ other _ isPublished, isFree⟩
    · simp only [setPlace, Function.update_of_ne same] at isWaiting
      exact gated.waiting task aimed found isWaiting
  · intro task grip isGrip
    have different : task ≠ me := by
      rintro rfl
      rcases isFree with is | is <;> simp [setPlace, is, Stance.grip?] at isGrip
    simp only [setPlace, Function.update_of_ne different]
    exact gated.holder task grip isGrip
  · intro found task isMember
    rcases gated.queued found task isMember with ⟨aimed, isQueued⟩ | held
    · have different : task ≠ me := by
        rintro rfl
        simp [isInside] at isQueued
      exact .inl ⟨aimed, by simp [setPlace, Function.update_of_ne different, isQueued]⟩
    · exact .inr held

theorem join (gated : scene.Gated) (isAiming : scene.place me = .aiming role slot) :
    ((scene.setCache (scene.world.cache.join slot me)).setPlace me (.queued role slot)).Gated := by
  obtain ⟨bounded, owned, isFree⟩ := gated.waiting me role slot (.inl isAiming)
  have noGrip : (scene.stance me).grip? = none := by
    rcases isFree with is | is <;> simp [is, Stance.grip?]
  have absent : me ∉ (scene.world.cache.slot slot).queue := by
    intro isMember
    rcases gated.queued slot me isMember with ⟨other, isQueued⟩ | ⟨grip, isGrip, _⟩
    · simp [isAiming] at isQueued
    · simp [noGrip] at isGrip
  refine ⟨gated.made, gated.own, ?_, ?_, gated.published, gated.unpublished, ?_, ?_⟩
  · intro task aimed found isWaiting
    by_cases same : task = me
    · subst same
      simp only [setPlace, Function.update_self, Place.queued.injEq, reduceCtorEq, false_or]
        at isWaiting
      obtain ⟨rfl, rfl⟩ := isWaiting
      exact ⟨bounded, owned, isFree⟩
    · simp only [setPlace, Function.update_of_ne same] at isWaiting
      exact gated.waiting task aimed found isWaiting
  · intro task grip isGrip
    obtain ⟨isInside, isMade, isHead⟩ := gated.holder task grip isGrip
    have different : task ≠ me := by
      rintro rfl
      simp [isAiming] at isInside
    refine ⟨by simpa [setPlace, setCache, Function.update_of_ne different] using isInside, isMade, ?_⟩
    change ((scene.world.cache.join slot me).slot grip.slot).queue.head? = some task
    rw [Cache.queue_join]
    split
    · rw [List.head?_append, isHead]
      rfl
    · exact isHead
  · intro found
    change ((scene.world.cache.join slot me).slot found).queue.Nodup
    rw [Cache.queue_join]
    split
    · rename_i same
      rw [same]
      refine List.nodup_append.mpr ⟨gated.distinct slot, by simp, ?_⟩
      intro task isMember other isMe equal
      rw [List.mem_singleton.mp isMe] at equal
      exact absent (equal ▸ isMember)
    · exact gated.distinct found
  · intro found task isMember
    change task ∈ ((scene.world.cache.join slot me).slot found).queue at isMember
    by_cases same : task = me
    · subst same
      refine .inl ⟨role, ?_⟩
      have here : found = slot := by
        by_contra elsewhere
        rw [Cache.queue_join, if_neg elsewhere] at isMember
        rcases gated.queued found task isMember with ⟨other, isQueued⟩ | ⟨grip, isGrip, _⟩
        · simp [isAiming] at isQueued
        · simp [noGrip] at isGrip
      simp [setPlace, here]
    · have wasMember : task ∈ (scene.world.cache.slot found).queue := by
        rw [Cache.queue_join] at isMember
        split at isMember
        · simpa [same] using isMember
        · exact isMember
      simpa [setPlace, setCache, Function.update_of_ne same] using gated.queued found task wasMember

theorem enter (gated : scene.Gated) (isQueued : scene.place me = .queued role slot)
    (isFirst : scene.world.cache.holds slot me = true)
    (isPublished : scene.world.cache.published role = some slot) :
    ((scene.setStance me ((scene.stance me).enter role slot)).setPlace me .inside).Gated := by
  obtain ⟨bounded, owned, isFree⟩ := gated.waiting me role slot (.inr isQueued)
  have grip : ((scene.stance me).enter role slot).grip? = some ⟨role, slot, false⟩ := by
    rcases isFree with is | is <;> simp [is, Stance.enter, Stance.grip?, Knowledge.isWithdrawn]
  -- The grips of the others are what they were, and this task's is on its slot.
  have gripping : ∀ task held,
      (Function.update scene.stance me ((scene.stance me).enter role slot) task).grip? = some held →
        task = me ∧ held = ⟨role, slot, false⟩ ∨ task ≠ me ∧ (scene.stance task).grip? = some held := by
    intro task held isGrip
    by_cases same : task = me
    · subst same
      rw [Function.update_self, grip] at isGrip
      exact .inl ⟨rfl, (Option.some.inj isGrip).symm⟩
    · rw [Function.update_of_ne same] at isGrip
      exact .inr ⟨same, isGrip⟩
  refine ⟨gated.made, gated.own, ?_, ?_, ?_, ?_, gated.distinct, ?_⟩
  · intro task aimed found isWaiting
    have different : task ≠ me := by
      rintro rfl
      simp [setPlace] at isWaiting
    simp only [setPlace, Function.update_of_ne different] at isWaiting
    simp only [setPlace, setStance, Function.update_of_ne different]
    exact gated.waiting task aimed found isWaiting
  · intro task held isGrip
    rcases gripping task held isGrip with ⟨rfl, rfl⟩ | ⟨different, wasGrip⟩
    · exact ⟨by simp [setPlace], bounded, (Cache.holds_iff _).mp isFirst⟩
    · simp only [setPlace, Function.update_of_ne different]
      exact gated.holder task held wasGrip
  · intro task held isGrip isKept
    rcases gripping task held isGrip with ⟨rfl, rfl⟩ | ⟨different, wasGrip⟩
    · exact isPublished
    · exact gated.published task held wasGrip isKept
  · intro task held isGrip isGone
    rcases gripping task held isGrip with ⟨rfl, rfl⟩ | ⟨different, wasGrip⟩
    · simp at isGone
    · exact gated.unpublished task held wasGrip isGone
  · intro found task isMember
    by_cases same : task = me
    · subst same
      refine .inr ⟨_, by simpa [setPlace, setStance] using grip, ?_⟩
      rcases gated.queued found task isMember with ⟨other, isThere⟩ | ⟨held, isGrip, _⟩
      · rw [isQueued] at isThere
        exact (Place.queued.inj isThere).2
      · rcases isFree with is | is <;> simp [is, Stance.grip?] at isGrip
    · simpa [setPlace, setStance, Function.update_of_ne same] using gated.queued found task isMember

theorem acted (gated : scene.Gated) {world : World Store} {stance : Stance} {written : List Write}
    (isInside : scene.place me = .inside)
    (samePublished : world.cache.published = scene.world.cache.published)
    (sameMade : world.cache.made = scene.world.cache.made)
    (sameQueue : ∀ slot, (world.cache.slot slot).queue = (scene.world.cache.slot slot).queue)
    (sameGrip : stance.grip? = (scene.stance me).grip?) :
    (scene.acted me world stance written).Gated := by
  refine gated.congr samePublished sameMade sameQueue ?_ rfl ?_
  · intro task
    by_cases same : task = me
    · subst same
      simpa [Scene.acted] using sameGrip
    · simp [Scene.acted, Function.update_of_ne same]
  · intro task isWaiting
    have different : task ≠ me := fun same => isWaiting (same ▸ isInside)
    simp [Scene.acted, Function.update_of_ne different]

theorem acted_of_cache_eq (gated : scene.Gated) {world : World Store} {stance : Stance}
    {written : List Write} (isInside : scene.place me = .inside)
    (sameCache : world.cache = scene.world.cache)
    (sameGrip : stance.grip? = (scene.stance me).grip?) :
    (scene.acted me world stance written).Gated :=
  gated.acted isInside (by rw [sameCache]) (by rw [sameCache]) (fun _ => by rw [sameCache]) sameGrip

section Moves

variable [Repository Store] [LawfulRepository Store]

/-- No action that is open to a task upsets the gates. -/
theorem act (gated : scene.Gated) {action : Action} {reply : action.Reply} {world : World Store}
    {stance : Stance} {written : List Write} (isInside : scene.place me = .inside)
    (performed : scene.world.perform me action = (reply, world))
    (step : (scene.stance me).Step action reply stance written) :
    (scene.acted me world stance written).Gated := by
  generalize isStance : scene.stance me = before at step
  cases step with
  | quiet isQuiet =>
      have same := (scene.world.perform_quiet me isQuiet).2.1
      rw [performed] at same
      exact gated.acted_of_cache_eq isInside same (by rw [isStance])
  | see =>
      obtain ⟨_, rfl⟩ := Prod.mk.inj performed
      exact gated.acted_of_cache_eq isInside rfl (by rw [isStance]; rfl)
  | publish known =>
      obtain ⟨_, rfl⟩ := Prod.mk.inj performed
      refine gated.acted isInside rfl rfl (by simp) ?_
      rw [isStance]
      rcases known with rfl | rfl <;> rfl
  | @clear role slot knowledge isKept =>
      obtain ⟨_, rfl⟩ := Prod.mk.inj performed
      refine gated.acted isInside rfl rfl (by simp) ?_
      rw [isStance]
      cases knowledge <;> first | rfl | exact absurd rfl isKept
  | withdraw =>
      obtain ⟨_, rfl⟩ := Prod.mk.inj performed
      refine gated.withdraw me (by rw [isStance]; rfl) rfl rfl ?_ ?_
      · simp [Scene.acted, Stance.grip?, Knowledge.isWithdrawn]
      · intro task different
        simp [Scene.acted, Function.update_of_ne different]
  | @release role slot knowledge isSettled =>
      obtain ⟨_, rfl⟩ := Prod.mk.inj performed
      have isGrip : (scene.stance me).grip? = some ⟨role, slot, knowledge.isWithdrawn⟩ := by
        rw [isStance]
        rfl
      refine gated.leave (gated.holder me _ isGrip).2.2 ?_ ?_ rfl ?_ ?_ ?_
      · intro grip isOther
        rw [isGrip] at isOther
        rw [← Option.some.inj isOther]
      · intro _ _ isQueued
        simp [isInside] at isQueued
      · simp [Scene.acted, ← isInside]
      · simp [Scene.acted, Stance.grip?]
      · intro task different
        simp [Scene.acted, Function.update_of_ne different]
  | save =>
      exact gated.acted_of_cache_eq isInside
        (World.change_frame ((World.perform_write _ _ _ _).symm.trans performed)).1
        (by rw [isStance]; rfl)
  | saveFailed =>
      exact gated.acted_of_cache_eq isInside
        (World.change_frame ((World.perform_write _ _ _ _).symm.trans performed)).1
        (by rw [isStance])
  | create =>
      exact gated.acted_of_cache_eq isInside (World.perform_create_ok performed).2.1 (by rw [isStance])
  | createFailed =>
      exact gated.acted_of_cache_eq isInside (World.perform_create_error performed).2.1
        (by rw [isStance])
  | delete =>
      exact gated.acted_of_cache_eq isInside
        (World.change_frame ((World.perform_delete _ _ _).symm.trans performed)).1
        (by rw [isStance]; rfl)
  | deleteFailed =>
      exact gated.acted_of_cache_eq isInside
        (World.change_frame ((World.perform_delete _ _ _).symm.trans performed)).1
        (by rw [isStance])

/-- The gates stay in order whatever the tasks do. -/
theorem move (gated : scene.Gated) {deed : Option Deed} {next : Scene Store}
    (moved : scene.Move me deed next) : next.Gated := by
  cases moved with
  | rest => exact gated
  | disturb => exact gated.congr rfl rfl (fun _ => rfl) (fun _ => rfl) rfl (fun _ _ => rfl)
  | act isInside performed step => exact gated.act isInside performed step
  | aim isInside isFree opened =>
      obtain ⟨stillGated, isPublished⟩ := gated.openSlot opened
      exact stillGated.aim isInside isFree isPublished
  | miss isInside isFree isAbsent =>
      refine gated.congr rfl rfl (fun _ => rfl) ?_ rfl ?_
      · intro task
        by_cases same : task = me
        · subst same
          rcases isFree with is | is <;> simp [setStance, is, Stance.grip?]
        · simp [setStance, Function.update_of_ne same]
      · intro task isWaiting
        have different : task ≠ me := fun same => isWaiting (same ▸ isInside)
        simp [setStance, Function.update_of_ne different]
  | join isAiming => exact gated.join isAiming
  | enter isQueued isFirst isPublished => exact gated.enter isQueued isFirst isPublished
  | @retry _ role slot isQueued isFirst isWithdrawn =>
      obtain ⟨_, _, isFree⟩ := gated.waiting me role slot (.inr isQueued)
      have noGrip : (scene.stance me).grip? = none := by
        rcases isFree with is | is <;> simp [is, Stance.grip?]
      refine gated.leave ((Cache.holds_iff _).mp isFirst) (by simp [noGrip])
        ?_ rfl rfl noGrip fun _ _ => rfl
      intro other found isThere
      rw [isQueued] at isThere
      exact (Place.queued.inj isThere).2.symm

end Moves

end Gated

end Scene

end Rolebook
