import Rolebook.Proofs.Cache.Progress
import Rolebook.Proofs.Cache.Removal

/-!
Deletion. Once a call that deletes a role has answered that it did, the role is never granted again,
whatever was under way at that moment.
-/

namespace Rolebook

/-- Replies that do not tell of the role, and look-ups of the role that fail for one of the causes. -/
def expectsNothingOf (role : RoleId) (causes : ServiceError → Prop) (stance : Stance) (_ : List Write)
    (action : Action) (reply : action.Reply) : Prop :=
  (∀ told, ¬ stance.Tells role told action reply) ∧ match action, reply with
    | .find other, .error cause => other = role → causes cause
    | _, _ => True

def Outcome.Refuses (role : RoleId) (causes : ServiceError → Prop) : Outcome → Prop
  | ⟨.resolve other, answer⟩ =>
      other = role → ∃ error, answer = .error error ∧ error.IsUnresolved role causes
  | ⟨.authorize session _ _, answer⟩ =>
      session.isEmpty = false → session.role = role →
        ∃ error, answer = .error error ∧ error.IsUnresolved role causes
  | ⟨.isAllowed session _ _, allowed⟩ =>
      session.isEmpty = false → session.role = role → allowed = false
  | ⟨.require session _ _, answer⟩ | ⟨.createRole session _, answer⟩ | ⟨.deleteRole session _, answer⟩
  | ⟨.updateRules session _ _, answer⟩ | ⟨.listRoles session, answer⟩
  | ⟨.findRole session _, answer⟩ =>
      session.isEmpty = false → session.role = role → ∃ error, answer = .error error
  | ⟨.invalidate _, _⟩ | ⟨.apply _ _, _⟩ => True

variable {Store : Type} [Repository Store] [LawfulRepository Store]

theorem Scene.Gone.get {scene : Scene Store} {limit : Nat} {role : RoleId}
    (gone : scene.Gone limit role) : scene.world.cache.get role = none := by
  cases isPublished : scene.world.cache.published role with
  | none => simp [Cache.get, isPublished]
  | some slot => simpa [Cache.get, isPublished] using gone.hidden slot isPublished

def FailsIn (log : List Deed) (role : RoleId) (cause : ServiceError) : Prop :=
  ∃ reader, ⟨reader, .find role, .error cause⟩ ∈ log

theorem Scene.Gone.expects {scene : Scene Store} {limit : Nat} {role : RoleId} {log : List Deed}
    (gone : scene.Gone limit role) (gated : scene.Gated) {task : TaskId} {action : Action}
    (isKnown : ⟨task, action, (scene.world.perform task action).1⟩ ∈ log) :
    expectsNothingOf role (FailsIn log role) (scene.stance task) (scene.writes task) action
      (scene.world.perform task action).1 := by
  constructor
  · intro told tells
    rcases gated.told tells with isShown | isStored
    · simp [gone.get] at isShown
    · exact gone.lacks.1 (LawfulRepository.stores_of_find isStored)
  · generalize (scene.world.perform task action).1 = reply at isKnown
    split
    · rintro rfl
      exact ⟨task, isKnown⟩
    · trivial

section Refusal

variable {role : RoleId} {causes : ServiceError → Prop} {terms : Terms}
  (expects : terms.expects = expectsNothingOf role causes)

include expects

theorem not_offers (snapshot : Role) : ¬ terms.Offers [] role snapshot := by
  rintro ⟨stance, action, reply, expected, tells⟩
  rw [expects] at expected
  exact expected.1 snapshot tells

theorem unresolved_of_fails {error : AccessError}
    (isUnresolved : error.IsUnresolved role (terms.Fails [] role)) : error.IsUnresolved role causes := by
  apply isUnresolved.imp_right
  rintro ⟨cause, ⟨slot, expected⟩, isStorage⟩
  rw [expects] at expected
  exact ⟨cause, expected.2 rfl, isStorage⟩

theorem not_admits {settings : Settings} {session : Session} {scope : Scope} {required : Level}
    (isKnown : session.isEmpty = false) (isRole : session.role = role) :
    ¬ terms.Admits settings.policy session scope required [] := by
  rintro ⟨decision, granted, _⟩
  simp only [Terms.Grants, isKnown, Bool.false_eq_true, if_false] at granted
  obtain ⟨snapshot, offered, _⟩ := granted
  rw [isRole] at offered
  exact not_offers expects snapshot offered

/-- Where no reply tells of a role, nothing is granted on account of it. -/
theorem refuses_of_rests {settings : Settings} {outcome : Outcome} {writes : List Write}
    (rests : outcome.call.Rests terms settings outcome.answer writes) :
    outcome.Refuses role causes := by
  obtain ⟨call, answer⟩ := outcome
  cases call with
  | resolve other =>
      rintro rfl
      cases answer with
      | ok snapshot => exact absurd rests.1 (not_offers expects snapshot)
      | error error => exact ⟨error, rfl, unresolved_of_fails expects rests.1⟩
  | authorize session scope required =>
      intro isKnown isRole
      cases answer with
      | ok decision =>
          have granted := rests.1
          simp only [Terms.Grants, isKnown, Bool.false_eq_true, if_false] at granted
          obtain ⟨snapshot, offered, _⟩ := granted
          rw [isRole] at offered
          exact absurd offered (not_offers expects snapshot)
      | error error =>
          refine ⟨error, rfl, unresolved_of_fails expects ?_⟩
          rw [← isRole]
          exact rests.2.1
  | isAllowed session scope required =>
      intro isKnown isRole
      by_contra isAllowed
      exact not_admits expects isKnown isRole (rests.1 (by simpa using isAllowed))
  | require session _ _ | createRole session _ | deleteRole session _ | updateRules session _ _
  | listRoles session | findRole session _ =>
      intro isKnown isRole
      cases answer with
      | ok _ => exact absurd rests.1 (not_admits expects isKnown isRole)
      | error error => exact ⟨error, rfl⟩
  | invalidate _ | apply _ _ => trivial

end Refusal

namespace Machine

variable {settings : Settings} {earlier later : List Call} {machine after : Machine Store Outcome}
  {log since : List Deed}

/-- Once a call has answered that it deleted a role, the role is gone. -/
theorem Run.gone {world : World Store} (settled : world.Settled) {limit : Nat}
    (run : (load world (earlier.map (Call.program settings))).Run log machine)
    (isBelow : machine.world.created ≤ limit) (fresh : world.Fresh limit) {task : TaskId}
    {session : Session} {role : RoleId}
    (isDeleted : machine.tasks[task]? = some (.finished ⟨.deleteRole session role, .ok ()⟩)) :
    ∃ scene : Scene Store, scene.Gated ∧ scene.Gone limit role ∧
      machine.Plays (Terms.ofCalls Terms.free.expects earlier)
        (Call.Fits settings earlier (Terms.ofCalls Terms.free.expects earlier)) scene := by
  have begins : (load world (earlier.map (Call.program settings))).Plays
      (Terms.ofCalls Terms.free.expects earlier)
      (Call.Fits settings earlier (Terms.ofCalls Terms.free.expects earlier)) (Scene.start world) :=
    .load Call.fits
  have isHeld : (Scene.start world).Sound limit [] ∧ (Scene.start world).Removing limit :=
    ⟨.start settled fresh, by simp [Scene.Removing, Scene.start]⟩
  obtain ⟨scene, plays, sound, removing⟩ := run.plays (List.Subset.refl _) isBelow
    (fun log scene => scene.Sound limit log ∧ scene.Removing limit) begins isHeld
    (fun _ _ _ _ _ _ => trivial) fun _ _ _ _ _ held moved _ isLow =>
      ⟨held.1.move moved isLow, held.2.move held.1.gated held.1.truthful.fresh moved isLow⟩
  have ended := plays.tasks task _ isDeleted
  have wrote : scene.writes task = [.deleted role] := ended.2.2.2
  refine ⟨scene, sound.gated, ?_, plays⟩
  rcases removing task role (by simp [wrote]) with ⟨_, dooms⟩ | gone
  · simp [ended.1, Stance.Dooms] at dooms
  · exact gone

/-- Once a call has answered that it deleted a role, readers never see the role again, and every call that
begins after that and asks for the role, or is for a session with that role, comes to an end and is
refused, whatever calls were under way at that moment. It is told that the role is missing, or why a
look-up of the role failed. -/
theorem refuses_after_delete {world : World Store} (settled : world.Settled)
    (run : (load world (earlier.map (Call.program settings))).Run log machine) {task : TaskId}
    {session : Session} {role : RoleId}
    (isDeleted : machine.tasks[task]? = some (.finished ⟨.deleteRole session role, .ok ()⟩))
    (continued : (machine.spawnAll (later.map (Call.program settings))).Run since after)
    (fresh : world.Fresh after.world.created) :
    after.world.cache.get role = none ∧
      (∀ (place : Nat) (outcome : Outcome),
        after.tasks[machine.tasks.length + place]? = some (.finished outcome) →
          outcome.Refuses role (FailsIn since role)) ∧
      after.Ends := by
  have isBelow : machine.world.created ≤ after.world.created := continued.created_le
  obtain ⟨scene, gated, gone, plays⟩ := run.gone settled isBelow fresh isDeleted
  -- The earlier calls go on under terms that allow every reply, the later ones under terms on which no
  -- reply tells of the role.
  have begins : (machine.spawnAll (later.map (Call.program settings))).Plays
      (beyond machine.tasks.length (Terms.ofCalls Terms.free.expects earlier)
        (Terms.ofCalls (expectsNothingOf role (FailsIn since role)) later))
      (beyond machine.tasks.length
        (Call.Fits settings earlier (Terms.ofCalls Terms.free.expects earlier))
        (Call.Fits settings later
          (Terms.ofCalls (expectsNothingOf role (FailsIn since role)) later))) scene :=
    plays.extend Call.fits
  have expects : ∀ (scene : Scene Store) task action, scene.Gated →
      scene.Gone after.world.created role →
        ⟨task, action, (scene.world.perform task action).1⟩ ∈ since →
          (beyond machine.tasks.length (Terms.ofCalls Terms.free.expects earlier)
            (Terms.ofCalls (expectsNothingOf role (FailsIn since role)) later) task).expects
            (scene.stance task) (scene.writes task) action (scene.world.perform task action).1 := by
    intro scene task action gated gone isReply
    unfold beyond
    split
    · trivial
    · exact gone.expects gated isReply
  obtain ⟨last, stillPlays, stillGated, stillGone⟩ := continued.plays (List.Subset.refl _)
    (Nat.le_refl _)
    (fun _ scene => scene.Gated ∧ scene.Gone after.world.created role) begins ⟨gated, gone⟩
    (fun _ scene task action held => expects scene task action held.1 held.2)
    fun _ _ _ _ _ held moved _ isLow => ⟨held.1.move moved, held.2.move held.1 moved isLow⟩
  have whole : (load world ((earlier ++ later).map (Call.program settings))).Run (log ++ since) after := by
    have spawned := run.spawnAll (later.map (Call.program settings))
    rw [load, Machine.spawnAll, ← List.map_append, ← List.map_append] at spawned
    exact spawned.append continued
  refine ⟨?_, ?_, whole.ends settled.atRest Call.isIdle⟩
  · rw [← stillPlays.world]
    exact stillGone.get
  · intro place outcome isOutcome
    have ended := (stillPlays.tasks _ _ isOutcome).2
    rw [beyond_add] at ended
    exact refuses_of_rests rfl ended.2

end Machine

section Office

def clerkSession : Session :=
  ⟨⟨⟨8⟩⟩, "lee", clerk.id⟩

namespace Machine

/-- One call reads the role of a clerk, which another one deletes before the first shows what it read. -/
def deletion : Machine MemoryStore Outcome :=
  .load (.start .office RoleId.drawn)
    ([.resolve clerk.id, .deleteRole keeperSession clerk.id].map (Call.program .office))

def deleted : List Deed × Machine MemoryStore Outcome :=
  (deletion.follow? (List.replicate 6 0 ++ List.replicate 11 1 ++ List.replicate 3 0 ++
    List.replicate 5 1)).get (by decide)

def request : Machine MemoryStore Outcome :=
  deleted.2.spawnAll ([.authorize clerkSession .employeeRecords .view].map (Call.program .office))

def refusal : List Deed × Machine MemoryStore Outcome :=
  (request.follow? (List.replicate 10 2)).get (by decide)

theorem refuses_after_delete_office : deletion.Run deleted.1 deleted.2 ∧
    deleted.2.tasks[1]? = some (.finished ⟨.deleteRole keeperSession clerk.id, .ok ()⟩) ∧
    request.Run refusal.1 refusal.2 ∧ refusal.2.isFinished = true ∧
    refusal.2.world.cache.get clerk.id = none ∧
    (∀ (place : Nat) (outcome : Outcome),
      refusal.2.tasks[deleted.2.tasks.length + place]? = some (.finished outcome) →
        outcome.Refuses clerk.id (FailsIn refusal.1 clerk.id)) ∧
    refusal.2.Ends := by
  have run : deletion.Run deleted.1 deleted.2 := Run.get _
  have isDeleted : deleted.2.tasks[1]? =
      some (.finished ⟨.deleteRole keeperSession clerk.id, .ok ()⟩) := by rfl
  have continued : request.Run refusal.1 refusal.2 := Run.get _
  exact ⟨run, isDeleted, continued, by decide,
    refuses_after_delete (World.settled_start _ _) run isDeleted continued (.of_le (by decide))⟩

end Machine

end Office

end Rolebook
