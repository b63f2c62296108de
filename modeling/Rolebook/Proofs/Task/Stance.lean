import Rolebook.Task.Program

/-!
Stances: what a task has in hand and what it knows. The gate of a role protects the role's slot and its
stored rules, so a task that holds the gate knows for sure what it has read or written itself. A stance
says which actions are open to a task; a task that only takes those keeps the cache true to the
repository, whatever other such tasks do in between.
-/

namespace Rolebook

/-- What the holder of a gate knows of the snapshot in its slot and of the stored role. -/
inductive Knowledge where
  /-- The snapshot is right, if there is one. -/
  | sound
  /-- The snapshot is right, if there is one, and this role is stored. -/
  | seen (stored : Role)
  /-- This role is stored, and the snapshot may be out of date. -/
  | saved (stored : Role)
  /-- The role was deleted, and the snapshot may still show it. -/
  | stale
  /-- There is no snapshot. -/
  | vacant
  /-- There is no snapshot, and the slot is not published any more. -/
  | withdrawn

def Knowledge.isSettled : Knowledge → Bool
  | saved _ | stale => false
  | _ => true

inductive Stance where
  | idle
  /-- Holds no gate and has deleted a role whose cache entry is still to be removed. -/
  | owing (role : RoleId)
  | holding (role : RoleId) (slot : SlotId) (knowledge : Knowledge)

def Stance.enter (stance : Stance) (role : RoleId) (slot : SlotId) : Stance :=
  match stance with
  | owing _ => holding role slot .stale
  | _ => holding role slot .sound

/-- A reply tells what the role is: a snapshot that readers see, one that the holder of the gate sees, or
the role as it is stored. -/
def Stance.Tells (role : RoleId) (told : Role) : Stance → (action : Action) → action.Reply → Prop
  | _, .peek other, some snapshot => other = role ∧ snapshot = told
  | .holding other slot .sound, .current found, some snapshot =>
      other = role ∧ found = slot ∧ snapshot = told
  | _, .find other, .ok (some stored) => other = role ∧ stored = told
  | _, _, _ => False

theorem Stance.tells_current {role : RoleId} {told : Role} {stance : Stance} {slot : SlotId}
    {reply : Option Role} (tells : stance.Tells role told (.current slot) reply) :
    stance = .holding role slot .sound ∧ reply = some told := by
  cases reply with
  | none => cases stance <;> simp [Tells] at tells
  | some snapshot =>
      cases stance with
      | holding other found knowledge =>
          cases knowledge <;> simp [Tells] at tells
          simp [tells]
      | _ => simp [Tells] at tells

/-- A change that a task made to the repository. A save is kept with the role that was stored before. -/
inductive Write where
  | created
  | saved (role : RoleId) (stored : Role) (rules : RuleSet)
  | deleted (role : RoleId)

/-- Whether an action leaves the cache and the stored roles as they are. -/
def Action.isQuiet : Action → Bool
  | .wait _ | .peek _ | .current _ | .find _ | .list | .announceSave | .recognize _ | .loadSession _
  | .removeSession _ | .emptySession _ => true
  | _ => false

def Action.isWrite : Action → Bool
  | .create _ | .write _ _ | .delete _ => true
  | _ => false

/-- The actions that are open to a task in a stance, with the stance after the reply and the changes that
the action made. -/
inductive Stance.Step : Stance → (action : Action) → action.Reply → Stance → List Write → Prop where
  | quiet {stance : Stance} {action : Action} {reply : action.Reply} (isQuiet : action.isQuiet = true) :
      Step stance action reply stance []
  | see {role : RoleId} {slot : SlotId} {stored : Role} :
      Step (.holding role slot .sound) (.find role) (.ok (some stored))
        (.holding role slot (.seen stored)) []
  | publish {role : RoleId} {slot : SlotId} {knowledge : Knowledge} {stored : Role}
      (known : knowledge = .seen stored ∨ knowledge = .saved stored) :
      Step (.holding role slot knowledge) (.publish slot stored) ()
        (.holding role slot (.seen stored)) []
  | clear {role : RoleId} {slot : SlotId} {knowledge : Knowledge} (isKept : knowledge ≠ .withdrawn) :
      Step (.holding role slot knowledge) (.clear slot) () (.holding role slot .vacant) []
  | withdraw {role : RoleId} {slot : SlotId} :
      Step (.holding role slot .vacant) (.withdraw role slot) () (.holding role slot .withdrawn) []
  | release {role : RoleId} {slot : SlotId} {knowledge : Knowledge}
      (isSettled : knowledge.isSettled = true) :
      Step (.holding role slot knowledge) (.release slot) () .idle []
  | save {role : RoleId} {slot : SlotId} {stored : Role} {rules : RuleSet} :
      Step (.holding role slot (.seen stored)) (.write role rules) (.ok ())
        (.holding role slot (.saved (stored.withRules rules))) [.saved role stored rules]
  | saveFailed {role : RoleId} {slot : SlotId} {stored : Role} {rules : RuleSet}
      {error : ServiceError} :
      Step (.holding role slot (.seen stored)) (.write role rules) (.error error)
        (.holding role slot (.seen stored)) []
  | create {stance : Stance} {role : NewRole} {created : Role} :
      Step stance (.create role) (.ok created) stance [.created]
  | createFailed {stance : Stance} {role : NewRole} {error : ServiceError} :
      Step stance (.create role) (.error error) stance []
  | delete {role : RoleId} : Step .idle (.delete role) (.ok ()) (.owing role) [.deleted role]
  | deleteFailed {role : RoleId} {error : ServiceError} :
      Step .idle (.delete role) (.error error) .idle []

/-- Whether the cache has been told of what the task has changed in the repository. -/
def Stance.isSettled : Stance → Bool
  | idle => true
  | owing _ => false
  | holding _ _ knowledge => knowledge.isSettled

theorem Stance.Step.isSettled {before after : Stance} {action : Action} {reply : action.Reply}
    (step : before.Step action reply after []) (isSettled : before.isSettled = true) :
    after.isSettled = true := by
  generalize isUnwritten : ([] : List Write) = written at step
  cases step with
  | quiet | createFailed => exact isSettled
  | create | delete | save => simp at isUnwritten
  | _ => rfl

theorem Stance.Step.written_eq_nil {before after : Stance} {action : Action} {reply : action.Reply}
    {written : List Write} (step : before.Step action reply after written)
    (isRead : action.isWrite = false) : written = [] := by
  cases step with
  | create | delete | save => simp [Action.isWrite] at isRead
  | _ => rfl

theorem Stance.isSettled_enter {stance : Stance} {role : RoleId} {slot : SlotId}
    (isSettled : stance.isSettled = true) : (stance.enter role slot).isSettled = true := by
  cases stance with
  | idle | holding _ _ _ => rfl
  | owing _ => cases isSettled

/-- The terms on which tasks work: the replies that are to be reckoned with, and the changes to stored
roles that are permitted. -/
structure Terms where
  expects : Stance → List Write → (action : Action) → action.Reply → Prop
  permits : Stance → List Write → Action → Prop

def Terms.free : Terms :=
  ⟨fun _ _ _ _ => True, fun _ _ _ => True⟩

namespace Program

variable {Answer Result : Type} {terms : Terms}

/-- From a stance and with the changes made so far, a program only takes actions that are open to it and
permitted, and leaves an answer, a stance and changes as told, as long as the replies are those to be
reckoned with. -/
def Ensures (terms : Terms) (post : Answer → Stance → List Write → Prop) :
    Program Answer → Stance → List Write → Prop
  | .done answer, stance, writes => post answer stance writes
  | .act action next, stance, writes =>
      (action.isWrite = true → terms.permits stance writes action) ∧
        ∀ reply, terms.expects stance writes action reply →
          ∃ after written, stance.Step action reply after written ∧
            (next reply).Ensures terms post after (writes ++ written)
  | .lock role next, stance, writes =>
      stance = .idle ∧ ∀ slot, (next slot).Ensures terms post (.holding role slot .sound) writes
  | .lockPublished role absent next, stance, writes =>
      (stance = .idle ∨ stance = .owing role) ∧ absent.Ensures terms post .idle writes ∧
        ∀ slot, (next slot).Ensures terms post (stance.enter role slot) writes

@[simp]
theorem ensures_done {post : Answer → Stance → List Write → Prop} {answer : Answer}
    {stance : Stance} {writes : List Write} :
    (Program.done answer).Ensures terms post stance writes ↔ post answer stance writes :=
  Iff.rfl

@[simp]
theorem ensures_bind {post : Result → Stance → List Write → Prop} (program : Program Answer)
    (rest : Answer → Program Result) {stance : Stance} {writes : List Write} :
    (program.bind rest).Ensures terms post stance writes ↔
      program.Ensures terms (fun answer => (rest answer).Ensures terms post) stance writes := by
  induction program generalizing stance writes with
  | done answer => rfl
  | act action next inductionHypothesis =>
      simp only [bind, Ensures, inductionHypothesis]
  | lock role next inductionHypothesis => simp only [bind, Ensures, inductionHypothesis]
  | lockPublished role absent next absentHypothesis nextHypothesis =>
      simp only [bind, Ensures, absentHypothesis, nextHypothesis]

theorem Ensures.mono {strong weak : Answer → Stance → List Write → Prop} {program : Program Answer}
    {stance : Stance} {writes : List Write} (ensured : program.Ensures terms strong stance writes)
    (implied : ∀ answer stance writes, strong answer stance writes → weak answer stance writes) :
    program.Ensures terms weak stance writes := by
  induction program generalizing stance writes with
  | done answer => exact implied answer stance writes ensured
  | act action next inductionHypothesis =>
      refine ⟨ensured.1, ?_⟩
      intro reply expected
      obtain ⟨after, written, step, continued⟩ := ensured.2 reply expected
      exact ⟨after, written, step, inductionHypothesis reply continued⟩
  | lock role next inductionHypothesis =>
      exact ⟨ensured.1, fun slot => inductionHypothesis slot (ensured.2 slot)⟩
  | lockPublished role absent next absentHypothesis nextHypothesis =>
      exact ⟨ensured.1, absentHypothesis ensured.2.1, fun slot =>
        nextHypothesis slot (ensured.2.2 slot)⟩

theorem ensures_quiet {post : Answer → Stance → List Write → Prop} {action : Action}
    {next : action.Reply → Program Answer} {stance : Stance} {writes : List Write}
    (isQuiet : action.isQuiet = true)
    (continued : ∀ reply, terms.expects stance writes action reply →
      (next reply).Ensures terms post stance writes) :
    (Program.act action next).Ensures terms post stance writes := by
  refine ⟨?_, fun reply expected =>
    ⟨stance, [], .quiet isQuiet, by simpa using continued reply expected⟩⟩
  intro isWrite
  cases action <;> simp [Action.isQuiet, Action.isWrite] at isQuiet isWrite

end Program

end Rolebook
