import Rolebook.Proofs.Task.Stance
import Rolebook.Service.Administration

/-!
The conduct of the services: from no gate in hand every service only takes actions that are open to it,
and ends with no gate in hand. Each statement also tells what the answer rests on, so that it serves
under any terms.
-/

namespace Rolebook

/-- What a task may take for the stored role: some reply may tell it so. -/
def Terms.Offers (terms : Terms) (writes : List Write) (role : RoleId) (snapshot : Role) : Prop :=
  ∃ stance action reply, terms.expects stance writes action reply ∧
    stance.Tells role snapshot action reply

def Terms.Fails (terms : Terms) (writes : List Write) (role : RoleId) (error : ServiceError) : Prop :=
  ∃ slot, terms.expects (.holding role slot .sound) writes (.find role) (.error error)

def Terms.Misses (terms : Terms) (writes : List Write) (role : RoleId) : Prop :=
  ∃ slot, terms.expects (.holding role slot .sound) writes (.find role) (.ok none)

def Terms.Grants (terms : Terms) (policy : Policy) (session : Session) (scope : Scope)
    (required : Level) (writes : List Write) (decision : Decision) : Prop :=
  if session.isEmpty = true then decision = policy.decide required
  else ∃ snapshot, terms.Offers writes session.role snapshot ∧
    decision = snapshot.decide scope required

def Terms.Admits (terms : Terms) (policy : Policy) (session : Session) (scope : Scope)
    (required : Level) (writes : List Write) : Prop :=
  ∃ decision, terms.Grants policy session scope required writes decision ∧ decision.allowed = true

variable {terms : Terms} {writes : List Write}

namespace Program

variable {Answer : Type}

theorem ensures_clear {post : Answer → Stance → List Write → Prop} {role : RoleId} {slot : SlotId}
    {knowledge : Knowledge} {next : Unit → Program Answer} (isKept : knowledge ≠ .withdrawn)
    (continued : (next ()).Ensures terms post (.holding role slot .vacant) writes) :
    (Program.act (.clear slot) next).Ensures terms post (.holding role slot knowledge) writes :=
  ⟨by simp [Action.isWrite], fun _ _ => ⟨_, _, .clear isKept, by simpa using continued⟩⟩

theorem ensures_release {post : Answer → Stance → List Write → Prop} {role : RoleId} {slot : SlotId}
    {knowledge : Knowledge} {next : Unit → Program Answer} (isSettled : knowledge.isSettled = true)
    (continued : (next ()).Ensures terms post .idle writes) :
    (Program.act (.release slot) next).Ensures terms post (.holding role slot knowledge) writes :=
  ⟨by simp [Action.isWrite], fun _ _ => ⟨_, _, .release isSettled, by simpa using continued⟩⟩

theorem ensures_publish {post : Answer → Stance → List Write → Prop} {role : RoleId} {slot : SlotId}
    {knowledge : Knowledge} {stored : Role} {next : Unit → Program Answer}
    (known : knowledge = .seen stored ∨ knowledge = .saved stored)
    (continued : (next ()).Ensures terms post (.holding role slot (.seen stored)) writes) :
    (Program.act (.publish slot stored) next).Ensures terms post (.holding role slot knowledge) writes :=
  ⟨by simp [Action.isWrite], fun _ _ => ⟨_, _, .publish known, by simpa using continued⟩⟩

theorem ensures_withdraw {post : Answer → Stance → List Write → Prop} {role : RoleId} {slot : SlotId}
    {next : Unit → Program Answer}
    (continued : (next ()).Ensures terms post (.holding role slot .withdrawn) writes) :
    (Program.act (.withdraw role slot) next).Ensures terms post (.holding role slot .vacant) writes :=
  ⟨by simp [Action.isWrite], fun _ _ => ⟨_, _, .withdraw, by simpa using continued⟩⟩

theorem ensures_find {post : Answer → Stance → List Write → Prop} {role : RoleId} {slot : SlotId}
    {next : Except ServiceError (Option Role) → Program Answer}
    (isFound : ∀ stored,
      terms.expects (.holding role slot .sound) writes (.find role) (.ok (some stored)) →
        (next (.ok (some stored))).Ensures terms post (.holding role slot (.seen stored)) writes)
    (absent : terms.expects (.holding role slot .sound) writes (.find role) (.ok none) →
      (next (.ok none)).Ensures terms post (.holding role slot .sound) writes)
    (failed : ∀ error, terms.expects (.holding role slot .sound) writes (.find role) (.error error) →
      (next (.error error)).Ensures terms post (.holding role slot .sound) writes) :
    (Program.act (.find role) next).Ensures terms post (.holding role slot .sound) writes := by
  refine ⟨by simp [Action.isWrite], ?_⟩
  intro reply expected
  cases reply with
  | error error => exact ⟨_, _, .quiet rfl, by simpa using failed error expected⟩
  | ok found =>
      cases found with
      | none => exact ⟨_, _, .quiet rfl, by simpa using absent expected⟩
      | some stored => exact ⟨_, _, .see, by simpa using isFound stored expected⟩

theorem ensures_write {post : Answer → Stance → List Write → Prop} {role : RoleId} {slot : SlotId}
    {stored : Role} {rules : RuleSet} {next : Except ServiceError Unit → Program Answer}
    (permitted : terms.permits (.holding role slot (.seen stored)) writes (.write role rules))
    (saved : (next (.ok ())).Ensures terms post (.holding role slot (.saved (stored.withRules rules)))
      (writes ++ [.saved role stored rules]))
    (failed : ∀ error,
      (next (.error error)).Ensures terms post (.holding role slot (.seen stored)) writes) :
    (Program.act (.write role rules) next).Ensures terms post (.holding role slot (.seen stored))
      writes := by
  refine ⟨fun _ => permitted, ?_⟩
  intro reply _
  match reply with
  | .ok () => exact ⟨_, _, .save, saved⟩
  | .error error => exact ⟨_, _, .saveFailed, by simpa using failed error⟩

theorem ensures_evict {post : Unit → Stance → List Write → Prop} {role : RoleId} {slot : SlotId}
    {knowledge : Knowledge} (isKept : knowledge ≠ .withdrawn) (evicted : post () .idle writes) :
    (evict role slot).Ensures terms post (.holding role slot knowledge) writes :=
  ensures_clear isKept (ensures_withdraw (ensures_release rfl evicted))

end Program

namespace Authorization

theorem resolve_ensures {post : Except AccessError Role → Stance → List Write → Prop} {role : RoleId}
    (resolved : ∀ snapshot, terms.Offers writes role snapshot → post (.ok snapshot) .idle writes)
    (missing : terms.Misses writes role → post (.error (.roleMissing role)) .idle writes)
    (failed : ∀ error, terms.Fails writes role error →
      post (.error (.storage error.message)) .idle writes) :
    (resolve role).Ensures terms post .idle writes := by
  apply Program.ensures_quiet rfl
  intro peeked expectedPeek
  cases peeked with
  | some snapshot => exact resolved snapshot ⟨_, _, _, expectedPeek, rfl, rfl⟩
  | none =>
      refine ⟨rfl, fun slot => Program.ensures_quiet rfl ?_⟩
      intro current expectedCurrent
      cases current with
      | some snapshot =>
          exact Program.ensures_release rfl
            (resolved snapshot ⟨_, _, _, expectedCurrent, rfl, rfl, rfl⟩)
      | none =>
          apply Program.ensures_find
          · intro stored expected
            exact Program.ensures_publish (.inl rfl)
              (Program.ensures_release rfl (resolved stored ⟨_, _, _, expected, rfl, rfl⟩))
          · intro expected
            exact (Program.ensures_bind _ _).mpr (Program.ensures_evict (by simp) (missing ⟨slot, expected⟩))
          · intro error expected
            exact (Program.ensures_bind _ _).mpr (Program.ensures_evict (by simp)
              (failed error ⟨slot, expected⟩))

theorem invalidate_ensures {post : Unit → Stance → List Write → Prop} {role : RoleId} {stance : Stance}
    (isFree : stance = .idle ∨ stance = .owing role) (removed : post () .idle writes) :
    (invalidate role).Ensures terms post stance writes := by
  refine ⟨isFree, removed, ?_⟩
  intro slot
  rcases isFree with isIdle | isOwing
  · subst isIdle
    exact Program.ensures_evict (by simp) removed
  · subst isOwing
    exact Program.ensures_evict (by simp) removed

theorem authorize_ensures {post : Except AccessError Decision → Stance → List Write → Prop}
    {policy : Policy} {session : Session} {scope : Scope} {required : Level}
    (decided : ∀ decision, terms.Grants policy session scope required writes decision →
      post (.ok decision) .idle writes)
    (missing : session.isEmpty = false → post (.error (.roleMissing session.role)) .idle writes)
    (failed : session.isEmpty = false → ∀ error, terms.Fails writes session.role error →
      post (.error (.storage error.message)) .idle writes) :
    (authorize policy session scope required).Ensures terms post .idle writes := by
  unfold authorize
  by_cases isEmpty : session.isEmpty = true
  · rw [if_pos isEmpty]
    exact decided _ (by simp [Terms.Grants, isEmpty])
  · rw [if_neg isEmpty]
    have isKnown : session.isEmpty = false := by simpa using isEmpty
    refine (Program.ensures_bind _ _).mpr (resolve_ensures ?_ (fun _ => missing isKnown)
      (failed isKnown))
    intro snapshot offered
    exact decided _ (by simpa [Terms.Grants, isKnown] using ⟨snapshot, offered, rfl⟩)

theorem isAllowed_ensures {post : Bool → Stance → List Write → Prop} {policy : Policy}
    {session : Session} {scope : Scope} {required : Level}
    (decided : ∀ decision, terms.Grants policy session scope required writes decision →
      post decision.allowed .idle writes)
    (denied : post false .idle writes) :
    (isAllowed policy session scope required).Ensures terms post .idle writes :=
  (Program.ensures_bind _ _).mpr
    (authorize_ensures decided (fun _ => denied) (fun _ _ _ => denied))

theorem require_ensures {post : Except ServiceError Decision → Stance → List Write → Prop}
    {policy : Policy} {session : Session} {scope : Scope} {required : Level}
    (allowed : ∀ decision, terms.Grants policy session scope required writes decision →
      decision.allowed = true → post (.ok decision) .idle writes)
    (refused : ∀ error, post (.error error) .idle writes) :
    (require policy session scope required).Ensures terms post .idle writes := by
  refine (Program.ensures_bind _ _).mpr (authorize_ensures ?_ ?_ ?_)
  · intro decision granted
    by_cases isAllowed : decision.allowed = true
    · simpa [denyMissing, isAllowed] using allowed decision granted isAllowed
    · simpa [denyMissing, isAllowed] using refused _
  · intro _
    simpa [denyMissing, Decision.deny] using refused _
  · intro _ error _
    exact refused _

end Authorization

namespace Reconciliation

theorem waitWithin_ensures {post : Bool → Stance → List Write → Prop} {deadline : Option Nat}
    {before duration : Nat} {stance : Stance} (waited : ∀ isLate, post isLate stance writes) :
    (waitWithin deadline before duration).Ensures terms post stance writes := by
  cases deadline with
  | none => exact Program.ensures_quiet rfl fun _ _ => waited _
  | some limit => exact Program.ensures_quiet rfl fun _ _ => waited _

theorem saveWithin_ensures {post : Option (Except ServiceError Unit) → Stance → List Write → Prop}
    {deadline : Option Nat} {role : RoleId} {slot : SlotId} {stored : Role} {rules : RuleSet}
    (permitted : terms.permits (.holding role slot (.seen stored)) writes (.write role rules))
    (unwritten : post none (.holding role slot (.seen stored)) writes)
    (failed : ∀ error, post (some (.error error)) (.holding role slot (.seen stored)) writes)
    (unanswered : post none (.holding role slot (.saved (stored.withRules rules)))
      (writes ++ [.saved role stored rules]))
    (done : post (some (.ok ())) (.holding role slot (.saved (stored.withRules rules)))
      (writes ++ [.saved role stored rules])) :
    (saveWithin deadline role rules).Ensures terms post (.holding role slot (.seen stored)) writes := by
  apply Program.ensures_quiet rfl
  rintro ⟨before, after⟩ _
  change ((waitWithin deadline 0 before).bind _).Ensures terms post _ writes
  refine (Program.ensures_bind _ _).mpr (waitWithin_ensures ?_)
  intro isLate
  cases isLate with
  | true => exact unwritten
  | false =>
      refine Program.ensures_write permitted ?_ failed
      change ((waitWithin deadline before after).bind _).Ensures terms post _ _
      refine (Program.ensures_bind _ _).mpr (waitWithin_ensures ?_)
      intro isLate
      cases isLate with
      | true => exact unanswered
      | false => exact done

/-- A reconciliation either leaves the stored rules alone and fails, or saves the submission merged into
the rules that it read; having saved, it tells what it did or that the time was over. -/
theorem applyWithin_ensures {post : Except AccessError Update → Stance → List Write → Prop}
    {mode : Mode} {deadline : Nat} {role : RoleId} {submission : Submission}
    (permitted : ∀ submitted slot stored, submission.ruleSet = .ok submitted →
      terms.permits (.holding role slot (.seen stored)) writes
        (.write role (mode.merge stored.rules submitted)))
    (failed : ∀ error, post (.error error) .idle writes)
    (unanswered : ∀ submitted stored, submission.ruleSet = .ok submitted →
      post (.error (.writeTimedOut role)) .idle
        (writes ++ [.saved role stored (mode.merge stored.rules submitted)]))
    (done : ∀ submitted stored, submission.ruleSet = .ok submitted →
      let rules := mode.merge stored.rules submitted
      post (.ok ⟨stored.withRules rules, stored.rules.changedScopes rules⟩) .idle
        (writes ++ [.saved role stored rules])) :
    (applyWithin mode deadline role submission).Ensures terms post .idle writes := by
  unfold applyWithin
  split
  · exact failed _
  · rename_i submitted isRead
    refine ⟨rfl, fun slot => Program.ensures_find ?_ ?_ ?_⟩
    · intro stored _
      change ((saveWithin (some deadline) role _).bind _).Ensures terms post _ writes
      refine (Program.ensures_bind _ _).mpr (saveWithin_ensures (permitted submitted slot stored isRead)
        ?_ ?_ ?_ ?_)
      · exact Program.ensures_clear (by simp) (Program.ensures_release rfl (failed _))
      · intro error
        by_cases isGone : error.kind = .notFound
        · simp only [isGone, if_true]
          exact (Program.ensures_bind _ _).mpr (Program.ensures_evict (by simp) (failed _))
        · simp only [isGone, if_false]
          exact Program.ensures_release rfl (failed _)
      · exact Program.ensures_clear (by simp)
          (Program.ensures_release rfl (unanswered submitted stored isRead))
      · exact Program.ensures_publish (.inr rfl)
          (Program.ensures_release rfl (done submitted stored isRead))
    · exact fun _ => (Program.ensures_bind _ _).mpr (Program.ensures_evict (by simp) (failed _))
    · intro error _
      exact Program.ensures_release rfl (failed _)

end Reconciliation

namespace Administration

/-- An operation is only run for a session that may be given a decision that allows it. -/
theorem asAdmin_ensures {Answer : Type} {post : Except ServiceError Answer → Stance → List Write → Prop}
    {settings : Settings} {session : Session} {required : Level}
    {operation : Program (Except ServiceError Answer)}
    (admitted : terms.Admits settings.policy session .rbacAdmin required writes →
      operation.Ensures terms post .idle writes)
    (refused : ∀ error, post (.error error) .idle writes) :
    (asAdmin settings session required operation).Ensures terms post .idle writes := by
  refine (Program.ensures_bind _ _).mpr ((Program.ensures_bind _ _).mpr
    (Authorization.require_ensures ?_ refused))
  intro decision granted isAllowed
  exact admitted ⟨decision, granted, isAllowed⟩

theorem deleteRole_ensures {post : Except ServiceError Unit → Stance → List Write → Prop}
    {settings : Settings} {session : Session} {role : RoleId}
    (permitted : terms.Admits settings.policy session .rbacAdmin .full writes →
      terms.permits .idle writes (.delete role))
    (deleted : terms.Admits settings.policy session .rbacAdmin .full writes →
      post (.ok ()) .idle (writes ++ [.deleted role]))
    (refused : ∀ error, post (.error error) .idle writes) :
    (deleteRole settings session role).Ensures terms post .idle writes := by
  refine asAdmin_ensures (fun admitted => ⟨fun _ => permitted admitted, ?_⟩) refused
  intro reply _
  match reply with
  | .ok () =>
      refine ⟨_, _, .delete, ?_⟩
      change ((Authorization.invalidate role).bind _).Ensures terms post _ _
      exact (Program.ensures_bind _ _).mpr (Authorization.invalidate_ensures (.inr rfl)
        (deleted admitted))
  | .error error => exact ⟨_, _, .deleteFailed, by simpa using refused error⟩

theorem createRole_ensures {post : Except ServiceError Role → Stance → List Write → Prop}
    {settings : Settings} {session : Session} {role : NewRole}
    (permitted : terms.Admits settings.policy session .rbacAdmin .edit writes →
      terms.permits .idle writes (.create role))
    (created : terms.Admits settings.policy session .rbacAdmin .edit writes →
      ∀ created, post (.ok created) .idle (writes ++ [.created]))
    (refused : ∀ error, post (.error error) .idle writes) :
    (createRole settings session role).Ensures terms post .idle writes := by
  refine asAdmin_ensures (fun admitted => ⟨fun _ => permitted admitted, ?_⟩) refused
  intro reply _
  match reply with
  | .ok role => exact ⟨_, _, .create, created admitted role⟩
  | .error error => exact ⟨_, _, .createFailed, by simpa using refused error⟩

theorem updateRules_ensures {post : Except ServiceError Update → Stance → List Write → Prop}
    {settings : Settings} {session : Session} {role : RoleId} {submission : Submission}
    (permitted : terms.Admits settings.policy session .rbacAdmin .edit writes →
      ∀ submitted slot stored, submission.ruleSet = .ok submitted →
        terms.permits (.holding role slot (.seen stored)) writes
          (.write role (settings.mode.merge stored.rules submitted)))
    (refused : ∀ error, post (.error error) .idle writes)
    (unanswered : ∀ submitted stored, submission.ruleSet = .ok submitted →
      post (.error (.access (.writeTimedOut role))) .idle
        (writes ++ [.saved role stored (settings.mode.merge stored.rules submitted)]))
    (done : terms.Admits settings.policy session .rbacAdmin .edit writes →
      ∀ submitted stored, submission.ruleSet = .ok submitted →
        let rules := settings.mode.merge stored.rules submitted
        post (.ok ⟨stored.withRules rules, stored.rules.changedScopes rules⟩) .idle
          (writes ++ [.saved role stored rules])) :
    (updateRules settings session role submission).Ensures terms post .idle writes := by
  refine asAdmin_ensures ?_ refused
  intro admitted
  exact (Program.ensures_bind _ _).mpr (Reconciliation.applyWithin_ensures (permitted admitted)
    (fun error => refused _) unanswered (done admitted))

theorem listRoles_ensures {post : Except ServiceError (List Role) → Stance → List Write → Prop}
    {settings : Settings} {session : Session}
    (listed : terms.Admits settings.policy session .rbacAdmin .view writes →
      ∀ roles, post (.ok roles) .idle writes)
    (refused : ∀ error, post (.error error) .idle writes) :
    (listRoles settings session).Ensures terms post .idle writes := by
  refine asAdmin_ensures (fun admitted => Program.ensures_quiet rfl ?_) refused
  intro reply _
  match reply with
  | .ok roles => exact listed admitted roles
  | .error error => exact refused error

theorem findRole_ensures {post : Except ServiceError Role → Stance → List Write → Prop}
    {settings : Settings} {session : Session} {role : RoleId}
    (found : terms.Admits settings.policy session .rbacAdmin .view writes →
      ∀ role, post (.ok role) .idle writes)
    (refused : ∀ error, post (.error error) .idle writes) :
    (findRole settings session role).Ensures terms post .idle writes := by
  refine asAdmin_ensures (fun admitted => Program.ensures_quiet rfl ?_) refused
  intro reply _
  match reply with
  | .ok (some role) => exact found admitted role
  | .ok none => exact refused _
  | .error error => exact refused error

theorem requireEditor_ensures {post : Except ServiceError Unit → Stance → List Write → Prop}
    {settings : Settings} {session : Session}
    (admitted : terms.Admits settings.policy session .rbacAdmin .edit writes →
      post (.ok ()) .idle writes)
    (refused : ∀ error, post (.error error) .idle writes) :
    (requireEditor settings session).Ensures terms post .idle writes := by
  refine (Program.ensures_bind _ _).mpr (Authorization.require_ensures ?_ refused)
  intro decision granted isAllowed
  exact admitted ⟨decision, granted, isAllowed⟩

end Administration

end Rolebook
