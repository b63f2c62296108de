import Rolebook.Proofs.Cache.Coherence
import Rolebook.Proofs.Service.Alone
import Rolebook.Proofs.Store.Memory
import Rolebook.Proofs.Store.TableLaws
import Rolebook.Proofs.Submission.RoundTrip
import Rolebook.Proofs.Web.Access
import Rolebook.Proofs.Web.Endpoint

/-!
A role that was shown is written again. The body that shows a role tells the drafts of its rules. Whoever
submits them flat asks for the rules that are stored already, so under snapshots nothing changes.
-/

namespace Rolebook

def FieldDraft.json (draft : FieldDraft) : Json :=
  .object [("field_name", .text draft.field), ("access_level", .text draft.level)]

def RuleDraft.json (draft : RuleDraft) : Json :=
  .object [("scope", .text draft.scope), ("access_level", .text draft.level),
    ("fields", .array (draft.fields.map FieldDraft.json))]

theorem FieldDraft.json_injective : Function.Injective FieldDraft.json := by
  rintro ⟨field, level⟩ ⟨other, otherLevel⟩ sameJson
  simpa [json] using sameJson

theorem RuleDraft.json_injective : Function.Injective RuleDraft.json := by
  rintro ⟨scope, level, fields⟩ ⟨other, otherLevel, otherFields⟩ sameJson
  simpa [json, FieldDraft.json_injective.list_map.eq_iff] using sameJson

/-- A body tells the drafts of rules. -/
def Json.Tells (body : Json) (drafts : List RuleDraft) : Prop :=
  body.member? "rules" = some (.array (drafts.map RuleDraft.json))

theorem Json.Tells.unique {body : Json} {drafts others : List RuleDraft} (tells : body.Tells drafts)
    (tellsToo : body.Tells others) : drafts = others :=
  RuleDraft.json_injective.list_map (Json.array.inj (Option.some.inj (tells.symm.trans tellsToo)))

theorem Rule.json_draft (rule : Rule) : rule.draft.json = rule.json := by
  simp only [RuleDraft.json, Rule.json, Rule.draft, List.map_map]
  rfl

/-- The body that shows a role tells the drafts that write its rules. -/
theorem Role.tells_drafts (role : Role) : role.json.Tells role.rules.drafts := by
  have isMember : role.json.member? "rules" = some role.rules.json := rfl
  have sameRules : role.rules.drafts.map RuleDraft.json = role.rules.toList.map Rule.json := by
    rw [RuleSet.drafts, List.map_map]
    exact List.map_congr_left fun rule _ => rule.json_draft
  rw [Json.Tells, isMember, RuleSet.json, sameRules]

theorem Role.readsBack_of_tells {role : Role} {drafts others : List RuleDraft}
    (tells : role.json.Tells drafts) (reordered : RuleDraft.AllReordered drafts others) :
    role.ReadsBack others := by
  obtain rfl := tells.unique role.tells_drafts
  exact Role.readsBack (RuleDraft.describeAll_drafts role.rules) reordered

variable {Store Answer : Type} [Repository Store] {world before : World Store} {me : TaskId}
  {settings : Settings} {session : Session}

structure World.Spares (before after : World Store) : Prop where
  store : after.store = before.store
  atRest : after.cache.AtRest
  conditions : after.conditions = before.conditions

namespace Authorization

theorem authorize_spares (atRest : world.cache.AtRest) (policy : Policy) (scope : Scope)
    (required : Level) :
    (authorize policy session scope required).Yields me (fun _ after => world.Spares after) world := by
  unfold authorize
  split
  · exact ⟨rfl, atRest, rfl⟩
  · refine (Program.yields_bind _ _).mpr (resolve_yields atRest fun after sameStore leaves => ?_)
    have spares : world.Spares after := ⟨sameStore, leaves.atRest, leaves.conditions⟩
    split
    · exact spares
    · exact spares

theorem require_spares (atRest : world.cache.AtRest) (policy : Policy) (scope : Scope) (required : Level) :
    (require policy session scope required).Yields me (fun _ after => world.Spares after) world := by
  rw [require_eq]
  exact (Program.yields_bind _ _).mpr
    ((authorize_spares atRest policy scope required).mono fun _ _ spares => spares)

end Authorization

namespace Administration

theorem requireAdmin_spares (atRest : world.cache.AtRest) (required : Level) :
    (requireAdmin settings session required).Yields me (fun _ after => world.Spares after) world := by
  refine (Program.yields_bind _ _).mpr
    ((Authorization.require_spares atRest settings.policy .rbacAdmin required).mono ?_)
  intro outcome after spares
  cases outcome with
  | ok decision => exact spares
  | error error => exact spares

/-- A session is refused, or an operation is carried out where nothing stored has changed. -/
theorem asAdmin_yields {required : Level} {operation : Program (Except ServiceError Answer)}
    {post : Except ServiceError Answer → World Store → Prop} (atRest : world.cache.AtRest)
    (refused : ∀ error after, world.Spares after → post (.error error) after)
    (operated : ∀ after, world.Spares after → operation.Yields me post after) :
    (asAdmin settings session required operation).Yields me post world := by
  refine (Program.yields_bind _ _).mpr ((requireAdmin_spares atRest required).mono ?_)
  intro outcome after spares
  cases outcome with
  | error error => exact refused error after spares
  | ok => exact operated after spares

theorem findRole_yields (atRest : world.cache.AtRest) (id : RoleId) :
    (findRole settings session id).Yields me (fun outcome after => world.Spares after ∧
      ∀ role, outcome = .ok role → Repository.find world.store id = .ok (some role)) world := by
  refine asAdmin_yields atRest (fun error after spares => ⟨spares, by simp⟩) ?_
  intro after spares
  apply Program.yields_find
  intro found isLooked
  have sparesToo : world.Spares { after with finds := after.finds + 1 } :=
    ⟨spares.store, spares.atRest, spares.conditions⟩
  cases found with
  | error error => exact ⟨sparesToo, fun _ isFound => by cases isFound⟩
  | ok found =>
      cases found with
      | none => exact ⟨sparesToo, fun _ isFound => by cases isFound⟩
      | some stored =>
          refine ⟨sparesToo, ?_⟩
          rintro role ⟨⟩
          rw [← spares.store]
          exact World.find_of_look isLooked

end Administration

/-- The repository does what it is asked and in time: it does not fail, and rules of a stored role are
saved. -/
structure World.Serves (world : World Store) (settings : Settings) : Prop where
  faultless : ∀ operation, world.conditions.fault operation = none
  saves : ∀ id role rules, Repository.find world.store id = .ok (some role) →
    (Repository.save world.store id rules).1 = .ok ()
  inTime : world.conditions.saveDelay + world.conditions.ackDelay ≤ settings.writeTimeout

theorem World.Spares.serves {after : World Store} (spares : before.Spares after)
    (serves : before.Serves settings) : after.Serves settings where
  faultless operation := by rw [spares.conditions, serves.faultless]
  saves id role rules isStored := by
    rw [spares.store] at isStored ⊢
    exact serves.saves id role rules isStored
  inTime := by
    rw [spares.conditions]
    exact serves.inTime

theorem World.Serves.ask {Value : Type} (serves : world.Serves settings) (operation : Operation)
    (answer : Except ServiceError Value) : world.ask operation answer = answer :=
  World.ask_of_faultless (serves.faultless operation) answer

theorem World.serves_memory {world : World MemoryStore}
    (faultless : ∀ operation, world.conditions.fault operation = none)
    (inTime : world.conditions.saveDelay + world.conditions.ackDelay ≤ settings.writeTimeout) :
    world.Serves settings where
  faultless := faultless
  saves _ _ rules isStored := congrArg Prod.fst (MemoryStore.save_of_stored (Except.ok.inj isStored) rules)
  inTime := inTime

/-- Tables of any content serve if the server refuses nothing. -/
theorem World.serves_tables {world : World Database} (reliable : world.store.refusals = Refusals.none)
    (faultless : ∀ operation, world.conditions.fault operation = none)
    (inTime : world.conditions.saveDelay + world.conditions.ackDelay ≤ settings.writeTimeout) :
    world.Serves settings where
  faultless := faultless
  saves _ _ rules isStored := Database.save_of_reliable reliable isStored rules
  inTime := inTime

theorem Reconciliation.apply_yields_same [LawfulRepository Store] (isSnapshot : settings.mode = .snapshot)
    (atRest : world.cache.AtRest) (serves : world.Serves settings) {id : RoleId} {role : Role}
    (isStored : Repository.find world.store id = .ok (some role)) {submission : Submission}
    (isRead : submission.ruleSet = .ok role.rules) :
    (apply settings id submission).Yields me (fun answer after => answer = .ok ⟨role, []⟩ ∧
      ∀ other, Repository.find after.store other = Repository.find world.store other) world := by
  have isLooked : world.look id = .ok (some role) := by rw [World.look, serves.ask, isStored]
  unfold apply
  rw [isSnapshot]
  apply applyWithin_yields atRest
  intro answer entry after exits _
  have saved : Repository.save world.store id role.rules =
      (.ok (), (Repository.save world.store id role.rules).2) :=
    Prod.ext (serves.saves id role _ isStored) rfl
  obtain ⟨isAnswer, isAfter, -⟩ :=
    exits.succeeds isRead isLooked serves.inTime (serves.faultless .save) saved
  refine ⟨by rw [isAnswer, Mode.merge, RuleSet.changedScopes_self]; rfl, fun other => ?_⟩
  rw [isAfter, LawfulRepository.find_of_save saved isStored]
  split
  · rename_i isRole
    rw [isRole, isStored]
    rfl
  · rfl

namespace Web

variable {request : Request} {id : RoleId} {body : Json}

/-- In a world in which nobody else is at work, a request to get a role is shown a body. -/
structure Shows (settings : Settings) (world : World Store) (request : Request) (id : RoleId)
    (body : Json) : Prop where
  atRest : world.cache.AtRest
  serves : world.Serves settings
  isGet : request.method = .get
  isPlace : ∃ text, Resource.ofPath? request.path = some (.guarded (.role text)) ∧
    RoleId.parse? text = some id
  told : ((answer settings request).run 0 world).1 = ⟨200, some body⟩

theorem ofError_ne_shown (error : ServiceError) (body : Option Json) :
    Response.ofError error ≠ ⟨200, body⟩ := by
  intro same
  have isRefused : 400 ≤ (Response.ofError error).status := Response.le_status error.kind
  simp [same] at isRefused

theorem findRole_run {text : String} (isId : RoleId.parse? text = some id) (session : Session) :
    (findRole settings session text).run 0 world =
      let outcome := (Administration.findRole settings session id).run 0 world
      (.ofResult 200 Role.json outcome.1, outcome.2) := by
  rw [findRole, withRole, isId]
  exact Program.run_bind_done ..

theorem Shows.stored (shows : Shows settings world request id body) :
    ∃ role, Repository.find world.store id = .ok (some role) ∧ body = role.json ∧
      world.Spares ((answer settings request).run 0 world).2 := by
  obtain ⟨text, isPlace, isId⟩ := shows.isPlace
  have isShown (response : Response) : request.shown response = response := by
    simp [Request.shown, shows.isGet]
  have told := shows.told
  cases isAdmitted : admission settings world (request.cookie.bind world.sessions.find?) with
  | error error =>
      rw [answer_run_of_refused isPlace isAdmitted, isShown] at told
      exact absurd told (ofError_ne_shown error body)
  | ok session =>
      have answered : (answer settings request).run 0 world =
          (.ofResult 200 Role.json ((Administration.findRole settings session id).run 0 world).1,
            ((Administration.findRole settings session id).run 0 world).2) := by
        rw [answer_run_of_admitted isPlace isAdmitted, shows.isGet]
        simp only [isShown]
        exact findRole_run isId session
      have yields : (Administration.findRole settings session id).Yields 0 _ world :=
        Administration.findRole_yields shows.atRest id
      obtain ⟨spares, found⟩ := yields
      rw [answered] at told ⊢
      cases outcome : ((Administration.findRole settings session id).run 0 world).1 with
      | error error =>
          rw [outcome] at told
          exact absurd told (ofError_ne_shown error body)
      | ok role =>
          rw [outcome] at told
          refine ⟨role, found role outcome, ?_, spares⟩
          exact (Option.some.inj (Response.mk.inj told).2).symm

/-- The rules of every role, as the body that shows it tells them and in whatever order they are sent back,
are read as the rules that the role has, both in the draft of a role and in a submission. So under snapshots
whoever submits to a stored role what a request to get it was shown is told that nothing has changed, and
nothing has. -/
theorem shown_reads_back :
    (∀ role : Role, (∃ drafts, role.json.Tells drafts) ∧ ∀ drafts others, role.json.Tells drafts →
      RuleDraft.AllReordered drafts others → role.ReadsBack others) ∧
    ∀ {Store : Type} [Repository Store] [LawfulRepository Store] (settings : Settings)
      (world : World Store) (request : Request) (id : RoleId) (body : Json),
      settings.mode = .snapshot → Shows settings world request id body →
        ∃ role, Repository.find world.store id = .ok (some role) ∧ body = role.json ∧
          ∀ drafts others (submission : Submission), body.Tells drafts →
            RuleDraft.AllReordered drafts others → submission.Flattens others →
              let last := (Reconciliation.apply settings id submission).run 0
                ((answer settings request).run 0 world).2
              last.1 = .ok ⟨role, []⟩ ∧
                ∀ other, Repository.find last.2.store other = Repository.find world.store other := by
  constructor
  · exact fun role => ⟨⟨_, role.tells_drafts⟩, fun _ _ tells => Role.readsBack_of_tells tells⟩
  · intro Store _ _ settings world request id body isSnapshot shows
    obtain ⟨role, isStored, rfl, spares⟩ := shows.stored
    refine ⟨role, isStored, rfl, ?_⟩
    intro drafts others submission tells reordered flattens
    have isRead := (Role.readsBack_of_tells tells reordered).submitted submission flattens
    have stillStored := isStored
    rw [← spares.store] at stillStored
    have yields : (Reconciliation.apply settings id submission).Yields 0 _ _ :=
      Reconciliation.apply_yields_same isSnapshot spares.atRest (spares.serves shows.serves) stillStored
        isRead
    obtain ⟨isAnswered, same⟩ := yields
    exact ⟨isAnswered, fun other => by rw [same, spares.store]⟩

section Office

def registrar : Role :=
  ⟨⟨⟨3⟩⟩, "Registrar", none, false,
    (RuleSet.empty.put (.bare .employeeRecords .nothing)).put (.bare .rbacAdmin .full), by decide, by decide⟩

def registry : World MemoryStore :=
  (World.start ⟨[(registrar.id, registrar)], []⟩ RoleId.drawn).signIn "pat"
    (Session.storedJson ⟨⟨⟨7⟩⟩, "pat", registrar.id⟩)

def review : Request :=
  ⟨.get, ["api", "rbac", "roles", "00000000-0000-0000-0000-000000000003"], [], some "pat", none, ""⟩

theorem shows_review :
    Shows ⟨.enforced, .snapshot, Settings.defaultWriteTimeout⟩ registry review registrar.id
      registrar.json where
  atRest := Cache.atRest_empty
  serves := World.serves_memory (fun _ => rfl) (by decide)
  isGet := rfl
  isPlace := ⟨"00000000-0000-0000-0000-000000000003", rfl, by decide⟩
  told := by rfl

/-- The rules are sent back in the other order, together with an entry that selects no role. -/
theorem shown_reads_back_registry :
    let settings : Settings := ⟨.enforced, .snapshot, Settings.defaultWriteTimeout⟩
    let submission : Submission :=
      .ofList ((roleKey, "none at all") :: registrar.rules.drafts.reverse.flatMap RuleDraft.entries)
    Shows settings registry review registrar.id registrar.json ∧
      registrar.json.Tells registrar.rules.drafts ∧
      ((Reconciliation.apply settings registrar.id submission).run 0
        ((answer settings review).run 0 registry).2).1 = .ok ⟨registrar, []⟩ := by
  intro settings submission
  have tells := registrar.tells_drafts
  have reordered : RuleDraft.AllReordered registrar.rules.drafts registrar.rules.drafts.reverse :=
    ⟨_, (List.reverse_perm _).symm, List.forall₂_same.mpr fun _ _ => ⟨rfl, rfl, .refl _⟩⟩
  have flattens : submission.Flattens registrar.rules.drafts.reverse :=
    ⟨some "none at all", _, rfl, .refl _⟩
  obtain ⟨role, isStored, _, resubmitted⟩ :=
    shown_reads_back.2 settings registry review registrar.id registrar.json rfl shows_review
  obtain rfl : registrar = role := Option.some.inj (Except.ok.inj isStored)
  exact ⟨shows_review, tells, (resubmitted _ _ submission tells reordered flattens).1⟩

end Office

end Web

end Rolebook
