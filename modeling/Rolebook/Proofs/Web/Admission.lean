import Rolebook.Proofs.Task.Look
import Rolebook.Proofs.Web.Conduct

/-!
Admission. A request to a guarded resource is carried out for the session whose context is stored where its
cookie points, or for nobody while security is not enforced. To find out who asks only takes a look at
the sessions.
-/

namespace Rolebook

variable {Store : Type}

def World.context? (world : World Store) (request : Web.Request) : Option Json :=
  (request.cookie.bind world.sessions.find?).bind world.sessions.context

def World.asker? (world : World Store) (settings : Settings) (request : Web.Request) :
    Option Session :=
  match world.context? request with
  | some context => context.session?
  | none => if settings.policy.isEnforced then none else some .nobody

namespace Web

variable {terms : Terms} {settings : Settings} {request : Request}

/-- The session that is admitted by what is found stored, or the reason to refuse. -/
def accept (settings : Settings) : Except ServiceError (Option Json) → Except ServiceError Session
  | .error error => .error error
  | .ok none => if settings.policy.isEnforced then .error .notSignedIn else .ok .nobody
  | .ok (some context) =>
      match context.session? with
      | some session => .ok session
      | none => .error (.failedTo "read session context")

def admission (settings : Settings) (world : World Store) (origin : Option SessionId) :
    Except ServiceError Session :=
  accept settings <|
    if origin.isSome && world.conditions.sessionLoadFails then
      .error (.failedTo "read session context")
    else .ok (origin.bind world.sessions.context)

theorem asker?_of_admission {world : World Store} {session : Session}
    (isAdmitted : admission settings world (request.cookie.bind world.sessions.find?) = .ok session) :
    world.asker? settings request = some session := by
  unfold admission at isAdmitted
  unfold World.asker? World.context?
  split at isAdmitted
  · cases isAdmitted
  · cases stored : (request.cookie.bind world.sessions.find?).bind world.sessions.context with
    | none =>
        simp only [stored, accept] at isAdmitted ⊢
        split at isAdmitted
        · cases isAdmitted
        · rename_i isOpen
          obtain rfl := Except.ok.inj isAdmitted
          rw [if_neg isOpen]
    | some context =>
        simp only [stored, accept] at isAdmitted ⊢
        cases isSession : context.session? with
        | none => simp [isSession] at isAdmitted
        | some found => simpa [isSession] using isAdmitted

/-- Nobody is admitted without stored context while security is enforced. -/
theorem admission_of_unsigned {world : World Store} (isEnforced : settings.policy.isEnforced = true)
    (isUnsigned : world.context? request = none) :
    admission settings world (request.cookie.bind world.sessions.find?) = .error .notSignedIn ∨
      world.conditions.sessionLoadFails = true ∧
        admission settings world (request.cookie.bind world.sessions.find?) =
          .error (.failedTo "read session context") := by
  unfold admission
  split
  · rename_i isUnreadable
    exact .inr ⟨(Bool.and_eq_true_iff.mp isUnreadable).2, rfl⟩
  · apply Or.inl
    rw [World.context?] at isUnsigned
    simp [isUnsigned, accept, isEnforced]

def Method.asked : Method → Method
  | head => get
  | method => method

def shorten (request : Request) (program : Program Response) : Program Response :=
  if request.method = .head then program.bind fun response => .done (.refusal response.status)
  else program

theorem shorten_ensures {post : Response → Stance → List Write → Prop} {program : Program Response}
    {stance : Stance} {writes : List Write} (ensured : program.Ensures terms post stance writes)
    (isShort : ∀ response stance writes, post response stance writes →
      post (.refusal response.status) stance writes) :
    (shorten request program).Ensures terms post stance writes := by
  unfold shorten
  split
  · exact (Program.ensures_bind _ _).mpr (ensured.mono isShort)
  · exact ensured

theorem answer_eq {resource : Resource} (isResource : Resource.ofPath? request.path = some resource) :
    answer settings request = (recognize request.cookie).bind fun origin =>
      shorten request (answerAt settings origin request resource request.method.asked) := by
  unfold answer
  rw [isResource]
  change (recognize request.cookie).bind _ = _
  congr 1
  funext origin
  unfold shorten
  by_cases isHead : request.method = .head
  · simp [isHead, Method.asked]
  · have isAsked : request.method.asked = request.method := by
      unfold Method.asked
      split
      · rename_i isHead'
        exact absurd isHead' isHead
      · rfl
    simp [isHead, isAsked]

theorem answerAt_guarded (origin : Option SessionId) (place : Guarded) (method : Method) :
    answerAt settings origin request (.guarded place) method =
      (authenticate settings origin).bind fun admitted =>
        match admitted with
        | .error error => .done (.ofError error)
        | .ok session => answerSession settings session origin request place method := by
  cases method <;> rfl

theorem answerAt_ensures_of_open {post : Response → Stance → List Write → Prop} {resource : Resource}
    (isOpen : ∀ place, resource ≠ .guarded place) (origin : Option SessionId) (method : Method)
    (answered : ∀ response, post response .idle []) :
    (answerAt settings origin request resource method).Ensures terms post .idle [] := by
  unfold answerAt
  split
  · exact answered _
  · exact (Program.ensures_bind _ _).mpr (logOut_ensures origin fun outcome => answered _)
  · exact absurd rfl (isOpen _)
  · exact answered _

theorem answer_eq_of_none (isNowhere : Resource.ofPath? request.path = none) :
    answer settings request = .done (.refusal 404) := by
  unfold answer
  rw [isNowhere]
  rfl

theorem authenticate_eq (origin : Option SessionId) :
    authenticate settings origin =
      Program.bind (match origin with
        | some session => Program.take (.loadSession session)
        | none => .done (.ok none)) fun stored => .done (accept settings stored) := by
  have goesOn (stored : Except ServiceError (Option Json)) :
      (match stored with
        | .error error => .done (.error error)
        | .ok none =>
            if settings.policy.isEnforced then .done (.error .notSignedIn) else .done (.ok .nobody)
        | .ok (some context) =>
            match context.session? with
            | some session => .done (.ok session)
            | none => .done (.error (.failedTo "read session context")) :
          Program (Except ServiceError Session)) = .done (accept settings stored) := by
    unfold accept
    split
    · rfl
    · split <;> rfl
    · split <;> rfl
  cases origin with
  | none => exact goesOn (.ok none)
  | some session => exact congrArg (Program.act (.loadSession session)) (funext goesOn)

theorem authenticate_ensures {post : Except ServiceError Session → Stance → List Write → Prop}
    {stance : Stance} {writes : List Write} (origin : Option SessionId)
    (known : ∀ admitted, post admitted stance writes) :
    (authenticate settings origin).Ensures terms post stance writes := by
  rw [authenticate_eq]
  cases origin with
  | none => exact known _
  | some session => exact Program.ensures_quiet rfl fun stored _ => known _

section Looks

variable [Repository Store] {world : World Store}

theorem recognize_leads (cookie : Option String) :
    (recognize cookie).Leads world (.done (cookie.bind world.sessions.find?)) := by
  cases cookie with
  | none => exact .here
  | some cookie => exact .look rfl .here

theorem authenticate_leads (origin : Option SessionId) :
    (authenticate settings origin).Leads world (.done (admission settings world origin)) := by
  rw [authenticate_eq]
  cases origin with
  | none => exact .here
  | some session =>
      apply Program.Leads.look rfl
      have looked : (world.perform 0 (.loadSession session)).1 =
          if world.conditions.sessionLoadFails then .error (.failedTo "read session context")
          else .ok (world.sessions.context session) := by
        cases fails : world.conditions.sessionLoadFails <;> simp [World.perform, fails]
      rw [looked]
      exact .here

theorem shorten_leads {first last : Program Response} (leads : first.Leads world last) :
    (shorten request first).Leads world (shorten request last) := by
  unfold shorten
  split
  · exact leads.bind _
  · exact leads

theorem answer_leads_open {resource : Resource}
    (isResource : Resource.ofPath? request.path = some resource) :
    (answer settings request).Leads world (shorten request
      (answerAt settings (request.cookie.bind world.sessions.find?) request resource
        request.method.asked)) := by
  rw [answer_eq isResource]
  exact (recognize_leads request.cookie).bind _

/-- At a guarded resource, a request comes to what is done for the session that was admitted. -/
theorem answer_leads_guarded {place : Guarded}
    (isGuarded : Resource.ofPath? request.path = some (.guarded place)) :
    (answer settings request).Leads world (shorten request <|
      match admission settings world (request.cookie.bind world.sessions.find?) with
      | .error error => .done (.ofError error)
      | .ok session => answerSession settings session (request.cookie.bind world.sessions.find?) request
          place request.method.asked) := by
  refine (answer_leads_open isGuarded).trans (shorten_leads ?_)
  rw [answerAt_guarded]
  exact (authenticate_leads _).bind _

theorem answer_leads_refusal {place : Guarded}
    (isGuarded : Resource.ofPath? request.path = some (.guarded place))
    (isEnforced : settings.policy.isEnforced = true) (isUnsigned : world.context? request = none) :
    ∃ response, (answer settings request).Leads world (.done response) ∧
      (response.status = 401 ∨
        world.conditions.sessionLoadFails = true ∧ response.status = 500) := by
  have isDone : ∀ error : ServiceError, ∃ response,
      shorten request (.done (.ofError error)) = .done response ∧
        response.status = error.kind.status := by
    intro error
    unfold shorten
    split
    · exact ⟨_, rfl, rfl⟩
    · exact ⟨_, rfl, rfl⟩
  have leads : (answer settings request).Leads world _ := answer_leads_guarded isGuarded
  rcases admission_of_unsigned isEnforced isUnsigned with isRefused | ⟨fails, isRefused⟩
  · rw [isRefused] at leads
    obtain ⟨response, isResponse, status⟩ := isDone .notSignedIn
    exact ⟨response, by rw [← isResponse]; exact leads, .inl status⟩
  · rw [isRefused] at leads
    obtain ⟨response, isResponse, status⟩ := isDone (.failedTo "read session context")
    exact ⟨response, by rw [← isResponse]; exact leads, .inr ⟨fails, status⟩⟩

/-- A response about roles at a guarded resource is a refusal, or one to a session that may look at roles. -/
def Reveals (terms : Terms) (settings : Settings) (world : World Store) (request : Request)
    (response : Response) : Prop :=
  ∀ place, Resource.ofPath? request.path = some (.guarded place) → place.isAboutRoles = true →
    response.isRefusal = false →
      ∃ session, world.asker? settings request = some session ∧ Views terms settings session

/-- A request comes to what is done on terms that suit whoever asks. -/
theorem answer_leads (trusts : ∀ session, world.asker? settings request = some session →
      terms.Trusts settings.policy session) :
    ∃ rest, (answer settings request).Leads world rest ∧ rest.Ensures terms
      (fun response stance _ => stance = .idle ∧ Reveals terms settings world request response)
      .idle [] := by
  have isShort : ∀ (response : Response) (stance : Stance) (_ : List Write),
      stance = .idle ∧ Reveals terms settings world request response →
        stance = .idle ∧ Reveals terms settings world request (.refusal response.status) :=
    fun _ _ _ reveals => reveals
  cases isResource : Resource.ofPath? request.path with
  | none =>
      refine ⟨_, .here, ?_⟩
      rw [answer_eq_of_none isResource]
      exact ⟨rfl, fun place isGuarded => by simp [isResource] at isGuarded⟩
  | some resource =>
      cases resource with
      | guarded place =>
          refine ⟨_, answer_leads_guarded isResource, shorten_ensures ?_ isShort⟩
          cases isAdmitted : admission settings world (request.cookie.bind world.sessions.find?) with
          | error error => exact ⟨rfl, fun _ _ _ isRefusal => by simp at isRefusal⟩
          | ok session =>
              have isAsker := asker?_of_admission isAdmitted
              apply (answerSession_ensures _ request place request.method.asked
                (trusts session isAsker)).mono
              rintro response stance _ ⟨isIdle, discloses⟩
              refine ⟨isIdle, fun other isGuarded isAbout isGranted => ⟨session, isAsker, ?_⟩⟩
              obtain rfl := Resource.guarded.inj (Option.some.inj (isResource.symm.trans isGuarded))
              exact discloses isAbout isGranted
      | health | logout =>
          refine ⟨_, answer_leads_open isResource, shorten_ensures ?_ isShort⟩
          refine answerAt_ensures_of_open (by simp) _ _ fun response => ⟨rfl, ?_⟩
          intro place isGuarded
          simp [isResource] at isGuarded

end Looks

theorem answer_isIdle :
    (answer settings request).Ensures .free (fun _ stance _ => stance = .idle) .idle [] := by
  have trusts : ∀ session, Terms.free.Trusts settings.policy session := fun session =>
    ⟨fun _ _ _ => trivial, fun _ _ _ _ => trivial, fun _ _ _ => trivial⟩
  cases isResource : Resource.ofPath? request.path with
  | none =>
      rw [answer_eq_of_none isResource]
      rfl
  | some resource =>
      rw [answer_eq isResource]
      have answered (origin : Option SessionId) :
          (shorten request (answerAt settings origin request resource request.method.asked)).Ensures
            .free (fun _ stance _ => stance = .idle) .idle [] := by
        refine shorten_ensures ?_ fun _ _ _ isIdle => isIdle
        cases resource with
        | guarded place =>
            rw [answerAt_guarded]
            refine (Program.ensures_bind _ _).mpr (authenticate_ensures origin ?_)
            intro admitted
            cases admitted with
            | error error => rfl
            | ok session =>
                exact (answerSession_ensures origin request place _ (trusts session)).mono
                  fun _ _ _ ensured => ensured.1
        | health | logout => exact answerAt_ensures_of_open (by simp) _ _ fun _ => rfl
      apply (Program.ensures_bind _ _).mpr
      cases request.cookie with
      | none => exact answered none
      | some cookie => exact Program.ensures_quiet rfl fun origin _ => answered origin

end Web

end Rolebook
