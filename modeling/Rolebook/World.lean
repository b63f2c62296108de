import Rolebook.Cache
import Rolebook.SessionStore
import Rolebook.Store.Repository

/-!
What all tasks share: the repository, the cache and the sessions of the web, together with the
conditions under which the repository and the session store answer. An action is one indivisible
exchange of a task with this world.
-/

namespace Rolebook

inductive Operation where
  | find
  | list
  | create
  | delete
  | save
  deriving DecidableEq

/-- How the collaborators behave: the errors they answer with, and how long a save takes before it
writes and after it has written, in milliseconds. -/
structure Conditions where
  fault : Operation → Option ServiceError
  saveDelay : Nat
  ackDelay : Nat
  sessionLoadFails : Bool
  sessionRemovalFails : Bool

namespace Conditions

def calm : Conditions :=
  ⟨fun _ => none, 0, 0, false, false⟩

def setFault (conditions : Conditions) (operation : Operation) (error : Option ServiceError) :
    Conditions :=
  { conditions with
    fault := fun other => if other = operation then error else conditions.fault other }

end Conditions

structure World (Store : Type) where
  store : Store
  cache : Cache
  sessions : SessionStore
  conditions : Conditions
  /-- The identifier of the n-th role that is created, counted from one. -/
  identify : Nat → RoleId
  created : Nat
  finds : Nat
  saves : Nat

namespace World

def start {Store : Type} (store : Store) (identify : Nat → RoleId) : World Store :=
  ⟨store, .empty, .empty, .calm, identify, 0, 0, 0⟩

def signIn {Store : Type} (world : World Store) (cookie : String) (context : Json) : World Store :=
  { world with sessions := world.sessions.signIn cookie context }

def clearSession {Store : Type} (world : World Store) (session : SessionId) : World Store :=
  { world with sessions := world.sessions.setContext session none }

end World

/-- One exchange with the world. A save is announced and then written, with a wait before and a wait after
it is written. To let time pass, in milliseconds, changes nothing in the world; it lets others take turns. -/
inductive Action where
  | wait (duration : Nat)
  | peek (role : RoleId)
  | current (slot : SlotId)
  | publish (slot : SlotId) (role : Role)
  | clear (slot : SlotId)
  | withdraw (role : RoleId) (slot : SlotId)
  | release (slot : SlotId)
  | find (role : RoleId)
  | list
  | create (role : NewRole)
  | announceSave
  | write (role : RoleId) (rules : RuleSet)
  | delete (role : RoleId)
  | recognize (cookie : String)
  | loadSession (session : SessionId)
  | removeSession (session : SessionId)
  | emptySession (session : SessionId)

def Action.duration : Action → Nat
  | wait duration => duration
  | _ => 0

/-- What the world answers. To a save that is announced, it tells how long the save will wait before it is
written and after that. -/
abbrev Action.Reply : Action → Type
  | peek _ | current _ => Option Role
  | wait _ | publish _ _ | clear _ | withdraw _ _ | release _ | emptySession _ => Unit
  | find _ => Except ServiceError (Option Role)
  | list => Except ServiceError (List Role)
  | create _ => Except ServiceError Role
  | announceSave => Nat × Nat
  | write _ _ | delete _ | removeSession _ => Except ServiceError Unit
  | recognize _ => Option SessionId
  | loadSession _ => Except ServiceError (Option Json)

namespace World

variable {Store : Type} [Repository Store]

def ask {Answer : Type} (world : World Store) (operation : Operation)
    (answer : Except ServiceError Answer) : Except ServiceError Answer :=
  match world.conditions.fault operation with
  | some error => .error error
  | none => answer

/-- A write to the repository; with an error in its place nothing is written. -/
def change {Answer : Type} (world : World Store) (operation : Operation)
    (effect : Store → Except ServiceError Answer × Store) :
    Except ServiceError Answer × World Store :=
  match world.conditions.fault operation with
  | some error => (.error error, world)
  | none =>
      let (answer, store) := effect world.store
      (answer, { world with store })

/-- Creates a role under the next identifier, which is used up only if the role is created. -/
def createRole (world : World Store) (role : NewRole) : Except ServiceError Role × World Store :=
  match world.change .create fun store =>
      Repository.create store (world.identify (world.created + 1)) role with
  | (.ok created, after) => (.ok created, { after with created := after.created + 1 })
  | (.error error, after) => (.error error, after)

def perform (world : World Store) (task : TaskId) : (action : Action) → action.Reply × World Store
  | .wait _ => ((), world)
  | .peek role => (world.cache.get role, world)
  | .current slot => ((world.cache.slot slot).snapshot, world)
  | .publish slot role => ((), { world with cache := world.cache.setSnapshot slot (some role) })
  | .clear slot => ((), { world with cache := world.cache.setSnapshot slot none })
  | .withdraw role slot => ((), { world with cache := world.cache.withdraw role slot })
  | .release slot => ((), { world with cache := world.cache.leave slot task })
  | .find role =>
      (world.ask .find (Repository.find world.store role), { world with finds := world.finds + 1 })
  | .list => (world.ask .list (Repository.list world.store), world)
  | .create role => world.createRole role
  | .announceSave =>
      ((world.conditions.saveDelay, world.conditions.ackDelay),
        { world with saves := world.saves + 1 })
  | .write role rules => world.change .save fun store => Repository.save store role rules
  | .delete role => world.change .delete fun store => Repository.delete store role
  | .recognize cookie => (world.sessions.find? cookie, world)
  | .loadSession session =>
      if world.conditions.sessionLoadFails then (.error (.failedTo "read session context"), world)
      else (.ok (world.sessions.context session), world)
  | .removeSession session =>
      if world.conditions.sessionRemovalFails then (.error (.failedTo "clear session"), world)
      else (.ok (), world.clearSession session)
  | .emptySession session => ((), world.clearSession session)

end World

end Rolebook
