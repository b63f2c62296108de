import Rolebook.Store.Repository

/-!
Roles kept in memory. Names are unique up to the case of the letters A to Z, and a role that an actor is
assigned to cannot be deleted.
-/

namespace Rolebook

/-- The roles by identifier, and the role of each actor that has one. Nothing relies on the order of the
entries, which only shows where listed roles share a name in small letters. -/
structure MemoryStore where
  roles : List (RoleId × Role)
  assignments : List (ActorId × RoleId)

namespace MemoryStore

def empty : MemoryStore :=
  ⟨[], []⟩

def role? (store : MemoryStore) (id : RoleId) : Option Role :=
  (store.roles.find? fun entry => entry.1 == id).map Prod.snd

def put (store : MemoryStore) (id : RoleId) (role : Role) : MemoryStore :=
  { store with roles := store.roles.filter (fun entry => entry.1 ≠ id) ++ [(id, role)] }

def listing (store : MemoryStore) : List Role :=
  Role.inListingOrder (store.roles.map Prod.snd)

/-- A name that a stored role answers to is taken; only then is the name itself looked at. -/
def create (store : MemoryStore) (id : RoleId) (role : NewRole) :
    Except ServiceError Role × MemoryStore :=
  if store.roles.any fun entry => entry.2.answersTo role.name then
    (.error (.nameTaken (Text.trim role.name)), store)
  else
    match role.withId id with
    | .error error => (.error error, store)
    | .ok created => (.ok created, store.put id created)

def save (store : MemoryStore) (id : RoleId) (rules : RuleSet) :
    Except ServiceError Unit × MemoryStore :=
  match store.role? id with
  | none => (.error (.roleMissing id), store)
  | some _ =>
      (.ok (), { store with
        roles := store.roles.map fun entry =>
          if entry.1 = id then (id, entry.2.withRules rules) else entry })

/-- An assignment is looked for before the role itself. -/
def delete (store : MemoryStore) (id : RoleId) : Except ServiceError Unit × MemoryStore :=
  if store.assignments.any fun entry => entry.2 == id then
    (.error (.roleAssigned id), store)
  else
    match store.role? id with
    | none => (.error (.roleMissing id), store)
    | some _ => (.ok (), { store with roles := store.roles.filter fun entry => entry.1 ≠ id })

def assign (store : MemoryStore) (actor : ActorId) (id : RoleId) :
    Except ServiceError Unit × MemoryStore :=
  match store.role? id with
  | none => (.error (.roleMissing id), store)
  | some _ =>
      (.ok (), { store with
        assignments := store.assignments.filter (fun entry => entry.1 ≠ actor) ++ [(actor, id)] })

instance : Repository MemoryStore where
  find store id := .ok (store.role? id)
  list store := .ok store.listing
  create := create
  save := save
  delete := delete

end MemoryStore

end Rolebook
