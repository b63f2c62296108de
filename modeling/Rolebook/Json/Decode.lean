import Rolebook.Json
import Rolebook.Session

/-!
Reading stored values from JSON. A record is an object with every member present, in which other
members are passed over, or the list of its members in order. A choice is its name, or an object with
that one member and null for its value.
-/

namespace Rolebook.Json

/-- The members of a record by name, in the order of the names asked for. -/
def members? (names : List String) : Json → Option (List Json)
  | object members => names.mapM fun name => (members.find? fun member => member.1 == name).map Prod.snd
  | array items => if items.length = names.length then some items else none
  | _ => none

def choice? : Json → Option String
  | text name => some name
  | object [(name, null)] => some name
  | _ => none

def level? (json : Json) : Option Level :=
  json.choice?.bind Level.ofName?

def scope? (json : Json) : Option Scope :=
  json.choice?.bind Scope.ofName?

def roleId? (json : Json) : Option RoleId :=
  json.text?.bind RoleId.parse?

def actorId? (json : Json) : Option ActorId :=
  json.text?.bind ActorId.parse?

def fieldRule? (json : Json) : Option FieldRule :=
  match json.members? ["field_name", "access_level"] with
  | some [field, level] => do
      let field ← field.text?
      let level ← level.level?
      return ⟨field, level⟩
  | _ => none

def session? (json : Json) : Option Session :=
  match json.members? ["actor_id", "username", "role_id"] with
  | some [actor, username, role] => do
      let actor ← actor.actorId?
      let username ← username.text?
      let role ← role.roleId?
      return ⟨actor, username, role⟩
  | _ => none

end Rolebook.Json
