import Rolebook.Role
import Rolebook.Text.Lowercase

/-!
Repositories of roles: what every store of roles can be asked, and the order in which roles are listed,
which is that of their names in small letters. An operation that may write hands back the state it
leaves, whatever it answers.
-/

namespace Rolebook

/-- A store of roles. The identifier of a new role is chosen by the caller. -/
class Repository (Store : Type) where
  find : Store → RoleId → Except ServiceError (Option Role)
  list : Store → Except ServiceError (List Role)
  create : Store → RoleId → NewRole → Except ServiceError Role × Store
  /-- Replaces the whole rule set of a role. -/
  save : Store → RoleId → RuleSet → Except ServiceError Unit × Store
  delete : Store → RoleId → Except ServiceError Unit × Store

section Order

variable {Item : Type} {name : Item → String}

/-- Whether an item's name in small letters is not behind another's. -/
def notBehind (name : Item → String) (left right : Item) : Bool :=
  (compare (Text.lowercase (name left)) (Text.lowercase (name right))).isLE

theorem pairwise_sorted (items : List Item) :
    (items.mergeSort (notBehind name)).Pairwise fun left right => notBehind name left right = true := by
  refine List.pairwise_mergeSort ?_ ?_ items
  · intro first second third isBefore isAfter
    exact Std.TransCmp.isLE_trans isBefore isAfter
  · intro left right
    have swapped : compare (Text.lowercase (name right)) (Text.lowercase (name left)) =
        (compare (Text.lowercase (name left)) (Text.lowercase (name right))).swap :=
      Std.OrientedCmp.eq_swap
    rw [notBehind, notBehind, swapped]
    cases compare (Text.lowercase (name left)) (Text.lowercase (name right)) <;> rfl

end Order

namespace Role

def listedBefore : Role → Role → Bool :=
  notBehind Role.name

/-- Roles of one name in small letters stay in the order that they come in. -/
def inListingOrder (roles : List Role) : List Role :=
  roles.mergeSort listedBefore

end Role

end Rolebook
