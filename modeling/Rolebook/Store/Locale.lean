import Rolebook.Store.Repository
import Rolebook.Store.Rows

/-!
How a database server compares the names of roles. What a name is in small letters, and which of two texts
comes first, depends on how the server is set up, so it is part of the server.
-/

namespace Rolebook

structure Locale where
  /-- A text in small letters. -/
  lower : String → String
  /-- Whether a text does not come after another one. -/
  collates : String → String → Bool
  /-- Role rows by their names in small letters; rows of one name come in any order. -/
  order : List RoleRow → List RoleRow
  order_perm : ∀ rows, (order rows).Perm rows
  order_sorted : ∀ rows, (order rows).Pairwise fun left right =>
    collates (lower left.name) (lower right.name) = true

namespace Locale

/-- Whether the server does not list a name after another one. -/
def notBehind (locale : Locale) (left right : String) : Bool :=
  locale.collates (locale.lower left) (locale.lower right)

/-- Every letter has its small one, and texts are compared character by character. -/
def plain : Locale where
  lower := Text.lowercase
  collates left right := (compare left right).isLE
  order rows := rows.mergeSort (Rolebook.notBehind RoleRow.name)
  order_perm rows := List.mergeSort_perm rows _
  order_sorted := pairwise_sorted

theorem plain_notBehind (left right : String) :
    plain.notBehind left right = Rolebook.notBehind id left right := by
  simp only [notBehind, plain, Rolebook.notBehind, id]

end Locale

end Rolebook
