import Rolebook.Text.Blank
import Rolebook.Text.Letters

/-!
Access levels, from no access to full access. They are ordered by capability, and a level satisfies
every requirement at or below it.
-/

namespace Rolebook

/-- How much a holder may do, in ascending order. -/
inductive Level where
  | nothing
  | view
  | edit
  | full
  deriving DecidableEq, Inhabited

namespace Level

def rank : Level → Nat
  | nothing => 0
  | view => 1
  | edit => 2
  | full => 3

instance : LE Level :=
  ⟨fun left right => left.rank ≤ right.rank⟩

instance (left right : Level) : Decidable (left ≤ right) :=
  inferInstanceAs (Decidable (left.rank ≤ right.rank))

@[simp]
theorem le_refl (level : Level) : level ≤ level :=
  Nat.le_refl _

theorem le_trans {low middle high : Level} (first : low ≤ middle) (second : middle ≤ high) :
    low ≤ high :=
  Nat.le_trans first second

def all : List Level :=
  [nothing, view, edit, full]

def name : Level → String
  | nothing => "NONE"
  | view => "VIEW"
  | edit => "EDIT"
  | full => "FULL"

def ofName? (text : String) : Option Level :=
  all.find? fun level => level.name == text

/-- The level that a text names once blanks around it and the case of its letters are ignored. -/
def parse? (text : String) : Option Level :=
  all.find? fun level => Text.sameLetters level.name (Text.trim text)

def satisfies (level required : Level) : Bool :=
  required ≤ level

def atLeast (required actual : Level) : Bool :=
  actual.satisfies required

@[simp]
theorem satisfies_iff {level required : Level} : level.satisfies required = true ↔ required ≤ level := by
  simp [satisfies]

@[simp]
theorem ofName?_name (level : Level) : ofName? level.name = some level := by
  cases level <;> rfl

end Level

end Rolebook
