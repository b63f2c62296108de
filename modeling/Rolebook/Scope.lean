/-!
The protected scopes and the fields that each of them declares. The set of scopes is closed; its order
is the order of declaration.
-/

namespace Rolebook

inductive Scope where
  | rbacAdmin
  | systemAdmin
  | employeeRecords
  | employmentRecords
  deriving DecidableEq, Inhabited

namespace Scope

def rank : Scope → Nat
  | rbacAdmin => 0
  | systemAdmin => 1
  | employeeRecords => 2
  | employmentRecords => 3

instance : Ord Scope :=
  ⟨fun left right => compare left.rank right.rank⟩

instance : Std.TransOrd Scope where
  eq_swap := by
    intro left right
    cases left <;> cases right <;> rfl
  isLE_trans := by
    intro first second third
    cases first <;> cases second <;> cases third <;> decide

instance : Std.LawfulEqOrd Scope where
  compare_self := by
    intro scope
    cases scope <;> rfl
  eq_of_compare := by
    intro left right
    cases left <;> cases right <;> decide

def all : List Scope :=
  [rbacAdmin, systemAdmin, employeeRecords, employmentRecords]

@[simp]
theorem mem_all (scope : Scope) : scope ∈ all := by
  cases scope <;> decide

def name : Scope → String
  | rbacAdmin => "RBAC_ADMIN"
  | systemAdmin => "SYSTEM_ADMIN"
  | employeeRecords => "EMPLOYEE_RECORDS"
  | employmentRecords => "EMPLOYMENT_RECORDS"

def ofName? (text : String) : Option Scope :=
  all.find? fun scope => scope.name == text

@[simp]
theorem ofName?_name (scope : Scope) : ofName? scope.name = some scope := by
  cases scope <;> rfl

theorem ofName?_eq_some_iff {text : String} {scope : Scope} :
    ofName? text = some scope ↔ scope.name = text := by
  constructor
  · intro found
    simpa using List.find?_some found
  · intro named
    rw [← named, ofName?_name]

theorem name_injective {left right : Scope} (same : left.name = right.name) : left = right := by
  simpa using (ofName?_eq_some_iff.mpr same).symm

def fields : Scope → List String
  | rbacAdmin | systemAdmin => []
  | employeeRecords =>
      ["first_name", "last_name", "dob", "honorific", "marital_status", "contact"]
  | employmentRecords =>
      ["status", "probation_end_date", "work_modality", "period", "salary"]

def declares (scope : Scope) (field : String) : Bool :=
  scope.fields.contains field

@[simp]
theorem declares_iff {scope : Scope} {field : String} :
    scope.declares field = true ↔ field ∈ scope.fields := by
  simp [declares]

end Scope

end Rolebook
