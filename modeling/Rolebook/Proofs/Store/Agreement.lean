import Mathlib.Data.List.Perm.Basic
import Rolebook.Proofs.Store.Memory
import Rolebook.Proofs.Store.Reads
import Rolebook.Proofs.Store.Writes

/-!
Two stores that answer alike. Tables mirror a store in memory if they hold the rows of its roles, in
whatever order. Every call is then answered alike and leaves tables that mirror what is in memory, as long
as a new role gets an identifier that is free, actors are given stored roles, and the server folds the
names in use as the case of the letters A to Z does. Lists have the same roles, each in the order of the
names in small letters, which are the server's for one of them; where the server orders the names in use as
memory does, the lists are the same.
-/

namespace Rolebook

/-- What a store of roles is asked or told, together with the roles that actors are given. -/
inductive StoreCall where
  | find (id : RoleId)
  | list
  | create (id : RoleId) (role : NewRole)
  | save (id : RoleId) (rules : RuleSet)
  | delete (id : RoleId)
  | assign (actor : ActorId) (id : RoleId)

inductive StoreAnswer where
  | found (role : Option Role)
  | listed (roles : List Role)
  | created (role : Role)
  | done

/-- The same answer, but for the order of the roles in a list. -/
def StoreAnswer.Alike : Except ServiceError StoreAnswer → Except ServiceError StoreAnswer → Prop
  | .ok (.listed roles), .ok (.listed others) => roles.Perm others
  | answer, other => answer = other

theorem StoreAnswer.Alike.refl : (answer : Except ServiceError StoreAnswer) → Alike answer answer
  | .ok (.listed roles) => List.Perm.refl roles
  | .ok (.found _) | .ok (.created _) | .ok .done | .error _ => rfl

/-- A store of roles in which actors have roles. -/
class Directory (Store : Type) extends Repository Store where
  assign : Store → ActorId → RoleId → Except ServiceError Unit × Store

instance : Directory MemoryStore where
  assign := MemoryStore.assign

instance : Directory Database where
  assign database actor id := (.ok (), database.setActor actor id)

namespace StoreCall

section Runs

variable {Store : Type} [Directory Store]

def carryOut (store : Store) : StoreCall → Except ServiceError StoreAnswer × Store
  | find id => ((Repository.find store id).map .found, store)
  | list => ((Repository.list store).map .listed, store)
  | create id role =>
      let (outcome, after) := Repository.create store id role
      (outcome.map .created, after)
  | save id rules =>
      let (outcome, after) := Repository.save store id rules
      (outcome.map fun _ => .done, after)
  | delete id =>
      let (outcome, after) := Repository.delete store id
      (outcome.map fun _ => .done, after)
  | assign actor id =>
      let (outcome, after) := Directory.assign store actor id
      (outcome.map fun _ => .done, after)

theorem carryOut_create (store : Store) (id : RoleId) (role : NewRole) :
    (create id role).carryOut store =
      ((Repository.create store id role).1.map .created, (Repository.create store id role).2) :=
  rfl

def runAll (store : Store) : List StoreCall → List (Except ServiceError StoreAnswer) × Store
  | [] => ([], store)
  | call :: rest =>
      let (answer, next) := carryOut store call
      let (answers, last) := runAll next rest
      (answer :: answers, last)

end Runs

/-- A new role gets an identifier that is free, and an actor is given a role that is stored. -/
def Proper (store : MemoryStore) : StoreCall → Prop
  | create id _ => store.role? id = none
  | assign _ id => (store.role? id).isSome
  | _ => True

instance (store : MemoryStore) : (call : StoreCall) → Decidable (call.Proper store)
  | create id _ => inferInstanceAs (Decidable (store.role? id = none))
  | assign _ id => inferInstanceAs (Decidable ((store.role? id).isSome = true))
  | find _ | list | save _ _ | delete _ => .isTrue trivial

def AllProper (store : MemoryStore) : List StoreCall → Prop
  | [] => True
  | call :: rest => call.Proper store ∧ AllProper (call.carryOut store).2 rest

instance decidableAllProper (store : MemoryStore) :
    (calls : List StoreCall) → Decidable (AllProper store calls)
  | [] => .isTrue trivial
  | call :: rest =>
      have := decidableAllProper (call.carryOut store).2 rest
      inferInstanceAs (Decidable (call.Proper store ∧ AllProper (call.carryOut store).2 rest))

def newName? : StoreCall → Option String
  | create _ role => some (Text.trim role.name)
  | _ => none

end StoreCall

namespace Locale

/-- Two of these names are one in the server's small letters exactly if they differ in no more than the
case of the letters A to Z. -/
def FoldsAlike (locale : Locale) (names : List String) : Prop :=
  ∀ left ∈ names, ∀ right ∈ names,
    locale.lower left = locale.lower right ↔ Text.lowerAscii left = Text.lowerAscii right

/-- The server lists these names in the order that they have in memory, in which no two share a place that
differ in more than the case of the letters A to Z. -/
structure OrdersAlike (locale : Locale) (names : List String) : Prop where
  ordered : ∀ left ∈ names, ∀ right ∈ names,
    locale.notBehind left right = true → Rolebook.notBehind id left right = true
  toldApart : ∀ left ∈ names, ∀ right ∈ names,
    Text.lowercase left = Text.lowercase right → Text.lowerAscii left = Text.lowerAscii right

theorem FoldsAlike.ordersAlike {names : List String} (folds : plain.FoldsAlike names) :
    plain.OrdersAlike names where
  ordered left _ right _ isBefore := by rwa [plain_notBehind] at isBefore
  toldApart left isLeft right isRight := (folds left isLeft right isRight).mp

end Locale

namespace MemoryStore

def rulesOf (store : MemoryStore) (id : RoleId) : RuleSet :=
  ((store.role? id).map Role.rules).getD .empty

/-- The names that are in use, or will be if calls are carried out. -/
def names (store : MemoryStore) (calls : List StoreCall) : List String :=
  store.roles.map (fun entry => entry.2.name) ++ calls.filterMap StoreCall.newName?

end MemoryStore

namespace Tables

/-- The rule rows of a role are those of a rule set, in some order. -/
structure Holds (tables : Tables) (id : RoleId) (rules : RuleSet) : Prop where
  scopes : (tables.scopesOf id).Perm (rules.scopeRows id)
  fields : (tables.fieldsOf id).Perm (rules.fieldRows id)

theorem Holds.vacant {tables : Tables} {id : RoleId} (holds : tables.Holds id .empty) (scope : Scope) :
    tables.Vacant id scope where
  scopes := by
    have noScopes := List.filter_eq_nil_iff.mp (List.perm_nil.mp holds.scopes)
    intro row isListed isRole
    simpa [isRole] using noScopes row isListed
  fields := by
    have noFields := List.filter_eq_nil_iff.mp (List.perm_nil.mp holds.fields)
    intro row isListed isRole
    simpa [isRole] using noFields row isListed

variable {tables : Tables} {rulesOf : RoleId → RuleSet} (holds : ∀ id, tables.Holds id (rulesOf id))

include holds

theorem holds_clearRules (id other : RoleId) :
    (tables.clearRules id).Holds other (if other = id then .empty else rulesOf other) := by
  have isCleared : (tables.clearRules id).scopesOf other =
      if other = id then [] else tables.scopesOf other := filter_owner_filter_ne _ id other
  have areCleared : (tables.clearRules id).fieldsOf other =
      if other = id then [] else tables.fieldsOf other := filter_owner_filter_ne _ id other
  constructor
  · rw [isCleared]
    split
    · exact .nil
    · exact (holds other).scopes
  · rw [areCleared]
    split
    · exact .nil
    · exact (holds other).fields

theorem holds_withRules {id : RoleId} (isVacant : rulesOf id = .empty) (rules : RuleSet)
    (other : RoleId) :
    (tables.withRules (rules.scopeRows id) (rules.fieldRows id)).Holds other
      (if other = id then rules else rulesOf other) := by
  have own := holds id
  rw [isVacant] at own
  have noScopes : tables.scopesOf id = [] := List.perm_nil.mp own.scopes
  have noFields : tables.fieldsOf id = [] := List.perm_nil.mp own.fields
  have added : (tables.withRules (rules.scopeRows id) (rules.fieldRows id)).scopesOf other =
      tables.scopesOf other ++ if other = id then rules.scopeRows id else [] := by
    rw [← filter_of_owned RuleSet.role_of_mem_scopeRows other]
    exact List.filter_append ..
  have furtherAdded : (tables.withRules (rules.scopeRows id) (rules.fieldRows id)).fieldsOf other =
      tables.fieldsOf other ++ if other = id then rules.fieldRows id else [] := by
    rw [← filter_of_owned RuleSet.role_of_mem_fieldRows other]
    exact List.filter_append ..
  by_cases same : other = id
  · subst same
    constructor
    · simp [added, noScopes]
    · simp [furtherAdded, noFields]
  · constructor
    · simpa [added, same] using (holds other).scopes
    · simpa [furtherAdded, same] using (holds other).fields

end Tables

/-- A server that refuses nothing and holds the rows of what is in memory. -/
structure Database.Mirrors (database : Database) (store : MemoryStore) : Prop where
  reliable : database.refusals = Refusals.none
  roles : database.tables.roles.Perm (store.roles.map fun entry => entry.2.row)
  rules : ∀ id, database.tables.Holds id (store.rulesOf id)
  actors : database.tables.actors.Perm store.assignments

namespace Database

theorem mirrors_empty : empty.Mirrors .empty where
  reliable := rfl
  roles := .refl _
  rules _ := ⟨.refl _, .refl _⟩
  actors := .refl _

theorem Mirrors.pass {database : Database} {store : MemoryStore} (mirrors : database.Mirrors store)
    (place : Nat) (statements : List Statement) : database.refusals.Pass place statements := by
  intro offset statement _
  rw [mirrors.reliable]
  rfl

section Reads

variable {database : Database} {store : MemoryStore} (sound : store.Sound)
  (mirrors : database.Mirrors store)

include sound mirrors

theorem Mirrors.distinctIds : (database.tables.roles.map RoleRow.id).Nodup := by
  have sameIds : (store.roles.map fun entry => entry.2.row).map RoleRow.id = store.roles.map Prod.fst := by
    rw [List.map_map]
    exact List.map_congr_left sound.filed
  rw [(mirrors.roles.map RoleRow.id).nodup_iff, sameIds]
  exact sound.distinctIds

theorem Mirrors.role?_eq (id : RoleId) : database.tables.role? id = (store.role? id).map Role.row := by
  apply Option.ext
  intro row
  unfold Tables.role?
  rw [find?_key_eq_some_iff (mirrors.distinctIds sound), mirrors.roles.mem_iff, Option.map_eq_some_iff]
  simp only [sound.role?_eq_some_iff]
  constructor
  · rintro ⟨isListed, rfl⟩
    obtain ⟨entry, isEntry, rfl⟩ := List.mem_map.mp isListed
    refine ⟨entry.2, ?_, rfl⟩
    have isFiled : entry.2.row.id = entry.1 := sound.filed entry isEntry
    rw [isFiled]
    exact isEntry
  · rintro ⟨role, isEntry, rfl⟩
    exact ⟨List.mem_map.mpr ⟨(id, role), isEntry, rfl⟩, sound.filed _ isEntry⟩

theorem Mirrors.read_row {id : RoleId} {role : Role} (isStored : store.role? id = some role) :
    database.tables.read role.row = .ok role := by
  obtain rfl : role.id = id := sound.filed _ (sound.role?_eq_some_iff.mp isStored)
  have isRules : store.rulesOf role.id = role.rules := by simp [MemoryStore.rulesOf, isStored]
  have holds := isRules ▸ mirrors.rules role.id
  exact Role.read_row holds.scopes holds.fields

theorem Mirrors.find_eq (id : RoleId) : database.find id = .ok (store.role? id) := by
  rw [find_of_pass (mirrors.pass 0 _), mirrors.role?_eq sound]
  cases isStored : store.role? id with
  | none => rfl
  | some role =>
      simp only [Option.map_some, mirrors.read_row sound isStored, Except.map]

theorem Mirrors.exists_list : ∃ roles, database.list = .ok roles ∧
    roles.map Role.row = database.rolesByName ∧ roles.Perm (store.roles.map Prod.snd) := by
  have reordered : database.rolesByName.Perm ((store.roles.map Prod.snd).map Role.row) := by
    rw [List.map_map]
    exact database.rolesByName_perm.trans mirrors.roles
  obtain ⟨roles, areRows, areStored⟩ := (congrFun₂ (List.eq_map_comp_perm Role.row) _ _).mpr reordered
  refine ⟨roles, ?_, areRows.symm, areStored⟩
  rw [list_of_pass (mirrors.pass 0 listing) (mirrors.distinctIds sound), mapM_eq_ok_iff, areRows,
    List.map_map]
  apply List.map_congr_left
  intro role isListed
  obtain ⟨entry, isEntry, rfl⟩ := List.mem_map.mp (areStored.mem_iff.mp isListed)
  exact mirrors.read_row sound (sound.role?_eq_some_iff.mpr isEntry)

theorem Mirrors.pairwise_list {roles : List Role} (isList : database.list = .ok roles) :
    roles.Pairwise fun left right => database.locale.notBehind left.name right.name = true := by
  obtain ⟨others, isOther, areRows, _⟩ := mirrors.exists_list sound
  obtain rfl := Except.ok.inj (isOther.symm.trans isList)
  have inOrder := database.locale.order_sorted database.tables.roles
  change database.rolesByName.Pairwise _ at inOrder
  rw [← areRows, List.pairwise_map] at inOrder
  exact inOrder

/-- Where the server orders the names as memory does, both lists are the same. -/
theorem Mirrors.list_eq {names : List String} (alike : database.locale.OrdersAlike names)
    (areNames : ∀ entry ∈ store.roles, entry.2.name ∈ names) : database.list = .ok store.listing := by
  obtain ⟨roles, isList, _, areStored⟩ := mirrors.exists_list sound
  have isEntry : ∀ role ∈ roles, ∃ entry ∈ store.roles, entry.2 = role := fun role isListed =>
    List.mem_map.mp (areStored.mem_iff.mp isListed)
  have isName : ∀ role ∈ roles, role.name ∈ names := by
    intro role isListed
    obtain ⟨entry, isStored, rfl⟩ := isEntry role isListed
    exact areNames entry isStored
  have areSorted : roles.Pairwise fun left right => left.listedBefore right = true :=
    (mirrors.pairwise_list sound isList).imp_of_mem fun isLeft isRight =>
      alike.ordered _ (isName _ isLeft) _ (isName _ isRight)
  have sameList : roles = store.listing := by
    refine List.Perm.eq_of_pairwise ?_ areSorted (pairwise_sorted (store.roles.map Prod.snd))
      (areStored.trans (List.mergeSort_perm _ _).symm)
    intro left right isLeft isRight isBefore isAfter
    have sameName : Text.lowercase left.name = Text.lowercase right.name :=
      Std.LawfulEqCmp.compare_eq_iff_eq.mp (Std.OrientedCmp.isLE_antisymm isBefore isAfter)
    have isRightRole : right ∈ roles :=
      areStored.mem_iff.mpr ((List.mergeSort_perm _ _).mem_iff.mp isRight)
    obtain ⟨leftEntry, isLeftEntry, rfl⟩ := isEntry left isLeft
    obtain ⟨rightEntry, isRightEntry, rfl⟩ := isEntry right isRightRole
    have sameLetters := alike.toldApart _ (isName _ isLeft) _ (isName _ isRightRole) sameName
    rw [sound.eq_of_sameName isLeftEntry isRightEntry sameLetters]
  rw [isList, sameList]

end Reads

def Agree {Value : Type} (left : Except ServiceError Value × Database)
    (right : Except ServiceError Value × MemoryStore) : Prop :=
  left.1 = right.1 ∧ left.2.Mirrors right.2

theorem Agree.map {Value Result : Type} {left : Except ServiceError Value × Database}
    {right : Except ServiceError Value × MemoryStore} (agree : Agree left right)
    (answer : Value → Result) : Agree (left.1.map answer, left.2) (right.1.map answer, right.2) :=
  ⟨congrArg (Except.map answer) agree.1, agree.2⟩

theorem Mirrors.assign {database : Database} {store : MemoryStore} (mirrors : database.Mirrors store)
    (actor : ActorId) {id : RoleId} (isStored : (store.role? id).isSome) :
    Agree (Directory.assign database actor id) (Directory.assign store actor id) := by
  obtain ⟨role, located⟩ := Option.isSome_iff_exists.mp isStored
  have assigned := MemoryStore.assign_of_stored located actor
  refine ⟨(congrArg Prod.fst assigned).symm, ?_⟩
  change (database.setActor actor id).Mirrors (store.assign actor id).2
  rw [assigned]
  refine ⟨mirrors.reliable, mirrors.roles, fun other => ?_, (mirrors.actors.filter _).append (.refl _)⟩
  exact ⟨(mirrors.rules other).scopes, (mirrors.rules other).fields⟩

section Writes

variable {database : Database} {store : MemoryStore} (sound : store.Sound)
  (mirrors : database.Mirrors store)

section Tables

include mirrors

theorem Mirrors.saved {id : RoleId} {role : Role} (located : store.role? id = some role)
    (rules : RuleSet) :
    Mirrors { database with
        tables := (database.tables.clearRules id).withRules (rules.scopeRows id) (rules.fieldRows id) }
      { store with roles := store.roles.map (MemoryStore.resaved id rules) } where
  reliable := mirrors.reliable
  actors := mirrors.actors
  roles := by
    have sameRows : (store.roles.map (MemoryStore.resaved id rules)).map (fun entry => entry.2.row) =
        store.roles.map fun entry => entry.2.row := by
      rw [List.map_map]
      apply List.map_congr_left
      intro entry _
      rw [Function.comp_apply, MemoryStore.resaved_snd]
      split <;> rfl
    exact sameRows ▸ mirrors.roles
  rules := by
    intro other
    have isSaved : MemoryStore.rulesOf
        { store with roles := store.roles.map (MemoryStore.resaved id rules) } other =
        if other = id then rules else store.rulesOf other := by
      rw [MemoryStore.rulesOf, MemoryStore.role?_save (MemoryStore.save_of_stored located rules), located]
      split <;> rfl
    have cleared := Tables.holds_clearRules mirrors.rules id
    have written := Tables.holds_withRules cleared (if_pos rfl) rules other
    rw [isSaved]
    by_cases same : other = id <;> simpa [same] using written

theorem Mirrors.put {role : Role} (isFree : store.role? role.id = none) :
    Mirrors { database with
        tables := (database.tables.withRole role.row).withRules (role.rules.scopeRows role.id)
          (role.rules.fieldRows role.id) }
      (store.put role.id role) where
  reliable := mirrors.reliable
  actors := mirrors.actors
  roles := by
    have isOnlyAdded : (store.roles.filter fun entry => entry.1 ≠ role.id) = store.roles := by
      rw [List.filter_eq_self]
      intro entry isEntry
      simpa using MemoryStore.role?_eq_none_iff.mp isFree entry isEntry
    rw [MemoryStore.put, isOnlyAdded, List.map_append]
    exact mirrors.roles.append (.refl _)
  rules := by
    intro other
    have noRules : store.rulesOf role.id = .empty := by simp [MemoryStore.rulesOf, isFree]
    have written := Tables.holds_withRules mirrors.rules noRules role.rules other
    have isPut : (store.put role.id role).rulesOf other =
        if other = role.id then role.rules else store.rulesOf other := by
      rw [MemoryStore.rulesOf, MemoryStore.role?_put]
      split <;> rfl
    rw [isPut]
    exact ⟨written.scopes, written.fields⟩

theorem Mirrors.isHeld_iff (id : RoleId) :
    (database.tables.actors.any fun entry => entry.2 == id) = true ↔ store.Held id := by
  simp [MemoryStore.Held, mirrors.actors.mem_iff]

end Tables

include sound mirrors

theorem Mirrors.deleted {id : RoleId} {role : Role} (isNotHeld : ¬ store.Held id)
    (located : store.role? id = some role) :
    Mirrors { database with tables := Statement.effect database.tables (.deleteRole id) }
      { store with roles := store.roles.filter fun entry => entry.1 ≠ id } where
  reliable := mirrors.reliable
  actors := mirrors.actors
  roles := by
    have sameKept : (store.roles.map fun entry => entry.2.row).filter (fun row => row.id ≠ id) =
        (store.roles.filter fun entry => entry.1 ≠ id).map fun entry => entry.2.row := by
      rw [List.filter_map]
      congr 1
      apply List.filter_congr
      intro entry isEntry
      simp [Role.row, sound.filed entry isEntry]
    exact sameKept ▸ mirrors.roles.filter _
  rules := by
    intro other
    have isCleared : MemoryStore.rulesOf
        { store with roles := store.roles.filter fun entry => entry.1 ≠ id } other =
        if other = id then .empty else store.rulesOf other := by
      rw [MemoryStore.rulesOf,
        MemoryStore.role?_delete (MemoryStore.delete_of_stored isNotHeld located)]
      split <;> rfl
    have cleared := Tables.holds_clearRules mirrors.rules id other
    rw [isCleared]
    exact ⟨cleared.scopes, cleared.fields⟩

theorem Mirrors.save (id : RoleId) (rules : RuleSet) :
    Agree (database.save id rules) (store.save id rules) := by
  cases located : store.role? id with
  | none =>
      have isMissing : database.tables.role? id = none := by rw [mirrors.role?_eq sound, located]; rfl
      obtain ⟨error, isOutcome, isCause⟩ := save_of_missing isMissing rules
      rw [isOutcome, isCause (by rw [mirrors.reliable]; rfl) (by rw [mirrors.reliable]; rfl),
        MemoryStore.save_of_missing located]
      exact ⟨rfl, mirrors⟩
  | some role =>
      have isStored : (database.tables.role? id).isSome := by
        rw [mirrors.role?_eq sound, located]
        rfl
      rw [save_eq, transact_of_pass (rules.atomic_saving id) (mirrors.pass 0 _) (RuleSet.applyAll_saving isStored),
        MemoryStore.save_of_stored located rules]
      exact ⟨rfl, mirrors.saved located rules⟩

/-- A new identifier apart, the tables reject a role for its name exactly if memory does. -/
theorem Mirrors.isTaken_iff {created : Role} (isFree : store.role? created.id = none)
    {names : List String} (folds : database.locale.FoldsAlike names)
    (areNames : ∀ entry ∈ store.roles, entry.2.name ∈ names) {name : String}
    (isName : Text.trim name ∈ names) (isTrimmed : created.name = Text.trim name) :
    (∃ row ∈ database.tables.roles,
      row.id = created.id ∨ database.locale.lower row.name = database.locale.lower created.name) ↔
      store.Taken name := by
  constructor
  · rintro ⟨row, isListed, isSame⟩
    obtain ⟨entry, isEntry, rfl⟩ := List.mem_map.mp (mirrors.roles.mem_iff.mp isListed)
    have isOther : entry.2.row.id ≠ created.id := by
      intro same
      have isFiled : entry.1 = created.id := (sound.filed entry isEntry).symm.trans same
      exact MemoryStore.role?_eq_none_iff.mp isFree entry isEntry isFiled
    refine ⟨entry, isEntry, (folds _ (areNames entry isEntry) _ isName).mp ?_⟩
    exact isTrimmed ▸ isSame.resolve_left isOther
  · rintro ⟨entry, isEntry, isSame⟩
    refine ⟨entry.2.row, mirrors.roles.mem_iff.mpr (List.mem_map_of_mem isEntry), .inr ?_⟩
    rw [isTrimmed]
    exact (folds _ (areNames entry isEntry) _ isName).mpr isSame

theorem Mirrors.create {id : RoleId} {role : NewRole} (isFree : store.role? id = none)
    {names : List String} (folds : database.locale.FoldsAlike names)
    (areNames : ∀ entry ∈ store.roles, entry.2.name ∈ names) (isName : Text.trim role.name ∈ names) :
    Agree (database.create id role) (store.create id role) := by
  cases made : role.withId id with
  | error error =>
      -- A blank name is no role's, so memory gets as far as looking at it too.
      obtain ⟨isBlank, _⟩ := Role.make_eq_error made
      have isNotTaken : ¬ store.Taken role.name := by
        rintro ⟨entry, _, isSame⟩
        rw [isBlank, Text.lowerAscii_eq_empty_iff.mpr rfl, Text.lowerAscii_eq_empty_iff] at isSame
        exact entry.2.named isSame
      rw [(database.create_whole id role).blank error made, MemoryStore.create_of_error isNotTaken made]
      exact ⟨rfl, mirrors⟩
  | ok created =>
      obtain ⟨rfl, isTrimmed⟩ := Role.make_eq_ok made
      have isTaken_iff := mirrors.isTaken_iff sound isFree folds areNames isName isTrimmed
      by_cases isTaken : store.Taken role.name
      · rw [create_of_taken made (isTaken_iff.mpr isTaken) (mirrors.pass 0 _),
          MemoryStore.create_of_taken isTaken, isTrimmed]
        exact ⟨rfl, mirrors⟩
      · have isNew : ∀ row ∈ database.tables.roles,
            row.id ≠ created.id ∧
              database.locale.lower row.name ≠ database.locale.lower created.name := by
          intro row isListed
          have isOther := fun isSame => isTaken (isTaken_iff.mp ⟨row, isListed, isSame⟩)
          exact ⟨fun same => isOther (.inl same), fun same => isOther (.inr same)⟩
        have noRules : store.rulesOf created.id = .empty := by simp [MemoryStore.rulesOf, isFree]
        have holds := mirrors.rules created.id
        rw [noRules] at holds
        rw [create_of_withId made,
          transact_of_pass created.atomic_creating (mirrors.pass 0 _)
            (Role.applyAll_creating isNew holds.vacant),
          MemoryStore.create_of_ok isTaken made]
        exact ⟨rfl, mirrors.put isFree⟩

theorem Mirrors.delete (id : RoleId) : Agree (database.delete id) (store.delete id) := by
  by_cases isHeld : store.Held id
  · have isRejected : Statement.apply database.locale database.tables (.deleteRole id) = .error .reference :=
      if_pos ((mirrors.isHeld_iff id).mpr isHeld)
    rw [Database.delete, transact_singleton_of_error (Statement.inner_deleteRole id)
          (mirrors.pass 0 _) isRejected,
      MemoryStore.delete_of_held isHeld]
    exact ⟨rfl, mirrors⟩
  · have isUnheld := isHeld ∘ (mirrors.isHeld_iff id).mp
    cases located : store.role? id with
    | none =>
        have isMissing : (database.tables.role? id).isNone = true := by
          rw [mirrors.role?_eq sound, located]
          rfl
        have isRejected : Statement.apply database.locale database.tables (.deleteRole id) = .error .noRow := by
          rw [Statement.apply, if_neg isUnheld, if_pos isMissing]
        rw [Database.delete, transact_singleton_of_error (Statement.inner_deleteRole id)
          (mirrors.pass 0 _) isRejected,
          MemoryStore.delete_of_missing isHeld located]
        exact ⟨rfl, mirrors⟩
    | some role =>
        have isStored : ¬ (database.tables.role? id).isNone = true := by
          simp [mirrors.role?_eq sound, located]
        have isDeleted : Statement.apply database.locale database.tables (.deleteRole id) =
            .ok (Statement.effect database.tables (.deleteRole id)) := by
          rw [Statement.apply, if_neg isUnheld, if_neg isStored]
          rfl
        have isApplied : Statement.applyAll database.locale database.tables [.deleteRole id] =
            .ok (Statement.effect database.tables (.deleteRole id)) := by
          rw [Statement.applyAll_cons_of_ok isDeleted]
          rfl
        rw [Database.delete, transact_of_pass (Statement.atomic_delete id) (mirrors.pass 0 _) isApplied,
          MemoryStore.delete_of_stored isHeld located]
        exact ⟨rfl, mirrors.deleted sound isHeld located⟩

structure Accord (locale : Locale) (names : List String)
    (left : Except ServiceError StoreAnswer × Database)
    (right : Except ServiceError StoreAnswer × MemoryStore) : Prop where
  alike : StoreAnswer.Alike left.1 right.1
  same : locale.OrdersAlike names → left.1 = right.1
  inOrder : ∀ roles, left.1 = .ok (.listed roles) →
    roles.Pairwise fun former latter => locale.notBehind former.name latter.name = true
  mirrors : left.2.Mirrors right.2

omit sound mirrors in
theorem Agree.accord {Value : Type} {left : Except ServiceError Value × Database}
    {right : Except ServiceError Value × MemoryStore} (agree : Agree left right)
    (answer : Value → StoreAnswer) (isNoList : ∀ value roles, answer value ≠ .listed roles)
    (locale : Locale) (names : List String) :
    Accord locale names (left.1.map answer, left.2) (right.1.map answer, right.2) where
  alike := by
    rw [agree.1]
    exact .refl _
  same _ := congrArg (Except.map answer) agree.1
  inOrder roles answered := by
    cases outcome : left.1 with
    | error error => rw [outcome] at answered; cases answered
    | ok value =>
        rw [outcome] at answered
        exact absurd (Except.ok.inj answered) (isNoList value roles)
  mirrors := agree.2

theorem Mirrors.accord_list {names : List String} (areNames : ∀ entry ∈ store.roles, entry.2.name ∈ names) :
    Accord database.locale names (StoreCall.list.carryOut database) (StoreCall.list.carryOut store) := by
  obtain ⟨roles, isList, _, areStored⟩ := mirrors.exists_list sound
  have answered : (StoreCall.list.carryOut database).1 = .ok (.listed roles) :=
    congrArg (Except.map StoreAnswer.listed) isList
  have isPermuted : roles.Perm store.listing := areStored.trans (List.mergeSort_perm _ _).symm
  refine ⟨?_, fun alike => ?_, fun others isOther => ?_, mirrors⟩
  · rw [answered]
    exact isPermuted
  · exact congrArg (Except.map StoreAnswer.listed) (mirrors.list_eq sound alike areNames)
  · obtain rfl := StoreAnswer.listed.inj (Except.ok.inj (answered.symm.trans isOther))
    exact mirrors.pairwise_list sound isList

/-- One call is answered alike. -/
theorem Mirrors.carryOut {names : List String} (folds : database.locale.FoldsAlike names)
    (areNames : ∀ entry ∈ store.roles, entry.2.name ∈ names) {call : StoreCall}
    (isProper : call.Proper store) (isName : ∀ name, call.newName? = some name → name ∈ names) :
    Accord database.locale names (call.carryOut database) (call.carryOut store) := by
  cases call with
  | find id =>
      have agree : Agree (database.find id, database) (Repository.find store id, store) :=
        ⟨mirrors.find_eq sound id, mirrors⟩
      exact agree.accord .found (by simp) _ _
  | list => exact mirrors.accord_list sound areNames
  | create id role =>
      rw [StoreCall.carryOut_create, StoreCall.carryOut_create]
      exact (mirrors.create sound isProper folds areNames (isName _ rfl)).accord .created (by simp) _ _
  | save id rules => exact (mirrors.save sound id rules).accord (fun _ => .done) (by simp) _ _
  | delete id => exact (mirrors.delete sound id).accord (fun _ => .done) (by simp) _ _
  | assign actor id => exact (mirrors.assign actor isProper).accord (fun _ => .done) (by simp) _ _

end Writes

end Database

namespace MemoryStore

theorem Sound.carryOut {store : MemoryStore} (sound : store.Sound) (call : StoreCall) :
    (call.carryOut store).2.Sound := by
  cases call with
  | find id => exact sound
  | list => exact sound
  | create id role => exact sound.create id role
  | save id rules => exact sound.save id rules
  | delete id => exact sound.delete id
  | assign actor id => exact sound.assign actor id

theorem name_mem_of_carryOut {store : MemoryStore} {call : StoreCall} {entry : RoleId × Role}
    (isStored : entry ∈ (call.carryOut store).2.roles) :
    (∃ old ∈ store.roles, old.2.name = entry.2.name) ∨ call.newName? = some entry.2.name := by
  cases call with
  | find id => exact .inl ⟨entry, isStored, rfl⟩
  | list => exact .inl ⟨entry, isStored, rfl⟩
  | create id role =>
      change entry ∈ (store.create id role).2.roles at isStored
      by_cases isTaken : store.Taken role.name
      · rw [create_of_taken isTaken] at isStored
        exact .inl ⟨entry, isStored, rfl⟩
      · cases made : role.withId id with
        | error error =>
            rw [create_of_error isTaken made] at isStored
            exact .inl ⟨entry, isStored, rfl⟩
        | ok created =>
            rw [create_of_ok isTaken made] at isStored
            rcases List.mem_append.mp isStored with isOld | isNew
            · exact .inl ⟨entry, List.mem_of_mem_filter isOld, rfl⟩
            · rw [List.mem_singleton.mp isNew]
              exact .inr (congrArg some (Role.make_eq_ok made).2.symm)
  | save id rules =>
      change entry ∈ (store.save id rules).2.roles at isStored
      cases located : store.role? id with
      | none =>
          rw [save_of_missing located] at isStored
          exact .inl ⟨entry, isStored, rfl⟩
      | some role =>
          rw [save_of_stored located] at isStored
          obtain ⟨old, isOld, rfl⟩ := List.mem_map.mp isStored
          refine .inl ⟨old, isOld, ?_⟩
          rw [resaved_snd]
          split <;> rfl
  | delete id =>
      change entry ∈ (store.delete id).2.roles at isStored
      have isOld : entry ∈ store.roles := by
        unfold delete at isStored
        split at isStored
        · exact isStored
        · split at isStored
          · exact isStored
          · exact List.mem_of_mem_filter isStored
      exact .inl ⟨entry, isOld, rfl⟩
  | assign actor id =>
      change entry ∈ (store.assign actor id).2.roles at isStored
      refine .inl ⟨entry, ?_, rfl⟩
      unfold assign at isStored
      split at isStored <;> exact isStored

theorem mem_names {store : MemoryStore} {calls : List StoreCall} {name : String} :
    name ∈ store.names calls ↔ (∃ entry ∈ store.roles, entry.2.name = name) ∨
      ∃ call ∈ calls, call.newName? = some name := by
  simp [names]

theorem names_carryOut_subset (store : MemoryStore) (call : StoreCall) (rest : List StoreCall) :
    (call.carryOut store).2.names rest ⊆ store.names (call :: rest) := by
  intro name isName
  rw [mem_names, List.exists_mem_cons_iff]
  rcases mem_names.mp isName with ⟨entry, isStored, rfl⟩ | isLater
  · rcases name_mem_of_carryOut isStored with isOld | isNew
    · exact .inl isOld
    · exact .inr (.inl isNew)
  · exact .inr (.inr isLater)

end MemoryStore

namespace StoreCall

theorem locale_carryOut (database : Database) (call : StoreCall) :
    (call.carryOut database).2.locale = database.locale := by
  cases call with
  | find id => rfl
  | list => rfl
  | save id rules => rfl
  | delete id => rfl
  | assign actor id => rfl
  | create id role =>
      change (database.create id role).2.locale = database.locale
      unfold Database.create
      split <;> rfl

/-- What two stores owe to each other that calls were carried out on one after the other. -/
structure Concord (locale : Locale) (names : List String)
    (left : List (Except ServiceError StoreAnswer) × Database)
    (right : List (Except ServiceError StoreAnswer) × MemoryStore) : Prop where
  alike : List.Forall₂ StoreAnswer.Alike left.1 right.1
  same : locale.OrdersAlike names → left.1 = right.1
  inOrder : ∀ roles, .ok (.listed roles) ∈ left.1 →
    roles.Pairwise fun former latter => locale.notBehind former.name latter.name = true
  inOrderToo : ∀ roles, .ok (.listed roles) ∈ right.1 →
    roles.Pairwise fun former latter => former.listedBefore latter = true
  mirrors : left.2.Mirrors right.2

theorem map_ne_ok {Value : Type} {outcome : Except ServiceError Value} {tell : Value → StoreAnswer}
    {answer : StoreAnswer} (isOther : ∀ value, tell value ≠ answer) : outcome.map tell ≠ .ok answer := by
  intro same
  cases outcome with
  | error error => cases same
  | ok value => exact isOther value (Except.ok.inj same)

theorem listed_of_carryOut {store : MemoryStore} {call : StoreCall} {roles : List Role}
    (answered : (call.carryOut store).1 = .ok (.listed roles)) : roles = store.listing := by
  cases call with
  | list => exact (StoreAnswer.listed.inj (Except.ok.inj answered)).symm
  | find id => cases answered
  | create id role => exact absurd answered (map_ne_ok fun _ => StoreAnswer.noConfusion)
  | save id rules => exact absurd answered (map_ne_ok fun _ => StoreAnswer.noConfusion)
  | delete id => exact absurd answered (map_ne_ok fun _ => StoreAnswer.noConfusion)
  | assign actor id => exact absurd answered (map_ne_ok fun _ => StoreAnswer.noConfusion)

theorem pairwise_of_listed {store : MemoryStore} {calls : List StoreCall} {roles : List Role}
    (isListed : .ok (.listed roles) ∈ (runAll store calls).1) :
    roles.Pairwise fun left right => left.listedBefore right = true := by
  induction calls generalizing store with
  | nil => simp [runAll] at isListed
  | cons call rest inductionHypothesis =>
      rcases List.mem_cons.mp isListed with isFirst | isLater
      · rw [listed_of_carryOut isFirst.symm]
        exact pairwise_sorted (store.roles.map Prod.snd)
      · exact inductionHypothesis isLater

theorem concord_runAll {names : List String} {database : Database} {store : MemoryStore}
    {calls : List StoreCall} (folds : database.locale.FoldsAlike names) (sound : store.Sound)
    (mirrors : database.Mirrors store) (areNames : store.names calls ⊆ names)
    (proper : AllProper store calls) :
    Concord database.locale names (runAll database calls) (runAll store calls) := by
  induction calls generalizing database store with
  | nil => exact ⟨.nil, fun _ => rfl, by simp [runAll], by simp [runAll], mirrors⟩
  | cons call rest inductionHypothesis =>
      have areStored : ∀ entry ∈ store.roles, entry.2.name ∈ names := fun entry isStored =>
        areNames (MemoryStore.mem_names.mpr (.inl ⟨entry, isStored, rfl⟩))
      have isNew : ∀ name, call.newName? = some name → name ∈ names := fun name isName =>
        areNames (MemoryStore.mem_names.mpr (.inr ⟨call, by simp, isName⟩))
      have accord := mirrors.carryOut sound folds areStored proper.1 isNew
      have sameLocale := locale_carryOut database call
      have concord := inductionHypothesis (by rwa [sameLocale]) (sound.carryOut call) accord.mirrors
        (List.Subset.trans (store.names_carryOut_subset call rest) areNames) proper.2
      rw [sameLocale] at concord
      refine ⟨.cons accord.alike concord.alike, fun alike => ?_, fun roles isListed => ?_,
        fun _ => pairwise_of_listed, concord.mirrors⟩
      · simp only [runAll, accord.same alike, concord.same alike]
      · rcases List.mem_cons.mp isListed with isFirst | isLater
        · exact accord.inOrder roles isFirst.symm
        · exact concord.inOrder roles isLater

/-- Tables and a store in memory that they mirror answer calls alike: with the same roles, found or listed
in the order of their names in small letters, or with the same error. Where the server orders the names as
memory does, even the lists are the same. In the end the tables mirror what is in memory. -/
theorem stores_agree {database : Database} {store : MemoryStore} {calls : List StoreCall}
    (sound : store.Sound) (mirrors : database.Mirrors store) (proper : AllProper store calls)
    (folds : database.locale.FoldsAlike (store.names calls)) :
    Concord database.locale (store.names calls) (runAll database calls) (runAll store calls) :=
  concord_runAll folds sound mirrors (List.Subset.refl _) proper

/-- Calls of which some fail: the name of the second role is taken, the third one has none, and the first
role is held when it is to be deleted. -/
def history : List StoreCall :=
  [.create ⟨⟨1⟩⟩ ⟨"Clerk", none, false, RuleSet.empty.put (.bare .employeeRecords .view)⟩,
    .create ⟨⟨2⟩⟩ ⟨" CLERK ", none, true, .empty⟩, .create ⟨⟨3⟩⟩ ⟨"  ", none, false, .empty⟩,
    .create ⟨⟨4⟩⟩ ⟨"auditor", none, false, .empty⟩, .list, .assign ⟨⟨9⟩⟩ ⟨⟨1⟩⟩,
    .save ⟨⟨4⟩⟩ (RuleSet.empty.put (.bare .rbacAdmin .full)), .save ⟨⟨5⟩⟩ .empty, .delete ⟨⟨1⟩⟩,
    .delete ⟨⟨4⟩⟩, .find ⟨⟨4⟩⟩]

theorem stores_agree_history :
    let tables := runAll Database.empty history
    let memory := runAll MemoryStore.empty history
    AllProper MemoryStore.empty history ∧ tables.1 = memory.1 ∧ tables.2.Mirrors memory.2 := by
  have proper : AllProper MemoryStore.empty history := by decide
  have folds : Locale.plain.FoldsAlike (MemoryStore.empty.names history) := by
    have names : MemoryStore.empty.names history = ["Clerk", "CLERK", "", "auditor"] := by decide
    rw [names]
    unfold Locale.FoldsAlike
    decide
  have concord := stores_agree MemoryStore.sound_empty Database.mirrors_empty proper folds
  exact ⟨proper, concord.same folds.ordersAlike, concord.mirrors⟩

end StoreCall

end Rolebook
