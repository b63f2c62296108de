/-!
Finite maps whose entries are kept in strictly increasing key order. The order makes the entries
canonical: two maps are equal as soon as they look up alike. `get?` is the view; each operation has
one equation through it.
-/

namespace Rolebook

/-- Entries with strictly increasing keys. -/
structure OrderedMap (Key : Type) (Value : Type) [Ord Key] where
  entries : List (Key × Value)
  increasing : entries.Pairwise fun left right => compare left.1 right.1 = .lt

namespace OrderedMap

variable {Key Value : Type} [Ord Key]

instance [DecidableEq Key] [DecidableEq Value] : DecidableEq (OrderedMap Key Value) :=
  fun left right =>
    if same : left.entries = right.entries then
      .isTrue (by cases left; cases right; simp_all)
    else
      .isFalse (by intro equal; exact same (equal ▸ rfl))

def empty : OrderedMap Key Value :=
  ⟨[], .nil⟩

instance : Inhabited (OrderedMap Key Value) :=
  ⟨empty⟩

def get? (map : OrderedMap Key Value) (key : Key) : Option Value :=
  (map.entries.find? fun entry => compare key entry.1 == .eq).map Prod.snd

def contains (map : OrderedMap Key Value) (key : Key) : Bool :=
  (map.get? key).isSome

def keys (map : OrderedMap Key Value) : List Key :=
  map.entries.map Prod.fst

def values (map : OrderedMap Key Value) : List Value :=
  map.entries.map Prod.snd

def size (map : OrderedMap Key Value) : Nat :=
  map.entries.length

def isEmpty (map : OrderedMap Key Value) : Bool :=
  map.entries.isEmpty

def erase (map : OrderedMap Key Value) (key : Key) : OrderedMap Key Value :=
  ⟨map.entries.filter fun entry => compare key entry.1 != .eq, map.increasing.filter _⟩

def place (key : Key) (value : Value) : List (Key × Value) → List (Key × Value)
  | [] => [(key, value)]
  | entry :: rest =>
      match compare key entry.1 with
      | .lt => (key, value) :: entry :: rest
      | .eq => (key, value) :: rest
      | .gt => entry :: place key value rest

theorem mem_place {key : Key} {value : Value} {entries : List (Key × Value)}
    {entry : Key × Value} (member : entry ∈ place key value entries) :
    entry = (key, value) ∨ entry ∈ entries := by
  induction entries with
  | nil => simpa [place] using member
  | cons head tail inductionHypothesis =>
      unfold place at member
      split at member
      · simpa using member
      · simp only [List.mem_cons] at member ⊢
        rcases member with isNew | inTail
        · exact .inl isNew
        · exact .inr (.inr inTail)
      · simp only [List.mem_cons] at member ⊢
        rcases member with isHead | inRest
        · exact .inr (.inl isHead)
        · exact (inductionHypothesis inRest).imp_right .inr

variable [Std.TransOrd Key] [Std.LawfulEqOrd Key]

theorem increasing_place (key : Key) (value : Value) {entries : List (Key × Value)}
    (increasing : entries.Pairwise fun left right => compare left.1 right.1 = .lt) :
    (place key value entries).Pairwise fun left right => compare left.1 right.1 = .lt := by
  induction entries with
  | nil => simp [place]
  | cons head tail inductionHypothesis =>
      rw [List.pairwise_cons] at increasing
      unfold place
      split
      · rename_i before
        refine .cons (fun entry member => ?_) (List.pairwise_cons.mpr increasing)
        rcases List.mem_cons.mp member with isHead | inTail
        · simpa [isHead] using before
        · exact Std.TransCmp.lt_trans before (increasing.1 entry inTail)
      · rename_i same
        have equal : key = head.1 := Std.LawfulEqCmp.compare_eq_iff_eq.mp same
        exact .cons (fun entry member => by simpa [equal] using increasing.1 entry member)
          increasing.2
      · rename_i after
        refine .cons (fun entry member => ?_) (inductionHypothesis increasing.2)
        rcases mem_place member with isNew | inTail
        · simpa [isNew] using Std.OrientedCmp.lt_of_gt after
        · exact increasing.1 entry inTail

def insert (map : OrderedMap Key Value) (key : Key) (value : Value) : OrderedMap Key Value :=
  ⟨place key value map.entries, increasing_place key value map.increasing⟩

/-- The map of a list of entries, in which a later entry replaces an earlier one of the same key. -/
def ofList (entries : List (Key × Value)) : OrderedMap Key Value :=
  entries.foldl (fun map entry => map.insert entry.1 entry.2) empty

omit [Std.TransOrd Key] [Std.LawfulEqOrd Key] in
@[simp]
theorem get?_empty (key : Key) : (empty : OrderedMap Key Value).get? key = none :=
  rfl

omit [Std.TransOrd Key] in
private theorem find?_place (key sought : Key) (value : Value) (entries : List (Key × Value)) :
    ((place key value entries).find? fun entry => compare sought entry.1 == .eq) =
      if compare sought key = .eq then some (key, value)
      else entries.find? fun entry => compare sought entry.1 == .eq := by
  induction entries with
  | nil => by_cases same : compare sought key = .eq <;> simp [place, same]
  | cons head tail inductionHypothesis =>
      unfold place
      split
      · by_cases same : compare sought key = .eq <;> simp [same]
      · rename_i replaced
        have equal : key = head.1 := Std.LawfulEqCmp.compare_eq_iff_eq.mp replaced
        subst equal
        by_cases same : compare sought head.1 = .eq <;> simp [same]
      · rename_i after
        by_cases here : compare sought head.1 = .eq
        · have equal : sought = head.1 := Std.LawfulEqCmp.compare_eq_iff_eq.mp here
          have different : compare sought key ≠ .eq := by
            intro same
            have : sought = key := Std.LawfulEqCmp.compare_eq_iff_eq.mp same
            subst this
            simp [here] at after
          simp [here, different]
        · simp [here, inductionHypothesis]

@[simp]
theorem get?_insert (map : OrderedMap Key Value) (key sought : Key) (value : Value) :
    (map.insert key value).get? sought =
      if compare sought key = .eq then some value else map.get? sought := by
  unfold get? insert
  rw [find?_place]
  split <;> simp

omit [Std.TransOrd Key] in
@[simp]
theorem get?_erase (map : OrderedMap Key Value) (key sought : Key) :
    (map.erase key).get? sought = if compare sought key = .eq then none else map.get? sought := by
  unfold get? erase
  simp only [List.find?_filter]
  by_cases same : compare sought key = .eq
  · have equal : sought = key := Std.LawfulEqCmp.compare_eq_iff_eq.mp same
    subst equal
    simp
  · simp only [same, if_false]
    congr 2
    funext entry
    by_cases here : compare sought entry.1 = .eq
    · have equal : sought = entry.1 := Std.LawfulEqCmp.compare_eq_iff_eq.mp here
      have different : compare key entry.1 ≠ .eq := by
        intro met
        have : key = entry.1 := Std.LawfulEqCmp.compare_eq_iff_eq.mp met
        rw [equal, this] at same
        simp at same
      simp [here, different]
    · simp [here]

omit [Std.TransOrd Key] in
theorem mem_of_get?_eq_some {map : OrderedMap Key Value} {key : Key} {value : Value}
    (found : map.get? key = some value) : (key, value) ∈ map.entries := by
  unfold get? at found
  rw [Option.map_eq_some_iff] at found
  obtain ⟨entry, located, isValue⟩ := found
  have matched := List.find?_some located
  have equal : key = entry.1 := by simpa using matched
  have member := List.mem_of_find?_eq_some located
  cases entry
  simp_all

omit [Std.TransOrd Key] in
theorem get?_eq_some_of_mem {map : OrderedMap Key Value} {key : Key} {value : Value}
    (member : (key, value) ∈ map.entries) : map.get? key = some value := by
  obtain ⟨entries, increasing⟩ := map
  unfold get?
  simp only at member ⊢
  induction entries with
  | nil => simp at member
  | cons head tail inductionHypothesis =>
      rw [List.pairwise_cons] at increasing
      rcases List.mem_cons.mp member with isHead | inTail
      · subst isHead
        simp
      · have before := increasing.1 _ inTail
        have different : compare key head.1 ≠ .eq := by
          intro same
          have equal : key = head.1 := Std.LawfulEqCmp.compare_eq_iff_eq.mp same
          subst equal
          simp at before
        simpa [List.find?_cons, different] using inductionHypothesis increasing.2 inTail

omit [Std.TransOrd Key] in
theorem get?_eq_some_iff {map : OrderedMap Key Value} {key : Key} {value : Value} :
    map.get? key = some value ↔ (key, value) ∈ map.entries :=
  ⟨mem_of_get?_eq_some, get?_eq_some_of_mem⟩

omit [Std.TransOrd Key] in
theorem distinct_keys (map : OrderedMap Key Value) : map.keys.Nodup := by
  refine List.pairwise_map.mpr (map.increasing.imp ?_)
  intro left right isLess sameKey
  simp [sameKey] at isLess

private theorem entries_eq_of_mem_iff {left right : List (Key × Value)}
    (leftIncreasing : left.Pairwise fun first second => compare first.1 second.1 = .lt)
    (rightIncreasing : right.Pairwise fun first second => compare first.1 second.1 = .lt)
    (sameMembers : ∀ entry, entry ∈ left ↔ entry ∈ right) : left = right := by
  induction left generalizing right with
  | nil =>
      cases right with
      | nil => rfl
      | cons head tail => exact absurd ((sameMembers head).mpr (by simp)) (by simp)
  | cons head tail inductionHypothesis =>
      cases right with
      | nil => exact absurd ((sameMembers head).mp (by simp)) (by simp)
      | cons other rest =>
          rw [List.pairwise_cons] at leftIncreasing rightIncreasing
          have irreflexive : ∀ key : Key, compare key key ≠ .lt := by simp
          have same : head = other := by
            rcases List.mem_cons.mp ((sameMembers head).mp (by simp)) with isOther | inRest
            · exact isOther
            rcases List.mem_cons.mp ((sameMembers other).mpr (by simp)) with isHead | inTail
            · exact isHead.symm
            exact absurd (Std.TransCmp.lt_trans (leftIncreasing.1 _ inTail)
              (rightIncreasing.1 _ inRest)) (irreflexive _)
          subst same
          congr 1
          refine inductionHypothesis leftIncreasing.2 rightIncreasing.2 fun entry => ?_
          have shared := sameMembers entry
          simp only [List.mem_cons] at shared
          constructor
          · intro inTail
            rcases shared.mp (.inr inTail) with isHead | inRest
            · subst isHead
              exact absurd (leftIncreasing.1 _ inTail) (irreflexive _)
            · exact inRest
          · intro inRest
            rcases shared.mpr (.inr inRest) with isHead | inTail
            · subst isHead
              exact absurd (rightIncreasing.1 _ inRest) (irreflexive _)
            · exact inTail

theorem ext_get? {left right : OrderedMap Key Value}
    (sameLookups : ∀ key, left.get? key = right.get? key) : left = right := by
  have sameEntries : left.entries = right.entries := by
    refine entries_eq_of_mem_iff left.increasing right.increasing fun entry => ?_
    rw [show entry = (entry.1, entry.2) from rfl, ← get?_eq_some_iff, ← get?_eq_some_iff,
      sameLookups]
  cases left
  cases right
  simp_all

/-- Of entries for one key, the last one counts. -/
theorem get?_ofList (entries : List (Key × Value)) (key : Key) :
    (ofList entries).get? key =
      (entries.reverse.find? fun entry => compare key entry.1 == .eq).map Prod.snd := by
  suffices isLast : ∀ map : OrderedMap Key Value,
      (entries.foldl (fun map entry => map.insert entry.1 entry.2) map).get? key =
        ((entries.reverse.find? fun entry => compare key entry.1 == .eq).map Prod.snd).or
          (map.get? key) by
    simpa [ofList] using isLast empty
  induction entries with
  | nil => simp
  | cons entry rest inductionHypothesis =>
      intro map
      rw [List.foldl_cons, inductionHypothesis, get?_insert, List.reverse_cons, List.find?_append]
      cases rest.reverse.find? fun entry => compare key entry.1 == .eq with
      | some later => rfl
      | none => by_cases isKey : compare key entry.1 = .eq <;> simp [isKey]

theorem mem_of_get?_ofList {entries : List (Key × Value)} {key : Key} {value : Value}
    (found : (ofList entries).get? key = some value) : (key, value) ∈ entries := by
  rw [get?_ofList, Option.map_eq_some_iff] at found
  obtain ⟨⟨other, _⟩, located, rfl⟩ := found
  have isKey : key = other := by simpa using List.find?_some located
  rw [isKey]
  exact List.mem_reverse.mp (List.mem_of_find?_eq_some located)

theorem get?_ofList_isSome {entries : List (Key × Value)} {entry : Key × Value}
    (isListed : entry ∈ entries) : ((ofList entries).get? entry.1).isSome := by
  rw [get?_ofList, Option.isSome_map, List.find?_isSome]
  exact ⟨entry, List.mem_reverse.mpr isListed, by simp⟩

end OrderedMap

end Rolebook
