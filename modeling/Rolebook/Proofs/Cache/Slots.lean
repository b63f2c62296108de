import Rolebook.Cache

/-!
Slots. Each operation on the cache changes one thing: the snapshot of a slot, its queue, or under which
role it is published.
-/

namespace Rolebook

namespace Cache

variable (cache : Cache)

@[simp]
theorem published_setSnapshot (slot : SlotId) (snapshot : Option Role) :
    (cache.setSnapshot slot snapshot).published = cache.published :=
  rfl

@[simp]
theorem made_setSnapshot (slot : SlotId) (snapshot : Option Role) :
    (cache.setSnapshot slot snapshot).made = cache.made :=
  rfl

@[simp]
theorem queue_setSnapshot (slot other : SlotId) (snapshot : Option Role) :
    ((cache.setSnapshot slot snapshot).slot other).queue = (cache.slot other).queue := by
  by_cases same : other = slot <;> simp [setSnapshot, modify, same]

@[simp]
theorem snapshot_setSnapshot (slot other : SlotId) (snapshot : Option Role) :
    ((cache.setSnapshot slot snapshot).slot other).snapshot =
      if other = slot then snapshot else (cache.slot other).snapshot := by
  by_cases same : other = slot <;> simp [setSnapshot, modify, same]

@[simp]
theorem published_join (slot : SlotId) (task : TaskId) :
    (cache.join slot task).published = cache.published :=
  rfl

@[simp]
theorem made_join (slot : SlotId) (task : TaskId) : (cache.join slot task).made = cache.made :=
  rfl

@[simp]
theorem snapshot_join (slot other : SlotId) (task : TaskId) :
    ((cache.join slot task).slot other).snapshot = (cache.slot other).snapshot := by
  by_cases same : other = slot <;> simp [join, modify, same]

@[simp]
theorem queue_join (slot other : SlotId) (task : TaskId) :
    ((cache.join slot task).slot other).queue =
      if other = slot then (cache.slot other).queue ++ [task] else (cache.slot other).queue := by
  by_cases same : other = slot <;> simp [join, modify, same]

@[simp]
theorem published_leave (slot : SlotId) (task : TaskId) :
    (cache.leave slot task).published = cache.published :=
  rfl

@[simp]
theorem made_leave (slot : SlotId) (task : TaskId) : (cache.leave slot task).made = cache.made :=
  rfl

@[simp]
theorem snapshot_leave (slot other : SlotId) (task : TaskId) :
    ((cache.leave slot task).slot other).snapshot = (cache.slot other).snapshot := by
  by_cases same : other = slot <;> simp [leave, modify, same]

@[simp]
theorem queue_leave (slot other : SlotId) (task : TaskId) :
    ((cache.leave slot task).slot other).queue =
      if other = slot then (cache.slot other).queue.erase task else (cache.slot other).queue := by
  by_cases same : other = slot <;> simp [leave, modify, same]

@[simp]
theorem slot_withdraw (role : RoleId) (slot : SlotId) :
    (cache.withdraw role slot).slot = cache.slot := by
  unfold withdraw
  split <;> rfl

@[simp]
theorem made_withdraw (role : RoleId) (slot : SlotId) :
    (cache.withdraw role slot).made = cache.made := by
  unfold withdraw
  split <;> rfl

theorem published_withdraw {role : RoleId} {slot : SlotId}
    (isPublished : cache.published role = some slot) (other : RoleId) :
    (cache.withdraw role slot).published other =
      if other = role then none else cache.published other := by
  simp [withdraw, isPublished]

theorem published_of_withdraw {cache : Cache} {role other : RoleId} {slot found : SlotId}
    (isPublished : (cache.withdraw role slot).published other = some found) :
    cache.published other = some found := by
  unfold withdraw at isPublished
  split at isPublished
  · change (if other = role then none else cache.published other) = some found at isPublished
    split at isPublished
    · simp at isPublished
    · exact isPublished
  · exact isPublished

theorem holds_iff {slot : SlotId} {task : TaskId} :
    cache.holds slot task = true ↔ (cache.slot slot).queue.head? = some task := by
  simp [holds]

theorem openSlot_cases {cache after : Cache} {role : RoleId} {slot : SlotId}
    (opened : cache.openSlot role = (slot, after)) :
    (cache.published role = some slot ∧ after = cache) ∨
      (cache.published role = none ∧ slot = cache.made ∧ after.made = cache.made + 1 ∧
        (∀ other, after.published other =
          if other = role then some cache.made else cache.published other) ∧
        ∀ other, after.slot other = if other = cache.made then ⟨none, []⟩ else cache.slot other) := by
  unfold openSlot at opened
  split at opened
  · rename_i found isPublished
    obtain ⟨rfl, rfl⟩ := Prod.mk.inj opened
    exact .inl ⟨isPublished, rfl⟩
  · rename_i isAbsent
    obtain ⟨rfl, rfl⟩ := Prod.mk.inj opened
    exact .inr ⟨isAbsent, rfl, rfl, fun _ => rfl, fun _ => rfl⟩

theorem published_of_openSlot {cache after : Cache} {role : RoleId} {slot : SlotId}
    (opened : cache.openSlot role = (slot, after)) : after.published role = some slot := by
  rcases openSlot_cases opened with ⟨isPublished, rfl⟩ | ⟨_, rfl, _, published, _⟩
  · exact isPublished
  · rw [published, if_pos rfl]

theorem published_openSlot {cache after : Cache} {role other : RoleId} {slot found : SlotId}
    (opened : cache.openSlot role = (slot, after)) (isPublished : cache.published other = some found) :
    after.published other = some found := by
  rcases openSlot_cases opened with ⟨_, rfl⟩ | ⟨isAbsent, _, _, published, _⟩
  · exact isPublished
  · rw [published, if_neg, isPublished]
    rintro rfl
    simp [isAbsent] at isPublished

theorem get_of_published {cache : Cache} {role : RoleId} {slot : SlotId}
    (isPublished : cache.published role = some slot) : cache.get role = (cache.slot slot).snapshot := by
  simp [get, isPublished]

@[simp]
theorem get_join (slot : SlotId) (task : TaskId) (role : RoleId) :
    (cache.join slot task).get role = cache.get role := by
  simp [get]

@[simp]
theorem get_leave (slot : SlotId) (task : TaskId) (role : RoleId) :
    (cache.leave slot task).get role = cache.get role := by
  simp [get]

theorem get_setSnapshot (slot : SlotId) (snapshot : Option Role) (role : RoleId) :
    (cache.setSnapshot slot snapshot).get role =
      if cache.published role = some slot then snapshot else cache.get role := by
  unfold get
  rw [published_setSnapshot]
  cases isPublished : cache.published role with
  | none => simp
  | some found => simp

theorem get_withdraw {role : RoleId} {slot : SlotId} (isPublished : cache.published role = some slot)
    (other : RoleId) :
    (cache.withdraw role slot).get other = if other = role then none else cache.get other := by
  unfold get
  rw [published_withdraw cache isPublished, slot_withdraw]
  split <;> rfl

/-- A role that is seen after a slot was taken out of the cache was seen before. -/
theorem get_of_withdraw {cache : Cache} {role other : RoleId} {slot : SlotId} {snapshot : Role}
    (isShown : (cache.withdraw role slot).get other = some snapshot) : cache.get other = some snapshot := by
  obtain ⟨found, isPublished, isSnapshot⟩ := Option.bind_eq_some_iff.mp isShown
  rw [slot_withdraw] at isSnapshot
  exact (get_of_published (published_of_withdraw isPublished)).trans isSnapshot

theorem get_openSlot {cache after : Cache} {role : RoleId} {slot : SlotId}
    (made : ∀ role slot, cache.published role = some slot → slot < cache.made)
    (opened : cache.openSlot role = (slot, after)) (other : RoleId) : after.get other = cache.get other := by
  rcases openSlot_cases opened with ⟨_, rfl⟩ | ⟨isAbsent, _, _, published, slots⟩
  · rfl
  · unfold get
    rw [published]
    by_cases isRole : other = role
    · simp [isRole, isAbsent, slots]
    · rw [if_neg isRole]
      cases isPublished : cache.published other with
      | none => rfl
      | some found => simp [slots, Nat.ne_of_lt (made other found isPublished)]

/-- A cache whose gates are all free. -/
structure AtRest (cache : Cache) : Prop where
  made : ∀ role slot, cache.published role = some slot → slot < cache.made
  own : ∀ role other slot, cache.published role = some slot → cache.published other = some slot →
    other = role
  queue : ∀ slot, (cache.slot slot).queue = []

theorem atRest_empty : Cache.empty.AtRest :=
  ⟨by simp [empty], by simp [empty], fun _ => rfl⟩

end Cache

end Rolebook
