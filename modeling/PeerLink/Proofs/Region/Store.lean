import PeerLink.Region.Store

/-! # Objects and names

What the operations on regions do to the objects and to the names, one equation for each.

* `Regions.memory_setMemory`, `Regions.memory_allocate`: the memory of every object after a change.
* `Regions.find?_bind`, `Regions.find?_free`: what every name stands for after a change.
* `Regions.create_cases`, `Regions.eq_of_attach`, `Regions.unlink_of_name`: what becomes of a call.
-/

namespace PeerLink.Regions
set_option autoImplicit false

variable {r : Regions} {id other : ObjectId} {m : Memory} {n name : String}

/-! ## Objects -/

theorem memory_of_length_le (h : r.objects.length ≤ id) : r.memory id = .none := by
  rw [memory, List.getD_eq_getElem?_getD, List.getElem?_eq_none h, Option.getD_none]

theorem memory_setMemory (id other : ObjectId) (m : Memory) (r : Regions) :
    (r.setMemory id m).memory other =
      if other = id ∧ id < r.objects.length then m else r.memory other := by
  simp only [memory, setMemory, List.getD_eq_getElem?_getD, List.getElem?_set]
  by_cases hsame : id = other
  · subst hsame
    by_cases hlt : id < r.objects.length
    · simp [hlt]
    · simp [hlt]
  · simp [hsame, Ne.symm hsame]

theorem memory_allocate (m : Memory) (r : Regions) (id : ObjectId) :
    (r.allocate m).2.memory id = if id = r.objects.length then m else r.memory id := by
  simp only [memory, allocate, List.getD_eq_getElem?_getD]
  rcases Nat.lt_trichotomy id r.objects.length with hlt | heq | hgt
  · rw [List.getElem?_append_left hlt, if_neg (Nat.ne_of_lt hlt)]
  · subst heq
    simp
  · have hbeyond : (r.objects ++ [m]).length ≤ id := by
      rw [List.length_append, List.length_singleton]
      exact hgt
    rw [if_neg (Nat.ne_of_gt hgt), List.getElem?_eq_none (Nat.le_of_lt hgt),
      List.getElem?_eq_none hbeyond]

@[simp] theorem length_setMemory : (r.setMemory id m).objects.length = r.objects.length :=
  List.length_set

@[simp] theorem length_allocate : (r.allocate m).2.objects.length = r.objects.length + 1 := by
  simp [allocate]

/-! ## Names -/

theorem find?_congr {r' : Regions} (h : r'.names = r.names) (n : String) :
    r'.find? n = r.find? n := by
  rw [find?, find?, h]

theorem find?_bind (n : String) (id : ObjectId) (r : Regions) (n' : String)
    (hfree : r.find? n = none) :
    (r.bind n id).find? n' = if n' = n then some id else r.find? n' := by
  simp only [find?, bind, List.find?_append] at hfree ⊢
  by_cases hsame : n' = n
  · subst hsame
    have hnone : r.names.find? (·.1 == n') = none := Option.map_eq_none_iff.mp hfree
    simp [hnone]
  · have hother : (n == n') = false := beq_false_of_ne (Ne.symm hsame)
    simp [hsame, hother]

/-- Removing the entries of one key leaves the first entry of every other. -/
theorem find?_filter_fst {β : Type} (l : List (String × β)) (k k' : String) :
    (l.filter (·.1 != k)).find? (·.1 == k') = if k' = k then none else l.find? (·.1 == k') := by
  rw [List.find?_filter]
  by_cases hsame : k' = k
  · subst hsame
    simp
  · rw [if_neg hsame]
    congr 1
    funext entry
    by_cases hentry : entry.1 = k'
    · simp [hentry, hsame]
    · simp [hentry]

theorem find?_free (n : String) (r : Regions) (n' : String) :
    (r.free n).find? n' = if n' = n then none else r.find? n' := by
  rw [find?, free, find?_filter_fst]
  split <;> rfl

theorem free_of_find?_eq_none (h : r.find? n = none) : r.free n = r := by
  have hnone : r.names.find? (·.1 == n) = none := Option.map_eq_none_iff.mp h
  have hkept : r.names.filter (·.1 != n) = r.names := by
    rw [List.filter_eq_self]
    intro entry hentry
    simpa using List.find?_eq_none.mp hnone entry hentry
  rw [free, hkept]

/-! ## Calls -/

/-- A region is created under a free name; or it is not, and then at most an object without a name
is left. -/
theorem create_cases (k : Kernel) (name : String) (size mode : Nat) (r : Regions) :
    (∃ e, r.create k name size mode = (.error e, r)) ∨
    (∃ e, r.create k name size mode = (.error e, (r.allocate (.zero size)).2)) ∨
    ∃ n, RegionName.object name = .ok n ∧ r.find? n = none ∧
      r.create k name size mode =
        (.ok ⟨name, n, r.objects.length, size, true⟩,
          (r.allocate (.zero size)).2.bind n r.objects.length) := by
  rw [create]
  cases hname : RegionName.object name with
  | error e => exact .inl ⟨e, rfl⟩
  | ok n =>
    dsimp only
    by_cases hsize : size = 0
    · rw [if_pos hsize]
      exact .inl ⟨_, rfl⟩
    · rw [if_neg hsize]
      rcases hfind : r.find? n with _ | id
      · cases hmaking : k.making with
        | some errno => exact .inl ⟨_, rfl⟩
        | none =>
          dsimp only [Option.map_none, Option.orElse_eq_orElse, Option.orElse_eq_or, Option.or]
          cases hrefusal : refusal? k mode size with
          | some errno =>
            have hfree : ((r.allocate (.zero size)).2.bind n r.objects.length).free n =
                (r.allocate (.zero size)).2 := by
              have hnone : (r.allocate (.zero size)).2.find? n = none := hfind
              have hnames := free_of_find?_eq_none hnone
              simp only [free, bind, List.filter_append] at hnames ⊢
              simpa using hnames
            exact .inr (.inl ⟨_, congrArg (Prod.mk _) hfree⟩)
          | none => exact .inr (.inr ⟨n, rfl, hfind, rfl⟩)
      · exact .inl ⟨_, rfl⟩

theorem attach_of_find? (minSize : Nat) (hname : RegionName.object name = .ok n)
    (hfind : r.find? n = some id) (hsize : minSize ≤ (r.memory id).size) :
    r.attach name minSize = .ok ⟨name, n, id, (r.memory id).size, false⟩ := by
  rw [attach, hname]
  dsimp only
  rw [hfind]
  exact if_neg (Nat.not_lt.mpr hsize)

theorem attach_of_find?_eq_none (minSize : Nat) (hname : RegionName.object name = .ok n)
    (hfind : r.find? n = none) :
    r.attach name minSize = .error (.attach n (.system .noEntry)) := by
  rw [attach, hname]
  dsimp only
  rw [hfind]

/-- Who attaches to a region has it under its name, it is large enough, and somebody else made
it. -/
theorem eq_of_attach {minSize : Nat} {handle : RegionHandle}
    (h : r.attach name minSize = .ok handle) :
    RegionName.object name = .ok handle.objectName ∧
      r.find? handle.objectName = some handle.object ∧
      minSize ≤ (r.memory handle.object).size ∧ handle.created = false := by
  rw [attach] at h
  cases hname : RegionName.object name with
  | error e =>
    rw [hname] at h
    cases h
  | ok n =>
    rw [hname] at h
    dsimp only at h
    rcases hfind : r.find? n with _ | id
    · rw [hfind] at h
      cases h
    · rw [hfind] at h
      dsimp only at h
      by_cases hsize : (r.memory id).size < minSize
      · rw [if_pos hsize] at h
        cases h
      · rw [if_neg hsize] at h
        cases h
        exact ⟨rfl, hfind, Nat.le_of_not_lt hsize, rfl⟩

theorem unlink_of_name (r : Regions) (hname : RegionName.object name = .ok n) :
    (r.unlink name).2 = r.free n ∧ ∃ found, (r.unlink name).1 = .ok found := by
  rw [unlink, hname]
  dsimp only
  rcases hfind : r.find? n with _ | id
  · exact ⟨(free_of_find?_eq_none hfind).symm, false, rfl⟩
  · exact ⟨rfl, true, rfl⟩

theorem identify_of_name (r : Regions) (hname : RegionName.object name = .ok n) :
    r.identify name = .ok (r.find? n) := by
  rw [identify, hname]

theorem of_identify (h : r.identify name = .ok (some id)) :
    ∃ n, RegionName.object name = .ok n ∧ r.find? n = some id := by
  rw [identify] at h
  cases hname : RegionName.object name with
  | error err =>
    rw [hname] at h
    cases h
  | ok n =>
    rw [hname] at h
    exact ⟨n, rfl, Except.ok.inj h⟩

/-- Removing a name leaves the objects alone. -/
theorem objects_unlink (name : String) (r : Regions) : (r.unlink name).2.objects = r.objects := by
  rw [unlink]
  cases RegionName.object name with
  | error e => rfl
  | ok n =>
    dsimp only
    cases r.find? n <;> rfl

end PeerLink.Regions
