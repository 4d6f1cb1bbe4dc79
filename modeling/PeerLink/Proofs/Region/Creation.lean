import PeerLink.Proofs.Region.Store

/-! # Creating a region

A region is created by one system call after another: the object is made under its name, its mode
and its size are set, it is mapped and identified. The system may refuse any of them, and what the
calls before have left is then undone. An object is there as long as it has a name or somebody has
it open or mapped.

* `Creation.World`: the regions, and the objects that are open and mapped.
* `Creation.furnish`, `Creation.perform`: the calls, with what is undone after a refusal;
  `Creation.perform_eq_create` says that they add up to `Regions.create`.
* `Creation.Unfinished`: what the calls keep, from the first to the one that is refused.

Main statement: `Creation.failed_creation_leaves_no_trace`.
-/

namespace PeerLink.Creation
set_option autoImplicit false

/-! ## System calls -/

/-- The regions of a host, and an entry for each time that a process has an object open or
mapped. -/
structure World where
  regions : Regions
  opened : List ObjectId
  mapped : List ObjectId

namespace World

/-- Makes an empty object under a name that must be free. -/
def make (k : Kernel) (n : String) (w : World) : Except Errno (ObjectId × World) :=
  match (w.regions.find? n).map (fun _ => Errno.exists) <|> k.making with
  | some errno => .error errno
  | none =>
    let (id, r) := w.regions.allocate (.zero 0)
    .ok (id, { w with regions := r.bind n id, opened := id :: w.opened })

def resize (id : ObjectId) (size : Nat) (w : World) : World :=
  { w with regions := w.regions.setMemory id (.zero size) }

def map (id : ObjectId) (w : World) : World := { w with mapped := id :: w.mapped }

def unmap (id : ObjectId) (w : World) : World := { w with mapped := w.mapped.erase id }

def unlink (n : String) (w : World) : World := { w with regions := w.regions.free n }

def close (id : ObjectId) (w : World) : World := { w with opened := w.opened.erase id }

/-- Somebody can still get at the object. -/
def Lives (w : World) (id : ObjectId) : Prop :=
  (∃ n, w.regions.find? n = some id) ∨ id ∈ w.opened ∨ id ∈ w.mapped

/-- The same names, open objects and mappings, and the same bytes in every object of before. -/
structure SameAs (w₀ w : World) : Prop where
  names : w.regions.names = w₀.regions.names
  opened : w.opened = w₀.opened
  mapped : w.mapped = w₀.mapped
  memory : ∀ id < w₀.regions.objects.length, w.regions.memory id = w₀.regions.memory id

end World

/-- The calls on an object just made. A mapping that cannot be identified is undone at once. -/
def furnish (k : Kernel) (size mode : Nat) (id : ObjectId) (w : World) : Option Errno × World :=
  match k.permitting mode with
  | some errno => (some errno, w)
  | none =>
    match k.sizing size with
    | some errno => (some errno, w)
    | none =>
      match k.mapping size with
      | some errno => (some errno, w.resize id size)
      | none =>
        match k.identifying with
        | some errno => (some errno, ((w.resize id size).map id).unmap id)
        | none => (none, (w.resize id size).map id)

/-- A creation. The object is closed in the end, whatever has become of it. -/
def perform (k : Kernel) (name : String) (size mode : Nat) (w : World) :
    Except RegionError RegionHandle × World :=
  match RegionName.object name with
  | .error e => (.error e, w)
  | .ok n =>
    if size = 0 then
      (.error (.create n (.custom .invalidInput "region length must be non-zero")), w)
    else
      match w.make k n with
      | .error errno => (.error (.create n (.system errno)), w)
      | .ok (id, made) =>
        match furnish k size mode id made with
        | (some errno, left) => (.error (.create n (.system errno)), (left.unlink n).close id)
        | (none, left) => (.ok ⟨name, n, id, size, true⟩, left.close id)

variable {k : Kernel} {name n : String} {size mode : Nat} {w₀ w left : World} {id : ObjectId}
  {errno : Errno}

/-! ## What every call keeps -/

/-- The object has its name and is open; nothing else is other than before. -/
structure Unfinished (w₀ : World) (n : String) (w : World) : Prop where
  names : w.regions.names = w₀.regions.names ++ [(n, w₀.regions.objects.length)]
  opened : w.opened = w₀.regions.objects.length :: w₀.opened
  mapped : w.mapped = w₀.mapped
  memory : ∀ id < w₀.regions.objects.length, w.regions.memory id = w₀.regions.memory id

theorem make_eq_ok (h : w₀.make k n = .ok (id, w)) :
    (w₀.regions.find? n = none ∧ k.making = none) ∧ id = w₀.regions.objects.length ∧
      w.regions = (w₀.regions.allocate (.zero 0)).2.bind n w₀.regions.objects.length ∧
      Unfinished w₀ n w := by
  unfold World.make at h
  cases hfind : w₀.regions.find? n with
  | some other =>
    rw [hfind] at h
    cases h
  | none =>
    rw [hfind] at h
    cases hmaking : k.making with
    | some errno =>
      rw [hmaking] at h
      cases h
    | none =>
      rw [hmaking] at h
      cases h
      refine ⟨⟨rfl, rfl⟩, rfl, rfl, rfl, rfl, rfl, ?_⟩
      intro id hid
      refine (Regions.memory_allocate (.zero 0) w₀.regions id).trans ?_
      exact if_neg (Nat.ne_of_lt hid)

theorem Unfinished.resize (h : Unfinished w₀ n w) (size : Nat) :
    Unfinished w₀ n (w.resize w₀.regions.objects.length size) := by
  refine ⟨h.names, h.opened, h.mapped, ?_⟩
  intro id hid
  have hother : ¬ (id = w₀.regions.objects.length ∧
      w₀.regions.objects.length < w.regions.objects.length) := by omega
  refine (Regions.memory_setMemory ..).trans ?_
  rw [if_neg hother]
  exact h.memory id hid

theorem Unfinished.map_unmap (h : Unfinished w₀ n w) (id : ObjectId) :
    Unfinished w₀ n ((w.map id).unmap id) :=
  ⟨h.names, h.opened, (List.erase_cons_head ..).trans h.mapped, h.memory⟩

/-- Up to a refusal, the calls have changed the new object only, and it is not mapped. -/
theorem Unfinished.furnish (h : Unfinished w₀ n w)
    (hrefused : furnish k size mode w₀.regions.objects.length w = (some errno, left)) :
    Unfinished w₀ n left := by
  unfold Creation.furnish at hrefused
  split at hrefused
  · cases hrefused
    exact h
  · split at hrefused
    · cases hrefused
      exact h
    · split at hrefused
      · cases hrefused
        exact h.resize size
      · split at hrefused
        · cases hrefused
          exact (h.resize size).map_unmap _
        · cases hrefused

/-- Taking the name away and closing the object is all that is left to undo. -/
theorem Unfinished.undone (h : Unfinished w₀ n w) (hfree : w₀.regions.find? n = none) :
    w₀.SameAs ((w.unlink n).close w₀.regions.objects.length) where
  names := by
    have hkept : w₀.regions.names.filter (·.1 != n) = w₀.regions.names :=
      congrArg Regions.names (Regions.free_of_find?_eq_none hfree)
    have hnames : (w.regions.free n).names = w.regions.names.filter (·.1 != n) := rfl
    simp only [World.unlink, World.close, hnames, h.names, List.filter_append, hkept]
    simp
  opened := by
    simp only [World.unlink, World.close, h.opened]
    exact List.erase_cons_head ..
  mapped := h.mapped
  memory := h.memory

/-! ## The whole creation -/

theorem furnish_refusal (k : Kernel) (size mode : Nat) (id : ObjectId) (w : World) :
    (furnish k size mode id w).1 = Regions.refusal? k mode size := by
  unfold furnish Regions.refusal?
  cases k.permitting mode <;> cases k.sizing size <;> cases k.mapping size <;>
    cases k.identifying <;> rfl

theorem furnish_accepted (h : furnish k size mode id w = (none, left)) :
    left = (w.resize id size).map id := by
  unfold furnish at h
  repeat' split at h
  all_goals cases h
  rfl

theorem make_eq_error (h : w₀.make k n = .error errno) :
    ((w₀.regions.find? n).map (fun _ => Errno.exists) <|> k.making) = some errno := by
  unfold World.make at h
  split at h
  · next refusal hrefusal =>
    cases h
    exact hrefusal
  · cases h

/-- The calls answer what the creation of a region answers. -/
theorem perform_eq_create (k : Kernel) (name : String) (size mode : Nat) (w₀ : World) :
    (perform k name size mode w₀).1 = (w₀.regions.create k name size mode).1 := by
  unfold perform Regions.create
  cases hname : RegionName.object name with
  | error e => rfl
  | ok n =>
    dsimp only
    by_cases hsize : size = 0
    · rw [if_pos hsize, if_pos hsize]
    · rw [if_neg hsize, if_neg hsize]
      cases hmake : w₀.make k n with
      | error errno =>
        rw [make_eq_error hmake]
      | ok made =>
        obtain ⟨id, w⟩ := made
        obtain ⟨⟨hfind, hmaking⟩, rfl, -, -⟩ := make_eq_ok hmake
        have hrefusal := furnish_refusal k size mode w₀.regions.objects.length w
        rw [hfind, hmaking, ← hrefusal]
        dsimp only [Option.map_none, Option.orElse_eq_orElse, Option.orElse_eq_or, Option.or]
        rcases furnish k size mode w₀.regions.objects.length w with ⟨_ | errno, left⟩ <;> rfl

theorem sameAs_refl (w : World) : w.SameAs w := ⟨rfl, rfl, rfl, fun _ _ => rfl⟩

theorem sameAs_of_error {e : RegionError} (h : (perform k name size mode w₀).1 = .error e) :
    w₀.SameAs (perform k name size mode w₀).2 := by
  unfold perform at h ⊢
  cases hname : RegionName.object name with
  | error e => exact sameAs_refl w₀
  | ok n =>
    rw [hname] at h
    dsimp only at h ⊢
    by_cases hsize : size = 0
    · rw [if_pos hsize]
      exact sameAs_refl w₀
    · rw [if_neg hsize] at h ⊢
      cases hmake : w₀.make k n with
      | error errno => exact sameAs_refl w₀
      | ok made =>
        obtain ⟨id, w⟩ := made
        obtain ⟨⟨hfind, -⟩, rfl, -, hmade⟩ := make_eq_ok hmake
        rw [hmake] at h
        dsimp only at h ⊢
        rcases hfurnish : furnish k size mode w₀.regions.objects.length w with ⟨_ | errno, left⟩
        · rw [hfurnish] at h
          cases h
        · exact (hmade.furnish hfurnish).undone hfind

/-- A creation that succeeds had a free name, which now stands for a new object of zeros; it is
mapped once more than before. -/
structure World.Gains (w₀ : World) (handle : RegionHandle) (size : Nat) (w : World) : Prop where
  free : w₀.regions.find? handle.objectName = none
  fresh : handle.object = w₀.regions.objects.length
  regions : w.regions =
    (w₀.regions.allocate (.zero size)).2.bind handle.objectName handle.object
  opened : w.opened = w₀.opened
  mapped : w.mapped = handle.object :: w₀.mapped

theorem gains_of_ok {handle : RegionHandle} (h : (perform k name size mode w₀).1 = .ok handle) :
    w₀.Gains handle size (perform k name size mode w₀).2 := by
  unfold perform at h ⊢
  cases hname : RegionName.object name with
  | error e =>
    rw [hname] at h
    cases h
  | ok n =>
    rw [hname] at h
    dsimp only at h ⊢
    by_cases hsize : size = 0
    · rw [if_pos hsize] at h
      cases h
    · rw [if_neg hsize] at h ⊢
      cases hmake : w₀.make k n with
      | error errno =>
        rw [hmake] at h
        cases h
      | ok made =>
        obtain ⟨id, w⟩ := made
        obtain ⟨⟨hfind, -⟩, rfl, hregions, hmade⟩ := make_eq_ok hmake
        rw [hmake] at h
        dsimp only at h ⊢
        rcases hfurnish : furnish k size mode w₀.regions.objects.length w with ⟨_ | errno, left⟩
        · rw [hfurnish] at h
          cases h
          obtain rfl := furnish_accepted hfurnish
          refine ⟨hfind, rfl, ?_, ?_, ?_⟩
          · simp [World.close, World.map, World.resize, hregions, Regions.setMemory,
              Regions.allocate, Regions.bind]
          · simp only [World.close, World.map, World.resize, hmade.opened]
            exact List.erase_cons_head ..
          · exact congrArg (_ :: ·) hmade.mapped
        · rw [hfurnish] at h
          cases h

/-- The system refuses one of the calls. -/
def Refuses (k : Kernel) (size mode : Nat) : Prop :=
  k.making ≠ none ∨ k.permitting mode ≠ none ∨ k.sizing size ≠ none ∨ k.mapping size ≠ none ∨
    k.identifying ≠ none

theorem refuses_iff (k : Kernel) (size mode : Nat) :
    Refuses k size mode ↔ k.making ≠ none ∨ Regions.refusal? k mode size ≠ none := by
  unfold Refuses Regions.refusal?
  cases k.permitting mode <;> cases k.sizing size <;> cases k.mapping size <;>
    cases k.identifying <;> simp

/-- A region of a valid name and of some length is created unless its name is taken or the system
refuses. -/
theorem create_fails_iff (k : Kernel) (size mode : Nat) (r : Regions)
    (hname : RegionName.object name = .ok n) (hsize : size ≠ 0) :
    (∃ e, (r.create k name size mode).1 = .error e) ↔ r.find? n ≠ none ∨ Refuses k size mode := by
  rw [refuses_iff]
  unfold Regions.create
  rw [hname]
  dsimp only
  rw [if_neg hsize]
  cases hfind : r.find? n with
  | some id => simp
  | none =>
    cases hmaking : k.making with
    | some errno => simp
    | none =>
      cases hrefusal : Regions.refusal? k mode size with
      | some errno => simp
      | none => simp

/-- What a creation does to the regions, apart from what the process has open: a failed one leaves
at most an object that nobody can get at. -/
theorem create_of_error {r : Regions} {e : RegionError}
    (h : (r.create k name size mode).1 = .error e) :
    (r.create k name size mode).2.names = r.names ∧
      ∀ id < r.objects.length, (r.create k name size mode).2.memory id = r.memory id := by
  rcases Regions.create_cases k name size mode r with ⟨e, hcreate⟩ | ⟨e, hcreate⟩ | ⟨n, -, -, hcreate⟩
  · rw [hcreate]
    exact ⟨rfl, fun _ _ => rfl⟩
  · rw [hcreate]
    refine ⟨rfl, ?_⟩
    intro id hid
    rw [Regions.memory_allocate, if_neg (Nat.ne_of_lt hid)]
  · rw [hcreate] at h
    cases h

theorem create_of_ok {r : Regions} {handle : RegionHandle}
    (h : (r.create k name size mode).1 = .ok handle) :
    (r.create k name size mode).2 =
      (r.allocate (.zero size)).2.bind handle.objectName handle.object := by
  rcases Regions.create_cases k name size mode r with ⟨e, hcreate⟩ | ⟨e, hcreate⟩ | ⟨n, -, -, hcreate⟩
  · rw [hcreate] at h
    cases h
  · rw [hcreate] at h
    cases h
  · rw [hcreate] at h ⊢
    cases h
    rfl

theorem World.SameAs.lives_iff (h : w₀.SameAs w) (id : ObjectId) : w.Lives id ↔ w₀.Lives id := by
  unfold Lives
  simp only [Regions.find?_congr h.names, h.opened, h.mapped]

/-- Whatever regions there are and whichever calls the system refuses: a creation of a valid name
and length fails exactly if the name is taken or a call is refused. A creation that fails leaves all
names, all that processes have open or mapped, and all bytes of the objects as they were; nothing is
left of an object that it made. One that succeeds has put a new object of zeros under a name that
was free. -/
theorem failed_creation_leaves_no_trace (k : Kernel) (name : String) (size mode : Nat)
    (w₀ : World) :
    let out := perform k name size mode w₀
    let created := w₀.regions.create k name size mode
    out.1 = created.1 ∧
    (∀ n, RegionName.object name = .ok n → size ≠ 0 →
      ((∃ e, created.1 = .error e) ↔ w₀.regions.find? n ≠ none ∨ Refuses k size mode)) ∧
    (∀ e, created.1 = .error e →
      (w₀.SameAs out.2 ∧ ∀ id, out.2.Lives id ↔ w₀.Lives id) ∧
      created.2.names = w₀.regions.names ∧
      ∀ id < w₀.regions.objects.length, created.2.memory id = w₀.regions.memory id) ∧
    ∀ handle, created.1 = .ok handle →
      w₀.Gains handle size out.2 ∧ out.2.regions = created.2 := by
  intro out created
  have hsame : out.1 = created.1 := perform_eq_create k name size mode w₀
  refine ⟨hsame, ?_, ?_, ?_⟩
  · intro n hname hsize
    exact create_fails_iff k size mode w₀.regions hname hsize
  · intro e herror
    have hleft : w₀.SameAs out.2 := sameAs_of_error (hsame.trans herror)
    exact ⟨⟨hleft, hleft.lives_iff⟩, create_of_error herror⟩
  · intro handle hok
    have hgains : w₀.Gains handle size out.2 := gains_of_ok (hsame.trans hok)
    exact ⟨hgains, hgains.regions.trans (create_of_ok hok).symm⟩

/-- A region of 8 bytes named `a`, which somebody has mapped. -/
def oneRegion : World := ⟨⟨[.zero 8], [("/eshm_a", 0)]⟩, [], [0]⟩

/-- A system that maps whatever it is asked to, and then does not say what it has mapped. -/
def mute : Kernel := { Kernel.able with identifying := some .noMemory }

/-- The last call is refused when the region is mapped already, and its name is free again. -/
theorem failed_creation_leaves_no_trace_mute :
    (oneRegion.regions.create mute "b" 16 0o600).1 =
      .error (.create "/eshm_b" (.system .noMemory)) ∧
    (perform mute "b" 16 0o600 oneRegion).2.regions.find? "/eshm_b" = none ∧
    ¬ (perform mute "b" 16 0o600 oneRegion).2.Lives 1 ∧
    (perform mute "b" 16 0o600 oneRegion).2.Lives 0 := by
  obtain ⟨-, -, hfailed, -⟩ := failed_creation_leaves_no_trace mute "b" 16 0o600 oneRegion
  have herror : (oneRegion.regions.create mute "b" 16 0o600).1 =
      .error (.create "/eshm_b" (.system .noMemory)) := by rfl
  obtain ⟨⟨hsame, hlives⟩, -⟩ := hfailed _ herror
  refine ⟨herror, ?_, ?_, ?_⟩
  · rw [Regions.find?_congr hsame.names]
    decide
  · rw [hlives]
    rintro (⟨n, hn⟩ | hopened | hmapped)
    · simp [oneRegion, Regions.find?] at hn
    · cases hopened
    · simp [oneRegion] at hmapped
  · rw [hlives]
    exact .inr (.inr List.mem_cons_self)

end PeerLink.Creation
