import Mathlib.Logic.Function.Iterate
import PeerLink.Proofs.Link.Company

/-! # Calls that meet under one name

Any number of processes open an endpoint under one name, and some may be closing theirs. Every look
at the name, every creation, removal and claim is one step, and between two steps of a call the
others get on with theirs, in any order.

* `CallStage`, `CallStage.next`: where a call stands, and its next step; `CallStage.steps_start` and
  `CallStage.steps_releasing` say that the steps of a call that nobody interrupts add up to
  `Endpoint.board` and to `Endpoint.leave`.
* `Gathering`, `Crowd`, `Gathering.after`: who takes part, where everybody stands, and what a
  schedule makes of it; `Gathering.after_replicate` says that a call on its own takes its own steps.
* `Gathering.over_of_count`: no call takes more than eleven steps, whatever the others do.
-/

namespace PeerLink
set_option autoImplicit false

/-! ## One call -/

/-- What a process brings to a call that opens an endpoint. -/
structure Opening where
  pid : UInt32
  now : Instant
  config : EndpointConfig

/-- Where a call stands, be it one that opens an endpoint or one that closes its own. -/
inductive CallStage where
  | approaching (a : Approach)
  | opened (e : Endpoint)
  | refused (err : LinkError)
  /-- About to give the side up. -/
  | releasing (e : Endpoint)
  /-- About to ask what the name stands for, since no live peer was left. -/
  | checking (e : Endpoint)
  /-- About to remove the name, which stood for the endpoint's region when asked. -/
  | removing (e : Endpoint)
  | left (result : Except LinkError Unit)

def Opening.start (o : Opening) : CallStage :=
  match o.config.validate with
  | .error err => .refused err
  | .ok () => .approaching .start

theorem Opening.start_cases (o : Opening) :
    o.start = .approaching .start ∨ ∃ err, o.start = .refused err := by
  rw [Opening.start]
  split
  · exact .inr ⟨_, rfl⟩
  · exact .inl rfl

namespace CallStage

def ofApproach : Approach → CallStage
  | .refused err => .refused err
  | a => .approaching a

def ofEntered : Except LinkError Endpoint → CallStage
  | .error err => .refused err
  | .ok e => .opened e

/-- The next step of a call. -/
def next (k : Kernel) (p : Process) (o : Opening) : CallStage → Regions → CallStage × Regions
  | .approaching (.attached handle), r =>
    let (result, r) := Endpoint.enter p o.now o.config handle.object r
    (.ofEntered result, r)
  | .approaching a, r =>
    let (a, r) := a.step k p o.config r
    (.ofApproach a, r)
  | .releasing e, r =>
    match r.onHeader e.region (·.release p e.role e.config.lockTimeout) with
    | (.error err, r) => (.left (.error err), r)
    | (.ok peerLive, r) =>
      if !e.config.autoCleanup || peerLive then (.left (.ok ()), r) else (.checking e, r)
  | .checking e, r =>
    match r.identify e.config.name with
    | .error err => (.left (.error (.region err)), r)
    | .ok current => if current = some e.region then (.removing e, r) else (.left (.ok ()), r)
  | .removing e, r =>
    match r.unlink e.config.name with
    | (.ok _, r) => (.left (.ok ()), r)
    | (.error err, r) => (.left (.error (.region err)), r)
  | s, r => (s, r)

/-- The call has come to its end. -/
def Over : CallStage → Prop
  | .opened _ | .refused _ | .left _ => True
  | .approaching _ | .releasing _ | .checking _ | .removing _ => False

end CallStage

/-! ### The steps add up -/

/-- At most so many steps are left until an approach is attached or refused. -/
def Approach.due : Approach → ℕ
  | .look left _ => 3 * left + 1
  | .make left => 3 * left + 2
  | .discard left => 3 * left + 3
  | .attached _ | .refused _ => 0

theorem Approach.due_step (k : Kernel) (p : Process) (c : EndpointConfig) {a : Approach}
    (r : Regions) (h : a.due ≠ 0) : (a.step k p c r).1.due < a.due := by
  cases a with
  | look left last =>
    cases left with
    | zero => exact Nat.zero_lt_one
    | succ left =>
      rw [step]
      cases r.attachLayout c.name with
      | ok handle => exact Nat.succ_pos _
      | error err =>
        dsimp only
        split
        · exact Nat.succ_pos _
        · split
          · simp only [due]
            omega
          · split <;> simp only [due] <;> omega
  | discard left =>
    rw [step]
    split <;> simp only [due] <;> omega
  | make left =>
    rw [step]
    split
    · simp only [due]
      omega
    · split <;> simp only [due] <;> omega
  | attached handle => exact absurd rfl h
  | refused err => exact absurd rfl h

namespace CallStage

variable {k : Kernel} {p : Process} {o : Opening} {s : CallStage} {r : Regions} {a : Approach}

theorem next_of_over (h : s.Over) : s.next k p o r = (s, r) := by
  cases s <;> first | rfl | exact h.elim

/-- The steps of a call while nobody else acts. -/
def steps (k : Kernel) (p : Process) (o : Opening) (m : ℕ) (x : CallStage × Regions) :
    CallStage × Regions :=
  (fun x : CallStage × Regions => x.1.next k p o x.2)^[m] x

theorem steps_succ (m : ℕ) (s : CallStage) (r : Regions) :
    steps k p o (m + 1) (s, r) = steps k p o m (s.next k p o r) := rfl

theorem steps_of_over (h : s.Over) (m : ℕ) : steps k p o m (s, r) = (s, r) :=
  Function.iterate_fixed (next_of_over h) m

theorem over_refused (err : LinkError) : (refused err).Over := trivial

theorem over_ofEntered (result : Except LinkError Endpoint) : (ofEntered result).Over := by
  cases result <;> trivial

/-- The rest of a call once it is attached or refused. -/
def conclude (p : Process) (o : Opening) :
    Except LinkError RegionHandle × Regions → CallStage × Regions
  | (.error err, r) => (.refused err, r)
  | (.ok handle, r) =>
    let (result, r) := Endpoint.enter p o.now o.config handle.object r
    (.ofEntered result, r)

theorem steps_attached (m : ℕ) (handle : RegionHandle) (r : Regions) :
    steps k p o (m + 1) (.approaching (.attached handle), r) = conclude p o (.ok handle, r) :=
  steps_of_over (over_ofEntered _) m

theorem next_approaching (h : a.due ≠ 0) (r : Regions) :
    (approaching a).next k p o r =
      (ofApproach (a.step k p o.config r).1, (a.step k p o.config r).2) := by
  cases a <;> first | rfl | exact absurd rfl h

theorem steps_approaching (m : ℕ) (h₀ : a.due ≠ 0) (hm : a.due ≤ m) (r : Regions) :
    steps k p o (m + 1) (.approaching a, r) = conclude p o (a.run k p o.config m r) := by
  induction m generalizing a r with
  | zero => exact absurd (Nat.le_zero.mp hm) h₀
  | succ m ih =>
    have hless := Approach.due_step k p o.config r h₀
    rw [steps_succ, next_approaching h₀, Approach.run_succ]
    generalize a.step k p o.config r = stepped at hless ⊢
    obtain ⟨a', r'⟩ := stepped
    cases a' with
    | attached handle =>
      rw [Approach.run_attached]
      exact steps_attached m handle r'
    | refused err =>
      rw [show (Approach.refused err).run k p o.config m r' = (.error err, r') by cases m <;> rfl]
      exact steps_of_over (over_refused err) (m + 1)
    | look | discard | make =>
      refine ih ?_ (Nat.le_of_lt_succ (Nat.lt_of_lt_of_le hless hm)) r'
      exact Nat.succ_ne_zero _

/-- Nobody else acts, and the steps of the call are `Endpoint.board`, if a clock can show the end of
its limit for locks. -/
theorem steps_start (k : Kernel) (p : Process) (o : Opening) (r : Regions) {deadline : Instant}
    (hdeadline : o.now.after? o.config.lockTimeout = some deadline) :
    ∃ result r', Endpoint.board k p o.now o.config r = (some result, r') ∧
      steps k p o (Approach.maxSteps + 1) (o.start, r) = (ofEntered result, r') := by
  rw [Opening.start, Endpoint.board, hdeadline]
  cases o.config.validate with
  | error err => exact ⟨_, r, rfl, steps_of_over (over_refused err) _⟩
  | ok u =>
    have hfirst : Approach.start.due ≠ 0 := Nat.succ_ne_zero _
    have hdue : Approach.start.due ≤ Approach.maxSteps := Nat.le_refl _
    dsimp only
    rw [steps_approaching _ hfirst hdue, Regions.acquire]
    rcases Approach.start.run k p o.config Approach.maxSteps r with ⟨err | handle, r'⟩
    · exact ⟨_, r', rfl, rfl⟩
    · exact ⟨_, _, rfl, rfl⟩

/-- Nobody else acts, and the steps of a call that closes an endpoint are `Endpoint.leave`. -/
theorem steps_releasing (k : Kernel) (p : Process) (o : Opening) (e : Endpoint) (r : Regions) :
    steps k p o 3 (.releasing e, r) = (.left (e.leave p r).1, (e.leave p r).2) := by
  rw [steps_succ, next, Endpoint.leave]
  rcases r.onHeader e.region (·.release p e.role e.config.lockTimeout) with ⟨err | peerLive, r'⟩
  · rfl
  · dsimp only
    by_cases hstays : (!e.config.autoCleanup || peerLive) = true
    · rw [if_pos hstays, if_pos hstays]
      rfl
    · rw [if_neg hstays, if_neg hstays, steps_succ, next]
      cases r'.identify e.config.name with
      | error err => rfl
      | ok current =>
        dsimp only
        by_cases hsame : current = some e.region
        · rw [if_pos hsame, if_pos hsame, steps_succ, next]
          rcases r'.unlink e.config.name with ⟨_ | _, r''⟩ <;> rfl
        · rw [if_neg hsame, if_neg hsame]
          rfl

end CallStage

/-! ## Many calls -/

/-- The setting of a crowd, which does not change: the system, the processes that exist, and what
each call brings along. -/
structure Gathering (ι : Type) where
  kernel : Kernel
  running : UInt32 → Bool
  opening : ι → Opening

structure Crowd (ι : Type) where
  regions : Regions
  stage : ι → CallStage

namespace Gathering

variable {ι : Type} {g : Gathering ι} {c : Crowd ι} {i j : ι}

/-- The process of a call. -/
def process (g : Gathering ι) (i : ι) : Process := ⟨(g.opening i).pid, g.running⟩

/-- Whether a slot is claimed by a process that exists. -/
def live (g : Gathering ι) (s : RoleSlot) : Bool := s.isLive ⟨0, g.running⟩

@[simp]
theorem isLive_process (s : RoleSlot) : s.isLive (g.process i) = g.live s := rfl

/-- A call's next step, as the others have left things. -/
def advance (g : Gathering ι) (c : Crowd ι) (i : ι) : CallStage × Regions :=
  (c.stage i).next g.kernel (g.process i) (g.opening i) c.regions

variable [DecidableEq ι]

def turn (g : Gathering ι) (c : Crowd ι) (i : ι) : Crowd ι :=
  ⟨(g.advance c i).2, Function.update c.stage i (g.advance c i).1⟩

/-- What a schedule makes of a crowd: who is named takes the next step. -/
def after (g : Gathering ι) (c : Crowd ι) (schedule : List ι) : Crowd ι := schedule.foldl g.turn c

/-- Everybody is about to open an endpoint. -/
def start (g : Gathering ι) (r : Regions) : Crowd ι := ⟨r, fun i => (g.opening i).start⟩

omit [DecidableEq ι] in
theorem stage_start (g : Gathering ι) (r : Regions) (i : ι) :
    (g.start r).stage i = .approaching .start ∨ ∃ err, (g.start r).stage i = .refused err :=
  (g.opening i).start_cases

theorem after_cons (g : Gathering ι) (c : Crowd ι) (i : ι) (schedule : List ι) :
    g.after c (i :: schedule) = g.after (g.turn c i) schedule := rfl

theorem after_append (g : Gathering ι) (c : Crowd ι) (before later : List ι) :
    g.after c (before ++ later) = g.after (g.after c before) later := List.foldl_append

theorem stage_turn_self (g : Gathering ι) (c : Crowd ι) (i : ι) :
    (g.turn c i).stage i = (g.advance c i).1 := Function.update_self ..

theorem stage_turn_of_ne (g : Gathering ι) (c : Crowd ι) (h : j ≠ i) :
    (g.turn c i).stage j = c.stage j := Function.update_of_ne h ..

/-- What every turn keeps holds in the end. -/
theorem after_of_turn {I : Crowd ι → Prop} (hturn : ∀ c i, I c → I (g.turn c i)) (h : I c)
    (schedule : List ι) : I (g.after c schedule) := by
  induction schedule generalizing c with
  | nil => exact h
  | cons i schedule ih => exact ih (hturn c i h)

/-- A call that is on its own takes its own steps. -/
theorem after_replicate (g : Gathering ι) (c : Crowd ι) (i : ι) (m : ℕ) :
    ((g.after c (List.replicate m i)).stage i, (g.after c (List.replicate m i)).regions) =
      CallStage.steps g.kernel (g.process i) (g.opening i) m (c.stage i, c.regions) := by
  induction m generalizing c with
  | zero => rfl
  | succ m ih =>
    rw [List.replicate_succ, after_cons, ih, stage_turn_self, CallStage.steps_succ]
    rfl

/-! ## Every call comes to its end -/

end Gathering

namespace CallStage

/-- At most so many steps of a call are left. -/
def due : CallStage → ℕ
  | .approaching a => a.due + 1
  | .releasing _ => 3
  | .checking _ => 2
  | .removing _ => 1
  | .opened _ | .refused _ | .left _ => 0

theorem over_iff_due (s : CallStage) : s.Over ↔ s.due = 0 := by
  cases s <;> simp [Over, due]

instance (s : CallStage) : Decidable s.Over := decidable_of_iff _ s.over_iff_due.symm

theorem due_ofApproach (a : Approach) : (ofApproach a).due ≤ a.due + 1 := by
  cases a <;> simp [ofApproach, due]

theorem due_start (o : Opening) : o.start.due ≤ Approach.maxSteps + 1 := by
  rw [Opening.start]
  split
  · exact Nat.zero_le _
  · exact Nat.le_refl _

theorem due_next (k : Kernel) (p : Process) (o : Opening) {s : CallStage} (r : Regions)
    (h : s.due ≠ 0) : (s.next k p o r).1.due < s.due := by
  cases s with
  | approaching a =>
    by_cases hready : a.due = 0
    · cases a with
      | attached handle =>
        have hover := (over_iff_due _).mp (over_ofEntered
          (Endpoint.enter p o.now o.config handle.object r).1)
        exact Nat.lt_of_le_of_lt (Nat.le_of_eq hover) (Nat.succ_pos _)
      | refused err => exact Nat.succ_pos _
      | look | discard | make => exact absurd hready (Nat.succ_ne_zero _)
    · rw [next_approaching hready]
      have hless := Approach.due_step k p o.config r hready
      exact Nat.lt_of_le_of_lt (due_ofApproach _) (Nat.succ_lt_succ hless)
  | releasing e =>
    rw [next]
    split
    · exact Nat.succ_pos _
    · split <;> simp [due]
  | checking e =>
    rw [next]
    split
    · exact Nat.succ_pos _
    · split <;> simp [due]
  | removing e =>
    rw [next]
    split <;> exact Nat.succ_pos _
  | opened | refused | left => exact absurd rfl h

end CallStage

namespace Gathering

variable {ι : Type} [DecidableEq ι] {g : Gathering ι} {c : Crowd ι} {i : ι} {r : Regions}

theorem due_turn (g : Gathering ι) (c : Crowd ι) (i j : ι) :
    ((g.turn c j).stage i).due + [j].count i ≤ max (c.stage i).due ([j].count i) := by
  by_cases hown : j = i
  · subst hown
    rw [stage_turn_self, List.count_singleton_self]
    by_cases hdue : (c.stage j).due = 0
    · rw [advance, CallStage.next_of_over ((CallStage.over_iff_due _).mpr hdue), hdue]
      exact Nat.le_max_right ..
    · exact Nat.le_trans (Nat.succ_le_of_lt (CallStage.due_next _ _ _ _ hdue)) (Nat.le_max_left ..)
  · rw [stage_turn_of_ne g c (Ne.symm hown), List.count_singleton, if_neg (by simpa using hown)]
    exact Nat.le_max_left ..

theorem due_after (g : Gathering ι) (c : Crowd ι) (i : ι) (schedule : List ι) :
    ((g.after c schedule).stage i).due ≤ (c.stage i).due - schedule.count i := by
  induction schedule generalizing c with
  | nil => exact Nat.le_refl _
  | cons j schedule ih =>
    have hturn := due_turn g c i j
    have hrest := ih (g.turn c j)
    have hcount : [j].count i + schedule.count i = (j :: schedule).count i :=
      List.count_append.symm
    rw [after_cons, ← hcount]
    omega

theorem over_of_due_le_count {schedule : List ι} (h : (c.stage i).due ≤ schedule.count i) :
    ((g.after c schedule).stage i).Over := by
  have hdue := due_after g c i schedule
  rw [Nat.sub_eq_zero_of_le h] at hdue
  exact (CallStage.over_iff_due _).mpr (Nat.le_zero.mp hdue)

/-- Three looks at the name are eleven steps at most, whatever the others do in between. -/
theorem over_of_count {schedule : List ι} (h : Approach.maxSteps + 1 ≤ schedule.count i) :
    ((g.after (g.start r) schedule).stage i).Over :=
  over_of_due_le_count (Nat.le_trans (CallStage.due_start _) h)

/-! ## A gathering -/

/-- Three live processes, each with a role, under one name. -/
def threesome (roles : Fin 3 → Role) : Gathering (Fin 3) where
  kernel := .able
  running pid := pid ∈ [7, 8, 9]
  opening i := ⟨[7, 8, 9].get i, 0, { name := "a", role := roles i }⟩

def callA : Fin 3 := 0
def callB : Fin 3 := 1
def callC : Fin 3 := 2

end Gathering
end PeerLink
