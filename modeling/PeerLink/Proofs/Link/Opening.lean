import PeerLink.Link.Endpoint
import PeerLink.Proofs.Link.Attaching

/-! # Opening an endpoint

Whoever opens an endpoint comes by a region, takes a side of it and beats once. The worker comes last,
and if the system has no thread for it the side is given up again.

* `Endpoint.enter_any`, `Endpoint.enter_cases`, `Endpoint.enter_found`: taking a side, whatever the
  lock says, with a free one, and of a region that was just made.
* `Endpoint.board_cases`, `Endpoint.board_any`: where boarding ends early, and what it does otherwise.
* `Endpoint.staff_of_staffs`, `Endpoint.staff_of_not_staffs`: starting the worker.
* `Endpoint.Opens`: all that can come of opening an endpoint, one case for each.
* `Endpoint.open_of_staffs`, `Endpoint.open_eq_ok_iff`: opening with and without a thread for the
  worker.
-/

namespace PeerLink
set_option autoImplicit false

/-- Only the recorded threshold counts. -/
theorem Header.agreedThreshold_congr {h h' : Header} (c : EndpointConfig)
    (hthreshold : h'.staleThresholdMs = h.staleThresholdMs) :
    h'.agreedThreshold c = h.agreedThreshold c := by
  rw [agreedThreshold, agreedThreshold, hthreshold]

/-- The system has a thread for the worker of an endpoint, if it is to have one. -/
def Kernel.Staffs (k : Kernel) (c : EndpointConfig) : Prop :=
  c.background = true → k.spawning = none

/-- A system that has no threads left. -/
def Kernel.exhausted : Kernel := { Kernel.able with spawning := some .tryAgain }

namespace Endpoint

variable {k : Kernel} {p : Process} {now : Instant} {c : EndpointConfig} {r mid r' : Regions}
  {id : ObjectId} {side : Role} {e : Endpoint}

/-- An endpoint that has just taken a side of an object and heard nothing of its peer. -/
def fresh (c : EndpointConfig) (side : Role) (id : ObjectId) (threshold : Duration)
    (peerPresent : Bool) (now : Instant) : Endpoint :=
  ⟨c, side, id, Monitor.start (.ofConfig c side threshold) peerPresent now, false, none⟩

/-- No endpoint has come of it. -/
def Unopened (result : Option (Except LinkError Endpoint)) : Prop := ∀ e, result ≠ some (.ok e)

theorem unopened_none : Unopened none := fun _ => nofun

theorem unopened_error (err : LinkError) : Unopened (some (.error err)) := fun _ => nofun

/-! ## Taking a side -/

theorem enter_any (p : Process) (now : Instant) (c : EndpointConfig)
    (hid : id < r.objects.length) :
    (∃ side present, (r.layout id).header.lock.Available p ∧
      (r.layout id).header.Grants p c.role side ∧
      enter p now c id r =
        (.ok (fresh c side id ((r.layout id).header.agreedThreshold c) present now),
          (r.unlock p id).take p.pid id side)) ∨
    ∃ err r', (r' = r ∨ (r.layout id).header.lock.Available p ∧ r' = r.unlock p id) ∧
      ((r.layout id).header.lock.Available p →
        (∀ side, ¬ (r.layout id).header.Grants p c.role side) ∧
          ∃ reason, err = .roleMismatch c.role reason) ∧
      enter p now c id r = (.error err, r') := by
  rw [enter]
  rcases Regions.claim_any p c.role c.lockTimeout hid with
    ⟨side, ha, hg, h⟩ | ⟨err, r', hleft, hreason, h⟩
  · -- The threshold is read after the side was taken, which leaves it as it was.
    have hthreshold : (((r.unlock p id).take p.pid id side).layout id).header.agreedThreshold c =
        (r.layout id).header.agreedThreshold c := by
      refine Header.agreedThreshold_congr c (((Regions.keeps_take ..).staleThresholdMs id).trans ?_)
      rw [Regions.layout_unlock p hid, if_pos rfl]
      rfl
    rw [h, ← hthreshold]
    exact .inl ⟨side, _, ha, hg, rfl⟩
  · rw [h]
    exact .inr ⟨err, r', hleft, hreason, rfl⟩

theorem enter_cases (p : Process) (now : Instant) (c : EndpointConfig)
    (hid : id < r.objects.length) (hfree : (r.layout id).header.lock.owner = 0) :
    (∃ side present, (r.layout id).header.Grants p c.role side ∧
      enter p now c id r =
        (.ok (fresh c side id ((r.layout id).header.agreedThreshold c) present now),
          r.take p.pid id side)) ∨
    ∃ err, (∀ side, ¬ (r.layout id).header.Grants p c.role side) ∧
      enter p now c id r = (.error err, r) := by
  have hunlock : r.unlock p id = r := Regions.unlock_of_free p hfree
  rcases enter_any p now c hid with ⟨side, present, -, hg, h⟩ | ⟨err, r', hleft, hreason, h⟩
  · rw [hunlock] at h
    exact .inl ⟨side, present, hg, h⟩
  · have hsame : r' = r := by
      rcases hleft with hsame | ⟨-, hsame⟩
      · exact hsame
      · exact hsame.trans hunlock
    rw [hsame] at h
    exact .inr ⟨err, (hreason (.inl hfree)).1, h⟩

/-- Nobody has a side of a region that was just made, so its maker becomes the master. -/
theorem enter_found (p : Process) (now : Instant) (hrole : c.role ≠ .slave) (n : String)
    (r : Regions) :
    ∃ threshold present,
      enter p now c r.objects.length (r.found n c.staleThreshold) =
        (.ok (fresh c .master r.objects.length threshold present now),
          (r.found n c.staleThreshold).take p.pid r.objects.length .master) := by
  have hheader := Regions.header_found n c.staleThreshold r
  have hgrants : ((r.found n c.staleThreshold).layout r.objects.length).header.Grants p
      c.role .master := hheader ▸ Header.grants_published p hrole c.staleThreshold
  have hfree : ((r.found n c.staleThreshold).layout r.objects.length).header.lock.owner = 0 := by
    rw [hheader]
    rfl
  have hid : r.objects.length < (r.found n c.staleThreshold).objects.length := by
    rw [Regions.length_found]
    exact Nat.lt_succ_self _
  rcases enter_cases p now c hid hfree with ⟨side, present, hgranted, h⟩ | ⟨err, hrefused, -⟩
  · cases hgranted.eq hgrants
    exact ⟨_, present, h⟩
  · exact absurd hgrants (hrefused .master)

/-! ## Boarding -/

theorem board_of_timely (k : Kernel) (p : Process) (r : Regions) (hvalid : c.validate = .ok ())
    (htimely : (now.after? c.lockTimeout).isSome = true) :
    board k p now c r = match r.acquire k p c with
      | (.error e, r) => (some (.error e), r)
      | (.ok handle, r) => (some (enter p now c handle.object r).1,
          (enter p now c handle.object r).2) := by
  obtain ⟨deadline, hdeadline⟩ := Option.isSome_iff_exists.mp htimely
  rcases hacquired : r.acquire k p c with ⟨err | handle, mid⟩ <;>
    simp only [board, hvalid, hdeadline, hacquired]

/-- Settings with a fault, or a limit for locks that ends later than clocks can show, and boarding
ends before it looks for the region. -/
theorem board_cases (k : Kernel) (p : Process) (now : Instant) (c : EndpointConfig) (r : Regions) :
    (∃ result, Unopened result ∧ (c.validate = .ok () → now.after? c.lockTimeout = none) ∧
      board k p now c r = (result, r)) ∨
    (c.validate = .ok () ∧ (now.after? c.lockTimeout).isSome = true) := by
  cases hvalid : c.validate with
  | error err =>
    refine .inl ⟨some (.error err), unopened_error err, nofun, ?_⟩
    rw [board, hvalid]
  | ok u =>
    cases hdeadline : now.after? c.lockTimeout with
    | none =>
      refine .inl ⟨none, unopened_none, fun _ => rfl, ?_⟩
      rw [board, hvalid, hdeadline]
    | some deadline => exact .inr ⟨rfl, rfl⟩

/-- Boarding adds objects at most, and then takes a side of one of them. -/
theorem board_any (k : Kernel) (p : Process) (now : Instant) (c : EndpointConfig) (r : Regions) :
    ∃ mid, r.Grows mid ∧ ((∃ result, Unopened result ∧ board k p now c r = (result, mid)) ∨
      ∃ id < mid.objects.length, board k p now c r =
        (some (enter p now c id mid).1, (enter p now c id mid).2)) := by
  rcases board_cases k p now c r with ⟨result, hnone, -, hboard⟩ | ⟨hvalid, htimely⟩
  · exact ⟨r, Regions.grows_of_objects rfl, .inl ⟨result, hnone, hboard⟩⟩
  · rw [board_of_timely k p r hvalid htimely]
    obtain ⟨hgrows, hsuits⟩ := Regions.grows_acquire k p c r
    rcases hacquire : r.acquire k p c with ⟨err | handle, mid⟩
    · rw [hacquire] at hgrows
      exact ⟨mid, hgrows, .inl ⟨_, unopened_error err, rfl⟩⟩
    · rw [hacquire] at hgrows hsuits
      exact ⟨mid, hgrows, .inr ⟨handle.object, (hsuits handle rfl).mapped, rfl⟩⟩

/-- Who has boarded has settings that are accepted, and has taken a side of the region that was found
or made. -/
theorem of_board {handle : RegionHandle} (hacquire : r.acquire k p c = (.ok handle, mid))
    (h : board k p now c r = (some (.ok e), r')) :
    c.validate = .ok () ∧ enter p now c handle.object mid = (.ok e, r') := by
  rcases board_cases k p now c r with ⟨result, hnone, -, hboard⟩ | ⟨hvalid, htimely⟩
  · rw [hboard] at h
    exact absurd (congrArg Prod.fst h) (hnone e)
  · rw [board_of_timely k p r hvalid htimely, hacquire] at h
    obtain ⟨hresult, hregions⟩ := Prod.ext_iff.mp h
    exact ⟨hvalid, Prod.ext (Option.some.inj hresult) hregions⟩

/-! ## The worker -/

theorem staff_of_staffs (p : Process) (r : Regions) (h : k.Staffs e.config) :
    e.staff k p r = (.ok e, r) := by
  rw [staff]
  by_cases hbackground : e.config.background = true
  · rw [if_pos hbackground, h hbackground]
  · rw [if_neg hbackground]

theorem staff_of_not_staffs (p : Process) (r : Regions) (h : ¬ k.Staffs e.config) :
    ∃ errno, e.staff k p r = (.error (.io (.system errno)),
      (r.onHeader e.region (·.release p e.role e.config.lockTimeout)).2) := by
  obtain ⟨hbackground, hspawning⟩ := Classical.not_imp.mp h
  obtain ⟨errno, herrno⟩ := Option.ne_none_iff_exists'.mp hspawning
  refine ⟨errno, ?_⟩
  rw [staff, if_pos hbackground, herrno]

theorem open_of_board (h : board k p now c r = (some (.ok e), mid)) :
    Endpoint.open k p now c r = (some (e.staff k p mid).1, (e.staff k p mid).2) := by
  rw [Endpoint.open, h]

theorem open_of_unopened {result : Option (Except LinkError Endpoint)}
    (hnone : Unopened result) (h : board k p now c r = (result, mid)) :
    Endpoint.open k p now c r = (result, mid) := by
  rw [Endpoint.open, h]
  rcases result with _ | err | e
  · rfl
  · rfl
  · exact absurd rfl (hnone e)

/-- The regions after boarding are the last ones, but for a side that is given up again. -/
theorem regions_open (k : Kernel) (p : Process) (now : Instant) (c : EndpointConfig) (r : Regions) :
    (Endpoint.open k p now c r).2 = (board k p now c r).2 ∨
      ∃ e : Endpoint, (Endpoint.open k p now c r).2 =
        ((board k p now c r).2.onHeader e.region (·.release p e.role e.config.lockTimeout)).2 := by
  rcases hboard : board k p now c r with ⟨_ | err | e, mid⟩
  · rw [open_of_unopened unopened_none hboard]
    exact .inl rfl
  · rw [open_of_unopened (unopened_error err) hboard]
    exact .inl rfl
  · rw [open_of_board hboard]
    by_cases hstaffs : k.Staffs e.config
    · rw [staff_of_staffs p mid hstaffs]
      exact .inl rfl
    · obtain ⟨errno, hstaff⟩ := staff_of_not_staffs p mid hstaffs
      rw [hstaff]
      exact .inr ⟨e, rfl⟩

/-! ## All that can come of it -/

/-- Opening adds objects at most, and then takes a side of one of them, or ends without an endpoint
and with no more done than that a lock was taken and given up. Who has taken a side and gets no
worker gives it up again, and the object stays. -/
inductive Opens (k : Kernel) (p : Process) (now : Instant) (c : EndpointConfig) (r : Regions) :
    Option (Except LinkError Endpoint) × Regions → Prop where
  | unopened {mid left : Regions} {result : Option (Except LinkError Endpoint)}
      (hgrows : r.Grows mid) (hnone : Unopened result)
      (hleft : left = mid ∨ ∃ id < mid.objects.length, left = mid.unlock p id)
      (hboard : board k p now c r = (result, left)) : Opens k p now c r (result, left)
  | opened {mid : Regions} {id : ObjectId} {side : Role} {e : Endpoint} {present : Bool}
      (hgrows : r.Grows mid) (hid : id < mid.objects.length)
      (havailable : (mid.layout id).header.lock.Available p)
      (hgrants : (mid.layout id).header.Grants p c.role side)
      (hfresh : e = fresh c side id ((mid.layout id).header.agreedThreshold c) present now)
      (hboard : board k p now c r = (some (.ok e), (mid.unlock p id).take p.pid id side))
      (hstaffed : k.Staffs c) :
      Opens k p now c r (some (.ok e), (mid.unlock p id).take p.pid id side)
  | unstaffed {mid : Regions} {id : ObjectId} {side : Role} {e : Endpoint} {present : Bool}
      (hgrows : r.Grows mid) (hid : id < mid.objects.length)
      (havailable : (mid.layout id).header.lock.Available p)
      (hgrants : (mid.layout id).header.Grants p c.role side)
      (hfresh : e = fresh c side id ((mid.layout id).header.agreedThreshold c) present now)
      (hboard : board k p now c r = (some (.ok e), (mid.unlock p id).take p.pid id side))
      (hunstaffed : ¬ k.Staffs c) (errno : Errno) :
      Opens k p now c r (some (.error (.io (.system errno))),
        ((mid.unlock p id).take p.pid id side).vacate p.pid id side)

/-- Taking a side leaves the lock free, so that the side can be given up. -/
theorem owner_take_unlock (p : Process) (side : Role) (hid : id < r.objects.length) :
    (((r.unlock p id).take p.pid id side).layout id).header.lock.owner = 0 := by
  rw [(Regions.keeps_take ..).lock, Regions.layout_unlock p hid, if_pos rfl]
  rfl

theorem opens_of_enter (hgrows : r.Grows mid) (hid : id < mid.objects.length)
    (hboard : board k p now c r =
      (some (enter p now c id mid).1, (enter p now c id mid).2)) :
    Opens k p now c r (Endpoint.open k p now c r) := by
  rcases enter_any p now c hid with ⟨side, present, ha, hg, h⟩ | ⟨err, r', hleft, -, h⟩
  · rw [h] at hboard
    rw [open_of_board hboard]
    by_cases hstaffs : k.Staffs c
    · rw [staff_of_staffs p _ hstaffs]
      exact .opened hgrows hid ha hg rfl hboard hstaffs
    · obtain ⟨errno, herrno⟩ := staff_of_not_staffs p ((mid.unlock p id).take p.pid id side)
        (e := fresh c side id ((mid.layout id).header.agreedThreshold c) present now) hstaffs
      have hreleased := Regions.release_of_free p c.lockTimeout hg.free.1
        (owner_take_unlock p side hid)
      rw [herrno]
      dsimp only [fresh]
      rw [hreleased]
      exact .unstaffed hgrows hid ha hg rfl hboard hstaffs errno
  · rw [h] at hboard
    rw [open_of_unopened (unopened_error err) hboard]
    refine .unopened hgrows (unopened_error err) ?_ hboard
    rcases hleft with hsame | ⟨-, hunlocked⟩
    · exact .inl hsame
    · exact .inr ⟨id, hid, hunlocked⟩

theorem opens (k : Kernel) (p : Process) (now : Instant) (c : EndpointConfig) (r : Regions) :
    Opens k p now c r (Endpoint.open k p now c r) := by
  obtain ⟨mid, hgrows, ⟨result, hnone, hboard⟩ | ⟨id, hid, hboard⟩⟩ := board_any k p now c r
  · rw [open_of_unopened hnone hboard]
    exact .unopened hgrows hnone (.inl rfl) hboard
  · exact opens_of_enter hgrows hid hboard

/-- With a thread for the worker there is nothing more to opening than boarding. -/
theorem open_of_staffs (p : Process) (now : Instant) (r : Regions) (hstaffs : k.Staffs c) :
    Endpoint.open k p now c r = board k p now c r := by
  have hopens := opens k p now c r
  generalize Endpoint.open k p now c r = out at hopens
  cases hopens with
  | unopened _ _ _ hboard => exact hboard.symm
  | opened _ _ _ _ _ hboard => exact hboard.symm
  | unstaffed _ _ _ _ _ _ hunstaffed => exact absurd hstaffs hunstaffed

theorem open_eq_ok_iff : Endpoint.open k p now c r = (some (.ok e), r') ↔
    board k p now c r = (some (.ok e), r') ∧ k.Staffs c := by
  by_cases hstaffs : k.Staffs c
  · rw [open_of_staffs p now r hstaffs, and_iff_left hstaffs]
  · refine iff_of_false (fun h => ?_) fun h => hstaffs h.2
    have hopens := opens k p now c r
    rw [h] at hopens
    cases hopens with
    | unopened _ hnone => exact hnone e rfl
    | opened _ _ _ _ _ _ hstaffed => exact hstaffs hstaffed

theorem of_open (h : Endpoint.open k p now c r = (some (.ok e), r')) :
    e.closed = false ∧ e.config = c := by
  have hopens := opens k p now c r
  rw [h] at hopens
  cases hopens with
  | unopened _ hnone => exact absurd rfl (hnone e)
  | opened _ _ _ _ hfresh =>
    rw [hfresh]
    exact ⟨rfl, rfl⟩

end Endpoint

end PeerLink
