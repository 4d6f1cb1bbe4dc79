import PeerLink.Proofs.Link.Lifetime
import PeerLink.Proofs.Link.Passage

/-! # Attach or replace

What opening an endpoint makes of any regions at all while nobody else acts. A complete region that
stands under the name is entered. Where there is none, a slave is turned away, and anybody else
gets a new region, whatever stood in its way. A system that refuses nothing leaves one reason to
fail once a region is there, which is that no side of it can be had; a new region has a free one. Nobody
gets as far if no clock can show the end of the limit for locks.

* `Regions.acquire_of_lacks`: the way from a useless name to a new region.
* `Regions.take_found`: a new region as its maker leaves it.
* `Endpoint.Attaches`, `Endpoint.Replaces`: the two kinds of success.
* `Endpoint.Outcome`, `Endpoint.outcome_board`: all that can come of opening an endpoint, but for its
  worker.
* `Endpoint.open_succeeds_iff`: when it is opened at all.

Main statements: `Endpoint.failed_open_is_atomic` and `Endpoint.open_attaches_or_replaces`. No run
of attempts loses a message: `Endpoint.mailbox_openAll`.
-/

namespace PeerLink
set_option autoImplicit false

/-! ## The way to a new region -/

namespace Approach

variable {r : Regions} {p : Process} {k : Kernel} {c : EndpointConfig} {n : String}

theorem run_make (hk : k.Willing) (hname : RegionName.object c.name = .ok n)
    (hfind : r.find? n = none) (left steps : Nat) :
    (make left).run k p c (steps + 1) r =
      (.ok ⟨c.name, n, r.objects.length, Layout.size, true⟩, r.found n c.staleThreshold) := by
  rcases Regions.createLayout_of_find?_eq_none k p c.staleThreshold hname hfind with
    ⟨-, h⟩ | ⟨hunwilling, -⟩
  · rw [run_succ, step, h]
    exact run_attached ..
  · exact absurd hk hunwilling

end Approach

namespace Regions

variable {r : Regions} {p : Process} {k : Kernel} {c : EndpointConfig} {id : ObjectId} {n : String}

theorem acquire_of_lacks (hk : k.Willing) (hname : RegionName.object c.name = .ok n)
    (hrole : c.role ≠ .slave) (hlacks : r.Lacks n) :
    r.acquire k p c =
      (.ok ⟨c.name, n, r.objects.length, Layout.size, true⟩,
        (r.free n).found n c.staleThreshold) := by
  rw [acquire, Approach.maxSteps, Approach.run_succ, Approach.start, Approach.looks,
    Approach.step_look_of_lacks hname hrole hlacks]
  by_cases hfind : r.find? n = none
  · rw [if_pos hfind, free_of_find?_eq_none hfind]
    exact Approach.run_make hk hname hfind ..
  · -- one step more, for the name that has to be freed
    have hfreed : (r.free n).find? n = none := (find?_free n r n).trans (if_pos rfl)
    rw [if_neg hfind, Approach.run_succ, Approach.step_discard hname]
    exact Approach.run_make hk hname hfreed ..

theorem unlock_of_abandoned (hdead : (r.layout id).header.lock.Abandoned p) :
    r.unlock p id = r.mapHeader id fun h => { h with lock := ⟨0, h.lock.reclaims + 1⟩ } := by
  refine mapHeader_congr ?_
  rw [Header.unlocked, Lock.taken, if_neg hdead.1]

/-! ## A new region and its maker -/

theorem mapHeader_allocate (m : Memory) (f : Header → Header) (r : Regions) :
    (r.allocate m).2.mapHeader r.objects.length f =
      (r.allocate { m with layout := { m.layout with header := f m.layout.header } }).2 := by
  have hlast : (r.allocate m).2.memory r.objects.length = m :=
    (memory_allocate ..).trans (if_pos rfl)
  have hset (m' : Memory) : (r.allocate m).2.setMemory r.objects.length m' = (r.allocate m').2 := by
    rw [setMemory, allocate, allocate, List.set_append_right _ _ (Nat.le_refl _), Nat.sub_self,
      List.set_cons_zero]
  rw [mapHeader, onLayout, hlast]
  exact hset _

/-- A new region with its maker on the master's side. -/
def inhabited (pid : UInt32) (staleThreshold : Duration) : Memory :=
  ⟨Layout.size,
    { Layout.zero with
      header := { Header.published staleThreshold with master := ⟨1, pid, 1, 1, 0⟩ } }, []⟩

theorem take_found (pid : UInt32) (n : String) (staleThreshold : Duration) (r : Regions) :
    (r.found n staleThreshold).take pid r.objects.length .master =
      (r.allocate (inhabited pid staleThreshold)).2.bind n r.objects.length := by
  have hmade : (r.allocate (.published staleThreshold)).2.take pid r.objects.length .master =
      (r.allocate (inhabited pid staleThreshold)).2 := by
    rw [take, mapSlot, mapSlot, mapHeader_allocate, mapHeader_allocate]
    rfl
  exact congrArg (·.bind n r.objects.length) hmade

end Regions

/-! ## What opening an endpoint comes to -/

/-- A header on which a process has claimed a side and beaten once. The lock is free again; if it
was not free before, its dead holder has been counted. -/
def Header.entered (p : Process) (side : Role) (h : Header) : Header :=
  let lock : Lock := ⟨0, if h.lock.owner = 0 then h.lock.reclaims else h.lock.reclaims + 1⟩
  { h with lock }.mapSlot side fun s =>
    { s with heartbeat := s.heartbeat + 1, pid := p.pid, flag := 1, generation := s.generation + 1 }

namespace Regions

variable {r : Regions} {p : Process} {id : ObjectId} {side : Role}

theorem take_unlock (p : Process) (side : Role) (hid : id < r.objects.length) :
    (r.unlock p id).take p.pid id side = r.mapHeader id (·.entered p side) := by
  rw [take, mapSlot, mapSlot, unlock, mapHeader_mapHeader _ _ hid, mapHeader_mapHeader _ _ hid]
  congr 1
  funext h
  cases side <;> rfl

theorem mailbox_mapHeader (f : Header → Header) (hid : id < r.objects.length) (other : ObjectId)
    (d : Direction) : ((r.mapHeader id f).layout other).mailbox d = (r.layout other).mailbox d := by
  rw [layout, memory_mapHeader f hid]
  by_cases hsame : other = id
  · rw [if_pos hsame, hsame]
    cases d <;> rfl
  · rw [if_neg hsame]
    rfl

end Regions

namespace Endpoint

variable {r r' : Regions} {p : Process} {k : Kernel} {now : Instant} {c : EndpointConfig}
  {e : Endpoint} {id : ObjectId} {n : String}

/-- An endpoint is opened on the complete region that stands under its name, and nothing changes but
the header of this region. -/
structure Attaches (p : Process) (c : EndpointConfig) (r : Regions) (e : Endpoint) (r' : Regions) :
    Prop where
  found : r.identify c.name = .ok (some e.region)
  complete : r.Complete e.region
  available : (r.layout e.region).header.lock.Available p
  granted : (r.layout e.region).header.Grants p c.role e.role
  regions : r' = r.mapHeader e.region (·.entered p e.role)
  peer : r'.slot e.region e.role.peer = r.slot e.region e.role.peer
  staleThresholdMs : (r'.layout e.region).header.staleThresholdMs =
    (r.layout e.region).header.staleThresholdMs
  mailbox : ∀ d, (r'.layout e.region).mailbox d = (r.layout e.region).mailbox d

/-- An endpoint is opened on a new region, with nothing usable under its name before. What stood
there loses the name and nothing else. The region records the endpoint's threshold in whole
milliseconds, as far as a word reaches. -/
structure Replaces (p : Process) (c : EndpointConfig) (r : Regions) (e : Endpoint) (r' : Regions) :
    Prop where
  role : c.role ≠ .slave
  lacking : ∀ id, r.identify c.name = .ok (some id) → ¬ r.Complete id
  side : e.role = .master
  region : e.region = r.objects.length
  objects : ∃ ms : UInt64, ms.toNat = min c.staleThreshold.toMillis 0xffffffffffffffff ∧
    r'.objects = r.objects ++ [⟨Layout.size,
      { Layout.zero with
        header := { Header.zero with
          magic := Layout.magic
          version := Layout.version
          slotCapacity := 65536
          staleThresholdMs := ms
          master := ⟨1, p.pid, 1, 1, 0⟩ } }, []⟩]
  bound : r'.identify c.name = .ok (some e.region)
  others : ∀ name, RegionName.object name ≠ RegionName.object c.name →
    r'.identify name = r.identify name

/-- All that can come of opening an endpoint, but for its worker, and what it leaves behind. -/
inductive Outcome (p : Process) (c : EndpointConfig) (r : Regions) :
    Option (Except LinkError Endpoint) × Regions → Prop where
  | refused {result : Option (Except LinkError Endpoint)} (hnone : Unopened result) :
      Outcome p c r (result, r)
  | denied {id : ObjectId} {result : Option (Except LinkError Endpoint)} (hnone : Unopened result)
      (hfound : r.identify c.name = .ok (some id)) (hcomplete : r.Complete id)
      (hdead : (r.layout id).header.lock.Abandoned p) :
      Outcome p c r
        (result, r.mapHeader id fun h => { h with lock := ⟨0, h.lock.reclaims + 1⟩ })
  | attached {e : Endpoint} {r' : Regions} (h : Attaches p c r e r') :
      Outcome p c r (some (.ok e), r')
  | replaced {e : Endpoint} {r' : Regions} (h : Replaces p c r e r') :
      Outcome p c r (some (.ok e), r')

theorem lacks_iff (r : Regions) (hname : RegionName.object c.name = .ok n) :
    r.Lacks n ↔ ∀ id, r.identify c.name = .ok (some id) → ¬ r.Complete id := by
  rw [r.identify_of_name hname, Regions.Lacks]
  simp only [Except.ok.injEq]

theorem attaches_take (hfound : r.identify c.name = .ok (some e.region))
    (hcomplete : r.Complete e.region) (ha : (r.layout e.region).header.lock.Available p)
    (hgranted : (r.layout e.region).header.Grants p c.role e.role) :
    Attaches p c r e ((r.unlock p e.region).take p.pid e.region e.role) := by
  have hid := hcomplete.lt_length
  have hside := hgranted.free.1
  have hlayout := Regions.layout_mapHeader (·.entered p e.role) hid
  rw [Regions.take_unlock p e.role hid]
  refine ⟨hfound, hcomplete, ha, hgranted, rfl, ?_, ?_, Regions.mailbox_mapHeader _ hid e.region⟩
  · rw [Regions.slot, hlayout]
    exact Header.slot_peer_mapSlot _ _ hside
  · rw [hlayout]
    cases e.role <;> rfl

theorem outcome_enter (p : Process) (now : Instant) (hfound : r.identify c.name = .ok (some id))
    (hcomplete : r.Complete id) :
    Outcome p c r (some (enter p now c id r).1, (enter p now c id r).2) := by
  rcases enter_any p now c hcomplete.lt_length with
    ⟨side, present, ha, hgranted, h⟩ | ⟨err, r', hleft, -, h⟩
  · rw [h]
    exact .attached (attaches_take hfound hcomplete ha hgranted)
  · rw [h]
    rcases hleft with rfl | ⟨hfree | hdead, rfl⟩
    · exact .refused (unopened_error err)
    · -- taking a free lock and giving it up leaves no trace
      rw [Regions.unlock_of_free p hfree]
      exact .refused (unopened_error err)
    · rw [Regions.unlock_of_abandoned hdead]
      exact .denied (unopened_error err) hfound hcomplete hdead

/-- Settings without fault, a clock that can show the end of the limit for locks, and a name without a
usable region. -/
structure Founding (now : Instant) (c : EndpointConfig) (r : Regions) (n : String) : Prop where
  valid : c.validate = .ok ()
  timely : (now.after? c.lockTimeout).isSome = true
  name : RegionName.object c.name = .ok n
  role : c.role ≠ .slave
  lacks : r.Lacks n

theorem board_by_region (k : Kernel) (p : Process) (now : Instant) (c : EndpointConfig)
    (r : Regions) :
    (∃ result, Unopened result ∧ (c.validate = .ok () → now.after? c.lockTimeout = none) ∧
      board k p now c r = (result, r)) ∨
    (c.validate = .ok () ∧ (now.after? c.lockTimeout).isSome = true ∧
      ∃ id, r.identify c.name = .ok (some id) ∧ r.Complete id ∧
        board k p now c r = (some (enter p now c id r).1, (enter p now c id r).2)) ∨
    (c.role = .slave ∧ (∀ id, r.identify c.name = .ok (some id) → ¬ r.Complete id) ∧
      ∃ err, board k p now c r = (some (.error err), r)) ∨
    ∃ n, Founding now c r n := by
  rcases board_cases k p now c r with hunopened | ⟨hvalid, htimely⟩
  · exact .inl hunopened
  · obtain ⟨n, hname⟩ := c.name_of_validate hvalid
    rw [board_of_timely k p r hvalid htimely]
    rcases r.complete_or_lacks n with ⟨id, hfind, hcomplete⟩ | hlacks
    · rw [Regions.acquire_of_bound k p hname hfind hcomplete.1 hcomplete.2]
      exact .inr (.inl ⟨hvalid, htimely, id, (r.identify_of_name hname).trans (congrArg _ hfind),
        hcomplete, rfl⟩)
    · by_cases hrole : c.role = .slave
      · obtain ⟨err, h⟩ := Regions.acquire_of_lacks_slave k p hname hrole hlacks
        rw [h]
        exact .inr (.inr (.inl ⟨hrole, (lacks_iff r hname).mp hlacks, err, rfl⟩))
      · exact .inr (.inr (.inr ⟨n, hvalid, htimely, hname, hrole, hlacks⟩))

theorem board_of_founding (hk : k.Willing) (p : Process) (h : Founding now c r n) :
    ∃ e : Endpoint, e.region = r.objects.length ∧ e.role = .master ∧
      board k p now c r =
        (some (.ok e), ((r.free n).allocate (Regions.inhabited p.pid c.staleThreshold)).2.bind n
          r.objects.length) := by
  obtain ⟨threshold, present, hentered⟩ := enter_found p now h.role n (r.free n)
  rw [show (r.free n).objects.length = r.objects.length from rfl] at hentered
  rw [board_of_timely k p r h.valid h.timely, Regions.acquire_of_lacks hk h.name h.role h.lacks]
  dsimp only
  rw [hentered]
  have htaken := Regions.take_found p.pid n c.staleThreshold (r.free n)
  exact ⟨fresh c .master r.objects.length threshold present now, rfl, rfl, congrArg _ htaken⟩

theorem replaces_of_founding (h : Founding now c r n) (hregion : e.region = r.objects.length)
    (hside : e.role = .master) :
    Replaces p c r e (((r.free n).allocate (Regions.inhabited p.pid c.staleThreshold)).2.bind n
      r.objects.length) := by
  have hfreed : ((r.free n).allocate (Regions.inhabited p.pid c.staleThreshold)).2.find? n = none :=
    (Regions.find?_free n r n).trans (if_pos rfl)
  have hfind (n' : String) := Regions.find?_bind n r.objects.length
    ((r.free n).allocate (Regions.inhabited p.pid c.staleThreshold)).2 n' hfreed
  refine ⟨h.role, (lacks_iff r h.name).mp h.lacks, hside, hregion, ?_, ?_, fun name hname => ?_⟩
  · have hbound : min c.staleThreshold.toMillis Header.maxThresholdMs < UInt64.size :=
      Nat.lt_of_le_of_lt (Nat.min_le_right ..) (by decide)
    exact ⟨Header.recordedThreshold c.staleThreshold, UInt64.toNat_ofNat_of_lt' hbound, rfl⟩
  · rw [Regions.identify_of_name _ h.name, hfind, if_pos rfl, hregion]
  · cases hother : RegionName.object name with
    | error err => rw [Regions.identify, Regions.identify, hother]
    | ok n' =>
      have hne : n' ≠ n := by
        rintro rfl
        exact hname (hother.trans h.name.symm)
      have hkept : ((r.free n).allocate (Regions.inhabited p.pid c.staleThreshold)).2.find? n' =
          r.find? n' := (Regions.find?_free n r n').trans (if_neg hne)
      rw [Regions.identify_of_name _ hother, r.identify_of_name hother, hfind, if_neg hne, hkept]

/-- The system has no say in what a slave does. -/
theorem outcome_board (p : Process) (now : Instant) (c : EndpointConfig) (r : Regions)
    (hk : k.Willing ∨ c.role = .slave) : Outcome p c r (board k p now c r) := by
  rcases board_by_region k p now c r with
    ⟨result, hnone, -, h⟩ | ⟨-, -, id, hfound, hcomplete, h⟩ | ⟨-, -, err, h⟩ | ⟨n, hfounding⟩
  · rw [h]
    exact .refused hnone
  · rw [h]
    exact outcome_enter p now hfound hcomplete
  · rw [h]
    exact .refused (unopened_error err)
  · obtain ⟨e, hregion, hside, h⟩ := board_of_founding (hk.resolve_right hfounding.role) p hfounding
    rw [h]
    exact .replaced (replaces_of_founding hfounding hregion hside)

/-- Whatever the regions are, who fails to open an endpoint leaves every name, every object and
every byte as they were, but for the lock of a region whose holder died: it is free then, and counts
the holder. -/
theorem failed_open_is_atomic (hk : k.Willing) (hstaffs : k.Staffs c) {err : LinkError}
    (h : Endpoint.open k p now c r = (some (.error err), r')) :
    r' = r ∨ ∃ id, r.identify c.name = .ok (some id) ∧ r.Complete id ∧
      (r.layout id).header.lock.Abandoned p ∧
      r' = r.mapHeader id fun h => { h with lock := ⟨0, h.lock.reclaims + 1⟩ } := by
  have houtcome := outcome_board p now c r (.inl hk)
  rw [← open_of_staffs p now r hstaffs, h] at houtcome
  cases houtcome with
  | refused => exact .inl rfl
  | denied _ hfound hcomplete hdead => exact .inr ⟨_, hfound, hcomplete, hdead, rfl⟩

/-- A region with a live master, whose lock a process held when it died. -/
def leftLocked : Regions :=
  ((Regions.empty.allocate (Regions.inhabited 7 (.ofMillis 100))).2.bind "/eshm_a" 0).mapHeader 0
    fun h => { h with lock := ⟨9, 0⟩ }

def latecomer : Process := ⟨8, fun pid => pid == 7 || pid == 8⟩

theorem failed_open_is_atomic_leftLocked :
    Kernel.able.Willing ∧ Kernel.able.Staffs { name := "a", role := .master } ∧ ∃ err r',
      Endpoint.open .able latecomer 0 { name := "a", role := .master } leftLocked =
        (some (.error err), r') ∧
      r' = leftLocked.mapHeader 0 fun h => { h with lock := ⟨0, h.lock.reclaims + 1⟩ } := by
  have hk : Kernel.able.Willing := ⟨rfl, rfl⟩
  have hstaffs : Kernel.able.Staffs { name := "a", role := .master } := fun _ => rfl
  have hname : leftLocked.identify "a" = .ok (some 0) := rfl
  have hbefore : (leftLocked.layout 0).header.lock = ⟨9, 0⟩ := by decide +kernel
  have hafter : ((Endpoint.open .able latecomer 0 { name := "a", role := .master }
      leftLocked).1.map (·.isOk)) = some false ∧ ((Endpoint.open .able latecomer 0
        { name := "a", role := .master } leftLocked).2.layout 0).header.lock = ⟨0, 1⟩ := by
    decide +kernel
  rcases hopen : Endpoint.open .able latecomer 0 { name := "a", role := .master } leftLocked with
    ⟨_ | err | e, r'⟩
  · rw [hopen] at hafter
    cases hafter.1
  · rw [hopen] at hafter
    refine ⟨hk, hstaffs, err, r', rfl, ?_⟩
    rcases failed_open_is_atomic hk hstaffs hopen with rfl | ⟨id, hfound, -, -, hleft⟩
    · exact absurd (hbefore.symm.trans hafter.2) (by decide)
    · cases hname.symm.trans hfound
      exact hleft
  · rw [hopen] at hafter
    cases hafter.1

/-- The settings have no fault, a clock can show the end of the limit for locks, and there is
something to be had: a side of a complete region and its lock, or, unless for a slave, a name that a
new region can have. -/
def CanOpen (p : Process) (now : Instant) (c : EndpointConfig) (r : Regions) : Prop :=
  c.validate = .ok () ∧ (now.after? c.lockTimeout).isSome = true ∧
    ((∃ id, r.identify c.name = .ok (some id) ∧ r.Complete id ∧
        (r.layout id).header.lock.Available p ∧ ∃ side, (r.layout id).header.Grants p c.role side) ∨
      c.role ≠ .slave ∧ ∀ id, r.identify c.name = .ok (some id) → ¬ r.Complete id)

theorem board_succeeds_iff (hk : k.Willing) (p : Process) (now : Instant) (c : EndpointConfig)
    (r : Regions) :
    (∃ e r', board k p now c r = (some (.ok e), r')) ↔ CanOpen p now c r := by
  rw [CanOpen]
  rcases board_by_region k p now c r with
    ⟨result, hnone, huntimely, h⟩ | ⟨hvalid, htimely, id, hfound, hcomplete, h⟩ |
      ⟨hrole, hlacking, err, h⟩ | ⟨n, hfounding⟩
  · refine iff_of_false ?_ ?_
    · rintro ⟨e, r', hboarded⟩
      rw [h] at hboarded
      exact hnone e (Prod.mk.inj hboarded).1
    · rintro ⟨hvalid, htimely, -⟩
      rw [huntimely hvalid] at htimely
      cases htimely
  · have honly (id' : ObjectId) (hid' : r.identify c.name = .ok (some id')) : id' = id := by
      simpa [hfound, eq_comm] using hid'
    rw [h]
    rcases enter_any p now c hcomplete.lt_length with
      ⟨side, present, ha, hgranted, hentered⟩ | ⟨err, r', -, hreason, hentered⟩
    · rw [hentered]
      exact iff_of_true ⟨_, _, rfl⟩
        ⟨hvalid, htimely, .inl ⟨id, hfound, hcomplete, ha, side, hgranted⟩⟩
    · rw [hentered]
      refine iff_of_false ?_ ?_
      · rintro ⟨e, r'', hopened⟩
        cases hopened
      · rintro ⟨-, -, ⟨id', hfound', -, ha, side, hgranted⟩ | ⟨-, hlacking⟩⟩
        · obtain rfl := honly id' hfound'
          exact (hreason ha).1 side hgranted
        · exact hlacking id hfound hcomplete
  · refine iff_of_false ?_ ?_
    · rintro ⟨e, r', hopened⟩
      cases h.symm.trans hopened
    · rintro ⟨-, -, ⟨id, hfound, hcomplete, -⟩ | ⟨hother, -⟩⟩
      · exact hlacking id hfound hcomplete
      · exact hother hrole
  · obtain ⟨e, -, -, h⟩ := board_of_founding hk p hfounding
    exact iff_of_true ⟨e, _, h⟩ ⟨hfounding.valid, hfounding.timely,
      .inr ⟨hfounding.role, (lacks_iff r hfounding.name).mp hfounding.lacks⟩⟩

theorem open_succeeds_iff (hk : k.Willing) (p : Process) (now : Instant) (c : EndpointConfig)
    (r : Regions) :
    (∃ e r', Endpoint.open k p now c r = (some (.ok e), r')) ↔
      CanOpen p now c r ∧ k.Staffs c := by
  simp only [open_eq_ok_iff, exists_and_right, board_succeeds_iff hk]

theorem Outcome.of_slave (hrole : c.role = .slave)
    {out : Option (Except LinkError Endpoint) × Regions} (h : Outcome p c r out) :
    out.2 = r ∨ ∃ id lock slave, r.identify c.name = .ok (some id) ∧ r.Complete id ∧
      out.2 = r.mapHeader id fun h => { h with lock, slave } := by
  cases h with
  | refused => exact .inl rfl
  | @denied id _ _ hfound hcomplete =>
    refine .inr ⟨id, ⟨0, (r.layout id).header.lock.reclaims + 1⟩, (r.layout id).header.slave,
      hfound, hcomplete, ?_⟩
    dsimp only
    exact Regions.mapHeader_congr rfl
  | @attached e _ h =>
    have hgranted := h.granted
    rw [hrole] at hgranted
    have hside : e.role = .slave := hgranted.1
    refine .inr ⟨e.region, ((r.layout e.region).header.entered p .slave).lock,
      ((r.layout e.region).header.entered p .slave).slave, h.found, h.complete,
      h.regions.trans ?_⟩
    rw [hside]
    exact Regions.mapHeader_congr rfl
  | replaced h => exact absurd hrole h.role

/-- A slave that gets no worker has been to its own slot and to the lock. -/
theorem Outcome.of_dismissed_slave (hrole : c.role = .slave)
    (h : Outcome p c r (some (.ok e), r')) :
    ∃ id lock slave, r.identify c.name = .ok (some id) ∧ r.Complete id ∧
      r'.vacate p.pid e.region e.role = r.mapHeader id fun h => { h with lock, slave } := by
  cases h with
  | refused hnone => exact absurd rfl (hnone e)
  | denied hnone => exact absurd rfl (hnone e)
  | attached h =>
    have hgranted := h.granted
    rw [hrole] at hgranted
    have hside : e.role = .slave := hgranted.1
    refine ⟨e.region, ((r.layout e.region).header.entered p .slave).lock,
      ((r.layout e.region).header.entered p .slave).slave.vacateIfOwn p.pid, h.found, h.complete, ?_⟩
    rw [h.regions, hside, Regions.vacate, Regions.mapSlot,
      Regions.mapHeader_mapHeader _ _ h.complete.lt_length]
    exact Regions.mapHeader_congr rfl
  | replaced h => exact absurd hrole h.role

theorem slave_open_of_any (k : Kernel) (p : Process) (now : Instant) (r : Regions)
    (hrole : c.role = .slave) :
    (Endpoint.open k p now c r).2 = r ∨
      ∃ id lock slave, r.identify c.name = .ok (some id) ∧ r.Complete id ∧
        (Endpoint.open k p now c r).2 = r.mapHeader id fun h => { h with lock, slave } := by
  have houtcome := outcome_board (k := k) p now c r (.inr hrole)
  have hopens := opens k p now c r
  generalize Endpoint.open k p now c r = out at hopens
  cases hopens with
  | unopened _ _ _ hboard =>
    rw [hboard] at houtcome
    exact houtcome.of_slave hrole
  | opened _ _ _ _ _ hboard =>
    rw [hboard] at houtcome
    exact houtcome.of_slave hrole
  | unstaffed _ _ _ _ hfresh hboard =>
    rw [hboard] at houtcome
    have hdismissed := houtcome.of_dismissed_slave hrole
    rw [hfresh] at hdismissed
    exact .inr hdismissed

/-- Whatever the regions are, who can open an endpoint has then attached to the complete region
under its name, or, if there was none and it is no slave, has put a new one in its place. A slave
changes at most the lock and its own slot of a complete region, whether it succeeds or not and
whatever the system refuses. -/
theorem open_attaches_or_replaces (k : Kernel) (p : Process) (now : Instant) (c : EndpointConfig)
    (r : Regions) :
    (k.Willing →
      ((∃ e r', Endpoint.open k p now c r = (some (.ok e), r')) ↔
        CanOpen p now c r ∧ k.Staffs c) ∧
      ∀ e r', Endpoint.open k p now c r = (some (.ok e), r') →
        Attaches p c r e r' ∨ Replaces p c r e r') ∧
    (c.role = .slave → (Endpoint.open k p now c r).2 = r ∨
      ∃ id lock slave, r.identify c.name = .ok (some id) ∧ r.Complete id ∧
        (Endpoint.open k p now c r).2 = r.mapHeader id fun h => { h with lock, slave }) := by
  refine ⟨fun hk => ⟨open_succeeds_iff hk p now c r, fun e r' h => ?_⟩, slave_open_of_any k p now r⟩
  have houtcome := outcome_board p now c r (.inl hk)
  rw [(open_eq_ok_iff.mp h).1] at houtcome
  cases houtcome with
  | refused hnone => exact absurd rfl (hnone e)
  | denied hnone => exact absurd rfl (hnone e)
  | attached hattaches => exact .inl hattaches
  | replaced hreplaces => exact .inr hreplaces

/-- A region that everybody has left by dying, one of them with the lock, and with a message for the
master. -/
def deserted : Regions :=
  (leftLocked.onLayout 0 fun l => ((), { l with slaveToMaster := l.slaveToMaster.store [0x68] })).2

def heir : Process := ⟨8, (· == 8)⟩

theorem open_attaches_or_replaces_deserted :
    Kernel.able.Willing ∧
      (∃ e r', Endpoint.open .able heir 0 { name := "a" } deserted = (some (.ok e), r') ∧
        Attaches heir { name := "a" } deserted e r') ∧
      (Endpoint.open .able heir 0 { name := "a", role := .slave } .empty).2 = .empty := by
  have hk : Kernel.able.Willing := ⟨rfl, rfl⟩
  have hname : deserted.identify "a" = .ok (some 0) := rfl
  have hcomplete : deserted.Complete 0 := by decide +kernel
  have hdead : (deserted.layout 0).header.lock.Abandoned heir :=
    ⟨by decide +kernel, by decide +kernel, by decide +kernel⟩
  have hmaster : (deserted.layout 0).header.master.isLive heir = false := by decide +kernel
  have hcan : CanOpen heir 0 { name := "a" } deserted :=
    ⟨rfl, by decide, .inl ⟨0, hname, hcomplete, .inr hdead, .master, .inl ⟨rfl, hmaster⟩⟩⟩
  have hstaffs : Kernel.able.Staffs { name := "a" } := fun _ => rfl
  refine ⟨hk, ?_, ?_⟩
  · obtain ⟨hopens, houtcome⟩ :=
      (open_attaches_or_replaces .able heir 0 { name := "a" } deserted).1 hk
    obtain ⟨e, r', hopen⟩ := hopens.mpr ⟨hcan, hstaffs⟩
    rcases houtcome e r' hopen with hattaches | hreplaces
    · exact ⟨e, r', hopen, hattaches⟩
    · exact absurd hcomplete (hreplaces.lacking 0 hname)
  · have hfree : Regions.empty.identify "a" = .ok none := rfl
    rcases (open_attaches_or_replaces .able heir 0 { name := "a", role := .slave } .empty).2 rfl with
      h | ⟨id, lock, slave, hfound, -⟩
    · exact h
    · cases hfree.symm.trans hfound

/-! ## Many endpoints -/

theorem keeps_mailboxes_mapHeader (f : Header → Header) (hid : id < r.objects.length) :
    r.objects.length ≤ (r.mapHeader id f).objects.length ∧ ∀ other < r.objects.length, ∀ d,
      ((r.mapHeader id f).layout other).mailbox d = (r.layout other).mailbox d :=
  ⟨Nat.le_of_eq Regions.length_setMemory.symm,
    fun other _ d => Regions.mailbox_mapHeader f hid other d⟩

theorem Outcome.keeps_mailboxes {out : Option (Except LinkError Endpoint) × Regions}
    (h : Outcome p c r out) :
    r.objects.length ≤ out.2.objects.length ∧
      ∀ id < r.objects.length, ∀ d, (out.2.layout id).mailbox d = (r.layout id).mailbox d := by
  cases h with
  | refused => exact ⟨Nat.le_refl _, fun _ _ _ => rfl⟩
  | denied _ _ hcomplete => exact keeps_mailboxes_mapHeader _ hcomplete.lt_length
  | attached h =>
    rw [h.regions]
    exact keeps_mailboxes_mapHeader _ h.complete.lt_length
  | @replaced _ r' h =>
    obtain ⟨ms, -, hobjects⟩ := h.objects
    dsimp only
    refine ⟨?_, fun id hid d => ?_⟩
    · rw [hobjects, List.length_append]
      exact Nat.le_add_right ..
    · have hmemory : r'.memory id = r.memory id := by
        rw [Regions.memory, hobjects]
        exact (Regions.memory_allocate _ r id).trans (if_neg (Nat.ne_of_lt hid))
      rw [Regions.layout, Regions.layout, hmemory]

theorem keeps_mailboxes_open (hk : k.Willing) (p : Process) (now : Instant) (c : EndpointConfig)
    (r : Regions) :
    r.objects.length ≤ (Endpoint.open k p now c r).2.objects.length ∧
      ∀ id < r.objects.length, ∀ d,
        ((Endpoint.open k p now c r).2.layout id).mailbox d = (r.layout id).mailbox d := by
  have houtcome := (outcome_board p now c r (.inl hk)).keeps_mailboxes
  have hopens := opens k p now c r
  generalize Endpoint.open k p now c r = out at hopens
  cases hopens with
  | unopened _ _ _ hboard =>
    rw [hboard] at houtcome
    exact houtcome
  | opened _ _ _ _ _ hboard =>
    rw [hboard] at houtcome
    exact houtcome
  | @unstaffed mid id side _ _ _ hid _ _ _ hboard =>
    rw [hboard] at houtcome
    -- The side is given up again, which is a matter of the header.
    have hid' : id < ((mid.unlock p id).take p.pid id side).objects.length := by
      rw [(Regions.keeps_take ..).length, Regions.length_unlock]
      exact hid
    have hvacated := keeps_mailboxes_mapHeader
      (fun h => h.mapSlot side (RoleSlot.vacateIfOwn p.pid)) hid'
    refine ⟨Nat.le_trans houtcome.1 hvacated.1, fun other hother d => ?_⟩
    exact (hvacated.2 other (Nat.lt_of_lt_of_le hother houtcome.1) d).trans
      (houtcome.2 other hother d)

/-- Endpoints are opened, or refused, one after the other. -/
def openAll (k : Kernel) : List (Process × Instant × EndpointConfig) → Regions → Regions
  | [], r => r
  | (p, now, c) :: rest, r => openAll k rest (Endpoint.open k p now c r).2

/-- However many processes come to a region, the messages in it stay. -/
theorem mailbox_openAll (hk : k.Willing) (calls : List (Process × Instant × EndpointConfig))
    {id : ObjectId} (hid : id < r.objects.length) (d : Direction) :
    ((openAll k calls r).layout id).mailbox d = (r.layout id).mailbox d := by
  induction calls generalizing r with
  | nil => rfl
  | cons call rest ih =>
    obtain ⟨p, now, c⟩ := call
    obtain ⟨hlength, hmailbox⟩ := keeps_mailboxes_open hk p now c r
    rw [openAll, ih (Nat.lt_of_lt_of_le hid hlength)]
    exact hmailbox id hid d

end Endpoint

end PeerLink
