import PeerLink.Proofs.Link.Acquisition
import PeerLink.Proofs.Link.Tenure

/-! # Moving to another region

A slave whose master is gone looks for a region that was made anew under its name. It moves there
with all it has, or it stays where it is and nothing is different, whatever stands under the name.

* `Regions.relocated`: the regions after a move, slot by slot and mailbox by mailbox.
* `Endpoint.Relocates`: the slave has moved.
* `Endpoint.Remains`: it has tried in vain.

Main statement: `Endpoint.reconnect_all_or_nothing`.
-/

namespace PeerLink
set_option autoImplicit false

/-! ## The regions after a move -/

namespace Regions

variable {r : Regions} {p : Process} {id old fresh : ObjectId} {role : Role} {d : Direction}

/-- The slave's side of a region is claimed, and then that of another one is given up. -/
def relocated (p : Process) (old fresh : ObjectId) (r : Regions) : Regions :=
  (((r.unlock p fresh).take p.pid fresh .slave).unlock p old).vacate p.pid old .slave

theorem slot_relocated (hold : old < r.objects.length) (hfresh : fresh < r.objects.length)
    (hother : fresh ≠ old) (hrole : role ≠ .auto) :
    (r.relocated p old fresh).slot id role =
      if id = old ∧ role = .slave then (r.slot old .slave).vacateIfOwn p.pid
      else if id = fresh ∧ role = .slave then ((r.slot fresh .slave).occupy p.pid).beat
      else r.slot id role := by
  have hside : Role.slave ≠ .auto := by decide
  have hfresh' : fresh < (r.unlock p fresh).objects.length := by rwa [length_unlock]
  have hold' : old < ((r.unlock p fresh).take p.pid fresh .slave).objects.length := by
    rwa [(keeps_take ..).length, length_unlock]
  have hslot (id : ObjectId) (role : Role) (hrole : role ≠ .auto) :
      (((r.unlock p fresh).take p.pid fresh .slave).unlock p old).slot id role =
        if id = fresh ∧ role = .slave then ((r.slot fresh .slave).occupy p.pid).beat
        else r.slot id role := by
    rw [slot_unlock p hold', slot_take p.pid hfresh' hside hrole, slot_unlock p hfresh]
  rw [relocated, vacate, slot_mapSlot _ (by rwa [length_unlock]) hside hrole,
    hslot old .slave hside, hslot id role hrole]
  rw [if_neg fun h : old = fresh ∧ Role.slave = .slave => hother h.1.symm]

theorem mailbox_relocated (hold : old < r.objects.length) (hfresh : fresh < r.objects.length) :
    ((r.relocated p old fresh).layout id).mailbox d = (r.layout id).mailbox d := by
  have hentered : (r.mapHeader fresh (·.entered p .slave)).objects.length = r.objects.length :=
    length_setMemory
  have hold' : old < (r.mapHeader fresh (·.entered p .slave)).objects.length := by rwa [hentered]
  have hold'' : old < ((r.mapHeader fresh (·.entered p .slave)).unlock p old).objects.length := by
    rwa [length_unlock]
  rw [relocated, take_unlock p .slave hfresh, vacate, mapSlot, mailbox_mapHeader _ hold'', unlock,
    mailbox_mapHeader _ hold', mailbox_mapHeader _ hfresh]

/-- Giving the old side up is what is left to do once the new one is claimed. -/
theorem release_of_taken (timeout : Duration) (hold : old < r.objects.length)
    (hfresh : fresh < r.objects.length) (hother : fresh ≠ old)
    (hlock : (r.layout old).header.lock.Available p) :
    (((r.unlock p fresh).take p.pid fresh .slave).onHeader old (·.release p .slave timeout)).2 =
      r.relocated p old fresh := by
  have hkeeps := keeps_take p.pid fresh .slave (r.unlock p fresh)
  refine congrArg Prod.snd (release_of_available timeout (by decide) ?_ ?_)
  · rwa [hkeeps.length, length_unlock]
  · rwa [hkeeps.lock, layout_unlock p hfresh, if_neg fun h => hother h.symm]

end Regions

/-! ## The slave -/

namespace Endpoint

variable {p : Process} {e : Endpoint} {r r' : Regions} {fresh : ObjectId} {now : Instant}
  {out : Endpoint × Regions}

/-- A slave has moved to a region: it has claimed the slave's side there and beaten once, it has
given its old side up, and it counts its new master as live from the heartbeat at which it has found
it. Nothing else has changed in any slot, in any mailbox, under any name and about the endpoint. -/
structure Relocates (p : Process) (e : Endpoint) (now : Instant) (r : Regions) (fresh : ObjectId)
    (out : Endpoint × Regions) : Prop where
  endpoint : out.1 =
    { e with
      region := fresh
      monitor :=
        { e.monitor with
          state := .attachedLive
          lastHeartbeat := some (out.2.slot fresh .master).heartbeat
          lastChange := now
          peerSeen := true
          reconnectStarted := none
          attempts := 0
          failure := none } }
  claimed : out.2.slot fresh .slave = ((r.slot fresh .slave).occupy p.pid).beat
  released : out.2.slot e.region .slave = (r.slot e.region .slave).vacate
  slots : ∀ id role, role ≠ .auto → ¬ (id = fresh ∧ role = .slave) →
    ¬ (id = e.region ∧ role = .slave) → out.2.slot id role = r.slot id role
  mailboxes : ∀ id d, (out.2.layout id).mailbox d = (r.layout id).mailbox d
  names : out.2.names = r.names

/-- A slave has tried in vain to move, and counts the attempt as failed. It is where it was, and no
slot, no mailbox and no name has changed. -/
structure Remains (e : Endpoint) (now : Instant) (r : Regions) (out : Endpoint × Regions) :
    Prop where
  endpoint : out.1 = { e with monitor := (e.monitor.attemptFailed now).1 }
  slots : out.2.slot = r.slot
  mailboxes : ∀ id d, (out.2.layout id).mailbox d = (r.layout id).mailbox d
  names : out.2.names = r.names

theorem remains_of_unlock (now : Instant)
    (hleft : r' = r ∨ ∃ fresh, fresh < r.objects.length ∧ r' = r.unlock p fresh) :
    e.Remains now r ({ e with monitor := (e.monitor.attemptFailed now).1 }, r') := by
  rcases hleft with rfl | ⟨fresh, hid, rfl⟩
  · exact ⟨rfl, rfl, fun _ _ => rfl, rfl⟩
  · exact ⟨rfl, Regions.slot_unlock p hid, Regions.mailbox_mapHeader _ hid, rfl⟩

theorem relocates_of_invites (now : Instant) (hheld : r.Held p.pid e.region .slave)
    (hstate : e.monitor.state = .reconnecting) (hfailure : e.monitor.failure = none)
    (hinvites : e.Invites p r fresh) :
    e.Relocates p now r fresh
      ({ e with
          region := fresh
          monitor := (e.monitor.reattached (r.slot fresh .master).heartbeat now).1 },
        r.relocated p e.region fresh) := by
  have hfresh := hinvites.complete.lt_length
  have hslot {id : ObjectId} {role : Role} (hrole : role ≠ .auto) :
      (r.relocated p e.region fresh).slot id role = _ :=
    Regions.slot_relocated hheld.mapped hfresh hinvites.other hrole
  have hmaster : (r.relocated p e.region fresh).slot fresh .master = r.slot fresh .master := by
    rw [hslot (by decide), if_neg fun h => absurd h.2 (by decide),
      if_neg fun h => absurd h.2 (by decide)]
  refine ⟨?_, ?_, ?_, fun id role hrole hnew hold => ?_,
    fun _ _ => Regions.mailbox_relocated hheld.mapped hfresh, rfl⟩
  · have hlive : ¬ (e.monitor.state = .detached ∨ e.monitor.failure.isSome = true) := by
      simp [hstate, hfailure]
    rw [Monitor.reattached, if_neg hlive, hmaster, ← hfailure]
    rfl
  · rw [hslot (by decide), if_neg fun h => hinvites.other h.1, if_pos ⟨rfl, rfl⟩]
  · rw [hslot (by decide), if_pos ⟨rfl, rfl⟩]
    exact if_pos hheld.held.own
  · rw [hslot hrole, if_neg hold, if_neg hnew]

/-- An attempt of a slave to reconnect, at any time, with nobody else acting and the lock of its
region to be had. It moves completely to the region that invites it; and if none does nothing is
different after the attempt. -/
theorem reconnect_all_or_nothing (now : Instant) (h : Reached p.pid e r) (hrole : e.role = .slave)
    (hstate : e.monitor.state = .reconnecting)
    (hlock : (r.layout e.region).header.lock.Available p) :
    (∀ fresh, e.Invites p r fresh → e.Relocates p now r fresh (e.reconnect p now r)) ∧
      ((¬ ∃ fresh, e.Invites p r fresh) → e.Remains now r (e.reconnect p now r)) ∧
      ((e.reconnect p now r).1.region ≠ e.region ↔ ∃ fresh, e.Invites p r fresh) := by
  obtain ⟨hjudged, hended, hheld⟩ := h.placed
  have hopen : e.closed = false := by
    refine Bool.not_eq_true _ ▸ fun hclosed => ?_
    cases hstate.symm.trans (hended hclosed)
  have hside := hheld hopen
  rw [hrole] at hside
  have hfailure := (hjudged.consistent.seeking hstate).2.2
  rcases reconnect_any p now e r with
    ⟨fresh, -, hinvites, hmoved⟩ | ⟨hdeclined, r', hfailed, hleft⟩
  · have honly (other : ObjectId) (hother : e.Invites p r other) : other = fresh :=
      Option.some.inj (Except.ok.inj (hother.named.symm.trans hinvites.named))
    rw [hmoved, Regions.release_of_taken _ hside.mapped hinvites.complete.lt_length hinvites.other
      hlock]
    refine ⟨fun other hother => ?_, fun hnone => absurd ⟨fresh, hinvites⟩ hnone,
      iff_of_true hinvites.other ⟨fresh, hinvites⟩⟩
    rw [honly other hother]
    exact relocates_of_invites now hside hstate hfailure hinvites
  · rw [hfailed]
    have hnone := hdeclined hrole
    exact ⟨fun fresh hinvites => absurd ⟨fresh, hinvites⟩ hnone,
      fun _ => remains_of_unlock now hleft, iff_of_false (fun h => h rfl) hnone⟩

/-- A region with a live master. -/
def homeland : Regions :=
  (Regions.empty.allocate (Regions.inhabited 7 (.ofMillis 100))).2.bind "/eshm_a" 0

/-- A slave that has come to it. -/
def settler : Endpoint :=
  let config : EndpointConfig := { name := "a", role := .slave }
  ⟨config, .slave, 0, Monitor.start (.ofConfig config .slave (.ofMillis 100)) true 0, false, none⟩

/-- The master has made its region anew while the slave was there. -/
def reborn : Regions :=
  (((homeland.take 8 0 .slave).free "/eshm_a").allocate
    (Regions.inhabited 7 (.ofMillis 100))).2.bind "/eshm_a" 1

/-- The slave when it has found its master silent, and looks again. -/
def migrant : Endpoint :=
  let silent := { settler with monitor := (settler.monitor.observe 1 100000000).1 }
  { silent with monitor := (silent.monitor.observe 1 100000000).1 }

theorem reached_migrant : Reached 8 migrant reborn := by
  have hopen : Endpoint.open .able latecomer 0 { name := "a", role := .slave } homeland =
      (some (.ok settler), homeland.take 8 0 .slave) := rfl
  have hlooked : Reached 8 migrant (homeland.take 8 0 .slave) :=
    ((Reached.opened rfl hopen).looked 100000000).looked 100000000
  exact hlooked.meanwhile fun _ =>
    ⟨by decide +kernel, by decide, by decide +kernel, by decide +kernel⟩

theorem reconnect_all_or_nothing_migrant :
    Reached latecomer.pid migrant reborn ∧ migrant.monitor.state = .reconnecting ∧
      migrant.Relocates latecomer 100000000 reborn 1
        (migrant.reconnect latecomer 100000000 reborn) := by
  have hreached : Reached latecomer.pid migrant reborn := reached_migrant
  have hstate : migrant.monitor.state = .reconnecting := by decide +kernel
  have hlock : (reborn.layout migrant.region).header.lock.Available latecomer :=
    .inl (by decide +kernel)
  have hinvites : migrant.Invites latecomer reborn 1 :=
    ⟨rfl, by decide, by decide +kernel, by decide +kernel, by decide +kernel,
      .inl (by decide +kernel)⟩
  exact ⟨hreached, hstate,
    (reconnect_all_or_nothing 100000000 hreached rfl hstate hlock).1 1 hinvites⟩

end Endpoint

end PeerLink
