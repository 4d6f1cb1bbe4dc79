import PeerLink.Proofs.Link.Lifetime
import PeerLink.Proofs.Link.Passage
import PeerLink.Proofs.Link.Refusals

/-! # Keeping a side

An endpoint keeps the side it has taken until it is closed, whatever the locks of the regions say.
What others do does not take it away, as long as they see that its process is there.

* `Header.HeldBy`, `Regions.Held`: a process of this number has claimed a side.
* `Endpoint.Step`: all that can become of an endpoint in one step, whatever the locks say.
* `Deed.steps`: what is done with an endpoint is a sequence of steps.
* `Endpoint.Reached`: an endpoint and the regions, some time after it was opened, while others do
  whatever they want as long as the side stays claimed.
* `Endpoint.Reached.placed`: what holds of them.
* `Endpoint.Reached.perform`: no other endpoint takes the side away.
-/

namespace PeerLink
set_option autoImplicit false

/-! ## Claims that stand -/

namespace Header

variable {h : Header} {p : Process} {pid : UInt32} {side role : Role}

/-- A process of this number has claimed a side. -/
structure HeldBy (pid : UInt32) (side : Role) (h : Header) : Prop where
  claimed : (h.slot side).isClaimed = true
  own : (h.slot side).pid = pid

theorem HeldBy.isLive (hheld : h.HeldBy pid side) (hlive : p.alive pid = true) :
    (h.slot side).isLive p = true := by
  rw [RoleSlot.isLive, hheld.claimed, hheld.own, hlive]
  rfl

theorem HeldBy.withLock (hheld : h.HeldBy pid side) (lock : Lock) :
    ({ h with lock } : Header).HeldBy pid side := by
  cases side <;> exact ⟨hheld.claimed, hheld.own⟩

theorem HeldBy.mapSlot {f : RoleSlot → RoleSlot} (hheld : h.HeldBy pid side) (role : Role)
    (hf : ∀ s : RoleSlot, s.isClaimed = true → s.pid = pid →
      (f s).isClaimed = true ∧ (f s).pid = pid) : (h.mapSlot role f).HeldBy pid side := by
  obtain ⟨hclaimed, hown⟩ := hf _ hheld.claimed hheld.own
  cases side <;> cases role <;>
    first | exact ⟨hclaimed, hown⟩ | exact ⟨hheld.claimed, hheld.own⟩

/-- What happens on the other side is of no concern. -/
theorem HeldBy.mapSlot_peer (hheld : h.HeldBy pid side) (hside : side ≠ .auto)
    (f : RoleSlot → RoleSlot) : (h.mapSlot side.peer f).HeldBy pid side := by
  cases side with
  | auto => exact absurd rfl hside
  | master | slave => exact ⟨hheld.claimed, hheld.own⟩

/-- Only its claimant gives a side up. -/
theorem HeldBy.release (hheld : h.HeldBy pid side) (hside : side ≠ .auto) (timeout : Duration)
    (hother : p.pid ≠ pid ∨ role = side.peer) : (h.release p role timeout).2.HeldBy pid side := by
  rcases release_outcome p role timeout h with ⟨live, lock, hrelease⟩ | ⟨e, hrelease⟩
  · rw [hrelease]
    rcases hother with hother | rfl
    · refine (hheld.withLock lock).mapSlot role fun s hclaimed hown => ?_
      rw [RoleSlot.vacateIfOwn, if_neg fun hsame => hother (hsame.symm.trans hown)]
      exact ⟨hclaimed, hown⟩
    · exact (hheld.withLock lock).mapSlot_peer hside _
  · rw [hrelease]
    exact hheld

end Header

namespace Regions

variable {α : Type} {r r' : Regions} {p : Process} {pid : UInt32} {id other : ObjectId}
  {side role : Role}

/-- A process of this number has claimed a side of an object. -/
structure Held (pid : UInt32) (id : ObjectId) (side : Role) (r : Regions) : Prop where
  mapped : id < r.objects.length
  decided : side ≠ .auto
  held : (r.layout id).header.HeldBy pid side

namespace Held

theorem grow (h : r.Held pid id side) (hgrows : r.Grows r') : r'.Held pid id side :=
  ⟨Nat.lt_of_lt_of_le h.mapped hgrows.length, h.decided, hgrows.layout_eq h.mapped ▸ h.held⟩

theorem set {l : Layout} (h : r.Held pid id side)
    (hl : other = id → l.header.HeldBy pid side) :
    (r.setMemory other { r.memory other with layout := l }).Held pid id side := by
  have hmapped := h.mapped
  refine ⟨by rwa [length_setMemory], h.decided, ?_⟩
  rw [layout, memory_setMemory]
  by_cases hsame : id = other ∧ other < r.objects.length
  · rw [if_pos hsame]
    exact hl hsame.1.symm
  · rw [if_neg hsame]
    exact h.held

theorem passed (h : r.Held pid id side) (e : Endpoint) (d : Direction)
    (act : Channel → α × Channel) : (e.onChannel d act r).2.Held pid id side := by
  refine h.set fun hsame => ?_
  subst hsame
  cases d <;> exact h.held.withLock _

theorem unlock (h : r.Held pid id side) (p : Process) (other : ObjectId) :
    (r.unlock p other).Held pid id side := by
  refine h.set fun hsame => ?_
  subst hsame
  exact h.held.withLock _

theorem beat (h : r.Held pid id side) (other : ObjectId) (role : Role) :
    (r.mapHeader other (·.beat role)).Held pid id side := by
  refine h.set fun hsame => ?_
  subst hsame
  exact h.held.mapSlot role fun s hclaimed hown => ⟨hclaimed, hown⟩

theorem mapSlot_of_avoids (h : r.Held pid id side) (hother : other = id → role = side.peer)
    (f : RoleSlot → RoleSlot) : (r.mapSlot other role f).Held pid id side := by
  refine h.set fun hsame => ?_
  rw [hother hsame]
  subst hsame
  exact h.held.mapSlot_peer h.decided f

theorem take (h : r.Held pid id side) (other : ObjectId) (pid' : UInt32)
    (hother : other = id → role = side.peer) : (r.take pid' other role).Held pid id side :=
  (h.mapSlot_of_avoids hother _).mapSlot_of_avoids hother _

theorem release (h : r.Held pid id side) (p : Process) (other : ObjectId) (timeout : Duration)
    (hother : p.pid ≠ pid ∨ (other = id → role = side.peer)) :
    (r.onHeader other (·.release p role timeout)).2.Held pid id side := by
  refine h.set fun hsame => ?_
  subst hsame
  exact h.held.release h.decided timeout (hother.imp_right (· rfl))

/-- A side that was claimed just now. -/
theorem of_take (p : Process) (hid : id < r.objects.length) (hside : side ≠ .auto) :
    ((r.unlock p id).take p.pid id side).Held p.pid id side := by
  have hid' : id < (r.unlock p id).objects.length := by rwa [length_unlock]
  have hslot : ((r.unlock p id).take p.pid id side).slot id side =
      (((r.unlock p id).slot id side).occupy p.pid).beat :=
    (slot_take p.pid hid' hside hside).trans (if_pos ⟨rfl, rfl⟩)
  refine ⟨?_, hside, ?_⟩
  · rwa [(keeps_take ..).length]
  · constructor
    · exact congrArg RoleSlot.isClaimed hslot
    · exact congrArg RoleSlot.pid hslot

/-- Nobody who sees the process gets its side. -/
theorem avoids_of_free {granted : Role} (h : r.Held pid id side) (hlive : p.alive pid = true)
    (hgranted : granted ≠ .auto) (hfree : (r.slot other granted).isLive p = false) :
    other = id → granted = side.peer := by
  rintro rfl
  have hside := h.held.isLive hlive
  have hne : granted ≠ side := by
    rintro rfl
    exact absurd (hside.symm.trans hfree) (by decide)
  exact (Role.eq_or_eq_peer h.decided hgranted).resolve_left hne

end Held

end Regions

/-! ## Steps -/

namespace Endpoint

variable {α : Type} {p q : Process} {pid : UInt32} {e e' : Endpoint} {r r' : Regions}
  {id fresh : ObjectId} {side : Role} {now : Instant} {out : Endpoint × Regions}

/-- An attempt to reconnect: a slave with an invitation moves, everybody else has tried in vain. -/
theorem reconnect_any (p : Process) (now : Instant) (e : Endpoint) (r : Regions) :
    (∃ fresh, e.role = .slave ∧ e.Invites p r fresh ∧ e.reconnect p now r =
      ({ e with
          region := fresh
          monitor := (e.monitor.reattached (r.slot fresh .master).heartbeat now).1 },
        (((r.unlock p fresh).take p.pid fresh .slave).onHeader e.region
          (·.release p .slave e.config.lockTimeout)).2)) ∨
    (e.role = .slave → ¬ ∃ fresh, e.Invites p r fresh) ∧
      ∃ r', e.reconnect p now r = ({ e with monitor := (e.monitor.attemptFailed now).1 }, r') ∧
        (r' = r ∨ ∃ fresh, fresh < r.objects.length ∧ r' = r.unlock p fresh) := by
  rw [reconnect]
  by_cases hrole : e.role = .slave
  · rw [if_pos hrole]
    rcases tryReattach_any p e r with
      ⟨fresh, hinvites, htried⟩ | ⟨hdeclined, r', hleft, htried | ⟨err, htried⟩⟩
    · rw [htried]
      exact .inl ⟨fresh, hrole, hinvites, rfl⟩
    · rw [htried]
      exact .inr ⟨fun _ => hdeclined, r', rfl, hleft⟩
    · rw [htried]
      exact .inr ⟨fun _ => hdeclined, r', rfl, hleft⟩
  · rw [if_neg hrole]
    exact .inr ⟨fun hslave => absurd hslave hrole, r, rfl, .inl rfl⟩

/-- All that can become of an endpoint and of the regions in one step, whatever the locks say. -/
inductive Step (p : Process) : Endpoint × Regions → Endpoint × Regions → Prop where
  /-- A message passes, or none does. -/
  | passed {e : Endpoint} {r : Regions} {α : Type} (d : Direction) (act : Channel → α × Channel) :
      Step p (e, r) (e, (e.onChannel d act r).2)
  | beaten {e : Endpoint} {r : Regions} : Step p (e, r) (e, e.beat r)
  | judged {e : Endpoint} {r : Regions} (calls : List Monitor.Call)
      (baseline : Option HeartbeatBaseline) :
      Step p (e, r) ({ e with monitor := e.monitor.after calls, baseline }, r)
  /-- A lock is taken and given up. -/
  | declined {e : Endpoint} {r : Regions} (fresh : ObjectId) : Step p (e, r) (e, r.unlock p fresh)
  /-- A slave takes up an invitation, and then gives its old side up if it can. -/
  | moved {e : Endpoint} {r : Regions} {fresh : ObjectId} (hopen : e.closed = false)
      (hrole : e.role = .slave) (hinvites : e.Invites p r fresh) (calls : List Monitor.Call) :
      Step p (e, r) ({ e with region := fresh, monitor := e.monitor.after calls },
        (((r.unlock p fresh).take p.pid fresh .slave).onHeader e.region
          (·.release p .slave e.config.lockTimeout)).2)
  | left {e : Endpoint} {r : Regions} (hopen : e.closed = false) :
      Step p (e, r) ({ e with closed := true, monitor := e.monitor.detach },
        (r.onHeader e.region (·.release p e.role e.config.lockTimeout)).2)
  | renamed {e : Endpoint} {r r' : Regions} (hobjects : r'.objects = r.objects) :
      Step p (e, r) (e, r')

/-- What can become of an endpoint in the end. -/
abbrev Steps (p : Process) : Endpoint × Regions → Endpoint × Regions → Prop :=
  Relation.ReflTransGen (Step p)

theorem steps_reconnect (p : Process) (now : Instant) (r : Regions) (hopen : e.closed = false) :
    Steps p (e, r) (e.reconnect p now r) := by
  rcases reconnect_any p now e r with
    ⟨fresh, hrole, hinvites, h⟩ | ⟨-, r', h, hleft⟩
  · rw [h]
    exact .single (.moved hopen hrole hinvites [⟨now, .reattached _⟩])
  · have hfailed (r : Regions) :
        Step p (e, r) ({ e with monitor := (e.monitor.attemptFailed now).1 }, r) :=
      .judged [⟨now, .attemptFailed⟩] e.baseline
    rw [h]
    rcases hleft with rfl | ⟨fresh, -, rfl⟩
    · exact .single (hfailed r')
    · exact .tail (.single (.declined fresh)) (hfailed _)

theorem steps_check (p : Process) (now : Instant) (r : Regions) (hopen : e.closed = false) :
    Steps p (e, r) (e.check p now r) := by
  have hobserved : Step p (e, r)
      ({ e with monitor := (e.monitor.observe (e.peerHeartbeat r) now).1 }, r) :=
    .judged [⟨now, .observe (e.peerHeartbeat r)⟩] e.baseline
  rw [check]
  rcases hobserve : e.monitor.observe (e.peerHeartbeat r) now with ⟨monitor, event⟩
  rw [hobserve] at hobserved
  cases event with
  | reconnectDue attempt => exact .trans (.single hobserved) (steps_reconnect p now r hopen)
  | steady | peerStale | peerRecovered | gaveUp => exact .single hobserved

theorem steps_tick (p : Process) (now : Instant) (r : Regions) (hopen : e.closed = false) :
    Steps p (e, r) (e.tick p now r) := by
  rw [tick, if_neg (by simp [hopen])]
  exact .head .beaten (steps_check p now _ hopen)

theorem steps_poll (p : Process) (now : Instant)
    (attempt : Channel → Except LinkError α × Channel) (r : Regions) (hopen : e.closed = false) :
    Steps p (e, r) (e.poll p now attempt r).2 := by
  cases husable : e.ensureUsable with
  | error err => rw [poll, husable]
  | ok u =>
    rw [poll_of_usable p now attempt husable]
    by_cases hbackground : e.config.background = true
    · simp only [hbackground, if_true]
      exact .single (.passed ..)
    · simp only [hbackground]
      exact .tail (steps_tick p now r hopen) (.passed ..)

theorem steps_write (p : Process) (payload : Bytes) (e : Endpoint) (r : Regions) :
    Steps p (e, r) (e, (e.write p payload r).2) := by
  rw [write]
  cases e.ensureUsable with
  | error err => exact .refl
  | ok u => exact .single (.passed ..)

theorem steps_close (p : Process) (r : Regions) (hopen : e.closed = false) :
    Steps p (e, r) (e.close p r).2 := by
  rw [close, if_neg (by simp [hopen])]
  exact .tail (.single (.left hopen)) (.renamed (objects_leave p e r))

end Endpoint

/-- What is done with an endpoint is a sequence of steps. -/
theorem Deed.steps (p : Process) (deed : Deed) (e : Endpoint) (r : Regions) :
    Endpoint.Steps p (e, r) (deed.carryOut p e r) := by
  by_cases hclosed : e.closed = true
  · rw [carryOut_of_closed p deed r hclosed]
  · have hopen : e.closed = false := Bool.not_eq_true _ ▸ hclosed
    cases deed with
    | tick now => exact Endpoint.steps_tick p now r hopen
    | beat =>
      rw [carryOut, if_neg hclosed]
      exact .single .beaten
    | check now =>
      rw [carryOut, if_neg hclosed]
      exact Endpoint.steps_check p now r hopen
    | poll now buffer => cases buffer <;> exact Endpoint.steps_poll p now _ r hopen
    | write payload => exact Endpoint.steps_write p payload e r
    | writeItems items =>
      rw [carryOut, Endpoint.writeItems]
      cases Message.encode items with
      | error err => exact .refl
      | ok payload => exact Endpoint.steps_write p payload e r
    | stats =>
      rw [carryOut, Endpoint.stats, if_neg hclosed]
      exact .single (.judged [] _)
    | close => exact Endpoint.steps_close p r hopen

/-! ## Where an endpoint can be -/

namespace Endpoint

variable {p q : Process} {pid : UInt32} {e b : Endpoint} {r r' : Regions} {id : ObjectId}
  {side : Role} {k : Kernel} {now : Instant} {c : EndpointConfig} {out : Endpoint × Regions}

/-- What holds of an endpoint at any time: its monitor was started by its settings, it is detached
if it is closed, and until then its process has a claim on its side. -/
structure Placed (pid : UInt32) (e : Endpoint) (r : Regions) : Prop where
  judged : e.Judged
  ended : e.closed = true → e.monitor.state = .detached
  held : e.closed = false → r.Held pid e.region e.role

theorem Step.evolves (hstep : Step p (e, r) out) : e.Evolves out.1 := by
  cases hstep with
  | passed | beaten | declined | renamed => exact .refl e
  | judged calls | moved _ _ _ calls => exact ⟨rfl, rfl, calls, rfl⟩
  | left => exact ⟨rfl, rfl, [⟨0, .detach⟩], rfl⟩

theorem Steps.evolves (hsteps : Steps p (e, r) out) : e.Evolves out.1 := by
  induction hsteps with
  | refl => exact .refl e
  | tail _ hstep ih => exact ih.trans hstep.evolves

theorem Placed.step (h : Placed p.pid e r) (hstep : Step p (e, r) out) :
    Placed p.pid out.1 out.2 := by
  refine ⟨h.judged.evolve hstep.evolves, fun hclosed => ?_, fun hopen => ?_⟩
  · cases hstep with
    | passed | beaten | declined | renamed => exact h.ended hclosed
    | judged calls => exact (Monitor.detached_after (h.ended hclosed) calls).1
    | moved hopen => cases hopen.symm.trans hclosed
    | left => rfl
  · cases hstep with
    | passed d act => exact (h.held hopen).passed e d act
    | beaten => exact (h.held hopen).beat e.region e.role
    | judged => exact h.held hopen
    | declined fresh => exact (h.held hopen).unlock p fresh
    | moved _ hrole hinvites =>
      -- The old side is on another object, so that giving it up does not concern the new one.
      have hside : e.role ≠ .auto := (h.held hopen).decided
      rw [← hrole]
      have htaken := Regions.Held.of_take p hinvites.complete.lt_length hside
      exact htaken.release p e.region _ (.inr fun hsame => absurd hsame.symm hinvites.other)
    | left => cases hopen
    | renamed hobjects => exact (h.held hopen).grow (Regions.grows_of_objects hobjects)

theorem Placed.steps (h : Placed p.pid e r) (hsteps : Steps p (e, r) out) :
    Placed p.pid out.1 out.2 := by
  induction hsteps with
  | refl => exact h
  | tail _ hstep ih => exact ih.step hstep

theorem placed_open (h : Endpoint.open k p now c r = (some (.ok e), r')) : Placed p.pid e r' := by
  have hopens := opens k p now c r
  rw [h] at hopens
  cases hopens with
  | unopened _ hnone => exact absurd rfl (hnone e)
  | opened _ hid _ hgrants hfresh =>
    rw [hfresh]
    refine ⟨⟨_, _, _, [], rfl⟩, fun hclosed => ?_, fun _ => .of_take p hid hgrants.free.1⟩
    cases hclosed

/-- An endpoint and the regions at any time after it was opened. Its process is the same all the
time, but may learn of others that they are gone. Meanwhile anything may happen to the regions, as
long as the side of the open endpoint stays claimed. -/
inductive Reached (pid : UInt32) : Endpoint → Regions → Prop where
  | opened {k : Kernel} {p : Process} {now : Instant} {c : EndpointConfig} {r r' : Regions}
      {e : Endpoint} (hpid : p.pid = pid)
      (hopen : Endpoint.open k p now c r = (some (.ok e), r')) :
      Reached pid e r'
  | acted {p : Process} {e : Endpoint} {r : Regions} (hpid : p.pid = pid) (h : Reached pid e r)
      (deed : Deed) : Reached pid (deed.carryOut p e r).1 (deed.carryOut p e r).2
  /-- The peer's heartbeat was looked at, and an attempt to reconnect may be next. -/
  | looked {e : Endpoint} {r : Regions} (h : Reached pid e r) (now : Instant) :
      Reached pid { e with monitor := (e.monitor.observe (e.peerHeartbeat r) now).1 } r
  | meanwhile {e : Endpoint} {r r' : Regions} (h : Reached pid e r)
      (hkept : e.closed = false → r'.Held pid e.region e.role) : Reached pid e r'

theorem Reached.placed (h : Reached pid e r) : Placed pid e r := by
  induction h with
  | opened hpid hopen => exact hpid ▸ placed_open hopen
  | @acted p e r hpid _ deed ih =>
    subst hpid
    exact ih.steps (deed.steps p e r)
  | @looked e r _ now ih =>
    have hstep : Step ⟨pid, fun _ => false⟩ (e, r)
        ({ e with monitor := (e.monitor.observe (e.peerHeartbeat r) now).1 }, r) :=
      .judged [⟨now, .observe (e.peerHeartbeat r)⟩] e.baseline
    exact ih.step hstep
  | meanwhile _ hkept ih => exact ⟨ih.judged, ih.ended, hkept⟩

/-! ### Others -/

/-- An open endpoint is not where another process or endpoint has this side of an object. -/
def Avoids (id : ObjectId) (side : Role) (b : Endpoint) : Prop :=
  b.closed = false → b.region = id → b.role = side.peer

/-- No step of another endpoint takes a side away from a process that is seen to be there. -/
theorem Step.held (hstep : Step q (b, r) out) (h : r.Held pid id side)
    (hlive : q.alive pid = true) (hother : q.pid = pid → b.Avoids id side) :
    out.2.Held pid id side ∧ (q.pid = pid → out.1.Avoids id side) := by
  have hgives (hopen : b.closed = false) : q.pid ≠ pid ∨ (b.region = id → b.role = side.peer) :=
    (eq_or_ne q.pid pid).symm.imp_right fun hsame => hother hsame hopen
  cases hstep with
  | passed d act => exact ⟨h.passed b d act, hother⟩
  | beaten => exact ⟨h.beat b.region b.role, hother⟩
  | judged => exact ⟨h, hother⟩
  | declined fresh => exact ⟨h.unlock q fresh, hother⟩
  | moved hopen hrole hinvites =>
    have havoids := h.avoids_of_free hlive (by decide) hinvites.vacant
    rw [← hrole] at havoids ⊢
    refine ⟨((h.unlock q _).take _ q.pid havoids).release q b.region _ (hgives hopen), ?_⟩
    exact fun _ _ => havoids
  | left hopen =>
    refine ⟨h.release q b.region _ (hgives hopen), fun _ hleft => ?_⟩
    cases hleft
  | renamed hobjects => exact ⟨h.grow (Regions.grows_of_objects hobjects), hother⟩

theorem Steps.held (hsteps : Steps q (b, r) out) (h : r.Held pid id side)
    (hlive : q.alive pid = true) (hother : q.pid = pid → b.Avoids id side) :
    out.2.Held pid id side ∧ (q.pid = pid → out.1.Avoids id side) := by
  induction hsteps with
  | refl => exact ⟨h, hother⟩
  | tail _ hstep ih => exact hstep.held ih.1 hlive ih.2

/-- Nor does it help to open one, with or without a worker. -/
theorem held_open (k : Kernel) (q : Process) (now : Instant) (c : EndpointConfig)
    (h : r.Held pid id side) (hlive : q.alive pid = true) :
    (Endpoint.open k q now c r).2.Held pid id side ∧
      ∀ b, (Endpoint.open k q now c r).1 = some (.ok b) → b.Avoids id side := by
  have hopens := opens k q now c r
  generalize Endpoint.open k q now c r = out at hopens
  cases hopens with
  | unopened hgrows hnone hleft =>
    refine ⟨?_, fun b hb => absurd hb (hnone b)⟩
    rcases hleft with rfl | ⟨other, -, rfl⟩
    · exact h.grow hgrows
    · exact (h.grow hgrows).unlock q other
  | opened hgrows hid _ hgrants hfresh =>
    have hmid := h.grow hgrows
    have havoids := hmid.avoids_of_free hlive hgrants.free.1 hgrants.free.2
    refine ⟨(hmid.unlock q _).take _ q.pid havoids, fun b hb => ?_⟩
    cases hb
    rw [hfresh]
    exact fun _ => havoids
  | unstaffed hgrows hid _ hgrants =>
    have hmid := h.grow hgrows
    have havoids := hmid.avoids_of_free hlive hgrants.free.1 hgrants.free.2
    exact ⟨((hmid.unlock q _).take _ q.pid havoids).mapSlot_of_avoids havoids _,
      fun b hb => absurd hb (unopened_error _ b)⟩

/-- Whatever the other endpoints of its process do, or those of another process, is as good as
nothing for an endpoint, if its process is seen to be there. -/
theorem Reached.perform {others : Company} (h : Reached pid e others.regions)
    (hlive : q.alive pid = true)
    (hothers : q.pid = pid → ∀ b ∈ others.endpoints, e.closed = false → b.Avoids e.region e.role)
    (act : Act) :
    Reached pid e (others.perform q act).regions ∧
      (q.pid = pid → ∀ b ∈ (others.perform q act).endpoints, e.closed = false →
        b.Avoids e.region e.role) := by
  by_cases hclosed : e.closed = true
  · refine ⟨h.meanwhile fun hopen => ?_, fun _ _ _ hopen => ?_⟩
    · cases hclosed.symm.trans hopen
    · cases hclosed.symm.trans hopen
  · have hopen : e.closed = false := Bool.not_eq_true _ ▸ hclosed
    have hheld := h.placed.held hopen
    cases act with
    | openEndpoint k now config =>
      obtain ⟨hkept, havoids⟩ := held_open k q now config hheld hlive
      rcases hopened : Endpoint.open k q now config others.regions with ⟨_ | err | b, r'⟩
      · rw [hopened] at hkept
        rw [Company.perform_of_unopened unopened_none hopened]
        exact ⟨h.meanwhile fun _ => hkept, hothers⟩
      · rw [hopened] at hkept
        rw [Company.perform_of_unopened (unopened_error err) hopened]
        exact ⟨h.meanwhile fun _ => hkept, hothers⟩
      · rw [hopened] at hkept havoids
        rw [Company.perform_of_opened hopened]
        refine ⟨h.meanwhile fun _ => hkept, fun hown b' hb' hopen => ?_⟩
        rcases List.mem_append.mp hb' with hold | hnew
        · exact hothers hown b' hold hopen
        · rw [List.mem_singleton.mp hnew]
          exact havoids b rfl
    | on i deed =>
      rw [Company.perform]
      cases hb : others.endpoints[i]? with
      | none => exact ⟨h, hothers⟩
      | some b =>
        have hmem := List.mem_of_getElem? hb
        obtain ⟨hkept, havoids⟩ := (deed.steps q b others.regions).held hheld hlive
          fun hown => hothers hown b hmem hopen
        refine ⟨h.meanwhile fun _ => hkept, fun hown b' hb' _ => ?_⟩
        rcases List.mem_or_eq_of_mem_set hb' with hold | rfl
        · exact hothers hown b' hold hopen
        · exact havoids hown
    | create k name size mode =>
      exact ⟨h.meanwhile fun _ => hheld.grow (Regions.grows_create ..), hothers⟩
    | unlink name => exact ⟨h.meanwhile fun _ => hheld.grow (Regions.grows_unlink ..), hothers⟩

end Endpoint

end PeerLink
