import Mathlib.Logic.Relation
import PeerLink.Proofs.Link.Mailbox
import PeerLink.Proofs.Link.Moves
import PeerLink.Proofs.Link.Opening

/-! # Endpoints in company

A process has any number of endpoints open on any names, and uses them in any order, while names are
created and removed. Whatever is done with an endpoint comes down to a few moves.

* `Company`, `Act`, `Company.perform`: the regions, the endpoints, and what the process does.
* `Endpoint.Sound`: an endpoint holds one side of an object, and all locks are free.
* `Endpoint.Invites`: a region that a slave can move to; `Endpoint.tryReattach_any` says what comes
  of the attempt.
* `Endpoint.Move`: everything that can become of an endpoint, one case for each.
* `Deed.moves`: what is done with an endpoint is a sequence of moves.
* `Company.after_induction`: what every act preserves holds of every run.
* `Company.Kept.after`: what opening, moving and the handling of names preserve holds of every run.
-/

namespace PeerLink
set_option autoImplicit false

/-! ## Companies -/

/-- The regions of a host and the endpoints that a process has opened, each under its number. A
closed endpoint keeps its number. -/
structure Company where
  regions : Regions
  endpoints : List Endpoint

/-- What is done with one endpoint, by its user or by its worker. -/
inductive Deed where
  | tick (now : Instant)
  | beat
  | check (now : Instant)
  | poll (now : Instant) (buffer : Option Bytes)
  | write (payload : Bytes)
  | writeItems (items : List Item)
  | stats
  | close

/-- What a process does. Dropping an endpoint is closing it. -/
inductive Act where
  | openEndpoint (k : Kernel) (now : Instant) (c : EndpointConfig)
  | on (i : Nat) (deed : Deed)
  | create (k : Kernel) (name : String) (size mode : Nat)
  | unlink (name : String)

/-- What becomes of an endpoint and of the regions. A worker does nothing once its endpoint is
closed. -/
def Deed.carryOut (p : Process) (e : Endpoint) (r : Regions) : Deed → Endpoint × Regions
  | .tick now => e.tick p now r
  | .beat => if e.closed then (e, r) else (e, e.beat r)
  | .check now => if e.closed then (e, r) else e.check p now r
  | .poll now none => (e.poll p now (·.tryRead p e.config.lockTimeout) r).2
  | .poll now (some buffer) => (e.poll p now (·.tryReadInto p e.config.lockTimeout buffer) r).2
  | .write payload => (e, (e.write p payload r).2)
  | .writeItems items => (e, (e.writeItems p items r).2)
  | .stats => ((e.stats p r).2, r)
  | .close => (e.close p r).2

namespace Company

/-- Nobody there, and no region. -/
def empty : Company := ⟨.empty, []⟩

/-- Puts back what has become of an endpoint and of the regions. -/
def put (i : Nat) (out : Endpoint × Regions) (c : Company) : Company :=
  ⟨out.2, c.endpoints.set i out.1⟩

/-- One act. -/
def perform (p : Process) (c : Company) : Act → Company
  | .openEndpoint k now config =>
    match Endpoint.open k p now config c.regions with
    | (some (.ok e), r) => ⟨r, c.endpoints ++ [e]⟩
    | (_, r) => { c with regions := r }
  | .on i deed =>
    match c.endpoints[i]? with
    | some e => c.put i (deed.carryOut p e c.regions)
    | none => c
  | .create k name size mode => { c with regions := (c.regions.create k name size mode).2 }
  | .unlink name => { c with regions := (c.regions.unlink name).2 }

/-- A list of acts. -/
def after (p : Process) (c : Company) (acts : List Act) : Company := acts.foldl (perform p) c

/-- The endpoint of a number is open, and this holds of it. -/
def Has (c : Company) (i : Nat) (holds : Endpoint → Prop) : Prop :=
  ∃ e, c.endpoints[i]? = some e ∧ e.closed = false ∧ holds e

/-- An open endpoint has this side of this object. -/
def Occupies (c : Company) (i : Nat) (id : ObjectId) (role : Role) : Prop :=
  c.Has i fun e => e.region = id ∧ e.role = role

end Company

/-! ## Channels -/

namespace Channel

/-- An operation that leaves a free lock as it is. -/
def Tidy {α : Type} (act : Channel → α × Channel) : Prop :=
  ∀ c, c.lock.owner = 0 → (act c).2.lock = c.lock

theorem tidy_write (p : Process) (timeout : Duration) (payload : Bytes) :
    Tidy (·.write p timeout payload) := by
  intro c hfree
  by_cases hfits : payload.length ≤ Mailbox.capacity
  · simp only [write_of_free timeout hfits hfree]
  · simp only [write_of_long timeout (Nat.lt_of_not_le hfits)]

theorem tidy_tryRead (p : Process) (timeout : Duration) : Tidy (·.tryRead p timeout) := by
  intro c hfree
  by_cases hpending : c.mailbox.pending = true
  · simp only [tryRead_of_free timeout hpending hfree]
  · simp only [tryRead_of_empty timeout (Bool.not_eq_true _ ▸ hpending)]

theorem tidy_tryReadInto (p : Process) (timeout : Duration) (buffer : Bytes) :
    Tidy (·.tryReadInto p timeout buffer) := by
  intro c hfree
  by_cases hpending : c.mailbox.pending = true
  · simp only [tryReadInto_of_free timeout buffer hpending hfree]
    split <;> rfl
  · simp only [tryReadInto_of_empty timeout buffer (Bool.not_eq_true _ ▸ hpending)]

end Channel

/-! ## Moves -/

namespace Endpoint

variable {p : Process} {e e' : Endpoint} {r r' : Regions}

/-- An endpoint has taken a side of an object, and all locks are free. -/
structure Sound (e : Endpoint) (r : Regions) : Prop where
  free : ∀ id, (r.layout id).header.lock.owner = 0
  decided : e.role ≠ .auto
  mapped : e.region < r.objects.length

/-- What can become of an open endpoint and of the regions. -/
inductive Move (p : Process) : Endpoint × Regions → Endpoint × Regions → Prop where
  /-- A message passes, or none does. -/
  | passed {e : Endpoint} {r r' : Regions} (hopen : e.closed = false) (hkeeps : r.Keeps r')
      (hslot : r'.slot = r.slot) : Move p (e, r) (e, r')
  | beaten {e : Endpoint} {r : Regions} (hopen : e.closed = false) :
      Move p (e, r) (e, r.mapSlot e.region e.role RoleSlot.beat)
  | judged {e : Endpoint} {r : Regions} (hopen : e.closed = false) (calls : List Monitor.Call)
      (baseline : Option HeartbeatBaseline) :
      Move p (e, r) ({ e with monitor := e.monitor.after calls, baseline }, r)
  /-- A slave goes to the region that has its name now. -/
  | moved {e : Endpoint} {r : Regions} (hopen : e.closed = false) (calls : List Monitor.Call)
      {n : String} {fresh : ObjectId} (hrole : e.role = .slave)
      (hname : RegionName.object e.config.name = .ok n) (hfind : r.find? n = some fresh)
      (hfresh : fresh < r.objects.length) (hother : fresh ≠ e.region)
      (hfree : (r.slot fresh .slave).isLive p = false) :
      Move p (e, r) ({ e with region := fresh, monitor := e.monitor.after calls },
        (r.take p.pid fresh .slave).vacate p.pid e.region .slave)
  | left {e : Endpoint} {r : Regions} (hopen : e.closed = false) (calls : List Monitor.Call)
      (hneeded : e.config.autoCleanup = false ∨ (r.slot e.region e.role.peer).isLive p = true ∨
        ∀ n, RegionName.object e.config.name = .ok n → r.find? n ≠ some e.region) :
      Move p (e, r) ({ e with closed := true, monitor := e.monitor.after calls },
        r.vacate p.pid e.region e.role)
  /-- The last one removes the name. -/
  | removed {e : Endpoint} {r : Regions} (hopen : e.closed = false) (calls : List Monitor.Call)
      {n : String} (hcleanup : e.config.autoCleanup = true)
      (halone : (r.slot e.region e.role.peer).isLive p = false)
      (hname : RegionName.object e.config.name = .ok n) (hfind : r.find? n = some e.region) :
      Move p (e, r) ({ e with closed := true, monitor := e.monitor.after calls },
        (r.vacate p.pid e.region e.role).free n)

/-- What can become of an endpoint in the end. -/
abbrev Moves (p : Process) : Endpoint × Regions → Endpoint × Regions → Prop :=
  Relation.ReflTransGen (Move p)

theorem Sound.of_keeps (h : e.Sound r) (hkeeps : r.Keeps r') (hrole : e'.role = e.role)
    (hmapped : e'.region < r.objects.length) : e'.Sound r' where
  free id := by rw [hkeeps.lock]; exact h.free id
  decided := by rw [hrole]; exact h.decided
  mapped := by rw [hkeeps.length]; exact hmapped

theorem Sound.move (h : e.Sound r) (hmove : Move p (e, r) (e', r')) : e'.Sound r' := by
  cases hmove with
  | passed hopen hkeeps => exact h.of_keeps hkeeps rfl h.mapped
  | beaten => exact h.of_keeps (Regions.keeps_mapSlot ..) rfl h.mapped
  | judged => exact ⟨h.free, h.decided, h.mapped⟩
  | moved hopen calls hrole hname hfind hfresh =>
    exact h.of_keeps ((Regions.keeps_take ..).trans (Regions.keeps_vacate ..)) rfl hfresh
  | left => exact h.of_keeps (Regions.keeps_vacate ..) rfl h.mapped
  | removed =>
    have hleft : e.Sound (r.vacate p.pid e.region e.role) :=
      h.of_keeps (Regions.keeps_vacate ..) rfl h.mapped
    exact ⟨hleft.free, hleft.decided, hleft.mapped⟩

theorem Move.length_eq {out : Endpoint × Regions} (hmove : Move p (e, r) out) :
    out.2.objects.length = r.objects.length := by
  cases hmove with
  | passed hopen hkeeps => exact hkeeps.length
  | beaten => exact (Regions.keeps_mapSlot ..).length
  | judged => rfl
  | moved => exact ((Regions.keeps_take ..).trans (Regions.keeps_vacate ..)).length
  | left | removed => exact (Regions.keeps_vacate ..).length

theorem Sound.moves {out : Endpoint × Regions} (h : e.Sound r) (hmoves : Moves p (e, r) out) :
    out.1.Sound out.2 := by
  induction hmoves with
  | refl => exact h
  | tail _ hmove ih => exact ih.move hmove

/-! ## Ticks -/

/-- A slave can move to a region: it is another one than the one it has mapped, it stands under the
name, it is large enough and has a valid header, its master is live and its slave is not, and its
lock can be had. -/
structure Invites (p : Process) (e : Endpoint) (r : Regions) (fresh : ObjectId) : Prop where
  named : r.identify e.config.name = .ok (some fresh)
  other : fresh ≠ e.region
  complete : r.Complete fresh
  master : (r.slot fresh .master).isLive p = true
  vacant : (r.slot fresh .slave).isLive p = false
  available : (r.layout fresh).header.lock.Available p

/-- An attempt to move, whatever the locks say. An invitation is taken up; without one no more can
happen than that a lock is taken and given up. -/
theorem tryReattach_any (p : Process) (e : Endpoint) (r : Regions) :
    (∃ fresh, e.Invites p r fresh ∧ e.tryReattach p r =
      (.ok (some (fresh, (r.slot fresh .master).heartbeat)),
        (((r.unlock p fresh).take p.pid fresh .slave).onHeader e.region
          (·.release p .slave e.config.lockTimeout)).2)) ∨
    (¬ ∃ fresh, e.Invites p r fresh) ∧
      ∃ r', (r' = r ∨ ∃ fresh, fresh < r.objects.length ∧ r' = r.unlock p fresh) ∧
        (e.tryReattach p r = (.ok none, r') ∨ ∃ err, e.tryReattach p r = (.error err, r')) := by
  rw [tryReattach]
  rcases hidentify : r.identify e.config.name with err | _ | fresh
  · refine .inr ⟨?_, r, .inl rfl, .inr ⟨_, rfl⟩⟩
    rintro ⟨fresh, hinvites⟩
    cases hidentify.symm.trans hinvites.named
  · refine .inr ⟨?_, r, .inl rfl, .inl rfl⟩
    rintro ⟨fresh, hinvites⟩
    cases hidentify.symm.trans hinvites.named
  · have honly (hdeclined : ¬ e.Invites p r fresh) : ¬ ∃ fresh, e.Invites p r fresh := by
      rintro ⟨other, hinvites⟩
      cases hidentify.symm.trans hinvites.named
      exact hdeclined hinvites
    obtain ⟨n, hname, hfind⟩ := Regions.of_identify hidentify
    dsimp only
    by_cases hother : fresh = e.region
    · rw [if_pos hother]
      exact .inr ⟨honly fun h => h.other hother, r, .inl rfl, .inl rfl⟩
    rw [if_neg hother]
    by_cases hcomplete : r.Complete fresh
    · obtain ⟨handle, rfl, hattach⟩ := Regions.attachLayout_of_complete hname hfind hcomplete
      rw [hattach]
      dsimp only
      by_cases hmaster : (r.layout handle.object).header.master.isLive p = true
      · have hid := hcomplete.lt_length
        rw [hmaster]
        rcases Regions.claim_any p .slave e.config.lockTimeout hid with
          ⟨side, ha, hgrants, hclaim⟩ | ⟨err, r', hleft, hreason, hclaim⟩
        · obtain ⟨rfl, hvacant⟩ := hgrants
          have hid' : handle.object < (r.unlock p handle.object).objects.length := by
            rwa [Regions.length_unlock]
          have hheartbeat : ((r.unlock p handle.object).take p.pid handle.object .slave).slot
              handle.object .master = r.slot handle.object .master := by
            rw [Regions.slot_take p.pid hid' (by decide) (by decide), Regions.slot_unlock p hid]
            exact if_neg fun h => absurd h.2 (by decide)
          refine .inl ⟨_, ⟨hidentify, hother, hcomplete, hmaster, hvacant, ha⟩, ?_⟩
          rw [hclaim, ← hheartbeat]
          rfl
        · rw [hclaim]
          refine .inr ⟨honly fun h => ?_, r', ?_, .inr ⟨_, rfl⟩⟩
          · exact (hreason h.available).1 .slave ⟨rfl, h.vacant⟩
          · exact hleft.imp_right fun hleft => ⟨_, hid, hleft.2⟩
      · rw [Bool.not_eq_true] at hmaster
        rw [hmaster]
        refine .inr ⟨honly fun h => ?_, r, .inl rfl, .inl rfl⟩
        exact absurd (h.master.symm.trans hmaster) (by decide)
    · obtain ⟨err, -, -, hattach⟩ := Regions.attachLayout_of_not_complete hname hfind hcomplete
      rw [hattach]
      exact .inr ⟨honly fun h => hcomplete h.complete, r, .inl rfl, .inr ⟨_, rfl⟩⟩

theorem tryReattach_cases (p : Process) (h : e.Sound r) :
    (∃ result, e.tryReattach p r = (result, r) ∧ ∀ found, result ≠ .ok (some found)) ∨
    ∃ n fresh heartbeat, RegionName.object e.config.name = .ok n ∧ r.find? n = some fresh ∧
      fresh < r.objects.length ∧ fresh ≠ e.region ∧ (r.slot fresh .slave).isLive p = false ∧
      e.tryReattach p r =
        (.ok (some (fresh, heartbeat)),
          (r.take p.pid fresh .slave).vacate p.pid e.region .slave) := by
  have hunlock (id : ObjectId) : r.unlock p id = r := Regions.unlock_of_free p (h.free id)
  rcases tryReattach_any p e r with ⟨fresh, hinvites, htried⟩ | ⟨-, r', hleft, htried⟩
  · obtain ⟨n, hname, hfind⟩ := Regions.of_identify hinvites.named
    -- The claim leaves all locks free, so that the old side can be given up.
    have hunlocked : ((r.take p.pid fresh .slave).layout e.region).header.lock.owner = 0 := by
      rw [(Regions.keeps_take ..).lock]
      exact h.free e.region
    have hside : Role.slave ≠ .auto := by decide
    rw [hunlock, Regions.release_of_free p _ hside hunlocked] at htried
    exact .inr ⟨n, fresh, _, hname, hfind, hinvites.complete.lt_length, hinvites.other,
      hinvites.vacant, htried⟩
  · have hsame : r' = r := by
      rcases hleft with hsame | ⟨fresh, -, hleft⟩
      · exact hsame
      · rw [hleft, hunlock]
    rw [hsame] at htried
    rcases htried with htried | ⟨err, htried⟩
    · exact .inl ⟨_, htried, nofun⟩
    · exact .inl ⟨_, htried, nofun⟩

theorem moves_reconnect (p : Process) (now : Instant) (h : e.Sound r) (hopen : e.closed = false) :
    Moves p (e, r) (e.reconnect p now r) := by
  have hfailed : Moves p (e, r) ({ e with monitor := (e.monitor.attemptFailed now).1 }, r) :=
    .single (.judged hopen [⟨now, .attemptFailed⟩] e.baseline)
  rw [reconnect]
  by_cases hrole : e.role = .slave
  · rw [if_pos hrole]
    rcases tryReattach_cases p h with
      ⟨result, hresult, hnone⟩ | ⟨n, fresh, heartbeat, hname, hfind, hfresh, hother, hfree, hresult⟩
    · rw [hresult]
      rcases result with err | _ | found
      · exact hfailed
      · exact hfailed
      · exact absurd rfl (hnone found)
    · rw [hresult]
      exact .single
        (.moved hopen [⟨now, .reattached heartbeat⟩] hrole hname hfind hfresh hother hfree)
  · rw [if_neg hrole]
    exact hfailed

theorem moves_check (p : Process) (now : Instant) (h : e.Sound r) (hopen : e.closed = false) :
    Moves p (e, r) (e.check p now r) := by
  have hobserved : Move p (e, r)
      ({ e with monitor := (e.monitor.observe (e.peerHeartbeat r) now).1 }, r) :=
    .judged hopen [⟨now, .observe (e.peerHeartbeat r)⟩] e.baseline
  rw [check]
  rcases hobserve : e.monitor.observe (e.peerHeartbeat r) now with ⟨monitor, event⟩
  rw [hobserve] at hobserved
  cases event with
  | reconnectDue attempt =>
    exact .trans (.single hobserved) (moves_reconnect p now (h.move hobserved) hopen)
  | steady | peerStale | peerRecovered | gaveUp => exact .single hobserved

theorem moves_tick (p : Process) (now : Instant) (h : e.Sound r) (hopen : e.closed = false) :
    Moves p (e, r) (e.tick p now r) := by
  have hbeaten : Move p (e, r) (e, e.beat r) := .beaten hopen
  rw [tick, if_neg (by simp [hopen])]
  exact .trans (.single hbeaten) (moves_check p now (h.move hbeaten) hopen)

/-- The same endpoint, but for where it is and how it judges its peer. -/
def Drifts (e e' : Endpoint) : Prop := ∃ region monitor, e' = { e with region, monitor }

theorem Drifts.refl (e : Endpoint) : e.Drifts e := ⟨e.region, e.monitor, rfl⟩

theorem Drifts.trans {e'' : Endpoint} (h : e.Drifts e') (h' : e'.Drifts e'') : e.Drifts e'' := by
  obtain ⟨_, _, rfl⟩ := h
  obtain ⟨region, monitor, rfl⟩ := h'
  exact ⟨region, monitor, rfl⟩

theorem Drifts.closed_eq (h : e.Drifts e') : e'.closed = e.closed := by
  obtain ⟨_, _, rfl⟩ := h
  rfl

theorem Drifts.baseline_eq (h : e.Drifts e') : e'.baseline = e.baseline := by
  obtain ⟨_, _, rfl⟩ := h
  rfl

theorem drifts_reconnect (p : Process) (now : Instant) (e : Endpoint) (r : Regions) :
    e.Drifts (e.reconnect p now r).1 := by
  unfold reconnect
  split
  · exact ⟨_, _, rfl⟩
  · exact ⟨e.region, _, rfl⟩

theorem drifts_check (p : Process) (now : Instant) (e : Endpoint) (r : Regions) :
    e.Drifts (e.check p now r).1 := by
  unfold check
  dsimp only
  split
  · exact .trans ⟨e.region, _, rfl⟩ (drifts_reconnect ..)
  · exact ⟨e.region, _, rfl⟩

theorem drifts_tick (p : Process) (now : Instant) (e : Endpoint) (r : Regions) :
    e.Drifts (e.tick p now r).1 := by
  unfold tick
  split
  · exact .refl e
  · exact drifts_check ..

/-! ## Data -/

variable {α : Type}

/-- An operation on a channel leaves the header as it is. -/
theorem header_onChannel (d : Direction) {act : Channel → α × Channel} (hact : Channel.Tidy act)
    (h : e.Sound r) :
    ((r.layout e.region).onChannel d act).2.header = (r.layout e.region).header := by
  have hlock : (act ((r.layout e.region).channel d)).2.lock = (r.layout e.region).header.lock :=
    hact _ (h.free e.region)
  cases d <;> simp only [Layout.onChannel, Layout.putChannel, hlock]

theorem slot_onChannel (d : Direction) {act : Channel → α × Channel} (hact : Channel.Tidy act)
    (h : e.Sound r) : (e.onChannel d act r).2.slot = r.slot := by
  funext id role
  exact congrArg (·.slot role) (Regions.header_setMemory (header_onChannel d hact h) id)

theorem move_onChannel (p : Process) (d : Direction) {act : Channel → α × Channel}
    (hact : Channel.Tidy act) (h : e.Sound r) (hopen : e.closed = false) :
    Move p (e, r) (e, (e.onChannel d act r).2) := by
  have hheader := header_onChannel d hact h
  refine .passed hopen (Regions.keeps_setMemory ?_ ?_ ?_) (slot_onChannel d hact h)
  · exact congrArg Header.lock hheader
  · exact congrArg Header.isValid hheader
  · exact congrArg Header.staleThresholdMs hheader

/-- What a round of a read makes of an endpoint and of the regions. -/
theorem poll_of_usable (p : Process) (now : Instant)
    (attempt : Channel → Except LinkError α × Channel) (husable : e.ensureUsable = .ok ()) :
    (e.poll p now attempt r).2 =
      let ticked := if e.config.background then (e, r) else e.tick p now r
      (ticked.1, (ticked.1.onChannel ticked.1.role.incoming attempt ticked.2).2) := by
  rw [poll, husable]
  dsimp only
  split <;> rename_i hchannel <;> rw [hchannel]

theorem drifts_poll (p : Process) (now : Instant)
    (attempt : Channel → Except LinkError α × Channel) (e : Endpoint) (r : Regions) :
    e.Drifts (e.poll p now attempt r).2.1 := by
  cases husable : e.ensureUsable with
  | error err =>
    rw [poll, husable]
    exact .refl e
  | ok u =>
    rw [poll_of_usable p now attempt husable]
    dsimp only
    split
    · exact .refl e
    · exact drifts_tick ..

theorem moves_poll (p : Process) (now : Instant)
    {attempt : Channel → Except LinkError α × Channel} (hattempt : Channel.Tidy attempt)
    (h : e.Sound r) (hopen : e.closed = false) :
    Moves p (e, r) (e.poll p now attempt r).2 := by
  cases husable : e.ensureUsable with
  | error err =>
    rw [poll, husable]
  | ok u =>
    rw [poll_of_usable p now attempt husable]
    by_cases hbackground : e.config.background = true
    · simp only [hbackground, if_true]
      exact .single (move_onChannel p _ hattempt h hopen)
    · have htick := moves_tick p now h hopen
      have hticked := (drifts_tick p now e r).closed_eq.trans hopen
      simp only [hbackground]
      exact htick.tail (move_onChannel p _ hattempt (h.moves htick) hticked)

theorem moves_write (p : Process) (payload : Bytes) (h : e.Sound r) (hopen : e.closed = false) :
    Moves p (e, r) (e, (e.write p payload r).2) := by
  rw [write]
  cases e.ensureUsable with
  | error err => exact .refl
  | ok u => exact .single (move_onChannel p _ (Channel.tidy_write p _ payload) h hopen)

/-! ## Closing -/

theorem leave_cases (p : Process) (h : e.Sound r) :
    ((e.config.autoCleanup = false ∨ (r.slot e.region e.role.peer).isLive p = true ∨
        ∀ n, RegionName.object e.config.name = .ok n → r.find? n ≠ some e.region) ∧
      (e.leave p r).2 = r.vacate p.pid e.region e.role) ∨
    ∃ n, e.config.autoCleanup = true ∧ (r.slot e.region e.role.peer).isLive p = false ∧
      RegionName.object e.config.name = .ok n ∧ r.find? n = some e.region ∧
      (e.leave p r).2 = (r.vacate p.pid e.region e.role).free n := by
  rw [leave, Regions.release_of_free p _ h.decided (h.free e.region)]
  dsimp only
  by_cases hcleanup : e.config.autoCleanup = true
  · by_cases hpeer : (r.slot e.region e.role.peer).isLive p = true
    · rw [hcleanup, hpeer]
      exact .inl ⟨.inr (.inl rfl), rfl⟩
    · rw [Bool.not_eq_true] at hpeer
      rw [hcleanup, hpeer]
      rw [if_neg (by decide), Regions.identify]
      cases hname : RegionName.object e.config.name with
      | error err => exact .inl ⟨.inr (.inr fun n hn => by cases hn), rfl⟩
      | ok n =>
        have hkept : (r.vacate p.pid e.region e.role).find? n = r.find? n := rfl
        dsimp only
        rw [hkept]
        by_cases hfind : r.find? n = some e.region
        · obtain ⟨hfreed, found, hfound⟩ :=
            Regions.unlink_of_name (r.vacate p.pid e.region e.role) hname
          rw [if_pos hfind]
          refine .inr ⟨n, rfl, rfl, rfl, hfind, ?_⟩
          rw [← hfreed]
          split <;> rename_i hunlink <;> rw [hunlink]
        · rw [if_neg hfind]
          exact .inl ⟨.inr (.inr fun n' hn' => by cases hn'; exact hfind), rfl⟩
  · rw [Bool.not_eq_true] at hcleanup
    rw [hcleanup]
    exact .inl ⟨.inl rfl, rfl⟩

/-- Whoever leaves gives the side up, and may remove a name. -/
theorem objects_leave (p : Process) (e : Endpoint) (r : Regions) :
    (e.leave p r).2.objects =
      (r.onHeader e.region (·.release p e.role e.config.lockTimeout)).2.objects := by
  rw [leave]
  generalize r.onHeader e.region (·.release p e.role e.config.lockTimeout) = released
  obtain ⟨err | peerLive, r'⟩ := released
  · rfl
  · dsimp only
    split
    · rfl
    · split
      · rfl
      · split
        · have hobjects := Regions.objects_unlink e.config.name r'
          split <;> rename_i hunlink <;> rw [hunlink] at hobjects <;> exact hobjects
        · rfl

theorem moves_close (p : Process) (h : e.Sound r) (hopen : e.closed = false) :
    Moves p (e, r) (e.close p r).2 := by
  rw [close, if_neg (by simp [hopen])]
  rcases leave_cases p h with
    ⟨hneeded, hleave⟩ | ⟨n, hcleanup, halone, hname, hfind, hleave⟩
  · dsimp only
    rw [hleave]
    exact .single (.left hopen [⟨0, .detach⟩] hneeded)
  · dsimp only
    rw [hleave]
    exact .single (.removed hopen [⟨0, .detach⟩] hcleanup halone hname hfind)

/-! ## After the end -/

theorem ensureUsable_of_closed (hclosed : e.closed = true) :
    e.ensureUsable = .error .notInitialized := if_pos hclosed

theorem tick_of_closed (p : Process) (now : Instant) (r : Regions) (hclosed : e.closed = true) :
    e.tick p now r = (e, r) := if_pos hclosed

theorem poll_of_closed (p : Process) (now : Instant)
    (attempt : Channel → Except LinkError α × Channel) (r : Regions) (hclosed : e.closed = true) :
    e.poll p now attempt r = (some (.error .notInitialized), e, r) := by
  rw [poll, ensureUsable_of_closed hclosed]

theorem write_of_closed (p : Process) (payload : Bytes) (r : Regions) (hclosed : e.closed = true) :
    e.write p payload r = (.error .notInitialized, r) := by
  rw [write, ensureUsable_of_closed hclosed]

/-- Items are encoded before anybody asks whether the endpoint is closed. -/
theorem writeItems_of_closed (p : Process) (items : List Item) (r : Regions)
    (hclosed : e.closed = true) :
    e.writeItems p items r = (.error (match Message.encode items with
      | .ok _ => .notInitialized
      | .error cause => .codec cause), r) := by
  rw [writeItems]
  cases Message.encode items with
  | error cause => rfl
  | ok payload => exact write_of_closed p payload r hclosed

theorem stats_of_closed (p : Process) (r : Regions) (hclosed : e.closed = true) :
    e.stats p r = (.error .notInitialized, e) := if_pos hclosed

theorem close_of_closed (p : Process) (r : Regions) (hclosed : e.closed = true) :
    e.close p r = (.ok (), e, r) := if_pos hclosed

end Endpoint

/-! ## Deeds -/

namespace Deed

variable {p : Process} {e : Endpoint} {r : Regions}

/-- A closed endpoint and its regions stay as they are. -/
theorem carryOut_of_closed (p : Process) (deed : Deed) (r : Regions) (hclosed : e.closed = true) :
    deed.carryOut p e r = (e, r) := by
  cases deed with
  | tick | beat | check => exact if_pos hclosed
  | poll now buffer =>
    cases buffer <;> exact congrArg Prod.snd (Endpoint.poll_of_closed p now _ r hclosed)
  | write payload =>
    exact congrArg (fun out => (e, out.2)) (Endpoint.write_of_closed p payload r hclosed)
  | writeItems items =>
    exact congrArg (fun out => (e, out.2)) (Endpoint.writeItems_of_closed p items r hclosed)
  | stats => exact congrArg (fun out => (out.2, r)) (Endpoint.stats_of_closed p r hclosed)
  | close => exact congrArg Prod.snd (Endpoint.close_of_closed p r hclosed)

/-- What is done with an endpoint is a sequence of moves. -/
theorem moves (p : Process) (deed : Deed) (h : e.Sound r) :
    Endpoint.Moves p (e, r) (deed.carryOut p e r) := by
  by_cases hclosed : e.closed = true
  · rw [carryOut_of_closed p deed r hclosed]
  · have hopen : e.closed = false := Bool.not_eq_true _ ▸ hclosed
    cases deed with
    | tick now => exact Endpoint.moves_tick p now h hopen
    | beat =>
      rw [carryOut, if_neg hclosed]
      exact .single (.beaten hopen)
    | check now =>
      rw [carryOut, if_neg hclosed]
      exact Endpoint.moves_check p now h hopen
    | poll now buffer =>
      cases buffer with
      | none => exact Endpoint.moves_poll p now (Channel.tidy_tryRead p _) h hopen
      | some buffer => exact Endpoint.moves_poll p now (Channel.tidy_tryReadInto p _ buffer) h hopen
    | write payload => exact Endpoint.moves_write p payload h hopen
    | writeItems items =>
      rw [carryOut, Endpoint.writeItems]
      cases Message.encode items with
      | error err => exact .refl
      | ok payload => exact Endpoint.moves_write p payload h hopen
    | stats =>
      rw [carryOut, Endpoint.stats, if_neg hclosed]
      exact .single (.judged hopen [] _)
    | close => exact Endpoint.moves_close p h hopen

end Deed

/-! ## Runs -/

namespace Company

variable {p : Process} {c : Company}

/-- All locks are free, and every endpoint has taken a side of an object. -/
structure Orderly (c : Company) : Prop where
  free : ∀ id, (c.regions.layout id).header.lock.owner = 0
  placed : ∀ e ∈ c.endpoints, e.role ≠ .auto ∧ e.region < c.regions.objects.length

theorem Orderly.sound (h : c.Orderly) {e : Endpoint} (he : e ∈ c.endpoints) : e.Sound c.regions :=
  ⟨h.free, (h.placed e he).1, (h.placed e he).2⟩

/-- What holds in every run, because it is kept when objects are added or names change, when an
endpoint takes a free side, also if it has to give it up for want of a worker, and by every move. -/
structure Kept (p : Process) (I : Company → Prop) : Prop where
  grown : ∀ {c : Company} {r : Regions}, c.Orderly → I c → c.regions.Grows r →
    I { c with regions := r }
  entered : ∀ {c : Company} {config : EndpointConfig} {id : ObjectId} {side : Role}
    (threshold : Duration) (present : Bool) (now : Instant), c.Orderly → I c →
    id < c.regions.objects.length → (c.regions.layout id).header.Grants p config.role side →
    I ⟨c.regions.take p.pid id side, c.endpoints ++ [.fresh config side id threshold present now]⟩
  dismissed : ∀ {c : Company} {id : ObjectId} {side : Role}, c.Orderly → I c →
    id < c.regions.objects.length → side ≠ .auto → (c.regions.slot id side).isLive p = false →
    I { c with regions := (c.regions.take p.pid id side).vacate p.pid id side }
  moved : ∀ {c : Company} {i : Nat} {e : Endpoint} {out : Endpoint × Regions}, c.Orderly → I c →
    c.endpoints[i]? = some e → Endpoint.Move p (e, c.regions) out → I (c.put i out)

theorem kept_orderly (p : Process) : Kept p Orderly where
  grown {c r} ho _ hgrows :=
    ⟨hgrows.free ho.free, fun e he =>
      ⟨(ho.placed e he).1, Nat.lt_of_lt_of_le (ho.placed e he).2 hgrows.length⟩⟩
  entered {c config id side} threshold present now ho _ hid hg := by
    have hkeeps := Regions.keeps_take p.pid id side c.regions
    refine ⟨fun id' => ?_, fun e he => ?_⟩
    · rw [hkeeps.lock]
      exact ho.free id'
    · rw [hkeeps.length]
      rcases List.mem_append.mp he with hold | hnew
      · exact ho.placed e hold
      · rw [List.mem_singleton.mp hnew]
        exact ⟨hg.free.1, hid⟩
  dismissed {c id side} ho _ _ _ _ := by
    have hkeeps := (Regions.keeps_take p.pid id side c.regions).trans
      (Regions.keeps_vacate p.pid id side _)
    refine ⟨fun id' => ?_, fun e he => ?_⟩
    · rw [hkeeps.lock]
      exact ho.free id'
    · rw [hkeeps.length]
      exact ho.placed e he
  moved {c i e out} ho _ he hmove := by
    have hsound := (ho.sound (List.mem_of_getElem? he)).moves (.single hmove)
    refine ⟨hsound.free, fun e' he' => ?_⟩
    rcases List.mem_or_eq_of_mem_set he' with hold | rfl
    · rw [put, hmove.length_eq]
      exact ho.placed e' hold
    · exact ⟨hsound.decided, hsound.mapped⟩

variable {I : Company → Prop} {i : Nat} {e : Endpoint} {out : Endpoint × Regions}

theorem put_self (he : c.endpoints[i]? = some e) : c.put i (e, c.regions) = c := by
  obtain ⟨hi, rfl⟩ := List.getElem?_eq_some_iff.mp he
  rw [put, List.set_getElem_self]

theorem put_put (c : Company) (i : Nat) (mid out : Endpoint × Regions) :
    (c.put i mid).put i out = c.put i out := by
  rw [put, put, put, List.set_set]

theorem getElem?_put (he : c.endpoints[i]? = some e) : (c.put i out).endpoints[i]? = some out.1 :=
  List.getElem?_set_self (List.getElem?_eq_some_iff.mp he).1

theorem has_self {holds : Endpoint → Prop} (he : c.endpoints[i]? = some e) :
    c.Has i holds ↔ e.closed = false ∧ holds e := by
  simp [Has, he]

theorem has_put {holds : Endpoint → Prop} (he : c.endpoints[i]? = some e) (j : Nat) :
    (c.put i out).Has j holds ↔
      j = i ∧ out.1.closed = false ∧ holds out.1 ∨ j ≠ i ∧ c.Has j holds := by
  by_cases hsame : j = i
  · subst hsame
    simp [Has, getElem?_put he]
  · have hother : (c.put i out).endpoints[j]? = c.endpoints[j]? :=
      List.getElem?_set_ne (Ne.symm hsame)
    simp [Has, hother, hsame]

theorem has_concat {holds : Endpoint → Prop} (r : Regions) (e : Endpoint) (c : Company) (j : Nat) :
    (⟨r, c.endpoints ++ [e]⟩ : Company).Has j holds ↔
      j = c.endpoints.length ∧ e.closed = false ∧ holds e ∨ c.Has j holds := by
  rcases Nat.lt_trichotomy j c.endpoints.length with hlt | rfl | hgt
  · simp [Has, List.getElem?_append_left hlt, Nat.ne_of_lt hlt]
  · simp [Has]
  · have hnone : (c.endpoints ++ [e])[j]? = none := by
      rw [List.getElem?_eq_none_iff, List.length_append, List.length_singleton]
      exact hgt
    simp [Has, hnone, Nat.ne_of_gt hgt, List.getElem?_eq_none (Nat.le_of_lt hgt)]

theorem perform_on (he : c.endpoints[i]? = some e) (deed : Deed) :
    c.perform p (.on i deed) = c.put i (deed.carryOut p e c.regions) := by
  rw [perform, he]

theorem perform_of_opened {k : Kernel} {now : Instant} {config : EndpointConfig} {r : Regions}
    (h : Endpoint.open k p now config c.regions = (some (.ok e), r)) :
    c.perform p (.openEndpoint k now config) = ⟨r, c.endpoints ++ [e]⟩ := by
  rw [perform, h]

theorem perform_of_unopened {k : Kernel} {now : Instant} {config : EndpointConfig} {r : Regions}
    {result : Option (Except LinkError Endpoint)} (hnone : Endpoint.Unopened result)
    (h : Endpoint.open k p now config c.regions = (result, r)) :
    c.perform p (.openEndpoint k now config) = { c with regions := r } := by
  rw [perform, h]
  rcases result with _ | err | e
  · rfl
  · rfl
  · exact absurd rfl (hnone e)

/-- What one act makes of the endpoint of a number: what is done with it, or nothing. -/
theorem endpoint_perform (p : Process) (he : c.endpoints[i]? = some e) (act : Act) :
    (∃ deed, act = .on i deed ∧
      (c.perform p act).endpoints[i]? = some (deed.carryOut p e c.regions).1) ∨
    (∀ deed, act ≠ .on i deed) ∧ (c.perform p act).endpoints[i]? = some e := by
  cases act with
  | openEndpoint k now config =>
    refine .inr ⟨nofun, ?_⟩
    rw [perform]
    split
    · exact (List.getElem?_append_left (List.getElem?_eq_some_iff.mp he).1).trans he
    · exact he
  | on j deed =>
    by_cases hji : j = i
    · subst hji
      rw [perform_on he]
      exact .inl ⟨deed, rfl, getElem?_put he⟩
    · refine .inr ⟨fun _ hact => hji (Act.on.inj hact).1, ?_⟩
      rw [perform]
      split
      · exact (List.getElem?_set_ne hji).trans he
      · exact he
  | create | unlink => exact .inr ⟨nofun, he⟩

/-- What every move of an endpoint preserves holds at the end of its moves. -/
theorem moves_induction
    (hmoved : ∀ {c : Company} {e : Endpoint} {out : Endpoint × Regions}, c.Orderly → I c →
      c.endpoints[i]? = some e → Endpoint.Move p (e, c.regions) out → I (c.put i out))
    (ho : c.Orderly) (hi : I c) (he : c.endpoints[i]? = some e)
    (hmoves : Endpoint.Moves p (e, c.regions) out) : (c.put i out).Orderly ∧ I (c.put i out) := by
  induction hmoves with
  | refl =>
    rw [put_self he]
    exact ⟨ho, hi⟩
  | @tail mid out _ hmove ih =>
    rw [← put_put c i mid out]
    have hmid : (c.put i mid).endpoints[i]? = some mid.1 := getElem?_put he
    exact ⟨(kept_orderly p).moved ih.1 ih.1 hmid hmove, hmoved ih.1 ih.2 hmid hmove⟩

theorem Kept.perform (hkept : Kept p I) (ho : c.Orderly) (hi : I c) (act : Act) :
    (c.perform p act).Orderly ∧ I (c.perform p act) := by
  have hgrown {r : Regions} (hgrows : c.regions.Grows r) :
      ({ c with regions := r } : Company).Orderly ∧ I { c with regions := r } :=
    ⟨(kept_orderly p).grown ho ho hgrows, hkept.grown ho hi hgrows⟩
  cases act with
  | openEndpoint k now config =>
    -- Objects are added before a side is taken, and all locks are free then as before.
    have hopens := Endpoint.opens k p now config c.regions
    generalize hopened : Endpoint.open k p now config c.regions = out at hopens
    cases hopens with
    | unopened hgrows hnone hleft =>
      rw [perform_of_unopened hnone hopened, hgrows.eq_of_left ho.free hleft]
      exact hgrown hgrows
    | opened hgrows hid _ hg hfresh =>
      obtain ⟨ho', hi'⟩ := hgrown hgrows
      rw [perform_of_opened hopened, hgrows.unlock_eq ho.free, hfresh]
      exact ⟨(kept_orderly p).entered _ _ now ho' ho' hid hg, hkept.entered _ _ now ho' hi' hid hg⟩
    | unstaffed hgrows hid _ hg =>
      obtain ⟨ho', hi'⟩ := hgrown hgrows
      obtain ⟨hside, hvacant⟩ := hg.free
      rw [perform_of_unopened (Endpoint.unopened_error _) hopened, hgrows.unlock_eq ho.free]
      have horderly := (kept_orderly p).dismissed ho' ho' hid hside hvacant
      have hdismissed := hkept.dismissed ho' hi' hid hside hvacant
      exact ⟨horderly, hdismissed⟩
  | on i deed =>
    rw [Company.perform]
    cases he : c.endpoints[i]? with
    | none => exact ⟨ho, hi⟩
    | some e =>
      exact moves_induction hkept.moved ho hi he (deed.moves p (ho.sound (List.mem_of_getElem? he)))
  | create k name size mode => exact hgrown (Regions.grows_create k name size mode c.regions)
  | unlink name => exact hgrown (Regions.grows_unlink name c.regions)

theorem Orderly.perform (h : c.Orderly) (p : Process) (act : Act) : (c.perform p act).Orderly :=
  ((kept_orderly p).perform h h act).1

/-- What every legal act preserves holds at the end of a run of them. -/
theorem after_induction {J : Company → Prop} {legal : Act → Prop} {acts : List Act}
    (hstep : ∀ {c : Company} {act : Act}, J c → legal act → J (c.perform p act)) (hj : J c)
    (hacts : ∀ act ∈ acts, legal act) : J (c.after p acts) := by
  induction acts generalizing c with
  | nil => exact hj
  | cons act acts ih =>
    obtain ⟨hact, hrest⟩ := List.forall_mem_cons.mp hacts
    exact ih (hstep hj hact) hrest

theorem Kept.after (hkept : Kept p I) (ho : c.Orderly) (hi : I c) (acts : List Act) :
    (c.after p acts).Orderly ∧ I (c.after p acts) :=
  after_induction (J := fun c => c.Orderly ∧ I c) (fun {_ act} h _ => hkept.perform h.1 h.2 act)
    ⟨ho, hi⟩ fun _ _ => trivial

theorem Orderly.after (h : c.Orderly) (p : Process) (acts : List Act) : (c.after p acts).Orderly :=
  ((kept_orderly p).after h h acts).1

theorem orderly_empty : empty.Orderly where
  free id := (Regions.vacant_of_length_le (r := .empty) (Nat.zero_le id)).1
  placed _ he := absurd he List.not_mem_nil

/-- A process that runs alone. -/
def lonely : Process := ⟨7, fun pid => pid == 7⟩

end Company

end PeerLink
