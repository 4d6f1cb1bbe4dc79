import PeerLink.Proofs.Link.Waiting

/-! # Heartbeats and their advance

A counter in a region says how often its side was beaten, modulo the size of the word. A snapshot
compares the counters of its region with those that its endpoint saw in the snapshot before, which
may have been those of another region.

* `Counter`, `Company.beats`: the counters, and the beats of a run.
* `Regions.Advances`: from one state to another, every counter goes up by its beats.
* `Company.advances_after`: so it does in every run.
* `Company.baseline_after`: an endpoint remembers the last snapshot, wherever it goes.

Main statement: `Company.heartbeatDelta_eq_beats_iff`.
-/

namespace PeerLink
set_option autoImplicit false

/-- The heartbeat counter of a side of an object. -/
abbrev Counter := ObjectId × Role

/-! ## Readings -/

namespace RegionStats

/-- The snapshot of a side; an undecided role stands for the master's. -/
def side (s : RegionStats) : Role → RoleStats
  | .slave => s.slave
  | .master | .auto => s.master

/-- The difference of two readings is at most the later one, unless it wraps. -/
theorem advance_le_iff (a b : UInt64) : a - b ≤ a ↔ b ≤ a := by
  simp only [UInt64.le_iff_toNat_le, UInt64.toNat_sub]
  have ha := a.toNat_lt
  have hb := b.toNat_lt
  omega

theorem toNat_advance_eq_iff {a b : UInt64} {before made : Nat}
    (ha : a.toNat = before + made) : (a - b).toNat = made ↔ b.toNat = before := by
  rw [UInt64.toNat_sub]
  have hword := a.toNat_lt
  have hb := b.toNat_lt
  omega

variable {p : Process} {name : String} {l : Layout} (role : Role)

theorem heartbeat_side (previous : Option HeartbeatBaseline) :
    ((capture p name l previous).side role).heartbeat = (l.header.slot role).heartbeat := by
  cases role <;> rfl

theorem heartbeatDelta_side (s : RegionStats) :
    ((capture p name l (some s.baseline)).side role).heartbeatDelta =
      (l.header.slot role).heartbeat - (s.side role).heartbeat := by
  cases role <;> rfl

end RegionStats

/-! ## Advances -/

namespace Regions

variable {r r' r'' : Regions} {id : ObjectId} {side : Role} {beaten beaten' : List Counter}

/-- From `r` to `r'`, every counter goes up as often as it is listed. -/
def Advances (beaten : List Counter) (r r' : Regions) : Prop :=
  ∀ id role, role ≠ .auto → (r'.slot id role).heartbeat =
    (r.slot id role).heartbeat + UInt64.ofNat (beaten.count (id, role))

theorem advances_nil (h : ∀ id role, role ≠ .auto →
    (r'.slot id role).heartbeat = (r.slot id role).heartbeat) : Advances [] r r' := by
  intro id role hrole
  rw [h id role hrole, List.count_nil]
  exact (UInt64.add_zero _).symm

theorem Advances.refl (r : Regions) : Advances [] r r := advances_nil fun _ _ _ => rfl

theorem Advances.trans (h : Advances beaten r r') (h' : Advances beaten' r' r'') :
    Advances (beaten ++ beaten') r r'' := by
  intro id role hrole
  rw [h' id role hrole, h id role hrole, List.count_append, UInt64.ofNat_add, UInt64.add_assoc]

theorem advances_of_slot_eq (h : r'.slot = r.slot) : Advances [] r r' :=
  advances_nil fun id role _ => by rw [h]

theorem advances_beat (hid : id < r.objects.length) (hside : side ≠ .auto) :
    Advances [(id, side)] r (r.mapSlot id side RoleSlot.beat) := by
  intro other role hrole
  rw [slot_mapSlot _ hid hside hrole]
  by_cases hsame : other = id ∧ role = side
  · obtain ⟨rfl, rfl⟩ := hsame
    rw [if_pos ⟨rfl, rfl⟩, List.count_singleton_self]
    rfl
  · have hother : (id, side) ≠ (other, role) := fun h =>
      hsame ⟨(congrArg Prod.fst h).symm, (congrArg Prod.snd h).symm⟩
    rw [if_neg hsame, List.count_singleton, if_neg (by simpa using hother)]
    exact (UInt64.add_zero _).symm

theorem advances_mapSlot {f : RoleSlot → RoleSlot} (hid : id < r.objects.length)
    (hside : side ≠ .auto) (hf : ∀ s, (f s).heartbeat = s.heartbeat) :
    Advances [] r (r.mapSlot id side f) := by
  refine advances_nil fun other role hrole => ?_
  rw [slot_mapSlot f hid hside hrole]
  split
  · rename_i hsame
    rw [hf, hsame.1, hsame.2]
  · rfl

theorem advances_take (pid : UInt32) (hid : id < r.objects.length) (hside : side ≠ .auto) :
    Advances [(id, side)] r (r.take pid id side) := by
  have hid' : id < (r.mapSlot id side (RoleSlot.occupy pid)).objects.length := by
    rwa [(keeps_mapSlot ..).length]
  have hoccupied : Advances [] r (r.mapSlot id side (RoleSlot.occupy pid)) :=
    advances_mapSlot hid hside fun _ => rfl
  exact hoccupied.trans (advances_beat hid' hside)

theorem advances_vacate (pid : UInt32) (hid : id < r.objects.length) (hside : side ≠ .auto) :
    Advances [] r (r.vacate pid id side) :=
  advances_mapSlot hid hside fun _ => RoleSlot.heartbeat_vacateIfOwn ..

/-- New objects have not been beaten. -/
theorem Grows.advances (h : r.Grows r') : Advances [] r r' := by
  refine advances_nil fun id role _ => ?_
  by_cases hid : id < r.objects.length
  · rw [slot, slot, h.layout_eq hid]
  · have hle : r.objects.length ≤ id := Nat.le_of_not_lt hid
    rw [slot, slot, ((h.fresh id hle).2 role).2, ((vacant_of_length_le hle).2 role).2]

end Regions

/-! ## What is beaten -/

/-- Whether an endpoint beats where it is: at every tick, also at the one of a read without a
worker. -/
def Endpoint.beatsIn (e : Endpoint) : Deed → Bool
  | .tick _ | .beat => !e.closed
  | .poll _ _ => e.ensureUsable.isOk && !e.config.background
  | .check _ | .write _ | .writeItems _ | .stats | .close => false

/-- The first beat of an endpoint that has come to another region. -/
def Endpoint.arrival (e e' : Endpoint) : List Counter :=
  if e'.region = e.region then [] else [(e'.region, e.role)]

/-- The counters that go up when something is done with an endpoint. -/
def Deed.beaten (p : Process) (e : Endpoint) (r : Regions) (deed : Deed) : List Counter :=
  (if e.beatsIn deed then [(e.region, e.role)] else []) ++ e.arrival (deed.carryOut p e r).1

namespace Company

/-- The counters that go up in one act. Who has taken a side has beaten once, also if there is no
worker to be had then. -/
def beaten (p : Process) (c : Company) : Act → List Counter
  | .openEndpoint k now config =>
    match (Endpoint.board k p now config c.regions).1 with
    | some (.ok e) => [(e.region, e.role)]
    | _ => []
  | .on i deed =>
    match c.endpoints[i]? with
    | some e => deed.beaten p e c.regions
    | none => []
  | .create _ _ _ _ | .unlink _ => []

/-- The beats of a run, in their order. -/
def beats (p : Process) (c : Company) : List Act → List Counter
  | [] => []
  | act :: acts => c.beaten p act ++ (c.perform p act).beats p acts

end Company

/-! ## Counters go up by their beats -/

namespace Endpoint

variable {α : Type} {p : Process} {e : Endpoint} {r : Regions}

open Regions (Advances)

/-- Who stays where it is arrives nowhere. -/
theorem advances_staying {e' : Endpoint} {r' : Regions} (hregion : e'.region = e.region)
    (h : Advances [] r r') : Advances (e.arrival e') r r' := by
  rw [arrival, if_pos hregion]
  exact h

theorem advances_reconnect (p : Process) (now : Instant) (h : e.Sound r) :
    Advances (e.arrival (e.reconnect p now r).1) r (e.reconnect p now r).2 := by
  have hfailed (m : Monitor) : Advances (e.arrival { e with monitor := m }) r r :=
    advances_staying rfl (.refl r)
  rw [reconnect]
  by_cases hrole : e.role = .slave
  · rw [if_pos hrole]
    rcases tryReattach_cases p h with
      ⟨result, hresult, hnone⟩ | ⟨n, fresh, heartbeat, -, -, hfresh, hother, -, hresult⟩
    · rw [hresult]
      rcases result with err | _ | found
      · exact hfailed _
      · exact hfailed _
      · exact absurd rfl (hnone found)
    · have hslave : Role.slave ≠ .auto := by decide
      have hmapped : e.region < (r.take p.pid fresh .slave).objects.length := by
        rw [(Regions.keeps_take ..).length]
        exact h.mapped
      rw [hresult, arrival, if_neg hother, hrole]
      exact (Regions.advances_take p.pid hfresh hslave).trans
        (Regions.advances_vacate p.pid hmapped hslave)
  · rw [if_neg hrole]
    exact hfailed _

theorem advances_check (p : Process) (now : Instant) (h : e.Sound r) :
    Advances (e.arrival (e.check p now r).1) r (e.check p now r).2 := by
  rw [check]
  dsimp only
  split
  · -- What the endpoint thinks of its peer counts for nothing here.
    exact advances_reconnect p now (e := { e with monitor := _ }) ⟨h.free, h.decided, h.mapped⟩
  · exact advances_staying rfl (.refl r)

theorem advances_tick (p : Process) (now : Instant) (h : e.Sound r) (hopen : e.closed = false) :
    Advances ([(e.region, e.role)] ++ e.arrival (e.tick p now r).1) r (e.tick p now r).2 := by
  have hbeaten : e.Sound (e.beat r) := h.move (p := p) (.beaten hopen)
  rw [tick, if_neg (by simp [hopen])]
  exact (Regions.advances_beat h.mapped h.decided).trans (advances_check p now hbeaten)

theorem advances_onChannel (d : Direction) {act : Channel → α × Channel} (hact : Channel.Tidy act)
    (h : e.Sound r) : Advances [] r (e.onChannel d act r).2 :=
  Regions.advances_of_slot_eq (slot_onChannel d hact h)

theorem advances_write (p : Process) (payload : Bytes) (h : e.Sound r) :
    Advances [] r (e.write p payload r).2 := by
  rw [write]
  cases e.ensureUsable with
  | error err => exact .refl r
  | ok u => exact advances_onChannel _ (Channel.tidy_write p _ payload) h

theorem closed_of_usable (husable : e.ensureUsable = .ok ()) : e.closed = false := by
  rw [← Bool.not_eq_true]
  intro hclosed
  rw [ensureUsable_of_closed hclosed] at husable
  cases husable

theorem advances_poll (p : Process) (now : Instant)
    {attempt : Channel → Except LinkError α × Channel} (hattempt : Channel.Tidy attempt)
    (h : e.Sound r) :
    Advances ((if e.ensureUsable.isOk && !e.config.background then [(e.region, e.role)] else []) ++
      e.arrival (e.poll p now attempt r).2.1) r (e.poll p now attempt r).2.2 := by
  cases husable : e.ensureUsable with
  | error err =>
    rw [poll, husable]
    simp only [Except.isOk, Except.toBool, arrival, Bool.false_and, if_true]
    exact .refl r
  | ok u =>
    rw [poll_of_usable p now attempt husable]
    cases hbackground : e.config.background with
    | true =>
      have hchannel := advances_onChannel e.role.incoming hattempt h
      simpa [Except.isOk, Except.toBool, arrival] using hchannel
    | false =>
      have hopen := closed_of_usable husable
      have htick := advances_tick p now h hopen
      have hticked := h.moves (moves_tick p now h hopen)
      have hchannel := advances_onChannel (e.tick p now r).1.role.incoming hattempt hticked
      simpa [Except.isOk, Except.toBool] using htick.trans hchannel

theorem advances_close (p : Process) (h : e.Sound r) :
    Advances [] r (e.close p r).2.2 := by
  rw [close]
  split
  · exact .refl r
  · dsimp only
    have hvacate := Regions.advances_vacate p.pid h.mapped h.decided
    rcases leave_cases p h with ⟨-, hleave⟩ | ⟨n, -, -, -, -, hleave⟩
    · rw [hleave]
      exact hvacate
    · rw [hleave]
      exact hvacate.trans (Regions.advances_of_slot_eq rfl)

end Endpoint

/-- Only a snapshot changes what the next one is compared with. -/
theorem Deed.baseline_carryOut {deed : Deed} (p : Process) (e : Endpoint) (r : Regions)
    (hdeed : deed ≠ .stats) : (deed.carryOut p e r).1.baseline = e.baseline := by
  by_cases hclose : deed = .close
  · rw [hclose, carryOut, Endpoint.close]
    split <;> rfl
  · exact (drifts_carryOut p e r hclose hdeed).baseline_eq

theorem Endpoint.eq_of_stats {p : Process} {e : Endpoint} {r : Regions} {s : RegionStats}
    (h : (e.stats p r).1 = .ok s) :
    s = RegionStats.capture p e.config.name (r.layout e.region) e.baseline ∧
      (e.stats p r).2 = { e with baseline := some s.baseline } := by
  rw [stats] at h ⊢
  split at h
  · cases h
  · rename_i hopen
    cases h
    exact ⟨rfl, by rw [if_neg hopen]⟩

theorem Endpoint.beatsIn_of_closed {e : Endpoint} (hclosed : e.closed = true) (deed : Deed) :
    e.beatsIn deed = false := by
  cases deed with
  | tick | beat => simp [beatsIn, hclosed]
  | poll now buffer => rw [beatsIn, ensureUsable_of_closed hclosed]; rfl
  | check | write | writeItems | stats | close => rfl

theorem Deed.advances_carryOut {p : Process} {e : Endpoint} {r : Regions} (deed : Deed)
    (h : e.Sound r) : Regions.Advances (deed.beaten p e r) r (deed.carryOut p e r).2 := by
  rw [beaten]
  by_cases hclosed : e.closed = true
  · rw [Endpoint.beatsIn_of_closed hclosed, carryOut_of_closed p deed r hclosed]
    exact Endpoint.advances_staying rfl (.refl r)
  · have hopen : e.closed = false := Bool.not_eq_true _ ▸ hclosed
    cases deed with
    | tick now =>
      rw [Endpoint.beatsIn, hopen]
      exact Endpoint.advances_tick p now h hopen
    | beat =>
      rw [Endpoint.beatsIn, carryOut, hopen]
      have hbeat := Regions.advances_beat h.mapped h.decided
      exact hbeat.trans (Endpoint.advances_staying rfl (.refl _))
    | check now =>
      rw [carryOut, if_neg hclosed]
      exact Endpoint.advances_check p now h
    | poll now buffer =>
      cases buffer with
      | none => exact Endpoint.advances_poll p now (Channel.tidy_tryRead p _) h
      | some buffer => exact Endpoint.advances_poll p now (Channel.tidy_tryReadInto p _ buffer) h
    | write payload => exact Endpoint.advances_staying rfl (Endpoint.advances_write p payload h)
    | writeItems items =>
      refine Endpoint.advances_staying rfl ?_
      rw [carryOut, Endpoint.writeItems]
      cases Message.encode items with
      | error err => exact .refl r
      | ok payload => exact Endpoint.advances_write p payload h
    | stats =>
      rw [carryOut, Endpoint.stats, if_neg hclosed]
      exact Endpoint.advances_staying rfl (.refl r)
    | close =>
      have hregion : (e.close p r).2.1.region = e.region := by
        rw [Endpoint.close, if_neg hclosed]
      exact Endpoint.advances_staying hregion (Endpoint.advances_close p h)

namespace Company

variable {p : Process} {c : Company} {i : Nat} {e : Endpoint}

open Regions (Advances)

theorem advances_perform (p : Process) (ho : c.Orderly) (act : Act) :
    Advances (c.beaten p act) c.regions (c.perform p act).regions := by
  cases act with
  | openEndpoint k now config =>
    -- Objects that are added on the way have not been beaten yet, and all locks are free.
    have hopens := Endpoint.opens k p now config c.regions
    generalize hopened : Endpoint.open k p now config c.regions = out at hopens
    rw [beaten]
    cases hopens with
    | @unopened _ _ result hgrows hnone hleft hboard =>
      rw [perform_of_unopened hnone hopened, hboard, hgrows.eq_of_left ho.free hleft]
      rcases result with _ | err | e
      · exact hgrows.advances
      · exact hgrows.advances
      · exact absurd rfl (hnone e)
    | opened hgrows hid _ hg hfresh hboard =>
      rw [perform_of_opened hopened, hboard, hgrows.unlock_eq ho.free, hfresh]
      exact hgrows.advances.trans (Regions.advances_take p.pid hid hg.free.1)
    | @unstaffed mid id side _ _ hgrows hid _ hg hfresh hboard =>
      have hid' : id < (mid.take p.pid id side).objects.length := by
        rwa [(Regions.keeps_take ..).length]
      rw [perform_of_unopened (Endpoint.unopened_error _) hopened, hboard, hgrows.unlock_eq ho.free, hfresh]
      exact (hgrows.advances.trans (Regions.advances_take p.pid hid hg.free.1)).trans
        (Regions.advances_vacate p.pid hid' hg.free.1)
  | on i deed =>
    rw [beaten, perform]
    cases he : c.endpoints[i]? with
    | none => exact .refl c.regions
    | some e => exact deed.advances_carryOut (ho.sound (List.mem_of_getElem? he))
  | create k name size mode => exact (Regions.grows_create k name size mode c.regions).advances
  | unlink name => exact (Regions.grows_unlink name c.regions).advances

/-- In a run, every counter goes up as often as it was beaten. -/
theorem advances_after (p : Process) (ho : c.Orderly) (acts : List Act) :
    Advances (c.beats p acts) c.regions (c.after p acts).regions := by
  induction acts generalizing c with
  | nil => exact .refl c.regions
  | cons act acts ih => exact (advances_perform p ho act).trans (ih (ho.perform p act))

theorem beats_append (p : Process) (c : Company) (acts acts' : List Act) :
    c.beats p (acts ++ acts') = c.beats p acts ++ (c.after p acts).beats p acts' := by
  induction acts generalizing c with
  | nil => rfl
  | cons act acts ih =>
    rw [List.cons_append, beats, ih, beats, List.append_assoc]
    rfl

/-- Every counter of a run reads the number of its beats, as long as there are not too many. -/
theorem heartbeat_eq_count (p : Process) (acts : List Act) (id : ObjectId) {role : Role}
    (hrole : role ≠ .auto) (hfew : (empty.beats p acts).length < UInt64.size) :
    ((empty.after p acts).regions.slot id role).heartbeat.toNat =
      (empty.beats p acts).count (id, role) := by
  have hzero : (empty.regions.slot id role).heartbeat = 0 :=
    ((Regions.vacant_of_length_le (r := .empty) (Nat.zero_le id)).2 role).2
  have hcount : (empty.beats p acts).count (id, role) < UInt64.size :=
    Nat.lt_of_le_of_lt List.count_le_length hfew
  rw [advances_after p orderly_empty acts id role hrole, hzero, UInt64.zero_add]
  exact UInt64.toNat_ofNat_of_lt' hcount

/-! ## Snapshots -/

/-- Until its next snapshot an endpoint remembers the last one, wherever it goes. -/
theorem baseline_after (p : Process) (he : c.endpoints[i]? = some e) {acts : List Act}
    (hacts : ∀ act ∈ acts, act ≠ .on i .stats) :
    ∃ e', (c.after p acts).endpoints[i]? = some e' ∧ e'.baseline = e.baseline := by
  refine after_induction (J := fun c => ∃ e', c.endpoints[i]? = some e' ∧ e'.baseline = e.baseline)
    (fun {c act} ⟨e', he', hbaseline⟩ hact => ?_) ⟨e, he, rfl⟩ hacts
  rcases endpoint_perform p he' act with ⟨deed, rfl, hafter⟩ | ⟨-, hafter⟩
  · refine ⟨_, hafter, .trans ?_ hbaseline⟩
    exact deed.baseline_carryOut p e' c.regions fun hstats => hact (by rw [hstats])
  · exact ⟨e', hafter, hbaseline⟩

/-- Two snapshots that follow each other on one endpoint, in a run with fewer beats than a word can
count. Both read the beats on the counters of the region that the endpoint has then, and the second
one's advance is the difference of the two readings. It is the number of beats made in between if
and only if both regions' counters had the same number of beats when the first snapshot was taken,
so it is if the endpoint has stayed where it was; and it exceeds the reading itself, because it
wraps, if and only if the endpoint came to a region whose counter is behind that of the old one. -/
theorem heartbeatDelta_eq_beats_iff (p : Process) (acts between : List Act) {i : Nat}
    {e e' : Endpoint} {first second : RegionStats}
    (he : (empty.after p acts).endpoints[i]? = some e)
    (hfirst : (e.stats p (empty.after p acts).regions).1 = .ok first)
    (hbetween : ∀ act ∈ between, act ≠ .on i .stats)
    (he' : (empty.after p (acts ++ .on i .stats :: between)).endpoints[i]? = some e')
    (hsecond : (e'.stats p (empty.after p (acts ++ .on i .stats :: between)).regions).1 =
      .ok second)
    (hfew : (empty.beats p (acts ++ .on i .stats :: between)).length < UInt64.size)
    {role : Role} (hrole : role ≠ .auto) :
    let before := fun id => (empty.beats p acts).count (id, role)
    let made := ((empty.after p acts).beats p (.on i .stats :: between)).count (e'.region, role)
    (first.side role).heartbeat.toNat = before e.region ∧
      (second.side role).heartbeat.toNat = before e'.region + made ∧
      (second.side role).heartbeatDelta =
        (second.side role).heartbeat - (first.side role).heartbeat ∧
      ((second.side role).heartbeatDelta.toNat = made ↔ before e.region = before e'.region) ∧
      ((second.side role).heartbeatDelta ≤ (second.side role).heartbeat ↔
        before e.region ≤ before e'.region + made) ∧
      (e'.region = e.region → (second.side role).heartbeatDelta.toNat = made ∧
        (second.side role).heartbeatDelta ≤ (second.side role).heartbeat) := by
  intro before made
  have hsplit : empty.after p (acts ++ .on i .stats :: between) =
      ((empty.after p acts).perform p (.on i .stats)).after p between := after_append ..
  have hearlier : (empty.beats p acts).length < UInt64.size := by
    rw [beats_append, List.length_append] at hfew
    exact Nat.lt_of_le_of_lt (Nat.le_add_right ..) hfew
  obtain ⟨hfirst, hremembers⟩ := Endpoint.eq_of_stats hfirst
  -- The second snapshot is compared with the first one.
  have hbaseline : e'.baseline = some first.baseline := by
    have hsnapped : ((empty.after p acts).perform p (.on i .stats)).endpoints[i]? =
        some { e with baseline := some first.baseline } := by
      rw [perform_on he, getElem?_put he, ← hremembers]
      rfl
    obtain ⟨e'', he'', hkept⟩ := baseline_after p hsnapped hbetween
    rw [hsplit, he''] at he'
    cases he'
    exact hkept
  obtain ⟨hsecond, -⟩ := Endpoint.eq_of_stats hsecond
  rw [hbaseline] at hsecond
  have hdelta : (second.side role).heartbeatDelta =
      (second.side role).heartbeat - (first.side role).heartbeat := by
    rw [hsecond, RegionStats.heartbeatDelta_side, RegionStats.heartbeat_side]
  -- No counter has wrapped, so that both readings are numbers of beats.
  have hread : (first.side role).heartbeat.toNat = before e.region := by
    rw [hfirst, RegionStats.heartbeat_side]
    exact heartbeat_eq_count p acts e.region hrole hearlier
  have hreadAgain : (second.side role).heartbeat.toNat = before e'.region + made := by
    have hcount := heartbeat_eq_count p _ e'.region hrole hfew
    rw [beats_append, List.count_append] at hcount
    rw [hsecond, RegionStats.heartbeat_side]
    exact hcount
  have htrue : (second.side role).heartbeatDelta.toNat = made ↔
      before e.region = before e'.region := by
    rw [hdelta, ← hread]
    exact RegionStats.toNat_advance_eq_iff hreadAgain
  have hbounded : (second.side role).heartbeatDelta ≤ (second.side role).heartbeat ↔
      before e.region ≤ before e'.region + made := by
    rw [hdelta, RegionStats.advance_le_iff, UInt64.le_iff_toNat_le, hread, hreadAgain]
  refine ⟨hread, hreadAgain, hdelta, htrue, hbounded, fun hstayed => ?_⟩
  rw [hstayed] at htrue hbounded
  exact ⟨htrue.mpr rfl, hbounded.mpr (Nat.le_add_right ..)⟩

/-! ## A slave that stays and one that moves -/

/-- What a snapshot on an endpoint reads: the region and the counters of a side. -/
def reading (p : Process) (i : Nat) (role : Role) (c : Company) :
    Option (ObjectId × UInt64 × UInt64) :=
  match c.endpoints[i]? with
  | some e => match (e.stats p c.regions).1 with
    | .ok s => some (e.region, (s.side role).heartbeat, (s.side role).heartbeatDelta)
    | .error _ => none
  | none => none

theorem eq_of_reading {role : Role} {id : ObjectId} {heartbeat delta : UInt64}
    (h : c.reading p i role = some (id, heartbeat, delta)) :
    ∃ e s, c.endpoints[i]? = some e ∧ (e.stats p c.regions).1 = .ok s ∧ e.region = id ∧
      (s.side role).heartbeat = heartbeat ∧ (s.side role).heartbeatDelta = delta := by
  rw [reading] at h
  split at h
  · rename_i e he
    split at h
    · rename_i s hs
      cases h
      exact ⟨e, s, he, hs, rfl, rfl, rfl⟩
    · cases h
  · cases h

/-- A master and its slave, and some beats. -/
def upkeep : List Act :=
  [.openEndpoint .able 0 { name := "a", role := .master },
    .openEndpoint .able 0 { name := "a", role := .slave }, .on 0 .beat, .on 0 .beat]

/-- The master beats on. -/
def calm : List Act := [.on 0 .beat, .on 1 (.tick 5), .on 0 (.tick 6)]

theorem heartbeatDelta_eq_beats_iff_calm :
    ∃ e e' first second, (empty.after lonely upkeep).endpoints[1]? = some e ∧
      (e.stats lonely (empty.after lonely upkeep).regions).1 = .ok first ∧
      (∀ act ∈ calm, act ≠ .on 1 .stats) ∧
      (empty.after lonely (upkeep ++ .on 1 .stats :: calm)).endpoints[1]? = some e' ∧
      (e'.stats lonely (empty.after lonely (upkeep ++ .on 1 .stats :: calm)).regions).1 =
        .ok second ∧
      (empty.beats lonely (upkeep ++ .on 1 .stats :: calm)).length < UInt64.size ∧
      Role.master ≠ .auto ∧ second.master.heartbeatDelta.toNat = 2 := by
  have hbefore : (empty.after lonely upkeep).reading lonely 1 .master = some (0, 3, 0) := by
    decide +kernel
  have hafter : (empty.after lonely (upkeep ++ .on 1 .stats :: calm)).reading lonely 1 .master =
      some (0, 5, 2) := by
    decide +kernel
  have hfew : (empty.beats lonely (upkeep ++ .on 1 .stats :: calm)).length < UInt64.size := by
    decide +kernel
  have hcalm : ∀ act ∈ calm, act ≠ .on 1 .stats := by simp [calm]
  have hmaster : Role.master ≠ .auto := by decide
  obtain ⟨e, first, he, hfirst, hregion, -, -⟩ := eq_of_reading hbefore
  obtain ⟨e', second, he', hsecond, hregion', -, -⟩ := eq_of_reading hafter
  obtain ⟨-, -, -, -, -, hstayed⟩ :=
    heartbeatDelta_eq_beats_iff lonely upkeep calm he hfirst hcalm he' hsecond hfew hmaster
  obtain ⟨htrue, -⟩ := hstayed (hregion'.trans hregion.symm)
  have hmade : ((empty.after lonely upkeep).beats lonely (.on 1 .stats :: calm)).count
      (0, .master) = 2 := by
    decide +kernel
  rw [hregion', hmade] at htrue
  exact ⟨e, e', first, second, he, hfirst, hcalm, he', hsecond, hfew, hmaster, htrue⟩

/-- A master that has beaten twice is followed by one that has beaten once. -/
def restart : List Act :=
  [.openEndpoint .able 0 { name := "a", role := .master },
    .openEndpoint .able 0 { name := "a", role := .slave }, .on 0 .beat, .on 0 .close, .unlink "a",
    .openEndpoint .able 0 { name := "a", role := .master }]

/-- The slave goes over to the new one. -/
def follow : List Act := [.on 1 (.tick 200000000), .on 1 (.tick 201000000)]

/-- The first snapshot after a move may report more beats than there ever were: here the new master
has not beaten at all since the snapshot before. -/
theorem heartbeatDelta_wraps_after_move :
    (empty.after lonely restart).reading lonely 1 .master = some (0, 2, 0) ∧
      (empty.after lonely (restart ++ .on 1 .stats :: follow)).reading lonely 1 .master =
        some (1, 1, 18446744073709551615) ∧
      ((empty.after lonely restart).beats lonely (.on 1 .stats :: follow)).count
        (1, .master) = 0 := by
  decide +kernel

end Company

end PeerLink
