import Mathlib.Data.List.Nodup
import PeerLink.Proofs.Link.Refusals

/-! # Hosts as companies

A host on which one process opens all endpoints is a company with a clock. Each member of the host
has a number in the company, and whatever the host does is a list of acts.

* `Seat`, `Host.company`: the endpoints of a host under their numbers.
* `Host.Seated`: every member has exactly one number.
* `Host.Leads`: from one host to another by acts that close nothing.
* `Host.leads_sleep`: what workers do while time passes.
* `Host.waits_read`: a read on a host is one that waits in company.
-/

namespace PeerLink
set_option autoImplicit false

/-! ## Members -/

namespace Host

variable {host : Host} {id other : String} {m m' : Member}

theorem member?_setMember (id : String) (m : Member) (host : Host) (other : String) :
    (host.setMember id m).member? other =
      (host.member? other).map fun old => if other = id then m else old := by
  have hfind : (host.setMember id m).members.find? (·.1 == other) =
      (host.members.find? (·.1 == other)).map
        fun entry => (entry.1, if entry.1 == id then m else entry.2) := List.find?_map
  rw [member?, member?, hfind]
  cases hentry : host.members.find? (·.1 == other) with
  | none => rfl
  | some entry =>
    have hname : entry.1 = other := by simpa using List.find?_some hentry
    simp [hname]

theorem member?_setMember_self (m' : Member) (hm : host.member? id = some m) :
    (host.setMember id m').member? id = some m' := by
  rw [member?_setMember, hm, Option.map_some, if_pos rfl]

theorem member?_setMember_of_ne (m' : Member) (hother : other ≠ id) :
    (host.setMember id m').member? other = host.member? other := by
  rw [member?_setMember]
  cases host.member? other with
  | none => rfl
  | some m => rw [Option.map_some, if_neg hother]

theorem names_setMember (id : String) (m : Member) (host : Host) :
    (host.setMember id m).members.map (·.1) = host.members.map (·.1) := by
  rw [setMember, List.map_map]
  rfl

theorem mem_of_member? (hm : host.member? id = some m) : (id, m) ∈ host.members := by
  obtain ⟨entry, hentry, rfl⟩ := Option.map_eq_some_iff.mp hm
  have hname : entry.1 = id := by simpa using List.find?_some hentry
  rw [← hname]
  exact List.mem_of_find?_eq_some hentry

theorem member?_isSome : (host.member? id).isSome = true ↔ id ∈ host.members.map (·.1) := by
  rw [member?, Option.isSome_map, List.find?_isSome, List.mem_map]
  simp

theorem member?_of_mem (hnames : (host.members.map (·.1)).Nodup) (hm : (id, m) ∈ host.members) :
    host.member? id = some m := by
  obtain ⟨m', hm'⟩ : ∃ m', host.member? id = some m' :=
    Option.isSome_iff_exists.mp (member?_isSome.mpr (List.mem_map_of_mem hm))
  have hsame := List.inj_on_of_nodup_map hnames hm (mem_of_member? hm') rfl
  rw [hm', (Prod.mk.inj hsame).2]

theorem setMember_self (hnames : (host.members.map (·.1)).Nodup) (hm : host.member? id = some m) :
    host.setMember id m = host := by
  have hsame (entry : String × Member) (hentry : entry ∈ host.members) :
      (entry.1, if entry.1 == id then m else entry.2) = entry := by
    by_cases hname : entry.1 = id
    · have heq := List.inj_on_of_nodup_map hnames hentry (mem_of_member? hm) hname
      simp [heq]
    · simp [hname]
  have hmembers := (List.map_congr_left hsame).trans (List.map_id' host.members)
  exact congrArg (fun members => { host with members }) hmembers

theorem mem_setMember {entry : String × Member} (hentry : entry ∈ (host.setMember id m).members) :
    entry.2 = m ∨ entry ∈ host.members := by
  obtain ⟨old, hold, rfl⟩ := List.mem_map.mp hentry
  by_cases hname : old.1 = id
  · exact .inl (by simp [hname])
  · exact .inr (by simpa [hname] using hold)

end Host

/-! ## Seats -/

/-- A number in a company: the name of the member that has it, if one has, and the endpoint as it
was when nobody had the number. -/
structure Seat where
  member : Option String
  left : Endpoint

/-- The endpoint of a number. -/
def Seat.endpoint (host : Host) (s : Seat) : Endpoint :=
  ((s.member.bind host.member?).map (·.endpoint)).getD s.left

/-- The number of a member that is forgotten. -/
def Seat.leave (id : String) (e : Endpoint) (s : Seat) : Seat :=
  if s.member = some id then ⟨none, e⟩ else s

namespace Host

/-- The endpoints of a host under their numbers. -/
def company (seats : List Seat) (host : Host) : Company :=
  ⟨host.regions, seats.map (·.endpoint host)⟩

/-- The number is this member's. -/
def Sits (seats : List Seat) (i : Nat) (id : String) : Prop := seats[i]?.bind Seat.member = some id

/-- All members belong to one process, each of them has one number, and a worker works for an
endpoint that is open and wants one. -/
structure Seated (p : Process) (seats : List Seat) (host : Host) : Prop where
  process : ∀ entry ∈ host.members, entry.2.process = p
  names : (host.members.map (·.1)).Nodup
  numbered : seats.filterMap Seat.member = host.members.map (·.1)
  working : ∀ entry ∈ host.members, entry.2.worker.isSome = true →
    entry.2.endpoint.closed = false ∧ entry.2.endpoint.config.background = true
  orderly : (host.company seats).Orderly

variable {p : Process} {seats : List Seat} {host host' host'' : Host} {id other : String}
  {m : Member} {i j : Nat}

theorem Seated.sits (h : host.Seated p seats) (hm : host.member? id = some m) :
    ∃ i, Sits seats i id := by
  have hname : id ∈ seats.filterMap Seat.member := by
    rw [h.numbered]
    exact List.mem_map_of_mem (mem_of_member? hm)
  obtain ⟨s, hs, hmember⟩ := List.mem_filterMap.mp hname
  obtain ⟨i, hi⟩ := List.mem_iff_getElem?.mp hs
  exact ⟨i, by rw [Sits, hi]; exact hmember⟩

theorem Seated.member_of_mem (h : host.Seated p seats) {s : Seat} (hs : s ∈ seats)
    (hmember : s.member = some id) : ∃ m, host.member? id = some m := by
  have hname : id ∈ seats.filterMap Seat.member := List.mem_filterMap.mpr ⟨s, hs, hmember⟩
  rw [h.numbered] at hname
  exact Option.isSome_iff_exists.mp (member?_isSome.mpr hname)

theorem Seated.member_of_sits (h : host.Seated p seats) (hi : Sits seats i id) :
    ∃ m, host.member? id = some m := by
  obtain ⟨s, hs, hmember⟩ := Option.bind_eq_some_iff.mp hi
  exact h.member_of_mem (List.mem_of_getElem? hs) hmember

/-- Nobody has two numbers. -/
theorem Seated.sits_unique (h : host.Seated p seats) (hi : Sits seats i id) (hj : Sits seats j id) :
    i = j := by
  have hnames : (seats.filterMap Seat.member).Nodup := by
    rw [h.numbered]
    exact h.names
  have hapart := List.pairwise_iff_getElem.mp (List.pairwise_filterMap.mp hnames)
  obtain ⟨s, hs, hsid⟩ := Option.bind_eq_some_iff.mp hi
  obtain ⟨t, ht, htid⟩ := Option.bind_eq_some_iff.mp hj
  obtain ⟨hilt, rfl⟩ := List.getElem?_eq_some_iff.mp hs
  obtain ⟨hjlt, rfl⟩ := List.getElem?_eq_some_iff.mp ht
  rcases Nat.lt_trichotomy i j with hlt | heq | hgt
  · exact absurd rfl (hapart i j hilt hjlt hlt id hsid id htid)
  · exact heq
  · exact absurd rfl (hapart j i hjlt hilt hgt id htid id hsid)

theorem endpoint_of_sits (hi : Sits seats i id) (hm : host.member? id = some m) :
    (host.company seats).endpoints[i]? = some m.endpoint := by
  obtain ⟨s, hs, hmember⟩ := Option.bind_eq_some_iff.mp hi
  rw [company, List.getElem?_map, hs]
  simp [Seat.endpoint, hmember, hm]

/-- What becomes of a member and of the regions is put back under its number. -/
theorem Seated.company_setMember (h : host.Seated p seats) (hi : Sits seats i id) (now : Instant)
    (r : Regions) (m' : Member) :
    (({ host with now, regions := r } : Host).setMember id m').company seats =
      (host.company seats).put i (m'.endpoint, r) := by
  obtain ⟨m, hm⟩ := h.member_of_sits hi
  have hself : (({ host with now, regions := r } : Host).setMember id m').member? id = some m' :=
    member?_setMember_self m' hm
  have hother {other : String} (hne : other ≠ id) :
      (({ host with now, regions := r } : Host).setMember id m').member? other =
        host.member? other := member?_setMember_of_ne m' hne
  refine congrArg (Company.mk r) (List.ext_getElem? fun j => ?_)
  rw [List.getElem?_map, List.getElem?_set, company, List.length_map, List.getElem?_map]
  obtain ⟨s, hs, hsid⟩ := Option.bind_eq_some_iff.mp hi
  have hlt := (List.getElem?_eq_some_iff.mp hs).1
  by_cases hij : i = j
  · subst hij
    rw [if_pos rfl, if_pos hlt, hs]
    simp [Seat.endpoint, hsid, hself]
  · rw [if_neg hij]
    cases ht : seats[j]? with
    | none => rfl
    | some t =>
      cases htid : t.member with
      | none => simp [Seat.endpoint, htid]
      | some other =>
        have hne : other ≠ id := by
          rintro rfl
          exact hij (h.sits_unique hi (by rw [Sits, ht]; exact htid))
        simp [Seat.endpoint, htid, hother hne]

/-- What is done with a member's endpoint is done with the endpoint of its number. -/
theorem Seated.on (h : host.Seated p seats) (hi : Sits seats i id) (hm : host.member? id = some m)
    (deed : Deed) (now : Instant) {w : Option Worker}
    (hw : w.isSome = true → (deed.carryOut p m.endpoint host.regions).1.closed = false ∧
      (deed.carryOut p m.endpoint host.regions).1.config.background = true) :
    let out := deed.carryOut p m.endpoint host.regions
    let host' := ({ host with now, regions := out.2 } : Host).setMember id ⟨p, out.1, w⟩
    host'.Seated p seats ∧ host'.company seats = (host.company seats).perform p (.on i deed) := by
  intro out host'
  have hcompany : host'.company seats = (host.company seats).perform p (.on i deed) := by
    rw [Company.perform, endpoint_of_sits hi hm]
    exact h.company_setMember hi now out.2 ⟨p, out.1, w⟩
  have hnames : host'.members.map (·.1) = host.members.map (·.1) := names_setMember ..
  refine ⟨⟨fun entry hentry => ?_, hnames ▸ h.names, hnames ▸ h.numbered,
    fun entry hentry hworker => ?_, hcompany ▸ h.orderly.perform p _⟩, hcompany⟩
  · rcases mem_setMember hentry with hnew | hold
    · rw [hnew]
    · exact h.process entry hold
  · rcases mem_setMember hentry with hnew | hold
    · rw [hnew] at hworker ⊢
      exact hw hworker
    · exact h.working entry hold hworker

/-- Only closing ends the work of a worker. -/
theorem Seated.on_of_ne_close (h : host.Seated p seats) (hi : Sits seats i id)
    (hm : host.member? id = some m) (deed : Deed) (hdeed : deed ≠ .close) (now : Instant)
    {w : Option Worker} (hw : w.isSome = true → m.worker.isSome = true) :
    let out := deed.carryOut p m.endpoint host.regions
    let host' := ({ host with now, regions := out.2 } : Host).setMember id ⟨p, out.1, w⟩
    host'.Seated p seats ∧ host'.company seats = (host.company seats).perform p (.on i deed) := by
  refine h.on hi hm deed now fun hsome => ?_
  obtain ⟨hopen, hbackground⟩ := h.working (id, m) (mem_of_member? hm) (hw hsome)
  have hmem := List.mem_of_getElem? (endpoint_of_sits hi hm)
  have hevolves := (deed.moves p (h.orderly.sound hmem)).evolves
  exact ⟨(Deed.closed_carryOut p m.endpoint host.regions hdeed).trans hopen,
    hevolves.1 ▸ hbackground⟩

/-! ## Time -/

/-- Acts that close nothing lead from one host to the other. -/
def Leads (p : Process) (seats : List Seat) (host host' : Host) : Prop :=
  host'.Seated p seats ∧ ∃ acts, (∀ i, Company.Spares i acts) ∧
    host'.company seats = (host.company seats).after p acts

theorem Seated.leads (h : host.Seated p seats) : Leads p seats host host :=
  ⟨h, [], fun _ => Company.spares_nil, rfl⟩

theorem Leads.trans (h : Leads p seats host host') (h' : Leads p seats host' host'') :
    Leads p seats host host'' := by
  obtain ⟨-, acts, hspares, hcompany⟩ := h
  obtain ⟨hseated, acts', hspares', hcompany'⟩ := h'
  refine ⟨hseated, acts ++ acts', fun i => (hspares i).append (hspares' i), ?_⟩
  rw [hcompany', hcompany, Company.after_append]

/-- What the clock says does not matter. -/
theorem Leads.at (h : Leads p seats host host') (now : Instant) :
    Leads p seats host { host' with now } :=
  ⟨⟨h.1.process, h.1.names, h.1.numbered, h.1.working, h.1.orderly⟩, h.2⟩

theorem Seated.leads_on (h : host.Seated p seats) (hm : host.member? id = some m) (deed : Deed)
    (hdeed : deed ≠ .close) (now : Instant) {w : Option Worker}
    (hw : w.isSome = true → m.worker.isSome = true) :
    let out := deed.carryOut p m.endpoint host.regions
    Leads p seats host (({ host with now, regions := out.2 } : Host).setMember id ⟨p, out.1, w⟩) := by
  obtain ⟨i, hi⟩ := h.sits hm
  obtain ⟨hseated, hcompany⟩ := h.on_of_ne_close hi hm deed hdeed now hw
  refine ⟨hseated, [.on i deed], fun j act hact => ?_, hcompany⟩
  rw [List.mem_singleton.mp hact]
  rintro ⟨rfl, rfl⟩
  exact hdeed rfl

/-- What leaves the endpoint as it is. -/
theorem Seated.leads_regions (h : host.Seated p seats) (hm : host.member? id = some m) (deed : Deed)
    (hdeed : deed ≠ .close) {r : Regions}
    (hsame : deed.carryOut p m.endpoint host.regions = (m.endpoint, r)) :
    Leads p seats host { host with regions := r } := by
  have hleads := h.leads_on hm deed hdeed host.now (w := m.worker) fun hworks => hworks
  obtain rfl : m.process = p := h.process (id, m) (mem_of_member? hm)
  rw [hsame] at hleads
  have hself : ({ host with regions := r } : Host).setMember id m = { host with regions := r } :=
    setMember_self h.names hm
  rw [← hself]
  exact hleads

theorem Seated.leads_workerRound (h : host.Seated p seats) (hm : host.member? id = some m)
    {w : Worker} (hw : m.worker = some w) : Leads p seats host (host.workerRound id m w) := by
  have hworks : m.worker.isSome = true := by rw [hw]; rfl
  have hopen : m.endpoint.closed = false := (h.working (id, m) (mem_of_member? hm) hworks).1
  have hbeat : Deed.beat.carryOut p m.endpoint host.regions =
      (m.endpoint, m.endpoint.beat host.regions) := if_neg (by simp [hopen])
  obtain rfl : m.process = p := h.process (id, m) (mem_of_member? hm)
  rw [workerRound]
  dsimp only
  split
  · -- the worker breaks off after its beat
    have hbroken := h.leads_on hm .beat nofun (max host.now w.wake) (w := none) nofun
    simp only [hbeat] at hbroken
    exact hbroken
  by_cases hdue : w.nextCheck ≤ w.wake
  · have hbeaten := h.leads_regions hm .beat nofun hbeat
    have hcheck : (Deed.check w.wake).carryOut m.process m.endpoint
        (m.endpoint.beat host.regions) =
          m.endpoint.check m.process w.wake (m.endpoint.beat host.regions) :=
      if_neg (by simp [hopen])
    have hchecked {w' : Worker} := hbeaten.1.leads_on hm (.check w.wake) nofun
      (max host.now w.wake) (w := some w') fun _ => hworks
    simp only [hcheck] at hchecked
    simp only [hdue, if_true]
    exact hbeaten.trans hchecked
  · have hbeaten {w' : Worker} := h.leads_on hm .beat nofun (max host.now w.wake)
      (w := some w') fun _ => hworks
    simp only [hbeat] at hbeaten
    simp only [hdue, if_false]
    exact hbeaten

theorem of_firstAwake {w : Worker} (h : host.firstAwake = some (id, m, w)) :
    (id, m) ∈ host.members ∧ m.worker = some w := by
  have hknown : ∀ b, host.firstAwake = some b →
      (b.1, b.2.1) ∈ host.members ∧ b.2.1.worker = some b.2.2 := by
    refine List.foldlRecOn host.members _ (motive := fun best =>
      ∀ b : String × Member × Worker, best = some b →
        (b.1, b.2.1) ∈ host.members ∧ b.2.1.worker = some b.2.2) ?_ fun best ih entry hentry => ?_
    · intro b hb
      cases hb
    · obtain ⟨id', m'⟩ := entry
      dsimp only
      split
      · exact ih
      · rename_i hw
        rintro b ⟨rfl⟩
        exact ⟨hentry, hw⟩
      · rename_i hw
        split
        · rintro b ⟨rfl⟩
          exact ⟨hentry, hw⟩
        · exact ih
  exact hknown _ h

theorem Seated.leads_workUntil (h : host.Seated p seats) (target : Instant) (rounds : Nat) :
    Leads p seats host (host.workUntil target rounds) := by
  induction rounds generalizing host with
  | zero => exact h.leads
  | succ rounds ih =>
    rw [workUntil]
    split
    · rename_i id m w hfirst
      obtain ⟨hmem, hw⟩ := of_firstAwake hfirst
      split
      · have hround := h.leads_workerRound (member?_of_mem h.names hmem) hw
        exact hround.trans (ih hround.1)
      · exact h.leads
    · exact h.leads

/-- What workers do while time passes. -/
theorem Seated.leads_sleep (h : host.Seated p seats) (d : Duration) :
    Leads p seats host (host.sleep d) :=
  (h.leads_workUntil ..).at _

theorem Seated.leads_readClock (h : host.Seated p seats) : Leads p seats host host.readClock.2 :=
  h.leads_sleep _

/-- A member without a worker stays as it is while time passes. -/
theorem Seated.member?_workUntil (h : host.Seated p seats) (hm : host.member? id = some m)
    (hidle : m.worker = none) (target : Instant) (rounds : Nat) :
    (host.workUntil target rounds).member? id = some m := by
  induction rounds generalizing host with
  | zero => exact hm
  | succ rounds ih =>
    rw [workUntil]
    split
    · rename_i other m' w hfirst
      obtain ⟨hmem, hw⟩ := of_firstAwake hfirst
      have hm' := member?_of_mem h.names hmem
      split
      · refine ih (h.leads_workerRound hm' hw).1 ?_
        have hother : id ≠ other := by
          rintro rfl
          rw [hm] at hm'
          cases hm'
          rw [hidle] at hw
          cases hw
        rw [workerRound]
        dsimp only
        split
        · exact (member?_setMember_of_ne _ hother).trans hm
        · exact (member?_setMember_of_ne _ hother).trans hm
      · exact hm
    · exact hm

/-! ## Commands that close nothing -/

theorem Seated.leads_tick (h : host.Seated p seats) (id : String) :
    Leads p seats host (host.tick id) := by
  have hclock := h.leads_readClock
  rw [tick]
  dsimp only
  cases hm : host.readClock.2.member? id with
  | none => exact hclock
  | some m =>
    have hticked := hclock.1.leads_on hm (.tick host.readClock.1) nofun host.readClock.2.now
      (w := m.worker) fun hworks => hworks
    obtain rfl : m.process = p := hclock.1.process (id, m) (mem_of_member? hm)
    exact hclock.trans hticked

theorem Seated.leads_ticks (h : host.Seated p seats) (id : String) (times : Nat) :
    Leads p seats host (host.ticks id times) := by
  induction times generalizing host with
  | zero => exact h.leads
  | succ times ih =>
    have htick := h.leads_tick id
    exact htick.trans (ih htick.1)

theorem Seated.leads_write (h : host.Seated p seats) (hm : host.member? id = some m)
    (payload : Bytes) : Leads p seats host (host.write payload m).2 := by
  obtain rfl : m.process = p := h.process (id, m) (mem_of_member? hm)
  exact h.leads_regions hm (.write payload) nofun rfl

theorem Seated.leads_writeItems (h : host.Seated p seats) (hm : host.member? id = some m)
    (items : List Item) : Leads p seats host (host.writeItems items m).2 := by
  obtain rfl : m.process = p := h.process (id, m) (mem_of_member? hm)
  exact h.leads_regions hm (.writeItems items) nofun rfl

theorem Seated.leads_stats (h : host.Seated p seats) (hm : host.member? id = some m) :
    Leads p seats host
      (host.setMember id { m with endpoint := (m.endpoint.stats m.process host.regions).2 }) := by
  obtain rfl : m.process = p := h.process (id, m) (mem_of_member? hm)
  exact h.leads_on hm .stats nofun host.now (w := m.worker) fun hworks => hworks

/-! ## Reads -/

variable {α : Type} {attempt : EndpointConfig → Channel → Except LinkError α × Channel}
  {buffer : Option Bytes} {config : EndpointConfig}

theorem carryOut_poll (hread : Channel.IsRead p attempt buffer) (now : Instant) (e : Endpoint)
    (r : Regions) :
    (Deed.poll now buffer).carryOut p e r = (e.poll p now (attempt e.config) r).2 := by
  cases hread <;> rfl

/-- The clock is read for a member that has no worker, and that member does not change meanwhile. -/
theorem Seated.leads_clock (h : host.Seated p seats) (hm : host.member? id = some m) :
    let clock := if m.endpoint.config.background then (host.now, host) else host.readClock
    Leads p seats host clock.2 ∧ clock.2.member? id = some m := by
  by_cases hbackground : m.endpoint.config.background = true
  · simp only [hbackground, if_true]
    exact ⟨h.leads, hm⟩
  · simp only [hbackground]
    refine ⟨h.leads_readClock, h.member?_workUntil hm ?_ _ _⟩
    cases hw : m.worker with
    | none => rfl
    | some w => exact absurd (h.working (id, m) (mem_of_member? hm) (by rw [hw]; rfl)).2 hbackground

/-- A poll of a member's mailbox is one of the endpoint of its number, after what others do while
the clock is read. -/
theorem Seated.poll (h : host.Seated p seats) (hi : Sits seats i id)
    (hread : Channel.IsRead p attempt buffer)
    (hconfig : ∀ m, host.member? id = some m → m.endpoint.config = config) :
    (host.poll id (attempt config)).2.Seated p seats ∧
    ∃ acts now, (∀ j, Company.Spares j acts) ∧
      (host.poll id (attempt config)).2.company seats =
        (host.company seats).after p (acts ++ [.on i (.poll now buffer)]) ∧
      ∀ e, ((host.company seats).after p acts).endpoints[i]? = some e →
        (host.poll id (attempt config)).1 =
          (e.poll p now (attempt e.config) ((host.company seats).after p acts).regions).1 := by
  obtain ⟨m, hm⟩ := h.member_of_sits hi
  obtain ⟨⟨hseated, acts, hspares, hcompany⟩, hm'⟩ := h.leads_clock hm
  rw [Host.poll, hm]
  dsimp only
  generalize (if m.endpoint.config.background then (host.now, host) else host.readClock) = clock
    at hseated hcompany hm' ⊢
  obtain ⟨now, host'⟩ := clock
  obtain ⟨hpolled, hperform⟩ := hseated.on_of_ne_close hi hm' (.poll now buffer) nofun host'.now
    (w := m.worker) fun hworks => hworks
  obtain rfl : m.process = p := h.process (id, m) (mem_of_member? hm)
  rw [carryOut_poll hread, hconfig m hm] at hpolled hperform
  refine ⟨hpolled, acts, now, hspares, ?_, fun e he => ?_⟩
  · rw [Company.after_append, ← hcompany]
    exact hperform
  · rw [← hcompany, endpoint_of_sits hi hm'] at he
    cases he
    rw [← hcompany, hconfig m hm]
    rfl

theorem Seated.config_eq (h : host.Seated p seats) (hi : Sits seats i id) {acts : List Act}
    (hcompany : host'.company seats = (host.company seats).after p acts)
    (hconfig : ∀ m, host.member? id = some m → m.endpoint.config = config)
    (hm : host'.member? id = some m) : m.endpoint.config = config := by
  obtain ⟨old, hold⟩ := h.member_of_sits hi
  obtain ⟨e, he, hevolves⟩ := h.orderly.evolves_after p (endpoint_of_sits hi hold) acts
  rw [← hcompany, endpoint_of_sits hi hm] at he
  cases he
  exact hevolves.1.trans (hconfig old hold)

/-- A read on a host is one that waits in company. -/
theorem waits_read (p : Process) (hi : Sits seats i id) (hread : Channel.IsRead p attempt buffer) :
    Company.Waits p i
      (fun host => host.Seated p seats ∧ ∀ m, host.member? id = some m → m.endpoint.config = config)
      (company seats) attempt buffer ⟨poll id (attempt config), readClock, sleep⟩ := by
  refine ⟨fun host ⟨h, hconfig⟩ => ?_, fun host ⟨h, hconfig⟩ => ?_, fun d host ⟨h, hconfig⟩ => ?_⟩
  · obtain ⟨hseated, acts, now, hspares, hcompany, hanswer⟩ := h.poll hi hread hconfig
    exact ⟨⟨hseated, fun m hm => h.config_eq hi hcompany hconfig hm⟩, acts, now, hspares i, hcompany,
      hanswer⟩
  · obtain ⟨hseated, acts, hspares, hcompany⟩ := h.leads_readClock
    exact ⟨⟨hseated, fun m hm => h.config_eq hi hcompany hconfig hm⟩, acts, hspares i, hcompany⟩
  · obtain ⟨hseated, acts, hspares, hcompany⟩ := h.leads_sleep d
    exact ⟨⟨hseated, fun m hm => h.config_eq hi hcompany hconfig hm⟩, acts, hspares i, hcompany⟩

theorem config_of_member? (hm : host.member? id = some m) (m' : Member)
    (hm' : host.member? id = some m') : m'.endpoint.config = m.endpoint.config := by
  rw [hm] at hm'
  cases hm'
  rfl

/-- A read that fails on a host fails in the company. -/
theorem fails_read (h : host.Seated p seats) (hi : Sits seats i id) (hm : host.member? id = some m)
    (hread : Channel.IsRead p attempt buffer) {timeout : Duration} {err : LinkError}
    (hfails : host.readWith id (attempt m.endpoint.config) timeout = (some (.error err), host')) :
    Company.Fails p i (host.company seats) err (host'.company seats) :=
  .read hread (waits_read p hi hread) ⟨h, config_of_member? hm⟩ hfails

end Host

end PeerLink
