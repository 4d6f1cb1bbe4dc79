import PeerLink.Proofs.Host.Seating
import PeerLink.Proofs.Link.Tenancy

/-! # Sessions as companies

Whatever commands a session is given, its endpoints are a company in the course of some acts, as long
as no command writes into a region directly. What is proved of companies holds of sessions.

* `Host.Shows`: the open endpoints of a company are those of the members.
* `Host.Plays`: what happens on a host is a list of acts.
* `Session.perform_plays`, `Session.run_shows`: one command, and a list of them.

Main statement: `Session.claimed_iff_one_member`.
-/

namespace PeerLink
set_option autoImplicit false

namespace Host

variable {p : Process} {c : Company} {seats : List Seat} {host host' host'' : Host}
  {id other : String} {m : Member} {e : Endpoint} {i : Nat}

/-! ## What a host shows -/

/-- The numbers that are nobody's any more are those of closed endpoints. -/
def Settled (seats : List Seat) : Prop := ∀ s ∈ seats, s.member = none → s.left.closed = true

/-- The open endpoints of a company are those of the members. -/
def Shows (p : Process) (c : Company) (host : Host) : Prop :=
  ∃ seats, host.Seated p seats ∧ Settled seats ∧ host.company seats = c

/-- What happens between two hosts is a list of acts. -/
def Plays (p : Process) (host host' : Host) : Prop :=
  ∀ c, host.Shows p c → ∃ acts, host'.Shows p (c.after p acts)

theorem Plays.refl (p : Process) (host : Host) : Plays p host host := fun _ hc => ⟨[], hc⟩

theorem Plays.trans (h : Plays p host host') (h' : Plays p host' host'') : Plays p host host'' := by
  intro c hc
  obtain ⟨acts, hacts⟩ := h c hc
  obtain ⟨acts', hacts'⟩ := h' _ hacts
  exact ⟨acts ++ acts', by rwa [Company.after_append]⟩

theorem plays_of_leads (h : ∀ {seats}, host.Seated p seats → Leads p seats host host') :
    Plays p host host' := by
  rintro c ⟨seats, hseated, hleft, rfl⟩
  obtain ⟨hseated', acts, -, hcompany⟩ := h hseated
  exact ⟨acts, seats, hseated', hleft, hcompany⟩

theorem shows_start (p : Process) : Host.start.Shows p .empty := by
  refine ⟨[], ⟨?_, List.nodup_nil, rfl, ?_, Company.orderly_empty⟩, ?_, rfl⟩
  · exact fun _ hentry => absurd hentry List.not_mem_nil
  · exact fun _ hentry => absurd hentry List.not_mem_nil
  · exact fun _ hs => absurd hs List.not_mem_nil

/-- The open endpoints of the company of a host are those of its members. -/
theorem Seated.has_iff (h : host.Seated p seats) (hsettled : Settled seats)
    {holds : Endpoint → Prop} :
    (host.company seats).Has i holds ↔ ∃ name m, Sits seats i name ∧
      host.member? name = some m ∧ m.endpoint.closed = false ∧ holds m.endpoint := by
  constructor
  · rintro ⟨e, he, hopen, hholds⟩
    rw [company, List.getElem?_map] at he
    obtain ⟨s, hs, rfl⟩ := Option.map_eq_some_iff.mp he
    cases hmember : s.member with
    | none =>
      have hleft := hsettled s (List.mem_of_getElem? hs) hmember
      simp [Seat.endpoint, hmember, hleft] at hopen
    | some name =>
      obtain ⟨m, hm⟩ := h.member_of_mem (List.mem_of_getElem? hs) hmember
      have hendpoint : s.endpoint host = m.endpoint := by simp [Seat.endpoint, hmember, hm]
      rw [hendpoint] at hopen hholds
      exact ⟨name, m, by rw [Sits, hs]; exact hmember, hm, hopen, hholds⟩
  · rintro ⟨name, m, hi, hm, hopen, hholds⟩
    exact ⟨m.endpoint, endpoint_of_sits hi hm, hopen, hholds⟩

/-! ## Coming and going -/

theorem Seated.of_regions (h : host.Seated p seats) {r : Regions}
    (ho : (({ host with regions := r } : Host).company seats).Orderly) :
    ({ host with regions := r } : Host).Seated p seats :=
  ⟨h.process, h.names, h.numbered, h.working, ho⟩

theorem member?_removeMember (id : String) (host : Host) (other : String) :
    (host.removeMember id).member? other = if other = id then none else host.member? other := by
  rw [member?, removeMember, Regions.find?_filter_fst]
  split <;> rfl

theorem member?_addMember (id : String) (m : Member) (host : Host) (other : String) :
    (host.addMember id m).member? other =
      (host.member? other).or (if other = id then some m else none) := by
  rw [member?, addMember, List.find?_append, member?]
  cases host.members.find? (·.1 == other) with
  | some entry => rfl
  | none =>
    by_cases hsame : id = other
    · simp [hsame]
    · simp [hsame, Ne.symm hsame]

theorem settled_leave (id : String) (hclosed : e.closed = true) (h : Settled seats) :
    Settled (seats.map (Seat.leave id e)) := by
  intro s hs
  obtain ⟨old, hold, rfl⟩ := List.mem_map.mp hs
  rw [Seat.leave]
  split
  · exact fun _ => hclosed
  · exact h old hold

theorem Seated.remove (h : host.Seated p seats) (hm : host.member? id = some m) :
    (host.removeMember id).Seated p (seats.map (Seat.leave id m.endpoint)) ∧
      (host.removeMember id).company (seats.map (Seat.leave id m.endpoint)) =
        host.company seats := by
  have hcompany : (host.removeMember id).company (seats.map (Seat.leave id m.endpoint)) =
      host.company seats := by
    refine congrArg (Company.mk host.regions) ?_
    rw [List.map_map]
    refine List.map_congr_left fun s _ => ?_
    cases hs : s.member with
    | none => simp [Seat.leave, Seat.endpoint, hs]
    | some other =>
      by_cases hsame : other = id
      · simp [Seat.leave, Seat.endpoint, hs, hsame, hm]
      · simp [Seat.leave, Seat.endpoint, hs, hsame, member?_removeMember]
  have hnames : (host.removeMember id).members.map (·.1) =
      (host.members.map (·.1)).filter (· != id) := by
    rw [List.filter_map]
    rfl
  refine ⟨⟨fun entry hentry => h.process entry (List.mem_filter.mp hentry).1,
    hnames ▸ h.names.filter _, ?_,
    fun entry hentry => h.working entry (List.mem_filter.mp hentry).1, hcompany ▸ h.orderly⟩,
    hcompany⟩
  rw [hnames, ← h.numbered, List.filter_filterMap, List.filterMap_map]
  congr 1
  funext s
  cases hs : s.member with
  | none => simp [Seat.leave, hs]
  | some other => by_cases hsame : other = id <;> simp [Seat.leave, hs, hsame, Option.filter]

/-- A new member, for an endpoint that was opened before. -/
theorem Seated.add (h : host.Seated p (seats ++ [⟨none, e⟩])) (hnew : host.member? id = none)
    {w : Option Worker}
    (hw : w.isSome = true → e.closed = false ∧ e.config.background = true) :
    (host.addMember id ⟨p, e, w⟩).Seated p (seats ++ [⟨some id, e⟩]) ∧
      (host.addMember id ⟨p, e, w⟩).company (seats ++ [⟨some id, e⟩]) =
        host.company (seats ++ [⟨none, e⟩]) := by
  have hcompany : (host.addMember id ⟨p, e, w⟩).company (seats ++ [⟨some id, e⟩]) =
      host.company (seats ++ [⟨none, e⟩]) := by
    refine congrArg (Company.mk host.regions) ?_
    rw [List.map_append, List.map_append]
    refine congrArg₂ (· ++ ·) (List.map_congr_left fun s hs => ?_) ?_
    · cases hsid : s.member with
      | none => simp [Seat.endpoint, hsid]
      | some other =>
        obtain ⟨m, hm⟩ := h.member_of_mem (List.mem_append_left _ hs) hsid
        simp [Seat.endpoint, hsid, member?_addMember, hm]
    · simp [Seat.endpoint, member?_addMember, hnew]
  have hmembers (entry : String × Member) (hentry : entry ∈ (host.addMember id ⟨p, e, w⟩).members) :
      entry ∈ host.members ∨ entry = (id, ⟨p, e, w⟩) := by
    simpa [addMember] using hentry
  have hnames : (host.addMember id ⟨p, e, w⟩).members.map (·.1) =
      host.members.map (·.1) ++ [id] := List.map_append
  refine ⟨⟨fun entry hentry => ?_, ?_, ?_, fun entry hentry => ?_, hcompany ▸ h.orderly⟩, hcompany⟩
  · rcases hmembers entry hentry with hold | rfl
    · exact h.process entry hold
    · rfl
  · have hfresh : id ∉ host.members.map (·.1) := by
      rw [← member?_isSome, hnew]
      exact Bool.false_ne_true
    rw [hnames, List.nodup_append]
    refine ⟨h.names, List.nodup_singleton id, fun a ha b hb hab => hfresh ?_⟩
    rwa [← List.mem_singleton.mp hb, ← hab]
  · rw [hnames, ← h.numbered, List.filterMap_append, List.filterMap_append]
    simp
  · rcases hmembers entry hentry with hold | rfl
    · exact h.working entry hold
    · exact hw

/-! ## Commands -/

theorem closed_close (p : Process) (e : Endpoint) (r : Regions) :
    (e.close p r).2.1.closed = true := by
  rw [Endpoint.close]
  split
  · assumption
  · rfl

/-- Closing a member's endpoint is closing the endpoint of its number. -/
theorem Seated.close (h : host.Seated p seats) (hi : Sits seats i id)
    (hm : host.member? id = some m) :
    (host.close id m).2.Seated p seats ∧
      (host.close id m).2.company seats = (host.company seats).perform p (.on i .close) := by
  obtain rfl : m.process = p := h.process (id, m) (mem_of_member? hm)
  exact h.on hi hm .close host.now (w := none) nofun

theorem plays_close (hm : host.member? id = some m) : Plays p host (host.close id m).2 := by
  rintro c ⟨seats, h, hleft, rfl⟩
  obtain ⟨i, hi⟩ := h.sits hm
  obtain ⟨hseated, hcompany⟩ := h.close hi hm
  exact ⟨[.on i .close], seats, hseated, hleft, hcompany⟩

/-- Whoever has been dropped has no number any more, and has left a closed endpoint. -/
theorem Seated.drop (h : host.Seated p seats) (id : String) :
    ∃ (f : Seat → Seat) (acts : List Act), (∀ e, f ⟨none, e⟩ = ⟨none, e⟩) ∧
      (∀ {others}, Settled others → Settled (others.map f)) ∧
      (host.drop id).Seated p (seats.map f) ∧ (host.drop id).member? id = none ∧
      (host.drop id).company (seats.map f) = (host.company seats).after p acts := by
  rw [Host.drop]
  cases hm : host.member? id with
  | none =>
    refine ⟨fun s => s, [], fun _ => rfl, fun hothers => by rwa [List.map_id'], ?_⟩
    rw [List.map_id']
    exact ⟨h, hm, rfl⟩
  | some m =>
    obtain ⟨i, hi⟩ := h.sits hm
    obtain ⟨hseated, hcompany⟩ := h.close hi hm
    have hm' : (host.close id m).2.member? id =
        some { m with endpoint := (m.endpoint.close m.process host.regions).2.1, worker := none } :=
      member?_setMember_self _ hm
    obtain ⟨hremoved, hsame⟩ := hseated.remove hm'
    refine ⟨Seat.leave id (m.endpoint.close m.process host.regions).2.1, [.on i .close],
      fun _ => rfl, fun hothers => settled_leave id (closed_close ..) hothers, hremoved, ?_,
      hsame.trans hcompany⟩
    rw [member?_removeMember, if_pos rfl]

theorem plays_drop (id : String) (host : Host) : Plays p host (host.drop id) := by
  rintro c ⟨seats, h, hleft, rfl⟩
  obtain ⟨f, acts, -, hsettled, hseated, -, hcompany⟩ := h.drop id
  exact ⟨acts, seats.map f, hseated, hsettled hleft, hcompany⟩

/-- The endpoint is opened, whoever had the name is dropped, and the endpoint becomes a member. -/
theorem plays_openEndpoint (k : Kernel) (p : Process) (id : String) (config : EndpointConfig)
    (host : Host) : Plays p host (host.openEndpoint k p id config).2 := by
  refine (plays_of_leads fun h => h.leads_readClock).trans ?_
  rw [openEndpoint]
  generalize host.readClock = clock
  obtain ⟨now, host⟩ := clock
  rintro c ⟨seats, h, hleft, rfl⟩
  have ho := h.orderly.perform p (.openEndpoint k now config)
  dsimp only
  have hunopened {result : Option (Except LinkError Endpoint)} {r : Regions}
      (hnone : Endpoint.Unopened result)
      (hopen : Endpoint.open k p now config host.regions = (result, r)) :
      ∃ acts seats', ({ host with regions := r } : Host).Seated p seats' ∧ Settled seats' ∧
        ({ host with regions := r } : Host).company seats' = (host.company seats).after p acts := by
    have hperform := Company.perform_of_unopened (c := host.company seats) hnone hopen
    rw [hperform] at ho
    exact ⟨[.openEndpoint k now config], seats, h.of_regions ho, hleft, hperform.symm⟩
  rcases hopen : Endpoint.open k p now config host.regions with ⟨_ | err | e, r⟩
  · exact hunopened Endpoint.unopened_none hopen
  · exact hunopened (Endpoint.unopened_error err) hopen
  · have hperform := Company.perform_of_opened (c := host.company seats) hopen
    -- Until the old member is dropped, the new endpoint has a number but no member.
    have hcompany : ({ host with regions := r } : Host).company (seats ++ [⟨none, e⟩]) =
        (host.company seats).perform p (.openEndpoint k now config) := by
      rw [hperform, company, List.map_append]
      rfl
    have hseated : ({ host with regions := r } : Host).Seated p (seats ++ [⟨none, e⟩]) := by
      refine ⟨h.process, h.names, ?_, h.working, hcompany ▸ ho⟩
      rw [List.filterMap_append, h.numbered]
      exact List.append_nil _
    obtain ⟨f, acts, hf, hsettled, hdropped, hgone, hdrop⟩ := hseated.drop id
    rw [List.map_append, List.map_singleton, hf] at hdropped hdrop
    obtain ⟨hclosed, hconfig⟩ := Endpoint.of_open hopen
    obtain ⟨hadded, hadd⟩ := hdropped.add hgone
      (w := if config.background then some ⟨host.now, host.now⟩ else none) fun hw => by
        refine ⟨hclosed, ?_⟩
        rw [hconfig]
        by_contra hbackground
        simp [hbackground] at hw
    refine ⟨.openEndpoint k now config :: acts, seats.map f ++ [⟨some id, e⟩], hadded,
      fun s hs hsnone => ?_, ?_⟩
    · rcases List.mem_append.mp hs with hold | hnew
      · exact hsettled hleft s hold hsnone
      · rw [List.mem_singleton.mp hnew] at hsnone
        cases hsnone
    · rw [hcompany] at hdrop
      exact hadd.trans hdrop

theorem plays_read {α : Type} {attempt : EndpointConfig → Channel → Except LinkError α × Channel}
    {buffer : Option Bytes} (hread : Channel.IsRead m.process attempt buffer)
    (hm : host.member? id = some m) (timeout : Duration) :
    Plays p host (host.readWith id (attempt m.endpoint.config) timeout).2 := by
  rintro c ⟨seats, h, hleft, rfl⟩
  obtain rfl : m.process = p := h.process (id, m) (mem_of_member? hm)
  obtain ⟨i, hi⟩ := h.sits hm
  obtain ⟨⟨hseated, -⟩, acts, -, hcompany⟩ :=
    (waits_read m.process hi hread).after_read timeout ⟨h, config_of_member? hm⟩
  exact ⟨acts, seats, hseated, hleft, hcompany⟩

/-- Creating and removing names. -/
theorem plays_regions (host : Host) (r : Regions) (act : Act)
    (hact : ∀ c : Company, c.regions = host.regions → c.perform p act = { c with regions := r }) :
    Plays p host { host with regions := r } := by
  rintro c ⟨seats, h, hleft, rfl⟩
  have hcompany := hact (host.company seats) rfl
  have ho := h.orderly.perform p act
  rw [hcompany] at ho
  exact ⟨[act], seats, h.of_regions ho, hleft, hcompany.symm⟩

theorem plays_await {interval : Duration} {ask : Host → Bool × Host} (times : Nat)
    (hask : ∀ host, Plays p host (ask host).2) (host : Host) :
    Plays p host (host.await interval ask times).2 := by
  induction times generalizing host with
  | zero => exact hask host
  | succ times ih =>
    have hasked := hask host
    rw [await]
    rcases hanswer : ask host with ⟨_ | _, host'⟩
    · rw [hanswer] at hasked
      exact (hasked.trans (plays_of_leads fun h => h.leads_sleep interval)).trans (ih _)
    · rw [hanswer] at hasked
      exact hasked

end Host

/-! ## Sessions -/

/-- Every command but a direct write into a region. -/
def Command.Proper : Command → Prop
  | .poke _ _ _ => False
  | _ => True

namespace Session

variable {s : Session} {id : String}

/-- What a command makes of a session is a list of acts of its process. -/
def Plays (s s' : Session) : Prop :=
  s'.process = s.process ∧ Host.Plays s.process s.host s'.host

theorem plays_withMember {act : Member → Host → Answer × Host}
    (hact : ∀ m, s.host.member? id = some m → Host.Plays s.process s.host (act m s.host).2) :
    s.Plays (s.withMember id act).2 := by
  rw [withMember]
  cases hm : s.host.member? id with
  | none => exact ⟨rfl, .refl _ _⟩
  | some m => exact ⟨rfl, hact m hm⟩

theorem plays_withHandle {act : RegionHandle → Answer × Session}
    (hact : ∀ handle, s.Plays (act handle).2) : s.Plays (s.withHandle id act).2 := by
  rw [withHandle]
  cases s.handle? id with
  | none => exact ⟨rfl, .refl _ _⟩
  | some handle => exact hact handle

theorem plays_awaitWriteRefusal (p : Process) (id : String) (wanted : LinkError → Bool)
    (host : Host) : Host.Plays p host (awaitWriteRefusal id wanted host).2 := by
  refine Host.plays_await askTimes (fun host => ?_) host
  cases hm : host.member? id with
  | none => exact .refl _ _
  | some m =>
    have hwrite := Host.plays_of_leads (p := p) fun h => h.leads_write hm [0x78]
    dsimp only
    rcases hresult : host.write [0x78] m with ⟨_ | _, host'⟩
    all_goals
      rw [hresult] at hwrite
      exact hwrite

theorem perform_plays (command : Command) (hproper : command.Proper) (s : Session) :
    s.Plays (s.perform command).2 := by
  have hsame : s.Plays s := ⟨rfl, .refl _ _⟩
  cases command with
  | openEndpoint id config => exact ⟨rfl, Host.plays_openEndpoint _ _ _ _ _⟩
  | write id payload =>
    exact plays_withMember fun m hm => Host.plays_of_leads fun h => h.leads_write hm payload
  | writeItems id items =>
    exact plays_withMember fun m hm => Host.plays_of_leads fun h => h.leads_writeItems hm items
  | read id timeout | readItems id timeout =>
    exact plays_withMember fun m hm => Host.plays_read .tryRead hm timeout
  | readInto id buffer timeout =>
    refine plays_withMember fun m hm => ?_
    have hread := Host.plays_read (p := s.process) (.tryReadInto buffer) hm timeout
    split <;> rename_i hresult <;> rw [hresult] at hread <;> exact hread
  | stats id => exact plays_withMember fun m hm => Host.plays_of_leads fun h => h.leads_stats hm
  | tick id times =>
    exact plays_withMember fun m hm => Host.plays_of_leads fun h => h.leads_ticks id times
  | close id => exact plays_withMember fun m hm => Host.plays_close hm
  | drop id => exact plays_withMember fun m hm => Host.plays_drop id s.host
  | describe id => exact plays_withMember fun m hm => .refl _ _
  | awaitAlive id alive | awaitState id state =>
    exact plays_withMember fun m hm => Host.plays_await _ (fun _ => .refl _ _) _
  | awaitRefusal id refused => exact plays_withMember fun m hm => plays_awaitWriteRefusal _ _ _ _
  | create handle name size mode =>
    have hcreated := Host.plays_regions (p := s.process) s.host _
      (.create s.kernel name size mode) fun c hc => by rw [Company.perform, hc]
    rw [perform]
    split <;> rename_i hcreate <;> rw [hcreate] at hcreated <;> exact ⟨rfl, hcreated⟩
  | attach handle name minSize =>
    rw [perform]
    split <;> exact hsame
  | unlink name =>
    have hunlinked := Host.plays_regions (p := s.process) s.host _ (.unlink name) fun c hc => by
      rw [Company.perform, hc]
    exact ⟨rfl, hunlinked⟩
  | inspect name | contains name => exact hsame
  | handle id | sameAsName id name | peek id start size | forget id =>
    exact plays_withHandle fun handle => hsame
  | same id other => exact plays_withHandle fun handle => plays_withHandle fun handle => hsame
  | poke handle start bytes => exact hproper.elim

theorem run_plays (commands : List Command) (hproper : ∀ command ∈ commands, command.Proper)
    (s : Session) : s.Plays (run commands s).2 := by
  induction commands generalizing s with
  | nil => exact ⟨rfl, .refl _ _⟩
  | cons command commands ih =>
    obtain ⟨hcommand, hrest⟩ := List.forall_mem_cons.mp hproper
    obtain ⟨hprocess, hplays⟩ := perform_plays command hcommand s
    obtain ⟨hprocess', hplays'⟩ := ih hrest (s.perform command).2
    rw [hprocess] at hplays' hprocess'
    exact ⟨hprocess', hplays.trans hplays'⟩

/-- What a list of commands makes of a host is what some acts make of an empty company. -/
theorem run_shows (p : Process) (commands : List Command)
    (hproper : ∀ command ∈ commands, command.Proper) :
    ∃ acts, (run commands (start p)).2.host.Shows p (Company.empty.after p acts) :=
  (run_plays commands hproper (start p)).2 .empty (Host.shows_start p)

/-- Whatever commands a session is given: a side of an object is claimed if and only if exactly one
member has an open endpoint on that side of it. -/
theorem claimed_iff_one_member (p : Process) (hp : p.alive p.pid = true) (commands : List Command)
    (hproper : ∀ command ∈ commands, command.Proper) (id : ObjectId) (role : Role)
    (hrole : role ≠ .auto) :
    let host := (run commands (start p)).2.host
    (host.regions.slot id role).isClaimed = true ↔
      ∃! name, ∃ m, host.member? name = some m ∧ m.endpoint.closed = false ∧
        m.endpoint.region = id ∧ m.endpoint.role = role := by
  intro host
  obtain ⟨acts, seats, h, hsettled, hcompany⟩ := run_shows p commands hproper
  have ht : (Company.empty.after p acts).Tenanted p :=
    ((Company.kept_tenancy hp).after Company.orderly_empty (Company.tenanted_empty p) acts).2
  rw [← hcompany] at ht
  refine (ht.occupied hrole).trans ⟨fun ⟨i, hi⟩ => ?_, fun ⟨name, ⟨m, hm, hplace⟩, _⟩ => ?_⟩
  · obtain ⟨name, m, hsits, hm, hplace⟩ := (h.has_iff hsettled).mp hi
    refine ⟨name, ⟨m, hm, hplace⟩, fun name' ⟨m', hm', hplace'⟩ => ?_⟩
    obtain ⟨j, hsits'⟩ := h.sits hm'
    obtain rfl : i = j := ht.alone hi ((h.has_iff hsettled).mpr ⟨name', m', hsits', hm', hplace'⟩)
    exact Option.some.inj (hsits'.symm.trans hsits)
  · obtain ⟨i, hsits⟩ := h.sits hm
    exact ⟨i, (h.has_iff hsettled).mpr ⟨name, m, hsits, hm, hplace⟩⟩

end Session

end PeerLink
