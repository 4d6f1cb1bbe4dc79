import PeerLink.Proofs.Link.Refusals

/-! # Closing is final

A closed endpoint stays as it is for the rest of every run, whoever acts in it and whatever else
becomes of the regions. Whoever still uses it is refused, and nothing but what others do happens to
the regions.

* `Event`, `Company.through`: acts of any processes, and regions that others have written into.
* `Company.Parted`: who is closed is detached.
* `Company.through_of_closed`: of a run, a closed endpoint's own part counts for nothing.
* `Company.WaitsAmid`: a read of an endpoint, with events meanwhile; `Company.WaitsAmid.read_of_closed`
  says what comes of it once the endpoint is closed.

Items that cannot be encoded are refused for that reason, also by a closed endpoint, and a read whose
deadline no clock can show breaks off before it finds out.

Main statement: `Company.closed_is_final`.
-/

namespace PeerLink
set_option autoImplicit false

/-! ## Who is closed is detached -/

theorem Deed.detached_carryOut {p : Process} {e : Endpoint} {r : Regions} (deed : Deed)
    (h : e.closed = true → e.linkState = .detached)
    (hclosed : (deed.carryOut p e r).1.closed = true) :
    (deed.carryOut p e r).1.linkState = .detached := by
  by_cases hbefore : e.closed = true
  · rw [carryOut_of_closed p deed r hbefore]
    exact h hbefore
  · by_cases hclose : deed = .close
    · subst hclose
      rw [carryOut, Endpoint.close, if_neg hbefore]
      rfl
    · rw [closed_carryOut p e r hclose] at hclosed
      exact absurd hclosed hbefore

/-- What happens to a company. -/
inductive Event where
  | act (p : Process) (act : Act)
  /-- Others leave the regions like this. They may have taken locks, or written anything. -/
  | outside (r : Regions)

/-- Whether something is done with the endpoint of this number. -/
def Event.isOn (i : Nat) : Event → Bool
  | .act _ (.on j _) => j == i
  | _ => false

theorem Event.isOn_iff {i : Nat} {event : Event} :
    event.isOn i = true ↔ ∃ p deed, event = .act p (.on i deed) := by
  cases event with
  | act p act => cases act <;> simp [isOn]
  | outside r => simp [isOn]

namespace Company

variable {α σ : Type} {p : Process} {c : Company} {e : Endpoint} {i : Nat}

/-- One event. -/
def undergo (c : Company) : Event → Company
  | .act p act => c.perform p act
  | .outside r => { c with regions := r }

/-- A list of events. -/
def through (c : Company) (events : List Event) : Company := events.foldl undergo c

theorem through_append (c : Company) (events events' : List Event) :
    c.through (events ++ events') = (c.through events).through events' := List.foldl_append

theorem through_acts (p : Process) (c : Company) (acts : List Act) :
    c.through (acts.map (.act p)) = c.after p acts := List.foldl_map

/-- What every event preserves holds at the end of every run. -/
theorem through_induction {J : Company → Prop}
    (hstep : ∀ {c : Company} (event : Event), J c → J (c.undergo event)) (hj : J c)
    (events : List Event) : J (c.through events) := by
  induction events generalizing c with
  | nil => exact hj
  | cons event events ih => exact ih (hstep event hj)

/-- Every closed endpoint is detached. -/
def Parted (c : Company) : Prop := ∀ e ∈ c.endpoints, e.closed = true → e.linkState = .detached

theorem Parted.perform (h : c.Parted) (p : Process) (act : Act) : (c.perform p act).Parted := by
  intro e he hclosed
  cases act with
  | openEndpoint k now config =>
    rw [Company.perform] at he
    split at he
    · rename_i e' r' hopen
      rcases List.mem_append.mp he with hold | hnew
      · exact h e hold hclosed
      · rw [List.mem_singleton.mp hnew, (Endpoint.of_open hopen).1] at hclosed
        cases hclosed
    · exact h e he hclosed
  | on j deed =>
    rw [Company.perform] at he
    split at he
    · rename_i e' he'
      rcases List.mem_or_eq_of_mem_set he with hold | rfl
      · exact h e hold hclosed
      · exact deed.detached_carryOut (h e' (List.mem_of_getElem? he')) hclosed
    · exact h e he hclosed
  | create | unlink => exact h e he hclosed

theorem parted_through (events : List Event) : (empty.through events).Parted := by
  refine through_induction (fun {c} event h => ?_) (fun e he => ?_) events
  · cases event with
    | act p act => exact h.perform p act
    | outside r => exact h
  · exact absurd he List.not_mem_nil

/-! ## After the end of an endpoint -/

theorem perform_of_closed (p : Process) (he : c.endpoints[i]? = some e) (hclosed : e.closed = true)
    (deed : Deed) : c.perform p (.on i deed) = c := by
  rw [perform_on he, deed.carryOut_of_closed p c.regions hclosed, put_self he]

theorem endpoint_of_closed (he : c.endpoints[i]? = some e) (hclosed : e.closed = true)
    (event : Event) : (c.undergo event).endpoints[i]? = some e := by
  cases event with
  | act p act =>
    rcases endpoint_perform p he act with ⟨deed, -, hafter⟩ | ⟨-, hafter⟩
    · rw [undergo, hafter, deed.carryOut_of_closed p c.regions hclosed]
    · exact hafter
  | outside r => exact he

theorem endpoint_through_of_closed (he : c.endpoints[i]? = some e) (hclosed : e.closed = true)
    (events : List Event) : (c.through events).endpoints[i]? = some e :=
  through_induction (J := fun c => c.endpoints[i]? = some e)
    (fun event he => endpoint_of_closed he hclosed event) he events

/-- What is done with a closed endpoint may as well be left out. -/
theorem through_of_closed (he : c.endpoints[i]? = some e) (hclosed : e.closed = true)
    (events : List Event) : c.through events = c.through (events.filter (!·.isOn i)) := by
  -- The endpoint is still there, and closed, after every event of the run.
  induction events generalizing c with
  | nil => rfl
  | cons event events ih =>
    by_cases hon : event.isOn i = true
    · obtain ⟨p, deed, rfl⟩ := Event.isOn_iff.mp hon
      rw [List.filter_cons_of_neg (by simp [hon]), ← ih he]
      exact congrArg (·.through events) (perform_of_closed p he hclosed deed)
    · rw [List.filter_cons_of_pos (by simpa using hon)]
      exact ih (endpoint_of_closed he hclosed event)

/-! ## Reads -/

/-- A read of endpoint `i` where anything may happen: before a poll and while the clock is read. -/
structure WaitsAmid (p : Process) (i : Nat) (view : σ → Company)
    (attempt : EndpointConfig → Channel → Except LinkError α × Channel) (buffer : Option Bytes)
    (w : Surroundings σ α) (s : σ) : Prop where
  clock : ∃ events, view (w.clock s).2 = (view s).through events
  poll : ∃ events now, view (w.poll (w.clock s).2).2 =
      ((view (w.clock s).2).through events).perform p (.on i (.poll now buffer)) ∧
    ∀ e, ((view (w.clock s).2).through events).endpoints[i]? = some e →
      (w.poll (w.clock s).2).1 = (e.poll p now (attempt e.config)
        ((view (w.clock s).2).through events).regions).1

/-- A read among the acts of one process is one of them. -/
theorem Waits.waitsAmid {sane : σ → Prop} {view : σ → Company}
    {attempt : EndpointConfig → Channel → Except LinkError α × Channel} {buffer : Option Bytes}
    {w : Surroundings σ α} {s : σ} (hw : Waits p i sane view attempt buffer w) (hs : sane s) :
    WaitsAmid p i view attempt buffer w s := by
  obtain ⟨hclocked, acts, -, hview⟩ := hw.clock s hs
  obtain ⟨-, acts', now, -, hpolled, hanswer⟩ := hw.poll _ hclocked
  refine ⟨⟨acts.map (.act p), ?_⟩, acts'.map (.act p), now, ?_⟩
  · rw [through_acts, hview]
  · rw [through_acts]
    exact ⟨hpolled.trans (after_append ..), hanswer⟩

variable {view : σ → Company}
  {attempt : EndpointConfig → Channel → Except LinkError α × Channel} {buffer : Option Bytes}
  {w : Surroundings σ α} {s : σ}

/-- A read of a closed endpoint is refused, unless it breaks off, and only what others do happens
meanwhile. -/
theorem WaitsAmid.read_of_closed (hw : WaitsAmid p i view attempt buffer w s) (timeout : Duration)
    (he : (view s).endpoints[i]? = some e) (hclosed : e.closed = true) :
    (w.read timeout s).1 = ((w.clock s).1.after? timeout).map (fun _ => .error .notInitialized) ∧
      ∃ others : List Event, (∀ event ∈ others, event.isOn i = false) ∧
        view (w.read timeout s).2 = (view s).through others := by
  have hothers {s' : σ} {events : List Event} (hview : view s' = (view s).through events) :
      ∃ others : List Event, (∀ event ∈ others, event.isOn i = false) ∧
        view s' = (view s).through others := by
    refine ⟨events.filter (!·.isOn i), fun event hevent => ?_, ?_⟩
    · simpa using (List.mem_filter.mp hevent).2
    · rw [hview, through_of_closed he hclosed]
  obtain ⟨events, hclocked⟩ := hw.clock
  cases hdeadline : (w.clock s).1.after? timeout with
  | none =>
    rw [Surroundings.read_of_untimely hdeadline]
    exact ⟨rfl, hothers hclocked⟩
  | some deadline =>
    obtain ⟨events', now, hpolled, hanswer⟩ := hw.poll
    rw [hclocked, ← through_append] at hpolled hanswer
    have hlast := endpoint_through_of_closed he hclosed (events ++ events')
    -- The first poll is answered, and does nothing.
    have hfirst := hanswer e hlast
    rw [Endpoint.poll_of_closed p now _ _ hclosed] at hfirst
    rw [perform_of_closed p hlast hclosed] at hpolled
    rw [Surroundings.read_of_timely hdeadline]
    rcases hpoll : w.poll (w.clock s).2 with ⟨answer, s'⟩
    rw [hpoll] at hfirst hpolled
    cases hfirst
    have hread (rounds : Nat) : w.pollUntil timeout deadline rounds (w.clock s).2 =
        (.error .notInitialized, s') := by
      cases rounds <;> rw [Surroundings.pollUntil, hpoll]
    rw [hread]
    exact ⟨rfl, hothers hpolled⟩

/-- Whatever happens before and after an endpoint was closed, by its user, its worker or others,
whether or not its side could be given up: it stays as it is, detached and with no peer that is
alive. Nothing that is done with it changes anything; closing it again succeeds; and every write of
bytes, every snapshot and every read whose deadline a clock can show, whatever others do meanwhile,
finds that it is not initialized; a read of items passes that on. A read with a deadline beyond that
breaks off. Items are written in two steps, and the first one comes before that finding: those that
cannot be encoded are refused as such. -/
theorem closed_is_final (events later : List Event) {i : Nat} {e : Endpoint}
    (he : (empty.through events).endpoints[i]? = some e) (hclosed : e.closed = true)
    (p : Process) :
    let c := (empty.through events).through later
    c.endpoints[i]? = some e ∧ e.linkState = .detached ∧ e.isRemoteAlive = false ∧
      (∀ deed, c.perform p (.on i deed) = c) ∧
      (∀ now, e.tick p now c.regions = (e, c.regions)) ∧
      e.close p c.regions = (.ok (), e, c.regions) ∧
      e.stats p c.regions = (.error .notInitialized, e) ∧
      (∀ payload, e.write p payload c.regions = (.error .notInitialized, c.regions)) ∧
      (∀ items, e.writeItems p items c.regions =
        (.error (match Message.encode items with
          | .ok _ => .notInitialized
          | .error cause => .codec cause), c.regions)) ∧
      Session.decoded (.error .notInitialized) = .error .notInitialized ∧
      ∀ {σ α : Type} (view : σ → Company)
        (attempt : EndpointConfig → Channel → Except LinkError α × Channel)
        (buffer : Option Bytes) (w : Surroundings σ α) (timeout : Duration) (s : σ),
        WaitsAmid p i view attempt buffer w s → view s = c →
        (w.read timeout s).1 =
            ((w.clock s).1.after? timeout).map (fun _ => .error .notInitialized) ∧
          ∃ others : List Event, (∀ event ∈ others, event.isOn i = false) ∧
            view (w.read timeout s).2 = c.through others := by
  intro c
  have hlast : c.endpoints[i]? = some e := endpoint_through_of_closed he hclosed later
  have halive : e.isRemoteAlive = false := by rw [Endpoint.isRemoteAlive, hclosed]; rfl
  refine ⟨hlast, parted_through events e (List.mem_of_getElem? he) hclosed, halive,
    perform_of_closed p hlast hclosed, fun now => e.tick_of_closed p now _ hclosed,
    e.close_of_closed p _ hclosed, e.stats_of_closed p _ hclosed,
    fun payload => e.write_of_closed p payload _ hclosed,
    fun items => e.writeItems_of_closed p items _ hclosed, rfl,
    fun view attempt buffer w timeout s hw hview => ?_⟩
  rw [← hview]
  exact hw.read_of_closed timeout (by rw [hview]; exact hlast) hclosed

/-! ## A master that leaves -/

/-- A process beside which another one lives. -/
def neighbor : Process := ⟨7, fun pid => pid == 7 || pid == 9⟩

/-- A master on a region whose lock another process has taken. -/
def heldUp : Regions :=
  ((Regions.empty.found "/eshm_a" (.ofMillis 100)).take 7 0 .master).mapHeader 0 fun h =>
    { h with lock := ⟨9, 0⟩ }

/-- A master comes, and leaves while it cannot give its side up. -/
def departure : List Event :=
  [.act neighbor (.openEndpoint .able 0 { name := "a", role := .master }), .outside heldUp,
    .act neighbor (.on 0 .close)]

/-- Another one comes under the same name and is refused, and the first one is used as if it were still
there. -/
def misuse : List Event :=
  [.act neighbor (.openEndpoint .able 5 { name := "a", role := .master }),
    .act neighbor (.on 0 (.tick 9)), .act neighbor (.on 0 (.write [0x78])),
    .act neighbor (.on 0 .close)]

/-- An item whose type is reserved. -/
def reservedItem : Item := ⟨.event, "k", .integer 1⟩

theorem closed_is_final_departure :
    ∃ e, (empty.through departure).endpoints[0]? = some e ∧ e.closed = true ∧
      ((empty.through departure).through misuse).endpoints[0]? = some e ∧
      e.linkState = .detached ∧
      (e.writeItems neighbor [] ((empty.through departure).through misuse).regions).1 =
        .error .notInitialized := by
  have hstate : ((empty.through departure).endpoints[0]?).map (·.closed) = some true := by
    decide +kernel
  obtain ⟨e, he, hclosed⟩ := Option.map_eq_some_iff.mp hstate
  obtain ⟨hlast, hdetached, -, -, -, -, -, -, hitems, -⟩ :=
    closed_is_final departure misuse he hclosed neighbor
  have hencodable : ∃ payload, Message.encode [] = .ok payload := ⟨_, rfl⟩
  obtain ⟨payload, hpayload⟩ := hencodable
  refine ⟨e, he, hclosed, hlast, hdetached, ?_⟩
  rw [hitems, hpayload]

/-- Not every operation of a closed endpoint finds that it is not initialized. -/
theorem closed_refuses_reserved_item :
    ∃ e, (empty.through departure).endpoints[0]? = some e ∧ e.closed = true ∧
      e.writeItems neighbor [reservedItem] (empty.through departure).regions =
        (.error (.codec (.unsupportedType 5)), (empty.through departure).regions) := by
  have hstate : ((empty.through departure).endpoints[0]?).map (·.closed) = some true := by
    decide +kernel
  obtain ⟨e, he, hclosed⟩ := Option.map_eq_some_iff.mp hstate
  have hreserved : Message.encode [reservedItem] = .error (.unsupportedType 5) := rfl
  refine ⟨e, he, hclosed, ?_⟩
  rw [Endpoint.writeItems_of_closed neighbor _ _ hclosed, hreserved]

end Company

end PeerLink
