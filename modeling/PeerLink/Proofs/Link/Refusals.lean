import PeerLink.Host.Session
import PeerLink.Proofs.Link.Finality
import PeerLink.Proofs.Link.Waiting

/-! # What an endpoint says about its peer

A read or a write of an open endpoint fails because of the peer only as the endpoint's behavior lets
it, whatever happened before and whatever happens while the read waits; and once reconnection has
failed, every read and every write of bytes says so.

* `Endpoint.Evolves`: the endpoint is the same one, and its monitor has been asked some more.
* `Endpoint.Judged`: the monitor is one that was started by the endpoint's settings.
* `Company.Continues`: the endpoint of a number is open, and it is still the same one.
* `Company.Fails`: a read or a write of an endpoint fails, with what others do meanwhile.

Main statement: `Company.refusals_follow_behavior`.
-/

namespace PeerLink
set_option autoImplicit false

/-! ## Errors about the peer -/

/-- Whether an error says something about the peer. -/
def LinkError.isAboutPeer : LinkError → Bool
  | .peerStale _ | .reconnectFailed _ _ => true
  | _ => false

namespace Channel

variable {α : Type} {p : Process} {c : Channel} {err : LinkError}

theorem isAboutPeer_finish (p : Process) (a : α) (c : Channel) (h : (c.finish p a).1 = .error err) :
    err.isAboutPeer = false := by
  unfold finish at h
  split at h
  · cases h
  · cases h
    rfl

theorem isAboutPeer_locked (timeout : Duration) {act : Channel → Except LinkError α × Channel}
    (hact : ∀ c, (act c).1 = .error err → err.isAboutPeer = false)
    (h : (c.locked p timeout act).1 = .error err) : err.isAboutPeer = false := by
  unfold locked at h
  split at h
  · cases h
    rfl
  · exact hact _ h

theorem isAboutPeer_receiving (timeout : Duration) {act : Channel → Except LinkError α × Channel}
    (hact : ∀ c, (act c).1 = .error err → err.isAboutPeer = false)
    (h : (c.receiving p timeout act).1 = .error err) : err.isAboutPeer = false := by
  unfold receiving at h
  split at h
  · cases h
    rfl
  · refine isAboutPeer_locked timeout (fun c hc => ?_) h
    split at hc
    · cases hc
      rfl
    · exact hact c hc

theorem isAboutPeer_write (timeout : Duration) (payload : Bytes)
    (h : (c.write p timeout payload).1 = .error err) : err.isAboutPeer = false := by
  unfold write at h
  split at h
  · cases h
    rfl
  · exact isAboutPeer_locked timeout (fun c hc => isAboutPeer_finish p _ _ hc) h

theorem IsRead.isAboutPeer {attempt : EndpointConfig → Channel → Except LinkError α × Channel}
    {buffer : Option Bytes} (hread : IsRead p attempt buffer) (config : EndpointConfig)
    (h : (attempt config c).1 = .error err) : err.isAboutPeer = false := by
  cases hread with
  | tryRead => exact isAboutPeer_receiving _ (fun c hc => isAboutPeer_finish p _ _ hc) h
  | tryReadInto buffer =>
    refine isAboutPeer_receiving _ (fun c hc => ?_) h
    dsimp only at hc
    split at hc
    · exact isAboutPeer_finish p _ _ hc
    · cases hc
      rfl

end Channel

/-! ## Endpoints -/

namespace Endpoint

variable {α : Type} {p : Process} {e e' e'' : Endpoint} {r : Regions} {err : LinkError}
  {out : Endpoint × Regions}

/-- What a closed endpoint, a failed one, and one that fails fast say. -/
theorem ensureUsable_eq_error (h : e.ensureUsable = .error err) :
    e.closed = true ∧ err = .notInitialized ∨
      (∃ failure, e.monitor.failure = some failure ∧
        err = .reconnectFailed failure.attempts failure.elapsed) ∨
      e.monitor.policy.behavior = .immediately ∧ e.monitor.peerLost = true ∧
        err = .peerStale e.role.peer := by
  unfold ensureUsable at h
  split at h
  · rename_i hclosed
    cases h
    exact .inl ⟨hclosed, rfl⟩
  · split at h
    · rename_i failure hfailure
      cases h
      exact .inr (.inl ⟨failure, hfailure, rfl⟩)
    · split at h
      · rename_i hlost
        cases h
        exact .inr (.inr ⟨hlost.1, hlost.2, rfl⟩)
      · cases h

theorem failure_of_ensureUsable {attempts : UInt32} {elapsed : Duration}
    (h : e.ensureUsable = .error (.reconnectFailed attempts elapsed)) :
    e.monitor.failure = some ⟨attempts, elapsed⟩ := by
  rcases ensureUsable_eq_error h with ⟨-, herr⟩ | ⟨failure, hfailure, herr⟩ | ⟨-, -, herr⟩
  · cases herr
  · cases herr
    exact hfailure
  · cases herr

theorem ensureUsable_of_failure {failure : ReconnectFailure} (hopen : e.closed = false)
    (hfailure : e.monitor.failure = some failure) :
    e.ensureUsable = .error (.reconnectFailed failure.attempts failure.elapsed) := by
  rw [ensureUsable, if_neg (by simp [hopen]), hfailure]

/-- Only `ensureUsable` speaks about the peer. -/
theorem ensureUsable_of_write {payload : Bytes} (h : (e.write p payload r).1 = .error err)
    (habout : err.isAboutPeer = true) : e.ensureUsable = .error err := by
  rw [write] at h
  cases husable : e.ensureUsable with
  | error err' =>
    rw [husable] at h
    exact h
  | ok u =>
    rw [husable] at h
    have hchannel := Channel.isAboutPeer_write e.config.lockTimeout payload h
    rw [habout] at hchannel
    cases hchannel

theorem ensureUsable_of_poll {now : Instant}
    {attempt : EndpointConfig → Channel → Except LinkError α × Channel} {buffer : Option Bytes}
    (hread : Channel.IsRead p attempt buffer) (config : EndpointConfig)
    (h : (e.poll p now (attempt config) r).1 = some (.error err))
    (habout : err.isAboutPeer = true) : e.ensureUsable = .error err := by
  rw [poll] at h
  cases husable : e.ensureUsable with
  | error err' =>
    rw [husable] at h
    cases h
    rfl
  | ok u =>
    rw [husable] at h
    dsimp only at h
    split at h
    · cases h
    · rename_i result r' hresult hchannel
      have hresult : result = .error err := Option.some.inj h
      subst hresult
      have hordinary := hread.isAboutPeer config (congrArg Prod.fst hchannel)
      rw [habout] at hordinary
      cases hordinary

/-- The same endpoint, later: its monitor has been asked some more. -/
def Evolves (e e' : Endpoint) : Prop :=
  e'.config = e.config ∧ e'.role = e.role ∧ ∃ calls, e'.monitor = e.monitor.after calls

theorem Evolves.refl (e : Endpoint) : e.Evolves e := ⟨rfl, rfl, [], rfl⟩

theorem Evolves.trans (h : e.Evolves e') (h' : e'.Evolves e'') : e.Evolves e'' := by
  obtain ⟨hconfig, hrole, calls, hmonitor⟩ := h
  obtain ⟨hconfig', hrole', calls', hmonitor'⟩ := h'
  refine ⟨hconfig'.trans hconfig, hrole'.trans hrole, calls ++ calls', ?_⟩
  rw [hmonitor', hmonitor, Monitor.after, Monitor.after, Monitor.after, List.foldl_append]

theorem Move.evolves (hmove : Move p (e, r) out) : e.Evolves out.1 := by
  cases hmove with
  | passed | beaten => exact .refl e
  | judged hopen calls | moved hopen calls | left hopen calls | removed hopen calls =>
    exact ⟨rfl, rfl, calls, rfl⟩

/-- The monitor was started by the endpoint's settings. -/
def Judged (e : Endpoint) : Prop :=
  ∃ threshold present created calls,
    e.monitor = (Monitor.start (.ofConfig e.config e.role threshold) present created).after calls

theorem Judged.evolve (h : e.Judged) (hevolves : e.Evolves e') : e'.Judged := by
  obtain ⟨threshold, present, created, calls, hmonitor⟩ := h
  obtain ⟨hconfig, hrole, calls', hmonitor'⟩ := hevolves
  refine ⟨threshold, present, created, calls ++ calls', ?_⟩
  rw [hmonitor', hmonitor, hconfig, hrole, Monitor.after, Monitor.after, Monitor.after,
    List.foldl_append]

theorem Judged.consistent (h : e.Judged) : e.monitor.Consistent := by
  obtain ⟨threshold, present, created, calls, hmonitor⟩ := h
  rw [hmonitor]
  exact Monitor.consistent_after _ (Monitor.consistent_start ..) calls

theorem Judged.behavior_eq (h : e.Judged) : e.monitor.policy.behavior = e.config.behavior := by
  obtain ⟨threshold, present, created, calls, hmonitor⟩ := h
  rw [hmonitor, Monitor.policy_after]
  rfl

/-- Only a slave that reconnects within bounds gives up. -/
theorem Judged.of_failure (h : e.Judged) {failure : ReconnectFailure}
    (hfailure : e.monitor.failure = some failure) :
    e.config.behavior = .onTimeout ∧ e.role = .slave := by
  have hbounded : e.monitor.isBounded = true :=
    h.consistent.bounded (by rw [hfailure]; rfl)
  obtain ⟨hbehavior, hgivesUp⟩ := e.monitor.isBounded_iff.mp hbounded
  obtain ⟨threshold, present, created, calls, hmonitor⟩ := h
  rw [hmonitor, Monitor.policy_after] at hbehavior hgivesUp
  exact ⟨hbehavior, beq_iff_eq.mp hgivesUp⟩

/-- A peer is called stale by who fails fast, and while it is seen to be. -/
theorem Judged.of_peerStale (h : e.Judged) {peer : Role}
    (hrefused : e.ensureUsable = .error (.peerStale peer)) :
    e.config.behavior = .immediately ∧ e.monitor.state = .peerStale ∧
      e.monitor.peerSeen = true := by
  rcases ensureUsable_eq_error hrefused with ⟨-, herr⟩ | ⟨_, _, herr⟩ | ⟨hbehavior, hlost, -⟩
  · cases herr
  · cases herr
  · rw [Monitor.peerLost, Bool.and_eq_true, beq_iff_eq] at hlost
    exact ⟨h.behavior_eq ▸ hbehavior, hlost.2, hlost.1⟩

theorem Judged.failure_of_evolves (h : e.Judged) {failure : ReconnectFailure}
    (hfailure : e.monitor.failure = some failure) (hevolves : e.Evolves e') :
    e'.monitor.failure = some failure := by
  obtain ⟨-, -, calls, hmonitor⟩ := hevolves
  rw [hmonitor]
  exact (Monitor.failed_after h.consistent hfailure calls).1.2

theorem Moves.evolves (hmoves : Moves p (e, r) out) : e.Evolves out.1 := by
  induction hmoves with
  | refl => exact .refl e
  | tail _ hmove ih => exact ih.trans hmove.evolves

end Endpoint

/-! ## Companies -/

namespace Company

variable {α σ : Type} {p : Process} {c : Company} {e e' : Endpoint} {i : Nat} {err : LinkError}

theorem kept_judged (p : Process) : Kept p fun c => ∀ e ∈ c.endpoints, e.Judged where
  grown _ h _ := h
  entered {c config id side} threshold present now _ h _ _ e he := by
    rcases List.mem_append.mp he with hold | hnew
    · exact h e hold
    · rw [List.mem_singleton.mp hnew]
      exact ⟨threshold, present, now, [], rfl⟩
  dismissed _ h _ _ _ := h
  moved {c i e out} _ h he hmove e' he' := by
    rcases List.mem_or_eq_of_mem_set he' with hold | rfl
    · exact h e' hold
    · exact (h e (List.mem_of_getElem? he)).evolve hmove.evolves

/-- An endpoint stays the same one, and only closing it closes it. -/
theorem Orderly.evolves (h : c.Orderly) (p : Process) (he : c.endpoints[i]? = some e) (act : Act) :
    ∃ e', (c.perform p act).endpoints[i]? = some e' ∧ e.Evolves e' ∧
      (act ≠ .on i .close → e'.closed = e.closed) := by
  rcases endpoint_perform p he act with ⟨deed, rfl, hafter⟩ | ⟨-, hafter⟩
  · refine ⟨_, hafter, (deed.moves p (h.sound (List.mem_of_getElem? he))).evolves, fun hact => ?_⟩
    exact Deed.closed_carryOut p e c.regions fun hclose => hact (by rw [hclose])
  · exact ⟨e, hafter, .refl e, fun _ => rfl⟩

theorem Orderly.evolves_after (h : c.Orderly) (p : Process) (he : c.endpoints[i]? = some e)
    (acts : List Act) : ∃ e', (c.after p acts).endpoints[i]? = some e' ∧ e.Evolves e' := by
  refine (after_induction
    (J := fun c => c.Orderly ∧ ∃ e', c.endpoints[i]? = some e' ∧ e.Evolves e')
    (fun {c act} ⟨ho, e', he', hevolves⟩ _ => ?_) ⟨h, e, he, .refl e⟩ fun _ _ => trivial).2
  obtain ⟨e'', he'', hevolves', -⟩ := ho.evolves p he' act
  exact ⟨ho.perform p act, e'', he'', hevolves.trans hevolves'⟩

/-- Endpoint `i` is open, and it is the one that `e` was. -/
structure Continues (e : Endpoint) (i : Nat) (c : Company) : Prop where
  orderly : c.Orderly
  same : c.Has i e.Evolves

theorem Continues.perform (h : c.Continues e i) {act : Act} (hact : act ≠ .on i .close) :
    (c.perform p act).Continues e i := by
  obtain ⟨e', he', hopen, hevolves⟩ := h.same
  obtain ⟨e'', he'', hevolves', hclosed⟩ := h.orderly.evolves p he' act
  exact ⟨h.orderly.perform p act, e'', he'', (hclosed hact).trans hopen, hevolves.trans hevolves'⟩

theorem Continues.after (h : c.Continues e i) {acts : List Act} (hacts : Spares i acts) :
    (c.after p acts).Continues e i :=
  after_induction (fun h hact => h.perform hact) h hacts

/-- Endpoint `i` refuses to be used, in these words. -/
def Refuses (c : Company) (i : Nat) (err : LinkError) : Prop :=
  ∃ e, c.endpoints[i]? = some e ∧ e.ensureUsable = .error err

/-! ## Reads -/

variable {sane : σ → Prop} {view : σ → Company}
  {attempt : EndpointConfig → Channel → Except LinkError α × Channel} {buffer : Option Bytes}
  {w : Surroundings σ α} {s : σ} {out : Except LinkError α × σ}

/-- An endpoint that refuses to be used is not changed by a read. -/
theorem perform_poll_of_refused (he : c.endpoints[i]? = some e)
    (hrefused : e.ensureUsable = .error err) (now : Instant) (buffer : Option Bytes) :
    c.perform p (.on i (.poll now buffer)) = c := by
  have hpoll {α : Type} (attempt : Channel → Except LinkError α × Channel) :
      (e.poll p now attempt c.regions).2 = (e, c.regions) := by rw [Endpoint.poll, hrefused]
  have hsame : (Deed.poll now buffer).carryOut p e c.regions = (e, c.regions) := by
    cases buffer <;> exact hpoll _
  simp only [Company.perform, he, hsame, put_self he]

/-- A read that fails because of the peer leaves an endpoint that refuses for the same reason. -/
theorem Comes.refuses (h : Comes p i sane view attempt buffer c out)
    (hread : Channel.IsRead p attempt buffer) (hc : c.Continues e i)
    (herr : out.1 = .error err) (habout : err.isAboutPeer = true) :
    (view out.2).Continues e i ∧ (view out.2).Refuses i err := by
  obtain ⟨-, acts, hspares, hview, hresult⟩ := h
  have hafter : (view out.2).Continues e i := by
    rw [hview]
    exact hc.after hspares
  refine ⟨hafter, ?_⟩
  rcases hresult with (hnone | ⟨timeout, hlate⟩) | ⟨before, now, rfl, hanswer⟩
  · rw [hnone] at herr
    cases herr
    cases habout
  · rw [hlate] at herr
    cases herr
    cases habout
  · -- Only a refusal speaks about the peer, and a poll that is refused changes nothing.
    have hbefore : Spares i before := fun act hact =>
      hspares act (List.mem_append_left _ hact)
    obtain ⟨e', he', -, -⟩ := (hc.after (p := p) hbefore).same
    have hpolled := hanswer e' he'
    rw [herr] at hpolled
    have hrefused := Endpoint.ensureUsable_of_poll hread e'.config hpolled habout
    have hsame : (c.after p before).after p [.on i (.poll now buffer)] = c.after p before :=
      perform_poll_of_refused he' hrefused now buffer
    rw [hview, after_append, hsame]
    exact ⟨e', he', hrefused⟩

/-- What an endpoint goes on saying whatever happens, a read says at its first poll, if it comes as
far. -/
theorem Waits.read_of_refused (hw : Waits p i sane view attempt buffer w) (timeout : Duration)
    (hs : sane s)
    (hrefuses : ∀ acts, Spares i acts → ((view s).after p acts).Refuses i err) :
    (w.read timeout s).1 = ((w.clock s).1.after? timeout).map fun _ => .error err := by
  obtain ⟨hsane, acts, hspares, hview⟩ := hw.clock s hs
  obtain ⟨-, acts', now, hspares', -, hanswer⟩ := hw.poll _ hsane
  rw [hview, ← after_append] at hanswer
  obtain ⟨e', he', hrefused⟩ := hrefuses _ (hspares.append hspares')
  have hfirst := hanswer e' he'
  rw [Endpoint.poll, hrefused] at hfirst
  have hread (rounds : Nat) (deadline : Instant) :
      (w.pollUntil timeout deadline rounds (w.clock s).2).1 = .error err := by
    rcases hpolled : w.poll (w.clock s).2 with ⟨answer, s'⟩
    rw [hpolled] at hfirst
    cases hfirst
    cases rounds <;> rw [Surroundings.pollUntil, hpolled]
  cases hdeadline : (w.clock s).1.after? timeout with
  | none =>
    rw [Surroundings.read_of_untimely hdeadline]
    rfl
  | some deadline =>
    rw [Surroundings.read_of_timely hdeadline, hread]
    rfl

/-- Once reconnection has failed, a read says so. -/
theorem Waits.read_of_failure (hw : Waits p i sane view attempt buffer w) (timeout : Duration)
    {failure : ReconnectFailure} (he : e.Judged) (hfailure : e.monitor.failure = some failure)
    (hs : sane s) (h : (view s).Continues e i) :
    (w.read timeout s).1 = ((w.clock s).1.after? timeout).map fun _ =>
      .error (.reconnectFailed failure.attempts failure.elapsed) := by
  refine hw.read_of_refused timeout hs fun acts hspares => ?_
  obtain ⟨e', he', hopen, hevolves⟩ := (h.after (p := p) hspares).same
  exact ⟨e', he', Endpoint.ensureUsable_of_failure hopen (he.failure_of_evolves hfailure hevolves)⟩

/-! ## Refused calls -/

/-- A read or a write of endpoint `i` fails: the company before, the error, the company after. -/
inductive Fails (p : Process) (i : Nat) : Company → LinkError → Company → Prop where
  | write {c : Company} {e : Endpoint} {payload : Bytes} {err : LinkError} {r : Regions}
      (he : c.endpoints[i]? = some e) (h : e.write p payload c.regions = (.error err, r)) :
      Fails p i c err { c with regions := r }
  | writeItems {c : Company} {e : Endpoint} {items : List Item} {err : LinkError} {r : Regions}
      (he : c.endpoints[i]? = some e) (h : e.writeItems p items c.regions = (.error err, r)) :
      Fails p i c err { c with regions := r }
  | read {σ α : Type} {sane : σ → Prop} {view : σ → Company}
      {attempt : EndpointConfig → Channel → Except LinkError α × Channel} {buffer : Option Bytes}
      {w : Surroundings σ α} {timeout : Duration} {s s' : σ} {err : LinkError}
      (hread : Channel.IsRead p attempt buffer) (hw : Waits p i sane view attempt buffer w)
      (hs : sane s) (h : w.read timeout s = (some (.error err), s')) :
      Fails p i (view s) err (view s')
  | readItems {σ : Type} {sane : σ → Prop} {view : σ → Company}
      {attempt : EndpointConfig → Channel → Except LinkError Bytes × Channel}
      {buffer : Option Bytes} {w : Surroundings σ Bytes} {timeout : Duration} {s s' : σ}
      {result : Except LinkError Bytes} {err : LinkError}
      (hread : Channel.IsRead p attempt buffer) (hw : Waits p i sane view attempt buffer w)
      (hs : sane s) (h : w.read timeout s = (some result, s'))
      (hdecoded : Session.decoded result = .error err) : Fails p i (view s) err (view s')

theorem refuses_of_write {payload : Bytes} {r : Regions} (he : c.endpoints[i]? = some e)
    (h : e.write p payload c.regions = (.error err, r)) (habout : err.isAboutPeer = true) :
    r = c.regions ∧ c.Refuses i err := by
  have hrefused := Endpoint.ensureUsable_of_write (congrArg Prod.fst h) habout
  rw [Endpoint.write, hrefused] at h
  cases h
  exact ⟨rfl, e, he, hrefused⟩

/-- Who fails to read or write because of the peer says so before and after. -/
theorem Fails.refuses {c' : Company} (h : Fails p i c err c') (hc : c.Continues e i)
    (habout : err.isAboutPeer = true) : c'.Continues e i ∧ c'.Refuses i err := by
  cases h with
  | write he h =>
    obtain ⟨rfl, hrefused⟩ := refuses_of_write he h habout
    exact ⟨hc, hrefused⟩
  | @writeItems _ e' items _ _ he h =>
    rw [Endpoint.writeItems] at h
    cases hencode : Message.encode items with
    | error cause =>
      rw [hencode] at h
      cases h
      cases habout
    | ok payload =>
      rw [hencode] at h
      obtain ⟨rfl, hrefused⟩ := refuses_of_write he h habout
      exact ⟨hc, hrefused⟩
  | read hread hw hs h => exact (hw.comes_of_read hs h).refuses hread hc rfl habout
  | @readItems _ _ _ _ _ _ timeout _ _ result _ hread hw hs h hdecoded =>
    have hresult : result = .error err := by
      cases result with
      | error err' =>
        cases hdecoded
        rfl
      | ok payload =>
        rw [Session.decoded] at hdecoded
        split at hdecoded
        · cases hdecoded
        · cases hdecoded
          cases habout
    exact (hw.comes_of_read hs h).refuses hread hc hresult habout

/-- In every run, what a read or a write of an open endpoint says about the peer is what the
endpoint's behavior lets it say. Never: nothing. On timeout: that reconnection has failed, which only
a slave says. Immediately: that the peer is stale, while the monitor takes a peer that it has seen
for stale. And who has said that reconnection failed says the same to every later read whose deadline
a clock can show, and to every later write of bytes, whatever happens, as long as the endpoint is not
closed. -/
theorem refusals_follow_behavior (p : Process) (acts : List Act) {i : Nat} {e : Endpoint}
    {err : LinkError} {c' : Company} (he : (empty.after p acts).endpoints[i]? = some e)
    (hopen : e.closed = false) (hfails : Fails p i (empty.after p acts) err c') :
    (e.config.behavior = .never →
        (∀ peer, err ≠ .peerStale peer) ∧ ∀ attempts elapsed, err ≠ .reconnectFailed attempts elapsed) ∧
      (e.config.behavior = .onTimeout →
        (∀ peer, err ≠ .peerStale peer) ∧
          ∀ attempts elapsed, err = .reconnectFailed attempts elapsed → e.role = .slave) ∧
      (e.config.behavior = .immediately →
        (∀ attempts elapsed, err ≠ .reconnectFailed attempts elapsed) ∧
          ∀ peer, err = .peerStale peer → ∃ e', c'.endpoints[i]? = some e' ∧
            e'.monitor.state = .peerStale ∧ e'.monitor.peerSeen = true) ∧
      ∀ attempts elapsed, err = .reconnectFailed attempts elapsed →
        ∀ later, Spares i later → ∃ e', (c'.after p later).endpoints[i]? = some e' ∧
          (∀ payload, (e'.write p payload (c'.after p later).regions).1 =
            .error (.reconnectFailed attempts elapsed)) ∧
          ∀ {σ α : Type} (sane : σ → Prop) (view : σ → Company)
            (attempt : EndpointConfig → Channel → Except LinkError α × Channel)
            (buffer : Option Bytes) (w : Surroundings σ α) (timeout : Duration) (s : σ),
            Waits p i sane view attempt buffer w → sane s → view s = c'.after p later →
            (w.read timeout s).1 = ((w.clock s).1.after? timeout).map fun _ =>
              .error (.reconnectFailed attempts elapsed) := by
  obtain ⟨ho, hjudged⟩ := (kept_judged p).after orderly_empty
    (fun _ hmem => absurd hmem List.not_mem_nil) acts
  have hc : (empty.after p acts).Continues e i := ⟨ho, (has_self he).mpr ⟨hopen, .refl e⟩⟩
  have hsaid (habout : err.isAboutPeer = true) : ∃ e', c'.endpoints[i]? = some e' ∧
      c'.Continues e' i ∧ e'.Judged ∧ e'.config = e.config ∧ e'.role = e.role ∧
      e'.closed = false ∧ e'.ensureUsable = .error err := by
    obtain ⟨hc', e', he', hrefused⟩ := hfails.refuses hc habout
    obtain ⟨hopen', hevolves⟩ := (has_self he').mp hc'.same
    exact ⟨e', he', ⟨hc'.orderly, (has_self he').mpr ⟨hopen', .refl e'⟩⟩,
      (hjudged e (List.mem_of_getElem? he)).evolve hevolves, hevolves.1, hevolves.2.1, hopen',
      hrefused⟩
  have hstale (peer : Role) (herr : err = .peerStale peer) :
      e.config.behavior = .immediately ∧ ∃ e', c'.endpoints[i]? = some e' ∧
        e'.monitor.state = .peerStale ∧ e'.monitor.peerSeen = true := by
    subst herr
    obtain ⟨e', he', -, hjudged', hconfig, -, -, hrefused⟩ := hsaid rfl
    obtain ⟨hbehavior, hstate, hseen⟩ := hjudged'.of_peerStale hrefused
    exact ⟨hconfig ▸ hbehavior, e', he', hstate, hseen⟩
  have hfailed (attempts : UInt32) (elapsed : Duration)
      (herr : err = .reconnectFailed attempts elapsed) :
      e.config.behavior = .onTimeout ∧ e.role = .slave ∧ ∃ e', c'.endpoints[i]? = some e' ∧
        c'.Continues e' i ∧ e'.Judged ∧ e'.monitor.failure = some ⟨attempts, elapsed⟩ := by
    subst herr
    obtain ⟨e', he', hc', hjudged', hconfig, hrole, -, hrefused⟩ := hsaid rfl
    have hfailure := Endpoint.failure_of_ensureUsable hrefused
    obtain ⟨hbehavior, hslave⟩ := hjudged'.of_failure hfailure
    exact ⟨hconfig ▸ hbehavior, hrole ▸ hslave, e', he', hc', hjudged', hfailure⟩
  refine ⟨fun hnever => ⟨fun peer herr => ?_, fun attempts elapsed herr => ?_⟩,
    fun htimeout => ⟨fun peer herr => ?_, fun attempts elapsed herr => (hfailed _ _ herr).2.1⟩,
    fun himmediate => ⟨fun attempts elapsed herr => ?_, fun peer herr => (hstale peer herr).2⟩,
    fun attempts elapsed herr later hlater => ?_⟩
  · exact absurd (hnever.symm.trans (hstale peer herr).1) (by decide)
  · exact absurd (hnever.symm.trans (hfailed _ _ herr).1) (by decide)
  · exact absurd (htimeout.symm.trans (hstale peer herr).1) (by decide)
  · exact absurd (himmediate.symm.trans (hfailed _ _ herr).1) (by decide)
  · obtain ⟨-, -, e', -, hc', hjudged', hfailure⟩ := hfailed attempts elapsed herr
    have hlast := hc'.after (p := p) hlater
    obtain ⟨e'', he'', hopen'', hevolves⟩ := hlast.same
    have hrefused := Endpoint.ensureUsable_of_failure hopen''
      (hjudged'.failure_of_evolves hfailure hevolves)
    refine ⟨e'', he'', fun payload => ?_, fun sane view attempt buffer w timeout s hw hs hview => ?_⟩
    · rw [Endpoint.write, hrefused]
    · exact hw.read_of_failure timeout hjudged' hfailure hs (by rwa [hview])

/-! ## A slave that gives up -/

/-- A master falls silent, and its slave makes the one attempt that it may make. -/
def silence : List Act :=
  [.openEndpoint .able 0 { name := "a", role := .master },
    .openEndpoint .able 0 { name := "a", role := .slave, maxAttempts := some 1 },
    .on 1 (.tick 200000000), .on 1 (.tick 300000000)]

/-- The master comes back too late. -/
def lateReturn : List Act := [.on 0 (.tick 400000000), .on 1 (.tick 400000000)]

theorem refusals_follow_behavior_silence :
    ∃ e, (empty.after lonely silence).endpoints[1]? = some e ∧ e.closed = false ∧
      e.write lonely [0x78] (empty.after lonely silence).regions =
        (.error (.reconnectFailed 1 100000000), (empty.after lonely silence).regions) ∧
      e.role = .slave ∧
      ∃ e', ((empty.after lonely silence).after lonely lateReturn).endpoints[1]? = some e' ∧
        (e'.write lonely [0x79]
          ((empty.after lonely silence).after lonely lateReturn).regions).1 =
          .error (.reconnectFailed 1 100000000) := by
  have hsome : ((empty.after lonely silence).endpoints[1]?).isSome = true := by decide +kernel
  obtain ⟨e, he⟩ := Option.isSome_iff_exists.mp hsome
  have hstate : ((empty.after lonely silence).endpoints[1]?).map
      (fun e => (e.closed, e.config.behavior, e.monitor.failure)) =
        some (false, .onTimeout, some ⟨1, 100000000⟩) := by decide +kernel
  rw [he] at hstate
  obtain ⟨hopen, hbehavior, hfailure⟩ : e.closed = false ∧ e.config.behavior = .onTimeout ∧
      e.monitor.failure = some ⟨1, 100000000⟩ := by simpa using hstate
  have hwrite : e.write lonely [0x78] (empty.after lonely silence).regions =
      (.error (.reconnectFailed 1 100000000), (empty.after lonely silence).regions) := by
    rw [Endpoint.write, Endpoint.ensureUsable_of_failure hopen hfailure]
  obtain ⟨-, htimeout, -, hlater⟩ :=
    refusals_follow_behavior lonely silence he hopen (.write he hwrite)
  obtain ⟨e', he', hrefused, -⟩ := hlater 1 100000000 rfl lateReturn (by simp [Spares, lateReturn])
  exact ⟨e, he, hopen, hwrite, (htimeout hbehavior).2 1 100000000 rfl, e', he', hrefused [0x79]⟩

end Company

end PeerLink
