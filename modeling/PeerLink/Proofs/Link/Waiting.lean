import PeerLink.Link.Wait
import PeerLink.Proofs.Link.Company

/-! # Waiting in company

A read that waits is a run of acts like any other: polls, and between them whatever others do while
the clock is read and while the reader sleeps. A read whose deadline no clock can show has read the
clock, and no more.

* `Company.Spares`: acts among which an endpoint is not closed.
* `Channel.IsRead`: the two ways to take a message.
* `Company.Waits`: a read in surroundings that show a company.

Main statements: `Company.Waits.comes_of_read` and `Company.Waits.after_read`.
-/

namespace PeerLink
set_option autoImplicit false

variable {α σ : Type} {p : Process}

/-! ## Deadlines -/

namespace Surroundings

variable {w : Surroundings σ α} {timeout : Duration} {deadline : Instant} {s : σ}

theorem read_of_untimely (hdeadline : (w.clock s).1.after? timeout = none) :
    w.read timeout s = (none, (w.clock s).2) := by
  rw [read]
  dsimp only
  rw [hdeadline]

theorem read_of_timely (hdeadline : (w.clock s).1.after? timeout = some deadline) :
    w.read timeout s = (some (w.pollUntil timeout deadline timeout (w.clock s).2).1,
      (w.pollUntil timeout deadline timeout (w.clock s).2).2) := by
  rw [read]
  dsimp only
  rw [hdeadline]

end Surroundings

/-! ## What is not closed stays open -/

/-- Only closing an endpoint and a snapshot change more of it than where it is and how it judges. -/
theorem Deed.drifts_carryOut {deed : Deed} (p : Process) (e : Endpoint) (r : Regions)
    (hclose : deed ≠ .close) (hstats : deed ≠ .stats) : e.Drifts (deed.carryOut p e r).1 := by
  cases deed with
  | tick now => exact Endpoint.drifts_tick ..
  | beat =>
    rw [carryOut]
    split <;> exact .refl e
  | check now =>
    rw [carryOut]
    split
    · exact .refl e
    · exact Endpoint.drifts_check ..
  | poll now buffer => cases buffer <;> exact Endpoint.drifts_poll ..
  | write payload | writeItems items => exact .refl e
  | stats => exact absurd rfl hstats
  | close => exact absurd rfl hclose

/-- Only closing closes an endpoint. -/
theorem Deed.closed_carryOut {deed : Deed} (p : Process) (e : Endpoint) (r : Regions)
    (hdeed : deed ≠ .close) : (deed.carryOut p e r).1.closed = e.closed := by
  by_cases hstats : deed = .stats
  · rw [hstats, carryOut, Endpoint.stats]
    split <;> rfl
  · exact (drifts_carryOut p e r hdeed hstats).closed_eq

/-! ## Reads -/

/-- The two ways to take a message, as the endpoint's settings have it, and the buffer that the
message goes into. -/
inductive Channel.IsRead (p : Process) : {α : Type} →
    (EndpointConfig → Channel → Except LinkError α × Channel) → Option Bytes → Prop where
  | tryRead : IsRead p (fun config => (·.tryRead p config.lockTimeout)) none
  | tryReadInto (buffer : Bytes) :
      IsRead p (fun config => (·.tryReadInto p config.lockTimeout buffer)) (some buffer)

namespace Company

variable {c : Company} {i : Nat} {acts acts' : List Act}

/-- Endpoint `i` is not closed meanwhile. -/
def Spares (i : Nat) (acts : List Act) : Prop := ∀ act ∈ acts, act ≠ .on i .close

theorem Spares.append (h : Spares i acts) (h' : Spares i acts') : Spares i (acts ++ acts') :=
  fun act hact => (List.mem_append.mp hact).elim (h act) (h' act)

theorem spares_nil : Spares i [] := fun _ hact => absurd hact List.not_mem_nil

theorem spares_poll (i : Nat) (now : Instant) (buffer : Option Bytes) :
    Spares i [.on i (.poll now buffer)] := fun act hact => by
  rw [List.mem_singleton.mp hact]
  exact nofun

theorem after_append (p : Process) (c : Company) (acts acts' : List Act) :
    c.after p (acts ++ acts') = (c.after p acts).after p acts' :=
  List.foldl_append

/-- A read of endpoint `i` where others act: before a poll, while the clock is read, and while the
reader sleeps. The states that are `sane` show a company, and stay so. -/
structure Waits (p : Process) (i : Nat) (sane : σ → Prop) (view : σ → Company)
    (attempt : EndpointConfig → Channel → Except LinkError α × Channel) (buffer : Option Bytes)
    (w : Surroundings σ α) : Prop where
  poll : ∀ s, sane s → sane (w.poll s).2 ∧ ∃ acts now, Spares i acts ∧
    view (w.poll s).2 = (view s).after p (acts ++ [.on i (.poll now buffer)]) ∧
    ∀ e, ((view s).after p acts).endpoints[i]? = some e →
      (w.poll s).1 = (e.poll p now (attempt e.config) ((view s).after p acts).regions).1
  clock : ∀ s, sane s → sane (w.clock s).2 ∧
    ∃ acts, Spares i acts ∧ view (w.clock s).2 = (view s).after p acts
  sleep : ∀ d s, sane s → sane (w.sleep d s) ∧
    ∃ acts, Spares i acts ∧ view (w.sleep d s) = (view s).after p acts

/-- What a read that began in a company comes to: what its last poll answered, or that there was
nothing in time. -/
def Comes (p : Process) (i : Nat) (sane : σ → Prop) (view : σ → Company)
    (attempt : EndpointConfig → Channel → Except LinkError α × Channel) (buffer : Option Bytes)
    (c : Company) (out : Except LinkError α × σ) : Prop :=
  sane out.2 ∧ ∃ acts, Spares i acts ∧ view out.2 = c.after p acts ∧
    ((out.1 = .error .noData ∨ ∃ timeout, out.1 = .error (.timeout timeout)) ∨
      ∃ before now, acts = before ++ [.on i (.poll now buffer)] ∧
        ∀ e, (c.after p before).endpoints[i]? = some e →
          (e.poll p now (attempt e.config) (c.after p before).regions).1 = some out.1)

namespace Waits

variable {sane : σ → Prop} {view : σ → Company}
  {attempt : EndpointConfig → Channel → Except LinkError α × Channel} {buffer : Option Bytes}
  {w : Surroundings σ α} {s s' : σ} {out : Except LinkError α × σ}

theorem comes_later (hspares : Spares i acts) (hview : view s' = c.after p acts)
    (h : Comes p i sane view attempt buffer (view s') out) :
    Comes p i sane view attempt buffer c out := by
  obtain ⟨hsane, acts', hspares', hview', hresult⟩ := h
  rw [hview] at hview' hresult
  refine ⟨hsane, acts ++ acts', hspares.append hspares', by rw [hview', after_append],
    hresult.imp_right ?_⟩
  rintro ⟨before, now, rfl, hanswer⟩
  exact ⟨acts ++ before, now, (List.append_assoc ..).symm, fun e => by
    rw [after_append]
    exact hanswer e⟩

theorem comes_quiet (hs : sane s) {result : Except LinkError α}
    (h : result = .error .noData ∨ ∃ timeout, result = .error (.timeout timeout)) :
    Comes p i sane view attempt buffer (view s) (result, s) :=
  ⟨hs, [], spares_nil, rfl, .inl h⟩

/-- A poll answers, or the read goes on. -/
theorem poll_cases (hw : Waits p i sane view attempt buffer w) (hs : sane s) :
    (∃ result s', w.poll s = (some result, s') ∧
      Comes p i sane view attempt buffer (view s) (result, s')) ∨
    ∃ s', w.poll s = (none, s') ∧ sane s' ∧ ∀ {out},
      Comes p i sane view attempt buffer (view s') out →
        Comes p i sane view attempt buffer (view s) out := by
  obtain ⟨hpolled, acts, now, hspares, hview, hanswer⟩ := hw.poll s hs
  have hspares' := hspares.append (spares_poll i now buffer)
  rcases hpoll : w.poll s with ⟨_ | result, s'⟩
  · rw [hpoll] at hpolled hview
    exact .inr ⟨s', rfl, hpolled, comes_later hspares' hview⟩
  · rw [hpoll] at hpolled hview hanswer
    exact .inl ⟨result, s', rfl, hpolled, _, hspares', hview,
      .inr ⟨acts, now, rfl, fun e he => (hanswer e he).symm⟩⟩

theorem pollUntil_comes (hw : Waits p i sane view attempt buffer w) (timeout : Duration)
    (deadline : Instant) (rounds : Nat) (hs : sane s) :
    Comes p i sane view attempt buffer (view s) (w.pollUntil timeout deadline rounds s) := by
  -- Strong induction: with and without rounds left, a round begins alike.
  induction rounds using Nat.strongRecOn generalizing s with
  | ind rounds ih =>
    rw [Surroundings.pollUntil]
    rcases hw.poll_cases hs with ⟨result, s', hpoll, hcomes⟩ | ⟨s', hpoll, hs', hlater⟩
    · rw [hpoll]
      exact hcomes
    · obtain ⟨hclocked, acts, hspares, hview⟩ := hw.clock s' hs'
      have hlate : Comes p i sane view attempt buffer (view s')
          (.error (.timeout timeout), (w.clock s').2) :=
        comes_later hspares hview (comes_quiet hclocked (.inr ⟨timeout, rfl⟩))
      rw [hpoll]
      refine hlater ?_
      dsimp only
      split
      · exact comes_quiet hs' (.inl rfl)
      · split
        · exact hlate
        · cases rounds with
          | zero => exact hlate
          | succ rounds =>
            obtain ⟨hslept, acts', hspares', hview'⟩ := hw.sleep _ _ hclocked
            exact comes_later hspares hview
              (comes_later hspares' hview' (ih rounds (Nat.lt_succ_self rounds) hslept))

/-- A read that has an answer. -/
theorem comes_of_read (hw : Waits p i sane view attempt buffer w) {timeout : Duration}
    {result : Except LinkError α} (hs : sane s) (h : w.read timeout s = (some result, s')) :
    Comes p i sane view attempt buffer (view s) (result, s') := by
  obtain ⟨hclocked, acts, hspares, hview⟩ := hw.clock s hs
  cases hdeadline : (w.clock s).1.after? timeout with
  | none =>
    rw [Surroundings.read_of_untimely hdeadline] at h
    cases h
  | some deadline =>
    rw [Surroundings.read_of_timely hdeadline] at h
    cases h
    exact comes_later hspares hview (hw.pollUntil_comes timeout deadline timeout hclocked)

/-- A read is a run, whether it has an answer or breaks off. -/
theorem after_read (hw : Waits p i sane view attempt buffer w) (timeout : Duration) (hs : sane s) :
    sane (w.read timeout s).2 ∧
      ∃ acts, Spares i acts ∧ view (w.read timeout s).2 = (view s).after p acts := by
  cases hdeadline : (w.clock s).1.after? timeout with
  | none =>
    rw [Surroundings.read_of_untimely hdeadline]
    exact hw.clock s hs
  | some deadline =>
    have hread := Surroundings.read_of_timely hdeadline
    obtain ⟨hsane, acts, hspares, hview, -⟩ := hw.comes_of_read hs hread
    rw [hread]
    exact ⟨hsane, acts, hspares, hview⟩

end Waits

end Company

end PeerLink
