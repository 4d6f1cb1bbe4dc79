import Mathlib.Order.Monotone.Basic
import PeerLink.Proofs.Link.Bystanders
import PeerLink.Proofs.Link.Tenure

/-! # Reads without a worker

A read by an endpoint that has no worker, while nobody else acts and its clock reads whatever it
does, each time later than before. It reckons its deadline, and breaks off if no clock can show it.
Then it ticks, it looks into the mailbox, and only then it asks whether its time is up.

* `Surroundings.Course`: the rounds of a read, without a bound on their number;
  `Surroundings.Advances.read_course` says that every read with a deadline is one.
* `Channel.Takes`: the ways to take a message, and the answer to one that waits.
* `Vigil`: an endpoint, the regions, and how often the clock has been read.
* `Vigil.Lasts`: how a read of an empty mailbox goes on, and what ends it.

Main statement: `Vigil.read_result`.
-/

namespace PeerLink
set_option autoImplicit false

/-! ## Rounds -/

namespace Surroundings

variable {σ α : Type} {w : Surroundings σ α} {timeout : Duration} {deadline : Instant} {s : σ}

/-- The rounds of a read up to its end: the states after its polls, and what it comes to. -/
inductive Course (w : Surroundings σ α) (timeout : Duration) (deadline : Instant) :
    σ → List σ → Except LinkError α × σ → Prop where
  | answered {s s' : σ} {result : Except LinkError α} (hpoll : w.poll s = (some result, s')) :
      Course w timeout deadline s [s'] (result, s')
  | nothing {s s' : σ} (hpoll : w.poll s = (none, s')) (hspan : timeout = 0) :
      Course w timeout deadline s [s'] (.error .noData, s')
  | late {s s' s'' : σ} {now : Instant} (hpoll : w.poll s = (none, s')) (hspan : timeout ≠ 0)
      (hclock : w.clock s' = (now, s'')) (hlate : deadline ≤ now) :
      Course w timeout deadline s [s'] (.error (.timeout timeout), s'')
  | again {s s' s'' : σ} {now : Instant} {polls : List σ} {out : Except LinkError α × σ}
      (hpoll : w.poll s = (none, s')) (hspan : timeout ≠ 0) (hclock : w.clock s' = (now, s''))
      (hearly : now < deadline)
      (hrest : Course w timeout deadline (w.sleep (min pollInterval (deadline - now)) s'') polls
        out) :
      Course w timeout deadline s (s' :: polls) out

theorem Course.eq_of_answer {s' : σ} {result : Except LinkError α} {polls : List σ}
    {out : Except LinkError α × σ} (h : w.Course timeout deadline s polls out)
    (hpoll : w.poll s = (some result, s')) : polls = [s'] ∧ out = (result, s') := by
  cases h with
  | answered hpoll' =>
    cases hpoll.symm.trans hpoll'
    exact ⟨rfl, rfl⟩
  | nothing hpoll' | late hpoll' | again hpoll' => cases hpoll.symm.trans hpoll'

theorem Course.eq_of_nothing {s' : σ} {polls : List σ} {out : Except LinkError α × σ}
    (h : w.Course timeout deadline s polls out) (hpoll : w.poll s = (none, s'))
    (hzero : timeout = 0) : polls = [s'] ∧ out = (.error .noData, s') := by
  cases h with
  | answered hpoll' => cases hpoll.symm.trans hpoll'
  | nothing hpoll' =>
    cases hpoll.symm.trans hpoll'
    exact ⟨rfl, rfl⟩
  | late _ hspan | again _ hspan => exact absurd hzero hspan

theorem Course.poll_mem {polls : List σ} {out : Except LinkError α × σ}
    (h : w.Course timeout deadline s polls out) : (w.poll s).2 ∈ polls := by
  cases h with
  | answered hpoll | nothing hpoll | late hpoll | again hpoll =>
    rw [hpoll]
    exact List.mem_cons_self

/-- The clock never shows less than a state's `reading`, and more once it has been read. -/
structure Advances (w : Surroundings σ α) (reading : σ → Instant) : Prop where
  poll : ∀ s, reading s ≤ reading (w.poll s).2
  clock : ∀ s, reading s ≤ (w.clock s).1 ∧ (w.clock s).1 < reading (w.clock s).2
  sleep : ∀ d s, reading s ≤ reading (w.sleep d s)

namespace Advances

variable {reading : σ → Instant}

/-- The bound on the rounds never decides: before they are used up, the deadline has passed. -/
theorem pollUntil_course (h : w.Advances reading) (timeout : Duration) {rounds : Nat}
    (hrounds : deadline ≤ reading s + rounds) :
    ∃ polls, w.Course timeout deadline s polls (w.pollUntil timeout deadline rounds s) := by
  -- Strong induction: with and without rounds left, a round begins alike.
  induction rounds using Nat.strongRecOn generalizing s with
  | ind rounds ih =>
    have hpolled := h.poll s
    rw [pollUntil]
    rcases hpoll : w.poll s with ⟨_ | result, s'⟩
    · rw [hpoll] at hpolled
      have hclocked := h.clock s'
      dsimp only at hpolled ⊢
      split
      · next hspan => exact ⟨[s'], .nothing hpoll hspan⟩
      · next hspan =>
        split
        · next hlate => exact ⟨[s'], .late hpoll hspan rfl hlate⟩
        · next hearly =>
          cases rounds with
          | zero =>
            refine absurd ?_ hearly
            calc deadline ≤ reading s := hrounds
              _ ≤ reading s' := hpolled
              _ ≤ (w.clock s').1 := hclocked.1
          | succ rounds =>
            have hlater : reading s + 1 ≤
                reading (w.sleep (min pollInterval (deadline - (w.clock s').1)) (w.clock s').2) :=
              calc reading s + 1 ≤ (w.clock s').1 + 1 :=
                    Nat.succ_le_succ (Nat.le_trans hpolled hclocked.1)
                _ ≤ reading (w.clock s').2 := hclocked.2
                _ ≤ _ := h.sleep _ _
            obtain ⟨polls, hcourse⟩ := ih rounds (Nat.lt_succ_self rounds) <|
              calc deadline ≤ reading s + (rounds + 1) := hrounds
                _ = reading s + 1 + rounds := Nat.add_right_comm (reading s) rounds 1
                _ ≤ _ := Nat.add_le_add_right hlater rounds
            exact ⟨s' :: polls, .again hpoll hspan rfl (Nat.lt_of_not_le hearly) hcourse⟩
    · exact ⟨[s'], .answered hpoll⟩

theorem read_course (h : w.Advances reading) {timeout : Duration}
    (hdeadline : (w.clock s).1.after? timeout = some ((w.clock s).1 + timeout)) :
    ∃ result s' polls, w.read timeout s = (some result, s') ∧
      w.Course timeout ((w.clock s).1 + timeout) (w.clock s).2 polls (result, s') := by
  have hrounds : (w.clock s).1 + timeout ≤ reading (w.clock s).2 + timeout :=
    Nat.add_le_add_right (Nat.le_of_lt (h.clock s).2) timeout
  obtain ⟨polls, hcourse⟩ := h.pollUntil_course timeout hrounds
  exact ⟨_, _, polls, read_of_timely hdeadline, hcourse⟩

end Advances

end Surroundings

/-! ## Ways to take a message -/

namespace Channel

variable {α : Type} {p : Process} {c : Channel} {lockTimeout : Duration}
  {attempt : Channel → Except LinkError α × Channel} {answer : Mailbox → Except LinkError α}

/-- The two ways to take a message, and what they answer if one waits in the mailbox. -/
inductive Takes (p : Process) (lockTimeout : Duration) : {α : Type} →
    (Channel → Except LinkError α × Channel) → (Mailbox → Except LinkError α) → Prop where
  | tryRead : Takes p lockTimeout (·.tryRead p lockTimeout) (fun m => .ok m.message)
  | tryReadInto (buffer : Bytes) :
      Takes p lockTimeout (·.tryReadInto p lockTimeout buffer) fun m =>
        if m.message.length ≤ buffer.length then
          .ok (m.message.length, m.message ++ buffer.drop m.message.length)
        else .error (.bufferTooSmall m.message.length buffer.length)

namespace Takes

theorem sparing (h : Takes p lockTimeout attempt answer) : Sparing attempt := by
  cases h with
  | tryRead => exact sparing_tryRead p lockTimeout
  | tryReadInto buffer => exact sparing_tryReadInto p lockTimeout buffer

theorem attempt_of_empty (h : Takes p lockTimeout attempt answer)
    (hempty : c.mailbox.pending = false) : attempt c = (.error .noData, c) := by
  cases h with
  | tryRead => exact tryRead_of_empty lockTimeout hempty
  | tryReadInto buffer => exact tryReadInto_of_empty lockTimeout buffer hempty

theorem attempt_of_pending (h : Takes p lockTimeout attempt answer)
    (hpending : c.mailbox.pending = true) (hfree : c.lock.owner = 0) :
    (attempt c).1 = answer c.mailbox := by
  cases h with
  | tryRead =>
    dsimp only
    rw [tryRead_of_free lockTimeout hpending hfree]
  | tryReadInto buffer =>
    dsimp only
    rw [tryReadInto_of_free lockTimeout buffer hpending hfree]
    split
    · rfl
    · rfl

theorem answer_ne_noData (h : Takes p lockTimeout attempt answer) (m : Mailbox) :
    answer m ≠ .error .noData := by
  cases h with
  | tryRead => exact nofun
  | tryReadInto buffer =>
    dsimp only
    split
    · exact nofun
    · exact nofun

end Takes

end Channel

/-! ## Ticks -/

namespace Endpoint

variable {p : Process} {clock : Nat → Instant} {e : Endpoint} {r : Regions} {id : ObjectId}
  {d : Direction} {m : Mailbox}

open Regions (Posted)

/-- An endpoint and the regions after a number of ticks. Every second reading of the clock is a
tick's. -/
def ticked (p : Process) (clock : Nat → Instant) (e : Endpoint) (r : Regions) :
    Nat → Endpoint × Regions
  | 0 => (e, r)
  | n + 1 => (ticked p clock e r n).1.tick p (clock (2 * n + 1)) (ticked p clock e r n).2

theorem drifts_ticked (p : Process) (clock : Nat → Instant) (e : Endpoint) (r : Regions) (n : Nat) :
    e.Drifts (e.ticked p clock r n).1 := by
  induction n with
  | zero => exact .refl e
  | succ n ih => exact ih.trans (drifts_tick ..)

theorem config_ticked (n : Nat) : (e.ticked p clock r n).1.config = e.config := by
  obtain ⟨_, _, h⟩ := drifts_ticked p clock e r n
  rw [h]

theorem role_ticked (n : Nat) : (e.ticked p clock r n).1.role = e.role := by
  obtain ⟨_, _, h⟩ := drifts_ticked p clock e r n
  rw [h]

theorem evolves_ticked (p : Process) (clock : Nat → Instant) (r : Regions)
    (hopen : e.closed = false) (n : Nat) : e.Evolves (e.ticked p clock r n).1 := by
  induction n with
  | zero => exact .refl e
  | succ n ih =>
    have hopen' : (e.ticked p clock r n).1.closed = false :=
      (drifts_ticked p clock e r n).closed_eq.trans hopen
    exact ih.trans (steps_tick p _ _ hopen').evolves

theorem posted_ticked (h : Posted id d m r) (n : Nat) : Posted id d m (e.ticked p clock r n).2 := by
  induction n with
  | zero => exact h
  | succ n ih => exact posted_tick p _ _ ih

theorem posted_of_stays {n : Nat} (h : Posted e.region d m r)
    (hstays : (e.ticked p clock r n).1.region = e.region) :
    Posted (e.ticked p clock r n).1.region d m (e.ticked p clock r n).2 := by
  rw [hstays]
  exact posted_ticked h n

/-- Who fails fast makes no attempts to reconnect, so none can come too late. -/
theorem overruns_of_immediately (hconsistent : e.monitor.Consistent)
    (hbehavior : e.monitor.policy.behavior = .immediately) (now : Instant) (r : Regions) :
    e.overruns now r = false := by
  have hmove := e.monitor.observe_move (e.peerHeartbeat r) now
  rw [overruns]
  generalize (e.monitor.observe (e.peerHeartbeat r) now).1 = m at hmove
  generalize (e.monitor.observe (e.peerHeartbeat r) now).2 = event at hmove
  cases hmove with
  | announced hstate => exact absurd hbehavior (hconsistent.seeking hstate).1
  | _ => rfl

/-- Ticks do not close an endpoint, so what they make it say is about its peer. -/
theorem refusal_of_ticked {n : Nat} {err : LinkError} (husable : e.ensureUsable = .ok ())
    (hrefused : (e.ticked p clock r n).1.ensureUsable = .error err) :
    err = .peerStale e.role.peer ∨ ∃ attempts elapsed, err = .reconnectFailed attempts elapsed := by
  rcases ensureUsable_eq_error hrefused with ⟨hclosed, -⟩ | ⟨failure, -, herr⟩ | ⟨-, -, herr⟩
  · rw [(drifts_ticked p clock e r n).closed_eq] at hclosed
    rw [ensureUsable, if_pos hclosed] at husable
    cases husable
  · exact .inr ⟨failure.attempts, failure.elapsed, herr⟩
  · rw [role_ticked] at herr
    exact .inl herr

section Looking

variable {α : Type} {lockTimeout : Duration} {attempt : Channel → Except LinkError α × Channel}
  {answer : Mailbox → Except LinkError α}

theorem onChannel_of_pending (htakes : Channel.Takes p lockTimeout attempt answer)
    (h : Posted e.region d m r) (hpending : m.pending = true) :
    (e.onChannel d attempt r).1 = answer m := by
  obtain ⟨-, hfree, rfl⟩ := h
  exact htakes.attempt_of_pending (c := (r.layout e.region).channel d) hpending hfree

theorem onChannel_of_empty (htakes : Channel.Takes p lockTimeout attempt answer)
    (h : Posted e.region d m r) (hempty : m.pending = false) :
    e.onChannel d attempt r = (.error .noData, r) := by
  obtain ⟨-, hfree, rfl⟩ := h
  apply onChannel_of_error htakes.sparing hfree
  exact congrArg Prod.fst
    (htakes.attempt_of_empty (c := (r.layout e.region).channel d) hempty)

end Looking

end Endpoint

/-! ## Vigils -/

/-- An endpoint that reads while nobody else acts. -/
structure Vigil where
  endpoint : Endpoint
  regions : Regions
  /-- How often the clock has been read. -/
  readings : Nat

namespace Vigil

variable {α : Type} {p : Process} {clock : Nat → Instant} {lockTimeout timeout : Duration}
  {deadline : Instant} {attempt : Channel → Except LinkError α × Channel}
  {answer : Mailbox → Except LinkError α} {e : Endpoint} {r : Regions} {m : Mailbox} {n : Nat}
  {s : Vigil} {polls : List Vigil} {out : Except LinkError α × Vigil}

open Regions (Posted)

/-- In the first `n` rounds no tick puts the next attempt to reconnect later than clocks go. A tick
that does breaks off, and the read with it. -/
def Punctual (p : Process) (clock : Nat → Instant) (e : Endpoint) (r : Regions) (n : Nat) : Prop :=
  ∀ j < n, (e.ticked p clock r j).1.ensureUsable = .ok () →
    (e.ticked p clock r j).1.overruns (clock (2 * j + 1))
      ((e.ticked p clock r j).1.beat (e.ticked p clock r j).2) = false

theorem punctual_of_immediately (hopen : e.closed = false) (hjudged : e.Judged)
    (hbehavior : e.config.behavior = .immediately) (n : Nat) : Punctual p clock e r n := by
  intro j _ _
  have hticked := hjudged.evolve (Endpoint.evolves_ticked p clock r hopen j)
  have hsame : (e.ticked p clock r j).1.monitor.policy.behavior = e.config.behavior := by
    rw [hticked.behavior_eq, Endpoint.config_ticked]
  exact Endpoint.overruns_of_immediately hticked.consistent (hsame.trans hbehavior) _ _

/-- Each poll takes a reading of the clock for its tick, and so does each look at the clock. How
much later the next reading is, sleeping or not, is up to the clock. -/
def surroundings (p : Process) (clock : Nat → Instant)
    (attempt : Channel → Except LinkError α × Channel) : Surroundings Vigil α where
  poll v :=
    -- a poll that is refused does not tick, but then no later reading is taken
    let (result, e, r) := v.endpoint.poll p (clock v.readings) attempt v.regions
    (result, ⟨e, r, v.readings + 1⟩)
  clock v := (clock v.readings, { v with readings := v.readings + 1 })
  sleep _ v := v

theorem advances (hclock : StrictMono clock)
    (attempt : Channel → Except LinkError α × Channel) :
    (surroundings p clock attempt).Advances fun v => clock v.readings where
  poll v := hclock.monotone (Nat.le_succ v.readings)
  clock v := ⟨Nat.le_refl _, hclock (Nat.lt_succ_self v.readings)⟩
  sleep _ _ := Nat.le_refl _

/-- The start of the next round, after a number of ticks. -/
def after (p : Process) (clock : Nat → Instant) (e : Endpoint) (r : Regions) (n : Nat) : Vigil :=
  ⟨(e.ticked p clock r n).1, (e.ticked p clock r n).2, 2 * n + 1⟩

/-! ### One round -/

theorem poll_eq (v : Vigil) : (surroundings p clock attempt).poll v =
    ((v.endpoint.poll p (clock v.readings) attempt v.regions).1,
      ⟨(v.endpoint.poll p (clock v.readings) attempt v.regions).2.1,
        (v.endpoint.poll p (clock v.readings) attempt v.regions).2.2, v.readings + 1⟩) :=
  rfl

theorem poll_of_refused {err : LinkError}
    (hrefused : (e.ticked p clock r n).1.ensureUsable = .error err) :
    (surroundings p clock attempt).poll (after p clock e r n) =
      (some (.error err), ⟨(e.ticked p clock r n).1, (e.ticked p clock r n).2, 2 * n + 2⟩) := by
  have hpoll : (e.ticked p clock r n).1.poll p (clock (2 * n + 1)) attempt
      (e.ticked p clock r n).2 = (some (.error err), e.ticked p clock r n) := by
    rw [Endpoint.poll, hrefused]
  rw [poll_eq, after, hpoll]

theorem keeps_of_poll {s' : Vigil} {result : Option (Except LinkError α)}
    (hpoll : (surroundings p clock attempt).poll s = (result, s'))
    (hrole : s.endpoint.role ≠ .slave) :
    s'.endpoint.region = s.endpoint.region ∧ s'.endpoint.role = s.endpoint.role := by
  obtain ⟨_, _, hdrifts⟩ := Endpoint.drifts_poll p (clock s.readings) attempt s.endpoint s.regions
  have hregion := Endpoint.region_poll p (clock s.readings) attempt s.regions hrole
  have hkept : (s.endpoint.poll p (clock s.readings) attempt s.regions).2.1.role =
      s.endpoint.role := by rw [hdrifts]
  rw [poll_eq] at hpoll
  cases hpoll
  exact ⟨hregion, hkept⟩

/-- Only a slave moves during a read. -/
theorem stays_of_course (hrole : s.endpoint.role ≠ .slave)
    (hcourse : (surroundings p clock attempt).Course timeout deadline s polls out) :
    ∀ v ∈ polls, v.endpoint.region = s.endpoint.region := by
  induction hcourse with
  | answered hpoll | nothing hpoll | late hpoll =>
    intro v hv
    rw [List.mem_singleton.mp hv]
    exact (keeps_of_poll hpoll hrole).1
  | again hpoll _ hclock _ _ ih =>
    obtain ⟨hregion, hkept⟩ := keeps_of_poll hpoll hrole
    cases hclock
    rw [List.forall_mem_cons, ← hregion]
    exact ⟨rfl, ih (hkept ▸ hrole)⟩

/-! ### Reads of an empty mailbox -/

/-- From tick `n` to tick `k`, a read of an empty mailbox goes on. It ends because a reading of the
clock has reached the deadline, or because tick `k` has made the endpoint refuse to be used. -/
structure Lasts (p : Process) (clock : Nat → Instant) (e : Endpoint) (r : Regions)
    (timeout : Duration) (deadline : Instant) (n k : Nat) (out : Except LinkError α × Vigil) :
    Prop where
  le : n ≤ k
  endpoint : out.2.endpoint = (e.ticked p clock r k).1
  regions : out.2.regions = (e.ticked p clock r k).2
  usable : ∀ j, n ≤ j → j < k → (e.ticked p clock r j).1.ensureUsable = .ok ()
  early : ∀ j, n < j → j < k → clock (2 * j) < deadline
  ends : n < k ∧ out.1 = .error (.timeout timeout) ∧ deadline ≤ clock (2 * k) ∨
    ∃ err, out.1 = .error err ∧ (e.ticked p clock r k).1.ensureUsable = .error err ∧
      (n < k → clock (2 * k) < deadline)

theorem lasts_refused {err : LinkError}
    (hrefused : (e.ticked p clock r n).1.ensureUsable = .error err) :
    Lasts p clock e r timeout deadline n n
      ((.error err, ⟨(e.ticked p clock r n).1, (e.ticked p clock r n).2, 2 * n + 2⟩) :
        Except LinkError α × Vigil) where
  le := Nat.le_refl n
  endpoint := rfl
  regions := rfl
  usable _ hj hlt := absurd hlt (Nat.not_lt_of_le hj)
  early _ hj hlt := absurd hlt (Nat.lt_asymm hj)
  ends := .inr ⟨err, rfl, hrefused, fun hlt => absurd hlt (Nat.lt_irrefl n)⟩

theorem lasts_late (husable : (e.ticked p clock r n).1.ensureUsable = .ok ())
    (hlate : deadline ≤ clock (2 * (n + 1))) (readings : Nat) :
    Lasts p clock e r timeout deadline n (n + 1)
      ((.error (.timeout timeout),
          ⟨(e.ticked p clock r (n + 1)).1, (e.ticked p clock r (n + 1)).2, readings⟩) :
        Except LinkError α × Vigil) where
  le := Nat.le_succ n
  endpoint := rfl
  regions := rfl
  usable j hj hlt := by
    obtain rfl : j = n := Nat.le_antisymm (Nat.le_of_lt_succ hlt) hj
    exact husable
  early _ hj hlt := absurd hj (Nat.not_lt_of_le (Nat.le_of_lt_succ hlt))
  ends := .inl ⟨Nat.lt_succ_self n, rfl, hlate⟩

theorem Lasts.again {k : Nat} (h : Lasts p clock e r timeout deadline (n + 1) k out)
    (husable : (e.ticked p clock r n).1.ensureUsable = .ok ())
    (hearly : clock (2 * (n + 1)) < deadline) : Lasts p clock e r timeout deadline n k out where
  le := Nat.le_of_succ_le h.le
  endpoint := h.endpoint
  regions := h.regions
  usable j hj hlt := by
    rcases Nat.eq_or_lt_of_le hj with rfl | hj
    · exact husable
    · exact h.usable j hj hlt
  early j hj hlt := by
    rcases Nat.eq_or_lt_of_le (Nat.succ_le_of_lt hj) with rfl | hj
    · exact hearly
    · exact h.early j hj hlt
  ends := by
    rcases h.ends with ⟨-, hlate⟩ | ⟨err, herr, hrefused, hbefore⟩
    · exact .inl ⟨h.le, hlate⟩
    · refine .inr ⟨err, herr, hrefused, fun _ => ?_⟩
      rcases Nat.eq_or_lt_of_le h.le with rfl | hlt
      · exact hearly
      · exact hbefore hlt

/-! ### Reads without a worker -/

section Alone

variable (halone : e.config.background = false)

include halone

theorem readied_ticked (n : Nat) : (e.ticked p clock r n).1.readied p (clock (2 * n + 1))
    (e.ticked p clock r n).2 = e.ticked p clock r (n + 1) := by
  rw [Endpoint.readied, Endpoint.config_ticked, halone]
  rfl

/-- In a round the endpoint ticks, and looks into the mailbox afterwards. -/
theorem poll_of_usable (husable : (e.ticked p clock r n).1.ensureUsable = .ok ()) :
    (surroundings p clock attempt).poll (after p clock e r n) =
      let ticked := e.ticked p clock r (n + 1)
      let looked := ticked.1.onChannel e.role.incoming attempt ticked.2
      (match looked.1 with
        | .error .noData => none
        | result => some result, ⟨ticked.1, looked.2, 2 * n + 2⟩) := by
  have hanswer := Endpoint.poll_answer (r := (e.ticked p clock r n).2) p (clock (2 * n + 1))
    attempt husable
  have hstate := Endpoint.poll_of_usable (r := (e.ticked p clock r n).2) p (clock (2 * n + 1))
    attempt husable
  rw [readied_ticked halone, Endpoint.role_ticked] at hanswer
  rw [← Endpoint.readied, readied_ticked halone] at hstate
  dsimp only at hstate
  rw [Endpoint.role_ticked] at hstate
  exact Prod.ext hanswer (congrArg (fun s => (⟨s.1, s.2, 2 * n + 2⟩ : Vigil)) hstate)

variable (attempt) in
/-- A poll that is not refused leaves the endpoint as its tick has made it. -/
theorem endpoint_poll (husable : (e.ticked p clock r n).1.ensureUsable = .ok ()) :
    ((surroundings p clock attempt).poll (after p clock e r n)).2.endpoint =
      (e.ticked p clock r (n + 1)).1 := by
  rw [poll_of_usable halone husable]

variable (hposted : Posted e.region e.role.incoming m r)
  (htakes : Channel.Takes p lockTimeout attempt answer)

include hposted htakes

theorem poll_of_pending (husable : (e.ticked p clock r n).1.ensureUsable = .ok ())
    (hstays : (e.ticked p clock r (n + 1)).1.region = e.region) (hpending : m.pending = true) :
    ((surroundings p clock attempt).poll (after p clock e r n)).1 = some (answer m) := by
  rw [poll_of_usable halone husable]
  dsimp only
  rw [Endpoint.onChannel_of_pending htakes (Endpoint.posted_of_stays hposted hstays) hpending]
  split
  · next hnone => exact absurd hnone (htakes.answer_ne_noData m)
  · rfl

theorem poll_of_empty (husable : (e.ticked p clock r n).1.ensureUsable = .ok ())
    (hstays : (e.ticked p clock r (n + 1)).1.region = e.region) (hempty : m.pending = false) :
    (surroundings p clock attempt).poll (after p clock e r n) =
      (none, ⟨(e.ticked p clock r (n + 1)).1, (e.ticked p clock r (n + 1)).2, 2 * n + 2⟩) := by
  rw [poll_of_usable halone husable]
  dsimp only
  rw [Endpoint.onChannel_of_empty htakes (Endpoint.posted_of_stays hposted hstays) hempty]

/-- A round finds that the endpoint refuses, or ticks and finds nothing. -/
theorem poll_cases_of_empty {result : Option (Except LinkError α)} {v : Vigil}
    (hempty : m.pending = false)
    (hpoll : (surroundings p clock attempt).poll (after p clock e r n) = (result, v))
    (hstays : v.endpoint.region = e.region) :
    (∃ err, (e.ticked p clock r n).1.ensureUsable = .error err ∧ result = some (.error err) ∧
      v = ⟨(e.ticked p clock r n).1, (e.ticked p clock r n).2, 2 * n + 2⟩) ∨
    (e.ticked p clock r n).1.ensureUsable = .ok () ∧ result = none ∧
      v = ⟨(e.ticked p clock r (n + 1)).1, (e.ticked p clock r (n + 1)).2, 2 * n + 2⟩ := by
  cases husable : (e.ticked p clock r n).1.ensureUsable with
  | error err =>
    rw [poll_of_refused husable] at hpoll
    cases hpoll
    exact .inl ⟨err, rfl, rfl, rfl⟩
  | ok u =>
    have hticked := endpoint_poll attempt halone husable
    rw [hpoll] at hticked
    rw [hticked] at hstays
    rw [poll_of_empty halone hposted htakes husable hstays hempty] at hpoll
    cases hpoll
    exact .inr ⟨rfl, rfl, rfl⟩

theorem lasts_of_empty (hempty : m.pending = false) (hspan : timeout ≠ 0)
    (hcourse : (surroundings p clock attempt).Course timeout deadline s polls out)
    (hs : s = after p clock e r n) (hstays : ∀ v ∈ polls, v.endpoint.region = e.region) :
    ∃ k, Lasts p clock e r timeout deadline n k out := by
  -- Along the rounds: each begins where the ticks before it have led.
  induction hcourse generalizing n with
  | answered hpoll =>
    rw [hs] at hpoll
    rcases poll_cases_of_empty halone hposted htakes hempty hpoll (hstays _ List.mem_cons_self) with
      ⟨err, hrefused, hresult, rfl⟩ | ⟨-, hresult, -⟩
    · cases hresult
      exact ⟨n, lasts_refused hrefused⟩
    · cases hresult
  | nothing hpoll hzero => exact absurd hzero hspan
  | late hpoll _ hclock hlate =>
    rw [hs] at hpoll
    rcases poll_cases_of_empty halone hposted htakes hempty hpoll (hstays _ List.mem_cons_self) with
      ⟨err, -, hresult, -⟩ | ⟨husable, -, rfl⟩
    · cases hresult
    · cases hclock
      exact ⟨n + 1, lasts_late husable hlate _⟩
  | again hpoll _ hclock hearly _ ih =>
    rw [hs] at hpoll
    obtain ⟨hfirst, hrest⟩ := List.forall_mem_cons.mp hstays
    rcases poll_cases_of_empty halone hposted htakes hempty hpoll hfirst with
      ⟨err, -, hresult, -⟩ | ⟨husable, -, rfl⟩
    · cases hresult
    · cases hclock
      obtain ⟨k, hlasts⟩ := ih (n := n + 1) rfl hrest
      exact ⟨k, hlasts.again husable hearly⟩

end Alone

/-- A read whose deadline no clock can show breaks off before its first poll, whether a message
waits or not. Any other ends, with no number of rounds set beforehand, and it ends like this if the
endpoint does not move meanwhile and no tick breaks off. A message that waits is the answer of the
first round, whatever its tick finds. Where none waits, a read without a time limit ticks once and
has nothing. With a limit it goes on until its time is up by the clock, or until the tick before has
made the endpoint refuse because of its peer. -/
theorem read_result (timeout : Duration) (hclock : StrictMono clock)
    (htakes : Channel.Takes p lockTimeout attempt answer) (halone : e.config.background = false)
    (husable : e.ensureUsable = .ok ()) (hposted : Posted e.region e.role.incoming m r) :
    let w := surroundings p clock attempt
    let out := w.read timeout ⟨e, r, 0⟩
    let deadline := clock 0 + timeout
    ((clock 0).after? timeout = none → out = (none, ⟨e, r, 1⟩)) ∧
    ((clock 0).after? timeout = some deadline → ∃ result polls, out.1 = some result ∧
      w.Course timeout deadline ⟨e, r, 1⟩ polls (result, out.2) ∧
      (Punctual p clock e r polls.length → (∀ v ∈ polls, v.endpoint.region = e.region) →
        (m.pending = true → result = answer m ∧ polls.length = 1 ∧
          out.2.endpoint = (e.tick p (clock 1) r).1) ∧
        (m.pending = false → timeout = 0 → result = .error .noData ∧
          out.2 = ⟨(e.tick p (clock 1) r).1, (e.tick p (clock 1) r).2, 2⟩) ∧
        (m.pending = false → timeout ≠ 0 → ∃ k, 0 < k ∧
          (out.2.endpoint, out.2.regions) = e.ticked p clock r k ∧
          (∀ j < k, (e.ticked p clock r j).1.ensureUsable = .ok ()) ∧
          (∀ j, 0 < j → j < k → clock (2 * j) < deadline) ∧
          (result = .error (.timeout timeout) ∧ deadline ≤ clock (2 * k) ∨
            clock (2 * k) < deadline ∧ ∃ err, result = .error err ∧
              (e.ticked p clock r k).1.ensureUsable = .error err ∧
              (err = .peerStale e.role.peer ∨
                ∃ attempts elapsed, err = .reconnectFailed attempts elapsed))))) := by
  intro w out deadline
  refine ⟨fun huntimely => Surroundings.read_of_untimely huntimely, fun htimely => ?_⟩
  obtain ⟨result, s', polls, hread, hcourse⟩ :=
    (advances (p := p) hclock attempt).read_course (s := (⟨e, r, 0⟩ : Vigil)) htimely
  rw [show out = (some result, s') from hread]
  refine ⟨result, polls, rfl, hcourse, fun _ hstays => ?_⟩
  have hfirst : (e.ticked p clock r 1).1.region = e.region := by
    rw [← endpoint_poll (n := 0) attempt halone husable]
    exact hstays _ hcourse.poll_mem
  refine ⟨fun hpending => ?_, fun hempty hzero => ?_, fun hempty hspan => ?_⟩
  · have hpoll : w.poll ⟨e, r, 1⟩ = (some (answer m), (w.poll ⟨e, r, 1⟩).2) :=
      Prod.ext (poll_of_pending (n := 0) halone hposted htakes husable hfirst hpending) rfl
    obtain ⟨rfl, hout⟩ := hcourse.eq_of_answer hpoll
    refine ⟨congrArg Prod.fst hout, rfl, ?_⟩
    rw [show s' = (w.poll ⟨e, r, 1⟩).2 from congrArg Prod.snd hout]
    exact endpoint_poll (n := 0) attempt halone husable
  · exact Prod.ext_iff.mp (hcourse.eq_of_nothing
      (poll_of_empty (n := 0) halone hposted htakes husable hfirst hempty) hzero).2
  · obtain ⟨k, hlasts⟩ :=
      lasts_of_empty (n := 0) halone hposted htakes hempty hspan hcourse rfl hstays
    have hpos : 0 < k := by
      rcases hlasts.ends with ⟨hpos, -⟩ | ⟨err, -, hrefused, -⟩
      · exact hpos
      · refine Nat.pos_of_ne_zero fun hzero => ?_
        rw [hzero] at hrefused
        cases husable.symm.trans hrefused
    refine ⟨k, hpos, Prod.ext hlasts.endpoint hlasts.regions,
      fun j hj => hlasts.usable j (Nat.zero_le j) hj, hlasts.early, ?_⟩
    rcases hlasts.ends with ⟨-, hresult, hlate⟩ | ⟨err, herr, hrefused, hearly⟩
    · exact .inl ⟨hresult, hlate⟩
    · exact .inr ⟨hearly hpos, err, herr, hrefused, Endpoint.refusal_of_ticked husable hrefused⟩

/-! ### A silent slave -/

/-- A slave shows itself to a master without a worker. -/
def shown : List Act :=
  [.openEndpoint .able 0
      { name := "a", role := .master, background := false, behavior := .immediately },
    .openEndpoint .able 0 { name := "a", role := .slave, background := false },
    .on 0 (.tick 1), .on 1 (.tick 2), .on 0 (.tick 3)]

/-- It leaves a message before it falls silent. -/
def farewell : List Act := shown ++ [.on 1 (.write [0x78])]

/-- The master. -/
def watcher : Endpoint :=
  (Company.empty.after Company.lonely shown).endpoints.get ⟨0, by decide +kernel⟩

/-- Between two readings of the clock a peer becomes stale. -/
def slowClock (n : Nat) : Instant := 200000000 * (n + 1)

theorem strictMono_slowClock : StrictMono slowClock := by
  apply strictMono_nat_of_lt_succ
  intro n
  exact Nat.mul_lt_mul_of_pos_left (Nat.lt_succ_self (n + 1)) (by decide)

theorem read_result_farewell :
    let r := (Company.empty.after Company.lonely shown).regions
    let r' := (Company.empty.after Company.lonely farewell).regions
    let w := surroundings Company.lonely slowClock (·.tryRead Company.lonely (.ofSeconds 1))
    (watcher.config.background = false ∧ watcher.ensureUsable = .ok ()) ∧
    ((w.read 0 ⟨watcher, r', 0⟩).1 =
        some (.ok ((r'.layout watcher.region).mailbox watcher.role.incoming).message) ∧
      (w.read 0 ⟨watcher, r', 0⟩).2.endpoint.ensureUsable = .error (.peerStale .slave)) ∧
    (w.read 0 ⟨watcher, r, 0⟩).1 = some (.error .noData) ∧
    (∃ k, 0 < k ∧
      ((w.read (.ofSeconds 5) ⟨watcher, r, 0⟩).1 = some (.error (.timeout (.ofSeconds 5))) ∨
        ∃ err, (w.read (.ofSeconds 5) ⟨watcher, r, 0⟩).1 = some (.error err) ∧
          (watcher.ticked Company.lonely slowClock r k).1.ensureUsable = .error err)) ∧
    (w.read (.ofSeconds 18446744073709551615) ⟨watcher, r, 0⟩).1 = none := by
  intro r r' w
  have halone : watcher.config.background = false := by decide +kernel
  have husable : watcher.ensureUsable = .ok () := by decide +kernel
  have hrole : watcher.role ≠ .slave := by decide +kernel
  have hjudged : watcher.Judged :=
    ((Company.kept_judged Company.lonely).after Company.orderly_empty
      (fun _ hmem => absurd hmem List.not_mem_nil) shown).2 watcher (List.get_mem _ _)
  have hpunctual (r : Regions) (n : Nat) : Punctual Company.lonely slowClock watcher r n :=
    punctual_of_immediately (by decide +kernel) hjudged (by decide +kernel) n
  have htakes : Channel.Takes Company.lonely (.ofSeconds 1) _ _ := .tryRead
  have hposted : Posted watcher.region watcher.role.incoming
      ((r.layout watcher.region).mailbox watcher.role.incoming) r :=
    ⟨by decide +kernel, by decide +kernel, rfl⟩
  have hposted' : Posted watcher.region watcher.role.incoming
      ((r'.layout watcher.region).mailbox watcher.role.incoming) r' :=
    ⟨by decide +kernel, by decide +kernel, rfl⟩
  refine ⟨⟨halone, husable⟩, ?_, ?_, ?_, ?_⟩
  · obtain ⟨result, polls, hread, hcourse, hresult⟩ :=
      (read_result 0 strictMono_slowClock htakes halone husable hposted').2 rfl
    obtain ⟨hanswer, -, hendpoint⟩ :=
      (hresult (hpunctual _ _) (stays_of_course hrole hcourse)).1 (by decide +kernel)
    refine ⟨hread.trans (congrArg some hanswer), ?_⟩
    rw [hendpoint]
    decide +kernel
  · obtain ⟨result, polls, hread, hcourse, hresult⟩ :=
      (read_result 0 strictMono_slowClock htakes halone husable hposted).2 rfl
    obtain ⟨hnothing, -⟩ :=
      (hresult (hpunctual _ _) (stays_of_course hrole hcourse)).2.1 (by decide +kernel) rfl
    exact hread.trans (congrArg some hnothing)
  · obtain ⟨result, polls, hread, hcourse, hresult⟩ :=
      (read_result (.ofSeconds 5) strictMono_slowClock htakes halone husable hposted).2 rfl
    obtain ⟨k, hpos, -, -, -, hends⟩ :=
      (hresult (hpunctual _ _) (stays_of_course hrole hcourse)).2.2 (by decide +kernel) (by decide)
    refine ⟨k, hpos, ?_⟩
    rcases hends with ⟨hlate, -⟩ | ⟨-, err, herr, hrefused, -⟩
    · exact .inl (hread.trans (congrArg some hlate))
    · exact .inr ⟨err, hread.trans (congrArg some herr), hrefused⟩
  · exact congrArg Prod.fst ((read_result (.ofSeconds 18446744073709551615) strictMono_slowClock
      htakes halone husable hposted).1 (by decide))

/-- The longest read does not take the message that waits for it. -/
theorem longest_read_misses_farewell :
    let r := (Company.empty.after Company.lonely farewell).regions
    let w := surroundings Company.lonely slowClock (·.tryRead Company.lonely (.ofSeconds 1))
    watcher.config.background = false ∧ watcher.ensureUsable = .ok () ∧
      ((r.layout watcher.region).mailbox watcher.role.incoming).pending = true ∧
      (w.read (.ofSeconds 18446744073709551615) ⟨watcher, r, 0⟩).1 = none := by
  refine ⟨by decide +kernel, by decide +kernel, by decide +kernel, ?_⟩
  exact congrArg Prod.fst (Surroundings.read_of_untimely (by decide))

end Vigil

end PeerLink
