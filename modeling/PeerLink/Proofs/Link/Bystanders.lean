import PeerLink.Proofs.Link.Waiting

/-! # What stays in a mailbox

While the lock of a region is free, a message stays in its mailbox until it is taken or another one
is stored there, whatever anybody does with any endpoint and any name. What fails has no effect.

* `Channel.Sparing`: an operation on a channel that has no effect if it fails.
* `Regions.Posted`: a region's lock is free, and this is its mailbox of a direction.
* `Deed.Disturbs`: a message is stored in a mailbox, or taken from it.
* `Company.afterAll`: a run in which every act has a process of its own.
* `Company.posted_afterAll`: a run without such disturbances leaves the mailbox as it was.
* `Endpoint.poll_of_posted`: the next round of a read takes the message.
-/

namespace PeerLink
set_option autoImplicit false

variable {α : Type} {p : Process}

/-! ## Free locks stay free -/

namespace Header

variable {h : Header}

theorem free_underLock (timeout : Duration) {act : Header → Except LinkError α × Header}
    (hact : ∀ h, (act h).2.lock = h.lock) (hfree : h.lock.owner = 0) :
    (h.underLock p timeout act).2.lock.owner = 0 := by
  have htaken : (h.lock.taken p.pid).owner = p.pid := rfl
  rw [underLock, Lock.acquire_of_available timeout (.inl hfree)]
  simp only [hact, Lock.drop_of_owner htaken]

theorem free_claim (requested : Role) (timeout : Duration) (hfree : h.lock.owner = 0) :
    (h.claim p requested timeout).2.lock.owner = 0 := by
  refine free_underLock timeout (fun h => ?_) hfree
  cases h.resolve p requested with
  | error refusal => rfl
  | ok side => exact lock_mapSlot ..

theorem free_release (side : Role) (timeout : Duration) (hfree : h.lock.owner = 0) :
    (h.release p side timeout).2.lock.owner = 0 :=
  free_underLock timeout (fun _ => lock_mapSlot ..) hfree

end Header

/-! ## What fails has no effect -/

namespace Channel

/-- If the lock is free, a failure leaves everything as it was. -/
def Sparing (act : Channel → Except LinkError α × Channel) : Prop :=
  ∀ c err, c.lock.owner = 0 → (act c).1 = .error err → (act c).2 = c

theorem sparing_write (p : Process) (timeout : Duration) (payload : Bytes) :
    Sparing (·.write p timeout payload) := by
  intro c err hfree hfails
  by_cases hfits : payload.length ≤ Mailbox.capacity
  · simp [write_of_free timeout hfits hfree] at hfails
  · simp [write_of_long timeout (Nat.lt_of_not_le hfits)]

theorem sparing_tryRead (p : Process) (timeout : Duration) : Sparing (·.tryRead p timeout) := by
  intro c err hfree hfails
  by_cases hpending : c.mailbox.pending = true
  · simp [tryRead_of_free timeout hpending hfree] at hfails
  · simp [tryRead_of_empty timeout (Bool.not_eq_true _ ▸ hpending)]

theorem sparing_tryReadInto (p : Process) (timeout : Duration) (buffer : Bytes) :
    Sparing (·.tryReadInto p timeout buffer) := by
  intro c err hfree hfails
  by_cases hpending : c.mailbox.pending = true
  · simp only [tryReadInto_of_free timeout buffer hpending hfree] at hfails ⊢
    split at hfails
    · cases hfails
    · rename_i hsmall
      rw [if_neg hsmall]
  · simp [tryReadInto_of_empty timeout buffer (Bool.not_eq_true _ ▸ hpending)]

end Channel

/-! ## Mailboxes of regions -/

namespace Regions

variable {r r' : Regions} {id : ObjectId} {d d' : Direction} {m : Mailbox}

/-- The lock of a region is free, and this is its mailbox of a direction. -/
structure Posted (id : ObjectId) (d : Direction) (m : Mailbox) (r : Regions) : Prop where
  mapped : id < r.objects.length
  free : (r.layout id).header.lock.owner = 0
  mailbox : (r.layout id).mailbox d = m

namespace Posted

theorem grow (h : Posted id d m r) (hgrows : r.Grows r') : Posted id d m r' := by
  have hlayout := hgrows.layout_eq h.mapped
  exact ⟨Nat.lt_of_lt_of_le h.mapped hgrows.length, hlayout ▸ h.free, hlayout ▸ h.mailbox⟩

theorem replace {l : Layout} (h : Posted id d m r) (hfree : l.header.lock.owner = 0) :
    Posted id d (l.mailbox d) (r.setMemory id { r.memory id with layout := l }) := by
  have hmapped := h.mapped
  have hlayout : (r.setMemory id { r.memory id with layout := l }).layout id = l := by
    rw [layout, memory_setMemory, if_pos ⟨rfl, hmapped⟩]
  refine ⟨by rwa [length_setMemory], ?_, ?_⟩
  · rw [hlayout]
    exact hfree
  · rw [hlayout]

theorem set {l : Layout} {other : ObjectId} (h : Posted id d m r)
    (hl : other = id → l.header.lock.owner = 0 ∧ l.mailbox d = m) :
    Posted id d m (r.setMemory other { r.memory other with layout := l }) := by
  by_cases hsame : other = id
  · subst hsame
    obtain ⟨hfree, rfl⟩ := hl rfl
    exact h.replace hfree
  · have hmapped := h.mapped
    have hlayout : (r.setMemory other { r.memory other with layout := l }).layout id =
        r.layout id := by
      rw [layout, memory_setMemory, if_neg fun hne => hsame hne.1.symm, layout]
    exact ⟨by rwa [length_setMemory], hlayout ▸ h.free, hlayout ▸ h.mailbox⟩

theorem onHeader {act : Header → α × Header} (h : Posted id d m r) (other : ObjectId)
    (hact : ∀ h : Header, h.lock.owner = 0 → (act h).2.lock.owner = 0) :
    Posted id d m (r.onHeader other act).2 := by
  refine h.set fun hsame => ?_
  subst hsame
  exact ⟨hact _ h.free, h.mailbox⟩

theorem claim (p : Process) (h : Posted id d m r) (other : ObjectId) (requested : Role)
    (timeout : Duration) : Posted id d m (r.onHeader other (·.claim p requested timeout)).2 :=
  h.onHeader other fun _ => Header.free_claim requested timeout

theorem release (p : Process) (h : Posted id d m r) (other : ObjectId) (side : Role)
    (timeout : Duration) : Posted id d m (r.onHeader other (·.release p side timeout)).2 :=
  h.onHeader other fun _ => Header.free_release side timeout

theorem beat (h : Posted id d m r) (other : ObjectId) (role : Role) :
    Posted id d m (r.mapHeader other (·.beat role)) := by
  refine h.set fun hsame => ?_
  subst hsame
  refine ⟨?_, h.mailbox⟩
  rw [← h.free]
  exact congrArg Lock.owner (Header.lock_mapSlot ..)

end Posted

end Regions

/-! ## What is done with one endpoint -/

namespace Endpoint

variable {e : Endpoint} {r : Regions} {id : ObjectId} {d : Direction} {m : Mailbox}

open Regions (Posted)

theorem onChannel_of_error {act : Channel → Except LinkError α × Channel} {err : LinkError}
    (hsparing : Channel.Sparing act) (hfree : (r.layout e.region).header.lock.owner = 0)
    (hfails : (e.onChannel d act r).1 = .error err) : e.onChannel d act r = (.error err, r) := by
  have hact : (act ((r.layout e.region).channel d)).2 = (r.layout e.region).channel d :=
    hsparing _ err hfree hfails
  have hkept : (r.layout e.region).putChannel d (act ((r.layout e.region).channel d)).2 =
      r.layout e.region := by
    rw [hact, Layout.putChannel_channel]
  refine Prod.ext hfails ?_
  have hput := congrArg (fun l => r.setMemory e.region { r.memory e.region with layout := l }) hkept
  exact hput.trans (Regions.mapHeader_self e.region r)

theorem posted_onChannel {act : Channel → Except LinkError α × Channel} {d' : Direction}
    (htidy : Channel.Tidy act) (hsparing : Channel.Sparing act) (h : Posted id d m r)
    (hfails : (e.region, d') = (id, d) → ∃ err, (e.onChannel d' act r).1 = .error err) :
    Posted id d m (e.onChannel d' act r).2 := by
  refine h.set fun hsame => ?_
  subst hsame
  have hfree : ((r.layout e.region).channel d').lock.owner = 0 := h.free
  refine ⟨?_, ?_⟩
  · exact (congrArg Lock.owner (Layout.lock_putChannel.trans (htidy _ hfree))).trans h.free
  · by_cases hd : d = d'
    · obtain ⟨err, hfails⟩ := hfails (by rw [hd])
      have hkept := congrArg (Layout.putChannel d' · (r.layout e.region))
        (hsparing _ err hfree hfails)
      exact (congrArg (·.mailbox d) (hkept.trans Layout.putChannel_channel)).trans h.mailbox
    · exact (Layout.mailbox_putChannel_of_ne hd).trans h.mailbox

theorem posted_tryReattach (p : Process) (e : Endpoint) (h : Posted id d m r) :
    Posted id d m (e.tryReattach p r).2 := by
  rw [tryReattach]
  rcases r.identify e.config.name with err | _ | current
  · exact h
  · exact h
  · dsimp only
    split
    · exact h
    · cases r.attachLayout e.config.name with
      | error err => exact h
      | ok handle =>
        dsimp only
        split
        · exact h
        · have hclaimed := h.claim p handle.object .slave e.config.lockTimeout
          generalize r.onHeader handle.object (·.claim p .slave e.config.lockTimeout) = out at *
          obtain ⟨err | side, r'⟩ := out
          · exact hclaimed
          · exact (hclaimed.beat _ _).release p e.region .slave e.config.lockTimeout

theorem posted_reconnect (p : Process) (now : Instant) (e : Endpoint) (h : Posted id d m r) :
    Posted id d m (e.reconnect p now r).2 := by
  have htried : Posted id d m
      (if e.role = .slave then e.tryReattach p r else (.ok none, r)).2 := by
    split
    · exact posted_tryReattach p e h
    · exact h
  rw [reconnect]
  split <;> rename_i hresult <;> rw [hresult] at htried <;> exact htried

theorem posted_check (p : Process) (now : Instant) (e : Endpoint) (h : Posted id d m r) :
    Posted id d m (e.check p now r).2 := by
  rw [check]
  dsimp only
  split
  · exact posted_reconnect p now _ h
  · exact h

theorem posted_tick (p : Process) (now : Instant) (e : Endpoint) (h : Posted id d m r) :
    Posted id d m (e.tick p now r).2 := by
  rw [tick]
  split
  · exact h
  · exact posted_check p now e (h.beat _ _)

theorem posted_close (p : Process) (e : Endpoint) (h : Posted id d m r) :
    Posted id d m (e.close p r).2.2 := by
  rw [close]
  split
  · exact h
  · have hreleased := h.release p e.region e.role e.config.lockTimeout
    exact hreleased.grow (Regions.grows_of_objects (objects_leave p e r))

theorem posted_board (k : Kernel) (p : Process) (now : Instant) (config : EndpointConfig)
    (h : Posted id d m r) : Posted id d m (board k p now config r).2 := by
  obtain ⟨mid, hgrows, ⟨result, -, hboard⟩ | ⟨other, -, hboard⟩⟩ := board_any k p now config r
  · rw [hboard]
    exact h.grow hgrows
  · have hclaimed := (h.grow hgrows).claim p other config.role config.lockTimeout
    rw [hboard, enter]
    generalize mid.onHeader other (·.claim p config.role config.lockTimeout) = out at *
    obtain ⟨err | side, r'⟩ := out
    · exact hclaimed
    · exact hclaimed.beat _ _

theorem posted_open (k : Kernel) (p : Process) (now : Instant) (config : EndpointConfig)
    (h : Posted id d m r) : Posted id d m (Endpoint.open k p now config r).2 := by
  have hboarded := posted_board k p now config h
  rcases regions_open k p now config r with hopened | ⟨e, hopened⟩
  · rw [hopened]
    exact hboarded
  · rw [hopened]
    exact hboarded.release p e.region e.role e.config.lockTimeout

/-! ### Rounds of a read -/

/-- What an endpoint is when a round of its reads looks into the mailbox: without a worker it has
ticked once. -/
def readied (p : Process) (now : Instant) (e : Endpoint) (r : Regions) : Endpoint × Regions :=
  if e.config.background then (e, r) else e.tick p now r

theorem drifts_readied (p : Process) (now : Instant) (e : Endpoint) (r : Regions) :
    e.Drifts (e.readied p now r).1 := by
  rw [readied]
  split
  · exact .refl e
  · exact drifts_tick ..

theorem role_readied (p : Process) (now : Instant) (e : Endpoint) (r : Regions) :
    (e.readied p now r).1.role = e.role := by
  obtain ⟨_, _, h⟩ := drifts_readied p now e r
  rw [h]

/-! ### Only a slave moves -/

theorem region_reconnect (p : Process) (now : Instant) (r : Regions) (hrole : e.role ≠ .slave) :
    (e.reconnect p now r).1.region = e.region := by
  rw [reconnect, if_neg hrole]

theorem region_check (p : Process) (now : Instant) (r : Regions) (hrole : e.role ≠ .slave) :
    (e.check p now r).1.region = e.region := by
  rw [check]
  dsimp only
  split
  · exact region_reconnect p now r (e := { e with monitor := _ }) hrole
  · rfl

theorem region_tick (p : Process) (now : Instant) (r : Regions) (hrole : e.role ≠ .slave) :
    (e.tick p now r).1.region = e.region := by
  rw [tick]
  split
  · rfl
  · exact region_check p now _ hrole

theorem region_readied (p : Process) (now : Instant) (r : Regions) (hrole : e.role ≠ .slave) :
    (e.readied p now r).1.region = e.region := by
  rw [readied]
  split
  · rfl
  · exact region_tick p now r hrole

theorem region_poll (p : Process) (now : Instant)
    (attempt : Channel → Except LinkError α × Channel) (r : Regions) (hrole : e.role ≠ .slave) :
    (e.poll p now attempt r).2.1.region = e.region := by
  cases husable : e.ensureUsable with
  | error err => rw [poll, husable]
  | ok u =>
    rw [poll_of_usable p now attempt husable]
    exact region_readied p now r hrole

/-! ### What a round finds -/

theorem posted_readied (p : Process) (now : Instant) (e : Endpoint) (h : Posted id d m r) :
    Posted id d m (e.readied p now r).2 := by
  rw [readied]
  split
  · exact h
  · exact posted_tick p now e h

/-- What a round of a read answers. -/
theorem poll_answer (p : Process) (now : Instant)
    (attempt : Channel → Except LinkError α × Channel) (husable : e.ensureUsable = .ok ()) :
    (e.poll p now attempt r).1 =
      match ((e.readied p now r).1.onChannel e.role.incoming attempt (e.readied p now r).2).1 with
      | .error .noData => none
      | result => some result := by
  rw [← role_readied p now e r, poll, husable, readied]
  dsimp only
  generalize (if e.config.background = true then (e, r) else e.tick p now r) = ticked
  generalize ticked.1.onChannel ticked.1.role.incoming attempt ticked.2 = out
  obtain ⟨err | message, r'⟩ := out
  · cases err <;> rfl
  · rfl

theorem posted_poll {attempt : Channel → Except LinkError α × Channel} (now : Instant)
    (htidy : Channel.Tidy attempt) (hsparing : Channel.Sparing attempt) (h : Posted id d m r)
    (hfails : ((e.readied p now r).1.region, e.role.incoming) = (id, d) →
      ∀ message, (e.poll p now attempt r).1 ≠ some (.ok message)) :
    Posted id d m (e.poll p now attempt r).2.2 := by
  cases husable : e.ensureUsable with
  | error err =>
    rw [poll, husable]
    exact h
  | ok u =>
    have hanswer := poll_answer (r := r) p now attempt husable
    rw [poll_of_usable p now attempt husable, ← readied]
    refine posted_onChannel htidy hsparing (posted_readied p now e h) fun hbox => ?_
    rw [role_readied] at hbox ⊢
    cases hresult : ((e.readied p now r).1.onChannel e.role.incoming attempt
        (e.readied p now r).2).1 with
    | error err => exact ⟨err, rfl⟩
    | ok message =>
      rw [hresult] at hanswer
      exact absurd hanswer (hfails hbox message)

/-- The next round takes what waits in the mailbox. -/
theorem poll_of_posted (now : Instant) (timeout : Duration) (h : Posted id d m r)
    (hpending : m.pending = true) (husable : e.ensureUsable = .ok ())
    (hbox : ((e.readied p now r).1.region, e.role.incoming) = (id, d)) :
    (e.poll p now (·.tryRead p timeout) r).1 = some (.ok m.message) := by
  obtain ⟨hmapped, hfree, hmailbox⟩ := posted_readied p now e h
  cases hbox
  have hread := Channel.tryRead_of_free (p := p) timeout
    (c := ((e.readied p now r).2.layout (e.readied p now r).1.region).channel e.role.incoming)
    ((congrArg Mailbox.pending hmailbox).trans hpending) hfree
  have hresult : ((e.readied p now r).1.onChannel e.role.incoming (·.tryRead p timeout)
      (e.readied p now r).2).1 = .ok m.message := by
    rw [← hmailbox]
    exact congrArg Prod.fst hread
  rw [poll_answer p now _ husable, hresult]

theorem posted_write (payload : Bytes) (h : Posted id d m r)
    (hfails : (e.region, e.role.outgoing) = (id, d) → (e.write p payload r).1 ≠ .ok ()) :
    Posted id d m (e.write p payload r).2 := by
  rw [write] at hfails ⊢
  cases husable : e.ensureUsable with
  | error err => exact h
  | ok u =>
    rw [husable] at hfails
    refine posted_onChannel (Channel.tidy_write _ _ _) (Channel.sparing_write _ _ _) h
      fun hbox => ?_
    dsimp only at hfails
    cases hresult : (e.onChannel e.role.outgoing (·.write p e.config.lockTimeout payload) r).1 with
    | error err => exact ⟨err, rfl⟩
    | ok u => exact absurd hresult (hfails hbox)

end Endpoint

namespace Deed

variable {e : Endpoint} {r : Regions} {id : ObjectId} {d : Direction} {m : Mailbox}

open Regions (Posted)

/-- The mailbox that is written into or read from. -/
def mailbox? (p : Process) (e : Endpoint) (r : Regions) : Deed → Option (ObjectId × Direction)
  | .write _ | .writeItems _ => some (e.region, e.role.outgoing)
  | .poll now _ => some ((e.readied p now r).1.region, e.role.incoming)
  | _ => none

/-- Whether a message is stored or taken. -/
def succeeds (p : Process) (e : Endpoint) (r : Regions) : Deed → Prop
  | .write payload => (e.write p payload r).1 = .ok ()
  | .writeItems items => (e.writeItems p items r).1 = .ok ()
  | .poll now none => ∃ message,
    (e.poll p now (·.tryRead p e.config.lockTimeout) r).1 = some (.ok message)
  | .poll now (some buffer) => ∃ message,
    (e.poll p now (·.tryReadInto p e.config.lockTimeout buffer) r).1 = some (.ok message)
  | _ => False

/-- A message is stored in a mailbox, or taken from it. -/
def Disturbs (p : Process) (e : Endpoint) (r : Regions) (id : ObjectId) (d : Direction)
    (deed : Deed) : Prop :=
  deed.mailbox? p e r = some (id, d) ∧ deed.succeeds p e r

theorem posted_carryOut {deed : Deed} (h : Posted id d m r)
    (hleaves : ¬ deed.Disturbs p e r id d) : Posted id d m (deed.carryOut p e r).2 := by
  have hfails (hbox : deed.mailbox? p e r = some (id, d)) : ¬ deed.succeeds p e r :=
    fun hsucceeds => hleaves ⟨hbox, hsucceeds⟩
  cases deed with
  | tick now => exact Endpoint.posted_tick p now e h
  | beat =>
    rw [carryOut]
    split
    · exact h
    · exact h.beat e.region e.role
  | check now =>
    rw [carryOut]
    split
    · exact h
    · exact Endpoint.posted_check p now e h
  | poll now buffer =>
    cases buffer with
    | none =>
      exact Endpoint.posted_poll now (Channel.tidy_tryRead _ _) (Channel.sparing_tryRead _ _) h
        fun hbox message hok => hfails (congrArg some hbox) ⟨message, hok⟩
    | some buffer =>
      exact Endpoint.posted_poll now (Channel.tidy_tryReadInto _ _ _)
        (Channel.sparing_tryReadInto _ _ _) h
        fun hbox message hok => hfails (congrArg some hbox) ⟨message, hok⟩
  | write payload => exact Endpoint.posted_write payload h fun hbox => hfails (congrArg some hbox)
  | writeItems items =>
    have hwrite := fun hbox => hfails (congrArg some hbox)
    rw [succeeds, Endpoint.writeItems] at hwrite
    rw [carryOut, Endpoint.writeItems]
    cases hencode : Message.encode items with
    | error err => exact h
    | ok payload =>
      rw [hencode] at hwrite
      exact Endpoint.posted_write payload h hwrite
  | stats => exact h
  | close => exact Endpoint.posted_close p e h

/-- Nothing that is done with an endpoint changes its side, and only a slave moves. -/
theorem place_carryOut (deed : Deed) (p : Process) (e : Endpoint) (r : Regions) :
    (deed.carryOut p e r).1.role = e.role ∧
      (e.role ≠ .slave → (deed.carryOut p e r).1.region = e.region) := by
  by_cases hclose : deed = .close
  · rw [hclose, carryOut, Endpoint.close]
    split <;> exact ⟨rfl, fun _ => rfl⟩
  by_cases hstats : deed = .stats
  · rw [hstats, carryOut, Endpoint.stats]
    split <;> exact ⟨rfl, fun _ => rfl⟩
  constructor
  · obtain ⟨_, _, h⟩ := drifts_carryOut p e r hclose hstats
    rw [h]
  · intro hrole
    cases deed with
    | tick now => exact Endpoint.region_tick p now r hrole
    | beat =>
      rw [carryOut]
      split <;> rfl
    | check now =>
      rw [carryOut]
      split
      · rfl
      · exact Endpoint.region_check p now r hrole
    | poll now buffer => cases buffer <;> exact Endpoint.region_poll p now _ r hrole
    | write | writeItems => rfl
    | stats => exact absurd rfl hstats
    | close => exact absurd rfl hclose

end Deed

/-! ## Runs -/

namespace Company

variable {c : Company} {id : ObjectId} {d : Direction} {m : Mailbox} {i : Nat} {e : Endpoint}
  {acts : List (Process × Act)}

open Regions (Posted)

/-- An act stores a message in a mailbox, or takes one from it. -/
def Disturbs (p : Process) (id : ObjectId) (d : Direction) (c : Company) : Act → Prop
  | .on i deed => ∃ e, c.endpoints[i]? = some e ∧ deed.Disturbs p e c.regions id d
  | _ => False

/-- The acts of any number of processes, one after another. -/
def afterAll (c : Company) (acts : List (Process × Act)) : Company :=
  acts.foldl (fun c act => c.perform act.1 act.2) c

/-- Nobody stores a message in the mailbox meanwhile, or takes one from it. -/
def Undisturbed (id : ObjectId) (d : Direction) : Company → List (Process × Act) → Prop
  | _, [] => True
  | c, (p, act) :: acts => ¬ c.Disturbs p id d act ∧ (c.perform p act).Undisturbed id d acts

theorem posted_perform {act : Act} (h : Posted id d m c.regions)
    (hleaves : ¬ c.Disturbs p id d act) : Posted id d m (c.perform p act).regions := by
  cases act with
  | openEndpoint k now config =>
    have hopened := Endpoint.posted_open k p now config h
    rw [perform]
    split <;> rename_i hopen <;> rw [hopen] at hopened <;> exact hopened
  | on i deed =>
    rw [perform]
    cases he : c.endpoints[i]? with
    | none => exact h
    | some e => exact Deed.posted_carryOut h fun hdisturbs => hleaves ⟨e, he, hdisturbs⟩
  | create k name size mode => exact h.grow (Regions.grows_create ..)
  | unlink name => exact h.grow (Regions.grows_unlink ..)

theorem posted_afterAll (h : Posted id d m c.regions) (hacts : c.Undisturbed id d acts) :
    Posted id d m (c.afterAll acts).regions := by
  induction acts generalizing c with
  | nil => exact h
  | cons act acts ih => exact ih (posted_perform h hacts.1) hacts.2

theorem place_perform (p : Process) (he : c.endpoints[i]? = some e) (act : Act) :
    ∃ e', (c.perform p act).endpoints[i]? = some e' ∧ e'.role = e.role ∧
      (e.role ≠ .slave → e'.region = e.region) := by
  rcases endpoint_perform p he act with ⟨deed, -, h⟩ | ⟨-, h⟩
  · exact ⟨_, h, deed.place_carryOut ..⟩
  · exact ⟨e, h, rfl, fun _ => rfl⟩

/-- An endpoint keeps its number and its side, and unless it is a slave also its region. -/
theorem place_afterAll (he : c.endpoints[i]? = some e) (acts : List (Process × Act)) :
    ∃ e', (c.afterAll acts).endpoints[i]? = some e' ∧ e'.role = e.role ∧
      (e.role ≠ .slave → e'.region = e.region) := by
  induction acts generalizing c e with
  | nil => exact ⟨e, he, rfl, fun _ => rfl⟩
  | cons act acts ih =>
    obtain ⟨e', he', hrole, hregion⟩ := place_perform act.1 he act.2
    obtain ⟨e'', he'', hrole', hregion'⟩ := ih he'
    refine ⟨e'', he'', hrole'.trans hrole, fun hslave => ?_⟩
    exact (hregion' (hrole ▸ hslave)).trans (hregion hslave)

end Company

end PeerLink
