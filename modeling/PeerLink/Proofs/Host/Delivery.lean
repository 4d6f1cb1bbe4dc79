import PeerLink.Host.Session
import PeerLink.Proofs.Host.Seating
import PeerLink.Proofs.Link.Bystanders
import PeerLink.Proofs.Message.Size

/-! # Items from end to end

What becomes of items that an endpoint writes: they are refused, they are too long, or they are what
the peer reads next.

* `Endpoint.writeItems_result`: the answer to typed items depends on their size alone.
* `Endpoint.writeItems_of_error`: a failure changes nothing.
* `Company.BeginsRead`: what the first round of a read finds; `Company.beginsRead_readWith` says
  that the reads of a host begin like that.
* `Company.NextRead`: what the next read gives, whatever is done before.

Main statement: `Company.written_items_are_read`.
-/

namespace PeerLink
set_option autoImplicit false

/-- A read whose first round is answered has this answer. -/
theorem Surroundings.read_of_poll {σ α : Type} (w : Surroundings σ α) {timeout : Duration}
    {deadline : Instant} {s : σ} {result : Except LinkError α}
    (hdeadline : (w.clock s).1.after? timeout = some deadline)
    (h : (w.poll (w.clock s).2).1 = some result) : (w.read timeout s).1 = some result := by
  rcases hpoll : w.poll (w.clock s).2 with ⟨answer, s'⟩
  rw [hpoll] at h
  cases h
  rw [read_of_timely hdeadline, pollUntil, hpoll]

/-! ## Writing items -/

namespace Endpoint

variable {α : Type} {p : Process} {e : Endpoint} {r : Regions} {d : Direction} {m : Mailbox}
  {items : List Item} {err : LinkError}

/-- Items that are not written leave everything as it was. -/
theorem writeItems_of_error (hfree : (r.layout e.region).header.lock.owner = 0)
    (hfails : (e.writeItems p items r).1 = .error err) :
    e.writeItems p items r = (.error err, r) := by
  rw [writeItems] at hfails ⊢
  cases hencode : Message.encode items with
  | error cause =>
    rw [hencode] at hfails
    cases hfails
    rfl
  | ok payload =>
    rw [hencode] at hfails
    dsimp only at hfails ⊢
    rw [write] at hfails ⊢
    cases husable : e.ensureUsable with
    | error cause =>
      rw [husable] at hfails
      cases hfails
      rfl
    | ok u =>
      rw [husable] at hfails
      exact onChannel_of_error (Channel.sparing_write _ _ _) hfree hfails

theorem writeItems_of_untyped {before after : List Item} {i : Item}
    (hbefore : ∀ i ∈ before, i.value.type = i.type)
    (hi : i.type.isReserved = true ∨ i.value.type ≠ i.type) :
    e.writeItems p (before ++ i :: after) r =
      (.error (.codec (if i.type.isReserved then .unsupportedType i.type.code
        else .valueTypeMismatch i.key i.type i.value.type)), r) := by
  rw [writeItems, Message.encode_of_untyped hbefore hi]

section Typed

variable (husable : e.ensureUsable = .ok ()) (htyped : ∀ i ∈ items, i.value.type = i.type)
  (hsize : Wire.messageSize items < 2 ^ 32)

include husable htyped hsize

theorem writeItems_of_typed : e.writeItems p items r =
    e.onChannel e.role.outgoing (·.write p e.config.lockTimeout (Wire.message items)) r := by
  rw [writeItems, Message.encode_eq_message htyped (Wire.length_body_lt hsize)]
  dsimp only
  rw [write, husable]

theorem writeItems_result (hfree : (r.layout e.region).header.lock.owner = 0) :
    (e.writeItems p items r).1 =
      if Mailbox.capacity < Wire.messageSize items then
        .error (.bufferFull (Wire.messageSize items) Mailbox.capacity)
      else .ok () := by
  have hlength := Wire.length_message hsize
  rw [writeItems_of_typed husable htyped hsize, ← hlength]
  split
  · rename_i hlong
    exact congrArg Prod.fst (Channel.write_of_long e.config.lockTimeout hlong)
  · rename_i hfits
    exact congrArg Prod.fst
      (Channel.write_of_free e.config.lockTimeout (Nat.le_of_not_lt hfits) hfree)

theorem writeItems_eq_bufferFull_iff (hfree : (r.layout e.region).header.lock.owner = 0) :
    (e.writeItems p items r).1 =
        .error (.bufferFull (Wire.messageSize items) Mailbox.capacity) ↔
      Mailbox.capacity < Wire.messageSize items := by
  rw [writeItems_result husable htyped hsize hfree]
  split
  · simp [*]
  · simp [*]

theorem writeItems_eq_ok_iff (hfree : (r.layout e.region).header.lock.owner = 0) :
    (e.writeItems p items r).1 = .ok () ↔ Wire.messageSize items ≤ Mailbox.capacity := by
  rw [writeItems_result husable htyped hsize hfree]
  split
  · simp [*]
  · simpa using Nat.le_of_not_lt ‹_›

/-- What is written is stored in place of what was in the mailbox. -/
theorem posted_writeItems (hfits : Wire.messageSize items ≤ Mailbox.capacity)
    (h : r.Posted e.region e.role.outgoing m) :
    (e.writeItems p items r).2.Posted e.region e.role.outgoing (m.store (Wire.message items)) := by
  have hfree : ((r.layout e.region).channel e.role.outgoing).lock.owner = 0 := h.free
  have hwritten : (((r.layout e.region).channel e.role.outgoing).write p e.config.lockTimeout
      (Wire.message items)).2 =
        ⟨(r.layout e.region).header.lock, m.store (Wire.message items)⟩ := by
    rw [Channel.write_of_free _ ((Wire.length_message hsize).trans_le hfits) hfree, ← h.mailbox]
    rfl
  have hregions : (e.onChannel e.role.outgoing
      (·.write p e.config.lockTimeout (Wire.message items)) r).2 =
        r.setMemory e.region { r.memory e.region with
          layout := (r.layout e.region).putChannel e.role.outgoing
            ⟨(r.layout e.region).header.lock, m.store (Wire.message items)⟩ } :=
    congrArg (fun c => r.setMemory e.region { r.memory e.region with
      layout := (r.layout e.region).putChannel e.role.outgoing c }) hwritten
  rw [writeItems_of_typed husable htyped hsize, hregions]
  have hposted := h.replace (l := (r.layout e.region).putChannel e.role.outgoing
    ⟨(r.layout e.region).header.lock, m.store (Wire.message items)⟩)
    (by rw [Layout.lock_putChannel]; exact h.free)
  rwa [Layout.mailbox_putChannel_self] at hposted

end Typed

end Endpoint

namespace Company

variable {σ : Type} {p : Process} {c : Company} {i j : ℕ} {id : ObjectId} {d : Direction}
  {m : Mailbox} {e e' : Endpoint} {items : List Item} {w : Surroundings σ Bytes} {s : σ}

open Regions (Posted)

/-! ## Reads -/

/-- The first round of a read of endpoint `j` finds this company. The endpoint may be used by then,
and if it is a slave, its tick has not taken it off the region. -/
def BeginsRead (p : Process) (j : ℕ) (id : ObjectId) (c : Company) (w : Surroundings σ Bytes)
    (s : σ) : Prop :=
  ∃ e now, c.endpoints[j]? = some e ∧ e.ensureUsable = .ok () ∧
    (e.role = .slave → (e.readied p now c.regions).1.region = id) ∧
    (w.poll (w.clock s).2).1 = (e.poll p now (·.tryRead p e.config.lockTimeout) c.regions).1

theorem afterAll_map (p : Process) (c : Company) (acts : List Act) :
    c.afterAll (acts.map (p, ·)) = c.after p acts := by
  rw [afterAll, List.foldl_map, after]

/-- Every read in company begins like that, unless the endpoint is refused or has moved by then. -/
theorem Waits.beginsRead {sane : σ → Prop} {view : σ → Company}
    (hw : Waits p j sane view (fun config => (·.tryRead p config.lockTimeout)) none w)
    (hs : sane s) :
    ∃ acts now, Spares j acts ∧
      let c := (view s).afterAll (acts.map (p, ·))
      ∀ e, c.endpoints[j]? = some e → e.ensureUsable = .ok () →
        (e.role = .slave → (e.readied p now c.regions).1.region = id) →
        BeginsRead p j id c w s := by
  obtain ⟨hclocked, acts, hspares, hview⟩ := hw.clock s hs
  obtain ⟨-, acts', now, hspares', -, hanswer⟩ := hw.poll _ hclocked
  refine ⟨acts ++ acts', now, hspares.append hspares', ?_⟩
  rw [hview, ← after_append, ← afterAll_map] at hanswer
  exact fun e he husable hstays => ⟨e, now, he, husable, hstays, hanswer e he⟩

/-- So does every read on a host. -/
theorem beginsRead_readWith {host : Host} {seats : List Seat} {name : String} {member : Member}
    (h : host.Seated p seats) (hj : Host.Sits seats j name) (hm : host.member? name = some member) :
    ∃ acts now, Spares j acts ∧
      let c := (host.company seats).afterAll (acts.map (p, ·))
      ∀ e, c.endpoints[j]? = some e → e.ensureUsable = .ok () →
        (e.role = .slave → (e.readied p now c.regions).1.region = id) →
        BeginsRead p j id c ⟨Host.poll name (·.tryRead p member.endpoint.config.lockTimeout),
          Host.readClock, Host.sleep⟩ host :=
  (Host.waits_read p hj .tryRead).beginsRead ⟨h, Host.config_of_member? hm⟩

/-- This holds of what the next read of endpoint `j` gives, whatever is done before, except for
storing a message in the mailbox or taking one from it. It is a read with a deadline that a clock can
show. -/
def NextRead (p : Process) (j : ℕ) (id : ObjectId) (d : Direction) (c : Company)
    (holds : Except LinkError Bytes → Prop) : Prop :=
  ∀ acts, c.Undisturbed id d acts →
    ∀ {σ : Type} (w : Surroundings σ Bytes) (s : σ) (timeout : Duration),
      BeginsRead p j id (c.afterAll acts) w s → ((w.clock s).1.after? timeout).isSome = true →
        ∃ result, (w.read timeout s).1 = some result ∧ holds result

/-- What waits in a mailbox is what its reader reads next. -/
theorem nextRead_of_posted (p : Process) (hj : c.endpoints[j]? = some e)
    (htogether : e.role ≠ .slave → e.region = id) (hincoming : e.role.incoming = d)
    (hposted : Posted id d m c.regions) (hpending : m.pending = true) :
    c.NextRead p j id d (· = .ok m.message) := by
  intro acts hacts σ w s timeout hbegins htimely
  obtain ⟨deadline, hdeadline⟩ := Option.isSome_iff_exists.mp htimely
  obtain ⟨reader, now, hreader, husable, hstays, hpoll⟩ := hbegins
  obtain ⟨e', he', hrole, hregion⟩ := place_afterAll hj acts
  obtain rfl : reader = e' := Option.some.inj (hreader.symm.trans he')
  have hbox : ((reader.readied p now (c.afterAll acts).regions).1.region, reader.role.incoming) =
      (id, d) := by
    rw [hrole, hincoming]
    by_cases hslave : reader.role = .slave
    · rw [hstays hslave]
    · have hother : e.role ≠ .slave := hrole ▸ hslave
      rw [Endpoint.region_readied p now _ hslave, hregion hother, htogether hother]
  refine ⟨_, w.read_of_poll hdeadline ?_, rfl⟩
  rw [hpoll, Endpoint.poll_of_posted now _ (posted_afterAll hposted hacts) hpending husable hbox]

/-- Items that an endpoint writes for its peer on the other side, while the lock of their region is
free. The first item that cannot be written decides the error, if there is one. Otherwise they are
too long if and only if their size exceeds the mailbox; and if they are not, the peer's next read
gives them in their order, zeros without a sign, unless the mailbox counts as empty because its
counters have come round. An error changes nothing, and what waited is what the peer reads next.
Reads are meant whose deadline a clock can show. -/
theorem written_items_are_read (p p' : Process) (hi : c.endpoints[i]? = some e)
    (hj : c.endpoints[j]? = some e')
    (hsides : e.role = .master ∧ e'.role = .slave ∨ e.role = .slave ∧ e'.role = .master)
    (htogether : e'.region = e.region) (hmapped : e.region < c.regions.objects.length)
    (husable : e.ensureUsable = .ok ())
    (hfree : (c.regions.layout e.region).header.lock.owner = 0)
    (hsize : Wire.messageSize items < 2 ^ 32) :
    let box := (c.regions.layout e.region).mailbox e.role.outgoing
    let written := e.writeItems p items c.regions
    let wrote := c.perform p (.on i (.writeItems items))
    (∀ before bad after, items = before ++ bad :: after →
      (∀ x ∈ before, x.value.type = x.type) →
      bad.type.isReserved = true ∨ bad.value.type ≠ bad.type →
      written.1 = .error (.codec (if bad.type.isReserved then .unsupportedType bad.type.code
        else .valueTypeMismatch bad.key bad.type bad.value.type))) ∧
    ((∀ x ∈ items, x.value.type = x.type) →
      (written.1 = .error (.bufferFull (Wire.messageSize items) 65536) ↔
        65536 < Wire.messageSize items) ∧
      (written.1 = .ok () ↔ Wire.messageSize items ≤ 65536) ∧
      (Wire.messageSize items ≤ 65536 → box.writeCount + 1 ≠ box.readCount →
        wrote.NextRead p' j e.region e.role.outgoing fun result =>
          Session.decoded result = .ok (items.map Item.dropZeroSign))) ∧
    ∀ err, written.1 = .error err → written.2 = c.regions ∧
      (box.pending = true →
        wrote.NextRead p' j e.region e.role.outgoing (· = .ok box.message)) := by
  intro box written wrote
  have hposted : Posted e.region e.role.outgoing box c.regions := ⟨hmapped, hfree, rfl⟩
  have hregions : wrote.regions = written.2 := congrArg Company.regions (perform_on hi _)
  -- What the peer is after the write.
  obtain ⟨reader, hreader, hrole, hregion⟩ := place_perform p hj (.on i (.writeItems items))
  have hincoming : reader.role.incoming = e.role.outgoing := by
    rw [hrole]
    rcases hsides with ⟨hrole, hrole'⟩ | ⟨hrole, hrole'⟩ <;> rw [hrole, hrole'] <;> rfl
  have hnear (hslave : reader.role ≠ .slave) : reader.region = e.region :=
    (hregion (hrole ▸ hslave)).trans htogether
  refine ⟨fun before bad after hsplit hbefore hbad => ?_, fun htyped => ⟨?_, ?_, ?_⟩,
    fun err hfails => ?_⟩
  · subst hsplit
    exact congrArg Prod.fst (Endpoint.writeItems_of_untyped hbefore hbad)
  · exact Endpoint.writeItems_eq_bufferFull_iff husable htyped hsize hfree
  · exact Endpoint.writeItems_eq_ok_iff husable htyped hsize hfree
  · intro hfits hcount acts hacts σ w s timeout hbegins htimely
    have hstored := Endpoint.posted_writeItems (p := p) husable htyped hsize hfits hposted
    have hpending : (box.store (Wire.message items)).pending = true := by
      simpa [Mailbox.pending, Mailbox.store, Mailbox.announce, Mailbox.setLength,
        Mailbox.copyIn] using hcount
    have hmessage := Mailbox.message_store box ((Wire.length_message hsize).trans_le hfits)
    obtain ⟨result, hread, rfl⟩ := nextRead_of_posted p' hreader hnear hincoming
      (hregions ▸ hstored) hpending acts hacts w s timeout hbegins htimely
    refine ⟨_, hread, ?_⟩
    dsimp only
    rw [hmessage, Session.decoded, Message.decode_of_messageForm
      (Message.messageForm_message htyped (Wire.length_body_lt hsize))]
  · have hkept : written.2 = c.regions :=
      congrArg Prod.snd (Endpoint.writeItems_of_error hfree hfails)
    refine ⟨hkept, fun hpending => ?_⟩
    rw [← hkept, ← hregions] at hposted
    exact nextRead_of_posted p' hreader hnear hincoming hposted hpending

/-! ## A message that arrives and two that do not -/

/-- A company by itself, in which endpoint `j` polls at one time. -/
def polling (p : Process) (j : ℕ) (now : Instant) : Surroundings Company Bytes where
  poll c :=
    match c.endpoints[j]? with
    | none => (none, c)
    | some e =>
      let (result, out) := e.poll p now (·.tryRead p e.config.lockTimeout) c.regions
      (result, c.put j out)
  clock c := (now, c)
  sleep _ c := c

theorem beginsRead_polling {now : Instant} (he : c.endpoints[j]? = some e)
    (husable : e.ensureUsable = .ok ())
    (hstays : e.role = .slave → (e.readied p now c.regions).1.region = id) :
    BeginsRead p j id c (polling p j now) c :=
  ⟨e, now, he, husable, hstays, by simp [polling, he]⟩

/-- What an endpoint is, as far as messages are concerned, and where its next round looks. -/
def standing (p : Process) (now : Instant) (i : ℕ) (c : Company) :
    Option (ObjectId × Role × Bool × ObjectId) :=
  c.endpoints[i]?.map fun e =>
    (e.region, e.role, e.ensureUsable.isOk, (e.readied p now c.regions).1.region)

theorem of_standing {now : Instant} {role : Role} {found : ObjectId}
    (h : c.standing p now i = some (id, role, true, found)) :
    ∃ e, c.endpoints[i]? = some e ∧ e.region = id ∧ e.role = role ∧ e.ensureUsable = .ok () ∧
      (e.readied p now c.regions).1.region = found := by
  obtain ⟨e, he, heq⟩ := Option.map_eq_some_iff.mp h
  simp only [Prod.mk.injEq] at heq
  obtain ⟨hregion, hrole, husable, hfound⟩ := heq
  refine ⟨e, he, hregion, hrole, ?_, hfound⟩
  cases hresult : e.ensureUsable with
  | error err =>
    rw [hresult] at husable
    cases husable
  | ok u => rfl

/-- A zero with a sign, and a number of two bytes. -/
def greeting : List Item :=
  [.ofValue "zero" (.real Binary64.negativeZero), .ofValue "number" (.integer 300)]

/-- A master and a slave, which has no worker and so ticks when it reads. -/
def pair : Company :=
  empty.after lonely [.openEndpoint .able 0 { name := "a", role := .master },
    .openEndpoint .able 0 { name := "a", role := .slave, background := false }]

/-- The pair once the master has written. -/
def greeted : Company := pair.perform lonely (.on 0 (.writeItems greeting))

/-- The name goes, but nobody takes it. -/
def meanwhile : List (Process × Act) :=
  [(lonely, .on 0 .beat), (lonely, .unlink "a"), (lonely, .on 1 (.tick 5))]

theorem written_items_are_read_greeting :
    ∃ e e', pair.endpoints[0]? = some e ∧ pair.endpoints[1]? = some e' ∧
      (e.role = .master ∧ e'.role = .slave ∨ e.role = .slave ∧ e'.role = .master) ∧
      e'.region = e.region ∧ e.region < pair.regions.objects.length ∧ e.ensureUsable = .ok () ∧
      (pair.regions.layout e.region).header.lock.owner = 0 ∧
      Wire.messageSize greeting < 2 ^ 32 ∧
      ∃ result, ((polling lonely 1 9).read 0 (greeted.afterAll meanwhile)).1 = some result ∧
        Session.decoded result = .ok (greeting.map Item.dropZeroSign) := by
  obtain ⟨e, he, hregion, hrole, husable, -⟩ :=
    of_standing (show pair.standing lonely 0 0 = some (0, .master, true, 0) by decide +kernel)
  obtain ⟨e', he', hregion', hrole', -, -⟩ :=
    of_standing (show pair.standing lonely 0 1 = some (0, .slave, true, 0) by decide +kernel)
  have hlater : (greeted.afterAll meanwhile).standing lonely 9 1 = some (0, .slave, true, 0) := by
    decide +kernel
  obtain ⟨reader, hreader, -, -, hready, hstays⟩ := of_standing hlater
  have hsides : e.role = .master ∧ e'.role = .slave ∨ e.role = .slave ∧ e'.role = .master :=
    .inl ⟨hrole, hrole'⟩
  have htogether : e'.region = e.region := hregion'.trans hregion.symm
  have hmapped : e.region < pair.regions.objects.length := by
    rw [hregion]
    decide +kernel
  have hfree : (pair.regions.layout e.region).header.lock.owner = 0 := by
    rw [hregion]
    decide +kernel
  have hsize : Wire.messageSize greeting < 2 ^ 32 := by decide
  have hcount : ((pair.regions.layout 0).mailbox .masterToSlave).writeCount + 1 ≠
      ((pair.regions.layout 0).mailbox .masterToSlave).readCount := by
    decide +kernel
  have hmeanwhile : greeted.Undisturbed 0 .masterToSlave meanwhile := by
    refine ⟨?_, id, ?_, trivial⟩
    · rintro ⟨_, -, hbox, -⟩
      cases hbox
    · rintro ⟨_, -, hbox, -⟩
      cases hbox
  obtain ⟨-, hwritten, -⟩ := written_items_are_read lonely lonely he he' hsides htogether hmapped
    husable hfree hsize
  obtain ⟨-, -, hread⟩ := hwritten (by decide)
  rw [hrole, hregion] at hread
  exact ⟨e, e', he, he', hsides, htogether, hmapped, husable, hfree, hsize,
    hread (by decide) hcount meanwhile hmeanwhile _ _ 0
      (beginsRead_polling hreader hready fun _ => hstays) rfl⟩

/-- A second master has made a region under the name, and the slave has missed the first one for a
while. -/
def rival : Company :=
  pair.after lonely [.unlink "a", .openEndpoint .able 0 { name := "a", role := .master },
    .on 1 (.tick 200000000)]

/-- The pair on a region whose counters are about to come round. -/
def worn : Company :=
  let memory := pair.regions.memory 0
  { pair with regions := pair.regions.setMemory 0 { memory with
      layout := { memory.layout with
        masterToSlave := { memory.layout.masterToSlave with writeCount := 0xffffffffffffffff } } } }

/-- A slave that moves while it reads misses what was written for it, and so does one whose mailbox
looks empty because its counters have come round. -/
theorem written_items_are_missed :
    (∀ i ∈ greeting, i.value.type = i.type) ∧ Wire.messageSize greeting ≤ 65536 ∧
      ∀ c ∈ [rival, worn],
        (c.endpoints.take 2).map (fun e => (e.region, e.role, e.ensureUsable.isOk)) =
          [(0, .master, true), (0, .slave, true)] ∧
        (c.regions.layout 0).header.lock.owner = 0 ∧
        c.endpoints[0]?.map (fun e => (e.writeItems lonely greeting c.regions).1.isOk) =
          some true ∧
        ((polling lonely 1 201000000).read 0
          (c.perform lonely (.on 0 (.writeItems greeting)))).1 = some (.error .noData) := by
  decide +kernel

end Company

end PeerLink
