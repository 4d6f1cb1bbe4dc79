import Mathlib.Logic.Function.Basic
import PeerLink.Proofs.Host.Seating
import PeerLink.Proofs.Link.Bystanders
import PeerLink.Proofs.Link.Tenure

/-! # The mail of a host

All mailboxes of a host at once, as a function. Making regions, claims, beats and closing leave it
as it is, whatever the locks say; a read marks one mailbox as read, a write stores in one mailbox.

* `Regions.mail`: the mailbox of every object and direction.
* `Regions.Fetches`, `Regions.Posts`: what a poll and a write answer and leave.
* `Endpoint.poll_fetches`, `Endpoint.write_posts`: one round of a read, and a write.
* `Host.mail_sleep`, `Host.mail_drop`, `Host.mail_openEndpoint`: what leaves the mail alone.
* `Host.poll_fetches`: one poll on a host.
-/

namespace PeerLink
set_option autoImplicit false

/-! ## Channels -/

theorem Channel.tryRead_cases (p : Process) (timeout : Duration) (c : Channel) :
    (c.mailbox.pending = true ∧
      ∃ lock, c.tryRead p timeout = (.ok c.mailbox.message, ⟨lock, c.mailbox.markRead⟩)) ∨
    (c.mailbox.pending = false ∧ c.tryRead p timeout = (.error .noData, c)) ∨
    ∃ err, c.tryRead p timeout = (.error (.region err), c) := by
  by_cases hpending : c.mailbox.pending = true
  · by_cases ha : c.lock.Available p
    · exact .inl ⟨hpending, _, tryRead_of_available timeout hpending ha⟩
    · obtain ⟨err, herr⟩ := Lock.acquire_of_not_available timeout ha
      exact .inr (.inr ⟨err, receiving_of_refused _ hpending herr⟩)
  · have hempty : c.mailbox.pending = false := Bool.not_eq_true _ ▸ hpending
    exact .inr (.inl ⟨hempty, tryRead_of_empty timeout hempty⟩)

/-! ## Regions -/

namespace Regions

variable {α : Type} {r r' : Regions} {id : ObjectId}

/-- The mailboxes of all objects, those not made yet included. -/
def mail (r : Regions) (box : ObjectId × Direction) : Mailbox := (r.layout box.1).mailbox box.2

theorem mail_of_objects (h : r'.objects = r.objects) : r'.mail = r.mail := by
  funext box
  simp only [mail, layout, memory, h]

/-- Nothing waits beyond the last object. -/
theorem lt_length_of_pending {box : ObjectId × Direction} (h : (r.mail box).pending = true) :
    box.1 < r.objects.length := by
  by_contra hbeyond
  rw [mail, layout, memory_of_length_le (Nat.le_of_not_lt hbeyond)] at h
  obtain ⟨id, d⟩ := box
  cases d <;> cases h

theorem mail_setLayout {l : Layout} (h : ∀ d, l.mailbox d = r.mail (id, d)) :
    (r.setMemory id { r.memory id with layout := l }).mail = r.mail := by
  funext ⟨other, d⟩
  rw [mail, layout, memory_setMemory]
  split
  · rename_i hsame
    obtain rfl : other = id := hsame.1
    exact h d
  · rfl

@[simp] theorem mail_onHeader (id : ObjectId) (act : Header → α × Header) (r : Regions) :
    (r.onHeader id act).2.mail = r.mail :=
  mail_setLayout fun d => by cases d <;> rfl

@[simp] theorem mail_mapHeader (id : ObjectId) (f : Header → Header) (r : Regions) :
    (r.mapHeader id f).mail = r.mail :=
  mail_setLayout fun d => by cases d <;> rfl

/-- A new object is as empty as no object. -/
theorem mail_allocate {m : Memory} (hm : ∀ d, m.layout.mailbox d = .zero) (r : Regions) :
    (r.allocate m).2.mail = r.mail := by
  funext ⟨id, d⟩
  rw [mail, mail, layout, layout, memory_allocate]
  split
  · rename_i hnew
    rw [hnew, memory_of_length_le (Nat.le_refl _), hm]
    cases d <;> rfl
  · rfl

theorem mail_create (k : Kernel) (name : String) (size mode : Nat) (r : Regions) :
    (r.create k name size mode).2.mail = r.mail := by
  have hmade := mail_allocate (m := .zero size) (fun d => by cases d <;> rfl) r
  rcases create_cases k name size mode r with ⟨e, h⟩ | ⟨e, h⟩ | ⟨n, -, -, h⟩
  · rw [h]
  · rw [h, hmade]
  · rw [h]
    exact (mail_of_objects rfl).trans hmade

theorem mail_createLayout (k : Kernel) (p : Process) (name : String) (staleThreshold : Duration)
    (r : Regions) : (r.createLayout k p name staleThreshold).2.mail = r.mail := by
  have hcreated := mail_create k name Layout.size defaultMode r
  rw [createLayout]
  generalize r.create k name Layout.size defaultMode = out at *
  obtain ⟨err | handle, made⟩ := out
  · exact hcreated
  · have hpublished := mail_onHeader handle.object (·.publish p staleThreshold) made
    dsimp only
    generalize made.onHeader handle.object (·.publish p staleThreshold) = out at *
    obtain ⟨err | u, filled⟩ := out
    · exact (mail_of_objects (objects_unlink name filled)).trans (hpublished.trans hcreated)
    · exact hpublished.trans hcreated

theorem mail_step (k : Kernel) (p : Process) (c : EndpointConfig) (a : Approach) (r : Regions) :
    (a.step k p c r).2.mail = r.mail := by
  cases a with
  | look left last =>
    cases left with
    | zero => rfl
    | succ left =>
      rw [Approach.step]
      cases r.attachLayout c.name with
      | ok handle => rfl
      | error e =>
        dsimp only
        split_ifs <;> rfl
  | discard left =>
    have hunlinked := mail_of_objects (objects_unlink c.name r)
    rw [Approach.step]
    generalize r.unlink c.name = out at *
    obtain ⟨err | removed, r'⟩ := out <;> exact hunlinked
  | make left =>
    have hmade := mail_createLayout k p c.name c.staleThreshold r
    rw [Approach.step]
    generalize r.createLayout k p c.name c.staleThreshold = out at *
    obtain ⟨e | handle, r'⟩ := out
    · dsimp only
      split <;> exact hmade
    · exact hmade
  | attached handle => rfl
  | refused e => rfl

theorem mail_run (k : Kernel) (p : Process) (c : EndpointConfig) (steps : Nat) (a : Approach)
    (r : Regions) : (a.run k p c steps r).2.mail = r.mail := by
  induction steps generalizing a r with
  | zero => cases a <;> rfl
  | succ steps ih => rw [Approach.run_succ, ih, mail_step]

/-- What a poll for the message in a mailbox answers, and what it leaves. It goes without an answer
only if no message waits there. -/
inductive Fetches (r : Regions) (box : ObjectId × Direction) :
    Option (Except LinkError Bytes) → Regions → Prop where
  | taken {r' : Regions} (hpending : (r.mail box).pending = true)
      (hlt : box.1 < r'.objects.length)
      (hmail : r'.mail = Function.update r.mail box (r.mail box).markRead) :
      Fetches r box (some (.ok (r.mail box).message)) r'
  | empty {r' : Regions} (hempty : (r.mail box).pending = false) (hmail : r'.mail = r.mail) :
      Fetches r box none r'
  | refused {r' : Regions} (err : LinkError) (hmail : r'.mail = r.mail) :
      Fetches r box (some (.error err)) r'

theorem Fetches.congr {box : ObjectId × Direction} {answer : Option (Except LinkError Bytes)}
    {r'' : Regions} (h : r'.Fetches box answer r'') (hmail : r'.mail = r.mail) :
    r.Fetches box answer r'' := by
  cases h with
  | taken hpending hlt hafter =>
    rw [hmail] at hpending hafter ⊢
    exact .taken hpending hlt hafter
  | empty hempty hafter => exact .empty (hmail ▸ hempty) (hafter.trans hmail)
  | refused err hafter => exact .refused err (hafter.trans hmail)

/-- What a write into a mailbox answers, and what it leaves. -/
inductive Posts (r : Regions) (box : ObjectId × Direction) (payload : Bytes) :
    Except LinkError Unit → Regions → Prop where
  | stored {r' : Regions} (hfits : payload.length ≤ Mailbox.capacity)
      (hmail : r'.mail = Function.update r.mail box ((r.mail box).store payload)) :
      Posts r box payload (.ok ()) r'
  | refused {r' : Regions} (err : LinkError) (hmail : r'.mail = r.mail) :
      Posts r box payload (.error err) r'

end Regions

/-! ## Endpoints -/

namespace Endpoint

open Regions (mail_onHeader mail_mapHeader)

variable {α : Type} {p : Process} {e : Endpoint} {r : Regions}

theorem mail_board (k : Kernel) (p : Process) (now : Instant) (c : EndpointConfig) (r : Regions) :
    (board k p now c r).2.mail = r.mail := by
  rw [board]
  cases c.validate with
  | error err => rfl
  | ok u =>
    dsimp only
    cases now.after? c.lockTimeout with
    | none => rfl
    | some deadline =>
      have hacquired : (r.acquire k p c).2.mail = r.mail := Regions.mail_run ..
      dsimp only
      generalize r.acquire k p c = out at *
      obtain ⟨err | handle, mid⟩ := out
      · exact hacquired
      · have hclaimed := mail_onHeader handle.object (·.claim p c.role c.lockTimeout) mid
        dsimp only
        rw [enter]
        generalize mid.onHeader handle.object (·.claim p c.role c.lockTimeout) = out at *
        obtain ⟨err | side, r'⟩ := out
        · exact hclaimed.trans hacquired
        · exact (mail_mapHeader ..).trans (hclaimed.trans hacquired)

theorem mail_open (k : Kernel) (p : Process) (now : Instant) (c : EndpointConfig) (r : Regions) :
    (Endpoint.open k p now c r).2.mail = r.mail := by
  have hboarded := mail_board k p now c r
  rcases regions_open k p now c r with hopened | ⟨e, hopened⟩
  · rw [hopened]
    exact hboarded
  · rw [hopened]
    exact (mail_onHeader ..).trans hboarded

theorem mail_reconnect (p : Process) (now : Instant) (e : Endpoint) (r : Regions) :
    (e.reconnect p now r).2.mail = r.mail := by
  rcases reconnect_any p now e r with ⟨fresh, -, -, h⟩ | ⟨-, r', h, rfl | ⟨fresh, -, rfl⟩⟩
  · simp [h, Regions.take, Regions.mapSlot, Regions.unlock]
  · rw [h]
  · simp [h, Regions.unlock]

theorem mail_check (p : Process) (now : Instant) (e : Endpoint) (r : Regions) :
    (e.check p now r).2.mail = r.mail := by
  rw [check]
  dsimp only
  split
  · exact mail_reconnect ..
  · rfl

theorem mail_readied (p : Process) (now : Instant) (e : Endpoint) (r : Regions) :
    (e.readied p now r).2.mail = r.mail := by
  rw [readied, tick]
  split_ifs
  · rfl
  · rfl
  · exact (mail_check ..).trans (mail_mapHeader ..)

theorem mail_close (p : Process) (e : Endpoint) (r : Regions) :
    (e.close p r).2.2.mail = r.mail := by
  rw [close]
  split
  · rfl
  · exact (Regions.mail_of_objects (objects_leave p e r)).trans (mail_onHeader ..)

theorem mail_onChannel (d : Direction) (act : Channel → α × Channel)
    (h : e.region < r.objects.length) :
    (e.onChannel d act r).2.mail = Function.update r.mail (e.region, d)
      (act ((r.layout e.region).channel d)).2.mailbox := by
  funext ⟨id, d'⟩
  have hlayout : ((e.onChannel d act r).2.layout id).mailbox d' =
      if id = e.region then
        ((r.layout e.region).putChannel d (act ((r.layout e.region).channel d)).2).mailbox d'
      else (r.layout id).mailbox d' := by
    rw [onChannel, Regions.onLayout, Regions.layout, Regions.memory_setMemory]
    simp only [h, and_true]
    split <;> rfl
  rw [Regions.mail, hlayout]
  by_cases hid : id = e.region
  · subst hid
    by_cases hd : d' = d
    · subst hd
      simp
    · rw [if_pos rfl, Layout.mailbox_putChannel_of_ne hd, Function.update_of_ne (by simp [hd]),
        Regions.mail]
  · rw [if_neg hid, Function.update_of_ne (by simp [hid]), Regions.mail]

theorem mail_onChannel_of_kept (d : Direction) (act : Channel → α × Channel)
    (h : (act ((r.layout e.region).channel d)).2.mailbox = r.mail (e.region, d)) :
    (e.onChannel d act r).2.mail = r.mail := by
  refine Regions.mail_setLayout fun d' => ?_
  by_cases hd : d' = d
  · subst hd
    exact Layout.mailbox_putChannel_self.trans h
  · exact Layout.mailbox_putChannel_of_ne hd

theorem length_onChannel (d : Direction) (act : Channel → α × Channel) :
    (e.onChannel d act r).2.objects.length = r.objects.length := Regions.length_setMemory

/-- Where the messages for an endpoint wait. -/
def inbox (e : Endpoint) : ObjectId × Direction := (e.region, e.role.incoming)

/-- Where the messages from an endpoint go. -/
def outbox (e : Endpoint) : ObjectId × Direction := (e.region, e.role.outgoing)

/-- A round of a read is for what waits in the mailbox of the endpoint, as it is after the round. -/
theorem poll_fetches (p : Process) (now : Instant) (timeout : Duration) (e : Endpoint)
    (r : Regions) :
    let out := e.poll p now (·.tryRead p timeout) r
    r.Fetches out.2.1.inbox out.1 out.2.2 := by
  cases husable : e.ensureUsable with
  | error err =>
    rw [poll, husable]
    exact .refused err rfl
  | ok u =>
    have hanswer := poll_answer (r := r) p now (·.tryRead p timeout) husable
    have hstate := poll_of_usable (r := r) p now (·.tryRead p timeout) husable
    rw [← role_readied p now e r] at hanswer
    rw [← readied] at hstate
    intro out
    rw [hstate, hanswer]
    refine Regions.Fetches.congr ?_ (mail_readied p now e r)
    generalize e.readied p now r = ready
    obtain ⟨e, r⟩ := ready
    dsimp only
    set c := (r.layout e.region).channel e.role.incoming with hc
    have hread : (e.onChannel e.role.incoming (·.tryRead p timeout) r).1 =
        (c.tryRead p timeout).1 := rfl
    have hkept (h : (c.tryRead p timeout).2 = c) :
        (e.onChannel e.role.incoming (·.tryRead p timeout) r).2.mail = r.mail :=
      mail_onChannel_of_kept _ _ (congrArg Channel.mailbox h)
    rcases Channel.tryRead_cases p timeout c with
      ⟨hpending, lock, h⟩ | ⟨hempty, h⟩ | ⟨err, h⟩ <;> rw [hread, h]
    · have hbox : (r.mail e.inbox).pending = true := hpending
      have hlt : e.region < r.objects.length := Regions.lt_length_of_pending hbox
      refine .taken hpending (by rwa [length_onChannel]) ?_
      rw [mail_onChannel _ _ hlt, ← hc, h]
      rfl
    · exact .empty hempty (hkept (congrArg Prod.snd h))
    · exact .refused (.region err) (hkept (congrArg Prod.snd h))

theorem write_posts (p : Process) (payload : Bytes) (h : e.region < r.objects.length) :
    r.Posts e.outbox payload (e.write p payload r).1 (e.write p payload r).2 := by
  rw [write]
  cases e.ensureUsable with
  | error err => exact .refused err rfl
  | ok u =>
    set c := (r.layout e.region).channel e.role.outgoing with hc
    rcases Channel.write_outcome p e.config.lockTimeout payload c with
      ⟨hfits, lock, hwrite⟩ | ⟨err, hwrite⟩
    · have hanswer : (e.onChannel e.role.outgoing (·.write p e.config.lockTimeout payload) r).1 =
          .ok () := congrArg Prod.fst hwrite
      dsimp only
      rw [hanswer]
      refine .stored hfits ?_
      rw [mail_onChannel _ _ h, ← hc, hwrite]
      rfl
    · have hanswer : (e.onChannel e.role.outgoing (·.write p e.config.lockTimeout payload) r).1 =
          .error err := congrArg Prod.fst hwrite
      dsimp only
      rw [hanswer]
      exact .refused err (mail_onChannel_of_kept _ _ (congrArg (·.2.mailbox) hwrite))

end Endpoint

/-! ## Hosts -/

namespace Host

variable {h : Host} {id : String} {m : Member}

theorem mail_workerRound (id : String) (m : Member) (w : Worker) (h : Host) :
    (h.workerRound id m w).regions.mail = h.regions.mail := by
  have hbeaten : (m.endpoint.beat h.regions).mail = h.regions.mail := Regions.mail_mapHeader ..
  have hchecked := Endpoint.mail_check m.process w.wake m.endpoint (m.endpoint.beat h.regions)
  rw [workerRound]
  dsimp only
  split_ifs
  · exact hbeaten
  · exact hchecked.trans hbeaten
  · exact hbeaten

theorem names_workerRound (id : String) (m : Member) (w : Worker) (h : Host) :
    (h.workerRound id m w).members.map (·.1) = h.members.map (·.1) := by
  rw [workerRound]
  dsimp only
  split <;> exact names_setMember ..

/-- While time passes, the mailboxes and the names of the members stay as they are. -/
theorem kept_workUntil (target : Instant) (rounds : Nat) (h : Host) :
    (h.workUntil target rounds).regions.mail = h.regions.mail ∧
      (h.workUntil target rounds).members.map (·.1) = h.members.map (·.1) := by
  induction rounds generalizing h with
  | zero => exact ⟨rfl, rfl⟩
  | succ rounds ih =>
    rw [workUntil]
    rcases h.firstAwake with _ | ⟨id, m, w⟩
    · exact ⟨rfl, rfl⟩
    · dsimp only
      split
      · obtain ⟨hmail, hnames⟩ := ih (h.workerRound id m w)
        exact ⟨hmail.trans (mail_workerRound ..), hnames.trans (names_workerRound ..)⟩
      · exact ⟨rfl, rfl⟩

theorem mail_sleep (d : Duration) (h : Host) : (h.sleep d).regions.mail = h.regions.mail :=
  (kept_workUntil ..).1

theorem member?_sleep (d : Duration) (hm : h.member? id = some m) :
    ∃ m', (h.sleep d).member? id = some m' := by
  have hnames : (h.sleep d).members.map (·.1) = h.members.map (·.1) := (kept_workUntil ..).2
  have hthere : id ∈ h.members.map (·.1) := member?_isSome.mp (by rw [hm]; rfl)
  exact Option.isSome_iff_exists.mp (member?_isSome.mpr (hnames ▸ hthere))

theorem mail_drop (id : String) (h : Host) : (h.drop id).regions.mail = h.regions.mail := by
  rw [drop]
  cases h.member? id with
  | none => rfl
  | some m => exact Endpoint.mail_close ..

theorem mail_openEndpoint (k : Kernel) (p : Process) (id : String) (c : EndpointConfig) (h : Host) :
    (h.openEndpoint k p id c).2.regions.mail = h.regions.mail := by
  have hread : h.readClock.2.regions.mail = h.regions.mail := mail_sleep ..
  have hopened := Endpoint.mail_open k p h.readClock.1 c h.readClock.2.regions
  rw [openEndpoint]
  dsimp only
  generalize Endpoint.open k p h.readClock.1 c h.readClock.2.regions = out at *
  obtain ⟨_ | err | e, r⟩ := out
  · exact hopened.trans hread
  · exact hopened.trans hread
  · exact (mail_drop ..).trans (hopened.trans hread)

/-- A poll is for what waits in the mailbox of the member, as the member is after the poll. -/
theorem poll_fetches (timeout : Duration) (hm : h.member? id = some m) :
    let out := h.poll id (·.tryRead m.process timeout)
    ∃ m', out.2.member? id = some m' ∧
      h.regions.Fetches m'.endpoint.inbox out.1 out.2.regions := by
  obtain ⟨ready, hready, hmail, m₁, hm₁⟩ : ∃ ready : Instant × Host,
      ready = (if m.endpoint.config.background then (h.now, h) else h.readClock) ∧
      ready.2.regions.mail = h.regions.mail ∧ ∃ m₁, ready.2.member? id = some m₁ := by
    refine ⟨_, rfl, ?_⟩
    split
    · exact ⟨rfl, m, hm⟩
    · exact ⟨mail_sleep .., member?_sleep _ hm⟩
  have hpoll : h.poll id (·.tryRead m.process timeout) =
      let out := m.endpoint.poll m.process ready.1 (·.tryRead m.process timeout) ready.2.regions
      (out.1, ready.2.store id m out.2.1 out.2.2) := by
    rw [poll, hm, hready]
  have hstored (e : Endpoint) (r : Regions) :
      (ready.2.store id m e r).member? id = some { m with endpoint := e } := by
    have hthere : ({ ready.2 with regions := r } : Host).member? id = some m₁ := hm₁
    exact member?_setMember_self _ hthere
  have hfetches := Endpoint.poll_fetches m.process ready.1 timeout m.endpoint ready.2.regions
  dsimp only
  rw [hpoll]
  exact ⟨_, hstored .., hfetches.congr hmail⟩

end Host

end PeerLink
