import PeerLink.Cli.Rehearsal
import PeerLink.Proofs.Host.Mail

/-! # Receiving so many messages

A command that shows or sends back messages and has a limit, among others who do what they want on
its host. It stops with the message that reaches the limit, and takes no other; but it asks only
after a message, so that one is taken even where the limit is zero.

* `Task.Delivery`, `Task.delivery?`: the message that a step takes.
* `Task.Turn.Proper`: what a step does to the mailboxes of the host and to the output.
* `Task.Standing`: how a command stands after so many messages; `Task.Standing.step`: the next step.
* `Task.Service`: a command at work, and `Task.Service.after`: after a number of steps.
* `Task.Service.rehearsal_shows`: a rehearsal is such a run.

Main statement: `Task.Service.limit_is_exact`.
-/

namespace PeerLink.Task
set_option autoImplicit false

variable {s : Setting} {n k : Nat} {sendBack raw : Bool} {t : Task} {h : Host}

/-! ## Messages -/

/-- A message that a command takes, and its endpoint at that moment. -/
structure Delivery where
  endpoint : Endpoint
  payload : Bytes

namespace Delivery

variable (d : Delivery)

/-- How a listening command shows the message. -/
def shown (s : Setting) (format : OutputFormat) (raw : Bool) : Bytes :=
  ReceivedMessage.listing s.timeOfDay format
    ⟨d.endpoint.config.name, d.endpoint.role, d.payload,
      if raw then none else (Message.decode d.payload).toOption⟩

/-- The message waits in the mailbox of the endpoint. -/
def Waits (mail : ObjectId × Direction → Mailbox) : Prop :=
  (mail d.endpoint.inbox).pending = true ∧ (mail d.endpoint.inbox).message = d.payload

/-- The mail once the message is taken. -/
def taken (mail : ObjectId × Direction → Mailbox) : ObjectId × Direction → Mailbox :=
  Function.update mail d.endpoint.inbox (mail d.endpoint.inbox).markRead

/-- The mail once the message is taken and sent back. -/
def answered (mail : ObjectId × Direction → Mailbox) : ObjectId × Direction → Mailbox :=
  Function.update (d.taken mail) d.endpoint.outbox
    ((d.taken mail d.endpoint.outbox).store d.payload)

end Delivery

/-- Whether a command waits for messages to show or to send back. -/
def isReceiving (t : Task) : Bool :=
  match t.stage with
  | .receiving .. => true
  | _ => false

/-- The message that the next step of a command takes. -/
def delivery? (t : Task) (h : Host) : Option Delivery :=
  if t.isReceiving then
    match poll h with
    | (some (.ok payload), h) => (h.member? member).map fun m => ⟨m.endpoint, payload⟩
    | _ => none
  else none

/-! ## Turns -/

/-- One step of a command. -/
structure Turn where
  before : Task × Host
  after : Task × Host

namespace Turn

/-- The message that is taken. -/
def delivery? (turn : Turn) : Option Delivery := turn.before.1.delivery? turn.before.2

/-- The mailboxes before the step and after it. -/
def mail (turn : Turn) : ObjectId × Direction → Mailbox := turn.before.2.regions.mail

def mailAfter (turn : Turn) : ObjectId × Direction → Mailbox := turn.after.2.regions.mail

/-- What a step does. Without a message all mailboxes and the output stay as they are, and if the
command was waiting and goes on, nothing waits for it. A message is taken from the mailbox where it
waited and shown, or it is sent back; if that is refused the command fails. -/
inductive Proper (s : Setting) (sendBack raw : Bool) (turn : Turn) : Prop where
  | quiet (hnone : turn.delivery? = none) (hmail : turn.mailAfter = turn.mail)
      (houtput : turn.after.1.output = turn.before.1.output)
      (hidle : turn.before.1.isReceiving = true → turn.after.1.exitCode? = none →
        ∃ m, turn.after.2.member? member = some m ∧
          (turn.mail m.endpoint.inbox).pending = false)
  | shown (d : Delivery) (hd : turn.delivery? = some d) (hwaits : d.Waits turn.mail)
      (hshows : sendBack = false) (hmail : turn.mailAfter = d.taken turn.mail)
      (houtput : turn.after.1.output =
        turn.before.1.output ++ d.shown s turn.before.1.format raw)
  | answered (d : Delivery) (hd : turn.delivery? = some d) (hwaits : d.Waits turn.mail)
      (hsends : sendBack = true) (hfits : d.payload.length ≤ Mailbox.capacity)
      (hmail : turn.mailAfter = d.answered turn.mail)
      (houtput : turn.after.1.output = turn.before.1.output)
  | refused (d : Delivery) (hd : turn.delivery? = some d) (hwaits : d.Waits turn.mail)
      (hsends : sendBack = true) (hfails : turn.after.1.errors ≠ [])
      (hmail : turn.mailAfter = d.taken turn.mail)
      (houtput : turn.after.1.output = turn.before.1.output)

end Turn

/-! ## What leaves mail and output alone -/

/-- Mailboxes, output and its format stay as they are. -/
structure Quiet (before after : Task × Host) : Prop where
  output : after.1.output = before.1.output
  format : after.1.format = before.1.format
  mail : after.2.regions.mail = before.2.regions.mail

theorem Quiet.after_mail {after : Task × Host} {h' : Host} (hquiet : Quiet (t, h') after)
    (hmail : h'.regions.mail = h.regions.mail) : Quiet (t, h) after :=
  ⟨hquiet.output, hquiet.format, hquiet.mail.trans hmail⟩

theorem quiet_fail (f : Failure) (t : Task) (h : Host) : Quiet (t, h) (t.fail f h) :=
  ⟨rfl, rfl, Host.mail_drop ..⟩

theorem quiet_breakOff (t : Task) (h : Host) : Quiet (t, h) (t.breakOff h) :=
  ⟨rfl, rfl, Host.mail_drop ..⟩

theorem quiet_finish (code : ExitCode) (t : Task) (h : Host) : Quiet (t, h) (t.finish code h) :=
  ⟨rfl, rfl, Host.mail_drop ..⟩

theorem quiet_nextSlice (now : Instant) (sendBack raw : Bool) (receiver : Receiver) (t : Task)
    (h : Host) : Quiet (t, h) (t.nextSlice now sendBack raw receiver h) := by
  rw [nextSlice]
  split
  · exact quiet_finish ..
  · exact ⟨rfl, rfl, rfl⟩

/-! ## Standing after so many messages -/

/-- What comes between two steps of a command: others act on its host while time passes, and the
user may want it to stop. -/
structure Interlude where
  act : Host → Host
  interrupts : Bool

/-- The command as the user leaves it. -/
def Interlude.task (i : Interlude) (t : Task) : Task :=
  { t with interrupted := t.interrupted || i.interrupts }

theorem Interlude.task_idle (t : Task) : (⟨id, false⟩ : Interlude).task t = t := by
  rw [Interlude.task, Bool.or_false]

/-- A command that is to show, or to send back, `n` messages. -/
inductive Counts (n : Nat) : Invocation → (sendBack raw : Bool) → Prop where
  | listen {o : ListenOptions} (hcount : o.count = some n) : Counts n (.listen o) false o.raw
  | echo {o : EchoOptions} (hcount : o.count = some n) : Counts n (.echo o) true true

/-- How such a command stands after `k` messages. -/
inductive Standing (n : Nat) (sendBack raw : Bool) (k : Nat) (t : Task) : Prop where
  | fresh (invocation : Invocation) (hcounts : Counts n invocation sendBack raw)
      (hstage : t.stage = .beginning invocation) (hk : k = 0) (herrors : t.errors = [])
  | waiting (receiver : Receiver) (deadline : Instant)
      (hstage : t.stage = .receiving sendBack raw receiver deadline)
      (hcount : receiver.count = some n) (hreceived : receiver.received = k) (hk : k < max n 1)
      (herrors : t.errors = [])
  | done (hstage : t.stage = .ended ExitCode.success) (hk : k = max n 1) (herrors : t.errors = [])
  | stopped (hstage : t.stage = .ended ExitCode.success) (hk : k < max n 1)
      (hinterrupted : t.interrupted = true) (herrors : t.errors = [])
  | failed (code : ExitCode) (hstage : t.stage = .ended code) (hk : k ≤ max n 1)
      (herrors : t.errors ≠ [])

namespace Standing

theorem le (hstanding : Standing n sendBack raw k t) : k ≤ max n 1 := by
  cases hstanding <;> omega

theorem of_fail (f : Failure) (hk : k ≤ max n 1) (t : Task) (h : Host) :
    Standing n sendBack raw k (t.fail f h).1 :=
  .failed f.code rfl hk (by simp [fail, finish])

theorem of_breakOff (hk : k ≤ max n 1) (t : Task) (h : Host) :
    Standing n sendBack raw k (t.breakOff h).1 :=
  .failed ExitCode.aborted rfl hk (by simp [breakOff, finish])

theorem of_nextSlice {receiver : Receiver} (now : Instant) (hcount : receiver.count = some n)
    (hreceived : receiver.received = k) (hk : k < max n 1) (herrors : t.errors = []) (h : Host) :
    Standing n sendBack raw k (t.nextSlice now sendBack raw receiver h).1 := by
  rw [nextSlice]
  split
  · rename_i hinterrupted
    exact .stopped rfl hk hinterrupted herrors
  · exact .waiting receiver _ rfl hcount hreceived hk herrors

/-- The user may want a command to stop at any time. -/
theorem interlude (hstanding : Standing n sendBack raw k t) (i : Interlude) :
    Standing n sendBack raw k (i.task t) := by
  cases hstanding with
  | fresh invocation hcounts hstage hk herrors => exact .fresh invocation hcounts hstage hk herrors
  | waiting receiver deadline hstage hcount hreceived hk herrors =>
    exact .waiting receiver deadline hstage hcount hreceived hk herrors
  | done hstage hk herrors => exact .done hstage hk herrors
  | stopped hstage hk hinterrupted herrors =>
    exact .stopped hstage hk (by simp [Interlude.task, hinterrupted]) herrors
  | failed code hstage hk herrors => exact .failed code hstage hk herrors

end Standing

/-! ## The first step -/

theorem begins_receiving (s : Setting) (link : LinkOptions)
    (idleLimit : Except Failure (Option Duration)) (herrors : t.errors = []) (h : Host) :
    let out := t.beginReceiving s link sendBack raw (some n) idleLimit h
    Standing n sendBack raw 0 out.1 ∧ Quiet (t, h) out := by
  have hfail (f : Failure) (h : Host) : Standing n sendBack raw 0 (t.fail f h).1 ∧
      Quiet (t, h) (t.fail f h) := ⟨.of_fail f (Nat.zero_le _) t h, quiet_fail f t h⟩
  rw [beginReceiving]
  cases link.config with
  | error f => exact hfail f h
  | ok config =>
    cases idleLimit with
    | error f => exact hfail f h
    | ok limit =>
      have hopened := Host.mail_openEndpoint s.kernel s.process member config h
      dsimp only [attempt]
      rw [openLink]
      generalize h.openEndpoint s.kernel s.process member config = out at *
      obtain ⟨_ | err | role, h'⟩ := out
      · exact ⟨.of_breakOff (Nat.zero_le _) t h', (quiet_breakOff t h').after_mail hopened⟩
      · obtain ⟨hstanding, hquiet⟩ := hfail (.ofLink "open failed" err) h'
        exact ⟨hstanding, hquiet.after_mail hopened⟩
      · have hzero : 0 < max n 1 := by omega
        have hstanding : Standing n sendBack raw 0 (t.nextSlice h'.now sendBack raw
            (Receiver.start link.name (some n) limit h'.now) h').1 :=
          .of_nextSlice (k := 0) _ rfl rfl hzero herrors h'
        exact ⟨hstanding, (quiet_nextSlice ..).after_mail hopened⟩

theorem begins {invocation : Invocation} (s : Setting) (hcounts : Counts n invocation sendBack raw)
    (herrors : t.errors = []) (h : Host) :
    Standing n sendBack raw 0 (t.begin s invocation h).1 ∧
      Quiet (t, h) (t.begin s invocation h) := by
  cases hcounts with
  | listen hcount =>
    rw [begin, hcount]
    exact begins_receiving s _ _ herrors h
  | echo hcount =>
    rw [begin, hcount]
    exact begins_receiving s _ _ herrors h

/-! ## A step that waits for a message -/

theorem poll_fetches (h : Host) :
    (∃ m, (poll h).2.member? member = some m ∧
      h.regions.Fetches m.endpoint.inbox (poll h).1 (poll h).2.regions) ∨
    poll h = (some (.error .notInitialized), h) := by
  cases hm : h.member? member with
  | none =>
    right
    rw [poll, hm]
  | some m =>
    left
    have hpoll : poll h = h.poll member (·.tryRead m.process m.endpoint.config.lockTimeout) := by
      rw [poll, hm]
    rw [hpoll]
    exact Host.poll_fetches _ hm

/-- What is taken is shown, or it is sent back. -/
theorem handles (s : Setting) (sendBack raw : Bool) (payload : Bytes) {m : Member} (t : Task)
    (hm : h.member? member = some m) (hlt : m.endpoint.region < h.regions.objects.length) :
    let d : Delivery := ⟨m.endpoint, payload⟩
    let out := t.handle s sendBack raw payload h
    (sendBack = false ∧ out = (.ok (t.write (d.shown s t.format raw)), h)) ∨
    (sendBack = true ∧ payload.length ≤ Mailbox.capacity ∧ out.1 = .ok t ∧
      out.2.regions.mail = Function.update h.regions.mail m.endpoint.outbox
        ((h.regions.mail m.endpoint.outbox).store payload)) ∨
    (sendBack = true ∧ (∃ f, out.1 = .error f) ∧ out.2.regions.mail = h.regions.mail) := by
  intro d out
  cases sendBack with
  | false =>
    refine .inl ⟨rfl, ?_⟩
    simp [out, d, handle, showMessage, regionName, hm, Delivery.shown]
  | true =>
    have hposts := Endpoint.write_posts m.process payload hlt
    dsimp only [out]
    rw [handle, if_pos rfl, hm]
    dsimp only [Host.write]
    generalize m.endpoint.write m.process payload h.regions = written at *
    obtain ⟨answer, r⟩ := written
    cases hposts with
    | stored hfits hmail => exact .inr (.inl ⟨rfl, hfits, rfl, hmail⟩)
    | refused err hmail => exact .inr (.inr ⟨rfl, ⟨_, rfl⟩, hmail⟩)

/-- With a message the limit is reached, or there is another slice. -/
theorem counts_message {receiver : Receiver} (sendBack raw : Bool)
    (hcount : receiver.count = some n) (hreceived : receiver.received = k)
    (hk : k < max n 1) (herrors : t.errors = []) (h : Host) :
    let receiver := receiver.takeMessage h.now
    let out := if receiver.isComplete then t.finish ExitCode.success h
      else t.nextSlice h.now sendBack raw receiver h
    Standing n sendBack raw (k + 1) out.1 ∧ Quiet (t, h) out := by
  intro receiver' out
  have hcount' : receiver'.count = some n := hcount
  have hreceived' : receiver'.received = k + 1 := congrArg (· + 1) hreceived
  have hcomplete : receiver'.isComplete = decide (n ≤ k + 1) := by
    rw [Receiver.isComplete, hcount', hreceived']
  dsimp only [out]
  rw [hcomplete]
  by_cases hlast : n ≤ k + 1
  · rw [decide_eq_true hlast, if_pos rfl]
    exact ⟨.done rfl (by omega) herrors, quiet_finish ..⟩
  · rw [decide_eq_false hlast, if_neg Bool.false_ne_true]
    exact ⟨.of_nextSlice _ hcount' hreceived' (by omega) herrors h, quiet_nextSlice ..⟩

/-- A slice without a message may be one too many; the count stays. -/
theorem passes_silence {receiver : Receiver} {deadline : Instant}
    (hstage : t.stage = .receiving sendBack raw receiver deadline)
    (hcount : receiver.count = some n) (hreceived : receiver.received = k) (hk : k < max n 1)
    (herrors : t.errors = []) (h : Host) :
    let out := if deadline ≤ h.now then
        attempt (receiver.afterSilence h.now) t h
          fun _ => t.nextSlice h.now sendBack raw receiver h
      else (t.pollAgain h.now deadline, h)
    Standing n sendBack raw k out.1 ∧ Quiet (t, h) out ∧ (out.1.exitCode? = none → out.2 = h) := by
  intro out
  dsimp only [out]
  split
  · cases receiver.afterSilence h.now with
    | error f => exact ⟨.of_fail f (Nat.le_of_lt hk) t h, quiet_fail f t h, nofun⟩
    | ok u =>
      refine ⟨.of_nextSlice _ hcount hreceived hk herrors h, quiet_nextSlice .., ?_⟩
      dsimp only [attempt]
      rw [nextSlice]
      split
      · nofun
      · exact fun _ => rfl
  · exact ⟨.waiting receiver deadline hstage hcount hreceived hk herrors, ⟨rfl, rfl, rfl⟩,
      fun _ => rfl⟩

/-- What one step preserves, and what it does. -/
structure Advances (s : Setting) (n : Nat) (sendBack raw : Bool) (k : Nat) (t : Task) (h : Host) :
    Prop where
  standing : Standing n sendBack raw (k + (t.delivery? h).toList.length) (t.step s h).1
  format : (t.step s h).1.format = t.format
  proper : Turn.Proper s sendBack raw ⟨(t, h), t.step s h⟩

theorem Advances.of_quiet (hnone : t.delivery? h = none)
    (hstanding : Standing n sendBack raw k (t.step s h).1) (hquiet : Quiet (t, h) (t.step s h))
    (hidle : t.isReceiving = true → (t.step s h).1.exitCode? = none →
      ∃ m, (t.step s h).2.member? member = some m ∧
        (h.regions.mail m.endpoint.inbox).pending = false) :
    Advances s n sendBack raw k t h where
  standing := by
    rw [hnone]
    exact hstanding
  format := hquiet.format
  proper := .quiet hnone hquiet.mail hquiet.output hidle

theorem Advances.of_not_receiving (hstage : t.isReceiving = false)
    (hstanding : Standing n sendBack raw k (t.step s h).1)
    (hquiet : Quiet (t, h) (t.step s h)) : Advances s n sendBack raw k t h :=
  .of_quiet (if_neg (by simp [hstage])) hstanding hquiet fun hreceiving =>
    absurd (hstage.symm.trans hreceiving) Bool.false_ne_true

section

variable {receiver : Receiver} {deadline : Instant} {h' h'' : Host} {payload : Bytes}

theorem step_of_handled {t' : Task} (hstage : t.stage = .receiving sendBack raw receiver deadline)
    (hpoll : poll h = (some (.ok payload), h'))
    (hhandle : t.handle s sendBack raw payload h' = (.ok t', h'')) :
    t.step s h = if (receiver.takeMessage h''.now).isComplete then t'.finish ExitCode.success h''
      else t'.nextSlice h''.now sendBack raw (receiver.takeMessage h''.now) h'' := by
  rw [step, hstage]
  dsimp only
  rw [hpoll]
  dsimp only
  rw [hhandle]

theorem step_of_unhandled {f : Failure}
    (hstage : t.stage = .receiving sendBack raw receiver deadline)
    (hpoll : poll h = (some (.ok payload), h'))
    (hhandle : t.handle s sendBack raw payload h' = (.error f, h'')) :
    t.step s h = t.fail f h'' := by
  rw [step, hstage]
  dsimp only
  rw [hpoll]
  dsimp only
  rw [hhandle]

theorem step_of_empty (hstage : t.stage = .receiving sendBack raw receiver deadline)
    (hpoll : poll h = (none, h')) :
    t.step s h = if deadline ≤ h'.now then
        attempt (receiver.afterSilence h'.now) t h'
          fun _ => t.nextSlice h'.now sendBack raw receiver h'
      else (t.pollAgain h'.now deadline, h') := by
  rw [step, hstage]
  dsimp only
  rw [hpoll]

theorem step_of_refused {err : LinkError}
    (hstage : t.stage = .receiving sendBack raw receiver deadline)
    (hpoll : poll h = (some (.error err), h')) :
    t.step s h = t.fail (.ofLink "receive failed" err) h' := by
  rw [step, hstage]
  dsimp only
  rw [hpoll]

theorem delivery?_of_poll (hstage : t.stage = .receiving sendBack raw receiver deadline) :
    t.delivery? h =
      match poll h with
      | (some (.ok payload), h) => (h.member? member).map fun m => ⟨m.endpoint, payload⟩
      | _ => none := if_pos (by rw [isReceiving, hstage])

/-- A step that polls: the message is counted, and shown or sent back, or there was none. -/
theorem step_receiving (s : Setting)
    (hstage : t.stage = .receiving sendBack raw receiver deadline)
    (hcount : receiver.count = some n) (hreceived : receiver.received = k) (hk : k < max n 1)
    (herrors : t.errors = []) (h : Host) : Advances s n sendBack raw k t h := by
  have hdelivery := delivery?_of_poll (h := h) hstage
  have hpolled := poll_fetches h
  rcases hpoll : poll h with ⟨answer, h'⟩
  rw [hpoll] at hdelivery hpolled
  have hfails {err : LinkError} (hanswer : answer = some (.error err))
      (hmail : h'.regions.mail = h.regions.mail) : Advances s n sendBack raw k t h := by
    subst hanswer
    have hstep := step_of_refused (s := s) hstage hpoll
    have hfailed := (quiet_fail (.ofLink "receive failed" err) t h').after_mail hmail
    refine .of_quiet hdelivery ?_ (hstep ▸ hfailed) fun _ hgoes => ?_
    · rw [hstep]
      exact .of_fail _ (Nat.le_of_lt hk) t h'
    · rw [hstep] at hgoes
      cases hgoes
  rcases hpolled with ⟨m, hm, hfetches⟩ | hrefused
  · cases hfetches with
    | taken hpending hlt hmail =>
      have hd : t.delivery? h = some ⟨m.endpoint, (h.regions.mail m.endpoint.inbox).message⟩ := by
        rw [hdelivery]
        dsimp only
        rw [hm]
        rfl
      set d : Delivery := ⟨m.endpoint, (h.regions.mail m.endpoint.inbox).message⟩
      have hwaits : d.Waits h.regions.mail := ⟨hpending, rfl⟩
      have hone : (t.delivery? h).toList.length = 1 := by
        rw [hd]
        rfl
      rcases hhandle : t.handle s sendBack raw d.payload h' with ⟨result, h''⟩
      have hhandles := handles s sendBack raw d.payload t hm hlt
      dsimp only at hhandles
      rw [hhandle] at hhandles
      rcases hhandles with ⟨hshows, hresult⟩ | ⟨hsends, hfits, hresult, hposted⟩ |
        ⟨hsends, ⟨f, hresult⟩, hkept⟩
      · cases hresult
        obtain ⟨hstanding, hquiet⟩ := counts_message (t := t.write (d.shown s t.format raw))
          sendBack raw hcount hreceived hk herrors h'
        rw [← step_of_handled hstage hpoll hhandle] at hstanding hquiet
        exact ⟨hone ▸ hstanding, hquiet.format,
          .shown d hd hwaits hshows (hquiet.mail.trans hmail) hquiet.output⟩
      · cases hresult
        obtain ⟨hstanding, hquiet⟩ :=
          counts_message sendBack raw hcount hreceived hk herrors h''
        rw [← step_of_handled hstage hpoll hhandle] at hstanding hquiet
        refine ⟨hone ▸ hstanding, hquiet.format,
          .answered d hd hwaits hsends hfits (hquiet.mail.trans ?_) hquiet.output⟩
        rw [hposted, hmail]
        rfl
      · cases hresult
        have hstanding : Standing n sendBack raw (k + 1) (t.fail f h'').1 := .of_fail f hk t h''
        have hquiet := quiet_fail f t h''
        have hreported : (t.fail f h'').1.errors ≠ [] := by simp [fail, finish]
        rw [← step_of_unhandled hstage hpoll hhandle] at hstanding hquiet hreported
        exact ⟨hone ▸ hstanding, hquiet.format, .refused d hd hwaits hsends hreported
          (hquiet.mail.trans (hkept.trans hmail)) hquiet.output⟩
    | empty hempty hmail =>
      obtain ⟨hstanding, hquiet, hidle⟩ :=
        passes_silence hstage hcount hreceived hk herrors h'
      rw [← step_of_empty hstage hpoll] at hstanding hquiet hidle
      refine .of_quiet hdelivery hstanding (hquiet.after_mail hmail) fun _ hgoes =>
        ⟨m, ?_, hempty⟩
      rw [hidle hgoes]
      exact hm
    | refused err hmail => exact hfails rfl hmail
  · cases hrefused
    exact hfails rfl rfl

end

/-! ## Every step -/

namespace Standing

theorem step_of_ended {code : ExitCode} (s : Setting) (hstanding : Standing n sendBack raw k t)
    (hstage : t.stage = .ended code) (h : Host) : Advances s n sendBack raw k t h := by
  have hstep : t.step s h = (t, h) := by rw [Task.step, hstage]
  refine .of_not_receiving (by rw [isReceiving, hstage]) ?_ ?_ <;> rw [hstep]
  · exact hstanding
  · exact ⟨rfl, rfl, rfl⟩

/-- Every step of a command with a limit, wherever it stands. -/
theorem step (s : Setting) (hstanding : Standing n sendBack raw k t) (h : Host) :
    Advances s n sendBack raw k t h := by
  cases hstanding with
  | fresh invocation hcounts hstage hk herrors =>
    subst hk
    obtain ⟨hbegun, hquiet⟩ := begins s hcounts herrors h
    have hstep : t.step s h = t.begin s invocation h := by rw [Task.step, hstage]
    rw [← hstep] at hbegun hquiet
    exact .of_not_receiving (by rw [isReceiving, hstage]) hbegun hquiet
  | waiting receiver deadline hstage hcount hreceived hk herrors =>
    exact step_receiving s hstage hcount hreceived hk herrors h
  | done hstage hk herrors => exact step_of_ended s (.done hstage hk herrors) hstage h
  | stopped hstage hk hinterrupted herrors =>
    exact step_of_ended s (.stopped hstage hk hinterrupted herrors) hstage h
  | failed code hstage hk herrors =>
    exact step_of_ended s (.failed code hstage hk herrors) hstage h

/-- A failure is the end. -/
theorem errors_of_step (s : Setting) (hstanding : Standing n sendBack raw k t) {h : Host}
    (herrors : (t.step s h).1.errors = []) : t.errors = [] := by
  cases hstanding with
  | fresh _ _ _ _ hnone | waiting _ _ _ _ _ _ hnone | done _ _ hnone | stopped _ _ _ hnone =>
    exact hnone
  | failed code hstage hk hsome =>
    rw [Task.step, hstage] at herrors
    exact absurd herrors hsome

end Standing

/-! ## A command at work -/

/-- A command at work among others, and the steps it has made. -/
structure Service where
  task : Task
  host : Host
  turns : List Turn

namespace Service

variable {w : Service} {c : CommandLine}

/-- A command that is about to begin. -/
def start (c : CommandLine) (wake : Instant) (h : Host) : Service := ⟨Task.start c wake, h, []⟩

/-- The next step of the command, after an interlude. -/
def next (s : Setting) (w : Service) (i : Interlude) : Service :=
  let t := i.task w.task
  let h := i.act w.host
  let (t', h') := t.step s h
  ⟨t', h', w.turns ++ [⟨(t, h), (t', h')⟩]⟩

/-- A number of steps, each after an interlude. -/
def after (s : Setting) (w : Service) (interludes : List Interlude) : Service :=
  interludes.foldl (next s) w

/-- The messages that the command has taken, in order. -/
def deliveries (w : Service) : List Delivery := w.turns.filterMap Turn.delivery?

/-- What holds of a command with a limit at any time. -/
structure Sound (s : Setting) (n : Nat) (format : OutputFormat) (sendBack raw : Bool)
    (w : Service) : Prop where
  standing : Standing n sendBack raw w.deliveries.length w.task
  shownAs : w.task.format = format
  output : w.task.output =
    if sendBack then [] else w.deliveries.flatMap (·.shown s format raw)
  proper : ∀ turn ∈ w.turns, turn.Proper s sendBack raw
  unfailed : w.task.errors = [] → ∀ turn ∈ w.turns, turn.after.1.errors = []

theorem sound_start (s : Setting) (hcounts : Counts n c.invocation sendBack raw) (wake : Instant)
    (h : Host) : (start c wake h).Sound s n (c.format.getD .json) sendBack raw := by
  have hnone (turn : Turn) : turn ∉ (start c wake h).turns := List.not_mem_nil
  refine ⟨.fresh c.invocation hcounts rfl rfl rfl, rfl, ?_, fun turn hturn => ?_,
    fun _ turn hturn => ?_⟩
  · cases sendBack <;> rfl
  · exact absurd hturn (hnone turn)
  · exact absurd hturn (hnone turn)

theorem Sound.next {format : OutputFormat} (hsound : w.Sound s n format sendBack raw)
    (i : Interlude) : (w.next s i).Sound s n format sendBack raw := by
  obtain ⟨hstanding, hformat, houtput, hproper, hunfailed⟩ := hsound
  set t := i.task w.task with ht
  set h := i.act w.host with hh
  have hbefore : Standing n sendBack raw w.deliveries.length t := hstanding.interlude i
  obtain ⟨hafter, hkept, hturn⟩ := hbefore.step s h
  set turn : Turn := ⟨(t, h), t.step s h⟩ with hturned
  have hnext : w.next s i = ⟨turn.after.1, turn.after.2, w.turns ++ [turn]⟩ := rfl
  have hdeliveries : (w.next s i).deliveries = w.deliveries ++ turn.delivery?.toList := by
    rw [hnext, deliveries, List.filterMap_append]
    cases hd : turn.delivery? <;> simp [deliveries, hd]
  have hmember {P : Turn → Prop} (hold : ∀ turn ∈ w.turns, P turn) (hnew : P turn) :
      ∀ turn ∈ (w.next s i).turns, P turn := by
    intro other hother
    rcases List.mem_append.mp hother with hother | hother
    · exact hold other hother
    · exact List.mem_singleton.mp hother ▸ hnew
  refine ⟨?_, hkept.trans hformat, ?_, hmember hproper hturn, fun herrors => ?_⟩
  · rw [hdeliveries, List.length_append]
    exact hafter
  · rw [hdeliveries]
    have hunchanged (houtput' : turn.after.1.output = w.task.output)
        (hsilent : sendBack = true ∨ turn.delivery? = none) : turn.after.1.output =
          if sendBack then [] else
            (w.deliveries ++ turn.delivery?.toList).flatMap (·.shown s format raw) := by
      rw [houtput', houtput]
      rcases hsilent with rfl | hnone
      · rfl
      · rw [hnone, Option.toList_none, List.append_nil]
    cases hturn with
    | quiet hnone hmail houtput' hidle => exact hunchanged houtput' (.inr hnone)
    | answered d hd hwaits hsends hfits hmail houtput' => exact hunchanged houtput' (.inl hsends)
    | refused d hd hwaits hsends hfails hmail houtput' => exact hunchanged houtput' (.inl hsends)
    | shown d hd hwaits hshows hmail houtput' =>
      have hformat' : turn.before.1.format = format := hformat
      rw [hformat'] at houtput'
      subst hshows
      rw [hd, Option.toList_some, List.flatMap_append, List.flatMap_singleton]
      exact houtput'.trans (congrArg (· ++ _) houtput)
  · have hold : t.errors = [] := hbefore.errors_of_step (h := h) s herrors
    exact hmember (hunfailed hold) herrors

theorem Sound.after {format : OutputFormat} (hsound : w.Sound s n format sendBack raw)
    (interludes : List Interlude) : (w.after s interludes).Sound s n format sendBack raw := by
  induction interludes generalizing w with
  | nil => exact hsound
  | cons i interludes ih => exact ih (hsound.next i)

/-- A command that is to show, or to send back, `n` messages stops with the first `max n 1`. It takes
no other; each that it takes has waited for it, and is shown or sent back, in order; and nothing else
is. If nothing fails, it ends with success in the very step that takes the last one, and not before
unless the user interrupts it. -/
theorem limit_is_exact {c : CommandLine} (hcounts : Counts n c.invocation sendBack raw)
    (s : Setting) (wake : Instant) (h : Host) (interludes : List Interlude) :
    let w := (start c wake h).after s interludes
    w.deliveries.length ≤ max n 1 ∧
    (∀ turn ∈ w.turns, turn.Proper s sendBack raw) ∧
    (w.task.output = if sendBack then [] else
      w.deliveries.flatMap (·.shown s (c.format.getD .json) raw)) ∧
    (w.task.errors = [] →
      (∀ turn ∈ w.turns, turn.after.1.errors = []) ∧
      (w.deliveries.length = max n 1 → w.task.exitCode? = some ExitCode.success) ∧
      (w.deliveries.length < max n 1 → w.task.exitCode? = none ∨
        w.task.interrupted = true ∧ w.task.exitCode? = some ExitCode.success)) := by
  obtain ⟨hstanding, -, houtput, hproper, hunfailed⟩ :=
    (sound_start s hcounts wake h).after interludes
  refine ⟨hstanding.le, hproper, houtput, fun herrors => ⟨hunfailed herrors, ?_⟩⟩
  cases hstanding with
  | fresh invocation hcounts hstage hk herrors =>
    rw [hk, exitCode?, hstage]
    exact ⟨fun hfull => by omega, fun _ => .inl rfl⟩
  | waiting receiver deadline hstage hcount hreceived hk herrors =>
    rw [exitCode?, hstage]
    exact ⟨fun hfull => by omega, fun _ => .inl rfl⟩
  | done hstage hk herrors =>
    rw [exitCode?, hstage]
    exact ⟨fun _ => rfl, fun hless => by omega⟩
  | stopped hstage hk hinterrupted herrors =>
    rw [exitCode?, hstage]
    exact ⟨fun hfull => by omega, fun _ => .inr ⟨hinterrupted, rfl⟩⟩
  | failed code hstage hk herrors' => exact absurd herrors herrors'

/-- A host with a master that has sent the one byte `a`. -/
def lettered : Host :=
  let h := (Host.start.openEndpoint .able ⟨1, fun _ => true⟩ "partner"
    { name := "r", role := .master }).2
  match h.member? "partner" with
  | some m => (h.write [0x61] m).2
  | none => h

/-- What the commands below find around them. -/
def around : Setting where
  process := ⟨2, fun _ => true⟩
  kernel := .able
  readFile := fun _ => .error (.system .noEntry)
  timeOfDay := ""
  platform := ("", "", "")

/-- A command that is to show so many messages as they are. -/
def listening (n : Nat) : CommandLine :=
  ⟨.listen { link := { name := "r" }, count := some n, raw := true }, some .raw⟩

/-- The command once it has opened its endpoint. -/
def attached (n : Nat) : Service := (start (listening n) 0 lettered).next around ⟨id, false⟩

/-- The command after its first look into the mailbox. -/
def served (n : Nat) : Service := (attached n).next around ⟨id, false⟩

theorem sound_attached (n : Nat) : (attached n).Sound around n .raw false true :=
  (sound_start (c := listening n) around (.listen rfl) 0 lettered).next ⟨id, false⟩

theorem mail_attached (n : Nat) : (attached n).host.regions.mail = lettered.regions.mail :=
  (begins around (.listen rfl) rfl lettered).2.mail

/-- The first message is shown even to a command that is to show none. -/
theorem limit_of_zero_takes_one :
    (served 0).deliveries.length = 1 ∧ (served 0).task.output = [0x61] ∧
      (served 0).task.exitCode? = some ExitCode.success := by
  refine ⟨by decide +kernel, ?_, by decide +kernel⟩
  have hletter : (attached 0).host.regions.mail (0, .masterToSlave) = Mailbox.zero.store [0x61] :=
    congrFun (mail_attached 0) _
  obtain ⟨-, -, hturn⟩ :=
    ((sound_attached 0).standing.interlude ⟨id, false⟩).step around (attached 0).host
  cases hturn with
  | quiet hnone => exact absurd hnone (by decide +kernel)
  | shown d hd hwaits hshows hmail houtput =>
    have hbox : some d.endpoint.inbox = some (0, .masterToSlave) := by
      rw [← Option.map_some (f := fun d : Delivery => d.endpoint.inbox), ← hd]
      decide +kernel
    have hpayload : d.payload = [0x61] := by
      rw [← hwaits.2, Option.some.inj hbox]
      exact (congrArg Mailbox.message hletter).trans (Mailbox.message_store _ (by decide))
    have hformat : (attached 0).task.format = .raw := (sound_attached 0).shownAs
    have hbefore : (attached 0).task.output = [] := by decide +kernel
    have hserved : (served 0).task.output =
        (attached 0).task.output ++ d.shown around (attached 0).task.format true := houtput
    rw [hserved, hbefore, hformat]
    exact hpayload
  | answered d hd hwaits hsends => cases hsends
  | refused d hd hwaits hsends => cases hsends

/-- The same steps, with a limit of one. -/
theorem limit_is_exact_one_letter :
    Counts 1 (listening 1).invocation false true ∧ (served 1).deliveries.length = max 1 1 ∧
      (served 1).task.exitCode? = some ExitCode.success := by
  have hcounts : Counts 1 (listening 1).invocation false true := .listen rfl
  have hlength : (served 1).deliveries.length = max 1 1 := by decide +kernel
  have herrors : (served 1).task.errors = [] := by decide +kernel
  obtain ⟨-, -, -, hends⟩ := limit_is_exact hcounts around 0 lettered
    [⟨id, false⟩, ⟨id, false⟩]
  exact ⟨hcounts, hlength, (hends herrors).2.1 hlength⟩

/-! ### Rehearsals -/

variable {last : Interlude} {r r' : Rehearsal}

/-- The command of a rehearsal is the command at work, and the others have done since its last step
what the interlude says. -/
structure Shows (w : Service) (last : Interlude) (r : Rehearsal) : Prop where
  task : r.task = last.task w.task
  host : r.host = last.act w.host

theorem kept_attachPartner (p : Partner) (r : Rehearsal) :
    (r.attachPartner p).setting = r.setting ∧ (r.attachPartner p).task = r.task := by
  rw [Rehearsal.attachPartner]
  split <;> exact ⟨rfl, rfl⟩

theorem Shows.step (hshows : w.Shows last r) (hstep : r.step = some r') :
    r'.setting = r.setting ∧
      ((∃ i, (w.next r.setting i).Shows ⟨id, false⟩ r') ∨ ∃ last', w.Shows last' r') := by
  obtain ⟨htask, hhost⟩ := hshows
  rw [Rehearsal.step] at hstep
  rcases hturn : r.turn with ⟨turn, wake⟩
  rw [hturn] at hstep
  cases turn with
  | nobody => cases hstep
  | command =>
    cases hstep
    refine ⟨rfl, .inl ⟨⟨fun h => (last.act h).sleep (wake - (last.act h).now), last.interrupts⟩,
      ?_, ?_⟩⟩
    · rw [Interlude.task_idle, htask, hhost]
      rfl
    · rw [htask, hhost]
      rfl
  | partner a =>
    dsimp only at hstep
    generalize Partner.step a (r.host.sleep (wake - r.host.now)) = acted at hstep
    obtain ⟨acting, h, interrupts⟩ := acted
    cases hstep
    refine ⟨rfl, .inr ⟨⟨fun _ => h, last.interrupts || interrupts⟩, ?_, rfl⟩⟩
    rw [htask]
    cases interrupts <;> simp [Interlude.task]
  | attach p =>
    cases hstep
    set tried := ({ r with host := r.host.sleep (wake - r.host.now) } : Rehearsal).attachPartner p
    obtain ⟨hsetting, htask'⟩ : tried.setting = r.setting ∧ tried.task = r.task :=
      kept_attachPartner p _
    exact ⟨hsetting, .inr ⟨⟨fun _ => tried.host, last.interrupts⟩, htask'.trans htask, rfl⟩⟩

/-- A command that is rehearsed is one at work, and its partner acts in the interludes. -/
theorem Shows.run (hshows : w.Shows last r) (steps : Nat) :
    ∃ interludes last', (w.after r.setting interludes).Shows last' (r.run steps) := by
  induction steps generalizing r w last with
  | zero => exact ⟨[], last, hshows⟩
  | succ steps ih =>
    rw [Rehearsal.run]
    cases hstep : r.step with
    | none => exact ⟨[], last, hshows⟩
    | some r' =>
      obtain ⟨hsetting, ⟨i, hnext⟩ | ⟨last', hsame⟩⟩ := hshows.step hstep
      · obtain ⟨interludes, last', h⟩ := ih hnext
        rw [hsetting] at h
        exact ⟨i :: interludes, last', h⟩
      · obtain ⟨interludes, last'', h⟩ := ih hsame
        rw [hsetting] at h
        exact ⟨interludes, last'', h⟩

/-- Whatever a rehearsal has come to, its command is a command at work. -/
theorem rehearsal_shows (s : Setting) (c : CommandLine) (partner : Option Partner) (steps : Nat) :
    ∃ wake host interludes last, ((start c wake host).after s interludes).Shows last
      ((Rehearsal.start s (Task.start c 0) partner).run steps) := by
  obtain ⟨hsetting, wake, htask⟩ : (Rehearsal.start s (Task.start c 0) partner).setting = s ∧
      ∃ wake, (Rehearsal.start s (Task.start c 0) partner).task = Task.start c wake := by
    unfold Rehearsal.start
    cases partner with
    | none => exact ⟨rfl, _, rfl⟩
    | some p =>
      dsimp only
      split
      · exact ⟨rfl, _, rfl⟩
      · obtain ⟨hsetting, htask⟩ :=
          kept_attachPartner p ⟨s, some p, .start, Task.start c 0, none, 0⟩
        rw [htask]
        exact ⟨hsetting, _, rfl⟩
  set r := Rehearsal.start s (Task.start c 0) partner
  have hshows : (start c wake r.host).Shows ⟨id, false⟩ r :=
    ⟨htask.trans (Interlude.task_idle _).symm, rfl⟩
  obtain ⟨interludes, last, hrun⟩ := hshows.run steps
  exact ⟨wake, r.host, interludes, last, hsetting ▸ hrun⟩

end Service

end PeerLink.Task
