import Shardwire.Proofs.Shard.Ending
import Shardwire.Proofs.Shard.Identify

/-
What a step does to the pulse of a connection, and when a heartbeat goes out.

Heartbeats leave a connection from two places: the beater sends one at a tick that finds the last one acknowledged, and
the shard sends one whenever the gateway asks for it. `step_keeps_pulse`: the pulse records ticks and acknowledgements,
and nothing else; and nothing but a tick or a request is cause for a heartbeat.
-/

namespace Shardwire

/-! ## Ticks and acknowledgements -/

namespace Beater

/-- whether a tick is due, and the last heartbeat acknowledged -/
def ticks (b : Beater) (p : Pulse) (now : Nat) : Bool := b.due?.any (· ≤ now) && !p.awaiting

variable (b : Beater) (p : Pulse) (seq : Sequence) (outlet : Outlet) (now : Nat)

theorem beat_pulse : (b.beat p seq outlet now).pulse = if b.ticks p now then p.sent now else p := by
  unfold beat ticks
  cases b.due? with
  | none => rfl
  | some tick =>
    by_cases early : now < tick
    · simp [early, Nat.not_le.2 early]
    · cases p.awaiting <;> cases outlet <;> simp [early, Nat.not_lt.1 early]

theorem beat_sent : (b.beat p seq outlet now).sent = if b.ticks p now && outlet == .free then some seq else none := by
  unfold beat ticks
  cases b.due? with
  | none => rfl
  | some tick =>
    by_cases early : now < tick
    · simp [early, Nat.not_le.2 early]
    · cases p.awaiting <;> cases outlet <;> simp [early, Nat.not_lt.1 early]

end Beater

namespace Connection

/-- whether its beater finds a heartbeat to send -/
def ticks (c : Connection) (now : Nat) : Bool := c.beater.any fun b => b.ticks c.pulse now

variable (c : Connection) (seq : Sequence) (now : Nat)

theorem awaiting_of_ticks {c : Connection} {now : Nat} (h : c.ticks now = true) : c.pulse.awaiting = false := by
  obtain ⟨b, -, tick⟩ := (Option.any_eq_true _ _).1 h
  simpa using (Bool.and_eq_true_iff.1 tick).2

theorem beat_pulse : (c.beat seq now).1.pulse = if c.ticks now then c.pulse.sent now else c.pulse := by
  unfold beat ticks
  cases c.beater with
  | none => rfl
  | some b => exact b.beat_pulse c.pulse seq c.outlet now

/-- The heartbeat of a tick goes out if its receiver is there. -/
theorem beat_messages : (c.beat seq now).2 = if c.ticks now && c.writable then [.heartbeat seq] else [] := by
  unfold beat ticks outlet
  cases c.beater with
  | none => rfl
  | some b =>
    cases tick : b.ticks c.pulse now <;> cases c.writable <;> simp [b.beat_sent, tick]

end Connection

namespace Shard

def Stimulus.isBeat : Stimulus → Bool
  | .beat => true
  | _ => false

theorem eq_of_isBeat {x : Stimulus} (h : x.isBeat = true) : x = .beat := by
  cases x <;> first | rfl | cases h

/-- whether a stimulus is a tick that is recorded as a heartbeat sent -/
def ticks (now : Nat) (s : Shard) : Stimulus → Bool
  | .beat =>
    match s.phase with
    | .online c _ => c.ticks now
    | _ => false
  | _ => false

/-- whether a stimulus acknowledges a heartbeat -/
def acks (s : Shard) : Stimulus → Bool
  | .text text _ =>
    match s.phase, Event.decode text with
    | .online _ _, .ok .heartbeatAck => true
    | _, _ => false
  | _ => false

/-- whether a stimulus asks for a heartbeat -/
def asks (s : Shard) : Stimulus → Bool
  | .text text _ =>
    match s.phase, Event.decode text with
    | .online _ _, .ok (.heartbeat _) => true
    | _, _ => false
  | _ => false

/-- the latency callers would read -/
def latency? (s : Shard) : Option Nat :=
  match s.phase with
  | .online c _ => c.pulse.latency
  | _ => none

def Act.isHeartbeat : Act → Bool
  | .write m => m.op = .heartbeat
  | _ => false

theorem not_isHeartbeat_of_isParting {a : Act} (h : a.isParting = true) : a.isHeartbeat = false := by
  cases a <;> first | rfl | cases h

theorem not_isHeartbeat_of_isCommand {m : Message} (h : m.op.isCommand = true) : (Act.write m).isHeartbeat = false := by
  have other : m.op ≠ .heartbeat := fun ho => by rw [ho] at h; cases h
  simpa [Act.isHeartbeat] using other

/-- a turn after which the connection, if it goes on, has a certain pulse; it sends no heartbeat, unless there is
cause to -/
structure Turn.Keeps (uncaused : Prop) (p : Pulse) (t : Turn) : Prop where
  pulse : ∀ c queued, t.shard.phase = .online c queued → c.pulse = p
  silent : uncaused → ∀ a ∈ t.acts, a.isHeartbeat = false

theorem Turn.Keeps.online {uncaused : Prop} {p : Pulse} {t : Turn} {c : Connection} {queued : Bool}
    (online : t.shard.phase = .online c queued) (pulse : c.pulse = p)
    (silent : uncaused → ∀ a ∈ t.acts, a.isHeartbeat = false) : t.Keeps uncaused p := by
  refine ⟨fun c' queued' online' => ?_, silent⟩
  cases online.symm.trans online'
  exact pulse

theorem Turn.Keeps.still {uncaused : Prop} {s : Shard} {c : Connection} {queued : Bool}
    (online : s.phase = .online c queued) : (Turn.still s).Keeps uncaused c.pulse :=
  .online online rfl fun _ => List.forall_mem_nil _

theorem Turn.Keeps.mono {u u' : Prop} {p : Pulse} {t : Turn} (h : t.Keeps u p) (le : u' → u) : t.Keeps u' p :=
  ⟨h.pulse, fun hu => h.silent (le hu)⟩

/-- No connection goes on after its end. -/
theorem Ends.keeps {s : Shard} {keep : Bool} {t : Turn} (h : Ends s keep t) (uncaused : Prop) (p : Pulse) :
    t.Keeps uncaused p where
  pulse := fun c queued online => absurd online (h.ne_online c queued)
  silent := fun _ a ha => not_isHeartbeat_of_isParting (h.acts a ha)

section Step

variable {now : Nat} {s : Shard} {c : Connection} {queued : Bool} {p : Pulse} {uncaused : Prop}

theorem goOn_keeps (c : Connection) (queued : Bool) (s : Shard) : (goOn c queued s).Keeps uncaused c.pulse :=
  .online rfl rfl fun _ => List.forall_mem_nil _

theorem closeWith_keeps (c : Connection) (queued : Bool) (closure : Closure) (resume : Bool) (now : Nat) (s : Shard) :
    ((closeWith c queued closure s).next (finish (.again resume 0) now)).Keeps uncaused p :=
  (closeWith_next c queued closure (finish_closing_parted (.again resume 0) now s)).keeps _ _

theorem greet_keeps (interval draw : Nat) : (greet c queued interval draw now s).Keeps uncaused c.pulse := by
  have queues (h : c.resuming = false ∨ s.resume? = none) :
      (greet c queued interval draw now s).Keeps uncaused c.pulse := by
    rw [greet_eq_queue h]
    exact .online rfl rfl fun _ => forall_announce rfl (by simp [Act.isHeartbeat])
  cases hr : c.resuming with
  | false => exact queues (.inl hr)
  | true =>
    cases hq : s.resume? with
    | none => exact queues (.inr hq)
    | some p =>
      cases hw : c.writable with
      | true =>
        rw [greet_eq_resume hr hq hw]
        exact .online rfl rfl fun _ => forall_announce rfl (by simp [Act.isHeartbeat, Message.resume, Message.plain])
      | false => exact (greet_ends hr hq hw).keeps _ _

theorem identify_keeps : (identify c now s).Keeps uncaused c.pulse := by
  unfold identify
  dsimp only
  split
  · refine .online rfl rfl fun _ => ?_
    simp [goOn, act, Turn.still, Act.isHeartbeat, Message.identify, Message.plain]
  · exact (lose_ends false now s.forget).keeps _ _

theorem dispatch_keeps (d : Dispatch) (online : s.phase = .online c queued) :
    (dispatch c queued d now s).Keeps uncaused c.pulse := by
  cases hq : s.sequence.advance? d.seq with
  | none =>
    rw [dispatch_eq_still online hq]
    exact .still online
  | some seq =>
    cases hf : finishes d with
    | false =>
      rw [dispatch_eq_pass online hq hf]
      exact .online online rfl fun _ => by simp [Act.isHeartbeat]
    | true =>
      rcases finishes_eq_true hf with ⟨p, hk, hr⟩ | hk
      · rw [dispatch_eq_ready hq hk hr]
        exact .online rfl rfl fun _ => forall_announce rfl (by simp [Act.isHeartbeat])
      · rw [dispatch_eq_resumed hq hk]
        exact .online rfl rfl fun _ => forall_announce rfl (by simp [Act.isHeartbeat])

theorem invalidate_keeps (resumable : Bool) : (invalidate c queued resumable now s).Keeps uncaused p := by
  unfold invalidate
  split <;> exact closeWith_keeps _ _ _ _ _ _

/-- An acknowledgement is recorded, and a request is cause for a heartbeat. -/
theorem receive_keeps (e : Event) (draw : Nat) (online : s.phase = .online c queued) :
    (receive c queued e draw now s).Keeps (∀ seq, e ≠ .heartbeat seq)
      (match e with | .heartbeatAck => c.pulse.acked now | _ => c.pulse) := by
  cases e with
  | hello h =>
    unfold receive
    dsimp only
    split
    · exact greet_keeps _ draw
    · exact goOn_keeps c queued s
  | heartbeatAck => exact goOn_keeps { c with pulse := c.pulse.acked now } queued s
  | heartbeat seq =>
    unfold receive
    dsimp only
    split
    · exact .online rfl rfl fun h => absurd rfl (h seq)
    · exact (lose_ends queued now s).keeps _ _
  | reconnect => exact closeWith_keeps _ _ _ _ _ _
  | invalidSession resumable => exact invalidate_keeps resumable
  | dispatch d => exact dispatch_keeps d online
  | _ => exact goOn_keeps c queued s

theorem obey_keeps (ticket : Nat) (m : Message) (online : s.phase = .online c queued) :
    (obey ticket m now s).Keeps (m.op.isCommand = true) c.pulse := by
  unfold obey
  rw [online]
  dsimp only
  split
  · split
    · refine .online online rfl fun command => ?_
      simp only [act, Turn.next_mk, List.forall_mem_append, List.forall_mem_singleton]
      exact ⟨not_isHeartbeat_of_isCommand command, rfl⟩
    · exact ((lose_ends queued now s).after (by simp [act, Act.isParting])).keeps _ _
  · exact .online online rfl fun _ => by simp [act, Act.isHeartbeat]

theorem halt_keeps (online : s.phase = .online c queued) : (halt now s).Keeps uncaused p := by
  unfold halt
  rw [online]
  exact (closeWith_next c queued .normal (finish_closing_parted .stopped now s)).keeps _ _

theorem take_keeps (online : s.phase = .online c queued) : (take now s).Keeps s.HoldsCommands c.pulse := by
  unfold take
  split
  · next ticket m rest mailbox =>
    have obeyed : (obey ticket m now { s with mailbox := rest }).Keeps _ _ := obey_keeps ticket m online
    exact obeyed.mono fun holds => holds ticket m (mailbox ▸ List.mem_cons_self)
  · next rest _ => exact halt_keeps (s := { s with mailbox := rest }) online
  · split
    · exact .still online
    · exact halt_keeps online

theorem expire_keeps (online : s.phase = .online c queued) : (expire now s).Keeps uncaused c.pulse := by
  unfold expire
  rw [online]
  dsimp only
  split
  · split
    · exact closeWith_keeps _ _ _ _ _ _
    · exact .still online
  · exact .still online

/-- Ticks and acknowledgements are recorded, and nothing else is. A heartbeat goes out at a tick, or because it was
asked for. -/
theorem step_keeps_pulse (x : Stimulus) (online : s.phase = .online c queued) :
    (step now x s).Keeps (x.isBeat = false ∧ s.asks x = false ∧ s.HoldsCommands)
      (if s.ticks now x then c.pulse.sent now else if s.acks x then c.pulse.acked now else c.pulse) := by
  cases x with
  | text text draw =>
    simp only [ticks, acks, asks, step, online, stepOnline, Bool.false_eq_true, if_false]
    cases Event.decode text with
    | error f => exact .still online
    | ok e =>
      have h : (receive c queued e draw now s).Keeps _ _ := receive_keeps e draw online
      cases e with
      | heartbeat seq => exact h.mono fun hu => by cases hu.2.1
      | _ => exact h.mono fun _ _ => Event.noConfusion
  | beat =>
    simp only [ticks, acks, step, online, stepOnline, Bool.false_eq_true, if_false]
    exact .online rfl (c.beat_pulse s.sequence now) fun hu => by cases hu.1
  | granted =>
    show (step now .granted s).Keeps _ c.pulse
    simp only [step, online, stepOnline]
    split
    · exact identify_keeps
    · exact .still online
  | receiverGone =>
    simp only [step, online, stepOnline]
    exact goOn_keeps { c with writable := false } queued s
  | missed =>
    show (step now .missed s).Keeps _ c.pulse
    simp only [step, online, stepOnline]
    split
    · rw [Turn.next_next, publish_eq, Turn.next_mk]
      have h := closeWith_next c queued (.resumable "zombied connection")
        (finish_closing_parted (.again true 0) now { s with status := .zombied })
      exact (h.after fun a ha => isParting_of_announce ha).keeps _ _
    · exact .still online
  | closed closure =>
    simp only [step, online, stepOnline]
    exact (hangUp_next queued (finish_parted (afterClosure c closure) now s)).keeps _ _
  | dropped =>
    simp only [step, online, stepOnline]
    exact (lose_ends queued now s).keeps _ _
  | abort =>
    simp only [step, abort, online]
    exact (hangUp_next queued (leave_parted s)).keeps _ _
  | take => exact (take_keeps online).mono fun hu => hu.2.2
  | timeout => exact expire_keeps online
  | stop =>
    have after : (step now .stop s).shard.phase = .online c queued := by
      show (if s.isEnded then s else { s with mailbox := s.mailbox ++ [.stop] }).phase = _
      split <;> exact online
    exact .online after rfl fun _ => List.forall_mem_nil _
  | submit ticket m =>
    show (submit ticket m s).Keeps _ c.pulse
    unfold submit
    split
    · exact .online online rfl fun _ => List.forall_mem_nil _
    · exact .online online rfl fun _ => by simp [act, Act.isHeartbeat]
  | abandon => exact .online online rfl fun _ => List.forall_mem_nil _
  | opened | refused =>
    simp only [step, online, stepOnline]
    exact .still online

end Step

end Shard

end Shardwire
