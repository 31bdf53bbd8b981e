import Shardwire.Proofs.Shard.Resumption

/-
One reading of a message.

What a message carries is read in three places: by the accessors of the message, as an event, and by a shard that is
handed the event of a session. They read alike: `decoders_agree`. A message is no event exactly if it dispatches without
a name or a sequence number, or is a Hello without an interval (`ofMessage_eq_error`); an event holds what the accessor
of its op code shows; and of the newer events of a session just those that the accessor of READY shows a payload of give
a shard another session and make it ready (`adopts_iff`).
-/

namespace Shardwire

/-! ## Messages and events -/

namespace Event

variable {m : Message} {e : Event}

theorem hello?_eq (h : m.op = .hello) : m.hello? = (Json.decodeValue Hello.decoder m.data).toOption := if_pos h

/-- A message is no event if it dispatches without a name or a sequence number, or greets without an interval. -/
theorem ofMessage_eq_error :
    (∃ f, ofMessage m = .error f) ↔
      (m.op = .dispatch ∧ (m.name = none ∨ m.seq = none)) ∨ (m.op = .hello ∧ m.hello? = none) := by
  unfold ofMessage
  cases op : m.op with
  | dispatch => cases m.name <;> cases m.seq <;> simp
  | hello =>
    rw [hello?_eq op]
    cases Json.decodeValue Hello.decoder m.data <;> simp [Except.toOption]
  | _ => simp

theorem op_ofMessage (h : ofMessage m = .ok e) : e.op = m.op := by
  unfold ofMessage at h
  cases op : m.op with
  | dispatch =>
    rw [op] at h
    cases name : m.name with
    | none => simp [name] at h
    | some t =>
      cases seq : m.seq with
      | none => simp [name, seq] at h
      | some s => simp only [name, seq, Except.ok.injEq] at h; subst h; rfl
  | hello =>
    rw [op] at h
    cases read : Json.decodeValue Hello.decoder m.data with
    | error f => simp [read] at h
    | ok p => simp only [read, Except.ok.injEq] at h; subst h; rfl
  | _ =>
    simp only [op, Except.ok.injEq] at h
    subst h
    rfl

theorem ofMessage_eq_hello {p : Hello} : ofMessage m = .ok (.hello p) ↔ m.hello? = some p := by
  unfold ofMessage
  cases op : m.op with
  | hello =>
    rw [hello?_eq op]
    cases Json.decodeValue Hello.decoder m.data <;> simp [Except.toOption]
  | dispatch => cases m.name <;> cases m.seq <;> simp [Message.hello?, Message.payload?, op]
  | _ => simp [Message.hello?, Message.payload?, op]

theorem ofMessage_eq_heartbeat {seq : Option UInt64} :
    ofMessage m = .ok (.heartbeat seq) ↔ m.heartbeat? = some seq := by
  unfold ofMessage Message.heartbeat?
  cases op : m.op with
  | hello => cases Json.decodeValue Hello.decoder m.data <;> simp
  | dispatch => cases m.name <;> cases m.seq <;> simp
  | _ => simp

theorem ofMessage_eq_invalidSession {resumable : Bool} :
    ofMessage m = .ok (.invalidSession resumable) ↔ m.invalidSession? = some resumable := by
  unfold ofMessage Message.invalidSession?
  cases op : m.op with
  | hello => cases Json.decodeValue Hello.decoder m.data <;> simp
  | dispatch => cases m.name <;> cases m.seq <;> simp
  | _ => simp

end Event

/-! ## Messages and what a shard makes of them -/

namespace Shard

/-- what a shard does with a message -/
def handle (m : Message) (draw now : Nat) (s : Shard) : Turn :=
  match s.phase, Event.ofMessage m with
  | .online c queued, .ok e => receive c queued e draw now s
  | _, _ => .still s

/-- whatever session the shard had and whatever it showed, the message gives it this one and makes it ready -/
def Adopts (m : Message) (draw now : Nat) (s : Shard) (x : Session) : Prop :=
  ∀ (old : Option Session) (shown : Status), ∃ c queued,
    let t := handle m draw now { s with session := old, status := shown }
    t.shard.session = some x ∧ t.shard.status = .ready ∧ t.shard.phase = .online c queued ∧ c.status = .ready

variable {m : Message} {s : Shard} (draw now : Nat)

/-- A text is handled as the message it is. -/
theorem step_text {text : String} (read : Message.decode text = .ok m) :
    step now (.text text draw) s = handle m draw now s := by
  have event : Event.decode text = Event.ofMessage m := by simp only [Event.decode, read]
  unfold handle
  cases phase : s.phase with
  | online c queued =>
    cases message : Event.ofMessage m <;> simp [step, phase, stepOnline, event, message]
  | _ => simp [step, phase]

section Dispatch

variable {c : Connection} {queued : Bool} {name : String} {n : UInt64}

theorem handle_dispatch (op : m.op = .dispatch) (named : m.name = some name) (numbered : m.seq = some n)
    (phase : s.phase = .online c queued) : handle m draw now s = dispatch c queued ⟨name, n, m.data⟩ now s := by
  have event : Event.ofMessage m = .ok (.dispatch ⟨name, n, m.data⟩) := by
    simp only [Event.ofMessage, op, named, numbered]
  simp only [handle, phase, event, receive]

theorem advance?_newer {last : Sequence} (newer : ∀ k, last = some k → k < n) : last.advance? n = some (some n) := by
  cases last with
  | none => rfl
  | some k => exact if_pos (newer k rfl)

theorem ready?_eq_some {p : Ready} (op : m.op = .dispatch) (named : m.name = some name) :
    m.ready? = some p ↔ EventKind.ofName? name = some .ready ∧ Json.decodeValue Ready.decoder m.data = .ok p := by
  have called : m.name = some "READY" ↔ name = EventKind.ready.name := by rw [named, Option.some.injEq]; rfl
  rw [EventKind.ofName?_eq_some, ← called, Message.ready?, Message.payload?, if_pos op]
  split
  · next ready => cases Json.decodeValue Ready.decoder m.data <;> simp [ready, Except.toOption]
  · next other => simp [other]

theorem handle_ready {p : Ready} (op : m.op = .dispatch) (named : m.name = some name) (numbered : m.seq = some n)
    (newer : ∀ k, s.sequence = some k → k < n) (phase : s.phase = .online c queued) (ready : m.ready? = some p) :
    s.Adopts m draw now ⟨p.sessionId, p.resumeUrl⟩ := by
  obtain ⟨kind, payload⟩ := (ready?_eq_some op named).1 ready
  intro old shown
  have turn := (handle_dispatch (s := { s with session := old, status := shown }) draw now op named numbered
    phase).trans (dispatch_eq_ready (advance?_newer newer) kind payload)
  rw [turn]
  exact ⟨_, _, rfl, rfl, rfl, rfl⟩

/-- Without a payload of READY a shard keeps its session, and its status too, unless it is told that it resumed. -/
theorem handle_other (op : m.op = .dispatch) (named : m.name = some name) (numbered : m.seq = some n)
    (newer : ∀ k, s.sequence = some k → k < n) (phase : s.phase = .online c queued) (unready : m.ready? = none) :
    (handle m draw now s).shard.session = s.session ∧
      (name ≠ "RESUMED" → (handle m draw now s).shard.status = s.status ∧
        (handle m draw now s).shard.phase = s.phase) := by
  rw [handle_dispatch draw now op named numbered phase]
  cases finish : finishes ⟨name, n, m.data⟩ with
  | false =>
    rw [dispatch_eq_pass phase (advance?_newer newer) finish]
    exact ⟨rfl, fun _ => ⟨rfl, rfl⟩⟩
  | true =>
    rcases finishes_eq_true finish with ⟨p, kind, payload⟩ | kind
    · cases unready.symm.trans ((ready?_eq_some op named).2 ⟨kind, payload⟩)
    · rw [dispatch_eq_resumed (advance?_newer newer) kind]
      exact ⟨rfl, fun other => absurd (EventKind.ofName?_eq_some.1 kind) other⟩

theorem adopts_iff (op : m.op = .dispatch) (named : m.name = some name) (numbered : m.seq = some n)
    (newer : ∀ k, s.sequence = some k → k < n) (phase : s.phase = .online c queued) {x : Session} :
    s.Adopts m draw now x ↔ ∃ p, m.ready? = some p ∧ x = ⟨p.sessionId, p.resumeUrl⟩ := by
  constructor
  · intro adopts
    obtain ⟨_, _, session, -⟩ := adopts none s.status
    cases ready : m.ready? with
    | none =>
      have kept := (handle_other (s := { s with session := none }) draw now op named numbered newer phase ready).1
      cases kept.symm.trans session
    | some p =>
      obtain ⟨_, _, session', -⟩ := handle_ready draw now op named numbered newer phase ready none s.status
      exact ⟨p, rfl, Option.some.inj (session.symm.trans session')⟩
  · rintro ⟨p, ready, rfl⟩
    exact handle_ready draw now op named numbered newer phase ready

end Dispatch

end Shard

/-! ## Main result -/

/-- Accessors, events and shards read a message alike. It is no event exactly if it dispatches without a name or a
sequence number, or greets without an interval; an event has its op code, and holds what the accessor of a Hello, a
heartbeat or an invalid session shows. A newer event of the session replaces the session of a shard and makes it ready,
whatever it had and showed before, exactly if the accessor of READY shows a payload, and then the session is that of the
payload; otherwise the session stays, and without RESUMED so do status and connection. -/
theorem decoders_agree (m : Message) :
    ((∃ f, Event.ofMessage m = .error f) ↔
      (m.op = .dispatch ∧ (m.name = none ∨ m.seq = none)) ∨ (m.op = .hello ∧ m.hello? = none)) ∧
    (∀ e, Event.ofMessage m = .ok e → e.op = m.op) ∧
    (∀ p, Event.ofMessage m = .ok (.hello p) ↔ m.hello? = some p) ∧
    (∀ seq, Event.ofMessage m = .ok (.heartbeat seq) ↔ m.heartbeat? = some seq) ∧
    (∀ resumable, Event.ofMessage m = .ok (.invalidSession resumable) ↔ m.invalidSession? = some resumable) ∧
    (∀ (s : Shard) (text : String) (draw now : Nat), Message.decode text = .ok m →
      s.step now (.text text draw) = s.handle m draw now) ∧
    ∀ (s : Shard) (draw now : Nat) (c : Connection) (queued : Bool) (name : String) (n : UInt64),
      m.op = .dispatch → m.name = some name → m.seq = some n →
      s.phase = .online c queued → (∀ k, s.sequence = some k → k < n) →
      (∀ x, s.Adopts m draw now x ↔ ∃ p, m.ready? = some p ∧ x = ⟨p.sessionId, p.resumeUrl⟩) ∧
      (m.ready? = none → (s.handle m draw now).shard.session = s.session ∧
        (name ≠ "RESUMED" → (s.handle m draw now).shard.status = s.status ∧
          (s.handle m draw now).shard.phase = s.phase)) := by
  refine ⟨Event.ofMessage_eq_error, fun _ => Event.op_ofMessage, fun _ => Event.ofMessage_eq_hello,
    fun _ => Event.ofMessage_eq_heartbeat, fun _ => Event.ofMessage_eq_invalidSession,
    fun s _ draw now read => Shard.step_text draw now read, ?_⟩
  intro s draw now c queued name n op named numbered phase newer
  exact ⟨fun x => Shard.adopts_iff draw now op named numbered newer phase,
    Shard.handle_other draw now op named numbered newer phase⟩

/-- READY, read from its text on a connection that has just been opened. -/
theorem decoders_agree_ready :
    let m := Message.dispatch "READY" 1 (.obj [("session_id", .str "x")])
    let s := { Shard.fresh (.usual "t") .only 0 with phase := .online (Connection.fresh 0) false }
    m.ready? = some ⟨0, "x", none, none, .null, []⟩ ∧ s.step 0 (.text readyText 0) = s.handle m 0 0 ∧
      s.Adopts m 0 0 ⟨"x", none⟩ := by
  intro m s
  have read : Message.decode readyText = .ok m := by
    simp only [Message.decode, Json.decodeText, Json.Document.ofText, tokens_readyText]
    rfl
  have newer : ∀ k, s.sequence = some k → k < 1 := fun k last => by cases last
  obtain ⟨-, -, -, -, -, turn, shard⟩ := decoders_agree m
  have adopts := (shard s 0 0 (Connection.fresh 0) false "READY" 1 rfl rfl rfl rfl newer).1
  exact ⟨rfl, turn s readyText 0 0 read, (adopts ⟨"x", none⟩).2 ⟨_, rfl, rfl⟩⟩

end Shardwire
