import Shardwire.Proofs.Shard.Logbook

/-
How far a handshake is, and how long it took.

`Stage` says where the handshake of a shard is, in step with two counts of time: without a ready connection the shard is
`unready`, and while it waits for room it is `stalled` instead; the time a call for a permit waits is not counted. Every
step of the shard keeps the stage (`Stage.goesOn`), with the client's part of the handshake written at once or waiting
for room (`Stage.waits`, `Stage.sent`), and so does time that goes on (`Stage.passes`). `Runs` is what a stage knows of
its deadline.

The timer does nothing before the deadline, and closes the connection from then on (`Runner.timeout_early`,
`Runner.timeout_recycles`). `Outcome.calls`: a connection calls for a permit once, after Hello.
-/

namespace Shardwire

namespace Shard

/-- the open connection, if there is one -/
def connection? (s : Shard) : Option Connection :=
  match s.phase with
  | .online c _ => some c
  | _ => none

theorem online_of_connection? {s : Shard} {c : Connection} (h : s.connection? = some c) :
    s.phase = .online c s.isQueued := by
  cases hp : s.phase <;> simp_all [connection?, isQueued]

/-- whether there is a connection, or an attempt to get one, that is not ready -/
def isUnready (s : Shard) : Bool :=
  match s.phase with
  | .dialling _ _ => true
  | .online c _ => !c.status.isReady
  | _ => false

/-- whether it is a permit -/
def Stimulus.isGrant : Stimulus → Bool
  | .granted => true
  | _ => false

/-- whether it reaches the limiter, or begins an attempt to connect -/
def Act.isCall : Act → Bool
  | .dial _ | .enqueue | .withdraw => true
  | _ => false

end Shard

namespace Runner

/-- whether there is a connection, or an attempt to get one, that is not ready, or is no more -/
def isUnready (r : Runner) : Bool := r.shard.isUnready || r.isParting

end Runner

/-! ## Stages of a handshake -/

/-- the time of a handshake runs until `due`, by when the connection will have been unready for one timeout at least,
with the time the shard waited for room, and for `limit` at most, without it -/
structure Shard.Runs (timeout limit now unready stalled due : Nat) : Prop where
  ahead : now ≤ due ∨ 0 < stalled
  least : timeout ≤ unready + stalled + (due - now)
  most : unready + (due - now) ≤ limit

/-- where the handshake is, at a time, what time it took so far, and which message of it waits for room -/
inductive Shard.Stage (timeout now unready stalled : Nat) : Option Nat → Option Message → Shard.Phase → Prop where
  | dialling {resume : Bool} {deadline : Nat} (runs : Runs timeout timeout now unready stalled deadline) :
      Stage timeout now unready stalled none none (.dialling resume deadline)
  /-- until Hello -/
  | greeting {c : Connection} {deadline : Nat} (awaiting : c.status = .awaitingHello)
      (timed : c.deadline = some deadline) (runs : Runs timeout timeout now unready stalled deadline) :
      Stage timeout now unready stalled none none (.online c false)
  /-- until the permit -/
  | queueing {c : Connection} (identifying : c.status = .identifying) (untimed : c.deadline = none)
      (spent : unready ≤ timeout) : Stage timeout now unready stalled none none (.online c true)
  /-- until there is room -/
  | sending {c : Connection} {deadline : Nat} {m : Message} (identifying : c.status = .identifying)
      (timed : c.deadline = some deadline) (reached : deadline ≤ now + timeout) (spent : unready ≤ timeout)
      (runs : Runs timeout (2 * timeout) now unready stalled deadline) :
      Stage timeout now unready stalled none (some m) (.online c false)
  /-- until READY or RESUMED -/
  | answering {extended : Option Nat} {c : Connection} {deadline : Nat} (identifying : c.status = .identifying)
      (timed : c.deadline = some deadline)
      (runs : Runs timeout (2 * timeout) now unready stalled (max deadline (extended.getD 0))) :
      Stage timeout now unready stalled extended none (.online c false)
  | ready {extended : Option Nat} {pending : Option Message} {c : Connection} {queued : Bool}
      (ready : c.status.isReady = true) (spent : unready ≤ 2 * timeout) :
      Stage timeout now unready stalled extended pending (.online c queued)
  | waiting {extended : Option Nat} {pending : Option Message} {deadline : Nat} (spent : unready ≤ 2 * timeout) :
      Stage timeout now unready stalled extended pending (.waiting deadline)
  | ended {extended : Option Nat} {pending : Option Message} (spent : unready ≤ 2 * timeout) :
      Stage timeout now unready stalled extended pending .ended

/-! ## Beginnings -/

namespace Shard

/-- the client's part of a handshake is done: a Resume after Hello, or an Identify on a permit -/
inductive Begins (now : Nat) (s : Shard) (t : Turn) : Prop where
  | resumes {c c' : Connection} {queued : Bool} (online : s.phase = .online c queued)
      (awaiting : c.status = .awaitingHello) (phase : t.shard.phase = .online c' queued)
      (identifying : c'.status = .identifying) (timed : c'.deadline = some (now + s.profile.identifyTimeout))
  | identifies {c c' : Connection} (online : s.phase = .online c true) (phase : t.shard.phase = .online c' false)
      (status : c'.status = c.status) (timed : c'.deadline = some (now + s.profile.identifyTimeout))

theorem Begins.isOnline {now : Nat} {s : Shard} {t : Turn} (h : Begins now s t) : t.shard.isOnline = true := by
  cases h with
  | resumes _ _ phase | identifies _ phase => exact isOnline_of_online phase

/-- A command is answered after it was sent, so that no time begins with it. -/
theorem take_untimed (now : Nat) (s : Shard) :
    (s.step now .take).isTimed = false ∨ (s.step now .take).shard.isOffline = true := by
  rcases take_cases now s with ⟨ticket, m, rest, -, eq⟩ | ⟨-, -, rest, eq⟩ | ⟨-, -, eq⟩
  · rw [step, eq]
    unfold obey
    split
    · split
      · split
        · exact .inl rfl
        · exact .inr (lose_ends _ now _).offline
      · exact .inl rfl
    · exact .inl rfl
  · rw [step, eq]
    unfold halt
    split
    · exact .inr (finish_parted .stopped now _).offline
    · exact .inr (closeWith_next _ _ .normal (finish_closing_parted .stopped now _)).offline
    · exact .inr rfl
    · exact .inl rfl
  · rw [step, eq]
    exact .inl rfl

/-- On a connection, the time of a handshake begins with the client's part of it. -/
theorem begins_of_timed {now : Nat} {x : Stimulus} {s : Shard} (timed : (s.step now x).isTimed = true)
    (online : s.isOnline = true) : Begins now s (s.step now x) := by
  obtain ⟨a, last, begins⟩ := (Option.any_eq_true _ _).1 timed
  have mem := List.mem_of_getLast? last
  have ho := step_outcome now x s
  generalize ht : s.step now x = t at ho timed last mem ⊢
  cases ho with
  | idles shard mailbox acts =>
    have answer := acts a mem
    cases a with
    | answer => cases begins
    | _ => cases answer
  | tends c' hp abreast shard mailbox acts =>
    rcases acts a mem with answer | rfl | ⟨ticket, m, rfl, -, -, rfl⟩
    · cases a with
      | answer => cases begins
      | _ => cases answer
    · cases begins
    · rcases ht ▸ take_untimed now s with untimed | gone
      · cases untimed.symm.trans timed
      · rw [shard] at gone
        cases gone
  | dials hp | opens hp => simp [isOnline, hp] at online
  | resumes hp awaiting => exact .resumes hp awaiting rfl rfl rfl
  | identifies hp => exact .identifies hp rfl rfl rfl
  | queues | readies | revives =>
    cases (not_isTimed (forall_announce (P := fun a => a.isTimed = false) rfl (by simp [Act.isTimed]))).symm.trans timed
  | passes => cases (not_isTimed (by simp [Act.isTimed])).symm.trans timed
  | ends he => cases (not_isTimed_of_isParting (he.acts a mem)).symm.trans begins

namespace Runs

variable {timeout limit now unready stalled due time : Nat}

theorem unready_le (h : Runs timeout limit now unready stalled due) : unready ≤ limit :=
  Nat.le_of_add_right_le h.most

/-- With a dial the time starts over. -/
theorem fresh (timeout now : Nat) : Runs timeout timeout now 0 0 (now + timeout) :=
  ⟨.inl (Nat.le_add_right _ _), by omega, by omega⟩

/-- The client's part of a handshake was sent. -/
theorem begins (spent : unready ≤ timeout) : Runs timeout (2 * timeout) now unready stalled (now + timeout) :=
  ⟨.inl (Nat.le_add_right _ _), by omega, by omega⟩

/-- Time goes on, but not past the deadline. -/
theorem passes (h : Runs timeout limit now unready stalled due) (later : now ≤ time) (ontime : time ≤ due) :
    Runs timeout limit time (unready + (time - now)) stalled due := by
  have := h.least
  have := h.most
  exact ⟨.inl ontime, by omega, by omega⟩

/-- Time goes on while the shard waits for room. -/
theorem stalls (h : Runs timeout limit now unready stalled due) (later : now ≤ time) :
    Runs timeout limit time unready (stalled + (time - now)) due := by
  have := h.ahead
  have := h.least
  have := h.most
  exact ⟨by omega, by omega, by omega⟩

end Runs

namespace Stage

variable {timeout now unready stalled : Nat} {extended : Option Nat} {pending : Option Message} {s : Shard}
  {x : Stimulus} {t : Turn}

theorem unready_le {phase : Phase} (h : Stage timeout now unready stalled extended pending phase) :
    unready ≤ 2 * timeout := by
  cases h with
  | dialling runs | greeting _ _ runs | answering _ _ runs =>
    have := runs.unready_le
    omega
  | queueing _ _ spent | sending _ _ _ spent => omega
  | ready _ spent | waiting spent | ended spent => exact spent

theorem of_isOffline (offline : s.isOffline = true) (spent : unready ≤ 2 * timeout) :
    Stage timeout now unready stalled extended pending s.phase := by
  cases hp : s.phase with
  | waiting => exact .waiting spent
  | ended => exact .ended spent
  | dialling | online => simp [isOffline, hp] at offline

/-- A handshake that will not be sent any more. -/
theorem unsent {phase : Phase} (h : Stage timeout now unready stalled extended pending phase) :
    Stage timeout now unready stalled extended none phase := by
  cases h with
  | dialling runs => exact .dialling runs
  | greeting awaiting timed runs => exact .greeting awaiting timed runs
  | queueing identifying untimed spent => exact .queueing identifying untimed spent
  | sending identifying timed reached spent runs => exact .answering identifying timed (by simpa using runs)
  | answering identifying timed runs => exact .answering identifying timed runs
  | ready ready spent => exact .ready ready spent
  | waiting spent => exact .waiting spent
  | ended spent => exact .ended spent

/-- A handshake that was sent when there was room. -/
theorem sent {m : Message} {phase : Phase} (h : Stage timeout now unready stalled extended (some m) phase) :
    Stage timeout now unready stalled (some (now + timeout)) none phase := by
  cases h with
  | sending identifying timed reached spent runs =>
    refine .answering identifying timed ?_
    rw [Option.getD_some, Nat.max_eq_right reached]
    exact .begins spent
  | ready ready spent => exact .ready ready spent
  | waiting spent => exact .waiting spent
  | ended spent => exact .ended spent

/-- Nothing of a connection that is no more stays. -/
theorem alone (h : Stage timeout now unready stalled extended pending s.phase) (offline : s.isOnline = false) :
    Stage timeout now unready stalled none none s.phase := by
  generalize hp : s.phase = phase at h
  cases h with
  | dialling runs => exact .dialling runs
  | greeting | queueing | sending | answering | ready => simp [isOnline, hp] at offline
  | waiting spent => exact .waiting spent
  | ended spent => exact .ended spent

/-- A connection that got no further. -/
theorem abreast {c c' : Connection} {queued : Bool}
    (h : Stage timeout now unready stalled extended pending (.online c queued)) (a : Abreast c c') :
    Stage timeout now unready stalled extended pending (.online c' queued) := by
  cases h with
  | greeting awaiting timed runs => exact .greeting (a.status.trans awaiting) (a.deadline.trans timed) runs
  | queueing identifying untimed spent =>
    exact .queueing (a.status.trans identifying) (a.deadline.trans untimed) spent
  | sending identifying timed reached spent runs =>
    exact .sending (a.status.trans identifying) (a.deadline.trans timed) reached spent runs
  | answering identifying timed runs => exact .answering (a.status.trans identifying) (a.deadline.trans timed) runs
  | ready ready spent => exact .ready (a.status ▸ ready) spent

/-- A connection that waits for Hello waits for no permit, and has nothing to send. -/
theorem of_awaiting {c : Connection} {queued : Bool}
    (h : Stage timeout now unready stalled extended pending (.online c queued)) (awaiting : c.status = .awaitingHello) :
    queued = false ∧ extended = none ∧ pending = none ∧ unready ≤ timeout := by
  cases h with
  | greeting _ _ runs => exact ⟨rfl, rfl, rfl, runs.unready_le⟩
  | queueing identifying | sending identifying | answering identifying => cases awaiting.symm.trans identifying
  | ready ready =>
    rw [awaiting] at ready
    cases ready

/-- The client's part of the handshake is sent at once. -/
theorem begins {c : Connection} (identifying : c.status = .identifying) (timed : c.deadline = some (now + timeout))
    (spent : unready ≤ timeout) : Stage timeout now unready stalled none none (.online c false) :=
  .answering identifying timed (by simpa using .begins spent)

/-- A connection, or the attempt to get one, goes on. -/
theorem goesOn (h : Stage timeout now unready stalled extended pending s.phase)
    (same : s.profile.identifyTimeout = timeout) (outcome : Outcome now s x t) (connected : s.isOffline = false)
    (here : t.shard.isOffline = false) : Stage timeout now unready stalled extended pending t.shard.phase := by
  have spent := h.unready_le
  cases outcome with
  | idles shard =>
    rw [shard]
    exact h
  | tends c' online abreast shard =>
    rw [online] at h
    rw [shard]
    exact h.abreast abreast
  | dials waiting => simp [isOffline, waiting] at connected
  | opens dialling =>
    rw [dialling] at h
    cases h with
    | dialling runs => exact .greeting rfl rfl runs
  | resumes online awaiting =>
    rw [online] at h
    obtain ⟨rfl, rfl, rfl, spent⟩ := h.of_awaiting awaiting
    exact .begins rfl (by rw [same]) spent
  | queues online awaiting =>
    rw [online] at h
    obtain ⟨-, rfl, rfl, spent⟩ := h.of_awaiting awaiting
    exact .queueing rfl rfl spent
  | identifies online writable =>
    rw [online] at h
    cases h with
    | queueing identifying untimed spent => exact .begins identifying (by rw [same]) spent
    | ready ready spent => exact .ready ready spent
  | passes => exact h
  | readies | revives => exact .ready rfl spent
  | ends he => cases here.symm.trans he.offline

/-- The client's part of the handshake waits for room. -/
theorem waits (h : Stage timeout now unready stalled extended none s.phase)
    (same : s.profile.identifyTimeout = timeout) (begins : Begins now s t) (m : Message) :
    Stage timeout now unready stalled extended (some m) t.shard.phase := by
  cases begins with
  | resumes online awaiting phase identifying timed =>
    rw [online] at h
    rw [phase]
    obtain ⟨rfl, rfl, -, spent⟩ := h.of_awaiting awaiting
    exact .sending identifying (same ▸ timed) (Nat.le_refl _) spent (.begins spent)
  | identifies online phase status timed =>
    rw [online] at h
    rw [phase]
    cases h with
    | queueing identifying untimed spent =>
      exact .sending (status.trans identifying) (same ▸ timed) (Nat.le_refl _) spent (.begins spent)
    | ready ready spent => exact .ready (status ▸ ready) spent

end Stage

/-! ## Calls for permits -/

theorem isQueued_of_isOffline {s : Shard} (h : s.isOffline = true) : s.isQueued = false := by
  cases hp : s.phase with
  | online => simp [isOffline, hp] at h
  | dialling | waiting | ended => simp [isQueued, hp]

/-- A call that is out is answered by a permit. -/
theorem isQueued_of_kept {now : Nat} {s : Shard} {x : Stimulus} (kept : s.surrenders now x = false) :
    (s.isQueued && !x.isGrant) = s.isQueued := by
  cases hq : s.isQueued with
  | false => rfl
  | true =>
    cases x with
    | granted =>
      cases hp : s.phase with
      | online c queued =>
        simp only [isQueued, hp] at hq
        simp [surrenders, hp, hq] at kept
      | dialling | waiting | ended => simp [isQueued, hp] at hq
    | _ => rfl

/-- While a connection goes on, its call is out until the permit comes, or is made after Hello. -/
theorem Outcome.calls {now : Nat} {s : Shard} {x : Stimulus} {t : Turn} (h : Outcome now s x t)
    (connected : s.isOffline = false) (here : t.shard.isOffline = false) :
    ((∀ a ∈ t.acts, a.isCall = false) ∧ t.shard.isQueued = (s.isQueued && !x.isGrant)) ∨
      x.isGrant = false ∧ t.shard.isQueued = true ∧ t.acts = announce .identifying s ++ [.enqueue] ∧
        ∃ c queued, s.phase = .online c queued ∧ c.status = .awaitingHello := by
  have queue {c : Connection} {queued : Bool} (hp : s.phase = .online c queued) : s.isQueued = queued := by
    simp [isQueued, hp]
  cases h with
  | idles shard mailbox acts kept =>
    refine .inl ⟨forall_answers acts fun _ _ => rfl, ?_⟩
    rw [isQueued_of_kept kept, shard]
    rfl
  | @tends _ _ c queued c' online abreast shard mailbox acts kept =>
    refine .inl ⟨forall_tended acts (fun _ _ => rfl) fun _ => rfl, ?_⟩
    rw [isQueued_of_kept kept, shard, queue online]
    rfl
  | dials waiting => simp [isOffline, waiting] at connected
  | opens dialling =>
    have none : s.isQueued = false := by simp [isQueued, dialling]
    refine .inl ⟨fun a ha => ?_, by rw [none]; rfl⟩
    rw [eq_of_mem_announce ha]
    rfl
  | resumes online =>
    exact .inl ⟨forall_announce rfl (by simp [Act.isCall]), by rw [queue online]; simp [isQueued, Stimulus.isGrant]⟩
  | queues online awaiting => exact .inr ⟨rfl, rfl, rfl, _, _, online, awaiting⟩
  | identifies online => exact .inl ⟨by simp [Act.isCall], by simp [isQueued, Stimulus.isGrant]⟩
  | passes online => exact .inl ⟨by simp [Act.isCall], by simp [isQueued, Stimulus.isGrant]⟩
  | readies online | revives online =>
    exact .inl ⟨forall_announce rfl (by simp [Act.isCall]), by rw [queue online]; simp [isQueued, Stimulus.isGrant]⟩
  | ends he => cases here.symm.trans he.offline

/-- Whatever ends a connection, or the attempt to get one, takes back the call that is out. -/
theorem step_partings {now : Nat} {x : Stimulus} {s : Shard} (gone : (s.step now x).shard.isOffline = true) :
    (∀ a ∈ (s.step now x).acts, a.isParting = true) ∧
      ((s.isQueued && !x.isGrant) = true → .withdraw ∈ (s.step now x).acts) := by
  have hc := step_course now x s
  generalize s.step now x = t at hc gone ⊢
  cases hc with
  | ends ending concludes =>
    obtain ⟨s', acts, letsGo, rfl⟩ := concludes
    refine ⟨fun a ha => ?_, fun hq => ?_⟩
    · rcases List.mem_append.1 ha with ha | ha
      · exact letsGo.parting a ha
      · exact (finish_parted _ now s').acts a ha
    · obtain ⟨queued, other⟩ := Bool.and_eq_true_iff.1 hq
      refine List.mem_append_left _ (letsGo.withdraws.2 ⟨queued, ?_⟩)
      rintro rfl
      cases other
  | goesOn connected here => cases here.symm.trans gone
  | dials => simp [dial_eq, isOffline] at gone
  | leaves waiting stops left =>
    obtain ⟨rest, rfl⟩ := left
    exact ⟨(leave_parted _).acts, by simp [isQueued, waiting]⟩
  | rests away shard acts =>
    exact ⟨forall_answers acts fun _ _ => rfl, by simp [isQueued_of_isOffline away]⟩
  | aborts eq =>
    subst eq
    refine ⟨forall_abort s rfl rfl fun _ _ => rfl, fun hq => ?_⟩
    cases hp : s.phase with
    | online c queued =>
      have queued : queued = true := by simpa [isQueued, hp, Stimulus.isGrant] using hq
      simp [abort, hp, queued, hangUp]
    | dialling | waiting | ended => simp [isQueued, hp] at hq

/-- What is written on a permit is the client's part of a handshake. -/
theorem timed_of_granted {now : Nat} {s : Shard} {a : Act}
    (frame : (s.step now .granted).acts.find? Act.isFrame = some a) :
    ∃ m, a = .write m ∧ (s.step now .granted).isTimed = true := by
  have online := online_of_frame (List.mem_of_find?_eq_some frame) (List.find?_some frame)
  obtain ⟨c, queued, hp⟩ := online_of_isOnline online
  cases queued with
  | false => simp [step, hp, stepOnline, Turn.still] at frame
  | true =>
    cases hw : c.writable with
    | true =>
      simp only [step, hp, stepOnline, identify, hw, if_true, goOn, act, Turn.still, Turn.next_mk] at frame ⊢
      cases frame
      exact ⟨_, rfl, rfl⟩
    | false =>
      have ending : s.ending? now .granted = some .lost := by simp [ending?, endingOnline?, hp, hw]
      have unwritable : s.isWritable = false := by simp [isWritable, hp, hw]
      have silent := frames_of_ending (step_concludes ending)
      rw [unwritable] at silent
      have framed : a ∈ (s.step now .granted).acts.filter Act.isFrame :=
        List.mem_filter.2 ⟨List.mem_of_find?_eq_some frame, List.find?_some frame⟩
      rw [silent] at framed
      cases framed

/-- A beat calls for nothing. -/
theorem beat_uncalled (now : Nat) {s : Shard} (online : s.isOnline = true) :
    ∀ a ∈ (s.step now .beat).acts, a.isCall = false := by
  obtain ⟨c, queued, hp⟩ := online_of_isOnline online
  intro a ha
  simp only [step, hp, stepOnline, goOn, Turn.next, Turn.still, List.nil_append] at ha
  obtain ⟨m, -, rfl⟩ := List.mem_map.1 ha
  rfl

/-- A shard without a connection gets one by dialling only. -/
theorem step_dials {now : Nat} {x : Stimulus} {s : Shard} (away : s.isOffline = true)
    (here : (s.step now x).shard.isOffline = false) : s.step now x = dial now s := by
  have hc := step_course now x s
  generalize s.step now x = t at hc here ⊢
  cases hc with
  | ends ending => cases away.symm.trans (connected_of_ending ending)
  | goesOn connected => cases away.symm.trans connected
  | dials => rfl
  | leaves waiting stops left =>
    obtain ⟨rest, rfl⟩ := left
    cases here
  | rests _ shard =>
    rw [shard] at here
    cases here.symm.trans away
  | aborts eq =>
    subst eq
    cases hp : s.phase with
    | online | dialling => simp [isOffline, hp] at away
    | waiting | ended => simp [abort, hp, leave, Turn.still, isOffline] at here

/-! ## Timeouts -/

section Timeout

variable {s : Shard} {c : Connection} {queued : Bool}

theorem timeoutDue?_unready (hp : s.phase = .online c queued) (unready : c.status.isReady = false) :
    s.timeoutDue? = c.deadline := by
  simp [timeoutDue?, hp, unready]

/-- A deadline that has not come ends no handshake, nor does one that is not in force. -/
theorem timeout_early (hp : s.phase = .online c queued) {now : Nat} (h : ∀ due ∈ s.timeoutDue?, now < due) :
    s.step now .timeout = .still s := by
  simp only [step, expire, hp]
  cases hd : s.timeoutDue? with
  | none => rfl
  | some due => exact if_neg (Nat.not_le_of_lt (h due hd))

/-- When the deadline has come, the shard closes the connection and tries again with the same session. -/
theorem timeout_recycles (hp : s.phase = .online c queued) {now due : Nat} (hd : s.timeoutDue? = some due)
    (h : due ≤ now) : Concludes now s .timeout (.recycled "handshake timed out") (s.step now .timeout) :=
  step_concludes (by simp [ending?, endingOnline?, hp, hd, h])

end Timeout

/-- Time goes on, but not past a deadline in force; it counts while no call is out. -/
theorem Stage.passes {timeout now unready stalled time : Nat} {r : Runner} (tidy : r.Tidy)
    (h : Stage timeout now unready stalled r.extended r.handshake? r.shard.phase) (later : now ≤ time)
    (due : ∀ d ∈ r.timeoutDue?, time ≤ d) :
    Stage timeout time
      (if (r.isUnready && !r.shard.isQueued) && r.hand.isNone then unready + (time - now) else unready)
      (if (r.isUnready && !r.shard.isQueued) && r.hand.isSome then stalled + (time - now) else stalled)
      r.extended r.handshake? r.shard.phase := by
  have settled (offline : r.shard.isOnline = false) : r.isParting = false := by
    simp [Runner.isParting, (tidy offline).1]
  have inForce (free : r.hand = none) {deadline : Nat} (hd : r.shard.timeoutDue? = some deadline) :
      time ≤ max deadline (r.extended.getD 0) := due _ (by simp [Runner.timeoutDue?, free, hd])
  generalize hx : r.extended = extended at h inForce
  generalize hm : r.handshake? = pending at h
  generalize hp : r.shard.phase = phase at h
  cases h with
  | @dialling resume deadline runs =>
    have free := (tidy (by simp [isOnline, hp])).1
    have ontime : time ≤ deadline := by simpa using inForce free (by simp [timeoutDue?, hp])
    have counts : r.isUnready = true := by simp [Runner.isUnready, isUnready, hp]
    simp only [counts, free, isQueued, hp, Bool.not_false, Bool.and_self, Option.isNone_none, Option.isSome_none,
      Bool.and_false, Bool.false_eq_true, if_true, if_false]
    exact .dialling (runs.passes later ontime)
  | @greeting c deadline awaiting timed runs =>
    have unready : c.status.isReady = false := by rw [awaiting]; rfl
    have counts : r.isUnready = true := by simp [Runner.isUnready, isUnready, hp, unready]
    simp only [counts, isQueued, hp, Bool.not_false, Bool.true_and]
    cases free : r.hand with
    | none =>
      have ontime : time ≤ deadline := by
        simpa using inForce free (by simp [timeoutDue?, hp, unready, timed])
      exact .greeting awaiting timed (runs.passes later ontime)
    | some k => exact .greeting awaiting timed (runs.stalls later)
  | queueing identifying untimed spent =>
    simp only [isQueued, hp, Bool.not_true, Bool.and_false, Bool.false_and, Bool.false_eq_true, if_false]
    exact .queueing identifying untimed spent
  | @sending c deadline m identifying timed reached spent runs =>
    have unready : c.status.isReady = false := by rw [identifying]; rfl
    have counts : r.isUnready = true := by simp [Runner.isUnready, isUnready, hp, unready]
    have busy : r.hand = some (.handshake m) := Runner.hand_of_handshake? hm
    simp only [counts, busy, isQueued, hp, Bool.not_false, Bool.and_self, Option.isNone_some, Option.isSome_some,
      Bool.and_false, Bool.false_eq_true, if_true, if_false]
    exact .sending identifying timed (by omega) spent (runs.stalls later)
  | @answering _ c deadline identifying timed runs =>
    have unready : c.status.isReady = false := by rw [identifying]; rfl
    have counts : r.isUnready = true := by simp [Runner.isUnready, isUnready, hp, unready]
    simp only [counts, isQueued, hp, Bool.not_false, Bool.true_and]
    cases free : r.hand with
    | none =>
      have ontime := @inForce free deadline (by simp [timeoutDue?, hp, unready, timed])
      exact .answering identifying timed (runs.passes later ontime)
    | some k => exact .answering identifying timed (runs.stalls later)
  | ready ready spent =>
    have same : (r.isUnready && !r.shard.isQueued && r.hand.isNone) = false := by
      cases free : r.hand with
      | none => simp [Runner.isUnready, isUnready, hp, ready, Runner.isParting, free]
      | some k => simp
    rw [same]
    exact .ready ready spent
  | waiting spent =>
    have idle : r.isUnready = false := by simp [Runner.isUnready, isUnready, hp, settled (by simp [isOnline, hp])]
    simp only [idle, Bool.false_and, Bool.false_eq_true, if_false]
    exact .waiting spent
  | ended spent =>
    have idle : r.isUnready = false := by simp [Runner.isUnready, isUnready, hp, settled (by simp [isOnline, hp])]
    simp only [idle, Bool.false_and, Bool.false_eq_true, if_false]
    exact .ended spent

end Shard

namespace Runner

open Shard (Act Concludes)

variable {r : Runner} {c : Connection} {queued : Bool} {now : Nat}

/-- A deadline that has not come ends no handshake. -/
theorem timeout_early (free : r.hand = none) (hp : r.shard.phase = .online c queued)
    (h : ∀ due ∈ r.timeoutDue?, now < due) :
    (r.step now (.meet .timeout)).runner = r ∧ (r.step now (.meet .timeout)).acts = [] := by
  have met : r.step now (.meet .timeout) = r.expire now := by simp [Runner.step, meet, free]
  rw [met, expire]
  split
  · exact ⟨rfl, rfl⟩
  · next late =>
    have still : r.shard.step now .timeout = .still r.shard := by
      refine Shard.timeout_early hp fun due hd => ?_
      have before := h (max due (r.extended.getD 0)) (by simp [timeoutDue?, free, Option.mem_def.1 hd])
      have past : r.extended.getD 0 ≤ now := by
        cases hx : r.extended with
        | none => exact Nat.zero_le _
        | some time => simpa [hx] using late
      omega
    have untimed : (r.shard.step now .timeout).isTimed = false := by rw [still]; rfl
    obtain ⟨-, whole⟩ := Shard.clocked_of_untimed untimed
    rw [deal, still]
    simp only [Shard.Turn.still, List.find?_nil, perform, whole, still, List.countP_nil]
    exact ⟨follow_online (Shard.isOnline_of_online hp) _, trivial⟩

/-- Once the deadline has come, the connection is closed as soon as there is room. -/
theorem timeout_recycles (free : r.hand = none) (hp : r.shard.phase = .online c queued) {due : Nat}
    (hd : r.timeoutDue? = some due) (late : due ≤ now) :
    let t := r.step now (.meet .timeout)
    if r.outlet = .full then t.runner.shard = r.shard ∧ t.runner.hand = some (.parting .timeout)
    else Concludes now r.shard .timeout (.recycled "handshake timed out") ⟨t.runner.shard, t.acts⟩ := by
  intro t
  obtain ⟨deadline, hs, hm⟩ : ∃ d, r.shard.timeoutDue? = some d ∧ max d (r.extended.getD 0) = due := by
    simpa [timeoutDue?, free] using hd
  have past : (r.extended.any fun time => now < time) = false := by
    cases hx : r.extended with
    | none => rfl
    | some time =>
      rw [hx, Option.getD_some] at hm
      simp
      omega
  have met : t = r.deal now .timeout := by simp [t, Runner.step, meet, free, expire, past]
  have concludes := Shard.timeout_recycles hp hs (Nat.le_trans (hm ▸ Nat.le_max_left _ _) late)
  have performs : Concludes now r.shard .timeout (.recycled "handshake timed out")
      ⟨(r.perform now .timeout).runner.shard, (r.perform now .timeout).acts⟩ := by
    rw [perform_shard, perform, (Shard.clocked_of_untimed concludes.untimed).2]
    exact concludes
  have frames := Shard.frames_of_ending concludes
  rw [met]
  cases writable : r.shard.isWritable with
  | false =>
    rw [writable] at frames
    simp only [outlet, writable, Bool.false_eq_true, if_false, reduceCtorEq]
    rw [deal_of_silent frames]
    exact performs
  | true =>
    cases room : r.outbox.hasRoom with
    | true =>
      simp only [outlet, writable, room, if_true, reduceCtorEq, if_false]
      rw [deal_of_room room]
      exact performs
    | false =>
      have found : (r.shard.step now .timeout).acts.find? Act.isFrame =
          some (.close (.resumable "handshake timed out")) := by
        rw [← List.head?_filter, frames, writable]
        rfl
      simp only [outlet, writable, room, if_true, Bool.false_eq_true, if_false]
      simp [deal, found, room, suspend]

theorem isCall_of_shown {a : Shard.Act} (h : isShown a = true) : a.isCall = false := by
  cases a <;> first | rfl | cases h

end Runner

end Shardwire
