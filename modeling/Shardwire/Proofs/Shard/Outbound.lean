import Shardwire.Proofs.Shard.Backlog

/-
What a shard sends on one connection.

Frames come from the shard itself, from its heartbeat and from callers; what there is of each move is listed by
`Runner.Sends`. All of them go through the outbox, where the shard and its heartbeat wait while there is no room.

`outbound_protocol`: whatever the gateway does, and whatever commands callers send, there is at most one Identify or
Resume on a connection, not before Hello; commands go out while the shard is ready, and everything else is a heartbeat
with the number of the last event, but for one that had to wait for room, which has the number it was made with; a close
frame is the last frame, and it ends the session exactly if the shard stops or is told that the session is over. Every
connection of a run is the last one of some shorter run, so it is enough to speak of that. `stale_beat`: a heartbeat
that waits can be overtaken by an event.
-/

namespace Shardwire

open Shard (Stimulus Act AtEach)

/-! ## One handshake -/

namespace Journal

/-- at most one Identify or Resume went out, and none while the call for a permit is out -/
structure Single (j : Journal) : Prop where
  handshakes : j.handshakes.length ≤ 1
  queued : ∀ c, j.shard.phase = .online c true → j.handshakes = []

variable {p : ShardProfile} {now : Nat} {x : Stimulus} {j : Journal}

theorem single_blank (p : ShardProfile) (address : ShardAddress) (now : Nat) : Single (blank p address now) where
  handshakes := by simp [Journal.handshakes, blank]
  queued := by simp [blank, Shard.fresh]

theorem Single.entered (h : Single j) (x : Stimulus) (s : Shard) : (j.enter x s).handshakes.length ≤ 1 := by
  cases hl : j.shard.opensLine x with
  | true => simp [Journal.handshakes, enter, hl]
  | false => exact enter_handshakes hl s ▸ h.handshakes

/-- Nothing of a handshake goes out, and no call either. -/
theorem Single.onward (h : Single j) {j' : Journal} (same : j'.handshakes = j.handshakes)
    (queued : ∀ c', j'.shard.phase = .online c' true → ∃ c, j.shard.phase = .online c true) : Single j' where
  handshakes := same ▸ h.handshakes
  queued := fun c' hp => same.trans ((queued c' hp).elim fun c hc => h.queued c hc)

theorem step_single (now : Nat) (x : Stimulus) (hf : Faithful p j) (h : Single j) : Single (j.step now x) := by
  cases hx : x.isAllowed with
  | false => rwa [step_refused hx]
  | true =>
    rw [step_eq hx]
    have ho := Shard.step_outcome now x j.shard
    generalize j.shard.step now x = t at ho ⊢
    cases ho with
    | idles shard mailbox acts kept =>
      have phase : t.shard.phase = j.shard.phase := by rw [shard]
      rw [notes_answers acts]
      refine ⟨h.entered x t.shard, fun c hp => ?_⟩
      rw [enter_handshakes (by simp [Shard.opensLine, phase.symm.trans hp])]
      exact h.queued c (phase.symm.trans hp)
    | tends c' online abreast shard mailbox acts kept =>
      obtain ⟨ms, hms, eq⟩ := notes_tending (fun a ha => hf.quiet (acts a ha)) (j.enter x t.shard)
      have hl : j.shard.opensLine x = false := by simp [Shard.opensLine, online]
      have phase := congrArg Shard.phase shard
      rw [eq]
      refine h.onward ((handshakes_tending (fun m hm => (hms m hm).2) _).trans (enter_handshakes hl _)) fun c hp => ?_
      cases phase.symm.trans hp
      exact ⟨_, online⟩
    | dials waiting =>
      rw [Shard.dial_eq, notes_announce]
      exact ⟨h.entered .timeout j.shard, fun c hp => by cases hp⟩
    | opens dialling =>
      rw [notes_parting fun a ha => Shard.isParting_of_announce ha]
      exact ⟨h.entered .opened _, fun c hp => by cases hp⟩
    | @resumes text draw c queued hello p' online awaiting event resuming session writable =>
      have none := (hf.awaiting _ _ online awaiting).2.2.2
      have early := (hf.awaiting _ _ online awaiting).1
      have hl := j.shard.opensLine_text text draw
      rw [notes_announce]
      refine ⟨?_, fun c hp => ?_⟩
      · rw [List.foldl_cons, List.foldl_nil, handshakes_write, enter_handshakes hl, none]
        exact Nat.le_refl 1
      · cases hp
        cases early
    | @queues text draw c queued hello online awaiting event session =>
      have none := (hf.awaiting _ _ online awaiting).2.2.2
      have same : ∀ s, (j.enter (.text text draw) s).handshakes = [] := fun s =>
        (enter_handshakes (j.shard.opensLine_text text draw) s).trans none
      rw [notes_announce]
      exact ⟨by show (j.enter (.text text draw) _).handshakes.length ≤ 1; simp [same], fun _ _ => same _⟩
    | identifies online writable =>
      have none := h.queued _ online
      have hl : j.shard.opensLine .granted = false := by simp [Shard.opensLine, online]
      refine ⟨?_, fun c hp => by cases hp⟩
      rw [List.foldl_cons, List.foldl_nil, handshakes_write, enter_handshakes hl, none]
      exact Nat.le_refl 1
    | passes online event newer other =>
      exact h.onward (enter_handshakes (j.shard.opensLine_text _ _) j.shard) fun c hp => ⟨c, hp⟩
    | readies online event newer kind payload =>
      rw [notes_announce]
      refine h.onward (enter_handshakes (j.shard.opensLine_text _ _) j.shard) fun c hp => ?_
      cases hp
      exact ⟨_, online⟩
    | revives online event newer kind =>
      rw [notes_announce]
      refine h.onward (enter_handshakes (j.shard.opensLine_text _ _) j.shard) fun c hp => ?_
      cases hp
      exact ⟨_, online⟩
    | ends he =>
      rw [notes_parting he.acts]
      exact ⟨h.entered x t.shard, fun c hp => absurd hp (he.ne_online c true)⟩

end Journal

/-! ## Frames of a move -/

namespace Runner

/-- the frames that a move can send -/
inductive Sends (now : Nat) (r : Runner) : Move → Turn → Prop where
  | nothing {v : Move} {t : Turn} (none : t.acts.filter Act.isFrame = []) : Sends now r v t
  /-- those of the step that the shard makes -/
  | steps {v : Move} {t : Turn} {x : Stimulus} (deals : r.dealt? v = some x)
      (frames : t.acts.filter Act.isFrame = (r.shard.step now x).acts.filter Act.isFrame)
      (shard : t.runner.shard = (r.shard.stepClocked now x).shard) : Sends now r v t
  /-- a frame that waited -/
  | serves {t : Turn} {m : Message}
      (waited : (∃ seq, m = .heartbeat seq ∧ .beat seq ∈ r.outbox.waiting) ∨ r.handshake? = some m)
      (frames : t.acts.filter Act.isFrame = [.write m]) : Sends now r .serve t

variable {now : Nat} {v : Move} {r : Runner}

/-- There are no others. -/
theorem step_sends (now : Nat) (v : Move) (r : Runner) : Sends now r v (r.step now v) := by
  have hc := step_course now v r
  generalize r.step now v = t at hc ⊢
  have made {x : Stimulus} {q : Runner} (eased : Eased r q) :
      (q.perform now x).acts.filter Act.isFrame = (r.shard.step now x).acts.filter Act.isFrame := by
    rw [perform, eased.shard, Shard.stepClocked_frames]
  cases hc with
  | rests eased pending busy answers =>
    exact .nothing (Shard.filter_isFrame_nil (Shard.forall_answers answers fun _ _ => rfl))
  | @makes _ x q deals eased hand => exact .steps deals (made eased) (by rw [perform_shard, eased.shard])
  | @parts x q deals waited eased hand =>
    exact .steps deals ((dropWhile_frames _).trans (made eased)) (by rw [perform_shard, eased.shard])
  | begins => exact .nothing (by simp [List.filter_filter])
  | postpones => exact .nothing rfl
  | prepares => exact .nothing (takeWhile_frames _)
  | holds => exact .nothing rfl
  | sends waited => exact .serves (.inl ⟨_, rfl, waited⟩) rfl
  | @writes q m waited eased =>
    refine .serves (.inr waited) ?_
    split
    · have aborted : (q.perform now .abort).acts.filter Act.isFrame = [] := by
        rw [perform, Shard.stepClocked_frames]
        exact Shard.filter_isFrame_nil (Shard.forall_abort q.shard rfl rfl fun _ _ => rfl)
      rw [Turn.next, List.filter_append, aborted]
      rfl
    · rfl

/-- A session that the shard has was there before, or is announced. -/
theorem step_session {y : Session} (hy : (r.step now v).runner.shard.session = some y) :
    r.shard.session = some y ∨ ∃ d, .deliver d ∈ (r.step now v).acts ∧ d.session? = some y := by
  have aborted (s : Shard) : (Shard.abort s).shard.session = s.session := by
    unfold Shard.abort
    split <;> rfl
  -- on a clock that ends, a session is found where it would be otherwise
  have clocked {x : Stimulus} {q : Runner} (eased : Eased r q) (hy : (q.perform now x).runner.shard.session = some y) :
      r.shard.session = some y ∨ ∃ d, .deliver d ∈ (q.perform now x).acts ∧ d.session? = some y := by
    rw [perform_shard, eased.shard] at hy
    rw [perform, eased.shard]
    rcases Shard.clocked_cases now x r.shard with ⟨-, eq⟩ | ⟨-, -, -, -, -, -, eq⟩ | ⟨-, -, -, -, eq⟩
    · rw [eq] at hy ⊢
      exact Shard.step_session hy
    · rw [eq, aborted] at hy
      exact .inl hy
    · rw [eq] at hy ⊢
      exact (Shard.step_session ((aborted _).symm.trans hy)).imp id
        (Exists.imp fun d => And.imp_left (List.mem_append_left _))
  have hc := step_course now v r
  generalize r.step now v = t at hc hy ⊢
  cases hc with
  | rests eased | postpones _ eased | prepares _ eased | sends _ eased =>
    exact .inl ((congrArg Shard.session eased.shard).symm.trans hy)
  | makes deals eased hand => exact clocked eased hy
  | parts deals waited eased hand =>
    refine (clocked eased hy).imp id (Exists.imp fun d => And.imp_left fun hd => ?_)
    rw [← List.takeWhile_append_dropWhile (p := isShown) (l := (perform now _ _).acts)] at hd
    rcases List.mem_append.1 hd with shown | rest
    · cases List.all_eq_true.1 List.all_takeWhile _ shown
    · exact rest
  | begins deals eased =>
    rw [← eased.shard]
    exact (Shard.step_session hy).imp id
      (Exists.imp fun d => And.imp_left fun hd => List.mem_filter.2 ⟨hd, rfl⟩)
  | holds =>
    refine (Shard.step_session hy).imp id (Exists.imp fun d => And.imp_left fun hd => ?_)
    refine absurd hd (Journal.undelivered ?_ d)
    unfold Shard.eventOf?
    split
    · next hx => cases hx
    · rfl
  | @writes q m waited eased =>
    refine .inl ?_
    split at hy
    · rw [Turn.next, perform_shard, eased.shard, Shard.stepClocked_abort] at hy
      exact (aborted _).symm.trans hy
    · exact (congrArg Shard.session eased.shard).symm.trans hy

namespace Entry

theorem mem_frames {e : Entry} {a : Act} : a ∈ e.frames ↔ a ∈ e.acts ∧ a.isFrame = true := List.mem_filter

theorem write_mem_frames {e : Entry} {m : Message} (hm : m ∈ e.writes) : .write m ∈ e.frames := by
  obtain ⟨a, ha, eq⟩ := List.mem_filterMap.1 hm
  cases a <;> cases eq
  exact mem_frames.2 ⟨ha, rfl⟩

/-- whether it hands on the READY of a session -/
def Announces (e : Entry) (y : Session) : Prop := ∃ d, .deliver d ∈ e.acts ∧ d.session? = some y

/-- whether it sends a close frame that ends the session -/
def EndsSession (e : Entry) : Prop := ∃ c, .close c ∈ e.acts ∧ c.code = 1000

/-- whether it makes a beat with this number that finds no room -/
def Holds (e : Entry) (seq : Sequence) : Prop :=
  e.cause = .meet .beat ∧ e.before.outbox.hasRoom = false ∧ e.before.shard.sequence = seq

/-- what holds of the frames of a move, and those before it on the connection -/
structure Proper (earlier : List Entry) (e : Entry) : Prop where
  greeted : ∀ m ∈ e.writes, m.op.isHandshake = true → ∃ h ∈ earlier ++ [e], h.hello?.isSome = true
  command : ∀ m ∈ e.writes, m.op = .presenceUpdate ∨ m.op = .requestGuildMembers → e.before.shard.status = .ready
  other : ∀ m ∈ e.writes, m.op.isHandshake = false → m.op ≠ .presenceUpdate → m.op ≠ .requestGuildMembers →
    m = .heartbeat e.before.shard.sequence ∨
      e.cause = .serve ∧ ∃ h ∈ earlier, ∃ seq, h.Holds seq ∧ m = .heartbeat seq
  closure : ∀ c, .close c ∈ e.acts → ∃ x, e.dealt? = some x ∧
    c.code = if e.before.shard.takesStop x || e.before.shard.loses x then 1000 else 4000

/-- what is resumed was announced after every close frame that ended a session -/
def Renewed (earlier : List Entry) (e : Entry) : Prop :=
  ∀ m ∈ e.writes, m.op = .resume → ∀ pre d mid, earlier = pre ++ d :: mid → d.EndsSession →
    ∃ h ∈ mid, ∃ y, h.Announces y ∧ ∃ p, m = .resume p ∧ p.sessionId = y.id

end Entry

end Runner

namespace Logbook

open Runner (Tidy)

/-- what a shard has sent, and what this says of it -/
structure Outgoing (p : ShardProfile) (l : Logbook) : Prop where
  bound : Bound p l
  single : l.journal.Single
  proper : AtEach Runner.Entry.Proper l.connection
  closed : (∃ c, .close c ∈ l.frames) → l.runner.shard.isOnline = false
  last : ∀ pre c post, l.frames = pre ++ .close c :: post → post = []
  session : l.runner.shard.isEnded = false → ∀ pre d mid, l.entries = pre ++ d :: mid → d.EndsSession →
    ∀ y, l.runner.shard.session = some y → ∃ h ∈ mid, h.Announces y
  renewed : AtEach Runner.Entry.Renewed l.entries

variable {p : ShardProfile} {now : Nat} {v : Runner.Move} {l : Logbook}

/-- What waits belongs to a connection. -/
theorem Bound.online_of_beat (h : Bound p l) {seq : Sequence} (waits : .beat seq ∈ l.runner.outbox.waiting) :
    l.runner.shard.isOnline = true := by
  cases online : l.runner.shard.isOnline with
  | true => rfl
  | false =>
    rw [(h.tidy online).2.1] at waits
    cases waits

/-- Where a frame is sent there is a connection. -/
theorem Bound.online_of_frame (h : Bound p l) {a : Act} (ha : a ∈ (l.entry now v).frames) :
    l.runner.shard.isOnline = true := by
  have sends := Runner.step_sends now v l.runner
  have mem : a ∈ (l.runner.step now v).acts.filter Act.isFrame := ha
  generalize l.runner.step now v = t at sends mem
  cases sends with
  | nothing none =>
    rw [none] at mem
    cases mem
  | steps deals frames shard =>
    rw [frames] at mem
    obtain ⟨ha, frame⟩ := List.mem_filter.1 mem
    exact Shard.online_of_frame ha frame
  | serves waited frames =>
    rcases waited with ⟨seq, -, waits⟩ | waits
    · exact h.online_of_beat waits
    · exact h.tidy.online_of_hand (Runner.hand_of_handshake? waits)

/-- What a message that is sent may be. -/
theorem Bound.written (h : Bound p l) {m : Message} (hm : m ∈ (l.entry now v).writes) :
    (∃ x, l.runner.dealt? v = some x ∧
      ((∃ p, m = .resume p ∧ l.runner.shard.resume? = some p ∧ (l.runner.shard.helloOf? x).isSome = true) ∨
        (m = .identify l.runner.shard.identity ∧ x = .granted ∧ ∃ c, l.runner.shard.phase = .online c true) ∨
        m = .heartbeat l.runner.shard.sequence ∨
        m.op.isCommand = true ∧ ∃ c queued, l.runner.shard.phase = .online c queued ∧ c.status.isReady = true)) ∨
      v = .serve ∧ ((∃ seq, m = .heartbeat seq ∧ .beat seq ∈ l.runner.outbox.waiting) ∨
        l.runner.handshake? = some m) := by
  have sends := Runner.step_sends now v l.runner
  have mem : Act.write m ∈ (l.runner.step now v).acts.filter Act.isFrame := Runner.Entry.write_mem_frames hm
  generalize l.runner.step now v = t at sends mem
  cases sends with
  | nothing none =>
    rw [none] at mem
    cases mem
  | @steps _ _ x deals frames shard =>
    rw [frames] at mem
    exact .inl ⟨x, deals, (Shard.step_sends now x h.holdsCommands).written mem⟩
  | serves waited frames =>
    rw [frames] at mem
    cases List.mem_singleton.1 mem
    exact .inr ⟨rfl, waited⟩

/-- A close frame is sent alone, at the end of a connection. -/
theorem Bound.closing (h : Bound p l) {c : Closure} (hc : .close c ∈ (l.entry now v).frames) :
    (l.entry now v).frames = [.close c] ∧ ∃ x e, l.runner.dealt? v = some x ∧
      l.runner.shard.ending? now x = some e ∧ e.closure = some c ∧
      (l.entry now v).after.shard = (l.runner.shard.stepClocked now x).shard := by
  have sends := Runner.step_sends now v l.runner
  show (l.runner.step now v).acts.filter Act.isFrame = [.close c] ∧ _
  have mem : Act.close c ∈ (l.runner.step now v).acts.filter Act.isFrame := hc
  have after : (l.entry now v).after = (l.runner.step now v).runner := rfl
  rw [after]
  generalize l.runner.step now v = t at sends mem
  cases sends with
  | nothing none =>
    rw [none] at mem
    cases mem
  | @steps _ _ x deals frames shard =>
    rw [frames] at mem ⊢
    obtain ⟨alone, e, ending, closes⟩ := (Shard.step_sends now x h.holdsCommands).closing mem
    exact ⟨alone, x, e, deals, ending, closes, shard⟩
  | serves waited frames =>
    rw [frames] at mem
    cases List.mem_singleton.1 mem

theorem entry_proper (h : Bound p l) (now : Nat) (v : Runner.Move) :
    Runner.Entry.Proper (if (l.entry now v).opensLine then [] else l.connection) (l.entry now v) := by
  have closed {m : Message} (hm : m ∈ (l.entry now v).writes) : (l.entry now v).opensLine = false := by
    simp [Runner.Entry.opensLine, entry, h.online_of_frame (Runner.Entry.write_mem_frames hm)]
  constructor
  case greeted =>
    intro m hm hs
    -- a call for a permit, or a handshake that waits, follows on a Hello
    have heard {c : Connection} {queued : Bool} (online : l.runner.shard.phase = .online c queued)
        (due : queued = true ∨ l.journal.handshakes ≠ []) :
        ∃ e ∈ (if (l.entry now v).opensLine then [] else l.connection) ++ [l.entry now v], e.hello?.isSome = true := by
      obtain ⟨i, hi, -⟩ := h.sound.prepared.heard c queued (h.shard ▸ online) due
      obtain ⟨e, he, found⟩ := h.hellos i hi
      exact ⟨e, by simp [closed hm, he], by simp [found]⟩
    rcases h.written hm with ⟨x, deals, ⟨_, -, -, hello⟩ | ⟨-, -, c, online⟩ | rfl | ⟨command, -⟩⟩ |
      ⟨-, ⟨seq, rfl, -⟩ | waits⟩
    · refine ⟨l.entry now v, by simp, ?_⟩
      rw [Runner.Entry.hello?, Runner.Entry.dealt?, entry, deals]
      exact hello
    · exact heard online (.inl rfl)
    · cases hs
    · cases hs.symm.trans (OpCode.not_isHandshake_of_isCommand command)
    · cases hs
    · have there := h.tidy.online_of_hand (Runner.hand_of_handshake? waits)
      obtain ⟨c, queued, online⟩ := Shard.online_of_isOnline there
      refine heard online (.inr ?_)
      rw [h.handshakes there, waits]
      simp
  case command =>
    intro m hm ho
    rcases h.written hm with ⟨x, -, ⟨_, rfl, -⟩ | ⟨rfl, -⟩ | rfl | ⟨-, c, queued, online, ready⟩⟩ |
      ⟨-, ⟨seq, rfl, -⟩ | waits⟩
    · rcases ho with ho | ho <;> cases ho
    · rcases ho with ho | ho <;> cases ho
    · rcases ho with ho | ho <;> cases ho
    · have shown := h.sound.prepared.shown c queued (h.shard ▸ online)
      rw [h.shard] at shown
      exact shown.trans (of_decide_eq_true ready)
    · rcases ho with ho | ho <;> cases ho
    · have handshake := (h.offers m waits).isHandshake
      rcases ho with ho | ho <;> (rw [ho] at handshake; cases handshake)
  case other =>
    intro m hm hs h1 h2
    rcases h.written hm with ⟨x, -, ⟨_, rfl, -⟩ | ⟨rfl, -⟩ | heartbeat | ⟨command, -⟩⟩ |
      ⟨rfl, ⟨seq, rfl, waits⟩ | waits⟩
    · cases hs
    · cases hs
    · exact .inl heartbeat
    · cases ho : m.op <;> simp [ho, OpCode.isCommand] at command h1 h2
    · obtain ⟨e, he, held⟩ := h.beats seq waits
      exact .inr ⟨rfl, e, by simp [closed hm, he], seq, held, rfl⟩
    · cases hs.symm.trans (h.offers m waits).isHandshake
  case closure =>
    intro c hc
    obtain ⟨-, x, e, deals, ending, closes, -⟩ := h.closing (Runner.Entry.mem_frames.2 ⟨hc, rfl⟩)
    exact ⟨x, deals, Shard.ending_code ending closes⟩

/-! ## Sessions and close frames -/

/-- Where a connection is closed there is none left. -/
theorem Bound.closes_offline (h : Bound p l) {c : Closure} (hc : .close c ∈ (l.entry now v).frames) :
    (l.entry now v).after.shard.isOnline = false := by
  obtain ⟨-, x, e, -, ending, -, after⟩ := h.closing hc
  rw [after]
  cases online : (l.runner.shard.stepClocked now x).shard.isOnline with
  | false => rfl
  | true =>
    have whole := Shard.stepClocked_online online
    rw [whole, Shard.isOnline_of_isOffline (Shard.step_concludes ending).offline] at online
    cases online

/-- After a close frame that ends the session there is none. -/
theorem gone_of_endsSession (h : Bound p l) (he : (l.entry now v).EndsSession) :
    (l.entry now v).after.shard.isEnded = true ∨ (l.entry now v).after.shard.session = none := by
  obtain ⟨c, hc, code⟩ := he
  have mem := Runner.Entry.mem_frames.2 ⟨hc, (rfl : (Act.close c).isFrame = true)⟩
  obtain ⟨-, x, e, -, ending, closes, after⟩ := h.closing mem
  rw [after]
  rcases Shard.clocked_cases now x l.runner.shard with ⟨-, eq⟩ | ⟨-, -, -, -, -, -, eq⟩ | ⟨-, -, -, -, eq⟩
  · rw [eq]
    exact Shard.gone_of_ending ending closes code
  · exact .inl (eq ▸ Shard.abort_ends l.runner.shard)
  · exact .inl (eq ▸ Shard.abort_ends _)

/-- What is resumed is the session that the shard has. -/
theorem Bound.resumed (h : Bound p l) {m : Message} (hm : m ∈ (l.entry now v).writes) (ho : m.op = .resume) :
    ∃ q y, m = .resume q ∧ l.runner.shard.session = some y ∧ q.sessionId = y.id := by
  have owned {q : Resume} (session : l.runner.shard.resume? = some q) :
      ∃ y, l.runner.shard.session = some y ∧ q.sessionId = y.id := by
    unfold Shard.resume? at session
    split at session
    · next y seq hy hseq =>
      cases session
      exact ⟨y, hy, rfl⟩
    · cases session
  rcases h.written hm with ⟨x, -, ⟨q, rfl, session, -⟩ | ⟨rfl, -⟩ | rfl | ⟨command, -⟩⟩ | ⟨-, ⟨seq, rfl, -⟩ | waits⟩
  · obtain ⟨y, hy, same⟩ := owned session
    exact ⟨q, y, rfl, hy, same⟩
  · cases ho
  · cases ho
  · simp [ho, OpCode.isCommand] at command
  · cases ho
  · rcases h.offers m waits with other | ⟨q, rfl, session⟩
    · cases ho.symm.trans other
    · obtain ⟨y, hy, same⟩ := owned session
      exact ⟨q, y, rfl, hy, same⟩

theorem step_renews (h : Outgoing p l) : Runner.Entry.Renewed l.entries (l.entry now v) := by
  intro m hm ho pre d mid eq he
  obtain ⟨q, y, rfl, hy, same⟩ := h.bound.resumed hm ho
  have online := h.bound.online_of_frame (Runner.Entry.write_mem_frames hm)
  have running : l.runner.shard.isEnded = false := by
    cases ended : l.runner.shard.isEnded with
    | false => rfl
    | true => cases (Shard.isOnline_of_isEnded ended).symm.trans online
  obtain ⟨e, hmid, announced⟩ := h.session running pre d mid eq he y hy
  exact ⟨e, hmid, y, announced, q, rfl, same⟩

/-! ## Runs -/

theorem step_frames (hv : v.isAllowed = true) (now : Nat) (l : Logbook) :
    (l.step now v).frames = (if (l.entry now v).opensLine then [] else l.frames) ++ (l.entry now v).frames := by
  rw [frames, step_connection hv, List.flatMap_append, List.flatMap_singleton]
  split <;> rfl

/-- Close frames stay last if what is added is either free of them, or one of them. -/
theorem closes_last {old new : List Act} (ho : ∀ c, .close c ∉ old)
    (hn : ∀ c, .close c ∈ new → new = [.close c]) (pre : List Act) (c : Closure) (post : List Act)
    (eq : old ++ new = pre ++ .close c :: post) : post = [] := by
  have alone (pre' : List Act) (h : new = pre' ++ .close c :: post) : post = [] := by
    have one := hn c (by rw [h]; exact List.mem_append_right _ List.mem_cons_self)
    have length := congrArg List.length (one.symm.trans h)
    simp only [List.length_nil, List.length_append, List.length_cons] at length
    exact List.length_eq_zero_iff.1 (by omega)
  rcases List.append_eq_append_iff.1 eq with ⟨rest, -, h⟩ | ⟨rest, h, h'⟩
  · exact alone rest h
  · cases rest with
    | nil => exact alone [] h'.symm
    | cons a rest =>
      cases h'
      exact absurd (by rw [h]; exact List.mem_append_right _ List.mem_cons_self) (ho c)

theorem outgoing_blank (p : ShardProfile) (address : ShardAddress) (now : Nat) : Outgoing p (blank p address now) where
  bound := bound_blank p address now
  single := Journal.single_blank p address now
  proper := Shard.atEach_nil _
  closed := nofun
  last := by
    intro pre c post eq
    simp [frames, connection, blank] at eq
  session := by
    intro _ pre d mid eq
    simp [blank] at eq
  renewed := Shard.atEach_nil _

theorem step_outgoing (now : Nat) (v : Runner.Move) (h : Outgoing p l) : Outgoing p (l.step now v) := by
  cases hv : v.isAllowed with
  | false => rwa [step_refused hv]
  | true =>
    have after : (l.step now v).runner = (l.entry now v).after := by rw [step_allowed hv]; rfl
    refine ⟨step_bound now v h.bound, ?_, ?_, ?_, ?_, ?_, ?_⟩
    case refine_1 =>
      rw [step_allowed hv]
      exact (Journal.steps_keep (P := fun j => j.Sound p ∧ j.Single)
        (fun x j hj => ⟨hj.1.steps now [x], Journal.step_single now x hj.1.faithful hj.2⟩) _
        ⟨h.bound.sound, h.single⟩).2
    case refine_2 =>
      have proper := entry_proper h.bound now v
      rw [step_connection hv]
      split at proper
      · next ho =>
        rw [if_pos ho]
        exact .one proper
      · next ho =>
        rw [if_neg ho]
        exact h.proper.snoc proper
    case refine_3 =>
      rintro ⟨c, hc⟩
      rw [step_frames hv] at hc
      rw [after]
      rcases List.mem_append.1 hc with hc | hc
      · -- it was closed before, and a connection that opens has no frames yet
        split at hc
        · cases hc
        · next ho =>
          have away := h.closed ⟨c, hc⟩
          simpa [Runner.Entry.opensLine, entry, away] using ho
      · exact h.bound.closes_offline hc
    case refine_4 =>
      rw [step_frames hv]
      by_cases hc : ∃ c, .close c ∈ if (l.entry now v).opensLine then [] else l.frames
      · -- it was closed before, so nothing is sent
        split at hc
        · obtain ⟨c, hc⟩ := hc
          cases hc
        · next ho =>
          have silent : (l.entry now v).frames = [] := List.eq_nil_iff_forall_not_mem.2 fun a ha => by
            cases (h.closed hc).symm.trans (h.bound.online_of_frame ha)
          rw [if_neg ho, silent, List.append_nil]
          exact h.last
      · exact closes_last (fun c h => hc ⟨c, h⟩) fun c hc => (h.bound.closing hc).1
    case refine_5 =>
      rw [after, step_allowed hv]
      intro running pre d mid eq he y hy
      rcases Shard.snoc_split eq with ⟨rfl, rfl, rfl⟩ | ⟨rest, rfl, eq'⟩
      · rcases gone_of_endsSession h.bound he with gone | gone
        · cases running.symm.trans gone
        · cases gone.symm.trans hy
      · have before : l.runner.shard.isEnded = false := by
          cases ended : l.runner.shard.isEnded with
          | false => rfl
          | true =>
            have finished := Runner.step_ended now v h.bound.tidy ended
            cases running.symm.trans finished.1
        rcases Runner.step_session hy with hy | announced
        · obtain ⟨h', hh, announced⟩ := h.session before pre d rest eq' he y hy
          exact ⟨h', List.mem_append_left _ hh, announced⟩
        · exact ⟨_, List.mem_append_right _ (List.mem_singleton_self _), announced⟩
    case refine_6 =>
      rw [step_allowed hv]
      exact h.renewed.snoc (step_renews h)

theorem run_outgoing (p : ShardProfile) (address : ShardAddress) (start : Nat) (moves : List (Nat × Runner.Move)) :
    Outgoing p ((opening p address start).run moves) :=
  run_keeps (P := Outgoing p) (fun now v _ h => step_outgoing now v h) moves
    (step_outgoing start _ (outgoing_blank p address start))

/-- However a shard is driven through its manager, and however slowly its frames are taken, at most one Identify or
Resume goes out on its last connection; whatever goes out is what the protocol allows at that moment, but for the number
of a heartbeat that waited; a close frame is the last frame; and a session that is resumed was announced after the last
close frame that ended one. -/
theorem outbound_protocol (p : ShardProfile) (address : ShardAddress) (start : Nat) (moves : List (Nat × Runner.Move)) :
    let l := (opening p address start).run moves
    l.handshakes.length ≤ 1 ∧ AtEach Runner.Entry.Proper l.connection ∧
      (∀ pre c post, l.frames = pre ++ .close c :: post → post = []) ∧ AtEach Runner.Entry.Renewed l.entries := by
  intro l
  have h : Outgoing p l := run_outgoing p address start moves
  exact ⟨Nat.le_trans h.bound.sent.length_le h.single.handshakes, h.proper, h.last, h.renewed⟩

/-- the outbox of a shard that is ready fills up, its heartbeat waits for room, and an event comes in -/
def overtaken : List (Nat × Runner.Move) :=
  Journal.conversation.map (fun e => (e.1, .meet e.2)) ++ List.replicate 127 (0, .meet (.text requestText 0)) ++
    [(0, .meet .beat), (0, .meet (.text messageText 0))]

/-- A heartbeat that waited goes out with the number of an event that is not the last one any more. -/
theorem stale_beat :
    let l := (opening (.usual "t") .only 0).run overtaken
    ¬ ∀ e ∈ (l.step 0 .serve).connection, ∀ m ∈ e.writes, m.op = .heartbeat →
      m = .heartbeat e.before.shard.sequence := by
  intro l fresh
  have waits : l.runner.outbox = ⟨128, [.beat (some 1)]⟩ := by decide +kernel
  have last : l.runner.shard.sequence = some 2 := by decide +kernel
  clear_value l
  have sent : .heartbeat (some 1) ∈ (l.entry 0 .serve).writes := by
    simp [Runner.Entry.writes, entry_acts, Runner.step, Runner.serve, waits, Act.message?]
  have same := fresh _ (entry_mem rfl) _ sent rfl
  rw [show (l.entry 0 .serve).before = l.runner from rfl, last] at same
  cases same

/-- a shard comes up, sends a command and a heartbeat, and is stopped -/
def visit : List (Nat × Runner.Move) :=
  Journal.conversation.map (fun e => (e.1, .meet e.2)) ++
    [(1, .meet (.submit 0 (.requestGuildMembers .null))), (1, .meet .take), (2, .meet .beat), (3, .meet .stop),
      (3, .meet .take)]

example :
    let l := (opening (.usual "t") .only 0).run visit
    (l.frames.filterMap Act.message?).map (·.op) = [.identify, .requestGuildMembers, .heartbeat] ∧
      l.frames.filterMap Act.closure? = [.normal] := by decide +kernel

end Logbook

end Shardwire
