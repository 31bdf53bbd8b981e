import Shardwire.Proofs.Shard.Identify

/-
Whether a shard resumes or identifies.

A shard decides twice, when it asks for a connection and when Hello comes, and from three fields of its own. `Faithful`
ties these fields to the journal: the session is the one that should be resumed, its sequence number is that of the
last event handed on, and a connection that still waits for Hello was asked for at the session's address.
-/

namespace Shardwire

theorem OpCode.not_isHandshake_of_isCommand {op : OpCode} (h : op.isCommand = true) : op.isHandshake = false := by
  cases op <;> first | rfl | simp [OpCode.isCommand] at h

theorem Sequence.advance?_eq {q seq : Sequence} {n : UInt64} (h : q.advance? n = some seq) : seq = some n := by
  unfold Sequence.advance? at h
  split at h
  · exact (Option.some.inj h).symm
  · split at h
    · exact (Option.some.inj h).symm
    · cases h

namespace Dispatch

theorem session?_of_ready {d : Dispatch} {r : Ready} (hk : d.kind? = some .ready)
    (hr : Json.decodeValue Ready.decoder d.data = .ok r) : d.session? = some (Session.ofReady r) := by
  simp [session?, hk, hr, Except.toOption]

theorem session?_of_resumed {d : Dispatch} (hk : d.kind? = some .resumed) : d.session? = none := by
  simp [session?, hk]

theorem session?_of_not_finishes {d : Dispatch} (h : Shard.finishes d = false) : d.session? = none := by
  unfold Shard.finishes at h
  unfold session?
  split at h
  · next hk => simpa [hk] using h
  · cases h
  · next hk _ =>
    split
    · next hk' => exact absurd hk' hk
    · rfl

end Dispatch

/-- where the next connection should go: to the session that is held, or to the address for new ones -/
def ShardProfile.route (p : ShardProfile) (held : Option Session) : String :=
  endpoint ((held.map fun x => x.urlOr p.gatewayUrl).getD p.gatewayUrl)

namespace Shard

theorem opensLine_eq_false (s : Shard) {x : Stimulus} (h : x ≠ .opened) : s.opensLine x = false := by
  unfold opensLine
  split
  · exact absurd rfl h
  · rfl

@[simp] theorem opensLine_text (s : Shard) (text : String) (draw : Nat) : s.opensLine (.text text draw) = false :=
  s.opensLine_eq_false nofun

/-- A session is given up for a reason that ends the claim to it, or there is none to lose. -/
theorem surrenders_cases {now : Nat} {s : Shard} {x : Stimulus} (h : s.surrenders now x = true) :
    s.relinquishes x = true ∨ s.session = none ∨ ∃ deadline, s.phase = .dialling false deadline := by
  unfold surrenders at h
  split at h
  · next hp => left; simpa [relinquishes, hp] using h
  · next hp => left; simpa [relinquishes, hp] using h
  · next hp =>
    split at h
    · next resumable hd =>
      cases resumable with
      | true => right; left; simpa using h
      | false => left; simp [relinquishes, hp, hd]
    · cases h
  · next resume deadline hp => exact .inr (.inr ⟨deadline, by simpa [hp] using h⟩)
  · next resume deadline hp =>
    simp only [Bool.and_eq_true, Bool.not_eq_true'] at h
    exact .inr (.inr ⟨deadline, by simpa [hp] using h.1⟩)
  · cases h

theorem surrenders_text {s : Shard} {c : Connection} {queued : Bool} {text : String} {e : Event}
    (hp : s.phase = .online c queued) (hd : Event.decode text = .ok e) (he : ∀ resumable, e ≠ .invalidSession resumable)
    (now draw : Nat) : s.surrenders now (.text text draw) = false := by
  cases e with
  | invalidSession resumable => exact absurd rfl (he resumable)
  | _ => simp [surrenders, hp, hd]

theorem surrenders_of_relinquishes {s : Shard} {x : Stimulus} (h : s.relinquishes x = true) (now : Nat) :
    s.surrenders now x = true := by
  unfold relinquishes at h
  split at h
  · next hp => simpa [surrenders, hp] using h
  · next hp => simpa [surrenders, hp] using h
  · next hp =>
    split at h
    · next resumable hd =>
      have : resumable = false := by simpa using h
      simp [surrenders, hp, hd, this]
    · cases h
  · cases h

end Shard

open Shard (Stimulus Act)

namespace Journal

/-! ## What a shard knows of its session -/

structure Faithful (p : ShardProfile) (j : Journal) : Prop where
  profile : j.shard.profile = p
  mailbox : ∀ ticket m, .send ticket m ∈ j.shard.mailbox → m.op.isCommand = true
  session : j.shard.session = j.held
  sequence : ∀ n, j.shard.sequence = some n → j.lastSeq? = some n
  resumable : j.held.isSome = true → j.shard.resumable = true ∧ j.shard.sequence.isSome = true
  dialling : ∀ resume deadline, j.shard.phase = .dialling resume deadline →
    resume = j.held.isSome ∧ j.dialled = some (p.route j.held)
  awaiting : ∀ c queued, j.shard.phase = .online c queued → c.status = .awaitingHello →
    queued = false ∧ c.resuming = j.held.isSome ∧ j.dialled = some (p.route j.held) ∧ j.handshakes = []

variable {p : ShardProfile} {now : Nat} {x : Stimulus} {j : Journal}

theorem Faithful.resume? (h : Faithful p j) {y : Session} (hy : j.held = some y) :
    ∃ n, j.lastSeq? = some n ∧ j.shard.resume? = some ⟨p.token, y.id, n⟩ := by
  obtain ⟨n, hn⟩ := Option.isSome_iff_exists.1 (h.resumable (by simp [hy])).2
  refine ⟨n, h.sequence n hn, ?_⟩
  rw [Shard.resume?, h.session, hy, hn, h.profile]

theorem Faithful.resume?_eq_none (h : Faithful p j) (hy : j.held = none) : j.shard.resume? = none := by
  rw [Shard.resume?, h.session, hy]

/-- While every event was handed on under the session that is held, the shard counts on from the last of them. -/
theorem Faithful.sequence_eq (h : Faithful p j) (hd : j.held.isSome = true ↔ j.delivered ≠ []) :
    j.shard.sequence = j.lastSeq? := by
  cases hs : j.shard.sequence with
  | some n => exact (h.sequence n hs).symm
  | none =>
    have empty : j.delivered = [] := by
      by_cases he : j.delivered = []
      · exact he
      · have := (h.resumable (hd.2 he)).2
        simp [hs] at this
    simp [lastSeq?, empty]

theorem Faithful.canResume (h : Faithful p j) : j.shard.canResume = j.held.isSome := by
  cases hy : j.held with
  | none => simp [Shard.canResume, h.resume?_eq_none hy]
  | some y =>
    obtain ⟨n, -, hr⟩ := h.resume? hy
    simp [Shard.canResume, hr, (h.resumable (by simp [hy])).1]

theorem Faithful.url (h : Faithful p j) : j.shard.url j.shard.canResume = p.route j.held := by
  rw [h.canResume, Shard.url, h.session, h.profile]
  cases hy : j.held with
  | none => rfl
  | some y => simp [ShardProfile.route]

/-- Shard and journal give up a session together. -/
theorem Faithful.gone (h : Faithful p j) (now : Nat) (x : Stimulus) :
    (if j.shard.surrenders now x then none else j.shard.session) = if j.shard.relinquishes x then none else j.held := by
  by_cases hr : j.shard.relinquishes x = true
  · simp [hr, Shard.surrenders_of_relinquishes hr now]
  · by_cases hs : j.shard.surrenders now x = true
    · have hn : j.held = none := by
        rcases Shard.surrenders_cases hs with h' | h' | ⟨deadline, h'⟩
        · exact absurd h' hr
        · exact h.session ▸ h'
        · simpa using (h.dialling _ _ h').1
      simp [hr, h.session, hn]
    · simp [hr, hs, h.session]

/-! ## Steps -/

theorem faithful_opening (p : ShardProfile) (address : ShardAddress) (now : Nat) :
    Faithful p (opening p address now) := by
  rw [opening_eq]
  constructor
  case dialling =>
    intro resume deadline h
    cases h
    exact ⟨rfl, rfl⟩
  all_goals simp [Shard.fresh]

/-- What the end of a connection leaves behind. -/
theorem Faithful.ended (h : Faithful p j) {t : Shard.Turn}
    (ht : Shard.Parted j.shard (!j.shard.surrenders now x) t) :
    Faithful p (j.enter x t.shard) := by
  have session : t.shard.session = (j.enter x t.shard).held := by
    rw [ht.session, enter, ← h.gone now x]
    cases j.shard.surrenders now x <;> rfl
  refine ⟨ht.profile.trans h.profile, fun ticket m hm => h.mailbox ticket m (ht.mailbox _ hm), session, ?_, ?_, ?_, ?_⟩
  · intro n hn
    rw [enter_shard, ht.sequence] at hn
    split at hn
    · exact h.sequence n hn
    · cases hn
  · intro hs
    rw [← session, ht.session] at hs
    rw [enter_shard]
    cases hk : j.shard.surrenders now x with
    | true => simp [hk] at hs
    | false =>
      have held : j.held.isSome = true := by simpa [hk, h.session] using hs
      refine ⟨ht.resumable (by simp [hk]) (h.resumable held).1, ?_⟩
      simpa [ht.sequence, hk] using (h.resumable held).2
  · exact fun resume deadline hp => absurd hp (ht.ne_dialling resume deadline)
  · exact fun c queued hp => absurd hp (ht.ne_online c queued)

theorem held_of_kept (h : j.shard.surrenders now x = false) :
    (if j.shard.relinquishes x then none else j.held) = j.held := by
  cases hr : j.shard.relinquishes x with
  | true => rw [Shard.surrenders_of_relinquishes hr now] at h; cases h
  | false => rfl

/-- What a connection is tended with belongs to no handshake. -/
theorem Faithful.quiet (h : Faithful p j) {c : Connection} {a : Act}
    (ha : a.isAnswer = true ∨ a = .write (.heartbeat j.shard.sequence) ∨
      ∃ ticket m, a = .write m ∧ .send ticket m ∈ j.shard.mailbox ∧ c.status.isReady = true ∧ x = .take) :
    a.isAnswer = true ∨ ∃ m, a = .write m ∧ m.op.isHandshake = false := by
  rcases ha with ha | rfl | ⟨ticket, m, rfl, hm, -⟩
  · exact .inl ha
  · exact .inr ⟨_, rfl, rfl⟩
  · exact .inr ⟨m, rfl, OpCode.not_isHandshake_of_isCommand (h.mailbox ticket m hm)⟩

/-- Session and sequence number stay what they are. -/
theorem Faithful.onward (h : Faithful p j) {j' : Journal}
    (shard : j'.shard = { j.shard with
      mailbox := j'.shard.mailbox, attended := j'.shard.attended, status := j'.shard.status, phase := j'.shard.phase })
    (mailbox : ∀ ticket m, .send ticket m ∈ j'.shard.mailbox → m.op.isCommand = true)
    (held : j'.held = j.held) (delivered : j'.delivered = j.delivered)
    (dialling : ∀ resume deadline, j'.shard.phase = .dialling resume deadline →
      resume = j.held.isSome ∧ j'.dialled = some (p.route j.held))
    (awaiting : ∀ c queued, j'.shard.phase = .online c queued → c.status = .awaitingHello →
      queued = false ∧ c.resuming = j.held.isSome ∧ j'.dialled = some (p.route j.held) ∧ j'.handshakes = []) :
    Faithful p j' := by
  constructor
  case profile => rw [shard]; exact h.profile
  case mailbox => exact mailbox
  case session => rw [shard, held]; exact h.session
  case sequence =>
    intro n hn
    rw [shard] at hn
    rw [lastSeq?, delivered]
    exact h.sequence n hn
  case resumable => rw [shard, held]; exact h.resumable
  case dialling => rw [held]; exact dialling
  case awaiting => rw [held]; exact awaiting

/-- A step that only tends the connection, or not even that. -/
theorem Faithful.tended (h : Faithful p j) {s : Shard} {ms : List Message}
    (hs : s = { j.shard with
      mailbox := s.mailbox, attended := s.attended, status := s.status, phase := s.phase })
    (hm : ∀ ticket m, .send ticket m ∈ s.mailbox → m.op.isCommand = true)
    (hd : ∀ resume deadline, s.phase = .dialling resume deadline → j.shard.phase = .dialling resume deadline)
    (ho : ∀ c' queued, s.phase = .online c' queued → ∃ c, j.shard.phase = .online c queued ∧ Shard.Abreast c c')
    (hw : ∀ m ∈ ms, m.op.isHandshake = false) (hk : j.shard.surrenders now x = false) :
    Faithful p { j.enter x s with wire := (j.enter x s).wire ++ ms } := by
  refine h.onward hs hm (held_of_kept hk) rfl (fun resume deadline hp => ?_) fun c' queued hp ha => ?_
  · exact h.dialling resume deadline (hd resume deadline hp)
  · obtain ⟨c, hc, e⟩ := ho c' queued hp
    obtain ⟨h1, h2, h3, h4⟩ := h.awaiting c queued hc (e.status ▸ ha)
    have hf : j.shard.opensLine x = false := by simp [Shard.opensLine, hc]
    exact ⟨h1, e.resuming ▸ h2, h3, by rw [handshakes_tending hw, enter_handshakes hf, h4]⟩

/-- An event is handed on. -/
theorem Faithful.handed (h : Faithful p j) {s : Shard} {d : Dispatch} (hk : j.shard.surrenders now x = false)
    (profile : s.profile = j.shard.profile) (mailbox : s.mailbox = j.shard.mailbox)
    (session : s.session = d.session?.or j.shard.session) (sequence : s.sequence = some d.seq)
    (resumable : d.session? = none → s.resumable = j.shard.resumable) (fresh : d.session?.isSome → s.resumable = true)
    (online : ∃ c queued, s.phase = .online c queued ∧
      (c.status = .awaitingHello → d.session? = none ∧ j.shard.phase = .online c queued)) :
    Faithful p ((j.enter x s).note (.deliver d)) := by
  have held : (if j.shard.relinquishes x then none else j.held) = j.held := held_of_kept hk
  obtain ⟨c, queued, hp, ha⟩ := online
  constructor
  case profile => exact profile.trans h.profile
  case mailbox => exact fun ticket m hm => h.mailbox ticket m (mailbox ▸ hm)
  case session => simp only [note, enter, held, session, h.session]
  case sequence =>
    intro n hn
    rw [note_shard, enter_shard, sequence] at hn
    simpa [lastSeq?, note] using hn
  case resumable =>
    intro hs
    simp only [note, enter, held, sequence] at hs ⊢
    cases hd : d.session? with
    | none => exact ⟨(resumable hd).trans (h.resumable (by simpa [hd] using hs)).1, rfl⟩
    | some y => exact ⟨fresh (by simp [hd]), rfl⟩
  case dialling => exact fun resume deadline hp' => by cases hp.symm.trans hp'
  case awaiting =>
    intro c' queued' hp' hw
    cases hp.symm.trans hp'
    obtain ⟨hd, hc⟩ := ha hw
    obtain ⟨h1, h2, h3, h4⟩ := h.awaiting c queued hc hw
    have hf : j.shard.opensLine x = false := by simp [Shard.opensLine, hc]
    have held' : ((j.enter x s).note (.deliver d)).held = j.held := by simp [note, enter, held, hd]
    rw [held']
    exact ⟨h1, h2, h3, by simpa [handshakes, note, enter, hf] using h4⟩

theorem step_faithful (now : Nat) (x : Stimulus) {j : Journal} (h : Faithful p j) : Faithful p (j.step now x) := by
  cases hx : x.isAllowed with
  | false => rwa [step_refused hx]
  | true =>
    rw [step_eq hx]
    have ho := Shard.step_outcome now x j.shard
    have hm := Shard.step_holdsCommands hx now h.mailbox
    generalize j.shard.step now x = t at ho hm ⊢
    cases ho with
    | idles shard mailbox acts kept =>
      rw [notes_answers acts, ← (j.enter x t.shard).wire_append_nil]
      refine h.tended (by rw [shard]) hm ?_ ?_ (by simp) kept
      · exact fun _ _ hp => by rw [shard] at hp; exact hp
      · exact fun c queued hp => ⟨c, by rw [shard] at hp; exact hp, ⟨rfl, rfl, rfl, rfl⟩⟩
    | tends c' online abreast shard mailbox acts kept =>
      obtain ⟨ms, hms, eq⟩ := notes_tending (fun a ha => h.quiet (acts a ha)) (j.enter x t.shard)
      rw [eq]
      refine h.tended (by rw [shard]) hm ?_ ?_
        (fun m hm => (hms m hm).2) kept
      · intro resume deadline hp
        rw [shard] at hp
        cases hp
      · intro c queued hp
        rw [shard] at hp
        cases hp
        exact ⟨_, online, abreast⟩
    | dials waiting =>
      have kept : j.shard.surrenders now .timeout = false := by simp [Shard.surrenders, waiting]
      rw [Shard.dial_eq, notes_announce]
      refine h.onward rfl h.mailbox (held_of_kept kept) rfl ?_ fun _ _ hp => by cases hp
      intro resume deadline hp
      cases hp
      exact ⟨h.canResume, congrArg some h.url⟩
    | opens dialling =>
      have kept : j.shard.surrenders now .opened = false := by simp [Shard.surrenders, dialling]
      rw [notes_parting fun a ha => Shard.isParting_of_announce ha]
      refine h.onward rfl h.mailbox (held_of_kept kept) rfl (fun _ _ hp => by cases hp) ?_
      intro c queued hp _
      cases hp
      have hd := h.dialling _ _ dialling
      exact ⟨rfl, hd.1, hd.2, by simp [handshakes, enter, Shard.opensLine, dialling]⟩
    | resumes online awaiting hello resuming session writable =>
      have kept := Shard.surrenders_text online hello (by simp)
      rw [notes_announce]
      refine h.onward rfl h.mailbox (held_of_kept (kept now _)) rfl (fun _ _ hp => by cases hp) ?_
      intro c queued hp ha
      cases hp
      cases ha
    | queues online awaiting hello session =>
      have kept := Shard.surrenders_text online hello (by simp)
      rw [notes_announce]
      refine h.onward rfl h.mailbox (held_of_kept (kept now _)) rfl (fun _ _ hp => by cases hp) ?_
      intro c queued hp ha
      cases hp
      cases ha
    | identifies online writable =>
      have held : (if j.shard.relinquishes .granted then none else j.held) = none := by
        simp [Shard.relinquishes, online]
      constructor
      case profile => exact h.profile
      case mailbox => exact h.mailbox
      case session => exact held.symm
      case sequence => exact fun _ hn => by cases hn
      case resumable => exact fun hs => by cases (congrArg Option.isSome held).symm.trans hs
      case dialling => exact fun _ _ hp => by cases hp
      case awaiting =>
        intro c queued hp ha
        cases hp
        cases (h.awaiting _ _ online ha).1
    | passes online event newer other =>
      have hn := Dispatch.session?_of_not_finishes other
      refine h.handed (Shard.surrenders_text online event (by simp) now _) rfl rfl (by rw [hn]; rfl)
        (Sequence.advance?_eq newer) (fun _ => rfl) (by simp [hn]) ⟨_, _, online, fun _ => ⟨hn, online⟩⟩
    | readies online event newer kind payload =>
      have hs := Dispatch.session?_of_ready kind payload
      rw [notes_announce]
      refine h.handed (Shard.surrenders_text online event (by simp) now _) rfl rfl (by rw [hs]; rfl)
        (Sequence.advance?_eq newer) (by simp [hs]) (fun _ => rfl) ⟨_, _, rfl, fun hc => by cases hc⟩
    | revives online event newer kind =>
      have hn := Dispatch.session?_of_resumed kind
      rw [notes_announce]
      refine h.handed (Shard.surrenders_text online event (by simp) now _) rfl rfl (by rw [hn]; rfl)
        (Sequence.advance?_eq newer) (fun _ => rfl) (by simp [hn]) ⟨_, _, rfl, fun hc => by cases hc⟩
    | ends he =>
      rw [notes_parting he.acts]
      exact h.ended he.toParted

theorem run_faithful (p : ShardProfile) (address : ShardAddress) (start : Nat) (xs : List (Nat × Stimulus)) :
    Faithful p ((opening p address start).run xs) :=
  run_keeps (fun now x _ => step_faithful now x) xs (faithful_opening p address start)

/-! ## After Hello -/

/-- Hello was answered, with `first` if that is a message; only while `calling` may an identify permit follow -/
structure Greeted (calling : Bool) (first : List Message) (j : Journal) : Prop where
  answered : ∀ c queued, j.shard.phase = .online c queued → c.status ≠ .awaitingHello ∧ (queued = true → calling = true)
  handshakes : ∃ ms, j.handshakes = first ++ ms ∧ (∀ m ∈ ms, m.op = .identify) ∧ (calling = false → ms = [])

theorem Greeted.onward {calling : Bool} {first : List Message} (h : Greeted calling first j) {j' : Journal}
    (online : ∀ c' queued, j'.shard.phase = .online c' queued →
      ∃ c, j.shard.phase = .online c queued ∧ (c'.status = .awaitingHello → c.status = .awaitingHello))
    (same : j'.handshakes = j.handshakes) : Greeted calling first j' := by
  refine ⟨fun c' queued hp => ?_, same ▸ h.handshakes⟩
  obtain ⟨c, hc, hs⟩ := online c' queued hp
  exact ⟨fun hw => (h.answered c queued hc).1 (hs hw), (h.answered c queued hc).2⟩

section Hello

variable {c : Connection} {queued : Bool} {text : String} {hello : Hello}

end Hello

end Journal

end Shardwire
