import Mathlib.Data.List.Forall2
import Shardwire.Shard.Step

/-
Two shards that differ in their token, and nothing else.

Whatever happens to both of them at the same times, they do the same, and go on differing in their token only. The one
thing that tells them apart are the messages they identify and resume with, and of those the token alone: it is read
nowhere else, not on the way to an address, a status, an event or a report.
- `Act.Twin`, `Turn.Twin`: what two such shards may do differently;
- `Blind`: a part of a step that keeps to it. One lemma for each part, in the order of `Shard.Step`; `Blind.next` puts
  them together;
- `step_blind`, `Diary.run_twin`: so does every step, and every run.
-/

namespace Shardwire

/-- a profile with another token -/
def ShardProfile.withToken (p : ShardProfile) (token : String) : ShardProfile := { p with token := token }

namespace Shard

/-- a shard with another token -/
def withToken (s : Shard) (token : String) : Shard := { s with profile := s.profile.withToken token }

/-! ## What a token does not change -/

section WithToken

variable (s : Shard) (token : String)

@[simp] theorem withToken_sequence : (s.withToken token).sequence = s.sequence := rfl

@[simp] theorem withToken_backoff : (s.withToken token).backoff = s.backoff := rfl

@[simp] theorem withToken_mailbox : (s.withToken token).mailbox = s.mailbox := rfl

@[simp] theorem withToken_attended : (s.withToken token).attended = s.attended := rfl

@[simp] theorem withToken_phase : (s.withToken token).phase = s.phase := rfl

@[simp] theorem withToken_id : (s.withToken token).id = s.id := rfl

@[simp] theorem withToken_isEnded : (s.withToken token).isEnded = s.isEnded := rfl

@[simp] theorem withToken_timeoutDue? : (s.withToken token).timeoutDue? = s.timeoutDue? := rfl

@[simp] theorem withToken_url (resume : Bool) : (s.withToken token).url resume = s.url resume := rfl

theorem withToken_resume? : (s.withToken token).resume? = s.resume?.map fun p => { p with token := token } := by
  cases hs : s.session <;> cases hq : s.sequence <;> simp [resume?, hs, hq, withToken, ShardProfile.withToken]

/-- Whether a session can be resumed does not depend on the token it would be resumed with. -/
@[simp] theorem withToken_canResume : (s.withToken token).canResume = s.canResume := by
  have kept : (s.withToken token).resumable = s.resumable := rfl
  rw [canResume, canResume, kept, withToken_resume?, Option.isSome_map]

theorem withToken_settleBackoff (now : Nat) :
    (s.withToken token).settleBackoff now = (s.settleBackoff now).withToken token := by
  cases hr : s.readySince <;> simp [settleBackoff, hr, withToken, ShardProfile.withToken]

end WithToken

/-! ## Twins -/

variable {a b : String}

/-- acts of two shards with tokens `a` and `b`: the same, but for the token they identify or resume with -/
inductive Act.Twin (a b : String) : Act → Act → Prop
  | same (x : Act) : Act.Twin a b x x
  | identify (p : Identify) :
    Act.Twin a b (.write (.identify { p with token := a })) (.write (.identify { p with token := b }))
  | resume (p : Resume) :
    Act.Twin a b (.write (.resume { p with token := a })) (.write (.resume { p with token := b }))

/-- turns of two shards that are the same but for their tokens -/
structure Turn.Twin (a b : String) (t u : Turn) : Prop where
  shard : ∃ s : Shard, t.shard = s.withToken a ∧ u.shard = s.withToken b
  acts : List.Forall₂ (Act.Twin a b) t.acts u.acts

/-- what shards do alike, whatever their token -/
def Blind (a b : String) (f : Shard → Turn) : Prop :=
  ∀ s : Shard, Turn.Twin a b (f (s.withToken a)) (f (s.withToken b))

theorem twins_same (acts : List Act) : List.Forall₂ (Act.Twin a b) acts acts := by
  rw [List.forall₂_same]
  intro x _
  exact .same x

/-- Both do the same things. -/
theorem Turn.Twin.same (s : Shard) (acts : List Act) : Turn.Twin a b ⟨s.withToken a, acts⟩ ⟨s.withToken b, acts⟩ :=
  ⟨⟨s, rfl, rfl⟩, twins_same acts⟩

theorem Turn.Twin.next {t u : Turn} {f : Shard → Turn} (h : Turn.Twin a b t u) (blind : Blind a b f) :
    Turn.Twin a b (t.next f) (u.next f) := by
  obtain ⟨⟨s, ht, hu⟩, acts⟩ := h
  have after := blind s
  refine ⟨?shard, ?acts⟩
  case shard =>
    simp only [Turn.next, ht, hu]
    exact after.shard
  case acts =>
    simp only [Turn.next, ht, hu]
    exact List.rel_append acts after.acts

theorem Blind.next {f g : Shard → Turn} (hf : Blind a b f) (hg : Blind a b g) : Blind a b fun s => (f s).next g :=
  fun s => (hf s).next hg

/-- Both decide the same way. -/
theorem Turn.Twin.ite {p : Prop} [Decidable p] {t u t' u' : Turn} (yes : p → Turn.Twin a b t u)
    (no : ¬p → Turn.Twin a b t' u') : Turn.Twin a b (if p then t else t') (if p then u else u') := by
  by_cases h : p
  · rw [if_pos h, if_pos h]
    exact yes h
  · rw [if_neg h, if_neg h]
    exact no h

theorem still_blind : Blind a b Turn.still := fun s => .same s []

theorem act_blind (x : Act) : Blind a b (act x) := fun s => .same s [x]

/-- One more act of each. -/
theorem Turn.Twin.act {t u : Turn} {x y : Act} (h : Turn.Twin a b t u) (alike : Act.Twin a b x y) :
    Turn.Twin a b (t.next (act x)) (u.next (act y)) :=
  ⟨h.shard, List.rel_append h.acts (.cons alike .nil)⟩

/-! ## Parts of a step -/

theorem publish_blind (st : Status) : Blind a b (publish st) := by
  intro s
  apply Turn.Twin.ite
  · intro _
    exact still_blind s
  · intro _
    exact .same { s with status := st } [.publish st]

theorem goOn_blind (c : Connection) (queued : Bool) : Blind a b (goOn c queued) :=
  fun s => .same { s with phase := .online c queued } []

theorem dial_blind (now : Nat) : Blind a b (dial now) := by
  intro s
  simp only [dial, withToken_canResume, withToken_url]
  apply Turn.Twin.next _ (act_blind _)
  exact publish_blind .connecting { s with phase := .dialling s.canResume (now + s.profile.identifyTimeout) }

theorem leave_blind : Blind a b leave :=
  fun s => .same { s with phase := .ended, mailbox := [] } (s.mailbox.filterMap s.refusal)

theorem giveUp_blind (f : Fault) : Blind a b (giveUp f) :=
  ((publish_blind .failed).next (act_blind (.fail f))).next leave_blind

theorem retry_blind (extra now : Nat) : Blind a b (retry extra now) := by
  intro s
  simp only [retry, withToken_backoff, withToken_id]
  cases s.backoff.next? with
  | none => exact giveUp_blind _ s
  | some r => exact still_blind { s with backoff := r.2, phase := .waiting (now + r.1 + extra) }

theorem finish_blind (f : Finish) (now : Nat) : Blind a b (finish f now) := by
  intro s
  simp only [finish, withToken_settleBackoff]
  cases f with
  | stopped => exact (publish_blind .disconnected).next leave_blind (s.settleBackoff now)
  | fatal fault => exact giveUp_blind fault (s.settleBackoff now)
  | again resume extra =>
    apply (publish_blind .disconnected (s.settleBackoff now)).next
    intro s
    cases resume with
    | true => exact retry_blind extra now { s with resumable := true }
    | false => exact retry_blind extra now s.forget

theorem hangUp_blind (queued : Bool) : Blind a b (hangUp queued) := fun s => .same s _

theorem lose_blind (queued : Bool) (now : Nat) : Blind a b (lose queued now) :=
  (hangUp_blind queued).next (finish_blind (.again true 0) now)

theorem closeWith_blind (c : Connection) (queued : Bool) (closure : Closure) :
    Blind a b (closeWith c queued closure) := by
  have closes : Blind a b fun s => ⟨s, if c.writable then [.close closure] else []⟩ := fun s => .same s _
  exact ((publish_blind .closing).next closes).next (hangUp_blind queued)

theorem markReady_blind (c : Connection) (queued : Bool) (now : Nat) : Blind a b (markReady c queued now) :=
  fun s => publish_blind .ready { s with phase := .online (c.markReady now) queued, readySince := some now }

/-- A session is resumed with the token, or a new one queued for without it. -/
theorem greet_blind (c : Connection) (queued : Bool) (interval draw now : Nat) :
    Blind a b (greet c queued interval draw now) := by
  intro s
  simp only [greet]
  apply (publish_blind .identifying s).next
  intro s
  have queues (c : Connection) : Blind a b fun s => (goOn c true s).next (act .enqueue) :=
    (goOn_blind c true).next (act_blind .enqueue)
  by_cases resumes : (c.startHeartbeat interval draw now).resuming
  · simp only [resumes, if_true, withToken_resume?]
    cases s.resume? with
    | none => exact queues _ s
    | some p =>
      apply Turn.Twin.ite
      · intro _
        exact (goOn_blind _ queued s).act (.resume p)
      · intro _
        exact lose_blind queued now s
  · simp only [resumes]
    exact queues _ s

/-- A session is opened with the token. -/
theorem identify_blind (c : Connection) (now : Nat) : Blind a b (identify c now) := by
  intro s
  apply Turn.Twin.ite
  · intro _
    exact (goOn_blind _ false s.forget).act (.identify s.forget.identity)
  · intro _
    exact lose_blind false now s.forget

theorem dispatch_blind (c : Connection) (queued : Bool) (d : Dispatch) (now : Nat) :
    Blind a b (dispatch c queued d now) := by
  intro s
  simp only [dispatch, withToken_sequence]
  cases s.sequence.advance? d.seq with
  | none => exact goOn_blind c queued s
  | some seq =>
    apply Turn.Twin.next _ (act_blind (.deliver d))
    have passes : Turn.Twin a b (goOn c queued { s.withToken a with sequence := seq })
        (goOn c queued { s.withToken b with sequence := seq }) := goOn_blind c queued { s with sequence := seq }
    cases d.kind? with
    | none => exact passes
    | some kind =>
      cases kind <;> try exact passes
      case ready =>
        cases Json.decodeValue Ready.decoder d.data with
        | error _ => exact passes
        | ok p =>
          exact markReady_blind c queued now
            { s with sequence := seq, session := some (Session.ofReady p), resumable := true }
      case resumed => exact markReady_blind { c with resuming := false } queued now { s with sequence := seq }

theorem invalidate_blind (c : Connection) (queued resumable : Bool) (now : Nat) :
    Blind a b (invalidate c queued resumable now) := by
  intro s
  apply Turn.Twin.ite
  · intro _
    exact (closeWith_blind c queued _).next (finish_blind _ now) s
  · intro _
    exact (closeWith_blind c queued _).next (finish_blind _ now) s.forget

theorem receive_blind (c : Connection) (queued : Bool) (e : Event) (draw now : Nat) :
    Blind a b (receive c queued e draw now) := by
  intro s
  cases e with
  | dispatch d => exact dispatch_blind c queued d now s
  | heartbeat seq =>
    apply Turn.Twin.ite
    · intro _
      exact (goOn_blind c queued s).next (act_blind _)
    · intro _
      exact lose_blind queued now s
  | reconnect => exact (closeWith_blind c queued _).next (finish_blind _ now) s
  | invalidSession resumable => exact invalidate_blind c queued resumable now s
  | hello p =>
    apply Turn.Twin.ite
    · intro _
      exact greet_blind c queued _ draw now s
    · intro _
      exact goOn_blind c queued s
  | heartbeatAck => exact goOn_blind _ queued s
  | identify | presenceUpdate | resume | requestGuildMembers => exact goOn_blind c queued s

theorem obey_blind (ticket : Nat) (m : Message) (now : Nat) : Blind a b (obey ticket m now) := by
  intro s
  simp only [obey, withToken_phase, withToken_id]
  have refuses : Turn.Twin a b (act (.answer ticket (some (.shardNotReady s.id))) (s.withToken a))
      (act (.answer ticket (some (.shardNotReady s.id))) (s.withToken b)) := act_blind _ s
  cases s.phase with
  | online c queued =>
    apply Turn.Twin.ite
    · intro _
      apply Turn.Twin.ite
      · intro _
        exact (act_blind (.write m) s).next (act_blind _)
      · intro _
        exact refuses.next (lose_blind queued now)
    · intro _
      exact refuses
  | dialling _ _ | waiting _ | ended => exact refuses

theorem halt_blind (now : Nat) : Blind a b (halt now) := by
  intro s
  simp only [halt, withToken_phase]
  cases s.phase with
  | dialling _ _ => exact finish_blind .stopped now s
  | online c queued => exact (closeWith_blind c queued .normal).next (finish_blind .stopped now) s
  | waiting _ => exact leave_blind s
  | ended => exact still_blind s

theorem take_blind (now : Nat) : Blind a b (take now) := by
  intro s
  simp only [take, withToken_mailbox, withToken_attended]
  cases s.mailbox with
  | nil =>
    apply Turn.Twin.ite
    · intro _
      exact still_blind s
    · intro _
      exact halt_blind now s
  | cons k rest =>
    cases k with
    | send ticket m => exact obey_blind ticket m now { s with mailbox := rest }
    | stop => exact halt_blind now { s with mailbox := rest }

theorem submit_blind (ticket : Nat) (m : Message) : Blind a b (submit ticket m) := by
  intro s
  apply Turn.Twin.ite
  · intro _
    exact still_blind { s with mailbox := s.mailbox ++ [.send ticket m] }
  · intro _
    exact act_blind _ s

theorem expire_blind (now : Nat) : Blind a b (expire now) := by
  intro s
  simp only [expire, withToken_phase, withToken_timeoutDue?]
  cases s.phase with
  | dialling resume deadline =>
    apply Turn.Twin.ite
    · intro _
      exact finish_blind _ now s
    · intro _
      exact still_blind s
  | online c queued =>
    cases s.timeoutDue? with
    | none => exact still_blind s
    | some deadline =>
      apply Turn.Twin.ite
      · intro _
        exact (closeWith_blind c queued _).next (finish_blind _ now) s
      · intro _
        exact still_blind s
  | waiting deadline =>
    apply Turn.Twin.ite
    · intro _
      exact dial_blind now s
    · intro _
      exact still_blind s
  | ended => exact still_blind s

theorem abort_blind : Blind a b abort := by
  intro s
  simp only [abort, withToken_phase]
  cases s.phase with
  | online _ queued => exact (hangUp_blind queued).next leave_blind s
  | ended => exact still_blind s
  | dialling _ _ | waiting _ => exact leave_blind s

theorem stepOnline_blind (c : Connection) (queued : Bool) (now : Nat) (x : Stimulus) :
    Blind a b (stepOnline c queued now x) := by
  intro s
  cases x with
  | text text draw =>
    simp only [stepOnline]
    cases Event.decode text with
    | ok e => exact receive_blind c queued e draw now s
    | error _ => exact still_blind s
  | closed closure => exact (hangUp_blind queued).next (finish_blind _ now) s
  | dropped => exact lose_blind queued now s
  | receiverGone => exact goOn_blind _ queued s
  | granted =>
    apply Turn.Twin.ite
    · intro _
      exact identify_blind c now s
    · intro _
      exact still_blind s
  | beat =>
    have sends : Blind a b fun t => ⟨t, (c.beat s.sequence now).2.map fun m => .write m⟩ := fun t => .same t _
    exact (goOn_blind (c.beat s.sequence now).1 queued s).next sends
  | missed =>
    apply Turn.Twin.ite
    · intro _
      exact ((publish_blind .zombied).next (closeWith_blind c queued _)).next (finish_blind _ now) s
    · intro _
      exact still_blind s
  | opened | refused | timeout | submit | stop | abandon | take | abort => exact still_blind s

/-! ## Steps and runs -/

/-- Whatever happens, it leaves twins twins. -/
theorem step_blind (now : Nat) (x : Stimulus) : Blind a b (step now x) := by
  intro s
  cases x with
  | submit ticket m => exact submit_blind ticket m s
  | stop =>
    by_cases ended : s.isEnded
    · simp only [step, withToken_isEnded, ended, if_true]
      exact still_blind s
    · simp only [step, withToken_isEnded, ended]
      exact still_blind { s with mailbox := s.mailbox ++ [.stop] }
  | abandon => exact still_blind { s with attended := false }
  | take => exact take_blind now s
  | timeout => exact expire_blind now s
  | abort => exact abort_blind s
  | opened =>
    simp only [step, withToken_phase]
    cases s.phase with
    | dialling resume deadline => exact (goOn_blind _ false s).next (publish_blind .awaitingHello)
    | online c queued => exact stepOnline_blind c queued now .opened s
    | waiting _ | ended => exact still_blind s
  | refused =>
    simp only [step, withToken_phase]
    cases s.phase with
    | dialling resume deadline => exact finish_blind (.again resume 0) now s
    | online c queued => exact stepOnline_blind c queued now .refused s
    | waiting _ | ended => exact still_blind s
  | text | closed | dropped | receiverGone | granted | beat | missed =>
    simp only [step, withToken_phase]
    cases s.phase with
    | online c queued => exact stepOnline_blind c queued now _ s
    | dialling _ _ | waiting _ | ended => exact still_blind s

/-- a shard, and what it did with the times -/
structure Diary where
  shard : Shard
  acts : List (Nat × Act)

namespace Diary

def step (d : Diary) (now : Nat) (x : Stimulus) : Diary :=
  ⟨(d.shard.step now x).shard, d.acts ++ (d.shard.step now x).acts.map (now, ·)⟩

def run (d : Diary) (xs : List (Nat × Stimulus)) : Diary := xs.foldl (fun d e => d.step e.1 e.2) d

/-- a new shard, which asks for its first connection -/
def launch (profile : ShardProfile) (address : ShardAddress) (now : Nat) : Diary :=
  ⟨(Shard.launch profile address now).shard, (Shard.launch profile address now).acts.map (now, ·)⟩

/-- diaries of two shards that are the same but for their tokens -/
structure Twin (a b : String) (d e : Diary) : Prop where
  shard : ∃ s : Shard, d.shard = s.withToken a ∧ e.shard = s.withToken b
  /-- at the same times -/
  acts : List.Forall₂ (fun x y => x.1 = y.1 ∧ Act.Twin a b x.2 y.2) d.acts e.acts

end Diary

/-- Twin turns at the same time. -/
theorem Turn.Twin.timed {t u : Turn} (h : Turn.Twin a b t u) (now : Nat) :
    List.Forall₂ (fun x y : Nat × Act => x.1 = y.1 ∧ Act.Twin a b x.2 y.2) (t.acts.map (now, ·)) (u.acts.map (now, ·)) := by
  rw [List.forall₂_map_left_iff, List.forall₂_map_right_iff]
  apply h.acts.imp
  intro x y alike
  exact ⟨rfl, alike⟩

namespace Diary

theorem launch_twin (profile : ShardProfile) (address : ShardAddress) (now : Nat) :
    Twin a b (launch (profile.withToken a) address now) (launch (profile.withToken b) address now) := by
  have turn : Turn.Twin a b (Shard.launch (profile.withToken a) address now)
      (Shard.launch (profile.withToken b) address now) := dial_blind now (fresh profile address now)
  exact ⟨turn.shard, turn.timed now⟩

theorem step_twin {d e : Diary} (h : Twin a b d e) (now : Nat) (x : Stimulus) :
    Twin a b (d.step now x) (e.step now x) := by
  obtain ⟨⟨s, hd, he⟩, acts⟩ := h
  have turn := step_blind (a := a) (b := b) now x s
  rw [← hd, ← he] at turn
  exact ⟨turn.shard, List.rel_append acts (turn.timed now)⟩

theorem run_twin {d e : Diary} (h : Twin a b d e) (xs : List (Nat × Stimulus)) : Twin a b (d.run xs) (e.run xs) := by
  induction xs generalizing d e with
  | nil => exact h
  | cons x xs ih => exact ih (step_twin h x.1 x.2)

end Diary

end Shard

end Shardwire
