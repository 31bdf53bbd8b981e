import Shardwire.Shard.Step

/-
What one step of a shard can do to it.

`Outcome` lists the ways a step can go: nothing but the mailbox changes, the connection is tended, a connection is asked
for or opens, the Hello is answered, the shard identifies, an event is handed on, or the connection, or the attempt to
get one, is over. `step_outcome`: there are no others. Whatever is shown of all runs of a shard rests on this list and
not on the functions behind it.

`surrenders` says which stimuli make a shard give up its session; `Parted` says what every ending has in common.
-/

namespace Shardwire.Shard

/-! ## Turns -/

/-- what callers see of a status that is published -/
def announce (st : Status) (s : Shard) : List Act := if s.status = st then [] else [.publish st]

theorem publish_eq (st : Status) (s : Shard) : publish st s = ⟨{ s with status := st }, announce st s⟩ := by
  unfold publish announce
  split
  · next h => subst h; rfl
  · rfl

@[simp] theorem Turn.next_mk (s : Shard) (acts : List Act) (f : Shard → Turn) :
    Turn.next ⟨s, acts⟩ f = ⟨(f s).shard, acts ++ (f s).acts⟩ := rfl

/-- whether nothing but a caller hears of it -/
def Act.isAnswer : Act → Bool
  | .answer _ _ => true
  | _ => false

/-- whether it may belong to the end of a connection -/
def Act.isParting : Act → Bool
  | .dial _ | .write _ | .deliver _ | .enqueue => false
  | _ => true

theorem eq_of_mem_announce {st : Status} {s : Shard} {a : Act} (h : a ∈ announce st s) : a = .publish st := by
  unfold announce at h
  split at h
  · cases h
  · exact List.mem_singleton.1 h

theorem isParting_of_announce {st : Status} {s : Shard} {a : Act} (h : a ∈ announce st s) : a.isParting = true := by
  rw [eq_of_mem_announce h]; rfl

/-! ### Acts of a kind -/

theorem forall_announce {P : Act → Prop} {st : Status} {s : Shard} {acts : List Act} (shown : P (.publish st))
    (h : ∀ a ∈ acts, P a) : ∀ a ∈ announce st s ++ acts, P a := by
  intro a ha
  rcases List.mem_append.1 ha with ha | ha
  · rw [eq_of_mem_announce ha]
    exact shown
  · exact h a ha

theorem forall_answers {P : Act → Prop} {acts : List Act} (h : ∀ a ∈ acts, a.isAnswer = true)
    (answer : ∀ ticket fault, P (.answer ticket fault)) : ∀ a ∈ acts, P a := by
  intro a ha
  have := h a ha
  cases a <;> first | exact answer _ _ | cases this

/-! ## Endings -/

/-- whether there is neither a connection nor an attempt to get one -/
def isOffline (s : Shard) : Bool :=
  match s.phase with
  | .waiting _ | .ended => true
  | _ => false

/-- whether the session is kept -/
def Finish.keeps : Finish → Bool
  | .again resume _ => resume
  | _ => true

/-- what every end of a connection, or of the attempt to get one, leaves behind -/
structure Parted (s : Shard) (keep : Bool) (t : Turn) : Prop where
  offline : t.shard.isOffline = true
  /-- no ending makes it ready; one that was so is shown as such only if it was stopped by force -/
  status : t.shard.status = .ready → t.shard.isEnded = true ∧ s.status = .ready
  profile : t.shard.profile = s.profile
  address : t.shard.address = s.address
  session : t.shard.session = if keep then s.session else none
  sequence : t.shard.sequence = if keep then s.sequence else none
  resumable : keep = true → s.resumable = true → t.shard.resumable = true
  mailbox : ∀ k ∈ t.shard.mailbox, k ∈ s.mailbox
  acts : ∀ a ∈ t.acts, a.isParting = true

theorem refusal_isParting {s : Shard} {l : List Command} {a : Act} (h : a ∈ l.filterMap s.refusal) :
    a.isParting = true := by
  obtain ⟨k, -, hk⟩ := List.mem_filterMap.1 h
  cases k with
  | send ticket m => simp only [refusal, Option.some.injEq] at hk; subst hk; rfl
  | stop => simp [refusal] at hk

/-- `s'` is `s` but for what the end of a connection does not look at -/
structure Alike (s s' : Shard) : Prop where
  status : s'.status = .ready → s.status = .ready
  profile : s'.profile = s.profile
  address : s'.address = s.address
  session : s'.session = s.session
  sequence : s'.sequence = s.sequence
  resumable : s.resumable = true → s'.resumable = true
  mailbox : ∀ k ∈ s'.mailbox, k ∈ s.mailbox

namespace Alike

variable {s s' : Shard}

theorem refl (s : Shard) : Alike s s := ⟨fun h => h, rfl, rfl, rfl, rfl, fun h => h, fun _ h => h⟩

theorem shown (e : Alike s s') {st : Status} (hs : st ≠ .ready) : Alike s { s' with status := st } :=
  { e with status := fun h => absurd h hs }

theorem settled (e : Alike s s') (b : Backoff) : Alike s { s' with readySince := none, backoff := b } :=
  { e with }

theorem left (e : Alike s s') {rest : List Command} (hr : ∀ k ∈ rest, k ∈ s.mailbox) :
    Alike s { s' with mailbox := rest } :=
  { e with mailbox := hr }

end Alike

theorem leave_parted (s : Shard) : Parted s true (leave s) where
  offline := rfl
  status := fun h => ⟨rfl, h⟩
  profile := rfl
  address := rfl
  session := rfl
  sequence := rfl
  resumable := fun _ h => h
  mailbox := by simp [leave]
  acts := fun _ h => refusal_isParting h

theorem Parted.after {s : Shard} {keep : Bool} {t : Turn} (h : Parted s keep t) {acts : List Act}
    (ha : ∀ a ∈ acts, a.isParting = true) : Parted s keep ⟨t.shard, acts ++ t.acts⟩ :=
  { h with acts := fun a hm => (List.mem_append.1 hm).elim (ha a) (h.acts a) }

theorem Parted.of {s s' : Shard} {keep : Bool} {t : Turn} (h : Parted s' keep t) (e : Alike s s') :
    Parted s keep t where
  offline := h.offline
  status := fun ht => ⟨(h.status ht).1, e.status (h.status ht).2⟩
  profile := h.profile.trans e.profile
  address := h.address.trans e.address
  session := e.session ▸ h.session
  sequence := e.sequence ▸ h.sequence
  resumable := fun hk hs => h.resumable hk (e.resumable hs)
  mailbox := fun k hk => e.mailbox k (h.mailbox k hk)
  acts := h.acts

theorem Parted.ne_dialling {s : Shard} {keep : Bool} {t : Turn} (h : Parted s keep t) (resume : Bool) (deadline : Nat) :
    t.shard.phase ≠ .dialling resume deadline := fun hp => by simpa [isOffline, hp] using h.offline

theorem Parted.ne_online {s : Shard} {keep : Bool} {t : Turn} (h : Parted s keep t) (c : Connection) (queued : Bool) :
    t.shard.phase ≠ .online c queued := fun hp => by simpa [isOffline, hp] using h.offline

/-- the end of a connection whose session was given up before -/
theorem Parted.of_forget {s : Shard} {keep : Bool} {t : Turn} (h : Parted s.forget keep t) : Parted s false t where
  offline := h.offline
  status := h.status
  profile := h.profile
  address := h.address
  session := by simpa [forget] using h.session
  sequence := by simpa [forget] using h.sequence
  resumable := by simp
  mailbox := h.mailbox
  acts := h.acts

theorem giveUp_parted (f : Fault) (s : Shard) : Parted s true (giveUp f s) := by
  have h : Parted s true (leave { s with status := .failed }) :=
    (leave_parted _).of ((Alike.refl s).shown (by decide))
  simp only [giveUp, act, publish_eq, Turn.next_mk]
  refine h.after fun a ha => ?_
  rcases List.mem_append.1 ha with ha | ha
  · exact isParting_of_announce ha
  · simp only [List.mem_singleton] at ha; subst ha; rfl

theorem retry_parted (extra now : Nat) {s : Shard} (hs : s.status ≠ .ready) : Parted s true (retry extra now s) := by
  unfold retry
  split
  · exact ⟨rfl, fun h => absurd h hs, rfl, rfl, rfl, rfl, fun _ h => h, fun _ hk => hk, by simp [Turn.still]⟩
  · exact giveUp_parted _ s

theorem settleBackoff_eq (now : Nat) (s : Shard) :
    ∃ b, s.settleBackoff now = { s with readySince := none, backoff := b } := by
  unfold settleBackoff
  split
  · exact ⟨_, rfl⟩
  · next h => exact ⟨s.backoff, by rw [← h]⟩

theorem finish_parted (f : Finish) (now : Nat) (s : Shard) : Parted s f.keeps (finish f now s) := by
  obtain ⟨b, hb⟩ := settleBackoff_eq now s
  have settled : Alike s { s with readySince := none, backoff := b } := (Alike.refl s).settled b
  simp only [finish, hb, publish_eq]
  cases f with
  | stopped =>
    simp only [Turn.next_mk]
    refine Parted.after ?_ fun a ha => isParting_of_announce ha
    exact (leave_parted _).of (settled.shown (by decide))
  | fatal fault => exact (giveUp_parted fault _).of settled
  | again resume extra =>
    simp only [Turn.next_mk]
    refine Parted.after ?_ fun a ha => isParting_of_announce ha
    cases resume with
    | true => exact (retry_parted extra now (by simp)).of ⟨nofun, rfl, rfl, rfl, rfl, fun _ => rfl, fun _ h => h⟩
    | false => exact (retry_parted extra now (by simp [forget])).of_forget.of (settled.shown (by decide))

theorem finish_closing_parted (f : Finish) (now : Nat) (s : Shard) :
    Parted s f.keeps (finish f now { s with status := .closing }) :=
  (finish_parted f now _).of ((Alike.refl s).shown (by decide))

/-! ## Letting go of a connection -/

/-- it ends, and if a connection is open, the shard lets go of it -/
structure Ends (s : Shard) (keep : Bool) (t : Turn) : Prop extends Parted s keep t where
  hangsUp : ∀ c queued, s.phase = .online c queued → .hangUp ∈ t.acts

theorem Parted.ends {s : Shard} {keep : Bool} {t : Turn} (h : Parted s keep t)
    (ho : ∀ c queued, s.phase ≠ .online c queued) : Ends s keep t :=
  ⟨h, fun c queued hp => absurd hp (ho c queued)⟩

theorem Ends.after {s : Shard} {keep : Bool} {t : Turn} (h : Ends s keep t) {acts : List Act}
    (ha : ∀ a ∈ acts, a.isParting = true) : Ends s keep ⟨t.shard, acts ++ t.acts⟩ :=
  ⟨h.toParted.after ha, fun c queued hp => List.mem_append_right _ (h.hangsUp c queued hp)⟩

theorem Ends.of {s s' : Shard} {keep : Bool} {t : Turn} (h : Ends s' keep t) (e : Alike s s')
    (hp : s'.phase = s.phase) : Ends s keep t :=
  ⟨h.toParted.of e, fun c queued h' => h.hangsUp c queued (hp.trans h')⟩

theorem hangUp_next {s s' : Shard} {keep : Bool} (queued : Bool) {f : Shard → Turn} (h : Parted s keep (f s')) :
    Ends s keep ((hangUp queued s').next f) := by
  refine ⟨h.after fun a ha => ?_, fun _ _ _ => ?_⟩
  · cases queued <;> simp only [hangUp, Bool.false_eq_true, ite_false, ite_true, List.mem_cons, List.not_mem_nil,
      or_false] at ha
    · subst ha; rfl
    · rcases ha with rfl | rfl <;> rfl
  · cases queued <;> simp [hangUp]

theorem closeWith_next {s s' : Shard} {keep : Bool} (c : Connection) (queued : Bool) (closure : Closure)
    {f : Shard → Turn} (h : Parted s keep (f { s' with status := .closing })) :
    Ends s keep ((closeWith c queued closure s').next f) := by
  have e := hangUp_next queued h
  have ha : ∀ a ∈ announce .closing s' ++ (if c.writable then [.close closure] else []), a.isParting = true := by
    intro a ha
    rcases List.mem_append.1 ha with ha | ha
    · exact isParting_of_announce ha
    · split at ha <;> simp at ha
      subst ha; rfl
  have eq : (closeWith c queued closure s').next f =
      ⟨((hangUp queued { s' with status := .closing }).next f).shard,
        (announce .closing s' ++ (if c.writable then [.close closure] else [])) ++
          ((hangUp queued { s' with status := .closing }).next f).acts⟩ := by
    simp [closeWith, publish_eq, hangUp, Turn.next, List.append_assoc]
  rw [eq]
  exact e.after ha

theorem lose_ends (queued : Bool) (now : Nat) (s : Shard) : Ends s true (lose queued now s) :=
  hangUp_next queued (finish_parted (.again true 0) now s)

/-! ## Outcomes -/

/-- what a stimulus puts into the mailbox -/
def Stimulus.command? : Stimulus → Option Command
  | .submit ticket m => some (.send ticket m)
  | .stop => some .stop
  | _ => none

/-- whether a stimulus makes a shard give up its session, if it has one -/
def surrenders (now : Nat) (s : Shard) (x : Stimulus) : Bool :=
  match s.phase, x with
  | .online _ queued, .granted => queued
  | .online _ _, .closed closure => CloseCode.classify (closure.map (·.code)) = .reidentify
  | .online _ _, .text text _ =>
    match Event.decode text with
    | .ok (.invalidSession resumable) => !(resumable && s.session.isSome)
    | _ => false
  | .dialling resume _, .refused => !resume
  | .dialling resume deadline, .timeout => !resume && deadline ≤ now
  | _, _ => false

/-- `c'` is as far with its handshake as `c` -/
structure Abreast (c c' : Connection) : Prop where
  status : c'.status = c.status
  resuming : c'.resuming = c.resuming
  deadline : c'.deadline = c.deadline
  interval : c'.interval? = c.interval?

/-- whether an event ends a handshake: READY with a usable payload, or RESUMED -/
def finishes (d : Dispatch) : Bool :=
  match d.kind? with
  | some .ready => (Json.decodeValue Ready.decoder d.data).toOption.isSome
  | some .resumed => true
  | _ => false

/-- the ways a step can go -/
inductive Outcome (now : Nat) (s : Shard) : Stimulus → Turn → Prop where
  /-- only the mailbox and who fills it may change -/
  | idles {x : Stimulus} {t : Turn}
      (shard : t.shard = { s with mailbox := t.shard.mailbox, attended := t.shard.attended })
      (mailbox : ∀ k ∈ t.shard.mailbox, k ∈ s.mailbox ∨ x.command? = some k)
      (acts : ∀ a ∈ t.acts, a.isAnswer = true) (kept : s.surrenders now x = false) : Outcome now s x t
  /-- heartbeats, their acknowledgements, and messages of callers -/
  | tends {x : Stimulus} {t : Turn} {c : Connection} {queued : Bool} (c' : Connection)
      (online : s.phase = .online c queued) (abreast : Abreast c c')
      (shard : t.shard = { s with phase := .online c' queued, mailbox := t.shard.mailbox })
      (mailbox : ∀ k ∈ t.shard.mailbox, k ∈ s.mailbox)
      (acts : ∀ a ∈ t.acts, a.isAnswer = true ∨ a = .write (.heartbeat s.sequence) ∨
        ∃ ticket m, a = .write m ∧ .send ticket m ∈ s.mailbox ∧ c.status.isReady = true ∧ x = .take)
      (kept : s.surrenders now x = false) : Outcome now s x t
  | dials {deadline : Nat} (waiting : s.phase = .waiting deadline) : Outcome now s .timeout (dial now s)
  | opens {resume : Bool} {deadline : Nat} (dialling : s.phase = .dialling resume deadline) :
      Outcome now s .opened
        ⟨{ s with
            phase := .online { Connection.fresh now with resuming := resume, deadline := some deadline } false
            status := .awaitingHello }, announce .awaitingHello s⟩
  /-- the answer to Hello, with a session to resume -/
  | resumes {text : String} {draw : Nat} {c : Connection} {queued : Bool} {h : Hello} {p : Resume}
      (online : s.phase = .online c queued) (awaiting : c.status = .awaitingHello)
      (hello : Event.decode text = .ok (.hello h)) (resuming : c.resuming = true) (session : s.resume? = some p)
      (writable : c.writable = true) :
      Outcome now s (.text text draw)
        ⟨{ s with
            phase := .online
              { c.startHeartbeat h.interval.toNat draw now with
                status := .identifying
                deadline := some (now + s.profile.identifyTimeout) } queued
            status := .identifying }, announce .identifying s ++ [.write (.resume p)]⟩
  /-- the answer to Hello, without one -/
  | queues {text : String} {draw : Nat} {c : Connection} {queued : Bool} {h : Hello}
      (online : s.phase = .online c queued) (awaiting : c.status = .awaitingHello)
      (hello : Event.decode text = .ok (.hello h)) (session : c.resuming = false ∨ s.resume? = none) :
      Outcome now s (.text text draw)
        ⟨{ s with
            phase := .online
              { c.startHeartbeat h.interval.toNat draw now with
                status := .identifying
                resuming := false
                deadline := none } true
            status := .identifying }, announce .identifying s ++ [.enqueue]⟩
  | identifies {c : Connection} (online : s.phase = .online c true) (writable : c.writable = true) :
      Outcome now s .granted
        ⟨{ s.forget with phase := .online { c with deadline := some (now + s.profile.identifyTimeout) } false },
          [.write (.identify s.identity)]⟩
  /-- an event that leaves the handshake alone -/
  | passes {text : String} {draw : Nat} {c : Connection} {queued : Bool} {d : Dispatch} {seq : Sequence}
      (online : s.phase = .online c queued) (event : Event.decode text = .ok (.dispatch d))
      (newer : s.sequence.advance? d.seq = some seq) (other : finishes d = false) :
      Outcome now s (.text text draw) ⟨{ s with sequence := seq }, [.deliver d]⟩
  /-- READY -/
  | readies {text : String} {draw : Nat} {c : Connection} {queued : Bool} {d : Dispatch} {seq : Sequence} {p : Ready}
      (online : s.phase = .online c queued) (event : Event.decode text = .ok (.dispatch d))
      (newer : s.sequence.advance? d.seq = some seq) (kind : d.kind? = some .ready)
      (payload : Json.decodeValue Ready.decoder d.data = .ok p) :
      Outcome now s (.text text draw)
        ⟨{ s with
            sequence := seq
            session := some (Session.ofReady p)
            resumable := true
            phase := .online (c.markReady now) queued
            readySince := some now
            status := .ready }, announce .ready s ++ [.deliver d]⟩
  /-- RESUMED -/
  | revives {text : String} {draw : Nat} {c : Connection} {queued : Bool} {d : Dispatch} {seq : Sequence}
      (online : s.phase = .online c queued) (event : Event.decode text = .ok (.dispatch d))
      (newer : s.sequence.advance? d.seq = some seq) (kind : d.kind? = some .resumed) :
      Outcome now s (.text text draw)
        ⟨{ s with
            sequence := seq
            phase := .online ({ c with resuming := false }.markReady now) queued
            readySince := some now
            status := .ready }, announce .ready s ++ [.deliver d]⟩
  | ends {x : Stimulus} {t : Turn} (h : Ends s (!s.surrenders now x) t) : Outcome now s x t

/-- What holds of answers and of all messages holds of what a connection does while it is tended. -/
theorem forall_tended {P : Act → Prop} {s : Shard} {x : Stimulus} {c : Connection} {acts : List Act}
    (h : ∀ a ∈ acts, a.isAnswer = true ∨ a = .write (.heartbeat s.sequence) ∨
      ∃ ticket m, a = .write m ∧ .send ticket m ∈ s.mailbox ∧ c.status.isReady = true ∧ x = .take)
    (answer : ∀ ticket fault, P (.answer ticket fault)) (write : ∀ m, P (.write m)) : ∀ a ∈ acts, P a := by
  intro a ha
  rcases h a ha with answers | rfl | ⟨_, m, rfl, -⟩
  · cases a <;> first | exact answer _ _ | cases answers
  · exact write _
  · exact write m

/-! ### Steps that only touch the mailbox -/

theorem still_idles {now : Nat} {s : Shard} {x : Stimulus} (h : s.surrenders now x = false) :
    Outcome now s x (.still s) :=
  .idles rfl (fun _ hk => .inl hk) (by simp [Turn.still]) h

theorem submit_outcome (now ticket : Nat) (m : Message) (s : Shard) :
    Outcome now s (.submit ticket m) (submit ticket m s) := by
  have hk : s.surrenders now (.submit ticket m) = false := by unfold surrenders; split <;> simp_all
  unfold submit
  split
  · refine .idles rfl (fun k h => ?_) (by simp [Turn.still]) hk
    rcases List.mem_append.1 h with h | h
    · exact .inl h
    · simp only [List.mem_singleton] at h; subst h; exact .inr rfl
  · exact .idles rfl (fun _ h => .inl h) (by simp [act, Act.isAnswer]) hk

/-! ### Commands -/

theorem obey_outcome (now ticket : Nat) (m : Message) (s : Shard) (rest : List Command)
    (hs : s.mailbox = .send ticket m :: rest) :
    Outcome now s .take (obey ticket m now { s with mailbox := rest }) := by
  have hk : s.surrenders now .take = false := by unfold surrenders; split <;> simp_all
  have hm : ∀ k ∈ rest, k ∈ s.mailbox := fun k h => by rw [hs]; exact List.mem_cons_of_mem _ h
  have refused (t : Turn) (ht : t.shard = { s with mailbox := rest }) (ha : ∀ a ∈ t.acts, a.isAnswer = true) :
      Outcome now s .take t :=
    .idles (by rw [ht]) (fun k h => .inl (hm k (by rw [ht] at h; exact h))) ha hk
  unfold obey
  split
  · next c queued hp =>
    simp only at hp
    split
    · next hr =>
      split
      · refine .tends c hp ⟨rfl, rfl, rfl, rfl⟩ ?_ hm ?_ hk
        · simp [act, ← hp]
        · intro a ha
          simp only [act, Turn.next_mk, List.mem_append, List.mem_singleton] at ha
          rcases ha with rfl | rfl
          · exact .inr (.inr ⟨ticket, m, rfl, by rw [hs]; exact List.mem_cons_self, hr, rfl⟩)
          · exact .inl rfl
      · have h := (lose_ends queued now { s with mailbox := rest }).of ((Alike.refl s).left hm) rfl
        exact .ends (hk ▸ h.after (by simp [act, Act.isParting]))
    · exact refused _ rfl (by simp [act, Act.isAnswer])
  · exact refused _ rfl (by simp [act, Act.isAnswer])

theorem halt_outcome (now : Nat) (s s' : Shard) (e : Alike s s') (hp : s'.phase = s.phase)
    (hi : s'.isEnded = true → s' = { s with mailbox := s'.mailbox }) : Outcome now s .take (halt now s') := by
  have hk : s.surrenders now .take = false := by unfold surrenders; split <;> simp_all
  unfold halt
  rw [hp]
  split
  · next resume deadline h =>
    refine .ends (Parted.ends ?_ fun c q hq => by simp [h] at hq)
    rw [hk]; exact (finish_parted .stopped now s').of e
  · next c queued h =>
    exact .ends (closeWith_next c queued .normal (by rw [hk]; exact (finish_closing_parted .stopped now s').of e))
  · next deadline h =>
    refine .ends (Parted.ends ?_ fun c q hq => by simp [h] at hq)
    rw [hk]; exact (leave_parted s').of e
  · next h =>
    have hs := hi (by simp [isEnded, hp, h])
    exact .idles (by rw [hs]; rfl) (fun k hk => .inl (e.mailbox k hk)) (by simp [Turn.still]) hk

theorem take_outcome (now : Nat) (s : Shard) : Outcome now s .take (take now s) := by
  unfold take
  split
  · next ticket m rest h => exact obey_outcome now ticket m s rest h
  · next rest h =>
    have hm : ∀ k ∈ rest, k ∈ s.mailbox := fun k hk => by rw [h]; exact List.mem_cons_of_mem _ hk
    exact halt_outcome now s { s with mailbox := rest } ((Alike.refl s).left hm) rfl fun _ => rfl
  · split
    · exact still_idles (by unfold surrenders; split <;> simp_all)
    · exact halt_outcome now s s (Alike.refl s) rfl fun _ => rfl

/-! ### Deadlines -/

theorem dial_eq (now : Nat) (s : Shard) :
    dial now s =
      ⟨{ s with phase := .dialling s.canResume (now + s.profile.identifyTimeout), status := .connecting },
        announce .connecting s ++ [.dial (s.url s.canResume)]⟩ := by
  simp [dial, publish_eq, act, announce]

theorem expire_outcome (now : Nat) (s : Shard) : Outcome now s .timeout (expire now s) := by
  unfold expire
  split
  · next resume deadline hp =>
    split
    · next hd =>
      have hk : (Finish.again resume 0).keeps = !s.surrenders now .timeout := by
        simp [surrenders, hp, hd, Finish.keeps]
      exact .ends (Parted.ends (hk ▸ finish_parted _ now s) fun c q hq => by simp [hp] at hq)
    · next hd => exact still_idles (by simp [surrenders, hp, hd])
  · next c queued hp =>
    have hk : s.surrenders now .timeout = false := by simp [surrenders, hp]
    split
    · split
      · exact .ends (closeWith_next c queued _ (by rw [hk]; exact finish_closing_parted (.again true 0) now s))
      · exact still_idles hk
    · exact still_idles hk
  · next deadline hp =>
    split
    · exact .dials hp
    · exact still_idles (by simp [surrenders, hp])
  · next hp => exact still_idles (by simp [surrenders, hp])

theorem abort_outcome (now : Nat) (s : Shard) : Outcome now s .abort (abort s) := by
  have hk : s.surrenders now .abort = false := by unfold surrenders; split <;> simp_all
  have hl : Parted s (!s.surrenders now .abort) (leave s) := by rw [hk]; exact leave_parted s
  unfold abort
  split
  · next c queued hp => exact .ends (hangUp_next queued hl)
  · exact still_idles hk
  · next h _ => exact .ends (hl.ends h)

/-! ### The handshake -/

section Hello

variable {s : Shard} {c : Connection} {queued : Bool} {now interval draw : Nat}

theorem step_hello {text : String} {h : Hello} (hp : s.phase = .online c queued) (hs : c.status = .awaitingHello)
    (hd : Event.decode text = .ok (.hello h)) :
    step now (.text text draw) s = greet c queued h.interval.toNat draw now s := by
  simp [step, hp, stepOnline, hd, receive, hs]

theorem greet_eq_resume {p : Resume} (hr : c.resuming = true) (hp : s.resume? = some p) (hw : c.writable = true) :
    greet c queued interval draw now s =
      ⟨{ s with
          phase := .online
            { c.startHeartbeat interval draw now with
              status := .identifying
              deadline := some (now + s.profile.identifyTimeout) } queued
          status := .identifying }, announce .identifying s ++ [.write (.resume p)]⟩ := by
  have hp' : resume? { s with status := .identifying } = some p := hp
  simp [greet, publish_eq, goOn, act, Turn.still, Connection.startHeartbeat, hr, hp', hw]

/-- A session cannot be resumed on a connection that takes no frames; it is kept for the next one. -/
theorem greet_ends {p : Resume} (hr : c.resuming = true) (hp : s.resume? = some p) (hw : c.writable = false) :
    Ends s true (greet c queued interval draw now s) := by
  have hp' : resume? { s with status := .identifying } = some p := hp
  have h := (lose_ends queued now { s with status := .identifying }).of ((Alike.refl s).shown (by decide)) rfl
  simp only [greet, publish_eq, Turn.next_mk, Connection.startHeartbeat, hr, hp', hw, if_true, Bool.false_eq_true,
    if_false]
  exact h.after fun a ha => isParting_of_announce ha

theorem greet_eq_queue (h : c.resuming = false ∨ s.resume? = none) :
    greet c queued interval draw now s =
      ⟨{ s with
          phase := .online
            { c.startHeartbeat interval draw now with
              status := .identifying
              resuming := false
              deadline := none } true
          status := .identifying }, announce .identifying s ++ [.enqueue]⟩ := by
  rcases h with h | h
  · simp [greet, publish_eq, goOn, act, Turn.still, Connection.startHeartbeat, h]
  · have h' : resume? { s with status := .identifying } = none := h
    simp [greet, publish_eq, goOn, act, Turn.still, Connection.startHeartbeat, h']

theorem greet_outcome {text : String} {h : Hello} (hp : s.phase = .online c queued) (hs : c.status = .awaitingHello)
    (hd : Event.decode text = .ok (.hello h)) :
    Outcome now s (.text text draw) (greet c queued h.interval.toNat draw now s) := by
  have hk : s.surrenders now (.text text draw) = false := by simp [surrenders, hp, hd]
  cases hr : c.resuming with
  | false => exact greet_eq_queue (.inl hr) ▸ .queues hp hs hd (.inl hr)
  | true =>
    cases hq : s.resume? with
    | none => exact greet_eq_queue (.inr hq) ▸ .queues hp hs hd (.inr hq)
    | some p =>
      cases hw : c.writable with
      | true => exact greet_eq_resume hr hq hw ▸ .resumes hp hs hd hr hq hw
      | false => exact .ends (hk ▸ greet_ends hr hq hw)

end Hello

theorem identify_outcome {now : Nat} {s : Shard} {c : Connection} (hp : s.phase = .online c true) :
    Outcome now s .granted (identify c now s) := by
  have hk : s.surrenders now .granted = true := by simp [surrenders, hp]
  unfold identify
  split
  · next hw => simpa [goOn, act, Turn.still, forget, identity] using Outcome.identifies hp hw
  · refine .ends ⟨?_, ?_⟩
    · rw [hk]; exact (lose_ends false now s.forget).toParted.of_forget
    · exact fun c' q' _ => (lose_ends false now s.forget).hangsUp c true hp

/-! ### Events -/

section Dispatch

variable {s : Shard} {c : Connection} {queued : Bool} {now : Nat} {d : Dispatch} {seq : Sequence}

theorem step_dispatch {text : String} {draw : Nat} (hp : s.phase = .online c queued)
    (hd : Event.decode text = .ok (.dispatch d)) :
    step now (.text text draw) s = dispatch c queued d now s := by
  simp [step, hp, stepOnline, hd, receive]

theorem dispatch_eq_still (hp : s.phase = .online c queued) (hq : s.sequence.advance? d.seq = none) :
    dispatch c queued d now s = .still s := by
  simp [dispatch, goOn, hq, ← hp]

theorem dispatch_eq_pass (hp : s.phase = .online c queued) (hq : s.sequence.advance? d.seq = some seq)
    (hf : finishes d = false) : dispatch c queued d now s = ⟨{ s with sequence := seq }, [.deliver d]⟩ := by
  cases hk : d.kind? with
  | none => simp [dispatch, hq, hk, goOn, Turn.still, act, ← hp]
  | some k =>
    cases k with
    | ready =>
      cases hr : Json.decodeValue Ready.decoder d.data with
      | ok r => simp [finishes, hk, hr, Except.toOption] at hf
      | error e => simp [dispatch, hq, hk, hr, goOn, Turn.still, act, ← hp]
    | resumed => simp [finishes, hk] at hf
    | _ => simp [dispatch, hq, hk, goOn, Turn.still, act, ← hp]

theorem dispatch_eq_ready {p : Ready} (hq : s.sequence.advance? d.seq = some seq) (hk : d.kind? = some .ready)
    (hr : Json.decodeValue Ready.decoder d.data = .ok p) :
    dispatch c queued d now s =
      ⟨{ s with
          sequence := seq
          session := some (Session.ofReady p)
          resumable := true
          phase := .online (c.markReady now) queued
          readySince := some now
          status := .ready }, announce .ready s ++ [.deliver d]⟩ := by
  simp [dispatch, hq, hk, hr, markReady, publish_eq, act, announce]

theorem dispatch_eq_resumed (hq : s.sequence.advance? d.seq = some seq) (hk : d.kind? = some .resumed) :
    dispatch c queued d now s =
      ⟨{ s with
          sequence := seq
          phase := .online ({ c with resuming := false }.markReady now) queued
          readySince := some now
          status := .ready }, announce .ready s ++ [.deliver d]⟩ := by
  simp [dispatch, hq, hk, markReady, publish_eq, act, announce]

theorem finishes_eq_true (h : finishes d = true) :
    (∃ p, d.kind? = some .ready ∧ Json.decodeValue Ready.decoder d.data = .ok p) ∨ d.kind? = some .resumed := by
  unfold finishes at h
  split at h
  · next hk =>
    cases hr : Json.decodeValue Ready.decoder d.data with
    | ok p => exact .inl ⟨p, hk, rfl⟩
    | error e => simp [hr, Except.toOption] at h
  · next hk => exact .inr hk
  · cases h

/-- Whatever else a newer event does, it is the last thing handed on, and the connection stays open. -/
theorem dispatch_delivers (now : Nat) (hp : s.phase = .online c queued) (hq : s.sequence.advance? d.seq = some seq) :
    ∃ t : Turn, dispatch c queued d now s = t ∧ t.shard.sequence = seq ∧
      (∃ c', t.shard.phase = .online c' queued ∧ (c'.status = .awaitingHello → c' = c)) ∧
      (t.acts = [.deliver d] ∨ t.acts = announce .ready s ++ [.deliver d]) := by
  cases hf : finishes d with
  | false => exact ⟨_, dispatch_eq_pass hp hq hf, rfl, ⟨c, hp, fun _ => rfl⟩, .inl rfl⟩
  | true =>
    rcases finishes_eq_true hf with ⟨p, hk, hr⟩ | hk
    · exact ⟨_, dispatch_eq_ready hq hk hr, rfl, ⟨_, rfl, nofun⟩, .inr rfl⟩
    · exact ⟨_, dispatch_eq_resumed hq hk, rfl, ⟨_, rfl, nofun⟩, .inr rfl⟩

theorem dispatch_outcome {text : String} {draw : Nat} (hp : s.phase = .online c queued)
    (hd : Event.decode text = .ok (.dispatch d)) :
    Outcome now s (.text text draw) (dispatch c queued d now s) := by
  cases hq : s.sequence.advance? d.seq with
  | none => exact dispatch_eq_still hp hq ▸ still_idles (by simp [surrenders, hp, hd])
  | some seq =>
    cases hf : finishes d with
    | false => exact dispatch_eq_pass hp hq hf ▸ .passes hp hd hq hf
    | true =>
      rcases finishes_eq_true hf with ⟨p, hk, hr⟩ | hk
      · exact dispatch_eq_ready hq hk hr ▸ .readies hp hd hq hk hr
      · exact dispatch_eq_resumed hq hk ▸ .revives hp hd hq hk

end Dispatch

theorem invalidate_outcome {now : Nat} {s : Shard} {c : Connection} {queued : Bool} {text : String} {draw : Nat}
    {resumable : Bool} (hp : s.phase = .online c queued) (hd : Event.decode text = .ok (.invalidSession resumable)) :
    Outcome now s (.text text draw) (invalidate c queued resumable now s) := by
  have hk : s.surrenders now (.text text draw) = !(resumable && s.session.isSome) := by simp [surrenders, hp, hd]
  unfold invalidate
  split
  · next h =>
    exact .ends (closeWith_next c queued _ (by rw [hk, h]; exact finish_closing_parted (.again true 0) now s))
  · next h =>
    have hf := (finish_closing_parted (.again false 0) now s.forget).of_forget
    exact .ends (closeWith_next c queued _ (by rw [hk, Bool.eq_false_iff.2 h]; exact hf))

theorem tend_outcome {now : Nat} {s : Shard} {c c' : Connection} {queued : Bool} {x : Stimulus} {acts : List Act}
    (hp : s.phase = .online c queued) (hc : Abreast c c') (ha : ∀ a ∈ acts, a = .write (.heartbeat s.sequence))
    (hk : s.surrenders now x = false) : Outcome now s x ⟨{ s with phase := .online c' queued }, acts⟩ :=
  .tends c' hp hc rfl (fun _ h => h) (fun a h => .inr (.inl (ha a h))) hk

theorem receive_outcome {now : Nat} {s : Shard} {c : Connection} {queued : Bool} {text : String} {draw : Nat}
    {e : Event} (hp : s.phase = .online c queued) (hd : Event.decode text = .ok e) :
    Outcome now s (.text text draw) (receive c queued e draw now s) := by
  have same : goOn c queued s = .still s := by rw [goOn, ← hp]
  cases e with
  | hello p =>
    simp only [receive]
    split
    · next hs => exact greet_outcome hp hs hd
    · exact same ▸ still_idles (by simp [surrenders, hp, hd])
  | heartbeatAck =>
    exact tend_outcome hp ⟨rfl, rfl, rfl, rfl⟩ (by simp) (by simp [surrenders, hp, hd])
  | heartbeat seq =>
    have hk : s.surrenders now (.text text draw) = false := by simp [surrenders, hp, hd]
    simp only [receive]
    split
    · exact tend_outcome hp ⟨rfl, rfl, rfl, rfl⟩ (by simp [goOn, act, Turn.still]) hk
    · exact .ends (hk ▸ lose_ends queued now s)
  | reconnect =>
    have hk : s.surrenders now (.text text draw) = false := by simp [surrenders, hp, hd]
    exact .ends (closeWith_next c queued _ (by rw [hk]; exact finish_closing_parted (.again true 0) now s))
  | invalidSession resumable => exact invalidate_outcome hp hd
  | dispatch d => exact dispatch_outcome hp hd
  | identify _ | presenceUpdate _ | resume _ | requestGuildMembers _ =>
    simp only [receive, same]
    exact still_idles (by simp [surrenders, hp, hd])

/-! ### Everything else on a connection -/

theorem beat_interval (b : Beater) (p : Pulse) (seq : Sequence) (outlet : Outlet) (now : Nat) :
    (b.beat p seq outlet now).beater.interval = b.interval := by
  unfold Beater.beat
  repeat' split
  all_goals rfl

theorem beat_abreast (c : Connection) (seq : Sequence) (now : Nat) : Abreast c (c.beat seq now).1 := by
  unfold Connection.beat
  split
  · exact ⟨rfl, rfl, rfl, rfl⟩
  · next b hb => exact ⟨rfl, rfl, rfl, by simp [Connection.interval?, hb, beat_interval]⟩

theorem beat_sent {c : Connection} {seq : Sequence} {now : Nat} {m : Message} (h : m ∈ (c.beat seq now).2) :
    m = .heartbeat seq := by
  unfold Connection.beat at h
  split at h
  · simp at h
  · next b hb =>
    unfold Beater.beat at h
    repeat' split at h
    all_goals simp_all

theorem keeps_afterClosure (c : Connection) (closure : Option Closure) :
    (afterClosure c closure).keeps = !decide (CloseCode.classify (closure.map (·.code)) = .reidentify) := by
  simp only [afterClosure]
  cases CloseCode.classify (closure.map (·.code)) <;> rfl

theorem stepOnline_outcome {now : Nat} {s : Shard} {c : Connection} {queued : Bool} {x : Stimulus}
    (hp : s.phase = .online c queued) (hx : ∀ ticket m, x ≠ .submit ticket m) :
    Outcome now s x (stepOnline c queued now x s) := by
  cases x with
  | text text draw =>
    simp only [stepOnline]
    split
    · next e hd => exact receive_outcome hp hd
    · next hd => exact still_idles (by simp [surrenders, hp, hd])
  | closed closure =>
    have hk : (afterClosure c closure).keeps = !s.surrenders now (.closed closure) := by
      simp [surrenders, hp, keeps_afterClosure]
    exact .ends (hangUp_next queued (hk ▸ finish_parted _ now s))
  | dropped =>
    have hk : s.surrenders now .dropped = false := by simp [surrenders, hp]
    exact .ends (hk ▸ lose_ends queued now s)
  | receiverGone => exact tend_outcome hp ⟨rfl, rfl, rfl, rfl⟩ (by simp) (by simp [surrenders, hp])
  | granted =>
    cases queued with
    | true => exact identify_outcome hp
    | false => exact still_idles (by simp [surrenders, hp])
  | beat =>
    refine tend_outcome hp (beat_abreast c s.sequence now) (fun a ha => ?_) (by simp [surrenders, hp])
    obtain ⟨m, hm, rfl⟩ := List.mem_map.1 (by simpa [goOn, Turn.still] using ha)
    rw [beat_sent hm]
  | missed =>
    have hk : s.surrenders now .missed = false := by simp [surrenders, hp]
    simp only [stepOnline]
    split
    · have h := (closeWith_next c queued (.resumable "zombied connection")
        (finish_closing_parted (.again true 0) now { s with status := .zombied })).of ((Alike.refl s).shown (by decide)) rfl
      rw [Turn.next_next, publish_eq, Turn.next_mk]
      exact .ends (hk ▸ h.after fun a ha => isParting_of_announce ha)
    · exact still_idles hk
  | opened | refused | timeout | stop | abandon | take | abort => exact still_idles (by simp [surrenders, hp])
  | submit ticket m => exact absurd rfl (hx ticket m)

/-- There are no other ways. -/
theorem step_outcome (now : Nat) (x : Stimulus) (s : Shard) : Outcome now s x (step now x s) := by
  cases x with
  | submit ticket m => exact submit_outcome now ticket m s
  | stop =>
    have hk : s.surrenders now .stop = false := by unfold surrenders; split <;> simp_all
    simp only [step]
    split
    · exact still_idles hk
    · refine .idles rfl (fun k h => ?_) (by simp [Turn.still]) hk
      rcases List.mem_append.1 h with h | h
      · exact .inl h
      · simp only [List.mem_singleton] at h; subst h; exact .inr rfl
  | abandon =>
    have hk : s.surrenders now .abandon = false := by unfold surrenders; split <;> simp_all
    exact .idles rfl (fun _ h => .inl h) (by simp [step, Turn.still]) hk
  | take => exact take_outcome now s
  | timeout => exact expire_outcome now s
  | abort => exact abort_outcome now s
  | opened =>
    cases hp : s.phase with
    | dialling resume deadline =>
      simp only [step, hp, goOn, publish_eq, Turn.still, Turn.next_mk]
      exact .opens hp
    | online c queued =>
      simp only [step, hp]
      exact stepOnline_outcome hp (by simp)
    | waiting _ | ended =>
      simp only [step, hp]
      exact still_idles (by simp [surrenders, hp])
  | refused =>
    cases hp : s.phase with
    | dialling resume deadline =>
      have hk : (Finish.again resume 0).keeps = !s.surrenders now .refused := by simp [surrenders, hp, Finish.keeps]
      simp only [step, hp]
      exact .ends (Parted.ends (hk ▸ finish_parted _ now s) fun c q hq => by simp [hp] at hq)
    | online c queued =>
      simp only [step, hp]
      exact stepOnline_outcome hp (by simp)
    | waiting _ | ended =>
      simp only [step, hp]
      exact still_idles (by simp [surrenders, hp])
  | text _ _ | closed _ | dropped | receiverGone | granted | beat | missed =>
    cases hp : s.phase with
    | online c queued =>
      simp only [step, hp]
      exact stepOnline_outcome hp (by simp)
    | dialling _ _ | waiting _ | ended =>
      simp only [step, hp]
      exact still_idles (by simp [surrenders, hp])

/-- A shard keeps its profile. -/
theorem step_profile (now : Nat) (x : Stimulus) (s : Shard) : (s.step now x).shard.profile = s.profile := by
  have ho := step_outcome now x s
  generalize s.step now x = t at ho ⊢
  cases ho with
  | idles shard | tends _ _ _ shard => rw [shard]
  | dials => rw [dial_eq]
  | ends he => exact he.profile
  | _ => rfl

end Shardwire.Shard
