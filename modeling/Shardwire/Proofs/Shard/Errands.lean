import Shardwire.Proofs.Shard.Parting

/-
What becomes of the messages that callers leave in a shard's mailbox.

A message is sent, refused, or left where it is. A step takes messages off the front of the mailbox only: it refuses
each of them (`Declines`), or it takes one, which goes out on a connection that is ready and is answered at once
(`Carries`). `step_errands`: there is no third way, whatever happens to the shard. A shard that has ended has none left,
so that those it ends with are all refused (`step_idle`).
-/

namespace Shardwire.Shard

/-- a caller's message, with its ticket -/
def Command.errand? : Command → Option (Nat × Message)
  | .send ticket m => some (ticket, m)
  | .stop => none

/-- the messages of callers that were not taken yet -/
def errands (s : Shard) : List (Nat × Message) := s.mailbox.filterMap Command.errand?

/-- what a caller is told -/
def Act.reply? : Act → Option (Nat × Option Fault)
  | .answer ticket fault => some (ticket, fault)
  | _ => none

/-- the ticket of a caller who is told that the message went out -/
def Act.accepted? : Act → Option Nat
  | .answer ticket none => some ticket
  | _ => none

/-- a command that goes out on the connection -/
def Act.command? : Act → Option Message
  | .write m => if m.op.isCommand then some m else none
  | _ => none

/-- whether no caller's message has to do with it -/
def Act.isOwn (a : Act) : Bool := a.reply?.isNone && a.command?.isNone

/-- the messages in `gone` are taken and refused, and none is sent -/
structure Refuses (s : Shard) (gone : List (Nat × Message)) (t : Turn) : Prop where
  id : t.shard.id = s.id
  errands : s.errands = gone ++ t.shard.errands
  replies : t.acts.filterMap Act.reply? = gone.map fun k => (k.1, some (.shardNotReady s.id))
  commands : t.acts.filterMap Act.command? = []
  ended : t.shard.isEnded = true → s.isEnded = true ∨ t.shard.errands = []

/-- every message that is taken is refused -/
def Declines (s : Shard) (t : Turn) : Prop := ∃ gone, Refuses s gone t

/-- the first message is sent on a ready connection, and its caller is told so -/
structure Carries (s : Shard) (ticket : Nat) (m : Message) (t : Turn) : Prop where
  online : ∃ c queued, s.phase = .online c queued ∧ c.status = .ready ∧ c.writable = true
  phase : t.shard.phase = s.phase
  id : t.shard.id = s.id
  errands : s.errands = (ticket, m) :: t.shard.errands
  acts : t.acts = [.write m, .answer ticket none]

theorem accepted_eq (acts : List Act) : acts.filterMap Act.accepted? =
    (acts.filterMap Act.reply?).filterMap fun r => if r.2 = none then some r.1 else none := by
  rw [List.filterMap_filterMap]
  refine congrArg (acts.filterMap ·) (funext fun a => ?_)
  cases a with
  | answer ticket fault => cases fault <;> rfl
  | _ => rfl

/-- Nobody who is refused is told that the message went out. -/
theorem Refuses.accepted {s : Shard} {gone : List (Nat × Message)} {t : Turn} (h : Refuses s gone t) :
    t.acts.filterMap Act.accepted? = [] := by
  rw [accepted_eq, h.replies, List.filterMap_eq_nil_iff]
  intro r hr
  obtain ⟨k, -, rfl⟩ := List.mem_map.1 hr
  rfl

/-! ## What concerns no caller -/

theorem Refuses.next {s : Shard} {t : Turn} {f : Shard → Turn} {gone gone' : List (Nat × Message)}
    (h : Refuses s gone t) (h' : Refuses t.shard gone' (f t.shard)) : Refuses s (gone ++ gone') (t.next f) where
  id := h'.id.trans h.id
  errands := by rw [h.errands, h'.errands, List.append_assoc]; rfl
  replies := by
    rw [Turn.next, List.filterMap_append, h.replies, h'.replies, h.id, List.map_append]
  commands := by
    rw [Turn.next, List.filterMap_append, h.commands, h'.commands]
    rfl
  ended := by
    intro he
    rcases h'.ended he with before | none
    · refine (h.ended before).imp_right fun none => ?_
      exact (List.append_eq_nil_iff.1 (h'.errands ▸ none)).2
    · exact .inr none

theorem Declines.next {s : Shard} {t : Turn} {f : Shard → Turn} (h : Declines s t)
    (h' : Declines t.shard (f t.shard)) : Declines s (t.next f) := by
  obtain ⟨gone, h⟩ := h
  obtain ⟨gone', h'⟩ := h'
  exact ⟨gone ++ gone', h.next h'⟩

theorem isOwn_iff {a : Act} : a.isOwn = true ↔ a.reply? = none ∧ a.command? = none := by
  simp [Act.isOwn]

/-- Nothing is taken where the mailbox stays as it is and no caller is concerned. -/
theorem Declines.own {s : Shard} {t : Turn} (id : t.shard.id = s.id) (errands : t.shard.errands = s.errands)
    (ended : t.shard.isEnded = true → s.isEnded = true) (acts : ∀ a ∈ t.acts, a.isOwn = true) : Declines s t := by
  refine ⟨[], id, errands.symm, ?_, ?_, fun he => .inl (ended he)⟩
  · exact List.filterMap_eq_nil_iff.2 fun a ha => (isOwn_iff.1 (acts a ha)).1
  · exact List.filterMap_eq_nil_iff.2 fun a ha => (isOwn_iff.1 (acts a ha)).2

theorem still_declines (s : Shard) : Declines s (.still s) := .own rfl rfl (fun h => h) (by simp [Turn.still])

theorem isOwn_of_announce (st : Status) (s : Shard) : ∀ a ∈ announce st s, a.isOwn = true := by
  intro a ha
  rw [eq_of_mem_announce ha]
  rfl

theorem publish_declines (st : Status) (s : Shard) : Declines s (publish st s) := by
  rw [publish_eq]
  exact .own rfl rfl (fun h => h) (isOwn_of_announce st s)

theorem act_declines {a : Act} (ha : a.isOwn = true) (s : Shard) : Declines s (act a s) :=
  .own rfl rfl (fun h => h) (by simpa [act] using ha)

theorem goOn_declines (c : Connection) (queued : Bool) (s : Shard) : Declines s (goOn c queued s) :=
  .own rfl rfl nofun (by simp [goOn, Turn.still])

/-! ## Endings -/

/-- A shard that leaves refuses what is left. -/
theorem leave_declines (s : Shard) : Declines s (leave s) := by
  refine ⟨s.errands, rfl, by simp [leave, errands], ?_, ?_, fun _ => .inr rfl⟩
  · have each : (fun k => (s.refusal k).bind Act.reply?) =
        fun k => (Command.errand? k).map fun e => (e.1, some (Fault.shardNotReady s.id)) := by
      funext k
      cases k <;> rfl
    rw [leave, errands, List.filterMap_filterMap, List.map_filterMap, each]
  · refine List.filterMap_eq_nil_iff.2 fun a ha => ?_
    obtain ⟨k, -, hk⟩ := List.mem_filterMap.1 ha
    cases k <;> cases hk
    rfl

theorem giveUp_declines (f : Fault) (s : Shard) : Declines s (giveUp f s) :=
  ((publish_declines .failed s).next (act_declines rfl _)).next (leave_declines _)

theorem retry_declines (extra now : Nat) (s : Shard) : Declines s (retry extra now s) := by
  unfold retry
  split
  · exact .own rfl rfl nofun (by simp [Turn.still])
  · exact giveUp_declines _ s

/-- Between two functions of a turn, only what no caller sees of the shard changes. -/
theorem Declines.of {s s' : Shard} {t : Turn} (h : Declines s' t) (id : s'.id = s.id)
    (errands : s'.errands = s.errands) (ended : s'.isEnded = true → s.isEnded = true) : Declines s t := by
  obtain ⟨gone, h⟩ := h
  exact ⟨gone, h.id.trans id, errands ▸ h.errands, id ▸ h.replies, h.commands, fun he => (h.ended he).imp_left ended⟩

theorem finish_declines (f : Finish) (now : Nat) (s : Shard) : Declines s (finish f now s) := by
  simp only [finish, settleBackoff_rested]
  cases f with
  | stopped =>
    have went := (publish_declines .disconnected { s with readySince := none, backoff := s.rested now }).next
      (leave_declines _)
    exact went.of rfl rfl fun h => h
  | fatal fault => exact (giveUp_declines fault _).of rfl rfl fun h => h
  | again resume extra =>
    refine Declines.of (?_ : Declines { s with readySince := none, backoff := s.rested now } _) rfl rfl fun h => h
    refine (publish_declines .disconnected _).next ?_
    cases resume <;> exact (retry_declines extra now _).of rfl rfl fun h => h

theorem hangUp_declines (queued : Bool) (s : Shard) : Declines s (hangUp queued s) := by
  refine .own rfl rfl (fun h => h) ?_
  cases queued <;> simp [hangUp, Act.isOwn, Act.reply?, Act.command?]

theorem lose_declines (queued : Bool) (now : Nat) (s : Shard) : Declines s (lose queued now s) :=
  (hangUp_declines queued s).next (finish_declines _ now _)

theorem closeWith_declines (c : Connection) (queued : Bool) (closure : Closure) (s : Shard) :
    Declines s (closeWith c queued closure s) := by
  refine ((publish_declines .closing s).next (.own rfl rfl (fun h => h) ?_)).next (hangUp_declines queued _)
  intro a ha
  split at ha <;> simp only [List.mem_singleton, List.not_mem_nil] at ha
  rw [ha]
  rfl

theorem abort_declines (s : Shard) : Declines s (abort s) := by
  unfold abort
  split
  · exact (hangUp_declines _ s).next (leave_declines _)
  · exact still_declines s
  · exact leave_declines s

/-! ## A connection -/

section Online

variable {now : Nat} {s : Shard} {c : Connection} {queued : Bool}

theorem greet_declines (interval draw : Nat) : Declines s (greet c queued interval draw now s) := by
  unfold greet
  refine (publish_declines .identifying s).next ?_
  split
  · split
    · exact (goOn_declines _ queued _).next (act_declines rfl _)
    · exact lose_declines queued now _
  · exact (goOn_declines _ true _).next (act_declines rfl _)

theorem identify_declines : Declines s (identify c now s) := by
  refine Declines.of (?_ : Declines s.forget _) rfl rfl fun h => h
  unfold identify
  dsimp only
  split
  · exact (goOn_declines _ false _).next (act_declines rfl _)
  · exact lose_declines false now _

theorem markReady_declines : Declines s (markReady c queued now s) := by
  refine Declines.of (publish_declines .ready _) rfl rfl nofun

theorem dispatch_declines (d : Dispatch) : Declines s (dispatch c queued d now s) := by
  unfold dispatch
  split
  · exact goOn_declines c queued s
  · refine Declines.next ?_ (act_declines rfl _)
    split
    · split
      · exact markReady_declines.of rfl rfl fun h => h
      · exact (goOn_declines c queued _).of rfl rfl fun h => h
    · exact markReady_declines.of rfl rfl fun h => h
    · exact (goOn_declines c queued _).of rfl rfl fun h => h

theorem receive_declines (e : Event) (draw : Nat) : Declines s (receive c queued e draw now s) := by
  cases e with
  | hello p =>
    simp only [receive]
    split
    · exact greet_declines _ draw
    · exact goOn_declines c queued s
  | heartbeat seq =>
    simp only [receive]
    split
    · exact (goOn_declines c queued s).next (act_declines rfl _)
    · exact lose_declines queued now s
  | reconnect => exact (closeWith_declines c queued _ s).next (finish_declines _ now _)
  | invalidSession resumable =>
    simp only [receive, invalidate]
    split
    · exact (closeWith_declines c queued _ s).next (finish_declines _ now _)
    · refine Declines.of (?_ : Declines s.forget _) rfl rfl fun h => h
      exact (closeWith_declines c queued _ _).next (finish_declines _ now _)
  | dispatch d => exact dispatch_declines d
  | heartbeatAck | identify _ | presenceUpdate _ | resume _ | requestGuildMembers _ => exact goOn_declines _ queued s

theorem beat_declines : Declines s ((goOn (c.beat s.sequence now).1 queued s).next
    fun s' => ⟨s', (c.beat s.sequence now).2.map .write⟩) := by
  refine (goOn_declines _ queued s).next (.own rfl rfl (fun h => h) fun a ha => ?_)
  obtain ⟨m, hm, rfl⟩ := List.mem_map.1 ha
  rw [beat_sent hm]
  rfl

theorem stepOnline_declines (x : Stimulus) : Declines s (stepOnline c queued now x s) := by
  cases x with
  | text text draw =>
    simp only [stepOnline]
    split
    · exact receive_declines _ draw
    · exact still_declines s
  | closed closure => exact (hangUp_declines queued s).next (finish_declines _ now _)
  | dropped => exact lose_declines queued now s
  | receiverGone => exact goOn_declines _ queued s
  | granted =>
    simp only [stepOnline]
    split
    · exact identify_declines
    · exact still_declines s
  | beat => exact beat_declines
  | missed =>
    simp only [stepOnline]
    split
    · exact ((publish_declines .zombied s).next (closeWith_declines c queued _ _)).next (finish_declines _ now _)
    · exact still_declines s
  | opened | refused | timeout | submit _ _ | stop | abandon | take | abort => exact still_declines s

end Online

/-! ## Commands -/

/-- The first message is refused. -/
theorem refuse_declines {s : Shard} {ticket : Nat} {m : Message} {rest : List Command}
    (hm : s.mailbox = .send ticket m :: rest) :
    Declines s (act (.answer ticket (some (.shardNotReady s.id))) { s with mailbox := rest }) :=
  ⟨[(ticket, m)], rfl, by simp [errands, hm, act, Command.errand?], by simp [act, Act.reply?],
    by simp [act, Act.command?], .inl⟩

/-- It goes out if the connection is ready and takes it, and is refused otherwise. -/
theorem obey_errands (now : Nat) {s : Shard} {ticket : Nat} {m : Message} {rest : List Command}
    (hm : s.mailbox = .send ticket m :: rest) :
    Declines s (obey ticket m now { s with mailbox := rest }) ∨
      Carries s ticket m (obey ticket m now { s with mailbox := rest }) := by
  unfold obey
  dsimp only
  split
  · next c queued hp =>
    split
    · next ready =>
      split
      · next writable =>
        have shown : c.status = .ready := by simpa [Status.isReady] using ready
        exact .inr ⟨⟨c, queued, hp, shown, writable⟩, rfl, rfl, by simp [errands, hm, act, Command.errand?], rfl⟩
      · exact .inl ((refuse_declines hm).next (lose_declines queued now _))
    · exact .inl (refuse_declines hm)
  · exact .inl (refuse_declines hm)

theorem halt_declines (now : Nat) (s : Shard) : Declines s (halt now s) := by
  unfold halt
  split
  · exact finish_declines .stopped now s
  · exact (closeWith_declines _ _ .normal s).next (finish_declines .stopped now _)
  · exact leave_declines s
  · exact still_declines s

theorem take_errands (now : Nat) (s : Shard) :
    Declines s (take now s) ∨ ∃ ticket m, Carries s ticket m (take now s) := by
  unfold take
  split
  · next ticket m rest hm => exact (obey_errands now hm).imp_right fun h => ⟨ticket, m, h⟩
  · next rest hm =>
    have same : errands { s with mailbox := rest } = s.errands := by
      simp [errands, hm, List.filterMap_cons, Command.errand?]
    exact .inl ((halt_declines now _).of rfl same fun h => h)
  · split
    · exact .inl (still_declines s)
    · exact .inl (halt_declines now s)

theorem expire_declines (now : Nat) (s : Shard) : Declines s (expire now s) := by
  unfold expire
  split
  · split
    · exact finish_declines _ now s
    · exact still_declines s
  · split
    · split
      · exact (closeWith_declines _ _ _ s).next (finish_declines _ now _)
      · exact still_declines s
    · exact still_declines s
  · split
    · rw [dial_eq]
      refine .own rfl rfl nofun fun a ha => ?_
      rcases List.mem_append.1 ha with ha | ha
      · exact isOwn_of_announce _ s a ha
      · rw [List.mem_singleton.1 ha]
        rfl
    · exact still_declines s
  · exact still_declines s

theorem stop_declines (s : Shard) :
    Declines s (.still (if s.isEnded then s else { s with mailbox := s.mailbox ++ [.stop] })) := by
  split
  · exact still_declines s
  · exact .own rfl (by simp [Turn.still, errands, List.filterMap_append, Command.errand?]) (fun h => h)
      (by simp [Turn.still])

/-- whether a caller has a message sent -/
def Stimulus.isSubmit : Stimulus → Bool
  | .submit _ _ => true
  | _ => false

/-- Messages that a step takes out of the mailbox are refused, or it is one, which goes out while the connection is
ready. -/
theorem step_errands (now : Nat) {x : Stimulus} (hx : x.isSubmit = false) (s : Shard) :
    Declines s (s.step now x) ∨ ∃ ticket m, Carries s ticket m (s.step now x) := by
  cases x with
  | submit => cases hx
  | take => exact take_errands now s
  | stop => exact .inl (stop_declines s)
  | abandon => exact .inl (.own rfl rfl (fun h => h) (by simp [step, Turn.still]))
  | timeout => exact .inl (expire_declines now s)
  | abort => exact .inl (abort_declines s)
  | opened | refused | text _ _ | closed _ | dropped | receiverGone | granted | beat | missed =>
    refine .inl ?_
    cases hp : s.phase with
    | online c queued =>
      simp only [step, hp]
      exact stepOnline_declines _
    | waiting _ | ended =>
      simp only [step, hp]
      exact still_declines s
    | dialling resume deadline =>
      simp only [step, hp]
      first
      | exact still_declines s
      | exact finish_declines _ now s
      | exact (goOn_declines _ false s).next (publish_declines .awaitingHello _)

theorem Carries.running {s : Shard} {ticket : Nat} {m : Message} {t : Turn} (h : Carries s ticket m t) :
    t.shard.isEnded = false := by
  obtain ⟨c, queued, hp, -⟩ := h.online
  simp [isEnded, h.phase, hp]

/-- whether no messages are left once it has ended -/
def Idle (s : Shard) : Prop := s.isEnded = true → s.errands = []

theorem step_idle (now : Nat) {x : Stimulus} (hx : x.isSubmit = false) {s : Shard} (h : s.Idle) :
    (s.step now x).shard.Idle := by
  intro he
  rcases step_errands now hx s with ⟨gone, declines⟩ | ⟨ticket, m, carries⟩
  · rcases declines.ended he with before | none
    · exact (List.append_eq_nil_iff.1 (declines.errands ▸ h before)).2
    · exact none
  · cases carries.running.symm.trans he

/-! ## The way into the mailbox -/

/-- a message comes into the mailbox, unless the shard has ended -/
def letIn (ticket : Nat) (m : Message) (s : Shard) : Turn :=
  if s.isEnded then act (.answer ticket (some (.shardNotReady s.id))) s
  else .still { s with mailbox := s.mailbox ++ [.send ticket m] }

/-- A caller who meets a ready shard is admitted. -/
theorem submit_ready {s : Shard} (ready : s.status.isReady = true) (ticket : Nat) (m : Message) :
    submit ticket m s = letIn ticket m s := by
  cases he : s.isEnded <;> simp [submit, letIn, ready, he]

/-- Every other caller is turned away. -/
theorem submit_unready {s : Shard} (unready : s.status.isReady = false) (ticket : Nat) (m : Message) :
    submit ticket m s = act (.answer ticket (some (.shardNotReady s.id))) s := by
  simp [submit, unready]

theorem letIn_running {s : Shard} (running : s.isEnded = false) (ticket : Nat) (m : Message) :
    letIn ticket m s = .still { s with mailbox := s.mailbox ++ [.send ticket m] } := by
  simp [letIn, running]

theorem letIn_ended {s : Shard} (ended : s.isEnded = true) (ticket : Nat) (m : Message) :
    letIn ticket m s = act (.answer ticket (some (.shardNotReady s.id))) s := by
  simp [letIn, ended]

end Shardwire.Shard
