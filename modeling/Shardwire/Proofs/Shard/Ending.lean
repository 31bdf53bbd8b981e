import Shardwire.Proofs.Shard.Identify

/-
How a shard ends.

A shard that nobody asks to stop runs until it fails, and is shown as failed from then on (`step_unasked`). One that has
ended answers callers and does nothing else, and is shown as it was for good (`step_ended`). A shard comes to be shown
as ready only by saying so (`step_readies`).
-/

namespace Shardwire.Shard

/-- whether a stimulus asks a shard to stop, or stops it by force -/
def Stimulus.isStop : Stimulus → Bool
  | .stop | .abandon | .abort => true
  | _ => false

/-- a shard whose callers are there, and that is over exactly if it has failed -/
structure Standing (s : Shard) : Prop where
  attended : s.attended = true
  ended : s.isEnded = true ↔ s.status = .failed

/-- a shard that nobody asked to stop -/
structure Unasked (s : Shard) : Prop extends Standing s where
  mailbox : .stop ∉ s.mailbox

/-! ## Until it fails -/

theorem giveUp_standing (f : Fault) {s : Shard} (h : s.attended = true) : Standing (giveUp f s).shard := by
  simp only [giveUp, publish_eq, act, Turn.next_mk]
  exact ⟨h, by simp [leave, isEnded]⟩

theorem retry_standing (extra now : Nat) {s : Shard} (h : s.attended = true) (hs : s.status = .disconnected) :
    Standing (retry extra now s).shard := by
  unfold retry
  split
  · exact ⟨h, by simp [Turn.still, isEnded, hs]⟩
  · exact giveUp_standing _ h

/-- What follows is another attempt, or a failure. -/
theorem finish_standing {f : Finish} (hf : f ≠ .stopped) (now : Nat) {s : Shard} (h : s.attended = true) :
    Standing (finish f now s).shard := by
  obtain ⟨b, hb⟩ := settleBackoff_eq now s
  simp only [finish, hb, publish_eq]
  cases f with
  | stopped => exact absurd rfl hf
  | fatal fault => exact giveUp_standing fault (by exact h)
  | again resume extra => cases resume <;> exact retry_standing extra now (by exact h) (by rfl)

theorem closeWith_standing (c : Connection) (queued : Bool) (closure : Closure) (resume : Bool) (now : Nat) {s : Shard}
    (h : s.attended = true) : Standing ((closeWith c queued closure s).next (finish (.again resume 0) now)).shard := by
  simp only [closeWith, publish_eq, hangUp, Turn.next_mk]
  exact finish_standing (f := .again resume 0) (by simp) now (by exact h)

theorem lose_standing (queued : Bool) (now : Nat) {s : Shard} (h : s.attended = true) :
    Standing (lose queued now s).shard :=
  finish_standing (f := .again true 0) (by simp) now h

/-- A connection goes on. -/
theorem online_standing {s : Shard} {c : Connection} {queued : Bool} (h : s.attended = true)
    (hp : s.phase = .online c queued) (hs : s.status ≠ .failed) : Standing s :=
  ⟨h, by simp [isEnded, hp, hs]⟩

section Online

variable {now : Nat} {s : Shard} {c : Connection} {queued : Bool}

theorem greet_standing (interval draw : Nat) (h : s.attended = true) :
    Standing (greet c queued interval draw now s).shard := by
  simp only [greet, publish_eq, Turn.next_mk]
  split
  · split
    · exact online_standing (by exact h) rfl (by simp [goOn, act, Turn.still, Turn.next])
    · exact lose_standing queued now (by exact h)
  · exact online_standing (by exact h) rfl (by simp [goOn, act, Turn.still, Turn.next])

theorem dispatch_standing (d : Dispatch) (h : s.attended = true) (hp : s.phase = .online c queued)
    (hs : s.status ≠ .failed) : Standing (dispatch c queued d now s).shard := by
  cases hq : s.sequence.advance? d.seq with
  | none => exact dispatch_eq_still hp hq ▸ online_standing h hp hs
  | some seq =>
    cases hf : finishes d with
    | false => exact dispatch_eq_pass hp hq hf ▸ online_standing (by exact h) (by exact hp) hs
    | true =>
      rcases finishes_eq_true hf with ⟨p, hk, hr⟩ | hk
      · exact dispatch_eq_ready hq hk hr ▸ online_standing (by exact h) rfl (by simp)
      · exact dispatch_eq_resumed hq hk ▸ online_standing (by exact h) rfl (by simp)

theorem receive_standing (e : Event) (draw : Nat) (h : s.attended = true) (hp : s.phase = .online c queued)
    (hs : s.status ≠ .failed) : Standing (receive c queued e draw now s).shard := by
  cases e with
  | hello p =>
    simp only [receive]
    split
    · exact greet_standing _ draw h
    · exact online_standing (by exact h) rfl (by exact hs)
  | heartbeat seq =>
    simp only [receive]
    split
    · exact online_standing (by exact h) rfl (by exact hs)
    · exact lose_standing queued now h
  | reconnect => exact closeWith_standing c queued _ true now h
  | invalidSession resumable =>
    simp only [receive, invalidate]
    split
    · exact closeWith_standing c queued _ true now h
    · exact closeWith_standing c queued _ false now (by exact h)
  | dispatch d => exact dispatch_standing d h hp hs
  | heartbeatAck | identify _ | presenceUpdate _ | resume _ | requestGuildMembers _ =>
    exact online_standing (by exact h) rfl (by exact hs)

theorem stepOnline_standing (x : Stimulus) (h : s.attended = true) (hp : s.phase = .online c queued)
    (hs : s.status ≠ .failed) : Standing (stepOnline c queued now x s).shard := by
  cases x with
  | text text draw =>
    simp only [stepOnline]
    split
    · exact receive_standing _ draw h hp hs
    · exact online_standing h hp hs
  | closed closure =>
    exact finish_standing (by unfold afterClosure; dsimp only; split <;> simp) now (by exact h)
  | dropped => exact lose_standing queued now h
  | granted =>
    simp only [stepOnline]
    split
    · unfold identify
      dsimp only
      split
      · exact online_standing (by exact h) rfl (by exact hs)
      · exact lose_standing false now (by exact h)
    · exact online_standing h hp hs
  | receiverGone | beat => exact online_standing (by exact h) rfl (by exact hs)
  | missed =>
    simp only [stepOnline]
    split
    · rw [Turn.next_next, publish_eq, Turn.next_mk]
      exact closeWith_standing c queued _ true now (by exact h)
    · exact online_standing h hp hs
  | _ => exact online_standing h hp hs

end Online

theorem expire_standing (now : Nat) {s : Shard} (h : Standing s) : Standing (expire now s).shard := by
  unfold expire
  split
  · next resume deadline hp =>
    split
    · exact finish_standing (f := .again resume 0) (by simp) now h.attended
    · exact h
  · next c queued hp =>
    split
    · split
      · exact closeWith_standing c queued _ true now h.attended
      · exact h
    · exact h
  · split
    · rw [dial_eq]
      exact ⟨h.attended, by simp [isEnded]⟩
    · exact h
  · exact h

theorem take_standing (now : Nat) {s : Shard} (h : Unasked s) : Standing (take now s).shard := by
  unfold take
  split
  · next ticket m rest hm =>
    have same : Standing { s with mailbox := rest } := ⟨h.attended, h.ended⟩
    unfold obey
    dsimp only
    split
    · next c queued hp =>
      split
      · split
        · exact same
        · exact lose_standing queued now h.attended
      · exact same
    · exact same
  · next rest hm => exact absurd (by simp [hm]) h.mailbox
  · rw [if_pos h.attended]
    exact h.toStanding

theorem step_standing (now : Nat) {x : Stimulus} (hx : x.isStop = false) {s : Shard} (h : Unasked s) :
    Standing (s.step now x).shard := by
  cases x with
  | stop | abandon | abort => cases hx
  | submit ticket m =>
    simp only [step, submit]
    split
    · exact ⟨h.attended, h.ended⟩
    · exact h.toStanding
  | take => exact take_standing now h
  | timeout => exact expire_standing now h.toStanding
  | opened | refused | text _ _ | closed _ | dropped | receiverGone | granted | beat | missed =>
    cases hp : s.phase with
    | dialling resume deadline =>
      simp only [step, hp]
      first
      | exact h.toStanding
      | exact finish_standing (f := .again resume 0) (by simp) now h.attended
      | simp only [goOn, publish_eq, Turn.still, Turn.next_mk]
        exact online_standing (by exact h.attended) rfl (by simp)
    | online c queued =>
      have running : s.status ≠ .failed := fun hs => by simpa [isEnded, hp] using h.ended.2 hs
      simp only [step, hp]
      exact stepOnline_standing _ h.attended hp running
    | waiting _ | ended =>
      simp only [step, hp]
      exact h.toStanding

/-- A shard that nobody asks to stop is over only once it has failed. -/
theorem step_unasked (now : Nat) {x : Stimulus} (hx : x.isStop = false) {s : Shard} (h : Unasked s) :
    Unasked (s.step now x).shard where
  toStanding := step_standing now hx h
  mailbox := by
    intro hm
    rcases (step_keeps now x s).2 _ hm with hm | hm
    · exact h.mailbox hm
    · cases x <;> simp [Stimulus.command?, Stimulus.isStop] at hm hx

theorem launch_unasked (profile : ShardProfile) (address : ShardAddress) (now : Nat) :
    Unasked (launch profile address now).shard :=
  ⟨⟨rfl, by simp [launch, dial_eq, isEnded]⟩, by simp [launch, dial_eq, fresh]⟩

/-- Whoever waits for it has an answer once it is ready or has failed. -/
theorem Standing.settled_iff {s : Shard} (h : Standing s) :
    s.isSettled = true ↔ s.status = .ready ∨ s.status = .failed := by
  simp only [isSettled, Status.isSettled, Status.isReady, Status.isTerminal, Bool.or_eq_true, beq_iff_eq, h.ended,
    or_assoc, or_self]

/-! ## After the end -/

/-- A shard that has ended does nothing but answer callers. -/
theorem step_ended (now : Nat) (x : Stimulus) {s : Shard} (h : s.isEnded = true) :
    (s.step now x).shard.isEnded = true ∧ (s.step now x).shard.status = s.status ∧
      ∀ a ∈ (s.step now x).acts, a.isAnswer = true := by
  have finished : s.phase = .ended := by
    cases hp : s.phase <;> simp [isEnded, hp] at h ⊢
  have still : (Turn.still s).shard.isEnded = true ∧ (Turn.still s).shard.status = s.status ∧
      ∀ a ∈ (Turn.still s).acts, a.isAnswer = true := ⟨h, rfl, by simp [Turn.still]⟩
  cases x with
  | submit ticket m =>
    simp only [step, submit, h, Bool.not_true, Bool.and_false, Bool.false_eq_true, if_false]
    exact ⟨h, rfl, by simp [act, Act.isAnswer]⟩
  | stop => simpa only [step, h, if_true] using still
  | abandon => exact ⟨h, rfl, by simp [step, Turn.still]⟩
  | take =>
    simp only [step, take]
    split
    · simp only [obey, finished]
      exact ⟨rfl, rfl, by simp [act, Act.isAnswer]⟩
    · simp only [halt, finished]
      exact ⟨rfl, rfl, by simp [Turn.still]⟩
    · split
      · exact still
      · simpa only [halt, finished] using still
  | timeout => simpa only [step, expire, finished] using still
  | abort => simpa only [step, abort, finished] using still
  | opened | refused | text _ _ | closed _ | dropped | receiverGone | granted | beat | missed =>
    simpa only [step, finished] using still

theorem abort_ends (s : Shard) : (abort s).shard.isEnded = true := by
  unfold abort
  split
  · rfl
  · next finished => simp [Turn.still, isEnded, finished]
  · rfl

/-! ## Becoming ready -/

/-- Whoever is shown as ready said so when it became so. -/
theorem step_readies (now : Nat) (x : Stimulus) (s : Shard) (hr : (s.step now x).shard.status = .ready) :
    s.status = .ready ∨ .publish .ready ∈ (s.step now x).acts := by
  by_cases hs : s.status = .ready
  · exact .inl hs
  have ho := step_outcome now x s
  generalize s.step now x = t at ho hr ⊢
  cases ho with
  | idles shard mailbox acts kept => exact .inl ((congrArg status shard).symm.trans hr)
  | tends c' online abreast shard mailbox acts kept => exact .inl ((congrArg status shard).symm.trans hr)
  | dials waiting => rw [dial_eq] at hr; cases hr
  | opens | resumes | queues => cases hr
  | identifies | passes => exact .inl hr
  | readies | revives => exact .inr (by simp [announce, hs])
  | ends he => exact .inl (he.status hr).2

end Shardwire.Shard
