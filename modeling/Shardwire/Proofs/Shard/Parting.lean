import Shardwire.Proofs.Shard.Outcome

/-
Why connections end, and how a shard goes on.

`ending?` lists the ways in which a stimulus ends a connection, or the attempt to get one: how the shard goes on, and
the close frame it sends before. `step_course` says that there are no others, but for a stop while no connection is
there or asked for, and for a stop by force.

What comes after an ending depends on the backoff alone, see `finish_waits` and `finish_exhausts`.
-/

namespace Shardwire

theorem CloseCode.classify_rateLimited : CloseCode.classify (some CloseCode.rateLimited.number) = .resume := by decide

namespace Shard

/-! ## Endings -/

/-- whether the next command to be taken is to stop; a shard that nobody can reach any more stops, too -/
def stopsNext (s : Shard) : Bool :=
  match s.mailbox with
  | .stop :: _ => true
  | .send _ _ :: _ => false
  | [] => !s.attended

/-- whether a call for an identify permit is out -/
def isQueued (s : Shard) : Bool :=
  match s.phase with
  | .online _ queued => queued
  | _ => false

/-- how a connection ends, or the attempt to get one -/
structure Ending where
  finish : Finish
  /-- the close frame that is sent before, if its receiver is there -/
  closure : Option Closure

namespace Ending

/-- the connection is gone, or takes no frames -/
def lost : Ending := ⟨.again true 0, none⟩

/-- the shard closes a connection whose session goes on -/
def recycled (reason : String) : Ending := ⟨.again true 0, some (.resumable reason)⟩

/-- the gateway says that the session is over -/
def declined : Ending := ⟨.again false 0, some .normal⟩

/-- there was no connection to be had -/
def unreached (resume : Bool) : Ending := ⟨.again resume 0, none⟩

end Ending

/-- the ending that an event brings -/
def endingEvent? (c : Connection) (s : Shard) : Event → Option Ending
  | .hello _ =>
    if c.status = .awaitingHello ∧ c.resuming = true ∧ s.resume?.isSome = true ∧ c.writable = false then some .lost
    else none
  | .heartbeat _ => if c.writable then none else some .lost
  | .reconnect => some (.recycled "reconnect requested")
  | .invalidSession resumable =>
    some (if resumable && s.session.isSome then .recycled "invalid session" else .declined)
  | _ => none

/-- the ending that the next command brings -/
def endingCommand? (c : Connection) (s : Shard) : Option Ending :=
  match s.mailbox with
  | .send _ _ :: _ => if c.status.isReady && !c.writable then some .lost else none
  | _ => if s.stopsNext then some ⟨.stopped, some .normal⟩ else none

/-- the ending of an open connection -/
def endingOnline? (c : Connection) (queued : Bool) (now : Nat) (s : Shard) : Stimulus → Option Ending
  | .text text _ =>
    match Event.decode text with
    | .ok e => s.endingEvent? c e
    | .error _ => none
  | .closed closure => some ⟨afterClosure c closure, none⟩
  | .dropped => some .lost
  | .granted => if queued && !c.writable then some .lost else none
  | .missed => if c.isZombie then some (.recycled "zombied connection") else none
  | .timeout => if s.timeoutDue?.any fun d => d ≤ now then some (.recycled "handshake timed out") else none
  | .take => s.endingCommand? c
  | _ => none

/-- the ending that a stimulus brings -/
def ending? (now : Nat) (s : Shard) (x : Stimulus) : Option Ending :=
  match s.phase with
  | .dialling resume deadline =>
    match x with
    | .refused => some (.unreached resume)
    | .timeout => if deadline ≤ now then some (.unreached resume) else none
    | .take => if s.stopsNext then some ⟨.stopped, none⟩ else none
    | _ => none
  | .online c queued => s.endingOnline? c queued now x
  | _ => none

/-- whether a stop is taken -/
def takesStop (s : Shard) : Stimulus → Bool
  | .take => s.stopsNext
  | _ => false

/-- whether the gateway says that the session is over: it is not to be resumed, or there is none -/
def loses (s : Shard) : Stimulus → Bool
  | .text text _ =>
    match Event.decode text with
    | .ok (.invalidSession resumable) => !(resumable && s.session.isSome)
    | _ => false
  | _ => false

/-- the occasions on which a connection ends, or the attempt to get one -/
inductive Occasion (s : Shard) : Stimulus → Ending → Prop where
  | stop {x : Stimulus} {closure : Option Closure} (stops : s.takesStop x = true)
      (normal : closure = none ∨ closure = some .normal) : Occasion s x ⟨.stopped, closure⟩
  | decline {x : Stimulus} (goesOn : s.takesStop x = false) (gone : s.loses x = true) : Occasion s x .declined
  | recycle {x : Stimulus} (reason : String) (goesOn : s.takesStop x = false) (kept : s.loses x = false) :
      Occasion s x (.recycled reason)
  | lose {x : Stimulus} : Occasion s x .lost
  | unreach {x : Stimulus} {resume : Bool} {deadline : Nat} (dialling : s.phase = .dialling resume deadline) :
      Occasion s x (.unreached resume)
  | close {c : Connection} {queued : Bool} {closure : Option Closure} (online : s.phase = .online c queued) :
      Occasion s (.closed closure) ⟨afterClosure c closure, none⟩

theorem ending_occasion {now : Nat} {s : Shard} {x : Stimulus} {e : Ending} (he : s.ending? now x = some e) :
    Occasion s x e := by
  cases hp : s.phase with
  | waiting | ended => simp [ending?, hp] at he
  | dialling resume deadline =>
    simp only [ending?, hp] at he
    split at he
    · cases he
      exact .unreach hp
    · split at he <;> cases he
      exact .unreach hp
    · split at he <;> cases he
      next h => exact .stop h (.inl rfl)
    · cases he
  | online c queued =>
    simp only [ending?, hp] at he
    cases x with
    | text text draw =>
      simp only [endingOnline?] at he
      cases hd : Event.decode text with
      | error _ => simp [hd] at he
      | ok ev =>
        simp only [hd] at he
        cases ev with
        | invalidSession resumable =>
          simp only [endingEvent?, Option.some.injEq] at he
          split at he <;> subst he
          · next h => exact .recycle _ rfl (by simp [loses, hd, h])
          · next h => exact .decline rfl (by simp [loses, hd, h])
        | reconnect =>
          cases he
          exact .recycle _ rfl (by simp [loses, hd])
        | hello _ | heartbeat _ =>
          simp only [endingEvent?] at he
          split at he <;> cases he
          exact .lose
        | _ => cases he
    | missed | timeout =>
      simp only [endingOnline?] at he
      split at he <;> cases he
      exact .recycle _ rfl rfl
    | take =>
      simp only [endingOnline?, endingCommand?] at he
      split at he
      · split at he <;> cases he
        exact .lose
      · split at he <;> cases he
        next h => exact .stop h (.inr rfl)
    | granted =>
      simp only [endingOnline?] at he
      split at he <;> cases he
      exact .lose
    | closed closure =>
      cases he
      exact .close hp
    | dropped =>
      cases he
      exact .lose
    | _ => cases he

/-! ## After an ending -/

/-- the backoff, started over if the connection was ready for long enough -/
def rested (now : Nat) (s : Shard) : Backoff :=
  if s.readySince.any fun since => s.profile.stableAfter ≤ now - since then s.backoff.reset else s.backoff

theorem settleBackoff_rested (now : Nat) (s : Shard) :
    s.settleBackoff now = { s with readySince := none, backoff := s.rested now } := by
  unfold settleBackoff rested
  cases h : s.readySince with
  | none =>
    have same : s = { s with readySince := none } := by rw [← h]
    exact same
  | some since => simp

theorem giveUp_eq (f : Fault) (s : Shard) :
    giveUp f s = ⟨{ s with status := .failed, phase := .ended, mailbox := [] },
      announce .failed s ++ [.fail f] ++ s.mailbox.filterMap s.refusal⟩ := by
  simp only [giveUp, publish_eq, act, leave, Turn.next_mk]
  rfl

theorem finish_stops (now : Nat) (s : Shard) :
    finish .stopped now s =
      ⟨{ s with
          readySince := none, backoff := s.rested now, status := .disconnected, phase := .ended, mailbox := [] },
        announce .disconnected s ++ s.mailbox.filterMap s.refusal⟩ := by
  simp only [finish, settleBackoff_rested, publish_eq, leave, Turn.next_mk]
  rfl

theorem finish_fails (f : Fault) (now : Nat) (s : Shard) :
    finish (.fatal f) now s =
      ⟨{ s with
          readySince := none, backoff := s.rested now, status := .failed, phase := .ended, mailbox := [] },
        announce .failed s ++ [.fail f] ++ s.mailbox.filterMap s.refusal⟩ := by
  simp only [finish, settleBackoff_rested, giveUp_eq]
  rfl

/-- the shard keeps its session, or gives it up -/
def keeping (resume : Bool) (s : Shard) : Shard := if resume then { s with resumable := true } else s.forget

theorem finish_waits {resume : Bool} {extra now delay : Nat} {b : Backoff} {s : Shard}
    (h : (s.rested now).next? = some (delay, b)) :
    finish (.again resume extra) now s =
      ⟨{ s.keeping resume with
          readySince := none, backoff := b, status := .disconnected, phase := .waiting (now + delay + extra) },
        announce .disconnected s⟩ := by
  simp only [finish, settleBackoff_rested, publish_eq, Turn.next_mk]
  cases resume <;> simp [retry, forget, keeping, h, Turn.still, announce]

theorem finish_exhausts {resume : Bool} {extra now : Nat} {s : Shard} (h : (s.rested now).next? = none) :
    finish (.again resume extra) now s =
      ⟨{ s.keeping resume with
          readySince := none, backoff := s.rested now, status := .failed, phase := .ended, mailbox := [] },
        announce .disconnected s ++ .publish .failed :: .fail (.retriesExhausted s.id (s.rested now).attempts) ::
          s.mailbox.filterMap s.refusal⟩ := by
  simp only [finish, settleBackoff_rested, publish_eq, Turn.next_mk]
  cases resume <;> simp [retry, forget, keeping, h, giveUp_eq, announce] <;> exact ⟨rfl, rfl⟩

/-! ## Letting go -/

/-- the close frame it sends -/
def Act.closure? : Act → Option Closure
  | .close c => some c
  | _ => none

/-- the fault it reports -/
def Act.fault? : Act → Option Fault
  | .fail f => some f
  | _ => none

/-- whether it shows or reports that the shard has failed -/
def Act.admits : Act → Bool
  | .fail _ => true
  | .publish st => st = .failed
  | _ => false

theorem isAnswer_of_refusal {s : Shard} {l : List Command} {a : Act} (h : a ∈ l.filterMap s.refusal) :
    a.isAnswer = true := by
  obtain ⟨k, -, hk⟩ := List.mem_filterMap.1 h
  cases k <;> simp only [refusal, reduceCtorEq, Option.some.injEq] at hk
  rw [← hk]; rfl

/-- whether it only tells callers something, and not that the shard has failed -/
def Act.isRemark : Act → Bool
  | .publish st => st ≠ .failed
  | .answer _ _ => true
  | _ => false

theorem isRemark_of_announce (st : Status) (s : Shard) (hs : st ≠ .failed) :
    ∀ a ∈ announce st s, a.isRemark = true := by
  intro a ha
  rw [eq_of_mem_announce ha]
  exact decide_eq_true hs

/-- `s'` is `s` but for what an ending does not ask about -/
structure Akin (s s' : Shard) : Prop where
  profile : s'.profile = s.profile
  address : s'.address = s.address
  backoff : s'.backoff = s.backoff
  readySince : s'.readySince = s.readySince
  running : s.status ≠ .failed → s'.status ≠ .failed

namespace Akin

variable {s s' : Shard}

theorem refl (s : Shard) : Akin s s := ⟨rfl, rfl, rfl, rfl, fun h => h⟩

theorem shown (h : Akin s s') (st : Status) (hs : st ≠ .failed) : Akin s { s' with status := st } :=
  { h with running := fun _ => hs }

theorem left (h : Akin s s') (rest : List Command) : Akin s { s' with mailbox := rest } := { h with }

theorem forgetting (h : Akin s s') : Akin s s'.forget := { h with }

end Akin

/-- `s'` has let go of the connection of `s`, or of the attempt to get one; `acts` is what it did on the way -/
structure LetsGo (s : Shard) (x : Stimulus) (e : Ending) (s' : Shard) (acts : List Act) : Prop extends Akin s s' where
  parting : ∀ a ∈ acts, a.isParting = true
  quiet : ∀ a ∈ acts, a.admits = false
  closes : acts.filterMap Act.closure? = if s.isWritable then e.closure.toList else []
  /-- a call for a permit is taken back, unless the permit is there -/
  withdraws : .withdraw ∈ acts ↔ s.isQueued = true ∧ x ≠ .granted
  hangsUp : s.isOnline = true → .hangUp ∈ acts

/-- the connection, or the attempt to get one, ends, and the shard goes on as the ending says -/
def Concludes (now : Nat) (s : Shard) (x : Stimulus) (e : Ending) (t : Turn) : Prop :=
  ∃ s' acts, LetsGo s x e s' acts ∧ t = (⟨s', acts⟩ : Turn).next (finish e.finish now)

section Online

variable {now : Nat} {s s' : Shard} {x : Stimulus} {e : Ending} {c : Connection} {queued : Bool}

theorem LetsGo.after {acts pre : List Act} (h : LetsGo s x e s' acts) (hp : ∀ a ∈ pre, a.isRemark = true) :
    LetsGo s x e s' (pre ++ acts) where
  toAkin := h.toAkin
  parting := by
    intro a ha
    rcases List.mem_append.1 ha with ha | ha
    · have := hp a ha
      cases a <;> first | rfl | cases this
    · exact h.parting a ha
  quiet := by
    intro a ha
    rcases List.mem_append.1 ha with ha | ha
    · have := hp a ha
      cases a <;> simp_all [Act.admits, Act.isRemark]
    · exact h.quiet a ha
  closes := by
    have none : pre.filterMap Act.closure? = [] := List.filterMap_eq_nil_iff.2 fun a ha => by
      have := hp a ha
      cases a <;> first | rfl | cases this
    rw [List.filterMap_append, none, List.nil_append, h.closes]
  withdraws := by
    rw [← h.withdraws, List.mem_append, or_iff_right]
    intro ha
    cases hp _ ha
  hangsUp := fun online => List.mem_append_right _ (h.hangsUp online)

theorem Concludes.after {t : Turn} (h : Concludes now s x e t) (pre : List Act)
    (hp : ∀ a ∈ pre, a.isRemark = true) : Concludes now s x e ⟨t.shard, pre ++ t.acts⟩ := by
  obtain ⟨s', acts, hl, rfl⟩ := h
  exact ⟨s', pre ++ acts, hl.after hp, by simp [List.append_assoc]⟩

/-- No connection is there yet. -/
theorem unreached_concludes {resume : Bool} {deadline : Nat} (hp : s.phase = .dialling resume deadline)
    (akin : Akin s s') : Concludes now s x e (finish e.finish now s') := by
  refine ⟨s', [], ⟨akin, by simp, by simp, ?_, ?_, ?_⟩, rfl⟩
  · simp [isWritable, hp]
  · simp [isQueued, hp]
  · simp [isOnline, hp]

/-- The shard lets go of its connection, and says so to callers before. -/
theorem hangUp_letsGo (hp : s.phase = .online c queued) (akin : Akin s s') (waits : Bool)
    (hw : waits = true ↔ queued = true ∧ x ≠ .granted) (closes : List Act)
    (hc : closes = if c.writable then e.closure.toList.map .close else []) :
    LetsGo s x e s' (closes ++ (hangUp waits s').acts) := by
  have closing : ∀ a ∈ closes, ∃ k, a = .close k := by
    intro a ha
    rw [hc] at ha
    split at ha
    · obtain ⟨k, -, rfl⟩ := List.mem_map.1 ha
      exact ⟨k, rfl⟩
    · cases ha
  have hanging : ∀ a ∈ (hangUp waits s').acts, a = .withdraw ∨ a = .hangUp := by
    intro a ha
    cases waits <;> simp [hangUp] at ha
    · exact .inr ha
    · exact ha
  refine ⟨akin, fun a ha => ?_, fun a ha => ?_, ?_, ?_, ?_⟩
  case refine_5 => exact fun _ => List.mem_append_right _ (by cases waits <;> simp [hangUp])
  case refine_1 | refine_2 =>
    rcases List.mem_append.1 ha with ha | ha
    · obtain ⟨k, rfl⟩ := closing a ha
      rfl
    · rcases hanging a ha with rfl | rfl <;> rfl
  case refine_3 =>
    have none : (hangUp waits s').acts.filterMap Act.closure? = [] := List.filterMap_eq_nil_iff.2 fun a ha => by
      rcases hanging a ha with rfl | rfl <;> rfl
    have writable : s.isWritable = c.writable := by simp [isWritable, hp]
    rw [List.filterMap_append, none, List.append_nil, hc, writable]
    cases c.writable
    · rfl
    · cases e.closure <;> rfl
  case refine_4 =>
    have same : s.isQueued = queued := by simp [isQueued, hp]
    rw [same, ← hw, List.mem_append, or_iff_right]
    · cases waits <;> simp [hangUp]
    · intro ha
      obtain ⟨k, hk⟩ := closing _ ha
      cases hk

theorem lose_concludes (now : Nat) (hp : s.phase = .online c queued) (akin : Akin s s') (waits : Bool)
    (hw : waits = true ↔ queued = true ∧ x ≠ .granted) : Concludes now s x .lost (lose waits now s') :=
  ⟨s', (hangUp waits s').acts,
    hangUp_letsGo (e := .lost) hp akin waits hw [] (by cases c.writable <;> rfl), rfl⟩

/-- The shard closes its connection. -/
theorem closeWith_concludes (hp : s.phase = .online c queued) (akin : Akin s s') (hx : x ≠ .granted)
    {closure : Closure} (hc : e.closure = some closure) :
    Concludes now s x e ((closeWith c queued closure s').next (finish e.finish now)) := by
  have go := hangUp_letsGo (x := x) (e := e) hp (akin.shown .closing (by decide)) queued (by simp [hx]) _ rfl
  refine ⟨_, _, go.after (isRemark_of_announce .closing s' (by decide)), ?_⟩
  simp [closeWith, publish_eq, hangUp, Turn.next, List.append_assoc, hc]

end Online

/-- A shard that is stopped by force lets go of its connection, and tells callers. -/
theorem forall_abort {P : Act → Prop} (s : Shard) (withdraw : P .withdraw) (hangUp : P .hangUp)
    (answer : ∀ ticket fault, P (.answer ticket fault)) : ∀ a ∈ (abort s).acts, P a := by
  have refusals : ∀ a ∈ s.mailbox.filterMap s.refusal, P a :=
    forall_answers (fun _ ha => isAnswer_of_refusal ha) answer
  intro a ha
  unfold abort at ha
  split at ha
  · next c queued hp =>
    rcases List.mem_append.1 ha with ha | ha
    · cases queued <;> simp [Shard.hangUp] at ha
      · exact ha ▸ hangUp
      · rcases ha with rfl | rfl
        · exact withdraw
        · exact hangUp
    · exact refusals a ha
  · cases ha
  · exact refusals a ha

/-! ## There are no others -/

theorem take_cases (now : Nat) (s : Shard) :
    (∃ ticket m rest, s.mailbox = .send ticket m :: rest ∧ take now s = obey ticket m now { s with mailbox := rest }) ∨
      (s.stopsNext = true ∧ (∀ ticket m rest, s.mailbox ≠ .send ticket m :: rest) ∧
        ∃ rest, take now s = halt now { s with mailbox := rest }) ∨
      s.stopsNext = false ∧ s.mailbox = [] ∧ take now s = .still s := by
  unfold take stopsNext
  cases hm : s.mailbox with
  | nil =>
    by_cases ha : s.attended = true
    · exact .inr (.inr ⟨by simp [ha], rfl, if_pos ha⟩)
    · have same : s = { s with mailbox := [] } := by rw [← hm]
      refine .inr (.inl ⟨by simp [ha], nofun, [], ?_⟩)
      exact (if_neg ha).trans (congrArg (halt now) same)
  | cons k rest =>
    cases k with
    | send ticket m => exact .inl ⟨ticket, m, rest, rfl, rfl⟩
    | stop => exact .inr (.inl ⟨rfl, nofun, rest, rfl⟩)

/-- the ending comes about; if there is none, the connection, or the attempt to get one, goes on -/
def Follows (now : Nat) (s : Shard) (x : Stimulus) (e : Option Ending) (t : Turn) : Prop :=
  match e with
  | some e => Concludes now s x e t
  | none => t.shard.isOffline = false

section Online

variable {now : Nat} {s : Shard} {x : Stimulus} {c : Connection} {queued : Bool}

theorem isOffline_online {t : Shard} (hp : t.phase = .online c queued) : t.isOffline = false := by
  simp [isOffline, hp]

theorem isOffline_dialling {t : Shard} {resume : Bool} {deadline : Nat} (hp : t.phase = .dialling resume deadline) :
    t.isOffline = false := by
  simp [isOffline, hp]

theorem greet_follows (hp : s.phase = .online c queued) (hs : c.status = .awaitingHello) (hx : x ≠ .granted)
    (h : Hello) (draw : Nat) :
    Follows now s x (s.endingEvent? c (.hello h)) (greet c queued h.interval.toNat draw now s) := by
  cases hr : c.resuming with
  | false =>
    rw [greet_eq_queue (.inl hr)]
    simp [Follows, endingEvent?, hr, isOffline]
  | true =>
    cases hq : s.resume? with
    | none =>
      rw [greet_eq_queue (.inr hq)]
      simp [Follows, endingEvent?, hq, isOffline]
    | some p =>
      cases hw : c.writable with
      | true =>
        rw [greet_eq_resume hr hq hw]
        simp [Follows, endingEvent?, hw, isOffline]
      | false =>
        have hq' : resume? { s with status := .identifying } = some p := hq
        have shown := (Akin.refl s).shown .identifying (by decide)
        have lost := (lose_concludes (x := x) now hp shown queued (by simp [hx])).after _
          (isRemark_of_announce .identifying s (by decide))
        simpa [greet, publish_eq, Connection.startHeartbeat, Follows, endingEvent?, hs, hr, hq, hq', hw] using lost

theorem receive_follows (hp : s.phase = .online c queued) (hx : x ≠ .granted) (e : Event) (draw : Nat) :
    Follows now s x (s.endingEvent? c e) (receive c queued e draw now s) := by
  cases e with
  | hello h =>
    simp only [receive]
    split
    · next hs => exact greet_follows hp hs hx h draw
    · next hs => simp [Follows, endingEvent?, hs, goOn, Turn.still, isOffline]
  | heartbeat seq =>
    simp only [receive, endingEvent?]
    split
    · exact isOffline_online rfl
    · exact lose_concludes now hp (.refl s) queued (by simp [hx])
  | reconnect => exact closeWith_concludes (e := .recycled _) hp (.refl s) hx rfl
  | invalidSession resumable =>
    simp only [receive, invalidate, endingEvent?]
    split
    · exact closeWith_concludes (e := .recycled _) hp (.refl s) hx rfl
    · exact closeWith_concludes (e := .declined) hp (Akin.refl s).forgetting hx rfl
  | dispatch d =>
    cases hq : s.sequence.advance? d.seq with
    | none =>
      show (dispatch c queued d now s).shard.isOffline = false
      rw [dispatch_eq_still hp hq]
      exact isOffline_online hp
    | some seq =>
      obtain ⟨t, ht, -, ⟨c', hc', -⟩, -⟩ := dispatch_delivers now hp hq
      show (dispatch c queued d now s).shard.isOffline = false
      rw [ht]
      exact isOffline_online hc'
  | heartbeatAck | identify _ | presenceUpdate _ | resume _ | requestGuildMembers _ => exact isOffline_online rfl

theorem take_follows (hp : s.phase = .online c queued) : Follows now s .take (s.endingCommand? c) (take now s) := by
  rcases take_cases now s with ⟨ticket, m, rest, hm, eq⟩ | ⟨hs, hm, rest, eq⟩ | ⟨hs, hm, eq⟩
  · have left := (Akin.refl s).left rest
    simp only [eq, endingCommand?, hm, obey, hp]
    cases c.status.isReady with
    | false => exact isOffline_online rfl
    | true =>
      cases c.writable with
      | true => exact isOffline_online rfl
      | false =>
        have lost := lose_concludes (x := .take) now hp left queued (by simp)
        rw [← hp]
        exact lost.after [.answer ticket (some (.shardNotReady s.id))] (by simp [Act.isRemark])
  · have he : s.endingCommand? c = some ⟨.stopped, some .normal⟩ := by
      unfold endingCommand?
      split
      · next hm' => exact absurd hm' (hm _ _ _)
      · simp [hs]
    have closing : halt now { s with mailbox := rest } =
        (closeWith c queued .normal { s with mailbox := rest }).next (finish .stopped now) := by simp [halt, hp]
    rw [he, eq, closing]
    exact closeWith_concludes (e := ⟨.stopped, some .normal⟩) hp ((Akin.refl s).left rest) (by simp) rfl
  · have he : s.endingCommand? c = none := by simp [endingCommand?, hm, hs]
    rw [he, eq]
    exact isOffline_online hp

theorem online_follows (hp : s.phase = .online c queued) (hx : x ≠ .abort) :
    Follows now s x (s.endingOnline? c queued now x) (s.step now x) := by
  have stays {t : Turn} (h : t.shard.phase = .online c queued) : Follows now s x none t := isOffline_online h
  cases x with
  | abort => exact absurd rfl hx
  | submit ticket m =>
    refine stays ?_
    simp only [step, submit]
    split <;> exact hp
  | stop =>
    refine stays ?_
    simp only [step, Turn.still]
    split <;> exact hp
  | abandon => exact stays hp
  | take => exact take_follows hp
  | timeout =>
    simp only [step, expire, hp, endingOnline?]
    cases s.timeoutDue? with
    | none => exact stays hp
    | some deadline =>
      simp only [Option.any_some, decide_eq_true_eq]
      split
      · exact closeWith_concludes (e := .recycled _) hp (.refl s) (by simp) rfl
      · exact stays hp
  | text text draw =>
    simp only [step, hp, stepOnline, endingOnline?]
    cases Event.decode text with
    | ok e => exact receive_follows hp (by simp) e draw
    | error _ => exact stays hp
  | closed closure =>
    simp only [step, hp, stepOnline, endingOnline?]
    exact ⟨s, _, hangUp_letsGo hp (.refl s) queued (by simp) [] (by cases c.writable <;> rfl), rfl⟩
  | dropped =>
    simp only [step, hp]
    exact lose_concludes now hp (.refl s) queued (by simp)
  | granted =>
    simp only [step, hp, stepOnline, endingOnline?, identify]
    cases queued with
    | false => exact stays hp
    | true =>
      cases c.writable with
      | true => exact isOffline_online rfl
      | false => exact lose_concludes now hp (Akin.refl s).forgetting false (by simp)
  | missed =>
    simp only [step, hp, stepOnline, endingOnline?]
    split
    · rw [Turn.next_next, publish_eq, Turn.next_mk]
      have shown := (Akin.refl s).shown .zombied (by decide)
      exact (closeWith_concludes (e := .recycled _) hp shown (by simp) rfl).after _
        (isRemark_of_announce .zombied s (by decide))
    · exact stays hp
  | receiverGone | beat =>
    simp only [step, hp]
    exact isOffline_online rfl
  | opened | refused =>
    simp only [step, hp]
    exact stays hp

end Online

theorem dialling_follows {now : Nat} {s : Shard} {x : Stimulus} {resume : Bool} {deadline : Nat}
    (hp : s.phase = .dialling resume deadline) (hx : x ≠ .abort) :
    Follows now s x (s.ending? now x) (s.step now x) := by
  have stays {t : Turn} (hn : s.ending? now x = none) (h : t.shard.phase = .dialling resume deadline) :
      Follows now s x (s.ending? now x) t := by
    simp [Follows, hn, isOffline, h]
  cases x with
  | abort => exact absurd rfl hx
  | submit ticket m =>
    refine stays (by simp [ending?, hp]) ?_
    simp only [step, submit]
    split <;> exact hp
  | stop =>
    refine stays (by simp [ending?, hp]) ?_
    simp only [step, Turn.still]
    split <;> exact hp
  | abandon => exact stays (by simp [ending?, hp]) hp
  | refused =>
    simp only [ending?, hp, step]
    exact unreached_concludes (e := .unreached resume) hp (.refl s)
  | timeout =>
    simp only [ending?, hp, step, expire]
    split
    · exact unreached_concludes (e := .unreached resume) hp (.refl s)
    · exact isOffline_dialling hp
  | take =>
    rcases take_cases now s with ⟨ticket, m, rest, hm, eq⟩ | ⟨hs, -, rest, eq⟩ | ⟨hs, hm, eq⟩
    · refine stays (by simp [ending?, hp, stopsNext, hm]) ?_
      simp only [step, eq, obey, hp]
      rfl
    · have he : s.ending? now .take = some ⟨.stopped, none⟩ := by simp [ending?, hp, hs]
      have stopping : halt now { s with mailbox := rest } = finish .stopped now { s with mailbox := rest } := by
        simp [halt, hp]
      simp only [step, he, eq, stopping]
      exact unreached_concludes (e := ⟨.stopped, none⟩) hp ((Akin.refl s).left rest)
    · refine stays (by simp [ending?, hp, hs]) ?_
      simp only [step, eq]
      exact hp
  | opened =>
    simp only [ending?, hp, step, goOn, publish_eq, Turn.still, Turn.next_mk]
    exact isOffline_online rfl
  | text _ _ | closed _ | dropped | receiverGone | granted | beat | missed =>
    refine stays (by simp [ending?, hp]) ?_
    simp only [step, hp]
    exact hp

/-- what a step can come to -/
inductive Course (now : Nat) (s : Shard) : Stimulus → Turn → Prop where
  /-- a connection, or the attempt to get one, ends -/
  | ends {x : Stimulus} {t : Turn} {e : Ending} (ending : s.ending? now x = some e)
      (concludes : Concludes now s x e t) : Course now s x t
  /-- a connection, or the attempt to get one, goes on -/
  | goesOn {x : Stimulus} {t : Turn} (connected : s.isOffline = false) (here : t.shard.isOffline = false)
      (outcome : Outcome now s x t) : Course now s x t
  /-- the wait is over -/
  | dials {deadline : Nat} (waiting : s.phase = .waiting deadline) (due : deadline ≤ now) :
      Course now s .timeout (dial now s)
  /-- a stop is taken between two attempts -/
  | leaves {deadline : Nat} {t : Turn} (waiting : s.phase = .waiting deadline) (stops : s.stopsNext = true)
      (left : ∃ rest, t = leave { s with mailbox := rest }) : Course now s .take t
  /-- it goes on waiting, or has ended before -/
  | rests {x : Stimulus} {t : Turn} (away : s.isOffline = true)
      (shard : t.shard = { s with mailbox := t.shard.mailbox, attended := t.shard.attended })
      (acts : ∀ a ∈ t.acts, a.isAnswer = true) : Course now s x t
  /-- it is stopped by force -/
  | aborts {t : Turn} (eq : t = abort s) : Course now s .abort t

/-- A shard without a connection only notes commands down and answers them, unless it dials or stops. -/
theorem offline_course {now : Nat} {s : Shard} {x : Stimulus} (ho : s.isOffline = true) (hx : x ≠ .abort) :
    Course now s x (s.step now x) := by
  have still (mailbox : List Command) (attended : Bool) :
      Course now s x (.still { s with mailbox := mailbox, attended := attended }) :=
    .rests ho rfl (by simp [Turn.still])
  cases x with
  | abort => exact absurd rfl hx
  | submit ticket m =>
    simp only [step, submit]
    split
    · exact still _ _
    · exact .rests ho rfl (by simp [act, Act.isAnswer])
  | stop =>
    simp only [step]
    split <;> exact still _ _
  | abandon => exact still _ _
  | timeout =>
    simp only [step, expire]
    split
    · next hp => simp [isOffline, hp] at ho
    · next hp => simp [isOffline, hp] at ho
    · next deadline hp =>
      split
      · next due => exact .dials hp due
      · exact still s.mailbox s.attended
    · exact still s.mailbox s.attended
  | take =>
    rcases take_cases now s with ⟨ticket, m, rest, hm, eq⟩ | ⟨hs, -, rest, eq⟩ | ⟨-, -, eq⟩
    · have refused : obey ticket m now { s with mailbox := rest } =
          act (.answer ticket (some (.shardNotReady s.id))) { s with mailbox := rest } := by
        unfold obey
        split
        · next c queued hp => simp [isOffline, show s.phase = .online c queued from hp] at ho
        · rfl
      rw [step, eq, refused]
      exact .rests ho rfl (by simp [act, Act.isAnswer])
    · rw [step, eq]
      unfold halt
      split
      · next hp => simp [isOffline, show s.phase = .dialling _ _ from hp] at ho
      · next hp => simp [isOffline, show s.phase = .online _ _ from hp] at ho
      · next hp => exact .leaves (show s.phase = .waiting _ from hp) hs ⟨rest, rfl⟩
      · exact still rest s.attended
    · rw [step, eq]
      exact still s.mailbox s.attended
  | opened | refused | text _ _ | closed _ | dropped | receiverGone | granted | beat | missed =>
    cases hp : s.phase with
    | dialling | online => simp [isOffline, hp] at ho
    | waiting | ended =>
      simp only [step, hp]
      exact still s.mailbox s.attended

/-- What a connection, or the attempt to get one, comes to. -/
theorem connected_follows (now : Nat) {s : Shard} {x : Stimulus} (ho : s.isOffline = false) (hx : x ≠ .abort) :
    Follows now s x (s.ending? now x) (s.step now x) := by
  cases hp : s.phase with
  | dialling resume deadline => exact dialling_follows hp hx
  | online c queued => simpa only [ending?, hp] using online_follows hp hx
  | waiting | ended => simp [isOffline, hp] at ho

/-- There are no others. -/
theorem step_course (now : Nat) (x : Stimulus) (s : Shard) : Course now s x (step now x s) := by
  by_cases hx : x = .abort
  · subst hx
    exact .aborts rfl
  cases ho : s.isOffline with
  | true => exact offline_course ho hx
  | false =>
    have follows := connected_follows now ho hx
    cases he : s.ending? now x with
    | some e =>
      rw [he] at follows
      exact .ends he follows
    | none =>
      rw [he] at follows
      exact .goesOn ho follows (step_outcome now x s)

theorem connected_of_ending {now : Nat} {s : Shard} {x : Stimulus} {e : Ending} (he : s.ending? now x = some e) :
    s.isOffline = false := by
  cases hp : s.phase with
  | dialling | online => simp [isOffline, hp]
  | waiting | ended => simp [ending?, hp] at he

/-- An ending comes about. -/
theorem step_concludes {now : Nat} {s : Shard} {x : Stimulus} {e : Ending} (he : s.ending? now x = some e) :
    Concludes now s x e (s.step now x) := by
  have ho := connected_of_ending he
  have hx : x ≠ .abort := by
    rintro rfl
    cases hp : s.phase <;> simp [ending?, endingOnline?, hp] at he
  have follows := connected_follows now ho hx
  rw [he] at follows
  exact follows

theorem Concludes.offline {now : Nat} {s : Shard} {x : Stimulus} {e : Ending} {t : Turn}
    (h : Concludes now s x e t) : t.shard.isOffline = true := by
  obtain ⟨s', acts, -, rfl⟩ := h
  exact (finish_parted e.finish now s').offline

end Shard

end Shardwire
