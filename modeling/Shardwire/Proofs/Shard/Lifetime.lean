import Shardwire.Proofs.Shard.Backlog
import Shardwire.Proofs.Shard.Termination

/-
The ends of a shard at work.

Beside the two ends of a shard there is a third one where the clock has an end: a shard that works out when a handshake
would be up, and finds no reading for it, breaks off. `Runner.Fate` lists what a move can come to, and
`Runner.step_fate` says that there is nothing else.

`ends_once`: unless it is stopped by force, a shard ends at most once. It ends at a stop, shown as disconnected and
without a failure; or at a fatal fault, shown as failed and with one failure of its own; or it breaks off, without a
failure, where the end of the time for a connection or a handshake lies beyond the clock. From then on it answers
callers and does nothing else. `breaks_off`: with the longest timeout that settings may ask for, this happens before the
first connection is asked for.
-/

namespace Shardwire

open Shard (Stimulus Act)

/-! ## On a clock that ends -/

namespace Shard

variable {now : Nat} {s : Shard} {x : Stimulus}

/-- how a shard breaks off: it says nothing about it -/
structure Breaks (now : Nat) (s : Shard) (x : Stimulus) (t : Turn) : Prop where
  beyond : s.outlasts now = true
  ended : t.shard.isEnded = true
  status : t.shard.status ≠ .failed
  quiet : ∀ a ∈ t.acts, a.admits = false
  withdrawn : s.isQueued = true → x ≠ .granted → .withdraw ∈ t.acts

theorem abort_status (s : Shard) : (abort s).shard.status = s.status := by
  unfold abort
  split <;> rfl

theorem abort_quiet (s : Shard) : ∀ a ∈ (abort s).acts, a.admits = false :=
  forall_abort (P := fun a => a.admits = false) s rfl rfl fun _ _ => rfl

theorem abort_withdraws (queued : s.isQueued = true) : .withdraw ∈ (abort s).acts := by
  unfold isQueued at queued
  split at queued
  · next c q hp =>
    subst queued
    simp [abort, hp, hangUp, Turn.next]
  · cases queued

/-- A call for a permit stays on a connection that goes on. -/
theorem isQueued_of_goesOn (queued : s.isQueued = true) (hx : x ≠ .granted)
    (goesOn : (s.step now x).shard.isOnline = true) : (s.step now x).shard.isQueued = true := by
  have own {c : Connection} {q : Bool} (hp : s.phase = .online c q) : q = true := by simpa [isQueued, hp] using queued
  have ho := step_outcome now x s
  generalize s.step now x = t at ho goesOn ⊢
  cases ho with
  | idles shard =>
    have phase : t.shard.phase = s.phase := by rw [shard]
    simpa [isQueued, phase] using queued
  | tends c' online abreast shard =>
    rw [shard]
    exact own online
  | dials waiting => simp [isQueued, waiting] at queued
  | opens dialling => simp [isQueued, dialling] at queued
  | queues => rfl
  | identifies => exact absurd rfl hx
  | passes => exact queued
  | resumes online | readies online | revives online => simp [isQueued, own online]
  | ends he => cases (isOnline_of_isOffline he.offline).symm.trans goesOn

/-- On a clock that ends, a step comes to what it would come to otherwise, or the shard breaks off. -/
theorem stepClocked_fate (now : Nat) (hx : x ≠ .abort) (running : s.isEnded = false) (alive : s.Alive) :
    Fate s x (s.stepClocked now x) ∨ Breaks now s x (s.stepClocked now x) := by
  have fate := step_fate now hx running alive
  rcases clocked_cases now x s with ⟨-, eq⟩ | ⟨beyond, -, away, -, -, -, eq⟩ | ⟨beyond, online, goesOn, -, eq⟩
  · rw [eq]
    exact .inl fate
  · rw [eq]
    refine .inr ⟨beyond, abort_ends s, fun failed => alive.status ((abort_status s).symm.trans failed), abort_quiet s,
      fun queued => ?_⟩
    unfold isQueued at queued
    unfold isOnline at away
    split at queued
    · next hp => simp [hp] at away
    · cases queued
  · cases fate with
    | lives running' alive' quiet' =>
      refine .inr ⟨beyond, ?_, ?_, ?_, fun queued hx => ?_⟩ <;> rw [eq]
      · exact abort_ends _
      · exact fun failed => alive'.status ((abort_status _).symm.trans failed)
      · exact List.forall_mem_append.2 ⟨quiet', abort_quiet _⟩
      · exact List.mem_append_right _ (abort_withdraws (isQueued_of_goesOn queued hx goesOn))
    | stops _ ended | fails _ _ ended => cases (isOnline_of_isEnded ended).symm.trans goesOn

/-- The time of a handshake begins with the last act of a step. -/
theorem isTimed_of_mem (holds : s.HoldsCommands) {a : Act} (ha : a ∈ (s.step now x).acts) (timed : a.isTimed = true) :
    (s.step now x).isTimed = true ∧ ∀ u, a = .dial u → s.isOnline = false := by
  have ho := step_outcome now x s
  generalize s.step now x = t at ho ha ⊢
  have last {l : List Act} {b : Act} (hb : b.isTimed = true) : Turn.isTimed ⟨s, l ++ [b]⟩ = true := by
    simp [Turn.isTimed, hb]
  have never (h : ∀ b ∈ t.acts, b.isTimed = false) : t.isTimed = true ∧ ∀ u, a = .dial u → s.isOnline = false := by
    cases (h a ha).symm.trans timed
  have shown {st : Status} {l : List Act} (h : ∀ b ∈ l, b.isTimed = false) :
      ∀ b ∈ announce st s ++ l, b.isTimed = false :=
    fun b hb => (List.mem_append.1 hb).elim (fun hb => not_isTimed_of_isParting (isParting_of_announce hb)) (h b)
  cases ho with
  | idles shard mailbox acts kept => exact never (forall_answers acts fun _ _ => rfl)
  | tends c' online abreast shard mailbox acts kept =>
    refine never fun b hb => ?_
    rcases acts b hb with answer | rfl | ⟨ticket, m, rfl, sent, -⟩
    · cases b <;> first | rfl | cases answer
    · rfl
    · exact OpCode.not_isHandshake_of_isCommand (holds ticket m sent)
  | dials waiting =>
    rw [dial_eq]
    exact ⟨last rfl, fun _ _ => by simp [isOnline, waiting]⟩
  | opens => exact never fun b hb => not_isTimed_of_isParting (isParting_of_announce hb)
  | resumes =>
    refine ⟨last rfl, fun u hu => ?_⟩
    rcases List.mem_append.1 ha with ha | ha
    · cases (not_isTimed_of_isParting (isParting_of_announce ha)).symm.trans timed
    · cases hu ▸ List.mem_singleton.1 ha
  | identifies => exact ⟨rfl, fun u hu => by cases hu ▸ List.mem_singleton.1 ha⟩
  | queues | readies | revives => exact never (shown (by simp [Act.isTimed]))
  | passes => exact never (by simp [Act.isTimed])
  | ends he => exact never fun b hb => not_isTimed_of_isParting (he.acts b hb)

/-- A shard breaks off wherever the end of such a time lies beyond the clock. -/
theorem stepClocked_beyond (holds : s.HoldsCommands) (beyond : s.outlasts now = true) {a : Act}
    (ha : a ∈ (s.stepClocked now x).acts) (timed : a.isTimed = true) :
    (s.stepClocked now x).shard.isEnded = true := by
  rcases clocked_cases now x s with ⟨only, eq⟩ | ⟨-, -, -, -, -, -, eq⟩ | ⟨-, -, -, -, eq⟩
  · rw [eq] at ha
    obtain ⟨whole, -⟩ := isTimed_of_mem holds ha timed
    simp only [clocked, whole, beyond, Bool.and_self, if_true] at only
    split at only <;> cases only
    cases (forall_abort (P := fun a => a.isTimed = false) s rfl rfl (fun _ _ => rfl) a ha).symm.trans timed
  · exact eq ▸ abort_ends s
  · exact eq ▸ abort_ends _

theorem running_of_online (online : s.isOnline = true) : s.isEnded = false := by
  cases ended : s.isEnded with
  | false => rfl
  | true => cases (isOnline_of_isEnded ended).symm.trans online

/-- What is shown before a connection is let go of says nothing of a failure. -/
theorem shown_quiet (now : Nat) (hx : x ≠ .abort) (online : s.isOnline = true) (alive : s.Alive) :
    ∀ a ∈ (s.step now x).acts.takeWhile Runner.isShown, a.admits = false := by
  cases ending : s.ending? now x with
  | some e =>
    -- the connection is let go of before anything else is shown
    obtain ⟨s', acts, go, eq⟩ := step_concludes ending
    rw [eq, Turn.next_mk, List.takeWhile_append]
    intro a ha
    split at ha
    · next all =>
      have whole := List.takeWhile_sublist (l := acts) Runner.isShown |>.eq_of_length all
      have shown := List.all_eq_true.1 (List.all_takeWhile (p := Runner.isShown) (l := acts)) .hangUp
      rw [whole] at shown
      cases shown (go.hangsUp online)
    · exact go.quiet a ((List.takeWhile_sublist _).subset ha)
  | none =>
    have hc := step_course now x s
    generalize s.step now x = t at hc
    refine fun a ha => ?_
    have mem := (List.takeWhile_sublist _).subset ha
    cases hc with
    | ends ending' => cases ending.symm.trans ending'
    | goesOn connected here outcome => exact (outcome.quiet alive here).2 a mem
    | dials waiting | leaves waiting => simp [isOnline, waiting] at online
    | rests away shard acts => exact forall_answers (P := fun a => a.admits = false) acts (fun _ _ => rfl) a mem
    | aborts => exact absurd rfl hx

/-- Nor does it where the shard breaks off. -/
theorem stepClocked_shown (now : Nat) (hx : x ≠ .abort) (online : s.isOnline = true) (alive : s.Alive) :
    ∀ a ∈ (s.stepClocked now x).acts.takeWhile Runner.isShown, a.admits = false := by
  rcases stepClocked_fate now hx (running_of_online online) alive with fate | breaks
  · rcases clocked_cases now x s with ⟨-, eq⟩ | ⟨-, -, away, -⟩ | ⟨-, -, goesOn, -, eq⟩
    · exact eq ▸ shown_quiet now hx online alive
    · cases away.symm.trans online
    · have whole := step_fate now hx (running_of_online online) alive
      refine fun a ha => ?_
      have mem := (List.takeWhile_sublist _).subset ha
      rw [eq] at mem
      cases whole with
      | lives _ _ quiet => exact (List.mem_append.1 mem).elim (quiet a) (abort_quiet _ a)
      | stops _ ended | fails _ _ ended => cases (isOnline_of_isEnded ended).symm.trans goesOn
  · exact fun a ha => breaks.quiet a ((List.takeWhile_sublist _).subset ha)

theorem mem_dropWhile {acts : List Act} {a : Act} (ha : a ∈ acts) (rest : a ∉ acts.takeWhile Runner.isShown) :
    a ∈ acts.dropWhile Runner.isShown := by
  rw [← List.takeWhile_append_dropWhile (p := Runner.isShown) (l := acts)] at ha
  exact (List.mem_append.1 ha).resolve_left rest

/-- A shard that stops sends a frame only where one is taken. -/
theorem writable_of_stop (ended : (s.step now .take).shard.isEnded = true) {a : Act}
    (frame : (s.step now .take).acts.find? Act.isFrame = some a) : s.isWritable = true := by
  have mem := List.mem_filter.2 ⟨List.mem_of_find?_eq_some frame, List.find?_some frame⟩
  have online := online_of_frame (List.mem_of_find?_eq_some frame) (List.find?_some frame)
  obtain ⟨c, queued, hp⟩ := online_of_isOnline online
  have follows := connected_follows now (isOffline_online hp) (x := .take) nofun
  cases ending : s.ending? now .take with
  | some e =>
    rw [frames_of_ending (step_concludes ending)] at mem
    cases writable : s.isWritable with
    | true => rfl
    | false => simp [writable] at mem
  | none =>
    rw [ending] at follows
    cases (isEnded_of_here follows).symm.trans ended

/-- What was shown already says nothing of what a step comes to. -/
theorem Fate.shown {t : Turn} (h : Fate s x t) (quiet : ∀ a ∈ t.acts.takeWhile Runner.isShown, a.admits = false) :
    Fate s x ⟨t.shard, t.acts.dropWhile Runner.isShown⟩ := by
  have rest {a : Act} (ha : a ∈ t.acts.dropWhile Runner.isShown) : a ∈ t.acts :=
    (List.dropWhile_sublist _).subset ha
  have withdraw (ha : .withdraw ∈ t.acts) : .withdraw ∈ t.acts.dropWhile Runner.isShown :=
    mem_dropWhile ha fun shown => by cases List.all_eq_true.1 List.all_takeWhile _ shown
  cases h with
  | lives running alive silent => exact .lives running alive fun a ha => silent a (rest ha)
  | stops stop ended status silent withdrawn =>
    exact .stops stop ended status (fun a ha => silent a (rest ha)) fun queued hx => withdraw (withdrawn queued hx)
  | fails f terminal ended status reported shown withdrawn =>
    refine .fails f terminal ended status ?_ (mem_dropWhile shown fun early => ?_)
      fun queued hx => withdraw (withdrawn queued hx)
    · have none := no_fault_of_quiet quiet
      have whole := congrArg (List.filterMap Act.fault?) (t.acts.takeWhile_append_dropWhile (p := Runner.isShown))
      rw [List.filterMap_append, none, List.nil_append] at whole
      exact whole.trans reported
    · cases quiet _ early

theorem Breaks.shown {t : Turn} (h : Breaks now s x t) :
    Breaks now s x ⟨t.shard, t.acts.dropWhile Runner.isShown⟩ :=
  { h with
    quiet := fun a ha => h.quiet a ((List.dropWhile_sublist _).subset ha)
    withdrawn := fun queued hx => mem_dropWhile (h.withdrawn queued hx) fun shown => by
      cases List.all_eq_true.1 List.all_takeWhile _ shown }

end Shard

/-! ## What a move comes to -/

namespace Runner

/-- what a move of a runner can come to -/
inductive Fate (now : Nat) (r : Runner) (v : Move) (t : Turn) : Prop where
  | lives (running : t.runner.shard.isEnded = false) (alive : t.runner.shard.Alive)
      (quiet : ∀ a ∈ t.acts, a.admits = false)
  | ends {x : Stimulus} (deals : r.dealt? v = some x) (ended : t.runner.shard.isEnded = true)
      (fate : Shard.Fate r.shard x ⟨t.runner.shard, t.acts⟩)
  | breaks (beyond : r.shard.outlasts now = true) (ended : t.runner.shard.isEnded = true)
      (status : t.runner.shard.status ≠ .failed) (quiet : ∀ a ∈ t.acts, a.admits = false)
      (withdrawn : r.shard.isQueued = true → r.dealt? v ≠ some .granted → .withdraw ∈ t.acts)

variable {now : Nat} {r : Runner} {v : Move}

theorem Fate.of_shard {x : Stimulus} {t : Turn} (deals : r.dealt? v = some x)
    (fate : Shard.Fate r.shard x ⟨t.runner.shard, t.acts⟩) : Fate now r v t := by
  have whole := fate
  cases fate with
  | lives running alive quiet => exact .lives running alive quiet
  | stops _ ended | fails _ _ ended => exact .ends deals ended whole

theorem Fate.of_breaks {x : Stimulus} {t : Turn} (deals : r.dealt? v = some x)
    (breaks : Shard.Breaks now r.shard x ⟨t.runner.shard, t.acts⟩) : Fate now r v t :=
  .breaks breaks.beyond breaks.ended breaks.status breaks.quiet fun queued other =>
    breaks.withdrawn queued fun granted => other (granted ▸ deals)

/-- There is nothing else that it can come to. -/
theorem step_fate (holds : r.shard.HoldsCommands) (tidy : r.Tidy) (unforced : ∀ x, r.dealt? v = some x → x ≠ .abort)
    (running : r.shard.isEnded = false) (alive : r.shard.Alive) : Fate now r v (r.step now v) := by
  have hc := step_course now v r
  generalize r.step now v = t at hc ⊢
  have same {q : Runner} (eased : Eased r q) : q.shard.isEnded = false ∧ q.shard.Alive := by
    rw [eased.shard]
    exact ⟨running, alive⟩
  have online {a : Act} {x : Stimulus} (frame : (r.shard.step now x).acts.find? Act.isFrame = some a) :
      r.shard.isOnline = true :=
    Shard.online_of_frame (List.mem_of_find?_eq_some frame) (List.find?_some frame)
  cases hc with
  | rests eased pending busy answers =>
    obtain ⟨running', alive'⟩ := same eased
    exact .lives running' alive' (Shard.forall_answers answers fun _ _ => rfl)
  | @makes _ x q deals eased hand =>
    have turn := eased.performs now x
    rcases Shard.stepClocked_fate now (unforced x deals) running alive with fate | breaks
    · exact .of_shard deals (turn ▸ fate)
    · exact .of_breaks deals (turn ▸ breaks)
  | @parts x q deals waited eased hand =>
    have turn := eased.performs now x
    have shown := Shard.stepClocked_shown now (unforced x deals) (tidy.online_of_hand waited) alive
    rw [← turn] at shown
    rcases Shard.stepClocked_fate now (unforced x deals) running alive with fate | breaks
    · rw [← turn] at fate
      exact .of_shard deals (fate.shown shown)
    · rw [← turn] at breaks
      exact .of_breaks deals breaks.shown
  | @begins _ x q m deals eased free hand room frame timed =>
    rw [eased.shard] at frame timed
    obtain ⟨-, -, goesOn, -⟩ := Shard.step_begins holds timed frame
    have fate := Shard.step_fate now (unforced x deals) running alive
    rw [eased.shard]
    cases fate with
    | lives running' alive' quiet => exact .lives running' alive' fun a ha => quiet a (List.mem_filter.1 ha).1
    | stops _ ended | fails _ _ ended => cases (Shard.isOnline_of_isEnded ended).symm.trans goesOn
  | @postpones _ x q m deals eased =>
    obtain ⟨running', alive'⟩ := same eased
    exact .lives running' alive' (List.forall_mem_nil _)
  | @prepares _ x q c deals eased free hand room frame =>
    obtain ⟨running', alive'⟩ := same eased
    rw [eased.shard] at frame
    refine .lives running' alive' ?_
    rw [eased.shard]
    exact Shard.shown_quiet now (unforced x deals) (online frame) alive
  | holds room frame =>
    have fate := Shard.step_fate now (x := .beat) (by simp) running alive
    cases fate with
    | lives running' alive' quiet => exact .lives running' alive' (List.forall_mem_nil _)
    | stops _ ended | fails _ _ ended =>
      obtain ⟨a, ha, framed⟩ := List.any_eq_true.1 frame
      have goesOn := Shard.step_beat_online now (Shard.online_of_frame ha framed)
      cases (Shard.isOnline_of_isEnded ended).symm.trans goesOn
  | sends waited eased hand =>
    obtain ⟨running', alive'⟩ := same eased
    exact .lives running' alive' (by simp [Act.admits])
  | @writes q m waited eased hand =>
    obtain ⟨running', alive'⟩ := same eased
    split
    · next beyond =>
      have shard : (q.perform now .abort).runner.shard = (Shard.abort r.shard).shard := by
        rw [perform_shard, Shard.stepClocked_abort, eased.shard]
      have acts : (q.perform now .abort).acts = (Shard.abort r.shard).acts := by
        rw [perform, Shard.stepClocked_abort, eased.shard]
      refine .breaks beyond ?_ ?_ ?_ fun queued _ => ?_
      · exact shard ▸ Shard.abort_ends r.shard
      · exact fun failed => alive.status ((Shard.abort_status r.shard).symm.trans (shard ▸ failed))
      · exact List.forall_mem_cons.2 ⟨rfl, acts ▸ Shard.abort_quiet r.shard⟩
      · exact List.mem_cons_of_mem _ (acts ▸ Shard.abort_withdraws queued)
    · exact .lives running' alive' (by simp [Act.admits])

/-- Where the end of the time for a connection or a handshake lies beyond the clock, the shard ends as that begins. -/
theorem step_beyond (holds : r.shard.HoldsCommands) (beyond : r.shard.outlasts now = true) {a : Act}
    (ha : a ∈ (r.step now v).acts) (timed : a.isTimed = true) : (r.step now v).runner.shard.isEnded = true := by
  have hc := step_course now v r
  generalize r.step now v = t at hc ha ⊢
  have never (h : a.isTimed = false) {P : Prop} : P := by cases h.symm.trans timed
  cases hc with
  | rests eased pending busy answers =>
    exact never (Shard.forall_answers (P := fun a => a.isTimed = false) answers (fun _ _ => rfl) a ha)
  | makes deals eased =>
    rw [perform_shard, eased.shard]
    rw [perform, eased.shard] at ha
    exact Shard.stepClocked_beyond holds beyond ha timed
  | parts deals waited eased =>
    have mem := (List.dropWhile_sublist _).subset ha
    rw [perform_shard, eased.shard]
    rw [perform, eased.shard] at mem
    exact Shard.stepClocked_beyond holds beyond mem timed
  | begins deals eased free hand room frame =>
    rw [eased.shard] at ha frame
    obtain ⟨mem, unframed⟩ := List.mem_filter.1 ha
    have online := Shard.online_of_frame (List.mem_of_find?_eq_some frame) rfl
    cases a with
    | dial u => cases online.symm.trans ((Shard.isTimed_of_mem holds mem timed).2 u rfl)
    | write m => cases unframed
    | _ => cases timed
  | postpones => cases ha
  | prepares =>
    have shown := List.all_eq_true.1 List.all_takeWhile _ ha
    cases a with
    | publish => cases timed
    | _ => cases shown
  | holds => cases ha
  | sends =>
    cases List.mem_singleton.1 ha
    cases timed
  | writes waited eased =>
    rw [if_pos beyond, Turn.next, perform_shard, Shard.stepClocked_abort]
    exact Shard.abort_ends _

theorem step_address (now : Nat) (v : Move) (r : Runner) : (r.step now v).runner.shard.address = r.shard.address := by
  rw [step_shard]
  exact List.foldlRecOn _ _ (motive := fun t : Shard.Turn => t.shard.address = r.shard.address) rfl fun t ht x _ =>
    (Shard.step_keeps now x t.shard).1.trans ht

/-- A stop ends a shard that does not wait, whatever it does. -/
theorem take_stops (now : Nat) (running : r.shard.isEnded = false) (alive : r.shard.Alive)
    (stops : r.shard.stopsNext = true) (free : r.hand = none)
    (room : r.shard.isWritable = true → r.outbox.hasRoom = true) :
    (r.step now (.meet .take)).runner.shard.isEnded = true ∧
      (r.step now (.meet .take)).runner.shard.status = .disconnected ∧
      ∀ a ∈ (r.step now (.meet .take)).acts, a.admits = false := by
  have taken := Shard.take_stops now running alive stops
  have whole : r.shard.stepClocked now .take = r.shard.step now .take := by
    rcases Shard.clocked_cases now .take r.shard with ⟨-, eq⟩ | ⟨-, other, -⟩ | ⟨-, -, goesOn, -⟩
    · exact eq
    · cases other
    · cases (Shard.isOnline_of_isEnded taken.1).symm.trans goesOn
  have performs : r.step now (.meet .take) = r.perform now .take := by
    have other : r.shard.sendsNext = false := by
      unfold Shard.sendsNext
      split
      · next mailbox => simp [Shard.stopsNext, mailbox] at stops
      · rfl
    simp only [step, meet, take, free, other, Option.isSome_none, Bool.false_eq_true, if_false, deal]
    split
    · next frame found => exact if_pos (room (Shard.writable_of_stop taken.1 found))
    · rfl
  rw [performs, perform_shard, perform, whole]
  exact taken

end Runner

/-! ## Runs -/

namespace Logbook

/-- the failures reported so far, each with the id of the shard -/
def failures (l : Logbook) : List (UInt32 × Fault) :=
  l.entries.flatMap fun e => (e.acts.filterMap Act.fault?).map fun f => (e.before.shard.id, f)

/-- a shard that keeps its address, and has ended at most once -/
inductive Mortal (address : ShardAddress) (l : Logbook) : Prop where
  | runs (running : l.runner.shard.isEnded = false) (alive : l.runner.shard.Alive)
      (own : l.runner.shard.address = address) (quiet : ∀ e ∈ l.entries, ∀ b ∈ e.acts, b.admits = false)
  | done (pre : List Runner.Entry) (e : Runner.Entry) (post : List Runner.Entry) (split : l.entries = pre ++ e :: post)
      (before : e.before.shard.isEnded = false) (own : e.before.shard.address = address)
      (fate : Runner.Fate e.time e.before e.cause e.turn) (after : e.after.shard.isEnded = true)
      (ended : l.runner.shard.isEnded = true) (status : l.runner.shard.status = e.after.shard.status)
      (earlier : ∀ d ∈ pre, ∀ b ∈ d.acts, b.admits = false) (later : ∀ d ∈ post, ∀ b ∈ d.acts, b.isAnswer = true)

variable {p : ShardProfile} {address : ShardAddress} {l : Logbook} {v : Runner.Move}

theorem step_mortal (now : Nat) (hv : v ≠ .meet .abort) (bound : Bound p l) (h : Mortal address l) :
    Mortal address (l.step now v) := by
  cases ok : v.isAllowed with
  | false => rwa [step_refused ok]
  | true =>
    rw [step_allowed ok]
    cases h with
    | runs running alive own quiet =>
      have unforced : ∀ x, l.runner.dealt? v = some x → x ≠ .abort :=
        fun x deals abort => hv (abort ▸ bound.deals_early deals (.inl abort))
      have fate : Runner.Fate now l.runner v (l.runner.step now v) :=
        Runner.step_fate bound.holdsCommands bound.tidy unforced running alive
      have split := fate
      cases split with
      | lives running' alive' quiet' =>
        refine .runs running' alive' ((Runner.step_address now v l.runner).trans own) fun e he => ?_
        rcases List.mem_append.1 he with he | he
        · exact quiet e he
        · cases List.mem_singleton.1 he
          exact quiet'
      | ends _ ended | breaks _ ended =>
        exact .done l.entries (l.entry now v) [] rfl running own fate ended ended rfl quiet (by simp)
    | done pre e post split before own fate after ended status earlier later =>
      obtain ⟨ended', status', answers⟩ := Runner.step_ended now v bound.tidy ended
      refine .done pre e (post ++ [l.entry now v]) (by simp [split]) before own fate after ended' (status'.trans status)
        earlier fun d hd => ?_
      rcases List.mem_append.1 hd with hd | hd
      · exact later d hd
      · cases List.mem_singleton.1 hd
        exact answers

theorem run_mortal (p : ShardProfile) (address : ShardAddress) (start : Nat) {moves : List (Nat × Runner.Move)}
    (hx : ∀ e ∈ moves, e.2 ≠ .meet .abort) : Mortal address ((opening p address start).run moves) := by
  have blank : Mortal address (blank p address start) := .runs rfl ⟨nofun, fun _ _ => rfl⟩ rfl (by simp [Logbook.blank])
  have bound := bound_blank p address start
  have first : Bound p (opening p address start) ∧ Mortal address (opening p address start) :=
    ⟨step_bound start _ bound, step_mortal start nofun bound blank⟩
  exact (List.foldlRecOn moves _ (motive := fun l => Bound p l ∧ Mortal address l) first fun l h e he =>
    ⟨step_bound e.1 e.2 h.1, step_mortal e.1 (hx e he) h.1 h.2⟩).2

theorem not_shown {e : Runner.Entry} (h : ∀ b ∈ e.acts, b.admits = false) : .publish .failed ∉ e.acts := by
  intro hs
  cases h _ hs

theorem failures_eq_nil {entries : List Runner.Entry} (h : ∀ e ∈ entries, ∀ b ∈ e.acts, b.admits = false) :
    (entries.flatMap fun e => (e.acts.filterMap Act.fault?).map fun f => (e.before.shard.id, f)) = [] :=
  List.flatMap_eq_nil_iff.2 fun e he => by rw [Shard.no_fault_of_quiet (h e he), List.map_nil]

/-- Wherever a connection is asked for, or the client's part of a handshake is sent, while the end of its time lies
beyond the clock, the shard ends. -/
theorem run_beyond (p : ShardProfile) (address : ShardAddress) (start : Nat) (moves : List (Nat × Runner.Move)) :
    ∀ e ∈ ((opening p address start).run moves).entries, e.before.shard.outlasts e.time = true →
      ∀ a ∈ e.acts, a.isTimed = true → e.after.shard.isEnded = true := by
  let P (l : Logbook) : Prop := Bound p l ∧ ∀ e ∈ l.entries, e.before.shard.outlasts e.time = true →
    ∀ a ∈ e.acts, a.isTimed = true → e.after.shard.isEnded = true
  have step (now : Nat) (v : Runner.Move) (l : Logbook) (h : P l) : P (l.step now v) := by
    refine ⟨step_bound now v h.1, ?_⟩
    cases hv : v.isAllowed with
    | false =>
      rw [step_refused hv]
      exact h.2
    | true =>
      rw [step_allowed hv]
      refine List.forall_mem_append.2 ⟨h.2, List.forall_mem_singleton.2 fun beyond a ha timed => ?_⟩
      exact Runner.step_beyond h.1.holdsCommands beyond ha timed
  have blank : P (blank p address start) := ⟨bound_blank p address start, by simp [Logbook.blank]⟩
  exact (run_keeps (P := P) step moves (step start _ _ blank)).2

/-- Unless it is stopped by force, a shard either runs on, and neither reports nor shows a failure, or ended once: at a
stop, without a failure; at a fatal fault, with one failure of its own; or by breaking off, without a failure, where the
end of the time for a connection or a handshake lies beyond the clock, which it does wherever such a time begins. From
its end on it only answers callers, and its call for a permit is taken back. -/
theorem ends_once (p : ShardProfile) (address : ShardAddress) (start : Nat) {moves : List (Nat × Runner.Move)}
    (hx : ∀ e ∈ moves, e.2 ≠ .meet .abort) :
    let l := (opening p address start).run moves
    (∀ e ∈ l.entries, e.before.shard.outlasts e.time = true → ∀ a ∈ e.acts, a.isTimed = true →
      e.after.shard.isEnded = true) ∧
    ((l.runner.shard.isEnded = false ∧ l.runner.shard.status ≠ .failed ∧ l.failures = [] ∧
      (∀ e ∈ l.entries, .publish .failed ∉ e.acts) ∧
      ∀ now, l.runner.shard.stopsNext = true → l.runner.hand = none →
        (l.runner.shard.isWritable = true → l.runner.outbox.hasRoom = true) →
        (l.step now (.meet .take)).runner.shard.isEnded = true ∧
          (l.step now (.meet .take)).runner.shard.status = .disconnected ∧
          (l.step now (.meet .take)).failures = []) ∨
    ∃ pre e post, l.entries = pre ++ e :: post ∧ e.before.shard.isEnded = false ∧ l.runner.shard.isEnded = true ∧
      (∀ d ∈ post, ∀ b ∈ d.acts, b.isAnswer = true) ∧
      (e.before.shard.isQueued = true → e.dealt? ≠ some .granted → .withdraw ∈ e.acts) ∧
      (((∃ x, e.dealt? = some x ∧ e.before.shard.takesStop x = true) ∧ l.runner.shard.status = .disconnected ∧
          l.failures = [] ∧ ∀ d ∈ l.entries, .publish .failed ∉ d.acts) ∨
        (∃ x f, e.dealt? = some x ∧ e.before.shard.Terminal x f ∧ f.isFatal = true ∧
          l.runner.shard.status = .failed ∧ l.failures = [(address.id, f)] ∧ .publish .failed ∈ e.acts ∧
          ∀ d ∈ pre ++ post, .publish .failed ∉ d.acts) ∨
        e.before.shard.outlasts e.time = true ∧ l.runner.shard.status ≠ .failed ∧ l.failures = [] ∧
          ∀ d ∈ l.entries, .publish .failed ∉ d.acts)) := by
  intro l
  refine ⟨run_beyond p address start moves, ?_⟩
  have mortal : Mortal address l := run_mortal p address start hx
  have bound : Bound p l := run_bound p address start moves
  cases mortal with
  | runs running alive own quiet =>
    refine .inl ⟨running, alive.status, failures_eq_nil quiet, fun e he => not_shown (quiet e he),
      fun now stops free room => ?_⟩
    obtain ⟨ended, status, silent⟩ := Runner.take_stops now running alive stops free room
    refine ⟨ended, status, failures_eq_nil fun e he => ?_⟩
    rcases List.mem_append.1 he with he | he
    · exact quiet e he
    · cases List.mem_singleton.1 he
      exact silent
  | done pre e post split before own fate after ended status earlier later =>
    have later' : ∀ d ∈ post, ∀ b ∈ d.acts, b.admits = false := fun d hd =>
      Shard.forall_answers (later d hd) fun _ _ => rfl
    have failures : l.failures = (e.acts.filterMap Act.fault?).map fun f => (address.id, f) := by
      rw [Logbook.failures, split, List.flatMap_append, List.flatMap_cons, failures_eq_nil earlier,
        failures_eq_nil later', List.nil_append, List.append_nil, Shard.id, own]
    have others : ∀ d ∈ pre ++ post, .publish .failed ∉ d.acts := fun d hd =>
      (List.mem_append.1 hd).elim (fun h => not_shown (earlier d h)) fun h => not_shown (later' d h)
    -- an end without a failure is shown nowhere
    have silent (quiet : ∀ b ∈ e.acts, b.admits = false) :
        l.failures = [] ∧ ∀ d ∈ l.entries, .publish .failed ∉ d.acts := by
      refine ⟨failures.trans (congrArg (List.map _) (Shard.no_fault_of_quiet quiet)), fun d hd => ?_⟩
      rw [split] at hd
      rcases List.mem_append.1 hd with hd | hd
      · exact others d (List.mem_append_left _ hd)
      · rcases List.mem_cons.1 hd with rfl | hd
        · exact not_shown quiet
        · exact others d (List.mem_append_right _ hd)
    refine .inr ⟨pre, e, post, split, before, ended, later, ?_⟩
    cases fate with
    | lives running => cases running.symm.trans after
    | @ends x deals _ fate =>
      cases fate with
      | lives running => cases running.symm.trans after
      | stops stop _ disconnected quiet withdrawn =>
        refine ⟨fun queued other => withdrawn queued fun granted => other (granted ▸ deals), .inl ⟨⟨x, deals, stop⟩, ?_⟩⟩
        exact ⟨status.trans disconnected, silent quiet⟩
      | fails f terminal _ failed reported shown withdrawn =>
        refine ⟨fun queued other => withdrawn queued fun granted => other (granted ▸ deals), .inr (.inl ?_)⟩
        refine ⟨x, f, deals, terminal, terminal.isFatal, status.trans failed, ?_, shown, others⟩
        exact failures.trans (congrArg (List.map _) reported)
    | breaks beyond _ unfailed quiet withdrawn =>
      exact ⟨withdrawn, .inr (.inr ⟨beyond, fun failed => unfailed (status.symm.trans failed), silent quiet⟩)⟩

/-- the gateway rejects the token; whoever asks for a stop then is late -/
def rejection : List (Nat × Runner.Move) :=
  [(0, .meet .opened), (1, .meet (.closed (some ⟨4004, "Authentication failed."⟩))), (2, .meet .stop), (2, .meet .take),
    (3, .meet .timeout)]

theorem ends_once_rejection :
    let l := (opening (.usual "t") .only 0).run rejection
    (∀ e ∈ rejection, e.2 ≠ .meet .abort) ∧ l.failures = [(0, .authenticationFailed)] ∧
      ∃ pre e post x, l.entries = pre ++ e :: post ∧ e.dealt? = some x ∧
        e.before.shard.Terminal x .authenticationFailed ∧ .publish .failed ∈ e.acts ∧
        ∀ d ∈ post, ∀ b ∈ d.acts, b.isAnswer = true := by
  intro l
  have unforced : ∀ e ∈ rejection, e.2 ≠ .meet .abort := by simp [rejection]
  have failures : l.failures = [(0, .authenticationFailed)] := by decide +kernel
  refine ⟨unforced, failures, ?_⟩
  rcases (ends_once (.usual "t") .only 0 unforced).2 with ⟨-, -, none, -⟩ | ⟨pre, e, post, split, -, -, later, -, ends⟩
  · cases failures.symm.trans none
  · rcases ends with ⟨-, -, none, -⟩ | ⟨x, f, deals, terminal, -, -, reported, shown, -⟩ | ⟨-, -, none, -⟩
    · cases failures.symm.trans none
    · cases failures.symm.trans reported
      exact ⟨pre, e, post, x, split, deals, terminal, shown, later⟩
    · cases failures.symm.trans none

/-- the longest time for a handshake that settings may ask for -/
def patient : ShardProfile :=
  { ShardProfile.usual "t" with identifyTimeout := UInt64.toNat 18446744073709551615 * 1000 }

/-- A shard ends before it asks for its first connection, though nobody stops it and it has not failed. -/
theorem breaks_off :
    let l := opening patient .only 0
    l.runner.shard.isEnded = true ∧ l.runner.shard.status = .disconnected ∧ l.failures = [] ∧
      (∀ e ∈ l.entries, ∀ x, e.dealt? = some x → e.before.shard.takesStop x = false) ∧
      ∀ e ∈ l.entries, e.acts = [] := by
  intro l
  have entries : l.entries = [⟨0, .meet .timeout, .idle (.fresh patient .only 0)⟩] := rfl
  have silent : (l.entries.flatMap Runner.Entry.acts).isEmpty = true := by decide +kernel
  refine ⟨by decide +kernel, by decide +kernel, by decide +kernel, ?_, ?_⟩
  · rw [entries]
    refine List.forall_mem_singleton.2 fun x deals => ?_
    cases deals
    rfl
  · exact List.flatMap_eq_nil_iff.1 (List.isEmpty_iff.1 silent)

end Logbook

end Shardwire
