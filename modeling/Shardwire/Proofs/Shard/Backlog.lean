import Shardwire.Proofs.Shard.Logbook

/-
What waits in front of a connection.

A shard that waits for room has done its step, or half of it, while its frame is still to go out; a beat that waits was
counted as sent. `Bound` ties a runner to the journal of its shard: what the shard has done of a handshake on its
connection went out in that order, but for the one that waits (`handshakes`), which is still the right one to send
(`offers`), and a beat that waits found no room when it was made (`beats`). `run_bound`: this holds of every run.
-/

namespace Shardwire

open Shard (Stimulus Act)

namespace Logbook

/-- what a runner keeps to itself, beside what its shard has done -/
structure Bound (p : ShardProfile) (l : Logbook) : Prop where
  sound : l.journal.Sound p
  shard : l.journal.shard = l.runner.shard
  tidy : l.runner.Tidy
  /-- what the shard waits to deal with may reach it, and neither stops it by force nor opens a connection -/
  allowed : ∀ x, l.runner.hand = some (.reply x) ∨ l.runner.hand = some (.parting x) →
    x.isAllowed = true ∧ x ≠ .abort ∧ x ≠ .opened
  /-- a handshake that waits is still the right one -/
  offers : ∀ m, l.runner.handshake? = some m → l.runner.shard.Offers m
  /-- what the shard did of a handshake was sent, but for what waits -/
  handshakes : l.runner.shard.isOnline = true → l.journal.handshakes = l.handshakes ++ l.runner.handshake?.toList
  sent : l.handshakes <+: l.journal.handshakes
  hellos : ∀ i ∈ l.journal.hellos, ∃ e ∈ l.connection, e.hello? = some i
  /-- a beat waits because it found no room, with the number it was made with -/
  beats : ∀ seq, .beat seq ∈ l.runner.outbox.waiting →
    ∃ e ∈ l.connection, e.cause = .meet .beat ∧ e.before.outbox.hasRoom = false ∧ e.before.shard.sequence = seq

variable {p : ShardProfile} {now : Nat} {v : Runner.Move} {l : Logbook}

theorem step_handshakes (hv : v.isAllowed = true) (now : Nat) (l : Logbook) :
    (l.step now v).handshakes =
      (if (l.entry now v).opensLine then [] else l.handshakes) ++
        (l.entry now v).writes.filter (·.op.isHandshake) := by
  rw [handshakes, step_connection hv, List.flatMap_append, List.filter_append, List.flatMap_singleton]
  split <;> rfl

/-- Whatever was noted on a connection that goes on stays so. -/
theorem mem_step_connection (hv : v.isAllowed = true) (goesOn : (l.entry now v).opensLine = false) {e : Runner.Entry}
    (he : e ∈ l.connection) : e ∈ (l.step now v).connection := by
  rw [step_connection hv, goesOn]
  exact List.mem_append_left _ he

theorem entry_mem (hv : v.isAllowed = true) : l.entry now v ∈ (l.step now v).connection := by
  rw [step_connection hv]
  exact List.mem_append_right _ (List.mem_singleton_self _)

namespace Bound

theorem holdsCommands (h : Bound p l) : l.runner.shard.HoldsCommands := h.shard ▸ h.sound.faithful.mailbox

/-- who waits, waited before, or is the shard -/
theorem beats_kept (h : Bound p l) (hv : v.isAllowed = true)
    (waiting : ∀ seq, .beat seq ∈ (l.runner.step now v).runner.outbox.waiting → .beat seq ∈ l.runner.outbox.waiting)
    (seq : Sequence) (hw : .beat seq ∈ (l.step now v).runner.outbox.waiting) :
    ∃ e ∈ (l.step now v).connection,
      e.cause = .meet .beat ∧ e.before.outbox.hasRoom = false ∧ e.before.shard.sequence = seq := by
  rw [step_allowed hv] at hw
  have old := waiting seq hw
  obtain ⟨e, he, found⟩ := h.beats seq old
  refine ⟨e, mem_step_connection hv ?_ he, found⟩
  cases online : l.runner.shard.isOnline with
  | true => simp [Runner.Entry.opensLine, entry, online]
  | false =>
    rw [(h.tidy online).2.1] at old
    cases old

/-- A move in which the shard makes no step and nothing of a handshake is sent. -/
theorem kept (h : Bound p l) (hv : v.isAllowed = true) (steps : (l.runner.step now v).steps = [])
    (shard : (l.runner.step now v).runner.shard = l.runner.shard)
    (silent : ((l.runner.step now v).acts.filterMap Act.message?).filter (·.op.isHandshake) = [])
    (pending : (l.runner.step now v).runner.handshake? = l.runner.handshake?) (tidy : (l.runner.step now v).runner.Tidy)
    (allowed : ∀ x, (l.runner.step now v).runner.hand = some (.reply x) ∨
      (l.runner.step now v).runner.hand = some (.parting x) → x.isAllowed = true ∧ x ≠ .abort ∧ x ≠ .opened)
    (waiting : ∀ seq, .beat seq ∈ (l.runner.step now v).runner.outbox.waiting → .beat seq ∈ l.runner.outbox.waiting) :
    Bound p (l.step now v) := by
  have closed : (l.entry now v).opensLine = false := by
    simp only [Runner.Entry.opensLine, Runner.Entry.after, Runner.Entry.turn, entry, shard]
    cases l.runner.shard.isOnline <;> rfl
  have handshakes : (l.step now v).handshakes = l.handshakes := by
    have none : (l.entry now v).writes.filter (·.op.isHandshake) = [] := silent
    rw [step_handshakes hv, closed, none]
    exact List.append_nil _
  have beats := h.beats_kept hv waiting
  have hellos : ∀ i ∈ l.journal.hellos, ∃ e ∈ (l.step now v).connection, e.hello? = some i := fun i hi =>
    (h.hellos i hi).imp fun e he => ⟨mem_step_connection hv closed he.1, he.2⟩
  have sent := handshakes.symm ▸ h.sent
  have whole := fun online => handshakes.symm ▸ h.handshakes online
  rw [step_allowed hv, steps] at *
  exact ⟨h.sound, h.shard.trans shard.symm, tidy, allowed, fun m hm => shard ▸ h.offers m (pending ▸ hm),
    fun online => pending ▸ whole (shard ▸ online), sent, hellos, beats⟩

/-- Whatever the shard deals with may reach it. -/
theorem allows (h : Bound p l) (hv : v.isAllowed = true) {x : Stimulus} (deals : l.runner.dealt? v = some x) :
    x.isAllowed = true := by
  cases v with
  | meet y =>
    simp only [Runner.dealt?] at deals
    split at deals
    · cases deals
      exact hv
    · cases deals
  | serve =>
    simp only [Runner.dealt?] at deals
    split at deals
    · next hand =>
      cases deals
      exact (h.allowed x (.inl hand)).1
    · next hand =>
      cases deals
      exact (h.allowed x (.inr hand)).1
    · split at deals <;> cases deals
      rfl
    · cases deals
  | refill =>
    simp only [Runner.dealt?] at deals
    split at deals <;> cases deals
    rfl

/-- What the shard comes to deal with later was not to stop it by force, nor to open a connection. -/
theorem deals_early (h : Bound p l) {x : Stimulus} (deals : l.runner.dealt? v = some x)
    (sudden : x = .abort ∨ x = .opened) : v = .meet x := by
  cases v with
  | meet y =>
    simp only [Runner.dealt?] at deals
    split at deals <;> cases deals
    rfl
  | serve =>
    simp only [Runner.dealt?] at deals
    split at deals
    · next hand =>
      cases deals
      have late := (h.allowed x (.inl hand)).2
      exact (sudden.elim late.1 late.2).elim
    · next hand =>
      cases deals
      have late := (h.allowed x (.inr hand)).2
      exact (sudden.elim late.1 late.2).elim
    · split at deals <;> cases deals
      rcases sudden with sudden | sudden <;> cases sudden
    · cases deals
  | refill =>
    simp only [Runner.dealt?] at deals
    split at deals <;> cases deals
    rcases sudden with sudden | sudden <;> cases sudden

/-- A move in which the shard makes a step, on a clock that ends. -/
theorem made (h : Bound p l) (hv : v.isAllowed = true) {x : Stimulus} {q : Runner}
    (deals : l.runner.dealt? v = some x) (eased : Runner.Eased l.runner q)
    (hand : q.hand = none ∧ (l.runner.handshake? = none ∨ x = .dropped) ∨
      Runner.passes x = true ∧ q.hand = l.runner.hand)
    (runner : (l.runner.step now v).runner = (q.perform now x).runner)
    (steps : (l.runner.step now v).steps = l.runner.shard.clocked now x)
    (messages : (l.runner.step now v).acts.filterMap Act.message? =
      (l.runner.shard.step now x).acts.filterMap Act.message?) : Bound p (l.step now v) := by
  have ok := h.allows hv deals
  have holds : l.runner.shard.HoldsCommands := h.holdsCommands
  have shard : (l.runner.step now v).runner.shard = (l.runner.shard.stepClocked now x).shard := by
    rw [runner, Runner.perform_shard, eased.shard]
  have opens : (l.entry now v).opensLine = l.runner.shard.opensLine x := by
    rw [← Shard.opensLine_eq now, ← shard]
    rfl
  have kept : (l.runner.step now v).runner.hand = none ∨ (l.runner.step now v).runner.hand = q.hand := by
    rw [runner]
    exact Runner.perform_hand now x q
  -- whatever waits now waited before, while the shard dealt with something that is no handshake
  have own {k : Runner.Hand} (hk : (l.runner.step now v).runner.hand = some k) :
      l.runner.hand = some k ∧ Runner.passes x = true := by
    rcases kept with none | same
    · cases none.symm.trans hk
    · rcases hand with ⟨free, -⟩ | ⟨passing, busy⟩
      · cases free.symm.trans (same.symm.trans hk)
      · exact ⟨busy.symm.trans (same.symm.trans hk), passing⟩
  have tidy : (l.runner.step now v).runner.Tidy := runner ▸ Runner.perform_tidy now x q
  have writes : (l.entry now v).writes = (l.runner.shard.step now x).acts.filterMap Act.message? := messages
  have wire := Journal.clocked_wire ok now l.journal
  rw [Journal.step_wire ok, Journal.step_hellos ok, h.shard] at wire
  have sends (m : Message) (hm : m ∈ (l.entry now v).writes.filter (·.op.isHandshake)) :
      l.runner.shard.isOnline = true ∧ l.runner.handshake? = none := by
    obtain ⟨hm, hs⟩ := List.mem_filter.1 hm
    rw [writes] at hm
    obtain ⟨online, goesOn⟩ := Shard.step_writes hm
    refine ⟨online, ?_⟩
    rcases hand with ⟨-, free | rfl⟩ | ⟨passing, -⟩
    · exact free
    · cases goesOn.symm.trans (Shard.step_dropped now online)
    · cases ((Shard.step_passing holds passing goesOn).2 m hm).symm.trans hs
  have noted : (l.step now v).journal.handshakes =
      (if l.runner.shard.opensLine x then [] else l.journal.handshakes) ++
        (l.entry now v).writes.filter (·.op.isHandshake) := by
    rw [step_allowed hv, steps, Journal.handshakes, wire.1, List.filter_append, writes]
    split <;> rfl
  have sent := step_handshakes hv now l
  rw [opens] at sent
  refine ⟨?_, ?_, ?_, ?_, ?_, ?_, ?_, ?_, h.beats_kept hv ?_⟩
  case refine_1 =>
    rw [step_allowed hv]
    exact h.sound.steps now _
  case refine_2 =>
    rw [step_allowed hv, steps, Journal.steps_shard (h.shard ▸ Journal.clocked_allowed ok now _), h.shard]
    exact shard.symm
  case refine_3 =>
    rw [step_allowed hv]
    exact tidy
  case refine_4 =>
    rw [step_allowed hv]
    exact fun y hy => h.allowed y (hy.imp (fun hy => (own hy).1) fun hy => (own hy).1)
  case refine_5 =>
    rw [step_allowed hv]
    intro m hm
    obtain ⟨before, passing⟩ := own (Runner.hand_of_handshake? hm)
    have online : (l.runner.step now v).runner.shard.isOnline = true :=
      tidy.online_of_hand (Runner.hand_of_handshake? hm)
    rw [shard] at online ⊢
    have whole := Shard.stepClocked_online online
    rw [whole] at online ⊢
    exact (h.offers m (Runner.handshake?_of_hand before)).imp id
      (Exists.imp fun _ => And.imp_right (Eq.trans (Shard.step_passing holds passing online).1))
  case refine_6 =>
    intro online
    rw [noted, sent]
    rw [step_allowed hv] at online ⊢
    rw [shard] at online
    split
    · next ho =>
      have none : (l.runner.step now v).runner.handshake? = none := by
        refine Option.eq_none_iff_forall_ne_some.2 fun m hm => ?_
        cases (h.tidy (Shard.offline_of_opensLine ho)).1.symm.trans (own (Runner.hand_of_handshake? hm)).1
      simp [none]
    · next ho =>
      have before : l.runner.shard.isOnline = true := by
        cases here : l.runner.shard.isOnline with
        | true => rfl
        | false => exact (ho (Shard.opensLine_of_stepClocked here online)).elim
      have whole := Shard.stepClocked_online online
      have same : (l.runner.step now v).runner.hand = q.hand := by
        rw [runner, Runner.perform, Runner.follow_online (by rw [eased.shard]; exact online)]
      rw [h.handshakes before]
      rcases hand with ⟨free, free' | rfl⟩ | ⟨passing, busy⟩
      · simp [free', Runner.handshake?_of_free (same.trans free)]
      · cases (whole ▸ online).symm.trans (Shard.step_dropped now before)
      · have silent : (l.entry now v).writes.filter (·.op.isHandshake) = [] := by
          refine List.filter_eq_nil_iff.2 fun m hm => ?_
          rw [writes] at hm
          simp [(Shard.step_passing holds passing (whole ▸ online)).2 m hm]
        have waits : (l.runner.step now v).runner.handshake? = l.runner.handshake? := by
          simp [Runner.handshake?, same, busy]
        simp [silent, waits]
  case refine_7 =>
    rw [noted, sent]
    split
    · exact List.prefix_rfl
    · cases any : (l.entry now v).writes.filter (·.op.isHandshake) with
      | nil => simpa using h.sent
      | cons m ms =>
        obtain ⟨online, free⟩ := sends m (any ▸ List.mem_cons_self)
        rw [h.handshakes online, free]
        simp
  case refine_8 =>
    intro i hi
    rw [step_allowed hv, steps, wire.2] at hi
    rcases List.mem_append.1 hi with hi | hi
    · split at hi
      · cases hi
      · next ho =>
        obtain ⟨e, he, found⟩ := h.hellos i hi
        exact ⟨e, mem_step_connection hv (by simpa [opens] using ho) he, found⟩
    · refine ⟨_, entry_mem hv, ?_⟩
      rw [Runner.Entry.hello?, Runner.Entry.dealt?, entry, deals]
      exact Option.mem_toList.1 hi
  case refine_9 =>
    intro seq hw
    rw [runner, Runner.perform, Runner.follow] at hw
    split at hw
    · exact eased.waiting _ hw
    · cases hw

/-- The shard begins to wait in the middle of a step that writes a handshake. -/
theorem begun (h : Bound p l) (hv : v.isAllowed = true) {x : Stimulus} {q : Runner} {m : Message}
    (deals : l.runner.dealt? v = some x) (eased : Runner.Eased l.runner q) (free : l.runner.handshake? = none)
    (frame : (l.runner.shard.step now x).acts.find? Act.isFrame = some (.write m))
    (timed : (l.runner.shard.step now x).isTimed = true)
    (eq : l.runner.step now v =
      ⟨{ q with
          shard := (l.runner.shard.step now x).shard
          hand := some (.handshake m)
          outbox := q.outbox.await .shard }, [x], (l.runner.shard.step now x).acts.filter fun a => !a.isFrame⟩) :
    Bound p (l.step now v) := by
  have ok := h.allows hv deals
  have holds : l.runner.shard.HoldsCommands := h.holdsCommands
  obtain ⟨only, before, after, offers⟩ := Shard.step_begins holds timed frame
  have closed : (l.entry now v).opensLine = false := by simp [Runner.Entry.opensLine, entry, before]
  have unopened : l.runner.shard.opensLine x = false := by
    cases opens : l.runner.shard.opensLine x with
    | false => rfl
    | true => cases (Shard.offline_of_opensLine opens).symm.trans before
  have silent : (l.entry now v).writes = [] := by
    rw [Runner.Entry.writes, entry_acts, eq, Shard.filterMap_message?, List.filter_filter]
    simp
  have written : (l.runner.shard.step now x).acts.filterMap Act.message? = [m] := by
    rw [Shard.filterMap_message?, only]
    rfl
  have sent : (l.step now v).handshakes = l.handshakes := by
    rw [step_handshakes hv, closed, silent]
    exact List.append_nil _
  have noted : (l.step now v).journal.handshakes = l.handshakes ++ [m] := by
    have one : [m].filter (fun m => m.op.isHandshake) = [m] := by simp [offers.isHandshake]
    rw [step_allowed hv, eq, Journal.handshakes]
    show List.filter _ (l.journal.step now x).wire = _
    rw [Journal.step_wire ok, h.shard, unopened, written, List.filter_append, one]
    show l.journal.handshakes ++ [m] = _
    rw [h.handshakes before, free]
    simp
  have runner : (l.step now v).runner = (l.runner.step now v).runner := by rw [step_allowed hv]
  refine ⟨?_, ?_, ?_, ?_, ?_, ?_, ?_, ?_, h.beats_kept hv ?_⟩
  case refine_1 =>
    rw [step_allowed hv]
    exact h.sound.steps now _
  case refine_2 =>
    rw [runner, step_allowed hv, eq]
    exact (Journal.step_shard ok now l.journal).trans (by rw [h.shard])
  case refine_3 =>
    rw [runner, eq]
    intro offline
    cases after.symm.trans offline
  case refine_4 =>
    rw [runner, eq]
    rintro y (hy | hy) <;> cases hy
  case refine_5 =>
    rw [runner, eq]
    intro m' hm
    cases hm
    exact offers
  case refine_6 =>
    intro online
    rw [runner, noted, sent, eq]
    rfl
  case refine_7 =>
    rw [noted, sent]
    exact List.prefix_append _ _
  case refine_8 =>
    intro i hi
    rw [step_allowed hv, eq] at hi
    rcases List.mem_append.1 ((Journal.step_hellos ok now l.journal) ▸ hi) with hi | hi
    · rw [h.shard, unopened] at hi
      obtain ⟨e, he, found⟩ := h.hellos i hi
      exact ⟨e, mem_step_connection hv closed he, found⟩
    · refine ⟨_, entry_mem hv, ?_⟩
      rw [Runner.Entry.hello?, Runner.Entry.dealt?, entry, deals]
      exact Option.mem_toList.1 (h.shard ▸ hi)
  case refine_9 =>
    intro seq hw
    rw [eq] at hw
    rcases List.mem_append.1 hw with hw | hw
    · exact eased.waiting _ hw
    · cases List.mem_singleton.1 hw

/-- The heartbeat begins to wait. -/
theorem held (h : Bound p l) (room : l.runner.outbox.hasRoom = false)
    (frame : (l.runner.shard.step now .beat).acts.any Act.isFrame = true)
    (eq : l.runner.step now (.meet .beat) =
      ⟨{ l.runner with
          shard := (l.runner.shard.step now .beat).shard
          outbox := l.runner.outbox.await (.beat l.runner.shard.sequence) }, [.beat], []⟩) :
    Bound p (l.step now (.meet .beat)) := by
  have hv : Runner.Move.isAllowed (.meet .beat) = true := rfl
  have ok : Stimulus.isAllowed .beat = true := rfl
  have holds : l.runner.shard.HoldsCommands := h.holdsCommands
  have before : l.runner.shard.isOnline = true := by
    obtain ⟨a, ha, framed⟩ := List.any_eq_true.1 frame
    exact Shard.online_of_frame ha framed
  have after := Shard.step_beat_online now before
  obtain ⟨session, unsent⟩ := Shard.step_passing holds rfl after
  have closed : (l.entry now (.meet .beat)).opensLine = false := by simp [Runner.Entry.opensLine, entry, before]
  have unopened : l.runner.shard.opensLine .beat = false := l.runner.shard.opensLine_eq_false (by simp)
  have unheard : l.runner.shard.helloOf? .beat = none := by
    unfold Shard.helloOf?
    split
    · next hx => cases hx
    · rfl
  have silent : (l.entry now (.meet .beat)).writes = [] := by
    rw [Runner.Entry.writes, entry_acts, eq]
    rfl
  have sent : (l.step now (.meet .beat)).handshakes = l.handshakes := by
    rw [step_handshakes hv, closed, silent]
    exact List.append_nil _
  have runner : (l.step now (.meet .beat)).runner = (l.runner.step now (.meet .beat)).runner := by rw [step_allowed hv]
  have journal : (l.step now (.meet .beat)).journal = l.journal.step now .beat := by
    rw [step_allowed hv, eq]
    rfl
  have noted : (l.step now (.meet .beat)).journal.handshakes = l.journal.handshakes := by
    have none : ((l.runner.shard.step now .beat).acts.filterMap Act.message?).filter (·.op.isHandshake) = [] :=
      List.filter_eq_nil_iff.2 fun m hm => by simp [unsent m hm]
    rw [journal, Journal.handshakes, Journal.step_wire ok, h.shard, unopened, List.filter_append, none]
    exact List.append_nil _
  refine ⟨?_, ?_, ?_, ?_, ?_, ?_, ?_, ?_, ?_⟩
  case refine_1 =>
    rw [journal]
    exact h.sound.steps now [.beat]
  case refine_2 =>
    rw [runner, journal, eq]
    exact (Journal.step_shard ok now l.journal).trans (by rw [h.shard])
  case refine_3 =>
    rw [runner, eq]
    intro offline
    cases after.symm.trans offline
  case refine_4 =>
    rw [runner, eq]
    exact h.allowed
  case refine_5 =>
    rw [runner, eq]
    exact fun m hm => (h.offers m hm).imp id (Exists.imp fun _ => And.imp_right (Eq.trans session))
  case refine_6 =>
    intro online
    rw [runner, noted, sent, eq]
    exact h.handshakes before
  case refine_7 =>
    rw [noted, sent]
    exact h.sent
  case refine_8 =>
    intro i hi
    rw [journal, Journal.step_hellos ok, h.shard, unopened, unheard] at hi
    obtain ⟨e, he, found⟩ := h.hellos i (by simpa using hi)
    exact ⟨e, mem_step_connection hv closed he, found⟩
  case refine_9 =>
    intro seq hw
    rw [runner, eq] at hw
    rcases List.mem_append.1 hw with hw | hw
    · obtain ⟨e, he, found⟩ := h.beats seq hw
      exact ⟨e, mem_step_connection hv closed he, found⟩
    · cases List.mem_singleton.1 hw
      exact ⟨_, entry_mem hv, rfl, room, rfl⟩

/-- A handshake that waited is written. -/
theorem wrote (h : Bound p l) {q : Runner} {m : Message} (waited : l.runner.handshake? = some m)
    (eased : Runner.Eased l.runner { q with extended := l.runner.extended }) (hand : q.hand = none)
    (eq : l.runner.step now .serve = if l.runner.shard.outlasts now then
      Runner.Turn.next ⟨q, [], [.write m]⟩ (Runner.perform now .abort) else ⟨q, [], [.write m]⟩) :
    Bound p (l.step now .serve) := by
  have hv : Runner.Move.isAllowed .serve = true := rfl
  have ok : Stimulus.isAllowed .abort = true := rfl
  have before : l.runner.shard.isOnline = true := h.tidy.online_of_hand (Runner.hand_of_handshake? waited)
  have offers := h.offers m waited
  have closed : (l.entry now .serve).opensLine = false := by simp [Runner.Entry.opensLine, entry, before]
  have courses : l.runner.step now .serve = ⟨q, [], [.write m]⟩ ∨
      l.runner.step now .serve = ⟨(q.perform now .abort).runner, l.runner.shard.clocked now .abort,
        .write m :: (l.runner.shard.stepClocked now .abort).acts⟩ := by
    rw [eq]
    split
    · refine .inr ?_
      rw [← eased.shard]
      rfl
    · exact .inl rfl
  have writes : (l.entry now .serve).writes = [m] := by
    have silent : (l.runner.shard.step now .abort).acts.filterMap Act.message? = [] :=
      List.filterMap_eq_nil_iff.2 (Shard.forall_abort l.runner.shard rfl rfl fun _ _ => rfl)
    rw [Runner.Entry.writes, entry_acts]
    rcases courses with eq | eq
    · rw [eq]
      rfl
    · rw [eq]
      show m :: (l.runner.shard.stepClocked now .abort).acts.filterMap Act.message? = [m]
      rw [Shard.stepClocked_messages, silent]
  have sent : (l.step now .serve).handshakes = l.handshakes ++ [m] := by
    rw [step_handshakes hv, closed, writes]
    simp [offers.isHandshake]
  have noted : (l.step now .serve).journal.wire = l.journal.wire ∧
      (l.step now .serve).journal.hellos = l.journal.hellos := by
    rw [step_allowed hv]
    rcases courses with eq | eq
    · rw [eq]
      exact ⟨rfl, rfl⟩
    · rw [eq, ← h.shard]
      have wire := Journal.clocked_wire ok now l.journal
      rwa [Journal.abort_wire, Journal.abort_hellos] at wire
  have whole := h.handshakes before
  rw [waited] at whole
  have same : (l.step now .serve).journal.handshakes = (l.step now .serve).handshakes := by
    rw [Journal.handshakes, noted.1, sent]
    exact whole
  have runner : (l.step now .serve).runner = (l.runner.step now .serve).runner := by rw [step_allowed hv]
  have free : (l.step now .serve).runner.hand = none := by
    rw [runner]
    rcases courses with eq | eq
    · rw [eq]
      exact hand
    · rw [eq, Runner.perform, Runner.follow]
      split
      · exact hand
      · rfl
  refine ⟨?_, ?_, ?_, ?_, ?_, ?_, ?_, ?_, h.beats_kept hv ?_⟩
  case refine_1 =>
    rw [step_allowed hv]
    exact h.sound.steps now _
  case refine_2 =>
    rw [runner, step_allowed hv]
    rcases courses with eq | eq
    · rw [eq]
      exact h.shard.trans eased.shard.symm
    · rw [eq, Runner.perform_shard, eased.shard,
        Journal.steps_shard (h.shard ▸ Journal.clocked_allowed ok now _), h.shard]
      rfl
  case refine_3 =>
    rw [runner]
    rcases courses with eq | eq
    · rw [eq]
      intro offline
      cases before.symm.trans (eased.shard ▸ offline)
    · rw [eq]
      exact Runner.perform_tidy now .abort q
  case refine_4 =>
    rw [free]
    rintro y (hy | hy) <;> cases hy
  case refine_5 => simp [Runner.handshake?_of_free free]
  case refine_6 =>
    rw [Runner.handshake?_of_free free, same]
    exact fun _ => (List.append_nil _).symm
  case refine_7 => exact same ▸ List.prefix_rfl
  case refine_8 =>
    rw [noted.2]
    exact fun i hi => (h.hellos i hi).imp fun e he => ⟨mem_step_connection hv closed he.1, he.2⟩
  case refine_9 =>
    intro seq hw
    rcases courses with eq | eq
    · rw [eq] at hw
      exact eased.waiting _ hw
    · rw [eq, Runner.perform, Runner.follow] at hw
      split at hw
      · exact eased.waiting _ hw
      · cases hw

/-- What one move does to a runner keeps it bound to its journal. -/
theorem moved (h : Bound p l) (hv : v.isAllowed = true) (now : Nat) : Bound p (l.step now v) := by
  have hc := Runner.step_course now v l.runner
  generalize eq : l.runner.step now v = t at hc
  have seen : ∀ {q : Runner}, Runner.Eased l.runner q → ∀ seq, .beat seq ∈ q.outbox.waiting →
      .beat seq ∈ l.runner.outbox.waiting := fun eased seq => eased.waiting _
  cases hc with
  | @rests _ r' acts eased pending busy answers =>
    refine h.kept hv (by rw [eq]) (by rw [eq]; exact eased.shard) ?_ (by rw [eq]; exact pending) ?_ ?_
      (by rw [eq]; exact seen eased)
    · rw [eq, List.filterMap_eq_nil_iff.2]
      · rfl
      · exact fun a ha => Shard.forall_answers (P := fun a => a.message? = none) answers (fun _ _ => rfl) a ha
    · rw [eq]
      exact h.tidy.eased eased busy
    · rw [eq]
      rcases busy with same | ⟨waits, -⟩
      · exact same ▸ h.allowed
      · rw [waits]
        rintro x (hx | hx) <;> cases hx
  | @makes _ x q deals eased hand =>
    exact h.made hv deals eased hand (by rw [eq]) (by rw [eq, ← eased.shard]; rfl)
      (by rw [eq, ← eased.shard]; exact Shard.stepClocked_messages now x q.shard)
  | @parts x q deals waited eased hand =>
    refine h.made hv deals eased (.inl ⟨hand, .inl (by simp [Runner.handshake?, waited])⟩) (by rw [eq])
      (by rw [eq, ← eased.shard]; rfl) ?_
    rw [eq, ← eased.shard, Shard.filterMap_message?, Runner.dropWhile_frames, ← Shard.filterMap_message?]
    exact Shard.stepClocked_messages now x q.shard
  | begins deals eased free hand room frame timed =>
    rw [eased.shard] at frame timed
    exact h.begun hv deals eased free frame timed (by rw [eq, eased.shard])
  | @postpones _ x q m deals eased free hand room frame untimed =>
    have online := Shard.online_of_frame (List.mem_of_find?_eq_some frame) rfl
    refine h.kept hv (by rw [eq]; rfl) (by rw [eq]; exact eased.shard) (by rw [eq]; rfl) (by rw [eq]; exact free.symm)
      ?_ ?_ ?_
    · rw [eq]
      exact fun offline => by cases online.symm.trans offline
    · rw [eq]
      rintro y (hy | hy) <;> cases hy
      exact ⟨h.allows hv deals, Shard.unforced_of_frame frame, Shard.unopened_of_frame frame⟩
    · rw [eq]
      intro seq hw
      rcases List.mem_append.1 hw with hw | hw
      · exact seen eased seq hw
      · cases List.mem_singleton.1 hw
  | @prepares _ x q c deals eased free hand room frame =>
    have online := Shard.online_of_frame (List.mem_of_find?_eq_some frame) rfl
    refine h.kept hv (by rw [eq]) (by rw [eq]; exact eased.shard) ?_ (by rw [eq]; exact free.symm) ?_ ?_ ?_
    · rw [eq, Shard.filterMap_message?, Runner.takeWhile_frames]
      rfl
    · rw [eq]
      exact fun offline => by cases online.symm.trans offline
    · rw [eq]
      rintro y (hy | hy) <;> cases hy
      exact ⟨h.allows hv deals, Shard.unforced_of_frame frame, Shard.unopened_of_frame frame⟩
    · rw [eq]
      intro seq hw
      rcases List.mem_append.1 hw with hw | hw
      · exact seen eased seq (List.mem_filter.1 hw).1
      · cases List.mem_singleton.1 hw
  | holds room frame => exact h.held room frame eq
  | @sends q seq waited eased hand =>
    have online : l.runner.shard.isOnline = true := by
      cases here : l.runner.shard.isOnline with
      | true => rfl
      | false =>
        rw [(h.tidy here).2.1] at waited
        cases waited
    refine h.kept hv (by rw [eq]) (by rw [eq]; exact eased.shard) (by rw [eq]; rfl)
      (by rw [eq]; simp [Runner.handshake?, hand]) ?_ (by rw [eq, hand]; exact h.allowed) (by rw [eq]; exact seen eased)
    rw [eq]
    intro offline
    cases (eased.shard ▸ online).symm.trans offline
  | writes waited eased hand extended => exact h.wrote waited eased hand eq

end Bound

theorem step_bound (now : Nat) (v : Runner.Move) (h : Bound p l) : Bound p (l.step now v) := by
  cases hv : v.isAllowed with
  | true => exact h.moved hv now
  | false => rwa [step_refused hv]

theorem bound_blank (p : ShardProfile) (address : ShardAddress) (now : Nat) : Bound p (blank p address now) where
  sound := Journal.sound_blank p address now
  shard := rfl
  tidy := fun _ => ⟨rfl, rfl, rfl⟩
  allowed := by rintro x (hx | hx) <;> cases hx
  offers := nofun
  handshakes := nofun
  sent := List.prefix_rfl
  hellos := nofun
  beats := nofun

/-- Every runner is bound to its journal. -/
theorem run_bound (p : ShardProfile) (address : ShardAddress) (start : Nat) (moves : List (Nat × Runner.Move)) :
    Bound p ((opening p address start).run moves) :=
  run_keeps (P := Bound p) (fun now v _ h => step_bound now v h) moves (step_bound start _ (bound_blank p address start))

end Logbook

end Shardwire
