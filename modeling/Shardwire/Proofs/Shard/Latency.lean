import Shardwire.Proofs.Shard.Pulse
import Shardwire.Proofs.Shard.Sending

/-
What the recorded latency of a connection measures.

Acknowledgements carry no identity. With a gateway that acknowledges the heartbeats of a connection one after another,
the `k`-th acknowledgement belongs to the `k`-th heartbeat (`Truthful`). The pulse knows of one heartbeat only, that of
the last tick; it does not notice the heartbeats that go out because they are asked for.

- `Reckoning`: where heartbeats go out at ticks only, all of them are acknowledged but perhaps the last one, and that is
  the heartbeat of the last tick;
- `step_clocked`, `run_clocked`: what is shown after an acknowledgement is the time since the last tick;
- `latency_of_last_tick`: so the latency is the round trip of the heartbeat that is acknowledged exactly if that is the
  one of the last tick, and it always is where no heartbeat is asked for;
- `latency_asked`: a heartbeat that is asked for between two ticks shows a latency that nothing took.
-/

namespace Shardwire

namespace Shard

/-! ## Entries -/

namespace Entry

def isTick (e : Entry) : Bool := e.before.ticks e.time e.cause

def isAck (e : Entry) : Bool := e.before.acks e.cause

/-- whether a heartbeat is asked for -/
def isRequest (e : Entry) : Bool := e.before.asks e.cause

/-- when heartbeats go out in it -/
def heartbeats (e : Entry) : List Nat := (e.writes.filter (·.op = .heartbeat)).map fun _ => e.time

variable {e : Entry} {c : Connection} {queued : Bool}

theorem cause_of_isAck (h : e.isAck = true) : ∃ text draw, e.cause = .text text draw := by
  unfold isAck acks at h
  split at h
  · next text draw cause => exact ⟨text, draw, cause⟩
  · cases h

/-- An acknowledgement measures the time since the last tick. -/
theorem latency_of_isAck (h : e.isAck = true) :
    ∃ c queued, e.before.phase = .online c queued ∧
      e.after.latency? = c.pulse.lastSent.map fun t => e.time - t := by
  obtain ⟨now, x, s⟩ := e
  unfold isAck acks at h
  dsimp only at h
  split at h
  · next text draw =>
    split at h
    · next c queued online ack =>
      refine ⟨c, queued, online, ?_⟩
      show (step now (.text text draw) s).shard.latency? = _
      simp only [step, online, stepOnline, ack]
      rfl
    · cases h
  · cases h

theorem not_isTick_of_isAck (h : e.isAck = true) : e.isTick = false := by
  obtain ⟨text, draw, cause⟩ := cause_of_isAck h
  rw [isTick, cause]
  rfl

theorem isTick_of_online (beat : e.cause = .beat) (online : e.before.phase = .online c queued) :
    e.isTick = c.ticks e.time := by
  rw [isTick, beat, ticks, online]

/-- A beat sends a heartbeat if it is a tick, and its receiver is there. -/
theorem heartbeats_of_beat (beat : e.cause = .beat) (online : e.before.phase = .online c queued) :
    e.heartbeats = if e.isTick && c.writable then [e.time] else [] := by
  have acts : e.acts = (c.beat e.before.sequence e.time).2.map .write := by
    rw [acts, turn, beat]
    simp only [step, online, stepOnline]
    rfl
  rw [heartbeats, writes, acts, c.beat_messages, isTick_of_online beat online]
  split <;> rfl

theorem beat_of_isTick (h : e.isTick = true) : e.cause = .beat := by
  unfold isTick ticks at h
  split at h
  · next beat => exact beat
  · cases h

/-- A connection that opens has sent nothing. -/
theorem fresh_of_opensLine (h : e.opensLine = true) :
    e.isTick = false ∧ e.isAck = false ∧ e.heartbeats = [] ∧
      ∀ c queued, e.after.phase = .online c queued → c.pulse = Pulse.fresh := by
  obtain ⟨now, x, s⟩ := e
  unfold opensLine Shard.opensLine at h
  dsimp only at h
  split at h
  · next resume deadline dialling =>
    have turn : step now .opened s =
        ⟨{ s with
            phase := .online { Connection.fresh now with resuming := resume, deadline := some deadline } false
            status := .awaitingHello }, announce .awaitingHello s⟩ := by
      simp only [step, dialling, goOn, Turn.still, Turn.next_mk, publish_eq]
      rfl
    refine ⟨rfl, rfl, ?_, fun c queued online => ?_⟩
    · show (((step now .opened s).acts.filterMap Act.message?).filter _).map _ = []
      rw [turn]
      unfold announce
      split <;> rfl
    · have online : (step now .opened s).shard.phase = .online c queued := online
      rw [turn] at online
      cases online
      rfl
  · cases h

/-- A heartbeat goes out at a tick, or because it was asked for. -/
theorem beat_of_heartbeats (online : e.before.phase = .online c queued) (holds : e.before.HoldsCommands)
    (unasked : e.isRequest = false) (some : e.heartbeats ≠ []) : e.cause.isBeat = true := by
  cases beat : e.cause.isBeat with
  | true => rfl
  | false =>
    have keeps : (step e.time e.cause e.before).Keeps _ _ := step_keeps_pulse e.cause online
    have silent := keeps.silent ⟨beat, unasked, holds⟩
    refine absurd (List.map_eq_nil_iff.2 (List.filter_eq_nil_iff.2 fun m hm heartbeat => ?_)) some
    have quiet := silent _ (mem_writes.1 hm)
    cases quiet.symm.trans heartbeat

/-- What a step does to the pulse of a connection that goes on. -/
theorem pulse_after {c' : Connection} {queued' : Bool} (online : e.before.phase = .online c queued)
    (still : e.after.phase = .online c' queued') :
    c'.pulse = if e.isTick then c.pulse.sent e.time else if e.isAck then c.pulse.acked e.time else c.pulse :=
  (step_keeps_pulse e.cause online).pulse c' queued' still

end Entry

/-! ## Histories -/

/-- when heartbeats went out -/
def sent (es : List Entry) : List Nat := es.flatMap Entry.heartbeats

/-- how many acknowledgements came in -/
def acknowledged (es : List Entry) : Nat := es.countP Entry.isAck

/-- when the heartbeat went out that the next acknowledgement belongs to -/
def answered? (es : List Entry) : Option Nat := (sent es)[acknowledged es]?

/-- the last tick that was recorded -/
def lastTick? (es : List Entry) : Option Nat := (es.filter Entry.isTick).getLast?.map Entry.time

/-- every acknowledgement belongs to a heartbeat that went out before -/
def Truthful (es : List Entry) : Prop :=
  AtEach (fun pre e => e.isAck = true → acknowledged pre < (sent pre).length) es

/-- no heartbeat went out but at a tick -/
def Unprompted (es : List Entry) : Prop := ∀ e ∈ es, e.heartbeats ≠ [] → e.cause.isBeat = true

/-- after an acknowledgement the latency is the time since the heartbeat went out that it belongs to -/
def Genuine (pre : List Entry) (e : Entry) : Prop :=
  e.isAck = true → ∃ t, answered? pre = some t ∧ e.after.latency? = some (e.time - t)

section Histories

variable {es : List Entry} {e : Entry}

theorem sent_snoc (es : List Entry) (e : Entry) : sent (es ++ [e]) = sent es ++ e.heartbeats := by
  rw [sent, List.flatMap_append, List.flatMap_singleton]
  rfl

theorem acknowledged_snoc (es : List Entry) (e : Entry) :
    acknowledged (es ++ [e]) = acknowledged es + if e.isAck then 1 else 0 := by
  rw [acknowledged, List.countP_append, List.countP_singleton]
  rfl

theorem lastTick?_snoc (es : List Entry) (e : Entry) :
    lastTick? (es ++ [e]) = if e.isTick then some e.time else lastTick? es := by
  rw [lastTick?, List.filter_append]
  cases h : e.isTick <;> simp [h, lastTick?]

/-- The same, entry by entry. -/
theorem atEach_iff_getElem {P : List Entry → Entry → Prop} :
    AtEach P es ↔ ∀ i, ∀ h : i < es.length, P (es.take i) es[i] := by
  constructor
  · intro all i h
    refine all _ _ (es.drop (i + 1)) ?_
    rw [← List.drop_eq_getElem_cons h, List.take_append_drop]
  · rintro each pre e post rfl
    have here := each pre.length (by simp)
    simpa using here

instance {P : List Entry → Entry → Prop} [∀ pre e, Decidable (P pre e)] : Decidable (AtEach P es) :=
  decidable_of_iff' _ atEach_iff_getElem

instance : Decidable (Truthful es) := inferInstanceAs (Decidable (AtEach _ es))

theorem AtEach.of_snoc {P : List Entry → Entry → Prop} (h : AtEach P (es ++ [e])) : AtEach P es ∧ P es e := by
  refine ⟨fun pre d post eq => h pre d (post ++ [e]) ?_, h es e [] rfl⟩
  rw [eq, List.append_assoc, List.cons_append]

theorem Unprompted.of_snoc (h : Unprompted (es ++ [e])) :
    Unprompted es ∧ (e.heartbeats ≠ [] → e.cause.isBeat = true) :=
  ⟨fun d hd => h d (List.mem_append_left _ hd), h e (List.mem_append_right _ (List.mem_singleton_self e))⟩

end Histories

/-- how far acknowledgements have come, if no heartbeat was asked for -/
inductive Reckoning (es : List Entry) (p : Pulse) : Prop where
  /-- all heartbeats are acknowledged -/
  | calm (awaiting : p.awaiting = false) (all : acknowledged es = (sent es).length)
  /-- all but the last one, which is that of the last tick -/
  | awaits (awaiting : p.awaiting = true) (one : acknowledged es + 1 = (sent es).length)
      (last : (sent es).getLast? = lastTick? es)
  /-- the last tick was recorded, but sent no heartbeat -/
  | unsent (awaiting : p.awaiting = true) (all : acknowledged es = (sent es).length)

section Reckoning

variable {es : List Entry} {e : Entry} {c : Connection} {queued : Bool}

/-- The acknowledgement that is due is that of the last tick. -/
theorem Reckoning.due {p : Pulse} (h : Reckoning es p) (due : acknowledged es < (sent es).length) :
    lastTick? es = answered? es := by
  cases h with
  | calm awaiting all | unsent awaiting all => omega
  | awaits awaiting one last =>
    rw [← last, answered?, List.getLast?_eq_getElem?, ← one]
    rfl

/-- A tick finds everything acknowledged, and its heartbeat goes out if its receiver is there. -/
theorem Reckoning.ticks (h : Reckoning es c.pulse) (online : e.before.phase = .online c queued)
    (tick : e.isTick = true) : Reckoning (es ++ [e]) (c.pulse.sent e.time) := by
  have beat := Entry.beat_of_isTick tick
  have calm := Connection.awaiting_of_ticks ((Entry.isTick_of_online beat online).symm.trans tick)
  have ack : e.isAck = false := by
    cases ack : e.isAck with
    | false => rfl
    | true => exact absurd tick (by rw [Entry.not_isTick_of_isAck ack]; decide)
  have heartbeats := Entry.heartbeats_of_beat beat online
  rw [tick, Bool.true_and] at heartbeats
  have all : acknowledged es = (sent es).length := by
    cases h with
    | calm awaiting all => exact all
    | awaits awaiting | unsent awaiting => cases calm.symm.trans awaiting
  cases writable : c.writable with
  | true =>
    rw [writable, if_pos rfl] at heartbeats
    refine .awaits rfl ?_ ?_
    · simp [acknowledged_snoc, sent_snoc, heartbeats, ack, all]
    · simp [lastTick?_snoc, sent_snoc, heartbeats, tick]
  | false =>
    rw [writable] at heartbeats
    refine .unsent rfl ?_
    rw [acknowledged_snoc, sent_snoc, heartbeats, ack]
    simpa using all

/-- An acknowledgement that belongs to a heartbeat is the last one that was missing. -/
theorem Reckoning.acks {p : Pulse} (h : Reckoning es p) (silent : e.heartbeats = []) (ack : e.isAck = true)
    (due : acknowledged es < (sent es).length) : Reckoning (es ++ [e]) (p.acked e.time) := by
  refine .calm rfl ?_
  rw [sent_snoc, silent, List.append_nil, acknowledged_snoc, ack, if_pos rfl]
  cases h with
  | calm awaiting all | unsent awaiting all => omega
  | awaits awaiting one last => exact one

/-- Nothing else counts. -/
theorem Reckoning.passes {p : Pulse} (h : Reckoning es p) (silent : e.heartbeats = []) (tick : e.isTick = false)
    (ack : e.isAck = false) : Reckoning (es ++ [e]) p := by
  have same : sent (es ++ [e]) = sent es := by rw [sent_snoc, silent, List.append_nil]
  have more : acknowledged (es ++ [e]) = acknowledged es := by rw [acknowledged_snoc, ack]; rfl
  have still : lastTick? (es ++ [e]) = lastTick? es := by rw [lastTick?_snoc, tick]; rfl
  cases h with
  | calm awaiting all => exact .calm awaiting (by rw [same, more, all])
  | awaits awaiting one last => exact .awaits awaiting (by rw [same, more, one]) (by rw [same, still, last])
  | unsent awaiting all => exact .unsent awaiting (by rw [same, more, all])

/-- One more step. -/
theorem Reckoning.snoc (h : Reckoning es c.pulse) (online : e.before.phase = .online c queued)
    (truthful : e.isAck = true → acknowledged es < (sent es).length)
    (unprompted : e.heartbeats ≠ [] → e.cause.isBeat = true) :
    Reckoning (es ++ [e])
      (if e.isTick then c.pulse.sent e.time else if e.isAck then c.pulse.acked e.time else c.pulse) := by
  cases tick : e.isTick with
  | true => exact h.ticks online tick
  | false =>
    have silent : e.heartbeats = [] := by
      refine Decidable.byContradiction fun some => some ?_
      rw [Entry.heartbeats_of_beat (eq_of_isBeat (unprompted some)) online, tick]
      rfl
    cases ack : e.isAck with
    | true => exact h.acks silent ack (truthful ack)
    | false => exact h.passes silent tick ack

end Reckoning

end Shard

namespace Annals

open Shard (Act AtEach Genuine Reckoning Stimulus Truthful Unprompted answered? lastTick?)

/-- what holds of the pulse and of all acknowledgements on the connection -/
structure Clocked (a : Annals) : Prop where
  recorded : ∀ c queued, a.shard.phase = .online c queued → c.pulse.lastSent = lastTick? a.connection
  shown : AtEach (fun pre e => e.isAck = true → e.after.latency? = (lastTick? pre).map fun t => e.time - t) a.connection
  reckoning : Truthful a.connection → Unprompted a.connection →
    ∀ c queued, a.shard.phase = .online c queued → Reckoning a.connection c.pulse
  due : Truthful a.connection → Unprompted a.connection →
    AtEach (fun pre e => e.isAck = true → lastTick? pre = answered? pre) a.connection

variable {now : Nat} {x : Stimulus} {a : Annals}

/-- A new connection has nothing on record. -/
theorem clocked_of_opensLine (opens : a.shard.opensLine x = true) : Clocked (a.step now x) := by
  have connection : (a.step now x).connection = [a.entry now x] := by
    rw [step_connection, opens]
    rfl
  obtain ⟨tick, ack, silent, pulse⟩ := Shard.Entry.fresh_of_opensLine (e := a.entry now x) opens
  have unacknowledged {P : Prop} (h : (a.entry now x).isAck = true) : P := by cases ack.symm.trans h
  refine ⟨?recorded, ?shown, ?reckoning, ?due⟩ <;> rw [connection]
  case recorded =>
    intro c queued online
    rw [pulse c queued online, ← List.nil_append [_], Shard.lastTick?_snoc, tick]
    rfl
  case shown => exact .one unacknowledged
  case reckoning =>
    intro _ _ c queued online
    rw [pulse c queued online]
    refine .calm rfl ?_
    rw [← List.nil_append [_], Shard.acknowledged_snoc, Shard.sent_snoc, silent, ack]
    rfl
  case due => exact fun _ _ => .one unacknowledged

theorem Clocked.onward (h : Clocked a) (goesOn : a.shard.opensLine x = false) : Clocked (a.step now x) := by
  have connection : (a.step now x).connection = a.connection ++ [a.entry now x] := by
    rw [step_connection, goesOn]
    rfl
  have before {c' : Connection} {queued' : Bool} (still : (a.step now x).shard.phase = .online c' queued') :
      ∃ c queued, a.shard.phase = .online c queued := by
    refine Classical.byContradiction fun offline => ?_
    have away : a.shard.isOnline = false := Bool.eq_false_iff.2 fun here => offline (Shard.online_of_isOnline here)
    cases goesOn.symm.trans (Shard.opensLine_of_online away (Shard.isOnline_of_online still))
  refine ⟨?recorded, ?shown, ?reckoning, ?due⟩ <;> rw [connection]
  case recorded =>
    intro c' queued' still
    obtain ⟨c, queued, online⟩ := before still
    have after := Shard.Entry.pulse_after (e := a.entry now x) online still
    rw [Shard.lastTick?_snoc, after, ← h.recorded c queued online]
    split
    · rfl
    · split <;> rfl
  case shown =>
    refine h.shown.snoc fun ack => ?_
    obtain ⟨c, queued, online, latency⟩ := Shard.Entry.latency_of_isAck ack
    rw [latency, h.recorded c queued online]
  case reckoning =>
    intro truthful unprompted c' queued' still
    obtain ⟨c, queued, online⟩ := before still
    obtain ⟨truthful, one⟩ := truthful.of_snoc
    obtain ⟨unprompted, own⟩ := unprompted.of_snoc
    rw [Shard.Entry.pulse_after (e := a.entry now x) online still]
    exact (h.reckoning truthful unprompted c queued online).snoc online one own
  case due =>
    intro truthful unprompted
    obtain ⟨truthful, one⟩ := truthful.of_snoc
    obtain ⟨unprompted, -⟩ := unprompted.of_snoc
    refine (h.due truthful unprompted).snoc fun ack => ?_
    obtain ⟨c, queued, online, -⟩ := Shard.Entry.latency_of_isAck ack
    exact (h.reckoning truthful unprompted c queued online).due (one ack)

theorem step_clocked (now : Nat) (x : Stimulus) (h : Clocked a) : Clocked (a.step now x) := by
  cases opens : a.shard.opensLine x with
  | true => exact clocked_of_opensLine opens
  | false => exact h.onward opens

theorem run_clocked (p : ShardProfile) (address : ShardAddress) (start : Nat) (xs : List (Nat × Stimulus)) :
    Clocked ((opening p address start).run xs) := by
  refine run_keeps (P := Clocked) (fun now x _ (_ : True) => step_clocked now x) (fun _ _ => trivial) ?_
  have connection : (opening p address start).connection = [⟨start, .timeout, Shard.fresh p address start⟩] := rfl
  have dialling (c : Connection) (queued : Bool) : (opening p address start).shard.phase ≠ .online c queued := by
    rw [opening_shard, Shard.launch, Shard.dial_eq]
    exact Shard.Phase.noConfusion
  refine ⟨fun c queued online => absurd online (dialling c queued), ?_,
    fun _ _ c queued online => absurd online (dialling c queued), fun _ _ => ?_⟩
  · rw [connection]
    exact .one Bool.noConfusion
  · rw [connection]
    exact .one Bool.noConfusion

/-! ## Times -/

theorem times_run (a : Annals) (xs : List (Nat × Stimulus)) :
    (a.run xs).entries.map (·.time) = a.entries.map (·.time) ++ xs.map (·.1) := by
  induction xs generalizing a with
  | nil => exact (List.append_nil _).symm
  | cons x xs ih =>
    show ((a.step x.1 x.2).run xs).entries.map (·.time) = _
    rw [ih, step, List.map_append, List.append_assoc]
    rfl

/-- The steps on a connection are the last ones of all. -/
theorem connection_suffix (a : Annals) : a.connection <:+ a.entries := by
  suffices more : ∀ (es l pre : List Shard.Entry), l <:+ pre →
      es.foldl (fun l e => if e.opensLine then [e] else l ++ [e]) l <:+ pre ++ es from
    more a.entries [] [] List.nil_suffix
  intro es
  induction es with
  | nil => exact fun l pre h => by rwa [List.append_nil]
  | cons e es ih =>
    intro l pre h
    rw [List.foldl_cons, List.append_cons pre]
    refine ih _ _ ?_
    split
    · exact List.suffix_append pre [e]
    · obtain ⟨front, rfl⟩ := h
      exact ⟨front, by rw [List.append_assoc]⟩

/-- Where the times ascend, what stands before an entry came no later. -/
theorem earlier {p : ShardProfile} {address : ShardAddress} {start : Nat} {xs : List (Nat × Stimulus)}
    (ordered : (start :: xs.map (·.1)).Pairwise (· ≤ ·)) {pre post : List Shard.Entry} {e : Shard.Entry}
    (eq : ((opening p address start).run xs).connection = pre ++ e :: post) : ∀ d ∈ pre, d.time ≤ e.time := by
  have all : (((opening p address start).run xs).entries.map (·.time)).Pairwise (· ≤ ·) := by
    rw [times_run]
    exact ordered
  have here := all.sublist ((connection_suffix _).sublist.map _)
  rw [eq, List.map_append, List.map_cons] at here
  intro d hd
  exact (List.pairwise_append.1 here).2.2 _ (List.mem_map_of_mem hd) _ List.mem_cons_self

theorem lastTick?_mem {es : List Shard.Entry} {t : Nat} (h : lastTick? es = some t) : ∃ d ∈ es, d.time = t := by
  obtain ⟨d, hd, rfl⟩ := Option.map_eq_some_iff.1 h
  exact ⟨d, (List.mem_filter.1 (List.mem_of_getLast? hd)).1, rfl⟩

theorem answered?_mem {es : List Shard.Entry} {t : Nat} (h : answered? es = some t) : ∃ d ∈ es, d.time = t := by
  obtain ⟨d, hd, ht⟩ := List.mem_flatMap.1 (List.mem_of_getElem? h)
  obtain ⟨-, -, rfl⟩ := List.mem_map.1 ht
  exact ⟨d, hd, rfl⟩

/-! ## Requests -/

theorem run_holdsCommands (p : ShardProfile) (address : ShardAddress) (start : Nat) {xs : List (Nat × Stimulus)}
    (allowed : ∀ e ∈ xs, e.2.isAllowed = true) :
    ∀ e ∈ ((opening p address start).run xs).entries, e.before.HoldsCommands := by
  let P (a : Annals) : Prop := a.shard.HoldsCommands ∧ ∀ e ∈ a.entries, e.before.HoldsCommands
  have step (now : Nat) (x : Stimulus) (a : Annals) (hx : x.isAllowed = true) (h : P a) : P (a.step now x) := by
    refine ⟨Shard.step_holdsCommands hx now h.1, List.forall_mem_append.2 ⟨h.2, ?_⟩⟩
    exact List.forall_mem_singleton.2 h.1
  have fresh : Shard.HoldsCommands (Shard.fresh p address start) := fun _ _ hm => nomatch hm
  exact (run_keeps (P := P) step allowed (step start .timeout ⟨_, []⟩ rfl ⟨fresh, List.forall_mem_nil _⟩)).2

/-- Where none is asked for, heartbeats go out at ticks only. -/
theorem unprompted_of_unasked (p : ShardProfile) (address : ShardAddress) (start : Nat) {xs : List (Nat × Stimulus)}
    (allowed : ∀ e ∈ xs, e.2.isAllowed = true)
    (unasked : ∀ e ∈ ((opening p address start).run xs).connection, e.isRequest = false) :
    Unprompted ((opening p address start).run xs).connection := by
  intro e he some
  have holds := run_holdsCommands p address start allowed e ((connection_suffix _).subset he)
  by_cases online : ∃ c queued, e.before.phase = .online c queued
  · obtain ⟨c, queued, online⟩ := online
    exact Shard.Entry.beat_of_heartbeats online holds (unasked e he) some
  · -- without a connection nothing is sent
    have away : e.before.isOnline = false := Bool.eq_false_iff.2 fun here => online (Shard.online_of_isOnline here)
    have silent : e.frames = [] := Shard.step_frames_offline away e.time e.cause
    refine absurd (List.map_eq_nil_iff.2 (List.filter_eq_nil_iff.2 fun m hm _ => ?_)) some
    have frame : Act.write m ∈ e.frames := Shard.Entry.mem_frames.2 ⟨Shard.Entry.mem_writes.1 hm, rfl⟩
    rw [silent] at frame
    cases frame

/-! ## Main result -/

/-- With a gateway that acknowledges the heartbeats of a connection one after another, the latency after an
acknowledgement is the time since the last tick. It is the round trip of the heartbeat that is acknowledged exactly if
that is the one of the last tick; this is so on every connection on which no heartbeat is asked for, neither by the
gateway nor by callers. -/
theorem latency_of_last_tick (p : ShardProfile) (address : ShardAddress) (start : Nat) {xs : List (Nat × Stimulus)}
    (ordered : (start :: xs.map (·.1)).Pairwise (· ≤ ·))
    (truthful : Truthful ((opening p address start).run xs).connection) :
    let a := (opening p address start).run xs
    AtEach (fun pre e => e.isAck = true → e.after.latency? = (lastTick? pre).map (e.time - ·)) a.connection ∧
      AtEach (fun pre e => e.isAck = true → (Genuine pre e ↔ lastTick? pre = answered? pre)) a.connection ∧
      ((∀ e ∈ a.connection, e.isRequest = false) → (∀ e ∈ xs, e.2.isAllowed = true) →
        AtEach Genuine a.connection) := by
  intro a
  have h : Clocked a := run_clocked p address start xs
  have genuine :
      AtEach (fun pre e => e.isAck = true → (Genuine pre e ↔ lastTick? pre = answered? pre)) a.connection := by
    intro pre e post eq ack
    have before := earlier ordered eq
    have shown := h.shown pre e post eq ack
    obtain ⟨t, due⟩ : ∃ t, answered? pre = some t := ⟨_, List.getElem?_eq_getElem (truthful pre e post eq ack)⟩
    obtain ⟨d, hd, rfl⟩ := answered?_mem due
    constructor
    · intro real
      obtain ⟨t, due', latency⟩ := real ack
      cases due.symm.trans due'
      rw [shown, Option.map_eq_some_iff] at latency
      obtain ⟨l, last, same⟩ := latency
      obtain ⟨k, hk, rfl⟩ := lastTick?_mem last
      have := before d hd
      have := before k hk
      rw [last, due, show k.time = d.time by omega]
    · intro same _
      refine ⟨d.time, due, ?_⟩
      rw [shown, same, due]
      rfl
  refine ⟨h.shown, genuine, fun unasked allowed pre e post eq ack => ?_⟩
  have unprompted : Unprompted a.connection := unprompted_of_unasked p address start allowed unasked
  exact (genuine pre e post eq ack).2 (h.due truthful unprompted pre e post eq ack) ack

def ackText : String := "\x7b\"op\":11\x7d"

/-- a heartbeat is acknowledged -/
def answered : List (Nat × Stimulus) :=
  [(0, .opened), (0, .text helloText 0), (0, .granted), (0, .beat), (5, .text ackText 0)]

/-- then another one is asked for, sent, and acknowledged -/
def asked : List (Nat × Stimulus) := answered ++ [(10, .text requestText 0), (15, .text ackText 0)]

theorem latency_of_last_tick_answered :
    let a := (opening (.usual "t") .only 0).run answered
    (∀ e ∈ answered, e.2.isAllowed = true) ∧ (0 :: answered.map (·.1)).Pairwise (· ≤ ·) ∧ Truthful a.connection ∧
      (∀ e ∈ a.connection, e.isRequest = false) ∧ AtEach Genuine a.connection ∧ a.shard.latency? = some 5 := by
  intro a
  have allowed : ∀ e ∈ answered, e.2.isAllowed = true := by decide
  have ordered : (0 :: answered.map (·.1)).Pairwise (· ≤ ·) := by decide
  have truthful : Truthful a.connection := by decide +kernel
  have unasked : ∀ e ∈ a.connection, e.isRequest = false := by decide +kernel
  refine ⟨allowed, ordered, truthful, unasked, ?_, by decide +kernel⟩
  exact (latency_of_last_tick (.usual "t") .only 0 ordered truthful).2.2 unasked allowed

/-- The heartbeat that was asked for took 5 milliseconds to be acknowledged, but the latency is 15. -/
theorem latency_asked :
    let a := (opening (.usual "t") .only 0).run asked
    (∀ e ∈ asked, e.2.isAllowed = true) ∧ (0 :: asked.map (·.1)).Pairwise (· ≤ ·) ∧ Truthful a.connection ∧
      answered? (a.connection.take 6) = some 10 ∧ a.shard.latency? = some 15 ∧ ¬ AtEach Genuine a.connection := by
  intro a
  have truthful : Truthful a.connection := by decide +kernel
  have due : answered? (a.connection.take 6) = some 10 := by decide +kernel
  refine ⟨by decide, by decide, truthful, due, by decide +kernel, fun genuine => ?_⟩
  have last : 6 < a.connection.length := by decide +kernel
  have shown : ∀ h : 6 < a.connection.length, a.connection[6].isAck = true ∧
      a.connection[6].after.latency? ≠ some (a.connection[6].time - 10) := by decide +kernel
  obtain ⟨t, due', latency⟩ := Shard.atEach_iff_getElem.1 genuine 6 last (shown last).1
  cases due.symm.trans due'
  exact (shown last).2 latency

end Annals

end Shardwire
