import Shardwire.Proofs.Shard.Resumption
import Shardwire.Proofs.Wire.Payload

/-
What is handed on of a session.

A gateway keeps the events of a session in a log. It sends the log from its start on one connection, and after a Resume
what comes behind the sequence number that the Resume names; it may repeat entries, send anything else between them,
close, or lose its connections at any moment, with all that is on the way. `Orderly` ties together what was handed on,
what of the rest is on the way, and what is still to be sent: as long as the session is not given up, they are the log.
-/

namespace Shardwire

/-! ## Resume as the gateway reads it -/

@[simp] theorem Message.resume?_resume (p : Resume) : (Message.resume p).resume? = some p :=
  Message.payload?_plain .resume p.recovers

theorem Message.resume?_eq_none {m : Message} (h : m.op ≠ .resume) : m.resume? = none := by
  simp [Message.resume?, Message.payload?, h]

/-! ## Events that come in -/

/-- those that will be handed on, if `last` was before them -/
def Sequence.fresh (last : Sequence) : List Dispatch → List Dispatch
  | [] => []
  | d :: ds =>
    match last.advance? d.seq with
    | some seq => d :: fresh seq ds
    | none => fresh last ds

namespace Sequence

variable {last : Sequence} {d : Dispatch} {ds : List Dispatch}

theorem advance?_of_lt (h : ∀ n, last = some n → n < d.seq) : last.advance? d.seq = some (some d.seq) := by
  cases last with
  | none => rfl
  | some n => simp [advance?, h n rfl]

theorem advance?_of_le {n m : UInt64} (h : m ≤ n) : advance? (some n) m = none := by
  simp [advance?, h]

theorem lt_of_advance? {n m : UInt64} {seq : Sequence} (h : advance? (some n) m = some seq) : n < m := by
  by_cases hn : n < m
  · exact hn
  · simp [advance?, hn] at h

theorem fresh_snoc (hl : ∀ n, last = some n → n < d.seq) (hf : ∀ e ∈ last.fresh ds, e.seq < d.seq) :
    last.fresh (ds ++ [d]) = last.fresh ds ++ [d] := by
  induction ds generalizing last with
  | nil => simp [fresh, advance?_of_lt hl]
  | cons e ds ih =>
    simp only [fresh, List.cons_append] at hf ⊢
    cases hq : last.advance? e.seq with
    | none => exact ih hl (by simpa [hq] using hf)
    | some seq =>
      rw [hq] at hf
      have hs := advance?_eq hq
      subst hs
      simp only [List.cons_append, List.cons.injEq, true_and]
      refine ih ?_ fun e' he => hf e' (List.mem_cons_of_mem e he)
      intro n hn
      cases hn
      exact hf e List.mem_cons_self

theorem fresh_snoc_stale
    (h : (∃ n, last = some n ∧ d.seq ≤ n) ∨ ∃ e ∈ last.fresh ds, d.seq ≤ e.seq) :
    last.fresh (ds ++ [d]) = last.fresh ds := by
  induction ds generalizing last with
  | nil =>
    rcases h with ⟨n, rfl, hn⟩ | ⟨e, he, -⟩
    · simp [fresh, advance?_of_le hn]
    · cases he
  | cons e ds ih =>
    simp only [fresh, List.cons_append] at h ⊢
    cases hq : last.advance? e.seq with
    | none => exact ih (by simpa [hq] using h)
    | some seq =>
      rw [hq] at h
      have hs := advance?_eq hq
      subst hs
      simp only [List.cons.injEq, true_and]
      apply ih
      rcases h with ⟨n, rfl, hn⟩ | ⟨e', he, hle⟩
      · exact .inl ⟨_, rfl, UInt64.le_trans hn (UInt64.le_of_lt (lt_of_advance? hq))⟩
      · rcases List.mem_cons.1 he with rfl | he
        · exact .inl ⟨_, rfl, hle⟩
        · exact .inr ⟨e', he, hle⟩

end Sequence

/-! ## The gateway's side of a session -/

/-- an event of a session, as the gateway writes it -/
structure Entry where
  text : String
  event : Dispatch
  decodes : Event.decode text = .ok (.dispatch event)

/-- the events of a session: sequence numbers go up, and READY comes first -/
structure SessionLog where
  entries : List Entry
  ascending : entries.Pairwise fun a b => a.event.seq < b.event.seq
  opens : ∃ e ∈ entries.head?, e.event.session?.isSome = true

namespace SessionLog

def events (log : SessionLog) : List Dispatch := log.entries.map (·.event)

theorem ascending_events (log : SessionLog) : log.events.Pairwise fun a b => a.seq < b.seq :=
  List.pairwise_map.2 log.ascending

/-- what a session that was seen up to a sequence number goes on with -/
def after (log : SessionLog) (seq : UInt64) : List Entry := log.entries.filter fun e => seq < e.event.seq

/-- the entries that were sent, if these are still to be sent -/
def sent (log : SessionLog) (rest : List Entry) : List Entry :=
  log.entries.take (log.entries.length - rest.length)

/-- What comes behind the last event of a part from the start is the rest. -/
theorem append_after (log : SessionLog) {seen : List Dispatch} (hs : seen <+: log.events) {n : UInt64}
    (hn : seen.getLast?.map (·.seq) = some n) : seen ++ (log.after n).map (·.event) = log.events := by
  obtain ⟨rest, eq⟩ := hs
  obtain ⟨last, hl, rfl⟩ := Option.map_eq_some_iff.1 hn
  obtain ⟨before, rfl⟩ := List.getLast?_eq_some_iff.1 hl
  have sorted := log.ascending_events
  rw [← eq] at sorted
  obtain ⟨h1, -, h3⟩ := List.pairwise_append.1 sorted
  have map : (log.after last.seq).map (·.event) = log.events.filter fun d => last.seq < d.seq := by
    rw [after, events, List.filter_map]
    rfl
  have old : (before ++ [last]).filter (fun d => last.seq < d.seq) = [] := by
    refine List.filter_eq_nil_iff.2 fun d hd => ?_
    rcases List.mem_append.1 hd with hd | hd
    · have lt := (List.pairwise_append.1 h1).2.2 d hd last (List.mem_singleton.2 rfl)
      simpa using UInt64.le_of_lt lt
    · simp [List.mem_singleton.1 hd]
  have new : rest.filter (fun d => last.seq < d.seq) = rest :=
    List.filter_eq_self.2 fun d hd => by simpa using h3 last (by simp) d hd
  rw [map, ← eq, List.filter_append, old, new, List.nil_append]

end SessionLog

/-- what is on its way to the shard -/
inductive Parcel where
  | entry (e : Entry)
  /-- anything but an event -/
  | text (s : String)
  | close (closure : Option Closure)

namespace Parcel

def event? : Parcel → Option Dispatch
  | .entry e => some e.event
  | _ => none

/-- what its arrival is to a shard -/
def stimulus (draw : Nat) : Parcel → Shard.Stimulus
  | .entry e => .text e.text draw
  | .text s => .text s draw
  | .close closure => .closed closure

end Parcel

/-- whether a text is an event -/
def Event.isDispatch (text : String) : Bool :=
  match Event.decode text with
  | .ok (.dispatch _) => true
  | _ => false

/-- whether it comes over the connection -/
def Shard.Stimulus.isFrame : Shard.Stimulus → Bool
  | .text _ _ | .closed _ => true
  | _ => false

theorem Shard.eventOf?_eq_none {x : Shard.Stimulus} (h : x.isFrame = false) (s : Shard) : s.eventOf? x = none := by
  cases x with
  | text text draw => cases h
  | _ => unfold Shard.eventOf?; split <;> simp_all

open Shard (Stimulus Act)

/-- a shard, its journal, and a gateway with one session -/
structure World where
  journal : Journal
  /-- on its way over the present connection -/
  inbound : List Parcel
  /-- what is still to be sent over it, once the session is on it -/
  feed : Option (List Entry)
  /-- whether the session was started -/
  begun : Bool
  /-- whether the shard gave the session up -/
  givenUp : Bool
  /-- the sequence number of every Resume, with what had been handed on by then -/
  resumes : List (UInt64 × List Dispatch)

inductive Move where
  /-- the session starts on the present connection -/
  | start
  /-- the next entry is sent -/
  | feed
  /-- an entry is sent once more -/
  | echo (i : Nat)
  /-- something else is sent -/
  | send (text : String)
  | close (closure : Option Closure)
  /-- the shard receives what comes next -/
  | receive (draw : Nat)
  /-- anything else happens to the shard -/
  | strike (x : Stimulus)

namespace World

/-- the present connection, if there is one -/
def isOnline (w : World) : Bool :=
  match w.journal.shard.phase with
  | .online _ _ => true
  | _ => false

/-- the gateway sees what a shard does -/
def notice (log : SessionLog) (w : World) : Act → World
  | .hangUp => { w with inbound := [], feed := none }
  | .write m =>
    match m.resume? with
    | some p =>
      { w with feed := some (log.after p.seq), resumes := w.resumes ++ [(p.seq, w.journal.delivered)] }
    | none => w
  | _ => w

/-- something happens to the shard -/
def meet (log : SessionLog) (now : Nat) (x : Stimulus) (w : World) : World :=
  (w.journal.shard.step now x).acts.foldl (notice log)
    { w with
      journal := w.journal.step now x
      givenUp := w.givenUp || (w.journal.held.isSome && w.journal.shard.relinquishes x) }

def step (log : SessionLog) (now : Nat) (w : World) : Move → World
  | .start =>
    if w.isOnline && !w.begun then { w with begun := true, feed := some log.entries } else w
  | .feed =>
    match w.feed with
    | some (e :: rest) => { w with inbound := w.inbound ++ [.entry e], feed := some rest }
    | _ => w
  | .echo i =>
    match w.feed.bind fun rest => (log.sent rest)[i]? with
    | some e => { w with inbound := w.inbound ++ [.entry e] }
    | none => w
  | .send text =>
    if w.isOnline && !Event.isDispatch text then { w with inbound := w.inbound ++ [.text text] } else w
  | .close closure => if w.isOnline then { w with inbound := w.inbound ++ [.close closure] } else w
  | .receive draw =>
    match w.inbound with
    | p :: rest => meet log now (p.stimulus draw) { w with inbound := rest }
    | [] => w
  | .strike x => if x.isAllowed && !x.isFrame then meet log now x w else w

/-- a shard asks for its first connection -/
def opening (profile : ShardProfile) (address : ShardAddress) (now : Nat) : World :=
  ⟨Journal.opening profile address now, [], none, false, false, []⟩

def run (log : SessionLog) (w : World) (moves : List (Nat × Move)) : World :=
  moves.foldl (fun w e => w.step log e.1 e.2) w

/-! ## What the parts make up -/

/-- the events on their way -/
def inflight (w : World) : List Dispatch := w.inbound.filterMap Parcel.event?

structure Orderly (p : ShardProfile) (log : SessionLog) (w : World) : Prop where
  faithful : w.journal.Faithful p
  offline : w.isOnline = false → w.inbound = [] ∧ w.feed = none
  unbegun : w.begun = false → w.journal.delivered = [] ∧ w.feed = none
  held : w.journal.held.isSome = true ↔ w.journal.delivered ≠ []
  fed : ∀ rest, w.feed = some rest →
    w.journal.delivered ++ (w.journal.shard.sequence.fresh w.inflight ++ rest.map (·.event)) = log.events
  unfed : w.feed = none → w.inflight = [] ∧ w.journal.delivered <+: log.events
  awaiting : ∀ c queued, w.journal.shard.phase = .online c queued → c.status = .awaitingHello → c.resuming = true →
    w.feed = none
  plain : ∀ text, .text text ∈ w.inbound → Event.isDispatch text = false
  resumes : ∀ r ∈ w.resumes, r.2.getLast?.map (·.seq) = some r.1

variable {p : ShardProfile} {log : SessionLog} {w : World} {now : Nat} {x : Stimulus}

theorem isOnline_iff : w.isOnline = true ↔ ∃ c queued, w.journal.shard.phase = .online c queued := by
  unfold isOnline
  split <;> simp_all

theorem Orderly.isPrefix (h : Orderly p log w) : w.journal.delivered <+: log.events := by
  cases hf : w.feed with
  | none => exact (h.unfed hf).2
  | some rest => exact ⟨_, h.fed rest hf⟩

theorem Orderly.sequence_eq (h : Orderly p log w) : w.journal.shard.sequence = w.journal.lastSeq? :=
  h.faithful.sequence_eq h.held

theorem orderly_opening (p : ShardProfile) (address : ShardAddress) (now : Nat) (log : SessionLog) :
    Orderly p log (opening p address now) := by
  have delivered : (opening p address now).journal.delivered = [] := by
    rw [opening, Journal.opening_eq]
  have held : (opening p address now).journal.held = none := by
    rw [opening, Journal.opening_eq]
  constructor
  case faithful => exact Journal.faithful_opening p address now
  case offline => exact fun _ => ⟨rfl, rfl⟩
  case unbegun => exact fun _ => ⟨delivered, rfl⟩
  case held => simp [held, delivered]
  case fed => exact nofun
  case unfed => exact fun _ => ⟨rfl, by rw [delivered]; exact List.nil_prefix⟩
  case awaiting => exact fun _ _ _ _ _ => rfl
  case plain => exact nofun
  case resumes => exact nofun

/-! ### The gateway sends -/

theorem inflight_append (w : World) (p : Parcel) :
    inflight { w with inbound := w.inbound ++ [p] } = w.inflight ++ p.event?.toList := by
  rw [inflight, List.filterMap_append]
  cases hp : p.event? <;> simp [inflight, hp]

theorem Orderly.lt_of_mem_feed (h : Orderly p log w) {rest : List Entry} (hf : w.feed = some rest) {d : Dispatch}
    (hd : d ∈ w.journal.delivered ∨ d ∈ w.journal.shard.sequence.fresh w.inflight) {e : Entry} (he : e ∈ rest) :
    d.seq < e.event.seq := by
  have sorted := log.ascending_events
  rw [← h.fed rest hf, ← List.append_assoc] at sorted
  exact (List.pairwise_append.1 sorted).2.2 d (List.mem_append.2 hd) e.event (List.mem_map_of_mem he)

theorem Orderly.sequence_mem (h : Orderly p log w) {n : UInt64} (hn : w.journal.shard.sequence = some n) :
    ∃ d ∈ w.journal.delivered, d.seq = n ∧ ∀ e ∈ w.journal.delivered, e.seq ≤ d.seq := by
  rw [h.sequence_eq, Journal.lastSeq?, Option.map_eq_some_iff] at hn
  obtain ⟨d, hd, rfl⟩ := hn
  obtain ⟨before, eq⟩ := List.getLast?_eq_some_iff.1 hd
  have sorted := log.ascending_events.sublist h.isPrefix.sublist
  rw [eq] at sorted ⊢
  refine ⟨d, by simp, rfl, fun e he => ?_⟩
  rcases List.mem_append.1 he with he | he
  · exact UInt64.le_of_lt ((List.pairwise_append.1 sorted).2.2 e he d (by simp))
  · simp only [List.mem_singleton] at he
    subst he
    exact UInt64.le_refl _

/-- What was sent is handed on already, or will be. -/
theorem Orderly.mem_of_sent (h : Orderly p log w) {rest : List Entry} (hf : w.feed = some rest) {e : Entry}
    (he : e ∈ log.sent rest) :
    e.event ∈ w.journal.delivered ∨ e.event ∈ w.journal.shard.sequence.fresh w.inflight := by
  have all := h.fed rest hf
  rw [← List.append_assoc] at all
  have hl : log.events.length = log.entries.length := by simp [SessionLog.events]
  have hm : e.event ∈ log.events.take (log.entries.length - rest.length) := by
    rw [SessionLog.events, ← List.map_take]
    exact List.mem_map_of_mem he
  rw [← hl, ← all, List.length_append, List.length_map, Nat.add_sub_cancel, List.take_left'] at hm
  · exact List.mem_append.1 hm
  · rfl

theorem Orderly.online_of_feed (h : Orderly p log w) {rest : List Entry} (hf : w.feed = some rest) :
    w.isOnline = true ∧ w.begun = true := by
  constructor
  · cases ho : w.isOnline with
    | true => rfl
    | false => cases hf.symm.trans (h.offline ho).2
  · cases hb : w.begun with
    | true => rfl
    | false => cases hf.symm.trans (h.unbegun hb).2

theorem Orderly.sends (h : Orderly p log w) (online : w.isOnline = true) {q : Parcel} {feed : Option (List Entry)}
    (unbegun : w.begun = false → feed = none)
    (fed : ∀ rest, feed = some rest →
      w.journal.delivered ++
        (w.journal.shard.sequence.fresh (w.inflight ++ q.event?.toList) ++ rest.map (·.event)) = log.events)
    (unfed : feed = none ↔ w.feed = none) (event : w.feed = none → q.event? = none)
    (plain : ∀ text, q = .text text → Event.isDispatch text = false) :
    Orderly p log { w with inbound := w.inbound ++ [q], feed := feed } := by
  have eq : inflight { w with inbound := w.inbound ++ [q], feed := feed } = w.inflight ++ q.event?.toList :=
    inflight_append w q
  constructor
  case faithful => exact h.faithful
  case offline => exact fun ho => by cases online.symm.trans ho
  case unbegun => exact fun hb => ⟨(h.unbegun hb).1, unbegun hb⟩
  case held => exact h.held
  case fed => exact fun rest hr => eq ▸ fed rest hr
  case unfed =>
    intro hf
    have hn := unfed.1 hf
    rw [eq, event hn]
    exact ⟨by simpa using (h.unfed hn).1, (h.unfed hn).2⟩
  case awaiting => exact fun c queued hp ha hr => unfed.2 (h.awaiting c queued hp ha hr)
  case plain =>
    intro text ht
    rcases List.mem_append.1 ht with ht | ht
    · exact h.plain text ht
    · exact plain text (List.mem_singleton.1 ht).symm
  case resumes => exact h.resumes

theorem Orderly.feeds (h : Orderly p log w) {e : Entry} {rest : List Entry} (hf : w.feed = some (e :: rest)) :
    Orderly p log { w with inbound := w.inbound ++ [.entry e], feed := some rest } := by
  obtain ⟨online, begun⟩ := h.online_of_feed hf
  refine h.sends online (by simp [begun]) ?_ (by simp [hf]) (by simp [hf]) nofun
  intro rest' hr
  cases hr
  have last : ∀ n, w.journal.shard.sequence = some n → n < e.event.seq := by
    intro n hn
    obtain ⟨d, hd, rfl, -⟩ := h.sequence_mem hn
    exact h.lt_of_mem_feed hf (.inl hd) List.mem_cons_self
  have flying : ∀ d ∈ w.journal.shard.sequence.fresh w.inflight, d.seq < e.event.seq :=
    fun d hd => h.lt_of_mem_feed hf (.inr hd) List.mem_cons_self
  calc
    _ = w.journal.delivered ++ (w.journal.shard.sequence.fresh w.inflight ++ [e.event] ++ rest.map (·.event)) := by
      rw [Parcel.event?, Option.toList_some, Sequence.fresh_snoc last flying]
    _ = w.journal.delivered ++ (w.journal.shard.sequence.fresh w.inflight ++ (e :: rest).map (·.event)) := by
      rw [List.append_assoc]; rfl
    _ = log.events := h.fed _ hf

/-- What is sent once more will not be handed on again. -/
theorem Orderly.echoes (h : Orderly p log w) {e : Entry} {rest : List Entry} (hf : w.feed = some rest)
    (he : e ∈ log.sent rest) : Orderly p log { w with inbound := w.inbound ++ [.entry e] } := by
  obtain ⟨online, begun⟩ := h.online_of_feed hf
  have stale : (∃ n, w.journal.shard.sequence = some n ∧ e.event.seq ≤ n) ∨
      ∃ d ∈ w.journal.shard.sequence.fresh w.inflight, e.event.seq ≤ d.seq := by
    rcases h.mem_of_sent hf he with hm | hm
    · have some : (w.journal.shard.sequence).isSome = true :=
        (h.faithful.resumable (h.held.2 (List.ne_nil_of_mem hm))).2
      obtain ⟨n, hn⟩ := Option.isSome_iff_exists.1 some
      obtain ⟨d, -, rfl, hle⟩ := h.sequence_mem hn
      exact .inl ⟨_, hn, hle _ hm⟩
    · exact .inr ⟨_, hm, UInt64.le_refl _⟩
  refine h.sends online (by simp [begun]) ?_ Iff.rfl (by simp [hf]) nofun
  intro rest' hr
  rw [Parcel.event?, Option.toList_some, Sequence.fresh_snoc_stale stale]
  exact h.fed rest' hr

theorem Orderly.sends_plain (h : Orderly p log w) (online : w.isOnline = true) {q : Parcel} (event : q.event? = none)
    (plain : ∀ text, q = .text text → Event.isDispatch text = false) :
    Orderly p log { w with inbound := w.inbound ++ [q] } := by
  refine h.sends online (fun hb => (h.unbegun hb).2) ?_ Iff.rfl (fun _ => event) plain
  intro rest hr
  rw [event, Option.toList_none, List.append_nil]
  exact h.fed rest hr

/-- A session is started only where there is none to resume. -/
theorem Orderly.starts (h : Orderly p log w) (online : w.isOnline = true) (begun : w.begun = false) :
    Orderly p log { w with begun := true, feed := some log.entries } := by
  obtain ⟨delivered, feed⟩ := h.unbegun begun
  obtain ⟨inflight, -⟩ := h.unfed feed
  constructor
  case faithful => exact h.faithful
  case offline => exact fun ho => by cases online.symm.trans ho
  case unbegun => exact nofun
  case held => exact h.held
  case fed =>
    intro rest hr
    cases hr
    rw [delivered, show World.inflight { w with begun := true, feed := some log.entries } = [] from inflight]
    rfl
  case unfed => exact nofun
  case awaiting =>
    intro c queued hp ha hr
    have resuming := (h.faithful.awaiting c queued hp ha).2.1
    exact absurd delivered (h.held.1 (resuming ▸ hr))
  case plain => exact h.plain
  case resumes => exact h.resumes

/-! ### The shard acts -/

/-- whether the gateway takes no notice of it -/
def IsQuiet (a : Act) : Prop := a ≠ .hangUp ∧ ∀ m, a = .write m → m.op ≠ .resume

theorem isQuiet_write {m : Message} (h : m.op ≠ .resume) : IsQuiet (.write m) :=
  ⟨nofun, fun _ hm => by cases hm; exact h⟩

theorem isQuiet_dial (url : String) : IsQuiet (.dial url) := ⟨nofun, nofun⟩

theorem isQuiet_enqueue : IsQuiet .enqueue := ⟨nofun, nofun⟩

theorem isQuiet_deliver (d : Dispatch) : IsQuiet (.deliver d) := ⟨nofun, nofun⟩

theorem isQuiet_answer {a : Act} (h : a.isAnswer = true) : IsQuiet a := by
  cases a with
  | answer ticket fault => exact ⟨nofun, nofun⟩
  | _ => cases h

theorem isQuiet_announce {st : Status} {s : Shard} {a : Act} (h : a ∈ Shard.announce st s) : IsQuiet a := by
  rw [Shard.eq_of_mem_announce h]
  exact ⟨nofun, nofun⟩

theorem isQuiet_announce_append {st : Status} {s : Shard} {b : Act} (hb : IsQuiet b) {a : Act}
    (h : a ∈ Shard.announce st s ++ [b]) : IsQuiet a := by
  rcases List.mem_append.1 h with h | h
  · exact isQuiet_announce h
  · rw [List.mem_singleton.1 h]
    exact hb

theorem notices_quiet {acts : List Act} (h : ∀ a ∈ acts, IsQuiet a) (w : World) : acts.foldl (notice log) w = w := by
  refine List.foldlRecOn acts (notice log) (motive := (· = w)) rfl fun w' hw a ha => ?_
  obtain ⟨h1, h2⟩ := h a ha
  cases a with
  | hangUp => exact absurd rfl h1
  | write m => rw [notice, Message.resume?_eq_none (h2 m rfl)]; exact hw
  | _ => exact hw

/-- With the connection goes all that was on it. -/
theorem notices_parting {acts : List Act} (h : ∀ a ∈ acts, a.isParting = true) {w : World}
    (hh : .hangUp ∈ acts ∨ w.inbound = [] ∧ w.feed = none) :
    acts.foldl (notice log) w = { w with inbound := [], feed := none } := by
  induction acts generalizing w with
  | nil =>
    rcases hh with hh | ⟨h1, h2⟩
    · cases hh
    · rw [List.foldl_nil, ← h1, ← h2]
  | cons a acts ih =>
    have rest : ∀ b ∈ acts, b.isParting = true := fun b hb => h b (List.mem_cons_of_mem a hb)
    rw [List.foldl_cons]
    have ha := h a List.mem_cons_self
    cases a with
    | hangUp => exact ih rest (.inr ⟨rfl, rfl⟩)
    | write m | dial url | deliver d | enqueue => cases ha
    | _ => exact ih rest (hh.imp_left fun hm => by simpa using hm)

/-- The world after something happened to the shard that brought no event, up to what the gateway makes of it. -/
theorem Orderly.unheard (h : Orderly p log w) (hx : w.journal.shard.eventOf? x = none)
    (ho : (w.journal.held.isSome && w.journal.shard.relinquishes x) = false) (now : Nat) :
    (w.journal.step now x).held = w.journal.held ∧ (w.journal.step now x).delivered = w.journal.delivered ∧
      (w.journal.step now x).shard.sequence = w.journal.shard.sequence := by
  obtain ⟨h1, h2⟩ := Journal.unheard hx now
  have held : (w.journal.step now x).held = w.journal.held := by
    rw [h1]
    cases hr : w.journal.shard.relinquishes x with
    | false => simp
    | true =>
      have none : w.journal.held = none := by simpa [hr] using ho
      simp [none]
  have faithful := Journal.step_faithful now x h.faithful
  refine ⟨held, h2, ?_⟩
  rw [h.sequence_eq, faithful.sequence_eq (by rw [held, h2]; exact h.held), Journal.lastSeq?, Journal.lastSeq?, h2]

/-- What the gateway has no part in. -/
theorem Orderly.aside (h : Orderly p log w) {w' : World}
    (faithful : w'.journal.Faithful p)
    (held : w'.journal.held = w.journal.held) (delivered : w'.journal.delivered = w.journal.delivered)
    (sequence : w'.journal.shard.sequence = w.journal.shard.sequence)
    (inbound : w'.inbound = w.inbound) (feed : w'.feed = w.feed) (begun : w'.begun = w.begun)
    (resumes : w'.resumes = w.resumes) (online : w.isOnline = true → w'.isOnline = true)
    (awaiting : ∀ c queued, w'.journal.shard.phase = .online c queued → c.status = .awaitingHello →
      c.resuming = true → w.feed = none) : Orderly p log w' := by
  have inflight : w'.inflight = w.inflight := by rw [World.inflight, inbound, World.inflight]
  constructor
  case faithful => exact faithful
  case offline =>
    intro ho
    rw [inbound, feed]
    refine h.offline ?_
    cases hw : w.isOnline with
    | true => cases (online hw).symm.trans ho
    | false => rfl
  case unbegun => rw [begun, delivered, feed]; exact h.unbegun
  case held => rw [held, delivered]; exact h.held
  case fed => rw [feed, delivered, sequence, inflight]; exact h.fed
  case unfed => rw [feed, delivered, inflight]; exact h.unfed
  case awaiting => rw [feed]; exact awaiting
  case plain => rw [inbound]; exact h.plain
  case resumes => rw [resumes]; exact h.resumes

theorem notices_givenUp (acts : List Act) (w : World) : (acts.foldl (notice log) w).givenUp = w.givenUp := by
  refine List.foldlRecOn acts (notice log) (motive := fun w' => w'.givenUp = w.givenUp) rfl fun w' hw a _ => ?_
  cases a with
  | write m => simp only [notice]; split <;> exact hw
  | _ => exact hw

theorem meet_givenUp (log : SessionLog) (now : Nat) (x : Stimulus) (w : World) :
    (meet log now x w).givenUp = (w.givenUp || (w.journal.held.isSome && w.journal.shard.relinquishes x)) :=
  notices_givenUp _ _

/-- The sequence number of a Resume is that of the last event handed on. -/
theorem Orderly.last_of_resume? (h : Orderly p log w) {q : Resume} (hq : w.journal.shard.resume? = some q) :
    w.journal.delivered.getLast?.map (·.seq) = some q.seq := by
  cases hy : w.journal.held with
  | none => cases (h.faithful.resume?_eq_none hy).symm.trans hq
  | some y =>
    obtain ⟨n, hl, hn⟩ := h.faithful.resume? hy
    cases hn.symm.trans hq
    exact hl

/-- On a Resume the gateway starts over after the last event handed on. -/
theorem Orderly.resumed (h : Orderly p log w) {j : Journal} {seq : UInt64} (givenUp : Bool) (faithful : j.Faithful p)
    (held : j.held = w.journal.held) (delivered : j.delivered = w.journal.delivered)
    (last : w.journal.delivered.getLast?.map (·.seq) = some seq) (feed : w.feed = none) {c : Connection} {queued : Bool}
    (phase : j.shard.phase = .online c queued) (greeted : c.status = .identifying) :
    Orderly p log
      { w with
        journal := j
        givenUp := givenUp
        feed := some (log.after seq)
        resumes := w.resumes ++ [(seq, j.delivered)] } := by
  have begun : w.begun = true := by
    cases hb : w.begun with
    | true => rfl
    | false => rw [(h.unbegun hb).1] at last; cases last
  constructor
  case faithful => exact faithful
  case offline => exact fun hf => by cases (isOnline_iff.2 ⟨c, queued, phase⟩).symm.trans hf
  case unbegun => exact fun hb => by cases begun.symm.trans hb
  case held => rw [held, delivered]; exact h.held
  case fed =>
    intro rest hr
    cases hr
    have none : w.inflight = [] := (h.unfed feed).1
    calc
      _ = w.journal.delivered ++ (j.shard.sequence.fresh w.inflight ++ (log.after seq).map (·.event)) := by
        rw [delivered]; rfl
      _ = w.journal.delivered ++ (log.after seq).map (·.event) := by rw [none, Sequence.fresh, List.nil_append]
      _ = log.events := log.append_after h.isPrefix last
  case unfed => exact nofun
  case awaiting =>
    intro c' queued' hp ha
    cases phase.symm.trans hp
    cases greeted.symm.trans ha
  case plain => exact h.plain
  case resumes =>
    intro r hr
    rcases List.mem_append.1 hr with hr | hr
    · exact h.resumes r hr
    · rw [List.mem_singleton.1 hr, delivered]
      exact last

/-- A connection ends, and what was on its way over it is lost. -/
theorem Orderly.cut (h : Orderly p log w) {j : Journal} (givenUp : Bool) (faithful : j.Faithful p)
    (held : j.held = w.journal.held) (delivered : j.delivered = w.journal.delivered) :
    Orderly p log { w with journal := j, givenUp := givenUp, inbound := [], feed := none } := by
  constructor
  case faithful => exact faithful
  case offline => exact fun _ => ⟨rfl, rfl⟩
  case unbegun => exact fun hb => ⟨delivered.trans (h.unbegun hb).1, rfl⟩
  case held => rw [held, delivered]; exact h.held
  case fed => exact nofun
  case unfed => exact fun _ => ⟨rfl, delivered ▸ h.isPrefix⟩
  case awaiting => exact fun _ _ _ _ _ => rfl
  case plain => exact nofun
  case resumes => exact h.resumes

/-- Something happens to the shard that brings no event. -/
theorem Orderly.meets (h : Orderly p log w) (ha : x.isAllowed = true) (hx : w.journal.shard.eventOf? x = none)
    (ho : (meet log now x w).givenUp = false) : Orderly p log (meet log now x w) := by
  rw [meet_givenUp, Bool.or_eq_false_iff] at ho
  obtain ⟨held, delivered, sequence⟩ := h.unheard hx ho.2 now
  have faithful := Journal.step_faithful now x h.faithful
  have same := Journal.step_shard ha now w.journal
  have out := Shard.step_outcome now x w.journal.shard
  rw [meet]
  generalize w.journal.step now x = j at held delivered sequence faithful same ⊢
  generalize w.journal.shard.step now x = t at same out ⊢
  cases out with
  | idles shard mailbox acts kept =>
    have phase : j.shard.phase = w.journal.shard.phase := by rw [same, shard]
    rw [notices_quiet fun a hm => isQuiet_answer (acts a hm)]
    refine h.aside faithful held delivered sequence rfl rfl rfl rfl ?_ ?_
    · simp only [isOnline, phase, imp_self]
    · exact fun c queued hp => h.awaiting c queued (phase ▸ hp)
  | tends c' online abreast shard mailbox acts kept =>
    have phase := same ▸ congrArg Shard.phase shard
    rw [notices_quiet]
    · refine h.aside faithful held delivered sequence rfl rfl rfl rfl (fun _ => isOnline_iff.2 ⟨c', _, phase⟩) ?_
      intro c queued hp ha hr
      cases phase.symm.trans hp
      exact h.awaiting _ _ online (abreast.status ▸ ha) (abreast.resuming ▸ hr)
    · intro a hm
      rcases acts a hm with ha | rfl | ⟨ticket, m, rfl, hc, -⟩
      · exact isQuiet_answer ha
      · exact isQuiet_write nofun
      · have command := h.faithful.mailbox ticket m hc
        exact isQuiet_write fun hop => by rw [hop] at command; cases command
  | dials waiting =>
    have offline : w.isOnline = false := by simp [isOnline, waiting]
    rw [Shard.dial_eq] at same ⊢
    rw [notices_quiet fun a hm => isQuiet_announce_append (isQuiet_dial _) hm]
    refine h.aside faithful held delivered sequence rfl rfl rfl rfl (fun ho => by cases offline.symm.trans ho) ?_
    exact fun _ _ _ _ _ => (h.offline offline).2
  | opens dialling =>
    have offline : w.isOnline = false := by simp [isOnline, dialling]
    rw [notices_quiet fun a hm => isQuiet_announce hm]
    refine h.aside faithful held delivered sequence rfl rfl rfl rfl (fun ho => by cases offline.symm.trans ho) ?_
    exact fun _ _ _ _ _ => (h.offline offline).2
  | resumes online awaiting hello resuming session writable =>
    have feed := h.awaiting _ _ online awaiting resuming
    rw [List.foldl_append, notices_quiet fun a hm => isQuiet_announce hm, List.foldl_cons, List.foldl_nil, notice,
      Message.resume?_resume]
    exact h.resumed _ faithful held delivered (h.last_of_resume? session) feed (congrArg Shard.phase same) rfl
  | queues online awaiting hello session =>
    have phase := congrArg Shard.phase same
    rw [notices_quiet fun a hm => isQuiet_announce_append isQuiet_enqueue hm]
    refine h.aside faithful held delivered sequence rfl rfl rfl rfl (fun _ => isOnline_iff.2 ⟨_, _, phase⟩) ?_
    intro c queued hp ha
    cases phase.symm.trans hp
    cases ha
  | @identifies c online writable =>
    have phase := congrArg Shard.phase same
    rw [notices_quiet fun a hm => by rw [List.mem_singleton.1 hm]; exact isQuiet_write nofun]
    refine h.aside faithful held delivered sequence rfl rfl rfl rfl (fun _ => isOnline_iff.2 ⟨_, _, phase⟩) ?_
    intro c' queued hp ha hr
    cases phase.symm.trans hp
    exact h.awaiting c true online ha hr
  | passes online event | readies online event | revives online event =>
    cases (Shard.eventOf?_text online event _).symm.trans hx
  | ends he =>
    have gone : .hangUp ∈ t.acts ∨ w.inbound = [] ∧ w.feed = none := by
      cases hw : w.isOnline with
      | true =>
        obtain ⟨c, queued, hp⟩ := isOnline_iff.1 hw
        exact .inl (he.hangsUp c queued hp)
      | false => exact .inr (h.offline hw)
    rw [notices_parting he.acts]
    · exact h.cut _ faithful held delivered
    · exact gone

/-! ### The shard receives -/

theorem inflight_cons {q : Parcel} {rest : List Parcel} (hi : w.inbound = q :: rest) :
    w.inflight = q.event?.toList ++ inflight { w with inbound := rest } := by
  rw [inflight, hi, List.filterMap_cons]
  cases q.event? <;> rfl

theorem Orderly.online_of_inbound (h : Orderly p log w) {q : Parcel} {rest : List Parcel}
    (hi : w.inbound = q :: rest) : w.isOnline = true := by
  cases ho : w.isOnline with
  | true => rfl
  | false => cases hi.symm.trans (h.offline ho).1

/-- What nobody will be handed may as well be lost. -/
theorem Orderly.pops (h : Orderly p log w) {q : Parcel} {rest : List Parcel} (hi : w.inbound = q :: rest)
    (same : w.journal.shard.sequence.fresh (inflight { w with inbound := rest }) =
      w.journal.shard.sequence.fresh w.inflight) : Orderly p log { w with inbound := rest } := by
  constructor
  case faithful => exact h.faithful
  case offline => exact fun ho => by cases (h.online_of_inbound hi).symm.trans ho
  case unbegun => exact h.unbegun
  case held => exact h.held
  case fed => exact fun r hr => same ▸ h.fed r hr
  case unfed =>
    intro hf
    obtain ⟨h1, h2⟩ := h.unfed hf
    rw [inflight_cons hi] at h1
    exact ⟨(List.append_eq_nil_iff.1 h1).2, h2⟩
  case awaiting => exact h.awaiting
  case plain => exact fun text ht => h.plain text (hi ▸ List.mem_cons_of_mem q ht)
  case resumes => exact h.resumes

/-- The first event of a session is its READY, and any other comes under a session that is held. -/
theorem Orderly.held_of_new (h : Orderly p log w) {d : Dispatch} {ds : List Dispatch} {rest : List Entry}
    (hf : w.feed = some rest) (hn : w.journal.shard.sequence.fresh w.inflight = d :: ds) :
    (d.session?.or w.journal.held).isSome = true := by
  by_cases he : w.journal.delivered = []
  · have all := h.fed rest hf
    rw [he, hn, SessionLog.events] at all
    obtain ⟨e, hm, hs⟩ := log.opens
    cases hl : log.entries with
    | nil => simp [hl] at hm
    | cons e' es =>
      rw [hl] at all hm
      simp only [List.nil_append, List.cons_append, List.map_cons, List.cons.injEq] at all
      cases hm
      simp [all.1, hs]
  · simp [h.held.2 he]

theorem inflight_entry {e : Entry} {rest : List Parcel} (hi : w.inbound = .entry e :: rest) :
    w.inflight = e.event :: inflight { w with inbound := rest } := inflight_cons hi

theorem relinquishes_entry {s : Shard} {c : Connection} {queued : Bool} (hp : s.phase = .online c queued) (e : Entry)
    (draw : Nat) : s.relinquishes (.text e.text draw) = false := by
  simp [Shard.relinquishes, hp, e.decodes]

/-- An event that is newer than the last one is handed on, and is the next of the log. -/
theorem Orderly.hands_on (h : Orderly p log w) {e : Entry} {rest : List Parcel} (hi : w.inbound = .entry e :: rest)
    {c c' : Connection} {queued : Bool} (hp : w.journal.shard.phase = .online c queued) {seq : Sequence}
    (hq : w.journal.shard.sequence.advance? e.event.seq = some seq) {s : Shard} (sequence : s.sequence = seq)
    (phase : s.phase = .online c' queued) (early : c'.status = .awaitingHello → c' = c) (draw : Nat) (givenUp : Bool)
    (faithful : ((w.journal.enter (.text e.text draw) s).note (.deliver e.event)).Faithful p) :
    Orderly p log
      { w with
        journal := (w.journal.enter (.text e.text draw) s).note (.deliver e.event)
        inbound := rest
        givenUp := givenUp } := by
  have kept := relinquishes_entry hp e draw
  have new : w.journal.shard.sequence.fresh w.inflight =
      e.event :: seq.fresh (World.inflight { w with inbound := rest }) := by
    rw [inflight_entry hi, Sequence.fresh, hq]
  obtain ⟨feed, hf⟩ : ∃ feed, w.feed = some feed := by
    cases hf : w.feed with
    | none => cases (inflight_entry hi).symm.trans (h.unfed hf).1
    | some feed => exact ⟨feed, rfl⟩
  constructor
  case faithful => exact faithful
  case offline => exact fun ho => by cases (isOnline_iff.2 ⟨c', queued, phase⟩).symm.trans ho
  case unbegun => exact fun hb => by cases hf.symm.trans (h.unbegun hb).2
  case held =>
    have held := h.held_of_new hf new
    simp [Journal.note, Journal.enter, kept, held]
  case fed =>
    intro feed' hf'
    cases hf.symm.trans hf'
    have all := h.fed feed hf
    rw [new] at all
    calc
      _ = (w.journal.delivered ++ [e.event]) ++
          (seq.fresh (World.inflight { w with inbound := rest }) ++ feed.map (·.event)) := by rw [← sequence]; rfl
      _ = log.events := by rw [List.append_assoc]; exact all
  case unfed => exact fun hn => by cases hf.symm.trans hn
  case awaiting =>
    intro c'' queued' hp' ha hr
    cases phase.symm.trans hp'
    have same := early ha
    rw [same] at ha hr
    exact h.awaiting c queued hp ha hr
  case plain => exact fun text ht => h.plain text (hi ▸ List.mem_cons_of_mem _ ht)
  case resumes => exact h.resumes

theorem Orderly.receives_entry (h : Orderly p log w) {e : Entry} {rest : List Parcel}
    (hi : w.inbound = .entry e :: rest) (draw now : Nat) :
    Orderly p log (meet log now (.text e.text draw) { w with inbound := rest }) := by
  obtain ⟨c, queued, hp⟩ := isOnline_iff.1 (h.online_of_inbound hi)
  have faithful := Journal.step_faithful now (.text e.text draw) h.faithful
  rw [meet]
  simp only [Journal.step_eq (x := .text e.text draw) rfl, Shard.step_dispatch hp e.decodes] at faithful ⊢
  cases hq : w.journal.shard.sequence.advance? e.event.seq with
  | none =>
    have same : w.journal.shard.sequence.fresh (World.inflight { w with inbound := rest }) =
        w.journal.shard.sequence.fresh w.inflight := by rw [inflight_entry hi, Sequence.fresh, hq]
    have kept := relinquishes_entry hp e draw
    rw [Shard.dispatch_eq_still hp hq] at faithful ⊢
    exact (h.pops hi same).aside faithful (by simp [Shard.Turn.still, Journal.enter, kept]) rfl rfl rfl rfl rfl rfl
      (fun ho => ho) h.awaiting
  | some seq =>
    obtain ⟨t, eq, sequence, ⟨c', phase, early⟩, acts⟩ := Shard.dispatch_delivers now hp hq
    have noted (j : Journal) : t.acts.foldl Journal.note j = j.note (.deliver e.event) := by
      rcases acts with ha | ha
      · rw [ha]; rfl
      · rw [ha, Journal.notes_announce]; rfl
    have quiet : ∀ a ∈ t.acts, IsQuiet a := by
      intro a ha
      rcases acts with hs | hs
      · rw [hs] at ha
        rw [List.mem_singleton.1 ha]
        exact isQuiet_deliver _
      · rw [hs] at ha
        exact isQuiet_announce_append (isQuiet_deliver _) ha
    rw [eq, notices_quiet quiet, noted]
    rw [eq, noted] at faithful
    exact h.hands_on hi hp hq sequence phase early draw _ faithful

theorem Orderly.receives (h : Orderly p log w) {q : Parcel} {rest : List Parcel} (hi : w.inbound = q :: rest)
    (draw : Nat) (ho : (meet log now (q.stimulus draw) { w with inbound := rest }).givenUp = false) :
    Orderly p log (meet log now (q.stimulus draw) { w with inbound := rest }) := by
  cases q with
  | entry e => exact h.receives_entry hi draw now
  | text s =>
    have popped := h.pops hi (by rw [inflight_cons hi]; rfl)
    have plain := h.plain s (by rw [hi]; exact List.mem_cons_self)
    refine popped.meets rfl ?_ ho
    unfold Event.isDispatch at plain
    unfold Shard.eventOf?
    repeat' split <;> simp_all [Parcel.stimulus]
  | close closure =>
    have popped := h.pops hi (by rw [inflight_cons hi]; rfl)
    refine popped.meets rfl ?_ ho
    unfold Shard.eventOf?
    split <;> simp_all [Parcel.stimulus]

/-! ## Runs -/

theorem kept_of_meet {w : World} (ho : (meet log now x w).givenUp = false) : w.givenUp = false := by
  rw [meet_givenUp, Bool.or_eq_false_iff] at ho
  exact ho.1

/-- What is given up stays so. -/
theorem kept_of_step (m : Move) (ho : (w.step log now m).givenUp = false) : w.givenUp = false := by
  cases m with
  | receive draw =>
    simp only [step] at ho
    split at ho
    · next q rest hi => exact (kept_of_meet ho : World.givenUp { w with inbound := rest } = false)
    · exact ho
  | strike x =>
    simp only [step] at ho
    split at ho
    · exact kept_of_meet ho
    · exact ho
  | _ =>
    simp only [step] at ho
    split at ho <;> exact ho

theorem step_orderly (m : Move) (ho : (w.step log now m).givenUp = false) (h : Orderly p log w) :
    Orderly p log (w.step log now m) := by
  cases m with
  | start =>
    simp only [step]
    split
    · next hc =>
      simp only [Bool.and_eq_true, Bool.not_eq_true'] at hc
      exact h.starts hc.1 hc.2
    · exact h
  | feed =>
    simp only [step]
    split
    · next e rest hf => exact h.feeds hf
    · exact h
  | echo i =>
    simp only [step]
    split
    · next e he =>
      obtain ⟨rest, hf, hm⟩ := Option.bind_eq_some_iff.1 he
      exact h.echoes hf (List.mem_of_getElem? hm)
    · exact h
  | send text =>
    simp only [step]
    split
    · next hc =>
      simp only [Bool.and_eq_true, Bool.not_eq_true'] at hc
      exact h.sends_plain hc.1 rfl fun _ ht => by cases ht; exact hc.2
    · exact h
  | close closure =>
    simp only [step]
    split
    · next hc => exact h.sends_plain hc rfl nofun
    · exact h
  | receive draw =>
    simp only [step] at ho ⊢
    split
    · next q rest hi =>
      rw [hi] at ho
      exact h.receives hi draw ho
    · exact h
  | strike x =>
    simp only [step] at ho ⊢
    split
    · next hc =>
      rw [if_pos hc] at ho
      simp only [Bool.and_eq_true, Bool.not_eq_true'] at hc
      exact h.meets hc.1 (Shard.eventOf?_eq_none hc.2 _) ho
    · exact h

theorem run_cons (m : Nat × Move) (moves : List (Nat × Move)) :
    w.run log (m :: moves) = (w.step log m.1 m.2).run log moves := rfl

theorem run_append (moves later : List (Nat × Move)) :
    w.run log (moves ++ later) = (w.run log moves).run log later := by
  simp [run, List.foldl_append]

theorem kept_of_run (moves : List (Nat × Move)) (ho : (w.run log moves).givenUp = false) : w.givenUp = false := by
  induction moves generalizing w with
  | nil => exact ho
  | cons m moves ih => exact kept_of_step m.2 (ih ho)

theorem run_orderly (moves : List (Nat × Move)) (ho : (w.run log moves).givenUp = false) (h : Orderly p log w) :
    Orderly p log (w.run log moves) := by
  induction moves generalizing w with
  | nil => exact h
  | cons m moves ih =>
    rw [run_cons] at ho ⊢
    exact ih ho (step_orderly m.2 (kept_of_run moves ho) h)

/-- As long as its session is not given up, a shard has handed on a part of the log from its start, every Resume named
the last event of such a part, and what is on its way and still to be sent is the rest. -/
theorem delivers_log (p : ShardProfile) (address : ShardAddress) (start : Nat) (log : SessionLog)
    (moves : List (Nat × Move)) :
    let w := (opening p address start).run log moves
    w.givenUp = false →
      w.journal.delivered <+: log.events ∧ (∀ r ∈ w.resumes, r.2.getLast?.map (·.seq) = some r.1) ∧
      ∀ rest, w.feed = some rest →
        w.journal.delivered ++ (w.journal.shard.sequence.fresh w.inflight ++ rest.map (·.event)) = log.events := by
  intro w ho
  have h : Orderly p log w := run_orderly moves ho (orderly_opening p address start log)
  exact ⟨h.isPrefix, h.resumes, h.fed⟩

/-- Where a session can be resumed, Hello makes the shard ask for what it missed. -/
theorem resumes_after_hello (log : SessionLog) (now : Nat) {c : Connection} {q : Resume}
    (hp : w.journal.shard.phase = .online c false) (hs : c.status = .awaitingHello) (hr : c.resuming = true)
    (hw : c.writable = true) (hq : w.journal.shard.resume? = some q) (hi : w.inbound = []) (ho : w.givenUp = false) :
    (w.run log [(now, .send helloText), (now, .receive 0)]).givenUp = false ∧
      (w.run log [(now, .send helloText), (now, .receive 0)]).resumes =
        w.resumes ++ [(q.seq, w.journal.delivered)] := by
  have plain : Event.isDispatch helloText = false := by simp [Event.isDispatch, decode_helloText]
  have silent : w.journal.shard.eventOf? (.text helloText 0) = none := by simp [Shard.eventOf?, hp, decode_helloText]
  have kept : w.journal.shard.relinquishes (.text helloText 0) = false := by
    simp [Shard.relinquishes, hp, decode_helloText]
  have delivered := (Journal.unheard silent now).2
  have sent : w.step log now (.send helloText) = { w with inbound := [.text helloText] } := by
    simp [step, isOnline_iff.2 ⟨c, false, hp⟩, plain, hi]
  rw [run_cons, sent, run_cons]
  simp only [step, run, List.foldl_nil, Parcel.stimulus]
  refine ⟨by simp [meet_givenUp, ho, kept], ?_⟩
  rw [meet]
  simp only [Shard.step_hello hp hs decode_helloText, Shard.greet_eq_resume hr hq hw]
  rw [List.foldl_append, notices_quiet fun a ha => isQuiet_announce ha, List.foldl_cons, List.foldl_nil, notice,
    Message.resume?_resume]
  simp [delivered]

end World

/-! ## A session that is cut -/

/-- READY and one more event -/
def SessionLog.short : SessionLog where
  entries := [⟨readyText, readyDispatch, decode_readyText⟩, ⟨messageText, messageDispatch, decode_messageText⟩]
  ascending := by simp [readyDispatch, messageDispatch]
  opens := ⟨_, rfl, by rw [Dispatch.session?_of_ready kind?_readyDispatch payload_readyDispatch]; rfl⟩

namespace World

/-- both are sent, and the first is received -/
def introduction : List (Nat × Move) :=
  [(0, .strike .opened), (0, .send helloText), (0, .receive 0), (0, .strike .granted), (0, .start), (0, .feed),
    (0, .feed), (0, .receive 0)]

def introduced : World where
  journal := Journal.conversed
  inbound := [.entry ⟨messageText, messageDispatch, decode_messageText⟩]
  feed := some []
  begun := true
  givenUp := false
  resumes := []

theorem run_introduction : (opening (.usual "t") .only 0).run .short introduction = introduced := by
  have plain : Event.isDispatch helloText = false := by simp [Event.isDispatch, decode_helloText]
  have quiet (i : Identify) : (Message.identify i).resume? = none := Message.resume?_eq_none nofun
  simp [introduction, introduced, run, step, meet, notice, isOnline, plain, quiet, Stimulus.isFrame, Parcel.stimulus,
    opening, SessionLog.short, Journal.conversed, Journal.step, Journal.opening, Journal.enter, Journal.note,
    Shard.launch, Shard.dial, Shard.fresh, Shard.publish, Shard.act, Shard.Turn.next, Shard.Turn.still,
    Stimulus.isAllowed, Shard.step, Shard.goOn, Shard.stepOnline, decode_helloText, decode_readyText,
    payload_readyDispatch, kind?_readyDispatch, Shard.receive, Shard.greet, Shard.identify, Shard.identity,
    Shard.dispatch, Shard.markReady, Shard.forget, Shard.opensLine, Shard.helloOf?, Shard.relinquishes,
    Shard.canResume, Shard.resume?, Shard.url, Shard.finishes, Journal.handshakes, Connection.fresh,
    Connection.startHeartbeat, Connection.markReady, Dispatch.session?, Session.ofReady, Sequence.advance?,
    Except.toOption, ShardProfile.usual]
  exact ⟨rfl, rfl⟩

/-- the connection is lost with the second event on its way, and another one opens -/
def cut : List (Nat × Move) := [(0, .strike .dropped), (1000, .strike .timeout), (1000, .strike .opened)]

/-- What was lost with the connection is asked for on the next one. -/
theorem resumes_what_was_cut :
    let w := (opening (.usual "t") .only 0).run .short
      (introduction ++ cut ++ [(1000, .send helloText), (1000, .receive 0)])
    w.givenUp = false ∧ w.resumes = [(1, [readyDispatch])] ∧ w.journal.delivered <+: SessionLog.short.events ∧
      ∀ rest, w.feed = some rest →
        w.journal.delivered ++ (w.journal.shard.sequence.fresh w.inflight ++ rest.map (·.event)) =
          [readyDispatch, messageDispatch] := by
  have h := delivers_log (.usual "t") .only 0 .short
    (introduction ++ cut ++ [(1000, .send helloText), (1000, .receive 0)])
  rw [run_append, run_append, run_introduction] at h ⊢
  have phase : ∃ c, (introduced.run .short cut).journal.shard.phase = .online c false ∧ c.status = .awaitingHello ∧
      c.resuming = true ∧ c.writable = true := ⟨_, rfl, rfl, rfl, rfl⟩
  have resume : (introduced.run .short cut).journal.shard.resume? = some ⟨"t", "x", 1⟩ := rfl
  have inbound : (introduced.run .short cut).inbound = [] := rfl
  have kept : (introduced.run .short cut).givenUp = false := rfl
  have before : (introduced.run .short cut).resumes = [] := rfl
  have delivered : (introduced.run .short cut).journal.delivered = [readyDispatch] := rfl
  generalize introduced.run .short cut = w at h phase resume inbound kept before delivered ⊢
  obtain ⟨c, hp, hs, hr, hw⟩ := phase
  obtain ⟨held, resumes⟩ := resumes_after_hello .short 1000 hp hs hr hw resume inbound kept
  obtain ⟨h1, -, h3⟩ := h held
  exact ⟨held, by rw [resumes, before, delivered]; rfl, h1, h3⟩

end World

end Shardwire
