import Shardwire.Proofs.Shard.Journal

/-
Texts that a shard ignores.

A text is ignorable to a shard if it is no event, if it is an event that only clients send, if it is a Hello and the
connection has had one, or if it is an event of the session that is not newer than the last one. An `Intake` is a shard
with what is on its way to it, in order. Into this stream texts may be slipped in at any place; `base` is what happens
without them. As long as every such text is ignorable when the shard comes to it, the shard does the same at the same
times.

What was slipped in is received in no time, at any moment after what came before it.
-/

namespace Shardwire

/-! ## Texts that are no event -/

/-- A text is no event if it is no message, if it dispatches without a name or a sequence number, or if it is a Hello
that names no interval. -/
theorem Event.decode_error_iff {text : String} :
    (∃ f, Event.decode text = .error f) ↔
      (∃ f, Message.decode text = .error f) ∨
      ∃ m, Message.decode text = .ok m ∧
        ((m.op = .dispatch ∧ (m.name = none ∨ m.seq = none)) ∨
          (m.op = .hello ∧ ∃ f, Json.decodeValue Hello.decoder m.data = .error f)) := by
  unfold Event.decode
  cases hm : Message.decode text with
  | error f => simp
  | ok m =>
    simp only [Event.ofMessage, reduceCtorEq, exists_false, false_or, Except.ok.injEq, exists_eq_left']
    cases op : m.op with
    | dispatch => cases hn : m.name <;> cases hs : m.seq <;> simp
    | hello => cases hd : Json.decodeValue Hello.decoder m.data <;> simp
    | _ => simp

namespace Shard

/-- a text that means nothing to a shard -/
inductive Ignorable (s : Shard) (text : String) : Prop where
  /-- it is no event -/
  | rejected (f : Fault) (h : Event.decode text = .error f)
  /-- it is what only clients say -/
  | foreign (e : Event) (h : Event.decode text = .ok e)
      (op : e.op ∈ [.identify, .presenceUpdate, .resume, .requestGuildMembers])
  /-- it is a Hello, and none is awaited -/
  | belated (p : Hello) (h : Event.decode text = .ok (.hello p))
      (greeted : ∀ c queued, s.phase = .online c queued → c.status ≠ .awaitingHello)
  /-- it is an event that is not newer than the last one -/
  | stale (d : Dispatch) (last : UInt64) (h : Event.decode text = .ok (.dispatch d)) (known : s.sequence = some last)
      (old : d.seq ≤ last)

variable {s : Shard} {text : String}

/-- A connection goes on as it was. -/
theorem goOn_same {c : Connection} {queued : Bool} (hp : s.phase = .online c queued) : goOn c queued s = .still s := by
  rw [goOn, ← hp]

/-- What is ignorable changes nothing of a shard, and makes it do nothing. -/
theorem step_ignorable (h : s.Ignorable text) (now draw : Nat) : s.step now (.text text draw) = .still s := by
  cases hp : s.phase with
  | online c queued =>
    have online : s.step now (.text text draw) = stepOnline c queued now (.text text draw) s := by simp [step, hp]
    rw [online]
    cases h with
    | rejected f h => simp [stepOnline, h]
    | foreign e h op =>
      have same := goOn_same hp
      cases e <;> simp [Event.op] at op <;> simp [stepOnline, h, receive, same]
    | belated p h greeted => simp [stepOnline, h, receive, greeted c queued hp, goOn_same hp]
    | stale d last h known old =>
      have behind : s.sequence.advance? d.seq = none := by
        rw [known]
        simpa [Sequence.advance?] using old
      simp [stepOnline, h, receive, dispatch_eq_still hp behind]
  | dialling resume deadline | waiting deadline | ended => simp [step, hp]

/-- whether it comes over the connection, in its turn -/
def Stimulus.isInbound : Stimulus → Bool
  | .text _ _ | .closed _ | .dropped => true
  | _ => false

end Shard

open Shard (Stimulus Act)

/-- what is on its way to a shard -/
inductive Arrival where
  | frame (f : Frame)
  /-- the end of the connection -/
  | gone
  /-- a text that was slipped in -/
  | extra (text : String)

namespace Arrival

def isExtra : Arrival → Bool
  | .extra _ => true
  | _ => false

/-- what it is to the shard that it reaches -/
def stimulus (draw : Nat) : Arrival → Stimulus
  | .frame (.text s) | .extra s => .text s draw
  | .frame (.close closure) => .closed closure
  | .gone => .dropped

end Arrival

/-- a shard, what is on its way to it, and what it did when -/
structure Intake where
  shard : Shard
  /-- on its way over the present connection, in order -/
  inbound : List Arrival
  acts : List (Nat × Act)

namespace Intake

inductive Move where
  /-- something is put on the way -/
  | send (a : Arrival)
  /-- the shard receives what comes first -/
  | receive (draw : Nat)
  /-- anything else happens to the shard -/
  | happen (x : Stimulus)

namespace Move

/-- whether it slips something in -/
def inserts : Move → Bool
  | .send a => a.isExtra
  | _ => false

def isReceive : Move → Bool
  | .receive _ => true
  | _ => false

end Move

/-- something happens to the shard; with the connection, what is on its way is lost -/
def meet (now : Nat) (x : Stimulus) (rest : List Arrival) (w : Intake) : Intake :=
  let t := w.shard.step now x
  { shard := t.shard
    inbound := if t.shard.isOnline then rest else []
    acts := w.acts ++ t.acts.map fun a => (now, a) }

def step (now : Nat) (w : Intake) : Move → Intake
  | .send a => if w.shard.isOnline then { w with inbound := w.inbound ++ [a] } else w
  | .receive draw =>
    match w.inbound with
    | a :: rest => meet now (a.stimulus draw) rest w
    | [] => w
  | .happen x => if x.isInbound then w else meet now x w.inbound w

/-- a shard asks for its first connection -/
def opening (profile : ShardProfile) (address : ShardAddress) (now : Nat) : Intake :=
  let t := Shard.launch profile address now
  ⟨t.shard, [], t.acts.map fun a => (now, a)⟩

def run (w : Intake) (moves : List (Nat × Move)) : Intake := moves.foldl (fun w e => w.step e.1 e.2) w

/-! ## With and without -/

/-- the same without what was slipped in -/
def strip (w : Intake) : Intake := { w with inbound := w.inbound.filter fun a => !a.isExtra }

/-- whether a move slips something in, or receives something that was slipped in -/
def concernsExtra (w : Intake) : Move → Bool
  | .send a => a.isExtra
  | .receive _ => w.inbound.head?.any Arrival.isExtra
  | .happen _ => false

/-- what happens without anything slipped in: the same at the same times -/
def base (w : Intake) : List (Nat × Move) → List (Nat × Move)
  | [] => []
  | e :: moves => if w.concernsExtra e.2 then base (w.step e.1 e.2) moves else e :: base (w.step e.1 e.2) moves

/-- a text that is received now and was slipped in is ignorable -/
def Bears (w : Intake) (v : Move) : Prop :=
  ∀ draw text rest, v = .receive draw → w.inbound = .extra text :: rest → w.shard.Ignorable text

/-- every text that was slipped in is ignorable when it is received -/
def Harmless (w : Intake) : List (Nat × Move) → Prop
  | [] => True
  | e :: moves => w.Bears e.2 ∧ Harmless (w.step e.1 e.2) moves

/-- nothing is on its way without a connection -/
def Tidy (w : Intake) : Prop := w.shard.isOnline = false → w.inbound = []

variable {w : Intake} {now : Nat}

theorem meet_tidy (x : Stimulus) (rest : List Arrival) : Tidy (w.meet now x rest) := by
  intro offline
  have offline : (w.shard.step now x).shard.isOnline = false := offline
  simp [meet, offline]

theorem step_tidy (h : Tidy w) (v : Move) : Tidy (w.step now v) := by
  cases v with
  | send a =>
    simp only [step]
    split
    · next online =>
      intro offline
      cases online.symm.trans offline
    · exact h
  | receive draw =>
    simp only [step]
    split
    · exact meet_tidy _ _
    · exact h
  | happen x =>
    simp only [step]
    split
    · exact h
    · exact meet_tidy _ _

theorem strip_meet (x : Stimulus) (rest : List Arrival) :
    (w.meet now x rest).strip = w.strip.meet now x (rest.filter fun a => !a.isExtra) := by
  cases online : (w.shard.step now x).shard.isOnline <;> simp [strip, meet, online]

/-- Without what was slipped in, a move that concerns it is no move. -/
theorem strip_step_extra (h : Tidy w) {v : Move} (bears : w.Bears v) (extra : w.concernsExtra v = true) :
    (w.step now v).strip = w.strip := by
  cases v with
  | send a =>
    have extra : a.isExtra = true := extra
    cases online : w.shard.isOnline <;> simp [step, strip, online, extra]
  | receive draw =>
    cases inbound : w.inbound with
    | nil => simp [concernsExtra, inbound] at extra
    | cons a rest =>
      cases a with
      | extra text =>
        have ignored := Shard.step_ignorable (bears draw text rest rfl inbound) now draw
        have online : w.shard.isOnline = true := by
          cases off : w.shard.isOnline with
          | true => rfl
          | false => cases inbound.symm.trans (h off)
        simp [step, inbound, meet, Arrival.stimulus, ignored, Shard.Turn.still, strip, online, Arrival.isExtra]
      | frame f => simp [concernsExtra, inbound, Arrival.isExtra] at extra
      | gone => simp [concernsExtra, inbound, Arrival.isExtra] at extra
  | happen x => cases extra

/-- Every other move is the same without. -/
theorem strip_step_base {v : Move} (plain : w.concernsExtra v = false) :
    (w.step now v).strip = w.strip.step now v := by
  cases v with
  | send a =>
    have plain : a.isExtra = false := plain
    cases online : w.shard.isOnline <;> simp [step, strip, online, plain]
  | receive draw =>
    cases inbound : w.inbound with
    | nil => simp [step, strip, inbound]
    | cons a rest =>
      have plain : a.isExtra = false := by simpa [concernsExtra, inbound] using plain
      have stripped : w.strip.inbound = a :: rest.filter fun a => !a.isExtra := by simp [strip, inbound, plain]
      simp only [step, inbound, stripped]
      exact strip_meet _ rest
  | happen x =>
    simp only [step]
    split
    · rfl
    · exact strip_meet x w.inbound

/-- A run without what was slipped in is the run of the base. -/
theorem strip_run (h : Tidy w) {moves : List (Nat × Move)} (harmless : w.Harmless moves) :
    (w.run moves).strip = w.strip.run (w.base moves) := by
  induction moves generalizing w with
  | nil => rfl
  | cons e moves ih =>
    obtain ⟨bears, harmless⟩ := harmless
    have rest := ih (step_tidy h e.2) harmless
    cases extra : w.concernsExtra e.2 with
    | true => simpa [base, run, extra, strip_step_extra h bears extra] using rest
    | false => simpa [base, run, extra, strip_step_base extra] using rest

theorem inserts_of_not_concernsExtra {v : Move} (h : w.concernsExtra v = false) : v.inserts = false := by
  cases v with
  | send a => exact h
  | _ => rfl

theorem concernsExtra_eq {v : Move} (h : v.isReceive = false) : w.concernsExtra v = v.inserts := by
  cases v with
  | receive draw => cases h
  | _ => rfl

/-- Nothing is slipped in where the base is all that happens. -/
theorem base_plain {moves : List (Nat × Move)} : ∀ e ∈ w.base moves, e.2.inserts = false := by
  induction moves generalizing w with
  | nil => simp [base]
  | cons e moves ih =>
    cases extra : w.concernsExtra e.2 with
    | true => simpa [base, extra] using ih
    | false =>
      have plain : e.2.inserts = false := inserts_of_not_concernsExtra extra
      simpa [base, extra, plain] using ih

/-- What is sent, and whatever else happens, happens in the base as well, at the same time. -/
theorem base_keeps {moves : List (Nat × Move)} :
    ((w.base moves).filter fun e => !e.2.isReceive) = moves.filter fun e => !e.2.isReceive && !e.2.inserts := by
  induction moves generalizing w with
  | nil => rfl
  | cons e moves ih =>
    have rest := ih (w := w.step e.1 e.2)
    cases receive : e.2.isReceive with
    | true =>
      cases extra : w.concernsExtra e.2 <;> simpa [base, extra, receive] using rest
    | false =>
      have same := concernsExtra_eq (w := w) receive
      cases extra : e.2.inserts <;> simpa [base, same, extra, receive] using rest

/-- Texts that are ignorable when they are received make no difference, wherever they were slipped in: without them the
shard does the same at the same times, and is the same afterwards. -/
theorem ignorable_unnoticed (profile : ShardProfile) (address : ShardAddress) (start : Nat)
    (moves : List (Nat × Move)) (harmless : (opening profile address start).Harmless moves) :
    let first := opening profile address start
    (∀ e ∈ first.base moves, e.2.inserts = false) ∧
      ((first.base moves).filter fun e => !e.2.isReceive) =
        (moves.filter fun e => !e.2.isReceive && !e.2.inserts) ∧
      (first.run (first.base moves)).acts = (first.run moves).acts ∧
      (first.run (first.base moves)).shard = (first.run moves).shard := by
  intro first
  have same : (first.run moves).strip = first.run (first.base moves) :=
    strip_run (fun _ => rfl) harmless
  exact ⟨base_plain, base_keeps, same ▸ rfl, same ▸ rfl⟩

/-- a shard connects and becomes ready -/
def smallTalk : List (Nat × Move) :=
  [(0, .happen .opened), (0, .send (.frame (.text helloText))), (0, .receive 0), (2, .happen .granted),
    (2, .send (.frame (.text readyText))), (2, .receive 0)]

/-- the same with an empty text, a second Hello and a second READY slipped in -/
def chatter : List (Nat × Move) :=
  [(0, .happen .opened), (0, .send (.extra "")), (0, .send (.frame (.text helloText))), (0, .receive 0),
    (0, .receive 0), (1, .send (.extra helloText)), (1, .receive 0), (2, .happen .granted),
    (2, .send (.frame (.text readyText))), (2, .receive 0), (3, .send (.extra readyText)), (3, .receive 0)]

theorem decode_empty : ∃ f, Event.decode "" = .error f := by
  have tokens : Json.tokens "" = [] := by decide +kernel
  simp only [Event.decode, Message.decode, Json.decodeText, Json.Document.ofText, tokens]
  exact ⟨_, rfl⟩

theorem chatter_harmless :
    (opening (.usual "t") .only 0).Harmless chatter ∧ (opening (.usual "t") .only 0).base chatter = smallTalk := by
  obtain ⟨f, empty⟩ := decode_empty
  simp [chatter, smallTalk, Harmless, Bears, base, concernsExtra, Arrival.isExtra, step, meet, Stimulus.isInbound,
    Arrival.stimulus, opening, Shard.launch, Shard.dial, Shard.fresh, Shard.publish, Shard.act, Shard.Turn.next,
    Shard.Turn.still, Shard.isOnline, Shard.step, Shard.goOn, Shard.stepOnline, empty, decode_helloText,
    decode_readyText, payload_readyDispatch, kind?_readyDispatch, Shard.receive, Shard.greet, Shard.identify,
    Shard.identity, Shard.dispatch, Shard.markReady, Shard.forget, Shard.canResume, Shard.resume?, Shard.url,
    Connection.fresh, Connection.startHeartbeat, Connection.markReady, Session.ofReady, Sequence.advance?,
    ShardProfile.usual]
  refine ⟨.rejected f empty, ?second_hello, ?second_ready⟩
  case second_hello =>
    rintro _ _ _ _ rfl _
    refine .belated _ decode_helloText fun c queued phase awaiting => ?_
    cases phase
    cases awaiting
  case second_ready =>
    rintro _ _ _ _ rfl _
    exact .stale _ _ decode_readyText rfl (UInt64.le_refl _)

/-- Small talk is what is left of the chatter. -/
theorem ignorable_unnoticed_chatter :
    let first := opening (.usual "t") .only 0
    first.Harmless chatter ∧ first.base chatter = smallTalk ∧
      (first.run smallTalk).acts = (first.run chatter).acts ∧
      (first.run smallTalk).shard = (first.run chatter).shard := by
  intro first
  obtain ⟨harmless, same⟩ := chatter_harmless
  obtain ⟨-, -, acts, shard⟩ := ignorable_unnoticed (.usual "t") .only 0 chatter harmless
  rw [same] at acts shard
  exact ⟨harmless, same, acts, shard⟩

end Intake

end Shardwire
