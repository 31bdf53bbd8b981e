import Shardwire.Proofs.Shard.Outcome

/-
Runs of one shard, with a journal of what the world around it has seen.

A run starts with the first attempt to connect and goes on with any stimuli at any times: the gateway may send whatever
it likes in any order, and connections may open, fail and break at any moment. Only what callers may ask for is
restricted: they reach a shard through a manager, which turns away every message that is no command.

The journal is kept from stimuli and acts alone, never from the fields a shard decides by: where connections were asked
for, what went over the last one, which events were handed on, and which session should be resumed (`held`).
-/

namespace Shardwire

/-- the session an event announces, if it is READY with a usable payload -/
def Dispatch.session? (d : Dispatch) : Option Session :=
  match d.kind? with
  | some .ready => (Json.decodeValue Ready.decoder d.data).toOption.map Session.ofReady
  | _ => none

namespace Shard

/-- whether it may reach a shard at all -/
def Stimulus.isAllowed : Stimulus → Bool
  | .submit _ m => m.op.isCommand
  | _ => true

/-- whether a stimulus opens a connection -/
def opensLine (s : Shard) (x : Stimulus) : Bool :=
  match s.phase, x with
  | .dialling _ _, .opened => true
  | _, _ => false

/-- whether a stimulus ends the claim to a session: an identify permit is taken, the session is declared invalid for
good, or the gateway closes with a code that asks for a new identify -/
def relinquishes (s : Shard) (x : Stimulus) : Bool :=
  match s.phase, x with
  | .online _ queued, .granted => queued
  | .online _ _, .closed closure => CloseCode.classify (closure.map (·.code)) = .reidentify
  | .online _ _, .text text _ =>
    match Event.decode text with
    | .ok (.invalidSession resumable) => !resumable
    | _ => false
  | _, _ => false

/-- the interval of the Hello that a stimulus brings -/
def helloOf? (s : Shard) (x : Stimulus) : Option UInt64 :=
  match s.phase, x with
  | .online _ _, .text text _ =>
    match Event.decode text with
    | .ok (.hello h) => some h.interval
    | _ => none
  | _, _ => none

/-- the event that a stimulus brings -/
def eventOf? (s : Shard) (x : Stimulus) : Option Dispatch :=
  match s.phase, x with
  | .online _ _, .text text _ =>
    match Event.decode text with
    | .ok (.dispatch d) => some d
    | _ => none
  | _, _ => none

theorem eventOf?_text {s : Shard} {c : Connection} {queued : Bool} {text : String} {d : Dispatch}
    (hp : s.phase = .online c queued) (hd : Event.decode text = .ok (.dispatch d)) (draw : Nat) :
    s.eventOf? (.text text draw) = some d := by
  simp [eventOf?, hp, hd]

end Shard

open Shard (Stimulus Act)

structure Journal where
  shard : Shard
  /-- where the last connection was asked for -/
  dialled : Option String
  /-- intervals of the Hellos received on the last connection -/
  hellos : List UInt64
  /-- messages written on the last connection -/
  wire : List Message
  /-- whether READY or RESUMED came before the handshake was sent, and it has not been sent since -/
  overtaken : Bool
  /-- events handed on since the start -/
  delivered : List Dispatch
  /-- session of the last usable READY handed on, unless it was relinquished since -/
  held : Option Session

namespace Journal

/-- the client's part of the handshake on the last connection -/
def handshakes (j : Journal) : List Message := j.wire.filter (·.op.isHandshake)

/-- sequence number of the last event handed on -/
def lastSeq? (j : Journal) : Option UInt64 := j.delivered.getLast?.map (·.seq)

/-- an act of the shard is entered -/
def note (j : Journal) : Act → Journal
  | .dial url => { j with dialled := some url }
  | .write m => { j with wire := j.wire ++ [m], overtaken := j.overtaken && !m.op.isHandshake }
  | .deliver d =>
    { j with
      delivered := j.delivered ++ [d]
      held := d.session?.or j.held
      overtaken := j.overtaken || (Shard.finishes d && j.handshakes.isEmpty) }
  | _ => j

/-- a stimulus is entered, and the shard it makes -/
def enter (x : Stimulus) (s : Shard) (j : Journal) : Journal where
  shard := s
  dialled := j.dialled
  hellos := (if j.shard.opensLine x then [] else j.hellos) ++ (j.shard.helloOf? x).toList
  wire := if j.shard.opensLine x then [] else j.wire
  overtaken := !j.shard.opensLine x && j.overtaken
  delivered := j.delivered
  held := if j.shard.relinquishes x then none else j.held

/-- a stimulus is entered, and then what the shard does about it -/
def step (now : Nat) (x : Stimulus) (j : Journal) : Journal :=
  if x.isAllowed then
    let t := j.shard.step now x
    t.acts.foldl note (j.enter x t.shard)
  else j

/-- a shard asks for its first connection -/
def opening (profile : ShardProfile) (address : ShardAddress) (now : Nat) : Journal :=
  let t := Shard.launch profile address now
  t.acts.foldl note ⟨t.shard, none, [], [], false, [], none⟩

theorem opening_eq (profile : ShardProfile) (address : ShardAddress) (now : Nat) :
    opening profile address now =
      ⟨{ Shard.fresh profile address now with
          status := .connecting
          phase := .dialling false (now + profile.identifyTimeout) },
        some (endpoint profile.gatewayUrl), [], [], false, [], none⟩ := rfl

def run (j : Journal) (xs : List (Nat × Stimulus)) : Journal := xs.foldl (fun j e => j.step e.1 e.2) j

theorem run_cons (j : Journal) (e : Nat × Stimulus) (xs : List (Nat × Stimulus)) :
    run j (e :: xs) = run (j.step e.1 e.2) xs := rfl

/-- What one step keeps, a run keeps. -/
theorem run_keeps {P : Journal → Prop} (h : ∀ now x j, P j → P (j.step now x)) (xs : List (Nat × Stimulus))
    {j : Journal} (hj : P j) : P (j.run xs) :=
  List.foldlRecOn xs _ (motive := P) hj fun j hj e _ => h e.1 e.2 j hj

/-! ## Entries -/

@[simp] theorem enter_shard (x : Stimulus) (s : Shard) (j : Journal) : (j.enter x s).shard = s := rfl

theorem enter_handshakes {x : Stimulus} {j : Journal} (h : j.shard.opensLine x = false) (s : Shard) :
    (j.enter x s).handshakes = j.handshakes := by simp [handshakes, enter, h]

theorem handshakes_tending {ms : List Message} (h : ∀ m ∈ ms, m.op.isHandshake = false) (j : Journal) :
    Journal.handshakes { j with wire := j.wire ++ ms } = j.handshakes := by
  have none : ms.filter (·.op.isHandshake) = [] := List.filter_eq_nil_iff.2 fun m hm => by simp [h m hm]
  rw [handshakes, List.filter_append, none, List.append_nil, handshakes]

theorem helloOf?_of_hello {s : Shard} {c : Connection} {queued : Bool} {text : String} {h : Hello}
    (hp : s.phase = .online c queued) (hd : Event.decode text = .ok (.hello h)) (draw : Nat) :
    s.helloOf? (.text text draw) = some h.interval := by
  simp [Shard.helloOf?, hp, hd]

theorem enter_overtaken {x : Stimulus} {j : Journal} (h : j.shard.opensLine x = false) (s : Shard) :
    (j.enter x s).overtaken = j.overtaken := by simp [enter, h]

theorem mem_enter_hellos {x : Stimulus} {j : Journal} (h : j.shard.opensLine x = false) (s : Shard) {i : UInt64}
    (hi : i ∈ j.hellos) : i ∈ (j.enter x s).hellos := by simp [enter, h, hi]

theorem overtaken_deliver (d : Dispatch) (j : Journal) :
    (j.note (.deliver d)).overtaken = (j.overtaken || (Shard.finishes d && j.handshakes.isEmpty)) := rfl

@[simp] theorem handshakes_deliver (d : Dispatch) (j : Journal) : (j.note (.deliver d)).handshakes = j.handshakes := rfl

@[simp] theorem handshakes_write (m : Message) (j : Journal) :
    (j.note (.write m)).handshakes = j.handshakes ++ if m.op.isHandshake then [m] else [] := by
  simp only [note, handshakes, List.filter_append]
  cases h : m.op.isHandshake <;> simp [h]

theorem note_shard (a : Act) (j : Journal) : (j.note a).shard = j.shard := by cases a <;> rfl

@[simp] theorem notes_shard (acts : List Act) (j : Journal) : (acts.foldl note j).shard = j.shard :=
  List.foldlRecOn acts note (motive := fun k => k.shard = j.shard) rfl fun k hk a _ => (note_shard a k).trans hk

theorem note_parting {a : Act} (h : a.isParting = true) (j : Journal) : j.note a = j := by
  cases a <;> first | rfl | simp [Act.isParting] at h

theorem notes_parting {acts : List Act} (h : ∀ a ∈ acts, a.isParting = true) (j : Journal) :
    acts.foldl note j = j :=
  List.foldlRecOn acts note (motive := (· = j)) rfl fun k hk a ha => (note_parting (h a ha) k).trans hk

theorem notes_answers {acts : List Act} (h : ∀ a ∈ acts, a.isAnswer = true) (j : Journal) :
    acts.foldl note j = j := by
  refine notes_parting (fun a ha => ?_) j
  have := h a ha
  cases a <;> first | rfl | simp [Act.isAnswer] at this

@[simp] theorem notes_announce (st : Status) (s : Shard) (acts : List Act) (j : Journal) :
    (Shard.announce st s ++ acts).foldl note j = acts.foldl note j := by
  rw [List.foldl_append, notes_parting fun _ h => Shard.isParting_of_announce h]

theorem wire_append_nil (j : Journal) : { j with wire := j.wire ++ [] } = j := by rw [List.append_nil]

/-- Frames that belong to no handshake only make the wire longer. -/
theorem notes_tending {acts : List Act}
    (h : ∀ a ∈ acts, a.isAnswer = true ∨ ∃ m, a = .write m ∧ m.op.isHandshake = false) (j : Journal) :
    ∃ ms : List Message, (∀ m ∈ ms, .write m ∈ acts ∧ m.op.isHandshake = false) ∧
      acts.foldl note j = { j with wire := j.wire ++ ms } := by
  -- each answer leaves the journal alone, each message is one more of `ms`
  induction acts generalizing j with
  | nil => exact ⟨[], by simp, by simp⟩
  | cons a acts ih =>
    rw [List.foldl_cons]
    have rest : ∀ b ∈ acts, b.isAnswer = true ∨ ∃ m, b = .write m ∧ m.op.isHandshake = false :=
      fun b hb => h b (List.mem_cons_of_mem a hb)
    rcases h a List.mem_cons_self with ha | ⟨m, rfl, hm⟩
    · obtain ⟨ms, h1, h2⟩ := ih rest (j.note a)
      refine ⟨ms, fun m hm => ⟨List.mem_cons_of_mem a (h1 m hm).1, (h1 m hm).2⟩, ?_⟩
      rw [h2]
      cases a <;> first | rfl | simp [Act.isAnswer] at ha
    · obtain ⟨ms, h1, h2⟩ := ih rest (j.note (.write m))
      refine ⟨m :: ms, ?_, ?_⟩
      · intro k hk
        rcases List.mem_cons.1 hk with rfl | hk
        · exact ⟨List.mem_cons_self, hm⟩
        · exact ⟨List.mem_cons_of_mem _ (h1 k hk).1, (h1 k hk).2⟩
      · rw [h2]
        simp [note, hm, List.append_assoc]

theorem step_eq {x : Stimulus} (hx : x.isAllowed = true) (now : Nat) (j : Journal) :
    j.step now x = (j.shard.step now x).acts.foldl note (j.enter x (j.shard.step now x).shard) := by
  simp [step, hx]

theorem step_shard {x : Stimulus} (hx : x.isAllowed = true) (now : Nat) (j : Journal) :
    (j.step now x).shard = (j.shard.step now x).shard := by
  rw [step_eq hx, notes_shard, enter_shard]

theorem step_refused {x : Stimulus} (hx : x.isAllowed = false) (now : Nat) (j : Journal) : j.step now x = j := by
  simp [step, hx]

theorem notes_undelivered {acts : List Act} (h : ∀ d, .deliver d ∉ acts) (j : Journal) :
    (acts.foldl note j).held = j.held ∧ (acts.foldl note j).delivered = j.delivered := by
  refine List.foldlRecOn acts note (motive := fun k => k.held = j.held ∧ k.delivered = j.delivered) ⟨rfl, rfl⟩ ?_
  intro k hk a ha
  cases a with
  | deliver d => exact absurd ha (h d)
  | _ => exact hk

/-- Where no event comes in none is handed on. -/
theorem undelivered {now : Nat} {s : Shard} {x : Stimulus} (hx : s.eventOf? x = none) (d : Dispatch) :
    .deliver d ∉ (s.step now x).acts := by
  have ho := Shard.step_outcome now x s
  generalize s.step now x = t at ho ⊢
  intro hd
  cases ho with
  | idles shard mailbox acts kept => cases acts _ hd
  | tends c' online abreast shard mailbox acts kept => rcases acts _ hd with h | h | ⟨_, _, h, -⟩ <;> cases h
  | dials waiting =>
    simp only [Shard.dial_eq, List.mem_append, List.mem_singleton, reduceCtorEq, or_false] at hd
    cases Shard.isParting_of_announce hd
  | opens dialling => cases Shard.isParting_of_announce hd
  | resumes online | queues online =>
    simp only [List.mem_append, List.mem_singleton, reduceCtorEq, or_false] at hd
    cases Shard.isParting_of_announce hd
  | identifies online => simp at hd
  | passes online event | readies online event | revives online event =>
    cases (Shard.eventOf?_text online event _).symm.trans hx
  | ends he => cases he.acts _ hd

theorem unheard {x : Stimulus} {j : Journal} (hx : j.shard.eventOf? x = none) (now : Nat) :
    (j.step now x).held = (if x.isAllowed && j.shard.relinquishes x then none else j.held) ∧
      (j.step now x).delivered = j.delivered := by
  cases ha : x.isAllowed with
  | false => simp [step_refused ha]
  | true =>
    rw [step_eq ha, Bool.true_and]
    exact notes_undelivered (undelivered hx) _

end Journal

/-! ## A first conversation -/

/-- a profile with the usual settings -/
def ShardProfile.usual (token : String) : ShardProfile where
  token := token
  intents := Intents.default
  gatewayUrl := Settings.defaultGatewayUrl
  properties := ClientProperties.default
  largeThreshold := none
  presence := none
  identifyTimeout := Settings.Timeouts.default.identify.toNat * 1000
  reconnectBase := Settings.Reconnect.default.base.toNat
  reconnectMax := Settings.Reconnect.default.max.toNat
  reconnectLimit := Settings.Reconnect.default.attempts.toNat
  stableAfter := ShardProfile.defaultStableAfter

/-- the shard of a bot that has no other -/
def ShardAddress.only : ShardAddress := ⟨0, 1, by decide⟩

def helloText : String := "\x7b\"op\":10,\"d\":\x7b\"heartbeat_interval\":41250\x7d\x7d"

def readyText : String := "\x7b\"op\":0,\"t\":\"READY\",\"s\":1,\"d\":\x7b\"session_id\":\"x\"\x7d\x7d"

def readyDispatch : Dispatch := ⟨"READY", 1, .obj [("session_id", .str "x")]⟩

theorem tokens_helloText : Json.tokens helloText =
    [.openObj, .text "op", .colon, .number (.int 10), .comma, .text "d", .colon,
      .openObj, .text "heartbeat_interval", .colon, .number (.int 41250), .closeObj, .closeObj] := by
  decide +kernel

theorem decode_helloText : Event.decode helloText = .ok (.hello ⟨41250⟩) := by
  simp only [Event.decode, Message.decode, Json.decodeText, Json.Document.ofText, tokens_helloText]
  rfl

theorem tokens_readyText : Json.tokens readyText =
    [.openObj, .text "op", .colon, .number (.int 0), .comma, .text "t", .colon, .text "READY", .comma,
      .text "s", .colon, .number (.int 1), .comma, .text "d", .colon,
      .openObj, .text "session_id", .colon, .text "x", .closeObj, .closeObj] := by
  decide +kernel

theorem decode_readyText : Event.decode readyText = .ok (.dispatch readyDispatch) := by
  simp only [Event.decode, Message.decode, Json.decodeText, Json.Document.ofText, tokens_readyText]
  rfl

def messageText : String := "\x7b\"op\":0,\"t\":\"MESSAGE_CREATE\",\"s\":2,\"d\":null\x7d"

def messageDispatch : Dispatch := ⟨"MESSAGE_CREATE", 2, .null⟩

theorem tokens_messageText : Json.tokens messageText =
    [.openObj, .text "op", .colon, .number (.int 0), .comma, .text "t", .colon, .text "MESSAGE_CREATE", .comma,
      .text "s", .colon, .number (.int 2), .comma, .text "d", .colon, .null, .closeObj] := by
  decide +kernel

theorem decode_messageText : Event.decode messageText = .ok (.dispatch messageDispatch) := by
  simp only [Event.decode, Message.decode, Json.decodeText, Json.Document.ofText, tokens_messageText]
  rfl

/-- asks for a heartbeat -/
def requestText : String := "\x7b\"op\":1\x7d"

theorem kind?_readyDispatch : readyDispatch.kind? = some .ready := rfl

theorem payload_readyDispatch :
    Json.decodeValue Ready.decoder readyDispatch.data = .ok ⟨0, "x", none, none, .null, []⟩ := by
  rfl

namespace Journal

/-- the shard connects, identifies and becomes ready -/
def conversation : List (Nat × Stimulus) :=
  [(0, .opened), (0, .text helloText 0), (0, .granted), (0, .text readyText 0)]

/-- what came of it -/
def conversed : Journal where
  shard :=
    { Shard.fresh (.usual "t") .only 0 with
      session := some ⟨"x", none⟩
      sequence := some 1
      resumable := true
      readySince := some 0
      status := .ready
      phase := .online ((Connection.fresh 0).startHeartbeat 41250 0 0 |>.markReady 0) false }
  dialled := some (endpoint Settings.defaultGatewayUrl)
  hellos := [41250]
  wire := [.identify (Shard.fresh (.usual "t") .only 0).identity]
  overtaken := false
  delivered := [readyDispatch]
  held := some ⟨"x", none⟩

theorem run_conversation : (opening (.usual "t") .only 0).run conversation = conversed := by
  simp [conversation, conversed, run, step, opening, enter, note, Shard.launch, Shard.dial, Shard.fresh, Shard.publish,
    Shard.act, Shard.Turn.next, Shard.Turn.still, Stimulus.isAllowed, Shard.step, Shard.goOn, Shard.stepOnline,
    decode_helloText, decode_readyText, payload_readyDispatch, kind?_readyDispatch, Shard.receive, Shard.greet,
    Shard.identify, Shard.identity, Shard.dispatch, Shard.markReady, Shard.forget, Shard.opensLine, Shard.helloOf?,
    Shard.relinquishes, Shard.canResume, Shard.resume?, Shard.url, Shard.finishes, handshakes, Connection.fresh,
    Connection.startHeartbeat, Connection.markReady, Dispatch.session?, Session.ofReady, Sequence.advance?,
    Except.toOption, ShardProfile.usual]
  exact ⟨rfl, rfl⟩

end Journal

end Shardwire
