import Shardwire.Proofs.Wire.RoundTrip

/-
What the message of a payload shows.

`payloads_survive`: it has data, shows the payload to its own accessor and nothing to any other, and is read from a text
as it was written. A shard that is read is always one of its session. Of intents only the known bits are shown
(`received`), so an Identify with others does not come back as it was (`unknown_intents_lost`).
-/

namespace Shardwire

open Json (Source decodeValue)

/-! ## Numbers in a payload -/

theorem word_word (n : UInt64) : (Json.word n).Every Json.IsWord := by
  have := n.toNat_lt
  exact ⟨by omega, by omega⟩

theorem word_uint32 (n : UInt32) : (Json.int n.toNat).Every Json.IsWord := by
  have := n.toNat_lt
  exact ⟨by omega, by omega⟩

theorem Presence.word_toJson (p : Presence) (word : Json.EveryItem Json.IsWord p.activities) :
    p.toJson.Every Json.IsWord := by
  have since : (Json.ofOption Json.word p.since).Every Json.IsWord := by
    cases p.since with
    | none => trivial
    | some n => exact word_word n
  exact ⟨trivial, since, ⟨trivial, word⟩, trivial, trivial, trivial⟩

theorem Identify.word_toJson (p : Identify)
    (word : ∀ q, p.presence = some q → Json.EveryItem Json.IsWord q.activities) : p.toJson.Every Json.IsWord := by
  refine ⟨trivial, Json.everyMember_iff.2 ?_⟩
  simp only [List.forall_mem_append, List.forall_mem_cons, List.not_mem_nil, false_implies, implies_true, and_true]
  refine ⟨⟨⟨⟨?token, ?properties, ?intents⟩, ?shard⟩, ?threshold⟩, ?presence⟩
  case token => trivial
  case properties => exact ⟨trivial, trivial, trivial, trivial, trivial⟩
  case intents => exact word_word p.intents.bits
  case shard => exact Json.every_memberOf fun s _ => ⟨trivial, word_uint32 s.id, word_uint32 s.total, trivial⟩
  case threshold => exact Json.every_memberOf fun n _ => word_uint32 n
  case presence => exact Json.every_memberOf fun q hq => q.word_toJson (word q hq)

/-! ## What a message shows -/

/-- what the accessors of a message give -/
structure Views where
  hello : Option Hello
  identify : Option Identify
  resume : Option Resume
  presence : Option Presence
  ready : Option Ready
  heartbeat : Option (Option UInt64)
  invalidSession : Option Bool

/-- nothing at all -/
def Views.blank : Views := ⟨none, none, none, none, none, none, none⟩

def Message.views (m : Message) : Views :=
  ⟨m.hello?, m.identify?, m.resume?, m.presence?, m.ready?, m.heartbeat?, m.invalidSession?⟩

/-- a payload with a message of its own -/
inductive Payload where
  | hello (p : Hello)
  | identify (p : Identify)
  | resume (p : Resume)
  | presence (p : Presence)

namespace Payload

def message : Payload → Message
  | .hello p => .hello p
  | .identify p => .identify p
  | .resume p => .resume p
  | .presence p => .presenceUpdate p

/-- the payload as it is read, without unknown bits of intents -/
def received : Payload → Payload
  | .identify p => .identify p.truncate
  | p => p

/-- the payload for its own accessor, and nothing for any other -/
def views : Payload → Views
  | .hello p => { Views.blank with hello := some p }
  | .identify p => { Views.blank with identify := some p }
  | .resume p => { Views.blank with resume := some p }
  | .presence p => { Views.blank with presence := some p }

/-- the part of it that is passed through untouched -/
def activities : Payload → List Json
  | .identify ⟨_, _, _, _, _, some update⟩ => update.activities
  | .presence p => p.activities
  | _ => []

/-- the payload as it is written -/
def toJson : Payload → Json
  | .hello p => p.toJson
  | .identify p => p.toJson
  | .resume p => p.toJson
  | .presence p => p.toJson

theorem data_message (p : Payload) : p.message.data = p.toJson.canonical := by cases p <;> rfl

theorem toJson_ne_null (p : Payload) : p.toJson.canonical ≠ .null := by cases p <;> exact Json.noConfusion

/-- Activities of an Identify are those of its presence. -/
theorem activities_identify {p : Identify} {q : Presence} (h : p.presence = some q) :
    activities (.identify p) = q.activities := by
  obtain ⟨token, properties, intents, shard, threshold, presence⟩ := p
  cases h
  rfl

/-- Nothing is lost exactly if there are no intents, or only known ones. -/
theorem received_eq_self {p : Payload} :
    p.received = p ↔ ∀ q, p = .identify q → Intents.isExact q.intents.bits = true := by
  cases p with
  | identify q => simp [received, Identify.truncate_eq_self]
  | hello | resume | presence => simp [received]

theorem views_message (p : Payload) (proper : Json.EveryItem Json.IsProper p.activities) :
    p.message.views = p.received.views := by
  cases p with
  | hello p =>
    have own : (Message.hello p).hello? = some p := Message.payload?_plain .hello p.recovers
    simp only [message, received, views, Message.views, own]
    rfl
  | identify p =>
    have within (q : Presence) (hq : p.presence = some q) : Json.EveryItem Json.IsProper q.activities :=
      activities_identify hq ▸ proper
    have own : (Message.identify p).identify? = some p.truncate :=
      Message.payload?_plain .identify (p.recovers within)
    simp only [message, received, views, Message.views, own]
    rfl
  | resume p =>
    have own : (Message.resume p).resume? = some p := Message.payload?_plain .resume p.recovers
    simp only [message, received, views, Message.views, own]
    rfl
  | presence p =>
    have own : (Message.presenceUpdate p).presence? = some p :=
      Message.payload?_plain .presenceUpdate (p.recovers proper)
    simp only [message, received, views, Message.views, own]
    rfl

theorem word_toJson (p : Payload) (word : Json.EveryItem Json.IsWord p.activities) : p.toJson.Every Json.IsWord := by
  cases p with
  | hello p => exact ⟨trivial, word_word p.interval, trivial⟩
  | identify p => exact p.word_toJson fun q hq => activities_identify hq ▸ word
  | resume p => exact ⟨trivial, trivial, trivial, word_word p.seq, trivial⟩
  | presence p => exact p.word_toJson word

/-- The message of a payload without floating numbers is portable, unless it nests too deep. -/
theorem portable_message {p : Payload} (proper : Json.EveryItem Json.IsProper p.activities)
    (whole : Json.EveryItem Json.IsWhole p.activities) (shallow : p.message.toJson.depth ≤ Source.maxLevels) :
    p.message.Portable := by
  have both : p.message.data.Every fun v => v.IsProper ∧ v.IsWhole :=
    p.data_message ▸ Json.every_canonical (p.word_toJson (proper.word whole))
  exact ⟨both.imp₂ (fun _ h _ => h.1) both, both.imp₂ (fun _ h _ => h.2) both, shallow⟩

/-! ## Main result -/

/-- The message of a payload has data, and shows this payload to its own accessor and nothing to any other, but for
unknown bits of intents, which are not shown; it is read as it was written, if there are no floating numbers and it nests
no deeper than a text may. Of all pairs of numbers just those are read as a shard whose first number is below the second,
and so is the shard of any message. -/
theorem payloads_survive (p : Payload) (proper : Json.EveryItem Json.IsProper p.activities) :
    p.message.data ≠ .null ∧
    (p.message.views = p.received.views ∧
      (p.received = p ↔ ∀ q, p = .identify q → Intents.isExact q.intents.bits = true)) ∧
    (Json.EveryItem Json.IsWhole p.activities → p.message.toJson.depth ≤ Source.maxLevels →
      Message.decode p.message.encode = .ok p.message) ∧
    (∀ id total : UInt32,
      (∃ s, decodeValue ShardAddress.decoder (.arr [.int id.toNat, .int total.toNat]) = .ok s) ↔ id < total) ∧
    ∀ (m : Message) (q : Identify) (s : ShardAddress), m.identify? = some q → q.shard = some s → s.id < s.total := by
  refine ⟨?data, ⟨p.views_message proper, received_eq_self⟩, ?text, ?pairs, fun _ _ s _ _ => s.id_lt⟩
  case data =>
    rw [p.data_message]
    exact p.toJson_ne_null
  case text => exact fun whole shallow => Message.decode_encode (portable_message proper whole shallow)
  case pairs =>
    intro id total
    rw [ShardAddress.decode_pair]
    constructor
    · rintro ⟨s, hs⟩
      cases made : ShardAddress.make id total with
      | error f => rw [made] at hs; cases hs
      | ok s' =>
        obtain ⟨rfl, rfl⟩ := ShardAddress.make_eq_ok.1 made
        exact s'.id_lt
    · intro h
      rw [ShardAddress.make_of_lt h]
      exact ⟨_, rfl⟩

/-- an Identify with everything that may be left out, and an activity to be escaped -/
def complete : Identify where
  token := "secret"
  properties := .default
  intents := .all
  shard := some ⟨3, 4, by decide⟩
  largeThreshold := some 250
  presence := some ⟨some 1700000000000, [.obj [("name", .str "\"\n"), ("type", .int (-1))]], .idle, true⟩

theorem payloads_survive_complete :
    (Message.identify complete).identify? = some complete ∧
      Message.decode (Message.identify complete).encode = .ok (Message.identify complete) := by
  have order : "name" < "type" := by decide
  have number : Json.FitsWord (-1) := ⟨by decide, by decide⟩
  have proper : Json.EveryItem Json.IsProper (identify complete).activities :=
    ⟨⟨List.pairwise_pair.2 order, trivial, number, trivial⟩, trivial⟩
  have whole : Json.EveryItem Json.IsWhole (identify complete).activities :=
    ⟨⟨trivial, trivial, trivial, trivial⟩, trivial⟩
  have shallow : (identify complete).message.toJson.depth ≤ Source.maxLevels := by decide
  obtain ⟨-, ⟨views, -⟩, text, -⟩ := payloads_survive (.identify complete) proper
  exact ⟨congrArg Views.identify views, text whole shallow⟩

/-- an Identify with a bit that no intent has -/
def unmasked : Identify where
  token := "secret"
  properties := .default
  intents := ⟨Intents.bit 40⟩
  shard := none
  largeThreshold := none
  presence := none

/-- Its intents come back as none at all. -/
theorem unknown_intents_lost :
    (Message.identify unmasked).identify? = some { unmasked with intents := .empty } ∧
      (Message.identify unmasked).identify? ≠ some unmasked := by
  have shown : (Message.identify unmasked).identify? = some unmasked.truncate :=
    congrArg Views.identify (views_message (.identify unmasked) trivial)
  refine ⟨shown, fun kept => ?_⟩
  have same : unmasked.truncate.intents = unmasked.intents :=
    congrArg Identify.intents (Option.some.inj (shown.symm.trans kept))
  exact absurd same (by decide)

end Payload

end Shardwire
