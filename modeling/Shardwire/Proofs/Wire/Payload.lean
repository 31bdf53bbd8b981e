import Shardwire.Proofs.Json.Records
import Shardwire.Wire.Message

/-
Payloads that are read as they were written.

The fields a payload is written with and the fields it is read by are listed apart. One lemma per payload ties them
together (`Recovers`): every member passes the field of its name, what is left out has a default, and what is read is
what was written, but for unknown bits of intents, which are dropped (`Identify.truncate`). So a message made of a
payload has it (`Message.payload?_plain`).
-/

namespace Shardwire

open Json (Decoder Field Passes Recovers Source decodeValue)

/-! ## Members that may be left out -/

namespace Json

section MemberOf

variable {α : Type} {name key : String} {f : α → Json} {o : Option α}

@[simp] theorem member?_memberOf :
    member? name (memberOf key f o) = if key = name then o.map f else none := by
  cases o <;> simp [memberOf]

theorem keys_memberOf (key : String) (f : α → Json) (o : Option α) :
    List.Sublist ((memberOf key f o).map (·.1)) [key] := by
  cases o with
  | none => exact List.nil_sublist _
  | some a => exact List.Sublist.refl _

theorem passes_memberOf {fields : List Field} (h : ∀ a, o = some a → Passes fields (key, (f a).canonical)) :
    ∀ m ∈ memberOf key f o, Passes fields (m.1, m.2.canonical) := by
  intro m hm
  cases o with
  | none => cases hm
  | some a =>
    cases List.mem_singleton.1 hm
    exact h a rfl

theorem every_memberOf {p : Json → Prop} (h : ∀ a, o = some a → (f a).Every p) :
    ∀ m ∈ memberOf key f o, m.2.Every p := by
  intro m hm
  cases o with
  | none => cases hm
  | some a =>
    cases List.mem_singleton.1 hm
    exact h a rfl

end MemberOf

end Json

/-! ## Shards -/

namespace ShardAddress

/-- A pair is a shard if its first number is below the second. -/
theorem decode_pair (id total : UInt32) :
    decodeValue decoder (.arr [.int id.toNat, .int total.toNat]) =
      (make id total).mapError fun f => .rejected f.message := by
  have pair :
      Decoder.pair Decoder.uint32 .memory (.ofJson (.arr [.int id.toNat, .int total.toNat])) = .ok (id, total) := by
    simp only [Json.Outline.ofJson, Json.Outline.ofItems, Decoder.pair, Source.enter, bind, Except.bind]
    rw [← Json.Outline.ofJson, ← Json.Outline.ofJson, Json.uint32_int, Json.uint32_int]
    rfl
  simp only [decodeValue, decoder, pair, bind, Except.bind]

theorem recovers (s : ShardAddress) : Recovers decoder s.toJson s where
  given := Json.noConfusion
  read := by
    show decodeValue decoder (.arr [.int s.id.toNat, .int s.total.toNat]) = .ok s
    rw [decode_pair, make_of_lt s.id_lt]
    rfl

end ShardAddress

theorem Intents.recovers (i : Intents) : Recovers Intents.decoder i.toJson i.truncate where
  given := Json.noConfusion
  read := by
    have bits : Decoder.uint64 .memory (.ofJson (.word i.bits)) = .ok i.bits := Json.uint64_word i.bits .memory
    show (Decoder.uint64 .memory (.ofJson (.word i.bits))).map ofBits = .ok i.truncate
    rw [bits]
    rfl

/-! ## Payloads in memory -/

theorem Hello.recovers (p : Hello) : Recovers decoder p.toJson p := by
  have interval := Json.recovers_word p.interval
  refine Json.recovers_record (List.pairwise_singleton _ _) ?passes fun r src get => ?builds
  case passes =>
    simp only [List.forall_mem_singleton]
    exact Json.passes_of_read interval.read rfl
  case builds =>
    rw [Json.required_of_read src (get "heartbeat_interval") interval.read]
    rfl

theorem ClientProperties.recovers (p : ClientProperties) : Recovers decoder p.toJson p := by
  have os := Json.recovers_str p.os
  have browser := Json.recovers_str p.browser
  have device := Json.recovers_str p.device
  refine Json.recovers_record (by show ["os", "browser", "device"].Nodup; decide) ?passes fun r src get => ?builds
  case passes =>
    simp only [List.forall_mem_cons, List.not_mem_nil, false_implies, implies_true, and_true]
    exact ⟨Json.passes_of_read os.read rfl, Json.passes_of_read browser.read rfl,
      Json.passes_of_read device.read rfl⟩
  case builds =>
    rw [Json.required_of_read src (get "os") os.read, Json.required_of_read src (get "browser") browser.read,
      Json.required_of_read src (get "device") device.read]
    rfl

theorem Resume.recovers (p : Resume) : Recovers decoder p.toJson p := by
  have token := Json.recovers_str p.token
  have session := Json.recovers_str p.sessionId
  have seq := Json.recovers_word p.seq
  refine Json.recovers_record (by show ["token", "session_id", "seq"].Nodup; decide) ?passes fun r src get => ?builds
  case passes =>
    simp only [List.forall_mem_cons, List.not_mem_nil, false_implies, implies_true, and_true]
    exact ⟨Json.passes_of_read token.read rfl, Json.passes_of_read session.read rfl,
      Json.passes_of_read seq.read rfl⟩
  case builds =>
    rw [Json.required_of_read src (get "token") token.read, Json.required_of_read src (get "session_id") session.read,
      Json.required_of_read src (get "seq") seq.read]
    rfl

theorem PresenceStatus.recovers (s : PresenceStatus) : Recovers decoder s.toJson s := by
  refine ⟨Json.noConfusion, ?_⟩
  cases s <;> rfl

theorem Presence.recovers (p : Presence) (proper : Json.EveryItem Json.IsProper p.activities) :
    Recovers decoder p.toJson p := by
  have since : decodeValue (Decoder.option Decoder.uint64) (Json.ofOption .word p.since).canonical = .ok p.since :=
    Json.option_ofOption fun n _ => Json.recovers_word n
  have activities := Json.recovers_items proper
  have status := p.status.recovers
  have afk := Json.recovers_bool p.afk
  refine Json.recovers_record (by show ["since", "activities", "status", "afk"].Nodup; decide) ?passes
    fun r src get => ?builds
  case passes =>
    simp only [List.forall_mem_cons, List.not_mem_nil, false_implies, implies_true, and_true]
    exact ⟨Json.passes_of_read since rfl, Json.passes_of_read activities.read rfl,
      Json.passes_of_read status.read rfl, Json.passes_of_read afk.read rfl⟩
  case builds =>
    rw [Json.optional_of_read src (get "since") since,
      Json.defaulted_of_read [] src (get "activities") activities.read,
      Json.required_of_read src (get "status") status.read, Json.defaulted_of_read false src (get "afk") afk.read]
    rfl

/-- the payload without the unknown bits of its intents -/
def Identify.truncate (p : Identify) : Identify := { p with intents := p.intents.truncate }

theorem Identify.truncate_eq_self {p : Identify} :
    p.truncate = p ↔ Intents.isExact p.intents.bits = true := by
  rw [← Intents.truncate_eq_self]
  constructor
  · exact congrArg Identify.intents
  · intro h
    rw [truncate, h]

theorem Identify.recovers (p : Identify)
    (proper : ∀ q, p.presence = some q → Json.EveryItem Json.IsProper q.activities) :
    Recovers decoder p.toJson p.truncate := by
  have token := Json.recovers_str p.token
  have properties := p.properties.recovers
  have intents := p.intents.recovers
  have shard (s : ShardAddress) (_ : p.shard = some s) := s.recovers
  have threshold (n : UInt32) (_ : p.largeThreshold = some n) := Json.recovers_uint32 n
  have presence (q : Presence) (hq : p.presence = some q) := q.recovers (proper q hq)
  refine Json.recovers_record ?distinct ?passes fun r src get => ?builds
  case distinct =>
    have all : ["token", "properties", "intents", "shard", "large_threshold", "presence"].Nodup := by decide
    refine all.sublist ?_
    simp only [List.map_append, List.append_assoc]
    exact .append (.refl ["token", "properties", "intents"]) (.append (Json.keys_memberOf "shard" _ _)
      (.append (Json.keys_memberOf "large_threshold" _ _) (Json.keys_memberOf "presence" _ _)))
  case passes =>
    simp only [List.forall_mem_append, List.forall_mem_cons, List.not_mem_nil, false_implies, implies_true, and_true]
    refine ⟨⟨⟨⟨?_, ?_, ?_⟩, ?_⟩, ?_⟩, ?_⟩
    · exact Json.passes_of_read token.read rfl
    · exact Json.passes_of_read properties.read rfl
    · exact Json.passes_of_read intents.read rfl
    · exact Json.passes_memberOf fun s hs => Json.passes_of_read (shard s hs).option rfl
    · exact Json.passes_memberOf fun n hn => Json.passes_of_read (threshold n hn).option rfl
    · exact Json.passes_memberOf fun q hq => Json.passes_of_read (presence q hq).option rfl
  case builds =>
    simp only [Json.member?_append, Json.member?_cons, Json.member?_nil, Json.member?_memberOf] at get
    rw [Json.required_of_read src (get "token") token.read,
      Json.required_of_read src (get "properties") properties.read,
      Json.required_of_read src (get "intents") intents.read,
      Json.defaulted_of_option src (by simpa using get "shard") shard,
      Json.defaulted_of_option src (by simpa using get "large_threshold") threshold,
      Json.defaulted_of_option src (by simpa using get "presence") presence]
    rfl

theorem Message.payload?_plain {α : Type} {d : Decoder α} {v : Json} {a : α} (op : OpCode) (h : Recovers d v a) :
    (plain op v.canonical).payload? op d = some a := by
  simp only [payload?, plain, if_true, h.read]
  rfl

end Shardwire
