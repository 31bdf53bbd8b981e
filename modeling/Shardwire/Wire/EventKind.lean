import Shardwire.Json.Decode

/-
Kinds of dispatched events.

These are the event names the client knows; any other name is still delivered, as a text. Two of them end a handshake.
-/

namespace Shardwire

inductive EventKind where
  | ready
  | resumed
  | guildCreate
  | guildUpdate
  | guildDelete
  | guildMemberAdd
  | guildMemberUpdate
  | guildMemberRemove
  | guildMembersChunk
  | channelCreate
  | channelUpdate
  | channelDelete
  | messageCreate
  | messageUpdate
  | messageDelete
  | messageReactionAdd
  | messageReactionRemove
  | presenceUpdate
  | typingStart
  | userUpdate
  | interactionCreate
  deriving DecidableEq, Repr

namespace EventKind

def name : EventKind → String
  | .ready => "READY"
  | .resumed => "RESUMED"
  | .guildCreate => "GUILD_CREATE"
  | .guildUpdate => "GUILD_UPDATE"
  | .guildDelete => "GUILD_DELETE"
  | .guildMemberAdd => "GUILD_MEMBER_ADD"
  | .guildMemberUpdate => "GUILD_MEMBER_UPDATE"
  | .guildMemberRemove => "GUILD_MEMBER_REMOVE"
  | .guildMembersChunk => "GUILD_MEMBERS_CHUNK"
  | .channelCreate => "CHANNEL_CREATE"
  | .channelUpdate => "CHANNEL_UPDATE"
  | .channelDelete => "CHANNEL_DELETE"
  | .messageCreate => "MESSAGE_CREATE"
  | .messageUpdate => "MESSAGE_UPDATE"
  | .messageDelete => "MESSAGE_DELETE"
  | .messageReactionAdd => "MESSAGE_REACTION_ADD"
  | .messageReactionRemove => "MESSAGE_REACTION_REMOVE"
  | .presenceUpdate => "PRESENCE_UPDATE"
  | .typingStart => "TYPING_START"
  | .userUpdate => "USER_UPDATE"
  | .interactionCreate => "INTERACTION_CREATE"

/-- all kinds, in the order they are listed in -/
def all : List EventKind :=
  [.ready, .resumed, .guildCreate, .guildUpdate, .guildDelete, .guildMemberAdd, .guildMemberUpdate,
   .guildMemberRemove, .guildMembersChunk, .channelCreate, .channelUpdate, .channelDelete, .messageCreate,
   .messageUpdate, .messageDelete, .messageReactionAdd, .messageReactionRemove, .presenceUpdate, .typingStart,
   .userUpdate, .interactionCreate]

def ofName? (name : String) : Option EventKind := all.find? fun k => k.name == name

/-- A kind goes by one name. -/
theorem ofName?_eq_some {name : String} {k : EventKind} : ofName? name = some k ↔ name = k.name := by
  constructor
  · intro h
    have named : (k.name == name) = true := List.find?_some (p := fun k : EventKind => k.name == name) h
    exact (beq_iff_eq.1 named).symm
  · rintro rfl
    cases k <;> rfl

/-- whether it ends a handshake -/
def startsSession : EventKind → Bool
  | .ready | .resumed => true
  | _ => false

def toJson (k : EventKind) : Json := .str k.name

def decoder : Json.Decoder EventKind := Json.Decoder.variant (all.map fun k => (k.name, k))

end EventKind

end Shardwire
