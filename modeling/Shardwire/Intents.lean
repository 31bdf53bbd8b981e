import Shardwire.Json.Decode
import Shardwire.Text.Blank
import Shardwire.Text.Integer

/-
Intents: the categories of events a shard asks for.

An intent is one bit of a 64-bit word, and a set of intents a word. Sets combine by the operations on words and are
written as their number. A set that is made by hand may hold bits that no intent has; one that is read from a number
never does, since all unknown bits are dropped (`truncate`). Three of the intents need an approval of their own
(`privileged`); every other one is asked for by default.

`truncate_eq_self`: dropping unknown bits changes nothing exactly if there are none.
-/

namespace Shardwire

namespace Intents

/-- the word of one bit -/
def bit (n : UInt64) : UInt64 := 1 <<< n

/-- known intents with their bits, in the order they are listed in -/
def flags : List (String × UInt64) :=
  [("GUILDS", bit 0), ("GUILD_MEMBERS", bit 1), ("GUILD_MODERATION", bit 2),
   ("GUILD_EMOJIS_AND_STICKERS", bit 3), ("GUILD_INTEGRATIONS", bit 4), ("GUILD_WEBHOOKS", bit 5),
   ("GUILD_INVITES", bit 6), ("GUILD_VOICE_STATES", bit 7), ("GUILD_PRESENCES", bit 8),
   ("GUILD_MESSAGES", bit 9), ("GUILD_MESSAGE_REACTIONS", bit 10), ("GUILD_MESSAGE_TYPING", bit 11),
   ("DIRECT_MESSAGES", bit 12), ("DIRECT_MESSAGE_REACTIONS", bit 13), ("DIRECT_MESSAGE_TYPING", bit 14),
   ("MESSAGE_CONTENT", bit 15), ("GUILD_SCHEDULED_EVENTS", bit 16),
   ("AUTO_MODERATION_CONFIGURATION", bit 20), ("AUTO_MODERATION_EXECUTION", bit 21)]

/-- every known bit -/
def allBits : UInt64 := 0x31FFFF

/-- the bits of the intents that need approval -/
def privilegedBits : UInt64 := 0x8102

theorem allBits_eq : allBits = flags.foldl (fun acc f => acc ||| f.2) 0 := by decide

end Intents

/-- a set of intents, and maybe bits that are none -/
structure Intents where
  bits : UInt64
  deriving DecidableEq, Repr

namespace Intents

/-- the known ones among some bits -/
def ofBits (bits : UInt64) : Intents := ⟨bits &&& allBits⟩

/-- whether all bits are known -/
def isExact (bits : UInt64) : Bool := bits &&& allBits == bits

/-- the set without its unknown bits -/
def truncate (i : Intents) : Intents := ofBits i.bits

/-- the unknown bits of a set -/
def unknown (i : Intents) : UInt64 := i.bits &&& ~~~allBits

theorem truncate_eq_self {i : Intents} : i.truncate = i ↔ isExact i.bits = true := by
  rw [truncate, ofBits, isExact, beq_iff_eq]
  exact ⟨fun h => congrArg bits h, fun h => congrArg mk h⟩

theorem isExact_ofBits (bits : UInt64) : isExact (ofBits bits).bits = true := by
  rw [isExact, ofBits, beq_iff_eq, UInt64.and_assoc, UInt64.and_self]

@[simp] theorem truncate_ofBits (bits : UInt64) : (ofBits bits).truncate = ofBits bits :=
  truncate_eq_self.2 (isExact_ofBits bits)

def empty : Intents := ofBits 0
def all : Intents := ofBits allBits
def privileged : Intents := ofBits privilegedBits

def union (a b : Intents) : Intents := ⟨a.bits ||| b.bits⟩
def inter (a b : Intents) : Intents := ⟨a.bits &&& b.bits⟩
def diff (a b : Intents) : Intents := ⟨a.bits &&& ~~~b.bits⟩
def symmDiff (a b : Intents) : Intents := ⟨a.bits ^^^ b.bits⟩

/-- the known intents that are not in a set -/
def compl (a : Intents) : Intents := ofBits (~~~a.bits)

def contains (a b : Intents) : Bool := a.bits &&& b.bits == b.bits
def intersects (a b : Intents) : Bool := a.bits &&& b.bits != 0
def isEmpty (a : Intents) : Bool := a.bits == 0
def isAll (a : Intents) : Bool := a.contains all

/-- every intent that needs no approval -/
def nonPrivileged : Intents := all.diff privileged

def default : Intents := nonPrivileged

instance : Inhabited Intents := ⟨default⟩

def isPrivileged (a : Intents) : Bool := a.intersects privileged

/-- names of the intents of a set -/
def names (a : Intents) : List String :=
  (flags.filter fun f => a.bits &&& f.2 == f.2).map (·.1)

/-- the intents of a name; the approved ones together have a name too -/
def ofName? (name : String) : Option Intents :=
  if name = "PRIVILEGED" then some privileged
  else (flags.find? fun f => f.1 == name).map fun f => ofBits f.2

def toText (a : Intents) : String := toString a.bits.toNat

/-- a decimal number, with unknown bits dropped -/
def parse (s : String) : Except Text.IntegerFault Intents :=
  (Text.readUInt64 (Text.trim s)).map ofBits

def toJson (a : Intents) : Json := .word a.bits

def decoder : Json.Decoder Intents := fun src o =>
  (Json.Decoder.uint64 src o).map ofBits

/-- unknown bits as they stand in diagnostics, if there are any -/
def unknownText (a : Intents) : List String :=
  if a.unknown = 0 then [] else ["0x" ++ String.ofList (Nat.toDigits 16 a.unknown.toNat)]

/-- the set as it stands in diagnostics -/
def describe (a : Intents) : String :=
  let inside := if a.isEmpty then "0x0" else String.intercalate " | " (a.names ++ a.unknownText)
  "GatewayIntents(" ++ inside ++ ")"

end Intents

end Shardwire
