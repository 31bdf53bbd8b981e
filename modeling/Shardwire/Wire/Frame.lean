import Shardwire.Wire.CloseCode
import Shardwire.Wire.Message

/-
Frames: what a connection carries, and where it leads.

A frame is a text or a closure; a closure has a code with a reason, or neither. A closure with the normal code ends the
session at the gateway, one with another code keeps it.
-/

namespace Shardwire

/-- code and reason of a closure -/
structure Closure where
  code : Nat
  reason : String
  deriving DecidableEq, Repr

namespace Closure

/-- ends the session -/
def normal : Closure := ⟨CloseCode.normal, "shutdown"⟩

/-- keeps the session -/
def resumable (reason : String) : Closure := ⟨CloseCode.unknownError.number, reason⟩

end Closure

inductive Frame where
  | text (s : String)
  | close (closure : Option Closure)
  deriving DecidableEq, Repr

def Frame.ofMessage (m : Message) : Frame := .text m.encode

/-- version of the gateway's interface -/
def apiVersion : Nat := 10

/-- the address to dial: version and encoding are asked for unless the address already asks for something -/
def endpoint (base : String) : String :=
  if base.toList.contains '?' then base
  else Text.dropTrailing '/' base ++ s!"/?v={apiVersion}&encoding=json"

end Shardwire
