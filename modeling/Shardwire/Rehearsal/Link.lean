import Shardwire.Link

/-
A rehearsal of links in memory: a client that asks for links, and a listener that accepts them.

Either side knows its links by number. A link that a side has let go of is gone for it.
-/

namespace Shardwire.Rehearsal.Link

inductive Step where
  | connect (url : String)
  | accept
  | dropListener
  | send (side : Link.Side) (n : Nat) (f : Frame)
  | receive (side : Link.Side) (n : Nat)
  /-- receives a frame and reads it as a message -/
  | receiveMessage (n : Nat)
  /-- the server sends a close frame and lets go -/
  | close (n : Nat) (code : Nat)
  | release (side : Link.Side) (n : Nat)

inductive Reply where
  | nothing
  | opened (n : Nat)
  | refused (f : Fault)
  | accepted (n : Nat) (url : String)
  | delivered (yes : Bool)
  | found (f : Link.Found)
  | message (m : Option Message)
  | gone

/-- the message in what was found; anything else ends the messages -/
def messageOf : Link.Found → Reply
  | .empty => .found .empty
  | .frame (.text s) => .message (Message.decode s).toOption
  | _ => .message none

def perform (x : Exchange) : Step → Reply × Exchange
  | .connect url =>
    match x.connect url with
    | .ok (n, x) => (.opened n, x)
    | .error f => (.refused f, x)
  | .accept =>
    match x.accept with
    | (some (n, l), x) => (.accepted n l.url, x)
    | (none, x) => (.nothing, x)
  | .dropListener => (.nothing, x.dropListener)
  | .send side n f =>
    match x.find? side n with
    | some (i, l) => (.delivered (l.send side f).1, x.update i (l.send side f).2)
    | none => (.gone, x)
  | .receive side n =>
    match x.find? side n with
    | some (i, l) => (.found (l.receive side).1, x.update i (l.receive side).2)
    | none => (.gone, x)
  | .receiveMessage n =>
    match x.find? .server n with
    | some (i, l) => (messageOf (l.receive .server).1, x.update i (l.receive .server).2)
    | none => (.gone, x)
  | .close n code =>
    match x.find? .server n with
    | some (i, l) => (.nothing, x.update i ((l.send .server (.close (some ⟨code, ""⟩))).2.release .server))
    | none => (.gone, x)
  | .release side n =>
    match x.find? side n with
    | some (i, l) => (.nothing, x.update i (l.release side))
    | none => (.nothing, x)

def play (x : Exchange) : List Step → List Reply
  | [] => []
  | s :: rest => (perform x s).1 :: play (perform x s).2 rest

end Shardwire.Rehearsal.Link
