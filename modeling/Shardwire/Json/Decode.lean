import Shardwire.Json.Outline

/-
Typed reading of JSON.

A decoder walks an outline and stops at the first fault from the left, be it one of the text or one of the type. The
same decoders serve texts and values in memory. A text may nest at most `Source.maxLevels` arrays and objects; a value
in memory has no such limit.

A record is read from an object, by the names of its fields in any order, or from an array, by their positions. Unknown
names are passed over. A field may be absent if it is optional or has a default, at the end of an array only in the
second case. A name out of a list is read from a string, or from an object with that name as its only key and null as
its value.
-/

namespace Shardwire.Json

/-- why something could not be decoded -/
inductive Fault where
  | malformed
  | truncated
  /-- a value of another type, or out of range -/
  | mismatch
  | missingField (name : String)
  | duplicateField (name : String)
  | unknownVariant (name : String) (expected : List String)
  /-- a value of the right shape that the type refuses -/
  | rejected (reason : String)
  deriving DecidableEq, Repr

namespace Fault

def ofFlaw : Flaw → Fault
  | .malformed => .malformed
  | .truncated => .truncated
  | .mismatch => .mismatch

def flaw : Fault → Flaw
  | .malformed => .malformed
  | .truncated => .truncated
  | _ => .mismatch

/-- a name in backquotes -/
def backquoted (s : String) : String := "\x60" ++ s ++ "\x60"

/-- the text of the faults that have one of their own -/
def message? : Fault → Option String
  | .missingField name => some ("missing field " ++ backquoted name)
  | .duplicateField name => some ("duplicate field " ++ backquoted name)
  | .unknownVariant name expected =>
    some ("unknown variant " ++ backquoted name ++ ", expected one of " ++
      String.intercalate ", " (expected.map backquoted))
  | .rejected reason => some reason
  | _ => none

end Fault

/-- where a value is read from: a text, with the levels of nesting still allowed, or memory -/
inductive Source where
  | text (levels : Nat)
  | memory
  deriving DecidableEq, Repr

namespace Source

def maxLevels : Nat := 127

/-- go one level deeper -/
def enter : Source → Except Fault Source
  | .text 0 => .error .malformed
  | .text (n + 1) => .ok (.text n)
  | .memory => .ok .memory

/-- an item behind the last one wanted -/
def surplus : Source → Fault
  | .text _ => .malformed
  | .memory => .mismatch

end Source

abbrev Decoder (α : Type) := Source → Outline → Except Fault α

/-- the fault of an outline that is not of the wanted type -/
def Outline.refuse : Outline → Fault
  | .gap g => .ofFlaw g.flaw
  | .ragged _ => .malformed
  | .number .huge => .malformed
  | _ => .mismatch

/-- the fault of an outline that is no key -/
def Outline.refuseKey : Outline → Fault
  | .gap (.badText f) => .ofFlaw f
  | .gap .ending => .truncated
  | _ => .malformed

def closed (stop : Option Flaw) : Except Fault Unit :=
  match stop with
  | some f => .error (.ofFlaw f)
  | none => .ok ()

namespace Decoder

/-! ## Scalars -/

/-- an integer from zero to a limit -/
def unsigned (limit : Nat) : Decoder Nat := fun _ o =>
  match o with
  | .number (.int n) => if 0 ≤ n ∧ n ≤ limit then .ok n.toNat else .error .mismatch
  | o => .error o.refuse

def uint8 : Decoder UInt8 := fun src o => (unsigned (UInt8.size - 1) src o).map UInt8.ofNat

def uint32 : Decoder UInt32 := fun src o => (unsigned (UInt32.size - 1) src o).map UInt32.ofNat

def uint64 : Decoder UInt64 := fun src o => (unsigned (UInt64.size - 1) src o).map UInt64.ofNat

def bool : Decoder Bool := fun _ o =>
  match o with
  | .bool b => .ok b
  | o => .error o.refuse

def string : Decoder String := fun _ o =>
  match o with
  | .text s => .ok s
  | o => .error o.refuse

/-- null, or a value -/
def option {α : Type} (d : Decoder α) : Decoder (Option α) := fun src o =>
  match o with
  | .null => .ok none
  | o => (d src o).map some

/-! ## Arrays, objects and values of any shape -/

def items {α : Type} (d : Decoder α) (src : Source) : List Outline → Except Fault (List α)
  | [] => .ok []
  | o :: rest => do
    let a ← d src o
    let as ← items d src rest
    return a :: as

def list {α : Type} (d : Decoder α) : Decoder (List α) := fun src o =>
  match o with
  | .arr os stop => do
    let src ← src.enter
    let as ← items d src os
    closed stop
    return as
  | o => .error o.refuse

/-- two items -/
def pair {α : Type} (d : Decoder α) : Decoder (α × α) := fun src o =>
  match o with
  | .arr os stop => do
    let src ← src.enter
    match os with
    | [] => do
      closed stop
      .error .mismatch
    | [a] => do
      let _ ← d src a
      closed stop
      .error .mismatch
    | a :: b :: more => do
      let a ← d src a
      let b ← d src b
      if more.isEmpty then closed stop else .error src.surplus
      return (a, b)
  | o => .error o.refuse

mutual

/-- any value; of equal keys the last one stays -/
def value : Decoder Json := fun src o =>
  match o with
  | .null => .ok .null
  | .bool b => .ok (.bool b)
  | .number (.int n) => .ok (.int n)
  | .number (.float x) => .ok (.float x)
  | .text s => .ok (.str s)
  | .arr os stop => do
    let src ← src.enter
    let vs ← values src os
    closed stop
    return .arr vs
  | .obj os stop => do
    let src ← src.enter
    let ms ← members src os
    closed stop
    return .object ms
  | o => .error o.refuse

def values (src : Source) : List Outline → Except Fault (List Json)
  | [] => .ok []
  | o :: rest => do
    let v ← value src o
    let vs ← values src rest
    return v :: vs

def members (src : Source) : List (Outline × Outline) → Except Fault (List (String × Json))
  | [] => .ok []
  | (k, o) :: rest =>
    match k with
    | .text name => do
      let v ← value src o
      let ms ← members src rest
      return (name, v) :: ms
    | k => .error k.refuseKey

end

/-! ## Names out of a list -/

def lookup {α : Type} (names : List (String × α)) (name : String) : Except Fault α :=
  match names.find? (fun entry => entry.1 == name) with
  | some entry => .ok entry.2
  | none => .error (.unknownVariant name (names.map (·.1)))

/-- null, behind the only key of an object -/
def nothing : Outline → Except Fault Unit
  | .null => .ok ()
  | o => .error o.refuse

def variant {α : Type} (names : List (String × α)) : Decoder α := fun src o =>
  match src, o with
  | _, .text s => lookup names s
  | .text _, .obj os stop => do
    let _ ← src.enter
    match os with
    | [] => do
      closed stop
      .error .malformed
    | (.text k, v) :: more => do
      let a ← lookup names k
      nothing v
      if more.isEmpty then closed stop else .error .malformed
      return a
    | (k, _) :: _ => .error k.refuse
  | .text _, .gap .ending => .error .truncated
  | .text _, .gap (.badText f) => .error (.ofFlaw f)
  | .text _, _ => .error .malformed
  | .memory, .obj [(.text k, v)] _ => do
    let a ← lookup names k
    nothing v
    return a
  | .memory, _ => .error .mismatch

end Decoder

/-! ## Records -/

/-- whether a field may be absent -/
inductive Presence where
  | required
  /-- absent means none, but an array must go on that far -/
  | optional
  | defaulted
  deriving DecidableEq, Repr

structure Field where
  name : String
  presence : Presence
  check : Source → Outline → Except Fault Unit

namespace Field

def make {α : Type} (presence : Presence) (name : String) (d : Decoder α) : Field :=
  ⟨name, presence, fun src o => (d src o).map fun _ => ()⟩

def required {α : Type} (name : String) (d : Decoder α) : Field := make .required name d

def optional {α : Type} (name : String) (d : Decoder α) : Field := make .optional name (Decoder.option d)

def defaulted {α : Type} (name : String) (d : Decoder α) : Field := make .defaulted name d

end Field

/-- the outlines found for the fields of a record, each of them checked -/
structure Record where
  src : Source
  found : List (String × Outline)

namespace Record

def get? (r : Record) (name : String) : Option Outline :=
  (r.found.find? (fun entry => entry.1 == name)).map (·.2)

/-- fields by their names -/
def byName (fields : List Field) (src : Source) :
    List (Outline × Outline) → List (String × Outline) → Except Fault (List (String × Outline))
  | [], found => .ok found
  | (k, o) :: rest, found =>
    match k with
    | .text name =>
      match fields.find? (fun f => f.name == name) with
      | none => do
        (o.skip).mapError Fault.ofFlaw
        byName fields src rest found
      | some f =>
        if found.any (fun entry => entry.1 == name) then .error (.duplicateField name)
        else do
          f.check src o
          byName fields src rest (found ++ [(name, o)])
    | k => .error k.refuseKey

/-- fields by their positions -/
def byPosition (src : Source) (stop : Option Flaw) :
    List Field → List Outline → List (String × Outline) → Except Fault (List (String × Outline))
  | [], [], found => do
    closed stop
    return found
  | [], _ :: _, _ => .error src.surplus
  | f :: fs, o :: os, found => do
    f.check src o
    byPosition src stop fs os (found ++ [(f.name, o)])
  | f :: fs, [], found => do
    closed stop
    if f.presence = .defaulted then byPosition src stop fs [] found else .error .mismatch

def read (fields : List Field) : Decoder Record := fun src o =>
  match o with
  | .obj os stop => do
    let src ← src.enter
    let found ← byName fields src os []
    closed stop
    return ⟨src, found⟩
  | .arr os stop => do
    let src ← src.enter
    let found ← byPosition src stop fields os []
    return ⟨src, found⟩
  | o => .error o.refuse

variable {α : Type}

def required (r : Record) (name : String) (d : Decoder α) : Except Fault α :=
  match r.get? name with
  | some o => d r.src o
  | none => .error (.missingField name)

def optional (r : Record) (name : String) (d : Decoder α) : Except Fault (Option α) :=
  match r.get? name with
  | some o => Decoder.option d r.src o
  | none => .ok none

def defaulted (r : Record) (name : String) (default : α) (d : Decoder α) : Except Fault α :=
  match r.get? name with
  | some o => d r.src o
  | none => .ok default

end Record

/-! ## Whole texts and values -/

/-- decode a text; nothing but blanks may follow the value -/
def decodeText {α : Type} (d : Decoder α) (s : String) : Except Fault α := do
  let doc := Document.ofText s
  let a ← d (.text Source.maxLevels) doc.root
  if doc.surplus then .error .malformed else return a

/-- decode a value in memory -/
def decodeValue {α : Type} (d : Decoder α) (v : Json) : Except Fault α :=
  d .memory (.ofJson v)

end Shardwire.Json
