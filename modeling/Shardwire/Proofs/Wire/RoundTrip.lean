import Shardwire.Proofs.Json.Documents
import Shardwire.Proofs.Wire.Payload
import Shardwire.Wire.Event

/-
Messages and events that are written and read again.

A message is `Portable` if the numbers of its data are integers of 64 bits and the whole of it nests no deeper than a
text may. Such a message is read as it was written (`decode_encode`), whatever its op code, name, sequence number and
data; so is an event (`decode_toMessage`). What is read from a text is portable, unless it has floating numbers
(`portable_of_decode`). `decode_undoes_encode` puts these together.
-/

namespace Shardwire

open Json (Decoder Record Field Outline Source)

/-! ## Messages -/

/-- a message that is written without loss, in a text that may be read -/
structure Message.Portable (m : Message) : Prop where
  proper : m.data.Every Json.IsProper
  /-- no floating numbers -/
  whole : m.data.Every Json.IsWhole
  /-- with its envelope -/
  shallow : m.toJson.depth ≤ Source.maxLevels

namespace Message

/-- The envelope adds no number but words. -/
theorem toJson_word {m : Message} (word : m.data.Every Json.IsWord) : m.toJson.Every Json.IsWord := by
  have op : (m.op.toJson).Every Json.IsWord := by
    have small : m.op.number < 12 := by cases m.op <;> decide
    exact ⟨by omega, by omega⟩
  refine ⟨trivial, ?_⟩
  rw [Json.everyMember_iff]
  intro k hk
  simp only [List.mem_append, List.mem_singleton] at hk
  rcases hk with ((rfl | hk) | hk) | rfl
  · exact op
  · cases hn : m.name with
    | none => rw [hn] at hk; cases hk
    | some name =>
      rw [hn] at hk
      cases List.mem_singleton.1 hk
      trivial
  · cases hs : m.seq with
    | none => rw [hs] at hk; cases hk
    | some seq =>
      rw [hs] at hk
      cases List.mem_singleton.1 hk
      have := seq.toNat_lt
      exact ⟨by omega, by omega⟩
  · exact word

theorem depth_toJson (m : Message) : m.toJson.depth = m.data.depth + 1 := by
  obtain ⟨op, name, seq, data⟩ := m
  cases name <;> cases seq <;>
    simp [toJson, Json.memberOf, Json.depth, Json.depthMembers, OpCode.toJson, Json.word]

theorem op_decode (op : OpCode) (src : Source) : OpCode.decoder src (.ofJson op.toJson) = .ok op := by
  cases op <;> rfl

theorem seq_decode (seq : UInt64) (src : Source) :
    Decoder.option Decoder.uint64 src (.ofJson (.word seq)) = .ok (some seq) := by
  show (Decoder.uint64 src (.ofJson (.word seq))).map some = .ok (some seq)
  rw [Json.uint64_word]
  rfl

theorem name_decode (name : String) (src : Source) :
    Decoder.option Decoder.string src (.text name) = .ok (some name) := rfl

/-- Each member of the envelope is found under its name, whichever of them are there. -/
theorem read_toJson {m : Message} {levels : Nat} (data : Decoder.value (.text levels) (.ofJson m.data) = .ok m.data) :
    Record.read
        [.required "op" OpCode.decoder, .defaulted "t" (Decoder.option Decoder.string),
          .defaulted "s" (Decoder.option Decoder.uint64), .defaulted "d" Decoder.value]
        (.text (levels + 1)) (.ofJson m.toJson) =
      .ok ⟨.text levels, [("op", .ofJson m.op.toJson)] ++ (m.name.map fun t => ("t", .text t)).toList ++
        (m.seq.map fun s => ("s", .ofJson (.word s))).toList ++ [("d", .ofJson m.data)]⟩ := by
  obtain ⟨op, name, seq, d⟩ := m
  cases name <;> cases seq <;>
    simp [toJson, Json.memberOf, Outline.ofJson, Outline.ofMembers, Record.read, Source.enter, Record.byName,
      Field.required, Field.defaulted, Field.make, List.find?, op_decode, name_decode, seq_decode, data, Json.closed,
      Except.map, bind, Except.bind, pure, Except.pure]

/-- A message in memory is read as it is, unless it nests too deep. -/
theorem decoder_ofJson {m : Message} {levels : Nat} (proper : m.data.Every Json.IsProper)
    (shallow : m.data.depth ≤ levels) : decoder (.text (levels + 1)) (.ofJson m.toJson) = .ok m := by
  have data : Json.Decoder.value (.text levels) (.ofJson m.data) = .ok m.data := Json.value_ofJson proper shallow
  rw [decoder, read_toJson data]
  obtain ⟨op, name, seq, d⟩ := m
  cases name <;> cases seq <;>
    simp [Record.required, Record.defaulted, Record.get?, List.find?, op_decode, name_decode, seq_decode, data, bind,
      Except.bind, pure, Except.pure]

/-- A portable message is read as it was written. -/
theorem decode_encode {m : Message} (h : m.Portable) : decode m.encode = .ok m := by
  have shallow : m.data.depth ≤ 126 := by
    have deep := h.shallow
    rw [depth_toJson] at deep
    exact Nat.le_of_succ_le_succ deep
  have written : Json.Document.ofText m.encode = ⟨.ofJson m.toJson, false⟩ :=
    Json.document_render (toJson_word (h.proper.word h.whole))
  have read : decoder (.text Source.maxLevels) (.ofJson m.toJson) = .ok m := decoder_ofJson h.proper shallow
  simp only [decode, Json.decodeText, written, read, bind, Except.bind, pure, Except.pure, Bool.false_eq_true, if_false]

end Message

/-! ## Records that are read -/

namespace Json

theorem fits_byName {fields : List Field} {src : Source} {os : List (Outline × Outline)}
    {found found' : List (String × Outline)} (fits : Outline.FitMembers os) (before : ∀ e ∈ found, e.2.Fits)
    (read : Record.byName fields src os found = .ok found') : ∀ e ∈ found', e.2.Fits := by
  induction os generalizing found with
  | nil =>
    cases read
    exact before
  | cons m rest ih =>
    obtain ⟨k, o⟩ := m
    cases k with
    | text name =>
      rw [Record.byName] at read
      cases hf : fields.find? fun f => f.name == name with
      | none =>
        rw [hf] at read
        obtain ⟨-, -, read⟩ := ok_of_bind read
        exact ih fits.2 before read
      | some f =>
        rw [hf] at read
        dsimp only at read
        split at read
        · cases read
        · obtain ⟨-, -, read⟩ := ok_of_bind read
          refine ih fits.2 (fun e he => ?_) read
          rcases List.mem_append.1 he with he | he
          · exact before e he
          · rw [List.mem_singleton.1 he]
            exact fits.1
    | _ => cases read

theorem fits_byPosition {src : Source} {stop : Option Flaw} {fields : List Field} {os : List Outline}
    {found found' : List (String × Outline)} (fits : Outline.FitItems os) (before : ∀ e ∈ found, e.2.Fits)
    (read : Record.byPosition src stop fields os found = .ok found') : ∀ e ∈ found', e.2.Fits := by
  induction fields generalizing os found with
  | nil =>
    cases os with
    | nil =>
      obtain ⟨-, -, read⟩ := ok_of_bind read
      cases read
      exact before
    | cons o os => cases read
  | cons f fields ih =>
    cases os with
    | nil =>
      obtain ⟨-, -, read⟩ := ok_of_bind read
      split at read
      · exact ih fits before read
      · cases read
    | cons o os =>
      obtain ⟨-, -, read⟩ := ok_of_bind read
      refine ih fits.2 (fun e he => ?_) read
      rcases List.mem_append.1 he with he | he
      · exact before e he
      · rw [List.mem_singleton.1 he]
        exact fits.1

/-- A record is read one level deeper, and its integers are those of the outline. -/
theorem fits_record {fields : List Field} {k : Nat} {o : Outline} {r : Record} (fits : o.Fits)
    (read : Record.read fields (.text (k + 1)) o = .ok r) : r.src = .text k ∧ ∀ e ∈ r.found, e.2.Fits := by
  cases o with
  | obj os stop =>
    obtain ⟨found, named, read⟩ := ok_of_bind (x := Record.byName fields (.text k) os []) read
    obtain ⟨-, -, read⟩ := ok_of_bind read
    cases read
    exact ⟨rfl, fits_byName fits (List.forall_mem_nil _) named⟩
  | arr os stop =>
    obtain ⟨found, placed, read⟩ := ok_of_bind (x := Record.byPosition (.text k) stop fields os []) read
    cases read
    exact ⟨rfl, fits_byPosition fits (List.forall_mem_nil _) placed⟩
  | _ => cases read

end Json

namespace Message

/-- What a decoder of messages reads as data was a value, or was not there. -/
theorem fitting_of_decoder {o : Outline} {m : Message} (fits : o.Fits)
    (h : decoder (.text Source.maxLevels) o = .ok m) : Json.Fitting 126 m.data := by
  obtain ⟨r, read, h⟩ := Json.ok_of_bind h
  obtain ⟨op, -, h⟩ := Json.ok_of_bind h
  obtain ⟨name, -, h⟩ := Json.ok_of_bind h
  obtain ⟨seq, -, h⟩ := Json.ok_of_bind h
  obtain ⟨data, found, h⟩ := Json.ok_of_bind h
  cases h
  obtain ⟨deeper, fit⟩ := Json.fits_record (k := 126) fits read
  show Json.Fitting 126 data
  rw [Record.defaulted, deeper] at found
  cases get : r.get? "d" with
  | none =>
    rw [get] at found
    cases found
    exact .null 126
  | some o =>
    rw [get] at found
    obtain ⟨e, he, rfl⟩ := Option.map_eq_some_iff.1 get
    exact Json.value_fitting (fit e (List.mem_of_find?_eq_some he)) found

/-- What is read from a text is portable, unless it has floating numbers. -/
theorem portable_of_decode {s : String} {m : Message} (h : decode s = .ok m) (whole : m.data.Every Json.IsWhole) :
    m.Portable := by
  obtain ⟨m', read, h⟩ := Json.ok_of_bind (x := decoder (.text Source.maxLevels) (Json.Document.ofText s).root) h
  have same : m' = m := by
    split at h
    · cases h
    · cases h
      rfl
  have fitting := fitting_of_decoder (Json.fits_document s) read
  rw [same] at fitting
  refine ⟨fitting.proper, whole, ?_⟩
  rw [depth_toJson]
  exact Nat.succ_le_succ fitting.shallow

end Message

/-! ## Events -/

namespace Event

theorem word?_ofOption (seq : Option UInt64) : (Json.ofOption Json.word seq).word? = seq := by
  cases seq with
  | none => rfl
  | some n =>
    have bounds : (0 : Int) ≤ n.toNat ∧ (n.toNat : Int) < UInt64.size := by
      have := n.toNat_lt
      simp only [UInt64.size]
      omega
    simp only [Json.ofOption, Json.word, Json.word?, bounds, and_self, if_true, Int.toNat_natCast, UInt64.ofNat_toNat]

/-- The message of an event is that event. -/
theorem ofMessage_toMessage (e : Event) : ofMessage e.toMessage = .ok e := by
  cases e with
  | heartbeat seq =>
    show Except.ok (Event.heartbeat (Json.ofOption Json.word seq).word?) = .ok (.heartbeat seq)
    rw [word?_ofOption]
  | hello p =>
    simp only [toMessage, Message.hello, Message.plain, ofMessage, p.recovers.read]
  | _ => rfl

/-- An event with portable data is read as it was written. -/
theorem decode_toMessage {e : Event} (h : e.toMessage.Portable) : decode e.toMessage.encode = .ok e := by
  rw [decode, Message.decode_encode h]
  exact ofMessage_toMessage e

end Event

/-! ## Main result -/

/-- Reading undoes writing, for messages and for events; and a message that was read from any text, and has no floating
numbers, may be written and read again. -/
theorem decode_undoes_encode :
    (∀ m : Message, m.Portable → Message.decode m.encode = .ok m) ∧
      (∀ e : Event, e.toMessage.Portable → Event.decode e.toMessage.encode = .ok e) ∧
      ∀ (s : String) (m : Message), Message.decode s = .ok m → m.data.Every Json.IsWhole →
        Message.decode m.encode = .ok m :=
  ⟨fun _ h => Message.decode_encode h, fun _ h => Event.decode_toMessage h,
    fun _ _ h whole => Message.decode_encode (Message.portable_of_decode h whole)⟩

/-- an event with a string to be escaped, and the least and the greatest integer -/
def extremes : Dispatch :=
  ⟨"EXTREMES", 7, .obj [("least", .int (-9223372036854775808)), ("rest", .arr [.int 18446744073709551615, .str "\"\n"])]⟩

theorem extremes_portable : (Message.dispatch extremes.name extremes.seq extremes.data).Portable where
  proper := by
    have least : Json.FitsWord (-9223372036854775808) := ⟨by decide, by decide⟩
    have greatest : Json.FitsWord 18446744073709551615 := ⟨by decide, by decide⟩
    have order : "least" < "rest" := by decide
    exact ⟨List.pairwise_pair.2 order, least, ⟨trivial, greatest, trivial, trivial⟩, trivial⟩
  whole := ⟨trivial, trivial, ⟨trivial, trivial, trivial, trivial⟩, trivial⟩
  shallow := by decide

theorem decode_undoes_encode_extremes :
    Message.decode (Message.dispatch extremes.name extremes.seq extremes.data).encode =
        .ok (Message.dispatch extremes.name extremes.seq extremes.data) ∧
      Event.decode (Event.dispatch extremes).toMessage.encode = .ok (.dispatch extremes) ∧
      Message.decode " [ 9, null ] " = .ok (.plain .invalidSession .null) ∧
      Message.decode (Message.plain .invalidSession .null).encode = .ok (.plain .invalidSession .null) := by
  have tokens : Json.tokens " [ 9, null ] " = [.openArr, .number (.int 9), .comma, .null, .closeArr] := by decide +kernel
  have read : Message.decode " [ 9, null ] " = .ok (.plain .invalidSession .null) := by
    simp only [Message.decode, Json.decodeText, Json.Document.ofText, tokens]
    rfl
  exact ⟨decode_undoes_encode.1 _ extremes_portable, decode_undoes_encode.2.1 (.dispatch extremes) extremes_portable,
    read, decode_undoes_encode.2.2 _ _ read trivial⟩

end Shardwire
