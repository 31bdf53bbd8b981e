import Shardwire.Proofs.Json.Tokens

/-
Text that is written, and the value that is read from it.

The tokens of a value make up its outline (`read_marks`), so the text of a value is a document of that value and nothing
else (`document_render`). Whatever the text, the integers of its outline are of 64 bits (`fits_document`).
-/

namespace Shardwire.Json

namespace Outline

/-! ## The outline of a value -/

/-- A value does not begin with a closing bracket. -/
theorem marks_front (v : Json) : ∃ t ts, marks v = t :: ts ∧ t ≠ .closeArr := by
  cases v <;> exact ⟨_, _, rfl, nofun⟩

theorem itemMarks_front (v : Json) (rest : List Json) : ∃ t ts, itemMarks (v :: rest) = t :: ts ∧ t ≠ .closeArr := by
  obtain ⟨t, ts, front, other⟩ := marks_front v
  cases rest with
  | nil => exact ⟨t, ts, front, other⟩
  | cons w rest => exact ⟨t, ts ++ .comma :: itemMarks (w :: rest), by rw [itemMarks, front]; rfl, other⟩

theorem memberMarks_front (k : String) (v : Json) (rest : List (String × Json)) :
    ∃ ts, memberMarks ((k, v) :: rest) = .text k :: ts := by
  cases rest with
  | nil => exact ⟨_, rfl⟩
  | cons m rest => exact ⟨_, rfl⟩

theorem read_openArr {t : Token} (other : t ≠ .closeArr) (n : Nat) (ts : List Token) :
    read (n + 1) (.openArr :: t :: ts) =
      (.arr (readItems n (t :: ts)).1 (readItems n (t :: ts)).2.1, (readItems n (t :: ts)).2.2) := by
  cases t with
  | closeArr => exact absurd rfl other
  | _ => rfl

theorem read_openObj {t : Token} (other : t ≠ .closeObj) (n : Nat) (ts : List Token) :
    read (n + 1) (.openObj :: t :: ts) =
      (.obj (readMembers n (t :: ts)).1 (readMembers n (t :: ts)).2.1, (readMembers n (t :: ts)).2.2) := by
  cases t with
  | closeObj => exact absurd rfl other
  | _ => rfl

theorem read_text {n : Nat} (room : 0 < n) (k : String) (ts : List Token) : read n (.text k :: ts) = (.text k, ts) := by
  cases n with
  | zero => cases room
  | succ n => rfl

mutual

/-- The tokens of a value are read as the value, whatever follows them. -/
theorem read_marks : ∀ {v : Json} {n : Nat} {rest : List Token}, 2 * (marks v).length ≤ n →
    read n (marks v ++ rest) = (ofJson v, rest)
  | v, 0, _, room => by
    obtain ⟨t, ts, front, -⟩ := marks_front v
    simp [front] at room
  | .null, _ + 1, _, _ => rfl
  | .bool _, _ + 1, _, _ => rfl
  | .int _, _ + 1, _, _ => rfl
  | .float _, _ + 1, _, _ => rfl
  | .str _, _ + 1, _, _ => rfl
  | .arr [], _ + 1, _, _ => rfl
  | .obj [], _ + 1, _, _ => rfl
  | .arr (v :: items), n + 1, rest, room => by
    obtain ⟨t, ts, front, other⟩ := itemMarks_front v items
    have inner : readItems n (itemMarks (v :: items) ++ .closeArr :: rest) = (ofItems (v :: items), none, rest) := by
      apply readItems_marks
      simp only [marks, List.length_cons, List.length_append, List.length_nil] at room
      omega
    have shape : marks (.arr (v :: items)) ++ rest = .openArr :: (itemMarks (v :: items) ++ .closeArr :: rest) := by
      simp [marks]
    rw [front, List.cons_append] at inner
    rw [shape, front, List.cons_append, read_openArr other, inner, ofJson]
  | .obj ((k, v) :: members), n + 1, rest, room => by
    obtain ⟨ts, front⟩ := memberMarks_front k v members
    have inner : readMembers n (memberMarks ((k, v) :: members) ++ .closeObj :: rest) =
        (ofMembers ((k, v) :: members), none, rest) := by
      apply readMembers_marks
      simp only [marks, List.length_cons, List.length_append, List.length_nil] at room
      omega
    have shape : marks (.obj ((k, v) :: members)) ++ rest =
        .openObj :: (memberMarks ((k, v) :: members) ++ .closeObj :: rest) := by
      simp [marks]
    rw [front, List.cons_append] at inner
    rw [shape, front, List.cons_append, read_openObj (t := .text k) nofun, inner, ofJson]

theorem readItems_marks : ∀ {v : Json} {items : List Json} {n : Nat} {rest : List Token},
    2 * (itemMarks (v :: items)).length + 1 ≤ n →
      readItems n (itemMarks (v :: items) ++ .closeArr :: rest) = (ofItems (v :: items), none, rest)
  | v, [], n + 1, rest, room => by
    have here : read n (marks v ++ .closeArr :: rest) = (ofJson v, .closeArr :: rest) :=
      read_marks (Nat.le_of_succ_le_succ room)
    simp only [readItems, itemMarks, here, ofItems]
  | v, w :: items, n + 1, rest, room => by
    simp only [itemMarks, List.length_append, List.length_cons] at room
    have here : read n (marks v ++ .comma :: (itemMarks (w :: items) ++ .closeArr :: rest)) =
        (ofJson v, .comma :: (itemMarks (w :: items) ++ .closeArr :: rest)) := read_marks (by omega)
    have there : readItems n (itemMarks (w :: items) ++ .closeArr :: rest) = (ofItems (w :: items), none, rest) :=
      readItems_marks (by omega)
    simp only [readItems, itemMarks, List.append_assoc, List.cons_append, here, there, ofItems]

theorem readMembers_marks : ∀ {k : String} {v : Json} {members : List (String × Json)} {n : Nat} {rest : List Token},
    2 * (memberMarks ((k, v) :: members)).length + 1 ≤ n →
      readMembers n (memberMarks ((k, v) :: members) ++ .closeObj :: rest) = (ofMembers ((k, v) :: members), none, rest)
  | _, _, _, 0, _, room => by simp at room
  | k, v, [], n + 1, rest, room => by
    simp only [memberMarks, List.length_cons] at room
    have here : read n (marks v ++ .closeObj :: rest) = (ofJson v, .closeObj :: rest) := read_marks (by omega)
    simp only [readMembers, memberMarks, List.cons_append, read_text (show 0 < n by omega), here, ofMembers]
  | k, v, (l, w) :: members, n + 1, rest, room => by
    simp only [memberMarks, List.length_append, List.length_cons, List.cons_append] at room
    have here : read n (marks v ++ .comma :: (memberMarks ((l, w) :: members) ++ .closeObj :: rest)) =
        (ofJson v, .comma :: (memberMarks ((l, w) :: members) ++ .closeObj :: rest)) := read_marks (by omega)
    have there : readMembers n (memberMarks ((l, w) :: members) ++ .closeObj :: rest) =
        (ofMembers ((l, w) :: members), none, rest) := readMembers_marks (by omega)
    simp only [readMembers, memberMarks, List.append_assoc, List.cons_append, read_text (show 0 < n by omega), here,
      there, ofMembers]

end

/-! ## Outlines of any text -/

mutual

/-- What is read from tokens of 64 bits is of 64 bits, and so is what remains. -/
theorem fits_read : ∀ {n : Nat} {ts : List Token}, (∀ t ∈ ts, t.Fits) →
    (read n ts).1.Fits ∧ ∀ t ∈ (read n ts).2, t.Fits
  | 0, _, fit => ⟨trivial, fit⟩
  | _ + 1, [], _ => ⟨trivial, nofun⟩
  | n + 1, t :: ts, fit => by
    obtain ⟨first, others⟩ := List.forall_mem_cons.1 fit
    cases t with
    | null | bool _ | text _ | ragged _ => exact ⟨trivial, others⟩
    | number x => cases x <;> exact ⟨first, others⟩
    | badText _ | badNumber _ | badWord _ | closeArr | closeObj | comma | colon => exact ⟨trivial, nofun⟩
    | openArr =>
      cases ts with
      | nil => exact ⟨trivial, nofun⟩
      | cons u us =>
        by_cases closes : u = .closeArr
        · subst closes
          exact ⟨trivial, (List.forall_mem_cons.1 others).2⟩
        · rw [read_openArr closes]
          exact fits_readItems others
    | openObj =>
      cases ts with
      | nil => exact ⟨trivial, nofun⟩
      | cons u us =>
        by_cases closes : u = .closeObj
        · subst closes
          exact ⟨trivial, (List.forall_mem_cons.1 others).2⟩
        · rw [read_openObj closes]
          exact fits_readMembers others

theorem fits_readItems : ∀ {n : Nat} {ts : List Token}, (∀ t ∈ ts, t.Fits) →
    FitItems (readItems n ts).1 ∧ ∀ t ∈ (readItems n ts).2.2, t.Fits
  | 0, _, fit => ⟨trivial, fit⟩
  | n + 1, ts, fit => by
    have both := fits_read (n := n) fit
    rw [readItems]
    generalize read n ts = r at both ⊢
    obtain ⟨v, rest⟩ := r
    obtain ⟨here, left⟩ := both
    dsimp only at here left ⊢
    split
    · have there := fits_readItems (n := n) (List.forall_mem_cons.1 left).2
      exact ⟨⟨here, there.1⟩, there.2⟩
    · exact ⟨⟨here, trivial⟩, (List.forall_mem_cons.1 left).2⟩
    · exact ⟨⟨here, trivial⟩, nofun⟩
    · exact ⟨⟨here, trivial⟩, nofun⟩

theorem fits_readMembers : ∀ {n : Nat} {ts : List Token}, (∀ t ∈ ts, t.Fits) →
    FitMembers (readMembers n ts).1 ∧ ∀ t ∈ (readMembers n ts).2.2, t.Fits
  | 0, _, fit => ⟨trivial, fit⟩
  | n + 1, ts, fit => by
    have key := fits_read (n := n) fit
    rw [readMembers]
    generalize read n ts = r at key ⊢
    obtain ⟨k, rest⟩ := r
    obtain ⟨-, left⟩ := key
    dsimp only at left ⊢
    split
    · next more =>
      have both := fits_read (n := n) (List.forall_mem_cons.1 left).2
      generalize read n more = r at both ⊢
      obtain ⟨v, rest⟩ := r
      obtain ⟨here, left⟩ := both
      dsimp only at here left ⊢
      split
      · have there := fits_readMembers (n := n) (List.forall_mem_cons.1 left).2
        exact ⟨⟨here, there.1⟩, there.2⟩
      · exact ⟨⟨here, trivial⟩, (List.forall_mem_cons.1 left).2⟩
      · exact ⟨⟨here, trivial⟩, nofun⟩
      · exact ⟨⟨here, trivial⟩, nofun⟩
    · exact ⟨⟨trivial, trivial⟩, nofun⟩
    · exact ⟨⟨trivial, trivial⟩, nofun⟩

end

end Outline

/-! ## Documents -/

/-- The text of a value is a document of that value. -/
theorem document_render {v : Json} (word : v.Every IsWord) : Document.ofText v.render = ⟨.ofJson v, false⟩ := by
  have whole : Outline.read (2 * (marks v).length + 2) (marks v ++ []) = (.ofJson v, []) :=
    Outline.read_marks (Nat.le_add_right _ 2)
  rw [List.append_nil] at whole
  rw [Document.ofText, tokens_render word, whole]
  rfl

/-- The integers of a document are of 64 bits. -/
theorem fits_document (s : String) : (Document.ofText s).root.Fits := by
  have read := Outline.fits_read (n := 2 * (tokens s).length + 2) (fits_tokens s)
  exact read.1

end Shardwire.Json
