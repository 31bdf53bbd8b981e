/-
Blank characters and trimming.

A blank is a character of the Unicode property White_Space. `trim` drops blanks from both ends of a text and leaves
everything between them alone. `dropLeading` drops a text as often as it stands in front, `dropTrailing` a character as
often as it stands at the end.

- `trimChars_eq_iff`: trimming finds the part of a text that has no blank at its ends and blanks only around it;
- `dropLeading_eq_iff`: what stays behind the texts in front is the one rest that begins with none.
-/

namespace Shardwire.Text

/-- the characters of the Unicode property White_Space -/
def isBlank (c : Char) : Bool :=
  let n := c.toNat
  (0x9 ≤ n && n ≤ 0xD) || n == 0x20 || n == 0x85 || n == 0xA0 || n == 0x1680 || (0x2000 ≤ n && n ≤ 0x200A) ||
    n == 0x2028 || n == 0x2029 || n == 0x202F || n == 0x205F || n == 0x3000

/-- drop from the end as long as the condition holds -/
def dropEndWhile (p : Char → Bool) (cs : List Char) : List Char :=
  (cs.reverse.dropWhile p).reverse

/-- drop blanks from both ends -/
def trimChars (cs : List Char) : List Char :=
  dropEndWhile isBlank (cs.dropWhile isBlank)

def trim (s : String) : String :=
  String.ofList (trimChars s.toList)

/-- drop `lead` from the front of a text if it stands there -/
def stripLead? : List Char → List Char → Option (List Char)
  | [], cs => some cs
  | _ :: _, [] => none
  | l :: lead, c :: cs => if l = c then stripLead? lead cs else none

/-- drop `lead` as often as it stands in front; each round takes at least one character -/
def dropLeadingWithin : Nat → List Char → List Char → List Char
  | 0, _, cs => cs
  | n + 1, lead, cs =>
    match stripLead? lead cs with
    | some rest => dropLeadingWithin n lead rest
    | none => cs

def dropLeading (lead : String) (s : String) : String :=
  String.ofList (dropLeadingWithin s.toList.length lead.toList s.toList)

/-- drop a character as often as it stands at the end -/
def dropTrailing (c : Char) (s : String) : String :=
  String.ofList (dropEndWhile (· == c) s.toList)

/-! ## Trimming settles -/

theorem head?_dropWhile (p : Char → Bool) (cs : List Char) :
    ∀ c, (cs.dropWhile p).head? = some c → p c = false := by
  induction cs with
  | nil => intro c h; simp at h
  | cons a cs ih =>
    intro c h
    by_cases ha : p a
    · rw [List.dropWhile_cons_of_pos ha] at h; exact ih c h
    · rw [List.dropWhile_cons_of_neg ha] at h
      simp only [List.head?_cons, Option.some.injEq] at h
      subst h; simpa using ha

theorem dropWhile_eq_self (p : Char → Bool) (cs : List Char)
    (h : ∀ c, cs.head? = some c → p c = false) : cs.dropWhile p = cs := by
  cases cs with
  | nil => rfl
  | cons a cs => exact List.dropWhile_cons_of_neg (by simp [h a rfl])

theorem dropEndWhile_eq_self (p : Char → Bool) (cs : List Char)
    (h : ∀ c, cs.getLast? = some c → p c = false) : dropEndWhile p cs = cs := by
  unfold dropEndWhile
  rw [dropWhile_eq_self p cs.reverse (by simpa using h), List.reverse_reverse]

theorem getLast?_dropEndWhile (p : Char → Bool) (cs : List Char) :
    ∀ c, (dropEndWhile p cs).getLast? = some c → p c = false := by
  intro c h
  unfold dropEndWhile at h
  rw [List.getLast?_reverse] at h
  exact head?_dropWhile p _ c h

/-- what stays after dropping from the end is a front part, and what is dropped meets the condition -/
theorem dropEndWhile_append (p : Char → Bool) (cs : List Char) :
    ∃ tail, cs = dropEndWhile p cs ++ tail ∧ ∀ c ∈ tail, p c = true := by
  refine ⟨(cs.reverse.takeWhile p).reverse, ?_, fun c hc => ?_⟩
  · unfold dropEndWhile
    rw [← List.reverse_append, List.takeWhile_append_dropWhile, List.reverse_reverse]
  · exact List.all_eq_true.1 List.all_takeWhile c (List.mem_reverse.1 hc)

theorem head?_trimChars (cs : List Char) : ∀ c, (trimChars cs).head? = some c → isBlank c = false := by
  intro c h
  obtain ⟨tail, ht, -⟩ := dropEndWhile_append isBlank (cs.dropWhile isBlank)
  apply head?_dropWhile isBlank cs c
  unfold trimChars at h
  rw [ht]
  generalize dropEndWhile isBlank (cs.dropWhile isBlank) = front at h
  cases front with
  | nil => simp at h
  | cons a front => simpa using h

theorem getLast?_trimChars (cs : List Char) : ∀ c, (trimChars cs).getLast? = some c → isBlank c = false :=
  getLast?_dropEndWhile isBlank _

/-! ## What trimming leaves -/

/-- `core` with blanks around it, or none -/
def Padded (core cs : List Char) : Prop :=
  ∃ before after, cs = before ++ core ++ after ∧ (∀ c ∈ before, isBlank c = true) ∧ ∀ c ∈ after, isBlank c = true

/-- no blank in front, and none at the end -/
structure Bare (cs : List Char) : Prop where
  front : ∀ c, cs.head? = some c → isBlank c = false
  back : ∀ c, cs.getLast? = some c → isBlank c = false

theorem bare_trimChars (cs : List Char) : Bare (trimChars cs) := ⟨head?_trimChars cs, getLast?_trimChars cs⟩

theorem padded_trimChars (cs : List Char) : Padded (trimChars cs) cs := by
  obtain ⟨after, split, blank⟩ := dropEndWhile_append isBlank (cs.dropWhile isBlank)
  refine ⟨cs.takeWhile isBlank, after, ?_, List.all_eq_true.1 List.all_takeWhile, blank⟩
  rw [List.append_assoc, trimChars, ← split, List.takeWhile_append_dropWhile]

theorem Padded.trimChars_eq {core cs : List Char} (h : Padded core cs) (bare : Bare core) : trimChars cs = core := by
  obtain ⟨before, after, rfl, blank, blank'⟩ := h
  have back : dropEndWhile isBlank (core ++ after) = core := by
    rw [dropEndWhile, List.reverse_append, List.dropWhile_append_of_pos (by simpa using blank')]
    exact dropEndWhile_eq_self isBlank core bare.back
  rw [List.append_assoc, trimChars, List.dropWhile_append_of_pos blank]
  cases core with
  | nil =>
    have none : after.dropWhile isBlank = [] := by
      simpa using @List.dropWhile_append_of_pos _ isBlank after [] blank'
    rw [List.nil_append, none]
    rfl
  | cons c core => rw [dropWhile_eq_self isBlank (c :: core ++ after) bare.front, back]

/-- Trimming finds the one part of a text that has no blank at its ends and nothing but blanks around it. -/
theorem trimChars_eq_iff {core cs : List Char} : trimChars cs = core ↔ Bare core ∧ Padded core cs := by
  constructor
  · rintro rfl
    exact ⟨bare_trimChars cs, padded_trimChars cs⟩
  · exact fun ⟨bare, padded⟩ => padded.trimChars_eq bare

theorem bare_nil : Bare [] := ⟨nofun, nofun⟩

theorem trimChars_eq_nil {cs : List Char} : trimChars cs = [] ↔ ∀ c ∈ cs, isBlank c = true := by
  rw [trimChars_eq_iff]
  constructor
  · rintro ⟨-, before, after, rfl, blank, blank'⟩
    intro c hc
    rcases List.mem_append.1 hc with hc | hc
    · exact blank c (by simpa using hc)
    · exact blank' c hc
  · exact fun blank => ⟨bare_nil, cs, [], by simp, blank, nofun⟩

/-! ## What stays after a text in front is dropped -/

theorem stripLead?_eq_some {lead cs rest : List Char} : stripLead? lead cs = some rest ↔ cs = lead ++ rest := by
  induction lead generalizing cs with
  | nil => simp [stripLead?]
  | cons l lead ih =>
    cases cs with
    | nil => simp [stripLead?]
    | cons c cs =>
      rw [stripLead?, List.cons_append, List.cons.injEq]
      split
      · next same => rw [ih]; simp [same]
      · next other => simp [Ne.symm other]

theorem stripLead?_eq_none {lead cs : List Char} (apart : ¬ lead <+: cs) : stripLead? lead cs = none := by
  cases strip : stripLead? lead cs with
  | none => rfl
  | some rest => exact absurd ⟨rest, (stripLead?_eq_some.1 strip).symm⟩ apart

theorem dropLeadingWithin_eq {lead rest : List Char} (apart : ¬ lead <+: rest) {k n : Nat} (room : k ≤ n) :
    dropLeadingWithin n lead ((List.replicate k lead).flatten ++ rest) = rest := by
  induction k generalizing n with
  | zero =>
    cases n with
    | zero => rfl
    | succ n => simp [dropLeadingWithin, stripLead?_eq_none apart]
  | succ k ih =>
    cases n with
    | zero => cases room
    | succ n =>
      have front : (List.replicate (k + 1) lead).flatten ++ rest =
          lead ++ ((List.replicate k lead).flatten ++ rest) := by simp [List.replicate_succ]
      rw [front, dropLeadingWithin, stripLead?_eq_some.2 rfl]
      exact ih (Nat.le_of_succ_le_succ room)

/-- Every text is some number of leads, and a rest that begins with none. -/
theorem exists_leads {lead : List Char} (filled : lead ≠ []) (cs : List Char) :
    ∃ k rest, cs = (List.replicate k lead).flatten ++ rest ∧ ¬ lead <+: rest := by
  induction h : cs.length using Nat.strongRecOn generalizing cs with
  | ind n ih =>
    by_cases front : lead <+: cs
    · obtain ⟨cs', rfl⟩ := front
      have least := List.length_pos_iff.2 filled
      obtain ⟨k, rest, eq, apart⟩ := ih cs'.length (by rw [List.length_append] at h; omega) cs' rfl
      exact ⟨k + 1, rest, by rw [eq]; simp [List.replicate_succ], apart⟩
    · exact ⟨0, cs, rfl, front⟩

/-- What stays is the rest after all the leads. -/
theorem dropLeading_eq_iff {lead s t : String} (filled : lead.toList ≠ []) :
    dropLeading lead s = t ↔
      ∃ k, s.toList = (List.replicate k lead.toList).flatten ++ t.toList ∧ ¬ lead.toList <+: t.toList := by
  have drops {k : Nat} {rest : List Char} (whole : s.toList = (List.replicate k lead.toList).flatten ++ rest)
      (apart : ¬ lead.toList <+: rest) : dropLeading lead s = String.ofList rest := by
    have least := List.length_pos_iff.2 filled
    have room : k ≤ s.toList.length := by
      rw [whole, List.length_append, List.length_flatten, List.map_replicate, List.sum_replicate_nat]
      exact Nat.le_trans (Nat.le_mul_of_pos_right k least) (Nat.le_add_right _ _)
    rw [dropLeading, whole, dropLeadingWithin_eq apart (whole ▸ room)]
  constructor
  · rintro rfl
    obtain ⟨k, rest, whole, apart⟩ := exists_leads filled s.toList
    rw [drops whole apart, String.toList_ofList]
    exact ⟨k, whole, apart⟩
  · rintro ⟨k, whole, apart⟩
    rw [drops whole apart, String.ofList_toList]

end Shardwire.Text
