import Shardwire.Span

/-
Readings of a clock as they are kept in words: whole seconds, which may be negative, and nanoseconds below a second.

A span can be added to another span and to a reading. The seconds are added first and the second that the nanoseconds
may make up comes on top; where a sum on the way cannot be kept, there is none.

`Span.plus?_eq_some`, `Span.plus?_eq_none` and their likes for readings: a sum is the exact one, and there is none
exactly if the exact one cannot be kept. Elsewhere times are numbers of whole milliseconds; `Shows` and `Lasts` tie the
two together, and `Reaches` and `Overflows` say of such numbers whether the program can add them.
-/

namespace Shardwire

namespace Word

/-- a number as a signed word of 64 bits -/
def int64? (n : Int) : Option Int64 :=
  if Int64.minValue.toInt ≤ n ∧ n ≤ Int64.maxValue.toInt then some (Int64.ofInt n) else none

theorem int64?_eq_some {n : Int} {a : Int64} : int64? n = some a ↔ a.toInt = n := by
  constructor
  · intro h
    unfold int64? at h
    split at h
    · next fits =>
      cases h
      rw [Int64.toInt_minValue, Int64.toInt_maxValue] at fits
      exact Int64.toInt_ofInt_of_le fits.1 (by omega)
    · cases h
  · rintro rfl
    rw [int64?, if_pos ⟨a.minValue_le_toInt, a.toInt_le⟩, Int64.ofInt_toInt]

theorem int64?_eq_none {n : Int} : int64? n = none ↔ n < Int64.minValue.toInt ∨ Int64.maxValue.toInt < n := by
  rw [int64?, ite_eq_right_iff]
  simp only [reduceCtorEq, imp_false]
  omega

end Word

/-! ## Spans -/

namespace Span

variable {a b c : Span}

def ofSeconds (n : UInt64) : Span := ⟨n, 0, by decide⟩

/-- the nanoseconds of two spans that do not make up whole seconds of their own -/
def jointNanos (a b : UInt32) : UInt64 := a.toUInt64 + b.toUInt64

/-- both one after the other, if that can be kept -/
def plus? (a b : Span) : Option Span :=
  let nanos := jointNanos a.nanos b.nanos
  (Word.sum64? a.seconds b.seconds).bind fun seconds =>
    (Word.sum64? seconds (nanos / 1000000000)).map fun seconds => ⟨seconds, rest nanos, rest_lt nanos⟩

theorem total_ofSeconds (n : UInt64) : (ofSeconds n).total = n.toNat * 1000000000 := by
  rw [total, ofSeconds]
  exact Nat.add_zero _

theorem toNat_jointNanos (a b : UInt32) : (jointNanos a b).toNat = a.toNat + b.toNat := by
  have left := a.toNat_lt
  have right := b.toNat_lt
  rw [jointNanos, UInt64.toNat_add, UInt32.toNat_toUInt64, UInt32.toNat_toUInt64]
  exact Nat.mod_eq_of_lt (by omega)

theorem total_of_plus? (h : a.plus? b = some c) : c.total = a.total + b.total := by
  obtain ⟨whole, hwhole, h⟩ := Option.bind_eq_some_iff.1 h
  obtain ⟨seconds, hseconds, rfl⟩ := Option.map_eq_some_iff.1 h
  have whole_eq : whole.toNat = a.seconds.toNat + b.seconds.toNat := Word.word64?_eq_some.1 hwhole
  have seconds_eq : seconds.toNat = whole.toNat + (a.nanos.toNat + b.nanos.toNat) / 1000000000 := by
    rw [Word.word64?_eq_some.1 hseconds, UInt64.toNat_div, toNat_jointNanos]
    rfl
  show seconds.toNat * 1000000000 + (rest _).toNat = _
  rw [toNat_rest, toNat_jointNanos, seconds_eq, whole_eq, total, total]
  omega

theorem plus?_eq_none : a.plus? b = none ↔ longest.total < a.total + b.total := by
  constructor
  · intro h
    have beyond : 2 ^ 64 ≤ a.seconds.toNat + b.seconds.toNat + (a.nanos.toNat + b.nanos.toNat) / 1000000000 := by
      cases hwhole : Word.sum64? a.seconds b.seconds with
      | none => exact Nat.le_trans (Word.word64?_eq_none.1 hwhole) (Nat.le_add_right _ _)
      | some whole =>
        have whole_eq : whole.toNat = a.seconds.toNat + b.seconds.toNat := Word.word64?_eq_some.1 hwhole
        rw [plus?, hwhole, Option.bind_some, Option.map_eq_none_iff] at h
        have large := Word.word64?_eq_none.1 h
        rw [UInt64.toNat_div, toNat_jointNanos, whole_eq] at large
        exact large
    rw [total_longest, total, total]
    simp only [UInt64.size]
    omega
  · intro beyond
    cases sum : a.plus? b with
    | none => rfl
    | some c =>
      have within := c.total_le_longest
      rw [total_of_plus? sum] at within
      omega

theorem plus?_eq_some : a.plus? b = some c ↔ c.total = a.total + b.total := by
  constructor
  · exact total_of_plus?
  · intro h
    have within := c.total_le_longest
    cases sum : a.plus? b with
    | none =>
      have beyond := plus?_eq_none.1 sum
      omega
    | some c' =>
      have same : c'.total = c.total := (total_of_plus? sum).trans h.symm
      exact congrArg some (total_inj.1 same)

/-- the span is of so many milliseconds -/
def Lasts (d : Span) (ms : Nat) : Prop := d.total = ms * 1000000

theorem lasts_ofMillis (ms : UInt64) : (ofMillis ms).Lasts ms.toNat := total_ofMillis ms

theorem lasts_ofSeconds (n : UInt64) : (ofSeconds n).Lasts (n.toNat * 1000) := by
  rw [Lasts, total_ofSeconds]
  omega

/-- Milliseconds that are a word are a span. -/
theorem exists_lasts {ms : Nat} (word : ms < UInt64.size) : ∃ d : Span, d.Lasts ms := by
  have whole : (UInt64.ofNat ms).toNat = ms := UInt64.toNat_ofNat_of_lt' word
  exact ⟨_, whole ▸ lasts_ofMillis (UInt64.ofNat ms)⟩

/-- spans of so many milliseconds can be added, and the sum is of as many as both together -/
def Joins (x y : Nat) : Prop := ∃ a b c : Span, a.Lasts x ∧ b.Lasts y ∧ a.plus? b = some c ∧ c.Lasts (x + y)

/-- Words of milliseconds can: a span has room for a thousand times as many. -/
theorem joins_of_lt {x y : Nat} (hx : x < UInt64.size) (hy : y < UInt64.size) : Joins x y := by
  obtain ⟨a, ha⟩ := exists_lasts hx
  obtain ⟨b, hb⟩ := exists_lasts hy
  have left : a.total = x * 1000000 := ha
  have right : b.total = y * 1000000 := hb
  cases sum : a.plus? b with
  | none =>
    have beyond := plus?_eq_none.1 sum
    rw [total_longest] at beyond
    simp only [UInt64.size] at hx hy beyond
    omega
  | some c =>
    refine ⟨a, b, c, ha, hb, sum, ?_⟩
    rw [Lasts, total_of_plus? sum, left, right, Nat.add_mul]

end Span

/-! ## Readings -/

structure Instant where
  seconds : Int64
  nanos : UInt32
  nanos_lt : nanos < 1000000000

namespace Instant

variable {t u : Instant} {d : Span} {now ms : Nat}

/-- in nanoseconds -/
def total (t : Instant) : Int := t.seconds.toInt * 1000000000 + t.nanos.toNat

/-- the reading after a span, if it can be kept -/
def plus? (t : Instant) (d : Span) : Option Instant :=
  let nanos := Span.jointNanos t.nanos d.nanos
  (Word.int64? (t.seconds.toInt + d.seconds.toNat)).bind fun seconds =>
    (Word.int64? (seconds.toInt + (nanos / 1000000000).toNat)).map fun seconds =>
      ⟨seconds, Span.rest nanos, Span.rest_lt nanos⟩

/-- no clock shows so many milliseconds, or more -/
def limit : Nat := Nat.pow 2 63 * 1000

theorem limit_eq : limit = 9223372036854775808000 := rfl

theorem total_lt (t : Instant) : t.total < limit * 1000000 := by
  have seconds := t.seconds.toInt_lt
  have nanos := UInt32.lt_iff_toNat_lt.1 t.nanos_lt
  simp only [UInt32.reduceToNat] at nanos
  rw [limit_eq]
  unfold total
  omega

theorem total_of_plus? (h : t.plus? d = some u) : u.total = t.total + d.total := by
  obtain ⟨whole, hwhole, h⟩ := Option.bind_eq_some_iff.1 h
  obtain ⟨seconds, hseconds, rfl⟩ := Option.map_eq_some_iff.1 h
  have whole_eq : whole.toInt = t.seconds.toInt + d.seconds.toNat := Word.int64?_eq_some.1 hwhole
  have seconds_eq : seconds.toInt = whole.toInt + ((t.nanos.toNat + d.nanos.toNat) / 1000000000 : Nat) := by
    rw [Word.int64?_eq_some.1 hseconds, UInt64.toNat_div, Span.toNat_jointNanos]
    rfl
  show seconds.toInt * 1000000000 + ((Span.rest _).toNat : Int) = _
  rw [Span.toNat_rest, Span.toNat_jointNanos, seconds_eq, whole_eq, total, Span.total]
  omega

/-- A sum is lost above, never below: a span is not negative. -/
theorem plus?_eq_none : t.plus? d = none ↔ limit * 1000000 ≤ t.total + d.total := by
  have least := t.seconds.minValue_le_toInt
  have greatest : Int64.maxValue.toInt = 2 ^ 63 - 1 := Int64.toInt_maxValue
  constructor
  · intro h
    have beyond :
        2 ^ 63 ≤ t.seconds.toInt + d.seconds.toNat + ((t.nanos.toNat + d.nanos.toNat) / 1000000000 : Nat) := by
      cases hwhole : Word.int64? (t.seconds.toInt + d.seconds.toNat) with
      | none =>
        have large := Word.int64?_eq_none.1 hwhole
        omega
      | some whole =>
        have whole_eq : whole.toInt = t.seconds.toInt + d.seconds.toNat := Word.int64?_eq_some.1 hwhole
        rw [plus?, hwhole, Option.bind_some, Option.map_eq_none_iff] at h
        have large := Word.int64?_eq_none.1 h
        rw [UInt64.toNat_div, Span.toNat_jointNanos, whole_eq] at large
        simp only [UInt64.reduceToNat] at large
        omega
    rw [limit_eq, total, Span.total]
    omega
  · intro beyond
    cases sum : t.plus? d with
    | none => rfl
    | some u =>
      have within := u.total_lt
      rw [total_of_plus? sum] at within
      omega

/-! ## Readings in milliseconds -/

/-- the clock shows so many whole milliseconds -/
def Shows (t : Instant) (ms : Nat) : Prop := (ms : Int) * 1000000 ≤ t.total ∧ t.total < (ms + 1 : Int) * 1000000

theorem Shows.lt_limit (h : t.Shows ms) : ms < limit := by
  have within := t.total_lt
  have shown := h.1
  omega

/-- Below that limit it does, at some time. -/
theorem exists_shows (h : ms < limit) : ∃ t : Instant, t.Shows ms := by
  have within : ms < 2 ^ 63 * 1000 := h
  have seconds : (Int64.ofInt (ms / 1000 : Nat)).toInt = (ms / 1000 : Nat) :=
    Int64.toInt_ofInt_of_le (by omega) (by omega)
  have part : ms % 1000 * 1000000 < 1000000000 := by omega
  have nanos : (UInt32.ofNat (ms % 1000 * 1000000)).toNat = ms % 1000 * 1000000 :=
    UInt32.toNat_ofNat_of_lt' (by simp only [UInt32.size]; omega)
  refine ⟨⟨Int64.ofInt (ms / 1000 : Nat), UInt32.ofNat (ms % 1000 * 1000000), ?_⟩, ?_⟩
  · rw [UInt32.lt_iff_toNat_lt, nanos]
    exact part
  · rw [Shows, total, seconds, nanos]
    omega

/-- so many milliseconds can be added whenever the clock shows `now`, and it will show their sum -/
def Reaches (now ms : Nat) : Prop :=
  ∃ d : Span, d.Lasts ms ∧ ∀ t : Instant, t.Shows now → ∃ u, t.plus? d = some u ∧ u.Shows (now + ms)

/-- so many milliseconds are a span, and cannot be added whenever the clock shows `now` -/
def Overflows (now ms : Nat) : Prop := ∃ d : Span, d.Lasts ms ∧ ∀ t : Instant, t.Shows now → t.plus? d = none

theorem reaches_of_lt (lasts : d.Lasts ms) (within : now + ms < limit) : Reaches now ms := by
  refine ⟨d, lasts, fun t shows => ?_⟩
  have bound : now + ms < 2 ^ 63 * 1000 := within
  have length : d.total = ms * 1000000 := lasts
  obtain ⟨low, high⟩ := shows
  cases sum : t.plus? d with
  | none =>
    have beyond := plus?_eq_none.1 sum
    omega
  | some u =>
    have exact_sum := total_of_plus? sum
    exact ⟨u, rfl, by rw [Shows]; omega⟩

theorem overflows_of_le (lasts : d.Lasts ms) (beyond : limit ≤ now + ms) : Overflows now ms := by
  refine ⟨d, lasts, fun t shows => plus?_eq_none.2 ?_⟩
  have bound : 2 ^ 63 * 1000 ≤ now + ms := beyond
  have length : d.total = ms * 1000000 := lasts
  obtain ⟨low, -⟩ := shows
  omega

/-- A clock that shows the time at all can be added to exactly if it can show the sum. -/
theorem reaches_iff (lasts : d.Lasts ms) (shown : now < limit) : Reaches now ms ↔ now + ms < limit := by
  constructor
  · rintro ⟨_, -, adds⟩
    obtain ⟨t, shows⟩ := exists_shows shown
    obtain ⟨u, sum, reached⟩ := adds t shows
    exact reached.lt_limit
  · exact reaches_of_lt lasts

end Instant

end Shardwire
