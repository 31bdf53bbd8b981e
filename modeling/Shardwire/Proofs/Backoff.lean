import Mathlib.Algebra.Group.Nat.Defs
import Shardwire.ShardProfile

/-
How long the delays of a backoff are.

- `Word.toNat_power`: squaring gives up exactly if the power itself is no word, so a power that stops at the largest
  word is the exact one, or that word if it is less;
- `Fixed.total_delay`: neither the factor nor the product shows where it was cut off, since no ceiling is above the
  longest span;
- `Measures.next?_some`: so a backoff in words gives the delays of one that counts in exact numbers, in whichever unit;
  that of a shard counts in milliseconds (`measures_ofSettings`).

`delays_exact`: whatever is asked of a backoff in words, in any order, the delays since the last reset are the exact
ones, as many as there were attempts, until the limit is reached; they never fall, never exceed the ceiling and stay
there once it is reached.
-/

namespace Shardwire

/-! ## Powers -/

namespace Word

/-- A number that is no less than one that is no word is no word either. -/
theorem word32?_none_of_le {m n : Nat} (h : word32? m = none) (le : m ≤ n) : word32? n = none :=
  word32?_eq_none.2 (Nat.le_trans (word32?_eq_none.1 h) le)

/-- Half of the exponent goes to the square. -/
theorem pow_halves (b e : Nat) : b ^ e = b ^ (e % 2) * (b * b) ^ (e / 2) := by
  calc b ^ e = b ^ (e % 2 + 2 * (e / 2)) := by rw [Nat.mod_add_div]
    _ = b ^ (e % 2) * (b ^ 2) ^ (e / 2) := by rw [Nat.pow_add, Nat.pow_mul]
    _ = b ^ (e % 2) * (b * b) ^ (e / 2) := by rw [Nat.pow_two]

/-- The base goes in once where the exponent is odd. -/
theorem odd_eq (acc b : UInt32) (e : Nat) :
    (if e % 2 = 1 then product32? acc b else some acc) = word32? (acc.toNat * b.toNat ^ (e % 2)) := by
  split
  · next odd => rw [odd, Nat.pow_one, product32?]
  · next even => rw [show e % 2 = 0 by omega, Nat.pow_zero, Nat.mul_one, word32?_toNat]

theorem powerOnto?_eq {acc b : UInt32} (hacc : 0 < acc.toNat) (hb : 0 < b.toNat) (e : Nat) :
    powerOnto? acc b e = word32? (acc.toNat * b.toNat ^ e) := by
  -- along the squarings; the product of what is there and what is left to do stays the same
  induction e using Nat.strongRecOn generalizing acc b with
  | ind e ih =>
    rw [powerOnto?]
    split
    · next zero => rw [zero, Nat.pow_zero, Nat.mul_one, word32?_toNat]
    · next positive =>
      have whole : acc.toNat * b.toNat ^ e = acc.toNat * b.toNat ^ (e % 2) * (b.toNat * b.toNat) ^ (e / 2) := by
        rw [Nat.mul_assoc, ← pow_halves]
      rw [odd_eq, whole]
      cases hfirst : word32? (acc.toNat * b.toNat ^ (e % 2)) with
      | none =>
        have least : 0 < (b.toNat * b.toNat) ^ (e / 2) := Nat.pow_pos (Nat.mul_pos hb hb)
        exact (word32?_none_of_le hfirst (Nat.le_mul_of_pos_right _ least)).symm
      | some acc' =>
        have here : acc'.toNat = acc.toNat * b.toNat ^ (e % 2) := word32?_eq_some.1 hfirst
        have hacc' : 0 < acc'.toNat := here ▸ Nat.mul_pos hacc (Nat.pow_pos hb)
        rw [Option.bind_some, ← here]
        split
        · next one => rw [one, Nat.pow_zero, Nat.mul_one, word32?_toNat]
        · next more =>
          rw [product32?]
          cases hsquare : word32? (b.toNat * b.toNat) with
          | none =>
            have less : b.toNat * b.toNat ≤ (b.toNat * b.toNat) ^ (e / 2) := Nat.le_self_pow (by omega) _
            have total : b.toNat * b.toNat ≤ acc'.toNat * (b.toNat * b.toNat) ^ (e / 2) :=
              Nat.le_trans less (Nat.le_mul_of_pos_left _ hacc')
            exact (word32?_none_of_le hsquare total).symm
          | some b' =>
            have square : b'.toNat = b.toNat * b.toNat := word32?_eq_some.1 hsquare
            have hb' : 0 < b'.toNat := square ▸ Nat.mul_pos hb hb
            rw [Option.bind_some, ih (e / 2) (by omega) hacc' hb', square]

theorem toNat_power {b : UInt32} (hb : 0 < b.toNat) (e : UInt32) :
    (power b e).toNat = min (b.toNat ^ e.toNat) (2 ^ 32 - 1) := by
  have one : (1 : UInt32).toNat = 1 := rfl
  rw [power, powerOnto?_eq (by decide) hb, one, Nat.one_mul]
  cases h : word32? (b.toNat ^ e.toNat) with
  | none =>
    have large : UInt32.size ≤ b.toNat ^ e.toNat := word32?_eq_none.1 h
    show 2 ^ 32 - 1 = min _ _
    simp only [UInt32.size] at large
    omega
  | some a =>
    have exact : a.toNat = b.toNat ^ e.toNat := word32?_eq_some.1 h
    have small := a.toNat_lt
    show a.toNat = min _ _
    omega

end Word

namespace Backoff

theorem factor_eq_min (k : Nat) : factor k = min (2 ^ k) (2 ^ 32 - 1) := by
  unfold factor topFactor
  split
  · next h =>
    have small : 2 ^ k ≤ 2 ^ 31 := Nat.pow_le_pow_right (by decide) (by omega)
    show 2 ^ k = min (2 ^ k) (2 ^ 32 - 1)
    omega
  · next h =>
    have large : 2 ^ 32 ≤ 2 ^ k := Nat.pow_le_pow_right (by decide) (by omega)
    show 2 ^ 32 - 1 = min (2 ^ k) (2 ^ 32 - 1)
    omega

/-- A later delay is no shorter. -/
theorem delay_mono (b : Backoff) {i j : Nat} (h : i ≤ j) : b.delay i ≤ b.delay j := by
  have powers : 2 ^ i ≤ 2 ^ j := Nat.pow_le_pow_right (by decide) h
  have factors : factor i ≤ factor j := by
    rw [factor_eq_min, factor_eq_min]
    omega
  have products : b.base * factor i ≤ b.base * factor j := Nat.mul_le_mul_left b.base factors
  unfold delay
  omega

/-! ## Words and exact numbers -/

namespace Fixed

theorem total_delay (f : Fixed) :
    f.delay.total = min (f.base.total * factor f.attempts.toNat) f.ceiling.total := by
  have power : (Word.power 2 f.attempts).toNat = factor f.attempts.toNat := by
    rw [Word.toNat_power (by decide), factor_eq_min]
    rfl
  have ceiling := f.ceiling.total_le_longest
  rw [delay, Span.total_min, Span.total_times, power]
  omega

/-- `f` holds in words what `b` counts in exact numbers of `unit` nanoseconds -/
structure Measures (unit : Nat) (f : Fixed) (b : Backoff) : Prop where
  base : f.base.total = b.base * unit
  ceiling : f.ceiling.total = b.ceiling * unit
  limit : f.limit.toNat = b.limit
  attempts : f.attempts.toNat = b.attempts

variable {unit : Nat} {f f' : Fixed} {b : Backoff} {d : Span}

theorem Measures.delay (h : Measures unit f b) : f.delay.total = b.delay b.attempts * unit := by
  rw [total_delay, h.base, h.ceiling, h.attempts, Backoff.delay, Nat.mul_right_comm, Nat.mul_min_mul_right]

theorem Measures.next?_eq_none (h : Measures unit f b) : f.next? = none ↔ b.next? = none := by
  rw [Backoff.next?_eq_none, ← h.limit, ← h.attempts, ← UInt32.le_iff_toNat_le]
  unfold next?
  split <;> simp_all

/-- The delay is that of the exact backoff, and there is always room to count it. -/
theorem Measures.next?_some (h : Measures unit f b) (hf : f.next? = some (d, f')) :
    ∃ k b', b.next? = some (k, b') ∧ d.total = k * unit ∧ Measures unit f' b' := by
  unfold next? at hf
  split at hf
  · cases hf
  · next below =>
    cases hf
    have fewer : f.attempts.toNat < f.limit.toNat := by
      rw [← UInt32.lt_iff_toNat_lt]
      exact UInt32.not_le.1 below
    have room : (f.attempts + 1).toNat = f.attempts.toNat + 1 := by
      have limit := f.limit.toNat_lt
      rw [UInt32.toNat_add]
      exact Nat.mod_eq_of_lt (Nat.lt_of_le_of_lt fewer limit)
    have next : b.next? = some (b.delay b.attempts, { b with attempts := b.attempts + 1 }) :=
      if_pos (by rw [← h.limit, ← h.attempts]; exact fewer)
    exact ⟨_, _, next, h.delay, { h with attempts := room.trans (congrArg (· + 1) h.attempts) }⟩

theorem Measures.reset (h : Measures unit f b) : Measures unit f.reset b.reset := { h with attempts := rfl }

/-- The backoff of a shard is one in words. -/
theorem measures_ofSettings (s : Settings) :
    Measures 1000000 (fresh (.ofMillis s.reconnect.base) (.ofMillis s.reconnect.max) s.reconnect.attempts)
      (ShardProfile.ofSettings s).backoff :=
  ⟨Span.total_ofMillis _, Span.total_ofMillis _, rfl, rfl⟩

end Fixed

end Backoff

/-! ## Delays since the last reset -/

/-- a backoff, with the delays it has given since the last reset -/
structure Ladder where
  backoff : Backoff.Fixed
  delays : List Span

namespace Ladder

open Backoff (Fixed)

def opening (base ceiling : Span) (limit : UInt32) : Ladder := ⟨Fixed.fresh base ceiling limit, []⟩

/-- something is asked, and the answer written down -/
def step (l : Ladder) (call : Backoff.Call) : Ladder where
  backoff := (l.backoff.answer call).2
  delays :=
    match (l.backoff.answer call).1 with
    | none => []
    | some none => l.delays
    | some (some delay) => l.delays ++ [delay]

def run (l : Ladder) (calls : List Backoff.Call) : Ladder := calls.foldl step l

/-- the exact backoff with as many delays given -/
def exact (base ceiling : Span) (limit : UInt32) (l : Ladder) : Backoff :=
  ⟨base.total, ceiling.total, limit.toNat, l.delays.length⟩

/-- a ladder whose delays are the exact ones -/
structure Climbed (base ceiling : Span) (limit : UInt32) (l : Ladder) : Prop where
  measures : l.backoff.Measures 1 (l.exact base ceiling limit)
  within : l.delays.length ≤ limit.toNat
  delays : ∀ k d, l.delays[k]? = some d → d.total = (l.exact base ceiling limit).delay k

variable {base ceiling : Span} {limit : UInt32} {l : Ladder}

theorem climbed_opening (base ceiling : Span) (limit : UInt32) :
    Climbed base ceiling limit (opening base ceiling limit) where
  measures := ⟨(Nat.mul_one _).symm, (Nat.mul_one _).symm, rfl, rfl⟩
  within := Nat.zero_le _
  delays := by simp [opening]

/-- Once there is no delay left, asking for one changes nothing. -/
theorem answer_next_none (h : l.backoff.next? = none) : l.backoff.answer .next = (some none, l.backoff) := by
  simp [Fixed.answer, h]

/-- The exact backoff says which delay the next one is, and that there was one left. -/
theorem Climbed.climbs (h : Climbed base ceiling limit l) {d : Span} {f : Fixed}
    (given : l.backoff.next? = some (d, f)) : Climbed base ceiling limit ⟨f, l.delays ++ [d]⟩ := by
  obtain ⟨k, b, next, total, measures⟩ := h.measures.next?_some given
  have fewer : l.delays.length < limit.toNat := by
    apply Nat.lt_of_not_le
    intro reached
    cases next.symm.trans ((Backoff.next?_eq_none _).2 reached)
  have exact_next : (l.exact base ceiling limit).next? =
      some ((l.exact base ceiling limit).delay l.delays.length,
        { l.exact base ceiling limit with attempts := l.delays.length + 1 }) := if_pos fewer
  cases next.symm.trans exact_next
  refine ⟨?measures, ?within, ?delays⟩
  case measures =>
    rw [exact, List.length_append]
    exact measures
  case within =>
    rw [List.length_append]
    exact fewer
  case delays =>
    intro k e he
    rw [List.getElem?_append] at he
    split at he
    · exact h.delays k e he
    · next past =>
      obtain ⟨last, rfl⟩ := List.getElem?_eq_some_iff.1 he
      have here : k = l.delays.length := by
        rw [List.length_singleton] at last
        omega
      subst here
      rw [List.getElem_singleton]
      exact total.trans (Nat.mul_one _)

theorem step_climbed (h : Climbed base ceiling limit l) (call : Backoff.Call) :
    Climbed base ceiling limit (l.step call) := by
  cases call with
  | reset => exact ⟨h.measures.reset, Nat.zero_le _, by simp [step, Fixed.answer]⟩
  | next =>
    cases given : l.backoff.next? with
    | none =>
      have same : l.step .next = l := by simp [step, answer_next_none given]
      rw [same]
      exact h
    | some r =>
      obtain ⟨d, f⟩ := r
      have after : l.step .next = ⟨f, l.delays ++ [d]⟩ := by simp [step, Fixed.answer, given]
      rw [after]
      exact h.climbs given

theorem run_climbed (base ceiling : Span) (limit : UInt32) (calls : List Backoff.Call) :
    Climbed base ceiling limit ((opening base ceiling limit).run calls) :=
  List.foldlRecOn calls step (motive := Climbed base ceiling limit) (climbed_opening base ceiling limit)
    fun _ h call _ => step_climbed h call

/-- Later delays are no shorter, and all that reach the ceiling are as long as it. -/
theorem Climbed.rises (h : Climbed base ceiling limit l) {i j : Nat} {a b : Span} (le : i ≤ j)
    (ha : l.delays[i]? = some a) (hb : l.delays[j]? = some b) :
    a ≤ b ∧ b ≤ ceiling ∧ (a = ceiling → b = ceiling) := by
  have up : a ≤ b := by
    rw [Span.le_iff_total, h.delays i a ha, h.delays j b hb]
    exact Backoff.delay_mono _ le
  have below : b ≤ ceiling := by
    rw [Span.le_iff_total, h.delays j b hb]
    exact Nat.min_le_right _ _
  refine ⟨up, below, ?_⟩
  rintro rfl
  exact Span.total_inj.1 (Nat.le_antisymm (Span.le_iff_total.1 below) (Span.le_iff_total.1 up))

/-- Whatever was asked before, there are as many attempts as delays since the last reset, and never more than the limit;
there is no further delay exactly when the limit is reached, and asking for one then changes nothing. Delay `k` is the
base times `2 ^ k`, with the factor no more than the largest word, or the ceiling if that is less. So the delays never
fall, never exceed the ceiling, and stay there once it is reached. -/
theorem delays_exact (base ceiling : Span) (limit : UInt32) (calls : List Backoff.Call) :
    let l := (opening base ceiling limit).run calls
    (l.backoff.attempts.toNat = l.delays.length ∧ l.delays.length ≤ limit.toNat) ∧
    (l.backoff.next? = none ↔ l.delays.length = limit.toNat) ∧
    (l.backoff.next? = none → l.backoff.answer .next = (some none, l.backoff)) ∧
    (∀ k d, l.delays[k]? = some d → d.total = min (base.total * min (2 ^ k) (2 ^ 32 - 1)) ceiling.total) ∧
    ∀ (i j : Nat) (a b : Span), i ≤ j → l.delays[i]? = some a → l.delays[j]? = some b →
      a ≤ b ∧ b ≤ ceiling ∧ (a = ceiling → b = ceiling) := by
  intro l
  have h : Climbed base ceiling limit l := run_climbed base ceiling limit calls
  have within := h.within
  refine ⟨⟨h.measures.attempts, within⟩, ?_, answer_next_none, fun k d hd => ?_, fun i j a b le => h.rises le⟩
  · rw [h.measures.next?_eq_none, Backoff.next?_eq_none]
    show limit.toNat ≤ l.delays.length ↔ _
    omega
  · rw [h.delays k d hd, Backoff.delay, Backoff.factor_eq_min]
    rfl

end Ladder

end Shardwire
