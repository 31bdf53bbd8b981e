import Mathlib.Data.List.Basic
import Shardwire.Proofs.Keyed
import Shardwire.Proofs.Limiter.Spacing

/-
One bucket of a limiter.

`only` is what a limiter is to one bucket: the clocks of that bucket, the cleared ones among them. A call on the bucket,
a withdrawal, settling and clearing do to this part what they do to the whole; a call on another bucket does not reach
it, and neither does the withdrawal of a ticket that is at home on another one (`Homed`).
-/

namespace Shardwire.Limiter

variable {τ : Type}

/-- a clock without the calls of a ticket -/
def leaveClock [DecidableEq τ] (ticket : τ) (c : BucketClock τ) : BucketClock τ :=
  { c with waiting := c.waiting.filter fun call => call.ticket ≠ ticket }

/-- the clocks of one bucket -/
def only (l : Limiter τ) (bucket : UInt32) : Limiter τ :=
  { l with
    clocks := l.clocks.filter fun c => c.bucket = bucket
    retired := l.retired.filter fun c => c.bucket = bucket }

/-! ## Calls at home -/

/-- calls wait on the bucket that is home to their ticket, and a cleared clock is kept only while calls wait on it -/
structure Homed (home : τ → UInt32) (l : Limiter τ) : Prop where
  own : ∀ c ∈ l.clocks ++ l.retired, ∀ k ∈ c.waiting, home k.ticket = c.bucket
  kept : ∀ c ∈ l.retired, c.waiting ≠ []

namespace Homed

variable {home : τ → UInt32} {l : Limiter τ}

theorem fresh (home : τ → UInt32) (window : Nat) : Homed home (Limiter.fresh window) := ⟨by simp [Limiter.fresh], nofun⟩

/-- Clocks on which fewer calls wait, if any. -/
theorem fewer (h : Homed home l) (f : BucketClock τ → BucketClock τ) (keeps : ∀ c, (f c).bucket = c.bucket)
    (less : ∀ c, ∀ k ∈ (f c).waiting, k ∈ c.waiting) (window : Nat) :
    Homed home ⟨window, l.clocks.map f, (l.retired.map f).filter fun c => !c.waiting.isEmpty⟩ where
  own := by
    intro c' hc' k hk
    have old : c' ∈ (l.clocks ++ l.retired).map f := by
      rw [List.map_append]
      rcases List.mem_append.1 hc' with hc' | hc'
      · exact List.mem_append_left _ hc'
      · exact List.mem_append_right _ (List.mem_filter.1 hc').1
    obtain ⟨c, hc, rfl⟩ := List.mem_map.1 old
    rw [keeps]
    exact h.own c hc k (less c k hk)
  kept := by
    intro c hc none
    simpa [none] using (List.mem_filter.1 hc).2

theorem request (h : Homed home l) {bucket : UInt32} {ticket : τ} (own : home ticket = bucket) (now : Nat) :
    Homed home (l.request bucket ticket now) := by
  unfold Limiter.request
  split
  · refine ⟨fun c' hc' k hk => ?_, h.kept⟩
    rcases List.mem_append.1 hc' with hc' | hc'
    · obtain ⟨c, hc, rfl⟩ := List.mem_map.1 hc'
      have before := h.own c (List.mem_append_left _ hc)
      by_cases hb : c.bucket = bucket
      · simp only [hb, if_true, List.mem_append, List.mem_singleton] at hk ⊢
        rcases hk with hk | rfl
        · exact hb ▸ before k hk
        · exact own
      · simp only [hb, if_false] at hk ⊢
        exact before k hk
    · exact h.own c' (List.mem_append_right _ hc') k hk
  · refine ⟨fun c hc k hk => ?_, h.kept⟩
    rcases List.mem_append.1 hc with hc | hc
    · rcases List.mem_append.1 hc with hc | hc
      · exact h.own c (List.mem_append_left _ hc) k hk
      · rw [List.mem_singleton.1 hc] at hk ⊢
        rw [List.mem_singleton.1 hk]
        exact own
    · exact h.own c (List.mem_append_right _ hc) k hk

theorem withdraw [DecidableEq τ] (h : Homed home l) (ticket : τ) : Homed home (l.withdraw ticket) :=
  h.fewer (leaveClock ticket) (fun _ => rfl) (fun _ _ hk => (List.mem_filter.1 hk).1) l.window

theorem settle (h : Homed home l) (now : Nat) : Homed home (l.settle now).2 := by
  have eq : (l.settle now).2 = ⟨l.window, l.clocks.map fun c => (settleClock l.window now c).2,
      (l.retired.map fun c => (settleClock l.window now c).2).filter fun c => !c.waiting.isEmpty⟩ := by
    simp [Limiter.settle, Function.comp_def]
  rw [eq]
  refine h.fewer (fun c => (settleClock l.window now c).2) (fun _ => rfl) (fun c k hk => ?_) l.window
  obtain ⟨served, split, -⟩ := grantsDue_split l.window now c.last c.waiting
  rw [split]
  exact List.mem_append_right served hk

theorem clear (h : Homed home l) : Homed home l.clear where
  own := by
    intro c hc
    rcases List.mem_append.1 hc with hc | hc
    · cases hc
    · rcases List.mem_append.1 hc with hc | hc
      · exact h.own c (List.mem_append_right _ hc)
      · exact h.own c (List.mem_append_left _ (List.mem_filter.1 hc).1)
  kept := by
    intro c hc
    rcases List.mem_append.1 hc with hc | hc
    · exact h.kept c hc
    · intro none
      simpa [none] using (List.mem_filter.1 hc).2

/-- A permit goes to a ticket that is at home on its bucket. -/
theorem granted (h : Homed home l) {now : Nat} {g : Grant τ} (hg : g ∈ (l.settle now).1) :
    home g.ticket = g.bucket := by
  have eq : (l.settle now).1 = (l.clocks ++ l.retired).flatMap fun c => (settleClock l.window now c).1 := by
    simp [Limiter.settle, List.flatMap_append, List.flatMap_map]
  rw [eq] at hg
  obtain ⟨c, hc, hg⟩ := List.mem_flatMap.1 hg
  obtain ⟨hb, hg⟩ := settleClock_grants hg
  obtain ⟨served, split, tickets⟩ := grantsDue_split l.window now c.last c.waiting
  have ht : g.ticket ∈ served.map (·.ticket) := tickets ▸ List.mem_map_of_mem hg
  obtain ⟨k, hk, eq⟩ := List.mem_map.1 ht
  rw [← eq, hb]
  exact h.own c hc k (split ▸ List.mem_append_left _ hk)

end Homed

/-! ## What reaches one bucket -/

variable {l : Limiter τ} {bucket : UInt32} {now : Nat}

/-- Grants of other buckets' clocks go to other buckets. -/
theorem flatMap_settleClock_only (window now : Nat) (clocks : List (BucketClock τ)) (bucket : UInt32) :
    ((clocks.filter fun c => c.bucket = bucket).flatMap fun c => (settleClock window now c).1) =
      (clocks.flatMap fun c => (settleClock window now c).1).filter fun g => g.bucket = bucket := by
  induction clocks with
  | nil => rfl
  | cons c clocks ih =>
    have own : ∀ g ∈ (settleClock window now c).1, g.bucket = c.bucket := fun g hg => (settleClock_grants hg).1
    rw [List.flatMap_cons, List.filter_append, ← ih]
    by_cases hb : c.bucket = bucket
    · have all : ((settleClock window now c).1.filter fun g => g.bucket = bucket) = (settleClock window now c).1 :=
        List.filter_eq_self.2 fun g hg => by simpa using (own g hg).trans hb
      simp [hb, all]
    · have none : ((settleClock window now c).1.filter fun g => g.bucket = bucket) = [] :=
        List.filter_eq_nil_iff.2 fun g hg => by simpa [own g hg] using hb
      simp [hb, none]

end Shardwire.Limiter
