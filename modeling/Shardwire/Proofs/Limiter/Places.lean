import Mathlib.Data.List.Perm.Basic
import Shardwire.Proofs.Limiter.Spacing

/-
Where a ticket queues.

`places` lists the buckets on whose clocks calls of a ticket wait, once per call. A call makes one place more
(`places_request_self`), a withdrawal takes all of them away, and settling turns each place into a permit or leaves it
(`places_settle`). Clearing a limiter leaves every place, as calls that wait keep the clock they wait on. What others do
changes nothing.
-/

namespace Shardwire

variable {τ : Type}

/-- the bucket, once per call of a ticket -/
def BucketClock.places [DecidableEq τ] (c : BucketClock τ) (ticket : τ) : List UInt32 :=
  List.replicate (c.waiting.countP fun k => k.ticket = ticket) c.bucket

/-- the buckets of a ticket's permits -/
def Grant.places [DecidableEq τ] (grants : List (Grant τ)) (ticket : τ) : List UInt32 :=
  (grants.filter fun g => g.ticket = ticket).map (·.bucket)

namespace Limiter

/-- every bucket has one clock at most, but for those that were cleared -/
def Distinct (l : Limiter τ) : Prop := l.clocks.Pairwise fun c d => c.bucket ≠ d.bucket

/-! ## Clocks -/

section Distinct

variable {l : Limiter τ}

theorem distinct_request (h : l.Distinct) (bucket : UInt32) (ticket : τ) (now : Nat) :
    (l.request bucket ticket now).Distinct := by
  unfold Distinct request
  split
  · refine List.pairwise_map.2 (h.imp fun {c d} hcd => ?_)
    have same (k : BucketClock τ) :
        (if k.bucket = bucket then { k with waiting := k.waiting ++ [⟨ticket, now⟩] } else k).bucket = k.bucket := by
      split <;> rfl
    rw [same, same]
    exact hcd
  · next hnew =>
    refine List.pairwise_append.2 ⟨h, List.pairwise_singleton _ _, fun c hc d hd => ?_⟩
    rw [List.mem_singleton.1 hd]
    exact fun hb => hnew (List.any_eq_true.2 ⟨c, hc, beq_iff_eq.2 hb⟩)

theorem distinct_withdraw [DecidableEq τ] (h : l.Distinct) (ticket : τ) : (l.withdraw ticket).Distinct :=
  List.pairwise_map.2 h

theorem distinct_settle (h : l.Distinct) (now : Nat) : (l.settle now).2.Distinct := by
  simp only [Distinct, settle, List.map_map]
  exact List.pairwise_map.2 h

theorem distinct_clear (l : Limiter τ) : l.clear.Distinct := .nil

end Distinct

/-! ## Places -/

variable [DecidableEq τ]

/-- the buckets on which a ticket queues, once per call -/
def places (l : Limiter τ) (ticket : τ) : List UInt32 := (l.clocks ++ l.retired).flatMap (·.places ticket)

variable {l : Limiter τ} {ticket : τ}

theorem places_eq (l : Limiter τ) (ticket : τ) :
    l.places ticket = l.clocks.flatMap (·.places ticket) ++ l.retired.flatMap (·.places ticket) :=
  List.flatMap_append

/-- What changes no clock's places changes none. -/
theorem flatMap_places_map {f : BucketClock τ → BucketClock τ} {clocks : List (BucketClock τ)}
    (h : ∀ c ∈ clocks, (f c).places ticket = c.places ticket) :
    (clocks.map f).flatMap (·.places ticket) = clocks.flatMap (·.places ticket) := by
  rw [List.flatMap_map]
  exact List.flatMap_congr h

/-- A clock that nobody waits on holds no place. -/
theorem flatMap_places_filter (clocks : List (BucketClock τ)) (ticket : τ) :
    (clocks.filter fun c => !c.waiting.isEmpty).flatMap (·.places ticket) = clocks.flatMap (·.places ticket) := by
  induction clocks with
  | nil => rfl
  | cons c clocks ih =>
    cases hw : c.waiting with
    | nil =>
      have none : c.places ticket = [] := by simp [BucketClock.places, hw]
      simp [hw, ih, none]
    | cons k rest => simp [hw, ih]

/-! ### Calls -/

/-- A call of someone else. -/
theorem places_request_other {other : τ} (ho : other ≠ ticket) (l : Limiter τ) (bucket : UInt32) (now : Nat) :
    (l.request bucket other now).places ticket = l.places ticket := by
  simp only [places_eq]
  unfold request
  split
  · congr 1
    refine flatMap_places_map fun c _ => ?_
    split <;> simp [BucketClock.places, List.countP_append, ho]
  · have new : BucketClock.places ⟨bucket, none, [⟨other, now⟩]⟩ ticket = [] := by simp [BucketClock.places, ho]
    simp [new]

/-- The one clock of a bucket takes the call. -/
theorem places_join {clocks : List (BucketClock τ)} (distinct : clocks.Pairwise fun c d => c.bucket ≠ d.bucket)
    {bucket : UInt32} (known : ∃ c ∈ clocks, c.bucket = bucket) (none : clocks.flatMap (·.places ticket) = [])
    (now : Nat) :
    (clocks.map fun c =>
        if c.bucket = bucket then { c with waiting := c.waiting ++ [⟨ticket, now⟩] } else c).flatMap
      (·.places ticket) = [bucket] := by
  induction distinct with
  | nil =>
    obtain ⟨c, hc, -⟩ := known
    cases hc
  | @cons c clocks others _ ih =>
    obtain ⟨here, later⟩ := List.append_eq_nil_iff.1 ((List.flatMap_cons ..).symm.trans none)
    rw [List.map_cons, List.flatMap_cons]
    by_cases hb : c.bucket = bucket
    · have rest : (clocks.map fun c =>
          if c.bucket = bucket then { c with waiting := c.waiting ++ [⟨ticket, now⟩] } else c).flatMap
            (·.places ticket) = [] := by
        refine (flatMap_places_map fun d hd => ?_).trans later
        rw [if_neg fun hd' => others d hd (hb.trans hd'.symm)]
      have own : c.waiting.countP (fun k => k.ticket = ticket) = 0 := (List.replicate_eq_nil_iff _).1 here
      rw [rest, if_pos hb]
      simp [BucketClock.places, List.countP_append, own, hb]
    · obtain ⟨d, hd, hdb⟩ := known
      have behind : ∃ d ∈ clocks, d.bucket = bucket := by
        rcases List.mem_cons.1 hd with rfl | hd
        · exact absurd hdb hb
        · exact ⟨d, hd, hdb⟩
      rw [ih behind later, if_neg hb, here]
      rfl

/-- A first call. -/
theorem places_request_self (h : l.Distinct) (away : l.places ticket = []) (bucket : UInt32) (now : Nat) :
    (l.request bucket ticket now).places ticket = [bucket] := by
  rw [places_eq] at away
  obtain ⟨live, old⟩ := List.append_eq_nil_iff.1 away
  rw [places_eq]
  unfold request
  split
  · next hb =>
    obtain ⟨c, hc, hcb⟩ := List.any_eq_true.1 hb
    rw [old, List.append_nil]
    exact places_join h ⟨c, hc, beq_iff_eq.1 hcb⟩ live now
  · have new : BucketClock.places ⟨bucket, none, [⟨ticket, now⟩]⟩ ticket = [bucket] := by simp [BucketClock.places]
    simp [live, old, new]

/-! ### Withdrawals -/

theorem places_withdraw_other {other : τ} (ho : other ≠ ticket) (l : Limiter τ) :
    (l.withdraw other).places ticket = l.places ticket := by
  have left (c : BucketClock τ) :
      BucketClock.places { c with waiting := c.waiting.filter fun k => k.ticket ≠ other } ticket =
        c.places ticket := by
    simp only [BucketClock.places, List.countP_filter]
    congr 1
    refine List.countP_congr fun k _ => ?_
    by_cases hk : k.ticket = ticket
    · simp [hk, ho.symm]
    · simp [hk]
  simp only [places_eq, withdraw, flatMap_places_filter]
  rw [flatMap_places_map fun c _ => left c, flatMap_places_map fun c _ => left c]

theorem places_withdraw_self (l : Limiter τ) (ticket : τ) : (l.withdraw ticket).places ticket = [] := by
  have gone (clocks : List (BucketClock τ)) :
      (clocks.map fun c => { c with waiting := c.waiting.filter fun k => k.ticket ≠ ticket }).flatMap
        (·.places ticket) = [] := by
    simp [List.flatMap_eq_nil_iff, BucketClock.places]
  simp only [places_eq, withdraw, flatMap_places_filter]
  rw [gone, gone]
  rfl

/-! ### Permits -/

theorem places_settleClock (window now : Nat) (c : BucketClock τ) (ticket : τ) :
    c.places ticket =
      Grant.places (settleClock window now c).1 ticket ++ (settleClock window now c).2.places ticket := by
  obtain ⟨served, split, tickets⟩ := grantsDue_split window now c.last c.waiting
  have granted : Grant.places (settleClock window now c).1 ticket =
      List.replicate (served.countP fun k => k.ticket = ticket) c.bucket := by
    have count : (served.map (·.ticket)).countP (· = ticket) =
        ((grantsDue window now c.last c.waiting).1.map (·.1)).countP (· = ticket) := by rw [tickets]
    rw [List.countP_map, List.countP_map] at count
    simp only [Function.comp_def] at count
    rw [count, Grant.places, settleClock, List.filter_map, List.map_map, List.countP_eq_length_filter]
    exact List.map_const' ..
  have left : (settleClock window now c).2.places ticket =
      List.replicate ((grantsDue window now c.last c.waiting).2.2.countP fun k => k.ticket = ticket) c.bucket := rfl
  rw [granted, left, ← List.replicate_add, ← List.countP_append, ← split]
  rfl

/-- Each place becomes a permit, or is kept. -/
theorem places_settle (l : Limiter τ) (now : Nat) (ticket : τ) :
    (l.places ticket).Perm (Grant.places (l.settle now).1 ticket ++ (l.settle now).2.places ticket) := by
  have grants : Grant.places (l.settle now).1 ticket =
      (l.clocks ++ l.retired).flatMap fun c => Grant.places (settleClock l.window now c).1 ticket := by
    simp only [Grant.places, settle, List.flatMap_map, ← List.flatMap_append, List.filter_flatMap, List.map_flatMap]
  have left : (l.settle now).2.places ticket =
      (l.clocks ++ l.retired).flatMap fun c => (settleClock l.window now c).2.places ticket := by
    simp only [places_eq, settle, flatMap_places_filter, List.map_map, List.flatMap_map, List.flatMap_append]
    rfl
  have apart : l.places ticket = (l.clocks ++ l.retired).flatMap fun c =>
      Grant.places (settleClock l.window now c).1 ticket ++ (settleClock l.window now c).2.places ticket :=
    List.flatMap_congr fun c _ => places_settleClock l.window now c ticket
  rw [grants, left, apart]
  exact (List.flatMap_append_perm ..).symm

/-! ### Clearing -/

theorem places_clear (l : Limiter τ) (ticket : τ) : (l.clear.places ticket).Perm (l.places ticket) := by
  simp only [places_eq, clear, List.flatMap_nil, List.nil_append, List.flatMap_append, flatMap_places_filter]
  exact List.perm_append_comm

end Limiter

end Shardwire
