import Mathlib.Data.List.Nodup
import Shardwire.Proofs.Limiter.Parts

/-
The timetable of a bucket.

At a turnstile calls arrive, give up and are granted, on any number of buckets. Time passes by the millisecond, and not
before everything due has been granted; nobody clears the limiter. `timetable` says when the calls of one bucket are
granted if none of them gives up: each when it arrives or a window after the grant before, whichever is later, and the
first one when it arrives.
- `OnTime`, `Punctual`: what was granted on a bucket, followed by what its clock has yet to grant, is the timetable of
  the calls that did not give up; `step_punctual` and `run_punctual` keep it;
- `Punctual.settled`: once whatever is due is granted, exactly those are granted whose time has come;
- `Thinned`: a run is compared with the run that calls on other buckets, and calls that give up, never reach;
  `Thinned.step` and `Thinned.run` keep the bucket's permits the same, as `timetable_filter` does for a timetable;
- `grants_on_timetable`: all of it, for every run from an unused limiter.
-/

namespace Shardwire

namespace Limiter

variable {τ : Type}

/-! ## Timetables -/

/-- tickets with the times they are granted at, after a last grant -/
def timetable (window : Nat) : Option Nat → List (Call τ) → List (τ × Nat)
  | _, [] => []
  | none, c :: rest => (c.ticket, c.since) :: timetable window (some c.since) rest
  | some last, c :: rest =>
    (c.ticket, max c.since (last + window)) :: timetable window (some (max c.since (last + window))) rest

/-- the last grant after some calls -/
def lastGrant (window : Nat) (last : Option Nat) (calls : List (Call τ)) : Option Nat :=
  calls.foldl (fun last c => some (dueTime window last c.since)) last

theorem timetable_cons (window : Nat) (last : Option Nat) (c : Call τ) (rest : List (Call τ)) :
    timetable window last (c :: rest) =
      (c.ticket, dueTime window last c.since) :: timetable window (some (dueTime window last c.since)) rest := by
  cases last <;> rfl

theorem timetable_append (window : Nat) (last : Option Nat) (xs ys : List (Call τ)) :
    timetable window last (xs ++ ys) = timetable window last xs ++ timetable window (lastGrant window last xs) ys := by
  induction xs generalizing last with
  | nil => cases last <;> rfl
  | cons c xs ih =>
    rw [List.cons_append, timetable_cons, timetable_cons, ih]
    rfl

theorem timetable_tickets (window : Nat) (last : Option Nat) (calls : List (Call τ)) :
    (timetable window last calls).map (·.1) = calls.map (·.ticket) := by
  induction calls generalizing last with
  | nil => cases last <;> rfl
  | cons c calls ih => rw [timetable_cons, List.map_cons, List.map_cons, ih]

/-- Nobody is granted before the first one. -/
theorem timetable_ge {window time : Nat} {last : Option Nat} {calls : List (Call τ)}
    (first : ∀ c ∈ calls.head?, time ≤ dueTime window last c.since) : ∀ g ∈ timetable window last calls, time ≤ g.2 := by
  induction calls generalizing last with
  | nil => intro g hg; cases last <;> cases hg
  | cons c calls ih =>
    have here : time ≤ dueTime window last c.since := first c rfl
    intro g hg
    rw [timetable_cons] at hg
    rcases List.mem_cons.1 hg with rfl | hg
    · exact here
    · apply ih _ g hg
      intro d _
      have next := last_le_dueTime window (dueTime window last c.since) d.since
      omega

/-- Calls whose time has not come may be left out: nobody who has arrived is granted sooner without them. -/
theorem timetable_filter {window now : Nat} {last : Option Nat} {calls : List (Call τ)} {p : Call τ → Bool}
    (arrived : ∀ c ∈ calls, c.since ≤ now)
    (stays : ∀ c ∈ calls, ∀ g ∈ timetable window last calls, g.2 ≤ now → g.1 = c.ticket → p c = true) :
    ((timetable window last (calls.filter p)).filter fun g => g.2 ≤ now) =
      (timetable window last calls).filter fun g => g.2 ≤ now := by
  induction calls generalizing last with
  | nil => rfl
  | cons c rest ih =>
    by_cases due : dueTime window last c.since ≤ now
    case pos =>
      have first : p c = true := by
        apply stays c List.mem_cons_self (c.ticket, dueTime window last c.since) _ due rfl
        rw [timetable_cons]
        exact List.mem_cons_self
      have others := @ih (some (dueTime window last c.since))
        (fun d hd => arrived d (List.mem_cons_of_mem c hd))
        (fun d hd g hg => stays d (List.mem_cons_of_mem c hd) g (by
          rw [timetable_cons]
          exact List.mem_cons_of_mem _ hg))
      rw [List.filter_cons_of_pos first, timetable_cons, timetable_cons, List.filter_cons, List.filter_cons, others]
    case neg =>
      -- the first call has arrived, so it waits for the last grant: then nobody is granted yet
      have beyond (calls : List (Call τ)) :
          ((timetable window last calls).filter fun g => g.2 ≤ now) = [] := by
        rw [List.filter_eq_nil_iff]
        intro g hg
        have late : now + 1 ≤ g.2 := by
          refine timetable_ge (fun d _ => ?_) g hg
          cases last with
          | none => exact absurd (arrived c List.mem_cons_self) due
          | some l =>
            have here := arrived c List.mem_cons_self
            have next := last_le_dueTime window l d.since
            simp only [dueTime] at due
            omega
        simp only [decide_eq_true_eq]
        omega
      rw [beyond, beyond]

/-- What a clock grants is the first part of the timetable. -/
theorem grantsDue_timetable (window now : Nat) (last : Option Nat) (calls : List (Call τ)) :
    ∃ served, calls = served ++ (grantsDue window now last calls).2.2 ∧
      (grantsDue window now last calls).1 = timetable window last served ∧
      (grantsDue window now last calls).2.1 = lastGrant window last served := by
  induction calls generalizing last with
  | nil => exact ⟨[], rfl, by cases last <;> rfl, rfl⟩
  | cons c rest ih =>
    by_cases due : dueTime window last c.since ≤ now
    · obtain ⟨served, split, grants, after⟩ := ih (some (dueTime window last c.since))
      refine ⟨c :: served, ?_, ?_, ?_⟩
      · simpa [grantsDue, due] using split
      · simpa [grantsDue, due, timetable_cons] using grants
      · simpa [grantsDue, due, lastGrant] using after
    · refine ⟨[], ?_, ?_, ?_⟩
      · simp [grantsDue, due]
      · cases last <;> simp [grantsDue, due, timetable]
      · simp [grantsDue, due, lastGrant]

/-! ## The clock of a bucket -/

/-- the clock of a bucket; a bucket without one has granted nothing -/
def clockOf (l : Limiter τ) (bucket : UInt32) : BucketClock τ :=
  (l.clocks.find? fun c => c.bucket = bucket).getD ⟨bucket, none, []⟩

variable {l : Limiter τ} {bucket : UInt32}

/-- A bucket has one clock. -/
theorem filter_bucket {clocks : List (BucketClock τ)} {c : BucketClock τ}
    (unique : clocks.Pairwise fun c d => c.bucket ≠ d.bucket) (hc : c ∈ clocks) :
    (clocks.filter fun d => d.bucket = c.bucket) = [c] := by
  induction unique with
  | nil => cases hc
  | @cons first rest apart _ ih =>
    by_cases same : first.bucket = c.bucket
    · rcases List.mem_cons.1 hc with rfl | hc
      · have others : (rest.filter fun d => d.bucket = c.bucket) = [] := by
          rw [List.filter_eq_nil_iff]
          intro d hd
          simpa using (apart d hd).symm
        rw [List.filter_cons_of_pos (by simp), others]
      · exact absurd same (apart c hc)
    · rcases List.mem_cons.1 hc with rfl | hc
      · exact absurd rfl same
      · rw [List.filter_cons_of_neg (by simpa using same), ih hc]

theorem clockOf_absent (absent : ∀ c ∈ l.clocks, c.bucket ≠ bucket) : l.clockOf bucket = ⟨bucket, none, []⟩ := by
  have missing : (l.clocks.find? fun c => c.bucket = bucket) = none := by
    rw [List.find?_eq_none]
    intro c hc
    simpa using absent c hc
  rw [clockOf, missing, Option.getD_none]

/-- A bucket has a clock, or it is as if it had an empty one. -/
theorem clockOf_cases (l : Limiter τ) (bucket : UInt32) :
    (l.clockOf bucket ∈ l.clocks ∧ (l.clockOf bucket).bucket = bucket) ∨
      (∀ c ∈ l.clocks, c.bucket ≠ bucket) ∧ l.clockOf bucket = ⟨bucket, none, []⟩ := by
  cases found : l.clocks.find? fun c => c.bucket = bucket with
  | some c =>
    left
    rw [clockOf, found, Option.getD_some]
    exact ⟨List.mem_of_find?_eq_some found, by simpa using List.find?_some found⟩
  | none =>
    right
    have absent : ∀ c ∈ l.clocks, c.bucket ≠ bucket := by
      intro c hc
      simpa using List.find?_eq_none.1 found c hc
    exact ⟨absent, clockOf_absent absent⟩

/-- What is done to every clock is done to the clock of a bucket. -/
theorem clockOf_map {window : Nat} {retired : List (BucketClock τ)} (f : BucketClock τ → BucketClock τ)
    (keeps : ∀ c, (f c).bucket = c.bucket) (blank : f ⟨bucket, none, []⟩ = ⟨bucket, none, []⟩) :
    clockOf ⟨window, l.clocks.map f, retired⟩ bucket = f (l.clockOf bucket) := by
  simp only [clockOf, List.find?_map, Function.comp_def, keeps]
  cases l.clocks.find? fun c => c.bucket = bucket with
  | none => exact blank.symm
  | some c => rfl

theorem clockOf_request_self (l : Limiter τ) (bucket : UInt32) (ticket : τ) (now : Nat) :
    (l.request bucket ticket now).clockOf bucket =
      { l.clockOf bucket with waiting := (l.clockOf bucket).waiting ++ [⟨ticket, now⟩] } := by
  unfold request
  split
  case isTrue known =>
    obtain ⟨c, hc, hb⟩ := List.any_eq_true.1 known
    have found : (l.clocks.find? fun c => c.bucket = bucket).isSome := by
      rw [List.find?_isSome]
      exact ⟨c, hc, by simpa using hb⟩
    obtain ⟨d, hd⟩ := Option.isSome_iff_exists.1 found
    have own : d.bucket = bucket := by simpa using List.find?_some hd
    have keeps : ∀ c : BucketClock τ, (if c.bucket = bucket then
        { c with waiting := c.waiting ++ [⟨ticket, now⟩] } else c).bucket = c.bucket := by
      intro c
      split <;> rfl
    simp only [clockOf, List.find?_map, Function.comp_def, keeps, hd, Option.map_some, Option.getD_some, own, if_true]
  case isFalse unknown =>
    have absent : ∀ c ∈ l.clocks, c.bucket ≠ bucket := fun c hc hb =>
      unknown (List.any_eq_true.2 ⟨c, hc, beq_iff_eq.2 hb⟩)
    have missing : (l.clocks.find? fun c => c.bucket = bucket) = none := by
      rw [List.find?_eq_none]
      intro c hc
      simpa using absent c hc
    rw [clockOf_absent absent]
    simp [clockOf, List.find?_append, missing]

theorem clockOf_request_other {other : UInt32} (ho : other ≠ bucket) (l : Limiter τ) (ticket : τ) (now : Nat) :
    (l.request other ticket now).clockOf bucket = l.clockOf bucket := by
  unfold request
  split
  · rw [clockOf_map]
    · obtain ⟨-, own⟩ | ⟨-, blank⟩ := l.clockOf_cases bucket
      · rw [if_neg fun hb => ho (hb.symm.trans own)]
      · rw [blank, if_neg (Ne.symm ho)]
    · intro c
      split <;> rfl
    · rw [if_neg (Ne.symm ho)]
  · simp only [clockOf, List.find?_append]
    cases l.clocks.find? fun c => c.bucket = bucket with
    | some c => rfl
    | none => simp [ho]

theorem clockOf_withdraw [DecidableEq τ] (l : Limiter τ) (ticket : τ) (bucket : UInt32) :
    (l.withdraw ticket).clockOf bucket = leaveClock ticket (l.clockOf bucket) :=
  clockOf_map (leaveClock ticket) (fun _ => rfl) rfl

theorem clockOf_settle (l : Limiter τ) (now : Nat) (bucket : UInt32) :
    (l.settle now).2.clockOf bucket = (settleClock l.window now (l.clockOf bucket)).2 := by
  simp only [settle, List.map_map]
  exact clockOf_map (fun c => (settleClock l.window now c).2) (fun _ => rfl) rfl

/-- The permits of a bucket are those of its clock. -/
theorem settle_grants {now : Nat} {grants : List (Grant τ)} (h : Kept now l grants) (bucket : UInt32) :
    ((l.settle now).1.filter fun g => g.bucket = bucket) = (settleClock l.window now (l.clockOf bucket)).1 := by
  rw [settle_eq h.retired, ← flatMap_settleClock_only]
  obtain ⟨known, own⟩ | ⟨absent, blank⟩ := l.clockOf_cases bucket
  · have single := filter_bucket h.unique known
    rw [own] at single
    rw [single, List.flatMap_singleton]
  · have empty : (l.clocks.filter fun c => c.bucket = bucket) = [] := by
      rw [List.filter_eq_nil_iff]
      intro c hc
      simpa using absent c hc
    rw [empty, blank]
    rfl

/-- Whatever is not granted is due later. -/
theorem settle_nextDue {now : Nat} (retired : l.retired = []) : ∀ due ∈ (l.settle now).2.nextDue?, now < due := by
  intro due hd
  have mem := (List.min?_eq_some_iff.1 hd).1
  obtain ⟨c', hc', hdue⟩ := List.mem_filterMap.1 mem
  rw [settle_eq retired] at hc' hdue
  simp only [retired, List.append_nil, List.mem_map] at hc'
  obtain ⟨c, -, rfl⟩ := hc'
  exact settleClock_due l.window now c due hdue

/-- a bucket on its timetable: what was granted, and what its clock still has to grant, is the timetable of its calls -/
def OnTime (window : Nat) (calls : List (Call τ)) (grants : List (τ × Nat)) (clock : BucketClock τ) : Prop :=
  ∃ served, calls = served ++ clock.waiting ∧ grants = timetable window none served ∧
    clock.last = lastGrant window none served

namespace OnTime

variable {window : Nat} {calls : List (Call τ)} {grants : List (τ × Nat)} {clock : BucketClock τ}

/-- A call arrives. -/
theorem join (h : OnTime window calls grants clock) (call : Call τ) :
    OnTime window (calls ++ [call]) grants { clock with waiting := clock.waiting ++ [call] } := by
  obtain ⟨served, split, granted, last⟩ := h
  refine ⟨served, ?_, granted, last⟩
  rw [split, List.append_assoc]

/-- A call that was not granted gives up. -/
theorem leave [DecidableEq τ] (h : OnTime window calls grants clock) {ticket : τ}
    (waits : ticket ∉ grants.map (·.1)) :
    OnTime window (calls.filter fun c => c.ticket ≠ ticket) grants (leaveClock ticket clock) := by
  obtain ⟨served, split, granted, last⟩ := h
  refine ⟨served, ?_, granted, last⟩
  have stay : (served.filter fun c => c.ticket ≠ ticket) = served := by
    rw [List.filter_eq_self]
    intro c hc
    rw [granted, timetable_tickets] at waits
    simp only [ne_eq, decide_not, Bool.not_eq_true', decide_eq_false_iff_not]
    rintro rfl
    exact waits (List.mem_map_of_mem hc)
  rw [split, List.filter_append, stay]
  rfl

/-- Whatever is due is granted. -/
theorem settle (h : OnTime window calls grants clock) (now : Nat) :
    OnTime window calls (grants ++ (settleClock window now clock).1.map fun g => (g.ticket, g.time))
      (settleClock window now clock).2 := by
  obtain ⟨served, split, granted, last⟩ := h
  obtain ⟨more, rest, permits, after⟩ := grantsDue_timetable window now clock.last clock.waiting
  have times : ((settleClock window now clock).1.map fun g => (g.ticket, g.time)) =
      (grantsDue window now clock.last clock.waiting).1 := by
    simp [settleClock, Function.comp_def]
  refine ⟨served ++ more, ?_, ?_, ?_⟩
  · calc calls = served ++ clock.waiting := split
      _ = served ++ (more ++ (grantsDue window now clock.last clock.waiting).2.2) := by rw [← rest]
      _ = served ++ more ++ (settleClock window now clock).2.waiting := (List.append_assoc ..).symm
  · rw [times, permits, granted, last, timetable_append]
  · calc (settleClock window now clock).2.last = lastGrant window clock.last more := after
      _ = lastGrant window none (served ++ more) := by rw [last, lastGrant, lastGrant, lastGrant, List.foldl_append]

/-- The rest of the timetable is no earlier than the first call that waits. -/
theorem rest (h : OnTime window calls grants clock) {time : Nat} (ahead : ∀ due ∈ clockDue? window clock, time ≤ due) :
    ∃ later, timetable window none calls = grants ++ later ∧ ∀ g ∈ later, time ≤ g.2 := by
  obtain ⟨served, split, granted, last⟩ := h
  refine ⟨timetable window clock.last clock.waiting, ?_, ?_⟩
  · rw [split, timetable_append, ← last, ← granted]
  · apply timetable_ge
    intro c hc
    apply ahead
    rw [clockDue?, Option.mem_def.1 hc]
    rfl

end OnTime

end Limiter

/-! ## Runs -/

open Limiter

/-- a limiter in use -/
structure Turnstile (τ : Type) where
  /-- the clock, in milliseconds -/
  now : Nat
  limiter : Limiter τ
  /-- calls that arrived, with their buckets -/
  calls : List (UInt32 × Call τ)
  /-- permits that were granted, each with the clock's time at that moment -/
  grants : List (Nat × Grant τ)
  /-- tickets whose calls gave up -/
  cancelled : List τ

/-- what happens at a turnstile -/
inductive Turnstile.Move (τ : Type)
  | acquire (bucket : UInt32) (ticket : τ)
  /-- the call of a ticket gives up, if it waits -/
  | cancel (ticket : τ)
  /-- whatever is due is granted -/
  | settle
  /-- a millisecond passes -/
  | tick
  deriving DecidableEq, Repr

namespace Turnstile

variable {τ : Type}

def Move.ticket? : Move τ → Option τ
  | .acquire _ ticket => some ticket
  | _ => none

def opening (window : Nat) : Turnstile τ := ⟨0, Limiter.fresh window, [], [], []⟩

/-- A ticket that is used once was not used before. -/
theorem fresh_of_distinct {t : Turnstile τ} {move : Move τ} {moves : List (Move τ)}
    (distinct : (t.calls.map (·.2.ticket) ++ (move :: moves).filterMap Move.ticket?).Nodup) :
    ∀ ticket ∈ move.ticket?, ticket ∉ t.calls.map (·.2.ticket) := by
  intro ticket ht called
  rw [List.filterMap_cons, Option.mem_def.1 ht] at distinct
  exact (List.nodup_append.1 distinct).2.2 ticket called ticket List.mem_cons_self rfl

variable [DecidableEq τ]

/-- whether the call of a ticket arrived and was not granted -/
def awaits (t : Turnstile τ) (ticket : τ) : Bool :=
  ticket ∈ t.calls.map (·.2.ticket) && ticket ∉ t.grants.map (·.2.ticket)

/-- grants whatever is due -/
def settle (t : Turnstile τ) : Turnstile τ :=
  { t with
    limiter := (t.limiter.settle t.now).2
    grants := t.grants ++ (t.limiter.settle t.now).1.map fun g => (t.now, g) }

def step (t : Turnstile τ) : Move τ → Turnstile τ
  | .acquire bucket ticket =>
    { t with
      limiter := t.limiter.request bucket ticket t.now
      calls := t.calls ++ [(bucket, ⟨ticket, t.now⟩)] }
  | .cancel ticket =>
    if t.awaits ticket then
      { t with limiter := t.limiter.withdraw ticket, cancelled := ticket :: t.cancelled }
    else t
  | .settle => t.settle
  | .tick => { t.settle with now := t.now + 1 }

def run (t : Turnstile τ) (moves : List (Move τ)) : Turnstile τ := moves.foldl step t

/-- the calls on a bucket that did not give up, in order of arrival -/
def kept (t : Turnstile τ) (bucket : UInt32) : List (Call τ) :=
  (t.calls.filter fun c => c.1 = bucket && c.2.ticket ∉ t.cancelled).map (·.2)

/-- tickets that were granted on a bucket, with the clock's times -/
def granted (t : Turnstile τ) (bucket : UInt32) : List (τ × Nat) :=
  (t.grants.filter fun g => g.2.bucket = bucket).map fun g => (g.2.ticket, g.1)

/-! ## On time -/

/-- a turnstile that is on time on every bucket -/
structure Punctual (window : Nat) (t : Turnstile τ) : Prop where
  measured : t.limiter.window = window
  kept : t.limiter.Kept t.now (t.grants.map (·.2))
  /-- a permit bears the time at which it was granted -/
  clocked : ∀ g ∈ t.grants, g.2.time = g.1 ∧ g.1 ≤ t.now
  arrived : ∀ c ∈ t.calls, c.2.since ≤ t.now
  /-- who gave up had called -/
  known : ∀ ticket ∈ t.cancelled, ticket ∈ t.calls.map (·.2.ticket)
  onTime : ∀ bucket, OnTime window (t.kept bucket) (t.granted bucket) (t.limiter.clockOf bucket)

theorem punctual_opening (window : Nat) : Punctual window (opening window : Turnstile τ) where
  measured := rfl
  kept := kept_fresh 0 window
  clocked := nofun
  arrived := nofun
  known := nofun
  onTime := fun _ => ⟨[], rfl, rfl, rfl⟩

namespace Punctual

variable {window : Nat} {t : Turnstile τ}

theorem acquire (h : Punctual window t) (bucket : UInt32) {ticket : τ} (fresh : ticket ∉ t.calls.map (·.2.ticket)) :
    Punctual window (t.step (.acquire bucket ticket)) where
  measured := (request_window ..).trans h.measured
  kept := h.kept.request bucket ticket
  clocked := h.clocked
  arrived := by
    intro c hc
    rcases List.mem_append.1 hc with hc | hc
    · exact h.arrived c hc
    · rw [List.mem_singleton.1 hc]
      exact Nat.le_refl t.now
  known := by
    intro x hx
    rw [step, List.map_append]
    exact List.mem_append_left _ (h.known x hx)
  onTime := by
    intro b
    have stays : ticket ∉ t.cancelled := fun gone => fresh (h.known ticket gone)
    have called (b : UInt32) : (t.step (.acquire bucket ticket)).kept b =
        t.kept b ++ ([(bucket, ⟨ticket, t.now⟩)].filter fun c => c.1 = b && c.2.ticket ∉ t.cancelled).map (·.2) := by
      simp only [Turnstile.kept, step, List.filter_append, List.map_append]
      rfl
    by_cases hb : bucket = b
    · subst hb
      have joined : (t.step (.acquire bucket ticket)).kept bucket = t.kept bucket ++ [⟨ticket, t.now⟩] := by
        rw [called, List.filter_cons_of_pos (by simp [stays])]
        rfl
      rw [joined]
      simp only [step, clockOf_request_self]
      exact (h.onTime bucket).join ⟨ticket, t.now⟩
    · have same : (t.step (.acquire bucket ticket)).kept b = t.kept b := by
        rw [called, List.filter_cons_of_neg (by simp [hb])]
        exact List.append_nil _
      rw [same]
      simp only [step, clockOf_request_other hb]
      exact h.onTime b

theorem cancel (h : Punctual window t) (ticket : τ) : Punctual window (t.step (.cancel ticket)) := by
  by_cases waits : t.awaits ticket
  case neg => simpa [step, waits] using h
  case pos =>
    have next : t.step (.cancel ticket) =
        { t with limiter := t.limiter.withdraw ticket, cancelled := ticket :: t.cancelled } := if_pos waits
    obtain ⟨called, unserved⟩ : ticket ∈ t.calls.map (·.2.ticket) ∧ ticket ∉ t.grants.map (·.2.ticket) := by
      simpa only [awaits, Bool.and_eq_true, decide_eq_true_eq] using waits
    rw [next]
    refine ⟨h.measured, h.kept.withdraw ticket, h.clocked, h.arrived, ?known, ?onTime⟩
    case known =>
      intro x hx
      rcases List.mem_cons.1 hx with rfl | hx
      · exact called
      · exact h.known x hx
    case onTime =>
      intro b
      have left : Turnstile.kept { t with limiter := t.limiter.withdraw ticket, cancelled := ticket :: t.cancelled } b =
          (t.kept b).filter fun c => c.ticket ≠ ticket := by
        simp only [Turnstile.kept, List.filter_map, List.filter_filter]
        congr 1
        refine List.filter_congr fun c _ => ?_
        by_cases same : c.2.ticket = ticket <;> simp [same]
      have here : ticket ∉ (t.granted b).map (·.1) := by
        intro served
        apply unserved
        simp only [granted, List.map_map, List.mem_map, List.mem_filter] at served ⊢
        obtain ⟨g, ⟨hg, -⟩, rfl⟩ := served
        exact ⟨g, hg, rfl⟩
      rw [left]
      simp only [clockOf_withdraw]
      exact (h.onTime b).leave here

theorem settle (h : Punctual window t) : Punctual window t.settle where
  measured := h.measured
  kept := by
    have permits : t.settle.grants.map (·.2) = t.grants.map (·.2) ++ (t.limiter.settle t.now).1 := by
      simp [Turnstile.settle, Function.comp_def]
    rw [permits]
    exact h.kept.settle
  clocked := by
    intro g hg
    rcases List.mem_append.1 hg with hg | hg
    · exact h.clocked g hg
    · obtain ⟨permit, hp, rfl⟩ := List.mem_map.1 hg
      exact ⟨h.kept.settle_now hp, Nat.le_refl t.now⟩
  arrived := h.arrived
  known := h.known
  onTime := by
    intro b
    have more : t.settle.granted b =
        t.granted b ++ (settleClock window t.now (t.limiter.clockOf b)).1.map fun g => (g.ticket, g.time) := by
      rw [← h.measured, ← settle_grants h.kept b]
      simp only [granted, Turnstile.settle, List.filter_append, List.map_append, List.filter_map, List.map_map]
      congr 1
      refine List.map_congr_left fun g hg => ?_
      have now := h.kept.settle_now (List.mem_filter.1 hg).1
      simp [now]
    rw [more]
    simp only [Turnstile.settle, clockOf_settle, h.measured]
    exact (h.onTime b).settle t.now

theorem tick (h : Punctual window t) : Punctual window (t.step .tick) where
  measured := h.measured
  kept := h.settle.kept.later (Nat.le_succ t.now) (settle_nextDue h.kept.retired)
  clocked := by
    intro g hg
    obtain ⟨time, past⟩ := h.settle.clocked g hg
    exact ⟨time, Nat.le_succ_of_le past⟩
  arrived := fun c hc => Nat.le_succ_of_le (h.arrived c hc)
  known := h.known
  onTime := h.settle.onTime

end Punctual

/-- Whatever happens, a turnstile stays on time, if no ticket calls twice. -/
theorem step_punctual {window : Nat} {t : Turnstile τ} {move : Move τ}
    (fresh : ∀ ticket ∈ move.ticket?, ticket ∉ t.calls.map (·.2.ticket)) (h : Punctual window t) :
    Punctual window (t.step move) := by
  cases move with
  | acquire bucket ticket => exact h.acquire bucket (fresh ticket rfl)
  | cancel ticket => exact h.cancel ticket
  | settle => exact h.settle
  | tick => exact h.tick

/-- the tickets that called, after a move -/
theorem step_tickets (t : Turnstile τ) (move : Move τ) :
    (t.step move).calls.map (·.2.ticket) = t.calls.map (·.2.ticket) ++ move.ticket?.toList := by
  cases move with
  | acquire bucket ticket => simp [step, Move.ticket?]
  | cancel ticket =>
    simp only [step]
    split <;> simp [Move.ticket?]
  | settle => simp [step, settle, Move.ticket?]
  | tick => simp [step, settle, Move.ticket?]

theorem distinct_step {t : Turnstile τ} {move : Move τ} {moves : List (Move τ)} :
    (t.calls.map (·.2.ticket) ++ (move :: moves).filterMap Move.ticket?).Nodup ↔
    ((t.step move).calls.map (·.2.ticket) ++ moves.filterMap Move.ticket?).Nodup := by
  rw [step_tickets, List.append_assoc]
  cases ht : move.ticket? <;> simp [ht]

theorem run_punctual {window : Nat} {t : Turnstile τ} {moves : List (Move τ)}
    (distinct : (t.calls.map (·.2.ticket) ++ moves.filterMap Move.ticket?).Nodup) (h : Punctual window t) :
    Punctual window (t.run moves) := by
  induction moves generalizing t with
  | nil => exact h
  | cons move moves ih =>
    apply ih
    · exact distinct_step.1 distinct
    · exact step_punctual (fresh_of_distinct distinct) h

/-! ## What is granted by now -/

/-- On a settled turnstile exactly those are granted whose time has come. -/
theorem Punctual.settled {window : Nat} {t : Turnstile τ} (h : Punctual window t) (bucket : UInt32) :
    t.settle.granted bucket = (timetable window none (t.kept bucket)).filter fun g => g.2 ≤ t.now := by
  have ahead : ∀ due ∈ clockDue? window (t.settle.limiter.clockOf bucket), t.now < due := by
    intro due hd
    simp only [Turnstile.settle, clockOf_settle, h.measured] at hd
    exact settleClock_due window t.now _ due hd
  obtain ⟨later, eq, beyond⟩ := (h.settle.onTime bucket).rest ahead
  have past : ∀ g ∈ t.settle.granted bucket, g.2 ≤ t.now := by
    intro g hg
    obtain ⟨permit, hp, rfl⟩ := List.mem_map.1 hg
    exact (h.settle.clocked permit (List.mem_filter.1 hp).1).2
  have all : ((t.settle.granted bucket).filter fun g => g.2 ≤ t.now) = t.settle.granted bucket := by
    rw [List.filter_eq_self]
    intro g hg
    exact decide_eq_true (past g hg)
  have none : (later.filter fun g => g.2 ≤ t.now) = [] := by
    rw [List.filter_eq_nil_iff]
    intro g hg
    have late := beyond g hg
    simp only [decide_eq_true_eq]
    omega
  calc t.settle.granted bucket
      = (t.settle.granted bucket ++ later).filter fun g => g.2 ≤ t.now := by
        rw [List.filter_append, all, none, List.append_nil]
    _ = (timetable window Option.none (t.kept bucket)).filter fun g => g.2 ≤ t.now := by rw [← eq]; rfl

/-! ## Who leaves no trace -/

/-- what is left of a run for one bucket, without the calls of some tickets -/
def Move.stays (bucket : UInt32) (without : List τ) : Move τ → Bool
  | .acquire b ticket => b = bucket && ticket ∉ without
  | .cancel _ => false
  | .settle | .tick => true

/-- a turnstile before some tickets give up -/
structure Before (cancelled : List τ) (t : Turnstile τ) : Prop where
  gone : ∀ ticket ∈ t.cancelled, ticket ∈ cancelled
  served : ∀ g ∈ t.grants, g.2.ticket ∉ cancelled

/-- Who was granted did not give up. -/
theorem Punctual.before {window : Nat} {t : Turnstile τ} (h : Punctual window t) : Before t.cancelled t where
  gone := fun _ hx => hx
  served := by
    intro g hg gone
    obtain ⟨served, split, granted, -⟩ := h.onTime g.2.bucket
    have mem : g.2.ticket ∈ (t.granted g.2.bucket).map (·.1) := by
      simp only [Turnstile.granted, List.map_map, List.mem_map, List.mem_filter]
      exact ⟨g, ⟨hg, decide_eq_true rfl⟩, rfl⟩
    rw [granted, timetable_tickets] at mem
    obtain ⟨c, hc, same⟩ := List.mem_map.1 mem
    have stayed : c ∈ t.kept g.2.bucket := by
      rw [split]
      exact List.mem_append_left _ hc
    obtain ⟨call, hcall, rfl⟩ := List.mem_map.1 stayed
    have kept := (List.mem_filter.1 hcall).2
    simp only [Bool.and_eq_true, decide_eq_true_eq] at kept
    exact kept.2 (same ▸ gone)

theorem Before.of_step {cancelled : List τ} {t : Turnstile τ} {move : Move τ} (h : Before cancelled (t.step move)) :
    Before cancelled t := by
  cases move with
  | acquire bucket ticket => exact ⟨h.gone, h.served⟩
  | cancel ticket =>
    by_cases waits : t.awaits ticket
    · rw [step, if_pos waits] at h
      exact ⟨fun x hx => h.gone x (List.mem_cons_of_mem ticket hx), h.served⟩
    · rwa [step, if_neg waits] at h
  | settle => exact ⟨h.gone, fun g hg => h.served g (List.mem_append_left _ hg)⟩
  | tick => exact ⟨h.gone, fun g hg => h.served g (List.mem_append_left _ hg)⟩

theorem Before.of_run {cancelled : List τ} {t : Turnstile τ} {moves : List (Move τ)}
    (h : Before cancelled (t.run moves)) : Before cancelled t := by
  induction moves generalizing t with
  | nil => exact h
  | cons move moves ih => exact (ih h).of_step

/-- a turnstile, and one that is the same to a bucket although some calls never reached it -/
structure Thinned (bucket : UInt32) (cancelled : List τ) (t u : Turnstile τ) : Prop where
  now : u.now = t.now
  calls : u.calls = t.calls.filter fun c => c.1 = bucket && c.2.ticket ∉ cancelled
  none : u.cancelled = []
  granted : u.granted bucket = t.granted bucket

namespace Thinned

variable {bucket : UInt32} {cancelled : List τ} {window : Nat} {t u : Turnstile τ}

/-- The calls that stay are those that will not give up. -/
theorem kept (h : Thinned bucket cancelled t u) (before : Before cancelled t) :
    u.kept bucket = (t.kept bucket).filter fun c => c.ticket ∉ cancelled := by
  simp only [Turnstile.kept, h.calls, h.none, List.filter_map, List.filter_filter]
  congr 1
  refine List.filter_congr fun c _ => ?_
  by_cases gone : c.2.ticket ∈ cancelled
  · simp [gone]
  · have stays : c.2.ticket ∉ t.cancelled := fun hc => gone (before.gone _ hc)
    simp [gone, stays]

/-- Both grant the same. -/
theorem settle (h : Thinned bucket cancelled t u) (ht : Punctual window t) (hu : Punctual window u)
    (before : Before cancelled t.settle) : Thinned bucket cancelled t.settle u.settle where
  now := h.now
  calls := h.calls
  none := h.none
  granted := by
    have settled : Before cancelled (t.step .settle) := before
    have earlier : Before cancelled t := settled.of_step
    rw [hu.settled, ht.settled, h.kept earlier, h.now]
    apply timetable_filter
    · intro c hc
      obtain ⟨call, hcall, rfl⟩ := List.mem_map.1 hc
      exact ht.arrived call (List.mem_filter.1 hcall).1
    · intro c _ g hg due same
      have served : g ∈ t.settle.granted bucket := by
        rw [ht.settled]
        exact List.mem_filter.2 ⟨hg, decide_eq_true due⟩
      obtain ⟨permit, hp, rfl⟩ := List.mem_map.1 served
      have stayed := before.served permit (List.mem_filter.1 hp).1
      exact decide_eq_true (same ▸ stayed)

theorem step (h : Thinned bucket cancelled t u) (ht : Punctual window t) (hu : Punctual window u) {move : Move τ}
    (before : Before cancelled (t.step move)) :
    Thinned bucket cancelled (t.step move) (if move.stays bucket cancelled then u.step move else u) := by
  cases move with
  | acquire b ticket =>
    by_cases stays : Move.stays bucket cancelled (.acquire b ticket)
    · rw [if_pos stays]
      refine ⟨h.now, ?_, h.none, h.granted⟩
      simp only [Turnstile.step, List.filter_append, h.calls, h.now]
      rw [List.filter_cons_of_pos (by simpa [Move.stays] using stays), List.filter_nil]
    · rw [if_neg stays]
      refine ⟨h.now, ?_, h.none, h.granted⟩
      simp only [Turnstile.step, List.filter_append, h.calls]
      rw [List.filter_cons_of_neg (by simpa [Move.stays] using stays), List.filter_nil, List.append_nil]
  | cancel ticket =>
    rw [if_neg (by simp [Move.stays])]
    by_cases waits : t.awaits ticket
    · rw [Turnstile.step, if_pos waits]
      exact ⟨h.now, h.calls, h.none, h.granted⟩
    · rw [Turnstile.step, if_neg waits]
      exact h
  | settle => exact h.settle ht hu before
  | tick =>
    have settled := h.settle ht hu ⟨before.gone, before.served⟩
    exact ⟨congrArg (· + 1) settled.now, settled.calls, settled.none, settled.granted⟩

theorem tickets (h : Thinned bucket cancelled t u) :
    (u.calls.map (·.2.ticket)).Sublist (t.calls.map (·.2.ticket)) := by
  rw [h.calls]
  exact List.filter_sublist.map _

theorem run (h : Thinned bucket cancelled t u) (ht : Punctual window t) (hu : Punctual window u) {moves : List (Move τ)}
    (distinct : (t.calls.map (·.2.ticket) ++ moves.filterMap Move.ticket?).Nodup)
    (before : Before cancelled (t.run moves)) :
    Thinned bucket cancelled (t.run moves) (u.run (moves.filter (Move.stays bucket cancelled))) := by
  induction moves generalizing t u with
  | nil => exact h
  | cons move moves ih =>
    have fresh : ∀ ticket ∈ move.ticket?, ticket ∉ t.calls.map (·.2.ticket) := fresh_of_distinct distinct
    rw [distinct_step] at distinct
    have ahead : Before cancelled ((t.step move).run moves) := before
    have next := h.step ht hu ahead.of_run
    by_cases stays : move.stays bucket cancelled
    · rw [if_pos stays] at next
      rw [List.filter_cons_of_pos stays]
      have alsoFresh : ∀ ticket ∈ move.ticket?, ticket ∉ u.calls.map (·.2.ticket) :=
        fun ticket ht called => fresh ticket ht (h.tickets.subset called)
      exact ih next (step_punctual fresh ht) (step_punctual alsoFresh hu) distinct before
    · rw [if_neg stays] at next
      rw [List.filter_cons_of_neg stays]
      exact ih next (step_punctual fresh ht) hu distinct before

end Thinned

/-! ## Main result -/

/-- Calls on a bucket are granted on the timetable of those that do not give up, no later and no sooner. Without the
calls that give up, and without those on other buckets, the permits are the same at the same times. -/
theorem grants_on_timetable (window : Nat) (moves : List (Move τ)) (distinct : (moves.filterMap Move.ticket?).Nodup)
    (bucket : UInt32) :
    let t := (opening window).run moves
    let thinned := (opening window).run (moves.filter (Move.stays bucket t.cancelled))
    (∃ later, timetable window none (t.kept bucket) = t.granted bucket ++ later ∧ ∀ g ∈ later, t.now ≤ g.2) ∧
      t.settle.granted bucket = ((timetable window none (t.kept bucket)).filter fun g => g.2 ≤ t.now) ∧
      (∀ g ∈ t.grants, g.2.time = g.1 ∧ g.1 ≤ t.now) ∧
      thinned.now = t.now ∧
      thinned.calls = (t.calls.filter fun c => c.1 = bucket && c.2.ticket ∉ t.cancelled) ∧
      thinned.granted bucket = t.granted bucket := by
  intro t thinned
  have start : Punctual window (opening window : Turnstile τ) := punctual_opening window
  have unused : ((opening window : Turnstile τ).calls.map (·.2.ticket) ++ moves.filterMap Move.ticket?).Nodup := distinct
  have onTime : Punctual window t := run_punctual unused start
  have thin : Thinned bucket t.cancelled t thinned :=
    Thinned.run ⟨rfl, rfl, rfl, rfl⟩ start start unused onTime.before
  have ahead : ∀ due ∈ clockDue? window (t.limiter.clockOf bucket), t.now ≤ due := by
    intro due hd
    rcases t.limiter.clockOf_cases bucket with ⟨known, -⟩ | ⟨-, blank⟩
    · obtain ⟨c, hc, rfl⟩ := Option.map_eq_some_iff.1 hd
      rw [← onTime.measured]
      exact (onTime.kept.prompt _ known).ahead c (List.mem_of_mem_head? hc)
    · rw [blank] at hd
      cases hd
  exact ⟨(onTime.onTime bucket).rest ahead, onTime.settled bucket, onTime.clocked, thin.now, thin.calls, thin.granted⟩

/-- five calls; one on another bucket, and the first one that waits on the bucket gives up -/
def queue : List (Move Nat) :=
  [.acquire 0 1, .settle, .acquire 0 2, .acquire 7 3, .tick, .acquire 0 4, .cancel 2, .tick, .acquire 0 5, .tick, .tick,
    .tick, .tick, .settle]

theorem grants_on_timetable_queue :
    ((opening 3).run queue).granted 0 = [(1, 0), (4, 3), (5, 6)] ∧
      ((opening 3).run (queue.filter (Move.stays 0 [2]))).granted 0 = ((opening 3).run queue).granted 0 :=
  have gone : ((opening 3).run queue).cancelled = [2] := by decide
  ⟨by decide, by
    have same := (grants_on_timetable 3 queue (by decide) 0).2.2.2.2.2
    rwa [gone] at same⟩

end Turnstile

end Shardwire
