import Shardwire.Proofs.Shard.Retry

/-
How long the lengths of time are that a shard reckons with.

`Measured p` says what holds of a shard with profile `p` along every run, whatever the gateway sends: its backoff is
that of the profile, with some number of delays given, and the interval of its heartbeat is a word, since a Hello brings
one. `step_measured` keeps it.

From there it follows how long a shard waits before another attempt: the delay of the backoff does not exceed the
ceiling (`delay_le`), and what comes on top is a word (`surcharge_lt`); `step_waits` says that the wait is made of these
two.
-/

namespace Shardwire.Shard

variable {p : ShardProfile} {now : Nat} {x : Stimulus} {s : Shard}

/-! ## What every step keeps -/

/-- the profile, the backoff and the heartbeat interval of a shard -/
structure Measured (p : ShardProfile) (s : Shard) : Prop where
  profile : s.profile = p
  backoff : ∃ k, s.backoff = { p.backoff with attempts := k }
  interval : ∀ c queued i, s.phase = .online c queued → c.interval? = some i → i < UInt64.size

/-- A Hello announces an interval that is a word; heartbeats are a millisecond apart at least. -/
theorem interval_lt (h : Hello) {i : Nat} (announced : some (max h.interval.toNat 1) = some i) : i < UInt64.size := by
  have same : max h.interval.toNat 1 = i := Option.some.inj announced
  have word : h.interval.toNat < UInt64.size := h.interval.toNat_lt
  have one : 1 < UInt64.size := by decide
  omega

/-- No step brings an interval but that of a Hello. -/
theorem Outcome.interval {t : Turn} (h : Outcome now s x t)
    (word : ∀ c queued i, s.phase = .online c queued → c.interval? = some i → i < UInt64.size) :
    ∀ c queued i, t.shard.phase = .online c queued → c.interval? = some i → i < UInt64.size := by
  intro c queued i phase interval
  cases h with
  | idles shard =>
    rw [shard] at phase
    exact word c queued i phase interval
  | tends c' online abreast shard =>
    rw [shard] at phase
    cases phase
    exact word _ _ i online (abreast.interval ▸ interval)
  | dials =>
    rw [dial_eq] at phase
    cases phase
  | opens =>
    cases phase
    cases interval
  | resumes _ _ hello | queues _ _ hello =>
    cases phase
    exact interval_lt _ interval
  | identifies online | readies online | revives online =>
    cases phase
    exact word _ _ i online interval
  | passes => exact word c queued i phase interval
  | ends ends => exact absurd phase (ends.ne_online c queued)

/-- The backoff of a connection that ends counts on, or starts over. -/
theorem rested_eq {b : Backoff} (h : ∃ k, s.backoff = { b with attempts := k }) (now : Nat) :
    ∃ k, s.rested now = { b with attempts := k } := by
  obtain ⟨k, hk⟩ := h
  unfold rested
  split
  · exact ⟨0, by rw [hk]; rfl⟩
  · exact ⟨k, hk⟩

theorem next?_eq {b b' next : Backoff} {delay : Nat} (h : ∃ k, b = { b' with attempts := k })
    (hn : b.next? = some (delay, next)) : delay ≤ b'.ceiling ∧ ∃ k, next = { b' with attempts := k } := by
  obtain ⟨k, rfl⟩ := h
  unfold Backoff.next? at hn
  split at hn
  · cases hn
    exact ⟨Nat.min_le_right _ _, k + 1, rfl⟩
  · cases hn

/-- An ending takes the next delay of the backoff, or none. -/
theorem finish_backoff {b : Backoff} (h : ∃ k, s.backoff = { b with attempts := k }) (f : Finish) (now : Nat) :
    ∃ k, (finish f now s).shard.backoff = { b with attempts := k } := by
  have rested := rested_eq h now
  cases f with
  | stopped => rw [finish_stops]; exact rested
  | fatal fault => rw [finish_fails]; exact rested
  | again resume extra =>
    cases next : (s.rested now).next? with
    | none => rw [finish_exhausts next]; exact rested
    | some r =>
      rw [finish_waits next]
      exact (next?_eq rested next).2

theorem step_backoff {b : Backoff} (h : ∃ k, s.backoff = { b with attempts := k }) (now : Nat) (x : Stimulus) :
    ∃ k, (s.step now x).shard.backoff = { b with attempts := k } := by
  have course := step_course now x s
  generalize s.step now x = t at course ⊢
  cases course with
  | ends ending concludes =>
    obtain ⟨s', acts, go, rfl⟩ := concludes
    rw [Turn.next_mk]
    apply finish_backoff
    rw [go.backoff]
    exact h
  | goesOn connected here outcome =>
    obtain ⟨-, same, -⟩ := outcome.paces connected here
    rw [same]
    exact h
  | dials => rw [dial_eq]; exact h
  | leaves _ _ left =>
    obtain ⟨rest, rfl⟩ := left
    exact h
  | rests away shard => rw [shard]; exact h
  | aborts eq => rw [eq, abort_backoff]; exact h

theorem step_measured (now : Nat) (x : Stimulus) (h : Measured p s) : Measured p (s.step now x).shard where
  profile := (step_profile now x s).trans h.profile
  backoff := step_backoff h.backoff now x
  interval := (step_outcome now x s).interval h.interval

theorem launch_measured (p : ShardProfile) (address : ShardAddress) (now : Nat) :
    Measured p (launch p address now).shard := by
  rw [launch, dial_eq]
  refine ⟨rfl, ⟨0, rfl⟩, fun c queued i phase => ?_⟩
  cases phase

/-! ## The wait before another attempt -/

theorem Measured.delay_le (h : Measured p s) {delay : Nat} {b : Backoff}
    (next : (s.rested now).next? = some (delay, b)) : delay ≤ p.reconnectMax :=
  (next?_eq (rested_eq h.backoff now) next).1

/-- What comes on top of a delay is a heartbeat interval, or the window of the gateway. -/
theorem Measured.surcharge_lt (h : Measured p s) : Entry.surcharge ⟨now, x, s⟩ < UInt64.size := by
  have zero : 0 < UInt64.size := by decide
  have window : 5000 < UInt64.size := by decide
  unfold Entry.surcharge
  split
  · next c queued closure phase _ =>
    split
    · cases interval : c.interval? with
      | none => exact window
      | some i => exact h.interval c queued i phase interval
    · exact zero
  · exact zero

/-- A connection that ends for another one makes the shard wait for the next delay and what comes on top. -/
theorem step_waits {e : Ending} {resume : Bool} {extra delay : Nat} {b : Backoff} (ending : s.ending? now x = some e)
    (again : e.finish = .again resume extra) (next : (s.rested now).next? = some (delay, b)) :
    (s.step now x).shard.phase = .waiting (now + delay + extra) := by
  obtain ⟨s', acts, go, turn⟩ := step_concludes ending
  have rested : s'.rested now = s.rested now := by
    rw [Shard.rested, Shard.rested, go.readySince, go.profile, go.backoff]
  rw [turn, again, Turn.next_mk, finish_waits (rested ▸ next)]

end Shardwire.Shard
