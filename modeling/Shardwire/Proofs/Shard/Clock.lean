import Shardwire.Proofs.Shard.Parting
import Shardwire.Shard.Clock

/-
Steps on a clock that ends are steps.

Where the time of a handshake has an end that a clock can show, a step on it is the step itself (`clocked_of_fits`).
Otherwise the shard is as if it was stopped by force: in place of asking for a connection, or right after a handshake
was written. `clocked_cases`: there is nothing else.
-/

namespace Shardwire.Shard

variable {now : Nat} {x : Stimulus} {s : Shard}

/-! ## Steps one after the other -/

theorem steps_one (now : Nat) (x : Stimulus) (s : Shard) : s.steps now [x] = s.step now x := by
  simp [steps, Turn.next, Turn.still]

theorem steps_two (now : Nat) (x y : Stimulus) (s : Shard) : s.steps now [x, y] = (s.step now x).next (step now y) := by
  simp [steps, Turn.next, Turn.still]

/-! ## When the time of a handshake begins -/

theorem not_isTimed {t : Turn} (h : ∀ a ∈ t.acts, a.isTimed = false) : t.isTimed = false := by
  unfold Turn.isTimed
  cases last : t.acts.getLast? with
  | none => rfl
  | some a => simpa using h a (List.mem_of_getLast? last)

theorem not_isTimed_of_isParting {a : Act} (h : a.isParting = true) : a.isTimed = false := by
  cases a <;> first | rfl | cases h

/-- No time begins where a connection, or the attempt to get one, ends. -/
theorem Concludes.untimed {e : Ending} {t : Turn} (h : Concludes now s x e t) : t.isTimed = false := by
  obtain ⟨s', acts, go, rfl⟩ := h
  refine not_isTimed fun a ha => not_isTimed_of_isParting ?_
  exact (List.mem_append.1 ha).elim (go.parting a) ((finish_parted _ now s').acts a)

/-- The time of a handshake begins when a connection is asked for, and on a connection that goes on. -/
theorem isTimed_cases (timed : (s.step now x).isTimed = true) :
    (x = .timeout ∧ s.isOnline = false ∧ s.isEnded = false ∧ s.step now x = dial now s) ∨
      (s.isOnline = true ∧ (s.step now x).shard.isOnline = true) := by
  have never {t : Turn} (h : ∀ a ∈ t.acts, a.isTimed = false) (ht : t.isTimed = true) : False := by
    cases ht.symm.trans (not_isTimed h)
  have hc := step_course now x s
  generalize s.step now x = t at hc timed ⊢
  cases hc with
  | ends ending concludes => cases concludes.untimed.symm.trans timed
  | goesOn connected here outcome =>
    cases outcome with
    | idles shard mailbox acts kept => exact (never (forall_answers acts fun _ _ => rfl) timed).elim
    | tends c' online abreast shard => exact .inr ⟨by simp [isOnline, online], by rw [shard]; rfl⟩
    | dials waiting => simp [isOffline, waiting] at connected
    | opens => exact (never (fun a ha => not_isTimed_of_isParting (isParting_of_announce ha)) timed).elim
    | resumes online | queues online | identifies online | readies online | revives online =>
      exact .inr ⟨by simp [isOnline, online], rfl⟩
    | passes online => exact .inr ⟨by simp [isOnline, online], by simp [isOnline, online]⟩
    | ends he => cases here.symm.trans he.offline
  | dials waiting due => exact .inl ⟨rfl, by simp [isOnline, waiting], by simp [isEnded, waiting], rfl⟩
  | leaves waiting stops left =>
    obtain ⟨rest, rfl⟩ := left
    exact (never (fun a ha => not_isTimed_of_isParting ((leave_parted _).acts a ha)) timed).elim
  | rests away shard acts => exact (never (forall_answers acts fun _ _ => rfl) timed).elim
  | aborts eq =>
    subst eq
    exact (never (forall_abort s rfl rfl fun _ _ => rfl) timed).elim

/-! ## The end of the clock -/

/-- Where the end of a handshake can be shown, nothing is out of the ordinary. -/
theorem clocked_of_fits (fits : s.outlasts now = false) (x : Stimulus) : s.clocked now x = [x] := by
  simp [clocked, fits]

theorem stepClocked_of_fits (fits : s.outlasts now = false) (x : Stimulus) : s.stepClocked now x = s.step now x := by
  rw [stepClocked, clocked_of_fits fits, steps_one]

theorem clocked_of_untimed (untimed : (s.step now x).isTimed = false) :
    s.clocked now x = [x] ∧ s.stepClocked now x = s.step now x := by
  have only : s.clocked now x = [x] := by simp [clocked, untimed]
  exact ⟨only, by rw [stepClocked, only, steps_one]⟩

/-- A step on a clock that ends is the step itself, a stop by force in place of a dial, or both. -/
theorem clocked_cases (now : Nat) (x : Stimulus) (s : Shard) :
    (s.clocked now x = [x] ∧ s.stepClocked now x = s.step now x) ∨
      (s.outlasts now = true ∧ x = .timeout ∧ s.isOnline = false ∧ s.isEnded = false ∧ s.step now x = dial now s ∧
        s.clocked now x = [.abort] ∧ s.stepClocked now x = abort s) ∨
      (s.outlasts now = true ∧ s.isOnline = true ∧ (s.step now x).shard.isOnline = true ∧
        s.clocked now x = [x, .abort] ∧ s.stepClocked now x = (s.step now x).next abort) := by
  have whole (xs : List Stimulus) (h : s.clocked now x = xs) : s.stepClocked now x = s.steps now xs := by
    rw [stepClocked, h]
  cases breaks : (s.step now x).isTimed && s.outlasts now with
  | false =>
    have only : s.clocked now x = [x] := by simp [clocked, breaks]
    exact .inl ⟨only, (whole _ only).trans (steps_one now x s)⟩
  | true =>
    obtain ⟨timed, beyond⟩ := Bool.and_eq_true_iff.1 breaks
    rcases isTimed_cases timed with ⟨rfl, away, running, dials⟩ | ⟨online, goesOn⟩
    · have only : s.clocked now .timeout = [.abort] := by simp [clocked, breaks, away]
      exact .inr (.inl ⟨beyond, rfl, away, running, dials, only, (whole _ only).trans (steps_one now .abort s)⟩)
    · have both : s.clocked now x = [x, .abort] := by simp [clocked, breaks, online]
      exact .inr (.inr ⟨beyond, online, goesOn, both, (whole _ both).trans (steps_two now x .abort s)⟩)

end Shardwire.Shard
