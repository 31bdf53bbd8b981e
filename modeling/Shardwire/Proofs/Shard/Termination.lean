import Shardwire.Proofs.Shard.Annals
import Shardwire.Proofs.Shard.Ending
import Shardwire.Proofs.Shard.Parting

/-
The two ends of a shard.

Unless it is stopped by force, a shard ends because a stop is taken, and is shown as disconnected, or because it meets a
fault that another attempt would meet again or has made too many attempts, and is shown as failed: `Fate` lists what a
step can come to, and `step_fate` says that there is nothing else. `ends_once`: this happens once in a run. A failure is
reported with it exactly if the shard fails, and from then on the shard answers callers and does nothing else.
-/

namespace Shardwire

theorem CloseCode.classify_fatal {code : Option Nat} (h : CloseCode.classify code = .fatal) :
    ∃ n k, code = some n ∧ ofNumber? n = some k ∧ k.reaction = .fatal := by
  cases code with
  | none => cases h
  | some n =>
    simp only [classify] at h
    split at h
    · cases h
    · cases hk : ofNumber? n with
      | none => simp [hk] at h
      | some k => exact ⟨n, k, rfl, hk, by simpa [hk] using h⟩

namespace Shard

/-! ## What a step comes to -/

/-- a shard that has neither failed nor is about to say so -/
structure Alive (s : Shard) : Prop where
  status : s.status ≠ .failed
  waiting : ∀ deadline, s.phase = .waiting deadline → s.status = .disconnected

/-- the faults that a shard ends with: what a close code stands for that it does not reconnect after, and that it made
too many attempts -/
def Terminal (s : Shard) (x : Stimulus) (f : Fault) : Prop :=
  (∃ closure k, x = .closed (some closure) ∧ CloseCode.ofNumber? closure.code = some k ∧ k.reaction = .fatal ∧
    f = .ofCloseCode k) ∨ ∃ n, f = .retriesExhausted s.id n

theorem Terminal.isFatal {s : Shard} {x : Stimulus} {f : Fault} (h : s.Terminal x f) : f.isFatal = true := by
  rcases h with ⟨closure, k, -, -, fatal, rfl⟩ | ⟨n, rfl⟩
  · exact Fault.isFatal_ofCloseCode k fatal
  · rfl

/-- what a step of a shard can come to -/
inductive Fate (s : Shard) (x : Stimulus) (t : Turn) : Prop where
  | lives (running : t.shard.isEnded = false) (alive : t.shard.Alive) (quiet : ∀ a ∈ t.acts, a.admits = false)
  | stops (stop : s.takesStop x = true) (ended : t.shard.isEnded = true) (status : t.shard.status = .disconnected)
      (quiet : ∀ a ∈ t.acts, a.admits = false) (withdrawn : s.isQueued = true → x ≠ .granted → .withdraw ∈ t.acts)
  | fails (f : Fault) (terminal : s.Terminal x f) (ended : t.shard.isEnded = true) (status : t.shard.status = .failed)
      (reported : t.acts.filterMap Act.fault? = [f]) (shown : .publish .failed ∈ t.acts)
      (withdrawn : s.isQueued = true → x ≠ .granted → .withdraw ∈ t.acts)

theorem not_admits_of_announce {st : Status} (hs : st ≠ .failed) {s : Shard} {a : Act} (h : a ∈ announce st s) :
    a.admits = false := by
  rw [eq_of_mem_announce h]
  exact decide_eq_false hs

theorem no_fault_of_quiet {acts : List Act} (h : ∀ a ∈ acts, a.admits = false) : acts.filterMap Act.fault? = [] :=
  List.filterMap_eq_nil_iff.2 fun a ha => by
    have := h a ha
    cases a <;> first | rfl | cases this

theorem quiet_refusals (s : Shard) : ∀ a ∈ s.mailbox.filterMap s.refusal, a.admits = false :=
  forall_answers (fun _ ha => isAnswer_of_refusal ha) fun _ _ => rfl

/-- A connection that goes on, or is asked for, says nothing of a failure. -/
theorem Outcome.quiet {now : Nat} {s : Shard} {x : Stimulus} {t : Turn} (h : Outcome now s x t) (alive : s.Alive)
    (here : t.shard.isOffline = false) : t.shard.status ≠ .failed ∧ ∀ a ∈ t.acts, a.admits = false := by
  cases h with
  | idles shard mailbox acts kept =>
    exact ⟨by rw [shard]; exact alive.status, forall_answers acts fun _ _ => rfl⟩
  | tends c' online abreast shard mailbox acts kept =>
    exact ⟨by rw [shard]; exact alive.status, forall_tended acts (fun _ _ => rfl) fun _ => rfl⟩
  | dials waiting =>
    rw [dial_eq]
    exact ⟨by simp, forall_announce rfl (by simp [Act.admits])⟩
  | opens dialling => exact ⟨by simp, fun a ha => not_admits_of_announce (by decide) ha⟩
  | resumes | queues => exact ⟨by simp, forall_announce rfl (by simp [Act.admits])⟩
  | identifies => exact ⟨alive.status, by simp [Act.admits]⟩
  | passes => exact ⟨alive.status, by simp [Act.admits]⟩
  | readies | revives => exact ⟨by simp, forall_announce rfl (by simp [Act.admits])⟩
  | ends he => cases here.symm.trans he.offline

theorem isEnded_of_here {s : Shard} (here : s.isOffline = false) : s.isEnded = false := by
  unfold isOffline at here
  unfold isEnded
  split <;> simp_all

/-- A connection ends in a stop when one is taken. -/
theorem ending_stops {now : Nat} {s : Shard} {x : Stimulus} {e : Ending} (he : s.ending? now x = some e)
    (hf : e.finish = .stopped) : s.takesStop x = true := by
  cases ending_occasion he with
  | stop stops => exact stops
  | decline | recycle | lose | unreach => cases hf
  | close =>
    simp only [afterClosure] at hf
    split at hf <;> cases hf

/-- A connection ends in a fault when the gateway closes it with a code that stands for one. -/
theorem ending_fails {now : Nat} {s : Shard} {x : Stimulus} {e : Ending} {f : Fault} (he : s.ending? now x = some e)
    (hf : e.finish = .fatal f) : s.Terminal x f := by
  cases ending_occasion he with
  | stop | decline | recycle | lose | unreach => cases hf
  | @close c queued closure online =>
    simp only [afterClosure] at hf
    split at hf
    · cases hf
    · cases hf
    · next fatal =>
      obtain ⟨n, k, hn, hk, hr⟩ := CloseCode.classify_fatal fatal
      obtain ⟨closure, rfl, rfl⟩ := Option.map_eq_some_iff.1 hn
      simp only [Option.map_some, Option.bind_some, hk] at hf
      cases hf
      exact .inl ⟨closure, k, rfl, hk, hr, rfl⟩

theorem step_fate (now : Nat) {s : Shard} {x : Stimulus} (hx : x ≠ .abort) (running : s.isEnded = false)
    (alive : s.Alive) : Fate s x (s.step now x) := by
  have hc := step_course now x s
  generalize s.step now x = t at hc ⊢
  cases hc with
  | ends ending concludes =>
    obtain ⟨s', acts, go, rfl⟩ := concludes
    rename Ending => e
    have withdrawn {more : List Act} (hq : s.isQueued = true) (hg : x ≠ .granted) : .withdraw ∈ acts ++ more :=
      List.mem_append_left _ (go.withdraws.2 ⟨hq, hg⟩)
    have silent := no_fault_of_quiet go.quiet
    have sound := go.running alive.status
    rw [Turn.next_mk]
    cases hf : e.finish with
    | stopped =>
      rw [finish_stops]
      refine .stops (ending_stops ending hf) rfl rfl (fun a ha => ?_) withdrawn
      rcases List.mem_append.1 ha with ha | ha
      · exact go.quiet a ha
      · rcases List.mem_append.1 ha with ha | ha
        · exact not_admits_of_announce (by decide) ha
        · exact quiet_refusals s' a ha
    | fatal f =>
      rw [finish_fails]
      have announced : announce .failed s' = [.publish .failed] := by simp [announce, sound]
      refine .fails f (ending_fails ending hf) rfl rfl ?_ ?_ withdrawn
      · simp [List.filterMap_append, List.filterMap_cons, silent, announced, Act.fault?,
          no_fault_of_quiet (quiet_refusals s')]
      · simp [announced]
    | again resume extra =>
      cases hn : (s'.rested now).next? with
      | some next =>
        rw [finish_waits hn]
        refine .lives rfl ⟨by simp, fun _ _ => rfl⟩ fun a ha => ?_
        rcases List.mem_append.1 ha with ha | ha
        · exact go.quiet a ha
        · exact not_admits_of_announce (by decide) ha
      | none =>
        rw [finish_exhausts hn]
        have own : s'.id = s.id := congrArg ShardAddress.id go.address
        have disconnected : ∀ a ∈ announce .disconnected s', a.admits = false :=
          fun a ha => not_admits_of_announce (by decide) ha
        refine .fails (.retriesExhausted s'.id (s'.rested now).attempts) (.inr ⟨_, by rw [own]⟩) rfl rfl ?_ (by simp)
          withdrawn
        simp [List.filterMap_append, List.filterMap_cons, silent, Act.fault?, no_fault_of_quiet disconnected,
          no_fault_of_quiet (quiet_refusals s')]
  | goesOn connected here outcome =>
    obtain ⟨status, quiet⟩ := outcome.quiet alive here
    refine .lives (isEnded_of_here here) ⟨status, fun deadline hp => ?_⟩ quiet
    simp [isOffline, hp] at here
  | dials waiting due =>
    have here : (dial now s).shard.isOffline = false := by rw [dial_eq]; rfl
    obtain ⟨status, quiet⟩ := Outcome.quiet (.dials waiting) alive here
    refine .lives (isEnded_of_here here) ⟨status, fun deadline hp => ?_⟩ quiet
    simp [isOffline, hp] at here
  | leaves waiting stops left =>
    obtain ⟨rest, rfl⟩ := left
    exact .stops stops rfl (alive.waiting _ waiting) (quiet_refusals { s with mailbox := rest })
      (by simp [isQueued, waiting])
  | rests away shard acts =>
    have phase : t.shard.phase = s.phase := by rw [shard]
    have status : t.shard.status = s.status := by rw [shard]
    refine .lives (by simpa [isEnded, phase] using running) ⟨status ▸ alive.status, fun deadline hp => ?_⟩
      (forall_answers acts fun _ _ => rfl)
    exact status.trans (alive.waiting deadline (phase.symm.trans hp))
  | aborts eq => exact absurd rfl hx

/-- A stop ends a shard whatever it does. -/
theorem take_stops (now : Nat) {s : Shard} (running : s.isEnded = false) (alive : s.Alive)
    (stops : s.stopsNext = true) :
    (s.step now .take).shard.isEnded = true ∧ (s.step now .take).shard.status = .disconnected ∧
      ∀ a ∈ (s.step now .take).acts, a.admits = false := by
  cases hp : s.phase with
  | ended => simp [isEnded, hp] at running
  | waiting deadline =>
    rcases take_cases now s with ⟨ticket, m, rest, hm, -⟩ | ⟨-, -, rest, eq⟩ | ⟨no, -⟩
    · simp [stopsNext, hm] at stops
    · have left : halt now { s with mailbox := rest } = leave { s with mailbox := rest } := by simp [halt, hp]
      rw [step, eq, left]
      exact ⟨rfl, alive.waiting deadline hp, quiet_refusals { s with mailbox := rest }⟩
    · cases stops.symm.trans no
  | dialling | online =>
    obtain ⟨closure, he⟩ : ∃ closure, s.ending? now .take = some ⟨.stopped, closure⟩ := by
      cases hm : s.mailbox with
      | nil => simp_all [ending?, endingOnline?, endingCommand?, stopsNext]
      | cons k rest => cases k <;> simp_all [ending?, endingOnline?, endingCommand?, stopsNext]
    obtain ⟨s', acts, go, eq⟩ := step_concludes he
    rw [eq, Turn.next_mk, finish_stops]
    refine ⟨rfl, rfl, fun a ha => ?_⟩
    rcases List.mem_append.1 ha with ha | ha
    · exact go.quiet a ha
    · rcases List.mem_append.1 ha with ha | ha
      · exact not_admits_of_announce (by decide) ha
      · exact quiet_refusals s' a ha

end Shard

end Shardwire
