import Shardwire.Proofs.Shard.Annals
import Shardwire.Proofs.Shard.Resumption

/-
The copies a shard keeps of one fact agree.

Session, sequence number and `resumable` are three fields, and a status is kept twice: by the connection, for the shard
itself, and by the shard, for callers. `Coherent` says how they belong together, with the events handed on since the
session was last given up (`heard`) as the measure of the sequence number. Every step keeps it, whatever the gateway
and callers do (`step_coherent`), so it holds throughout a run; `copies_agree` is what follows for each of the fields.
-/

namespace Shardwire

namespace Shard

/-- the event it hands on -/
def Act.dispatch? : Act → Option Dispatch
  | .deliver d => some d
  | _ => none

theorem delivers_eq_nil {acts : List Act} (h : ∀ d, .deliver d ∉ acts) : acts.filterMap Act.dispatch? = [] := by
  refine List.filterMap_eq_nil_iff.2 fun a ha => ?_
  cases a with
  | deliver d => exact absurd ha (h d)
  | _ => rfl

/-- Showing a status hands on nothing. -/
theorem delivers_announce (st : Status) (s : Shard) (acts : List Act) :
    (announce st s ++ acts).filterMap Act.dispatch? = acts.filterMap Act.dispatch? := by
  have silent : (announce st s).filterMap Act.dispatch? = [] :=
    delivers_eq_nil fun _ hd => by cases eq_of_mem_announce hd
  rw [List.filterMap_append, silent, List.nil_append]

namespace Entry

/-- whether the session is given up -/
def clears (e : Entry) : Bool := e.before.surrenders e.time e.cause

/-- events that are handed on -/
def delivers (e : Entry) : List Dispatch := e.acts.filterMap Act.dispatch?

end Entry

/-! ## What belongs together -/

/-- the status shown to callers is the one of the connection, while one is open, and one that a connection is kept in -/
def Mirrored (s : Shard) : Prop :=
  ∀ c queued, s.phase = .online c queued →
    s.status = c.status ∧ (c.status = .awaitingHello ∨ c.status = .identifying ∨ c.status = .ready)

/-- what a shard keeps agrees with itself and with the events handed on since the session was last given up -/
structure Coherent (s : Shard) (heard : List Dispatch) : Prop where
  sequence : s.sequence = heard.getLast?.map (·.seq)
  session : s.session.isSome = true → s.sequence.isSome = true ∧ s.resumable = true
  mirrored : s.Mirrored

variable {s t : Shard} {now : Nat} {x : Stimulus} {heard : List Dispatch}

theorem mirrored_online {c : Connection} {queued : Bool} (phase : s.phase = .online c queued)
    (shown : s.status = c.status)
    (stage : c.status = .awaitingHello ∨ c.status = .identifying ∨ c.status = .ready) : s.Mirrored := by
  intro c' queued' hp
  cases phase.symm.trans hp
  exact ⟨shown, stage⟩

theorem mirrored_offline (offline : ∀ c queued, s.phase ≠ .online c queued) : s.Mirrored :=
  fun c queued hp => absurd hp (offline c queued)

/-- A connection that goes on shows what it showed before. -/
theorem Mirrored.onward (h : s.Mirrored) {c c' : Connection} {queued queued' : Bool}
    (before : s.phase = .online c queued) (phase : t.phase = .online c' queued') (same : c'.status = c.status)
    (shown : t.status = s.status) : t.Mirrored := by
  obtain ⟨mirrored, stage⟩ := h c queued before
  exact mirrored_online phase (shown.trans (mirrored.trans same.symm)) (same ▸ stage)

namespace Coherent

theorem canResume (h : Coherent s heard) : s.canResume = s.session.isSome := by
  cases held : s.session with
  | none => simp [Shard.canResume, resume?, held]
  | some y =>
    obtain ⟨counted, resumable⟩ := h.session (by simp [held])
    obtain ⟨n, hn⟩ := Option.isSome_iff_exists.1 counted
    simp [Shard.canResume, resume?, held, hn, resumable]

theorem sequence_eq_none (h : Coherent s heard) : s.sequence = none ↔ heard = [] := by
  rw [h.sequence, Option.map_eq_none_iff, List.getLast?_eq_none_iff]

/-- Session and sequence number stay. -/
theorem onward (h : Coherent s heard) (session : t.session = s.session) (sequence : t.sequence = s.sequence)
    (resumable : s.resumable = true → t.resumable = true) (mirrored : t.Mirrored) : Coherent t heard where
  sequence := sequence.trans h.sequence
  session := by
    rw [session, sequence]
    exact fun held => ⟨(h.session held).1, resumable (h.session held).2⟩
  mirrored := mirrored

/-- An event is handed on. -/
theorem handed {d : Dispatch} (sequence : t.sequence = some d.seq)
    (session : t.session.isSome = true → t.resumable = true) (mirrored : t.Mirrored) : Coherent t (heard ++ [d]) where
  sequence := by simp [sequence]
  session := fun held => ⟨by simp [sequence], session held⟩
  mirrored := mirrored

/-- Nothing is left of a session that is given up. -/
theorem cleared (session : t.session = none) (sequence : t.sequence = none) (mirrored : t.Mirrored) :
    Coherent t [] where
  sequence := sequence
  session := by simp [session]
  mirrored := mirrored

/-- What the end of a connection leaves behind. -/
theorem ended (h : Coherent s heard) {keep : Bool} {t : Turn} (ht : Parted s keep t) :
    Coherent t.shard (if keep then heard else []) := by
  have mirrored : t.shard.Mirrored := mirrored_offline ht.ne_online
  cases keep with
  | true => exact h.onward ht.session ht.sequence (ht.resumable rfl) mirrored
  | false => exact cleared ht.session ht.sequence mirrored

end Coherent

/-! ## Steps -/

theorem coherent_fresh (profile : ShardProfile) (address : ShardAddress) (now : Nat) :
    Coherent (fresh profile address now) [] :=
  .cleared rfl rfl (mirrored_offline fun _ _ hp => by cases hp)

theorem step_coherent (now : Nat) (x : Stimulus) (h : Coherent s heard) :
    Coherent (s.step now x).shard
      ((if s.surrenders now x then [] else heard) ++ (s.step now x).acts.filterMap Act.dispatch?) := by
  have ho := step_outcome now x s
  generalize s.step now x = t at ho ⊢
  cases ho with
  | idles shard mailbox acts kept =>
    have silent : t.acts.filterMap Act.dispatch? = [] := delivers_eq_nil fun d hd => by cases acts _ hd
    rw [kept, silent, List.append_nil, shard]
    exact h.onward rfl rfl (fun hr => hr) h.mirrored
  | tends c' online abreast shard mailbox acts kept =>
    have silent : t.acts.filterMap Act.dispatch? = [] := by
      refine delivers_eq_nil fun d hd => ?_
      rcases acts _ hd with ha | ha | ⟨_, _, ha, -⟩ <;> cases ha
    rw [kept, silent, List.append_nil, shard]
    exact h.onward rfl rfl (fun hr => hr) (h.mirrored.onward online rfl abreast.status rfl)
  | dials waiting =>
    have kept : s.surrenders now .timeout = false := by simp [surrenders, waiting]
    rw [kept, dial_eq, delivers_announce, delivers_eq_nil (by simp), List.append_nil]
    exact h.onward rfl rfl (fun hr => hr) (mirrored_offline fun _ _ hp => by cases hp)
  | opens dialling =>
    have kept : s.surrenders now .opened = false := by simp [surrenders, dialling]
    have silent : (announce .awaitingHello s).filterMap Act.dispatch? = [] := by
      simpa using delivers_announce .awaitingHello s []
    rw [kept, silent, List.append_nil]
    exact h.onward rfl rfl (fun hr => hr) (mirrored_online rfl rfl (.inl rfl))
  | resumes online awaiting hello resuming session writable =>
    rw [surrenders_text online hello (by simp), delivers_announce, delivers_eq_nil (by simp), List.append_nil]
    exact h.onward rfl rfl (fun hr => hr) (mirrored_online rfl rfl (.inr (.inl rfl)))
  | queues online awaiting hello session =>
    rw [surrenders_text online hello (by simp), delivers_announce, delivers_eq_nil (by simp), List.append_nil]
    exact h.onward rfl rfl (fun hr => hr) (mirrored_online rfl rfl (.inr (.inl rfl)))
  | identifies online writable =>
    have given : s.surrenders now .granted = true := by simp [surrenders, online]
    rw [given]
    exact .cleared rfl rfl (h.mirrored.onward online rfl rfl rfl)
  | passes online event newer other =>
    rw [surrenders_text online event (by simp)]
    -- the event may be a READY that announces no session: one that is stored is an earlier one
    exact .handed (Sequence.advance?_eq newer) (fun held => (h.session held).2)
      (h.mirrored.onward online online rfl rfl)
  | readies online event newer kind payload =>
    rw [surrenders_text online event (by simp), delivers_announce]
    exact .handed (Sequence.advance?_eq newer) (fun _ => rfl) (mirrored_online rfl rfl (.inr (.inr rfl)))
  | revives online event newer kind =>
    rw [surrenders_text online event (by simp), delivers_announce]
    exact .handed (Sequence.advance?_eq newer) (fun held => (h.session held).2)
      (mirrored_online rfl rfl (.inr (.inr rfl)))
  | ends he =>
    have silent : t.acts.filterMap Act.dispatch? = [] := delivers_eq_nil fun d hd => by cases he.acts _ hd
    have left := h.ended he.toParted
    rw [silent, List.append_nil]
    cases hs : s.surrenders now x with
    | true => rwa [hs] at left
    | false => rwa [hs] at left

/-- Where the session is given up, neither it nor its sequence number stays. -/
theorem step_clears (h : s.surrenders now x = true) :
    (s.step now x).shard.session = none ∧ (s.step now x).shard.sequence = none := by
  have ho := step_outcome now x s
  generalize s.step now x = t at ho ⊢
  cases ho with
  | idles shard mailbox acts kept | tends c' online abreast shard mailbox acts kept => cases kept.symm.trans h
  | dials waiting => simp [surrenders, waiting] at h
  | opens dialling => simp [surrenders, dialling] at h
  | resumes online awaiting event | queues online awaiting event | passes online event | readies online event
  | revives online event =>
    -- none of these events is an invalid session
    cases (surrenders_text online event (by simp) now _).symm.trans h
  | identifies online writable => exact ⟨rfl, rfl⟩
  | ends he =>
    have session := he.session
    have sequence := he.sequence
    rw [h] at session sequence
    exact ⟨session, sequence⟩

/-- What is stored is not lost in any other way. -/
theorem step_stores (h : s.surrenders now x = false) :
    (s.session.isSome = true → (s.step now x).shard.session.isSome = true) ∧
      (s.sequence.isSome = true → (s.step now x).shard.sequence.isSome = true) := by
  have ho := step_outcome now x s
  generalize s.step now x = t at ho ⊢
  cases ho with
  | idles shard | tends c' online abreast shard =>
    rw [shard]
    exact ⟨fun held => held, fun counted => counted⟩
  | dials waiting =>
    rw [dial_eq]
    exact ⟨fun held => held, fun counted => counted⟩
  | opens | resumes | queues => exact ⟨fun held => held, fun counted => counted⟩
  | identifies online writable => simp [surrenders, online] at h
  | passes online event newer other | revives online event newer other =>
    exact ⟨fun held => held, fun _ => by simp [Sequence.advance?_eq newer]⟩
  | readies online event newer kind payload => exact ⟨fun _ => rfl, fun _ => by simp [Sequence.advance?_eq newer]⟩
  | ends he =>
    rw [he.session, he.sequence, h]
    exact ⟨fun held => held, fun counted => counted⟩

end Shard

open Shard (Stimulus)

namespace Annals

/-- events handed on since the session was last given up -/
def heard (a : Annals) : List Dispatch := a.entries.foldl (fun l e => (if e.clears then [] else l) ++ e.delivers) []

theorem step_heard (now : Nat) (x : Stimulus) (a : Annals) :
    (a.step now x).heard = (if (a.entry now x).clears then [] else a.heard) ++ (a.entry now x).delivers := by
  simp only [heard, step, List.foldl_append, List.foldl_cons, List.foldl_nil]

theorem step_agrees (now : Nat) (x : Stimulus) {a : Annals} (h : Shard.Coherent a.shard a.heard) :
    Shard.Coherent (a.step now x).shard (a.step now x).heard := by
  rw [step_heard]
  exact Shard.step_coherent now x h

theorem run_coherent (profile : ShardProfile) (address : ShardAddress) (start : Nat) (xs : List (Nat × Stimulus)) :
    Shard.Coherent ((opening profile address start).run xs).shard ((opening profile address start).run xs).heard := by
  have opened : Shard.Coherent (opening profile address start).shard (opening profile address start).heard :=
    step_agrees start .timeout (Shard.coherent_fresh profile address start)
  exact run_keeps (P := fun a => Shard.Coherent a.shard a.heard) (fun now x _ (_ : True) h => step_agrees now x h)
    (fun _ _ => trivial) opened

/-- In every state of a shard, whatever the gateway and callers did: a session is stored only with a sequence number and
as one that may be resumed, so it would be resumed exactly if it is stored; the sequence number is that of the last
event handed on since the session was given up, and there is none exactly if no event was. Giving the session up is all
that removes it or its sequence number. While a connection is open the status shown to callers is the one of the
connection, and the connection waits for Hello, identifies or is ready; so callers and the shard agree on whether it
is ready. -/
theorem copies_agree (profile : ShardProfile) (address : ShardAddress) (start : Nat) (xs : List (Nat × Stimulus)) :
    let a := (opening profile address start).run xs
    (a.shard.session.isSome = true → a.shard.sequence.isSome = true ∧ a.shard.resumable = true) ∧
      (a.shard.canResume = true ↔ a.shard.session.isSome = true) ∧
      a.shard.sequence = a.heard.getLast?.map (·.seq) ∧
      (a.shard.sequence = none ↔ a.heard = []) ∧
      (∀ e ∈ a.entries,
        (e.clears = true → e.after.session = none ∧ e.after.sequence = none) ∧
        (e.clears = false → (e.before.session.isSome = true → e.after.session.isSome = true) ∧
          (e.before.sequence.isSome = true → e.after.sequence.isSome = true))) ∧
      (∀ c queued, a.shard.phase = .online c queued →
        a.shard.status = c.status ∧
        (c.status = .awaitingHello ∨ c.status = .identifying ∨ c.status = .ready) ∧
        a.shard.status.isReady = c.status.isReady) := by
  intro a
  have h : Shard.Coherent a.shard a.heard := run_coherent profile address start xs
  refine ⟨h.session, by rw [h.canResume], h.sequence, h.sequence_eq_none, ?_, ?_⟩
  · intro e _
    exact ⟨Shard.step_clears, Shard.step_stores⟩
  · intro c queued online
    obtain ⟨shown, stage⟩ := h.mirrored c queued online
    exact ⟨shown, stage, congrArg Status.isReady shown⟩

/-- the connection of a shard that became ready breaks, and the session is taken up on the next one -/
def takenUp : List (Nat × Stimulus) :=
  Journal.conversation ++ [(5, .dropped), (60000, .timeout), (60000, .opened), (60000, .text helloText 0)]

theorem copies_agree_takenUp :
    let a := (opening (.usual "t") .only 0).run takenUp
    a.heard.map (·.seq) = [1] ∧ a.shard.session.isSome = true ∧
      (a.shard.sequence.isSome = true ∧ a.shard.resumable = true) ∧ a.shard.canResume = true ∧
      (∃ e ∈ a.entries, e.clears = true ∧ e.after.session = none ∧ e.after.sequence = none) ∧
      (∃ e ∈ a.entries, e.clears = false ∧ e.before.session.isSome = true ∧ e.before.sequence.isSome = true ∧
        e.after.session.isSome = true ∧ e.after.sequence.isSome = true) ∧
      ∃ c queued, a.shard.phase = .online c queued ∧ a.shard.status = c.status ∧
        (c.status = .awaitingHello ∨ c.status = .identifying ∨ c.status = .ready) ∧
        a.shard.status.isReady = c.status.isReady := by
  intro a
  obtain ⟨stored, resumes, -, -, entries, mirrored⟩ := copies_agree (.usual "t") .only 0 takenUp
  have held : a.shard.session.isSome = true := by decide +kernel
  have online : ∃ c queued, a.shard.phase = .online c queued := by
    -- heartbeats run on open connections only
    have beats : a.shard.beatDue?.isSome = true := by decide +kernel
    cases hp : a.shard.phase with
    | online c queued => exact ⟨c, queued, rfl⟩
    | _ => simp [Shard.beatDue?, hp] at beats
  have given : ∃ e ∈ a.entries, e.clears = true := by decide +kernel
  have kept : ∃ e ∈ a.entries, e.clears = false ∧ e.before.session.isSome = true ∧
      e.before.sequence.isSome = true := by decide +kernel
  refine ⟨by decide +kernel, held, stored held, resumes.2 held, ?_, ?_, ?_⟩
  · obtain ⟨e, he, clears⟩ := given
    exact ⟨e, he, clears, (entries e he).1 clears⟩
  · obtain ⟨e, he, clears, session, sequence⟩ := kept
    have after := (entries e he).2 clears
    exact ⟨e, he, clears, session, sequence, after.1 session, after.2 sequence⟩
  · obtain ⟨c, queued, hp⟩ := online
    exact ⟨c, queued, hp, mirrored c queued hp⟩

end Annals

end Shardwire
