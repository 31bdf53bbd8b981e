import Shardwire.Proofs.Shard.Runner
import Shardwire.Proofs.Shard.Sending

/-
Runs of a runner, with a book of its moves.

A logbook keeps when each move was made and how the runner was before; what the runner did follows from these. Beside it
runs the journal of the steps that its shard has made, which knows of no waiting: where the shard waits in the middle of
a step, the journal has the whole of it.
-/

namespace Shardwire

open Shard (Stimulus Act)

namespace Runner

/-- whether it may be made at all -/
def Move.isAllowed : Move → Bool
  | .meet x => x.isAllowed
  | _ => true

/-- a move of a runner -/
structure Entry where
  time : Nat
  cause : Move
  before : Runner

namespace Entry

def turn (e : Entry) : Turn := e.before.step e.time e.cause

def after (e : Entry) : Runner := e.turn.runner

def acts (e : Entry) : List Act := e.turn.acts

/-- what its shard comes to deal with -/
def dealt? (e : Entry) : Option Stimulus := e.before.dealt? e.cause

/-- whether it opens a connection -/
def opensLine (e : Entry) : Bool := !e.before.shard.isOnline && e.after.shard.isOnline

/-- the interval of the Hello it brings -/
def hello? (e : Entry) : Option UInt64 := e.dealt?.bind e.before.shard.helloOf?

/-- messages that are sent -/
def writes (e : Entry) : List Message := e.acts.filterMap Act.message?

/-- frames that are sent -/
def frames (e : Entry) : List Act := e.acts.filter Act.isFrame

end Entry

end Runner

structure Logbook where
  runner : Runner
  /-- what its shard did -/
  journal : Journal
  /-- every move so far, the first one first -/
  entries : List Runner.Entry

namespace Journal

/-- a shard that has not asked for a connection yet -/
def blank (profile : ShardProfile) (address : ShardAddress) (now : Nat) : Journal :=
  ⟨.fresh profile address now, none, [], [], false, [], none⟩

/-- one step after the other -/
def steps (now : Nat) (xs : List Stimulus) (j : Journal) : Journal := xs.foldl (fun j x => j.step now x) j

end Journal

namespace Logbook

def step (now : Nat) (v : Runner.Move) (l : Logbook) : Logbook :=
  if v.isAllowed then
    let t := l.runner.step now v
    ⟨t.runner, l.journal.steps now t.steps, l.entries ++ [⟨now, v, l.runner⟩]⟩
  else l

/-- a shard that has not asked for a connection yet -/
def blank (profile : ShardProfile) (address : ShardAddress) (now : Nat) : Logbook :=
  ⟨.idle (.fresh profile address now), .blank profile address now, []⟩

/-- a shard asks for its first connection -/
def opening (profile : ShardProfile) (address : ShardAddress) (now : Nat) : Logbook :=
  (blank profile address now).step now (.meet .timeout)

def run (l : Logbook) (moves : List (Nat × Runner.Move)) : Logbook := moves.foldl (fun l e => l.step e.1 e.2) l

/-- the moves since the last connection was opened, with the one that opened it -/
def connection (l : Logbook) : List Runner.Entry :=
  l.entries.foldl (fun es e => if e.opensLine then [e] else es ++ [e]) []

/-- the frames sent on the last connection -/
def frames (l : Logbook) : List Act := l.connection.flatMap Runner.Entry.frames

/-- the client's part of the handshake, as far as it was sent on the last connection -/
def handshakes (l : Logbook) : List Message := (l.connection.flatMap Runner.Entry.writes).filter (·.op.isHandshake)

variable {p : ShardProfile} {now : Nat} {v : Runner.Move} {l : Logbook}

/-- What one move keeps, a run keeps. -/
theorem run_keeps {P : Logbook → Prop} (h : ∀ now v l, P l → P (l.step now v)) (moves : List (Nat × Runner.Move))
    (hl : P l) : P (l.run moves) :=
  List.foldlRecOn moves _ (motive := P) hl fun l hl e _ => h e.1 e.2 l hl

/-- the move that comes next -/
def entry (now : Nat) (v : Runner.Move) (l : Logbook) : Runner.Entry := ⟨now, v, l.runner⟩

theorem entry_acts (now : Nat) (v : Runner.Move) (l : Logbook) : (l.entry now v).acts = (l.runner.step now v).acts := rfl

theorem step_allowed (hv : v.isAllowed = true) (now : Nat) (l : Logbook) :
    l.step now v = ⟨(l.runner.step now v).runner, l.journal.steps now (l.runner.step now v).steps,
      l.entries ++ [l.entry now v]⟩ := if_pos hv

theorem step_refused (hv : v.isAllowed = false) (now : Nat) (l : Logbook) : l.step now v = l := by simp [step, hv]

theorem step_connection (hv : v.isAllowed = true) (now : Nat) (l : Logbook) :
    (l.step now v).connection =
      (if (l.entry now v).opensLine then [] else l.connection) ++ [l.entry now v] := by
  rw [step_allowed hv]
  simp only [connection, List.foldl_append, List.foldl_cons, List.foldl_nil]
  split <;> rfl

end Logbook

/-! ## What the steps of a shard send -/

namespace Shard

/-- Breaking off says nothing that a step would not say. -/
theorem stepClocked_filter {P : Act → Bool} (publish : ∀ st, P (.publish st) = false) (dial : ∀ u, P (.dial u) = false)
    (withdraw : P .withdraw = false) (hangUp : P .hangUp = false) (answer : ∀ i f, P (.answer i f) = false) (now : Nat)
    (x : Stimulus) (s : Shard) : (s.stepClocked now x).acts.filter P = (s.step now x).acts.filter P := by
  have aborts (s : Shard) : (abort s).acts.filter P = [] :=
    List.filter_eq_nil_iff.2 fun a ha => by
      have := forall_abort (P := fun a => P a = false) s withdraw hangUp answer a ha
      simp [this]
  rcases clocked_cases now x s with ⟨-, eq⟩ | ⟨-, rfl, -, -, dials, -, eq⟩ | ⟨-, -, -, -, eq⟩
  · rw [eq]
  · rw [eq, dials, dial_eq, aborts, List.filter_append]
    have shown : (announce .connecting s).filter P = [] :=
      List.filter_eq_nil_iff.2 fun a ha => by simp [eq_of_mem_announce ha, publish]
    simp [shown, dial]
  · rw [eq, Turn.next, List.filter_append, aborts, List.append_nil]

theorem stepClocked_frames (now : Nat) (x : Stimulus) (s : Shard) :
    (s.stepClocked now x).acts.filter Act.isFrame = (s.step now x).acts.filter Act.isFrame :=
  stepClocked_filter (fun _ => rfl) (fun _ => rfl) rfl rfl (fun _ _ => rfl) now x s

/-- Messages are frames. -/
theorem filterMap_message? (acts : List Act) :
    acts.filterMap Act.message? = (acts.filter Act.isFrame).filterMap Act.message? := by
  induction acts with
  | nil => rfl
  | cons a acts ih => cases a <;> simp [Act.isFrame, Act.message?, List.filterMap_cons, List.filter_cons, ih]

theorem stepClocked_messages (now : Nat) (x : Stimulus) (s : Shard) :
    (s.stepClocked now x).acts.filterMap Act.message? = (s.step now x).acts.filterMap Act.message? := by
  rw [filterMap_message?, stepClocked_frames, ← filterMap_message?]

/-- A message goes out on a connection that is there, and stays. -/
theorem step_writes {now : Nat} {x : Stimulus} {s : Shard} {m : Message}
    (sent : m ∈ (s.step now x).acts.filterMap Act.message?) :
    s.isOnline = true ∧ (s.step now x).shard.isOnline = true := by
  have written : .write m ∈ (s.step now x).acts := by
    obtain ⟨a, ha, hm⟩ := List.mem_filterMap.1 sent
    cases a <;> cases hm
    exact ha
  have ho := step_outcome now x s
  generalize s.step now x = t at ho written ⊢
  cases ho with
  | idles shard mailbox acts kept => cases acts _ written
  | tends c' online abreast shard => exact ⟨isOnline_of_online online, by rw [shard]; rfl⟩
  | dials waiting =>
    rw [dial_eq] at written
    rcases List.mem_append.1 written with shown | other
    · cases eq_of_mem_announce shown
    · cases List.mem_singleton.1 other
  | opens dialling => cases eq_of_mem_announce written
  | resumes online | queues online | identifies online | readies online | revives online =>
    exact ⟨isOnline_of_online online, rfl⟩
  | passes online => exact ⟨isOnline_of_online online, isOnline_of_online online⟩
  | ends he => cases he.acts _ written

/-- A connection that is lost is not there. -/
theorem step_dropped (now : Nat) {s : Shard} (online : s.isOnline = true) :
    (s.step now .dropped).shard.isOnline = false := by
  obtain ⟨c, queued, hp⟩ := online_of_isOnline online
  have ending : s.ending? now .dropped = some .lost := by simp [ending?, hp, endingOnline?]
  exact isOnline_of_isOffline (step_concludes ending).offline

/-- Without a connection there are no frames. -/
theorem online_of_frame {now : Nat} {x : Stimulus} {s : Shard} {a : Act}
    (ha : a ∈ (s.step now x).acts) (frame : a.isFrame = true) : s.isOnline = true := by
  cases online : s.isOnline with
  | true => rfl
  | false =>
    have sent := List.mem_filter.2 ⟨ha, frame⟩
    rw [step_frames_offline online] at sent
    cases sent

/-- A shard that is stopped by force sends nothing. -/
theorem unforced_of_frame {now : Nat} {x : Stimulus} {s : Shard} {a : Act}
    (frame : (s.step now x).acts.find? Act.isFrame = some a) : x ≠ .abort := by
  rintro rfl
  have silent := forall_abort (P := fun a => a.isFrame = false) s rfl rfl (fun _ _ => rfl) a
    (List.mem_of_find?_eq_some frame)
  cases silent.symm.trans (List.find?_some frame)

/-- A connection opens without a word of the shard. -/
theorem unopened_of_frame {now : Nat} {x : Stimulus} {s : Shard} {a : Act}
    (frame : (s.step now x).acts.find? Act.isFrame = some a) : x ≠ .opened := by
  rintro rfl
  have mem := List.mem_of_find?_eq_some frame
  have framed : a.isFrame = true := List.find?_some frame
  cases hp : s.phase with
  | dialling resume deadline =>
    simp only [step, hp, goOn, publish_eq, Turn.still, Turn.next_mk, List.nil_append] at mem
    cases eq_of_mem_announce mem
    cases framed
  | online | waiting | ended => simp [step, hp, stepOnline, Turn.still] at mem

/-- What reaches a shard that waits leaves its session alone, and is answered with no handshake. -/
theorem step_passing {now : Nat} {x : Stimulus} {s : Shard} (h : s.HoldsCommands) (passing : Runner.passes x = true)
    (goesOn : (s.step now x).shard.isOnline = true) :
    (s.step now x).shard.resume? = s.resume? ∧
      ∀ m ∈ (s.step now x).acts.filterMap Act.message?, m.op.isHandshake = false := by
  have ho := step_outcome now x s
  generalize s.step now x = t at ho goesOn ⊢
  cases ho with
  | idles shard mailbox acts kept =>
    refine ⟨by rw [shard]; rfl, fun m hm => ?_⟩
    obtain ⟨a, ha, hm⟩ := List.mem_filterMap.1 hm
    have answer := acts a ha
    cases a with
    | answer => cases hm
    | _ => cases answer
  | tends c' online abreast shard mailbox acts kept =>
    refine ⟨by rw [shard]; rfl, fun m hm => ?_⟩
    obtain ⟨a, ha, hm⟩ := List.mem_filterMap.1 hm
    rcases acts a ha with answer | rfl | ⟨ticket, m', rfl, sent, -⟩
    · cases a with
      | answer => cases hm
      | _ => cases answer
    · cases hm
      rfl
    · cases hm
      exact OpCode.not_isHandshake_of_isCommand (h ticket m sent)
  | dials | opens | resumes | queues | identifies | passes | readies | revives => cases passing
  | ends he => cases (isOnline_of_isOffline he.offline).symm.trans goesOn

/-- the client's part of a handshake, as a shard sends it now: an Identify, or a Resume of its session -/
def Offers (s : Shard) (m : Message) : Prop := m.op = .identify ∨ ∃ p, m = .resume p ∧ s.resume? = some p

theorem Offers.isHandshake {s : Shard} {m : Message} (h : s.Offers m) : m.op.isHandshake = true := by
  rcases h with op | ⟨p, rfl, -⟩
  · rw [op]; rfl
  · rfl

/-- A step whose last act begins the time of a handshake on a connection sends nothing else. -/
theorem step_begins {now : Nat} {x : Stimulus} {s : Shard} (h : s.HoldsCommands) (timed : (s.step now x).isTimed = true)
    {m : Message} (frame : (s.step now x).acts.find? Act.isFrame = some (.write m)) :
    (s.step now x).acts.filter Act.isFrame = [.write m] ∧ s.isOnline = true ∧
      (s.step now x).shard.isOnline = true ∧ (s.step now x).shard.Offers m := by
  have sent : .write m ∈ (s.step now x).acts.filter Act.isFrame :=
    List.mem_filter.2 ⟨List.mem_of_find?_eq_some frame, rfl⟩
  obtain ⟨a, last, begins⟩ := (Option.any_eq_true _ _).1 timed
  have mem := List.mem_of_getLast? last
  have ho := step_outcome now x s
  generalize s.step now x = t at ho sent mem frame ⊢
  cases ho with
  | idles shard mailbox acts kept =>
    have answer := acts a mem
    cases a with
    | answer => cases begins
    | _ => cases answer
  | tends c' online abreast shard mailbox acts kept =>
    rcases acts a mem with answer | rfl | ⟨ticket, m', rfl, sent, -⟩
    · cases a with
      | answer => cases begins
      | _ => cases answer
    · cases begins
    · cases (OpCode.not_isHandshake_of_isCommand (h ticket m' sent)).symm.trans begins
  | dials waiting =>
    simp only [dial_eq, List.filter_append, List.mem_append, List.mem_filter, List.mem_singleton] at sent
    rcases sent with ⟨shown, -⟩ | ⟨other, -⟩
    · cases eq_of_mem_announce shown
    · cases other
  | opens dialling =>
    cases eq_of_mem_announce (List.mem_filter.1 sent).1
  | @resumes text draw c queued hello p online awaiting event resuming session writable =>
    have only : (announce .identifying s ++ [Act.write (.resume p)]).filter Act.isFrame = [.write (.resume p)] := by
      rw [List.filter_append, filter_isFrame_reports fun a ha => isReport_of_announce ha]
      rfl
    rw [only] at sent ⊢
    cases List.mem_singleton.1 sent
    exact ⟨rfl, isOnline_of_online online, rfl, .inr ⟨p, rfl, session⟩⟩
  | queues online =>
    rcases List.mem_append.1 (List.mem_filter.1 sent).1 with shown | other
    · cases eq_of_mem_announce shown
    · cases List.mem_singleton.1 other
  | identifies online =>
    cases List.mem_singleton.1 sent
    exact ⟨rfl, isOnline_of_online online, rfl, .inl rfl⟩
  | passes => simp at sent
  | readies | revives =>
    rcases List.mem_append.1 (List.mem_filter.1 sent).1 with shown | other
    · cases eq_of_mem_announce shown
    · cases List.mem_singleton.1 other
  | ends he => cases he.acts _ (List.mem_filter.1 sent).1

end Shard

namespace Journal

variable {p : ShardProfile} {now : Nat} {x : Stimulus} {j : Journal}

theorem step_wire (hx : x.isAllowed = true) (now : Nat) (j : Journal) :
    (j.step now x).wire =
      (if j.shard.opensLine x then [] else j.wire) ++ (j.shard.step now x).acts.filterMap Act.message? := by
  rw [step_eq hx, Annals.notes_wire]
  rfl

theorem step_hellos (hx : x.isAllowed = true) (now : Nat) (j : Journal) :
    (j.step now x).hellos = (if j.shard.opensLine x then [] else j.hellos) ++ (j.shard.helloOf? x).toList := by
  rw [step_eq hx, Annals.notes_hellos]
  rfl

theorem abort_wire (now : Nat) (j : Journal) : (j.step now .abort).wire = j.wire := by
  have silent : (Shard.abort j.shard).acts.filterMap Act.message? = [] :=
    List.filterMap_eq_nil_iff.2 (Shard.forall_abort j.shard rfl rfl fun _ _ => rfl)
  have closed : j.shard.opensLine .abort = false := j.shard.opensLine_eq_false (by simp)
  rw [step_wire rfl, closed]
  exact (congrArg (j.wire ++ ·) silent).trans (List.append_nil _)

theorem abort_hellos (now : Nat) (j : Journal) : (j.step now .abort).hellos = j.hellos := by
  have none : j.shard.helloOf? .abort = none := by
    unfold Shard.helloOf?
    split
    · next hx => cases hx
    · rfl
  have closed : j.shard.opensLine .abort = false := j.shard.opensLine_eq_false (by simp)
  rw [step_hellos rfl, closed, none]
  exact List.append_nil _

/-- Breaking off leaves what was said as it is. -/
theorem clocked_wire (hx : x.isAllowed = true) (now : Nat) (j : Journal) :
    (j.steps now (j.shard.clocked now x)).wire = (j.step now x).wire ∧
      (j.steps now (j.shard.clocked now x)).hellos = (j.step now x).hellos := by
  rcases Shard.clocked_cases now x j.shard with ⟨only, -⟩ | ⟨-, rfl, -, -, dials, only, -⟩ | ⟨-, -, -, both, -⟩
  · rw [only]
    exact ⟨rfl, rfl⟩
  · have silent : (Shard.dial now j.shard).acts.filterMap Act.message? = [] := by
      rw [Shard.dial_eq]
      exact List.filterMap_eq_nil_iff.2 (Shard.forall_announce rfl (by simp [Act.message?]))
    have unheard : j.shard.helloOf? .timeout = none := by
      unfold Shard.helloOf?
      split
      · next hx => cases hx
      · rfl
    have closed : j.shard.opensLine .timeout = false := j.shard.opensLine_eq_false (by simp)
    rw [only, steps, List.foldl_cons, List.foldl_nil, abort_wire, abort_hellos, step_wire rfl, step_hellos rfl, closed,
      unheard, dials, silent]
    exact ⟨(List.append_nil _).symm, (List.append_nil _).symm⟩
  · rw [both, steps, List.foldl_cons, List.foldl_cons, List.foldl_nil, abort_wire, abort_hellos]
    exact ⟨rfl, rfl⟩

theorem steps_shard {xs : List Stimulus} (hx : ∀ x ∈ xs, x.isAllowed = true) (now : Nat) (j : Journal) :
    (j.steps now xs).shard = (j.shard.steps now xs).shard := by
  have along (xs : List Stimulus) (hx : ∀ x ∈ xs, x.isAllowed = true) (j : Journal) (t : Shard.Turn)
      (same : j.shard = t.shard) :
      (j.steps now xs).shard = (xs.foldl (fun t x => t.next (Shard.step now x)) t).shard := by
    induction xs generalizing j t with
    | nil => exact same
    | cons x xs ih =>
      refine ih (fun y hy => hx y (List.mem_cons_of_mem x hy)) (j.step now x) (t.next (Shard.step now x)) ?_
      rw [step_shard (hx x List.mem_cons_self), same]
      rfl
  exact along xs hx j (.still j.shard) rfl

/-- What every step keeps, steps one after the other keep. -/
theorem steps_keep {P : Journal → Prop} (h : ∀ x j, P j → P (j.step now x)) (xs : List Stimulus) (hj : P j) :
    P (j.steps now xs) :=
  List.foldlRecOn xs _ (motive := P) hj fun j hj x _ => h x j hj

theorem clocked_allowed (hx : x.isAllowed = true) (now : Nat) (s : Shard) :
    ∀ y ∈ s.clocked now x, y.isAllowed = true := by
  rcases Shard.clocked_cases now x s with ⟨eq, -⟩ | ⟨-, -, -, -, -, eq, -⟩ | ⟨-, -, -, eq, -⟩ <;> simp [eq, hx] <;> rfl

/-- what is known of every journal of a shard -/
structure Sound (p : ShardProfile) (j : Journal) : Prop where
  faithful : j.Faithful p
  prepared : j.Prepared

theorem Sound.steps (h : Sound p j) (now : Nat) (xs : List Stimulus) : Sound p (j.steps now xs) :=
  steps_keep (P := Sound p) (fun x _ h =>
    ⟨step_faithful now x h.faithful, step_prepared now x h.faithful h.prepared⟩) xs h

theorem sound_blank (p : ShardProfile) (address : ShardAddress) (now : Nat) : Sound p (blank p address now) := by
  refine ⟨?_, ?_⟩ <;> constructor <;> simp [blank, Shard.fresh]

end Journal

namespace Shard

/-- A connection that opens is there. -/
theorem isOnline_of_opensLine {now : Nat} {x : Stimulus} {s : Shard} (opens : s.opensLine x = true) :
    (s.stepClocked now x).shard.isOnline = true := by
  have away := offline_of_opensLine opens
  unfold opensLine at opens
  split at opens
  · next resume deadline hp =>
    have step : (s.step now .opened).shard.isOnline = true := by
      simp [step, hp, goOn, publish_eq, Turn.still, Turn.next_mk, isOnline]
    rcases clocked_cases now .opened s with ⟨-, eq⟩ | ⟨-, other, -⟩ | ⟨-, online, -⟩
    · rw [eq]
      exact step
    · cases other
    · cases away.symm.trans online
  · cases opens

/-- Where a connection is left, the clock has not ended. -/
theorem stepClocked_online {now : Nat} {x : Stimulus} {s : Shard}
    (online : (s.stepClocked now x).shard.isOnline = true) :
    s.stepClocked now x = s.step now x := by
  have ended {s : Shard} (h : (abort s).shard.isOnline = true) : False := by
    cases (isOnline_of_isEnded (abort_ends s)).symm.trans h
  rcases clocked_cases now x s with ⟨-, eq⟩ | ⟨-, -, -, -, -, -, eq⟩ | ⟨-, -, -, -, eq⟩
  · exact eq
  · exact (ended (eq ▸ online)).elim
  · exact (ended (eq ▸ online)).elim

theorem stepClocked_abort (now : Nat) (s : Shard) : s.stepClocked now .abort = abort s := by
  rcases clocked_cases now .abort s with ⟨-, eq⟩ | ⟨-, other, -⟩ | ⟨-, -, goesOn, -⟩
  · exact eq
  · cases other
  · cases (isOnline_of_isEnded (abort_ends s)).symm.trans goesOn

/-- A connection stays when its heartbeat beats. -/
theorem step_beat_online (now : Nat) {s : Shard} (online : s.isOnline = true) :
    (s.step now .beat).shard.isOnline = true := by
  obtain ⟨c, queued, hp⟩ := online_of_isOnline online
  simp [step, hp, stepOnline, goOn, Turn.next, Turn.still, isOnline]

/-- Only an open connection opens, on a clock that ends as well. -/
theorem opensLine_of_stepClocked {now : Nat} {x : Stimulus} {s : Shard} (offline : s.isOnline = false)
    (online : (s.stepClocked now x).shard.isOnline = true) : s.opensLine x = true :=
  opensLine_of_online offline (stepClocked_online online ▸ online)

/-- A connection opens where there was none, and there is one now. -/
theorem opensLine_eq (now : Nat) (x : Stimulus) (s : Shard) :
    (!s.isOnline && (s.stepClocked now x).shard.isOnline) = s.opensLine x := by
  cases opens : s.opensLine x with
  | true => simp [offline_of_opensLine opens, isOnline_of_opensLine opens]
  | false =>
    cases here : s.isOnline with
    | true => rfl
    | false =>
      refine Bool.eq_false_iff.2 fun online => ?_
      cases opens.symm.trans (opensLine_of_stepClocked here (by simpa using online))

end Shard

namespace Runner

theorem isShown_of_mem {acts : List Act} {a : Act} (h : a ∈ acts.takeWhile isShown) : isShown a = true :=
  List.all_eq_true.1 List.all_takeWhile a h

/-- What is shown before a connection is closed is no frame. -/
theorem takeWhile_frames (acts : List Act) : (acts.takeWhile isShown).filter Act.isFrame = [] :=
  Shard.filter_isFrame_nil fun a ha => by
    have shown := isShown_of_mem ha
    cases a <;> first | rfl | cases shown

theorem dropWhile_frames (acts : List Act) : (acts.dropWhile isShown).filter Act.isFrame = acts.filter Act.isFrame := by
  have whole := congrArg (List.filter Act.isFrame) (acts.takeWhile_append_dropWhile (p := isShown))
  rwa [List.filter_append, takeWhile_frames] at whole

/-- without a connection nobody waits -/
def Tidy (r : Runner) : Prop :=
  r.shard.isOnline = false → r.hand = none ∧ r.outbox.waiting = [] ∧ r.extended = none

theorem follow_tidy (s : Shard) (r : Runner) : (r.follow s).Tidy := by
  intro offline
  rw [follow_shard] at offline
  rw [follow_offline offline]
  exact ⟨rfl, rfl, rfl⟩

theorem Tidy.online_of_hand {r : Runner} (h : r.Tidy) {k : Hand} (busy : r.hand = some k) : r.shard.isOnline = true := by
  cases online : r.shard.isOnline with
  | true => rfl
  | false => cases (h online).1.symm.trans busy

theorem handshake?_of_hand {r : Runner} {m : Message} (h : r.hand = some (.handshake m)) : r.handshake? = some m := by
  simp [handshake?, h]

theorem hand_of_handshake? {r : Runner} {m : Message} (h : r.handshake? = some m) : r.hand = some (.handshake m) := by
  unfold handshake? at h
  split at h
  · next hand => exact hand.trans (congrArg _ (congrArg _ (Option.some.inj h)))
  · cases h

theorem perform_tidy (now : Nat) (x : Stimulus) (r : Runner) : (r.perform now x).runner.Tidy := follow_tidy _ _

/-- A step takes nothing into the hand of the shard. -/
theorem perform_hand (now : Nat) (x : Stimulus) (r : Runner) :
    (r.perform now x).runner.hand = none ∨ (r.perform now x).runner.hand = r.hand := by
  rw [perform, follow]
  split
  · exact .inr rfl
  · exact .inl rfl

/-- A runner stays tidy while nothing happens to its shard. -/
theorem Tidy.eased {r q : Runner} (h : r.Tidy) (eased : Eased r q)
    (busy : q.hand = r.hand ∨ q.hand = some .command ∧ r.shard.isOnline = true) : q.Tidy := by
  intro offline
  have away : r.shard.isOnline = false := eased.shard ▸ offline
  obtain ⟨free, none, untimed⟩ := h away
  refine ⟨?_, List.eq_nil_iff_forall_not_mem.2 fun w hw => ?_, eased.extended.trans untimed⟩
  · rcases busy with same | ⟨-, online⟩
    · exact same.trans free
    · cases away.symm.trans online
  · have hw := eased.waiting w hw
    rw [none] at hw
    cases hw

/-- Without a connection nothing waits: the shard makes its step at once, or nothing happens to it. -/
theorem step_offline (now : Nat) (v : Move) {r : Runner} (tidy : r.Tidy)
    (offline : r.shard.isOnline = false) :
    ((r.step now v).runner.shard = r.shard ∧ (r.step now v).steps = [] ∧ ∀ a ∈ (r.step now v).acts, a.isAnswer = true) ∨
      ∃ x, r.dealt? v = some x ∧ (r.step now v).steps = r.shard.clocked now x ∧
        (⟨(r.step now v).runner.shard, (r.step now v).acts⟩ : Shard.Turn) = r.shard.stepClocked now x := by
  have never {x : Stimulus} {a : Act} (frame : (r.shard.step now x).acts.find? Act.isFrame = some a) : False := by
    cases offline.symm.trans
      (Shard.online_of_frame (List.mem_of_find?_eq_some frame) (List.find?_some frame))
  obtain ⟨free, waiting, -⟩ := tidy offline
  have hc := step_course now v r
  generalize r.step now v = t at hc ⊢
  cases hc with
  | rests eased pending busy answers => exact .inl ⟨eased.shard, rfl, answers⟩
  | @makes _ x q deals eased hand =>
    exact .inr ⟨x, deals, by rw [perform, eased.shard], eased.performs now x⟩
  | parts deals waited => cases free.symm.trans waited
  | begins deals eased _ _ _ frame | postpones deals eased _ _ _ frame | prepares deals eased _ _ _ frame =>
    exact (never (eased.shard ▸ frame)).elim
  | holds room frame =>
    obtain ⟨a, ha, framed⟩ := List.any_eq_true.1 frame
    cases offline.symm.trans (Shard.online_of_frame ha framed)
  | sends waited =>
    rw [waiting] at waited
    cases waited
  | writes waited => cases free.symm.trans (hand_of_handshake? waited)

/-- A shard that has ended does nothing but answer callers. -/
theorem step_ended (now : Nat) (v : Move) {r : Runner} (tidy : r.Tidy)
    (ended : r.shard.isEnded = true) :
    (r.step now v).runner.shard.isEnded = true ∧ (r.step now v).runner.shard.status = r.shard.status ∧
      ∀ a ∈ (r.step now v).acts, a.isAnswer = true := by
  have offline := Shard.isOnline_of_isEnded ended
  rcases step_offline now v tidy offline with ⟨shard, -, answers⟩ | ⟨x, -, -, turn⟩
  · rw [shard]
    exact ⟨ended, rfl, answers⟩
  · have whole : r.shard.stepClocked now x = r.shard.step now x := by
      rcases Shard.clocked_cases now x r.shard with ⟨-, eq⟩ | ⟨-, -, -, running, -⟩ | ⟨-, online, -⟩
      · exact eq
      · cases running.symm.trans ended
      · cases offline.symm.trans online
    have finished := Shard.step_ended now x ended
    rwa [← whole, ← turn] at finished

end Runner

end Shardwire
