import Shardwire.Proofs.Shard.Clock
import Shardwire.Shard.Runner

/-
What one move of a runner can do.

A runner makes nothing but steps of its shard (`step_shard`), so what every step of a shard keeps is kept by a runner,
too. What it adds is when these steps are made and when their frames are sent. `Course` lists the ways a move can go:
the shard makes a step, or begins to wait before one or in the middle of one, or goes on with what it waited with; the
heartbeat waits or is served. `step_course`: there are no others.

While nothing holds the shard up, a move is a step of the shard (`meet_free`).
-/

namespace Shardwire.Runner

open Shard (Stimulus Act)

/-! ## Steps of the shard -/

/-- whether a stimulus reaches a shard that waits for room as well -/
def passes : Stimulus → Bool
  | .submit _ _ | .stop | .abandon | .abort | .receiverGone | .beat => true
  | _ => false

/-- how a frame of the shard is taken now -/
def outlet (r : Runner) : Outlet := if r.shard.isWritable then if r.outbox.hasRoom then .free else .full else .closed

/-- the handshake that waits for room -/
def handshake? (r : Runner) : Option Message :=
  match r.hand with
  | some (.handshake m) => some m
  | _ => none

/-- `q` is `r` but for the frames in the outbox, the budget, and what may have been let go of -/
structure Eased (r q : Runner) : Prop where
  shard : q.shard = r.shard
  extended : q.extended = r.extended
  waiting : ∀ w ∈ q.outbox.waiting, w ∈ r.outbox.waiting

/-- what the shard comes to deal with; a handshake that will not go out is a connection lost -/
def dealt? (r : Runner) : Move → Option Stimulus
  | .meet x => if r.hand.isNone || passes x then some x else none
  | .serve =>
    match r.outbox.waiting.head?, r.hand with
    | some .shard, some (.reply x) => some x
    | some .shard, some (.parting x) => some x
    | some .shard, some (.handshake _) => if r.shard.isWritable then none else some .dropped
    | _, _ => none
  | .refill =>
    match r.hand with
    | some .command => some .take
    | _ => none

/-- the ways a move of a runner can go -/
inductive Course (now : Nat) (r : Runner) : Move → Turn → Prop where
  /-- nothing happens to the shard -/
  | rests {v : Move} {r' : Runner} {acts : List Act} (eased : Eased r r') (pending : r'.handshake? = r.handshake?)
      (busy : r'.hand = r.hand ∨ r'.hand = some .command ∧ r.shard.isOnline = true)
      (answers : ∀ a ∈ acts, a.isAnswer = true) : Course now r v ⟨r', [], acts⟩
  /-- the shard makes a step -/
  | makes {v : Move} {x : Stimulus} {q : Runner} (deals : r.dealt? v = some x) (eased : Eased r q)
      (hand : q.hand = none ∧ (r.handshake? = none ∨ x = .dropped) ∨ passes x = true ∧ q.hand = r.hand) :
      Course now r v (q.perform now x)
  /-- the shard makes the step it waited to make, and closes its connection -/
  | parts {x : Stimulus} {q : Runner} (deals : r.dealt? .serve = some x) (waited : r.hand = some (.parting x))
      (eased : Eased r q) (hand : q.hand = none) :
      Course now r .serve ⟨(q.perform now x).runner, (q.perform now x).steps, (q.perform now x).acts.dropWhile isShown⟩
  /-- the shard waits for room in the middle of a step that writes a handshake -/
  | begins {v : Move} {x : Stimulus} {q : Runner} {m : Message} (deals : r.dealt? v = some x) (eased : Eased r q)
      (free : r.handshake? = none) (hand : q.hand = none) (room : q.outbox.hasRoom = false)
      (frame : (q.shard.step now x).acts.find? Act.isFrame = some (.write m))
      (timed : (q.shard.step now x).isTimed = true) :
      Course now r v
        ⟨{ q with shard := (q.shard.step now x).shard, hand := some (.handshake m), outbox := q.outbox.await .shard }, [x],
          (q.shard.step now x).acts.filter fun a => !a.isFrame⟩
  /-- the shard waits for room before a step -/
  | postpones {v : Move} {x : Stimulus} {q : Runner} {m : Message} (deals : r.dealt? v = some x) (eased : Eased r q)
      (free : r.handshake? = none) (hand : q.hand = none) (room : q.outbox.hasRoom = false)
      (frame : (q.shard.step now x).acts.find? Act.isFrame = some (.write m))
      (untimed : (q.shard.step now x).isTimed = false) :
      Course now r v (.still { q with hand := some (.reply x), outbox := q.outbox.await .shard })
  /-- the shard waits for room before a step that closes its connection -/
  | prepares {v : Move} {x : Stimulus} {q : Runner} {c : Closure} (deals : r.dealt? v = some x) (eased : Eased r q)
      (free : r.handshake? = none) (hand : q.hand = none) (room : q.outbox.hasRoom = false)
      (frame : (q.shard.step now x).acts.find? Act.isFrame = some (.close c)) :
      Course now r v
        ⟨{ q with hand := some (.parting x), outbox := q.outbox.dropBeats.await .shard }, [],
          (q.shard.step now x).acts.takeWhile isShown⟩
  /-- a beat that finds no room -/
  | holds (room : r.outbox.hasRoom = false)
      (frame : (r.shard.step now .beat).acts.any Act.isFrame = true) :
      Course now r (.meet .beat)
        ⟨{ r with shard := (r.shard.step now .beat).shard, outbox := r.outbox.await (.beat r.shard.sequence) },
          [.beat], []⟩
  /-- a beat that waited goes out -/
  | sends {q : Runner} {seq : Sequence} (waited : .beat seq ∈ r.outbox.waiting) (eased : Eased r q)
      (hand : q.hand = r.hand) : Course now r .serve ⟨q, [], [.write (.heartbeat seq)]⟩
  /-- a handshake that waited is written -/
  | writes {q : Runner} {m : Message} (waited : r.handshake? = some m) (eased : Eased r { q with extended := r.extended })
      (hand : q.hand = none) (extended : q.extended = some (now + r.shard.profile.identifyTimeout)) :
      Course now r .serve (if r.shard.outlasts now then Turn.next ⟨q, [], [.write m]⟩ (perform now .abort)
        else ⟨q, [], [.write m]⟩)

variable {now : Nat} {r q : Runner} {v : Move} {x : Stimulus}

/-! ## Steps and connections -/

@[simp] theorem follow_shard (s : Shard) (r : Runner) : (r.follow s).shard = s := by
  unfold follow
  split <;> rfl

theorem follow_online {s : Shard} (online : s.isOnline = true) (r : Runner) : r.follow s = { r with shard := s } :=
  if_pos online

theorem follow_offline {s : Shard} (offline : s.isOnline = false) (r : Runner) : r.follow s = idle s := by
  simp [follow, offline]

@[simp] theorem perform_shard (now : Nat) (x : Stimulus) (r : Runner) :
    (r.perform now x).runner.shard = (r.shard.stepClocked now x).shard := follow_shard _ _

theorem deal_of_room (room : r.outbox.hasRoom = true) : r.deal now x = r.perform now x := by
  unfold deal
  split
  · exact if_pos room
  · rfl

theorem deal_of_silent (silent : (r.shard.step now x).acts.filter Act.isFrame = []) :
    r.deal now x = r.perform now x := by
  rw [deal, ← List.head?_filter, silent]
  rfl

theorem deal_of_full (full : r.outbox.hasRoom = false) {m : Message}
    (frame : (r.shard.step now x).acts.find? Act.isFrame = some (.write m))
    (timed : (r.shard.step now x).isTimed = true) :
    r.deal now x = ⟨{ r with
      shard := (r.shard.step now x).shard
      hand := some (.handshake m)
      outbox := r.outbox.await .shard }, [x], (r.shard.step now x).acts.filter fun a => !a.isFrame⟩ := by
  simp only [deal, frame, full, Bool.false_eq_true, if_false, suspend, timed, if_true]

namespace Eased

theorem refl (r : Runner) : Eased r r := ⟨rfl, rfl, fun _ h => h⟩

theorem freed (h : Eased r q) (hand : Option Hand) : Eased r { q with hand := hand } := { h with }

theorem granted (h : Eased r q) (b : Budget) : Eased r { q with budget := b } := { h with }

theorem muffled (h : Eased r q) (muted : Bool) : Eased r { q with muted := muted } := { h with }

/-- whoever is served waits no longer -/
theorem taken (r : Runner) : Eased r { r with outbox := r.outbox.taken } :=
  ⟨rfl, rfl, fun _ h => List.mem_of_mem_tail h⟩

theorem filled (h : Eased r q) (n : Nat) : Eased r { q with outbox := q.outbox.put n } := { h with }

theorem dropped (r : Runner) : Eased r { r with outbox := r.outbox.dropBeats } :=
  ⟨rfl, rfl, fun _ h => (List.mem_filter.1 h).1⟩

/-- A step that is made at once is the step of the shard. -/
theorem performs (h : Eased r q) (now : Nat) (x : Stimulus) :
    (⟨(q.perform now x).runner.shard, (q.perform now x).acts⟩ : Shard.Turn) = r.shard.stepClocked now x := by
  rw [perform_shard, perform, h.shard]

end Eased

/-! ## There are no others -/

theorem deal_course (deals : r.dealt? v = some x) (eased : Eased r q) (free : r.handshake? = none)
    (hand : q.hand = none) :
    Course now r v (q.deal now x) := by
  unfold deal
  split
  · next frame found =>
    split
    · exact .makes deals eased (.inl ⟨hand, .inl free⟩)
    · next full =>
      have room : q.outbox.hasRoom = false := Bool.eq_false_iff.2 full
      unfold suspend
      cases frame with
      | close c => exact .prepares deals eased free hand room found
      | write m =>
        dsimp only
        split
        · next timed => exact .begins deals eased free hand room found timed
        · next untimed => exact .postpones deals eased free hand room found (Bool.eq_false_iff.2 untimed)
      | _ => cases (List.find?_some found : _ = true)
  · exact .makes deals eased (.inl ⟨hand, .inl free⟩)

theorem take_course (deals : r.dealt? v = some .take) (eased : Eased r q) (free : r.handshake? = none)
    (hand : q.hand = none) : Course now r v (q.take now) := by
  unfold take
  split
  · next sends =>
    have online : r.shard.isOnline = true := by
      rw [eased.shard] at sends
      unfold Shard.sendsNext at sends
      unfold Shard.isOnline
      split at sends
      · next hp _ => simp [hp]
      · cases sends
    split
    · exact deal_course deals (eased.granted _) free hand
    · exact .rests (eased.freed _) free.symm (.inr ⟨rfl, online⟩) (by simp)
  · exact deal_course deals eased free hand

theorem handshake?_of_free (free : r.hand = none) : r.handshake? = none := by simp [handshake?, free]

theorem meet_course (now : Nat) (x : Stimulus) (r : Runner) : Course now r (.meet x) (r.meet now x) := by
  have still : Course now r (.meet x) (.still r) := .rests (.refl r) rfl (.inl rfl) (by simp)
  have aside (passing : passes x = true) : Course now r (.meet x) (r.perform now x) :=
    .makes (by simp [dealt?, passing]) (.refl r) (.inr ⟨passing, rfl⟩)
  have free (busy : ¬ r.hand.isSome = true) : r.hand = none := by simpa using busy
  have deals (busy : ¬ r.hand.isSome = true) : r.dealt? (.meet x) = some x := by simp [dealt?, free busy]
  cases x with
  | submit ticket m =>
    simp only [meet]
    split
    · exact .rests (.refl r) rfl (.inl rfl) (by simp [Act.isAnswer])
    · exact aside rfl
  | stop | abandon | abort => exact aside rfl
  | receiverGone => exact .makes (by simp [dealt?, passes]) ((Eased.dropped r).muffled _) (.inr ⟨rfl, rfl⟩)
  | beat =>
    simp only [meet, beat]
    split
    · exact still
    · split
      · next held =>
        obtain ⟨frame, room⟩ := Bool.and_eq_true_iff.1 held
        exact .holds (by simpa using room) frame
      · exact aside rfl
  | take =>
    simp only [meet]
    split
    · exact still
    · next busy => exact take_course (deals busy) (.refl r) (handshake?_of_free (free busy)) (free busy)
  | timeout =>
    simp only [meet]
    split
    · exact still
    · next busy =>
      unfold expire
      split
      · exact still
      · exact deal_course (deals busy) (.refl r) (handshake?_of_free (free busy)) (free busy)
  | opened | refused | text _ _ | closed _ | dropped | granted | missed =>
    simp only [meet]
    split
    · exact still
    · next busy => exact deal_course (deals busy) (.refl r) (handshake?_of_free (free busy)) (free busy)

theorem resume_course (now : Nat) {r : Runner} {rest : List Outbox.Waiter} (next : r.outbox.waiting = .shard :: rest) :
    Course now r .serve (Runner.resume now { r with outbox := r.outbox.taken }) := by
  have eased : Eased r { r with outbox := r.outbox.taken, hand := none } := (Eased.taken r).freed none
  unfold Runner.resume
  dsimp only
  split
  · next m waited =>
    split
    · next writable =>
      exact .writes (by simp [handshake?, waited]) ⟨rfl, rfl, eased.waiting⟩ rfl rfl
    · next gone => exact .makes (by simp [dealt?, next, waited, gone]) eased (.inl ⟨rfl, .inr rfl⟩)
  · next x waited =>
    exact .makes (by simp [dealt?, next, waited]) eased (.inl ⟨rfl, .inl (by simp [handshake?, waited])⟩)
  · next x waited => exact .parts (by simp [dealt?, next, waited]) waited eased rfl
  · exact .rests (Eased.taken r) rfl (.inl rfl) (by simp)

theorem serve_course (now : Nat) (r : Runner) : Course now r .serve (r.serve now) := by
  unfold serve
  dsimp only
  split
  · next rest waiting => exact resume_course now waiting
  · next seq rest waiting => exact .sends (by rw [waiting]; exact List.mem_cons_self) ((Eased.taken r).filled 1) rfl
  · exact .rests (Eased.taken r) rfl (.inl rfl) (by simp)

theorem refill_course (now : Nat) (r : Runner) : Course now r .refill (r.refill now) := by
  have eased : Eased r { r with budget := r.budget.refill } := (Eased.refl r).granted _
  unfold refill
  dsimp only
  split
  · next waited => exact take_course (by simp [dealt?, waited]) (eased.freed none) (by simp [handshake?, waited]) rfl
  · exact .rests eased rfl (.inl rfl) (by simp)

/-- There are no others. -/
theorem step_course (now : Nat) (v : Move) (r : Runner) : Course now r v (r.step now v) := by
  cases v with
  | meet x => exact meet_course now x r
  | serve => exact serve_course now r
  | refill => exact refill_course now r

/-! ## A runner and its shard -/

/-- A runner makes nothing but steps of its shard. -/
theorem step_shard (now : Nat) (v : Move) (r : Runner) :
    (r.step now v).runner.shard = (r.shard.steps now (r.step now v).steps).shard := by
  have hc := step_course now v r
  generalize r.step now v = t at hc ⊢
  cases hc with
  | rests eased => exact eased.shard
  | makes deals eased => rw [perform_shard, ← eased.shard]; rfl
  | parts deals waited eased => rw [perform_shard, ← eased.shard]; rfl
  | begins deals eased => rw [← eased.shard, Shard.steps_one]
  | postpones deals eased => exact eased.shard
  | prepares deals eased => exact eased.shard
  | holds => rw [Shard.steps_one]
  | sends waited eased => exact eased.shard
  | writes waited eased =>
    split
    · rw [Turn.next, perform_shard, ← eased.shard]
      rfl
    · exact eased.shard

/-- While nothing holds the shard up, a move is a step of the shard. -/
theorem meet_free (free : r.hand = none) (beating : r.muted = false) (due : r.extended = none)
    (room : r.outbox.hasRoom = true) (allowed : r.budget.spent < r.budget.perMinute)
    (fits : r.shard.outlasts now = false) (x : Stimulus) :
    (r.meet now x).runner.shard = (r.shard.step now x).shard ∧ (r.meet now x).acts = (r.shard.step now x).acts := by
  have performs (q : Runner) (same : q.shard = r.shard) (y : Stimulus) :
      (q.perform now y).runner.shard = (r.shard.step now y).shard ∧
        (q.perform now y).acts = (r.shard.step now y).acts := by
    rw [perform_shard, perform, same, Shard.stepClocked_of_fits fits]
    exact ⟨rfl, rfl⟩
  have deals (q : Runner) (same : q.shard = r.shard) (outbox : q.outbox = r.outbox) (y : Stimulus) :
      (q.deal now y).runner.shard = (r.shard.step now y).shard ∧ (q.deal now y).acts = (r.shard.step now y).acts := by
    unfold deal
    split
    · rw [outbox, if_pos room]
      exact performs q same y
    · exact performs q same y
  have takes : (r.take now).runner.shard = (r.shard.step now .take).shard ∧
      (r.take now).acts = (r.shard.step now .take).acts := by
    unfold take
    split
    · rw [Budget.take?, if_pos allowed]
      exact deals { r with budget := ⟨r.budget.perMinute, r.budget.spent + 1⟩ } rfl rfl .take
    · exact deals r rfl rfl .take
  have alone : r.outbox.holdsBeat = false := by
    have none : r.outbox.waiting = [] := by
      simpa using (Bool.and_eq_true_iff.1 room).2
    simp [Outbox.holdsBeat, none]
  cases x with
  | submit ticket m => simpa [meet, isParting, free] using performs r rfl _
  | stop | abandon | abort => exact performs r rfl _
  | receiverGone =>
    exact performs { r with muted := r.muted || r.outbox.holdsBeat, outbox := r.outbox.dropBeats } rfl .receiverGone
  | beat => simpa [meet, beat, beating, isParting, free, alone, room] using performs r rfl .beat
  | take => simpa [meet, free] using takes
  | timeout => simpa [meet, free, expire, due] using deals r rfl rfl .timeout
  | opened | refused | text _ _ | closed _ | dropped | granted | missed =>
    simpa [meet, free] using deals r rfl rfl _

end Shardwire.Runner

namespace Shardwire.Beater

/-- A beat that waited is, once it is out, the beat that would have gone out at once. -/
theorem unblock_beat {b : Beater} {p : Pulse} {seq : Sequence} {now : Nat}
    (sends : (b.beat p seq .free now).sent.isSome = true) :
    (b.beat p seq .full now).pulse = (b.beat p seq .free now).pulse ∧
      (b.beat p seq .full now).beater.unblock = ((b.beat p seq .free now).beater, (b.beat p seq .free now).sent) := by
  unfold beat at sends ⊢
  cases due : b.due? with
  | none => simp [due] at sends
  | some tick =>
    simp only [due] at sends ⊢
    split at sends
    · cases sends
    · split at sends
      · cases sends
      · next early awaiting => simp [early, awaiting, unblock]

end Shardwire.Beater
