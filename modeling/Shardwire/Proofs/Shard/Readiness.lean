import Shardwire.Proofs.Shard.Resumption

/-
When a shard is ready.

A handshake is finished once Hello came, the heartbeat beats as it says, and Identify or Resume went out. READY and
RESUMED make a shard ready whenever they come; so it is ready without a finished handshake exactly as long as one of
them has overtaken the shard's own part of it.
-/

namespace Shardwire

open Shard (Stimulus Act)

namespace Journal

/-- the heartbeat runs at the interval of a Hello of this connection -/
def Heard (j : Journal) (c : Connection) : Prop := ∃ i ∈ j.hellos, c.interval? = some (max i.toNat 1)

/-- Hello came, the heartbeat runs accordingly, and Identify or Resume went out -/
def Handshaken (j : Journal) (c : Connection) : Prop := j.Heard c ∧ ∃ m ∈ j.wire, m.op.isHandshake = true

theorem handshakes_ne_nil {j : Journal} : j.handshakes ≠ [] ↔ ∃ m ∈ j.wire, m.op.isHandshake = true := by
  simp [handshakes]

/-! ## What status and journal say of the handshake -/

structure Prepared (j : Journal) : Prop where
  shown : ∀ c queued, j.shard.phase = .online c queued → j.shard.status = c.status
  stage : ∀ c queued, j.shard.phase = .online c queued →
    c.status = .awaitingHello ∨ c.status = .identifying ∨ c.status = .ready
  ready : j.shard.status = .ready → j.shard.isEnded = true ∨ ∃ c queued, j.shard.phase = .online c queued
  heard : ∀ c queued, j.shard.phase = .online c queued → queued = true ∨ j.handshakes ≠ [] → j.Heard c
  overtaken : j.overtaken = true → j.handshakes = []
  sent : ∀ c queued, j.shard.phase = .online c queued → c.status = .ready → j.overtaken = false → j.handshakes ≠ []

variable {p : ShardProfile} {now : Nat} {x : Stimulus} {j : Journal}

/-- Without a connection there is no handshake. -/
theorem prepared_offline (offline : ∀ c queued, j.shard.phase ≠ .online c queued)
    (ready : j.shard.status = .ready → j.shard.isEnded = true) (overtaken : j.overtaken = true → j.handshakes = []) :
    Prepared j where
  shown := fun c queued hp => absurd hp (offline c queued)
  stage := fun c queued hp => absurd hp (offline c queued)
  ready := fun hs => .inl (ready hs)
  heard := fun c queued hp => absurd hp (offline c queued)
  overtaken := overtaken
  sent := fun c queued hp => absurd hp (offline c queued)

/-- A connection on its way. -/
theorem prepared_early {c : Connection} {queued : Bool} (phase : j.shard.phase = .online c queued)
    (shown : j.shard.status = c.status) (stage : c.status = .awaitingHello ∨ c.status = .identifying)
    (heard : queued = true ∨ j.handshakes ≠ [] → j.Heard c) (overtaken : j.overtaken = true → j.handshakes = []) :
    Prepared j := by
  have early : c.status ≠ .ready := by
    intro hr
    rcases stage with hs | hs <;> cases hs.symm.trans hr
  constructor
  case shown => intro c' queued' hp; cases phase.symm.trans hp; exact shown
  case stage => intro c' queued' hp; cases phase.symm.trans hp; exact stage.imp_right .inl
  case ready => exact fun _ => .inr ⟨c, queued, phase⟩
  case heard => intro c' queued' hp; cases phase.symm.trans hp; exact heard
  case overtaken => exact overtaken
  case sent => intro c' queued' hp hr; cases phase.symm.trans hp; exact absurd hr early

theorem prepared_opening (p : ShardProfile) (address : ShardAddress) (now : Nat) :
    Prepared (opening p address now) := by
  rw [opening_eq]
  constructor <;> simp

theorem Prepared.entered (h : Prepared j) (s : Shard) (ho : (j.enter x s).overtaken = true) :
    (j.enter x s).handshakes = [] := by
  cases hl : j.shard.opensLine x with
  | true => simp [handshakes, enter, hl]
  | false =>
    rw [enter_handshakes hl]
    exact h.overtaken (enter_overtaken hl s ▸ ho)

/-- The handshake is as far as before. -/
theorem Prepared.onward (h : Prepared j) {j' : Journal} (status : j'.shard.status = j.shard.status)
    (ended : j'.shard.isEnded = j.shard.isEnded)
    (online : ∀ c' queued, j'.shard.phase = .online c' queued → ∃ c, j.shard.phase = .online c queued ∧
      c'.status = c.status ∧ c'.interval? = c.interval?)
    (stays : ∀ c queued, j.shard.phase = .online c queued → ∃ c', j'.shard.phase = .online c' queued)
    (overtaken : j'.overtaken = true → j'.handshakes = [])
    (same : ∀ c queued, j.shard.phase = .online c queued →
      (∀ i ∈ j.hellos, i ∈ j'.hellos) ∧ j'.handshakes = j.handshakes ∧ j'.overtaken = j.overtaken) :
    Prepared j' := by
  constructor
  case shown =>
    intro c' queued hp
    obtain ⟨c, hc, hs, -⟩ := online c' queued hp
    rw [status, hs]
    exact h.shown c queued hc
  case stage =>
    intro c' queued hp
    obtain ⟨c, hc, hs, -⟩ := online c' queued hp
    rw [hs]
    exact h.stage c queued hc
  case ready =>
    intro hs
    rcases h.ready (status ▸ hs) with he | ⟨c, queued, hc⟩
    · exact .inl (ended.trans he)
    · obtain ⟨c', hc'⟩ := stays c queued hc
      exact .inr ⟨c', queued, hc'⟩
  case heard =>
    intro c' queued hp hq
    obtain ⟨c, hc, -, hi⟩ := online c' queued hp
    obtain ⟨h1, h2, -⟩ := same c queued hc
    obtain ⟨i, hm, he⟩ := h.heard c queued hc (h2 ▸ hq)
    exact ⟨i, h1 i hm, hi.trans he⟩
  case overtaken => exact overtaken
  case sent =>
    intro c' queued hp hr ho
    obtain ⟨c, hc, hs, -⟩ := online c' queued hp
    obtain ⟨-, h2, h3⟩ := same c queued hc
    rw [h2]
    exact h.sent c queued hc (hs ▸ hr) (h3 ▸ ho)

/-- READY or RESUMED is handed on. -/
theorem Prepared.finished (h : Prepared j) {s : Shard} {c c' : Connection} {queued : Bool} {d : Dispatch}
    (online : j.shard.phase = .online c queued) (fresh : j.shard.opensLine x = false)
    (finishes : Shard.finishes d = true)
    (phase : s.phase = .online c' queued) (shown : s.status = .ready) (status : c'.status = .ready)
    (interval : c'.interval? = c.interval?) : Prepared ((j.enter x s).note (.deliver d)) := by
  have same := enter_handshakes fresh s
  constructor
  case shown =>
    intro c'' queued' hp
    cases phase.symm.trans hp
    exact shown.trans status.symm
  case stage =>
    intro c'' queued' hp
    cases phase.symm.trans hp
    exact .inr (.inr status)
  case ready => exact fun _ => .inr ⟨c', queued, phase⟩
  case heard =>
    intro c'' queued' hp hq
    cases phase.symm.trans hp
    rw [handshakes_deliver, same] at hq
    obtain ⟨i, hm, he⟩ := h.heard c queued online hq
    exact ⟨i, by simp [note, enter, fresh, hm], interval.trans he⟩
  case overtaken =>
    intro ho
    rw [handshakes_deliver, same]
    rw [overtaken_deliver, enter_overtaken fresh, same, finishes, Bool.true_and, Bool.or_eq_true] at ho
    rcases ho with ho | ho
    · exact h.overtaken ho
    · exact List.isEmpty_iff.1 ho
  case sent =>
    intro c'' queued' hp hr ho
    rw [handshakes_deliver, same]
    rw [overtaken_deliver, enter_overtaken fresh, same, finishes, Bool.true_and, Bool.or_eq_false_iff] at ho
    exact fun hn => by simp [hn] at ho

theorem step_prepared (now : Nat) (x : Stimulus) (hf : Faithful p j) (h : Prepared j) : Prepared (j.step now x) := by
  cases hx : x.isAllowed with
  | false => rwa [step_refused hx]
  | true =>
    rw [step_eq hx]
    have ho := Shard.step_outcome now x j.shard
    generalize j.shard.step now x = t at ho ⊢
    cases ho with
    | idles shard mailbox acts kept =>
      rw [notes_answers acts]
      have phase : t.shard.phase = j.shard.phase := by rw [shard]
      have ended : t.shard.isEnded = j.shard.isEnded := by rw [Shard.isEnded, Shard.isEnded, phase]
      refine h.onward (by rw [enter_shard, shard]) ended ?_ ?_ ?_ ?_
      · exact fun c queued hp => ⟨c, phase ▸ hp, rfl, rfl⟩
      · exact fun c queued hp => ⟨c, phase.trans hp⟩
      · exact h.entered t.shard
      · intro c queued hp
        have hl : j.shard.opensLine x = false := by simp [Shard.opensLine, hp]
        exact ⟨fun i hi => mem_enter_hellos hl _ hi, enter_handshakes hl _, enter_overtaken hl _⟩
    | tends c' online abreast shard mailbox acts kept =>
      obtain ⟨ms, hms, eq⟩ := notes_tending (fun a ha => hf.quiet (acts a ha)) (j.enter x t.shard)
      have hl : j.shard.opensLine x = false := by simp [Shard.opensLine, online]
      have same := (handshakes_tending (fun m hm => (hms m hm).2) (j.enter x t.shard)).trans (enter_handshakes hl _)
      have phase := congrArg Shard.phase shard
      have status := congrArg Shard.status shard
      rw [eq]
      refine h.onward status (by simp [Shard.isEnded, phase, online]) ?_ ?_ ?_ ?_
      · intro c'' queued hp
        cases phase.symm.trans hp
        exact ⟨_, online, abreast.status, abreast.interval⟩
      · intro c queued hp
        cases online.symm.trans hp
        exact ⟨c', phase⟩
      · exact fun ho => same.trans (h.overtaken (enter_overtaken hl t.shard ▸ ho))
      · exact fun _ _ _ => ⟨fun i hi => mem_enter_hellos hl t.shard hi, same, enter_overtaken hl t.shard⟩
    | dials waiting =>
      rw [Shard.dial_eq, notes_announce]
      exact prepared_offline (fun _ _ hp => by cases hp) (fun hr => by cases hr) (h.entered j.shard)
    | opens dialling =>
      have none (s : Shard) : (j.enter .opened s).handshakes = [] := by
        simp [handshakes, enter, Shard.opensLine, dialling]
      rw [notes_parting fun a ha => Shard.isParting_of_announce ha]
      refine prepared_early rfl rfl (.inl rfl) (fun hq => ?_) fun _ => none _
      rcases hq with hq | hq
      · cases hq
      · exact absurd (none _) hq
    | resumes online awaiting hello resuming session writable =>
      have said := helloOf?_of_hello online hello
      rw [notes_announce]
      refine prepared_early rfl rfl (.inr rfl) (fun _ => ⟨_, by simp [note, enter, said], rfl⟩) ?_
      simp [note, Message.resume, Message.plain, OpCode.isHandshake]
    | queues online awaiting hello session =>
      have said := helloOf?_of_hello online hello
      rw [notes_announce]
      exact prepared_early rfl rfl (.inr rfl) (fun _ => ⟨_, by simp [note, enter, said], rfl⟩) (h.entered j.shard)
    | identifies online writable =>
      have hl : j.shard.opensLine .granted = false := by simp [Shard.opensLine, online]
      have shown := h.shown _ _ online
      have stage := h.stage _ _ online
      constructor
      case shown => intro c queued hp; cases hp; exact shown
      case stage => intro c queued hp; cases hp; exact stage
      case ready => exact fun _ => .inr ⟨_, _, rfl⟩
      case heard =>
        intro c queued hp _
        cases hp
        obtain ⟨i, hi, he⟩ := h.heard _ _ online (.inl rfl)
        exact ⟨i, mem_enter_hellos hl j.shard hi, he⟩
      case overtaken => simp [note, Message.identify, Message.plain, OpCode.isHandshake]
      case sent => simp [Message.identify, Message.plain, OpCode.isHandshake]
    | @passes text draw c queued d seq online event newer other =>
      have hl := j.shard.opensLine_text text draw
      have overtaken : ((j.enter (.text text draw) j.shard).note (.deliver d)).overtaken = j.overtaken := by
        rw [overtaken_deliver, other, Bool.false_and, Bool.or_false, enter_overtaken hl]
      refine h.onward rfl rfl (fun c queued hp => ⟨c, hp, rfl, rfl⟩) (fun c queued hp => ⟨c, hp⟩) ?_ ?_
      · exact fun ho => (enter_handshakes hl j.shard).trans (h.overtaken (overtaken ▸ ho))
      · exact fun _ _ _ => ⟨fun i hi => mem_enter_hellos hl j.shard hi, enter_handshakes hl j.shard, overtaken⟩
    | readies online event newer kind payload =>
      rw [notes_announce]
      exact h.finished online (j.shard.opensLine_text _ _) (by simp [Shard.finishes, kind, payload, Except.toOption])
        rfl rfl rfl rfl
    | revives online event newer kind =>
      rw [notes_announce]
      exact h.finished online (j.shard.opensLine_text _ _) (by simp [Shard.finishes, kind]) rfl rfl rfl rfl
    | ends he =>
      rw [notes_parting he.acts]
      exact prepared_offline he.ne_online (fun hs => (he.status hs).1) (h.entered _)

theorem run_prepared (p : ShardProfile) (address : ShardAddress) (start : Nat) (xs : List (Nat × Stimulus)) :
    Prepared ((opening p address start).run xs) := by
  have h := run_keeps (P := fun j => Faithful p j ∧ Prepared j)
    (fun now x _ hj => ⟨step_faithful now x hj.1, step_prepared now x hj.1 hj.2⟩) xs
    ⟨faithful_opening p address start, prepared_opening p address start⟩
  exact h.2

/-! ## Becoming ready -/

/-- Only READY and RESUMED make a shard ready; they overtake its handshake unless that is on the wire. -/
theorem overtaken_of_becomes_ready (hs : j.shard.status ≠ .ready) (hr : (j.step now x).shard.status = .ready) :
    (∃ c queued, j.shard.phase = .online c queued) ∧
      (j.step now x).overtaken = (j.overtaken || j.handshakes.isEmpty) := by
  cases hx : x.isAllowed with
  | false => exact absurd (step_refused hx now j ▸ hr) hs
  | true =>
    rw [step_eq hx] at hr ⊢
    rw [notes_shard, enter_shard] at hr
    have ho := Shard.step_outcome now x j.shard
    generalize j.shard.step now x = t at ho hr ⊢
    cases ho with
    | idles shard mailbox acts kept => exact absurd ((congrArg Shard.status shard).symm.trans hr) hs
    | tends c' online abreast shard mailbox acts kept => exact absurd ((congrArg Shard.status shard).symm.trans hr) hs
    | dials waiting => rw [Shard.dial_eq] at hr; cases hr
    | opens dialling => cases hr
    | resumes online awaiting hello resuming session writable => cases hr
    | queues online awaiting hello session => cases hr
    | identifies online writable => exact absurd hr hs
    | passes online event newer other => exact absurd hr hs
    | readies online event newer kind payload =>
      refine ⟨⟨_, _, online⟩, ?_⟩
      rw [notes_announce, List.foldl_cons, List.foldl_nil, overtaken_deliver, enter_overtaken (by simp),
        enter_handshakes (by simp)]
      simp [Shard.finishes, kind, payload, Except.toOption]
    | revives online event newer kind =>
      refine ⟨⟨_, _, online⟩, ?_⟩
      rw [notes_announce, List.foldl_cons, List.foldl_nil, overtaken_deliver, enter_overtaken (by simp),
        enter_handshakes (by simp)]
      simp [Shard.finishes, kind]
    | ends he => exact absurd (he.status hr).2 hs

/-- A shard that is shown as ready, and was not stopped by force, has a connection, and the handshake on it is finished
exactly if it was not overtaken. It became ready while identifying and with the handshake on the wire exactly then. -/
theorem ready_iff_handshaken (p : ShardProfile) (address : ShardAddress) (start : Nat) (xs : List (Nat × Stimulus)) :
    let j := (opening p address start).run xs
    (j.shard.status = .ready → j.shard.isEnded = true ∨
      ∃ c queued, j.shard.phase = .online c queued ∧ (j.Handshaken c ↔ j.overtaken = false)) ∧
    (∀ now x, j.shard.status ≠ .ready → (j.step now x).shard.status = .ready →
      (j.shard.status = .identifying ∧ j.handshakes ≠ [] ↔ (j.step now x).overtaken = false)) := by
  intro j
  have hf : Faithful p j := run_faithful p address start xs
  have h : Prepared j := run_prepared p address start xs
  refine ⟨fun hs => ?_, fun now x hs hr => ?_⟩
  · rcases h.ready hs with he | ⟨c, queued, hp⟩
    · exact .inl he
    · refine .inr ⟨c, queued, hp, fun ⟨_, hw⟩ => ?_, fun ho => ?_⟩
      · have hn := handshakes_ne_nil.2 hw
        cases ho : j.overtaken with
        | true => exact absurd (h.overtaken ho) hn
        | false => rfl
      · have hn := h.sent c queued hp ((h.shown c queued hp).symm.trans hs) ho
        exact ⟨h.heard c queued hp (.inr hn), handshakes_ne_nil.1 hn⟩
  · obtain ⟨⟨c, queued, hp⟩, eq⟩ := overtaken_of_becomes_ready hs hr
    rw [eq, Bool.or_eq_false_iff]
    constructor
    · intro ⟨_, hn⟩
      refine ⟨?_, by simpa using hn⟩
      cases ho : j.overtaken with
      | true => exact absurd (h.overtaken ho) hn
      | false => rfl
    · intro ⟨_, hn⟩
      have hn : j.handshakes ≠ [] := by simpa using hn
      refine ⟨?_, hn⟩
      rw [h.shown c queued hp] at hs ⊢
      rcases h.stage c queued hp with ha | hi | hr
      · exact absurd (hf.awaiting c queued hp ha).2.2.2 hn
      · exact hi
      · exact absurd hr hs

/-- The first conversation goes as the protocol has it. -/
theorem handshaken_after_conversation :
    let j := (opening (.usual "t") .only 0).run conversation
    j.shard.status = .ready ∧ j.overtaken = false ∧ ∃ c queued, j.shard.phase = .online c queued ∧ j.Handshaken c := by
  have h := ready_iff_handshaken (.usual "t") .only 0 conversation
  rw [run_conversation] at h ⊢
  have status : conversed.shard.status = .ready := rfl
  have running : conversed.shard.isEnded = false := rfl
  have overtaken : conversed.overtaken = false := rfl
  generalize conversed = j at h status running overtaken ⊢
  rcases h.1 status with he | ⟨c, queued, hp, hc⟩
  · cases running.symm.trans he
  · exact ⟨status, overtaken, c, queued, hp, hc.2 overtaken⟩

/-- READY makes a shard ready on a connection that has seen nothing else. -/
theorem ready_unasked :
    let j := (opening (.usual "t") .only 0).run [(0, .opened), (0, .text readyText 0)]
    j.shard.status = .ready ∧ j.hellos = [] ∧ j.wire = [] ∧
      ∃ c, j.shard.phase = .online c false ∧ c.interval? = none := by
  have phase : ((opening (.usual "t") .only 0).step 0 .opened).shard.phase =
      .online { Connection.fresh 0 with deadline := some 30000 } false := rfl
  have fresh : ((opening (.usual "t") .only 0).step 0 .opened).shard.sequence.advance? readyDispatch.seq =
      some (some 1) := rfl
  have wire : ((opening (.usual "t") .only 0).step 0 .opened).wire = [] := rfl
  have hellos : ((opening (.usual "t") .only 0).step 0 .opened).hellos = [] := rfl
  rw [run_cons]
  generalize (opening (.usual "t") .only 0).step 0 .opened = j at phase fresh wire hellos ⊢
  have heard : j.shard.helloOf? (.text readyText 0) = none := by simp [Shard.helloOf?, phase, decode_readyText]
  rw [run, List.foldl_cons, List.foldl_nil, step_eq rfl, Shard.step_dispatch phase decode_readyText,
    Shard.dispatch_eq_ready fresh kind?_readyDispatch payload_readyDispatch, notes_announce]
  refine ⟨rfl, ?_, ?_, _, rfl, rfl⟩
  · simp [note, enter, hellos, heard]
  · simp [note, enter, wire]

end Journal

end Shardwire
