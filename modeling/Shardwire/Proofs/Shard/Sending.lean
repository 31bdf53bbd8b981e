import Shardwire.Proofs.Shard.Annals
import Shardwire.Proofs.Shard.Ending
import Shardwire.Proofs.Shard.Parting
import Shardwire.Proofs.Shard.Readiness

/-
What one step of a shard sends.

Frames come from the shard itself, from its heartbeat and from callers; `Sends` lists what a step can send, and
`step_sends` says that there is nothing else. Without a connection nothing is sent, and a close frame is sent alone, at
the end of a connection. A session is announced when it is taken, and given up with a close frame that ends it.
-/

namespace Shardwire

namespace Shard

/-! ## Frames of a step -/

/-- whether it says something of the shard, to callers or as the reason of a failure -/
def Act.isReport : Act → Bool
  | .publish _ | .fail _ | .answer _ _ => true
  | _ => false

theorem isReport_of_announce {st : Status} {s : Shard} {a : Act} (h : a ∈ announce st s) : a.isReport = true := by
  rw [eq_of_mem_announce h]; rfl

theorem isReport_of_refusal {s : Shard} {l : List Command} {a : Act} (h : a ∈ l.filterMap s.refusal) :
    a.isReport = true := by
  obtain ⟨k, -, hk⟩ := List.mem_filterMap.1 h
  cases k <;> cases hk
  rfl

/-- Once it has let go of its connection, a shard only says how it goes on. -/
theorem finish_reports (f : Finish) (now : Nat) (s : Shard) : ∀ a ∈ (finish f now s).acts, a.isReport = true := by
  intro a ha
  cases f with
  | stopped =>
    rw [finish_stops] at ha
    exact (List.mem_append.1 ha).elim isReport_of_announce isReport_of_refusal
  | fatal f =>
    rw [finish_fails] at ha
    simp only [List.append_assoc, List.mem_append, List.mem_singleton] at ha
    rcases ha with ha | rfl | ha
    · exact isReport_of_announce ha
    · rfl
    · exact isReport_of_refusal ha
  | again resume extra =>
    cases hn : (s.rested now).next? with
    | some next =>
      rw [finish_waits hn] at ha
      exact isReport_of_announce ha
    | none =>
      rw [finish_exhausts hn] at ha
      simp only [List.mem_append, List.mem_cons] at ha
      rcases ha with ha | rfl | rfl | ha
      · exact isReport_of_announce ha
      · rfl
      · rfl
      · exact isReport_of_refusal ha

theorem filter_isFrame_nil {acts : List Act} (h : ∀ a ∈ acts, a.isFrame = false) : acts.filter Act.isFrame = [] :=
  List.filter_eq_nil_iff.2 fun a ha => by simp [h a ha]

theorem filter_isFrame_reports {acts : List Act} (h : ∀ a ∈ acts, a.isReport = true) : acts.filter Act.isFrame = [] :=
  filter_isFrame_nil fun a ha => by
    have := h a ha
    cases a <;> first | rfl | cases this

/-- Where nothing is written, the frames are close frames. -/
theorem filter_isFrame_parting {acts : List Act} (h : ∀ a ∈ acts, a.isParting = true) :
    acts.filter Act.isFrame = (acts.filterMap Act.closure?).map .close := by
  induction acts with
  | nil => rfl
  | cons a acts ih =>
    have rest := ih fun b hb => h b (List.mem_cons_of_mem a hb)
    have first := h a List.mem_cons_self
    cases a <;> simp_all [List.filter_cons, Act.isFrame, Act.closure?, Act.isParting, List.filterMap_cons]

/-- the frames that a step can send -/
inductive Sends (now : Nat) (s : Shard) : Stimulus → List Act → Prop where
  | nothing {x : Stimulus} : Sends now s x []
  | resume {text : String} {draw : Nat} {c : Connection} {queued : Bool} {h : Hello} {p : Resume}
      (online : s.phase = .online c queued) (hello : Event.decode text = .ok (.hello h))
      (session : s.resume? = some p) : Sends now s (.text text draw) [.write (.resume p)]
  | identify {c : Connection} (online : s.phase = .online c true) :
      Sends now s .granted [.write (.identify s.identity)]
  | messages {x : Stimulus} {c : Connection} {queued : Bool} (ms : List Message) (online : s.phase = .online c queued)
      (each : ∀ m ∈ ms, m = .heartbeat s.sequence ∨ m.op.isCommand = true ∧ c.status.isReady = true) :
      Sends now s x (ms.map .write)
  | close {x : Stimulus} {e : Ending} {closure : Closure} (ending : s.ending? now x = some e)
      (closes : e.closure = some closure) : Sends now s x [.close closure]

theorem tended_sends {now : Nat} {s : Shard} {x : Stimulus} {c : Connection} {queued : Bool} {acts : List Act}
    (h : s.HoldsCommands) (online : s.phase = .online c queued)
    (ha : ∀ a ∈ acts, a.isAnswer = true ∨ a = .write (.heartbeat s.sequence) ∨
      ∃ ticket m, a = .write m ∧ .send ticket m ∈ s.mailbox ∧ c.status.isReady = true ∧ x = .take) :
    Sends now s x (acts.filter Act.isFrame) := by
  have written : acts.filter Act.isFrame = (acts.filterMap Act.message?).map .write := by
    induction acts with
    | nil => rfl
    | cons a acts ih =>
      have rest := ih fun b hb => ha b (List.mem_cons_of_mem a hb)
      rcases ha a List.mem_cons_self with answer | rfl | ⟨ticket, m, rfl, -, -⟩
      · cases a <;> simp_all [Act.isAnswer, Act.isFrame, Act.message?, List.filterMap_cons]
      · simp [List.filter_cons, Act.isFrame, Act.message?, rest]
      · simp [List.filter_cons, Act.isFrame, Act.message?, rest]
  rw [written]
  refine .messages _ online fun m hm => ?_
  obtain ⟨a, hma, he⟩ := List.mem_filterMap.1 hm
  rcases ha a hma with answer | rfl | ⟨ticket, m', rfl, hsend, ready, -⟩
  · cases a <;> simp_all [Act.isAnswer, Act.message?]
  · cases he
    exact .inl rfl
  · cases he
    exact .inr ⟨h ticket _ hsend, ready⟩

/-- A connection that ends is closed if it takes frames and there is something to say. -/
theorem frames_of_ending {now : Nat} {s : Shard} {x : Stimulus} {e : Ending} {t : Turn} (h : Concludes now s x e t) :
    t.acts.filter Act.isFrame = (if s.isWritable then e.closure.toList else []).map .close := by
  obtain ⟨s', acts, go, rfl⟩ := h
  rw [Turn.next_mk, List.filter_append, filter_isFrame_reports (finish_reports _ now s'), List.append_nil,
    filter_isFrame_parting go.parting, go.closes]

/-- There are no others. -/
theorem step_sends (now : Nat) (x : Stimulus) {s : Shard} (h : s.HoldsCommands) :
    Sends now s x ((s.step now x).acts.filter Act.isFrame) := by
  have hc := step_course now x s
  generalize s.step now x = t at hc ⊢
  have reported {x : Stimulus} {acts : List Act} (ha : ∀ a ∈ acts, a.isReport = true) :
      Sends now s x (acts.filter Act.isFrame) := by
    rw [filter_isFrame_reports ha]
    exact .nothing
  have answered {acts : List Act} (ha : ∀ a ∈ acts, a.isAnswer = true) : ∀ a ∈ acts, a.isReport = true :=
    forall_answers ha fun _ _ => rfl
  cases hc with
  | ends ending concludes =>
    rw [frames_of_ending concludes]
    split
    · rename Ending => e
      cases hk : e.closure with
      | none => exact .nothing
      | some closure => exact .close ending hk
    · exact .nothing
  | goesOn connected here outcome =>
    cases outcome with
    | idles shard mailbox acts kept => exact reported (answered acts)
    | tends c' online abreast shard mailbox acts kept => exact tended_sends h online acts
    | dials waiting => simp [isOffline, waiting] at connected
    | opens dialling => exact reported fun a ha => isReport_of_announce ha
    | resumes online awaiting hello resuming session writable =>
      rw [List.filter_append, filter_isFrame_reports fun a ha => isReport_of_announce ha]
      exact .resume online hello session
    | queues online awaiting hello session =>
      rw [List.filter_append, filter_isFrame_reports fun a ha => isReport_of_announce ha]
      exact .nothing
    | identifies online writable => exact .identify online
    | passes online event newer other => exact .nothing
    | readies | revives =>
      rw [List.filter_append, filter_isFrame_reports fun a ha => isReport_of_announce ha]
      exact .nothing
    | ends he => cases here.symm.trans he.offline
  | dials waiting due =>
    rw [dial_eq, List.filter_append, filter_isFrame_reports fun a ha => isReport_of_announce ha]
    exact .nothing
  | leaves waiting stops left =>
    obtain ⟨rest, rfl⟩ := left
    exact reported fun a ha => isReport_of_refusal ha
  | rests away shard acts => exact reported (answered acts)
  | aborts eq =>
    subst eq
    rw [filter_isFrame_nil (forall_abort s rfl rfl fun _ _ => rfl)]
    exact .nothing

section Sends

variable {now : Nat} {s : Shard} {x : Stimulus} {frames : List Act} {m : Message} {closure : Closure}

/-- what a message may be -/
theorem Sends.written (h : Sends now s x frames) (hm : .write m ∈ frames) :
    (∃ p, m = .resume p ∧ s.resume? = some p ∧ (s.helloOf? x).isSome = true) ∨
      (m = .identify s.identity ∧ x = .granted ∧ ∃ c, s.phase = .online c true) ∨
      m = .heartbeat s.sequence ∨
      m.op.isCommand = true ∧ ∃ c queued, s.phase = .online c queued ∧ c.status.isReady = true := by
  cases h with
  | nothing => cases hm
  | @resume text draw c queued h p online hello session =>
    cases List.mem_singleton.1 hm
    refine .inl ⟨p, rfl, session, ?_⟩
    rw [Journal.helloOf?_of_hello online hello]
    rfl
  | identify online =>
    cases List.mem_singleton.1 hm
    exact .inr (.inl ⟨rfl, rfl, _, online⟩)
  | messages ms online each =>
    obtain ⟨m', hm', eq⟩ := List.mem_map.1 hm
    cases eq
    rcases each m hm' with heartbeat | ⟨command, ready⟩
    · exact .inr (.inr (.inl heartbeat))
    · exact .inr (.inr (.inr ⟨command, _, _, online, ready⟩))
  | close => simp at hm

/-- A close frame is sent alone, at the end of a connection. -/
theorem Sends.closing (h : Sends now s x frames) (hc : .close closure ∈ frames) :
    frames = [.close closure] ∧ ∃ e, s.ending? now x = some e ∧ e.closure = some closure := by
  cases h with
  | nothing => cases hc
  | resume | identify => simp at hc
  | messages ms online each =>
    obtain ⟨m', -, eq⟩ := List.mem_map.1 hc
    cases eq
  | close ending closes =>
    cases List.mem_singleton.1 hc
    exact ⟨rfl, _, ending, closes⟩

theorem ending_code {e : Ending} (ending : s.ending? now x = some e) (closes : e.closure = some closure) :
    closure.code = if s.takesStop x || s.loses x then 1000 else 4000 := by
  cases ending_occasion ending with
  | stop stops normal =>
    rcases normal with rfl | rfl <;> cases closes
    simp [stops]; rfl
  | decline goesOn gone =>
    cases closes
    simp [gone]; rfl
  | recycle reason goesOn kept =>
    cases closes
    simp [goesOn, kept]; rfl
  | lose | unreach | close => cases closes

end Sends

/-! ## Without a connection, and at its end -/

section Offline

variable {now : Nat} {s : Shard} {x : Stimulus}

theorem online_of_isOnline (h : s.isOnline = true) : ∃ c queued, s.phase = .online c queued := by
  unfold isOnline at h
  split at h
  · next c queued hp => exact ⟨c, queued, hp⟩
  · cases h

theorem isOnline_of_online {c : Connection} {queued : Bool} (h : s.phase = .online c queued) : s.isOnline = true := by
  simp [isOnline, h]

theorem isOnline_of_isOffline (h : s.isOffline = true) : s.isOnline = false := by
  cases hp : s.phase with
  | online c queued => simp [isOffline, hp] at h
  | _ => simp [isOnline, hp]

theorem isOnline_of_isEnded (h : s.isEnded = true) : s.isOnline = false := by
  cases hp : s.phase with
  | ended => simp [isOnline, hp]
  | _ => simp [isEnded, hp] at h

/-- Without a connection nothing is sent. -/
theorem step_frames_offline (offline : s.isOnline = false) (now : Nat) (x : Stimulus) :
    (s.step now x).acts.filter Act.isFrame = [] := by
  have never {c : Connection} {queued : Bool} (hp : s.phase = .online c queued) : False := by
    cases offline.symm.trans (isOnline_of_online hp)
  have answered {acts : List Act} (ha : ∀ a ∈ acts, a.isAnswer = true) : acts.filter Act.isFrame = [] :=
    filter_isFrame_reports (forall_answers ha fun _ _ => rfl)
  have hc := step_course now x s
  generalize s.step now x = t at hc ⊢
  cases hc with
  | ends ending concludes =>
    have unwritable : s.isWritable = false := by
      cases hp : s.phase with
      | online => exact (never hp).elim
      | dialling | waiting | ended => simp [isWritable, hp]
    rw [frames_of_ending concludes, unwritable]
    rfl
  | goesOn connected here outcome =>
    cases outcome with
    | idles shard mailbox acts => exact answered acts
    | dials waiting => simp [isOffline, waiting] at connected
    | opens dialling => exact filter_isFrame_reports fun a ha => isReport_of_announce ha
    | tends c' hp | resumes hp | queues hp | identifies hp | passes hp | readies hp | revives hp =>
      exact (never hp).elim
    | ends he => cases here.symm.trans he.offline
  | dials waiting due =>
    rw [dial_eq, List.filter_append, filter_isFrame_reports fun a ha => isReport_of_announce ha]
    rfl
  | leaves waiting stops left =>
    obtain ⟨rest, rfl⟩ := left
    exact filter_isFrame_reports fun a ha => isReport_of_refusal ha
  | rests away shard acts => exact answered acts
  | aborts eq =>
    subst eq
    exact filter_isFrame_nil (forall_abort s rfl rfl fun _ _ => rfl)

/-- Only an open connection opens. -/
theorem opensLine_of_online (offline : s.isOnline = false) (online : (s.step now x).shard.isOnline = true) :
    s.opensLine x = true := by
  have never {c : Connection} {queued : Bool} (hp : s.phase = .online c queued) : False := by
    cases offline.symm.trans (isOnline_of_online hp)
  have ho := Shard.step_outcome now x s
  generalize s.step now x = t at ho online
  cases ho with
  | idles shard =>
    have same : t.shard.isOnline = s.isOnline := by rw [shard]; rfl
    cases offline.symm.trans (same.symm.trans online)
  | tends c' here => exact (never here).elim
  | dials waiting =>
    rw [Shard.dial_eq] at online
    cases online
  | opens dialling => simp [Shard.opensLine, dialling]
  | resumes here | queues here | identifies here | passes here | readies here | revives here => exact (never here).elim
  | ends he => cases (isOnline_of_isOffline he.offline).symm.trans online

theorem offline_of_opensLine (h : s.opensLine x = true) : s.isOnline = false := by
  unfold opensLine at h
  split at h
  · next hp => simp [isOnline, hp]
  · cases h

end Offline

/-! ## Sessions -/

section Session

variable {now : Nat} {s : Shard} {x : Stimulus}

/-- A session that a shard has was there before, or is announced. -/
theorem step_session {y : Session} (hy : (s.step now x).shard.session = some y) :
    s.session = some y ∨ ∃ d, .deliver d ∈ (s.step now x).acts ∧ d.session? = some y := by
  have ho := step_outcome now x s
  generalize s.step now x = t at ho hy ⊢
  cases ho with
  | idles shard mailbox acts kept => exact .inl ((congrArg Shard.session shard).symm.trans hy)
  | tends c' online abreast shard mailbox acts kept => exact .inl ((congrArg Shard.session shard).symm.trans hy)
  | dials waiting =>
    rw [dial_eq] at hy
    exact .inl hy
  | opens | resumes | queues | passes | revives => exact .inl hy
  | identifies => cases hy
  | @readies text draw c queued d seq p online event newer kind payload =>
    cases hy
    exact .inr ⟨d, by simp, by simp [Dispatch.session?, kind, payload, Except.toOption]⟩
  | ends he =>
    rw [he.session] at hy
    split at hy
    · exact .inl hy
    · cases hy

/-- After a close frame that ends the session there is none. -/
theorem gone_of_ending {e : Ending} (ending : s.ending? now x = some e) {c : Closure} (closes : e.closure = some c)
    (code : c.code = 1000) : (s.step now x).shard.isEnded = true ∨ (s.step now x).shard.session = none := by
  obtain ⟨s', acts, -, eq⟩ := step_concludes ending
  rw [eq]
  cases ending_occasion ending with
  | stop =>
    left
    simp [finish_stops, isEnded]
  | decline =>
    right
    exact (finish_parted (.again false 0) now s').session
  | recycle =>
    cases closes
    cases code
  | lose | unreach | close => cases closes

end Session

end Shard

end Shardwire
