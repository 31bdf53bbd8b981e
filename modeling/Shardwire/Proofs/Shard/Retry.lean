import Shardwire.Proofs.Backoff
import Shardwire.Proofs.Shard.Termination

/-
How often a shard tries again, and when.

A spell begins with a shard's first attempt to connect, or when a connection ends that was ready for long enough. What a
spell is made of is read off the annals (`Spell`): when the connection became ready, the reconnects since the spell
began, and the attempts. `step_paced` ties the backoff, which is all that a shard itself keeps, to them.

`retries_paced`: when a connection ends and another attempt is due, the shard gives up exactly if the reconnects of the
spell have reached the limit, and dials again after the delay that belongs to their number otherwise, not earlier and
not later. So no spell has more than one attempt above the limit.
-/

namespace Shardwire

namespace Shard

/-! ## What the annals say -/

/-- whether the gateway closes the connection with a code after which no other attempt is made -/
def Stimulus.isFatal : Stimulus → Bool
  | .closed closure => CloseCode.classify (closure.map (·.code)) = .fatal
  | _ => false

def Stimulus.isAbort : Stimulus → Bool
  | .abort => true
  | _ => false

def Act.isDial : Act → Bool
  | .dial _ => true
  | _ => false

/-- whether it hands on an event that ends a handshake -/
def Act.isReadying : Act → Bool
  | .deliver d => finishes d
  | _ => false

namespace Entry

/-- whether a connection is asked for -/
def dials (e : Entry) : Bool := e.acts.any Act.isDial

/-- whether READY or RESUMED is handed on -/
def readies (e : Entry) : Bool := e.acts.any Act.isReadying

/-- whether a connection ends, or the attempt to get one -/
def ends (e : Entry) : Bool := !e.before.isOffline && e.after.isOffline

/-- whether a connection ends for another one: not by a stop, and not with a code that forbids it -/
def recurs (e : Entry) : Bool :=
  e.ends && !e.before.takesStop e.cause && !e.cause.isFatal && !e.cause.isAbort

/-- what is waited on top of the backoff: after a close for too many frames, a heartbeat interval -/
def surcharge (e : Entry) : Nat :=
  match e.before.phase, e.cause with
  | .online c _, .closed (some closure) => if closure.code = 4008 then c.interval?.getD 5000 else 0
  | _, _ => 0

end Entry

/-- a shard's reconnects since its first attempt, or since a connection ended that was ready for long enough -/
structure Spell where
  /-- when the connection last became ready -/
  readied : Option Nat
  /-- reconnects since the spell began -/
  retries : Nat
  /-- attempts to connect since the spell began, the first one of all included -/
  attempts : Nat

namespace Spell

/-- whether the connection was ready for long enough -/
def isStable (p : ShardProfile) (now : Nat) (sp : Spell) : Bool :=
  sp.readied.any fun since => p.stableAfter ≤ now - since

/-- an entry is read -/
def note (p : ShardProfile) (sp : Spell) (e : Entry) : Spell :=
  if e.ends then (if sp.isStable p e.time then ⟨none, 0, 0⟩ else { sp with readied := none })
  else if e.dials then { sp with retries := sp.retries + 1, attempts := sp.attempts + 1 }
  else if e.readies then { sp with readied := some e.time }
  else sp

/-- the spell at the end of annals; their first entry is the first attempt, and no reconnect -/
def ofEntries (p : ShardProfile) (entries : List Entry) : Spell := (entries.drop 1).foldl (note p) ⟨none, 0, 1⟩

/-- the reconnects that count when a connection ends -/
def reconnects (p : ShardProfile) (now : Nat) (sp : Spell) : Nat := if sp.isStable p now then 0 else sp.retries

theorem ofEntries_snoc {p : ShardProfile} {entries : List Entry} (h : entries ≠ []) (e : Entry) :
    ofEntries p (entries ++ [e]) = (ofEntries p entries).note p e := by
  cases entries with
  | nil => exact absurd rfl h
  | cons first rest => simp [ofEntries]

end Spell

/-- when a shard tries again -/
structure Retried (p : ShardProfile) (address : ShardAddress) (sp : Spell) (e : Entry) : Prop where
  exhausts : p.reconnectLimit ≤ sp.reconnects p e.time →
    e.acts.filterMap Act.fault? = [.retriesExhausted address.id p.reconnectLimit] ∧ e.after.isEnded = true
  waits : sp.reconnects p e.time < p.reconnectLimit →
    e.acts.filterMap Act.fault? = [] ∧
      e.after.phase = .waiting (e.time +
        min (p.reconnectBase * min (2 ^ sp.reconnects p e.time) (2 ^ 32 - 1)) p.reconnectMax + e.surcharge)

/-! ## What an entry is read as -/

section Note

variable {p : ShardProfile} {sp : Spell} {e : Entry}

theorem not_dials {e : Entry} (h : ∀ a ∈ e.acts, a.isDial = false) : e.dials = false :=
  List.any_eq_false.2 fun a ha => by simp [h a ha]

theorem not_readies {e : Entry} (h : ∀ a ∈ e.acts, a.isReadying = false) : e.readies = false :=
  List.any_eq_false.2 fun a ha => by simp [h a ha]

theorem not_ends (h : e.before.isOffline = true ∨ e.after.isOffline = false) : e.ends = false := by
  rcases h with h | h <;> simp [Entry.ends, h]

theorem note_ends (h : e.ends = true) :
    sp.note p e = if sp.isStable p e.time then ⟨none, 0, 0⟩ else { sp with readied := none } := by
  simp [Spell.note, h]

/-- A spell that began with this end, or goes on. -/
theorem note_ends_retries (h : e.ends = true) : (sp.note p e).retries = sp.reconnects p e.time := by
  rw [note_ends h, Spell.reconnects]
  split <;> rfl

theorem note_ends_readied (h : e.ends = true) : (sp.note p e).readied = none := by
  rw [note_ends h]
  split <;> rfl

theorem note_ends_attempts (h : e.ends = true) (ha : sp.attempts ≤ sp.retries + 1) :
    (sp.note p e).attempts ≤ (sp.note p e).retries + 1 := by
  rw [note_ends h]
  split
  · exact Nat.zero_le _
  · exact ha

theorem note_silent (h : e.ends = false) (hd : ∀ a ∈ e.acts, a.isDial = false)
    (hr : ∀ a ∈ e.acts, a.isReadying = false) : sp.note p e = sp := by
  simp [Spell.note, h, not_dials hd, not_readies hr]

end Note

/-- What a connection does while it goes on: it does not dial, and READY and RESUMED are what it becomes ready by. -/
theorem Outcome.paces {now : Nat} {s : Shard} {x : Stimulus} {t : Turn} (h : Outcome now s x t)
    (connected : s.isOffline = false) (here : t.shard.isOffline = false) :
    (∀ a ∈ t.acts, a.isDial = false) ∧ t.shard.backoff = s.backoff ∧
      ((t.shard.readySince = s.readySince ∧ ∀ a ∈ t.acts, a.isReadying = false) ∨
        t.shard.readySince = some now ∧ ∃ a ∈ t.acts, a.isReadying = true) := by
  have announced {st : Status} {b : Act} (hb : b.isDial = false) : ∀ a ∈ announce st s ++ [b], a.isDial = false :=
    forall_announce rfl (by simpa using hb)
  have unready {st : Status} {b : Act} (hb : b.isReadying = false) :
      ∀ a ∈ announce st s ++ [b], a.isReadying = false :=
    forall_announce rfl (by simpa using hb)
  cases h with
  | idles shard mailbox acts kept =>
    refine ⟨forall_answers acts fun _ _ => rfl, by rw [shard], .inl ⟨by rw [shard], ?_⟩⟩
    exact forall_answers acts fun _ _ => rfl
  | tends c' online abreast shard mailbox acts kept =>
    refine ⟨forall_tended acts (fun _ _ => rfl) fun _ => rfl, by rw [shard], .inl ⟨by rw [shard], ?_⟩⟩
    exact forall_tended acts (fun _ _ => rfl) fun _ => rfl
  | dials waiting => simp [isOffline, waiting] at connected
  | opens dialling =>
    have shown : ∀ a ∈ announce .awaitingHello s, a = .publish .awaitingHello := fun _ => eq_of_mem_announce
    exact ⟨fun a ha => shown a ha ▸ rfl, rfl, .inl ⟨rfl, fun a ha => shown a ha ▸ rfl⟩⟩
  | resumes | queues => exact ⟨announced rfl, rfl, .inl ⟨rfl, unready rfl⟩⟩
  | identifies => exact ⟨by simp [Act.isDial], rfl, .inl ⟨rfl, by simp [Act.isReadying]⟩⟩
  | passes online event newer other =>
    exact ⟨by simp [Act.isDial], rfl, .inl ⟨rfl, by simp [Act.isReadying, other]⟩⟩
  | readies online event newer kind payload =>
    refine ⟨announced rfl, rfl, .inr ⟨rfl, _, List.mem_append_right _ (List.mem_singleton_self _), ?_⟩⟩
    simp [Act.isReadying, finishes, kind, payload, Except.toOption]
  | revives online event newer kind =>
    refine ⟨announced rfl, rfl, .inr ⟨rfl, _, List.mem_append_right _ (List.mem_singleton_self _), ?_⟩⟩
    simp [Act.isReadying, finishes, kind]
  | ends he => cases here.symm.trans he.offline

/-! ## The backoff and the annals -/

/-- what a shard keeps of its spell -/
structure Paced (p : ShardProfile) (address : ShardAddress) (s : Shard) (sp : Spell) : Prop where
  profile : s.profile = p
  address : s.address = address
  backoff : s.backoff = { p.backoff with attempts := s.backoff.attempts }
  retries : sp.retries ≤ p.reconnectLimit
  attempts : sp.attempts ≤ sp.retries + 1
  connected : s.isOffline = false → s.backoff.attempts = sp.retries ∧ s.readySince = sp.readied
  waiting : ∀ deadline, s.phase = .waiting deadline →
    s.backoff.attempts = sp.retries + 1 ∧ sp.retries < p.reconnectLimit ∧ s.readySince = none ∧ sp.readied = none

section Paced

variable {p : ShardProfile} {address : ShardAddress} {now : Nat} {x : Stimulus} {s s' : Shard} {sp : Spell}

/-- What the backoff is when a connection ends. -/
theorem Paced.rested (h : Paced p address s sp) (now : Nat) (connected : s.isOffline = false) (akin : Akin s s') :
    s'.rested now = { p.backoff with attempts := sp.reconnects p now } := by
  obtain ⟨attempts, readied⟩ := h.connected connected
  have stable : (s'.readySince.any fun since => s'.profile.stableAfter ≤ now - since) = sp.isStable p now := by
    rw [akin.readySince, akin.profile, readied, h.profile]
    rfl
  rw [Shard.rested, stable, akin.backoff, Spell.reconnects, h.backoff]
  split
  · rfl
  · rw [attempts]

theorem Paced.reconnects_le (h : Paced p address s sp) : sp.reconnects p now ≤ p.reconnectLimit := by
  rw [Spell.reconnects]
  split
  · exact Nat.zero_le _
  · exact h.retries

theorem next?_of_lt {k : Nat} (hk : k < p.reconnectLimit) :
    Backoff.next? { p.backoff with attempts := k } =
      some (min (p.reconnectBase * min (2 ^ k) (2 ^ 32 - 1)) p.reconnectMax, { p.backoff with attempts := k + 1 }) := by
  have below : k < p.backoff.limit := hk
  simp only [Backoff.next?, below, if_true, Backoff.delay, Backoff.factor_eq_min]
  rfl

theorem next?_of_le {k : Nat} (hk : p.reconnectLimit ≤ k) :
    Backoff.next? { p.backoff with attempts := k } = none :=
  (Backoff.next?_eq_none _).2 hk

theorem surcharge_eq_zero (hx : ∀ closure, x ≠ .closed closure) : Entry.surcharge ⟨now, x, s⟩ = 0 := by
  unfold Entry.surcharge
  split
  · next closure _ h => exact absurd h (hx _)
  · rfl

/-- Only a close frame of the gateway makes a shard wait for more than its backoff. -/
theorem ending_again {e : Ending} {resume : Bool} {extra : Nat} (he : s.ending? now x = some e)
    (hf : e.finish = .again resume extra) : extra = Entry.surcharge ⟨now, x, s⟩ := by
  by_cases hx : ∃ closure, x = .closed closure
  · obtain ⟨closure, rfl⟩ := hx
    cases hp : s.phase with
    | waiting | ended | dialling => simp [ending?, hp] at he
    | online c queued =>
      simp only [ending?, hp, endingOnline?, Option.some.injEq] at he
      subst he
      cases closure with
      | none =>
        cases hf
        simp [Entry.surcharge, hp]
      | some closure =>
        simp only [afterClosure, Option.map_some] at hf
        simp only [Entry.surcharge, hp]
        split at hf
        · cases hf
          by_cases code : closure.code = 4008 <;> simp [code, CloseCode.number, Limiter.gatewayWindow]
        · next reidentify =>
          cases hf
          have other : closure.code ≠ 4008 := by
            intro code
            rw [code] at reidentify
            cases reidentify.symm.trans CloseCode.classify_rateLimited
          simp [other]
        · cases hf
  · rw [surcharge_eq_zero fun closure h => hx ⟨closure, h⟩]
    cases ending_occasion he with
    | stop => cases hf
    | decline | recycle | lose | unreach =>
      cases hf
      rfl
    | close => exact absurd ⟨_, rfl⟩ hx

/-- A connection that ends in a fault was closed with a code that stands for one. -/
theorem isFatal_of_ending {e : Ending} {f : Fault} (he : s.ending? now x = some e) (hf : e.finish = .fatal f) :
    x.isFatal = true := by
  cases ending_occasion he with
  | stop | decline | recycle | lose | unreach => cases hf
  | close online =>
    simp only [afterClosure] at hf
    split at hf
    · cases hf
    · cases hf
    · next fatal => exact decide_eq_true fatal

/-- A shard that is stopped by force keeps its backoff. -/
theorem abort_backoff (s : Shard) : (abort s).shard.backoff = s.backoff := by
  unfold abort
  split <;> rfl

/-- The end of a shard ends its spell. -/
theorem paced_ended {s' : Shard} {sp' : Spell} (profile : s'.profile = p)
    (address' : s'.address = address) (backoff : ∃ k, s'.backoff = { p.backoff with attempts := k })
    (ended : s'.isEnded = true) (retries : sp'.retries ≤ p.reconnectLimit)
    (attempts : sp'.attempts ≤ sp'.retries + 1) : Paced p address s' sp' := by
  have phase : s'.phase = .ended := by
    unfold isEnded at ended
    split at ended
    · assumption
    · cases ended
  refine ⟨profile, address', ?_, retries, attempts, ?_, ?_⟩
  · obtain ⟨k, hk⟩ := backoff
    rw [hk]
  · simp [isOffline, phase]
  · simp [phase]

/-- The end of a connection counts as a reconnect, or begins a spell. -/
theorem Paced.concludes {e : Ending} (h : Paced p address s sp) (ending : s.ending? now x = some e) :
    Paced p address (s.step now x).shard (sp.note p ⟨now, x, s⟩) := by
  have concludes := step_concludes ending
  have connected : s.isOffline = false := connected_of_ending ending
  have ends : Entry.ends ⟨now, x, s⟩ = true := by
    have after : (Entry.after ⟨now, x, s⟩).isOffline = true := concludes.offline
    simp [Entry.ends, after, connected]
  obtain ⟨s', acts, go, turn⟩ := concludes
  have rested := h.rested now connected go.toAkin
  have retries : (sp.note p ⟨now, x, s⟩).retries = sp.reconnects p now := note_ends_retries ends
  have few : (sp.note p ⟨now, x, s⟩).retries ≤ p.reconnectLimit := retries ▸ h.reconnects_le
  have attempts := note_ends_attempts (p := p) ends h.attempts
  have profile : s'.profile = p := go.profile.trans h.profile
  have address' : s'.address = address := go.address.trans h.address
  rw [turn, Turn.next_mk]
  cases hf : e.finish with
  | stopped =>
    rw [finish_stops]
    exact paced_ended profile address' ⟨_, rested⟩ rfl few attempts
  | fatal f =>
    rw [finish_fails]
    exact paced_ended profile address' ⟨_, rested⟩ rfl few attempts
  | again resume extra =>
    have keeping : (s'.keeping resume).profile = s'.profile ∧ (s'.keeping resume).address = s'.address := by
      cases resume <;> exact ⟨rfl, rfl⟩
    rcases Nat.lt_or_ge (sp.reconnects p now) p.reconnectLimit with below | reached
    · rw [finish_waits (rested ▸ next?_of_lt below)]
      refine ⟨keeping.1.trans profile, keeping.2.trans address', rfl, few, attempts, ?_, fun _ _ => ?_⟩
      · intro here
        cases here
      · exact ⟨congrArg (· + 1) retries.symm, retries ▸ below, rfl, note_ends_readied ends⟩
    · rw [finish_exhausts (rested ▸ next?_of_le reached)]
      exact paced_ended (keeping.1.trans profile) (keeping.2.trans address') ⟨_, rested⟩ rfl few attempts

/-- A connection that goes on leaves the spell alone, but for becoming ready. -/
theorem Paced.goesOn (h : Paced p address s sp) (connected : s.isOffline = false)
    (here : (s.step now x).shard.isOffline = false) :
    Paced p address (s.step now x).shard (sp.note p ⟨now, x, s⟩) := by
  obtain ⟨undialled, backoff, ready⟩ := (step_outcome now x s).paces connected here
  obtain ⟨attempts, readied⟩ := h.connected connected
  have profile : (s.step now x).shard.profile = p := (step_profile now x s).trans h.profile
  have address' : (s.step now x).shard.address = address := (step_keeps now x s).1.trans h.address
  have unended : Entry.ends ⟨now, x, s⟩ = false := not_ends (.inr here)
  have onward : ∀ deadline, (s.step now x).shard.phase ≠ .waiting deadline := fun deadline hp => by
    simp [isOffline, hp] at here
  rcases ready with ⟨since, unready⟩ | ⟨since, ready⟩
  · rw [note_silent unended undialled unready]
    refine ⟨profile, address', backoff ▸ h.backoff, h.retries, h.attempts, fun _ => ?_,
      fun d hp => absurd hp (onward d)⟩
    exact ⟨backoff ▸ attempts, since.trans readied⟩
  · have noted : sp.note p ⟨now, x, s⟩ = { sp with readied := some now } := by
      have silent : Entry.dials ⟨now, x, s⟩ = false := not_dials undialled
      have readies : Entry.readies ⟨now, x, s⟩ = true := List.any_eq_true.2 ready
      simp [Spell.note, unended, silent, readies]
    rw [noted]
    refine ⟨profile, address', backoff ▸ h.backoff, h.retries, h.attempts, fun _ => ?_,
      fun d hp => absurd hp (onward d)⟩
    exact ⟨backoff ▸ attempts, since⟩

/-- A step keeps the backoff in step with the annals. -/
theorem step_paced (now : Nat) (x : Stimulus) (h : Paced p address s sp) :
    Paced p address (s.step now x).shard (sp.note p ⟨now, x, s⟩) := by
  have hc := step_course now x s
  generalize ht : s.step now x = t at hc ⊢
  have acts : Entry.acts ⟨now, x, s⟩ = t.acts := congrArg Turn.acts ht
  have same (away : s.isOffline = true) (ha : ∀ a ∈ t.acts, a.isAnswer = true) : sp.note p ⟨now, x, s⟩ = sp :=
    note_silent (not_ends (.inl away)) (acts ▸ forall_answers ha fun _ _ => rfl)
      (acts ▸ forall_answers ha fun _ _ => rfl)
  cases hc with
  | ends ending => exact ht ▸ h.concludes ending
  | goesOn connected here => exact ht ▸ h.goesOn connected (ht ▸ here)
  | dials waiting due =>
    obtain ⟨attempts, below, since, readied⟩ := h.waiting _ waiting
    have dials : Entry.dials ⟨now, .timeout, s⟩ = true := by
      rw [Entry.dials, acts, dial_eq]
      simp [Act.isDial]
    have unended : Entry.ends ⟨now, .timeout, s⟩ = false := not_ends (.inl (by simp [isOffline, waiting]))
    have noted : sp.note p ⟨now, .timeout, s⟩ = ⟨sp.readied, sp.retries + 1, sp.attempts + 1⟩ := by
      simp [Spell.note, unended, dials]
    rw [noted, dial_eq]
    refine ⟨h.profile, h.address, h.backoff, below, Nat.succ_le_succ h.attempts, fun _ => ?_, fun d hp => by cases hp⟩
    exact ⟨attempts, since.trans readied.symm⟩
  | leaves waiting stops left =>
    obtain ⟨rest, rfl⟩ := left
    rw [same (by simp [isOffline, waiting]) fun a ha => isAnswer_of_refusal ha]
    exact paced_ended h.profile h.address ⟨_, h.backoff⟩ rfl h.retries h.attempts
  | rests away shard answers =>
    rw [same away answers, shard]
    exact ⟨h.profile, h.address, h.backoff, h.retries, h.attempts, h.connected, h.waiting⟩
  | aborts eq =>
    subst eq
    have undialled : ∀ a ∈ (abort s).acts, a.isDial = false := forall_abort s rfl rfl fun _ _ => rfl
    have unready : ∀ a ∈ (abort s).acts, a.isReadying = false := forall_abort s rfl rfl fun _ _ => rfl
    have backoff : ∃ k, (abort s).shard.backoff = { p.backoff with attempts := k } :=
      ⟨_, (abort_backoff s).trans h.backoff⟩
    have profile : (abort s).shard.profile = p := ht ▸ (step_profile now .abort s).trans h.profile
    have address' : (abort s).shard.address = address := ht ▸ (step_keeps now .abort s).1.trans h.address
    cases he : Entry.ends ⟨now, .abort, s⟩ with
    | true =>
      refine paced_ended profile address' backoff (abort_ends s) ?_ (note_ends_attempts he h.attempts)
      rw [note_ends_retries he]
      exact h.reconnects_le
    | false =>
      rw [note_silent he (acts ▸ undialled) (acts ▸ unready)]
      exact paced_ended profile address' backoff (abort_ends s) h.retries h.attempts

/-- What follows on the end of a connection. -/
theorem entry_retried (now : Nat) (x : Stimulus) (h : Paced p address s sp) (hr : Entry.recurs ⟨now, x, s⟩ = true) :
    Retried p address sp ⟨now, x, s⟩ := by
  simp only [Entry.recurs, Bool.and_eq_true, Bool.not_eq_true'] at hr
  obtain ⟨⟨⟨ends, goesOn⟩, mild⟩, unforced⟩ := hr
  have connected : s.isOffline = false := by
    simp only [Entry.ends, Bool.and_eq_true, Bool.not_eq_true'] at ends
    exact ends.1
  have offline : (s.step now x).shard.isOffline = true := by
    simp only [Entry.ends, Bool.and_eq_true] at ends
    exact ends.2
  have hx : x ≠ .abort := by
    rintro rfl
    cases unforced
  -- nothing but an ending leaves a shard without a connection
  have follows := connected_follows now connected hx
  cases he : s.ending? now x with
  | none =>
    rw [he] at follows
    cases offline.symm.trans follows
  | some e =>
    rw [he] at follows
    obtain ⟨s', acts', go, eq⟩ := follows
    have turn : Entry.turn ⟨now, x, s⟩ = (⟨s', acts'⟩ : Turn).next (finish e.finish now) := eq
    have own : s'.id = address.id := congrArg ShardAddress.id (go.address.trans h.address)
    have rested := h.rested now connected go.toAkin
    have silent := no_fault_of_quiet go.quiet
    cases hf : e.finish with
    | stopped => cases goesOn.symm.trans (ending_stops he hf)
    | fatal f => cases mild.symm.trans (isFatal_of_ending he hf)
    | again resume extra =>
      rw [hf, Turn.next_mk] at turn
      refine ⟨fun reached => ?_, fun below => ?_⟩
      · have exhausted : (s'.rested now).next? = none := rested ▸ next?_of_le reached
        have limit : sp.reconnects p now = p.reconnectLimit := Nat.le_antisymm h.reconnects_le reached
        have disconnected : ∀ a ∈ announce .disconnected s', a.admits = false :=
          fun a ha => not_admits_of_announce (by decide) ha
        rw [finish_exhausts exhausted, rested, limit, own] at turn
        refine ⟨?_, by rw [Entry.after, turn]; rfl⟩
        rw [Entry.acts, turn]
        simp [List.filterMap_append, List.filterMap_cons, silent, Act.fault?, no_fault_of_quiet disconnected,
          no_fault_of_quiet (quiet_refusals s')]
      · have waits : (s'.rested now).next? = _ := rested ▸ next?_of_lt below
        rw [finish_waits waits] at turn
        refine ⟨?_, by rw [Entry.after, turn, ending_again he hf]⟩
        rw [Entry.acts, turn, List.filterMap_append, silent, List.nil_append]
        exact no_fault_of_quiet fun a ha => not_admits_of_announce (by decide) ha

end Paced

end Shard

open Shard (Stimulus Act Spell)

/-! ## Under a clock -/

/-- a shard's annals, and the time -/
structure Watch where
  now : Nat
  annals : Annals

namespace Watch

inductive Move where
  /-- time goes on, but not past a deadline or the end of a wait -/
  | tick (time : Nat)
  | happen (x : Stimulus)

def step (w : Watch) : Move → Watch
  | .tick time =>
    if w.now ≤ time && w.annals.shard.timeoutDue?.all fun due => time ≤ due then { w with now := time } else w
  | .happen x => { w with annals := w.annals.step w.now x }

def opening (profile : ShardProfile) (address : ShardAddress) (now : Nat) : Watch :=
  ⟨now, Annals.opening profile address now⟩

def run (w : Watch) (moves : List Move) : Watch := moves.foldl step w

/-- what has become of a wait until `due`: the next attempt was made at that moment; it is not there yet, and will be
made then; or the shard was stopped meanwhile -/
inductive Redials (due : Nat) (w : Watch) (post : List Shard.Entry) : Prop where
  | dialled (mid : List Shard.Entry) (e : Shard.Entry) (rest : List Shard.Entry) (split : post = mid ++ e :: rest)
      (none : ∀ d ∈ mid, d.dials = false) (dials : e.dials = true) (time : e.time = due)
  | waits (none : ∀ d ∈ post, d.dials = false) (phase : w.annals.shard.phase = .waiting due) (ahead : w.now ≤ due)
      (will : (w.annals.entry due .timeout).dials = true)
  | stopped (none : ∀ d ∈ post, d.dials = false) (ended : w.annals.shard.isEnded = true)
      (stop : ∃ d ∈ post, d.before.takesStop d.cause = true ∨ d.cause = .abort)

/-- the annals of a shard whose waits are as long as its spell says -/
structure Punctual (p : ShardProfile) (address : ShardAddress) (w : Watch) : Prop where
  begun : w.annals.entries ≠ []
  paced : Shard.Paced p address w.annals.shard (Spell.ofEntries p w.annals.entries)
  retried : Shard.AtEach (fun earlier e => e.recurs = true → Shard.Retried p address (Spell.ofEntries p earlier) e)
    w.annals.entries
  redials : ∀ pre e post due, w.annals.entries = pre ++ e :: post → e.recurs = true →
    e.after.phase = .waiting due → Redials due w post

variable {p : ShardProfile} {address : ShardAddress} {w : Watch}

theorem entry_dials {a : Annals} {due now : Nat} (hp : a.shard.phase = .waiting due) (hd : due ≤ now) :
    (a.entry now .timeout).dials = true := by
  have turn : (a.entry now .timeout).turn = Shard.dial now a.shard := by
    show Shard.expire now a.shard = _
    simp [Shard.expire, hp, hd]
  rw [Shard.Entry.dials, Shard.Entry.acts, turn, Shard.dial_eq]
  simp [Act.isDial]

/-- A wait goes on until it is over, or the shard stops. -/
theorem Redials.step {due : Nat} {post : List Shard.Entry} (h : Redials due w post) (x : Stimulus) :
    Redials due (w.step (.happen x)) (post ++ [w.annals.entry w.now x]) := by
  cases h with
  | dialled mid e rest split none dials time =>
    exact .dialled mid e (rest ++ [w.annals.entry w.now x]) (by simp [split]) none dials time
  | waits none phase ahead will =>
    have away : w.annals.shard.isOffline = true := by simp [Shard.isOffline, phase]
    have also (h : (w.annals.entry w.now x).dials = false) :
        ∀ d ∈ post ++ [w.annals.entry w.now x], d.dials = false := by
      intro d hd
      rcases List.mem_append.1 hd with hd | hd
      · exact none d hd
      · exact List.mem_singleton.1 hd ▸ h
    have last : w.annals.entry w.now x ∈ post ++ [w.annals.entry w.now x] :=
      List.mem_append_right _ (List.mem_singleton_self _)
    have hc := Shard.step_course w.now x w.annals.shard
    generalize ht : w.annals.shard.step w.now x = t at hc
    have acts : (w.annals.entry w.now x).acts = t.acts := congrArg Shard.Turn.acts ht
    have after : (w.step (.happen x)).annals.shard = t.shard := congrArg Shard.Turn.shard ht
    cases hc with
    | ends ending => cases (Shard.connected_of_ending ending).symm.trans away
    | goesOn connected => cases connected.symm.trans away
    | dials waiting reached =>
      cases phase.symm.trans waiting
      exact .dialled post _ [] rfl none (entry_dials phase reached) (Nat.le_antisymm ahead reached)
    | leaves waiting stops left =>
      obtain ⟨rest, rfl⟩ := left
      refine .stopped (also (Shard.not_dials ?_)) (by rw [after]; rfl) ⟨_, last, .inl stops⟩
      rw [acts]
      exact Shard.forall_answers (fun _ ha => Shard.isAnswer_of_refusal ha) fun _ _ => rfl
    | rests away' shard answers =>
      have phase' : (w.step (.happen x)).annals.shard.phase = .waiting due := by rw [after, shard]; exact phase
      refine .waits (also (Shard.not_dials ?_)) phase' ahead (entry_dials phase' (Nat.le_refl due))
      rw [acts]
      exact Shard.forall_answers answers fun _ _ => rfl
    | aborts eq =>
      subst eq
      refine .stopped (also (Shard.not_dials ?_)) (by rw [after]; exact Shard.abort_ends _) ⟨_, last, .inr rfl⟩
      rw [acts]
      exact Shard.forall_abort _ rfl rfl fun _ _ => rfl
  | stopped none ended stop =>
    obtain ⟨ended', -, answers⟩ := Shard.step_ended w.now x ended
    obtain ⟨d, hd, why⟩ := stop
    refine .stopped (fun d hd => ?_) ended' ⟨d, List.mem_append_left _ hd, why⟩
    rcases List.mem_append.1 hd with hd | hd
    · exact none d hd
    · cases List.mem_singleton.1 hd
      exact Shard.not_dials (Shard.forall_answers answers fun _ _ => rfl)

theorem Redials.later {due time : Nat} {post : List Shard.Entry} (h : Redials due w post)
    (ht : (w.now ≤ time && w.annals.shard.timeoutDue?.all fun due => time ≤ due) = true) :
    Redials due { w with now := time } post := by
  cases h with
  | dialled mid e rest split none dials at' => exact .dialled mid e rest split none dials at'
  | waits none phase ahead will =>
    have onward := (Bool.and_eq_true_iff.1 ht).2
    simp only [Shard.timeoutDue?, phase, Option.all_some, decide_eq_true_eq] at onward
    exact .waits none phase onward will
  | stopped none ended stop => exact .stopped none ended stop

theorem step_punctual (h : Punctual p address w) (m : Move) : Punctual p address (w.step m) := by
  cases m with
  | tick time =>
    simp only [step]
    split
    · next ht =>
      exact ⟨h.begun, h.paced, h.retried, fun pre e post due eq hr hp => (h.redials pre e post due eq hr hp).later ht⟩
    · exact h
  | happen x =>
    have retried := fun hr => Shard.entry_retried w.now x h.paced hr
    refine ⟨by simp [step, Annals.step], ?_, h.retried.snoc retried, fun pre e post due eq hr hp => ?_⟩
    · have paced := Shard.step_paced w.now x h.paced
      rwa [← Spell.ofEntries_snoc h.begun] at paced
    · rcases Shard.snoc_split eq with ⟨-, rfl, rfl⟩ | ⟨rest, rfl, eq'⟩
      · have ahead : w.now ≤ due := by
          have retried := retried hr
          rcases Nat.lt_or_ge (Spell.reconnects p w.now (Spell.ofEntries p w.annals.entries)) p.reconnectLimit
            with below | reached
          · cases hp.symm.trans (retried.waits below).2
            show w.now ≤ w.now + _ + _
            omega
          · have waiting : (Shard.Entry.after ⟨w.now, x, w.annals.shard⟩).phase = .waiting due := hp
            have ended := (retried.exhausts reached).2
            simp [Shard.isEnded, waiting] at ended
        exact .waits (by simp) hp ahead (entry_dials hp (Nat.le_refl due))
      · exact (h.redials pre e rest due eq' hr hp).step x

theorem opening_punctual (p : ShardProfile) (address : ShardAddress) (start : Nat) :
    Punctual p address (opening p address start) := by
  have entries : (opening p address start).annals.entries = [⟨start, .timeout, Shard.fresh p address start⟩] := rfl
  have shard : (opening p address start).annals.shard = (Shard.launch p address start).shard :=
    Annals.opening_shard p address start
  have first : Shard.Entry.recurs ⟨start, .timeout, Shard.fresh p address start⟩ = false := rfl
  refine ⟨by simp [entries], ?_, ?_, ?_⟩
  case refine_1 =>
    rw [entries, shard, Shard.launch, Shard.dial_eq]
    exact ⟨rfl, rfl, rfl, Nat.zero_le _, Nat.le_refl _, fun _ => ⟨rfl, rfl⟩, fun _ hp => by cases hp⟩
  case refine_2 =>
    rw [entries]
    exact .one fun hr => by cases first.symm.trans hr
  case refine_3 =>
    intro pre e post due eq hr
    have eq : [] ++ [_] = pre ++ e :: post := entries ▸ eq
    rcases Shard.snoc_split eq with ⟨-, rfl, -⟩ | ⟨rest, -, eq'⟩
    · cases first.symm.trans hr
    · simp at eq'

theorem run_punctual (p : ShardProfile) (address : ShardAddress) (start : Nat) (moves : List Move) :
    Punctual p address ((opening p address start).run moves) :=
  List.foldlRecOn moves step (motive := Punctual p address) (opening_punctual p address start)
    fun _ h m _ => step_punctual h m

end Watch

end Shardwire
