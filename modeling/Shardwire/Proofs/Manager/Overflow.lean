import Shardwire.Instant
import Shardwire.Proofs.Limiter.Spacing
import Shardwire.Proofs.Manager.Outcome
import Shardwire.Proofs.Printing
import Shardwire.Proofs.Shard.Delays

/-
Which additions of times can overflow.

A service is a manager with its limiter and a clock; anything can happen to the manager and its shards at any time, and
others may use the limiter. Its times are exact numbers, and `Instant` says which of them the program can keep.
- `Manager.Timed`: managers and shards reckon with the times of their settings, and with words of milliseconds;
- `Limiter.Past`: permits were granted in the past;
- `Timely.fits`: so every addition but those of the two timeouts has room, in every run, for as long as the clock is
  more than a word of milliseconds away from its end.

Nothing bounds the timeouts themselves: `additions_fit` says exactly when they can be added, and that any of them is
accepted.
-/

namespace Shardwire

/-! ## The limiter -/

namespace Limiter

variable {τ : Type} {l : Limiter τ} {now window : Nat}

/-- permits were granted in the past -/
def Past (now : Nat) (l : Limiter τ) : Prop := ∀ c ∈ l.clocks ++ l.retired, ∀ last, c.last = some last → last ≤ now

theorem grantsDue_past (window now : Nat) (calls : List (Call τ)) {last : Option Nat}
    (h : ∀ t, last = some t → t ≤ now) : ∀ t, (grantsDue window now last calls).2.1 = some t → t ≤ now := by
  induction calls generalizing last with
  | nil => exact h
  | cons c rest ih =>
    rw [grantsDue]
    split
    · next due =>
      apply ih
      rintro t ⟨⟩
      exact due
    · exact h

namespace Past

theorem fresh (window now : Nat) : (Limiter.fresh window : Limiter τ).Past now := by
  intro c mem
  cases mem

theorem later {time : Nat} (h : l.Past now) (le : now ≤ time) : l.Past time :=
  fun c mem last eq => Nat.le_trans (h c mem last eq) le

/-- What does not grant anything leaves the last grants alone, or starts clocks without one. -/
theorem of_clocks {l' : Limiter τ} (h : l.Past now)
    (clocks : ∀ c ∈ l'.clocks ++ l'.retired, c.last = none ∨ ∃ d ∈ l.clocks ++ l.retired, d.last = c.last) :
    l'.Past now := by
  intro c mem last eq
  rcases clocks c mem with none | ⟨d, mem', same⟩
  · cases none.symm.trans eq
  · exact h d mem' last (same.trans eq)

theorem request (h : l.Past now) (bucket : UInt32) (ticket : τ) : (l.request bucket ticket now).Past now := by
  apply h.of_clocks
  intro c mem
  unfold Limiter.request at mem
  split at mem
  · rcases List.mem_append.1 mem with live | old
    · obtain ⟨d, here, rfl⟩ := List.mem_map.1 live
      refine .inr ⟨d, List.mem_append_left _ here, ?_⟩
      split <;> rfl
    · exact .inr ⟨c, List.mem_append_right _ old, rfl⟩
  · rcases List.mem_append.1 mem with live | old
    · rcases List.mem_append.1 live with live | new
      · exact .inr ⟨c, List.mem_append_left _ live, rfl⟩
      · cases List.mem_singleton.1 new
        exact .inl rfl
    · exact .inr ⟨c, List.mem_append_right _ old, rfl⟩

theorem withdraw [DecidableEq τ] (h : l.Past now) (ticket : τ) : (l.withdraw ticket).Past now := by
  apply h.of_clocks
  intro c mem
  rcases List.mem_append.1 mem with live | old
  · obtain ⟨d, here, rfl⟩ := List.mem_map.1 live
    exact .inr ⟨d, List.mem_append_left _ here, rfl⟩
  · obtain ⟨d, here, rfl⟩ := List.mem_map.1 (List.mem_filter.1 old).1
    exact .inr ⟨d, List.mem_append_right _ here, rfl⟩

theorem clear (h : l.Past now) : l.clear.Past now := by
  apply h.of_clocks
  intro c mem
  rcases List.mem_append.1 mem with live | old
  · cases live
  · rcases List.mem_append.1 old with old | live
    · exact .inr ⟨c, List.mem_append_right _ old, rfl⟩
    · exact .inr ⟨c, List.mem_append_left _ (List.mem_filter.1 live).1, rfl⟩

/-- A permit is granted when it is due, and that is not later than now. -/
theorem settle (h : l.Past now) : (l.settle now).2.Past now := by
  have settled : ∀ d ∈ l.clocks ++ l.retired, ∀ last, (settleClock l.window now d).2.last = some last → last ≤ now :=
    fun d mem => grantsDue_past l.window now d.waiting (h d mem)
  intro c mem
  rcases List.mem_append.1 mem with live | old
  · obtain ⟨r, made, rfl⟩ := List.mem_map.1 live
    obtain ⟨d, here, rfl⟩ := List.mem_map.1 made
    exact settled d (List.mem_append_left _ here)
  · obtain ⟨r, made, rfl⟩ := List.mem_map.1 (List.mem_filter.1 old).1
    obtain ⟨d, here, rfl⟩ := List.mem_map.1 made
    exact settled d (List.mem_append_right _ here)

end Past

end Limiter

/-! ## The manager -/

/-- the profile of some settings, whatever gateway it connects to -/
def ShardProfile.Suits (s : Settings) (p : ShardProfile) : Prop :=
  ∃ url, p = { ofSettings s with gatewayUrl := url }

theorem ShardProfile.Suits.moved {s : Settings} {p : ShardProfile} (h : p.Suits s) (url : String) :
    ShardProfile.Suits s { p with gatewayUrl := url } := by
  obtain ⟨_, rfl⟩ := h
  exact ⟨url, rfl⟩

namespace Manager

variable {s : Settings} {m : Manager} {now : Nat}

/-- a manager, a start and shards that reckon with the times of some settings -/
structure Timed (s : Settings) (m : Manager) : Prop where
  startupTimeout : m.startupTimeout = s.timeouts.startup.toNat * 1000
  profile : m.profile.Suits s
  startup : ∀ start, m.startup = some start → start.profile.Suits s
  tasks : ∀ k ∈ m.tasks, ∃ p : ShardProfile, p.Suits s ∧ k.shard.Measured p

theorem ofSettings_timed (s : Settings) : Timed s (.ofSettings s) where
  startupTimeout := rfl
  profile := ⟨s.bot.gatewayUrl, rfl⟩
  startup := by
    intro start eq
    cases eq
  tasks := by
    intro k mem
    cases mem

theorem Timed.asked (h : Timed s m) (bot : Option BotClient) : Timed s { m with bot := bot } :=
  ⟨h.startupTimeout, h.profile, h.startup, h.tasks⟩

theorem start_timed (h : Timed s m) {profile : ShardProfile} (suits : profile.Suits s) (shards maxConcurrency : UInt32)
    (now : Nat) : Timed s (start profile shards maxConcurrency now m).manager := by
  unfold start
  split
  · exact h
  · split
    · exact h
    · refine ⟨h.startupTimeout, h.profile, ?_, h.tasks⟩
      rintro _ ⟨⟩
      exact suits

/-- A start that asks the bot endpoint takes another gateway from it, and no times. -/
theorem connect_timed (h : Timed s m) (answer : HttpAnswer) (now : Nat) : Timed s (connect answer now m).manager := by
  simp only [connect]
  split
  · split
    · exact start_timed h h.profile _ _ now
    · exact h
  · next bot _ =>
    have asked := h.asked (some (bot.fetch answer now).client)
    split
    · exact asked
    · next info _ =>
      split <;> split
      · exact start_timed asked (h.profile.moved info.url) _ _ now
      · exact asked
      · exact start_timed asked (h.profile.moved info.url) _ _ now
      · exact asked

theorem advance_timed (h : Timed s m) {start : Startup} (suits : start.profile.Suits s) (l : Lane) (now : Nat) :
    Timed s (advance start l now m).manager := by
  unfold advance
  split
  · split
    · next address _ =>
      refine ⟨h.startupTimeout, h.profile, ?_, fun k mem => ?_⟩
      · rintro _ ⟨⟩
        exact suits
      · rcases List.mem_append.1 mem with old | new
        · exact h.tasks k old
        · cases List.mem_singleton.1 new
          exact ⟨start.profile, suits, Shard.launch_measured start.profile address now⟩
    · exact ⟨h.startupTimeout, h.profile, nofun, h.tasks⟩
  · split
    · exact ⟨h.startupTimeout, h.profile, nofun, h.tasks⟩
    · refine ⟨h.startupTimeout, h.profile, ?_, h.tasks⟩
      rintro _ ⟨⟩
      exact suits

theorem look_timed (h : Timed s m) (bucket : UInt32) (now : Nat) : Timed s (look bucket now m).manager := by
  unfold look
  split
  · exact h
  · next start eq =>
    split
    · exact h
    · split
      · exact advance_timed h (h.startup start eq) _ now
      · exact h

theorem stepShard_timed (h : Timed s m) (id : UInt32) (y : Shard.Stimulus) (now : Nat) :
    Timed s (stepShard id y now m).manager := by
  unfold stepShard
  split
  · exact h
  · next task found =>
    refine ⟨h.startupTimeout, h.profile, h.startup, fun k mem => ?_⟩
    obtain ⟨old, here, rfl⟩ := List.mem_map.1 mem
    split
    · obtain ⟨p, suits, measured⟩ := h.tasks task (List.mem_of_find?_eq_some found)
      exact ⟨p, suits, Shard.step_measured now y measured⟩
    · exact h.tasks old here

theorem shutdown_timed (h : Timed s m) (now : Nat) : Timed s (shutdown now m).manager := by
  have stopped : Timed s (m.ids.foldl (fun m id => (stepShard id .stop now m).manager) m) :=
    List.foldlRecOn m.ids _ (motive := Timed s) h fun m h id _ => stepShard_timed h id .stop now
  refine ⟨stopped.startupTimeout, stopped.profile, stopped.startup, fun k mem => ?_⟩
  obtain ⟨old, here, rfl⟩ := List.mem_map.1 mem
  exact stopped.tasks old here

theorem takeLeave_timed (h : Timed s m) (now : Nat) : Timed s (takeLeave now m).manager := by
  unfold takeLeave
  split
  · exact h
  · split
    · exact ⟨h.startupTimeout, h.profile, h.startup, h.tasks⟩
    · split
      · exact List.foldlRecOn _ _ (motive := fun t : Turn => Timed s t.manager) h
          fun t h id _ => stepShard_timed h id .abort now
      · exact h

/-- Whatever happens, nothing but the settings says how long things may take. -/
theorem step_timed (h : Timed s m) (now : Nat) (x : Stimulus) : Timed s (m.step now x).manager := by
  cases x with
  | start shards maxConcurrency => exact start_timed h h.profile shards maxConcurrency now
  | connect answer => exact connect_timed h answer now
  | submit id ticket msg =>
    simp only [step, submit]
    split
    · exact h
    · split
      · exact h
      · exact stepShard_timed h id _ now
  | shutdown => exact shutdown_timed h now
  | shard id y => exact stepShard_timed h id y now
  | lane bucket => exact look_timed h bucket now
  | farewell => exact takeLeave_timed h now

/-- What a manager does to its limiter leaves permits in the past. -/
theorem touch_past (m : Manager) {l : Limiter UInt32} (h : l.Past now) (a : Act) :
    (touch now m l a).Past now ∧ (touch now m l a).window = l.window := by
  unfold touch
  split
  · split
    · exact ⟨h.request _ _, Limiter.request_window l _ _ now⟩
    · exact ⟨h, rfl⟩
  · exact ⟨h.withdraw _, rfl⟩
  · exact ⟨h.clear, rfl⟩
  · exact ⟨h, rfl⟩

end Manager

/-! ## A service -/

/-- a manager with its limiter and a clock -/
structure Service where
  now : Nat
  manager : Manager
  limiter : Limiter UInt32

namespace Service

inductive Move where
  /-- time goes on -/
  | tick (time : Nat)
  /-- something happens to the manager or to one of its shards -/
  | happen (x : Manager.Stimulus)
  /-- permits that are due are granted -/
  | settle
  /-- someone else calls for a permit, takes a call back, or clears the limiter -/
  | request (bucket ticket : UInt32)
  | withdraw (ticket : UInt32)
  | clear

def step (r : Service) : Move → Service
  | .tick time => { r with now := max r.now time }
  | .happen x =>
    let t := r.manager.step r.now x
    { r with manager := t.manager, limiter := t.acts.foldl (Manager.touch r.now t.manager) r.limiter }
  | .settle => { r with limiter := (r.limiter.settle r.now).2 }
  | .request bucket ticket => { r with limiter := r.limiter.request bucket ticket r.now }
  | .withdraw ticket => { r with limiter := r.limiter.withdraw ticket }
  | .clear => { r with limiter := r.limiter.clear }

def run (r : Service) (moves : List Move) : Service := moves.foldl step r

/-- a new manager, and a limiter that nobody has used -/
def opening (now : Nat) (s : Settings) : Service := ⟨now, .ofSettings s, .fresh Limiter.gatewayWindow⟩

/-- profiles of the shards there are, and of those that are to be spawned -/
def profiles (r : Service) : List ShardProfile :=
  r.manager.tasks.map (·.shard.profile) ++ (r.manager.startup.map (·.profile)).toList

variable {s : Settings} {r : Service}

/-- the times of the settings, and a limiter with permits in the past -/
structure Timely (s : Settings) (r : Service) : Prop where
  manager : r.manager.Timed s
  past : r.limiter.Past r.now
  window : r.limiter.window = Limiter.gatewayWindow

theorem step_timely (h : Timely s r) (v : Move) : Timely s (r.step v) := by
  cases v with
  | tick time => exact ⟨h.manager, h.past.later (Nat.le_max_left r.now time), h.window⟩
  | happen x =>
    have touched := List.foldlRecOn (r.manager.step r.now x).acts
      (Manager.touch r.now (r.manager.step r.now x).manager)
      (motive := fun l => l.Past r.now ∧ l.window = Limiter.gatewayWindow) ⟨h.past, h.window⟩
      fun l hl a _ => ⟨(Manager.touch_past _ hl.1 a).1, (Manager.touch_past _ hl.1 a).2.trans hl.2⟩
    exact ⟨Manager.step_timed h.manager r.now x, touched.1, touched.2⟩
  | settle => exact ⟨h.manager, h.past.settle, h.window⟩
  | request bucket ticket =>
    have window := Limiter.request_window r.limiter bucket ticket r.now
    exact ⟨h.manager, h.past.request bucket ticket, window.trans h.window⟩
  | withdraw ticket => exact ⟨h.manager, h.past.withdraw ticket, h.window⟩
  | clear => exact ⟨h.manager, h.past.clear, h.window⟩

theorem run_timely (h : Timely s r) (moves : List Move) : Timely s (r.run moves) := by
  induction moves generalizing r with
  | nil => exact h
  | cons v moves ih => exact ih (step_timely h v)

theorem opening_timely (now : Nat) (s : Settings) : Timely s (opening now s) :=
  ⟨Manager.ofSettings_timed s, .fresh _ now, rfl⟩

/-! ## Additions with room -/

/-- whatever comes next, there is room for every addition but those of the timeouts -/
structure Fits (r : Service) : Prop where
  /-- the delay of the backoff and what comes on top, when a shard is to wait for both before another attempt -/
  delays : ∀ k ∈ r.manager.tasks, ∀ x e resume extra delay b, k.shard.ending? r.now x = some e →
    e.finish = .again resume extra → (k.shard.rested r.now).next? = some (delay, b) →
    (k.shard.step r.now x).shard.phase = .waiting (r.now + delay + extra) ∧ Span.Joins delay extra
  /-- a heartbeat interval from now -/
  beats : ∀ k ∈ r.manager.tasks, ∀ c queued b, k.shard.phase = .online c queued → c.beater = some b →
    Instant.Reaches r.now b.interval
  /-- a window after the last permit -/
  permits : ∀ c ∈ r.limiter.clocks ++ r.limiter.retired, ∀ last, c.last = some last →
    Instant.Reaches last r.limiter.window
  /-- the time until a bot answer goes stale -/
  answers : ∀ info : BotInfo, Instant.Reaches r.now info.limit.resetAfter.toNat

theorem reaches_word {now ms : Nat} (room : now + UInt64.size ≤ Instant.limit) (word : ms < UInt64.size) :
    Instant.Reaches now ms := by
  obtain ⟨d, lasts⟩ := Span.exists_lasts word
  exact Instant.reaches_of_lt lasts (by omega)

theorem Timely.fits (h : Timely s r) (room : r.now + UInt64.size ≤ Instant.limit) : Fits r where
  delays := by
    intro k mem x e resume extra delay b ending again next
    obtain ⟨p, ⟨url, rfl⟩, measured⟩ := h.manager.tasks k mem
    refine ⟨Shard.step_waits ending again next, Span.joins_of_lt ?_ ?_⟩
    · calc delay ≤ s.reconnect.max.toNat := measured.delay_le next
        _ < UInt64.size := s.reconnect.max.toNat_lt
    · rw [Shard.ending_again ending again]
      exact measured.surcharge_lt
  beats := by
    intro k mem c queued b online beater
    obtain ⟨p, -, measured⟩ := h.manager.tasks k mem
    apply reaches_word room
    apply measured.interval c queued b.interval online
    rw [Connection.interval?, beater]
    rfl
  permits := by
    intro c mem last eq
    have before : last ≤ r.now := h.past c mem last eq
    have window : r.limiter.window < UInt64.size := by rw [h.window]; decide
    apply reaches_word _ window
    omega
  answers := fun info => reaches_word room info.limit.resetAfter.toNat_lt

theorem Timely.profiles (h : Timely s r) : ∀ p ∈ r.profiles, p.identifyTimeout = s.timeouts.identify.toNat * 1000 := by
  have same {p : ShardProfile} (suits : p.Suits s) : p.identifyTimeout = s.timeouts.identify.toNat * 1000 := by
    obtain ⟨url, rfl⟩ := suits
    rfl
  intro p mem
  rcases List.mem_append.1 mem with there | coming
  · obtain ⟨k, here, rfl⟩ := List.mem_map.1 there
    obtain ⟨p, suits, measured⟩ := h.manager.tasks k here
    exact measured.profile ▸ same suits
  · obtain ⟨start, eq, rfl⟩ := Option.map_eq_some_iff.1 (Option.mem_toList.1 coming)
    exact same (h.manager.startup start eq)

end Service

/-! ## The timeouts -/

namespace Settings

variable {lookup : Lookup} {s : Settings}

theorem readNumber_printed (lookup : Lookup) (v : Variable) (default n : UInt64) :
    readNumber Text.readUInt64 (lookup.put v (some (toString n.toNat))) v default = .ok n := by
  have set : lookup.put v (some (toString n.toNat)) v = some (toString n.toNat) := if_pos rfl
  simp only [readNumber, set, Text.readUInt64_printed]
  rfl

/-- Any number of seconds is accepted for the start. -/
theorem ofLookup_put_startup (h : Reads lookup s) (n : UInt64) :
    ofLookup (lookup.put .startupTimeout (some (toString n.toNat))) =
      .ok { s with timeouts := ⟨n, s.timeouts.identify⟩ } :=
  ofLookup_eq_ok.2 { h with startup := readNumber_printed lookup _ _ n }

/-- Any number of seconds is accepted for a handshake. -/
theorem ofLookup_put_identify (h : Reads lookup s) (n : UInt64) :
    ofLookup (lookup.put .identifyTimeout (some (toString n.toNat))) =
      .ok { s with timeouts := ⟨s.timeouts.startup, n⟩ } :=
  ofLookup_eq_ok.2 { h with identify := readNumber_printed lookup _ _ n }

end Settings

namespace Instant

/-- Seconds are added if the sum can be kept, and overflow otherwise. -/
theorem reaches_seconds (n : UInt64) (now : Nat) :
    (now + n.toNat * 1000 < limit → Reaches now (n.toNat * 1000)) ∧
      (limit ≤ now + n.toNat * 1000 → Overflows now (n.toNat * 1000)) :=
  ⟨reaches_of_lt (Span.lasts_ofSeconds n), overflows_of_le (Span.lasts_ofSeconds n)⟩

/-- There is room below so many seconds exactly if there is some at the last moment before. -/
theorem reaches_early_iff (n : UInt64) :
    (∀ now < 2 ^ 40 * 1000, Reaches now (n.toNat * 1000)) ↔ n.toNat ≤ 2 ^ 63 - 2 ^ 40 := by
  have bound : limit = 2 ^ 63 * 1000 := rfl
  constructor
  · intro early
    have last := early (2 ^ 40 * 1000 - 1) (by decide)
    rw [reaches_iff (Span.lasts_ofSeconds n) (by decide), bound] at last
    omega
  · intro small now before
    apply reaches_of_lt (Span.lasts_ofSeconds n)
    omega

end Instant

open Settings (ofLookup) in
/-- With accepted settings, every addition has room but those of the two timeouts, in every run, while the clock is more
than a word of milliseconds away from its end. A timeout is added if its sum can be kept, and overflows otherwise: at
every reading below 2^40 seconds it can be added exactly if it is no more than 2^63 - 2^40 seconds. But any number of
seconds is accepted for it. -/
theorem Service.additions_fit (lookup : Lookup) {s : Settings} (accepted : ofLookup lookup = .ok s) :
    (∀ start moves, let r := (opening start s).run moves
      r.now + UInt64.size ≤ Instant.limit →
        r.Fits ∧
        ((r.now + s.timeouts.startup.toNat * 1000 < Instant.limit → Instant.Reaches r.now r.manager.startupTimeout) ∧
          (Instant.limit ≤ r.now + s.timeouts.startup.toNat * 1000 →
            Instant.Overflows r.now r.manager.startupTimeout)) ∧
        ∀ p ∈ r.profiles,
          (r.now + s.timeouts.identify.toNat * 1000 < Instant.limit → Instant.Reaches r.now p.identifyTimeout) ∧
          (Instant.limit ≤ r.now + s.timeouts.identify.toNat * 1000 → Instant.Overflows r.now p.identifyTimeout)) ∧
    (∀ n ∈ [s.timeouts.startup, s.timeouts.identify],
      (∀ now < 2 ^ 40 * 1000, Instant.Reaches now (n.toNat * 1000)) ↔ n.toNat ≤ 2 ^ 63 - 2 ^ 40) ∧
    ∀ n : UInt64,
      ofLookup (lookup.put .startupTimeout (some (toString n.toNat))) =
        .ok { s with timeouts := ⟨n, s.timeouts.identify⟩ } ∧
      ofLookup (lookup.put .identifyTimeout (some (toString n.toNat))) =
        .ok { s with timeouts := ⟨s.timeouts.startup, n⟩ } := by
  have reads := Settings.ofLookup_eq_ok.1 accepted
  refine ⟨fun start moves => ?runs, fun n _ => Instant.reaches_early_iff n, fun n =>
    ⟨Settings.ofLookup_put_startup reads n, Settings.ofLookup_put_identify reads n⟩⟩
  intro r room
  have timely : Timely s r := run_timely (opening_timely start s) moves
  refine ⟨timely.fits room, ?startup, fun p mem => ?identify⟩
  case startup =>
    rw [timely.manager.startupTimeout]
    exact Instant.reaches_seconds _ _
  case identify =>
    rw [timely.profiles p mem]
    exact Instant.reaches_seconds _ _

/-- a token and nothing else -/
def plain : Lookup
  | .token => some "abc"
  | _ => none

/-- a token, and all the time there is -/
def overlong : Lookup
  | .token => some "abc"
  | .startupTimeout | .identifyTimeout => some "18446744073709551615"
  | _ => none

/-- With the default timeouts a start and its first shard have room, at every early reading. -/
theorem Service.additions_fit_plain :
    ∃ s, Settings.ofLookup plain = .ok s ∧
      let r := (opening 0 s).run [.happen (.start 1 1), .happen (.lane 0)]
      r.Fits ∧ r.profiles.length = 2 ∧ Instant.Reaches r.now r.manager.startupTimeout ∧
        (∃ p ∈ r.profiles, Instant.Reaches r.now p.identifyTimeout) ∧
        ∀ now < 2 ^ 40 * 1000, Instant.Reaches now (s.timeouts.startup.toNat * 1000) := by
  refine ⟨_, rfl, ?_⟩
  obtain ⟨runs, early, -⟩ := additions_fit plain rfl
  obtain ⟨fits, startup, identify⟩ := runs 0 [.happen (.start 1 1), .happen (.lane 0)] (by decide)
  refine ⟨fits, rfl, startup.1 (by decide), ?_, (early _ List.mem_cons_self).2 (by decide)⟩
  exact ⟨_, List.mem_cons_self, (identify _ List.mem_cons_self).1 (by decide)⟩

/-- All the time there is cannot be added to any reading, though it is accepted. A start and a shard add it at once. -/
theorem overlong_overflows :
    ∃ s, Settings.ofLookup overlong = .ok s ∧ (∃ t : Instant, t.Shows 0) ∧
      (((Manager.ofSettings s).step 0 (.start 1 1)).manager.startup.map (·.deadline) =
        some (0 + (Manager.ofSettings s).startupTimeout)) ∧
      Instant.Overflows 0 (Manager.ofSettings s).startupTimeout ∧
      (∀ address, (Shard.launch (.ofSettings s) address 0).shard.phase =
        .dialling false (0 + (ShardProfile.ofSettings s).identifyTimeout)) ∧
      Instant.Overflows 0 (ShardProfile.ofSettings s).identifyTimeout := by
  refine ⟨_, rfl, Instant.exists_shows (by decide), rfl, ?_, fun address => rfl, ?_⟩
  · exact Instant.overflows_of_le (Span.lasts_ofSeconds 18446744073709551615) (by decide)
  · exact Instant.overflows_of_le (Span.lasts_ofSeconds 18446744073709551615) (by decide)

end Shardwire
