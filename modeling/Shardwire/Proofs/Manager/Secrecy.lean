import Shardwire.Manager
import Shardwire.Proofs.Shard.Secrecy

/-
Two managers that differ in their token, and nothing else.

The token of a manager is that of its shards and of its client of the bot endpoint. As with shards (see `Shard.Blind`),
it tells two managers apart in what their shards identify and resume with, and nowhere else; `step_blind` says so of
every step, `Diary.run_twin` of every run. No description of a profile, of settings, of a handshake or of a manager shows a
token: `token_only_in_handshakes`.
-/

namespace Shardwire

/-- settings with another token -/
def Settings.withToken (s : Settings) (token : String) : Settings := { s with bot := { s.bot with token := token } }

def BotClient.withToken (c : BotClient) (token : String) : BotClient := { c with token := token }

theorem BotClient.withToken_fetch (c : BotClient) (token : String) (answer : HttpAnswer) (now : Nat) :
    (c.withToken token).fetch answer now =
      { c.fetch answer now with client := (c.fetch answer now).client.withToken token } := by
  have kept : (c.withToken token).cached now = c.cached now := rfl
  simp only [fetch, kept]
  cases c.cached now with
  | some info => rfl
  | none =>
    simp only [fetchFresh]
    cases BotClient.read answer <;> rfl

namespace Manager

def Task.withToken (t : Task) (token : String) : Task := { t with shard := t.shard.withToken token }

def Startup.withToken (s : Startup) (token : String) : Startup := { s with profile := s.profile.withToken token }

/-- a manager with another token -/
def withToken (m : Manager) (token : String) : Manager :=
  { m with
    profile := m.profile.withToken token
    bot := m.bot.map (·.withToken token)
    tasks := m.tasks.map (·.withToken token)
    startup := m.startup.map (·.withToken token) }

/-! ## What a token does not change -/

section WithToken

variable (m : Manager) (token : String)

theorem withToken_task? (id : UInt32) : (m.withToken token).task? id = (m.task? id).map (·.withToken token) :=
  List.find?_map ..

theorem withToken_shard? (id : UInt32) : (m.withToken token).shard? id = (m.shard? id).map (·.withToken token) := by
  have found : (m.withToken token).tasks.find? (fun t => t.listed && t.shard.id == id) =
      (m.tasks.find? fun t => t.listed && t.shard.id == id).map (·.withToken token) := List.find?_map ..
  rw [shard?, shard?, found, Option.map_map, Option.map_map]
  rfl

theorem withToken_listed : (m.withToken token).listed = m.listed.map (·.withToken token) := by
  simp only [listed, withToken, List.filter_map, List.map_map]
  rfl

@[simp] theorem withToken_ids : (m.withToken token).ids = m.ids := by
  rw [ids, ids, withToken_listed, List.map_map]
  rfl

@[simp] theorem withToken_hasEnded (id : UInt32) : (m.withToken token).hasEnded id = m.hasEnded id := by
  rw [hasEnded, hasEnded, withToken_task?, Option.map_map]
  rfl

@[simp] theorem withToken_verdict : (m.withToken token).verdict = m.verdict := by
  simp only [verdict, withToken_ids, withToken_shard?, Option.map_map]
  rfl

theorem withToken_mayAdvance (s : Startup) (l : Lane) (now : Nat) :
    (m.withToken token).mayAdvance (s.withToken token) l now = m.mayAdvance s l now := by
  cases hl : l.current with
  | none => simp only [mayAdvance, hl]
  | some id =>
    simp only [mayAdvance, hl, withToken_task?, Option.map_map]
    rfl

end WithToken

/-! ## Twins -/

variable {a b : String}

/-- acts of two managers with tokens `a` and `b` -/
inductive Act.Twin (a b : String) : Act → Act → Prop
  | same (x : Act) : Act.Twin a b x x
  | shard (id : UInt32) {x y : Shard.Act} (alike : Shard.Act.Twin a b x y) : Act.Twin a b (.shard id x) (.shard id y)

/-- turns of two managers that are the same but for their tokens -/
structure Turn.Twin (a b : String) (t u : Turn) : Prop where
  manager : ∃ m : Manager, t.manager = m.withToken a ∧ u.manager = m.withToken b
  acts : List.Forall₂ (Act.Twin a b) t.acts u.acts

/-- what managers do alike, whatever their token -/
def Blind (a b : String) (f : Manager → Turn) : Prop :=
  ∀ m : Manager, Turn.Twin a b (f (m.withToken a)) (f (m.withToken b))

theorem Turn.Twin.same (m : Manager) (acts : List Act) : Turn.Twin a b ⟨m.withToken a, acts⟩ ⟨m.withToken b, acts⟩ := by
  refine ⟨⟨m, rfl, rfl⟩, ?_⟩
  rw [List.forall₂_same]
  intro x _
  exact .same x

/-- What their shards do alike, they do alike. -/
theorem Turn.Twin.shards (m : Manager) (id : UInt32) {acts acts' : List Shard.Act}
    (alike : List.Forall₂ (Shard.Act.Twin a b) acts acts') :
    Turn.Twin a b ⟨m.withToken a, acts.map (.shard id)⟩ ⟨m.withToken b, acts'.map (.shard id)⟩ := by
  refine ⟨⟨m, rfl, rfl⟩, ?_⟩
  rw [List.forall₂_map_left_iff, List.forall₂_map_right_iff]
  apply alike.imp
  intro x y h
  exact .shard id h

theorem Turn.Twin.next {t u : Turn} {f : Manager → Turn} (h : Turn.Twin a b t u) (blind : Blind a b f) :
    Turn.Twin a b (t.next f) (u.next f) := by
  obtain ⟨⟨m, ht, hu⟩, acts⟩ := h
  have after := blind m
  refine ⟨?manager, ?acts⟩
  case manager =>
    simp only [Turn.next, ht, hu]
    exact after.manager
  case acts =>
    simp only [Turn.next, ht, hu]
    exact List.rel_append acts after.acts

/-- Both decide the same way. -/
theorem Turn.Twin.ite {p : Prop} [Decidable p] {t u t' u' : Turn} (yes : p → Turn.Twin a b t u)
    (no : ¬p → Turn.Twin a b t' u') : Turn.Twin a b (if p then t else t') (if p then u else u') := by
  by_cases h : p
  · rw [if_pos h, if_pos h]
    exact yes h
  · rw [if_neg h, if_neg h]
    exact no h

/-! ## Parts of a step -/

theorem refuse_blind (f : Fault) : Blind a b (refuse f) := fun m => .same m _

theorem start_blind (profile : ShardProfile) (shards maxConcurrency : UInt32) (now : Nat) (m : Manager) :
    Turn.Twin a b (start (profile.withToken a) shards maxConcurrency now (m.withToken a))
      (start (profile.withToken b) shards maxConcurrency now (m.withToken b)) := by
  simp only [start]
  cases Buckets.partition shards maxConcurrency with
  | error f => exact refuse_blind f m
  | ok set =>
    apply Turn.Twin.ite
    · intro _
      exact refuse_blind .alreadyStarted m
    · intro _
      exact .same
        { m with
          started := true
          startup := some ⟨now + m.startupTimeout, shards, profile, set.buckets.map fun b => ⟨b.id, none, b.shards⟩⟩ } []

theorem connect_blind (answer : HttpAnswer) (now : Nat) : Blind a b (connect answer now) := by
  intro m
  have sharding (token : String) : (m.withToken token).sharding = m.sharding := rfl
  cases hb : m.bot with
  | none =>
    have none (token : String) : (m.withToken token).bot = none := by rw [withToken, hb]; rfl
    simp only [connect, none, sharding]
    cases m.sharding with
    | fixed shards => exact start_blind m.profile shards m.maxConcurrency now m
    | auto => exact refuse_blind _ m
  | some bot =>
    have some (token : String) : (m.withToken token).bot = some (bot.withToken token) := by rw [withToken, hb]; rfl
    simp only [connect, some, sharding, BotClient.withToken_fetch]
    cases (bot.fetch answer now).result with
    | error fault => exact refuse_blind fault { m with bot := .some (bot.fetch answer now).client }
    | ok info =>
      apply Turn.Twin.ite
      · intro _
        exact start_blind { m.profile with gatewayUrl := info.url } _ _ now
          { m with bot := .some (bot.fetch answer now).client }
      · intro _
        exact refuse_blind _ { m with bot := .some (bot.fetch answer now).client }

theorem advance_blind (s : Startup) (l : Lane) (now : Nat) (m : Manager) :
    Turn.Twin a b (advance (s.withToken a) l now (m.withToken a)) (advance (s.withToken b) l now (m.withToken b)) := by
  simp only [advance, withToken_verdict]
  cases l.queue with
  | nil =>
    have others (token : String) : (s.withToken token).lanes = s.lanes := rfl
    simp only [others]
    cases s.lanes.filter fun k => k.bucket ≠ l.bucket with
    | nil => exact .same { m with startup := none } _
    | cons k rest => exact .same { m with startup := some { s with lanes := k :: rest } } []
  | cons id rest =>
    have total (token : String) : (s.withToken token).total = s.total := rfl
    simp only [total]
    cases ShardAddress.make id s.total with
    | error f => exact .same { m with startup := none } _
    | ok address =>
      obtain ⟨⟨shard, ha, hb⟩, acts⟩ :
        Shard.Turn.Twin a b (Shard.launch (s.profile.withToken a) address now)
          (Shard.launch (s.profile.withToken b) address now) := Shard.dial_blind now (Shard.fresh s.profile address now)
      have spawned := Turn.Twin.shards
        { m with
          tasks := m.tasks ++ [⟨l.bucket, shard, true⟩]
          startup := some { s with
            lanes := s.lanes.map fun k => if k.bucket = l.bucket then { l with current := some id, queue := rest } else k } }
        id acts
      simpa [withToken, Task.withToken, Startup.withToken, ha, hb] using spawned

theorem look_blind (bucket : UInt32) (now : Nat) : Blind a b (look bucket now) := by
  intro m
  cases hs : m.startup with
  | none =>
    have none (token : String) : (m.withToken token).startup = none := by rw [withToken, hs]; rfl
    simp only [look, none]
    exact .same m []
  | some s =>
    have some (token : String) : (m.withToken token).startup = some (s.withToken token) := by rw [withToken, hs]; rfl
    have lanes (token : String) : (s.withToken token).lanes = s.lanes := rfl
    simp only [look, some, lanes]
    cases s.lanes.find? fun l => l.bucket == bucket with
    | none => exact .same m []
    | some l =>
      simp only [withToken_mayAdvance]
      apply Turn.Twin.ite
      · intro _
        exact advance_blind s l now m
      · intro _
        exact .same m []

theorem stepShard_blind (id : UInt32) (x : Shard.Stimulus) (now : Nat) : Blind a b (stepShard id x now) := by
  intro m
  simp only [stepShard, withToken_task?]
  cases m.task? id with
  | none => exact .same m []
  | some task =>
    obtain ⟨⟨shard, ha, hb⟩, acts⟩ := Shard.step_blind (a := a) (b := b) now x task.shard
    have stepped := Turn.Twin.shards
      { m with tasks := m.tasks.map fun k => if k.shard.id = id then { k with shard := shard } else k } id acts
    have changed (token : String) :
        ((m.tasks.map (·.withToken token)).map fun k : Task =>
            if k.shard.id = id then { k with shard := shard.withToken token } else k) =
          (m.tasks.map fun k => if k.shard.id = id then { k with shard := shard } else k).map (·.withToken token) := by
      rw [List.map_map, List.map_map]
      refine List.map_congr_left fun k _ => ?_
      by_cases own : k.shard.id = id
      · simp [Task.withToken, own]
      · simp [Task.withToken, own]
    simp only [withToken, ← changed] at stepped
    simp only [Option.map_some, Task.withToken, withToken, ha, hb]
    exact stepped

theorem submit_blind (id : UInt32) (ticket : Nat) (msg : Message) (now : Nat) : Blind a b (submit id ticket msg now) := by
  intro m
  simp only [submit, withToken_shard?, Option.isNone_map]
  apply Turn.Twin.ite
  · intro _
    exact .same m _
  · intro _
    apply Turn.Twin.ite
    · intro _
      exact .same m _
    · intro _
      exact stepShard_blind id _ now m

/-- One shard after another. -/
theorem Turn.Twin.each {f : UInt32 → Manager → Turn} (blind : ∀ id, Blind a b (f id)) {t u : Turn}
    (h : Turn.Twin a b t u) (ids : List UInt32) :
    Turn.Twin a b (ids.foldl (fun t id => t.next (f id)) t) (ids.foldl (fun t id => t.next (f id)) u) := by
  induction ids generalizing t u with
  | nil => exact h
  | cons id ids ih => exact ih (h.next (blind id))

theorem manager_foldl (f : UInt32 → Manager → Turn) (t : Turn) (ids : List UInt32) :
    (ids.foldl (fun t id => t.next (f id)) t).manager = ids.foldl (fun m id => (f id m).manager) t.manager := by
  induction ids generalizing t with
  | nil => rfl
  | cons id ids ih => exact ih (t.next (f id))

theorem shutdown_blind (now : Nat) : Blind a b (shutdown now) := by
  intro m
  have start : Turn.Twin a b ⟨m.withToken a, []⟩ ⟨m.withToken b, []⟩ := .same m []
  obtain ⟨n, ha, hb⟩ := (start.each (fun id => stepShard_blind id .stop now) m.ids).manager
  rw [manager_foldl] at ha hb
  have unlisted (token : String) : ((n.tasks.map (·.withToken token)).map fun t : Task => { t with listed := false }) =
      (n.tasks.map fun t => { t with listed := false }).map (·.withToken token) := by
    simp only [List.map_map, Task.withToken, Function.comp_def]
  have left := Turn.Twin.same (a := a) (b := b)
    { n with
      tasks := n.tasks.map fun t => { t with listed := false }
      farewells := n.farewells ++ [⟨m.ids, now + grace⟩] } []
  simp only [withToken, ← unlisted] at left
  simp only [shutdown, withToken_ids, ha, hb]
  exact left

theorem takeLeave_blind (now : Nat) : Blind a b (takeLeave now) := by
  intro m
  have farewells (token : String) : (m.withToken token).farewells = m.farewells := rfl
  have owns (token : String) : (m.withToken token).ownsLimiter = m.ownsLimiter := rfl
  have ended (token : String) : (m.withToken token).hasEnded = m.hasEnded := funext (withToken_hasEnded m token)
  simp only [takeLeave, farewells, owns, ended]
  cases m.farewells with
  | nil => exact .same m []
  | cons f rest =>
    apply Turn.Twin.ite
    · intro _
      exact .same { m with farewells := rest } _
    · intro _
      apply Turn.Twin.ite
      · intro _
        exact Turn.Twin.each (fun id => stepShard_blind id .abort now) (.same m []) f.shards
      · intro _
        exact .same m []

/-! ## Steps and runs -/

/-- Whatever happens, it leaves twins twins. -/
theorem step_blind (now : Nat) (x : Stimulus) : Blind a b (step now x) := by
  intro m
  cases x with
  | start shards maxConcurrency => exact start_blind m.profile shards maxConcurrency now m
  | connect answer => exact connect_blind answer now m
  | submit id ticket msg => exact submit_blind id ticket msg now m
  | shutdown => exact shutdown_blind now m
  | shard id x => exact stepShard_blind id x now m
  | lane bucket => exact look_blind bucket now m
  | farewell => exact takeLeave_blind now m

/-- a manager, and what it did with the times -/
structure Diary where
  manager : Manager
  acts : List (Nat × Act)

namespace Diary

def step (d : Diary) (now : Nat) (x : Stimulus) : Diary :=
  ⟨(d.manager.step now x).manager, d.acts ++ (d.manager.step now x).acts.map (now, ·)⟩

def run (d : Diary) (xs : List (Nat × Stimulus)) : Diary := xs.foldl (fun d e => d.step e.1 e.2) d

/-- a manager that did nothing yet -/
def opening (m : Manager) : Diary := ⟨m, []⟩

/-- diaries of two managers that are the same but for their tokens -/
structure Twin (a b : String) (d e : Diary) : Prop where
  manager : ∃ m : Manager, d.manager = m.withToken a ∧ e.manager = m.withToken b
  /-- at the same times -/
  acts : List.Forall₂ (fun x y => x.1 = y.1 ∧ Act.Twin a b x.2 y.2) d.acts e.acts

theorem opening_twin (m : Manager) : Twin a b (opening (m.withToken a)) (opening (m.withToken b)) :=
  ⟨⟨m, rfl, rfl⟩, .nil⟩

theorem step_twin {d e : Diary} (h : Twin a b d e) (now : Nat) (x : Stimulus) :
    Twin a b (d.step now x) (e.step now x) := by
  obtain ⟨⟨m, hd, he⟩, acts⟩ := h
  have turn := step_blind (a := a) (b := b) now x m
  rw [← hd, ← he] at turn
  refine ⟨turn.manager, List.rel_append acts ?_⟩
  rw [List.forall₂_map_left_iff, List.forall₂_map_right_iff]
  apply turn.acts.imp
  intro x y alike
  exact ⟨rfl, alike⟩

theorem run_twin {d e : Diary} (h : Twin a b d e) (xs : List (Nat × Stimulus)) : Twin a b (d.run xs) (e.run xs) := by
  induction xs generalizing d e with
  | nil => exact h
  | cons x xs ih => exact ih (step_twin h x.1 x.2)

end Diary

theorem describe_withToken (m : Manager) (a b : String) : (m.withToken a).describe = (m.withToken b).describe := by
  simp only [describe, withToken_ids]
  rfl

/-- The description of a manager shows no token, whatever happened to it. -/
theorem Diary.Twin.describe {d e : Diary} (h : Diary.Twin a b d e) : d.manager.describe = e.manager.describe := by
  obtain ⟨m, hd, he⟩ := h.manager
  rw [hd, he, describe_withToken m a b]

/-! ## Main result -/

/-- Two shards with the same profile but for its token, to which the same happens at the same times, do the same but for
the token in what they identify and resume with; so do managers. No description of what they are made from shows a
token, and no description of a manager does, whatever happened to it. -/
theorem token_only_in_handshakes (profile : ShardProfile) (settings : Settings) (a b : String) :
    (∀ (address : ShardAddress) (now : Nat) (xs : List (Nat × Shard.Stimulus)),
      Shard.Diary.Twin a b ((Shard.Diary.launch (profile.withToken a) address now).run xs)
        ((Shard.Diary.launch (profile.withToken b) address now).run xs)) ∧
      (∀ xs,
        let d := (Diary.opening (new (profile.withToken a))).run xs
        let e := (Diary.opening (new (profile.withToken b))).run xs
        Diary.Twin a b d e ∧ d.manager.describe = e.manager.describe) ∧
      (∀ xs,
        let d := (Diary.opening (ofSettings (settings.withToken a))).run xs
        let e := (Diary.opening (ofSettings (settings.withToken b))).run xs
        Diary.Twin a b d e ∧ d.manager.describe = e.manager.describe) ∧
      (profile.withToken a).describe = (profile.withToken b).describe ∧
      (settings.withToken a).bot.describe = (settings.withToken b).bot.describe ∧
      (settings.withToken a).describe = (settings.withToken b).describe ∧
      (∀ p : Identify, { p with token := a }.describe = { p with token := b }.describe) ∧
      ∀ p : Resume, { p with token := a }.describe = { p with token := b }.describe := by
  refine ⟨?shard, ?manager, ?configured, rfl, rfl, rfl, fun _ => rfl, fun _ => rfl⟩
  case shard =>
    intro address now xs
    exact Shard.Diary.run_twin (Shard.Diary.launch_twin profile address now) xs
  case manager =>
    intro xs
    have twins := Diary.run_twin (Diary.opening_twin (a := a) (b := b) (new profile)) xs
    exact ⟨twins, twins.describe⟩
  case configured =>
    intro xs
    have twins := Diary.run_twin (Diary.opening_twin (a := a) (b := b) (ofSettings settings)) xs
    exact ⟨twins, twins.describe⟩

end Manager

end Shardwire
