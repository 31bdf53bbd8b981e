import Shardwire.Proofs.Limiter.Spacing
import Shardwire.Proofs.Manager.Roster

/-
The Identify frames of a whole manager, and the time between them.

A fleet is a manager with its shards and the limiter they call on, which others may use as well. It makes moves in any
order: frames, closes and drops reach the shards, connections open and fail, callers send commands, and others queue for
permits and leave the queue again. What it rests on:
- nobody asks the manager to stop, so nobody clears the limiter;
- shards are granted permits by the limiter alone;
- time does not go past a permit that is due, and whoever is granted a permit acts on it at once.

`identifies_spaced`: whatever moves are made before and after the start, shards whose ids agree modulo the concurrency
send their Identify frames at least a window apart, and every frame has a permit of its own, granted at that moment and
by the bucket of its shard.
-/

namespace Shardwire

/-- who calls for permits -/
inductive Caller where
  | shard (id : UInt32)
  /-- someone who shares the limiter -/
  | other (n : Nat)
  deriving DecidableEq, Repr

/-- an Identify frame that went out -/
structure Introduction where
  shard : UInt32
  time : Nat
  deriving DecidableEq, Repr

/-- the permit it needs -/
def Introduction.permit (maxConcurrency : UInt32) (i : Introduction) : Grant Caller :=
  ⟨i.shard % maxConcurrency, .shard i.shard, i.time⟩

structure Fleet where
  now : Nat
  manager : Manager
  limiter : Limiter Caller
  /-- permits that were granted, in order -/
  grants : List (Grant Caller)
  /-- Identify frames that went out, in order -/
  identifies : List Introduction

namespace Fleet

inductive Move where
  /-- time goes on, but not past a permit that is due -/
  | tick (time : Nat)
  /-- permits that are due are granted -/
  | settle
  /-- something happens to the manager or to one of its shards -/
  | happen (x : Manager.Stimulus)
  /-- someone else calls for a permit -/
  | request (bucket : UInt32) (n : Nat)
  /-- someone else takes a call back -/
  | withdraw (n : Nat)

def performShard (id : UInt32) (f : Fleet) : Shard.Act → Fleet
  | .write m => if m.op = .identify then { f with identifies := f.identifies ++ [⟨id, f.now⟩] } else f
  | .enqueue =>
    match f.manager.task? id with
    | some t => { f with limiter := f.limiter.request t.bucket (.shard id) f.now }
    | none => f
  | .withdraw => { f with limiter := f.limiter.withdraw (.shard id) }
  | _ => f

def perform (f : Fleet) : Manager.Act → Fleet
  | .shard id a => performShard id f a
  | .clear => { f with limiter := f.limiter.clear }
  | _ => f

/-- something happens to the manager -/
def strike (x : Manager.Stimulus) (f : Fleet) : Fleet :=
  let t := f.manager.step f.now x
  t.acts.foldl perform { f with manager := t.manager }

/-- a permit reaches whoever called for it -/
def take (f : Fleet) (g : Grant Caller) : Fleet :=
  match g.ticket with
  | .shard id => f.strike (.shard id .granted)
  | .other _ => f

/-- permits that are due are granted -/
def settle (f : Fleet) : Fleet :=
  let r := f.limiter.settle f.now
  r.1.foldl take { f with limiter := r.2, grants := f.grants ++ r.1 }

def step (f : Fleet) : Move → Fleet
  | .tick time =>
    if f.now ≤ time && f.limiter.nextDue?.all fun due => time ≤ due then { f with now := time } else f
  | .settle => f.settle
  | .happen x => if x.isAllowed && !x.isGrant then f.strike x else f
  | .request bucket n => { f with limiter := f.limiter.request bucket (.other n) f.now }
  | .withdraw n => { f with limiter := f.limiter.withdraw (.other n) }

def run (f : Fleet) (moves : List Move) : Fleet := moves.foldl step f

/-- a manager that was never started, and a limiter that nobody has used -/
def opening (window now : Nat) (m : Manager) : Fleet where
  now := now
  manager := { m with started := false, tasks := [], startup := none, farewells := [] }
  limiter := .fresh window
  grants := []
  identifies := []

theorem run_append (f : Fleet) (xs ys : List Move) : f.run (xs ++ ys) = (f.run xs).run ys := by
  simp [run, List.foldl_append]

/-! ## The limiter -/

/-- nobody cleared the limiter, and a shard waits on a bucket only if that is its own -/
structure Served (window : Nat) (own : UInt32 → UInt32 → Prop) (now : Nat) (l : Limiter Caller)
    (grants : List (Grant Caller)) : Prop where
  window : l.window = window
  kept : l.Kept now grants
  own : ∀ bucket id, l.Waits bucket (.shard id) → own bucket id

namespace Served

variable {window now : Nat} {own : UInt32 → UInt32 → Prop} {l : Limiter Caller} {grants : List (Grant Caller)}

theorem request (h : Served window own now l grants) {bucket : UInt32} {who : Caller}
    (hw : ∀ id, who = .shard id → own bucket id) : Served window own now (l.request bucket who now) grants where
  window := (Limiter.request_window l bucket who now).trans h.window
  kept := h.kept.request bucket who
  own := by
    intro b id hb
    rcases Limiter.waits_request hb with hb | ⟨rfl, hid⟩
    · exact h.own b id hb
    · exact hw id hid.symm

theorem withdraw (h : Served window own now l grants) (who : Caller) :
    Served window own now (l.withdraw who) grants where
  window := h.window
  kept := h.kept.withdraw who
  own := fun b id hb => h.own b id (Limiter.waits_withdraw hb)

theorem settle (h : Served window own now l grants) :
    Served window own now (l.settle now).2 (grants ++ (l.settle now).1) where
  window := h.window
  kept := h.kept.settle
  own := fun b id hb => h.own b id (Limiter.waits_settle hb)

theorem later (h : Served window own now l grants) {time : Nat}
    (ht : (now ≤ time && l.nextDue?.all fun due => time ≤ due) = true) : Served window own time l grants :=
  ⟨h.window, h.kept.onward ht, h.own⟩

theorem granted (h : Served window own now l grants) {g : Grant Caller} (hg : g ∈ (l.settle now).1) :
    g.time = now ∧ ∀ id, g.ticket = .shard id → own g.bucket id := by
  refine ⟨h.kept.settle_now hg, fun id hid => h.own g.bucket id ?_⟩
  rw [← hid]
  exact h.kept.settle_waits hg

end Served

variable {window : Nat} {c : UInt32} {f : Fleet}

/-! ## Before the start -/

/-- nothing was sent yet, and nobody but others waits for permits -/
structure Idle (window : Nat) (f : Fleet) : Prop where
  manager : f.manager.Unstarted
  served : Served window (fun _ _ => False) f.now f.limiter f.grants
  identifies : f.identifies = []

/-- the manager was started, and its shards wait on the buckets of their ids -/
structure Running (window : Nat) (maxConcurrency : UInt32) (f : Fleet) : Prop where
  roster : f.manager.Roster maxConcurrency
  served : Served window (fun bucket id => bucket = id % maxConcurrency) f.now f.limiter f.grants

/-- the permits its Identify frames need -/
def permits (maxConcurrency : UInt32) (f : Fleet) : List (Grant Caller) :=
  f.identifies.map (·.permit maxConcurrency)

/-- a running fleet whose Identify frames have permits of their own -/
structure Sound (window : Nat) (maxConcurrency : UInt32) (f : Fleet) : Prop
    extends Running window maxConcurrency f where
  permits : (f.permits maxConcurrency).Sublist f.grants

theorem idle_opening (window now : Nat) (m : Manager) : Idle window (opening window now m) where
  manager := ⟨rfl, rfl, rfl, rfl⟩
  served := ⟨rfl, Limiter.kept_fresh now window, fun _ _ ⟨_, hc, _⟩ => by cases hc⟩
  identifies := rfl

theorem performs_replies {acts : List Manager.Act} (h : ∀ a ∈ acts, a.isReply = true) (f : Fleet) :
    acts.foldl perform f = f := by
  refine List.foldlRecOn acts perform (motive := (· = f)) rfl fun g hg a ha => ?_
  subst hg
  have reply := h a ha
  cases a <;> first | rfl | cases reply

theorem takes_others {grants : List (Grant Caller)} (h : ∀ g ∈ grants, ∀ id, g.ticket ≠ .shard id) (f : Fleet) :
    grants.foldl take f = f := by
  refine List.foldlRecOn grants take (motive := (· = f)) rfl fun f' hf g hg => ?_
  subst hf
  unfold take
  split
  · next id hid => exact absurd hid (h g hg id)
  · rfl

/-- A manager that is started by now waits for nothing yet. -/
theorem Idle.sound (h : Idle window f) {m : Manager} (hm : m.Roster c) : Sound window c { f with manager := m } where
  roster := hm
  served := ⟨h.served.window, h.served.kept, fun b id hb => (h.served.own b id hb).elim⟩
  permits := by simp [Fleet.permits, h.identifies]

theorem Idle.struck (h : Idle window f) {x : Manager.Stimulus} (hx : x.isAllowed = true) :
    Idle window (f.strike x) ∨ ∃ c, Sound window c (f.strike x) := by
  obtain ⟨manager, replies⟩ := Manager.step_unstarted f.now h.manager hx
  rw [strike, performs_replies replies]
  rcases manager with hm | ⟨c, hm⟩
  · exact .inl ⟨hm, h.served, h.identifies⟩
  · exact .inr ⟨c, h.sound hm⟩

theorem step_idle (h : Idle window f) (move : Move) :
    Idle window (f.step move) ∨ ∃ c, Sound window c (f.step move) := by
  cases move with
  | tick time =>
    simp only [step]
    split
    · next ht => exact .inl ⟨h.manager, h.served.later ht, h.identifies⟩
    · exact .inl h
  | settle =>
    have others : ∀ g ∈ (f.limiter.settle f.now).1, ∀ id, g.ticket ≠ .shard id :=
      fun g hg id hid => (h.served.granted hg).2 id hid
    simp only [step, settle]
    rw [takes_others others]
    exact .inl ⟨h.manager, h.served.settle, h.identifies⟩
  | happen x =>
    simp only [step]
    split
    · next hx => exact h.struck (Bool.and_eq_true_iff.1 hx).1
    · exact .inl h
  | request bucket n => exact .inl ⟨h.manager, h.served.request nofun, h.identifies⟩
  | withdraw n => exact .inl ⟨h.manager, h.served.withdraw (.other n), h.identifies⟩

/-! ## From the start on -/

theorem perform_frame (a : Manager.Act) (f : Fleet) : (f.perform a).now = f.now ∧ (f.perform a).grants = f.grants := by
  cases a with
  | shard id a =>
    cases a <;> simp only [perform, performShard, and_self]
    all_goals split <;> exact ⟨rfl, rfl⟩
  | _ => exact ⟨rfl, rfl⟩

theorem performs_frame (acts : List Manager.Act) (f : Fleet) :
    (acts.foldl perform f).now = f.now ∧ (acts.foldl perform f).grants = f.grants := by
  refine List.foldlRecOn acts perform (motive := fun g => g.now = f.now ∧ g.grants = f.grants) ⟨rfl, rfl⟩ ?_
  intro g hg a _
  obtain ⟨now, grants⟩ := perform_frame a g
  exact ⟨now.trans hg.1, grants.trans hg.2⟩

theorem perform_identifies {a : Manager.Act} (h : a.identifies = false) (f : Fleet) :
    (f.perform a).identifies = f.identifies := by
  cases a with
  | shard id a =>
    cases a with
    | write m =>
      have other : m.op ≠ .identify := by simpa [Manager.Act.identifies, Shard.Act.identifies] using h
      simp [perform, performShard, other]
    | enqueue =>
      simp only [perform, performShard]
      split <;> rfl
    | _ => rfl
  | _ => rfl

theorem performs_identifies {acts : List Manager.Act} (h : ∀ a ∈ acts, a.identifies = false) (f : Fleet) :
    (acts.foldl perform f).identifies = f.identifies := by
  refine List.foldlRecOn acts perform (motive := fun g => g.identifies = f.identifies) rfl ?_
  intro g hg a ha
  exact (perform_identifies (h a ha) g).trans hg

/-- A shard calls for permits on the bucket of its id. -/
theorem Running.performed (h : Running window c f) {a : Manager.Act} (ha : a.isClear = false) :
    Running window c (f.perform a) := by
  cases a with
  | shard id a =>
    cases a with
    | enqueue =>
      simp only [perform, performShard]
      split
      · next t ht =>
        obtain ⟨mem, own⟩ := Manager.task?_mem ht
        refine ⟨h.roster, h.served.request fun id' hid => ?_⟩
        cases hid
        rw [(h.roster.tasks t mem).1, own]
      · exact h
    | withdraw => exact ⟨h.roster, h.served.withdraw (.shard id)⟩
    | write m =>
      simp only [perform, performShard]
      split <;> exact ⟨h.roster, h.served⟩
    | _ => exact h
  | clear => cases ha
  | _ => exact h

theorem Running.performs (h : Running window c f) {acts : List Manager.Act} (ha : ∀ a ∈ acts, a.isClear = false) :
    Running window c (acts.foldl perform f) :=
  List.foldlRecOn acts perform h fun _ hg a hm => hg.performed (ha a hm)

theorem Running.struck (h : Running window c f) {x : Manager.Stimulus} (hx : x.isAllowed = true) :
    Running window c (f.strike x) :=
  Running.performs (f := { f with manager := (f.manager.step f.now x).manager })
    ⟨Manager.step_roster f.now h.roster hx, h.served⟩ (Manager.step_acts f.now h.roster hx).1

theorem strike_frame (x : Manager.Stimulus) (f : Fleet) :
    (f.strike x).now = f.now ∧ (f.strike x).grants = f.grants :=
  performs_frame (f.manager.step f.now x).acts { f with manager := (f.manager.step f.now x).manager }

/-- A frame goes out on a permit only, and only one. -/
theorem Running.strike_identifies (h : Running window c f) {x : Manager.Stimulus} (hx : x.isAllowed = true) :
    (f.strike x).identifies = f.identifies ∨
      ∃ id, x = .shard id .granted ∧ (f.strike x).identifies = f.identifies ++ [⟨id, f.now⟩] := by
  rcases (Manager.step_acts f.now h.roster hx).2 with none | ⟨id, p, rfl, one⟩
  · exact .inl (performs_identifies none _)
  · refine .inr ⟨id, rfl, ?_⟩
    rw [strike, one]
    rfl

theorem Running.taken (h : Running window c f) {g : Grant Caller} (time : g.time = f.now)
    (bucket : ∀ id, g.ticket = .shard id → g.bucket = id % c) {done : List (Grant Caller)}
    (hd : (f.permits c).Sublist done) :
    Running window c (f.take g) ∧ (f.take g).now = f.now ∧ (f.take g).grants = f.grants ∧
      ((f.take g).permits c).Sublist (done ++ [g]) := by
  have longer : (f.permits c).Sublist (done ++ [g]) := hd.trans (List.sublist_append_left done [g])
  unfold take
  split
  · next id hid =>
    obtain ⟨now, grants⟩ := strike_frame (.shard id .granted) f
    refine ⟨h.struck rfl, now, grants, ?_⟩
    rcases h.strike_identifies (x := .shard id .granted) rfl with same | ⟨id', eq, one⟩
    · rw [permits, same]
      exact longer
    · -- the frame needs the very permit that was granted
      cases eq
      have needs : Introduction.permit c ⟨id, f.now⟩ = g := by
        cases g
        simp only at time hid bucket
        subst time hid
        simp [Introduction.permit, bucket id rfl]
      rw [permits, one, List.map_append, List.map_singleton, needs]
      exact hd.append (List.Sublist.refl [g])
  · exact ⟨h, rfl, rfl, longer⟩

theorem Running.takes (h : Running window c f) {grants done : List (Grant Caller)}
    (hg : ∀ g ∈ grants, g.time = f.now ∧ ∀ id, g.ticket = .shard id → g.bucket = id % c)
    (hd : (f.permits c).Sublist done) :
    Running window c (grants.foldl take f) ∧ (grants.foldl take f).grants = f.grants ∧
      ((grants.foldl take f).permits c).Sublist (done ++ grants) := by
  -- permits that were taken so far come first, those that are left follow
  induction grants generalizing f done with
  | nil => exact ⟨h, rfl, by rwa [List.append_nil]⟩
  | cons g grants ih =>
    obtain ⟨time, bucket⟩ := hg g List.mem_cons_self
    obtain ⟨running, now, same, permits⟩ := h.taken time bucket hd
    have rest : ∀ g' ∈ grants, g'.time = (f.take g).now ∧ ∀ id, g'.ticket = .shard id → g'.bucket = id % c :=
      fun g' hg' => by rw [now]; exact hg g' (List.mem_cons_of_mem g hg')
    obtain ⟨running', same', permits'⟩ := ih running rest permits
    rw [List.foldl_cons, List.append_cons]
    exact ⟨running', same'.trans same, permits'⟩

theorem step_sound (h : Sound window c f) (move : Move) : Sound window c (f.step move) := by
  cases move with
  | tick time =>
    simp only [step]
    split
    · next ht => exact ⟨⟨h.roster, h.served.later ht⟩, h.permits⟩
    · exact h
  | settle =>
    have running : Running window c
        { f with limiter := (f.limiter.settle f.now).2, grants := f.grants ++ (f.limiter.settle f.now).1 } :=
      ⟨h.roster, h.served.settle⟩
    obtain ⟨running', same, permits⟩ := running.takes (fun g hg => h.served.granted hg) h.permits
    have grants : (f.step .settle).grants = f.grants ++ (f.limiter.settle f.now).1 := same
    exact ⟨running', by rw [grants]; exact permits⟩
  | happen x =>
    simp only [step]
    split
    · next hx =>
      obtain ⟨allowed, noGrant⟩ := Bool.and_eq_true_iff.1 hx
      refine ⟨h.struck allowed, ?_⟩
      rcases h.toRunning.strike_identifies allowed with same | ⟨id, rfl, -⟩
      · rw [permits, same, (strike_frame x f).2]
        exact h.permits
      · cases noGrant
    · exact h
  | request bucket n => exact ⟨⟨h.roster, h.served.request nofun⟩, h.permits⟩
  | withdraw n => exact ⟨⟨h.roster, h.served.withdraw (.other n)⟩, h.permits⟩

theorem run_sound (moves : List Move) (h : Sound window c f) : Sound window c (f.run moves) :=
  List.foldlRecOn moves step h fun _ hg move _ => step_sound hg move

theorem run_idle (moves : List Move) (h : Idle window f) :
    Idle window (f.run moves) ∨ ∃ c, Sound window c (f.run moves) := by
  refine List.foldlRecOn moves step (motive := fun g => Idle window g ∨ ∃ c, Sound window c g) (.inl h) ?_
  intro g hg move _
  rcases hg with idle | ⟨c, sound⟩
  · exact step_idle idle move
  · exact .inr ⟨c, step_sound sound move⟩

theorem Sound.spaced (h : Sound window c f) :
    f.identifies.Pairwise fun i j => i.shard % c = j.shard % c → i.time + window ≤ j.time := by
  have spaced := List.Pairwise.sublist h.permits h.served.kept.spaced
  rw [h.served.window] at spaced
  exact List.pairwise_map.1 spaced

/-- Two Identify frames of shards whose ids agree modulo the concurrency are at least a window apart, and every frame
has a permit of its own, granted at that moment by the bucket of its shard. -/
theorem identifies_spaced (window now : Nat) (m : Manager) (before after : List Move) (x : Manager.Stimulus)
    (shards maxConcurrency : UInt32) (hs : shards ≠ 0) (hc : maxConcurrency ≠ 0)
    (unstarted : ((opening window now m).run before).manager.started = false)
    (starts : x.Starts ((opening window now m).run before).now ((opening window now m).run before).manager
      shards maxConcurrency) :
    let f := (opening window now m).run (before ++ .happen x :: after)
    (f.identifies.Pairwise fun i j =>
        i.shard % maxConcurrency = j.shard % maxConcurrency → i.time + window ≤ j.time) ∧
      (f.identifies.map (·.permit maxConcurrency)).Sublist f.grants := by
  intro f
  have sound : Sound window maxConcurrency f := by
    have idle : Idle window ((opening window now m).run before) := by
      rcases run_idle before (idle_opening window now m) with idle | ⟨c, sound⟩
      · exact idle
      · rw [sound.roster.started] at unstarted
        cases unstarted
    obtain ⟨roster, still⟩ := idle.manager.starts hs hc starts
    have accepted : (x.isAllowed && !x.isGrant) = true := by cases starts <;> rfl
    show Sound window maxConcurrency (run _ (before ++ .happen x :: after))
    rw [run_append]
    refine run_sound after ?_
    simp only [step, accepted, if_true, strike, still]
    exact idle.sound roster
  exact ⟨sound.spaced, sound.permits⟩

/-- someone else is granted the first permit of a bucket -/
def rival : List Move := [.request 0 7, .settle, .tick 1000]

/-- a shard connects and is greeted -/
def greeted (id : UInt32) : List Move := [.happen (.shard id .opened), .happen (.shard id (.text helloText 0))]

/-- three shards come up on two buckets; shard 2 is dropped while it waits for its permit, and closed later on -/
def rollout : List Move :=
  [.happen (.lane 0), .happen (.lane 1)] ++ greeted 0 ++ greeted 1 ++ [.settle, .tick 5000, .settle] ++
  [.happen (.shard 0 (.text readyText 0)), .happen (.lane 0)] ++ greeted 2 ++
  [.tick 6000, .happen (.shard 2 .dropped), .tick 7000, .happen (.shard 2 .timeout)] ++ greeted 2 ++
  [.tick 10000, .settle, .happen (.shard 2 (.closed (some ⟨4009, ""⟩))), .tick 12000, .happen (.shard 2 .timeout)] ++
  greeted 2 ++ [.tick 15000, .settle]

/-- Shards 0 and 2 share a bucket with the rival, and wait for each other; shard 1 has a bucket of its own. -/
theorem identifies_spaced_rollout :
    let before := (opening Limiter.gatewayWindow 0 (.new (.usual "t"))).run rival
    let f := (opening Limiter.gatewayWindow 0 (.new (.usual "t"))).run (rival ++ .happen (.start 3 2) :: rollout)
    ((3 : UInt32) ≠ 0 ∧ (2 : UInt32) ≠ 0 ∧ before.manager.started = false ∧
      Manager.Stimulus.Starts before.now before.manager (.start 3 2) 3 2) ∧
    f.identifies = [⟨1, 1000⟩, ⟨0, 5000⟩, ⟨2, 10000⟩, ⟨2, 15000⟩] ∧
    (f.identifies.Pairwise fun i j => i.shard % 2 = j.shard % 2 → i.time + Limiter.gatewayWindow ≤ j.time) ∧
    (f.identifies.map (·.permit 2)).Sublist f.grants := by
  intro before f
  have three : (3 : UInt32) ≠ 0 := by decide
  have two : (2 : UInt32) ≠ 0 := by decide
  have unstarted : before.manager.started = false := by decide +kernel
  have starts : Manager.Stimulus.Starts before.now before.manager (.start 3 2) 3 2 := .start 3 2
  have frames : f.identifies = [⟨1, 1000⟩, ⟨0, 5000⟩, ⟨2, 10000⟩, ⟨2, 15000⟩] := by decide +kernel
  exact ⟨⟨three, two, unstarted, starts⟩, frames,
    identifies_spaced Limiter.gatewayWindow 0 (.new (.usual "t")) rival rollout (.start 3 2) 3 2 three two unstarted
      starts⟩

end Fleet

end Shardwire
