import Shardwire.Limiter

/-
The permits of a limiter, and the time between them.

`Kept` is what holds of a limiter and of all the permits it granted, as long as nobody clears it: calls may arrive, be
taken back and be granted in any order. `Kept.spaced`: two permits of one bucket are at least a window apart.
`Kept.settle_now`: if time never goes past a call that is due, every permit is granted at the moment it is due.

Every permit goes to a call that waits: see `Waits`.
-/

namespace Shardwire.Limiter

variable {τ : Type}

/-! ## Due times -/

theorem since_le_dueTime (window : Nat) (last : Option Nat) (since : Nat) : since ≤ dueTime window last since := by
  cases last with
  | none => exact Nat.le_refl since
  | some l => exact Nat.le_max_left since (l + window)

theorem last_le_dueTime (window l since : Nat) : l + window ≤ dueTime window (some l) since :=
  Nat.le_max_right since (l + window)

theorem dueTime_mono (window : Nat) (last : Option Nat) {a b : Nat} (h : a ≤ b) :
    dueTime window last a ≤ dueTime window last b := by
  cases last with
  | none => exact h
  | some l => simp only [dueTime]; omega

/-! ## The grants of one clock -/

section Clock

variable (window now : Nat)

/-- Calls are granted in order of arrival. -/
theorem grantsDue_split (last : Option Nat) (calls : List (Call τ)) :
    ∃ served, calls = served ++ (grantsDue window now last calls).2.2 ∧
      (grantsDue window now last calls).1.map (·.1) = served.map (·.ticket) := by
  induction calls generalizing last with
  | nil => exact ⟨[], rfl, rfl⟩
  | cons c rest ih =>
    by_cases hd : dueTime window last c.since ≤ now
    · obtain ⟨served, h1, h2⟩ := ih (some (dueTime window last c.since))
      refine ⟨c :: served, ?_, ?_⟩
      · simpa [grantsDue, hd] using h1
      · simpa [grantsDue, hd] using h2
    · exact ⟨[], by simp [grantsDue, hd], by simp [grantsDue, hd]⟩

/-- Each grant comes a window after the one before it. -/
theorem grantsDue_spaced (last : Option Nat) (calls : List (Call τ)) :
    (∀ g ∈ (grantsDue window now last calls).1, ∀ l ∈ last, l + window ≤ g.2) ∧
      (grantsDue window now last calls).1.Pairwise fun g h => g.2 + window ≤ h.2 := by
  induction calls generalizing last with
  | nil => exact ⟨by simp [grantsDue], by simp [grantsDue]⟩
  | cons c rest ih =>
    by_cases hd : dueTime window last c.since ≤ now
    · obtain ⟨later, spaced⟩ := ih (some (dueTime window last c.since))
      have next : ∀ l ∈ last, l + window ≤ dueTime window last c.since := by
        intro l hl
        cases hl
        exact last_le_dueTime window l c.since
      simp only [grantsDue, hd, if_true, List.mem_cons, List.pairwise_cons]
      refine ⟨fun g hg l hl => ?_, fun g hg => later g hg _ rfl, spaced⟩
      rcases hg with rfl | hg
      · exact next l hl
      · have h1 := later g hg _ rfl
        have h2 := next l hl
        omega
    · simp [grantsDue, hd]

/-- The clock stands at its last grant. -/
theorem grantsDue_last (last : Option Nat) (calls : List (Call τ)) :
    (∀ l ∈ last, ∃ l' ∈ (grantsDue window now last calls).2.1, l ≤ l') ∧
      ∀ g ∈ (grantsDue window now last calls).1, ∃ l' ∈ (grantsDue window now last calls).2.1, g.2 ≤ l' := by
  induction calls generalizing last with
  | nil => exact ⟨fun l hl => ⟨l, hl, Nat.le_refl l⟩, by simp [grantsDue]⟩
  | cons c rest ih =>
    by_cases hd : dueTime window last c.since ≤ now
    · obtain ⟨kept, reached⟩ := ih (some (dueTime window last c.since))
      obtain ⟨l', hl', hle⟩ := kept _ rfl
      simp only [grantsDue, hd, if_true, List.mem_cons]
      refine ⟨fun l hl => ⟨l', hl', ?_⟩, fun g hg => ?_⟩
      · cases hl
        have := last_le_dueTime window l c.since
        omega
      · rcases hg with rfl | hg
        · exact ⟨l', hl', hle⟩
        · exact reached g hg
    · simp only [grantsDue, hd, if_false]
      exact ⟨fun l hl => ⟨l, hl, Nat.le_refl l⟩, by simp⟩

/-- Where no call is overdue, what is granted is granted now, and afterwards no call is overdue. -/
theorem grantsDue_prompt (last : Option Nat) (calls : List (Call τ))
    (h : ∀ c ∈ calls, now ≤ dueTime window last c.since) :
    (∀ g ∈ (grantsDue window now last calls).1, g.2 = now) ∧
      ∀ c ∈ (grantsDue window now last calls).2.2,
        now ≤ dueTime window (grantsDue window now last calls).2.1 c.since := by
  induction calls generalizing last with
  | nil => exact ⟨by simp [grantsDue], by simp [grantsDue]⟩
  | cons c rest ih =>
    by_cases hd : dueTime window last c.since ≤ now
    · have first : dueTime window last c.since = now := Nat.le_antisymm hd (h c List.mem_cons_self)
      obtain ⟨prompt, ahead⟩ := ih (some (dueTime window last c.since)) fun k _ => by
        have := last_le_dueTime window (dueTime window last c.since) k.since
        omega
      simp only [grantsDue, hd, if_true, List.mem_cons]
      refine ⟨fun g hg => ?_, ahead⟩
      rcases hg with rfl | hg
      · exact first
      · exact prompt g hg
    · simp only [grantsDue, hd, if_false]
      exact ⟨by simp, h⟩

end Clock

/-- a clock at a time: its calls came in order, and none is overdue -/
structure Prompt (window now : Nat) (c : BucketClock τ) : Prop where
  sorted : c.waiting.Pairwise fun a b => a.since ≤ b.since
  arrived : ∀ k ∈ c.waiting, k.since ≤ now
  ahead : ∀ k ∈ c.waiting, now ≤ dueTime window c.last k.since

namespace Prompt

variable {window now : Nat} {c : BucketClock τ}

/-- A call arrives. -/
theorem join (h : Prompt window now c) (ticket : τ) :
    Prompt window now { c with waiting := c.waiting ++ [⟨ticket, now⟩] } where
  sorted := by
    refine List.pairwise_append.2 ⟨h.sorted, List.pairwise_singleton _ _, fun a ha b hb => ?_⟩
    rw [List.mem_singleton.1 hb]
    exact h.arrived a ha
  arrived := by
    intro k hk
    rcases List.mem_append.1 hk with hk | hk
    · exact h.arrived k hk
    · cases List.mem_singleton.1 hk
      exact Nat.le_refl now
  ahead := by
    intro k hk
    rcases List.mem_append.1 hk with hk | hk
    · exact h.ahead k hk
    · cases List.mem_singleton.1 hk
      exact since_le_dueTime window c.last now

/-- Calls are taken back. -/
theorem leave (h : Prompt window now c) (p : Call τ → Bool) :
    Prompt window now { c with waiting := c.waiting.filter p } where
  sorted := h.sorted.filter p
  arrived := fun k hk => h.arrived k (List.mem_filter.1 hk).1
  ahead := fun k hk => h.ahead k (List.mem_filter.1 hk).1

theorem settled (h : Prompt window now c) : Prompt window now (settleClock window now c).2 := by
  obtain ⟨served, split, -⟩ := grantsDue_split window now c.last c.waiting
  have rest : ∀ k ∈ (grantsDue window now c.last c.waiting).2.2, k ∈ c.waiting := fun k hk => by
    rw [split]; exact List.mem_append_right served hk
  have sorted := h.sorted
  rw [split] at sorted
  exact ⟨(List.pairwise_append.1 sorted).2.1, fun k hk => h.arrived k (rest k hk),
    (grantsDue_prompt window now c.last c.waiting h.ahead).2⟩

/-- Time goes on, but not past the call in front. -/
theorem later (h : Prompt window now c) {t : Nat} (hn : now ≤ t) (hd : ∀ d ∈ clockDue? window c, t ≤ d) :
    Prompt window t c where
  sorted := h.sorted
  arrived := fun k hk => Nat.le_trans (h.arrived k hk) hn
  ahead := by
    intro k hk
    have sorted := h.sorted
    unfold clockDue? at hd
    -- whoever stands behind the first call is not due before it
    cases hw : c.waiting with
    | nil => rw [hw] at hk; cases hk
    | cons first rest =>
      rw [hw] at hk sorted hd
      have front : t ≤ dueTime window c.last first.since := hd _ rfl
      rcases List.mem_cons.1 hk with rfl | hk
      · exact front
      · exact Nat.le_trans front (dueTime_mono window c.last ((List.pairwise_cons.1 sorted).1 k hk))

end Prompt

/-! ## Waiting calls -/

/-- whether a call under a ticket waits on the clock of a bucket -/
def Waits (l : Limiter τ) (bucket : UInt32) (ticket : τ) : Prop :=
  ∃ c ∈ l.clocks, c.bucket = bucket ∧ ∃ k ∈ c.waiting, k.ticket = ticket

theorem waits_request {l : Limiter τ} {b b' : UInt32} {x y : τ} {now : Nat} (h : (l.request b x now).Waits b' y) :
    l.Waits b' y ∨ b' = b ∧ y = x := by
  unfold request at h
  split at h
  · obtain ⟨c', hc', rfl, k, hk, rfl⟩ := h
    obtain ⟨c, hc, rfl⟩ := List.mem_map.1 hc'
    by_cases hb : c.bucket = b
    · simp only [hb, if_true, List.mem_append, List.mem_singleton] at hk ⊢
      rcases hk with hk | rfl
      · exact .inl ⟨c, hc, hb, k, hk, rfl⟩
      · exact .inr ⟨trivial, rfl⟩
    · simp only [hb, if_false] at hk ⊢
      exact .inl ⟨c, hc, rfl, k, hk, rfl⟩
  · obtain ⟨c, hc, rfl, k, hk, rfl⟩ := h
    rcases List.mem_append.1 hc with hc | hc
    · exact .inl ⟨c, hc, rfl, k, hk, rfl⟩
    · rw [List.mem_singleton.1 hc] at hk ⊢
      rw [List.mem_singleton.1 hk]
      exact .inr ⟨rfl, rfl⟩

theorem waits_withdraw [DecidableEq τ] {l : Limiter τ} {b : UInt32} {x y : τ} (h : (l.withdraw x).Waits b y) :
    l.Waits b y := by
  obtain ⟨c', hc', rfl, k, hk, rfl⟩ := h
  obtain ⟨c, hc, rfl⟩ := List.mem_map.1 hc'
  exact ⟨c, hc, rfl, k, (List.mem_filter.1 hk).1, rfl⟩

theorem waits_settle {l : Limiter τ} {now : Nat} {b : UInt32} {y : τ} (h : (l.settle now).2.Waits b y) :
    l.Waits b y := by
  obtain ⟨c', hc', rfl, k, hk, rfl⟩ := h
  simp only [settle, List.map_map] at hc'
  obtain ⟨c, hc, rfl⟩ := List.mem_map.1 hc'
  obtain ⟨served, split, -⟩ := grantsDue_split l.window now c.last c.waiting
  exact ⟨c, hc, rfl, k, by rw [split]; exact List.mem_append_right served hk, rfl⟩

theorem request_window (l : Limiter τ) (bucket : UInt32) (ticket : τ) (now : Nat) :
    (l.request bucket ticket now).window = l.window := by
  unfold request
  split <;> rfl

/-! ## All permits of a limiter -/

/-- a limiter at a time, and all permits it granted, in order -/
structure Kept (now : Nat) (l : Limiter τ) (grants : List (Grant τ)) : Prop where
  /-- nobody cleared it -/
  retired : l.retired = []
  unique : l.clocks.Pairwise fun c d => c.bucket ≠ d.bucket
  prompt : ∀ c ∈ l.clocks, Prompt l.window now c
  /-- the clock of a bucket stands at its last permit -/
  last : ∀ g ∈ grants, ∃ c ∈ l.clocks, c.bucket = g.bucket ∧ ∃ t ∈ c.last, g.time ≤ t
  spaced : grants.Pairwise fun g h => g.bucket = h.bucket → g.time + l.window ≤ h.time

theorem kept_fresh (now window : Nat) : Kept now (fresh window : Limiter τ) [] :=
  ⟨rfl, .nil, nofun, nofun, .nil⟩

/-- There is one clock for a bucket. -/
theorem eq_of_bucket {clocks : List (BucketClock τ)} (h : clocks.Pairwise fun c d => c.bucket ≠ d.bucket)
    {c d : BucketClock τ} (hc : c ∈ clocks) (hd : d ∈ clocks) (hb : c.bucket = d.bucket) : c = d := by
  induction h with
  | nil => cases hc
  | cons first _ ih =>
    rcases List.mem_cons.1 hc with hc | hc <;> rcases List.mem_cons.1 hd with hd | hd
    · rw [hc, hd]
    · exact absurd (hc ▸ hb) (first d hd)
    · exact absurd (hd ▸ hb).symm (first c hc)
    · exact ih hc hd

theorem settle_eq {l : Limiter τ} (h : l.retired = []) (now : Nat) :
    l.settle now = (l.clocks.flatMap fun c => (settleClock l.window now c).1,
      { l with clocks := l.clocks.map fun c => (settleClock l.window now c).2 }) := by
  simp [settle, h, List.flatMap_map, Function.comp_def]

theorem settleClock_grants {window now : Nat} {c : BucketClock τ} {g : Grant τ}
    (h : g ∈ (settleClock window now c).1) :
    g.bucket = c.bucket ∧ (g.ticket, g.time) ∈ (grantsDue window now c.last c.waiting).1 := by
  obtain ⟨p, hp, rfl⟩ := List.mem_map.1 h
  exact ⟨rfl, hp⟩

theorem settleClock_spaced (window now : Nat) (c : BucketClock τ) :
    (settleClock window now c).1.Pairwise fun g h => g.bucket = h.bucket → g.time + window ≤ h.time := by
  refine List.pairwise_map.2 ((grantsDue_spaced window now c.last c.waiting).2.imp ?_)
  intro g h spaced _
  exact spaced

namespace Kept

variable {now : Nat} {l : Limiter τ} {grants : List (Grant τ)}

/-- The calls on the clocks change, but no bucket and no last grant does. -/
theorem callsChange (h : Kept now l grants) (f : BucketClock τ → BucketClock τ) (hb : ∀ c, (f c).bucket = c.bucket)
    (hl : ∀ c, (f c).last = c.last) (hp : ∀ c ∈ l.clocks, Prompt l.window now (f c)) :
    Kept now { l with clocks := l.clocks.map f } grants where
  retired := h.retired
  unique := List.pairwise_map.2 (h.unique.imp fun {c d} hcd => by rw [hb, hb]; exact hcd)
  prompt := by
    intro c' hc'
    obtain ⟨c, hc, rfl⟩ := List.mem_map.1 hc'
    exact hp c hc
  last := by
    intro g hg
    obtain ⟨c, hc, hcb, t, ht, hle⟩ := h.last g hg
    exact ⟨f c, List.mem_map_of_mem hc, (hb c).trans hcb, t, by rw [hl]; exact ht, hle⟩
  spaced := h.spaced

theorem request (h : Kept now l grants) (bucket : UInt32) (ticket : τ) :
    Kept now (l.request bucket ticket now) grants := by
  unfold Limiter.request
  split
  · refine h.callsChange _ (fun c => by split <;> rfl) (fun c => by split <;> rfl) fun c hc => ?_
    split
    · exact (h.prompt c hc).join ticket
    · exact h.prompt c hc
  · next hnew =>
    have absent : ∀ c ∈ l.clocks, c.bucket ≠ bucket := fun c hc hb =>
      hnew (List.any_eq_true.2 ⟨c, hc, beq_iff_eq.2 hb⟩)
    refine ⟨h.retired, ?_, fun c hc => ?_, fun g hg => ?_, h.spaced⟩
    · refine List.pairwise_append.2 ⟨h.unique, List.pairwise_singleton _ _, fun c hc d hd => ?_⟩
      rw [List.mem_singleton.1 hd]
      exact absent c hc
    · rcases List.mem_append.1 hc with hc | hc
      · exact h.prompt c hc
      · rw [List.mem_singleton.1 hc]
        exact ⟨List.pairwise_singleton _ _, by simp, by simp [dueTime]⟩
    · obtain ⟨c, hc, rest⟩ := h.last g hg
      exact ⟨c, List.mem_append_left _ hc, rest⟩

theorem withdraw [DecidableEq τ] (h : Kept now l grants) (ticket : τ) : Kept now (l.withdraw ticket) grants := by
  have eq : l.withdraw ticket =
      { l with clocks := l.clocks.map fun c =>
          { c with waiting := c.waiting.filter fun call => call.ticket ≠ ticket } } := by
    simp [Limiter.withdraw, h.retired]
  rw [eq]
  exact h.callsChange _ (fun _ => rfl) (fun _ => rfl) fun c hc => (h.prompt c hc).leave _

/-- Whatever is due is granted. -/
theorem settle (h : Kept now l grants) : Kept now (l.settle now).2 (grants ++ (l.settle now).1) := by
  rw [settle_eq h.retired]
  refine ⟨h.retired, ?_, fun c' hc' => ?_, fun g hg => ?_, ?_⟩
  case refine_1 => exact List.pairwise_map.2 h.unique
  case refine_2 =>
    obtain ⟨c, hc, rfl⟩ := List.mem_map.1 hc'
    exact (h.prompt c hc).settled
  case refine_3 =>
    rcases List.mem_append.1 hg with hg | hg
    · obtain ⟨c, hc, hb, t, ht, hle⟩ := h.last g hg
      obtain ⟨t', ht', hle'⟩ := (grantsDue_last l.window now c.last c.waiting).1 t ht
      exact ⟨_, List.mem_map_of_mem hc, hb, t', ht', Nat.le_trans hle hle'⟩
    · obtain ⟨c, hc, hg⟩ := List.mem_flatMap.1 hg
      obtain ⟨hb, hg⟩ := settleClock_grants hg
      obtain ⟨t, ht, hle⟩ := (grantsDue_last l.window now c.last c.waiting).2 _ hg
      exact ⟨_, List.mem_map_of_mem hc, hb.symm, t, ht, hle⟩
  case refine_4 =>
    refine List.pairwise_append.2 ⟨h.spaced, ?_, fun g hg g' hg' hb => ?_⟩
    · -- permits of two clocks are of two buckets
      refine List.pairwise_flatMap.2 ⟨fun c _ => settleClock_spaced l.window now c, ?_⟩
      refine h.unique.imp fun {c d} hcd g hg g' hg' hb => ?_
      exact absurd (((settleClock_grants hg).1.symm.trans hb).trans (settleClock_grants hg').1) hcd
    · -- an earlier permit is no later than where its clock stood
      obtain ⟨c, hc, hcb, t, ht, hle⟩ := h.last g hg
      obtain ⟨d, hd, hg'⟩ := List.mem_flatMap.1 hg'
      obtain ⟨hdb, hg'⟩ := settleClock_grants hg'
      have same : c = d := eq_of_bucket h.unique hc hd ((hcb.trans hb).trans hdb)
      subst same
      have := (grantsDue_spaced l.window now c.last c.waiting).1 _ hg' t ht
      dsimp only at this ⊢
      omega

/-- A permit is granted at the moment it is due. -/
theorem settle_now (h : Kept now l grants) {g : Grant τ} (hg : g ∈ (l.settle now).1) : g.time = now := by
  rw [settle_eq h.retired] at hg
  obtain ⟨c, hc, hg⟩ := List.mem_flatMap.1 hg
  exact (grantsDue_prompt l.window now c.last c.waiting (h.prompt c hc).ahead).1 _ (settleClock_grants hg).2

/-- A permit goes to a call that waited for it. -/
theorem settle_waits (h : Kept now l grants) {g : Grant τ} (hg : g ∈ (l.settle now).1) :
    l.Waits g.bucket g.ticket := by
  rw [settle_eq h.retired] at hg
  obtain ⟨c, hc, hg⟩ := List.mem_flatMap.1 hg
  obtain ⟨hb, hg⟩ := settleClock_grants hg
  obtain ⟨served, split, tickets⟩ := grantsDue_split l.window now c.last c.waiting
  have ht : g.ticket ∈ served.map (·.ticket) := tickets ▸ List.mem_map_of_mem hg
  obtain ⟨k, hk, hkt⟩ := List.mem_map.1 ht
  exact ⟨c, hc, hb.symm, k, by rw [split]; exact List.mem_append_left _ hk, hkt⟩

/-- Time goes on, but not past a call that is due. -/
theorem later (h : Kept now l grants) {t : Nat} (hn : now ≤ t) (hd : ∀ d ∈ l.nextDue?, t ≤ d) :
    Kept t l grants := by
  refine ⟨h.retired, h.unique, fun c hc => (h.prompt c hc).later hn fun d hcd => ?_, h.last, h.spaced⟩
  have mem : d ∈ (l.clocks ++ l.retired).filterMap (clockDue? l.window) :=
    List.mem_filterMap.2 ⟨c, List.mem_append_left _ hc, hcd⟩
  cases hm : l.nextDue? with
  | none => rw [List.min?_eq_none_iff.1 hm] at mem; cases mem
  | some least => exact Nat.le_trans (hd least hm) ((List.min?_eq_some_iff.1 hm).2 d mem)

/-- Whoever lets time go on looks at what is due first. -/
theorem onward (h : Kept now l grants) {time : Nat}
    (ht : (now ≤ time && l.nextDue?.all fun due => time ≤ due) = true) : Kept time l grants := by
  obtain ⟨onward, ahead⟩ := Bool.and_eq_true_iff.1 ht
  refine h.later (of_decide_eq_true onward) fun due hd => ?_
  rw [hd] at ahead
  exact of_decide_eq_true ahead

end Kept

end Shardwire.Limiter
