import Shardwire.Proofs.Shard.Journal

/-
What a shard identifies on.

A shard writes an Identify only when it is granted a permit, and then writes nothing else: `step_identifies`. This needs
that callers have nothing but commands sent, which is so wherever they reach the shard through a manager
(`step_holdsCommands`). Its address stays the same for life.
-/

namespace Shardwire.Shard

/-- whether callers wait for nothing but commands to be sent -/
def HoldsCommands (s : Shard) : Prop := ∀ ticket m, .send ticket m ∈ s.mailbox → m.op.isCommand = true

/-- whether it sends an Identify -/
def Act.identifies : Act → Bool
  | .write m => m.op = .identify
  | _ => false

theorem identifies_of_isAnswer {a : Act} (h : a.isAnswer = true) : a.identifies = false := by
  cases a <;> first | rfl | cases h

theorem identifies_of_isParting {a : Act} (h : a.isParting = true) : a.identifies = false := by
  cases a <;> first | rfl | cases h

theorem identifies_of_announce {st : Status} {s : Shard} {b : Act} (h : b.identifies = false) :
    ∀ a ∈ announce st s ++ [b], a.identifies = false := by
  intro a ha
  rcases List.mem_append.1 ha with ha | ha
  · exact identifies_of_isParting (isParting_of_announce ha)
  · rw [List.mem_singleton.1 ha]
    exact h

theorem identifies_of_isCommand {m : Message} (h : m.op.isCommand = true) : (Act.write m).identifies = false := by
  have other : m.op ≠ .identify := fun ho => by rw [ho] at h; cases h
  simpa [Act.identifies] using other

/-- A shard keeps its address, and what comes into its mailbox is what the stimulus brings. -/
theorem step_keeps (now : Nat) (x : Stimulus) (s : Shard) :
    (s.step now x).shard.address = s.address ∧
      ∀ k ∈ (s.step now x).shard.mailbox, k ∈ s.mailbox ∨ x.command? = some k := by
  have ho := step_outcome now x s
  generalize s.step now x = t at ho ⊢
  cases ho with
  | idles shard mailbox acts kept => exact ⟨by rw [shard], mailbox⟩
  | tends c' online abreast shard mailbox acts kept => exact ⟨by rw [shard], fun k hk => .inl (mailbox k hk)⟩
  | dials waiting => rw [dial_eq]; exact ⟨rfl, fun k hk => .inl hk⟩
  | opens | resumes | queues | identifies | passes | readies | revives => exact ⟨rfl, fun k hk => .inl hk⟩
  | ends he => exact ⟨he.address, fun k hk => .inl (he.mailbox k hk)⟩

theorem step_id (now : Nat) (x : Stimulus) (s : Shard) : (s.step now x).shard.id = s.id :=
  congrArg ShardAddress.id (step_keeps now x s).1

theorem step_holdsCommands {x : Stimulus} (hx : x.isAllowed = true) (now : Nat) {s : Shard} (h : s.HoldsCommands) :
    (s.step now x).shard.HoldsCommands := by
  intro ticket m hm
  rcases (step_keeps now x s).2 _ hm with hm | hm
  · exact h ticket m hm
  · cases x <;> simp only [Stimulus.command?, reduceCtorEq, Option.some.injEq, Command.send.injEq] at hm
    exact hm.2 ▸ hx

/-- An Identify goes out on a permit only, and nothing goes out with it. -/
theorem step_identifies (now : Nat) (x : Stimulus) {s : Shard} (h : s.HoldsCommands) :
    (∀ a ∈ (s.step now x).acts, a.identifies = false) ∨
      x = .granted ∧ (s.step now x).acts = [.write (.identify s.identity)] := by
  have ho := step_outcome now x s
  generalize s.step now x = t at ho ⊢
  cases ho with
  | idles shard mailbox acts kept => exact .inl fun a ha => identifies_of_isAnswer (acts a ha)
  | tends c' online abreast shard mailbox acts kept =>
    refine .inl fun a ha => ?_
    rcases acts a ha with ha | rfl | ⟨ticket, m, rfl, hm, -⟩
    · exact identifies_of_isAnswer ha
    · rfl
    · exact identifies_of_isCommand (h ticket m hm)
  | dials waiting => rw [dial_eq]; exact .inl (identifies_of_announce rfl)
  | opens dialling => exact .inl fun a ha => identifies_of_isParting (isParting_of_announce ha)
  | resumes => exact .inl (identifies_of_announce rfl)
  | queues => exact .inl (identifies_of_announce rfl)
  | identifies online writable => exact .inr ⟨rfl, rfl⟩
  | passes => exact .inl (by simp [Act.identifies])
  | readies | revives => exact .inl (identifies_of_announce rfl)
  | ends he => exact .inl fun a ha => identifies_of_isParting (he.acts a ha)

end Shardwire.Shard
