import Shardwire.Proofs.Manager.Chronicle
import Shardwire.Proofs.Shard.Errands

/-
What becomes of the messages that callers have sent.

A caller looks the shard up in the registry and sees its status; a message for a ready shard then goes into the mailbox
of the shard, which takes it whenever it gets to. Between the two, and while the message waits, anything can happen: a
switchboard is a manager with callers at every stage, and a run of it goes on with any of them, or with whatever else
happens to the manager and its shards. How long a caller is kept waiting outside, because the mailbox is full, and how
long the shard takes, because it may not send faster, is left open.

`commands_answered_once`: every caller is in one place, outside, in the mailbox, or answered, and is there once
(`Ledger.once`). Messages that are no commands, and shards that are not in the registry, are refused without any other
effect (`Conduct.invalid`, `Conduct.unknown`). Everybody else is told that the message went out, or that the shard was
not ready (`Ledger.answers`). The messages that went out are exactly those of the callers who are told so, each once,
on a connection that was ready (`Ledger.frames`, `Conduct.accepts`) and in the order in which they came into the mailbox
(`Ledger.order`); so a message that was refused is never sent. A shard that ends refuses what is left in its mailbox
(`Conduct.drains`).
-/

namespace Shardwire

namespace Manager

/-- what a caller is told -/
def Act.reply? : Act → Option (Nat × Option Fault)
  | .shard _ a => a.reply?
  | .answer ticket fault => some (ticket, some fault)
  | _ => none

/-- a command that a shard puts on its connection -/
def Act.commandOf? (id : UInt32) : Act → Option Message
  | .shard k a => if k = id then a.command? else none
  | _ => none

/-- the ticket of a caller whose message a shard has sent -/
def Act.acceptedBy? (id : UInt32) : Act → Option Nat
  | .shard k a => if k = id then a.accepted? else none
  | _ => none

/-- whether a caller has a message sent -/
def Stimulus.isSubmit : Stimulus → Bool
  | .submit _ _ _ => true
  | .shard _ y => y.isSubmit
  | _ => false

/-- the messages in the mailbox of a shard -/
def errands (m : Manager) (id : UInt32) : List (Nat × Message) := ((m.task? id).map fun t => t.shard.errands).getD []

/-- a message comes into the mailbox of its shard -/
def letIn (id : UInt32) (ticket : Nat) (msg : Message) (m : Manager) : Turn :=
  match m.task? id with
  | none => ⟨m, []⟩
  | some task =>
    let t := task.shard.letIn ticket msg
    ⟨m.update id t.shard, t.acts.map (.shard id)⟩

end Manager

/-- a message that a caller has sent -/
structure Switchboard.Call where
  shard : UInt32
  message : Message
  /-- whether the shard was in the registry then -/
  listed : Bool

/-- a manager and its callers; the ticket of a call is its place among all calls -/
structure Switchboard where
  manager : Manager
  calls : List Switchboard.Call
  /-- callers who met a ready shard, and whose message is not in its mailbox yet -/
  hall : List Nat
  /-- the messages that came into a mailbox, in this order -/
  entered : List (UInt32 × Nat)
  acts : List Manager.Act

namespace Switchboard

open Manager (Act Task)

inductive Move where
  /-- a caller sends a message -/
  | call (id : UInt32) (m : Message)
  /-- the message of a caller who waits comes into the mailbox -/
  | enter (ticket : Nat)
  /-- anything else happens to the manager -/
  | happen (x : Manager.Stimulus)

/-- whether a caller meets a ready shard -/
def meets (w : Switchboard) (id : UInt32) (m : Message) : Bool :=
  m.op.isCommand && (w.manager.shard? id).any fun s => s.status.isReady

/-- what the manager does -/
def turn (w : Switchboard) (now : Nat) : Move → Manager.Turn
  | .call id m => if w.meets id m then ⟨w.manager, []⟩ else w.manager.submit id w.calls.length m now
  | .enter ticket =>
    match w.calls[ticket]? with
    | some k => if ticket ∈ w.hall then w.manager.letIn k.shard ticket k.message else ⟨w.manager, []⟩
    | none => ⟨w.manager, []⟩
  | .happen x => if x.isSubmit then ⟨w.manager, []⟩ else w.manager.step now x

/-- the message that comes into a mailbox -/
def entrant? (w : Switchboard) : Move → Option (UInt32 × Nat)
  | .enter ticket =>
    (w.calls[ticket]?).bind fun k =>
      if ticket ∈ w.hall ∧ w.manager.hasEnded k.shard = false then some (k.shard, ticket) else none
  | _ => none

def step (w : Switchboard) (now : Nat) (v : Move) : Switchboard where
  manager := (w.turn now v).manager
  acts := w.acts ++ (w.turn now v).acts
  calls :=
    match v with
    | .call id m => w.calls ++ [⟨id, m, (w.manager.shard? id).isSome⟩]
    | _ => w.calls
  hall :=
    match v with
    | .call id m => if w.meets id m then w.hall ++ [w.calls.length] else w.hall
    | .enter ticket => w.hall.erase ticket
    | _ => w.hall
  entered := w.entered ++ (w.entrant? v).toList

def run (w : Switchboard) (moves : List (Nat × Move)) : Switchboard := moves.foldl (fun w v => w.step v.1 v.2) w

/-- a manager that was never started, and nobody has called -/
def opening (m : Manager) : Switchboard where
  manager := { m with started := false, tasks := [], startup := none, farewells := [] }
  calls := []
  hall := []
  entered := []
  acts := []

/-- what callers were told -/
def replies (w : Switchboard) : List (Nat × Option Fault) := w.acts.filterMap Act.reply?

/-- who was told anything -/
def answered (w : Switchboard) : List Nat := w.replies.map (·.1)

/-- whose messages a shard says that it has sent, in this order -/
def accepted (w : Switchboard) (id : UInt32) : List Nat := w.acts.filterMap (Act.acceptedBy? id)

/-- the commands that a shard has put on its connections, in this order -/
def frames (w : Switchboard) (id : UInt32) : List Message := w.acts.filterMap (Act.commandOf? id)

/-- whose messages came into the mailbox of a shard, in this order -/
def arrivals (w : Switchboard) (id : UInt32) : List Nat :=
  w.entered.filterMap fun e => if e.1 = id then some e.2 else none

/-- whose messages are in the mailbox of a shard -/
def queue (w : Switchboard) (id : UInt32) : List Nat := (w.manager.errands id).map (·.1)

/-- what a caller may be told -/
def Call.Allows (k : Call) (fault : Option Fault) : Prop :=
  if k.message.op.isCommand then
    if k.listed then fault = none ∨ fault = some (.shardNotReady k.shard) else fault = some (.unknownShard k.shard)
  else fault = some (.invalidCommand k.message.op)

end Switchboard

namespace Manager

/-! ## Mailboxes -/

variable {m : Manager}

theorem errands_update {id : UInt32} {t : Task} (found : m.task? id = some t) {s : Shard} (same : s.id = id)
    (k : UInt32) : (m.update id s).errands k = if k = id then s.errands else m.errands k := by
  rw [errands, task?_update found same]
  split
  · rfl
  · rfl

theorem errands_of_task {id : UInt32} {t : Task} (found : m.task? id = some t) : m.errands id = t.shard.errands := by
  simp [errands, found]

theorem errands_of_none {id : UInt32} (none : m.task? id = none) : m.errands id = [] := by
  simp [errands, none]

theorem task?_of_spawned {id : UInt32} (h : id ∈ m.spawned) : ∃ t, m.task? id = some t := by
  obtain ⟨t, ht, rfl⟩ := List.mem_map.1 h
  cases hf : m.task? t.shard.id with
  | none => exact absurd (beq_self_eq_true t.shard.id) (List.find?_eq_none.1 hf t ht)
  | some u => exact ⟨u, rfl⟩

/-! ## What a step does about callers -/

/-- The messages in `gone` are taken out of the mailbox of one shard, and their callers answered. -/
structure Deal (m : Manager) (id : UInt32) (gone : List (Nat × Message)) (t : Turn) : Prop where
  errands : m.errands id = gone ++ t.manager.errands id
  others : ∀ k, k ≠ id → t.manager.errands k = m.errands k
  tickets : (t.acts.filterMap Act.reply?).map (·.1) = gone.map (·.1)
  faults : ∀ r ∈ t.acts.filterMap Act.reply?, r.2 = none ∨ r.2 = some (.shardNotReady id)
  /-- it is one, and goes out, or none of them does -/
  carried : (t.acts.filterMap (Act.commandOf? id) = [] ∧ t.acts.filterMap (Act.acceptedBy? id) = []) ∨
    ∃ ticket msg, gone = [(ticket, msg)] ∧ t.acts.filterMap (Act.commandOf? id) = [msg] ∧
      t.acts.filterMap (Act.acceptedBy? id) = [ticket]
  quiet : ∀ k, k ≠ id → t.acts.filterMap (Act.commandOf? k) = [] ∧ t.acts.filterMap (Act.acceptedBy? k) = []

theorem reply?_shard (id : UInt32) (acts : List Shard.Act) :
    (acts.map (Act.shard id)).filterMap Act.reply? = acts.filterMap Shard.Act.reply? := by
  rw [List.filterMap_map]
  rfl

theorem commandOf?_shard (k id : UInt32) (acts : List Shard.Act) :
    (acts.map (Act.shard id)).filterMap (Act.commandOf? k) = if id = k then acts.filterMap Shard.Act.command? else [] := by
  rw [List.filterMap_map]
  split
  · next h => exact congrArg (acts.filterMap ·) (funext fun a => if_pos h)
  · next h => exact List.filterMap_eq_nil_iff.2 fun a _ => if_neg h

theorem acceptedBy?_shard (k id : UInt32) (acts : List Shard.Act) : (acts.map (Act.shard id)).filterMap
    (Act.acceptedBy? k) = if id = k then acts.filterMap Shard.Act.accepted? else [] := by
  rw [List.filterMap_map]
  split
  · next h => exact congrArg (acts.filterMap ·) (funext fun a => if_pos h)
  · next h => exact List.filterMap_eq_nil_iff.2 fun a _ => if_neg h

/-- what has nothing to do with the messages of callers -/
def Act.isAside (a : Act) : Prop :=
  a.reply? = none ∧ ∀ id, a.commandOf? id = none ∧ a.acceptedBy? id = none

/-- Nothing is taken where the mailboxes stay as they are. -/
theorem Deal.aside {t : Turn} (same : ∀ id, t.manager.errands id = m.errands id) (acts : ∀ a ∈ t.acts, a.isAside) :
    Deal m 0 [] t where
  errands := (same 0).symm
  others := fun k _ => same k
  tickets := by rw [List.filterMap_eq_nil_iff.2 fun a ha => (acts a ha).1]; rfl
  faults := by
    rw [List.filterMap_eq_nil_iff.2 fun a ha => (acts a ha).1]
    simp
  carried := .inl ⟨List.filterMap_eq_nil_iff.2 fun a ha => ((acts a ha).2 0).1,
    List.filterMap_eq_nil_iff.2 fun a ha => ((acts a ha).2 0).2⟩
  quiet := fun k _ => ⟨List.filterMap_eq_nil_iff.2 fun a ha => ((acts a ha).2 k).1,
    List.filterMap_eq_nil_iff.2 fun a ha => ((acts a ha).2 k).2⟩

theorem Deal.refuses {id : UInt32} {task : Task} (found : m.task? id = some task) {gone : List (Nat × Message)}
    {t : Shard.Turn} (h : Shard.Refuses task.shard gone t) :
    Deal m id gone ⟨m.update id t.shard, t.acts.map (.shard id)⟩ := by
  have own : task.shard.id = id := (task?_mem found).2
  have same := h.id.trans own
  refine ⟨?errands, ?others, ?tickets, ?faults, .inl ?carried, ?quiet⟩
  case errands => rw [errands_of_task found, errands_update found same, if_pos rfl, h.errands]
  case others =>
    intro k hk
    rw [errands_update found same, if_neg hk]
  case tickets =>
    rw [reply?_shard, h.replies, List.map_map]
    rfl
  case faults =>
    intro r hr
    rw [reply?_shard, h.replies, own] at hr
    obtain ⟨k, -, rfl⟩ := List.mem_map.1 hr
    exact .inr rfl
  case carried =>
    rw [commandOf?_shard, if_pos rfl, acceptedBy?_shard, if_pos rfl]
    exact ⟨h.commands, h.accepted⟩
  case quiet =>
    intro k hk
    rw [commandOf?_shard, if_neg hk.symm, acceptedBy?_shard, if_neg hk.symm]
    exact ⟨rfl, rfl⟩

theorem Deal.carries {id : UInt32} {task : Task} (found : m.task? id = some task) {ticket : Nat} {msg : Message}
    (command : msg.op.isCommand = true) {t : Shard.Turn} (h : Shard.Carries task.shard ticket msg t) :
    Deal m id [(ticket, msg)] ⟨m.update id t.shard, t.acts.map (.shard id)⟩ := by
  have same := h.id.trans (task?_mem found).2
  refine ⟨?errands, ?others, ?tickets, ?faults, .inr ⟨ticket, msg, rfl, ?carried⟩, ?quiet⟩
  case errands => rw [errands_of_task found, errands_update found same, if_pos rfl, h.errands]; rfl
  case others =>
    intro k hk
    rw [errands_update found same, if_neg hk]
  case tickets => rw [reply?_shard, h.acts]; rfl
  case faults =>
    rw [reply?_shard, h.acts]
    simp [Shard.Act.reply?]
  case carried =>
    rw [commandOf?_shard, if_pos rfl, acceptedBy?_shard, if_pos rfl, h.acts]
    simp [Shard.Act.command?, Shard.Act.accepted?, List.filterMap_cons, command]
  case quiet =>
    intro k hk
    rw [commandOf?_shard, if_neg hk.symm, acceptedBy?_shard, if_neg hk.symm]
    exact ⟨rfl, rfl⟩

/-- what happens to a shard, a caller's message apart -/
theorem stepShard_deal (idle : ∀ id, ∀ k ∈ m.errands id, k.2.op.isCommand = true) (id : UInt32) {y : Shard.Stimulus}
    (hy : y.isSubmit = false) (now : Nat) : ∃ k gone, Deal m k gone (stepShard id y now m) := by
  cases found : m.task? id with
  | none =>
    rw [stepShard_none found]
    exact ⟨0, [], .aside (fun _ => rfl) (by simp)⟩
  | some task =>
    rw [stepShard_eq found]
    rcases Shard.step_errands now hy task.shard with ⟨gone, refuses⟩ | ⟨ticket, msg, carries⟩
    · exact ⟨id, gone, .refuses found refuses⟩
    · have waits : (ticket, msg) ∈ m.errands id := by
        rw [errands_of_task found, carries.errands]
        exact List.mem_cons_self
      exact ⟨id, [(ticket, msg)], .carries found (idle id _ waits) carries⟩

/-- no shard that has ended has messages left -/
def Idle (m : Manager) : Prop := ∀ t ∈ m.tasks, t.shard.Idle

theorem Idle.updated (h : m.Idle) (distinct : m.spawned.Nodup) {id : UInt32} {t : Task} (found : m.task? id = some t)
    {s : Shard} (idle : s.Idle) : (m.update id s).Idle := by
  intro t' ht'
  rcases mem_update distinct found ht' with old | rfl
  · exact h t' old
  · exact idle

theorem stepShard_idle (h : m.Idle) (distinct : m.spawned.Nodup) (id : UInt32) {y : Shard.Stimulus}
    (hy : y.isSubmit = false) (now : Nat) : (stepShard id y now m).manager.Idle := by
  unfold stepShard
  split
  · exact h
  · next t found => exact h.updated distinct found (Shard.step_idle now hy (h t (task?_mem found).1))

theorem Idle.errands (h : m.Idle) {id : UInt32} (ended : m.hasEnded id = true) : m.errands id = [] := by
  cases found : m.task? id with
  | none => exact errands_of_none found
  | some t =>
    have gone : t.shard.isEnded = true := by simpa [hasEnded, found] using ended
    rw [errands_of_task found]
    exact h t (task?_mem found).1 gone

/-- A manager answers nobody but those who have messages sent. -/
theorem step_answers (now : Nat) {x : Stimulus} (hx : x.isSubmit = false) (m : Manager) (ticket : Nat) (f : Fault) :
    .answer ticket f ∉ (m.step now x).acts := by
  have starting (profile : ShardProfile) (shards maxConcurrency : UInt32) (m : Manager) :
      .answer ticket f ∉ (start profile shards maxConcurrency now m).acts := by
    unfold start refuse
    split
    · simp
    · split <;> simp
  have shards {acts : List Act} (h : ∀ a ∈ acts, ∃ id b, a = .shard id b) : .answer ticket f ∉ acts := by
    intro ha
    obtain ⟨id, b, eq⟩ := h _ ha
    cases eq
  cases x with
  | submit => cases hx
  | start shards maxConcurrency => exact starting m.profile shards maxConcurrency m
  | connect answer =>
    rcases connect_cases answer now m with ⟨f', bot, eq⟩ | ⟨profile, shards, maxConcurrency, bot, eq⟩
    · simp [step, eq, refuse]
    · rw [step, eq]
      exact starting profile shards maxConcurrency _
  | shutdown => simp [step, shutdown]
  | shard id y => exact shards fun a ha => ⟨id, stepShard_acts id y now m a ha⟩
  | lane bucket =>
    simp only [step, look, advance]
    split
    · simp
    · split
      · simp
      · split
        · split
          · split <;> simp
          · split <;> simp
        · simp
  | farewell =>
    simp only [step, takeLeave]
    split
    · simp
    · split
      · split <;> simp
      · split
        · refine shards (List.foldlRecOn _ _ (motive := fun (t : Turn) => ∀ a ∈ t.acts, ∃ id b, a = Act.shard id b)
            (by simp) ?_)
          intro t ht id _ a ha
          rcases List.mem_append.1 ha with ha | ha
          · exact ht a ha
          · exact ⟨id, stepShard_acts id .abort now t.manager a ha⟩
        · simp

end Manager

namespace Switchboard

open Manager (Act Task Deal)

variable {w : Switchboard}

/-- the manager does something, and no caller comes or goes -/
def enact (w : Switchboard) (t : Manager.Turn) : Switchboard :=
  { w with manager := t.manager, acts := w.acts ++ t.acts }

/-- the books of a switchboard -/
structure Ledger (w : Switchboard) : Prop where
  formed : w.manager.Formed
  idle : w.manager.Idle
  hall : ∀ ticket ∈ w.hall, ∃ id m, w.calls[ticket]? = some ⟨id, m, true⟩ ∧ m.op.isCommand = true ∧
    id ∈ w.manager.spawned
  queued : ∀ id, ∀ k ∈ w.manager.errands id, w.calls[k.1]? = some ⟨id, k.2, true⟩ ∧ k.2.op.isCommand = true
  /-- callers are told what fits their calls -/
  answers : ∀ r ∈ w.replies, ∃ call, w.calls[r.1]? = some call ∧ call.Allows r.2
  /-- every caller is in one place, and there once -/
  once : ∀ ticket call, w.calls[ticket]? = some call →
    w.answered.count ticket + w.hall.count ticket + (w.queue call.shard).count ticket = 1
  /-- the commands on the connections of a shard are those that it says it has sent -/
  frames : ∀ id, (w.frames id).map (fun m => some ⟨id, m, true⟩) = (w.accepted id).map (w.calls[·]?)
  /-- they go out in the order in which they came -/
  order : ∀ id, (w.accepted id ++ w.queue id).Sublist (w.arrivals id)

theorem replies_enact (w : Switchboard) (t : Manager.Turn) :
    (w.enact t).replies = w.replies ++ t.acts.filterMap Act.reply? := List.filterMap_append

theorem answered_enact (w : Switchboard) (t : Manager.Turn) :
    (w.enact t).answered = w.answered ++ (t.acts.filterMap Act.reply?).map (·.1) := by
  rw [answered, replies_enact, List.map_append]
  rfl

theorem frames_enact (w : Switchboard) (t : Manager.Turn) (id : UInt32) :
    (w.enact t).frames id = w.frames id ++ t.acts.filterMap (Act.commandOf? id) := List.filterMap_append

theorem accepted_enact (w : Switchboard) (t : Manager.Turn) (id : UInt32) :
    (w.enact t).accepted id = w.accepted id ++ t.acts.filterMap (Act.acceptedBy? id) := List.filterMap_append

/-- What a step does about callers leaves the books in order. -/
theorem Ledger.deal (h : Ledger w) {id : UInt32} {gone : List (Nat × Message)} {t : Manager.Turn}
    (deal : Deal w.manager id gone t) (formed : t.manager.Formed) (idle : t.manager.Idle)
    (grows : w.manager.spawned <+: t.manager.spawned) : Ledger (w.enact t) := by
  have taken : ∀ k ∈ gone, w.calls[k.1]? = some ⟨id, k.2, true⟩ ∧ k.2.op.isCommand = true := by
    intro k hk
    exact h.queued id k (deal.errands ▸ List.mem_append_left _ hk)
  have line : w.queue id = gone.map (·.1) ++ (w.enact t).queue id := by
    rw [queue, deal.errands, List.map_append]
    rfl
  have lines {k : UInt32} (hk : k ≠ id) : (w.enact t).queue k = w.queue k := congrArg (List.map _) (deal.others k hk)
  constructor
  case formed => exact formed
  case idle => exact idle
  case hall =>
    intro ticket ht
    obtain ⟨k, m, call, command, there⟩ := h.hall ticket ht
    exact ⟨k, m, call, command, grows.subset there⟩
  case queued =>
    intro k e he
    by_cases hk : k = id
    · subst hk
      exact h.queued k e (deal.errands ▸ List.mem_append_right _ he)
    · exact h.queued k e (deal.others k hk ▸ he)
  case answers =>
    intro r hr
    rw [replies_enact] at hr
    rcases List.mem_append.1 hr with hr | hr
    · exact h.answers r hr
    · have ticket : r.1 ∈ gone.map (·.1) := deal.tickets ▸ List.mem_map_of_mem hr
      obtain ⟨k, hk, eq⟩ := List.mem_map.1 ticket
      obtain ⟨call, command⟩ := taken k hk
      refine ⟨_, eq ▸ call, ?_⟩
      simpa [Call.Allows, command] using deal.faults r hr
  case once =>
    intro ticket call hc
    have before := h.once ticket call hc
    rw [answered_enact, deal.tickets, List.count_append]
    by_cases hk : call.shard = id
    · rw [hk] at before ⊢
      rw [line, List.count_append] at before
      show _ + w.hall.count ticket + _ = 1
      omega
    · -- a message that was taken belongs to another shard
      have others : (gone.map (·.1)).count ticket = 0 := by
        refine List.count_eq_zero.2 fun hm => ?_
        obtain ⟨k, hk', eq⟩ := List.mem_map.1 hm
        have same := (eq ▸ (taken k hk').1).symm.trans hc
        exact hk (congrArg Call.shard (Option.some.inj same)).symm
      rw [others, lines hk]
      exact before
  case frames =>
    intro k
    rw [frames_enact, accepted_enact, List.map_append, List.map_append, h.frames k]
    refine congrArg _ ?_
    by_cases hk : k = id
    · subst hk
      rcases deal.carried with ⟨none, nobody⟩ | ⟨ticket, m, rfl, one, who⟩
      · rw [none, nobody]
        rfl
      · have call := (taken _ List.mem_cons_self).1
        rw [one, who]
        simp only [List.map_cons, List.map_nil]
        exact congrArg (· :: []) call.symm
    · rw [(deal.quiet k hk).1, (deal.quiet k hk).2]
      rfl
  case order =>
    intro k
    rw [accepted_enact]
    by_cases hk : k = id
    · subst hk
      have before := h.order k
      rw [line] at before
      refine List.Sublist.trans ?_ before
      rw [List.append_assoc]
      refine List.Sublist.append (List.Sublist.refl _) ?_
      refine List.Sublist.append ?_ (List.Sublist.refl _)
      rcases deal.carried with ⟨-, nobody⟩ | ⟨ticket, m, rfl, -, who⟩
      · rw [nobody]
        exact List.nil_sublist _
      · rw [who]
        exact List.Sublist.refl _
    · rw [(deal.quiet k hk).2, List.append_nil, lines hk]
      exact h.order k

/-! ### Everything but callers -/

theorem Ledger.commands (h : Ledger w) : ∀ id, ∀ k ∈ w.manager.errands id, k.2.op.isCommand = true :=
  fun id k hk => (h.queued id k hk).2

theorem Ledger.aside (h : Ledger w) {t : Manager.Turn} (same : ∀ id, t.manager.errands id = w.manager.errands id)
    (acts : ∀ a ∈ t.acts, a.isAside) (formed : t.manager.Formed) (idle : t.manager.Idle)
    (grows : w.manager.spawned <+: t.manager.spawned) : Ledger (w.enact t) :=
  h.deal (.aside same acts) formed idle grows

/-- Something happens to a shard. -/
theorem Ledger.stroke (h : Ledger w) (id : UInt32) {y : Shard.Stimulus} (hy : y.isSubmit = false) (now : Nat) :
    Ledger (w.enact (w.manager.stepShard id y now)) := by
  obtain ⟨k, gone, deal⟩ := Manager.stepShard_deal h.commands id hy now
  refine h.deal deal (h.formed.step now (.shard id y)) ?_ (h.formed.grows now (.shard id y))
  exact Manager.stepShard_idle h.idle h.formed.distinct id hy now

theorem enact_next (w : Switchboard) (t : Manager.Turn) (f : Manager → Manager.Turn) :
    w.enact (t.next f) = (w.enact t).enact (f t.manager) := by
  simp [enact, Manager.Turn.next, List.append_assoc]

theorem Ledger.strokes (h : Ledger w) (ids : List UInt32) {y : Shard.Stimulus} (hy : y.isSubmit = false) (now : Nat) :
    Ledger (w.enact (ids.foldl (fun t id => t.next (Manager.stepShard id y now)) ⟨w.manager, []⟩)) := by
  refine List.foldlRecOn ids _ (motive := fun t => Ledger (w.enact t)) ?_ fun t ht id _ => ?_
  · have same : w.enact ⟨w.manager, []⟩ = w := by simp [enact]
    rw [same]
    exact h
  · rw [enact_next]
    exact ht.stroke id hy now

end Switchboard

namespace Manager

variable {m : Manager}

/-- A request to stop leaves the messages of callers where they are. -/
theorem stepShard_stop_errands (id : UInt32) (now : Nat) (m : Manager) (k : UInt32) :
    (stepShard id .stop now m).manager.errands k = m.errands k := by
  cases found : m.task? id with
  | none => rw [stepShard_none found]
  | some t =>
    have own := (task?_mem found).2
    have same : (t.shard.step now .stop).shard.errands = t.shard.errands := by
      simp only [Shard.step, Shard.Turn.still]
      split
      · rfl
      · simp [Shard.errands, List.filterMap_append, Shard.Command.errand?]
    rw [stepShard_eq found, errands_update found ((Shard.step_id now .stop t.shard).trans own)]
    split
    · next hk => rw [hk, same, errands_of_task found]
    · rfl

theorem errands_relist {m₁ : Manager} {farewells : List Farewell} (k : UInt32) :
    errands { m₁ with tasks := m₁.tasks.map fun t => { t with listed := false }, farewells := farewells } k =
      m₁.errands k := by
  simp only [errands, task?, List.find?_map, Function.comp_def, Option.map_map]

/-- A shutdown leaves the messages of callers where they are, too. -/
theorem shutdown_errands (idle : m.Idle) (distinct : m.spawned.Nodup) (now : Nat) :
    (∀ k, (shutdown now m).manager.errands k = m.errands k) ∧ (shutdown now m).manager.Idle := by
  have stops := List.foldlRecOn m.ids (fun m id => (stepShard id .stop now m).manager)
    (motive := fun m' => (∀ k, m'.errands k = m.errands k) ∧ m'.Idle ∧ m'.spawned.Nodup)
    ⟨fun _ => rfl, idle, distinct⟩ (by
      rintro m' ⟨same, idle, distinct⟩ id -
      refine ⟨fun k => (stepShard_stop_errands id now m' k).trans (same k), ?_, ?_⟩
      · exact stepShard_idle idle distinct id rfl now
      · exact (stepShard_alike distinct id .stop now).spawned ▸ distinct)
  refine ⟨fun k => (errands_relist k).trans (stops.1 k), fun t ht => ?_⟩
  obtain ⟨u, hu, rfl⟩ := List.mem_map.1 ht
  exact stops.2.1 u hu

theorem task?_append {t : Task} {startup : Option Startup} (k : UInt32) :
    task? { m with tasks := m.tasks ++ [t], startup := startup } k =
      (m.task? k).or (if t.shard.id = k then some t else none) := by
  simp [task?, List.find?_append, List.find?_cons]
  split <;> simp_all

theorem spawn_errands {t : Task} {startup : Option Startup} (empty : t.shard.errands = []) (k : UInt32) :
    errands { m with tasks := m.tasks ++ [t], startup := startup } k = m.errands k := by
  rw [errands, task?_append]
  cases found : m.task? k with
  | some t => simp [errands, found]
  | none =>
    simp only [Option.none_or, errands, found]
    split
    · exact empty
    · rfl

end Manager

namespace Switchboard

open Manager (Act Task Deal)

variable {w : Switchboard}

/-- A shutdown that ends, or stops its shards by force, leaves the books in order. -/
theorem Ledger.parted (h : Ledger w) {now : Nat} (formed : (Manager.takeLeave now w.manager).manager.Formed)
    (grows : w.manager.spawned <+: (Manager.takeLeave now w.manager).manager.spawned) :
    Ledger (w.enact (Manager.takeLeave now w.manager)) := by
  have silent (clears : Bool) : ∀ a ∈ if clears then [Act.clear, .stopped] else [.stopped], a.isAside := by
    cases clears <;> simp [Act.isAside, Act.reply?, Act.commandOf?, Act.acceptedBy?]
  unfold Manager.takeLeave at formed grows ⊢
  split
  · exact h.aside (fun _ => rfl) (by simp) h.formed h.idle (List.prefix_refl _)
  · next f rest hf =>
    simp only [hf] at formed grows
    split
    · next all =>
      simp only [all, if_true] at formed grows
      exact h.aside (fun _ => rfl) (silent w.manager.ownsLimiter) formed h.idle grows
    · split
      · exact h.strokes f.shards (y := .abort) rfl now
      · exact h.aside (fun _ => rfl) (by simp) h.formed h.idle (List.prefix_refl _)

/-- Whatever happens to the manager leaves the books in order. -/
theorem Ledger.happen (h : Ledger w) (now : Nat) {x : Manager.Stimulus} (hx : x.isSubmit = false) :
    Ledger (w.enact (w.manager.step now x)) := by
  have formed := h.formed.step now x
  have grows := h.formed.grows now x
  have nobody := Manager.step_answers now hx w.manager
  have ho := Manager.step_outcome now x w.manager
  generalize w.manager.step now x = t at ho formed grows nobody ⊢
  cases ho with
  | @rests _ acts bot replies =>
    refine h.aside (fun _ => rfl) (fun a ha => ?_) formed h.idle grows
    cases a with
    | answer ticket f => exact absurd ha (nobody ticket f)
    | started => exact ⟨rfl, fun _ => ⟨rfl, rfl⟩⟩
    | _ => cases replies _ ha
  | starts | closes => exact h.aside (fun _ => rfl) (by simp) formed h.idle grows
  | spawns startup lane free next made =>
    refine h.aside (Manager.spawn_errands rfl) ?_ formed ?_ grows
    · rw [Manager.launch_eq]
      simp [Act.isAside, Act.reply?, Act.commandOf?, Act.acceptedBy?, Shard.Act.reply?, Shard.Act.command?,
        Shard.Act.accepted?]
    · intro t ht
      rcases List.mem_append.1 ht with ht | ht
      · exact h.idle t ht
      · rw [List.mem_singleton.1 ht, Manager.launch_eq]
        intro ended
        cases ended
  | ends | strays =>
    refine h.aside (fun _ => rfl) ?_ formed h.idle grows
    simp [Act.isAside, Act.reply?, Act.commandOf?, Act.acceptedBy?]
  | @steps _ id y task brings found =>
    have hy : y.isSubmit = false := by
      cases brings with
      | shard => exact hx
      | submit => cases hx
    exact Manager.stepShard_eq found y now ▸ h.stroke id hy now
  | leaves =>
    obtain ⟨same, idle⟩ := Manager.shutdown_errands h.idle h.formed.distinct now
    exact h.aside same (by simp [Manager.shutdown]) formed idle grows
  | parts => exact h.parted formed grows

end Switchboard

namespace Manager

variable {m : Manager}

/-- The shard of an id in the registry is the shard of that id. -/
theorem shard?_some (distinct : m.spawned.Nodup) {id : UInt32} {s : Shard} (h : m.shard? id = some s) :
    ∃ t, m.task? id = some t ∧ t.shard = s := by
  obtain ⟨t, ht, rfl⟩ := Option.map_eq_some_iff.1 h
  have own : t.listed = true ∧ t.shard.id = id := by simpa using List.find?_some ht
  exact ⟨t, own.2 ▸ task?_of_mem distinct (List.mem_of_find?_eq_some ht), rfl⟩

/-- A shard that takes the place of itself leaves the lineup alone. -/
theorem update_level {id : UInt32} {s : Shard} (same : s.id = id) : Level m (m.update id s) := by
  refine ⟨rfl, rfl, ?_⟩
  simp only [Manager.spawned, update, List.map_map]
  refine List.map_congr_left fun k _ => ?_
  simp only [Function.comp_apply]
  split
  · next hk => rw [hk]; exact same
  · rfl

theorem submit_invalid {msg : Message} (invalid : msg.op.isCommand = false) (id : UInt32) (ticket now : Nat)
    (m : Manager) : submit id ticket msg now m = ⟨m, [.answer ticket (.invalidCommand msg.op)]⟩ := by
  simp [submit, invalid]

theorem submit_unknown {id : UInt32} {msg : Message} (command : msg.op.isCommand = true)
    (unknown : m.shard? id = none) (ticket now : Nat) :
    submit id ticket msg now m = ⟨m, [.answer ticket (.unknownShard id)]⟩ := by
  simp [submit, command, unknown]

/-- A shard that is not ready turns callers away, and nothing else happens. -/
theorem submit_turnedAway (distinct : m.spawned.Nodup) {id : UInt32} {msg : Message} {s : Shard}
    (command : msg.op.isCommand = true) (known : m.shard? id = some s) (unready : s.status.isReady = false)
    (ticket now : Nat) : submit id ticket msg now m = ⟨m, [.shard id (.answer ticket (some (.shardNotReady id)))]⟩ := by
  obtain ⟨t, found, rfl⟩ := shard?_some distinct known
  have own := (task?_mem found).2
  have eq : submit id ticket msg now m =
      ⟨m.update id (t.shard.submit ticket msg).shard, (t.shard.submit ticket msg).acts.map (.shard id)⟩ := by
    simp [submit, command, known, stepShard_eq found, Shard.step]
  rw [eq, Shard.submit_unready unready, own]
  simp [Shard.act, update_self distinct found]

/-- A caller of a ready shard comes into its mailbox. -/
theorem submit_letsIn (distinct : m.spawned.Nodup) {id : UInt32} {msg : Message} {s : Shard}
    (command : msg.op.isCommand = true) (known : m.shard? id = some s) (ready : s.status.isReady = true)
    (ticket now : Nat) :
    submit id ticket msg now m = letIn id ticket msg m := by
  obtain ⟨t, found, rfl⟩ := shard?_some distinct known
  simp [submit, command, known, stepShard_eq found, found, Shard.step, Shard.submit_ready ready, letIn]

end Manager

namespace Switchboard

open Manager (Act Task Deal)

variable {w : Switchboard}

/-! ### Callers -/

theorem Ledger.known (h : Ledger w) {ticket : Nat}
    (ht : ticket ∈ w.answered ∨ ticket ∈ w.hall ∨ ∃ id, ticket ∈ w.queue id) : ticket < w.calls.length := by
  have below {call : Call} (hc : w.calls[ticket]? = some call) : ticket < w.calls.length :=
    (List.getElem?_eq_some_iff.1 hc).1
  rcases ht with ht | ht | ⟨id, ht⟩
  · obtain ⟨r, hr, rfl⟩ := List.mem_map.1 ht
    obtain ⟨call, hc, -⟩ := h.answers r hr
    exact below hc
  · obtain ⟨id, m, hc, -⟩ := h.hall ticket ht
    exact below hc
  · obtain ⟨k, hk, rfl⟩ := List.mem_map.1 ht
    exact below (h.queued id k hk).1

/-- Whose message a shard says that it has sent is told so. -/
theorem told_of_accepted {id : UInt32} {ticket : Nat} (h : ticket ∈ w.accepted id) : (ticket, none) ∈ w.replies := by
  obtain ⟨a, ha, hw⟩ := List.mem_filterMap.1 h
  refine List.mem_filterMap.2 ⟨a, ha, ?_⟩
  cases a with
  | shard k b =>
    simp only [Act.acceptedBy?] at hw
    split at hw
    · cases b with
      | answer who fault =>
        cases fault with
        | none => cases hw; rfl
        | some f => cases hw
      | _ => cases hw
    · cases hw
  | _ => cases hw

/-- A new caller is answered at once, or waits outside. -/
theorem Ledger.called (h : Ledger w) (call : Call) (new : List Act) (waits : List Nat)
    (aside : ∀ id, new.filterMap (Act.commandOf? id) = [] ∧ new.filterMap (Act.acceptedBy? id) = [])
    (placed : (waits = [] ∧ ∃ fault, new.filterMap Act.reply? = [(w.calls.length, fault)] ∧ call.Allows fault) ∨
      (waits = [w.calls.length] ∧ new.filterMap Act.reply? = [] ∧ call.listed = true ∧
        call.message.op.isCommand = true ∧ call.shard ∈ w.manager.spawned)) :
    Ledger { w with calls := w.calls ++ [call], hall := w.hall ++ waits, acts := w.acts ++ new } := by
  have old {ticket : Nat} {k : Call} (hk : w.calls[ticket]? = some k) : (w.calls ++ [call])[ticket]? = some k := by
    rw [List.getElem?_append_left (List.getElem?_eq_some_iff.1 hk).1, hk]
  have new_call : (w.calls ++ [call])[w.calls.length]? = some call := by simp
  have replies : (w.acts ++ new).filterMap Act.reply? = w.replies ++ new.filterMap Act.reply? := List.filterMap_append
  have accepted (id : UInt32) : (w.acts ++ new).filterMap (Act.acceptedBy? id) = w.accepted id := by
    rw [List.filterMap_append, (aside id).2, List.append_nil]
    rfl
  constructor
  case formed => exact h.formed
  case idle => exact h.idle
  case hall =>
    intro ticket ht
    rcases List.mem_append.1 ht with ht | ht
    · obtain ⟨id, m, hc, rest⟩ := h.hall ticket ht
      exact ⟨id, m, old hc, rest⟩
    · rcases placed with ⟨rfl, -⟩ | ⟨rfl, -, listed, command, there⟩
      · cases ht
      · rw [List.mem_singleton.1 ht]
        exact ⟨call.shard, call.message, by rw [new_call, ← listed], command, there⟩
  case queued =>
    intro id k hk
    exact ⟨old (h.queued id k hk).1, (h.queued id k hk).2⟩
  case answers =>
    intro r hr
    rw [Switchboard.replies, replies] at hr
    rcases List.mem_append.1 hr with hr | hr
    · obtain ⟨k, hk, allows⟩ := h.answers r hr
      exact ⟨k, old hk, allows⟩
    · rcases placed with ⟨-, fault, told, allows⟩ | ⟨-, none, -⟩
      · rw [told, List.mem_singleton] at hr
        exact ⟨call, hr ▸ new_call, hr ▸ allows⟩
      · rw [none] at hr
        cases hr
  case once =>
    intro ticket k hk
    show (((w.acts ++ new).filterMap Act.reply?).map (·.1)).count ticket + (w.hall ++ waits).count ticket +
      (w.queue k.shard).count ticket = 1
    rw [replies, List.map_append, List.count_append, List.count_append]
    have here : ((new.filterMap Act.reply?).map (·.1)).count ticket + waits.count ticket =
        if ticket = w.calls.length then 1 else 0 := by
      rcases placed with ⟨rfl, fault, told, -⟩ | ⟨rfl, none, -⟩
      · simp [told, List.count_cons, eq_comm (a := ticket)]
      · simp [none, List.count_cons, eq_comm (a := ticket)]
    by_cases hn : ticket = w.calls.length
    · -- nobody has this ticket yet
      have untold : (w.replies.map (·.1)).count ticket = 0 :=
        List.count_eq_zero.2 fun hm => absurd hn (Nat.ne_of_lt (h.known (.inl hm)))
      have inside : w.hall.count ticket = 0 :=
        List.count_eq_zero.2 fun hm => absurd hn (Nat.ne_of_lt (h.known (.inr (.inl hm))))
      have unqueued : (w.queue k.shard).count ticket = 0 :=
        List.count_eq_zero.2 fun hm => absurd hn (Nat.ne_of_lt (h.known (.inr (.inr ⟨_, hm⟩))))
      rw [if_pos hn] at here
      omega
    · have lt : ticket < (w.calls ++ [call]).length := (List.getElem?_eq_some_iff.1 hk).1
      rw [List.length_append, List.length_singleton] at lt
      rw [List.getElem?_append_left (by omega)] at hk
      have before : (w.replies.map (·.1)).count ticket + w.hall.count ticket + (w.queue k.shard).count ticket = 1 :=
        h.once ticket k hk
      rw [if_neg hn] at here
      omega
  case frames =>
    intro id
    have commands : (w.acts ++ new).filterMap (Act.commandOf? id) = w.frames id := by
      rw [List.filterMap_append, (aside id).1, List.append_nil]
      rfl
    rw [Switchboard.frames, commands, Switchboard.accepted, accepted, h.frames id]
    refine List.map_congr_left fun ticket ht => ?_
    cases hc : w.calls[ticket]? with
    | some k => exact (old hc).symm
    | none =>
      -- whoever is accepted has called
      have told : ticket ∈ w.answered := List.mem_map_of_mem (told_of_accepted ht)
      exact absurd (h.known (.inl told)) (by simpa using hc)
  case order =>
    intro id
    rw [Switchboard.accepted, accepted]
    exact h.order id

/-- Whoever comes in from outside is not outside any more. -/
theorem count_hall {hall : List Nat} {ticket : Nat} (waits : ticket ∈ hall) (k : Nat) :
    (hall.erase ticket).count k + [ticket].count k = hall.count k := by
  rw [(List.perm_cons_erase waits).count_eq k, List.count_cons, List.count_cons, List.count_nil, Nat.zero_add]

/-- The message of a caller who waits comes into the mailbox of a shard that has not ended. -/
theorem Ledger.enters (h : Ledger w) {ticket : Nat} {id : UInt32} {m : Message} {t : Task} {s : Shard}
    (waits : ticket ∈ w.hall) (call : w.calls[ticket]? = some ⟨id, m, true⟩) (command : m.op.isCommand = true)
    (found : w.manager.task? id = some t) (same : s.id = id) (running : s.isEnded = false)
    (last : s.errands = t.shard.errands ++ [(ticket, m)]) :
    Ledger { w with
      manager := w.manager.update id s
      hall := w.hall.erase ticket
      entered := w.entered ++ [(id, ticket)] } := by
  have errands (k : UInt32) : (w.manager.update id s).errands k =
      if k = id then w.manager.errands id ++ [(ticket, m)] else w.manager.errands k := by
    rw [Manager.errands_update found same, last, Manager.errands_of_task found]
  have level := Manager.update_level (m := w.manager) same
  constructor
  case formed => exact h.formed.imp level.blank fun ⟨n, c, deadline, lineup⟩ => ⟨n, c, deadline, level.lineup lineup⟩
  case idle =>
    refine h.idle.updated h.formed.distinct found fun ended => ?_
    cases running.symm.trans ended
  case hall =>
    intro k hk
    obtain ⟨id', m', rest⟩ := h.hall k (List.mem_of_mem_erase hk)
    exact ⟨id', m', level.spawned.symm ▸ rest⟩
  case queued =>
    intro k e he
    rw [errands] at he
    split at he
    · next hk =>
      subst hk
      rcases List.mem_append.1 he with he | he
      · exact h.queued k e he
      · rw [List.mem_singleton.1 he]
        exact ⟨call, command⟩
    · exact h.queued k e he
  case answers => exact h.answers
  case once =>
    intro k c hc
    have before := h.once k c hc
    have outside := count_hall waits k
    show w.answered.count k + (w.hall.erase ticket).count k +
      (((w.manager.update id s).errands c.shard).map (·.1)).count k = 1
    rw [errands]
    by_cases hi : c.shard = id
    · rw [if_pos hi, List.map_append, List.count_append]
      rw [hi, queue] at before
      show _ + (_ + [ticket].count k) = 1
      omega
    · -- the caller has called another shard
      have other : k ≠ ticket := by
        rintro rfl
        cases Option.some.inj (call.symm.trans hc)
        exact hi rfl
      have elsewhere : [ticket].count k = 0 := List.count_eq_zero.2 (by simpa using other)
      rw [if_neg hi]
      rw [queue] at before
      omega
  case frames => exact h.frames
  case order =>
    intro k
    have before := h.order k
    simp only [queue, errands, arrivals, List.filterMap_append, List.filterMap_cons, List.filterMap_nil] at before ⊢
    by_cases hk : k = id
    · subst hk
      simp only [if_true, List.map_append, ← List.append_assoc]
      exact before.append (List.Sublist.refl _)
    · rw [if_neg hk, if_neg (Ne.symm hk), List.append_nil]
      exact before

/-- A shard that has ended refuses whoever comes in. -/
theorem Ledger.tooLate (h : Ledger w) {ticket : Nat} {id : UInt32} {m : Message} (waits : ticket ∈ w.hall)
    (call : w.calls[ticket]? = some ⟨id, m, true⟩) (command : m.op.isCommand = true) :
    Ledger { w with
      hall := w.hall.erase ticket
      acts := w.acts ++ [.shard id (.answer ticket (some (.shardNotReady id)))] } := by
  have told : (w.acts ++ [Act.shard id (.answer ticket (some (.shardNotReady id)))]).filterMap Act.reply? =
      w.replies ++ [(ticket, some (.shardNotReady id))] := List.filterMap_append
  have unsent (k : UInt32) :
      (w.acts ++ [Act.shard id (.answer ticket (some (.shardNotReady id)))]).filterMap (Act.commandOf? k) = w.frames k := by
    simp [Switchboard.frames, Act.commandOf?, Shard.Act.command?]
  have unaccepted (k : UInt32) :
      (w.acts ++ [Act.shard id (.answer ticket (some (.shardNotReady id)))]).filterMap (Act.acceptedBy? k) =
        w.accepted k := by
    simp [Switchboard.accepted, Act.acceptedBy?, Shard.Act.accepted?]
  constructor
  case formed => exact h.formed
  case idle => exact h.idle
  case hall => exact fun k hk => h.hall k (List.mem_of_mem_erase hk)
  case queued => exact h.queued
  case answers =>
    intro r hr
    rw [replies, told] at hr
    rcases List.mem_append.1 hr with hr | hr
    · exact h.answers r hr
    · rw [List.mem_singleton.1 hr]
      exact ⟨_, call, by simp [Call.Allows, command]⟩
  case once =>
    intro k c hc
    have before : (w.replies.map (·.1)).count k + w.hall.count k + (w.queue c.shard).count k = 1 := h.once k c hc
    have outside := count_hall waits k
    rw [answered, replies, told, List.map_append, List.count_append]
    show (_ + [ticket].count k) + (w.hall.erase ticket).count k + (w.queue c.shard).count k = 1
    omega
  case frames => exact fun k => (congrArg _ (unsent k)).trans ((h.frames k).trans (congrArg _ (unaccepted k).symm))
  case order => exact fun k => (congrArg (· ++ w.queue k) (unaccepted k)) ▸ h.order k

/-! ## Runs -/

/-- Every move leaves the books in order. -/
theorem step_ledger (h : Ledger w) (now : Nat) (v : Move) : Ledger (w.step now v) := by
  have enacted (t : Manager.Turn) : w.enact t = { w with manager := t.manager, acts := w.acts ++ t.acts } := rfl
  cases v with
  | happen x =>
    cases hx : x.isSubmit with
    | true => simpa [step, turn, hx, entrant?] using h
    | false => simpa [step, turn, hx, entrant?, enacted] using h.happen now hx
  | call id m =>
    cases command : m.op.isCommand with
    | false =>
      have eq := Manager.submit_invalid command id w.calls.length now w.manager
      have books := h.called ⟨id, m, (w.manager.shard? id).isSome⟩ [.answer w.calls.length (.invalidCommand m.op)]
        [] (fun _ => ⟨rfl, rfl⟩) (.inl ⟨rfl, _, rfl, by simp [Call.Allows, command]⟩)
      simpa [step, turn, meets, command, eq, entrant?] using books
    | true =>
      cases known : w.manager.shard? id with
      | none =>
        have eq := Manager.submit_unknown command known w.calls.length now
        have books := h.called ⟨id, m, false⟩ [.answer w.calls.length (.unknownShard id)] []
          (fun _ => ⟨rfl, rfl⟩) (.inl ⟨rfl, _, rfl, by simp [Call.Allows, command]⟩)
        simpa [step, turn, meets, known, eq, entrant?] using books
      | some s =>
        cases ready : s.status.isReady with
        | false =>
          have eq := Manager.submit_turnedAway h.formed.distinct command known ready w.calls.length now
          have books := h.called ⟨id, m, true⟩
            [.shard id (.answer w.calls.length (some (.shardNotReady id)))] []
            (fun k => by simp [Act.commandOf?, Act.acceptedBy?, Shard.Act.command?, Shard.Act.accepted?])
            (.inl ⟨rfl, _, rfl, by simp [Call.Allows, command]⟩)
          simpa [step, turn, meets, known, ready, eq, entrant?] using books
        | true =>
          obtain ⟨t, found, -⟩ := Manager.shard?_some h.formed.distinct known
          have there : id ∈ w.manager.spawned := by
            obtain ⟨mem, own⟩ := Manager.task?_mem found
            exact own ▸ List.mem_map_of_mem mem
          have books := h.called ⟨id, m, true⟩ [] [w.calls.length] (fun _ => ⟨rfl, rfl⟩)
            (.inr ⟨rfl, rfl, rfl, command, there⟩)
          simpa [step, turn, meets, known, ready, command, entrant?] using books
  | enter ticket =>
    by_cases waits : ticket ∈ w.hall
    · obtain ⟨id, m, call, command, there⟩ := h.hall ticket waits
      obtain ⟨t, found⟩ := Manager.task?_of_spawned there
      have own := (Manager.task?_mem found).2
      cases ended : t.shard.isEnded with
      | false =>
        have last : (t.shard.mailbox ++ [Shard.Command.send ticket m]).filterMap Shard.Command.errand? =
            t.shard.errands ++ [(ticket, m)] := List.filterMap_append
        have books := h.enters (s := { t.shard with mailbox := t.shard.mailbox ++ [.send ticket m] }) waits call command
          found own ended last
        simpa [step, turn, call, waits, Manager.letIn, found, Shard.letIn_running ended, Shard.Turn.still, entrant?,
          Manager.hasEnded, ended] using books
      | true =>
        have books := h.tooLate waits call command
        simpa [step, turn, call, waits, Manager.letIn, found, Shard.letIn_ended ended, Shard.act, own, entrant?,
          Manager.hasEnded, ended, Manager.update_self h.formed.distinct found] using books
    · have out : w.step now (.enter ticket) = w := by
        cases hc : w.calls[ticket]? <;> simp [step, turn, entrant?, hc, waits, List.erase_of_not_mem]
      rw [out]
      exact h

theorem opening_ledger (m : Manager) : Ledger (opening m) where
  formed := .inl ⟨rfl, rfl, rfl⟩
  idle := by simp [opening, Manager.Idle]
  hall := by simp [opening]
  queued := by simp [opening, Manager.errands, Manager.task?]
  answers := by simp [opening, replies]
  once := by simp [opening]
  frames := by simp [opening, frames, accepted]
  order := by simp [opening, accepted, queue, Manager.errands, Manager.task?]

theorem run_ledger (h : Ledger w) (moves : List (Nat × Move)) : Ledger (w.run moves) :=
  List.foldlRecOn moves _ (motive := Ledger) h fun _ h v _ => step_ledger h v.1 v.2

/-- Nobody who was refused has a message on any connection, then or later. -/
theorem Ledger.unsent (h : Ledger w) {ticket : Nat} {fault : Fault} (refused : (ticket, some fault) ∈ w.replies)
    (id : UInt32) : ticket ∉ w.accepted id := by
  intro accepted
  have told := told_of_accepted accepted
  obtain ⟨call, hc, -⟩ := h.answers _ told
  have once := h.once ticket call hc
  have twice : 2 ≤ w.answered.count ticket := by
    obtain ⟨pre, post, split⟩ := List.append_of_mem told
    have other : (ticket, some fault) ∈ pre ++ post := by
      rw [split] at refused
      simpa using refused
    have again : 0 < ((pre ++ post).map (·.1)).count ticket := List.count_pos_iff.2 (List.mem_map_of_mem other)
    rw [answered, split]
    simp only [List.map_append, List.count_append, List.map_cons, List.count_cons_self] at again ⊢
    omega
  omega

end Switchboard

namespace Manager

variable {m : Manager}

theorem shard?_none {id : UInt32} (h : id ∉ m.ids) : m.shard? id = none := by
  rw [shard?, Option.map_eq_none_iff, List.find?_eq_none]
  intro t ht both
  refine h (List.mem_mergeSort.2 (List.mem_map.2 ⟨t.shard, ?_, ?_⟩))
  · exact List.mem_map_of_mem (List.mem_filter.2 ⟨ht, (Bool.and_eq_true_iff.1 both).1⟩)
  · simpa using (Bool.and_eq_true_iff.1 both).2

/-- Whoever is asked to stop by force refuses what it has. -/
theorem takeLeave_refuses (now : Nat) (m : Manager) :
    ∀ r ∈ (takeLeave now m).acts.filterMap Act.reply?, r.2 ≠ none := by
  unfold takeLeave
  split
  · simp
  · next f rest _ =>
    split
    · split <;> simp [Act.reply?]
    · split
      · refine List.foldlRecOn f.shards _
          (motive := fun (t : Turn) => ∀ r ∈ t.acts.filterMap Act.reply?, r.2 ≠ none) (by simp) ?_
        intro t ht id _ r hr
        rw [Turn.next, List.filterMap_append] at hr
        rcases List.mem_append.1 hr with hr | hr
        · exact ht r hr
        · unfold stepShard at hr
          split at hr
          · cases hr
          · next task _ =>
            obtain ⟨gone, refuses⟩ := Shard.abort_declines task.shard
            rw [reply?_shard] at hr
            rw [Shard.step, refuses.replies] at hr
            obtain ⟨k, -, rfl⟩ := List.mem_map.1 hr
            simp
      · simp

end Manager

namespace Switchboard

open Manager (Act Task Deal)

variable {w : Switchboard}

/-- what the next move does to callers -/
structure Conduct (w : Switchboard) (now : Nat) (v : Move) : Prop where
  /-- a message that is no command is refused, and nothing else happens -/
  invalid : ∀ id m, v = .call id m → m.op ≠ .presenceUpdate → m.op ≠ .requestGuildMembers →
    w.step now v = { w with
      calls := w.calls ++ [⟨id, m, (w.manager.shard? id).isSome⟩]
      acts := w.acts ++ [.answer w.calls.length (.invalidCommand m.op)] }
  /-- a command for a shard that is not in the registry is refused, and nothing else happens -/
  unknown : ∀ id m, v = .call id m → m.op = .presenceUpdate ∨ m.op = .requestGuildMembers → id ∉ w.manager.ids →
    w.step now v = { w with
      calls := w.calls ++ [⟨id, m, false⟩]
      acts := w.acts ++ [.answer w.calls.length (.unknownShard id)] }
  /-- a caller is told that the message went out as it goes out, once, on a connection that is ready -/
  accepts : ∀ ticket, (ticket, none) ∈ (w.turn now v).acts.filterMap Act.reply? →
    ∃ id m t c queued, w.calls[ticket]? = some ⟨id, m, true⟩ ∧ w.manager.task? id = some t ∧
      t.shard.phase = .online c queued ∧ c.status = .ready ∧ c.writable = true ∧
      (w.turn now v).acts = [.shard id (.write m), .shard id (.answer ticket none)]
  /-- a shard that ends refuses the messages in its mailbox -/
  drains : ∀ id, w.manager.hasEnded id = false → (w.step now v).manager.hasEnded id = true → ∀ ticket ∈ w.queue id,
    (ticket, some (.shardNotReady id)) ∈ (w.turn now v).acts.filterMap Act.reply?

/-- A caller is told that the message went out only when its shard sends it. -/
theorem Ledger.turn_accepts (h : Ledger w) {now : Nat} {v : Move} {ticket : Nat}
    (told : (ticket, none) ∈ (w.turn now v).acts.filterMap Act.reply?) :
    ∃ id m t u, w.manager.task? id = some t ∧ Shard.Carries t.shard ticket m u ∧
      w.turn now v = ⟨w.manager.update id u.shard, u.acts.map (.shard id)⟩ := by
  cases v with
  | call id m =>
    simp only [turn, meets] at told
    cases command : m.op.isCommand with
    | false => simp [command, Manager.submit_invalid command, Act.reply?] at told
    | true =>
      cases known : w.manager.shard? id with
      | none => simp [known, Manager.submit_unknown command known, Act.reply?] at told
      | some s =>
        cases ready : s.status.isReady with
        | true => simp [known, command, ready] at told
        | false =>
          have eq := Manager.submit_turnedAway h.formed.distinct command known ready w.calls.length now
          simp [known, ready, eq, Act.reply?, Shard.Act.reply?] at told
  | enter k =>
    simp only [turn] at told
    split at told
    · split at told
      · unfold Manager.letIn at told
        split at told
        · cases told
        · next t _ =>
          cases ended : t.shard.isEnded with
          | true => simp [Shard.letIn_ended ended, Shard.act, Act.reply?, Shard.Act.reply?] at told
          | false => simp [Shard.letIn_running ended, Shard.Turn.still] at told
      · cases told
    · cases told
  | happen x =>
    simp only [turn] at told ⊢
    split at told
    · cases told
    · next hx =>
      simp only [hx, Bool.false_eq_true, if_false]
      replace hx : x.isSubmit = false := by simpa using hx
      have nobody := Manager.step_answers now hx w.manager
      have ho := Manager.step_outcome now x w.manager
      generalize w.manager.step now x = t at ho told nobody ⊢
      cases ho with
      | rests bot replies =>
        obtain ⟨a, ha, hr⟩ := List.mem_filterMap.1 told
        have := replies a ha
        cases a <;> first | cases hr | cases this
      | starts | closes => cases told
      | spawns => rw [Manager.launch_eq] at told; cases told
      | ends | strays => simp [Act.reply?] at told
      | @steps _ id y task brings found =>
        have hy : y.isSubmit = false := by
          cases brings with
          | shard => exact hx
          | submit => cases hx
        rw [Manager.reply?_shard] at told
        rcases Shard.step_errands now hy task.shard with ⟨gone, refuses⟩ | ⟨who, m, carries⟩
        · rw [refuses.replies] at told
          obtain ⟨k, -, eq⟩ := List.mem_map.1 told
          cases eq
        · have same : who = ticket := by simpa [carries.acts, Shard.Act.reply?] using told
          exact ⟨id, m, task, _, found, same ▸ carries, rfl⟩
      | leaves => cases told
      | parts => exact absurd rfl (Manager.takeLeave_refuses now w.manager _ told)

theorem mem_hall_step {now ticket : Nat} {v : Move} (h : ticket ∈ (w.step now v).hall) :
    ticket ∈ w.hall ∨ ticket = w.calls.length := by
  cases v with
  | call id m =>
    simp only [step] at h
    split at h
    · simpa using h
    · exact .inl h
  | enter k => exact .inl (List.mem_of_mem_erase h)
  | happen x => exact .inl h

theorem calls_step (now : Nat) (v : Move) (w : Switchboard) : w.calls <+: (w.step now v).calls := by
  cases v with
  | call id m => exact List.prefix_append w.calls _
  | enter | happen => exact List.prefix_refl w.calls

/-- A shard that ends refuses the messages in its mailbox. -/
theorem Ledger.drained (h : Ledger w) {now : Nat} {v : Move} {id : UInt32}
    (after : (w.step now v).manager.hasEnded id = true) {ticket : Nat} (waits : ticket ∈ w.queue id) :
    (ticket, some (.shardNotReady id)) ∈ (w.turn now v).acts.filterMap Act.reply? := by
  have later := step_ledger h now v
  obtain ⟨k, hk, rfl⟩ := List.mem_map.1 waits
  obtain ⟨call, command⟩ := h.queued id k hk
  have lt := (List.getElem?_eq_some_iff.1 call).1
  have call' : (w.step now v).calls[k.1]? = some ⟨id, k.2, true⟩ := by
    obtain ⟨new, eq⟩ := calls_step now v w
    rw [← eq, List.getElem?_append_left lt, call]
  -- it was in the mailbox and nowhere else, and the mailbox is empty now
  have before := h.once k.1 _ call
  have places := later.once k.1 _ call'
  have queued : 0 < (w.queue id).count k.1 := List.count_pos_iff.2 waits
  have empty : (w.step now v).queue id = [] := by rw [queue, later.idle.errands after]; rfl
  have inside : (w.step now v).hall.count k.1 = 0 := by
    refine List.count_eq_zero.2 fun hm => ?_
    rcases mem_hall_step hm with old | new
    · have : 0 < w.hall.count k.1 := List.count_pos_iff.2 old
      simp only at before
      omega
    · omega
  simp only at before places
  rw [empty, inside, List.count_nil] at places
  have untold : w.answered.count k.1 = 0 := by omega
  have told : k.1 ∈ (w.step now v).answered := List.count_pos_iff.1 (by omega)
  have split : (w.step now v).replies = w.replies ++ (w.turn now v).acts.filterMap Act.reply? := List.filterMap_append
  rw [answered, split, List.map_append] at told
  rcases List.mem_append.1 told with old | new
  · exact absurd (List.count_pos_iff.2 old) (by rw [answered] at untold; omega)
  · obtain ⟨⟨ticket, fault⟩, hr, same⟩ := List.mem_map.1 new
    simp only at same
    subst same
    obtain ⟨c, hc, allows⟩ := later.answers _ (split ▸ List.mem_append_right _ hr)
    cases Option.some.inj (call'.symm.trans hc)
    simp only [Call.Allows, command, if_true] at allows
    rcases allows with rfl | rfl
    · -- a message that goes out leaves its shard running
      obtain ⟨id', m, t, u, found, carries, eq⟩ := h.turn_accepts hr
      have first : (k.1, m) ∈ w.manager.errands id' := by
        rw [Manager.errands_of_task found, carries.errands]
        exact List.mem_cons_self
      cases Option.some.inj (call.symm.trans (h.queued id' _ first).1)
      have running : (w.turn now v).manager.hasEnded id = false := by
        rw [eq, Manager.hasEnded, Manager.task?_update found (carries.id.trans (Manager.task?_mem found).2), if_pos rfl]
        exact carries.running
      cases running.symm.trans after
    · exact hr

theorem Ledger.conduct (h : Ledger w) (now : Nat) (v : Move) : Conduct w now v where
  invalid := by
    rintro id m rfl presence members
    have invalid : m.op.isCommand = false := by cases ho : m.op <;> simp_all [OpCode.isCommand]
    simp [step, turn, meets, invalid, Manager.submit_invalid invalid, entrant?]
  unknown := by
    rintro id m rfl op unlisted
    have command : m.op.isCommand = true := by rcases op with op | op <;> rw [op] <;> rfl
    have unknown := Manager.shard?_none unlisted
    simp [step, turn, meets, unknown, Manager.submit_unknown command unknown, entrant?]
  accepts := by
    intro ticket told
    obtain ⟨id, m, t, u, found, carries, eq⟩ := h.turn_accepts told
    obtain ⟨c, queued, online, ready, writable⟩ := carries.online
    have first : (ticket, m) ∈ w.manager.errands id := by
      rw [Manager.errands_of_task found, carries.errands]
      exact List.mem_cons_self
    exact ⟨id, m, t, c, queued, (h.queued id _ first).1, found, online, ready, writable, by rw [eq, carries.acts]; rfl⟩
  drains := fun id _ after ticket waits => h.drained after waits

/-- Whatever callers do, and whatever happens to the manager and its shards meanwhile: every caller is answered once, and
told what became of the message. -/
theorem commands_answered_once (m : Manager) (moves : List (Nat × Move)) :
    Ledger ((opening m).run moves) ∧
      (∀ ticket fault, (ticket, some fault) ∈ ((opening m).run moves).replies →
        ∀ id, ticket ∉ ((opening m).run moves).accepted id) ∧
      ∀ now v, Conduct ((opening m).run moves) now v := by
  have books := run_ledger (opening_ledger m) moves
  exact ⟨books, fun ticket fault refused id => books.unsent refused id, fun now v => books.conduct now v⟩

/-- A caller who meets a ready shard and is let in at once does what `Manager.submit` says. -/
theorem turn_call_enter (h : Ledger w) {id : UInt32} {m : Message} (met : w.meets id m = true) (now later : Nat) :
    w.turn now (.call id m) = ⟨w.manager, []⟩ ∧
      (w.step now (.call id m)).turn later (.enter w.calls.length) = w.manager.submit id w.calls.length m now := by
  have idle : w.turn now (.call id m) = ⟨w.manager, []⟩ := by rw [turn, if_pos met]
  obtain ⟨command, ready⟩ := Bool.and_eq_true_iff.1 met
  cases known : w.manager.shard? id with
  | none => simp [known] at ready
  | some s =>
    have eq := Manager.submit_letsIn h.formed.distinct command known (by simpa [known] using ready) w.calls.length now
    exact ⟨idle, by simp [turn, step, met, eq]⟩

end Switchboard

end Shardwire
