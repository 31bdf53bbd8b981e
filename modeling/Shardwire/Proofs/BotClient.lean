import Shardwire.BotClient

/-
When the client of the bot endpoint asks.

`Usage` is a client with a clock and what came of its calls so far. Which answer is stored is read from these entries
alone (`Stored`): the last one that the endpoint gave, unless the client was told to forget it since. What the client
keeps is the stored answer, in every usage (`run_keeps`); from there it follows when `fetch` asks, what it answers
without asking, and what becomes of the stored answer when the endpoint answers or fails (`cache_of_usage`). An answer
lives from when it came, so the time an exchange takes counts.
-/

namespace Shardwire.BotClient

/-! ## Answers and requests -/

/-- the answer of the endpoint succeeds, and gives this information -/
def Provides (info : BotInfo) : HttpAnswer → Prop
  | .unreachable => False
  | .response status body => (status < 400 ∨ 600 ≤ status) ∧ Json.decodeText BotInfo.decoder body = .ok info

theorem read_eq_ok {answer : HttpAnswer} {info : BotInfo} : read answer = .ok info ↔ Provides info answer := by
  cases answer with
  | unreachable => simp [read, Provides]
  | response status body =>
    have accepted : (status < 400 ∨ 600 ≤ status) ↔ ¬ (400 ≤ status ∧ status < 600) := by omega
    rw [Provides, accepted, read]
    split
    · next refused => simp [refused]
    · next accepted => cases Json.decodeText BotInfo.decoder body <;> simp [accepted]

/-- `fetch`, where the answer takes a while if the endpoint is asked -/
def fetchOver (c : BotClient) (answer : HttpAnswer) (wait now : Nat) : Fetched :=
  match c.cached now with
  | some info => ⟨.ok info, false, c⟩
  | none => c.fetchFresh answer (now + wait)

theorem fetchOver_zero (c : BotClient) (answer : HttpAnswer) (now : Nat) :
    c.fetchOver answer 0 now = c.fetch answer now := rfl

section Requests

variable {c : BotClient} {answer : HttpAnswer} {info : BotInfo} {wait now : Nat}

/-- when an answer that came at that time goes stale -/
def expiry (info : BotInfo) (came : Nat) : Nat := came + info.limit.resetAfter.toNat

theorem fetchFresh_provided (provided : Provides info answer) :
    c.fetchFresh answer now = ⟨.ok info, true, { c with kept := some ⟨info, expiry info now⟩ }⟩ := by
  simp only [fetchFresh, read_eq_ok.2 provided, expiry]

theorem fetchFresh_unprovided (unprovided : ∀ info, ¬ Provides info answer) :
    ∃ f, c.fetchFresh answer now = ⟨.error f, true, c⟩ := by
  cases heard : read answer with
  | ok info => exact absurd (read_eq_ok.1 heard) (unprovided info)
  | error f => exact ⟨f, by simp only [fetchFresh, heard]⟩

theorem requested_fetchFresh : (c.fetchFresh answer now).requested = true := by
  unfold fetchFresh
  cases read answer <;> rfl

theorem cached_eq_some : c.cached now = some info ↔ ∃ k, c.kept = some k ∧ now < k.expiresAt ∧ k.info = info := by
  unfold cached
  cases c.kept with
  | none => simp
  | some k => by_cases live : now < k.expiresAt <;> simp [live]

theorem fetchOver_cached (h : c.cached now = some info) : c.fetchOver answer wait now = ⟨.ok info, false, c⟩ := by
  simp only [fetchOver, h]

theorem fetchOver_stale (h : c.cached now = none) :
    c.fetchOver answer wait now = c.fetchFresh answer (now + wait) := by
  simp only [fetchOver, h]

theorem requested_fetchOver : (c.fetchOver answer wait now).requested = true ↔ c.cached now = none := by
  cases h : c.cached now with
  | some info => simp [fetchOver_cached h]
  | none => simp [fetchOver_stale h, requested_fetchFresh]

end Requests

/-! ## A client in use -/

/-- a call, with what the endpoint answers if it is asked and how long that takes; or time passes -/
inductive Call where
  | fetch (answer : HttpAnswer) (wait : Nat)
  | fetchFresh (answer : HttpAnswer) (wait : Nat)
  | invalidate
  | advance (ms : Nat)

/-- what came of a call -/
inductive Entry where
  /-- the endpoint was asked, with this result at that time -/
  | asked (now : Nat) (result : Except Fault BotInfo)
  | served (result : Except Fault BotInfo)
  | forgot

/-- a client with its clock and what came of its calls, the last one at the end -/
structure Usage where
  client : BotClient
  now : Nat
  entries : List Entry

namespace Usage

def opening (base token : String) (now : Nat) : Usage := ⟨.new base token, now, []⟩

/-- puts down the result of a call -/
def enter (u : Usage) (f : Fetched) (wait : Nat) : Usage :=
  if f.requested then ⟨f.client, u.now + wait, u.entries ++ [.asked (u.now + wait) f.result]⟩
  else { u with client := f.client, entries := u.entries ++ [.served f.result] }

def step (u : Usage) : Call → Usage
  | .fetch answer wait => u.enter (u.client.fetchOver answer wait u.now) wait
  | .fetchFresh answer wait => u.enter (u.client.fetchFresh answer (u.now + wait)) wait
  | .invalidate => { u with client := u.client.invalidate, entries := u.entries ++ [.forgot] }
  | .advance ms => { u with now := u.now + ms }

def run (u : Usage) (calls : List Call) : Usage := calls.foldl step u

end Usage

/-! ## The stored answer -/

/-- whether the stored answer stays what it is -/
def Entry.spares : Entry → Bool
  | .asked _ (.ok _) => false
  | .asked _ (.error _) => true
  | .served _ => true
  | .forgot => false

/-- the answer of the endpoint that came at that time is stored: no other has replaced it, and none was forgotten -/
def Stored (entries : List Entry) (info : BotInfo) (came : Nat) : Prop :=
  ∃ before after, entries = before ++ .asked came (.ok info) :: after ∧ ∀ e ∈ after, e.spares = true

section Stored

variable {entries : List Entry} {e : Entry} {info : BotInfo} {came : Nat}

theorem not_stored_nil : ¬ Stored [] info came := by
  rintro ⟨before, after, split, -⟩
  simp at split

theorem stored_snoc :
    Stored (entries ++ [e]) info came ↔ e = .asked came (.ok info) ∨ e.spares = true ∧ Stored entries info came := by
  constructor
  · rintro ⟨before, after, split, spared⟩
    rcases List.eq_nil_or_concat after with rfl | ⟨after, x, rfl⟩
    · obtain ⟨-, last⟩ := List.append_inj' split rfl
      exact .inl (List.cons.inj last).1
    · rw [List.concat_eq_append, ← List.cons_append, ← List.append_assoc] at split
      obtain ⟨rfl, last⟩ := List.append_inj' split rfl
      obtain ⟨rfl, -⟩ := List.cons.inj last
      exact .inr ⟨spared e (by simp), before, after, rfl, fun y mem => spared y (by simp [mem])⟩
  · rintro (rfl | ⟨spares, before, after, rfl, spared⟩)
    · exact ⟨entries, [], rfl, by simp⟩
    · refine ⟨before, after ++ [e], by simp, fun y mem => ?_⟩
      rcases List.mem_append.1 mem with mem | last
      · exact spared y mem
      · rwa [List.mem_singleton.1 last]

theorem stored_answered {now : Nat} {answered : BotInfo} :
    Stored (entries ++ [.asked now (.ok answered)]) info came ↔ info = answered ∧ came = now := by
  simp [stored_snoc, Entry.spares, eq_comm, and_comm]

theorem stored_spared (spares : e.spares = true) : Stored (entries ++ [e]) info came ↔ Stored entries info came := by
  rw [stored_snoc]
  constructor
  · rintro (rfl | ⟨-, stored⟩)
    · cases spares
    · exact stored
  · exact fun stored => .inr ⟨spares, stored⟩

theorem not_stored_forgot : ¬ Stored (entries ++ [.forgot]) info came := by
  simp [stored_snoc, Entry.spares]

end Stored

/-! ## What the client keeps -/

namespace Usage

/-- the client keeps the stored answer -/
def Keeps (u : Usage) : Prop :=
  ∀ k, u.client.kept = some k ↔ ∃ came, Stored u.entries k.info came ∧ k.expiresAt = expiry k.info came

variable {u : Usage}

theorem opening_keeps (base token : String) (now : Nat) : (opening base token now).Keeps := by
  intro k
  simp [opening, BotClient.new, not_stored_nil]

/-- A request keeps up, whether it succeeds or fails. -/
theorem enter_fresh_keeps (h : u.Keeps) (answer : HttpAnswer) (wait : Nat) :
    (u.enter (u.client.fetchFresh answer (u.now + wait)) wait).Keeps := by
  by_cases provided : ∃ info, Provides info answer
  · obtain ⟨info, provided⟩ := provided
    rw [fetchFresh_provided provided]
    intro k
    simp only [enter, if_true, stored_answered, Option.some.injEq]
    constructor
    · rintro rfl
      exact ⟨u.now + wait, ⟨rfl, rfl⟩, rfl⟩
    · rintro ⟨_, ⟨rfl, rfl⟩, expires⟩
      rw [← expires]
  · obtain ⟨f, fails⟩ := fetchFresh_unprovided (not_exists.1 provided)
    rw [fails]
    intro k
    simp only [enter, if_true, stored_spared (e := .asked (u.now + wait) (.error f)) rfl]
    exact h k

theorem step_keeps (h : u.Keeps) (x : Call) : (u.step x).Keeps := by
  cases x with
  | fetch answer wait =>
    cases cached : u.client.cached u.now with
    | some info =>
      rw [step, fetchOver_cached cached]
      intro k
      simp only [enter, Bool.false_eq_true, if_false, stored_spared (e := .served (.ok info)) rfl]
      exact h k
    | none =>
      rw [step, fetchOver_stale cached]
      exact enter_fresh_keeps h answer wait
  | fetchFresh answer wait => exact enter_fresh_keeps h answer wait
  | invalidate =>
    intro k
    simp [step, invalidate, not_stored_forgot]
  | advance ms => exact h

theorem run_keeps (h : u.Keeps) (calls : List Call) : (u.run calls).Keeps := by
  induction calls generalizing u with
  | nil => exact h
  | cons x calls ih => exact ih (step_keeps h x)

theorem Keeps.cached_eq_some (h : u.Keeps) {now : Nat} {info : BotInfo} :
    u.client.cached now = some info ↔ ∃ came, Stored u.entries info came ∧ now < expiry info came := by
  rw [BotClient.cached_eq_some]
  constructor
  · rintro ⟨k, kept, live, rfl⟩
    obtain ⟨came, stored, expires⟩ := (h k).1 kept
    exact ⟨came, stored, expires ▸ live⟩
  · rintro ⟨came, stored, live⟩
    exact ⟨⟨info, expiry info came⟩, (h _).2 ⟨came, stored, rfl⟩, live, rfl⟩

/-! ## Main result -/

/-- However a client was used, `fetch` asks the endpoint, which may take a while to answer, exactly if no stored answer
is younger than the time it gives itself; otherwise it gives the stored answer and changes nothing. `fetchFresh` always
asks. If the endpoint provides an answer, that is the result, it takes the place of the stored one, and it lives its own
time from when it came; if not, the result is an error, and the client keeps what it kept, stale or not. -/
theorem cache_of_usage (base token : String) (start : Nat) (calls : List Call) (answer : HttpAnswer) (wait : Nat) :
    let u := (opening base token start).run calls
    let fetched := u.client.fetchOver answer wait u.now
    let fresh := u.client.fetchFresh answer (u.now + wait)
    u.client.fetch answer u.now = u.client.fetchOver answer 0 u.now ∧
    (fetched.requested = true ↔ ¬ ∃ info came, Stored u.entries info came ∧ u.now < expiry info came) ∧
    (fetched.requested = false →
      fetched.client = u.client ∧ ∃ info came, Stored u.entries info came ∧ fetched.result = .ok info) ∧
    (fetched.requested = true → fetched = fresh) ∧
    fresh.requested = true ∧
    (∀ info, Provides info answer → fresh.result = .ok info ∧
      (∀ x came, Stored (u.step (.fetchFresh answer wait)).entries x came ↔ x = info ∧ came = u.now + wait) ∧
      ∀ now, fresh.client.cached now = if now < expiry info (u.now + wait) then some info else none) ∧
    ((∀ info, ¬ Provides info answer) → (∃ f, fresh.result = .error f) ∧ fresh.client = u.client) := by
  intro u fetched fresh
  have keeps : u.Keeps := run_keeps (opening_keeps base token start) calls
  refine ⟨(fetchOver_zero u.client answer u.now).symm, ?_, ?_, ?_, requested_fetchFresh, ?_, ?_⟩
  · rw [requested_fetchOver, Option.eq_none_iff_forall_ne_some, not_exists]
    exact forall_congr' fun info => not_congr keeps.cached_eq_some
  · intro unasked
    cases cached : u.client.cached u.now with
    | none => exact absurd (requested_fetchOver.2 cached) (Bool.eq_false_iff.1 unasked)
    | some info =>
      obtain ⟨came, stored, -⟩ := keeps.cached_eq_some.1 cached
      have served : fetched = ⟨.ok info, false, u.client⟩ := fetchOver_cached cached
      rw [served]
      exact ⟨rfl, info, came, stored, rfl⟩
  · exact fun asked => fetchOver_stale (requested_fetchOver.1 asked)
  · intro info provided
    have stores : fresh = ⟨.ok info, true, { u.client with kept := some ⟨info, expiry info (u.now + wait)⟩ }⟩ :=
      fetchFresh_provided provided
    rw [stores]
    refine ⟨rfl, fun x came => ?_, fun now => rfl⟩
    rw [step, fetchFresh_provided provided]
    exact stored_answered
  · intro unprovided
    obtain ⟨f, fails⟩ := fetchFresh_unprovided unprovided
    exact ⟨⟨f, congrArg Fetched.result fails⟩, congrArg Fetched.client fails⟩

/-- where the endpoint is -/
def home : String := "https://discord.com/api/v10"

def adviceText : String :=
  "\x7b\"url\":\"w\",\"shards\":1,\"session_start_limit\":" ++
    "\x7b\"total\":9,\"remaining\":8,\"reset_after\":1000,\"max_concurrency\":1\x7d\x7d"

def advice : BotInfo := ⟨"w", 1, ⟨9, 8, 1000, 1⟩⟩

theorem tokens_adviceText : Json.tokens adviceText =
    [.openObj, .text "url", .colon, .text "w", .comma, .text "shards", .colon, .number (.int 1), .comma,
      .text "session_start_limit", .colon, .openObj, .text "total", .colon, .number (.int 9), .comma,
      .text "remaining", .colon, .number (.int 8), .comma, .text "reset_after", .colon, .number (.int 1000), .comma,
      .text "max_concurrency", .colon, .number (.int 1), .closeObj, .closeObj] := by
  decide +kernel

theorem provides_advice : Provides advice (.response 200 adviceText) := by
  refine ⟨.inl (by decide), ?_⟩
  simp only [Json.decodeText, Json.Document.ofText, tokens_adviceText]
  rfl

/-- The answer takes 5 to come: it is served until 1005, when the endpoint is asked again, provides it or fails. -/
theorem cache_of_usage_advice :
    let u ms := (opening home "t" 0).run [.fetch (.response 200 adviceText) 5, .advance ms]
    let asked answer := (u 1000).client.fetchOver answer 3 (u 1000).now
    ((u 999).client.fetchOver .unreachable 3 (u 999).now).result = .ok advice ∧
      (asked (.response 200 adviceText)).result = .ok advice ∧
      (∃ f, (asked .unreachable).result = .error f) ∧ (asked .unreachable).client = (u 1000).client := by
  intro u asked
  have used ms : u ms = ⟨⟨home, "t", some ⟨advice, 1005⟩⟩, 5 + ms, [.asked 5 (.ok advice)]⟩ := by
    have first : (opening home "t" 0).client.cached (opening home "t" 0).now = none := rfl
    simp only [u, run, List.foldl_cons, List.foldl_nil, step, fetchOver_stale first,
      fetchFresh_provided provides_advice]
    rfl
  have stored ms : Stored (u ms).entries advice 5 := by
    rw [used]
    exact ⟨[], [], rfl, by simp⟩
  have only ms {x came} (h : Stored (u ms).entries x came) : x = advice ∧ came = 5 := by
    rw [used, ← List.nil_append [_]] at h
    exact stored_answered.1 h
  have rule ms answer := cache_of_usage home "t" 0 [.fetch (.response 200 adviceText) 5, .advance ms] answer 3
  have stale : ¬ ∃ info came, Stored (u 1000).entries info came ∧ (u 1000).now < expiry info came := by
    rintro ⟨info, came, h, live⟩
    obtain ⟨rfl, rfl⟩ := only 1000 h
    simp [used, expiry, advice] at live
  refine ⟨?_, ?_, ?_⟩
  · obtain ⟨-, asks, serves, -⟩ := rule 999 .unreachable
    have live : (u 999).now < expiry advice 5 := by simp [used, expiry, advice]
    have unasked := Bool.eq_false_iff.2 fun asked => asks.1 asked ⟨advice, 5, stored 999, live⟩
    obtain ⟨-, info, came, served, result⟩ := serves unasked
    rwa [(only 999 served).1] at result
  · obtain ⟨-, asks, -, fresh, -, provided, -⟩ := rule 1000 (.response 200 adviceText)
    exact (congrArg Fetched.result (fresh (asks.2 stale))).trans (provided advice provides_advice).1
  · obtain ⟨-, asks, -, fresh, -, -, fails⟩ := rule 1000 .unreachable
    have failed := fails nofun
    rwa [← fresh (asks.2 stale)] at failed

end Usage

end Shardwire.BotClient
