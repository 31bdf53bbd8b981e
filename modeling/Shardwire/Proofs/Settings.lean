import Shardwire.Proofs.Json.Values
import Shardwire.Settings

/-
What variables may be set to, and what becomes of a text that one may not be set to.

`Variable.Admits` names the texts of each variable: numbers of a range and words in capital or small letters, some of
them with blanks around. It does so by their numerals and letters, and knows nothing of how they are read.
- `ofLookup_decides`: the first variable at fault decides, in the order in which variables are checked, and the fault
  names it;
- `ofLookup_eq_ok`: accepted settings are what every single variable is read as.

`invalid_refused`: so what a variable may not be set to is refused, except for the environment, which is never checked.

A token is read by dropping the blanks at both ends first and the words in front second. So no blank is left at its
end and no word in front; but a blank behind the words is left (`Strays`), and the last word is none without its blank.
`token_read_again`: a token is read as itself exactly if no blank is left in front of it.
-/

namespace Shardwire

open Text (isBlank Bare Padded Numeral trimChars)

/-! ## Numbers and words in a variable -/

namespace Text

variable {s : String} {cs : List Char} {n least most : Nat}

theorem Bare.of_forall (h : ∀ c ∈ cs, isBlank c = false) : Bare cs :=
  ⟨fun c hc => h c (List.mem_of_head? hc), fun c hc => h c (List.mem_of_getLast? hc)⟩

theorem isBlank_digit {c : Char} (h : c.isDigit = true) : isBlank c = false := by
  rw [Char.isDigit, Bool.and_eq_true, decide_eq_true_iff, decide_eq_true_iff] at h
  have low : 48 ≤ c.toNat := UInt32.le_iff_toNat_le.1 h.1
  have high : c.toNat ≤ 57 := UInt32.le_iff_toNat_le.1 h.2
  simp only [isBlank, Bool.or_eq_false_iff, Bool.and_eq_false_iff, beq_eq_false_iff_ne, decide_eq_false_iff_not]
  omega

theorem Numeral.bare (h : Numeral n cs) : Bare cs := by
  apply Bare.of_forall
  rcases h with ⟨-, digits, -⟩ | ⟨ds, rfl, -, digits, -⟩
  · exact fun c hc => isBlank_digit (digits c hc)
  · exact List.forall_mem_cons.2 ⟨by decide, fun c hc => isBlank_digit (digits c hc)⟩

/-- a number of a range, with blanks around it or none -/
def IsNumber (least most : Nat) (s : String) : Prop :=
  ∃ n core, least ≤ n ∧ n ≤ most ∧ Numeral n core ∧ Padded core s.toList

/-- a word in capital or small letters -/
def Spells (word : String) (cs : List Char) : Prop := cs.map Char.toLower = word.toList

instance (word : String) (cs : List Char) : Decidable (Spells word cs) :=
  inferInstanceAs (Decidable (cs.map Char.toLower = word.toList))

theorem isNumber_iff : IsNumber least most s ↔ ∃ n, least ≤ n ∧ n ≤ most ∧ Numeral n (trim s).toList := by
  have trimmed : (trim s).toList = trimChars s.toList := String.toList_ofList
  rw [trimmed]
  constructor
  · rintro ⟨n, core, low, high, numeral, padded⟩
    exact ⟨n, low, high, by rwa [padded.trimChars_eq numeral.bare]⟩
  · rintro ⟨n, low, high, numeral⟩
    exact ⟨n, _, low, high, numeral, padded_trimChars _⟩

/-- A number of the range is one that is read as a word, whatever the width. -/
theorem isNumber_iff_read {α : Type} {read : String → Except IntegerFault α} {ofNat : Nat → α} {toNat : α → Nat}
    (reads : ∀ core w, read core = .ok w ↔ Numeral (toNat w) core.toList)
    (number : ∀ n ≤ most, toNat (ofNat n) = n) (within : ∀ w, toNat w ≤ most) :
    IsNumber least most s ↔ ∃ w, least ≤ toNat w ∧ read (trim s) = .ok w := by
  rw [isNumber_iff]
  constructor
  · rintro ⟨n, low, high, numeral⟩
    have value := number n high
    exact ⟨ofNat n, value.symm ▸ low, (reads _ _).2 (value.symm ▸ numeral)⟩
  · rintro ⟨w, low, read⟩
    exact ⟨toNat w, low, within w, (reads _ _).1 read⟩

theorem isNumber_iff_readUInt32 :
    IsNumber least (UInt32.size - 1) s ↔ ∃ w : UInt32, least ≤ w.toNat ∧ readUInt32 (trim s) = .ok w :=
  isNumber_iff_read (fun _ _ => readUInt32_eq_ok)
    (fun _ h => UInt32.toNat_ofNat_of_lt' (Nat.lt_of_le_sub_one (by decide) h))
    fun w => Nat.le_sub_one_of_lt w.toNat_lt_size

theorem isNumber_iff_readUInt64 :
    IsNumber least (UInt64.size - 1) s ↔ ∃ w : UInt64, least ≤ w.toNat ∧ readUInt64 (trim s) = .ok w :=
  isNumber_iff_read (fun _ _ => readUInt64_eq_ok)
    (fun _ h => UInt64.toNat_ofNat_of_lt' (Nat.lt_of_le_sub_one (by decide) h))
    fun w => Nat.le_sub_one_of_lt w.toNat_lt_size

/-- Small letters are letters. -/
theorem isBlank_toLower {c : Char} (blank : isBlank c = true) : c.toLower = c := by
  unfold Char.toLower
  split
  · next upper =>
    have low : 65 ≤ c.toNat := UInt32.le_iff_toNat_le.1 upper.1
    have high : c.toNat ≤ 90 := UInt32.le_iff_toNat_le.1 upper.2
    simp only [isBlank, Bool.or_eq_true, Bool.and_eq_true, beq_iff_eq, decide_eq_true_iff] at blank
    omega
  · rfl

theorem Spells.bare {word : String} (plain : word.toList.any isBlank = false) (h : Spells word cs) : Bare cs := by
  apply Bare.of_forall
  intro c hc
  apply Bool.eq_false_iff.2
  intro blank
  have same : c.toLower ∈ word.toList := h ▸ List.mem_map_of_mem hc
  rw [isBlank_toLower blank] at same
  exact List.any_eq_false.1 plain c same blank

end Text

/-! ## What a variable may be set to -/

open Text in
/-- the texts a variable may be set to -/
def Variable.Admits (raw : String) : Variable → Prop
  | .token => ∃ c ∈ raw.toList, isBlank c = false
  | .shardCount => (∃ core, Spells "auto" core ∧ Padded core raw.toList) ∨ IsNumber 1 (UInt32.size - 1) raw
  | .maxConcurrency => IsNumber 1 (UInt32.size - 1) raw
  | .largeThreshold | .reconnectAttempts => IsNumber 0 (UInt32.size - 1) raw
  | .intents | .reconnectBase | .reconnectMax | .startupTimeout | .identifyTimeout => IsNumber 0 (UInt64.size - 1) raw
  | .appEnv => ∃ e : Environment, Spells e.name raw.toList
  | .appName | .gatewayUrl | .apiBase => True

/-- the variables that are checked, in their order -/
def Variable.checked : List Variable :=
  [.token, .intents, .shardCount, .maxConcurrency, .largeThreshold, .reconnectBase, .reconnectMax, .reconnectAttempts,
   .startupTimeout, .identifyTimeout]

/-- the lookup with another text for a variable, or none -/
def Lookup.put (lookup : Lookup) (v : Variable) (text : Option String) : Lookup :=
  fun u => if u = v then text else lookup u

/-- a variable that is set is set to what it may be; the token has to be set -/
def Lookup.Sound (lookup : Lookup) (v : Variable) : Prop :=
  match lookup v with
  | none => v ≠ .token
  | some raw => v.Admits raw

namespace Settings

/-- the faults that name a variable -/
inductive Refuses : Variable → Fault → Prop where
  | missing : Refuses .token (.missing .token)
  | invalid (v : Variable) (cause : Cause) : v ≠ .token → Refuses v (.invalid v cause)

variable {lookup : Lookup} {α β : Type} {v : Variable} {vs : List Variable}

/-- the first of some variables that is not sound decides, and a fault names it -/
def Decides (lookup : Lookup) : List Variable → Except Fault α → Prop
  | [], r => ∃ a, r = .ok a
  | v :: vs, r => (lookup.Sound v → Decides lookup vs r) ∧ (¬ lookup.Sound v → ∃ f, r = .error f ∧ Refuses v f)

theorem Decides.bind {r : Except Fault α} {k : α → Except Fault β} (first : Decides lookup [v] r)
    (rest : ∀ a, Decides lookup vs (k a)) : Decides lookup (v :: vs) (r >>= k) := by
  constructor
  · intro sound
    obtain ⟨a, rfl⟩ := first.1 sound
    exact rest a
  · intro unsound
    obtain ⟨f, rfl, refuses⟩ := first.2 unsound
    exact ⟨f, rfl, refuses⟩

theorem Decides.ok {r : Except Fault α} (h : Decides lookup vs r) (sound : ∀ v ∈ vs, lookup.Sound v) :
    ∃ a, r = .ok a := by
  induction vs with
  | nil => exact h
  | cons v vs ih =>
    rw [List.forall_mem_cons] at sound
    exact ih (h.1 sound.1) sound.2

theorem Decides.error {r : Except Fault α} (h : Decides lookup vs r) (mem : v ∈ vs) (unsound : ¬ lookup.Sound v) :
    ∃ before u after f, vs = before ++ u :: after ∧ v ∈ u :: after ∧ (∀ w ∈ before, lookup.Sound w) ∧
      ¬ lookup.Sound u ∧ r = .error f ∧ Refuses u f := by
  induction vs with
  | nil => cases mem
  | cons w vs ih =>
    by_cases sound : lookup.Sound w
    · have later : v ∈ vs := by
        rcases List.mem_cons.1 mem with rfl | later
        · exact absurd sound unsound
        · exact later
      obtain ⟨before, u, after, f, rfl, place, sounds, first⟩ := ih (h.1 sound) later
      exact ⟨w :: before, u, after, f, rfl, place, List.forall_mem_cons.2 ⟨sound, sounds⟩, first⟩
    · obtain ⟨f, error, refuses⟩ := h.2 sound
      exact ⟨[], w, vs, f, rfl, mem, nofun, sound, error, refuses⟩

/-! ## Reading one variable -/

theorem decides_one {r : Except Fault α} (unset : lookup v = none → v ≠ .token ∧ ∃ a, r = .ok a)
    (set : ∀ raw, lookup v = some raw →
      (v.Admits raw → ∃ a, r = .ok a) ∧ (¬ v.Admits raw → ∃ f, r = .error f ∧ Refuses v f)) :
    Decides lookup [v] r := by
  unfold Decides Lookup.Sound
  cases h : lookup v with
  | none => exact ⟨fun _ => (unset h).2, fun absent => absurd (unset h).1 absent⟩
  | some raw => exact set raw h

theorem readNumber_decides {read : String → Except Text.IntegerFault α} (default : α) (other : v ≠ .token)
    (admits : ∀ raw, v.Admits raw ↔ ∃ a, read (Text.trim raw) = .ok a) :
    Decides lookup [v] (readNumber read lookup v default) := by
  refine decides_one (fun unset => ⟨other, default, by simp only [readNumber, unset]⟩) fun raw set => ?_
  rw [admits]
  simp only [readNumber, set]
  cases read (Text.trim raw) with
  | ok a => exact ⟨fun _ => ⟨a, rfl⟩, fun none => absurd ⟨a, rfl⟩ none⟩
  | error f => exact ⟨fun ⟨_, ok⟩ => (nomatch ok), fun _ => ⟨_, rfl, .invalid v _ other⟩⟩

theorem exists_map_ok {ε : Type} {x : Except ε α} (f : α → β) : (∃ b, x.map f = .ok b) ↔ ∃ a, x = .ok a := by
  cases x with
  | error e => exact ⟨fun ⟨_, h⟩ => (nomatch h), fun ⟨_, h⟩ => (nomatch h)⟩
  | ok a => exact ⟨fun _ => ⟨a, rfl⟩, fun _ => ⟨f a, rfl⟩⟩

theorem one_le_iff {w : UInt32} : 1 ≤ w.toNat ↔ w ≠ 0 := by
  rw [ne_eq, ← UInt32.toNat_inj, UInt32.toNat_zero]
  omega

theorem ofTrimmed?_eq_some {raw : String} :
    (∃ count, ShardCount.ofTrimmed? (Text.trim raw) = some count) ↔ Variable.Admits raw .shardCount := by
  have trimmed : (Text.trim raw).toList = trimChars raw.toList := String.toList_ofList
  have auto : (∃ core, Text.Spells "auto" core ∧ Padded core raw.toList) ↔
      (Text.trim raw).toList.map Char.toLower = "auto".toList := by
    rw [trimmed]
    constructor
    · rintro ⟨core, spells, padded⟩
      rwa [padded.trimChars_eq (spells.bare rfl)]
    · exact fun spells => ⟨_, spells, Text.padded_trimChars _⟩
  rw [Variable.Admits, auto, Text.isNumber_iff_readUInt32, ShardCount.ofTrimmed?]
  split
  · next spells => simp [spells]
  · next other =>
    simp only [other, false_or, one_le_iff]
    cases Text.readUInt32 (Text.trim raw) with
    | error f => simp
    | ok w => by_cases zero : w = 0 <;> simp [zero]

theorem readShardCount_decides : Decides lookup [.shardCount] (readShardCount lookup) := by
  refine decides_one (fun unset => ⟨nofun, .auto, by simp only [readShardCount, unset]⟩) fun raw set => ?_
  rw [← ofTrimmed?_eq_some]
  simp only [readShardCount, set]
  cases ShardCount.ofTrimmed? (Text.trim raw) with
  | some count => exact ⟨fun _ => ⟨count, rfl⟩, fun none => absurd ⟨count, rfl⟩ none⟩
  | none => exact ⟨fun ⟨_, h⟩ => (nomatch h), fun _ => ⟨_, rfl, .invalid _ _ nofun⟩⟩

theorem readMaxConcurrency_decides : Decides lookup [.maxConcurrency] (readMaxConcurrency lookup) := by
  refine decides_one (fun unset => ⟨nofun, 1, by simp [readMaxConcurrency, readNumber, unset, bind, Except.bind]⟩)
    fun raw set => ?_
  have admits : Variable.Admits raw .maxConcurrency ↔ ∃ w, w ≠ 0 ∧ Text.readUInt32 (Text.trim raw) = .ok w := by
    rw [Variable.Admits, Text.isNumber_iff_readUInt32]
    simp only [one_le_iff]
  rw [admits]
  simp only [readMaxConcurrency, readNumber, set]
  cases Text.readUInt32 (Text.trim raw) with
  | error f => exact ⟨fun ⟨_, _, h⟩ => (nomatch h), fun _ => ⟨_, rfl, .invalid _ _ nofun⟩⟩
  | ok w =>
    by_cases zero : w = 0
    · subst zero
      refine ⟨?_, fun _ => ⟨_, rfl, .invalid _ .zero nofun⟩⟩
      rintro ⟨_, positive, ⟨⟩⟩
      exact absurd rfl positive
    · refine ⟨fun _ => ⟨w, if_neg zero⟩, fun none => absurd ⟨w, zero, rfl⟩ none⟩

/-! ## Reading the token -/

/-- the word that may stand in front of a token -/
def word : List Char := "Bot ".toList

/-- words, any number of times -/
def words (k : Nat) : List Char := (List.replicate k word).flatten

section Token

variable {raw token : String}

theorem normalizeToken_eq_iff :
    normalizeToken raw = token ↔
      ∃ k, trimChars raw.toList = words k ++ token.toList ∧ ¬ word <+: token.toList := by
  have trimmed : (Text.trim raw).toList = trimChars raw.toList := String.toList_ofList
  rw [normalizeToken, Text.dropLeading_eq_iff (by decide), trimmed]
  rfl

/-- The last word ends in a blank. -/
theorem getLast?_words {k : Nat} (positive : 0 < k) : (words k).getLast? = some ' ' := by
  cases k with
  | zero => cases positive
  | succ k =>
    rw [words, List.replicate_succ', List.flatten_append, List.flatten_singleton, List.getLast?_append]
    rfl

/-- Nothing is left of blanks only: words alone would end in a blank, and the last blank has been dropped. -/
theorem normalizeToken_isEmpty : (normalizeToken raw).isEmpty = true ↔ ∀ c ∈ raw.toList, isBlank c = true := by
  rw [String.isEmpty_iff, normalizeToken_eq_iff, ← Text.trimChars_eq_nil]
  constructor
  · rintro ⟨k, whole, -⟩
    rw [String.toList_empty, List.append_nil] at whole
    cases k with
    | zero => exact whole
    | succ k =>
      have last : (trimChars raw.toList).getLast? = some ' ' := whole ▸ getLast?_words (Nat.succ_pos k)
      exact absurd ((Text.bare_trimChars _).back _ last) (by decide)
  · exact fun none => ⟨0, none, by decide⟩

theorem readToken_decides : Decides lookup [.token] (readToken lookup) := by
  unfold Decides Lookup.Sound readToken
  cases set : lookup .token with
  | none => exact ⟨fun sound => absurd rfl sound, fun _ => ⟨_, rfl, .missing⟩⟩
  | some raw =>
    have admits : Variable.Admits raw .token ↔ (normalizeToken raw).isEmpty = false := by
      rw [Variable.Admits, ← Bool.not_eq_true, normalizeToken_isEmpty]
      simp
    simp only [Option.map_some, admits]
    cases (normalizeToken raw).isEmpty with
    | false => exact ⟨fun _ => ⟨_, rfl⟩, fun none => absurd rfl none⟩
    | true => exact ⟨nofun, fun _ => ⟨_, rfl, .missing⟩⟩

end Token

/-! ## The first at fault decides -/

theorem ofLookup_decides (lookup : Lookup) : Decides lookup Variable.checked (ofLookup lookup) := by
  have short (raw : String) : Text.IsNumber 0 (UInt32.size - 1) raw ↔ ∃ w, Text.readUInt32 (Text.trim raw) = .ok w := by
    simp only [Text.isNumber_iff_readUInt32, Nat.zero_le, true_and]
  have long (raw : String) : Text.IsNumber 0 (UInt64.size - 1) raw ↔ ∃ w, Text.readUInt64 (Text.trim raw) = .ok w := by
    simp only [Text.isNumber_iff_readUInt64, Nat.zero_le, true_and]
  unfold ofLookup Variable.checked
  refine readToken_decides.bind fun token => ?_
  refine Decides.bind (readNumber_decides _ (by decide) fun raw => (long raw).trans (exists_map_ok _).symm)
    fun intents => ?_
  refine readShardCount_decides.bind fun shardCount => ?_
  refine readMaxConcurrency_decides.bind fun maxConcurrency => ?_
  refine Decides.bind (readNumber_decides _ (by decide) fun raw => (short raw).trans (exists_map_ok _).symm)
    fun threshold => ?_
  refine Decides.bind (readNumber_decides _ (by decide) long) fun base => ?_
  refine Decides.bind (readNumber_decides _ (by decide) long) fun max => ?_
  refine Decides.bind (readNumber_decides _ (by decide) short) fun attempts => ?_
  refine Decides.bind (readNumber_decides _ (by decide) long) fun startup => ?_
  refine Decides.bind (readNumber_decides _ (by decide) long) fun identify => ?_
  exact ⟨_, rfl⟩

/-! ## Accepted settings -/

/-- every variable is read as the setting it is for -/
structure Reads (lookup : Lookup) (s : Settings) : Prop where
  token : readToken lookup = .ok s.bot.token
  intents : readNumber (fun raw => (Text.readUInt64 raw).map Intents.ofBits) lookup .intents Intents.default =
    .ok s.bot.intents
  shardCount : readShardCount lookup = .ok s.bot.shardCount
  maxConcurrency : readMaxConcurrency lookup = .ok s.bot.maxConcurrency
  threshold : readNumber (fun raw => (Text.readUInt32 raw).map some) lookup .largeThreshold none = .ok s.bot.largeThreshold
  base : readNumber Text.readUInt64 lookup .reconnectBase Reconnect.default.base = .ok s.reconnect.base
  max : readNumber Text.readUInt64 lookup .reconnectMax Reconnect.default.max = .ok s.reconnect.max
  attempts : readNumber Text.readUInt32 lookup .reconnectAttempts Reconnect.default.attempts = .ok s.reconnect.attempts
  startup : readNumber Text.readUInt64 lookup .startupTimeout Timeouts.default.startup = .ok s.timeouts.startup
  identify : readNumber Text.readUInt64 lookup .identifyTimeout Timeouts.default.identify = .ok s.timeouts.identify
  name : (lookup .appName).getD App.defaultName = s.app.name
  environment : ((lookup .appEnv).bind Environment.ofText?).getD .development = s.app.environment
  gatewayUrl : (lookup .gatewayUrl).getD defaultGatewayUrl = s.bot.gatewayUrl
  apiBase : (lookup .apiBase).getD defaultApiBase = s.bot.apiBase

section Accepted

variable {s : Settings}

theorem ofLookup_eq_ok : ofLookup lookup = .ok s ↔ Reads lookup s := by
  constructor
  · intro h
    obtain ⟨token, token_read, h⟩ := Json.ok_of_bind h
    obtain ⟨intents, intents_read, h⟩ := Json.ok_of_bind h
    obtain ⟨shardCount, shardCount_read, h⟩ := Json.ok_of_bind h
    obtain ⟨maxConcurrency, maxConcurrency_read, h⟩ := Json.ok_of_bind h
    obtain ⟨threshold, threshold_read, h⟩ := Json.ok_of_bind h
    obtain ⟨base, base_read, h⟩ := Json.ok_of_bind h
    obtain ⟨max, max_read, h⟩ := Json.ok_of_bind h
    obtain ⟨attempts, attempts_read, h⟩ := Json.ok_of_bind h
    obtain ⟨startup, startup_read, h⟩ := Json.ok_of_bind h
    obtain ⟨identify, identify_read, h⟩ := Json.ok_of_bind h
    cases h
    exact ⟨token_read, intents_read, shardCount_read, maxConcurrency_read, threshold_read, base_read, max_read,
      attempts_read, startup_read, identify_read, rfl, rfl, rfl, rfl⟩
  · intro h
    simp only [ofLookup, bind, Except.bind, h.token, h.intents, h.shardCount, h.maxConcurrency, h.threshold, h.base,
      h.max, h.attempts, h.startup, h.identify, h.name, h.gatewayUrl, h.apiBase]
    show Except.ok (Settings.mk ⟨_, ((lookup .appEnv).bind Environment.ofText?).getD .development⟩ _ _ _) = .ok s
    rw [h.environment]

theorem ofText?_eq_some {raw : String} {e : Environment} :
    Environment.ofText? raw = some e ↔ Text.Spells e.name raw.toList := by
  have small : Text.Spells e.name raw.toList ↔ String.ofList (raw.toList.map Char.toLower) = e.name := by
    rw [Text.Spells, ← String.toList_inj, String.toList_ofList]
  rw [small, Environment.ofText?]
  constructor
  · intro h
    have named := List.find?_some (p := fun e : Environment => e.name == _) h
    exact (beq_iff_eq.1 named).symm
  · intro h
    rw [h]
    cases e <;> rfl

/-- Another token changes nothing but the token. -/
theorem ofLookup_put_token (h : Reads lookup s) (text : Option String) :
    ofLookup (lookup.put .token text) =
      (readToken (lookup.put .token text)).map fun token => { s with bot := { s.bot with token := token } } := by
  cases read : readToken (lookup.put .token text) with
  | error f => unfold ofLookup; rw [read]; rfl
  | ok token => exact ofLookup_eq_ok.2 { h with token := read }

/-- An environment that is not named might as well not be set. -/
theorem ofLookup_put_appEnv {raw : Option String}
    (same : raw.bind Environment.ofText? = (lookup .appEnv).bind Environment.ofText?) :
    ofLookup (lookup.put .appEnv raw) = ofLookup lookup := by
  have env : lookup.put .appEnv raw .appEnv = raw := rfl
  unfold ofLookup
  simp only [env, same]
  rfl

end Accepted

/-! ## Invalid settings -/

/-- Only the environment is not checked, among the variables that do not admit every text. -/
theorem mem_checked {raw : String} (outside : ¬ v.Admits raw) (other : v ≠ .appEnv) : v ∈ Variable.checked := by
  cases v with
  | appEnv => exact absurd rfl other
  | appName | gatewayUrl | apiBase => exact absurd trivial outside
  | _ => decide

theorem ofText?_eq_none {raw : String} (outside : ¬ Variable.Admits raw .appEnv) : Environment.ofText? raw = none := by
  cases named : Environment.ofText? raw with
  | none => rfl
  | some e => exact absurd ⟨e, ofText?_eq_some.1 named⟩ outside

/-- Of the variables set to what they may not be, the first one that is checked is refused, and all others go
unnoticed; an environment is never refused, and one that names none stands for development, as if it were not set.
Settings are accepted exactly if every variable that is checked is sound. -/
theorem invalid_refused (lookup : Lookup) :
    (∀ v raw, lookup v = some raw → ¬ v.Admits raw → v ≠ .appEnv →
      ∃ before u after f, Variable.checked = before ++ u :: after ∧ v ∈ u :: after ∧
        (∀ w ∈ before, lookup.Sound w) ∧ ofLookup lookup = .error f ∧ Refuses u f) ∧
    (∀ raw, lookup .appEnv = some raw → ¬ Variable.Admits raw .appEnv →
      ofLookup lookup = ofLookup (lookup.put .appEnv none) ∧
      ∀ s, ofLookup lookup = .ok s → s.app.environment = .development) ∧
    (∀ raw e s, lookup .appEnv = some raw → Text.Spells e.name raw.toList → ofLookup lookup = .ok s →
      s.app.environment = e) ∧
    ((∃ s, ofLookup lookup = .ok s) ↔ ∀ v ∈ Variable.checked, lookup.Sound v) := by
  have decides := ofLookup_decides lookup
  refine ⟨fun v raw set outside other => ?refused, fun raw set outside => ?replaced, fun raw e s set named accepted =>
    ?named, ?accepted⟩
  case refused =>
    have unsound : ¬ lookup.Sound v := by simpa only [Lookup.Sound, set] using outside
    obtain ⟨before, u, after, f, order, place, sound, -, error, refuses⟩ :=
      decides.error (mem_checked outside other) unsound
    exact ⟨before, u, after, f, order, place, sound, error, refuses⟩
  case replaced =>
    have unnamed := ofText?_eq_none outside
    refine ⟨(ofLookup_put_appEnv ?_).symm, fun s accepted => ?_⟩
    · rw [set, Option.bind_some, unnamed]
      rfl
    · rw [← (ofLookup_eq_ok.1 accepted).environment, set, Option.bind_some, unnamed]
      rfl
  case named =>
    rw [← (ofLookup_eq_ok.1 accepted).environment, set, Option.bind_some, ofText?_eq_some.2 named]
    rfl
  case accepted =>
    constructor
    · rintro ⟨s, accepted⟩ v mem
      by_contra unsound
      obtain ⟨_, _, _, _, -, -, -, -, error, -⟩ := decides.error mem unsound
      cases accepted.symm.trans error
    · exact decides.ok

/-- a delay in words, and before it a threshold below zero -/
def mistyped : Lookup
  | .token => some "abc"
  | .reconnectMax => some "soon"
  | .largeThreshold => some "-1"
  | _ => none

/-- an environment cut short -/
def misnamed : Lookup
  | .token => some "abc"
  | .appEnv => some "prod"
  | _ => none

theorem not_admits_soon : ¬ Variable.Admits "soon" .reconnectMax := by
  have read : Text.readUInt64 (Text.trim "soon") = .error .invalidDigit := rfl
  rw [Variable.Admits, Text.isNumber_iff_readUInt64, read]
  exact fun ⟨_, _, h⟩ => nomatch h

theorem not_admits_prod : ¬ Variable.Admits "prod" .appEnv := by
  rintro ⟨e, h⟩
  cases e <;> exact absurd h (by decide)

theorem invalid_refused_mistyped :
    (∃ before u after f, Variable.checked = before ++ u :: after ∧ Variable.reconnectMax ∈ u :: after ∧
      (∀ w ∈ before, mistyped.Sound w) ∧ ofLookup mistyped = .error f ∧ Refuses u f) ∧
    ofLookup misnamed = ofLookup (misnamed.put .appEnv none) ∧
    ∃ s, ofLookup (misnamed.put .appEnv (some "Staging")) = .ok s ∧ s.app.environment = .staging := by
  refine ⟨(invalid_refused mistyped).1 _ _ rfl not_admits_soon (by decide),
    ((invalid_refused misnamed).2.1 _ rfl not_admits_prod).1, _, rfl, ?_⟩
  exact (invalid_refused (misnamed.put .appEnv (some "Staging"))).2.2.1 "Staging" .staging _ rfl (by decide) rfl

/-- An environment that is none is not refused. -/
theorem misnamed_accepted :
    misnamed .appEnv = some "prod" ∧ ¬ Variable.Admits "prod" .appEnv ∧
      ∃ s, ofLookup misnamed = .ok s ∧ s.app.environment = .development :=
  ⟨rfl, not_admits_prod, _, rfl, rfl⟩

/-! ## The token that is left -/

/-- a blank behind the words, and a text that goes on after it -/
def Strays (raw : List Char) : Prop :=
  ∃ before k c rest, raw = before ++ words k ++ c :: rest ∧ (∀ d ∈ before, isBlank d = true) ∧ 0 < k ∧
    isBlank c = true ∧ ∃ d ∈ rest, isBlank d = false

section Token

variable {raw token : String}

theorem length_words (k : Nat) : (words k).length = 4 * k := by
  rw [words, List.length_flatten, List.map_replicate, List.sum_replicate_nat, Nat.mul_comm]
  rfl

/-- What is left of a text has no blank at its end. -/
theorem back_normalizeToken :
    ∀ c, (normalizeToken raw).toList.getLast? = some c → isBlank c = false := by
  obtain ⟨k, whole, -⟩ := normalizeToken_eq_iff.1 (rfl : normalizeToken raw = _)
  intro c last
  apply (Text.bare_trimChars raw.toList).back c
  rw [whole, List.getLast?_append, last]
  rfl

theorem apart_normalizeToken : ¬ word <+: (normalizeToken raw).toList := by
  obtain ⟨-, -, apart⟩ := normalizeToken_eq_iff.1 (rfl : normalizeToken raw = _)
  exact apart

/-- A token is what it is read as, unless it has a blank in front. -/
theorem normalizeToken_eq_self (back : ∀ c, token.toList.getLast? = some c → isBlank c = false)
    (apart : ¬ word <+: token.toList) :
    normalizeToken token = token ↔ ∀ c, token.toList.head? = some c → isBlank c = false := by
  rw [normalizeToken_eq_iff]
  constructor
  · rintro ⟨k, whole, -⟩
    cases k with
    | zero =>
      have same : trimChars token.toList = token.toList := whole
      rw [← same]
      exact (Text.bare_trimChars _).front
    | succ k =>
      obtain ⟨before, after, split, -, -⟩ := Text.padded_trimChars token.toList
      have longer := congrArg List.length whole
      have shorter := congrArg List.length split
      rw [List.length_append, length_words] at longer
      rw [List.length_append, List.length_append] at shorter
      omega
  · intro front
    have trimmed : trimChars token.toList = token.toList :=
      Text.trimChars_eq_iff.2 ⟨⟨front, back⟩, [], [], by simp, nofun, nofun⟩
    exact ⟨0, trimmed, apart⟩

/-- A blank that strays is the first character of what is left. -/
theorem Strays.front (h : Strays raw.toList) :
    ∃ c, (normalizeToken raw).toList.head? = some c ∧ isBlank c = true := by
  obtain ⟨before, k, c, rest, split, blank, positive, stray, d, mem, plain⟩ := h
  obtain ⟨after, rest_eq, blank'⟩ := Text.dropEndWhile_append isBlank rest
  have filled : Text.dropEndWhile isBlank rest ≠ [] := by
    intro none
    rw [none, List.nil_append] at rest_eq
    exact absurd (blank' d (rest_eq ▸ mem)) (Bool.eq_false_iff.1 plain)
  have bare : Bare (words k ++ c :: Text.dropEndWhile isBlank rest) := by
    refine ⟨fun b front => ?_, fun b back => Text.getLast?_dropEndWhile isBlank rest b ?_⟩
    · obtain ⟨k, rfl⟩ := Nat.exists_eq_succ_of_ne_zero (Nat.ne_of_gt positive)
      cases front
      rfl
    · obtain ⟨last, hlast⟩ := Option.ne_none_iff_exists'.1 (mt List.getLast?_eq_none_iff.1 filled)
      rw [List.getLast?_append, List.getLast?_cons, hlast] at back
      cases back
      exact hlast
  have padded : Padded (words k ++ c :: Text.dropEndWhile isBlank rest) raw.toList := by
    refine ⟨before, after, ?_, blank, blank'⟩
    calc raw.toList = before ++ words k ++ c :: rest := split
      _ = before ++ words k ++ c :: (Text.dropEndWhile isBlank rest ++ after) := by rw [← rest_eq]
      _ = before ++ (words k ++ c :: Text.dropEndWhile isBlank rest) ++ after := by simp
  have apart : ¬ word <+: c :: Text.dropEndWhile isBlank rest := by
    intro front
    have same : 'B' = c := (List.cons_prefix_cons.1 front).1
    exact absurd stray (by rw [← same]; decide)
  have left : normalizeToken raw = String.ofList (c :: Text.dropEndWhile isBlank rest) :=
    normalizeToken_eq_iff.2 ⟨k, by rw [padded.trimChars_eq bare, String.toList_ofList], by rwa [String.toList_ofList]⟩
  exact ⟨c, by rw [left, String.toList_ofList]; rfl, stray⟩

/-- No other blank is: those in front of the words are dropped. -/
theorem strays_of_front {c : Char} (front : (normalizeToken raw).toList.head? = some c) (blank : isBlank c = true) :
    Strays raw.toList := by
  obtain ⟨k, whole, -⟩ := normalizeToken_eq_iff.1 (rfl : normalizeToken raw = _)
  obtain ⟨before, after, split, blanks, -⟩ := Text.padded_trimChars raw.toList
  have bare := Text.bare_trimChars raw.toList
  have back : ∀ c, (normalizeToken raw).toList.getLast? = some c → isBlank c = false := back_normalizeToken
  generalize (normalizeToken raw).toList = left at *
  cases left with
  | nil => cases front
  | cons c' rest =>
    cases front
    refine ⟨before, k, c, rest ++ after, ?split, blanks, ?positive, blank, ?goes_on⟩
    case split => rw [split, whole]; simp
    case positive =>
      apply Nat.pos_of_ne_zero
      rintro rfl
      have plain : isBlank c = false := bare.front c (by rw [whole]; rfl)
      exact absurd blank (Bool.eq_false_iff.1 plain)
    case goes_on =>
      cases last : rest.getLast? with
      | none =>
        have plain := back c (by rw [List.getLast?_eq_none_iff.1 last]; rfl)
        exact absurd blank (Bool.eq_false_iff.1 plain)
      | some d =>
        refine ⟨d, List.mem_append_left _ (List.mem_of_getLast? last), back d ?_⟩
        rw [List.getLast?_cons, last]
        rfl

theorem readToken_eq_ok :
    readToken lookup = .ok token ↔
      ∃ raw, lookup .token = some raw ∧ normalizeToken raw = token ∧ token.isEmpty = false := by
  unfold readToken
  cases lookup .token with
  | none => simp
  | some raw =>
    simp only [Option.map_some, Option.some.injEq, exists_eq_left']
    split
    · next none =>
      refine ⟨nofun, ?_⟩
      rintro ⟨rfl, filled⟩
      cases none.symm.trans filled
    · next filled =>
      rw [Except.ok.injEq]
      refine ⟨?_, fun h => h.1⟩
      rintro rfl
      exact ⟨rfl, Bool.eq_false_iff.2 filled⟩

end Token

/-- No check but that of the token finds it missing. -/
theorem missing_iff : ofLookup lookup = .error (.missing .token) ↔ ¬ lookup.Sound .token := by
  have decides := ofLookup_decides lookup
  constructor
  · intro missing sound
    have all : ∀ v ∈ Variable.checked, lookup.Sound v := by
      intro v mem
      by_contra unsound
      obtain ⟨_, u, _, f, -, -, -, bad, error, refuses⟩ := decides.error mem unsound
      cases missing.symm.trans error
      cases refuses
      exact bad sound
    obtain ⟨s, accepted⟩ := decides.ok all
    cases missing.symm.trans accepted
  · intro unsound
    obtain ⟨f, error, refuses⟩ := decides.2 unsound
    cases refuses with
    | missing => exact error
    | invalid _ _ other => exact absurd rfl other

/-- A word whose blank is trimmed away stays, as a token. -/
theorem normalizeToken_bot {raw : String} {k : Nat} (padded : Padded (words k ++ "Bot".toList) raw.toList) :
    normalizeToken raw = "Bot" := by
  refine normalizeToken_eq_iff.2 ⟨k, padded.trimChars_eq ⟨fun c front => ?_, fun c back => ?_⟩, by decide⟩
  · cases k <;> cases front <;> rfl
  · rw [List.getLast?_append] at back
    cases back
    rfl

/-- A token is missing exactly if it is not set, or to blanks only; a word with nothing behind it counts as a token.
One that is accepted is not empty, has no blank at its end and no word in front. It has none in front, and gives the
same settings when it is set in place of the text it was read from, exactly if no blank strays in that text. -/
theorem token_read_again (lookup : Lookup) :
    (ofLookup lookup = .error (.missing .token) ↔
      ∀ raw, lookup .token = some raw → ∀ c ∈ raw.toList, isBlank c = true) ∧
    ∀ s, ofLookup lookup = .ok s → ∃ raw, lookup .token = some raw ∧
      (s.bot.token ≠ "" ∧ (∀ c, s.bot.token.toList.getLast? = some c → isBlank c = false) ∧
        ¬ word <+: s.bot.token.toList) ∧
      ((∀ c, s.bot.token.toList.head? = some c → isBlank c = false) ↔ ¬ Strays raw.toList) ∧
      (ofLookup (lookup.put .token (some s.bot.token)) = .ok s ↔ ¬ Strays raw.toList) ∧
      ∀ k, Padded (words k ++ "Bot".toList) raw.toList → s.bot.token = "Bot" := by
  refine ⟨?missing, fun s accepted => ?_⟩
  case missing =>
    rw [missing_iff, Lookup.Sound]
    cases lookup .token with
    | none => simp
    | some raw => simp [Variable.Admits]
  have reads := ofLookup_eq_ok.1 accepted
  obtain ⟨raw, set, normal, filled⟩ := readToken_eq_ok.1 reads.token
  have back : ∀ c, s.bot.token.toList.getLast? = some c → isBlank c = false := normal ▸ back_normalizeToken
  have apart : ¬ word <+: s.bot.token.toList := normal ▸ apart_normalizeToken
  have front : (∀ c, s.bot.token.toList.head? = some c → isBlank c = false) ↔ ¬ Strays raw.toList := by
    rw [← normal]
    constructor
    · intro plain strays
      obtain ⟨c, first, blank⟩ := strays.front
      exact absurd blank (Bool.eq_false_iff.1 (plain c first))
    · exact fun none c first => Bool.eq_false_iff.2 fun blank => none (strays_of_front first blank)
  have again : ofLookup (lookup.put .token (some s.bot.token)) = .ok s ↔ normalizeToken s.bot.token = s.bot.token := by
    constructor
    · intro same
      obtain ⟨_, ⟨⟩, normal', -⟩ := readToken_eq_ok.1 (ofLookup_eq_ok.1 same).token
      exact normal'
    · intro normal'
      have read : readToken (lookup.put .token (some s.bot.token)) = .ok s.bot.token :=
        readToken_eq_ok.2 ⟨_, rfl, normal', filled⟩
      rw [ofLookup_put_token reads, read]
      rfl
  refine ⟨raw, set, ⟨?nonempty, back, apart⟩, front, ?_, fun k padded => ?bot⟩
  case nonempty =>
    intro empty
    rw [empty] at filled
    cases filled
  case bot => rw [← normal, normalizeToken_bot padded]
  rw [again, normalizeToken_eq_self back apart, front]

/-- a token behind a word and two blanks -/
def straying : Lookup
  | .token => some "Bot  secret"
  | _ => none

theorem strays_straying : Strays "Bot  secret".toList :=
  ⟨[], 1, ' ', "secret".toList, rfl, nofun, by decide, rfl, 's', by decide, rfl⟩

/-- A token behind two words is read again as it is; one behind a second blank is not. -/
theorem token_read_again_words :
    (∃ s, ofLookup (straying.put .token (some " Bot Bot secret")) = .ok s ∧
      ofLookup ((straying.put .token (some " Bot Bot secret")).put .token (some s.bot.token)) = .ok s) ∧
    ∃ s, ofLookup straying = .ok s ∧ ofLookup (straying.put .token (some s.bot.token)) ≠ .ok s := by
  refine ⟨⟨_, rfl, ?_⟩, _, rfl, ?_⟩
  · obtain ⟨_, -, -, front, again, -⟩ := (token_read_again (straying.put .token (some " Bot Bot secret"))).2 _ rfl
    refine again.2 (front.1 fun c first => ?_)
    cases first
    rfl
  · obtain ⟨_, set, -, -, again, -⟩ := (token_read_again straying).2 _ rfl
    cases set
    exact fun same => again.1 same strays_straying

/-- A blank is left in front of a token, and a word on its own for one. -/
theorem blank_left :
    (∃ s, ofLookup straying = .ok s ∧ s.bot.token = " secret" ∧
      ∃ s', ofLookup (straying.put .token (some s.bot.token)) = .ok s' ∧ s'.bot.token = "secret") ∧
    ∃ s, ofLookup (straying.put .token (some "Bot ")) = .ok s ∧ s.bot.token = "Bot" :=
  ⟨⟨_, rfl, rfl, _, rfl, rfl⟩, _, rfl, rfl⟩

end Settings

end Shardwire
