import Shardwire.Proofs.Settings

/-
Which settings are accepted, and what every variable does to them.

Given a token, the settings are accepted exactly if each of the numeric variables that is set is set to a text it
admits; otherwise the first one at fault is named. Each field of accepted settings is what the text of its own variable
stands for (`Variable.Means`), or its default.
- `follows_of_reads`: every field follows its variable;
- `field_congr`: a field does not depend on any other variable;
- `eq_of_field`: the settings have no further fields.

`ofLookup_exact` puts these together.
-/

namespace Shardwire

open Text (Padded Numeral Spells)

/-! ## The field of a variable, and what its text stands for -/

/-- the number a text stands for, with blanks around it or none -/
def Text.Denotes (n : Nat) (raw : String) : Prop := ∃ core, Numeral n core ∧ Padded core raw.toList

namespace Text

variable {n : Nat} {raw word : String} {cs : List Char}

theorem toList_trim (raw : String) : (trim raw).toList = trimChars raw.toList := String.toList_ofList

theorem denotes_iff : Denotes n raw ↔ Numeral n (trim raw).toList := by
  rw [toList_trim]
  constructor
  · rintro ⟨core, numeral, padded⟩
    rwa [padded.trimChars_eq numeral.bare]
  · exact fun numeral => ⟨_, numeral, padded_trimChars _⟩

theorem spells_trim_iff (plain : word.toList.any isBlank = false) :
    Spells word (trim raw).toList ↔ ∃ core, Spells word core ∧ Padded core raw.toList := by
  rw [toList_trim]
  constructor
  · exact fun spells => ⟨_, spells, padded_trimChars _⟩
  · rintro ⟨core, spells, padded⟩
    rwa [padded.trimChars_eq (spells.bare plain)]

theorem toLower_digit {c : Char} (digit : c.isDigit = true) : c.toLower = c := by
  rw [Char.isDigit, Bool.and_eq_true, decide_eq_true_iff, decide_eq_true_iff] at digit
  have high : c.toNat ≤ 57 := UInt32.le_iff_toNat_le.1 digit.2
  unfold Char.toLower
  split
  · next upper =>
    have low : 65 ≤ c.toNat := UInt32.le_iff_toNat_le.1 upper.1
    omega
  · rfl

theorem Digits.exists_digit (h : Digits n cs) : ∃ c ∈ cs, c.isDigit = true := by
  obtain ⟨filled, digits, -⟩ := h
  obtain ⟨c, mem⟩ := List.exists_mem_of_ne_nil cs filled
  exact ⟨c, mem, digits c mem⟩

/-- A number has a digit in it, and a word of letters has none. -/
theorem Numeral.not_spells (letters : word.toList.any Char.isDigit = false) (h : Numeral n cs) : ¬ Spells word cs := by
  intro spells
  have exists_digit : ∃ c ∈ cs, c.isDigit = true := by
    rcases h with digits | ⟨ds, rfl, digits⟩
    · exact digits.exists_digit
    · obtain ⟨c, mem, digit⟩ := digits.exists_digit
      exact ⟨c, List.mem_cons_of_mem _ mem, digit⟩
  obtain ⟨c, mem, digit⟩ := exists_digit
  have inside : c.toLower ∈ word.toList := spells ▸ List.mem_map_of_mem mem
  rw [toLower_digit digit] at inside
  exact List.any_eq_false.1 letters c inside digit

end Text

/-- the shard count a text stands for -/
def ShardCount.Means (raw : String) : ShardCount → Prop
  | .auto => ∃ core, Spells "auto" core ∧ Padded core raw.toList
  | .fixed n => Text.Denotes n.toNat raw

namespace Variable

/-- the variables that hold numbers, in the order they are checked in -/
def numeric : List Variable :=
  [.intents, .shardCount, .maxConcurrency, .largeThreshold, .reconnectBase, .reconnectMax, .reconnectAttempts,
   .startupTimeout, .identifyTimeout]

/-- the type of the setting a variable is for -/
def Field : Variable → Type
  | .token | .appName | .gatewayUrl | .apiBase => String
  | .appEnv => Environment
  | .intents => Intents
  | .shardCount => ShardCount
  | .maxConcurrency | .reconnectAttempts => UInt32
  | .largeThreshold => Option UInt32
  | .reconnectBase | .reconnectMax | .startupTimeout | .identifyTimeout => UInt64

/-- the setting a text stands for -/
def Means (raw : String) : (v : Variable) → v.Field → Prop
  | .token, text => text = Settings.normalizeToken raw
  | .intents, i => ∃ w : UInt64, Text.Denotes w.toNat raw ∧ i.bits = w &&& Intents.allBits
  | .shardCount, count => ShardCount.Means raw count
  | .maxConcurrency, n | .reconnectAttempts, n => Text.Denotes (UInt32.toNat n) raw
  | .largeThreshold, n => ∃ w : UInt32, Text.Denotes w.toNat raw ∧ n = some w
  | .reconnectBase, w | .reconnectMax, w | .startupTimeout, w | .identifyTimeout, w => Text.Denotes (UInt64.toNat w) raw
  | .appEnv, e => e = (Environment.ofText? raw).getD .development
  | .appName, text | .gatewayUrl, text | .apiBase, text => text = raw

end Variable

namespace Settings

variable {lookup other : Lookup} {s s' : Settings} {α : Type} {v u : Variable}

/-- the setting a variable is for -/
def field (s : Settings) : (v : Variable) → v.Field
  | .token => s.bot.token
  | .intents => s.bot.intents
  | .shardCount => s.bot.shardCount
  | .maxConcurrency => s.bot.maxConcurrency
  | .largeThreshold => s.bot.largeThreshold
  | .reconnectBase => s.reconnect.base
  | .reconnectMax => s.reconnect.max
  | .reconnectAttempts => s.reconnect.attempts
  | .startupTimeout => s.timeouts.startup
  | .identifyTimeout => s.timeouts.identify
  | .appName => s.app.name
  | .appEnv => s.app.environment
  | .gatewayUrl => s.bot.gatewayUrl
  | .apiBase => s.bot.apiBase

/-- the settings of a token, with all other variables unset -/
def unset (token : String) : Settings where
  app := ⟨App.defaultName, .development⟩
  bot := { token, intents := Intents.nonPrivileged, shardCount := .auto, maxConcurrency := 1, largeThreshold := none
           gatewayUrl := defaultGatewayUrl, apiBase := defaultApiBase }
  reconnect := Reconnect.default
  timeouts := Timeouts.default

/-- a setting is what the text of its variable stands for, or its default if there is no text -/
def Chosen (means : String → α → Prop) (default a : α) : Option String → Prop
  | none => a = default
  | some raw => means raw a

/-- every field follows its variable -/
def Follows (lookup : Lookup) (s : Settings) : Prop :=
  ∀ v, Chosen (fun raw => v.Means raw) ((unset s.bot.token).field v) (s.field v) (lookup v)

/-- The settings have no further fields. -/
theorem eq_of_field (same : ∀ v, s.field v = s'.field v) : s = s' := by
  obtain ⟨⟨name, environment⟩, ⟨token, intents, count, concurrency, url, api, threshold⟩, ⟨base, max, attempts⟩,
    ⟨startup, identify⟩⟩ := s
  cases same .appName
  cases same .appEnv
  cases same .token
  cases same .intents
  cases same .shardCount
  cases same .maxConcurrency
  cases same .gatewayUrl
  cases same .apiBase
  cases same .largeThreshold
  cases same .reconnectBase
  cases same .reconnectMax
  cases same .reconnectAttempts
  cases same .startupTimeout
  cases same .identifyTimeout
  rfl

/-! ## Fields follow their variables -/

/-- A number follows its variable if what is read from a text is what the text stands for. -/
theorem readNumber_chosen {read : String → Except Text.IntegerFault α} {default a : α} {means : String → α → Prop}
    (stands : ∀ raw a, read (Text.trim raw) = .ok a → means raw a) (h : readNumber read lookup v default = .ok a) :
    Chosen means default a (lookup v) := by
  unfold readNumber at h
  cases set : lookup v with
  | none =>
    rw [set] at h
    cases h
    rfl
  | some raw =>
    rw [set] at h
    apply stands
    cases value : read (Text.trim raw) with
    | error f => simp only [value] at h; cases h
    | ok b => simp only [value] at h; cases h; rfl

/-- A shard count is read from the texts that stand for it, and zero from none. -/
theorem ofTrimmed?_trim {raw : String} {count : ShardCount} :
    ShardCount.ofTrimmed? (Text.trim raw) = some count ↔
      count ≠ .fixed 0 ∧ count.Means raw := by
  unfold ShardCount.ofTrimmed?
  by_cases auto : (Text.trim raw).toList.map Char.toLower = "auto".toList
  · rw [if_pos auto]
    cases count with
    | auto =>
      have padded := (Text.spells_trim_iff rfl).1 auto
      exact ⟨fun _ => ⟨nofun, padded⟩, fun _ => rfl⟩
    | fixed n =>
      refine ⟨nofun, ?_⟩
      rintro ⟨-, number⟩
      exact absurd auto ((Text.denotes_iff.1 number).not_spells rfl)
  · rw [if_neg auto]
    cases count with
    | auto =>
      constructor
      · intro h
        split at h
        · split at h <;> cases h
        · cases h
      · rintro ⟨-, padded⟩
        exact absurd ((Text.spells_trim_iff rfl).2 padded) auto
    | fixed n =>
      rw [ShardCount.Means, Text.denotes_iff, ← Text.readUInt32_eq_ok]
      cases Text.readUInt32 (Text.trim raw) with
      | error f => exact ⟨nofun, fun h => nomatch h.2⟩
      | ok w =>
        by_cases zero : w = 0
        · subst zero
          simp only [if_true]
          refine ⟨nofun, ?_⟩
          rintro ⟨positive, ⟨⟩⟩
          exact absurd rfl positive
        · simp only [if_neg zero, Option.some.injEq, ShardCount.fixed.injEq, Except.ok.injEq, ne_eq, iff_and_self]
          rintro rfl
          exact zero

theorem readShardCount_chosen {count : ShardCount} (h : readShardCount lookup = .ok count) :
    Chosen ShardCount.Means .auto count (lookup .shardCount) := by
  unfold readShardCount at h
  cases set : lookup .shardCount with
  | none =>
    rw [set] at h
    cases h
    rfl
  | some raw =>
    simp only [set] at h
    cases read : ShardCount.ofTrimmed? (Text.trim raw) with
    | none => rw [read] at h; cases h
    | some count =>
      rw [read] at h
      cases h
      exact (ofTrimmed?_trim.1 read).2

theorem getD_chosen {text : Option String} {default a : String} (h : text.getD default = a) :
    Chosen (fun raw a => a = raw) default a text := by
  rw [← h]
  cases text with
  | none => rfl
  | some raw => rfl

theorem follows_of_reads (h : Reads lookup s) : Follows lookup s := by
  have long (raw : String) (w : UInt64) (read : Text.readUInt64 (Text.trim raw) = .ok w) : Text.Denotes w.toNat raw :=
    Text.denotes_iff.2 (Text.readUInt64_eq_ok.1 read)
  have short (raw : String) (w : UInt32) (read : Text.readUInt32 (Text.trim raw) = .ok w) : Text.Denotes w.toNat raw :=
    Text.denotes_iff.2 (Text.readUInt32_eq_ok.1 read)
  intro v
  cases v with
  | token =>
    obtain ⟨raw, set, normal, -⟩ := readToken_eq_ok.1 h.token
    rw [set]
    exact normal.symm
  | intents =>
    refine readNumber_chosen (fun raw i read => ?_) h.intents
    cases word : Text.readUInt64 (Text.trim raw) with
    | error f => rw [word] at read; cases read
    | ok w =>
      rw [word] at read
      cases read
      exact ⟨w, long raw w word, rfl⟩
  | shardCount => exact readShardCount_chosen h.shardCount
  | maxConcurrency =>
    obtain ⟨n, read, positive⟩ := Json.ok_of_bind h.maxConcurrency
    split at positive
    · cases positive
    · cases positive
      exact readNumber_chosen short read
  | largeThreshold =>
    refine readNumber_chosen (fun raw n read => ?_) h.threshold
    cases word : Text.readUInt32 (Text.trim raw) with
    | error f => rw [word] at read; cases read
    | ok w =>
      rw [word] at read
      cases read
      exact ⟨w, short raw w word, rfl⟩
  | reconnectBase => exact readNumber_chosen long h.base
  | reconnectMax => exact readNumber_chosen long h.max
  | reconnectAttempts => exact readNumber_chosen short h.attempts
  | startupTimeout => exact readNumber_chosen long h.startup
  | identifyTimeout => exact readNumber_chosen long h.identify
  | appEnv =>
    show Chosen _ _ s.app.environment _
    rw [← h.environment]
    cases lookup .appEnv <;> rfl
  | appName => exact getD_chosen h.name
  | gatewayUrl => exact getD_chosen h.gatewayUrl
  | apiBase => exact getD_chosen h.apiBase

/-! ## No variable changes the field of another -/

theorem number_congr {read : String → Except Text.IntegerFault α} {default a b : α} (same : other v = lookup v)
    (h : readNumber read lookup v default = .ok a) (h' : readNumber read other v default = .ok b) : b = a := by
  have agree : readNumber read other v default = readNumber read lookup v default := by simp only [readNumber, same]
  exact Except.ok.inj (h'.symm.trans (agree.trans h))

theorem field_congr (h : Reads lookup s) (h' : Reads other s') (same : other u = lookup u) :
    s'.field u = s.field u := by
  cases u with
  | token =>
    have agree : readToken other = readToken lookup := by simp only [readToken, same]
    exact Except.ok.inj (h'.token.symm.trans (agree.trans h.token))
  | intents => exact number_congr same h.intents h'.intents
  | shardCount =>
    have agree : readShardCount other = readShardCount lookup := by simp only [readShardCount, same]
    exact Except.ok.inj (h'.shardCount.symm.trans (agree.trans h.shardCount))
  | maxConcurrency =>
    have agree : readMaxConcurrency other = readMaxConcurrency lookup := by
      simp only [readMaxConcurrency, readNumber, same]
    exact Except.ok.inj (h'.maxConcurrency.symm.trans (agree.trans h.maxConcurrency))
  | largeThreshold => exact number_congr same h.threshold h'.threshold
  | reconnectBase => exact number_congr same h.base h'.base
  | reconnectMax => exact number_congr same h.max h'.max
  | reconnectAttempts => exact number_congr same h.attempts h'.attempts
  | startupTimeout => exact number_congr same h.startup h'.startup
  | identifyTimeout => exact number_congr same h.identify h'.identify
  | appName => exact h'.name.symm.trans (same ▸ h.name)
  | appEnv => exact h'.environment.symm.trans (same ▸ h.environment)
  | gatewayUrl => exact h'.gatewayUrl.symm.trans (same ▸ h.gatewayUrl)
  | apiBase => exact h'.apiBase.symm.trans (same ▸ h.apiBase)

/-! ## Acceptance -/

/-- A fault is that of the first variable that is not sound. -/
theorem Decides.refused {vs : List Variable} {f : Fault} (h : Decides (α := α) lookup vs (.error f)) :
    ∃ before u after, vs = before ++ u :: after ∧ (∀ v ∈ before, lookup.Sound v) ∧ ¬ lookup.Sound u ∧ Refuses u f := by
  induction vs with
  | nil =>
    obtain ⟨_, ⟨⟩⟩ := h
  | cons v vs ih =>
    by_cases sound : lookup.Sound v
    · obtain ⟨before, u, after, rfl, sounds, first⟩ := ih (h.1 sound)
      exact ⟨v :: before, u, after, rfl, List.forall_mem_cons.2 ⟨sound, sounds⟩, first⟩
    · obtain ⟨_, ⟨⟩, refuses⟩ := h.2 sound
      exact ⟨[], v, vs, rfl, nofun, sound, refuses⟩

theorem Decides.accepted_iff {vs : List Variable} {r : Except Fault α} (h : Decides lookup vs r) :
    (∃ a, r = .ok a) ↔ ∀ v ∈ vs, lookup.Sound v := by
  constructor
  · rintro ⟨a, rfl⟩ v mem
    by_contra unsound
    obtain ⟨_, _, _, _, -, -, -, -, ⟨⟩, -⟩ := h.error mem unsound
  · exact h.ok

theorem sound_iff (other : v ≠ .token) : lookup.Sound v ↔ ∀ text, lookup v = some text → v.Admits text := by
  unfold Lookup.Sound
  cases lookup v with
  | none => exact ⟨fun _ => nofun, fun _ => other⟩
  | some raw =>
    constructor
    · rintro admits _ ⟨⟩
      exact admits
    · exact fun admits => admits raw rfl

theorem set_of_unsound (other : v ≠ .token) (unsound : ¬ lookup.Sound v) :
    ∃ text, lookup v = some text ∧ ¬ v.Admits text := by
  unfold Lookup.Sound at unsound
  cases set : lookup v with
  | none =>
    rw [set] at unsound
    exact absurd other unsound
  | some text =>
    rw [set] at unsound
    exact ⟨text, rfl, unsound⟩

theorem ne_token_of_numeric (mem : v ∈ Variable.numeric) : v ≠ .token := by
  rintro rfl
  exact absurd mem (by decide)

/-- Given a token, what is left to check are the numeric variables. -/
theorem ofLookup_decides_numeric {raw : String} (set : lookup .token = some raw) (filled : normalizeToken raw ≠ "") :
    Decides lookup Variable.numeric (ofLookup lookup) := by
  apply (ofLookup_decides lookup).1
  rw [Lookup.Sound, set]
  by_contra blank
  apply filled
  rw [← String.isEmpty_iff, normalizeToken_isEmpty]
  intro c mem
  by_contra plain
  exact blank ⟨c, mem, Bool.eq_false_iff.2 plain⟩

/-- Given a token, settings are accepted exactly if each numeric variable that is set is set to a text it admits, and
a fault names the first one that is not. In accepted settings every field is what its own variable stands for, or its
default; and the settings of two lookups that differ in one variable differ in no field but that of this variable. -/
theorem ofLookup_exact (lookup : Lookup) {raw : String} (set : lookup .token = some raw)
    (filled : normalizeToken raw ≠ "") :
    ((∃ s, ofLookup lookup = .ok s) ↔
      ∀ v ∈ Variable.numeric, ∀ text, lookup v = some text → v.Admits text) ∧
    (∀ f, ofLookup lookup = .error f → ∃ before u after text cause, Variable.numeric = before ++ u :: after ∧
      (∀ v ∈ before, ∀ text, lookup v = some text → v.Admits text) ∧
      lookup u = some text ∧ ¬ u.Admits text ∧ f = .invalid u cause) ∧
    (∀ s, ofLookup lookup = .ok s → Follows lookup s) ∧
    ∀ v other s s', (∀ u, u ≠ v → other u = lookup u) → ofLookup lookup = .ok s → ofLookup other = .ok s' →
      (∀ u, u ≠ v → s'.field u = s.field u) ∧ (s'.field v = s.field v → s' = s) := by
  have decides := ofLookup_decides_numeric set filled
  refine ⟨?accepted, ?refused, fun s accepted => follows_of_reads (ofLookup_eq_ok.1 accepted), ?apart⟩
  case accepted =>
    rw [decides.accepted_iff]
    exact forall₂_congr fun v mem => sound_iff (ne_token_of_numeric mem)
  case refused =>
    intro f error
    obtain ⟨before, u, after, order, sound, unsound, refuses⟩ := Decides.refused (error ▸ decides)
    have numeric : ∀ v ∈ before ++ u :: after, v ≠ .token := fun v mem => ne_token_of_numeric (order ▸ mem)
    rw [List.forall_mem_append, List.forall_mem_cons] at numeric
    obtain ⟨text, set, outside⟩ := set_of_unsound numeric.2.1 unsound
    cases refuses with
    | missing => exact absurd rfl numeric.2.1
    | invalid _ cause =>
      refine ⟨before, u, after, text, cause, order, fun v mem => ?_, set, outside, rfl⟩
      exact (sound_iff (numeric.1 v mem)).1 (sound v mem)
  case apart =>
    intro v other s s' same accepted accepted'
    have elsewhere : ∀ u, u ≠ v → s'.field u = s.field u := fun u ne =>
      field_congr (ofLookup_eq_ok.1 accepted) (ofLookup_eq_ok.1 accepted') (same u ne)
    refine ⟨elsewhere, fun here => eq_of_field fun u => ?_⟩
    by_cases ne : u = v
    · exact ne ▸ here
    · exact elsewhere u ne

/-- numbers with blanks and a sign, bits nobody knows, and the largest number of its width -/
def tuned : Lookup
  | .token => some "Bot secret"
  | .intents => some " +4194303\t"
  | .shardCount => some "AUTO"
  | .reconnectAttempts => some "4294967295"
  | _ => none

/-- Unknown bits are dropped from the intents; one more attempt does not fit; a base delay leaves the rest alone. -/
theorem ofLookup_exact_tuned :
    (∃ s, ofLookup tuned = .ok s ∧
      ∃ w : UInt64, Text.Denotes w.toNat " +4194303\t" ∧ s.bot.intents.bits = w &&& Intents.allBits) ∧
    ¬ Variable.Admits "4294967296" .reconnectAttempts ∧
    ∃ s s', ofLookup tuned = .ok s ∧ ofLookup (tuned.put .reconnectBase (some "250")) = .ok s' ∧
      s'.reconnect.base = 250 ∧ ∀ u, u ≠ .reconnectBase → s'.field u = s.field u := by
  have settled := ofLookup_exact tuned rfl (by decide)
  refine ⟨⟨_, rfl, settled.2.2.1 _ rfl .intents⟩, ?beyond, _, _, rfl, rfl, rfl, ?elsewhere⟩
  case beyond =>
    have refused := (ofLookup_exact (tuned.put .reconnectAttempts (some "4294967296")) rfl (by decide)).2.1
    obtain ⟨before, u, after, text, cause, -, -, set, outside, fault⟩ := refused _ rfl
    cases fault
    cases set
    exact outside
  case elsewhere =>
    have other : ∀ u, u ≠ .reconnectBase → tuned.put .reconnectBase (some "250") u = tuned u := fun u ne => if_neg ne
    exact (settled.2.2.2 .reconnectBase _ _ _ other rfl rfl).1

end Settings

end Shardwire
