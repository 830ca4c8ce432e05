import Catalogue.Proofs.Preliminaries
import Catalogue.Settings.Load
import Mathlib.Tactic.Choose

namespace Catalogue

namespace Setting

inductive Says : Setting → String → Prop
  | text (t : String) : Says (.text t) t
  | letter (c : Char) : Says (.letter c) (String.singleton c)

inductive Counts : Setting → Nat → Prop
  | unsigned (n : Nat) : Counts (.unsigned n) n
  | signed (n : Nat) : Counts (.signed n) n

end Setting

namespace Settings

theorem asText_eq_ok {s : Setting} {t : String} : asText s = .ok t ↔ s.Says t := by
  constructor
  · intro h
    cases s with
    | text | letter =>
        cases h
        constructor
    | bool | signed | unsigned | float | list | table => cases h
  · rintro (_ | _) <;> rfl

theorem asCount_eq_ok {s : Setting} {n : Nat} : asCount s = .ok n ↔ s.Counts n := by
  constructor
  · intro h
    cases s with
    | unsigned n =>
        cases h
        constructor
    | signed m =>
        rw [asCount] at h
        split at h
        · cases h
        · cases h
          have hm : Setting.signed m = .signed (m.toNat : Int) := by
            rw [Int.toNat_of_nonneg (by omega)]
          rw [hm]
          constructor
    | bool | float | letter | text | list | table => cases h
  · rintro (_ | _)
    · rfl
    · rw [asCount, if_neg (by omega), Int.toNat_natCast]

theorem environment?_eq_some {name : String} {e : Environment} :
    environment? name = some e ↔ name = e.name := by
  unfold environment?
  split
  · cases e <;> simp [Environment.name]
  · cases e <;> simp [Environment.name]
  · rename_i hproduction hbeta
    cases e with
    | production => exact ⟨nofun, fun h => (hproduction h).elim⟩
    | beta => exact ⟨nofun, fun h => (hbeta h).elim⟩

theorem asEnvironment_eq_ok {s : Setting} {e : Environment} :
    asEnvironment s = .ok e ↔ s = .text e.name := by
  constructor
  · intro h
    cases s with
    | text name =>
        rw [asEnvironment] at h
        split at h
        · rename_i hname
          cases h
          rw [environment?_eq_some.1 hname]
        · cases h
    | table entries =>
        rw [asEnvironment] at h
        split at h
        · cases h
        · split at h <;> cases h
    | bool | signed | unsigned | float | letter | list => cases h
  · rintro rfl
    rw [asEnvironment, environment?_eq_some.2 rfl]

inductive Key
  | environment | address | userAgent | timeoutSeconds | logLevel

namespace Key

def name : Key → String
  | environment => "environment"
  | address => "base_url"
  | userAgent => "user_agent"
  | timeoutSeconds => "timeout_secs"
  | logLevel => "log_level"

abbrev Value : Key → Type
  | environment => Environment
  | address => Option String
  | userAgent => String
  | timeoutSeconds => Nat
  | logLevel => String

def get (s : Settings) : (k : Key) → k.Value
  | environment => s.environment
  | address => s.address
  | userAgent => s.userAgent
  | timeoutSeconds => s.timeoutSeconds
  | logLevel => s.logLevel

/-- What a setting has to be, and the value it then stands for. -/
def Reads : (k : Key) → Setting → k.Value → Prop
  | environment, s, e => s = .text e.name
  | address, s, a => ∃ t, a = some t ∧ s.Says t
  | userAgent, s, t => s.Says t
  | timeoutSeconds, s, n => s.Counts n
  | logLevel, s, t => s.Says t

def Fits (k : Key) (set : Option Setting) : Prop :=
  ∀ s, set = some s → ∃ v, k.Reads s v

def Gives (k : Key) (set : Option Setting) (v : k.Value) : Prop :=
  match set with
  | none => v = k.get {}
  | some s => k.Reads s v

variable {k : Key}

theorem name_ne_empty (k : Key) : k.name ≠ "" := by
  cases k <;> exact nofun

theorem not_reads_table (entries : List (String × Setting)) (v : k.Value) :
    ¬ k.Reads (.table entries) v := by
  cases k with
  | environment => exact nofun
  | address =>
      rintro ⟨t, -, h⟩
      cases h
  | userAgent | timeoutSeconds | logLevel => exact nofun

def settings (value : (k : Key) → k.Value) : Settings where
  environment := value .environment
  address := value .address
  userAgent := value .userAgent
  timeoutSeconds := value .timeoutSeconds
  logLevel := value .logLevel

theorem exists_settings {Fits : (k : Key) → k.Value → Prop} :
    (∃ s, ∀ k, Fits k (k.get s)) ↔ ∀ k, ∃ v, Fits k v := by
  constructor
  · rintro ⟨s, h⟩ k
    exact ⟨_, h k⟩
  · intro h
    choose value hvalue using h
    refine ⟨settings value, fun k => ?_⟩
    have hget : k.get (settings value) = value k := by cases k <;> rfl
    rw [hget]
    exact hvalue k

theorem exists_gives {set : Option Setting} : (∃ v, k.Gives set v) ↔ k.Fits set := by
  cases set with
  | none => exact ⟨fun _ => nofun, fun _ => ⟨_, rfl⟩⟩
  | some s =>
      constructor
      · rintro ⟨v, h⟩ _ ⟨⟩
        exact ⟨v, h⟩
      · intro h
        exact h s rfl

def accept : (k : Key) → Acceptor k.Value
  | environment => asEnvironment
  | address => fun s => some <$> asText s
  | userAgent => asText
  | timeoutSeconds => asCount
  | logLevel => asText

theorem accept_eq_ok {s : Setting} {v : k.Value} : k.accept s = .ok v ↔ k.Reads s v := by
  cases k with
  | environment => exact asEnvironment_eq_ok
  | address =>
      rw [accept, Except.map_eq_ok]
      constructor
      · rintro ⟨t, ht, heq⟩
        exact ⟨t, heq.symm, asText_eq_ok.1 ht⟩
      · rintro ⟨t, heq, ht⟩
        exact ⟨t, asText_eq_ok.2 ht, heq.symm⟩
  | userAgent | logLevel => exact asText_eq_ok
  | timeoutSeconds => exact asCount_eq_ok

def valueIn (layer : Layer) (k : Key) : Except Fault k.Value :=
  field layer k.name k.accept (k.get {})

theorem valueIn_eq_ok {layer : Layer} {v : k.Value} :
    k.valueIn layer = .ok v ↔ k.Gives (layer.lookup k.name) v := by
  rw [valueIn, field]
  cases layer.lookup k.name with
  | none => rw [Except.ok.injEq, Gives, eq_comm]
  | some s => rw [Except.mapError_eq_ok, accept_eq_ok, Gives]

theorem valueIn_eq_error {layer : Layer} {f : Fault} (h : k.valueIn layer = .error f) :
    f.path.head? = some k.name ∧ ¬ ∃ v, k.Gives (layer.lookup k.name) v := by
  constructor
  · rw [valueIn, field] at h
    split at h
    · cases h
    · obtain ⟨cause, -, rfl⟩ := Except.mapError_eq_error.1 h
      rfl
  · rintro ⟨v, hv⟩
    rw [valueIn_eq_ok.2 hv] at h
    cases h

end Key

theorem ofLayer_eq (layer : Layer) :
    ofLayer layer = (do
      let address ← Key.address.valueIn layer
      let environment ← Key.environment.valueIn layer
      let logLevel ← Key.logLevel.valueIn layer
      let timeoutSeconds ← Key.timeoutSeconds.valueIn layer
      let userAgent ← Key.userAgent.valueIn layer
      pure { environment, address, userAgent, timeoutSeconds, logLevel }) := rfl

theorem ofLayer_eq_ok {layer : Layer} {s : Settings} :
    ofLayer layer = .ok s ↔ ∀ k : Key, k.Gives (layer.lookup k.name) (k.get s) := by
  simp only [← Key.valueIn_eq_ok, ofLayer_eq, Except.bind_eq_ok]
  constructor
  · rintro ⟨address, haddress, environment, henvironment, logLevel, hlogLevel, timeoutSeconds,
      htimeoutSeconds, userAgent, huserAgent, heq⟩ k
    cases heq
    cases k <;> assumption
  · intro h
    exact ⟨_, h .address, _, h .environment, _, h .logLevel, _, h .timeoutSeconds,
      _, h .userAgent, rfl⟩

/-- The fault of a layer is the one of the key whose name comes first. -/
theorem ofLayer_eq_error {layer : Layer} {f : Fault} (h : ofLayer layer = .error f) :
    ∃ k : Key, k.valueIn layer = .error f ∧
      ∀ k' : Key, k'.name < k.name → ∃ v, k'.valueIn layer = .ok v := by
  simp only [ofLayer_eq, Except.bind_eq_error] at h
  obtain h | ⟨_, haddress, h | ⟨_, henvironment, h | ⟨_, hlogLevel, h | ⟨_, htimeout, h | h⟩⟩⟩⟩ := h
  · refine ⟨.address, h, fun k' hfirst => ?_⟩
    cases k' <;> exact absurd hfirst (by decide)
  · refine ⟨.environment, h, fun k' hfirst => ?_⟩
    cases k' with
    | address => exact ⟨_, haddress⟩
    | environment | logLevel | timeoutSeconds | userAgent => exact absurd hfirst (by decide)
  · refine ⟨.logLevel, h, fun k' hfirst => ?_⟩
    cases k' with
    | address => exact ⟨_, haddress⟩
    | environment => exact ⟨_, henvironment⟩
    | logLevel | timeoutSeconds | userAgent => exact absurd hfirst (by decide)
  · refine ⟨.timeoutSeconds, h, fun k' hfirst => ?_⟩
    cases k' with
    | address => exact ⟨_, haddress⟩
    | environment => exact ⟨_, henvironment⟩
    | logLevel => exact ⟨_, hlogLevel⟩
    | timeoutSeconds | userAgent => exact absurd hfirst (by decide)
  · refine ⟨.userAgent, h, fun k' hfirst => ?_⟩
    cases k' with
    | address => exact ⟨_, haddress⟩
    | environment => exact ⟨_, henvironment⟩
    | logLevel => exact ⟨_, hlogLevel⟩
    | timeoutSeconds => exact ⟨_, htimeout⟩
    | userAgent => exact absurd hfirst (by decide)
  · obtain ⟨_, -, h⟩ := h
    cases h

theorem ofLayer_congr {layer layer' : Layer}
    (h : ∀ k : Key, layer.lookup k.name = layer'.lookup k.name) : ofLayer layer = ofLayer layer' := by
  have hvalue : ∀ k : Key, k.valueIn layer = k.valueIn layer' := by
    intro k
    rw [Key.valueIn, Key.valueIn, field, field, h k]
  simp only [ofLayer_eq, hvalue]

/-! ## The defaults -/

def Key.write : (k : Key) → k.Value → Option Setting
  | environment, e => some (.text e.name)
  | address, a => a.map .text
  | userAgent, t => some (.text t)
  | timeoutSeconds, n => some (.unsigned n)
  | logLevel, t => some (.text t)

theorem Key.says_text_iff {t t' : String} : (Setting.text t).Says t' ↔ t' = t := by
  constructor
  · rintro ⟨⟩
    rfl
  · rintro rfl
    constructor

theorem Key.gives_write {k : Key} {v w : k.Value} : k.Gives (k.write v) w ↔ w = v := by
  cases k with
  | environment =>
      simp only [write, Gives, Reads, Setting.text.injEq]
      cases v <;> cases w <;> simp [Environment.name]
  | address =>
      cases v with
      | none => rfl
      | some t => simp [write, Gives, Reads, says_text_iff]
  | userAgent | logLevel => exact says_text_iff
  | timeoutSeconds =>
      constructor
      · rintro ⟨⟩
        rfl
      · rintro rfl
        constructor

theorem lookup_toLayer (s : Settings) (k : Key) :
    (toLayer s).lookup k.name = k.write (k.get s) := by
  obtain ⟨environment, address, userAgent, timeoutSeconds, logLevel⟩ := s
  cases address <;> cases k <;> rfl

theorem ofLayer_toLayer (s : Settings) : ofLayer (toLayer s) = .ok s := by
  rw [ofLayer_eq_ok]
  intro k
  rw [lookup_toLayer, Key.gives_write]

end Settings

end Catalogue
