import Catalogue.Proofs.SettingsReading
import Catalogue.Proofs.TomlNames
import Catalogue.Proofs.VariableNames
import Mathlib

namespace Catalogue

namespace Settings

/-- What a key is set to by its variable, or else by the file. -/
def winner (file : Layer) (bindings : List (String × String)) (k : Key) : Option Setting :=
  ((Variable.text? bindings k.name).map Variable.setting).or (file.lookup k.name)

namespace Key

variable {k : Key} {v : k.Value}

/-- What a layer put over another one makes of a key, tables included, as no key is a table. -/
theorem gives_overlay {under upper : Option Setting} :
    k.Gives (Layer.overlay under upper) v ↔ k.Gives (upper.or under) v := by
  by_cases h : Layer.Mingle under upper
  · obtain ⟨entries, hoverlay⟩ := h.overlay
    obtain ⟨_, entries', -, rfl⟩ := h
    rw [hoverlay, Option.some_or]
    exact iff_of_false (not_reads_table entries v) (not_reads_table entries' v)
  · rw [Layer.overlay_of_not_mingle h]

theorem not_mingle_default (k : Key) (set : Option Setting) :
    ¬ Layer.Mingle ((toLayer {}).lookup k.name) set := by
  rintro ⟨entries, _, htable, -⟩
  rw [lookup_toLayer] at htable
  cases k <;> cases htable

theorem gives_or_default {set : Option Setting} :
    k.Gives (set.or ((toLayer {}).lookup k.name)) v ↔ k.Gives set v := by
  cases set with
  | none =>
      rw [Option.none_or, lookup_toLayer, gives_write]
      rfl
  | some s => rw [Option.some_or]

end Key

variable {file file' : Layer} {bindings bindings' : List (String × String)}

theorem lookup_layers (hfile : file.names.Nodup) (hbindings : Variable.Apart bindings) (k : Key) :
    (layers file bindings).lookup k.name =
      Layer.overlay ((file.lookup k.name).or ((toLayer {}).lookup k.name))
        ((Variable.text? bindings k.name).map Variable.setting) := by
  rw [layers, Layer.lookup_merge (Variable.nodup_layer bindings), Layer.lookup_merge hfile,
    hbindings.lookup_layer k.name_ne_empty, Layer.overlay_of_not_mingle (k.not_mingle_default _)]

theorem gives_layers (hfile : file.names.Nodup) (hbindings : Variable.Apart bindings) {k : Key}
    {v : k.Value} :
    k.Gives ((layers file bindings).lookup k.name) v ↔ k.Gives (winner file bindings k) v := by
  rw [lookup_layers hfile hbindings, Key.gives_overlay, ← Option.or_assoc, Key.gives_or_default, winner]

theorem exists_gives_layers (hfile : file.names.Nodup) (hbindings : Variable.Apart bindings)
    {k : Key} :
    (∃ v, k.Gives ((layers file bindings).lookup k.name) v) ↔ k.Fits (winner file bindings k) := by
  simp only [gives_layers hfile hbindings, Key.exists_gives]

theorem resolve_eq_ok (hfile : file.names.Nodup) (hbindings : Variable.Apart bindings)
    {s : Settings} :
    resolve file bindings = .ok s ↔ ∀ k : Key, k.Gives (winner file bindings k) (k.get s) := by
  rw [resolve, ofLayer_eq_ok]
  exact forall_congr' fun k => gives_layers hfile hbindings

theorem resolve_eq_error (hfile : file.names.Nodup) (hbindings : Variable.Apart bindings) {f : Fault}
    (h : resolve file bindings = .error f) :
    ∃ k : Key, f.path.head? = some k.name ∧ ¬ k.Fits (winner file bindings k) ∧
      ∀ k' : Key, k'.name < k.name → k'.Fits (winner file bindings k') := by
  obtain ⟨k, hfault, hbefore⟩ := ofLayer_eq_error h
  obtain ⟨hpath, hnone⟩ := Key.valueIn_eq_error hfault
  rw [exists_gives_layers hfile hbindings] at hnone
  refine ⟨k, hpath, hnone, fun k' hfirst => ?_⟩
  obtain ⟨v, hv⟩ := hbefore k' hfirst
  exact (exists_gives_layers hfile hbindings).1 ⟨v, Key.valueIn_eq_ok.1 hv⟩

/-- Sources that say the same of a key, but for what a file says of it where the variable wins. Two
tables are put over each other, so that neither of them wins. -/
def SameWinner (file file' : Layer) (bindings bindings' : List (String × String)) (k : Key) : Prop :=
  Variable.text? bindings k.name = Variable.text? bindings' k.name ∧
    (file.lookup k.name = file'.lookup k.name ∨
      ∃ text, Variable.text? bindings k.name = some text ∧
        ¬ Layer.Mingle (file.lookup k.name) (some (Variable.setting text)) ∧
        ¬ Layer.Mingle (file'.lookup k.name) (some (Variable.setting text)))

theorem overlay_lost {k : Key} {set : Option Setting} {s : Setting}
    (h : ¬ Layer.Mingle set (some s)) :
    Layer.overlay (set.or ((toLayer {}).lookup k.name)) (some s) = some s := by
  rw [Layer.overlay_of_not_mingle, Option.some_or]
  cases set with
  | none => exact k.not_mingle_default _
  | some s' => exact h

theorem resolve_congr (hfile : file.names.Nodup) (hfile' : file'.names.Nodup)
    (hbindings : Variable.Apart bindings) (hbindings' : Variable.Apart bindings')
    (h : ∀ k, SameWinner file file' bindings bindings' k) :
    resolve file bindings = resolve file' bindings' := by
  refine ofLayer_congr fun k => ?_
  rw [lookup_layers hfile hbindings, lookup_layers hfile' hbindings']
  obtain ⟨htext, hsame | ⟨text, hset, hlost, hlost'⟩⟩ := h k
  · rw [htext, hsame]
  · rw [← htext, hset, Option.map_some, overlay_lost hlost, overlay_lost hlost']

/-- Loading takes each setting from the source that wins it, and depends on nothing else: it fails if
one of those that win cannot be read, and tells which one. Where two tables meet neither is read, so
that there only the fault can tell that both were looked at. -/
theorem load_takes_winners (text : Option String) (hfile : Toml.parse (text.getD "") = some file)
    (hbindings : Variable.Apart bindings) :
    (∀ s, load text bindings = .ok s ↔ ∀ k : Key, k.Gives (winner file bindings k) (k.get s)) ∧
    ((∃ s, load text bindings = .ok s) ↔ ∀ k : Key, k.Fits (winner file bindings k)) ∧
    (∀ f, load text bindings = .error f →
      ∃ k : Key, f.path.head? = some k.name ∧ ¬ k.Fits (winner file bindings k) ∧
        ∀ k' : Key, k'.name < k.name → k'.Fits (winner file bindings k')) ∧
    ∀ (text' : Option String) (file' : Layer) (bindings' : List (String × String)),
      Toml.parse (text'.getD "") = some file' → Variable.Apart bindings' →
        ((∀ k, winner file bindings k = winner file' bindings' k) →
          ∀ s, load text bindings = .ok s ↔ load text' bindings' = .ok s) ∧
        ((∀ k, SameWinner file file' bindings bindings' k) →
          load text bindings = load text' bindings') := by
  have hload : load text bindings = resolve file bindings := by rw [load, hfile]
  have hnodup := Toml.nodup_parse hfile
  rw [hload]
  refine ⟨fun s => resolve_eq_ok hnodup hbindings, ?_,
    fun f => resolve_eq_error hnodup hbindings, ?_⟩
  · simp only [resolve_eq_ok hnodup hbindings, Key.exists_settings, Key.exists_gives]
  · intro text' file' bindings' hfile' hbindings'
    have hload' : load text' bindings' = resolve file' bindings' := by rw [load, hfile']
    have hnodup' := Toml.nodup_parse hfile'
    rw [hload']
    refine ⟨fun h s => ?_, resolve_congr hnodup hnodup' hbindings hbindings'⟩
    simp only [resolve_eq_ok hnodup hbindings, resolve_eq_ok hnodup' hbindings', h]

def betaSoon : String := "environment = \"beta\"\ntimeout_secs = \"soon\""

def fiveSeconds : List (String × String) := [("DOFUSDB_TIMEOUT_SECS", "5"), ("PATH", "/bin")]

def betaAloud : String := "verbose = true\nenvironment = \"beta\""

def fiveRedSeconds : List (String × String) :=
  [("DOFUSDB_COLOR", "red"), ("dofusdb_timeout_secs", "5")]

theorem text?_fiveSeconds (k : Key) :
    Variable.text? fiveSeconds k.name = (match k with | .timeoutSeconds => some "5" | _ => none) ∧
      Variable.text? fiveRedSeconds k.name = Variable.text? fiveSeconds k.name := by
  cases k <;> decide +kernel

theorem betaSoon_loaded :
    load (some betaSoon) fiveSeconds = .ok { environment := .beta, timeoutSeconds := 5 } ∧
      load (some betaAloud) fiveRedSeconds = load (some betaSoon) fiveSeconds := by
  have hsoon : Toml.parse betaSoon =
      some [("environment", .text "beta"), ("timeout_secs", .text "soon")] := by cbv
  have haloud : Toml.parse betaAloud =
      some [("verbose", .bool true), ("environment", .text "beta")] := by cbv
  have hfive : Variable.setting "5" = .unsigned 5 := by cbv
  have hapart : Variable.Apart fiveSeconds := ⟨by decide +kernel, by decide +kernel⟩
  have hapart' : Variable.Apart fiveRedSeconds := ⟨by decide +kernel, by decide +kernel⟩
  obtain ⟨hok, -, -, hsame⟩ := load_takes_winners (some betaSoon) hsoon hapart
  refine ⟨(hok _).2 fun k => ?_, ?_⟩
  · rw [winner, (text?_fiveSeconds k).1]
    cases k with
    | timeoutSeconds =>
        rw [Option.map_some, hfive]
        exact .unsigned 5
    | environment | address | userAgent | logLevel => rfl
  · refine ((hsame (some betaAloud) _ fiveRedSeconds haloud hapart').2 fun k => ?_).symm
    refine ⟨(text?_fiveSeconds k).2.symm, ?_⟩
    cases k with
    | timeoutSeconds =>
        refine .inr ⟨"5", (text?_fiveSeconds .timeoutSeconds).1, ?_, ?_⟩
        · rintro ⟨_, _, htext, -⟩
          cases htext
        · rintro ⟨_, _, hnone, -⟩
          cases hnone
    | environment | address | userAgent | logLevel => exact .inl rfl

end Settings

end Catalogue
