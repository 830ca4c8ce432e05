import Catalogue.Toml.Parser

namespace Catalogue.Toml

/-- The entries after the change are those before it with one of them put. -/
def Puts (change : Entries Node → Option (Entries Node)) : Prop :=
  ∀ es es', change es = some es' → ∃ key n, es' = es.put key n

theorem exists_put {α : Type} {made : Option α} {key : String} {n : α → Node}
    {es es' : Entries Node} (h : (made.bind fun a => some (es.put key (n a))) = some es') :
    ∃ key n, es' = es.put key n := by
  obtain ⟨a, -, heq⟩ := Option.bind_eq_some_iff.1 h
  exact ⟨key, n a, (Option.some.inj heq).symm⟩

variable {change : Origin → Entries Node → Option (Entries Node)}

theorem puts_update (isDotted : Bool) (hchange : ∀ origin, Puts (change origin))
    (path : List String) (origin : Origin) : Puts (update isDotted change path origin) := by
  intro es es' h
  cases path with
  | nil =>
      rw [update] at h
      exact hchange origin es es' h
  | cons key path =>
      rw [update] at h
      split at h
      · exact exists_put h
      · split at h
        · cases h
        · exact exists_put h
      · exact exists_put h
      · cases h

theorem puts_above {change : String → Origin → Entries Node → Option (Entries Node)}
    (hchange : ∀ key origin, Puts (change key origin)) (isDotted : Bool) (path : List String)
    (origin : Origin) :
    Puts fun es => match path.getLast? with
      | none => none
      | some key => update isDotted (change key) path.dropLast origin es := by
  intro es es' h
  cases hlast : path.getLast? with
  | none =>
      rw [hlast] at h
      cases h
  | some key =>
      rw [hlast] at h
      exact puts_update isDotted (hchange key) path.dropLast origin es es' h

theorem puts_addEntry (path : List String) (s : Setting) (origin : Origin) :
    Puts (addEntry path s origin) := by
  refine puts_above (fun key origin es es' h => ?_) true path origin
  split at h
  · cases h
  · exact ⟨key, _, (Option.some.inj h).symm⟩

theorem puts_openTable (path : List String) : Puts (openTable path) := by
  refine puts_above (fun key origin es es' h => ?_) false path .header
  split at h
  · exact ⟨key, _, (Option.some.inj h).symm⟩
  · exact ⟨key, _, (Option.some.inj h).symm⟩
  · cases h

theorem puts_openElement (path : List String) : Puts (openElement path) := by
  refine puts_above (fun key origin es es' h => ?_) false path .header
  split at h
  · exact ⟨key, _, (Option.some.inj h).symm⟩
  · exact ⟨key, _, (Option.some.inj h).symm⟩
  · cases h

theorem takeLine_entries {size : Nat} {d d' : Draft} {cs rest : List Char}
    (h : takeLine size d cs = some (d', rest)) :
    d' = d ∨ ∃ key n, d'.entries = d.entries.put key n := by
  unfold takeLine at h
  split at h
  iterate 4
    cases h
    exact .inl rfl
  · obtain ⟨⟨⟨isElement, path⟩, after⟩, -, h⟩ := Option.bind_eq_some_iff.1 h
    simp only at h
    split at h
    · obtain ⟨es, hes, h⟩ := Option.bind_eq_some_iff.1 h
      cases h
      exact .inr (puts_openElement path _ _ hes)
    · obtain ⟨es, hes, h⟩ := Option.bind_eq_some_iff.1 h
      cases h
      exact .inr (puts_openTable path _ _ hes)
  · obtain ⟨⟨path, after⟩, -, h⟩ := Option.bind_eq_some_iff.1 h
    simp only at h
    split at h
    · obtain ⟨⟨s, after⟩, -, h⟩ := Option.bind_eq_some_iff.1 h
      obtain ⟨es, hes, h⟩ := Option.bind_eq_some_iff.1 h
      cases h
      exact .inr (puts_update false (puts_addEntry path s) _ _ _ _ hes)
    · cases h

theorem nodup_takeLines {size fuel : Nat} {d d' : Draft} {cs : List Char}
    (h : takeLines size fuel d cs = some d') (hd : d.entries.names.Nodup) :
    d'.entries.names.Nodup := by
  induction fuel generalizing d cs with
  | zero => cases h
  | succ fuel ih =>
      rw [takeLines] at h
      obtain ⟨⟨after, rest⟩, hline, h⟩ := Option.bind_eq_some_iff.1 h
      have hafter : after.entries.names.Nodup := by
        rcases takeLine_entries hline with rfl | ⟨key, n, heq⟩
        · exact hd
        · rw [heq]
          exact Entries.nodup_put key n hd
      obtain ⟨rest', -, h⟩ := Option.bind_eq_some_iff.1 h
      split at h
      · cases h
        exact hafter
      · exact ih h hafter
      · exact ih h hafter
      · cases h

theorem names_settings (es : Entries Node) : Entries.names (settings es) = es.names := by
  induction es with
  | nil => rfl
  | cons entry es ih =>
      obtain ⟨key, n⟩ := entry
      rw [settings, setting]
      exact congrArg (key :: ·) ih

theorem nodup_parse {text : String} {layer : Layer} (h : parse text = some layer) :
    layer.names.Nodup := by
  obtain ⟨d, hd, rfl⟩ := Option.map_eq_some_iff.1 h
  rw [names_settings]
  exact nodup_takeLines hd List.nodup_nil

end Catalogue.Toml
