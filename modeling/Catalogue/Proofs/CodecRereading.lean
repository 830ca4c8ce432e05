import Catalogue.Json.Codec
import Catalogue.Proofs.JsonDocument

namespace Catalogue

def DateTime.Rereads (t : DateTime) : Prop := DateTime.parse t.zuluText = .ok t

namespace Json

theorem enter_succ {n depth : Nat} (h : n + 1 < depth) :
    ∃ inner, enter depth = .ok inner ∧ n < inner := by
  refine ⟨depth - 1, ?_, by omega⟩
  rw [enter, if_neg (by omega)]

section Keeping

variable {depth : Nat}

theorem keepItems_of_forall {items : List Json}
    (h : ∀ item ∈ items, keep depth item.tree = .ok item) :
    keepItems depth (treeItems items) = .ok items := by
  induction items with
  | nil => rfl
  | cons item items ih =>
      rw [List.forall_mem_cons] at h
      rw [treeItems, keepItems, h.1, ih h.2]
      rfl

theorem keepMembers_of_forall {members : List (String × Json)}
    (h : ∀ member ∈ members, keep depth member.2.tree = .ok member.2) :
    keepMembers depth (treeMembers members) = .ok members := by
  induction members with
  | nil => rfl
  | cons member members ih =>
      rw [List.forall_mem_cons] at h
      have hmember : keepMember depth (treeMember member) = .ok member := by
        rw [treeMember, keepMember, h.1]
        rfl
      rw [treeMembers, keepMembers, hmember, ih h.2]
      rfl

theorem keep_tree {n : Nat} {j : Json} (h : Within n j) (hdepth : n < depth) :
    keep depth j.tree = .ok j := by
  induction h generalizing depth with
  | null | bool | number | text => rfl
  | array _ ih =>
      obtain ⟨inner, henter, hinner⟩ := enter_succ hdepth
      rw [tree, keep, henter]
      change (keepItems inner _ >>= _) = _
      rw [keepItems_of_forall fun item hitem => ih item hitem hinner]
      rfl
  | object _ ih =>
      obtain ⟨inner, henter, hinner⟩ := enter_succ hdepth
      rw [tree, keep, henter]
      change (keepMembers inner _ >>= _) = _
      rw [keepMembers_of_forall fun member hmember => ih member hmember hinner]
      rfl

end Keeping

namespace Codec

variable {α β : Type}

/-- The codec reads `a` back from what it writes for it, which has at most `n` levels. -/
structure Rereads (c : Codec α) (n : Nat) (a : α) : Prop where
  within : Within n (c.write a)
  read : ∀ depth, n < depth → c.read depth (c.write a).tree = .ok a
  ofJson : c.ofJson (c.write a) = some a

/-- The codec reads `a` back, and does not write it as what stands for an absent value. -/
structure Present (c : Codec α) (n : Nat) (a : α) : Prop extends c.Rereads n a where
  ne_null : c.write a ≠ .null

theorem Rereads.decode_encode {c : Codec α} {n : Nat} {a : α} (h : c.Rereads n a)
    (hn : n < nesting) : c.decode (c.encode a) = .ok a := by
  have hdocument : document ((c.encode a).toList.map some) = ⟨(c.write a).tree, true⟩ :=
    document_render h.within
  rw [decode, decodeSource, hdocument]
  change (c.read nesting (c.write a).tree >>= _) = _
  rw [h.read nesting hn]
  rfl

section Numbers

variable {name : String} {least greatest : Int} {ofInt : Int → α} {toInt : α → Int}

theorem toInt?_ofInt {k : Int} (hleast : -0x8000000000000000 ≤ k)
    (hgreatest : k ≤ 0xFFFFFFFFFFFFFFFF) :
    (Number.ofInt k).Exact ∧ (Number.ofInt k).toInt? = some k := by
  unfold Number.ofInt
  split
  · next h =>
    have hk : ((UInt64.ofInt k).toNat : Int) = k := by
      simp [UInt64.ofInt]
      omega
    exact ⟨trivial, by rw [Number.toInt?, hk]⟩
  · next h =>
    have hk : (Int64.ofInt k).toInt = k := Int64.toInt_ofInt_of_le (by omega) (by omega)
    refine ⟨?_, by rw [Number.toInt?, hk]⟩
    change (Int64.ofInt k).toInt < 0
    omega

theorem present_integer {a : α} (hleast : -0x8000000000000000 ≤ least)
    (hgreatest : greatest ≤ 0xFFFFFFFFFFFFFFFF) (ha : least ≤ toInt a ∧ toInt a ≤ greatest)
    (hinverse : ofInt (toInt a) = a) (n : Nat) :
    (integer name least greatest ofInt toInt).Present n a := by
  obtain ⟨hexact, hvalue⟩ := toInt?_ofInt (k := toInt a) (by omega) (by omega)
  refine ⟨⟨.number n hexact, fun depth _ => ?_, ?_⟩, nofun⟩
  · simp [integer, tree, hvalue, ha, hinverse]
  · simp [integer, hvalue, ha, hinverse]

@[simp] theorem present_int32 (n : Nat) (a : Int32) : int32.Present n a := by
  have hleast := a.le_toInt
  have hgreatest := a.toInt_lt
  exact present_integer (by decide) (by decide) (by omega) a.ofInt_toInt n

@[simp] theorem present_int64 (n : Nat) (a : Int64) : int64.Present n a := by
  have hleast := a.le_toInt
  have hgreatest := a.toInt_lt
  exact present_integer (by decide) (by decide) (by omega) a.ofInt_toInt n

@[simp] theorem present_uint32 (n : Nat) (a : UInt32) : uint32.Present n a := by
  have hlt := a.toNat_lt
  have hinverse : UInt32.ofInt a.toNat = a := by
    have hmod : ((a.toNat : Int) % 2 ^ 32).toNat = a.toNat := by omega
    rw [UInt32.ofInt, hmod, UInt32.ofNat_toNat]
  exact present_integer (by decide) (by decide) (by omega) hinverse n

theorem present_count (n : Nat) {a : Nat} (h : a < UInt64.size) : count.Present n a := by
  unfold UInt64.size at h
  exact present_integer (by decide) (by decide) (by simp; omega) rfl n

end Numbers

@[simp] theorem present_bool (n : Nat) (b : Bool) : bool.Present n b :=
  ⟨⟨.bool n b, fun _ _ => rfl, rfl⟩, nofun⟩

@[simp] theorem present_string (n : Nat) (s : String) : string.Present n s :=
  ⟨⟨.text n s, fun _ _ => rfl, rfl⟩, nofun⟩

theorem instant_read (depth : Nat) (s : String) :
    instant.read depth (.text (some s)) = (DateTime.parse s).mapError .instant := rfl

theorem instant_ofJson (s : String) : instant.ofJson (.text s) = (DateTime.parse s).toOption := rfl

theorem instant_write (t : DateTime) : instant.write t = .text t.zuluText := rfl

@[simp] theorem present_instant {n : Nat} {t : DateTime} : instant.Present n t ↔ t.Rereads := by
  unfold DateTime.Rereads
  constructor
  · intro h
    have hread := h.ofJson
    rw [instant_write, instant_ofJson] at hread
    cases hparse : DateTime.parse t.zuluText with
    | error e =>
        rw [hparse] at hread
        cases hread
    | ok t' =>
        rw [hparse] at hread
        cases hread
        rfl
  · intro h
    refine ⟨⟨.text n t.zuluText, fun depth _ => ?_, ?_⟩, nofun⟩
    · rw [instant_write, tree, instant_read, h]
      rfl
    · rw [instant_write, instant_ofJson, h]
      rfl

theorem option_read {c : Codec α} {t : Tree} (h : t ≠ .null) (depth : Nat) :
    c.option.read depth t = some <$> c.read depth t := by
  cases t <;> first | rfl | exact absurd rfl h

theorem option_ofJson {c : Codec α} {j : Json} (h : j ≠ .null) :
    c.option.ofJson j = some <$> c.ofJson j := by
  cases j <;> first | rfl | exact absurd rfl h

theorem tree_ne_null {j : Json} (h : j ≠ .null) : j.tree ≠ .null := by
  cases j <;> simp_all [tree]

@[simp] theorem rereads_option {c : Codec α} {n : Nat} {v : Option α} :
    c.option.Rereads n v ↔ ∀ a ∈ v, c.Present n a := by
  constructor
  · rintro ⟨hwithin, hread, hjson⟩ a rfl
    have hne : c.write a ≠ .null := by
      intro heq
      change c.option.ofJson (c.write a) = some (some a) at hjson
      rw [heq] at hjson
      cases hjson
    refine ⟨⟨hwithin, fun depth hdepth => ?_, ?_⟩, hne⟩
    · have hsome := hread depth hdepth
      change c.option.read depth (c.write a).tree = .ok (some a) at hsome
      rw [option_read (tree_ne_null hne)] at hsome
      cases hc : c.read depth (c.write a).tree with
      | error e => rw [hc] at hsome; cases hsome
      | ok b => rw [hc] at hsome; cases hsome; rfl
    · change c.option.ofJson (c.write a) = some (some a) at hjson
      rw [option_ofJson hne] at hjson
      simpa using hjson
  · intro h
    cases v with
    | none => exact ⟨.null n, fun _ _ => rfl, rfl⟩
    | some a =>
        have ha := h a rfl
        refine ⟨ha.within, fun depth hdepth => ?_, ?_⟩
        · change c.option.read depth (c.write a).tree = _
          rw [option_read (tree_ne_null ha.ne_null), ha.read depth hdepth]
          rfl
        · change c.option.ofJson (c.write a) = _
          rw [option_ofJson ha.ne_null, ha.ofJson]
          rfl

theorem mapM_read {c : Codec α} {depth : Nat} {values : List α}
    (h : ∀ a ∈ values, c.read depth (c.write a).tree = .ok a) :
    ((values.map c.write).map tree).mapM (c.read depth) = .ok values := by
  induction values with
  | nil => rfl
  | cons a values ih =>
      rw [List.forall_mem_cons] at h
      rw [List.map_cons, List.map_cons, List.mapM_cons, h.1, ih h.2]
      rfl

theorem mapM_ofJson {c : Codec α} {values : List α}
    (h : ∀ a ∈ values, c.ofJson (c.write a) = some a) :
    (values.map c.write).mapM c.ofJson = some values := by
  induction values with
  | nil => rfl
  | cons a values ih =>
      rw [List.forall_mem_cons] at h
      rw [List.map_cons, List.mapM_cons, h.1, ih h.2]
      rfl

theorem present_list {c : Codec α} {n : Nat} {values : List α} (h : ∀ a ∈ values, c.Rereads n a) :
    c.list.Present (n + 1) values := by
  refine ⟨⟨.array ?_, fun depth hdepth => ?_, mapM_ofJson fun a ha => (h a ha).ofJson⟩, nofun⟩
  · intro item hitem
    obtain ⟨a, ha, rfl⟩ := List.mem_map.1 hitem
    exact (h a ha).within
  · obtain ⟨inner, henter, hinner⟩ := enter_succ hdepth
    change (enter depth >>= fun inner => _) = _
    rw [henter]
    change ((treeItems (values.map c.write)).mapM (c.read inner) >>= _) = _
    rw [treeItems_eq_map, mapM_read fun a ha => (h a ha).read inner hinner]
    rfl

theorem present_pair {c : Codec α} {d : Codec β} {n : Nat} {p : α × β} (hfst : c.Rereads n p.1)
    (hsnd : d.Rereads n p.2) : (c.pair d).Present (n + 1) p := by
  refine ⟨⟨.array ?_, fun depth hdepth => ?_, ?_⟩, nofun⟩
  · intro item hitem
    simp only [List.mem_cons, List.not_mem_nil, or_false] at hitem
    obtain rfl | rfl := hitem
    · exact hfst.within
    · exact hsnd.within
  · obtain ⟨inner, henter, hinner⟩ := enter_succ hdepth
    change (enter depth >>= fun inner => _) = _
    rw [henter]
    change (c.read inner (c.write p.1).tree >>= _) = _
    rw [hfst.read inner hinner]
    change (d.read inner (d.write p.2).tree >>= _) = _
    rw [hsnd.read inner hinner]
    rfl
  · change (c.ofJson (c.write p.1) >>= _) = _
    rw [hfst.ofJson]
    change (d.ofJson (d.write p.2) >>= _) = _
    rw [hsnd.ofJson]
    rfl

theorem orFalse_read {c : Codec α} {depth : Nat} {t : Tree} {j : Json} {a : α}
    (hkeep : keep depth t = .ok j) (hj : ∀ b, j ≠ .bool b) (ha : c.ofJson j = some a) :
    c.orFalse.read depth t = .ok (.value a) := by
  change (keep depth t >>= _) = _
  rw [hkeep]
  cases j with
  | bool b => exact absurd rfl (hj b)
  | null | number | text | array | object =>
      simp only [bind, Except.bind]
      rw [ha]

theorem orFalse_ofJson {c : Codec α} {j : Json} (hj : ∀ b, j ≠ .bool b) :
    c.orFalse.ofJson j = .value <$> c.ofJson j := by
  cases j with
  | bool b => exact absurd rfl (hj b)
  | null | number | text | array | object => rfl

/-- A value is told from `false` in its place if no value is written as a truth value. -/
theorem present_orFalse {c : Codec α} (hbool : ∀ b, c.ofJson (.bool b) = none) {n : Nat}
    {v : OrFalse α} (h : ∀ a, v = .value a → c.Present n a) : c.orFalse.Present n v := by
  cases v with
  | absent => exact ⟨⟨.bool n false, fun _ _ => rfl, rfl⟩, nofun⟩
  | value a =>
      have ha := h a rfl
      have hne (b : Bool) : c.write a ≠ .bool b := by
        intro heq
        have hjson := ha.ofJson
        rw [heq, hbool] at hjson
        cases hjson
      refine ⟨⟨ha.within, fun depth hdepth => ?_, ?_⟩, ha.ne_null⟩
      · exact orFalse_read (keep_tree ha.within hdepth) hne ha.ofJson
      · change c.orFalse.ofJson (c.write a) = _
        rw [orFalse_ofJson hne, ha.ofJson]
        rfl

end Codec

end Json

end Catalogue
