import Catalogue.Json.Tree
import Catalogue.Proofs.JsonScanning

namespace Catalogue.Json

def source (text : String) : List (Option Char) := text.toList.map some

section Building

variable {inner stack : List Frame} {due : Due} {t : Tree}

theorem advance_append {token : Token} {inner' : List Frame} {due' : Due}
    (h : advance inner due token = some (inner', due')) :
    advance (inner ++ stack) due token = some (inner' ++ stack, due') := by
  cases due with
  | value | firstItem | colon => cases token <;> cases h <;> rfl
  | key members first => cases token <;> cases first <;> cases h <;> rfl
  | next t =>
      rcases inner with _ | ⟨_ | _, inner⟩
      · cases token <;> cases h
      · cases token <;> cases h <;> rfl
      · cases token <;> cases h <;> rfl

theorem breakOff_clean (h : breakOff inner due = ⟨t, true⟩) : inner = [] ∧ due = .next t := by
  cases due with
  | next t' =>
      rw [breakOff, Document.mk.injEq, List.isEmpty_iff] at h
      obtain ⟨rfl, rfl⟩ := h
      exact ⟨rfl, rfl⟩
  | value | firstItem | key | colon => simp [breakOff] at h

/-- What is built whole by itself is built as well inside of containers that are open. -/
theorem build_append {toks : List Token} (rest : List Token)
    (h : build inner due toks = ⟨t, true⟩) :
    build (inner ++ stack) due (toks ++ rest) = build stack (.next t) rest := by
  -- `inner` is all that the tokens themselves have opened, so nothing of `stack` is looked at.
  induction toks generalizing inner due with
  | nil =>
      obtain ⟨rfl, rfl⟩ := breakOff_clean h
      rfl
  | cons token toks ih =>
      rw [List.cons_append, build]
      rw [build] at h
      cases hstep : advance inner due token with
      | none => simp [hstep] at h
      | some next =>
          rw [hstep] at h
          rw [advance_append hstep]
          exact ih h

theorem notMem_broken {toks : List Token} (h : build inner due toks = ⟨t, true⟩) :
    .broken ∉ toks := by
  induction toks generalizing inner due with
  | nil => exact List.not_mem_nil
  | cons token toks ih =>
      rw [build] at h
      cases hstep : advance inner due token with
      | none => simp [hstep] at h
      | some next =>
          rw [hstep] at h
          intro hmem
          obtain rfl | hmem := List.mem_cons.1 hmem
          · cases due <;> cases hstep
          · exact ih h hmem

theorem completeItems_iff {items : List Tree} :
    completeItems items ↔ ∀ item ∈ items, item.complete := by
  induction items with
  | nil => simp [completeItems]
  | cons item items ih => simp [completeItems, ih]

theorem completeMembers_iff {members : List (Option String × Tree)} :
    completeMembers members ↔ ∀ member ∈ members, member.2.complete := by
  induction members with
  | nil => simp [completeMembers]
  | cons member members ih =>
      obtain ⟨key, t⟩ := member
      simp [completeMembers, completeMember, ih]

def Frame.Whole : Frame → Prop
  | .array items => ∀ item ∈ items, item.complete
  | .object members _ => ∀ member ∈ members, member.2.complete

def Due.Whole : Due → Prop
  | .value | .firstItem => True
  | .key members _ | .colon members _ => ∀ member ∈ members, member.2.complete
  | .next t => t.complete

theorem array_complete {items : List Tree} (h : ∀ item ∈ items, item.complete) :
    (Tree.array items.reverse true).complete := by
  rw [Tree.complete, Bool.true_and, completeItems_iff]
  exact fun item hitem => h item (List.mem_reverse.1 hitem)

theorem object_complete {members : List (Option String × Tree)}
    (h : ∀ member ∈ members, member.2.complete) :
    (Tree.object members.reverse true).complete := by
  rw [Tree.complete, Bool.true_and, completeMembers_iff]
  exact fun member hmember => h member (List.mem_reverse.1 hmember)

theorem beginValue_whole {token : Token} {stack' : List Frame} {due' : Due}
    (h : beginValue stack token = some (stack', due')) (hstack : ∀ frame ∈ stack, frame.Whole) :
    (∀ frame ∈ stack', frame.Whole) ∧ due'.Whole := by
  cases token <;> cases h
  case openArray => exact ⟨hstack, trivial⟩
  case openObject => exact ⟨hstack, nofun⟩
  all_goals exact ⟨hstack, rfl⟩

theorem advance_whole {token : Token} {stack' : List Frame} {due' : Due}
    (h : advance stack due token = some (stack', due')) (hstack : ∀ frame ∈ stack, frame.Whole)
    (hdue : due.Whole) : (∀ frame ∈ stack', frame.Whole) ∧ due'.Whole := by
  cases due with
  | value => exact beginValue_whole h hstack
  | firstItem =>
      have hopen : ∀ frame ∈ .array [] :: stack, frame.Whole :=
        List.forall_mem_cons.2 ⟨nofun, hstack⟩
      by_cases hclose : token = .closeArray
      · subst hclose
        cases h
        exact ⟨hstack, rfl⟩
      · have hbegin : beginValue (.array [] :: stack) token = some (stack', due') := by
          rw [← h, advance]
          exact hclose
        exact beginValue_whole hbegin hopen
  | key members first =>
      cases token <;> cases first <;> cases h
      · exact ⟨hstack, object_complete hdue⟩
      · exact ⟨hstack, hdue⟩
      · exact ⟨hstack, hdue⟩
  | colon members key =>
      cases token <;> cases h
      exact ⟨List.forall_mem_cons.2 ⟨hdue, hstack⟩, trivial⟩
  | next t =>
      rcases stack with _ | ⟨items | ⟨members, key⟩, stack⟩
      · cases token <;> cases h
      · rw [List.forall_mem_cons] at hstack
        have hitems : ∀ item ∈ t :: items, item.complete :=
          List.forall_mem_cons.2 ⟨hdue, hstack.1⟩
        cases token <;> cases h
        · exact ⟨hstack.2, array_complete hitems⟩
        · exact ⟨List.forall_mem_cons.2 ⟨hitems, hstack.2⟩, trivial⟩
      · rw [List.forall_mem_cons] at hstack
        have hmembers : ∀ member ∈ (key, t) :: members, member.2.complete :=
          List.forall_mem_cons.2 ⟨hdue, hstack.1⟩
        cases token <;> cases h
        · exact ⟨hstack.2, object_complete hmembers⟩
        · exact ⟨hstack.2, hmembers⟩

theorem build_complete {toks : List Token} (h : build stack due toks = ⟨t, true⟩)
    (hstack : ∀ frame ∈ stack, frame.Whole) (hdue : due.Whole) : t.complete := by
  induction toks generalizing stack due with
  | nil =>
      obtain ⟨rfl, rfl⟩ := breakOff_clean h
      exact hdue
  | cons token toks ih =>
      rw [build] at h
      cases hstep : advance stack due token with
      | none => simp [hstep] at h
      | some next =>
          rw [hstep] at h
          obtain ⟨hstack', hdue'⟩ := advance_whole hstep hstack hdue
          exact ih h hstack' hdue'

theorem document_complete {value : List (Option Char)} (h : document value = ⟨t, true⟩) :
    t.complete :=
  build_complete h nofun trivial

end Building

section Containers

variable {stack : List Frame} {t : Tree} {c : Char} {value rest : List (Option Char)}

theorem build_value (hc : isNumberChar c = false) (h : document value = ⟨t, true⟩) :
    build stack .value (tokens (value ++ some c :: rest)) =
      build stack (.next t) (tokens (some c :: rest)) := by
  rw [tokens, tokensFrom_append hc (notMem_broken h)]
  change build ([] ++ stack) .value (tokens value ++ tokens (some c :: rest)) = _
  exact build_append (tokens (some c :: rest)) h

theorem build_firstItem (hc : isNumberChar c = false) (h : document value = ⟨t, true⟩) :
    build stack .firstItem (tokens (value ++ some c :: rest)) =
      build (.array [] :: stack) .value (tokens (value ++ some c :: rest)) := by
  rw [tokens, tokensFrom_append hc (notMem_broken h)]
  change build [] .value (tokensFrom .idle value) = ⟨t, true⟩ at h
  -- A closing bracket, the one token that would end the array here, begins no value.
  generalize tokensFrom .idle value = toks at h ⊢
  rcases toks with _ | ⟨token, toks⟩
  · simp [build, breakOff] at h
  · cases token <;> first | rfl | cases h

theorem build_items (items : List Tree) {values : List (List (Option Char))} {trees : List Tree}
    (hvalues : List.Forall₂ (fun value t => document value = ⟨t, true⟩) values trees)
    (hne : values ≠ []) :
    build (.array items :: stack) .value (tokens ([some ','].intercalate values ++ [some ']'])) =
      build stack (.next (.array (items.reverse ++ trees) true)) [] := by
  induction hvalues generalizing items with
  | nil => exact absurd rfl hne
  | @cons value t values trees hvalue hvalues ih =>
      by_cases hlast : values = []
      · subst hlast
        cases hvalues
        rw [List.intercalate_singleton, build_value (by decide) hvalue, ← List.reverse_cons]
        rfl
      · rw [List.intercalate_cons_of_ne_nil hlast, List.append_assoc, List.append_assoc,
          List.singleton_append, build_value (by decide) hvalue]
        have hnext := ih (t :: items) hlast
        rw [List.reverse_cons, List.append_assoc] at hnext
        exact hnext

theorem exists_after (value : List (Option Char)) (values : List (List (Option Char))) :
    ∃ c rest, isNumberChar c = false ∧
      [some ','].intercalate (value :: values) ++ [some ']'] = value ++ some c :: rest := by
  by_cases hlast : values = []
  · exact ⟨']', [], by decide, by rw [hlast, List.intercalate_singleton]⟩
  · refine ⟨',', [some ','].intercalate values ++ [some ']'], by decide, ?_⟩
    rw [List.intercalate_cons_of_ne_nil hlast, List.append_assoc, List.append_assoc]
    rfl

theorem document_array {values : List (List (Option Char))} {trees : List Tree}
    (hvalues : List.Forall₂ (fun value t => document value = ⟨t, true⟩) values trees) :
    document (some '[' :: [some ','].intercalate values ++ [some ']']) =
      ⟨.array trees true, true⟩ := by
  cases hvalues with
  | nil => rfl
  | @cons value t values trees hvalue hvalues =>
      obtain ⟨c, rest, hc, hafter⟩ := exists_after value values
      have hopen : document (some '[' :: (value ++ some c :: rest)) =
          build [] .firstItem (tokens (value ++ some c :: rest)) := rfl
      rw [List.cons_append, hafter, hopen, build_firstItem hc hvalue, ← hafter,
        build_items [] (.cons hvalue hvalues) (List.cons_ne_nil value values)]
      rfl

structure Member where
  key : List (Option Char)
  value : List (Option Char)

namespace Member

def entry (m : Member) : List (Option Char) := m.key ++ some ':' :: m.value

def Reads (m : Member) (member : Option String × Tree) : Prop :=
  tokens m.key = [.text member.1] ∧ document m.value = ⟨member.2, true⟩

end Member

theorem build_member {m : Member} {member : Option String × Tree}
    {members : List (Option String × Tree)} {first : Bool} (hc : isNumberChar c = false)
    (h : m.Reads member) :
    build stack (.key members first) (tokens (m.entry ++ some c :: rest)) =
      build (.object members member.1 :: stack) (.next member.2) (tokens (some c :: rest)) := by
  obtain ⟨hkey, hvalue⟩ := h
  have hwhole : .broken ∉ tokensFrom .idle m.key := by
    change .broken ∉ tokens m.key
    simp [hkey]
  have htokens : tokens (m.entry ++ some c :: rest) =
      .text member.1 :: .colon :: tokens (m.value ++ some c :: rest) := by
    rw [Member.entry, List.append_assoc, List.cons_append, tokens,
      tokensFrom_append (by decide) hwhole]
    change tokens m.key ++ tokens (some ':' :: (m.value ++ some c :: rest)) = _
    rw [hkey]
    rfl
  rw [htokens, ← build_value hc hvalue]
  rfl

theorem build_members (members : List (Option String × Tree)) (first : Bool) {ms : List Member}
    {trees : List (Option String × Tree)} (hms : List.Forall₂ Member.Reads ms trees)
    (hne : ms ≠ []) :
    build stack (.key members first)
        (tokens ([some ','].intercalate (ms.map Member.entry) ++ [some '\x7d'])) =
      build stack (.next (.object (members.reverse ++ trees) true)) [] := by
  induction hms generalizing members first with
  | nil => exact absurd rfl hne
  | @cons m member ms trees hm hms ih =>
      by_cases hlast : ms = []
      · subst hlast
        cases hms
        rw [List.map_singleton, List.intercalate_singleton, build_member (by decide) hm,
          ← List.reverse_cons]
        rfl
      · have hmap : ms.map Member.entry ≠ [] := by simpa using hlast
        rw [List.map_cons, List.intercalate_cons_of_ne_nil hmap, List.append_assoc,
          List.append_assoc, List.singleton_append, build_member (by decide) hm]
        have hnext := ih (member :: members) false hlast
        rw [List.reverse_cons, List.append_assoc] at hnext
        exact hnext

def Member.object (ms : List Member) : List (Option Char) :=
  some '\x7b' :: [some ','].intercalate (ms.map Member.entry) ++ [some '\x7d']

theorem document_object {ms : List Member} {members : List (Option String × Tree)}
    (hms : List.Forall₂ Member.Reads ms members) :
    document (Member.object ms) = ⟨.object members true, true⟩ := by
  by_cases hne : ms = []
  · subst hne
    cases hms
    rfl
  · have hopen : document (Member.object ms) = build [] (.key [] true)
        (tokens ([some ','].intercalate (ms.map Member.entry) ++ [some '\x7d'])) := rfl
    rw [hopen, build_members [] true hms hne]
    rfl

end Containers

mutual

def tree : Json → Tree
  | .null => .null
  | .bool b => .bool b
  | .number n => .number (some n)
  | .text s => .text (some s)
  | .array items => .array (treeItems items) true
  | .object members => .object (treeMembers members) true

def treeItems : List Json → List Tree
  | [] => []
  | item :: items => item.tree :: treeItems items

def treeMembers : List (String × Json) → List (Option String × Tree)
  | [] => []
  | member :: members => treeMember member :: treeMembers members

def treeMember : String × Json → Option String × Tree
  | (key, value) => (some key, value.tree)

end

theorem treeItems_eq_map (items : List Json) : treeItems items = items.map tree := by
  induction items with
  | nil => rfl
  | cons item items ih => rw [treeItems, ih, List.map_cons]

theorem treeMembers_eq_map (members : List (String × Json)) :
    treeMembers members = members.map treeMember := by
  induction members with
  | nil => rfl
  | cons member members ih => rw [treeMembers, ih, List.map_cons]

/-- A value without floats that nests arrays and objects to a depth of `n` at most. -/
inductive Within : Nat → Json → Prop
  | null (n : Nat) : Within n .null
  | bool (n : Nat) (b : Bool) : Within n (.bool b)
  | number (n : Nat) {x : Number} (h : x.Exact) : Within n (.number x)
  | text (n : Nat) (s : String) : Within n (.text s)
  | array {n : Nat} {items : List Json} (h : ∀ item ∈ items, Within n item) :
      Within (n + 1) (.array items)
  | object {n : Nat} {members : List (String × Json)} (h : ∀ member ∈ members, Within n member.2) :
      Within (n + 1) (.object members)

section Rendering

theorem source_append (s t : String) : source (s ++ t) = source s ++ source t := by
  simp [source]

theorem source_intercalate (texts : List String) :
    source (",".intercalate texts) = [some ','].intercalate (texts.map source) := by
  induction texts with
  | nil => rfl
  | cons text texts ih =>
      cases texts with
      | nil => simp
      | cons next texts =>
          rw [List.map_cons, String.intercalate_cons_cons, source_append, source_append, ih,
            List.intercalate_cons_of_ne_nil (by simp)]
          rfl

theorem renderItems_eq (items : List Json) :
    renderItems items = ",".intercalate (items.map render) := by
  induction items with
  | nil => rfl
  | cons item items ih =>
      cases items with
      | nil => simp [renderItems]
      | cons next items =>
          rw [renderItems, ih]
          · exact String.intercalate_cons_cons.symm
          · exact List.cons_ne_nil next items

theorem renderMembers_eq (members : List (String × Json)) :
    renderMembers members = ",".intercalate (members.map renderMember) := by
  induction members with
  | nil => rfl
  | cons member members ih =>
      cases members with
      | nil => simp [renderMembers]
      | cons next members =>
          rw [renderMembers, ih]
          · exact String.intercalate_cons_cons.symm
          · exact List.cons_ne_nil next members

def Member.ofJson (member : String × Json) : Member :=
  ⟨source (quote member.1), source member.2.render⟩

/-- A value that is written out is read back whole. -/
theorem document_render {n : Nat} {j : Json} (h : Within n j) :
    document (source j.render) = ⟨j.tree, true⟩ := by
  induction h with
  | null => rfl
  | bool _ b => cases b <;> rfl
  | number _ hx =>
      rw [document, render, source, tokens_number hx]
      rfl
  | text _ s =>
      rw [document, render, source, tokens_quote]
      rfl
  | @array _ items _ ih =>
      have hsource : source (render (.array items)) = some '[' ::
          [some ','].intercalate ((items.map render).map source) ++ [some ']'] := by
        rw [render, renderItems_eq, source_append, source_append, source_intercalate]
        rfl
      have hitems : List.Forall₂ (fun value t => document value = ⟨t, true⟩)
          ((items.map render).map source) (treeItems items) := by
        rw [treeItems_eq_map, List.map_map, List.forall₂_map_left_iff, List.forall₂_map_right_iff,
          List.forall₂_same]
        exact ih
      rw [hsource, document_array hitems, tree]
  | @object _ members _ ih =>
      have hentry : source ∘ renderMember = Member.entry ∘ Member.ofJson := by
        funext ⟨key, value⟩
        simp [renderMember, Member.entry, Member.ofJson, source]
      have hsource : source (render (.object members)) =
          Member.object (members.map Member.ofJson) := by
        rw [render, renderMembers_eq, source_append, source_append, source_intercalate,
          Member.object, List.map_map, List.map_map, hentry]
        rfl
      have hmembers :
          List.Forall₂ Member.Reads (members.map Member.ofJson) (treeMembers members) := by
        rw [treeMembers_eq_map, List.forall₂_map_left_iff, List.forall₂_map_right_iff,
          List.forall₂_same]
        rintro ⟨key, value⟩ hmember
        exact ⟨tokens_quote key, ih (key, value) hmember⟩
      rw [hsource, document_object hmembers, tree]

end Rendering

end Catalogue.Json
