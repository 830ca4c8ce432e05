import Catalogue.Proofs.RecordProjection
import Catalogue.Proofs.ResourceRereading

namespace Catalogue

open Json

section Shapes

theorem ItemSuperType.shape_lawful : shape.Lawful where
  toWhole := shape_whole
  apart := by repeat' first | exact trivial | refine ⟨fun _ _ => rfl, ?_⟩
  absent := by repeat' first | refine List.forall_mem_cons.2 ⟨rfl, ?_⟩ | exact nofun

theorem ItemType.shape_lawful : shape.Lawful where
  toWhole := shape_whole
  apart := by repeat' first | exact trivial | refine ⟨fun _ _ => rfl, ?_⟩
  absent := by repeat' first | refine List.forall_mem_cons.2 ⟨rfl, ?_⟩ | exact nofun

theorem Item.shape_lawful : shape.Lawful where
  toWhole := shape_whole
  apart := by repeat' first | exact trivial | refine ⟨fun _ _ => rfl, ?_⟩
  absent := by repeat' first | refine List.forall_mem_cons.2 ⟨rfl, ?_⟩ | exact nofun

theorem ItemSet.shape_lawful : shape.Lawful where
  toWhole := shape_whole
  apart := by repeat' first | exact trivial | refine ⟨fun _ _ => rfl, ?_⟩
  absent := by repeat' first | refine List.forall_mem_cons.2 ⟨rfl, ?_⟩ | exact nofun

end Shapes

/-- Every resource is decoded from any of its members, in any order and among any that are not known.
The text may be put together from those of the members. -/
theorem resources_project :
    (Item.shape.Projects ∧ ItemType.shape.Projects ∧ ItemSuperType.shape.Projects ∧
      ItemSet.shape.Projects) ∧
    ∀ ms members, List.Forall₂ Member.Reads ms members → Lists (Member.object ms) members := by
  refine ⟨⟨?_, ?_, ?_, ?_⟩, fun _ _ => document_object⟩
  · exact Item.shape_lawful.projects
  · exact ItemType.shape_lawful.projects
  · exact ItemSuperType.shape_lawful.projects
  · exact ItemSet.shape_lawful.projects

example (x : ItemType) :
    ItemType.shape.without [some "superType", some "gender", some "season"] x =
      { x with superType := none, gender := none } := rfl

def idMember : Option String × Tree := (some "id", .number (some (.nat 7)))

def nameMember : Option String × Tree :=
  (some "name", .object [(some "fr", .text (some "Gelano"))] true)

def levelMember : Option String × Tree := (some "level", .number (some (.nat 60)))

def effectsMember : Option String × Tree := (some "effects", .array [] true)

def seasonMember : Option String × Tree :=
  (some "season", .array [.number (some (.nat 1)), .object [(some "new", .null)] true] true)

def wholeText : String :=
  "\x7b\"id\":7,\"name\":\x7b\"fr\":\"Gelano\"\x7d,\"level\":60,\"effects\":[]\x7d"

def partTexts : List Member :=
  [⟨source "\"level\"", source "60"⟩, ⟨source " \"season\" ", source " [1, \x7b\"new\": null\x7d]"⟩,
    ⟨source "\"id\"", source "7 "⟩]

def wholeItem : Item where
  id := some 7
  name := some { fr := some "Gelano" }
  level := some 60
  effects := some []

theorem part_projected :
    Shape.Projected Item.slots [idMember, nameMember, levelMember, effectsMember]
      [idMember, levelMember] [nameMember, effectsMember] [seasonMember]
      [levelMember, seasonMember, idMember] where
  distinct := by decide
  split := .cons idMember (.swap levelMember nameMember [effectsMember])
  unknown := by
    rw [List.forall_mem_singleton]
    exact ⟨"season", rfl, rfl⟩
  joined := by
    change ([levelMember, seasonMember] ++ [idMember]).Perm
      ([idMember] ++ [levelMember, seasonMember])
    exact List.perm_append_comm

theorem part_decodes :
    Lists (source wholeText) [idMember, nameMember, levelMember, effectsMember] ∧
      List.Forall₂ Member.Reads partTexts [levelMember, seasonMember, idMember] ∧
      Item.codec.decode wholeText = .ok wholeItem ∧
      Item.codec.decodeSource (Member.object partTexts) =
        .ok { id := some 7, level := some 60 } := by
  obtain ⟨⟨hitem, -⟩, hjoin⟩ := resources_project
  have hwhole : Lists (source wholeText) [idMember, nameMember, levelMember, effectsMember] := rfl
  have hpart : List.Forall₂ Member.Reads partTexts [levelMember, seasonMember, idMember] :=
    .cons ⟨rfl, rfl⟩ (.cons ⟨rfl, rfl⟩ (.cons ⟨rfl, rfl⟩ .nil))
  have hdecode : Item.codec.decode wholeText = .ok wholeItem := rfl
  exact ⟨hwhole, hpart, hdecode,
    hitem.decodes hwhole (hjoin partTexts _ hpart) part_projected hdecode⟩

end Catalogue
