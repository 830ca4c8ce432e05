import Catalogue.Expr.Field
import Catalogue.Resource.Item

namespace Catalogue

structure TranslationsView where
  expr : Expr

structure ItemSuperTypeView where
  expr : Expr

structure ItemTypeView where
  expr : Expr

structure ItemView where
  expr : Expr

structure ItemSetView where
  expr : Expr

instance : View TranslationsView := ⟨.mk, (·.expr)⟩
instance : View ItemSuperTypeView := ⟨.mk, (·.expr)⟩
instance : View ItemTypeView := ⟨.mk, (·.expr)⟩
instance : View ItemView := ⟨.mk, (·.expr)⟩
instance : View ItemSetView := ⟨.mk, (·.expr)⟩

namespace TranslationsView

def de (v : TranslationsView) : Field String := View.inside v "de"
def en (v : TranslationsView) : Field String := View.inside v "en"
def es (v : TranslationsView) : Field String := View.inside v "es"
def fr (v : TranslationsView) : Field String := View.inside v "fr"
def pt (v : TranslationsView) : Field String := View.inside v "pt"

end TranslationsView

namespace ItemSuperTypeView

def id (v : ItemSuperTypeView) : Field Int32 := View.inside v "id"
def name (v : ItemSuperTypeView) : TranslationsView := View.inside v "name"

end ItemSuperTypeView

namespace ItemTypeView

def id (v : ItemTypeView) : Field Int32 := View.inside v "id"
def name (v : ItemTypeView) : TranslationsView := View.inside v "name"
def superTypeId (v : ItemTypeView) : Field Int32 := View.inside v "superTypeId"
def categoryId (v : ItemTypeView) : Field Int32 := View.inside v "categoryId"
def isInEncyclopedia (v : ItemTypeView) : Field Bool := View.inside v "isInEncyclopedia"
def mimickable (v : ItemTypeView) : Field Bool := View.inside v "mimickable"

end ItemTypeView

namespace ItemView

def id (v : ItemView) : Field Int32 := View.inside v "id"
def typeId (v : ItemView) : Field Int32 := View.inside v "typeId"
def itemType (v : ItemView) : ItemTypeView := View.inside v "type"
def name (v : ItemView) : TranslationsView := View.inside v "name"
def slug (v : ItemView) : TranslationsView := View.inside v "slug"
def description (v : ItemView) : TranslationsView := View.inside v "description"
def level (v : ItemView) : Field Int32 := View.inside v "level"
def realWeight (v : ItemView) : Field Int32 := View.inside v "realWeight"
def price (v : ItemView) : Field Int32 := View.inside v "price"
def criteria (v : ItemView) : Field String := View.inside v "criteria"
def img (v : ItemView) : Field String := View.inside v "img"
def createdAt (v : ItemView) : Field DateTime := View.inside v "createdAt"
def updatedAt (v : ItemView) : Field DateTime := View.inside v "updatedAt"
def itemSetId (v : ItemView) : Field Int32 := View.inside v "itemSetId"
def iconId (v : ItemView) : Field Int32 := View.inside v "iconId"
def appearanceId (v : ItemView) : Field Int32 := View.inside v "appearanceId"
def hasRecipe (v : ItemView) : Field Bool := View.inside v "hasRecipe"
def craftXpRatio (v : ItemView) : Field Float := View.inside v "craftXpRatio"
def usable (v : ItemView) : Field Bool := View.inside v "usable"
def recyclingNuggets (v : ItemView) : Field Float := View.inside v "recyclingNuggets"
def cursed (v : ItemView) : Field Bool := View.inside v "cursed"
def exchangeable (v : ItemView) : Field Bool := View.inside v "exchangeable"
def isSaleable (v : ItemView) : Field Bool := View.inside v "isSaleable"
def isLegendary (v : ItemView) : Field Bool := View.inside v "isLegendary"

end ItemView

namespace ItemSetView

def id (v : ItemSetView) : Field Int32 := View.inside v "id"
def name (v : ItemSetView) : TranslationsView := View.inside v "name"
def slug (v : ItemSetView) : TranslationsView := View.inside v "slug"
def level (v : ItemSetView) : Field Int32 := View.inside v "level"
def bonusIsSecret (v : ItemSetView) : Field Bool := View.inside v "bonusIsSecret"
def isCosmetic (v : ItemSetView) : Field Bool := View.inside v "isCosmetic"

end ItemSetView

class Resource (α : Type) where
  View : Type
  view : Catalogue.View View
  path : String
  name : String
  id : α → Option Int32
  codec : Json.Codec α

instance {α : Type} [Resource α] : View (Resource.View α) := Resource.view

instance : Resource Item := ⟨ItemView, inferInstance, "items/", "items", Item.id, Item.codec⟩

instance : Resource ItemType :=
  ⟨ItemTypeView, inferInstance, "item-types/", "item types", ItemType.id, ItemType.codec⟩

instance : Resource ItemSuperType :=
  ⟨ItemSuperTypeView, inferInstance, "item-super-types/", "item super types", ItemSuperType.id,
    ItemSuperType.codec⟩

instance : Resource ItemSet :=
  ⟨ItemSetView, inferInstance, "item-sets/", "item sets", ItemSet.id, ItemSet.codec⟩

end Catalogue
