import Catalogue.Json.Record

namespace Catalogue

open Json

structure Translations where
  de : Option String := none
  en : Option String := none
  es : Option String := none
  fr : Option String := none
  pt : Option String := none
  deriving Inhabited

namespace Translations

def slots : List (Slot Translations) := [
  .of "de" Codec.string.option (·.de) fun v r => { r with de := v },
  .of "en" Codec.string.option (·.en) fun v r => { r with en := v },
  .of "es" Codec.string.option (·.es) fun v r => { r with es := v },
  .of "fr" Codec.string.option (·.fr) fun v r => { r with fr := v },
  .of "pt" Codec.string.option (·.pt) fun v r => { r with pt := v }]

def shape : Shape Translations := ⟨"MultiLangString", slots, {}, false⟩

def codec : Codec Translations := shape.codec

end Translations

structure ItemSuperType where
  id : Option Int32 := none
  name : Option Translations := none
  positions : Option (List Int32) := none
  createdAt : Option DateTime := none
  updatedAt : Option DateTime := none
  deriving Inhabited

namespace ItemSuperType

def slots : List (Slot ItemSuperType) := [
  .of "id" Codec.int32.option (·.id) fun v r => { r with id := v },
  .of "name" Translations.codec.option (·.name) fun v r => { r with name := v },
  .of "positions" Codec.int32.list.option (·.positions) fun v r => { r with positions := v },
  .of "createdAt" Codec.instant.option (·.createdAt) fun v r => { r with createdAt := v },
  .of "updatedAt" Codec.instant.option (·.updatedAt) fun v r => { r with updatedAt := v }]

def shape : Shape ItemSuperType := ⟨"ItemSuperType", slots, {}, false⟩

def codec : Codec ItemSuperType := shape.codec

end ItemSuperType

structure ItemType where
  id : Option Int32 := none
  name : Option Translations := none
  superTypeId : Option Int32 := none
  superType : Option ItemSuperType := none
  categoryId : Option Int32 := none
  isInEncyclopedia : Option Bool := none
  plural : Option Bool := none
  gender : Option Int32 := none
  rawZone : Option String := none
  mimickable : Option Bool := none
  /-- The value -1 stands for the default ratio. -/
  craftXpRatio : Option Int32 := none
  possiblePositions : Option (List Int32) := none
  evolutiveTypeId : Option Int32 := none
  createdAt : Option DateTime := none
  updatedAt : Option DateTime := none
  deriving Inhabited

namespace ItemType

def slots : List (Slot ItemType) := [
  .of "id" Codec.int32.option (·.id) fun v r => { r with id := v },
  .of "name" Translations.codec.option (·.name) fun v r => { r with name := v },
  .of "superTypeId" Codec.int32.option (·.superTypeId) fun v r => { r with superTypeId := v },
  .of "superType" ItemSuperType.codec.option (·.superType) fun v r => { r with superType := v },
  .of "categoryId" Codec.int32.option (·.categoryId) fun v r => { r with categoryId := v },
  .of "isInEncyclopedia" Codec.bool.option (·.isInEncyclopedia)
    fun v r => { r with isInEncyclopedia := v },
  .of "plural" Codec.bool.option (·.plural) fun v r => { r with plural := v },
  .of "gender" Codec.int32.option (·.gender) fun v r => { r with gender := v },
  .of "rawZone" Codec.string.option (·.rawZone) fun v r => { r with rawZone := v },
  .of "mimickable" Codec.bool.option (·.mimickable) fun v r => { r with mimickable := v },
  .of "craftXpRatio" Codec.int32.option (·.craftXpRatio) fun v r => { r with craftXpRatio := v },
  .of "possiblePositions" Codec.int32.list.option (·.possiblePositions)
    fun v r => { r with possiblePositions := v },
  .of "evolutiveTypeId" Codec.int32.option (·.evolutiveTypeId)
    fun v r => { r with evolutiveTypeId := v },
  .of "createdAt" Codec.instant.option (·.createdAt) fun v r => { r with createdAt := v },
  .of "updatedAt" Codec.instant.option (·.updatedAt) fun v r => { r with updatedAt := v }]

def shape : Shape ItemType := ⟨"ItemType", slots, {}, false⟩

def codec : Codec ItemType := shape.codec

end ItemType

end Catalogue
