import Catalogue.Json.Codec
import Catalogue.Resource.ItemType

namespace Catalogue

open Json

structure ItemEffect where
  least : Option Int32 := none
  greatest : Option Int32 := none
  elementId : Option Int32 := none
  effectId : Option Int32 := none
  /-- The characteristic that the effect applies to, -1 for none. -/
  characteristic : Option Int32 := none
  category : Option Int32 := none
  deriving Inhabited

namespace ItemEffect

def slots : List (Slot ItemEffect) := [
  .of "from" Codec.int32.option (·.least) fun v r => { r with least := v },
  .of "to" Codec.int32.option (·.greatest) fun v r => { r with greatest := v },
  .of "elementId" Codec.int32.option (·.elementId) fun v r => { r with elementId := v },
  .of "effectId" Codec.int32.option (·.effectId) fun v r => { r with effectId := v },
  .of "characteristic" Codec.int32.option (·.characteristic)
    fun v r => { r with characteristic := v },
  .of "category" Codec.int32.option (·.category) fun v r => { r with category := v }]

def shape : Shape ItemEffect := ⟨"ItemEffect", slots, {}, false⟩

def codec : Codec ItemEffect := shape.codec

end ItemEffect

structure ItemSetSummary where
  id : Option Int32 := none
  name : Option Translations := none
  level : Option Int32 := none
  bonusIsSecret : Option Bool := none
  isCosmetic : Option Bool := none
  deriving Inhabited

namespace ItemSetSummary

def slots : List (Slot ItemSetSummary) := [
  .of "id" Codec.int32.option (·.id) fun v r => { r with id := v },
  .of "name" Translations.codec.option (·.name) fun v r => { r with name := v },
  .of "level" Codec.int32.option (·.level) fun v r => { r with level := v },
  .of "bonusIsSecret" Codec.bool.option (·.bonusIsSecret) fun v r => { r with bonusIsSecret := v },
  .of "isCosmetic" Codec.bool.option (·.isCosmetic) fun v r => { r with isCosmetic := v }]

def shape : Shape ItemSetSummary := ⟨"ItemSetMinimal", slots, {}, false⟩

def codec : Codec ItemSetSummary := shape.codec

end ItemSetSummary

structure Item where
  id : Option Int32 := none
  typeId : Option Int32 := none
  itemType : Option ItemType := none
  name : Option Translations := none
  slug : Option Translations := none
  description : Option Translations := none
  importantNotice : Option Translations := none
  level : Option Int32 := none
  realWeight : Option Int32 := none
  price : Option Int32 := none
  criteria : Option String := none
  img : Option String := none
  createdAt : Option DateTime := none
  updatedAt : Option DateTime := none
  itemSetId : Option Int32 := none
  /-- The set that the item belongs to; the service sends `false` for none. -/
  itemSet : Option (OrFalse ItemSetSummary) := none
  hideEffects : Option Bool := none
  effects : Option (List ItemEffect) := none
  evolutiveEffectIds : Option (List Int32) := none
  favoriteSubAreas : Option (List Int32) := none
  favoriteSubAreasBonus : Option Int32 := none
  iconId : Option Int32 := none
  appearanceId : Option Int32 := none
  isColorable : Option Bool := none
  hasLivingObjectSkinJntMood : Option Bool := none
  hasRecipe : Option Bool := none
  recipeSlots : Option Int32 := none
  recipeIds : Option (List Int32) := none
  recipesThatUse : Option (List Int32) := none
  craftXpRatio : Option Float := none
  craftVisible : Option String := none
  craftConditional : Option String := none
  craftFeasible : Option String := none
  secretRecipe : Option Bool := none
  bonusIsSecret : Option Bool := none
  usable : Option Bool := none
  targetable : Option Bool := none
  criteriaTarget : Option String := none
  nonUsableOnAnother : Option Bool := none
  needUseConfirm : Option Bool := none
  useAnimationId : Option Int32 := none
  resourcesBySubarea : Option (List (Int32 × Int32)) := none
  dropMonsterIds : Option (List Int32) := none
  dropTemporisMonsterIds : Option (List Int32) := none
  dropSubAreaIds : Option (List Int32) := none
  recyclingNuggets : Option Float := none
  favoriteRecyclingSubareas : Option (List Int32) := none
  questsThatUse : Option (List Int32) := none
  questsThatReward : Option (List Int32) := none
  startLegendaryTreasureHunt : Option Int32 := none
  legendaryTreasureHuntThatReward : Option Int32 := none
  flags : Option Int64 := none
  cursed : Option Bool := none
  exchangeable : Option Bool := none
  etheral : Option Bool := none
  enhanceable : Option Bool := none
  objectIsDisplayOnWeb : Option Bool := none
  isDestructible : Option Bool := none
  isSaleable : Option Bool := none
  isLegendary : Option Bool := none
  visibility : Option String := none
  changeVersion : Option String := none
  tooltipExpirationDate : Option Int64 := none
  deriving Inhabited

namespace Item

def slots : List (Slot Item) := [
  .of "id" Codec.int32.option (·.id) fun v r => { r with id := v },
  .of "typeId" Codec.int32.option (·.typeId) fun v r => { r with typeId := v },
  .of "type" ItemType.codec.option (·.itemType) fun v r => { r with itemType := v },
  .of "name" Translations.codec.option (·.name) fun v r => { r with name := v },
  .of "slug" Translations.codec.option (·.slug) fun v r => { r with slug := v },
  .of "description" Translations.codec.option (·.description)
    fun v r => { r with description := v },
  .of "importantNotice" Translations.codec.option (·.importantNotice)
    fun v r => { r with importantNotice := v },
  .of "level" Codec.int32.option (·.level) fun v r => { r with level := v },
  .of "realWeight" Codec.int32.option (·.realWeight) fun v r => { r with realWeight := v },
  .of "price" Codec.int32.option (·.price) fun v r => { r with price := v },
  .of "criteria" Codec.string.option (·.criteria) fun v r => { r with criteria := v },
  .of "img" Codec.string.option (·.img) fun v r => { r with img := v },
  .of "createdAt" Codec.instant.option (·.createdAt) fun v r => { r with createdAt := v },
  .of "updatedAt" Codec.instant.option (·.updatedAt) fun v r => { r with updatedAt := v },
  .of "itemSetId" Codec.int32.option (·.itemSetId) fun v r => { r with itemSetId := v },
  .of "itemSet" ItemSetSummary.codec.orFalse.option (·.itemSet) fun v r => { r with itemSet := v },
  .of "hideEffects" Codec.bool.option (·.hideEffects) fun v r => { r with hideEffects := v },
  .of "effects" ItemEffect.codec.list.option (·.effects) fun v r => { r with effects := v },
  .of "evolutiveEffectIds" Codec.int32.list.option (·.evolutiveEffectIds)
    fun v r => { r with evolutiveEffectIds := v },
  .of "favoriteSubAreas" Codec.int32.list.option (·.favoriteSubAreas)
    fun v r => { r with favoriteSubAreas := v },
  .of "favoriteSubAreasBonus" Codec.int32.option (·.favoriteSubAreasBonus)
    fun v r => { r with favoriteSubAreasBonus := v },
  .of "iconId" Codec.int32.option (·.iconId) fun v r => { r with iconId := v },
  .of "appearanceId" Codec.int32.option (·.appearanceId) fun v r => { r with appearanceId := v },
  .of "isColorable" Codec.bool.option (·.isColorable) fun v r => { r with isColorable := v },
  .of "hasLivingObjectSkinJntMood" Codec.bool.option (·.hasLivingObjectSkinJntMood)
    fun v r => { r with hasLivingObjectSkinJntMood := v },
  .of "hasRecipe" Codec.bool.option (·.hasRecipe) fun v r => { r with hasRecipe := v },
  .of "recipeSlots" Codec.int32.option (·.recipeSlots) fun v r => { r with recipeSlots := v },
  .of "recipeIds" Codec.int32.list.option (·.recipeIds) fun v r => { r with recipeIds := v },
  .of "recipesThatUse" Codec.int32.list.option (·.recipesThatUse)
    fun v r => { r with recipesThatUse := v },
  .of "craftXpRatio" Codec.float.option (·.craftXpRatio) fun v r => { r with craftXpRatio := v },
  .of "craftVisible" Codec.string.option (·.craftVisible) fun v r => { r with craftVisible := v },
  .of "craftConditional" Codec.string.option (·.craftConditional)
    fun v r => { r with craftConditional := v },
  .of "craftFeasible" Codec.string.option (·.craftFeasible)
    fun v r => { r with craftFeasible := v },
  .of "secretRecipe" Codec.bool.option (·.secretRecipe) fun v r => { r with secretRecipe := v },
  .of "bonusIsSecret" Codec.bool.option (·.bonusIsSecret) fun v r => { r with bonusIsSecret := v },
  .of "usable" Codec.bool.option (·.usable) fun v r => { r with usable := v },
  .of "targetable" Codec.bool.option (·.targetable) fun v r => { r with targetable := v },
  .of "criteriaTarget" Codec.string.option (·.criteriaTarget)
    fun v r => { r with criteriaTarget := v },
  .of "nonUsableOnAnother" Codec.bool.option (·.nonUsableOnAnother)
    fun v r => { r with nonUsableOnAnother := v },
  .of "needUseConfirm" Codec.bool.option (·.needUseConfirm)
    fun v r => { r with needUseConfirm := v },
  .of "useAnimationId" Codec.int32.option (·.useAnimationId)
    fun v r => { r with useAnimationId := v },
  .of "resourcesBySubarea" (Codec.int32.pair Codec.int32).list.option (·.resourcesBySubarea)
    fun v r => { r with resourcesBySubarea := v },
  .of "dropMonsterIds" Codec.int32.list.option (·.dropMonsterIds)
    fun v r => { r with dropMonsterIds := v },
  .of "dropTemporisMonsterIds" Codec.int32.list.option (·.dropTemporisMonsterIds)
    fun v r => { r with dropTemporisMonsterIds := v },
  .of "dropSubAreaIds" Codec.int32.list.option (·.dropSubAreaIds)
    fun v r => { r with dropSubAreaIds := v },
  .of "recyclingNuggets" Codec.float.option (·.recyclingNuggets)
    fun v r => { r with recyclingNuggets := v },
  .of "favoriteRecyclingSubareas" Codec.int32.list.option (·.favoriteRecyclingSubareas)
    fun v r => { r with favoriteRecyclingSubareas := v },
  .of "questsThatUse" Codec.int32.list.option (·.questsThatUse)
    fun v r => { r with questsThatUse := v },
  .of "questsThatReward" Codec.int32.list.option (·.questsThatReward)
    fun v r => { r with questsThatReward := v },
  .of "startLegendaryTreasureHunt" Codec.int32.option (·.startLegendaryTreasureHunt)
    fun v r => { r with startLegendaryTreasureHunt := v },
  .of "legendaryTreasureHuntThatReward" Codec.int32.option (·.legendaryTreasureHuntThatReward)
    fun v r => { r with legendaryTreasureHuntThatReward := v },
  .of "m_flags" Codec.int64.option (·.flags) fun v r => { r with flags := v },
  .of "cursed" Codec.bool.option (·.cursed) fun v r => { r with cursed := v },
  .of "exchangeable" Codec.bool.option (·.exchangeable) fun v r => { r with exchangeable := v },
  .of "etheral" Codec.bool.option (·.etheral) fun v r => { r with etheral := v },
  .of "enhanceable" Codec.bool.option (·.enhanceable) fun v r => { r with enhanceable := v },
  .of "objectIsDisplayOnWeb" Codec.bool.option (·.objectIsDisplayOnWeb)
    fun v r => { r with objectIsDisplayOnWeb := v },
  .of "isDestructible" Codec.bool.option (·.isDestructible)
    fun v r => { r with isDestructible := v },
  .of "isSaleable" Codec.bool.option (·.isSaleable) fun v r => { r with isSaleable := v },
  .of "isLegendary" Codec.bool.option (·.isLegendary) fun v r => { r with isLegendary := v },
  .of "visibility" Codec.string.option (·.visibility) fun v r => { r with visibility := v },
  .of "changeVersion" Codec.string.option (·.changeVersion)
    fun v r => { r with changeVersion := v },
  .of "tooltipExpirationDate" Codec.int64.option (·.tooltipExpirationDate)
    fun v r => { r with tooltipExpirationDate := v }]

def shape : Shape Item := ⟨"Item", slots, {}, false⟩

def codec : Codec Item := shape.codec

end Item

structure ItemSet where
  id : Option Int32 := none
  name : Option Translations := none
  slug : Option Translations := none
  level : Option Int32 := none
  items : Option (List Item) := none
  typeIds : Option (List Int32) := none
  bonusIsSecret : Option Bool := none
  effects : Option (List (List ItemEffect)) := none
  isCosmetic : Option Bool := none
  createdAt : Option DateTime := none
  updatedAt : Option DateTime := none
  deriving Inhabited

namespace ItemSet

def slots : List (Slot ItemSet) := [
  .of "id" Codec.int32.option (·.id) fun v r => { r with id := v },
  .of "name" Translations.codec.option (·.name) fun v r => { r with name := v },
  .of "slug" Translations.codec.option (·.slug) fun v r => { r with slug := v },
  .of "level" Codec.int32.option (·.level) fun v r => { r with level := v },
  .of "items" Item.codec.list.option (·.items) fun v r => { r with items := v },
  .of "typeIds" Codec.int32.list.option (·.typeIds) fun v r => { r with typeIds := v },
  .of "bonusIsSecret" Codec.bool.option (·.bonusIsSecret) fun v r => { r with bonusIsSecret := v },
  .of "effects" ItemEffect.codec.list.list.option (·.effects) fun v r => { r with effects := v },
  .of "isCosmetic" Codec.bool.option (·.isCosmetic) fun v r => { r with isCosmetic := v },
  .of "createdAt" Codec.instant.option (·.createdAt) fun v r => { r with createdAt := v },
  .of "updatedAt" Codec.instant.option (·.updatedAt) fun v r => { r with updatedAt := v }]

def shape : Shape ItemSet := ⟨"ItemSet", slots, {}, false⟩

def codec : Codec ItemSet := shape.codec

end ItemSet

end Catalogue
