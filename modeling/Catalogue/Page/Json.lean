import Catalogue.Json.Record
import Catalogue.Report

namespace Catalogue

structure Page (α : Type) where
  total : Nat
  limit : Nat
  skip : Nat
  data : List α
  deriving Repr, Inhabited

abbrev Reply (α : Type) := Except Error (Page α)

open Json

structure PageDraft (α : Type) where
  total : Option Nat := none
  limit : Option Nat := none
  skip : Option Nat := none
  data : Option (List α) := none

namespace PageDraft

variable {α : Type}

def slots (c : Codec α) : List (Slot (PageDraft α)) := [
  .of "total" Codec.count (·.total.getD 0) fun v d => { d with total := some v },
  .of "limit" Codec.count (·.limit.getD 0) fun v d => { d with limit := some v },
  .of "skip" Codec.count (·.skip.getD 0) fun v d => { d with skip := some v },
  .of "data" c.list (·.data.getD []) fun v d => { d with data := some v }]

def shape (c : Codec α) : Shape (PageDraft α) := ⟨"SearchResult", slots c, {}, true⟩

def require (key : String) : Option α → Except Fault α
  | some a => .ok a
  | none => .error (.missingField key)

def finish (d : PageDraft α) : Except Fault (Page α) := do
  let total ← require "total" d.total
  let limit ← require "limit" d.limit
  let skip ← require "skip" d.skip
  let data ← require "data" d.data
  pure ⟨total, limit, skip, data⟩

end PageDraft

namespace Page

variable {α : Type}

def toDraft (p : Page α) : PageDraft α := ⟨some p.total, some p.limit, some p.skip, some p.data⟩

def codec (c : Codec α) : Codec (Page α) where
  read depth t := do
    let d ← (PageDraft.shape c).read depth t
    d.finish
  ofJson j := do
    let d ← (PageDraft.shape c).ofJson j
    d.finish.toOption
  write p := (PageDraft.shape c).write p.toDraft

end Page

end Catalogue
