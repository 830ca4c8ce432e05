import Catalogue.Page.Json
import Catalogue.Query.Text
import Catalogue.Report

namespace Catalogue

namespace Stream

inductive Phase (α : Type)
  | ready (request : Query)
  | waiting (request : Query)
  /-- Items of a page still to be handed out, and the request after them. -/
  | giving (items : List α) (next : Option Query)
  | ended

inductive Poll (α : Type)
  | item (a : α)
  | failed (e : Error)
  | finished
  | pending

end Stream

/-- All resources that a search finds, page by page. Nothing is asked for until it is polled, and
the items of a page are handed out before the next one is asked for. -/
structure Stream (α : Type) where
  resource : String
  query : Query
  fetched : Nat
  pages : Nat
  phase : Stream.Phase α

namespace Stream

variable {α : Type}

def start (resource : String) (query : Query) : Stream α :=
  ⟨resource, query, 0, 0, .ready query⟩

def remaining (s : Stream α) : Option Nat := s.query.limit.map (· - s.fetched)

/-- The position of the next item, counted in a machine word: past the last one it starts again. -/
def offset (s : Stream α) : UInt64 := .ofNat (s.query.skip.getD 0) + .ofNat s.fetched

def counted (s : Stream α) (p : Page α) : Stream α :=
  { s with fetched := s.fetched + p.data.length, pages := s.pages + 1 }

/-- The request after a page whose items are counted, unless the page was the last. -/
def next? (s : Stream α) (p : Page α) : Option Query :=
  if p.data.isEmpty || p.total ≤ s.offset.toNat || s.remaining == some 0 then none
  else some (s.query.page s.remaining (some s.offset.toNat))

def enter (s : Stream α) (phase : Phase α) : Stream α := { s with phase := phase }

def finish (s : Stream α) : Poll α × Stream α × List Event :=
  (.finished, s.enter .ended, [.complete s.resource s.fetched s.pages])

def give (s : Stream α) (items : List α) (next : Option Query) :
    Poll α × Stream α × List Event :=
  match items with
  | item :: items => (.item item, s.enter (.giving items next), [])
  | [] => s.finish

def receive (s : Stream α) (request : Query) :
    Option (Reply α) → Poll α × Stream α × List Event
  | none => (.pending, s.enter (.waiting request), [])
  | some (.error e) => (.failed (.page request.text e), s.enter .ended, [])
  | some (.ok page) =>
    let s := s.counted page
    let (given, after, events) := s.give page.data (s.next? page)
    (given, after, .pageFetched s.resource request.limit request.skip page.data.length page.total ::
      events)

/-- The request that a poll sends, if the search is not cancelled by then. -/
def request? (s : Stream α) : Option Query :=
  match s.phase with
  | .ready request => some request
  | .giving [] next => next
  | _ => none

/-- One poll. It looks at the cancellation before it starts a request, and again right before it
asks for the reply; `first` and `last` are what it sees. -/
def pollSeeing (s : Stream α) (first last : Bool) (reply : Option (Reply α)) :
    Poll α × Stream α × List Event :=
  match s.phase, first, last with
  | .ended, _, _ => (.finished, s, [])
  | .giving (item :: items) next, _, _ => s.give (item :: items) next
  | .giving [] none, _, _ => s.finish
  | .giving [] (some _), true, _ | .ready _, true, _ =>
    (.failed .cancelled, s.enter .ended, [.cancelledBeforeRequest s.resource s.fetched])
  | .giving [] (some _), false, true | .ready _, false, true | .waiting _, _, true =>
    (.failed .cancelled, s.enter .ended, [.cancelledDuringRequest s.resource s.fetched])
  | .giving [] (some request), false, false | .ready request, false, false
  | .waiting request, _, false => s.receive request reply

/-- A poll that sees the same at both looks. -/
def poll (s : Stream α) (cancelled : Bool) (reply : Option (Reply α)) :
    Poll α × Stream α × List Event :=
  s.pollSeeing cancelled cancelled reply

end Stream

end Catalogue
