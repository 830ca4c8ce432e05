import Catalogue.Expr.Compile
import Catalogue.Page.Stream
import Catalogue.Resource.Basic

namespace Catalogue

/-- A search for resources of type `α`. -/
structure Search (α : Type) where
  query : Query := {}

namespace Search

variable {α V : Type} [Resource α] [View V]

def subject : String := "i"

def lambda (selector : Resource.View α → V) : Lambda :=
  ⟨subject, View.expr (selector (View.ofExpr (.parameter subject)))⟩

def take (s : Search α) (count : Nat) : Search α := ⟨s.query.withLimit count⟩

def skip (s : Search α) (count : Nat) : Search α := ⟨s.query.withSkip count⟩

def sortBy (s : Search α) (direction : Direction) (selector : Resource.View α → V) :
    Except Error (Search α) := do
  let path ← (lambda selector).propertyPath
  pure ⟨s.query.withSort path direction⟩

def select (s : Search α) (selector : Resource.View α → V) : Except Error (Search α) := do
  let path ← (lambda selector).propertyPath
  pure ⟨s.query.withSelect path⟩

def predicate (s : Search α) (p : Predicate) : Search α := ⟨s.query.withPredicate p⟩

def filter (s : Search α) (condition : Resource.View α → Expr) : Except Error (Search α) := do
  let p ← (lambda condition).predicate
  pure (s.predicate p)

def stream (s : Search α) : Stream α := .start (Resource.name α) s.query

/-- The request whose total is the number of resources that the filters find. -/
def countQuery (s : Search α) : Query := s.query.page (some 0) none

def countOf {β : Type} (reply : Reply β) : Except Error Nat := Page.total <$> reply

end Search

end Catalogue
