namespace Catalogue

inductive Error
  | invalidExpression (expression reason : String)
  | unsupportedKind (detail : String)
  | transport (url : String) (status : Option Nat) (detail : String)
  | decode (url detail : String)
  | page (query : String) (source : Error)
  | cancelled
  | settings (detail : String)
  | invalidUrl (detail : String)
  deriving Repr, DecidableEq, Inhabited

namespace Error

def statusText : Option Nat → String
  | none => ""
  | some status => " (status " ++ toString status ++ ")"

/-- What a page failure says before the failure it wraps. -/
def pageText (query : String) : String :=
  "Error while executing query `" ++ query ++ "`: "

def message : Error → String
  | invalidExpression expression reason =>
    "Invalid expression `" ++ expression ++ "`: " ++ reason
  | unsupportedKind detail => "Unsupported predicate kind: " ++ detail
  | transport url status detail =>
    "Transport error for " ++ url ++ statusText status ++ ": " ++ detail
  | decode url detail => "Decode error for " ++ url ++ ": " ++ detail
  | page query source => pageText query ++ source.message
  | cancelled => "Search cancelled"
  | settings detail => "Configuration error: " ++ detail
  | invalidUrl detail => "Invalid URL: " ++ detail

def isTransport : Error → Bool
  | transport .. => true
  | page _ source => source.isTransport
  | _ => false

/-- Whether the same request may succeed later: there was no answer, the server is overloaded, or
it failed on its own side. -/
def isRetriable : Error → Bool
  | transport _ none _ => true
  | transport _ (some status) _ => status == 429 || 500 ≤ status
  | page _ source => source.isRetriable
  | _ => false

def sources : Error → List Error
  | page _ source => source :: source.sources
  | _ => []

end Error

inductive Level
  | debug | info | warn
  deriving Repr, DecidableEq

def Level.label : Level → String
  | debug => "DEBUG"
  | info => "INFO"
  | warn => "WARN"

inductive Event
  | pageFetched (resource : String) (limit skip : Option Nat) (count total : Nat)
  | complete (resource : String) (fetched pages : Nat)
  | cancelledBeforeRequest (resource : String) (fetched : Nat)
  | cancelledDuringRequest (resource : String) (fetched : Nat)
  | sending (resource url : String)
  | requestFailed (url error : String)
  | refused (url status : String)
  deriving Repr, DecidableEq

namespace Event

def level : Event → Level
  | complete .. => .info
  | requestFailed .. | refused .. => .warn
  | _ => .debug

def message : Event → String
  | pageFetched .. => "Fetched page"
  | complete .. => "Search complete"
  | cancelledBeforeRequest .. => "Search cancelled before page request"
  | cancelledDuringRequest .. => "Search cancelled during page request"
  | sending .. => "Sending DofusDB request"
  | requestFailed .. => "DofusDB request failed"
  | refused .. => "DofusDB request returned non-success status"

inductive Datum
  | count (n : Nat)
  | text (s : String)

def optionText : Option Nat → String
  | none => "None"
  | some n => "Some(" ++ toString n ++ ")"

def fields : Event → List (String × Datum)
  | pageFetched resource limit skip count total =>
    [("resource", .text resource), ("limit", .text (optionText limit)),
     ("skip", .text (optionText skip)), ("count", .count count), ("total", .count total)]
  | complete resource fetched pages =>
    [("resource", .text resource), ("fetched", .count fetched), ("pages", .count pages)]
  | cancelledBeforeRequest resource fetched | cancelledDuringRequest resource fetched =>
    [("resource", .text resource), ("fetched", .count fetched)]
  | sending resource url => [("resource", .text resource), ("url", .text url)]
  | requestFailed url error => [("url", .text url), ("error", .text error)]
  | refused url status => [("url", .text url), ("status", .text status)]

end Event

end Catalogue
