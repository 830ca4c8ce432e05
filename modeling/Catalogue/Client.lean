import Catalogue.Http.Exchange
import Catalogue.Page.Json
import Catalogue.Query.Text
import Catalogue.Report
import Catalogue.Resource.Basic
import Catalogue.Settings.Load

namespace Catalogue

structure Client where
  base : Url
  deriving Repr, DecidableEq

namespace Client

def ofAddress (raw : String) : Except Error Client := do
  let base ← Url.parseBase raw
  pure ⟨base⟩

def ofSettings (s : Settings) : Except Error Client := do
  let base ← s.base
  if Http.isHeaderValue s.userAgent then pure ⟨base⟩
  else throw (.transport base.text none "Failed to create HTTP client: builder error")

end Client

/-- A call: the URL asked for, and how the body of a successful response is read. -/
structure Call (β : Type) where
  resource : String
  url : String
  read : List (Option Char) → Except Json.Fault β

namespace Client

section Collection

variable (α : Type) [Resource α]

def resourceUrl (c : Client) : String := c.base.text ++ Resource.path α

/-- The URL of a search. It has no question mark if there is nothing to put after it. -/
def searchUrl (c : Client) (q : Query) : String :=
  if q.text.isEmpty then c.resourceUrl α else c.resourceUrl α ++ "?" ++ q.text

def get (c : Client) (id : Int32) : Call α :=
  ⟨Resource.name α, c.resourceUrl α ++ toString id.toInt, (Resource.codec (α := α)).decodeSource⟩

def search (c : Client) (q : Query) : Call (Page α) :=
  ⟨Resource.name α, c.searchUrl α q, (Page.codec (Resource.codec (α := α))).decodeSource⟩

/-- The number of resources in the collection: a search that asks for none of them tells it. -/
def count (c : Client) : Call Nat :=
  let call := c.search α (({} : Query).withLimit 0)
  ⟨call.resource, call.url, fun body => Page.total <$> call.read body⟩

end Collection

end Client

namespace Call

variable {β : Type}

def receive (call : Call β) (status : Http.Status) (body : Http.Body) : Except Error β × List Event :=
  if status.isSuccess then
    match body with
    | .broken => (.error (.transport call.url (some status.code) Http.brokenBodyText), [])
    | .whole bytes =>
      ((call.read (Text.Utf8.decode bytes)).mapError (.decode call.url ·.message), [])
  else
    (.error (.transport call.url (some status.code) (status.text ++ " - " ++ body.shown)),
      [.refused call.url status.text])

def fail (call : Call β) (detail : String) : Except Error β × List Event :=
  (.error (.transport call.url none detail), [.requestFailed call.url detail])

def fetch (call : Call β) (server : Http.Request → Http.Outcome) : Except Error β × List Event :=
  let (result, events) := match Http.Request.ofText call.url with
    | .error detail => call.fail detail
    | .ok request =>
      match server request with
      | .unanswered => call.fail request.unansweredText
      | .response status body => call.receive status body
  (result, .sending call.resource call.url :: events)

end Call

end Catalogue
