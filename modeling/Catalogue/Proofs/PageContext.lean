import Catalogue.Report
import Mathlib.Data.List.Basic
import Mathlib.Data.List.Infix

namespace Catalogue.Error

/-- The failure as it is told from inside of pages of these queries, the outermost first. -/
def within (queries : List String) (e : Error) : Error := queries.foldr page e

theorem within_nil (e : Error) : e.within [] = e := rfl

theorem within_cons (query : String) (queries : List String) (e : Error) :
    e.within (query :: queries) = page query (e.within queries) := rfl

theorem isTransport_within (queries : List String) (e : Error) :
    (e.within queries).isTransport = e.isTransport := by
  induction queries with
  | nil => rfl
  | cons query queries ih => exact ih

theorem isRetriable_within (queries : List String) (e : Error) :
    (e.within queries).isRetriable = e.isRetriable := by
  induction queries with
  | nil => rfl
  | cons query queries ih => exact ih

theorem message_within (queries : List String) (e : Error) :
    (e.within queries).message = String.join (queries.map pageText) ++ e.message := by
  induction queries with
  | nil => rw [within_nil, List.map_nil, String.join_nil, String.empty_append]
  | cons query queries ih =>
      have hpage : (e.within (query :: queries)).message =
          pageText query ++ (e.within queries).message := rfl
      rw [hpage, ih, List.map_cons, String.join_cons, String.append_assoc]

/-- What leads to the failure of the outermost page: the pages further in, each told from inside of
those after it, and the failure itself. -/
theorem sources_within (queries : List String) (e : Error) :
    (e.within queries).sources = queries.tails.tail.map e.within ++ e.sources := by
  induction queries with
  | nil => rfl
  | cons query queries ih =>
      have htails : queries.tails = queries :: queries.tails.tail := by cases queries <;> rfl
      rw [within_cons, sources, ih, List.tails_cons, List.tail_cons, htails, List.map_cons,
        List.tail_cons, List.cons_append]

theorem isTransport_iff {e : Error} :
    e.isTransport ↔
      ∃ queries url status detail, e = (transport url status detail).within queries := by
  constructor
  · intro h
    induction e with
    | transport url status detail => exact ⟨[], url, status, detail, rfl⟩
    | page query source ih =>
        obtain ⟨queries, url, status, detail, rfl⟩ := ih h
        exact ⟨query :: queries, url, status, detail, rfl⟩
    | invalidExpression | unsupportedKind | decode | cancelled | settings | invalidUrl => cases h
  · rintro ⟨queries, url, status, detail, rfl⟩
    rw [isTransport_within]
    rfl

theorem isRetriable_iff {e : Error} :
    e.isRetriable ↔
      ∃ queries url status detail, e = (transport url status detail).within queries ∧
        ∀ code, status = some code → code = 429 ∨ 500 ≤ code := by
  constructor
  · intro h
    induction e with
    | transport url status detail =>
        refine ⟨[], url, status, detail, rfl, ?_⟩
        rintro code rfl
        simpa [isRetriable] using h
    | page query source ih =>
        obtain ⟨queries, url, status, detail, rfl, hstatus⟩ := ih h
        exact ⟨query :: queries, url, status, detail, rfl, hstatus⟩
    | invalidExpression | unsupportedKind | decode | cancelled | settings | invalidUrl => cases h
  · rintro ⟨queries, url, status, detail, rfl, hstatus⟩
    rw [isRetriable_within]
    cases status with
    | none => rfl
    | some code => simpa [isRetriable] using hstatus code rfl

theorem isTransport_of_isRetriable {e : Error} (h : e.isRetriable) : e.isTransport := by
  obtain ⟨queries, url, status, detail, he, -⟩ := isRetriable_iff.1 h
  exact isTransport_iff.2 ⟨queries, url, status, detail, he⟩

/-- Pages add their own text and themselves to what is told of a failure, and nothing else; and
whatever may be gone the next time is a failure of the exchange. -/
theorem within_transparent (queries : List String) (e : Error) :
    (e.within queries).isTransport = e.isTransport ∧
      (e.within queries).isRetriable = e.isRetriable ∧
      (e.within queries).sources = queries.tails.tail.map e.within ++ e.sources ∧
      (e.within queries).message = String.join (queries.map pageText) ++ e.message ∧
      (e.isRetriable → e.isTransport) :=
  ⟨isTransport_within queries e, isRetriable_within queries e, sources_within queries e,
    message_within queries e, isTransport_of_isRetriable⟩

theorem overload_transparent :
    let overload := transport "http://h/items/" (some 503) "busy"
    (overload.within ["$skip=2", "$skip=4"]).isRetriable ∧ overload.isTransport ∧
      (overload.within ["$skip=2", "$skip=4"]).sources = [page "$skip=4" overload, overload] ∧
      (overload.within ["$skip=2", "$skip=4"]).message =
        "Error while executing query `$skip=2`: Error while executing query `$skip=4`: " ++
          "Transport error for http://h/items/ (status 503): busy" := by
  intro overload
  obtain ⟨-, hretriable, hsources, hmessage, htransport⟩ :=
    within_transparent ["$skip=2", "$skip=4"] overload
  exact ⟨hretriable.trans rfl, htransport rfl, hsources, hmessage.trans (by decide +kernel)⟩

end Catalogue.Error
