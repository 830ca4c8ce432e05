import Catalogue.Client
import Catalogue.Proofs.Preliminaries

namespace Catalogue

namespace Http

theorem Status.isSuccess_iff {status : Status} :
    status.isSuccess ↔ 200 ≤ status.code ∧ status.code ≤ 299 := by
  simp only [isSuccess, Bool.and_eq_true, decide_eq_true_eq]
  omega

theorem isSendable_iff {u : Url} :
    isSendable u ↔ (u.scheme = "http" ∨ u.scheme = "https") ∧ u.text.utf8ByteSize ≤ 65534 ∧
      ∃ host, u.host = some host ∧
        ∀ c ∈ host.text.toList, c ∉ ['"', '\x60', '\x7b', '\x7d'] := by
  have hhost (host : Url.Host) : (!host.text.toList.any isUnsendable) = true ↔
      ∀ c ∈ host.text.toList, c ∉ ['"', '\x60', '\x7b', '\x7d'] := by
    simp [isUnsendable, and_assoc]
  rw [isSendable, Bool.and_eq_true, Bool.and_eq_true, Bool.or_eq_true, beq_iff_eq, beq_iff_eq,
    decide_eq_true_eq, greatestSize, Option.any_eq_true, and_assoc]
  simp only [hhost]

theorem withoutCredentials_scheme (u : Url) : (withoutCredentials u).scheme = u.scheme := by
  unfold withoutCredentials
  split <;> rfl

theorem withoutCredentials_host (u : Url) : (withoutCredentials u).host = u.host := by
  unfold withoutCredentials
  split <;> rfl

/-- What is sent for a text is its URL without the credentials, if that is one of the web, is not
too long, and has a host that a request can name. -/
theorem Request.ofText_eq_ok {text : String} {request : Request} :
    Request.ofText text = .ok request ↔ ∃ u, Url.parse text = .ok u ∧
      request = ⟨withoutCredentials u⟩ ∧ (u.scheme = "http" ∨ u.scheme = "https") ∧
      (withoutCredentials u).text.utf8ByteSize ≤ 65534 ∧
      ∃ host, u.host = some host ∧ ∀ c ∈ host.text.toList, c ∉ ['"', '\x60', '\x7b', '\x7d'] := by
  unfold Request.ofText
  cases Url.parse text with
  | error fault => simp
  | ok u =>
      have hsendable := isSendable_iff (u := withoutCredentials u)
      rw [withoutCredentials_scheme, withoutCredentials_host] at hsendable
      simp only [Except.ok.injEq, exists_eq_left', ← hsendable]
      split
      · next h => simp [h, eq_comm]
      · next h => simp [h]

/-- What comes of asking for a URL. One that cannot be sent has no response. -/
def ask (server : Request → Outcome) (url : String) : Outcome :=
  match Request.ofText url with
  | .error _ => .unanswered
  | .ok request => server request

namespace Outcome

def status? : Outcome → Option Nat
  | unanswered => none
  | response status _ => some status.code

def Delivers (o : Outcome) (bytes : List UInt8) : Prop :=
  ∃ status : Status, o = .response status (.whole bytes) ∧ 200 ≤ status.code ∧ status.code ≤ 299

theorem delivers_iff {status : Status} {body : Body} {bytes : List UInt8} :
    (response status body).Delivers bytes ↔ body = .whole bytes ∧ status.isSuccess := by
  rw [Status.isSuccess_iff]
  constructor
  · rintro ⟨status, heq, hcode⟩
    cases heq
    exact ⟨rfl, hcode⟩
  · rintro ⟨rfl, hcode⟩
    exact ⟨status, rfl, hcode⟩

theorem not_delivers_unanswered (bytes : List UInt8) : ¬ unanswered.Delivers bytes := by
  rintro ⟨status, heq, -⟩
  cases heq

end Outcome

end Http

def Json.Codec.Decodes {α : Type} (c : Json.Codec α) (bytes : List UInt8) (a : α) : Prop :=
  c.decodeSource (Text.Utf8.decode bytes) = .ok a

/-- Why a client cannot be had, or a call has no value to give. -/
inductive Cause
  | malformedAddress (fault : Url.Fault)
  | unfitAgent (base : Url)
  | unsendable (detail : String)
  | unanswered (request : Http.Request)
  | refused (status : Http.Status) (body : Http.Body)
  | brokenOff (status : Http.Status)
  | undecodable (fault : Json.Fault)

def Cause.error (url : String) : Cause → Error
  | malformedAddress fault => .invalidUrl fault.message
  | unfitAgent base =>
    .transport base.text none "Failed to create HTTP client: builder error"
  | unsendable detail => .transport url none detail
  | unanswered request => .transport url none request.unansweredText
  | refused status body => .transport url (some status.code) (status.text ++ " - " ++ body.shown)
  | brokenOff status => .transport url (some status.code) Http.brokenBodyText
  | undecodable fault => .decode url fault.message

namespace Call

variable {β : Type} {call : Call β} {server : Http.Request → Http.Outcome}

/-- How the exchange of a call ends. -/
inductive Ends (call : Call β) (server : Http.Request → Http.Outcome) : Except Cause β → Prop
  | unsendable {detail : String} (sent : Http.Request.ofText call.url = .error detail) :
      Ends call server (.error (.unsendable detail))
  | unanswered {request : Http.Request} (sent : Http.Request.ofText call.url = .ok request)
      (reply : server request = .unanswered) : Ends call server (.error (.unanswered request))
  | refused {request : Http.Request} {status : Http.Status} {body : Http.Body}
      (sent : Http.Request.ofText call.url = .ok request)
      (reply : server request = .response status body) (failed : ¬ status.isSuccess) :
      Ends call server (.error (.refused status body))
  | brokenOff {request : Http.Request} {status : Http.Status}
      (sent : Http.Request.ofText call.url = .ok request)
      (reply : server request = .response status .broken) (succeeded : status.isSuccess) :
      Ends call server (.error (.brokenOff status))
  | undecodable {request : Http.Request} {status : Http.Status} {bytes : List UInt8}
      {fault : Json.Fault} (sent : Http.Request.ofText call.url = .ok request)
      (reply : server request = .response status (.whole bytes)) (succeeded : status.isSuccess)
      (read : call.read (Text.Utf8.decode bytes) = .error fault) :
      Ends call server (.error (.undecodable fault))
  | found {request : Http.Request} {status : Http.Status} {bytes : List UInt8} {x : β}
      (sent : Http.Request.ofText call.url = .ok request)
      (reply : server request = .response status (.whole bytes)) (succeeded : status.isSuccess)
      (read : call.read (Text.Utf8.decode bytes) = .ok x) : Ends call server (.ok x)

theorem exists_ends (call : Call β) (server : Http.Request → Http.Outcome) :
    ∃ r, call.Ends server r := by
  cases hsent : Http.Request.ofText call.url with
  | error detail => exact ⟨_, .unsendable hsent⟩
  | ok request =>
      cases hreply : server request with
      | unanswered => exact ⟨_, .unanswered hsent hreply⟩
      | response status body =>
          by_cases hstatus : status.isSuccess
          · cases body with
            | broken => exact ⟨_, .brokenOff hsent hreply hstatus⟩
            | whole bytes =>
                cases hread : call.read (Text.Utf8.decode bytes) with
                | error fault => exact ⟨_, .undecodable hsent hreply hstatus hread⟩
                | ok x => exact ⟨_, .found hsent hreply hstatus hread⟩
          · exact ⟨_, .refused hsent hreply hstatus⟩

theorem Ends.fetch {r : Except Cause β} (h : call.Ends server r) :
    (call.fetch server).1 = r.mapError (Cause.error call.url) := by
  cases h with
  | unsendable sent => simp only [Call.fetch, sent]; rfl
  | unanswered sent reply => simp only [Call.fetch, sent, reply]; rfl
  | refused sent reply failed => simp only [Call.fetch, sent, reply, receive, failed]; rfl
  | brokenOff sent reply succeeded => simp only [Call.fetch, sent, reply, receive, succeeded]; rfl
  | undecodable sent reply succeeded read =>
      simp only [Call.fetch, sent, reply, receive, succeeded, read]; rfl
  | found sent reply succeeded read =>
      simp only [Call.fetch, sent, reply, receive, succeeded, read]
      rfl

/-- A result that tells what came of asking for `url`, where `reads` is what the bytes of a body
stand for. -/
structure Tells (outcome : Http.Outcome) (url : String) (reads : List UInt8 → β → Prop)
    (result : Except Error β) : Prop where
  ok_iff : ∀ x, result = .ok x ↔ ∃ bytes, outcome.Delivers bytes ∧ reads bytes x
  decode_iff : (∃ detail, result = .error (.decode url detail)) ↔
    ∃ bytes, outcome.Delivers bytes ∧ ∀ x, ¬ reads bytes x
  empty : outcome.Delivers [] → ∃ detail, result = .error (.decode url detail)
  transport_iff : ∀ status?, (∃ detail, result = .error (.transport url status? detail)) ↔
    status? = outcome.status? ∧ ∀ bytes, ¬ outcome.Delivers bytes
  refused : ∀ status body, outcome = .response status body → ¬ status.isSuccess →
    result = .error (.transport url (some status.code) (status.text ++ " - " ++ body.shown))
  names_url : ∀ e, result = .error e →
    (∃ detail, e = .decode url detail) ∨ ∃ status? detail, e = .transport url status? detail

theorem ask_of_sent {request : Http.Request} (sent : Http.Request.ofText call.url = .ok request) :
    Http.ask server call.url = server request := by
  rw [Http.ask, sent]

namespace Tells

variable {outcome : Http.Outcome} {url : String} {reads : List UInt8 → β → Prop}

theorem of_not_delivers {detail : String} (h : ∀ bytes, ¬ outcome.Delivers bytes)
    (hrefused : ∀ status body, outcome = .response status body → ¬ status.isSuccess →
      detail = status.text ++ " - " ++ body.shown) :
    Tells outcome url reads (.error (.transport url outcome.status? detail)) where
  ok_iff x := by simp [h]
  decode_iff := by simp [h]
  empty hnil := absurd hnil (h [])
  transport_iff status? := by simp [h, eq_comm]
  refused status body heq hstatus := by rw [hrefused status body heq hstatus, heq]; rfl
  names_url e he := .inr ⟨_, _, (Except.error.inj he).symm⟩

section Delivered

variable {bytes : List UInt8} (h : ∀ more, outcome.Delivers more ↔ more = bytes)

include h in
theorem succeeded_of_delivers {status : Http.Status} {body : Http.Body}
    (heq : outcome = .response status body) : status.isSuccess := by
  subst heq
  exact (Http.Outcome.delivers_iff.1 ((h bytes).2 rfl)).2

include h in
theorem of_read {x : β} (hnil : ∀ x, ¬ reads [] x) (hreads : ∀ y, reads bytes y ↔ y = x) :
    Tells outcome url reads (.ok x) where
  ok_iff y := by simp [h, hreads, eq_comm]
  decode_iff := by simp [h, hreads]
  empty hdelivers := by
    have hbytes : [] = bytes := (h []).1 hdelivers
    exact absurd ((hreads x).2 rfl) (hbytes ▸ hnil x)
  transport_iff status? := by simp [h]
  refused status body heq hstatus := absurd (succeeded_of_delivers h heq) hstatus
  names_url := nofun

include h in
theorem of_unreadable {detail : String} (hreads : ∀ x, ¬ reads bytes x) :
    Tells outcome url reads (.error (.decode url detail)) where
  ok_iff y := by simp [h, hreads]
  decode_iff := by simp [h, hreads]
  empty _ := ⟨detail, rfl⟩
  transport_iff status? := by simp [h]
  refused status body heq hstatus := absurd (succeeded_of_delivers h heq) hstatus
  names_url e he := .inl ⟨detail, (Except.error.inj he).symm⟩

end Delivered

end Tells

theorem tells_fetch (call : Call β) (server : Http.Request → Http.Outcome)
    {reads : List UInt8 → β → Prop} (hnil : ∀ x, ¬ reads [] x)
    (hreads : ∀ bytes x, reads bytes x ↔ call.read (Text.Utf8.decode bytes) = .ok x) :
    Tells (Http.ask server call.url) call.url reads (call.fetch server).1 := by
  obtain ⟨r, hr⟩ := call.exists_ends server
  rw [hr.fetch]
  cases hr with
  | unsendable sent =>
      have hask : Http.ask server call.url = .unanswered := by rw [Http.ask, sent]
      rw [hask]
      exact .of_not_delivers Http.Outcome.not_delivers_unanswered nofun
  | unanswered sent reply =>
      rw [ask_of_sent sent, reply]
      exact .of_not_delivers Http.Outcome.not_delivers_unanswered nofun
  | refused sent reply failed =>
      rw [ask_of_sent sent, reply]
      refine .of_not_delivers (fun bytes h => failed (Http.Outcome.delivers_iff.1 h).2) ?_
      rintro _ _ ⟨⟩ -
      rfl
  | brokenOff sent reply succeeded =>
      rw [ask_of_sent sent, reply]
      refine .of_not_delivers (fun bytes h => nomatch (Http.Outcome.delivers_iff.1 h).1) ?_
      rintro _ _ ⟨⟩ failed
      exact absurd succeeded failed
  | @undecodable request status bytes fault sent reply succeeded read =>
      rw [ask_of_sent sent, reply]
      have hdelivers (more : List UInt8) :
          (Http.Outcome.response status (.whole bytes)).Delivers more ↔ more = bytes := by
        simp [Http.Outcome.delivers_iff, succeeded, eq_comm]
      exact .of_unreadable hdelivers fun x => by simp [hreads, read]
  | @found request status bytes x sent reply succeeded read =>
      rw [ask_of_sent sent, reply]
      have hdelivers (more : List UInt8) :
          (Http.Outcome.response status (.whole bytes)).Delivers more ↔ more = bytes := by
        simp [Http.Outcome.delivers_iff, succeeded, eq_comm]
      exact .of_read hdelivers hnil fun y => by simp [hreads, read, eq_comm]

def map {γ : Type} (f : β → γ) (call : Call β) : Call γ :=
  ⟨call.resource, call.url, fun body => f <$> call.read body⟩

theorem receive_map {γ : Type} (f : β → γ) (call : Call β) (status : Http.Status)
    (body : Http.Body) :
    (call.map f).receive status body = Prod.map (Functor.map f) id (call.receive status body) := by
  by_cases hstatus : status.isSuccess
  · cases body with
    | broken => simp only [receive, hstatus]; rfl
    | whole bytes =>
        simp only [receive, hstatus, map]
        cases call.read (Text.Utf8.decode bytes) <;> rfl
  · simp only [receive, hstatus]
    rfl

theorem fetch_map {γ : Type} (f : β → γ) (call : Call β) (server : Http.Request → Http.Outcome) :
    (call.map f).fetch server = Prod.map (Functor.map f) id (call.fetch server) := by
  have hurl : (call.map f).url = call.url := rfl
  unfold fetch
  rw [hurl]
  cases Http.Request.ofText call.url with
  | error detail => rfl
  | ok request =>
      cases hreply : server request with
      | unanswered => simp only [hreply]; rfl
      | response status body => simp only [hreply, receive_map]; rfl

end Call

theorem Json.Codec.not_decodes_nil {α : Type} (c : Json.Codec α) (a : α) : ¬ c.Decodes [] a := by
  have hempty : Json.document (Text.Utf8.decode []) = ⟨.broken, false⟩ := rfl
  rw [Decodes, decodeSource, hempty]
  change (c.read Json.nesting .broken >>= fun _ => .error .malformed) ≠ .ok a
  cases c.read Json.nesting .broken <;> exact nofun

namespace Client

open Call Json

variable {α : Type}

theorem count_url (α : Type) [Resource α] (c : Client) :
    (c.count α).url = c.resourceUrl α ++ "?$limit=0" := by
  have htext : (({} : Query).withLimit 0).text = "$limit=0" := by decide +kernel
  change c.searchUrl α (({} : Query).withLimit 0) = _
  rw [searchUrl, htext, String.append_assoc]
  rfl

/-- Every call tells what came of its exchange, and errors name what was asked for. Counting is the
search for no items, of which the total is kept. -/
theorem calls_tell_exchange (α : Type) [Resource α] (c : Client)
    (server : Http.Request → Http.Outcome) :
    (∀ id : Int32, Tells (Http.ask server (c.resourceUrl α ++ toString id.toInt))
      (c.resourceUrl α ++ toString id.toInt) (Resource.codec (α := α)).Decodes
      ((c.get α id).fetch server).1) ∧
    (∀ q : Query, Tells (Http.ask server (c.searchUrl α q)) (c.searchUrl α q)
      (Page.codec (Resource.codec (α := α))).Decodes ((c.search α q).fetch server).1) ∧
    Tells (Http.ask server (c.resourceUrl α ++ "?$limit=0")) (c.resourceUrl α ++ "?$limit=0")
      (fun bytes n => ∃ page : Page α,
        (Page.codec Resource.codec).Decodes bytes page ∧ page.total = n)
      ((c.count α).fetch server).1 ∧
    (c.count α).fetch server =
      Prod.map (Functor.map Page.total) id
        ((c.search α (({} : Query).withLimit 0)).fetch server) := by
  refine ⟨fun id => ?_, fun q => ?_, ?_, ?_⟩
  · exact tells_fetch (c.get α id) server (Codec.not_decodes_nil _) fun _ _ => Iff.rfl
  · exact tells_fetch (c.search α q) server (Codec.not_decodes_nil _) fun _ _ => Iff.rfl
  · have hnil : ∀ n, ¬ ∃ page : Page α,
        (Page.codec Resource.codec).Decodes [] page ∧ page.total = n := by
      rintro n ⟨page, hpage, -⟩
      exact Codec.not_decodes_nil _ page hpage
    rw [← count_url]
    exact tells_fetch (c.count α) server hnil fun _ _ => Except.map_eq_ok.symm
  · exact fetch_map Page.total (c.search α (({} : Query).withLimit 0)) server

example :
    let body := "\x7b\"total\":5,\"limit\":0,\"skip\":0,\"data\":[]\x7d".toUTF8.toList
    (Client.ofAddress "http://api.test/v1").toOption.map
        (fun c => ((c.count ItemSet).fetch fun _ => .response ⟨200⟩ (.whole body)).1) =
      some (.ok 5) := by
  decide +kernel

end Client

end Catalogue
