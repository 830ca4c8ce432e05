import Catalogue.Proofs.ClientAnswers
import Catalogue.Proofs.PageContext

namespace Catalogue

namespace Cause

/-- The connection was lost, or the server had no time or failed on its own side. -/
def Transient : Cause → Prop
  | unanswered _ | brokenOff _ => True
  | refused status _ => status.code = 429 ∨ 500 ≤ status.code
  | malformedAddress _ | unfitAgent _ | unsendable _ | undecodable _ => False

/-- The causes that are told as another one is: a client or a request that cannot be made like one
that had no response, and a body that broke off like a response that was no success. -/
def Misjudged : Cause → Prop
  | unfitAgent _ | unsendable _ | brokenOff _ => True
  | malformedAddress _ | unanswered _ | refused .. | undecodable _ => False

/-- However deep the error is told, it may be tried again if the cause is transient, unless the
cause is one that is misjudged. -/
def JudgedBy (cause : Cause) (e : Error) : Prop :=
  ∀ queries : List String,
    (e.within queries).isRetriable ↔ (cause.Transient ↔ ¬ cause.Misjudged)

theorem judgedBy_error {cause : Cause}
    (h : ∀ status, cause = .brokenOff status → status.isSuccess) (url : String) :
    cause.JudgedBy (cause.error url) := by
  intro queries
  rw [Error.isRetriable_within]
  cases cause with
  | brokenOff status =>
      -- A status of success is none of those that may be tried again.
      have hcode := Http.Status.isSuccess_iff.1 (h status rfl)
      have hother : status.code ≠ 429 ∧ status.code < 500 := by omega
      simp [error, Error.isRetriable, Transient, Misjudged, hother]
  | malformedAddress | unfitAgent | unsendable | unanswered | refused | undecodable =>
      simp [error, Error.isRetriable, Transient, Misjudged]

end Cause

namespace Client

inductive SetUp (s : Settings) : Except Cause Client → Prop
  | malformedAddress {fault : Url.Fault}
      (parsed : Url.parse (s.address.getD s.environment.address) = .error fault) :
      SetUp s (.error (.malformedAddress fault))
  | unfitAgent {base : Url} (parsed : s.base = .ok base)
      (unfit : ¬ Http.isHeaderValue s.userAgent) : SetUp s (.error (.unfitAgent base))
  | made {base : Url} (parsed : s.base = .ok base) (fit : Http.isHeaderValue s.userAgent) :
      SetUp s (.ok ⟨base⟩)

theorem exists_setUp (s : Settings) : ∃ r, SetUp s r := by
  cases hparsed : Url.parse (s.address.getD s.environment.address) with
  | error fault => exact ⟨_, .malformedAddress hparsed⟩
  | ok u =>
      have hbase : s.base = .ok u.withTrailingSlash := by rw [Settings.base, Url.parseBase, hparsed]
      by_cases hfit : Http.isHeaderValue s.userAgent
      · exact ⟨_, .made hbase hfit⟩
      · exact ⟨_, .unfitAgent hbase hfit⟩

theorem SetUp.ofSettings {s : Settings} {r : Except Cause Client} (h : SetUp s r) (url : String) :
    Client.ofSettings s = r.mapError (Cause.error url) := by
  cases h with
  | malformedAddress parsed =>
      rw [Client.ofSettings, Settings.base, Url.parseBase, parsed]
      rfl
  | unfitAgent parsed unfit =>
      rw [Client.ofSettings, parsed]
      simp only [bind, Except.bind, unfit]
      rfl
  | made parsed fit =>
      rw [Client.ofSettings, parsed]
      simp only [bind, Except.bind, fit]
      rfl

theorem ofAddress_eq (raw : String) : ofAddress raw = ofSettings { address := some raw } := by
  have hfit : Http.isHeaderValue "dofusdb-client/0.1.0" = true := by decide +kernel
  rw [Client.ofSettings, hfit]
  rfl

theorem exists_judged {s : Settings} {e : Error} (he : ofSettings s = .error e) :
    ∃ cause : Cause, SetUp s (.error cause) ∧ cause.JudgedBy e := by
  obtain ⟨r, hr⟩ := exists_setUp s
  rw [hr.ofSettings ""] at he
  cases r with
  | ok c => cases he
  | error cause =>
      obtain rfl : cause.error "" = e := Except.error.inj he
      refine ⟨cause, hr, Cause.judgedBy_error ?_ ""⟩
      cases hr <;> exact nofun

end Client

namespace Call

variable {β : Type}

def Judged (call : Call β) (server : Http.Request → Http.Outcome) : Prop :=
  ∀ e, (call.fetch server).1 = .error e →
    ∃ cause : Cause, call.Ends server (.error cause) ∧ cause.JudgedBy e

theorem judged (call : Call β) (server : Http.Request → Http.Outcome) : call.Judged server := by
  intro e he
  obtain ⟨r, hr⟩ := call.exists_ends server
  rw [hr.fetch] at he
  cases r with
  | ok x => cases he
  | error cause =>
      obtain rfl : cause.error call.url = e := Except.error.inj he
      refine ⟨cause, hr, Cause.judgedBy_error ?_ call.url⟩
      rintro status rfl
      cases hr with
      | brokenOff _ _ succeeded => exact succeeded

end Call

/-- Whatever fails, and however deep in pages it is told, it counts as worth another try exactly if
its cause is transient, except for the causes that are misjudged: there it is the other way round. -/
theorem retriable_iff_transient (s : Settings) (raw : String) (α : Type) [Resource α] (c : Client)
    (server : Http.Request → Http.Outcome) :
    (∀ e, Client.ofSettings s = .error e →
      ∃ cause : Cause, Client.SetUp s (.error cause) ∧ cause.JudgedBy e) ∧
    (∀ e, Client.ofAddress raw = .error e →
      ∃ cause : Cause, Client.SetUp { address := some raw } (.error cause) ∧ cause.JudgedBy e) ∧
    (∀ id : Int32, (c.get α id).Judged server) ∧ (∀ q : Query, (c.search α q).Judged server) ∧
      (c.count α).Judged server := by
  refine ⟨fun e he => Client.exists_judged he, fun e he => ?_, fun id => (c.get α id).judged server,
    fun q => (c.search α q).judged server, (c.count α).judged server⟩
  rw [Client.ofAddress_eq] at he
  exact Client.exists_judged he

def deployed : Client :=
  ⟨⟨"https", "", none, some (.domain "api.dofusdb.fr"), none, .segments [""], none, none⟩⟩

def underMaintenance (_ : Http.Request) : Http.Outcome := .response ⟨503⟩ (.whole [])

def cutShort (_ : Http.Request) : Http.Outcome := .response ⟨200⟩ .broken

theorem maintenance_judged :
    Client.ofSettings {} = .ok deployed ∧
      ∃ e, ((deployed.count ItemType).fetch underMaintenance).1 = .error e ∧
        ∃ cause : Cause, (deployed.count ItemType).Ends underMaintenance (.error cause) ∧
          cause.JudgedBy e := by
  have hfailed : ((deployed.count ItemType).fetch underMaintenance).1 =
      .error (.transport "https://api.dofusdb.fr/item-types/?$limit=0" (some 503)
        "503 Service Unavailable - ") := by decide +kernel
  obtain ⟨-, -, -, -, hcount⟩ :=
    retriable_iff_transient {} "https://api.dofusdb.fr/" ItemType deployed underMaintenance
  exact ⟨by decide +kernel, _, hfailed, hcount _ hfailed⟩

/-- A user agent that can never be sent is to be tried again, and a page of which the connection
lost the rest is not. -/
theorem unfitAgent_and_cutShort_misjudged :
    (∃ e base, Client.ofSettings { userAgent := "news\n" } = .error e ∧
      Client.SetUp { userAgent := "news\n" } (.error (.unfitAgent base)) ∧
      ¬ (Cause.unfitAgent base).Transient ∧ e.isRetriable) ∧
    ∃ e, ((deployed.count Item).fetch cutShort).1 = .error e ∧
      (deployed.count Item).Ends cutShort (.error (.brokenOff ⟨200⟩)) ∧
      (Cause.brokenOff ⟨200⟩).Transient ∧ ¬ e.isRetriable := by
  have hbase : ({ userAgent := "news\n" } : Settings).base = .ok deployed.base := by decide +kernel
  have hagent : ¬ Http.isHeaderValue "news\n" := by decide +kernel
  have hsent : Http.Request.ofText (deployed.count Item).url =
      .ok ⟨{ deployed.base with path := .segments ["items", ""], query := some "$limit=0" }⟩ := by
    decide +kernel
  have hsetUp := Client.SetUp.unfitAgent hbase hagent
  have hends : (deployed.count Item).Ends cutShort (.error (.brokenOff ⟨200⟩)) :=
    .brokenOff hsent rfl rfl
  exact ⟨⟨_, _, hsetUp.ofSettings "", hsetUp, id, rfl⟩, ⟨_, hends.fetch, hends, trivial, by decide⟩⟩

end Catalogue
