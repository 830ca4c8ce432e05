import Catalogue.Decimal
import Catalogue.Settings.Variable
import Catalogue.Text.Quoted
import Catalogue.Toml.Parser
import Catalogue.Url.Parser

namespace Catalogue

inductive Environment
  | production | beta
  deriving Repr, DecidableEq

def Environment.name : Environment → String
  | production => "production"
  | beta => "beta"

def Environment.address : Environment → String
  | production => "https://api.dofusdb.fr/"
  | beta => "https://api.beta.dofusdb.fr/"

structure Settings where
  environment : Environment := .production
  address : Option String := none
  userAgent : String := "dofusdb-client/0.1.0"
  timeoutSeconds : Nat := 30
  logLevel : String := "info"
  deriving Repr, DecidableEq

def Settings.base (s : Settings) : Except Error Url :=
  Url.parseBase (s.address.getD s.environment.address)

namespace Settings

def describe : Setting → String
  | .bool b => "bool " ++ (if b then "true" else "false")
  | .signed n => "signed int `" ++ toString n ++ "`"
  | .unsigned n => "unsigned int `" ++ toString n ++ "`"
  | .float x => "float `" ++ Decimal.Layout.plain.text x.toBits ++ "`"
  | .letter c => "string " ++ Text.quote (String.singleton c)
  | .text s => "string " ++ Text.quote s
  | .list _ => "sequence"
  | .table _ => "map"

inductive Cause
  | malformed
  | wrongType (found : Setting) (expected : String)
  | wrongValue (found : Setting) (expected : String)
  | unknownEnvironment (name : String)

def Cause.message : Cause → String
  | malformed => "malformed TOML"
  | wrongType found expected =>
    "invalid type: found " ++ describe found ++ ", expected " ++ expected
  | wrongValue found expected => "invalid value " ++ describe found ++ ", expected " ++ expected
  | unknownEnvironment name =>
    "unknown variant: found `" ++ name ++ "`, expected ``production` or `beta``"

structure Fault where
  path : List String
  cause : Cause

abbrev Acceptor (α : Type) := Setting → Except Fault α

def asText : Acceptor String
  | .text s => .ok s
  | .letter c => .ok (String.singleton c)
  | s => .error ⟨[], .wrongType s "a string"⟩

def asCount : Acceptor Nat
  | .unsigned n => .ok n
  | .signed n => if n < 0 then .error ⟨[], .wrongValue (.signed n) "u64"⟩ else .ok n.toNat
  | s => .error ⟨[], .wrongType s "u64"⟩

def environment? : String → Option Environment
  | "production" => some .production
  | "beta" => some .beta
  | _ => none

/-- An environment is told by its name. A table stands for the name that comes first in it, with
nothing as its value; no setting is nothing, so every table is refused. -/
def asEnvironment : Acceptor Environment
  | .text name =>
    match environment? name with
    | some e => .ok e
    | none => .error ⟨[], .unknownEnvironment name⟩
  | .table entries =>
    match Layer.first? entries with
    | none => .error ⟨[], .wrongType (.table []) "enum"⟩
    | some (name, s) =>
      if (environment? name).isSome then .error ⟨[name], .wrongType s "unit"⟩
      else .error ⟨[name], .unknownEnvironment name⟩
  | s => .error ⟨[], .wrongType s "enum Environment"⟩

variable {α : Type}

def field (layer : Layer) (name : String) (accept : Acceptor α) (default : α) : Except Fault α :=
  match layer.lookup name with
  | none => .ok default
  | some s => (accept s).mapError fun f => ⟨name :: f.path, f.cause⟩

/-- Settings from one layer. Of several faults the one whose name comes first is told. -/
def ofLayer (layer : Layer) : Except Fault Settings := do
  let defaults : Settings := {}
  let address ← field layer "base_url" (fun s => some <$> asText s) defaults.address
  let environment ← field layer "environment" asEnvironment defaults.environment
  let logLevel ← field layer "log_level" asText defaults.logLevel
  let timeoutSeconds ← field layer "timeout_secs" asCount defaults.timeoutSeconds
  let userAgent ← field layer "user_agent" asText defaults.userAgent
  pure { environment, address, userAgent, timeoutSeconds, logLevel }

def toLayer (s : Settings) : Layer :=
  ("environment", .text s.environment.name) ::
    s.address.toList.map (fun address => ("base_url", .text address)) ++
      [("user_agent", .text s.userAgent), ("timeout_secs", .unsigned s.timeoutSeconds),
       ("log_level", .text s.logLevel)]

/-- The defaults, the file and the variables, each put over those before it. -/
def layers (file : Layer) (bindings : List (String × String)) : Layer :=
  ((toLayer {}).merge file).merge (Variable.layer bindings)

def resolve (file : Layer) (bindings : List (String × String)) : Except Fault Settings :=
  ofLayer (layers file bindings)

def load (file : Option String) (bindings : List (String × String)) : Except Fault Settings :=
  match Toml.parse (file.getD "") with
  | none => .error ⟨[], .malformed⟩
  | some layer => resolve layer bindings

end Settings

end Catalogue
