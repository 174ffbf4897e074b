import Tollgate.EnvFile.Basic
import Tollgate.Policy.Basic
import Tollgate.Text.Fold
import Tollgate.Text.Numeral
import Tollgate.Text.Pieces
import Tollgate.Worker.Basic

/-! The configuration of the gate, read from variables whose names may be written in any case. -/

namespace Tollgate

/-- A configuration, with texts as they were given. -/
structure Configuration where
  /-- Where the store is. -/
  databaseUrl : String
  /-- The port requests come in on. -/
  serverPort : UInt16
  /-- Header that carries the credential. -/
  authHeader : String
  /-- Word that stands before the credential, or nothing. -/
  authScheme : String
  /-- Credentials are also taken from the alternate headers. -/
  alternateHeaders : Bool
  /-- Path under which a credential may stand in the query, or nothing. -/
  queryBase : String
  /-- Paths under which no credential is needed, separated by commas. -/
  openBases : String
  /-- Open paths are compared letter by letter. -/
  rawMatching : Bool
  /-- How many jobs the worker's queue holds. -/
  queueCapacity : UInt64
  /-- How many jobs the worker runs at once. -/
  concurrency : UInt64
  deriving DecidableEq

/-- What is wrong with the value of a variable. -/
inductive ValueFlaw where
  | numeral (flaw : Text.NumeralFlaw)
  | notBool
  deriving DecidableEq

/-- The words for a flaw in a value. -/
def ValueFlaw.message : ValueFlaw → String
  | .numeral flaw => flaw.message
  | .notBool => "provided string was not \x60true\x60 or \x60false\x60"

/-- Why there is no configuration. -/
inductive ConfigurationFlaw where
  /-- Two variables are for the same field. -/
  | duplicate (field : String)
  /-- The value of a variable cannot be read. -/
  | unreadable (flaw : ValueFlaw) (value origin : String)
  /-- A field has no value. -/
  | missing (field : String)
  deriving DecidableEq

/-- The words for a flaw in a configuration. -/
def ConfigurationFlaw.message : ConfigurationFlaw → String
  | .duplicate field => "duplicate field \x60" ++ field ++ "\x60"
  | .unreadable flaw value origin =>
    flaw.message ++ " while parsing value \x27" ++ value ++ "\x27 provided by " ++ origin
  | .missing field => "missing value for field " ++ field

namespace Configuration

/-- A configuration of which only some variables have been met. -/
structure Draft where
  /-- Where the store is, once met. -/
  databaseUrl : Option String
  /-- The port, once met. -/
  serverPort : Option UInt16
  /-- The header, once met. -/
  authHeader : Option String
  /-- The scheme, once met. -/
  authScheme : Option String
  /-- Whether alternate headers count, once met. -/
  alternateHeaders : Option Bool
  /-- The path for credentials in queries, once met. -/
  queryBase : Option String
  /-- The open paths, once met. -/
  openBases : Option String
  /-- How open paths are compared, once met. -/
  rawMatching : Option Bool
  /-- The capacity of the queue, once met. -/
  queueCapacity : Option UInt64
  /-- The number of jobs run at once, once met. -/
  concurrency : Option UInt64
  deriving DecidableEq

/-- A configuration of which nothing has been met. -/
def Draft.blank : Draft := ⟨none, none, none, none, none, none, none, none, none, none⟩

/-- Any text is a text. -/
def readText (value : String) : Except ValueFlaw String := .ok value

/-- A value of one of the two words for truth. -/
def readBool (value : String) : Except ValueFlaw Bool :=
  match value with
  | "true" => .ok true
  | "false" => .ok false
  | _ => .error .notBool

/-- A whole number of sixteen bits. -/
def readPort (value : String) : Except ValueFlaw UInt16 :=
  -- What does not fit into the type is out of range already for the reader of numerals.
  match Text.unsigned (UInt16.size - 1) value with
  | .error flaw => .error (.numeral flaw)
  | .ok number => .ok (UInt16.ofNat number)

/-- A whole number of sixty-four bits. -/
def readSize (value : String) : Except ValueFlaw UInt64 :=
  match Text.unsigned (UInt64.size - 1) value with
  | .error flaw => .error (.numeral flaw)
  | .ok number => .ok (UInt64.ofNat number)

/-- Takes up the value of a field, which must not have been met before. -/
def Draft.take {Value : Type} (field origin value : String)
    (read : String → Except ValueFlaw Value) (met : Option Value) (keep : Value → Draft) :
    Except ConfigurationFlaw Draft :=
  -- Another value is turned down before it is read.
  if met.isSome then .error (.duplicate field)
  else match read value with
    | .error flaw => .error (.unreadable flaw value origin)
    | .ok found => .ok (keep found)

/-- Takes up a variable, if it is one of the configuration's. -/
def Draft.absorb (draft : Draft) (origin value : String) : Except ConfigurationFlaw Draft :=
  -- Names count without regard to case, which is how two variables can be for one field.
  let field := Text.fold origin
  match field with
  | "database_url" => Draft.take field origin value readText draft.databaseUrl
      fun found => { draft with databaseUrl := some found }
  | "server_port" => Draft.take field origin value readPort draft.serverPort
      fun found => { draft with serverPort := some found }
  | "auth_header" => Draft.take field origin value readText draft.authHeader
      fun found => { draft with authHeader := some found }
  | "auth_scheme" => Draft.take field origin value readText draft.authScheme
      fun found => { draft with authScheme := some found }
  | "allow_alternate_headers" => Draft.take field origin value readBool draft.alternateHeaders
      fun found => { draft with alternateHeaders := some found }
  | "legacy_query_prefix" => Draft.take field origin value readText draft.queryBase
      fun found => { draft with queryBase := some found }
  | "bypass_prefixes" => Draft.take field origin value readText draft.openBases
      fun found => { draft with openBases := some found }
  | "legacy_prefix_matching" => Draft.take field origin value readBool draft.rawMatching
      fun found => { draft with rawMatching := some found }
  | "background_queue_capacity" => Draft.take field origin value readSize draft.queueCapacity
      fun found => { draft with queueCapacity := some found }
  | "background_concurrency" => Draft.take field origin value readSize draft.concurrency
      fun found => { draft with concurrency := some found }
  -- Of other variables, not even the value is looked at.
  | _ => .ok draft

/-- The configuration once all variables have been met; only the place of the store has no value
of its own. -/
def Draft.finish (draft : Draft) : Except ConfigurationFlaw Configuration :=
  match draft.databaseUrl with
  | none => .error (.missing "database_url")
  | some databaseUrl => .ok {
      databaseUrl
      serverPort := draft.serverPort.getD 3000
      authHeader := draft.authHeader.getD "Authorization"
      authScheme := draft.authScheme.getD "Bearer"
      alternateHeaders := draft.alternateHeaders.getD true
      queryBase := draft.queryBase.getD "/v1beta"
      openBases := draft.openBases.getD "/health"
      rawMatching := draft.rawMatching.getD false
      queueCapacity := draft.queueCapacity.getD (UInt64.ofNat WorkerLimits.standard.capacity)
      concurrency := draft.concurrency.getD (UInt64.ofNat WorkerLimits.standard.concurrency) }

/-- The configuration that variables give, or the first flaw in their order. -/
def ofVariables (environment : Index String) : Except ConfigurationFlaw Configuration :=
  -- The first flaw ends the reading, so the variables behind it make no difference.
  match environment.foldlM (fun draft (name, value) => draft.absorb name value) Draft.blank with
  | .error flaw => .error flaw
  | .ok draft => draft.finish

/-- The configuration at the start: a file says what the environment leaves open. -/
def atStart (environment : Index String) (file : List (String × EnvFile.Template)) :
    Except ConfigurationFlaw Configuration :=
  ofVariables (EnvFile.addTo environment file)

/-- The configuration when it is read again: a file prevails over the environment. -/
def again (environment : Index String) (file : List (String × EnvFile.Template)) :
    Except ConfigurationFlaw Configuration :=
  ofVariables (EnvFile.override environment file)

/-- The parts of a list separated by commas, without white space around them or blank ones. -/
def commaSeparated (text : String) : List String :=
  (Text.pieces ',' text.toList).filterMap fun piece => Text.trimToNonempty? (String.ofList piece)

/-- The rules of authentication that the configuration asks for. -/
def policy (configuration : Configuration) : Policy where
  headerName := Text.trim configuration.authHeader
  scheme := Text.trimToNonempty? configuration.authScheme
  alternateHeaders := configuration.alternateHeaders
  queryBase := Text.trimToNonempty? configuration.queryBase
  openBases := commaSeparated configuration.openBases
  rawMatching := configuration.rawMatching

/-- The limits of the worker that the configuration asks for. -/
def limits (configuration : Configuration) : WorkerLimits :=
  ⟨configuration.queueCapacity.toNat, configuration.concurrency.toNat⟩

end Configuration

end Tollgate
