import HomeScenes.Document.Issue
import HomeScenes.Json.Reader

/-!
# Requests and replies

  One request brings one reply: an answer with a status and a text, or an outage.  Answers with a
  status from 400 on are failures, and so are the outages of the connection itself; both are
  described with their likely cause.  Other outages are passed on as they are.

  A controller is anything that answers requests and may change while doing so.
-/

namespace HomeScenes.Controller

/-! ## Requests -/

/-- What is asked of a resource. -/
inductive Method where
  | get
  | post
  | put
  | delete
deriving DecidableEq

/-- The word for a method. -/
def Method.text : Method → String
  | .get => "GET"
  | .post => "POST"
  | .put => "PUT"
  | .delete => "DELETE"

/-- **A request.** -/
structure Request where
  method : Method
  path : String
  body : Option Value

/-! ## Replies -/

/-- What can go wrong instead of an answer. -/
inductive Outage where
  | connect
  | read
  | write
  | close
  | remoteProtocol
  | localProtocol
  | proxy
  | unsupportedProtocol
  | connectTimeout
  | readTimeout
  | writeTimeout
  | poolTimeout
  | tooManyRedirects
  | decoding
  | badValue
  | system
  | badType
deriving DecidableEq

namespace Outage

/-- The name of an outage in messages. -/
def name : Outage → String
  | .connect => "ConnectError"
  | .read => "ReadError"
  | .write => "WriteError"
  | .close => "CloseError"
  | .remoteProtocol => "RemoteProtocolError"
  | .localProtocol => "LocalProtocolError"
  | .proxy => "ProxyError"
  | .unsupportedProtocol => "UnsupportedProtocol"
  | .connectTimeout => "ConnectTimeout"
  | .readTimeout => "ReadTimeout"
  | .writeTimeout => "WriteTimeout"
  | .poolTimeout => "PoolTimeout"
  | .tooManyRedirects => "TooManyRedirects"
  | .decoding => "DecodingError"
  | .badValue => "ValueError"
  | .system => "OSError"
  | .badType => "TypeError"

/-- Whether time ran out. -/
def isTimeout : Outage → Bool
  | .connectTimeout | .readTimeout | .writeTimeout | .poolTimeout => true
  | _ => false

/-- Whether the connection itself failed. -/
def isTransport : Outage → Bool
  | .tooManyRedirects | .decoding | .badValue | .system | .badType => false
  | _ => true

end Outage

/-- **A reply**: a status and the body as a text, or an outage.  A body that is no text, and
    whatever else may interrupt an exchange than the outages above, cannot be expressed. -/
inductive Reply where
  | answered (status : Int) (text : String)
  | interrupted (outage : Outage) (message : String)

/-- **A controller** with states `σ`: it answers each request and goes on to another state. -/
abbrev Machine (σ : Type) := Request → σ → Reply × σ

/-! ## Failures -/

/-- The likely cause of a failure, where one can be named. -/
def likelyCause (status : Option Int) (outage : Option Outage) : Option String :=
  if status = some 401 ∨ status = some 403 then
    some ("Likely cause: invalid credentials or insufficient permissions. " ++
      "Fix: verify FIBARO_USERNAME / FIBARO_PASSWORD and that the user has API access.")
  else if outage.any Outage.isTimeout then
    some "Likely cause: timeout. Fix: verify connectivity and check the controller's load."
  else if outage = some .connect then
    some ("Likely cause: host not reachable or connection refused. " ++
      "Fix: verify FIBARO_HOST, FIBARO_PORT and whether HTTPS is enabled.")
  else
    none

/-- **The description of a failure**: the request, the status or else the outage, the likely cause,
    and the details.  Details that were sent along come before those of the outage. -/
def describeFailure (method path : String) (status : Option Int) (outage : Option (Outage × String))
    (detail : Option String) : String :=
  let event := match status, outage with
    | some code, _ => ["HTTP " ++ code.repr]
    | none, some (what, _) => ["Network error: " ++ what.name]
    | none, none => []
  let details := match detail.filter (fun s => !s.isEmpty),
      (outage.map Prod.snd).filter fun s => !s.isEmpty with
    | some text, _ => ["Details: " ++ text]
    | none, some text => ["Details: " ++ text]
    | none, none => []
  "\n".intercalate (["Request: " ++ method ++ " " ++ path] ++ event ++
    (likelyCause status (outage.map Prod.fst)).toList ++ details)

/-- Why a request brought no result. -/
inductive Failure where
  | failed (description : String) (status : Option Int)
  | interrupted (outage : Outage) (message : String)
  | unreadable (why : Json.Error)
  | notIterable (got : Value)
  | badScene (issues : List Issue)

/-- The message about a value that has no items. -/
def notIterableMessage (got : Value) : String :=
  "'" ++ got.kindName ++ "' object is not iterable"

/-- **The text of a successful reply.** -/
def accept (request : Request) : Reply → Except Failure String
  | .answered status text =>
    if status < 400 then .ok text
    else .error (.failed
      (describeFailure request.method.text request.path (some status) none (some text))
      (some status))
  | .interrupted outage message =>
    if outage.isTransport then
      .error (.failed
        (describeFailure request.method.text request.path none (some (outage, message)) none) none)
    else .error (.interrupted outage message)

end HomeScenes.Controller
