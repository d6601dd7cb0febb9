import HomeScenes.Condition.Source
import HomeScenes.Registry
import HomeScenes.Text.Percent

/-!
# The HTTP service

  Six requests are served.  Condition trees are checked (always answered with a report) or compiled
  (turned down with the first error); automations are installed, listed, shown and uninstalled.
  Each path can also be asked which methods it takes.

  What the input is to blame for is answered with status 400, what the controller failed to do with
  502, and everything else that goes wrong with 500.
-/

namespace HomeScenes.Service

open Controller (Machine)

variable [Stack]

/-! ## Requests -/

/-- **A request**: the path as it was sent, and the text of the body, if any, with its type. -/
structure Request where
  method : String
  path : String
  contentType : Option String
  body : Option String

/-- Whether a content type announces JSON: `application/json` or `application/…+json`, in either
    case, with any parameters after a semicolon. -/
def isJsonType (contentType : String) : Bool :=
  let media := contentType.toList.takeWhile (· != ';')
  let media := String.ofList ((Text.trimBlanks media).map Char.toLower)
  media == "application/json" || (media.startsWith "application/" && media.endsWith "+json")

/-- **The document** in a request: null unless the body is JSON and says so.  There is none at all
    when the body is nested too deep. -/
def Request.document? (request : Request) : Option Value :=
  if (request.contentType.getD "" |> isJsonType) then
    match request.body.map Json.read with
    | some (.ok v) => some v
    | some (.error (.tooDeep _)) => none
    | _ => some .null
  else some .null

/-! ## Routes -/

/-- What a request asks for.  `describe` asks which methods a path takes, and `moved` sends the
    caller to another spelling of the path. -/
inductive Route where
  | check
  | compile
  | install
  | list
  | get (id : String)
  | uninstall (id : String)
  | describe
  | moved
  | notFound
  | wrongMethod
deriving DecidableEq

/-- What a path names: the automations, one of them, or a file.  No files are kept. -/
inductive Resource where
  | automations
  | automation (id : String)
  | file
deriving DecidableEq

namespace Resource

/-- The resource that the parts of a path name.  The name of a file may have slashes in it, but not
    at its ends. -/
def ofParts? : List String → Option Resource
  | ["automations"] => some .automations
  | ["automations", id] => if id.isEmpty then none else some (.automation id)
  | "static" :: first :: rest =>
    if first.isEmpty || ((first :: rest).getLast?.any String.isEmpty) then none else some .file
  | _ => none

/-- The resource at a path, which is given without the slash at its start. -/
def at? (path : List Char) : Option Resource :=
  ofParts? ((path.splitOn '/').map String.ofList)

/-- **What a method asks of a resource**, if the resource takes the method.  `HEAD` is taken
    wherever `GET` is, and `OPTIONS` everywhere. -/
def route? (method : String) : Resource → Option Route
  | .automations =>
    match method with
    | "GET" | "HEAD" => some .list
    | "POST" => some .install
    | "OPTIONS" => some .describe
    | _ => none
  | .automation id =>
    match method with
    | "GET" | "HEAD" => some (.get id)
    | "DELETE" => some (.uninstall id)
    | "POST" =>
      if id = "validate" then some .check
      else if id = "compile" then some .compile
      else none
    | "OPTIONS" => some .describe
    | _ => none
  | .file =>
    match method with
    | "GET" | "HEAD" => some .notFound
    | "OPTIONS" => some .describe
    | _ => none

end Resource

/-- A path as it is looked up: without its query and the slashes at its start, and without
    escapes. -/
def lookupPath (path : String) : List Char :=
  (Text.unescapePercent (path.toList.takeWhile (· != '?'))).dropWhile (· == '/')

/-- A path with every two slashes made one. -/
def mergeSlashes : List Char → List Char
  | '/' :: '/' :: rest => '/' :: mergeSlashes rest
  | c :: rest => c :: mergeSlashes rest
  | [] => []

/-- **The route** of a request; its method counts in either case.  A path that leads nowhere but
    would lead somewhere with its slashes merged has moved. -/
def Route.of (method path : String) : Route :=
  let method := String.ofList (method.toList.map Char.toUpper)
  let path := lookupPath path
  let direct := Resource.at? path
  let merged := Resource.at? (mergeSlashes path)
  match direct.bind (Resource.route? method), merged.bind (Resource.route? method) with
  | some route, _ => route
  | none, some _ => .moved
  | none, none => if direct.isSome || merged.isSome then .wrongMethod else .notFound

/-! ## Responses -/

/-- **A response**: a status, and a document if the body is one. -/
structure Response where
  status : Nat
  document : Option Value

/-- A document with status 200. -/
def Response.ok (document : Value) : Response :=
  ⟨200, some document⟩

/-- A response that names an error. -/
def Response.error (status : Nat) (message : String) : Response :=
  ⟨status, some (.object [("error", .text message)])⟩

/-- A response without a document. -/
def Response.bare (status : Nat) : Response :=
  ⟨status, none⟩

/-- The message about an automation that is not installed. -/
def notInstalled (id : String) : String :=
  "Automation '" ++ id ++ "' not found"

/-! ## Handlers -/

/-- The response to the document in a request. -/
def withDocument (request : Request) (respond : Value → Response) : Response :=
  match request.document? with
  | some document => respond document
  | none => .bare 500

/-- A condition tree is checked. -/
def checkConditions (document : Value) : Response :=
  match (Condition.Source.document document).check Condition.defaultLimit with
  | .ok report => .ok report.dump
  | .error _ => .bare 500

/-- The response to an error of a condition tree or of an automation: its message, if there is
    one. -/
def rejection (why : Condition.Error) : Response :=
  match why.message with
  | .ok message => .error 400 message
  | .error _ => .bare 500

/-- The response to a condition tree that does not compile. -/
def compileFailure : Condition.CompileError → Response
  | .unreadable (.notGroup got) => .error 400 (Condition.notGroupMessage got)
  | .unreadable (.tooDeep limit) => rejection (.malformed (.tooDeep limit))
  | .unreadable (.invalid issues) => .error 400 (Issue.heading Condition.Group.title issues)
  | .error why => rejection why

/-- A condition tree is compiled. -/
def compileConditions (document : Value) : Response :=
  match (Condition.Source.document document).compile Condition.defaultLimit with
  | .ok text => .ok (.object [("lua", .text text)])
  | .error why => compileFailure why

/-- The response to an install that failed.  A reply of the controller that is no scene counts as
    an invalid document. -/
def installFailure : Registry.Failure → Response
  | .rejected why => rejection why
  | .invalid id errors => .error 400 (Registry.invalidMessage id errors)
  | .controller (.failed description _) => .error 502 description
  | .controller (.badScene issues) =>
    .error 400 (Issue.heading Controller.Scene.title issues)
  | .controller _ => .bare 500
  | .unsaved .. => .bare 500

/-- The response to an uninstall that failed. -/
def uninstallFailure : Registry.Failure → Response
  | .controller (.failed description _) => .error 502 description
  | _ => .bare 500

section

variable {σ : Type}

/-- An automation is installed. -/
def installAutomation (controller : Machine σ) (document : Value) (registry : Registry)
    (state : σ) : Response × Registry × σ :=
  match InstallOrder.read document with
  | .bad issues => (.error 400 (Issue.heading InstallOrder.title issues), registry, state)
  | .good order =>
    match registry.install controller order.automation order.statements state with
    | (.ok deployment, registry, state) => (.ok deployment.dump, registry, state)
    | (.error why, registry, state) => (installFailure why, registry, state)

/-- An automation is uninstalled. -/
def uninstallAutomation (controller : Machine σ) (id : String) (registry : Registry)
    (state : σ) : Response × Registry × σ :=
  match registry.uninstall controller id state with
  | (.ok true, registry, state) => (.bare 204, registry, state)
  | (.ok false, registry, state) => (.error 404 (notInstalled id), registry, state)
  | (.error why, registry, state) => (uninstallFailure why, registry, state)

/-- An automation is shown. -/
def showAutomation (id : String) (registry : Registry) : Response :=
  match registry.get? id with
  | some deployment => .ok deployment.dump
  | none => .error 404 (notInstalled id)

/-- **Serving** a request. -/
def handle (controller : Machine σ) (request : Request) (registry : Registry) (state : σ) :
    Response × Registry × σ :=
  match Route.of request.method request.path with
  | .check => (withDocument request checkConditions, registry, state)
  | .compile => (withDocument request compileConditions, registry, state)
  | .install =>
    match request.document? with
    | some document => installAutomation controller document registry state
    | none => (.bare 500, registry, state)
  | .list => (.ok (.list (registry.deployments.map Deployment.dump)), registry, state)
  | .get id => (showAutomation id registry, registry, state)
  | .uninstall id => uninstallAutomation controller id registry state
  | .describe => (.bare 200, registry, state)
  | .moved => (.bare 308, registry, state)
  | .notFound => (.bare 404, registry, state)
  | .wrongMethod => (.bare 405, registry, state)

end

end HomeScenes.Service
