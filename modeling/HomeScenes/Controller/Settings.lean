import HomeScenes.Document.Reading
import HomeScenes.Environment
import HomeScenes.Text.Base64

/-!
# The connection to a controller

  Where the controller is and who asks.  A port that is missing or zero is the default port of the
  protocol.
-/

namespace HomeScenes.Controller

/-- **Connection settings.** -/
structure Settings where
  host : String
  username : String
  password : String
  port : Option Int
  https : Bool
deriving DecidableEq

namespace Settings

def hostField : Field := .named "host"
def usernameField : Field := .named "username"
def passwordField : Field := .named "password"
def portField : Field := .named "port"
def httpsField : Field := .named "https"

/-- The fields of the settings, in their order. -/
def fields : List Field := [hostField, usernameField, passwordField, portField, httpsField]

/-- The name of the settings in messages. -/
def title : String := "FibaroConfig"

/-- **Settings** from a document. -/
def read : Value → Reading Settings :=
  Read.record title fun fields =>
    Settings.mk <$> hostField.required Read.text fields
      <*> usernameField.required Read.text fields
      <*> passwordField.required Read.text fields
      <*> portField.optional Read.int fields
      <*> httpsField.defaulted true Read.bool fields

/-- Settings as a document. -/
def dump (s : Settings) : Value :=
  .object [("host", .text s.host), ("username", .text s.username),
    ("password", .text s.password), ("port", .ofInt? s.port), ("https", .bool s.https)]

/-- Whether the text of a setting leaves encryption on: everything does but `0`, `false` and `no`,
    in either case.  No character beyond ASCII has one of their letters as its lower case. -/
def keepsHttps (text : String) : Bool :=
  ["0", "false", "no"].all (· ≠ String.ofList (text.toList.map Char.toLower))

/-- **Settings** from the environment: first what has to be set, then the port. -/
def ofEnvironment (env : Environment) : Except SettingError Settings := do
  let host ← env.require "FIBARO_HOST"
  let username ← env.require "FIBARO_USERNAME"
  let password ← env.require "FIBARO_PASSWORD"
  let port ← match env.setting? "FIBARO_PORT" with
    | none => .ok none
    | some text => some <$> Environment.integer text
  let https := match env.setting? "FIBARO_HTTPS" with
    | none => true
    | some text => keepsHttps text
  return ⟨host, username, password, port, https⟩

/-! ## Addresses -/

/-- The name of the protocol. -/
def scheme (s : Settings) : String :=
  if s.https then "https" else "http"

/-- The default port of the protocol. -/
def defaultPort (s : Settings) : Int :=
  if s.https then 443 else 80

/-- The port in use. -/
def activePort (s : Settings) : Int :=
  match s.port with
  | none => s.defaultPort
  | some 0 => s.defaultPort
  | some port => port

/-- **The base address** of the interface, always with the port. -/
def baseUrl (s : Settings) : String :=
  s.scheme ++ "://" ++ s.host ++ ":" ++ s.activePort.repr ++ "/api"

/-- The address of a request, with the host in lower case, and without the port when it is the
    default. -/
def url (s : Settings) (path : String) : String :=
  let host := String.ofList (s.host.toList.map Char.toLower)
  let port := if s.activePort = s.defaultPort then "" else ":" ++ s.activePort.repr
  s.scheme ++ "://" ++ host ++ port ++ "/api" ++ path

/-- The credentials as they are sent. -/
def authorization (s : Settings) : String :=
  "Basic " ++ String.ofList (Text.base64 (s.username ++ ":" ++ s.password).toUTF8.toList)

end Settings
end HomeScenes.Controller
