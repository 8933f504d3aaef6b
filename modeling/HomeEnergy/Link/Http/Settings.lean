import HomeEnergy.Document.Fields
import HomeEnergy.Text.Quoted

/-!
# Settings of an HTTP connection

Where a device answers, what is asked of it, and how long to wait.

## Main results

* `HttpSettings.base`, `HttpSettings.target` — the two addresses a connection asks.
-/

namespace HomeEnergy

/-- What a request does. -/
inductive Method where
  | get
  | post
deriving DecidableEq, Repr, Inhabited

/-- The word for a method in a request. -/
def Method.name : Method → String
  | .get => "GET"
  | .post => "POST"

/-- A user and a password, if there is one. -/
structure BasicAuth where
  user : String
  password : Option String
deriving DecidableEq, Repr

/-- The settings of one HTTP connection. -/
structure HttpSettings where
  name : String
  baseUrl : String
  path : String := ""
  method : Method := .get
  /-- Sent with requests of the method that has a body. -/
  body : Option Document := none
  timeout : Span := Span.ofSeconds 10
  acceptInvalidCerts : Bool := false
  auth : Option BasicAuth := none
deriving Inhabited

namespace HttpSettings

/-- The base address: with a scheme and without slashes at its end. -/
def base (s : HttpSettings) : String :=
  let trimmed := Text.dropTrailing '/' s.baseUrl.toList
  let plain := String.ofList trimmed
  if (Text.after? "http://".toList trimmed).isSome ∨ (Text.after? "https://".toList trimmed).isSome
  then plain else "http://" ++ plain

/-- The address that is asked for data. -/
def target (s : HttpSettings) : String :=
  s.base ++ "/" ++ String.ofList (Text.dropLeading '/' s.path.toList)

/-- How a connection with these settings is described. -/
def description (s : HttpSettings) : String :=
  "HttpConnection \x7b name: " ++ Text.quoted s.name ++ ", url: " ++ Text.quoted s.target ++ " \x7d"

/-- A method, as a word or as a map from the word to nothing. -/
def method? : Document → Option Method
  | .text "GET" | .map [("GET", .null)] => some .get
  | .text "POST" | .map [("POST", .null)] => some .post
  | _ => none

/-- Credentials. A list must give both. -/
def auth? (d : Document) : Option BasicAuth := do
  let [user, password] ← d.fields? .refused ["username", "password"] | none
  if d matches .list [_] then none
  else
    let user ← Document.required Document.text? user
    let password ← Document.nullable Document.text? password
    return ⟨user, password⟩

/-- The settings that a document gives. -/
def ofDocument (d : Document) : Option HttpSettings := do
  let [name, baseUrl, path, method, body, timeout, certs, auth] ←
    d.fields? .refused ["name", "base_url", "path", "method", "body", "timeout",
      "accept_invalid_certs", "basic_auth"] | none
  return {
    name := ← Document.required Document.text? name
    baseUrl := ← Document.required Document.text? baseUrl
    path := ← Document.optional "" Document.text? path
    method := ← Document.optional .get method? method
    body := ← Document.nullable some body
    timeout := ← Document.optional (Span.ofSeconds 10) Document.span? timeout
    acceptInvalidCerts := ← Document.optional false Document.bool? certs
    auth := ← Document.nullable auth? auth }

end HttpSettings

end HomeEnergy
