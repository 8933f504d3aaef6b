import HomeEnergy.Document.Json
import HomeEnergy.Text.Bytes

/-!
# Requests and answers

What goes over an HTTP connection, as far as devices and pages tell it apart.
-/

namespace HomeEnergy.Http

/-- A request. The target is the path with the query behind it. -/
structure Request where
  method : String := "GET"
  target : String := "/"
  /-- The credentials, as they are sent. -/
  authorization : Option String := none
  contentType : Option String := none
  body : ByteArray := .empty
deriving Inhabited

/-- An answer. -/
structure Response where
  status : Nat
  contentType : Option String := none
  body : ByteArray := .empty
deriving Inhabited

namespace Request

/-- The path of a request, without the query and what follows a number sign. -/
def path (r : Request) : String :=
  String.ofList (r.target.toList.takeWhile fun c => c != '?' && c != '#')

/-- The query of a request. -/
def query (r : Request) : String :=
  let rest := (r.target.toList.takeWhile (· != '#')).dropWhile (· != '?')
  String.ofList (rest.drop 1)

end Request

namespace Response

/-- Whether the status tells of success. -/
def isSuccess (r : Response) : Bool := 200 ≤ r.status && r.status < 300

/-- An answer that is a document. -/
def ofDocument (status : Nat) (d : Document) : Response :=
  ⟨status, some "application/json", Json.bytes d⟩

/-- An answer that is a plain text. -/
def ofText (status : Nat) (text : String) : Response :=
  ⟨status, some "text/plain; charset=utf-8", text.toUTF8⟩

/-- An answer that is a status and nothing else. -/
def bare (status : Nat) : Response := { status }

end Response

end HomeEnergy.Http
