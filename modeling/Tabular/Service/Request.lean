import Tabular.Json.Encoding
import Tabular.Schema.Check
import Tabular.Text.Percent

namespace Tabular.Service

/-!
# Requests

A request names a method and a path, and may have a query and a body. A body is a document, or a
text that still has to be read as one, and none of its texts has a surrogate without its other half.
A body that is empty or nothing counts as left out.
-/

/-- What a request carries. -/
inductive RequestBody where
  | none
  | document (body : Json)
  | written (arriving : Json.ArrivingText)

/-- A request. -/
structure Request where
  method : String
  path : String
  query : List (String × String) := []
  body : RequestBody := .none

/-! ## Paths and queries -/

/-- The parts of a path between slashes. -/
def pathSegments (path : String) : List String :=
  match Text.split '/' path with
  | "" :: [""] => []
  | "" :: segments => segments
  | segments => segments

/-- A path without slashes at its end. -/
def withoutSlashes (path : String) : String :=
  String.ofList (path.toList.reverse.dropWhile (· == '/')).reverse

/-- A key or a value as it is written in a query. -/
def queryText (written : String) : String :=
  Text.percentDecoded
    (String.ofList (written.toList.map fun character => if character = '+' then ' ' else character))

/-- A key with its value, as written in a query. -/
def queryEntry (written : String) : String × String :=
  let key := written.toList.takeWhile fun character => character != '='
  (queryText (String.ofList key), queryText (String.ofList (written.toList.drop (key.length + 1))))

/-- The keys and values of a written query. -/
def queryEntries (written : String) : List (String × String) :=
  ((Text.split '&' written).filter fun part => part ≠ "").map queryEntry

/--
The path of an address, its escapes resolved, and its query. Escapes of escapes are resolved too.
-/
def splitAddress (address : String) : String × List (String × String) :=
  let path := address.toList.takeWhile fun character => character != '?'
  (Text.percentDecoded (Text.percentDecoded (String.ofList path)),
    queryEntries (String.ofList (address.toList.drop (path.length + 1))))

/-! ## What a request says -/

namespace Request

/-- The document in the body of a request; nothing when there is none. -/
def document (request : Request) : Checked Json :=
  match request.body with
  | .none => .ok .null
  | .document body => .ok body
  | .written arriving =>
      if arriving.text = "" then .ok .null
      else
        match arriving.read with
        | .ok body => .ok body
        | .error .undecodable => Checked.fail .undecodable
        | .error (.malformed position) => (Checked.fail .unreadable).under (.index position)

/-- A payload, which has to be there. -/
def present {α : Type} (reader : Schema.Reader α) : Schema.Reader α
  | .null => Checked.fail .absent
  | body => reader body

/-- The body of a request, read as a payload. -/
def payload {α : Type} (request : Request) (reader : Schema.Reader α) : Checked α :=
  Checked.under (.key "body") (request.document.bind (present reader))

/-- The value of a key of the query, the last one given. -/
def queryValue? (request : Request) (key : String) : Option String :=
  (request.query.reverse.find? fun entry => entry.1 == key).map Prod.snd

/-- A value of the query with a default, read as a document that is a text. -/
def queryOr {α : Type} (request : Request) (key : String) (default : α)
    (reader : Schema.Reader α) : Checked α :=
  match request.queryValue? key with
  | some value => ((reader (.text value)).under (.key key)).under (.key "query")
  | none => .ok default

end Request

end Tabular.Service
