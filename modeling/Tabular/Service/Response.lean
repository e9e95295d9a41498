import Tabular.Fault
import Tabular.Json.Parts
import Tabular.Schema.Issue

namespace Tabular.Service

/-!
# Responses

What the service answers, and how it refuses. Faults that a request is to blame for are answered in
words, and issues of a request by a list. A refusal repeats the value that it complains about, so a
value that cannot be exchanged leaves the refusal itself unanswered.
-/

/-- A status, and a document unless there is nothing to say. -/
structure Response where
  status : Nat
  body : Option Json

namespace Response

/-- A document with its status. -/
def answering (status : Nat) (document : Json) : Response where
  status
  body := some document.finite

/-- A refusal in words. -/
def refusing (status : Nat) (detail : String) : Response :=
  answering status (.object [("detail", .text detail)])

/-- The path names nothing. -/
def notFound : Response :=
  refusing 404 "Not Found"

/-- The path names something that does not have the method. -/
def wrongMethod : Response :=
  refusing 405 "Method Not Allowed"

/-- The workspace does not exist. -/
def noWorkspace : Response :=
  refusing 404 "Workspace not found"

/-- There is nothing to say. -/
def nothing : Response where
  status := 204
  body := none

/-- A refusal that repeats what is wrong. -/
def repeating (document : Json) : Outcome Response :=
  if document.isFinite then .ok (answering 422 document) else .error .notANumber

/-- A refusal that blames the value of a field. -/
def blaming (message : String) (field value : Cell) : Outcome Response :=
  repeating
    (.object [("detail", .text message), ("field", field.toJson), ("value", value.toJson)])

/-- The refusal for a fault; faults that no request is to blame for stay faults. -/
def ofFault : Fault → Outcome Response
  | .config cause => blaming cause.message cause.field cause.value
  | .filter cause => blaming cause.message cause.field cause.value
  | .tableNotLoaded name => .ok (refusing 404 (Fault.tableNotLoaded name).message)
  | fault => .error fault

/-- The response as it is sent for a method. -/
def forMethod (method : String) (response : Response) : Response :=
  if method = "HEAD" then { response with body := none } else response

/-! ## Issues -/

/-- A step into a document, as a document. -/
def stepDocument : PathStep → Json
  | .key name => .text name
  | .index place => .int place

/-- An issue as a document. -/
def issueDocument (issue : Issue) : Json :=
  .object
    [("type", .text issue.mismatch.name), ("loc", .array (issue.path.map stepDocument))]

/-- The part of a document that steps lead to; nothing when they lead nowhere. -/
def partAt : List PathStep → Json → Json
  | [], document => document
  | .key name :: rest, document => partAt rest ((document.member? name).getD .null)
  | .index place :: rest, .array elements => partAt rest (elements[place]?.getD .null)
  | .index _ :: _, _ => .null

/--
The part of a document that an issue is about: what a missing part is missing from, or the part.
-/
def subjectOf (issue : Issue) (document : Json) : Json :=
  match issue.mismatch with
  | .absent => partAt issue.path.dropLast document
  | _ => partAt issue.path document

/-- The body of the request cannot be decoded. -/
def undecodable : Response :=
  refusing 400 "There was an error parsing the body"

/--
The refusal of a request with issues, given the document in its body. A body that cannot be decoded
is refused before anything else is looked at.
-/
def ofIssues (body : Json) (issues : List Issue) : Outcome Response :=
  if issues.any fun issue => issue.mismatch = .undecodable then .ok undecodable
  else if issues.all fun issue => (subjectOf issue (.object [("body", body)])).isFinite then
    .ok (answering 422 (.object [("detail", .array (issues.map issueDocument))]))
  else .error .notANumber

end Response

end Tabular.Service
