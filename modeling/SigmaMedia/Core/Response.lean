import SigmaMedia.Base.Exec
import SigmaMedia.Base.Store
import SigmaMedia.Base.Text

/-!
# HTTP Responses

A response is put together from a status, headers and a body, and written out
as one block of bytes. Building it adds two headers: the origin that may read
the response, always, and the length of the body, if there is one. Headers are
a hash map and are written in the order it is traversed in.

## Main definitions

* `Response`: A response as it is sent.
* `ResponseBuilder`: What it is put together from.
* `ResponseBuilder.build`: Writing it out.
* `HttpError`, `mapHttpErrToResponse`: Errors, and their responses.
-/

namespace SigmaMedia

namespace Http

open Bytes Exec Text

/-- A response as it is written, and its status. -/
structure Response where
  bytes : Bytes
  status : Nat
  deriving DecidableEq

/-- The errors a request can be answered with. -/
inductive HttpError where
  | notFound
  | unauthorized
  | internalServerError
  | badRequest
  | methodNotAllowed
  deriving DecidableEq, Repr

/-- A response that is being put together. -/
structure ResponseBuilder where
  status : Option Nat
  headers : Store Text Text
  body : Option Bytes

namespace ResponseBuilder

/-- A response of which nothing is set. -/
def new : ResponseBuilder :=
  { body := none, status := none, headers := ∅ }

/-- Set the status. -/
def setStatus (builder : ResponseBuilder) (status : Nat) : ResponseBuilder :=
  { builder with status := some status }

/-- Set a header, over a value it had before. -/
def setHeader (builder : ResponseBuilder) (key value : Text) : ResponseBuilder :=
  { builder with headers := builder.headers.insert key value }

/-- Set the body. -/
def setBody (builder : ResponseBuilder) (body : Bytes) : ResponseBuilder :=
  { builder with body := some body }

/-- The same for a body that is handed over. -/
def addBody (builder : ResponseBuilder) (body : Bytes) : ResponseBuilder :=
  { builder with body := some body }

/-- What is said of a status. Of some nothing is. -/
def statusText (status : Nat) : Text :=
  if status = 200 then "OK".toList
  else if status = 201 then "CREATED".toList
  else if status = 400 then "BAD REQUEST".toList
  else if status = 401 then "UNAUTHORIZED".toList
  else if status = 404 then "NOT FOUND".toList
  else if status = 405 then "METHOD NOT ALLOWED".toList
  else []

/-- The header that names who may read a response. -/
def allowOrigin : Text := "Access-Control-Allow-Origin".toList

/-- A header on its line. -/
def headerLine (header : Text × Text) : Text :=
  header.1 ++ ": ".toList ++ header.2 ++ crlf

/-- The headers on their lines, in the order of their traversal. -/
def concatHeaders (order : Enumeration Text) (headers : Store Text Text) : Text :=
  (order.entries headers).flatMap headerLine

/-- The headers that are sent. Both are written over whatever was set. -/
def sentHeaders (builder : ResponseBuilder) (frontendUrl : Text) : Store Text Text :=
  let headers := builder.headers.insert allowOrigin frontendUrl
  match builder.body with
  | none => headers
  | some body => headers.insert "content-length".toList (showNat body.length)

/-- Write the response out: status line, headers, a blank line, body. -/
def build (builder : ResponseBuilder) (frontendUrl : Text) (order : Enumeration Text) :
    Exec Response := do
  let status ← expect "No status provided for response" builder.status
  let response := "HTTP/1.1 ".toList ++ showNat status ++ [' '] ++ statusText status ++ crlf
  let headers := concatHeaders order (builder.sentHeaders frontendUrl)
  return { status, bytes := utf8 (response ++ headers ++ crlf) ++ builder.body.getD [] }

end ResponseBuilder

/-- A request that makes no sense is told that there is nothing there. -/
def HttpError.status : HttpError → Nat
  | .notFound => 404
  | .unauthorized => 401
  | .internalServerError => 500
  | .badRequest => 404
  | .methodNotAllowed => 405

/-- The response to an error, without a body. -/
def mapHttpErrToResponse (err : HttpError) (frontendUrl : Text) (order : Enumeration Text) :
    Exec Response :=
  (ResponseBuilder.new.setStatus err.status).build frontendUrl order

end Http

end SigmaMedia
