import SigmaMedia.Base.Exec
import SigmaMedia.Base.Reader
import SigmaMedia.Base.Store

/-!
# HTTP Requests

How a request is read off a connection. The reader stops after 15000 bytes,
and every read from it is made without looking at its result: a line that is
no text is an empty line, the end of the stream is an endless supply of them,
and a body that does not come in full is left as it was allocated.

Header names are compared in lower case. Lowering is a parameter here, since
nothing depends on more of it than that it is a function.

## Main definitions

* `Request`: A request, with its body if it declares one.
* `readHeaders`: The header loop.
* `contentLength`: The declared length of a body.
* `readBody`: Reading a body of that length.
* `parseHttp`: Reading a request.
-/

namespace SigmaMedia

namespace Http

open Bytes Exec Reader Text

/-- The methods that are read. A request with any other is none. -/
inductive HTTPMethod where
  | get
  | post
  | options
  | delete
  deriving DecidableEq, Repr

/-- A request, with its parameters and headers by name. -/
structure Request where
  path : Text
  method : HTTPMethod
  search : Store Text Text
  headers : Store Text Text
  body : Option Bytes
  deriving DecidableEq

/-- The most that is read of a connection. -/
def readLimit : Nat := 15000

/-- `isize::MAX`, the most a vector can hold. -/
def isizeMax : Nat := 9223372036854775807

/-- The method a word stands for. -/
def HTTPMethod.tryFrom (method : Text) : Option HTTPMethod :=
  if method = "GET".toList then some .get
  else if method = "POST".toList then some .post
  else if method = "OPTIONS".toList then some .options
  else if method = "DELETE".toList then some .delete
  else none

/-- The parameters behind the question mark, the last of one name. A piece
    without an equals sign spoils them all. -/
def parseSearch (search : Text) : Option (Store Text Text) :=
  (search.splitOn '&').foldlM (fun searchMap split => do
    let (key, value) ← splitOnce "=".toList split
    some (searchMap.insert key value)) ∅

/-- A path, and the parameters behind a question mark. -/
def parsePathname (pathname : Text) : Option (Text × Store Text Text) :=
  match splitOnce "?".toList pathname with
  | some (path, search) => (parseSearch search).map fun search => (path, search)
  | none => some (pathname, ∅)

/-- The header loop, up to a line that is blank once it is trimmed. A repeated
    header replaces the one before. -/
def readHeaders (lowercase : Text → Text) (headers : Store Text Text) :
    List Bytes → Option (Store Text Text × List Bytes)
  -- At the end of the stream every further line is read as an empty one.
  | [] => some (headers, [])
  | line :: reader =>
      let headerLine := textOf line
      if trim headerLine = [] then some (headers, reader)
      else do
        let (key, value) ← splitOnce ":".toList headerLine
        readHeaders lowercase (headers.insert (lowercase (trim key)) (trim value)) reader

/-- The declared length of a body, if it is an integer of 64 bits. -/
def contentLength (headers : Store Text Text) : Option Nat :=
  (headers.lookup "content-length".toList).bind (parseUnsigned (2 ^ 64))

/-- A body is allocated in its declared length, filled with zeros, and then
    read into. What is missing is not noticed. -/
def readBody (length : Nat) (reader : Bytes) : Exec Bytes :=
  if isizeMax < length then .error (.explicit "capacity overflow")
  else .ok (readInto length reader).1.val

/-- The request up to its body, and the lines that are left. -/
def parseHead (lowercase : Text → Text) (reader : List Bytes) : Option (Request × List Bytes) := do
  let (requestLine, reader) := readLine reader
  let requestLine := requestLine.splitOn ' '
  let method ← requestLine[0]?
  let pathname ← requestLine[1]?
  -- The version behind the path is not looked at, nor is the end of the
  -- line, so a line of two words has a path with its line feed.
  let method ← HTTPMethod.tryFrom method
  let (path, search) ← parsePathname pathname
  let (headers, reader) ← readHeaders lowercase ∅ reader
  some ({ method, headers, search, body := none, path }, reader)

/-- The request at the front of a connection. -/
def parseHttp (lowercase : Text → Text) (stream : Bytes) : Exec (Option Request) :=
  match parseHead lowercase (linesOf (stream.take readLimit)) with
  | none => .ok none
  | some (request, reader) =>
      -- A length that is not a number is no length, and there is no body then.
      match contentLength request.headers with
      | none => .ok (some request)
      | some length => do
          let body ← readBody length reader.flatten
          return some { request with body := some body }

end Http

end SigmaMedia
