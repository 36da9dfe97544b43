import SigmaMedia.Core.Http
import SigmaMedia.Core.Response

/-!
# What Is Sent Is What Is Read

A request is a line with the method, the path and its parameters, then a line
for each header, a blank line and the body. `Message` is a request as a client
has it, with what a client has to keep to so that the parts can be told apart:
no blank in a path, no colon in the name of a header, and so on. Written out
and followed by anything at all, it is read as what it is, as long as it does
not pass the limit and declares the length of its body.

The other way round, a response is written from a status, headers and a body,
the headers in whatever order a hash map gives. A client that reads lines the
way the server does gets the same status, the same headers and the same body.

## Main definitions

* `IsField`: A header that stands on a line of its own.
* `IsParameter`: A parameter that can be told from the next.
* `Message`: A request as a client has it.
* `Message.request`: The same as the server has it.
* `readResponse`: What a client reads.

## Theorems

* `readHeaders_fields`: Headers are read back.
* `parsePathname_pathname`: So is a path with its parameters.
* `parseHttp_of_body`: So is a body of the declared length.
* `message_read_back`: So is a whole request.
* `readResponse_build`: So is a response.
-/

namespace SigmaMedia

namespace Http

open Bytes Exec Reader ResponseBuilder Text

/-- A header that stands on a line of its own, with nothing around it that is
    trimmed. -/
structure IsField (header : Text × Text) : Prop where
  trim_name : trim header.1 = header.1
  trim_value : trim header.2 = header.2
  colon_notMem : ':' ∉ header.1
  newline_notMem : '\n' ∉ header.1 ∧ '\n' ∉ header.2

/-- A parameter that can be told from the next. -/
structure IsParameter (parameter : Text × Text) : Prop where
  equals_notMem : '=' ∉ parameter.1
  and_notMem : '&' ∉ parameter.1 ∧ '&' ∉ parameter.2
  blank_notMem : ' ' ∉ parameter.1 ∧ ' ' ∉ parameter.2
  newline_notMem : '\n' ∉ parameter.1 ∧ '\n' ∉ parameter.2

instance (header : Text × Text) : Decidable (IsField header) :=
  decidable_of_iff (trim header.1 = header.1 ∧ trim header.2 = header.2 ∧ ':' ∉ header.1 ∧
      '\n' ∉ header.1 ∧ '\n' ∉ header.2)
    ⟨fun h => ⟨h.1, h.2.1, h.2.2.1, h.2.2.2⟩,
      fun h => ⟨h.trim_name, h.trim_value, h.colon_notMem, h.newline_notMem⟩⟩

instance (parameter : Text × Text) : Decidable (IsParameter parameter) :=
  decidable_of_iff ('=' ∉ parameter.1 ∧ ('&' ∉ parameter.1 ∧ '&' ∉ parameter.2) ∧
      (' ' ∉ parameter.1 ∧ ' ' ∉ parameter.2) ∧ '\n' ∉ parameter.1 ∧ '\n' ∉ parameter.2)
    ⟨fun h => ⟨h.1, h.2.1, h.2.2.1, h.2.2.2⟩,
      fun h => ⟨h.equals_notMem, h.and_notMem, h.blank_notMem, h.newline_notMem⟩⟩

/-- Headers as they are stored, the later of two with the same name. -/
def filed (lowercase : Text → Text) (headers : Store Text Text) (fields : List (Text × Text)) :
    Store Text Text :=
  fields.foldl (fun headers field => headers.insert (lowercase field.1) field.2) headers

theorem headerLine_eq (header : Text × Text) :
    headerLine header = header.1 ++ ':' :: (' ' :: header.2 ++ crlf) := by
  simp only [headerLine, List.append_assoc]
  rfl

theorem IsField.newline_notMem_line {header : Text × Text} (h : IsField header) :
    '\n' ∉ header.1 ++ ": ".toList ++ header.2 := by
  simp only [List.mem_append, not_or]
  exact ⟨⟨h.newline_notMem.1, by decide⟩, h.newline_notMem.2⟩

/-- A line, headers, a blank line and the rest, read by lines. -/
theorem linesOf_head {first : Text} (hfirst : '\n' ∉ first) {fields : List (Text × Text)}
    (h : ∀ field ∈ fields, IsField field) (rest : Bytes) :
    linesOf (utf8 (first ++ crlf ++ fields.flatMap headerLine ++ crlf) ++ rest)
      = utf8 (first ++ crlf)
        :: (fields.map (fun field => utf8 (headerLine field)) ++ utf8 crlf :: linesOf rest) := by
  have hheader : headerLine = fun field => field.1 ++ ": ".toList ++ field.2 ++ crlf := rfl
  -- The head as a list of lines, each with its end.
  have hlines : first ++ crlf ++ fields.flatMap headerLine ++ crlf
      = (first :: (fields.map (fun field => field.1 ++ ": ".toList ++ field.2) ++ [[]])).flatMap
          (· ++ crlf) := by
    rw [hheader]
    simp only [List.flatMap_cons, List.flatMap_append, List.flatMap_map, List.flatMap_nil,
      List.nil_append, List.append_nil, List.append_assoc]
  -- None of them has a line feed in it.
  have hnewline : ∀ l ∈ first :: (fields.map (fun field => field.1 ++ ": ".toList ++ field.2)
      ++ [[]]), '\n' ∉ l := by
    rw [List.forall_mem_cons, List.forall_mem_append, List.forall_mem_singleton]
    refine ⟨hfirst, ?_, List.not_mem_nil⟩
    intro l hl
    rcases List.mem_map.mp hl with ⟨field, hfield, rfl⟩
    exact (h field hfield).newline_notMem_line
  rw [hlines, linesOf_utf8_append hnewline, hheader]
  simp only [List.map_cons, List.map_append, List.map_map, List.map_nil, List.cons_append,
    List.append_assoc, List.nil_append, Function.comp_def]

/-- Headers are read back, up to the blank line behind them. -/
theorem readHeaders_fields (lowercase : Text → Text) {fields : List (Text × Text)}
    (h : ∀ field ∈ fields, IsField field) (headers : Store Text Text) (rest : List Bytes) :
    readHeaders lowercase headers
        (fields.map (fun field => utf8 (headerLine field)) ++ utf8 crlf :: rest)
      = some (filed lowercase headers fields, rest) := by
  induction fields generalizing headers with
  | nil =>
      have hblank : trim crlf = [] := by decide
      rw [List.map_nil, List.nil_append, readHeaders, textOf_utf8, if_pos hblank]
      rfl
  | cons field fields ih =>
      rw [List.forall_mem_cons] at h
      rcases h with ⟨hfield, hrest⟩
      -- The colon keeps the line from being blank.
      have hcolon : ':' ∈ headerLine field := by
        rw [headerLine_eq]
        exact List.mem_append_right _ List.mem_cons_self
      have hline : trim (headerLine field) ≠ [] := by
        intro hnil
        have hspace := isWhitespace_of_trim hnil hcolon
        revert hspace
        decide
      have hsplit : splitOnce ":".toList (headerLine field)
          = some (field.1, ' ' :: field.2 ++ crlf) := by
        rw [headerLine_eq]
        exact splitOnce_singleton hfield.colon_notMem _
      have hvalue : trim (' ' :: field.2 ++ crlf) = field.2 := by
        have hspace : ∀ c ∈ [' '], isWhitespace c = true := List.all_eq_true.mp rfl
        have hend : ∀ c ∈ crlf, isWhitespace c = true := List.all_eq_true.mp rfl
        exact trim_append hfield.trim_value hspace hend
      rw [List.map_cons, List.cons_append, readHeaders, textOf_utf8, if_neg hline, hsplit]
      simp only [Option.bind_eq_bind, Option.bind_some, hvalue, hfield.trim_name]
      exact ih hrest _

/-- A parameter as it is written. -/
def parameterText (parameter : Text × Text) : Text := parameter.1 ++ '=' :: parameter.2

/-- A path, with its parameters behind a question mark. -/
def pathname (path : Text) (parameters : List (Text × Text)) : Text :=
  if parameters = [] then path
  else path ++ '?' :: ['&'].intercalate (parameters.map parameterText)

/-- Parameters as they are stored, the later of two with the same name. -/
def searchOf (parameters : List (Text × Text)) : Store Text Text :=
  parameters.foldl (fun search parameter => search.insert parameter.1 parameter.2) ∅

theorem parseSearch_parameters {parameters : List (Text × Text)} (hne : parameters ≠ [])
    (h : ∀ parameter ∈ parameters, IsParameter parameter) :
    parseSearch (['&'].intercalate (parameters.map parameterText))
      = some (searchOf parameters) := by
  -- Cut at the separators, the parameters are there again.
  have hpieces : (['&'].intercalate (parameters.map parameterText)).splitOn '&'
      = parameters.map parameterText := by
    apply List.splitOn_intercalate '&'
    · intro piece hpiece
      rcases List.mem_map.mp hpiece with ⟨parameter, hmem, rfl⟩
      have hparameter := h parameter hmem
      simp only [parameterText, List.mem_append, List.mem_cons, not_or]
      exact ⟨hparameter.and_notMem.1, by decide, hparameter.and_notMem.2⟩
    · rwa [ne_eq, List.map_eq_nil_iff]
  rw [parseSearch, hpieces, searchOf]
  -- They are entered one after another, into any map.
  generalize (∅ : Store Text Text) = search
  clear hne hpieces
  induction parameters generalizing search with
  | nil => rfl
  | cons parameter parameters ih =>
      rw [List.forall_mem_cons] at h
      have hsplit : splitOnce "=".toList (parameterText parameter) = some parameter :=
        splitOnce_singleton h.1.equals_notMem _
      rw [List.map_cons, List.foldlM_cons, hsplit, List.foldl_cons]
      exact ih h.2 _

/-- A path is read back with its parameters. -/
theorem parsePathname_pathname {path : Text} {parameters : List (Text × Text)} (hpath : '?' ∉ path)
    (h : ∀ parameter ∈ parameters, IsParameter parameter) :
    parsePathname (pathname path parameters) = some (path, searchOf parameters) := by
  unfold parsePathname pathname
  -- Without parameters there is no question mark.
  by_cases hnil : parameters = []
  · have hnone : splitOnce "?".toList path = none := by
      rw [← Option.not_isSome_iff_eq_none]
      exact fun hsome => hpath (splitOnce_singleton_isSome.mp hsome)
    rw [if_pos hnil, hnone, hnil]
    rfl
  · have hsplit : splitOnce "?".toList
        (path ++ '?' :: ['&'].intercalate (parameters.map parameterText))
          = some (path, ['&'].intercalate (parameters.map parameterText)) :=
      splitOnce_singleton hpath _
    rw [if_neg hnil, hsplit]
    simp only [parseSearch_parameters hnil h, Option.map_some]

/-- The word a method is written as. -/
def HTTPMethod.word : HTTPMethod → Text
  | .get => "GET".toList
  | .post => "POST".toList
  | .options => "OPTIONS".toList
  | .delete => "DELETE".toList

theorem tryFrom_word (method : HTTPMethod) : HTTPMethod.tryFrom method.word = some method := by
  cases method with
  | get => rfl
  | post => rfl
  | options => rfl
  | delete => rfl

/-- A request as a client has it. -/
structure Message where
  method : HTTPMethod
  path : Text
  parameters : List (Text × Text)
  fields : List (Text × Text)
  body : Bytes
  path_notMem : ' ' ∉ path ∧ '?' ∉ path ∧ '\n' ∉ path
  isParameter : ∀ parameter ∈ parameters, IsParameter parameter
  isField : ∀ field ∈ fields, IsField field

namespace Message

variable {message : Message}

/-- The words of the first line. -/
def words (message : Message) : List Text :=
  [message.method.word, pathname message.path message.parameters, "HTTP/1.1".toList]

/-- A request as it is sent. -/
def bytes (message : Message) : Bytes :=
  utf8 (unwords message.words ++ crlf ++ message.fields.flatMap headerLine ++ crlf) ++ message.body

/-- A request as the server has it. Without a length there is no body. -/
def request (lowercase : Text → Text) (message : Message) : Request :=
  let headers := filed lowercase ∅ message.fields
  { path := message.path, method := message.method, search := searchOf message.parameters, headers,
    body := (contentLength headers).map fun _ => message.body }

/-- Everything in a path but what it must not have. -/
theorem notMem_pathname {c : Char} (hpath : c ∉ message.path) (hc : c ≠ '?' ∧ c ≠ '&' ∧ c ≠ '=')
    (h : ∀ parameter ∈ message.parameters, c ∉ parameter.1 ∧ c ∉ parameter.2) :
    c ∉ pathname message.path message.parameters := by
  unfold pathname
  by_cases hnil : message.parameters = []
  · rw [if_pos hnil]
    exact hpath
  · -- A character that is in no parameter and is no separator is nowhere behind
    -- the path.
    have hpieces : c ∉ ['&'].intercalate (message.parameters.map parameterText) := by
      apply notMem_intercalate hc.2.1
      intro piece hpiece
      rcases List.mem_map.mp hpiece with ⟨parameter, hmem, rfl⟩
      simp only [parameterText, List.mem_append, List.mem_cons, not_or]
      exact ⟨(h parameter hmem).1, hc.2.2, (h parameter hmem).2⟩
    rw [if_neg hnil, List.mem_append, List.mem_cons, not_or, not_or]
    exact ⟨hpath, hc.1, hpieces⟩

theorem newline_notMem_words : ∀ word ∈ message.words, '\n' ∉ word := by
  have hmethod : '\n' ∉ message.method.word := by
    cases message.method with
    | get => decide
    | post => decide
    | options => decide
    | delete => decide
  have hpath := notMem_pathname (c := '\n') message.path_notMem.2.2 (by decide)
    fun parameter hmem => (message.isParameter parameter hmem).newline_notMem
  simp only [words, List.forall_mem_cons, List.not_mem_nil, false_implies, implies_true, and_true]
  exact ⟨hmethod, hpath, by decide⟩

theorem blank_notMem_words : ' ' ∉ message.method.word ∧
    ' ' ∉ pathname message.path message.parameters := by
  constructor
  · cases message.method with
    | get => decide
    | post => decide
    | options => decide
    | delete => decide
  · exact notMem_pathname message.path_notMem.1 (by decide) fun parameter hmem =>
      (message.isParameter parameter hmem).blank_notMem

/-- The lines of a request. -/
theorem linesOf_bytes (message : Message) (rest : Bytes) :
    linesOf (message.bytes ++ rest)
      = utf8 (unwords message.words ++ crlf)
        :: (message.fields.map (fun field => utf8 (headerLine field))
          ++ utf8 crlf :: linesOf (message.body ++ rest)) := by
  rw [bytes, List.append_assoc]
  exact linesOf_head (notMem_intercalate (by decide) newline_notMem_words) message.isField _

/-- The first line is read back word by word. -/
theorem splitOn_words (message : Message) :
    (unwords message.words ++ crlf).splitOn ' '
      = [message.method.word, pathname message.path message.parameters,
          "HTTP/1.1".toList ++ crlf] := by
  have hline : unwords message.words ++ crlf
      = unwords [message.method.word, pathname message.path message.parameters,
          "HTTP/1.1".toList ++ crlf] := by
    simp only [words, unwords, List.intercalate_cons_cons, List.intercalate_singleton,
      List.append_assoc]
  rw [hline]
  apply splitOn_unwords (List.cons_ne_nil _ _)
  simp only [List.forall_mem_cons, List.not_mem_nil, false_implies, implies_true, and_true]
  exact ⟨blank_notMem_words.1, blank_notMem_words.2, by decide⟩

/-- The head of a request is read back, with its body left. -/
theorem parseHead_bytes (lowercase : Text → Text) (message : Message) (rest : Bytes) :
    parseHead lowercase (linesOf (message.bytes ++ rest))
      = some ({ message.request lowercase with body := none }, linesOf (message.body ++ rest)) := by
  have hheaders := readHeaders_fields lowercase message.isField ∅ (linesOf (message.body ++ rest))
  have hpath := parsePathname_pathname message.path_notMem.2.1 message.isParameter
  simp only [parseHead, linesOf_bytes, readLine, textOf_utf8, splitOn_words,
    List.getElem?_cons_zero, List.getElem?_cons_succ, Option.bind_eq_bind, Option.bind_some,
    tryFrom_word, hpath, hheaders]
  rfl

/-- Within the limit, so is the head of a stream that starts with it. -/
theorem parseHead_take (lowercase : Text → Text) (hfits : message.bytes.length ≤ readLimit)
    (rest : Bytes) :
    parseHead lowercase (linesOf ((message.bytes ++ rest).take readLimit))
      = some ({ message.request lowercase with body := none },
          linesOf (message.body ++ rest.take (readLimit - message.bytes.length))) := by
  rw [List.take_append, List.take_of_length_le hfits, parseHead_bytes]

theorem length_body_le : message.body.length ≤ message.bytes.length := by
  rw [bytes, List.length_append]
  exact Nat.le_add_left _ _

end Message

/-- A body of the length that is declared is read in full. -/
theorem parseHttp_of_body {lowercase : Text → Text} {stream body rest : Bytes} {request : Request}
    {lines : List Bytes}
    (hhead : parseHead lowercase (linesOf (stream.take readLimit)) = some (request, lines))
    (hlines : lines.flatten = body ++ rest)
    (hlength : contentLength request.headers = some body.length) (hmax : body.length ≤ readLimit) :
    parseHttp lowercase stream = .ok (some { request with body := some body }) := by
  have hsize : ¬ isizeMax < body.length := by
    have hlimit : readLimit ≤ isizeMax := by decide
    omega
  have hread := congrArg Subtype.val (readInto_append (⟨body, rfl⟩ : ByteArr body.length) rest)
  simp only [parseHttp, hhead, hlength, readBody, if_neg hsize, hlines, hread, ok_bind]
  rfl

/-- A request that is sent within the limit, and declares the length of its
    body, is read as what it is, whatever is sent behind it. -/
theorem message_read_back (lowercase : Text → Text) (message : Message) (rest : Bytes)
    (hfits : message.bytes.length ≤ readLimit)
    (hlength : ∀ length, contentLength (message.request lowercase).headers = some length →
      length = message.body.length) :
    parseHttp lowercase (message.bytes ++ rest) = .ok (some (message.request lowercase)) := by
  have hhead := Message.parseHead_take lowercase hfits rest
  have hbody : (message.request lowercase).body
      = (contentLength (message.request lowercase).headers).map fun _ => message.body := rfl
  rcases hcontent : contentLength (message.request lowercase).headers with _ | length
  · rw [hcontent, Option.map_none] at hbody
    simp only [parseHttp, hhead, hcontent]
    rw [← hbody]
  · rw [hcontent, Option.map_some] at hbody
    rw [hlength length hcontent] at hcontent
    have hmax := Nat.le_trans message.length_body_le hfits
    rw [parseHttp_of_body hhead (flatten_linesOf _) hcontent hmax, ← hbody]

/-- A request to watch a room, with the start of an offer. -/
def watchMessage : Message where
  method := .post
  path := "/whep".toList
  parameters := [("target_id".toList, "7".toList)]
  fields := [("Host".toList, "localhost".toList), ("Content-Length".toList, "4".toList)]
  body := [118, 61, 48, 10]
  path_notMem := by decide
  isParameter := by decide
  isField := by decide

/-- It is read back, with another request behind it. -/
theorem message_read_back_watch :
    ∃ request, parseHttp (List.map Char.toLower) (watchMessage.bytes ++ watchMessage.bytes)
        = .ok (some request) ∧ request.path = "/whep".toList ∧
      request.search.lookup "target_id".toList = some "7".toList ∧
      request.body = some [118, 61, 48, 10] := by
  have hdeclared :
      contentLength (watchMessage.request (List.map Char.toLower)).headers = some 4 := by
    decide +kernel
  refine ⟨watchMessage.request (List.map Char.toLower),
    message_read_back _ _ _ (by decide +kernel) ?_, rfl, by decide +kernel, by decide +kernel⟩
  intro length hlength
  rw [hdeclared, Option.some.injEq] at hlength
  rw [← hlength]
  rfl

/-- What a client reads of a response: its status, its headers under the names
    they are written with, and all that follows. -/
def readResponse (bytes : Bytes) : Option (Nat × Store Text Text × Bytes) := do
  let (statusLine, reader) := readLine (linesOf bytes)
  let status ← (statusLine.splitOn ' ')[1]?
  let status ← parseUnsigned 1000 status
  let (headers, reader) ← readHeaders id ∅ reader
  some (status, headers, reader.flatten)

section Builder

variable {builder : ResponseBuilder} {frontendUrl : Text}

/-- Headers that stand on lines of their own. -/
def AreFields (headers : Store Text Text) : Prop :=
  ∀ name value, headers.lookup name = some value → IsField (name, value)

theorem AreFields.insert {headers : Store Text Text} (h : AreFields headers) {name value : Text}
    (hfield : IsField (name, value)) : AreFields (headers.insert name value) := by
  intro name' value' hlookup
  rw [Store.lookup_insert_eq] at hlookup
  by_cases hname : name' = name
  · rw [if_pos hname, Option.some.injEq] at hlookup
    rw [hname, ← hlookup]
    exact hfield
  · rw [if_neg hname] at hlookup
    exact h name' value' hlookup

/-- A response with such headers, whose length is left to be filled in. -/
structure ResponseBuilder.IsPlain (builder : ResponseBuilder) : Prop where
  areFields : AreFields builder.headers
  undeclared : builder.headers.lookup "content-length".toList = none

theorem isPlain_new : ResponseBuilder.new.IsPlain := by
  refine ⟨?_, rfl⟩
  intro name value hlookup
  cases hlookup

theorem ResponseBuilder.IsPlain.setStatus (h : builder.IsPlain) (status : Nat) :
    (builder.setStatus status).IsPlain := ⟨h.areFields, h.undeclared⟩

theorem ResponseBuilder.IsPlain.setBody (h : builder.IsPlain) (body : Bytes) :
    (builder.setBody body).IsPlain := ⟨h.areFields, h.undeclared⟩

theorem ResponseBuilder.IsPlain.setHeader (h : builder.IsPlain) {name value : Text}
    (hfield : IsField (name, value)) (hname : "content-length".toList ≠ name) :
    (builder.setHeader name value).IsPlain := by
  refine ⟨h.areFields.insert hfield, ?_⟩
  rw [ResponseBuilder.setHeader, Store.lookup_insert_eq, if_neg hname]
  exact h.undeclared

theorem isField_contentLength (length : Nat) :
    IsField ("content-length".toList, showNat length) := by
  have hname : trim "content-length".toList = "content-length".toList ∧
      ':' ∉ "content-length".toList ∧ '\n' ∉ "content-length".toList := by decide
  exact ⟨hname.1, trim_showNat length, hname.2.1, hname.2.2, notMem_showNat (by decide) length⟩

/-- The headers that are added stand on lines of their own too. -/
theorem ResponseBuilder.IsPlain.sentHeaders (h : builder.IsPlain)
    (horigin : IsField (allowOrigin, frontendUrl)) :
    AreFields (builder.sentHeaders frontendUrl) := by
  have hset := h.areFields.insert horigin
  unfold ResponseBuilder.sentHeaders
  rcases builder.body with _ | body
  · exact hset
  · exact hset.insert (isField_contentLength body.length)

/-- Other headers are sent as they were set. -/
theorem lookup_sentHeaders {name : Text} (horigin : name ≠ allowOrigin)
    (hlength : name ≠ "content-length".toList) (builder : ResponseBuilder) (frontendUrl : Text) :
    (builder.sentHeaders frontendUrl).lookup name = builder.headers.lookup name := by
  unfold ResponseBuilder.sentHeaders
  rcases builder.body with _ | body
  · rw [Store.lookup_insert_eq, if_neg horigin]
  · simp only [Store.lookup_insert_eq, if_neg horigin, if_neg hlength]

/-- The origin is in every response. -/
theorem lookup_allowOrigin (builder : ResponseBuilder) (frontendUrl : Text) :
    (builder.sentHeaders frontendUrl).lookup allowOrigin = some frontendUrl := by
  have hne : allowOrigin ≠ "content-length".toList := by decide
  unfold ResponseBuilder.sentHeaders
  rcases builder.body with _ | body
  · rw [Store.lookup_insert_eq, if_pos rfl]
  · simp only [Store.lookup_insert_eq, if_neg hne, if_true]

/-- And the length of its body, if it has one. -/
theorem ResponseBuilder.IsPlain.lookup_contentLength (h : builder.IsPlain) (frontendUrl : Text) :
    (builder.sentHeaders frontendUrl).lookup "content-length".toList
      = builder.body.map fun body => showNat body.length := by
  have hne : "content-length".toList ≠ allowOrigin := by decide
  unfold ResponseBuilder.sentHeaders
  rcases builder.body with _ | body
  · rw [Store.lookup_insert_eq, if_neg hne]
    exact h.undeclared
  · rw [Store.lookup_insert_eq, if_pos rfl]
    rfl

theorem newline_notMem_statusText (status : Nat) : '\n' ∉ statusText status := by
  unfold statusText
  split_ifs
  all_goals decide

/-- The first line of a response. -/
def statusLine (status : Nat) : Text :=
  "HTTP/1.1 ".toList ++ showNat status ++ [' '] ++ statusText status

theorem statusLine_eq (status : Nat) :
    statusLine status = "HTTP/1.1 ".toList ++ showNat status ++ [' '] ++ statusText status := rfl

theorem newline_notMem_statusLine (status : Nat) : '\n' ∉ statusLine status := by
  have hversion : '\n' ∉ "HTTP/1.1 ".toList := by decide
  have hblank : '\n' ∉ [' '] := by decide
  have hnumber : '\n' ∉ showNat status := notMem_showNat rfl status
  have htext := newline_notMem_statusText status
  rw [statusLine_eq, List.mem_append, List.mem_append, List.mem_append, not_or, not_or, not_or]
  exact ⟨⟨⟨hversion, hnumber⟩, hblank⟩, htext⟩

/-- The status is the second word. -/
theorem splitOn_statusLine (status : Nat) :
    ((statusLine status ++ crlf).splitOn ' ')[1]? = some (showNat status) := by
  have hversion : ' ' ∉ "HTTP/1.1".toList := by decide
  have hnumber : ' ' ∉ showNat status := notMem_showNat rfl status
  have hword : "HTTP/1.1 ".toList = "HTTP/1.1".toList ++ [' '] := by decide
  have hline : statusLine status ++ crlf
      = "HTTP/1.1".toList ++ ' ' :: (showNat status ++ ' ' :: (statusText status ++ crlf)) := by
    rw [statusLine_eq, hword, List.append_assoc, List.append_assoc, List.append_assoc,
      List.append_assoc, List.singleton_append, List.singleton_append]
  rw [hline, List.splitOn_append_cons_self_of_not_mem hversion,
    List.splitOn_append_cons_self_of_not_mem hnumber]
  rfl

/-- A response is read back, whatever is sent behind it. -/
theorem readResponse_build (h : builder.IsPlain) (horigin : IsField (allowOrigin, frontendUrl))
    {status : Nat} (hstatus : builder.status = some status) (hlt : status < 1000)
    (order : Enumeration Text) (rest : Bytes) :
    ∃ response, builder.build frontendUrl order = .ok response ∧
      readResponse (response.bytes ++ rest)
        = some (status, builder.sentHeaders frontendUrl, builder.body.getD [] ++ rest) := by
  have hbuild : builder.build frontendUrl order = .ok ⟨utf8 (statusLine status ++ crlf
      ++ (order.entries (builder.sentHeaders frontendUrl)).flatMap headerLine ++ crlf)
      ++ builder.body.getD [], status⟩ := by
    rw [ResponseBuilder.build, hstatus]
    rfl
  have hfields : ∀ field ∈ order.entries (builder.sentHeaders frontendUrl), IsField field := by
    intro field hfield
    exact h.sentHeaders horigin _ _ (Enumeration.mem_entries.mp hfield)
  -- Read one after another, the headers are those that were set, in whatever
  -- order they are written.
  have hfiled : filed id ∅ (order.entries (builder.sentHeaders frontendUrl))
      = builder.sentHeaders frontendUrl := Enumeration.foldl_insert_entries order _
  refine ⟨_, hbuild, ?_⟩
  -- The status line, the headers, and the body is what is left.
  rw [readResponse, List.append_assoc, linesOf_head (newline_notMem_statusLine status) hfields]
  simp only [readLine, textOf_utf8, splitOn_statusLine, Option.bind_eq_bind, Option.bind_some,
    parseUnsigned_showNat hlt, readHeaders_fields id hfields, hfiled, flatten_linesOf]

end Builder

end Http

end SigmaMedia
