import SigmaMedia.Core.Http

/-!
# Where a Body Comes From

A body is what follows the headers of a request: as many bytes as the headers
declare, right behind the blank line that ends them. The code finds it by
reading lines until one is blank and taking the declared number of bytes from
there, and it goes wrong wherever a read comes up short without notice. A line
that is no text ends the headers early. So do the end of the stream and the
limit on what is read. And a body that is cut off, by either, is filled up with
zeros.

With headers of text the code finds the place, and all that can be missing is
what lies beyond the limit. With a line that is no text among them it starts
behind that line, and the body is what was sent only if the bytes there happen
to be the same.

## Main definitions

* `Head`: The lines of a request up to its body.
* `BodySent`: A body is what a client sent.
* `unread`: The lines the header loop leaves.
* `Head.stop`: Where in the stream it stops.
* `BodyArrives`: When the code finds it.
* `DeclaresTooMuch`: A length that no vector can hold.

## Theorems

* `readHeaders_rest`: What the header loop leaves.
* `body_of_parseHttp`: What the code takes for the body.
* `parseHttp_panics_iff`: When reading a request panics.
* `flatten_unread`: Where the header loop stops.
* `stop_of_isText`: Headers of text are read to their end.
* `readInto_take_eq_iff`: When a limit does not change what is read.
* `readInto_unread_eq_iff`: When the code's bytes are those behind the head.
* `bodySent_iff`: When a body is what was sent.
-/

namespace SigmaMedia

namespace Http

open Bytes Exec Reader Text

/-- A line of white space. -/
def Blank (line : Bytes) : Prop := ∃ text, line = utf8 text ∧ trim text = []

/-- The lines of a request up to its body. -/
structure Head where
  requestLine : Bytes
  headerLines : List Bytes
  blankLine : Bytes
  isLine_requestLine : IsLine requestLine
  isLine_headerLines : ∀ line ∈ headerLines, IsLine line
  isLine_blankLine : IsLine blankLine
  /-- No header line is blank, so the blank line is the first. -/
  not_blank : ∀ line ∈ headerLines, ¬ Blank line
  blank : Blank blankLine

/-- The head as it arrives. -/
def Head.bytes (head : Head) : Bytes :=
  head.requestLine ++ (head.headerLines.flatten ++ head.blankLine)

/-- A body of the declared length, as it follows the head of the stream, and
    within the limit. -/
def BodySent (stream : Bytes) (length : Nat) (body : Bytes) : Prop :=
  body.length = length ∧ body.length ≤ readLimit ∧
    ∃ (head : Head) (rest : Bytes), stream = head.bytes ++ body ++ rest

/-- A line the header loop goes on behind. -/
def isHeader (line : Bytes) : Bool := trim (textOf line) ≠ []

/-- The lines that are left when the header loop stops. -/
def unread (stream : Bytes) : List Bytes :=
  ((linesOf (stream.take readLimit)).tail.dropWhile isHeader).tail

/-- How far the header loop gets in lines: it stops behind the first that is
    not a header. -/
def headersLength : List Bytes → Nat
  | [] => 0
  | line :: lines => line.length + if isHeader line then headersLength lines else 0

/-- Where the header loop stops, as a place in the stream. -/
def Head.stop (head : Head) : Nat :=
  head.requestLine.length + headersLength (head.headerLines ++ [head.blankLine])

/-- Every header line is text. -/
def Head.IsText (head : Head) : Prop := ∀ line ∈ head.headerLines, ∃ text, line = utf8 text

/-- The stream has a head and a whole body behind it, of a length within the
    limit. If the head is text, what is sent beyond the limit is all zeros. If
    it is not, the bytes of the body are those behind the first line that is no
    text, with zeros for what lies beyond the limit. -/
def BodyArrives (stream : Bytes) (length : Nat) : Prop :=
  ∃ head : Head, head.bytes <+: stream ∧ length ≤ readLimit ∧
    head.bytes.length + length ≤ stream.length ∧
    (head.IsText ∧ (∀ byte ∈ ((stream.drop head.bytes.length).take length).drop
        (readLimit - head.bytes.length), byte = 0) ∨
      ¬ head.IsText ∧ ∀ i < length, stream[head.bytes.length + i]?
        = some ((stream.take readLimit)[head.stop + i]?.getD 0))

/-- The header loop stops at the first line that is not a header. -/
theorem readHeaders_rest {lowercase : Text → Text} {headers headers' : Store Text Text}
    {lines rest : List Bytes} (h : readHeaders lowercase headers lines = some (headers', rest)) :
    rest = (lines.dropWhile isHeader).tail := by
  -- Over the lines, up to the first that is blank.
  induction lines generalizing headers with
  | nil =>
      cases h
      rfl
  | cons line lines ih =>
      by_cases hline : trim (textOf line) = []
      · have hstop : isHeader line = false := decide_eq_false (not_not.mpr hline)
        rw [readHeaders, if_pos hline] at h
        cases h
        rw [List.dropWhile_cons_of_neg (by rw [hstop]; exact Bool.false_ne_true), List.tail_cons]
      · have hgo : isHeader line = true := decide_eq_true hline
        rw [readHeaders, if_neg hline] at h
        simp only [Option.bind_eq_bind, Option.bind_eq_some_iff, Prod.exists] at h
        rcases h with ⟨key, value, _, h⟩
        rw [List.dropWhile_cons_of_pos hgo]
        exact ih h

theorem readLine_rest (lines : List Bytes) : (readLine lines).2 = lines.tail := by
  cases lines with
  | nil => rfl
  | cons line lines => rfl

/-- The lines behind the head of a request are those the header loop leaves. -/
theorem parseHead_rest {lowercase : Text → Text} {lines rest : List Bytes} {request : Request}
    (h : parseHead lowercase lines = some (request, rest)) :
    rest = (lines.tail.dropWhile isHeader).tail ∧ request.body = none := by
  simp only [parseHead, Option.bind_eq_bind, Option.bind_eq_some_iff, Option.some.injEq,
    Prod.exists, Prod.mk.injEq] at h
  rcases h with ⟨_, _, _, _, _, _, _, _, _, headers, lines', hheaders, rfl, rfl⟩
  rw [readLine_rest] at hheaders
  exact ⟨readHeaders_rest hheaders, rfl⟩

/-- What the code takes for the body: whatever stands behind the headers it has
    read, with zeros for what does not. -/
theorem body_of_parseHttp {lowercase : Text → Text} {stream body : Bytes} {request : Request}
    (h : parseHttp lowercase stream = .ok (some request)) (hbody : request.body = some body) :
    ∃ length, contentLength request.headers = some length ∧
      body = (readInto length (unread stream).flatten).1.val := by
  unfold parseHttp at h
  rcases hhead : parseHead lowercase (linesOf (stream.take readLimit)) with _ | ⟨head, rest⟩
  · rw [hhead] at h
    cases h
  rcases parseHead_rest hhead with ⟨hrest, hnone⟩
  rw [hhead] at h
  dsimp only at h
  -- Without a declared length there is no body.
  rcases hlength : contentLength head.headers with _ | length
  · rw [hlength] at h
    cases h
    rw [hnone] at hbody
    cases hbody
  · rw [hlength] at h
    dsimp only at h
    rw [readBody] at h
    split at h
    · cases h
    · cases h
      cases hbody
      exact ⟨length, hlength, by rw [hrest]; rfl⟩

/-- A request that declares a body no vector can hold. -/
def DeclaresTooMuch (lowercase : Text → Text) (stream : Bytes) : Prop :=
  ∃ request rest length,
    parseHead lowercase (linesOf (stream.take readLimit)) = some (request, rest) ∧
    contentLength request.headers = some length ∧ isizeMax < length

/-- Reading a request panics on such a length, and on nothing else. -/
theorem parseHttp_panics_iff (lowercase : Text → Text) (stream : Bytes) :
    (∃ p, parseHttp lowercase stream = .error p) ↔ DeclaresTooMuch lowercase stream := by
  unfold parseHttp DeclaresTooMuch
  -- Nothing but the allocation of the body can fail.
  rcases hhead : parseHead lowercase (linesOf (stream.take readLimit)) with _ | ⟨head, rest⟩
  · simp only [reduceCtorEq, exists_false, false_and]
  rcases hlength : contentLength head.headers with _ | length
  · simp only [hlength, reduceCtorEq, exists_false, Option.some.injEq, Prod.mk.injEq, false_iff,
      not_exists]
    rintro request rest' length ⟨⟨rfl, _⟩, hdeclared, _⟩
    rw [hlength] at hdeclared
    cases hdeclared
  · simp only [hlength, readBody]
    by_cases hmany : isizeMax < length
    · simp only [if_pos hmany]
      exact ⟨fun _ => ⟨head, rest, length, rfl, hlength, hmany⟩, fun _ => ⟨_, rfl⟩⟩
    · simp only [if_neg hmany, ok_bind, pure_eq_ok, reduceCtorEq, exists_false, Option.some.injEq,
        Prod.mk.injEq, false_iff, not_exists]
      rintro request rest' length' ⟨⟨rfl, _⟩, hdeclared, hmore⟩
      rw [hlength, Option.some.injEq] at hdeclared
      exact hmany (hdeclared ▸ hmore)

/-- A header line of text is one the loop goes on behind. -/
theorem isHeader_of_text {text : Text} (h : ¬ Blank (utf8 text)) : isHeader (utf8 text) = true := by
  have htext : textOf (utf8 text) = text := by
    rw [textOf, fromUtf8_utf8]
    rfl
  rw [isHeader, htext]
  exact decide_eq_true fun htrim => h ⟨text, rfl, htrim⟩

theorem isHeader_of_blank {line : Bytes} (h : Blank line) : isHeader line = false := by
  rcases h with ⟨text, rfl, htrim⟩
  rw [isHeader, textOf, fromUtf8_utf8, Option.getD_some, htrim]
  rfl

/-- The header loop stops at the same place wherever the stream is cut off, and
    nothing is left if it is cut off before. -/
theorem flatten_tail_dropWhile {lines : List Bytes} (hlines : ∀ line ∈ lines, IsLine line)
    (hstop : ∃ line ∈ lines, isHeader line = false) (rest : Bytes) (limit : Nat) :
    ((linesOf ((lines.flatten ++ rest).take limit)).dropWhile isHeader).tail.flatten
      = ((lines.flatten ++ rest).take limit).drop (headersLength lines) := by
  induction lines generalizing limit with
  | nil =>
      rcases hstop with ⟨line, hline, _⟩
      exact absurd hline List.not_mem_nil
  | cons line lines ih =>
      rw [List.forall_mem_cons] at hlines
      rw [List.flatten_cons, List.append_assoc, headersLength]
      by_cases hcut : limit < line.length
      · -- The line is cut off, so it is the last, and nothing follows it.
        have hone := length_linesOf_take_le_one hlines.1 (lines.flatten ++ rest) hcut
        have hfew := (List.dropWhile_suffix isHeader
          (l := linesOf ((line ++ (lines.flatten ++ rest)).take limit))).length_le
        have hnone : ((linesOf ((line ++ (lines.flatten ++ rest)).take limit)).dropWhile
            isHeader).tail = [] := by
          rw [← List.length_eq_zero_iff, List.length_tail]
          omega
        rw [hnone, List.flatten_nil, eq_comm, List.drop_eq_nil_iff, List.length_take]
        omega
      · have htake : (line ++ (lines.flatten ++ rest)).take limit
            = line ++ (lines.flatten ++ rest).take (limit - line.length) := by
          rw [List.take_append, List.take_of_length_le (Nat.le_of_not_lt hcut)]
        rw [htake, linesOf_append hlines.1]
        by_cases hheader : isHeader line = true
        · have hstop' : ∃ line ∈ lines, isHeader line = false := by
            rcases hstop with ⟨other, hother, hfalse⟩
            rcases List.mem_cons.mp hother with rfl | hother
            · rw [hheader] at hfalse
              cases hfalse
            · exact ⟨other, hother, hfalse⟩
          rw [List.dropWhile_cons_of_pos hheader, ih hlines.2 hstop', if_pos hheader,
            ← List.drop_drop, List.drop_left]
        · rw [List.dropWhile_cons_of_neg hheader, List.tail_cons, flatten_linesOf, if_neg hheader,
            Nat.add_zero, List.drop_left]

/-- What the header loop leaves is what stands behind the place where it stops,
    up to the limit. -/
theorem flatten_unread {stream : Bytes} {head : Head} (hhead : head.bytes <+: stream) :
    (unread stream).flatten = (stream.take readLimit).drop head.stop := by
  rcases hhead with ⟨rest, rfl⟩
  have hbytes : head.bytes ++ rest
      = head.requestLine ++ ((head.headerLines ++ [head.blankLine]).flatten ++ rest) := by
    rw [Head.bytes, List.append_assoc, List.flatten_append, List.flatten_singleton]
  have hlines : ∀ line ∈ head.headerLines ++ [head.blankLine], IsLine line :=
    List.forall_mem_append.mpr
      ⟨head.isLine_headerLines, List.forall_mem_singleton.mpr head.isLine_blankLine⟩
  have hstop : ∃ line ∈ head.headerLines ++ [head.blankLine], isHeader line = false :=
    ⟨head.blankLine, List.mem_append_right _ (List.mem_singleton_self _),
      isHeader_of_blank head.blank⟩
  rw [unread, hbytes, Head.stop]
  -- The limit may be reached within the request line already.
  by_cases hcut : readLimit < head.requestLine.length
  · have hone := length_linesOf_take_le_one head.isLine_requestLine
      ((head.headerLines ++ [head.blankLine]).flatten ++ rest) hcut
    have hnone : (linesOf ((head.requestLine ++ ((head.headerLines ++ [head.blankLine]).flatten
        ++ rest)).take readLimit)).tail = [] := by
      rw [← List.length_eq_zero_iff, List.length_tail]
      omega
    rw [hnone, eq_comm]
    refine List.drop_eq_nil_of_le ?_
    rw [List.length_take]
    omega
  · rw [List.take_append, List.take_of_length_le (Nat.le_of_not_lt hcut),
      linesOf_append head.isLine_requestLine, List.tail_cons,
      flatten_tail_dropWhile hlines hstop, ← List.drop_drop, List.drop_left]

/-- Over headers, the loop gets to the line behind them. -/
theorem headersLength_append {lines : List Bytes} (h : ∀ line ∈ lines, isHeader line = true)
    (rest : List Bytes) :
    headersLength (lines ++ rest) = lines.flatten.length + headersLength rest := by
  induction lines with
  | nil => exact (Nat.zero_add _).symm
  | cons line lines ih =>
      rw [List.forall_mem_cons] at h
      rw [List.cons_append, headersLength, if_pos h.1, ih h.2, List.flatten_cons,
        List.length_append, Nat.add_assoc]

/-- Headers of text are read to their end. -/
theorem stop_of_isText {head : Head} (h : head.IsText) : head.stop = head.bytes.length := by
  have hheaders : ∀ line ∈ head.headerLines, isHeader line = true := by
    intro line hline
    rcases h line hline with ⟨text, rfl⟩
    exact isHeader_of_text (head.not_blank _ hline)
  rw [Head.stop, headersLength_append hheaders, headersLength, headersLength, Head.bytes,
    isHeader_of_blank head.blank, List.length_append, List.length_append]
  rfl

/-- What is read into a body, byte by byte. -/
theorem readInto_eq_take_iff {length : Nat} {reader sent : Bytes} (h : length ≤ sent.length) :
    (readInto length reader).1.val = sent.take length ↔
      ∀ i < length, sent[i]? = some (reader[i]?.getD 0) := by
  have hlen : (readInto length reader).1.val.length = length := (readInto length reader).1.property
  have hread : (readInto length reader).1.val
      = reader.take length ++ List.replicate (length - reader.length) 0 := rfl
  -- A byte of the body is the one read there, or a zero that was never read over.
  have hget : ∀ i < length, (readInto length reader).1.val[i]? = some (reader[i]?.getD 0) := by
    intro i hi
    rw [hread, List.getElem?_append, List.length_take, List.getElem?_take_of_lt hi]
    by_cases hin : i < reader.length
    · rw [if_pos (by omega), List.getElem?_eq_getElem hin]
      rfl
    · rw [if_neg (by omega), List.getElem?_eq_none (Nat.le_of_not_lt hin),
        List.getElem?_replicate_of_lt (by omega)]
      rfl
  constructor
  · intro heq i hi
    rw [← hget i hi, heq, List.getElem?_take_of_lt hi]
  · -- Both have the declared length, and agree up to it.
    intro hall
    apply List.ext_getElem?
    intro i
    by_cases hi : i < length
    · rw [hget i hi, List.getElem?_take_of_lt hi, hall i hi]
    · rw [List.getElem?_eq_none (by omega), List.getElem?_eq_none]
      rw [List.length_take]
      omega

/-- A limit does not change what is read exactly when all that lies beyond it
    is zeros. -/
theorem readInto_take_eq_iff {length limit : Nat} {sent : Bytes} (h : length ≤ sent.length) :
    (readInto length (sent.take limit)).1.val = sent.take length ↔
      ∀ byte ∈ (sent.take length).drop limit, byte = 0 := by
  have hread : (readInto length (sent.take limit)).1.val
      = (sent.take limit).take length ++ List.replicate (length - (sent.take limit).length) 0 := rfl
  rw [hread]
  by_cases hlimit : length ≤ limit
  · -- The limit is not reached.
    have hzeros : length - (sent.take limit).length = 0 := by
      rw [List.length_take]
      omega
    have hnone : (sent.take length).drop limit = [] := by
      rw [List.drop_eq_nil_iff, List.length_take]
      omega
    rw [hzeros, hnone, List.replicate_zero, List.append_nil, List.take_take, Nat.min_eq_left hlimit]
    simp only [List.not_mem_nil, false_implies, implies_true]
  · have hsplit : sent.take length = sent.take limit ++ (sent.take length).drop limit := by
      have hall := List.take_append_drop limit (sent.take length)
      rw [List.take_take, Nat.min_eq_left (by omega)] at hall
      exact hall.symm
    have hbeyond : ((sent.take length).drop limit).length = length - limit := by
      rw [List.length_drop, List.length_take]
      omega
    rw [List.take_of_length_le (by rw [List.length_take]; omega), hsplit,
      List.append_cancel_left_eq, List.length_take, Nat.min_eq_left (by omega), ← hsplit, eq_comm,
      List.eq_replicate_iff]
    exact ⟨And.right, fun hall => ⟨hbeyond, hall⟩⟩

/-- Bytes that stand behind others in a stream, as a part of the stream. -/
theorem exists_rest_iff {front stream body : Bytes} {length : Nat} (hlen : body.length = length) :
    (∃ rest, stream = front ++ body ++ rest) ↔
      front <+: stream ∧ front.length + length ≤ stream.length ∧
        body = (stream.drop front.length).take length := by
  constructor
  · -- What follows the front begins with the body.
    intro hstream
    rcases hstream with ⟨rest, rfl⟩
    refine ⟨⟨body ++ rest, by rw [List.append_assoc]⟩, ?_, ?_⟩
    · rw [List.length_append, List.length_append, hlen]
      omega
    · rw [List.append_assoc, List.drop_left, List.take_left' hlen]
  · intro hstream
    rcases hstream with ⟨⟨rest, rfl⟩, _, hbytes⟩
    rw [List.drop_left] at hbytes
    refine ⟨rest.drop length, ?_⟩
    rw [List.append_assoc, hbytes, List.take_append_drop]

/-- Behind a head of text the code reads on, up to the limit. Behind any other it
    reads from the wrong place, and its bytes are compared as they are. -/
theorem readInto_unread_eq_iff {stream : Bytes} {head : Head} {length : Nat}
    (hhead : head.bytes <+: stream) (henough : head.bytes.length + length ≤ stream.length) :
    (readInto length (unread stream).flatten).1.val = (stream.drop head.bytes.length).take length ↔
      head.IsText ∧ (∀ byte ∈ ((stream.drop head.bytes.length).take length).drop
          (readLimit - head.bytes.length), byte = 0) ∨
        ¬ head.IsText ∧ ∀ i < length, stream[head.bytes.length + i]?
          = some ((stream.take readLimit)[head.stop + i]?.getD 0) := by
  have hrest : length ≤ (stream.drop head.bytes.length).length := by
    rw [List.length_drop]
    omega
  rw [flatten_unread hhead]
  -- Where the head is text, reading goes on right behind it, and else somewhere
  -- before.
  by_cases htext : head.IsText
  · rw [stop_of_isText htext, List.drop_take, readInto_take_eq_iff hrest]
    exact ⟨fun hzeros => .inl ⟨htext, hzeros⟩,
      fun hcases => hcases.elim And.right fun hnot => absurd htext hnot.1⟩
  · rw [readInto_eq_take_iff hrest]
    simp only [List.getElem?_drop]
    exact ⟨fun hsame => .inr ⟨htext, hsame⟩,
      fun hcases => hcases.elim (fun hnot => absurd hnot.1 htext) And.right⟩

/-- The body of a request is what the client sent exactly when it arrives. -/
theorem bodySent_iff (lowercase : Text → Text) (stream body : Bytes) (request : Request)
    (length : Nat) (h : parseHttp lowercase stream = .ok (some request))
    (hlength : contentLength request.headers = some length) (hbody : request.body = some body) :
    BodySent stream length body ↔ BodyArrives stream length := by
  rcases body_of_parseHttp h hbody with ⟨declared, hdeclared, hread⟩
  -- The length the body was allocated with is the one the headers declare.
  have hsame : declared = length := by
    rw [hlength, Option.some.injEq] at hdeclared
    exact hdeclared.symm
  rw [hsame] at hread
  have hlen : body.length = length := by
    rw [hread]
    exact (readInto length _).1.property
  constructor
  · intro hsent
    rcases hsent with ⟨_, hlimit, head, hstream⟩
    rcases (exists_rest_iff hlen).mp hstream with ⟨hfront, henough, hbytes⟩
    rw [hlen] at hlimit
    rw [hread] at hbytes
    exact ⟨head, hfront, hlimit, henough, (readInto_unread_eq_iff hfront henough).mp hbytes⟩
  · intro harrives
    rcases harrives with ⟨head, hfront, hlimit, henough, hcases⟩
    have hbytes := (readInto_unread_eq_iff hfront henough).mpr hcases
    rw [← hread] at hbytes
    rw [← hlen] at hlimit
    exact ⟨hlen, hlimit, head, (exists_rest_iff hlen).mpr ⟨hfront, henough, hbytes⟩⟩

/-- A head that declares a body of four bytes. -/
def postHead : Head where
  requestLine := utf8 "POST /whip HTTP/1.1\r\n".toList
  headerLines := [utf8 "content-length: 4\r\n".toList]
  blankLine := utf8 "\r\n".toList
  isLine_requestLine := ⟨utf8 "POST /whip HTTP/1.1\r".toList, by decide +kernel, by decide +kernel⟩
  isLine_headerLines := by
    rw [List.forall_mem_singleton]
    exact ⟨utf8 "content-length: 4\r".toList, by decide +kernel, by decide +kernel⟩
  isLine_blankLine := ⟨utf8 "\r".toList, by decide +kernel, by decide +kernel⟩
  not_blank := by
    rw [List.forall_mem_singleton]
    intro hblank
    have hheader : isHeader (utf8 "content-length: 4\r\n".toList) = true := by decide +kernel
    rw [isHeader_of_blank hblank] at hheader
    exact Bool.false_ne_true hheader
  blank := ⟨"\r\n".toList, rfl, by decide +kernel⟩

/-- A body that is sent in full arrives. -/
theorem bodySent_of_whole_request :
    ∃ request, parseHttp (List.map Char.toLower) (postHead.bytes ++ [118, 61, 48, 10])
        = .ok (some request) ∧ contentLength request.headers = some 4 ∧
      request.body = some [118, 61, 48, 10] ∧
      BodySent (postHead.bytes ++ [118, 61, 48, 10]) 4 [118, 61, 48, 10] := by
  have hparse : passes (parseHttp (List.map Char.toLower) (postHead.bytes ++ [118, 61, 48, 10]))
      (fun request => request.any fun request => contentLength request.headers = some 4 ∧
        request.body = some [118, 61, 48, 10]) = true := by decide +kernel
  rcases of_passes hparse with ⟨parsed, hok, htest⟩
  rw [Option.any_eq_true] at htest
  rcases htest with ⟨request, rfl, htest⟩
  rcases of_decide_eq_true htest with ⟨hlength, hbody⟩
  refine ⟨request, hok, hlength, hbody, ?_⟩
  -- The whole body is within the limit.
  have hnone : (((postHead.bytes ++ [118, 61, 48, 10]).drop postHead.bytes.length).take 4).drop
      (readLimit - postHead.bytes.length) = [] := by decide +kernel
  have htext : ∀ line ∈ postHead.headerLines, ∃ text, line = utf8 text :=
    List.forall_mem_singleton.mpr ⟨_, rfl⟩
  refine (bodySent_iff _ _ _ request 4 hok hlength hbody).mpr ⟨postHead, List.prefix_append _ _,
    by decide +kernel, by decide +kernel, .inl ⟨htext, ?_⟩⟩
  rw [hnone]
  exact List.forall_mem_nil _

/-- A connection that is closed after two bytes of a body gives a body of four,
    and two of them were never sent. -/
theorem not_bodySent_of_closed :
    ∃ request, parseHttp (List.map Char.toLower) (postHead.bytes ++ [97, 98]) = .ok (some request) ∧
      contentLength request.headers = some 4 ∧ request.body = some [97, 98, 0, 0] ∧
      0 ∉ postHead.bytes ++ [97, 98] ∧
      ¬ BodySent (postHead.bytes ++ [97, 98]) 4 [97, 98, 0, 0] := by
  have hparse : passes (parseHttp (List.map Char.toLower) (postHead.bytes ++ [97, 98]))
      (fun request => request.any fun request => contentLength request.headers = some 4 ∧
        request.body = some [97, 98, 0, 0]) = true := by decide +kernel
  rcases of_passes hparse with ⟨parsed, hok, htest⟩
  rw [Option.any_eq_true] at htest
  rcases htest with ⟨request, rfl, htest⟩
  rcases of_decide_eq_true htest with ⟨hlength, hbody⟩
  have hzero : (0 : UInt8) ∉ postHead.bytes ++ [97, 98] := by decide +kernel
  refine ⟨request, hok, hlength, hbody, hzero, ?_⟩
  -- The last two bytes of the body are zeros, and no zero was sent.
  intro hsent
  rcases hsent with ⟨_, _, head, rest, hstream⟩
  rw [hstream] at hzero
  exact hzero (List.mem_append_left _ (List.mem_append_right _ (by decide)))

end Http

end SigmaMedia
