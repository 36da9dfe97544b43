import SigmaMedia.Theory.HttpMessages
import SigmaMedia.Theory.Registry.Routing
import SigmaMedia.Theory.Registry.Safety
import SigmaMedia.Theory.System.Runs

/-!
# A Request on Its Own

The shortest run in which something is asked for has one connection and four
events: the connection is taken, its command is sent and taken, and the reply
comes back. `exists_run_of_commandOf` gives this run for any request that
sends a command, and `exists_run_waiting` its first half.

The site such runs are evaluated at is on the loopback address, prints its
notifications as `serde_json` does, and writes headers in the order of their
names. `publishMessage` is a request to publish there, for any offer.

## Main definitions

* `textOrder`: Texts in a fixed order.
* `plainSite`, `plainTurn`: A site, and a turn of its main loop.
* `publishMessage`: A request to publish.

## Theorems

* `Run.arrived`: What the first connection came with.
* `exists_run_waiting`, `exists_run_of_commandOf`: A request that is alone with
  the main loop is served.
* `commandOf_publishMessage`: What a request to publish asks for.
-/

namespace SigmaMedia

namespace System

open Bytes Exec Http Mailbox Net Reader Sdp Text Trace

variable {crates : Crates} {site : Site} {files : Store Text Bytes}
variable {first last : System crates} {events : List Event} {log : List LogEntry}

/-- The first connection of a run finds the directory as it was at the
    start. -/
theorem Run.arrived {k : ConnectionId} {stream : Bytes} {order : Enumeration Text}
    (h : Run site files first (.connect k stream order :: events) last log) :
    Arrived site first (.connect k stream order :: events) k stream order files := by
  have hstart := h.starts
  simp only [System.start, bind_eq_ok, pure_eq_ok, Except.ok.injEq] at hstart
  rcases hstart with ⟨server, _, rfl⟩
  exact ⟨[], events, _, [], rfl, List.forall_mem_nil _, rfl, rfl⟩

/-- A run that can be evaluated. -/
theorem exists_run {test : System crates × List (List LogEntry) → Bool}
    (h : passes (System.start site files) (fun first =>
      passes (feed (System.step site) first events) test) = true) :
    ∃ (first last : System crates) (logs : List (List LogEntry)),
      Run site files first events last logs.flatten ∧ test (last, logs) = true := by
  rcases of_passes h with ⟨first, hfirst, hrest⟩
  rcases of_passes hrest with ⟨⟨last, logs⟩, hfeed, htest⟩
  exact ⟨first, last, logs, ⟨hfirst, logs, hfeed, rfl⟩, htest⟩

theorem start_of_ofConfig {server : UDPServer crates}
    (hserver : UDPServer.ofConfig site.config = .ok server) (files : Store Text Bytes) :
    System.start site files
      = .ok ({ world := World.init server, files, savers := [] } : System crates) := by
  rw [System.start, hserver]
  rfl

section Alone

variable {server server' : UDPServer crates} {stream : Bytes} {request : Request}
  {command : Command} (hserver : UDPServer.ofConfig site.config = .ok server)
  (hrequest : requestOf site stream = some request)
  (hpath : request.path ≠ "/notifications".toList)
  (hcommand : commandOf site request = some command)
include hrequest hpath hcommand

theorem handleConnection_of_commandOf (files : Store Text Bytes) (order : Enumeration Text) :
    handleConnection site order files stream
      = { written := [], rest := .responding (.ask command fun reply =>
          .done (responseTo site order command reply)) } := by
  rw [handleConnection_of_some hrequest hpath, orError_of_commandOf hcommand]
  rfl

include hserver

/-- The command of a request waits in the queue. -/
theorem exists_run_waiting (files : Store Text Bytes) (order : Enumeration Text) :
    ∃ (first last : System crates) (log : List LogEntry),
      Run site files first [.connect 0 stream order, .send 0] last log ∧
      last.world.owner = server ∧ last.world.queue = [(some 0, command)] := by
  have hjob := handleConnection_of_commandOf hrequest hpath hcommand files order
  have hstart := start_of_ofConfig hserver files
  have hfeed : ∃ (last : System crates) (logs : List (List LogEntry)),
      feed (System.step site) ({ world := World.init server, files, savers := [] } : System crates)
        [.connect 0 stream order, .send 0] = .ok (last, logs) ∧
      last.world.owner = server ∧ last.world.queue = [(some 0, command)] := by
    simp only [feed, System.step, System.move, Mailbox.step, World.init, World.setPhase_phase,
      World.setPhase_owner, World.setPhase_queue, if_true, hjob, jobs, Connection.asks, ok_bind,
      pure_eq_ok, List.nil_append, Except.ok.injEq, Prod.mk.injEq]
    exact ⟨_, _, ⟨rfl, rfl⟩, rfl, rfl⟩
  rcases hfeed with ⟨last, logs, hfeed, howner, hqueue⟩
  exact ⟨_, last, logs.flatten, ⟨hstart, logs, hfeed, rfl⟩, howner, hqueue⟩

/-- A request that is alone with the main loop is served. -/
theorem exists_run_of_commandOf {turn : Turn} {reply : Reply}
    (hserve : serve server (command, true, turn) = .ok (server', reply))
    (files : Store Text Bytes) (order : Enumeration Text) (brokenPipe : Bool) :
    ∃ (first last : System crates) (log : List LogEntry),
      Run site files first
        [.connect 0 stream order, .send 0, .take turn, .receive 0 brokenPipe] last log ∧
      last.world.owner = server' ∧
      last.world.phase 0 = some (.running
        { written := bytesOf (responseTo site order command reply), rest := .closed }) := by
  have hjob := handleConnection_of_commandOf hrequest hpath hcommand files order
  have hstart := start_of_ofConfig hserver files
  have hfeed : ∃ (last : System crates) (logs : List (List LogEntry)),
      feed (System.step site) ({ world := World.init server, files, savers := [] } : System crates)
        [.connect 0 stream order, .send 0, .take turn, .receive 0 brokenPipe] = .ok (last, logs) ∧
      last.world.owner = server' ∧
      last.world.phase 0 = some (.running
        { written := bytesOf (responseTo site order command reply), rest := .closed }) := by
    simp only [feed, System.step, System.move, Mailbox.step, World.init, World.setPhase_phase,
      World.setPhase_owner, World.setPhase_queue, World.deliver_phase, World.isWaiting,
      Phase.isWaiting, Phase.reply, if_true, hjob, jobs, Connection.asks, Connection.resume, hserve,
      advance_done, ok_bind, pure_eq_ok, List.nil_append, Option.bind_some, Option.any_some,
      Option.map_some, Except.ok.injEq, Prod.mk.injEq]
    exact ⟨_, _, ⟨rfl, rfl⟩, rfl, rfl⟩
  rcases hfeed with ⟨last, logs, hfeed, howner, hphase⟩
  exact ⟨_, last, logs.flatten, ⟨hstart, logs, hfeed, rfl⟩, howner, hphase⟩

end Alone

/-- A text as a number, its characters as digits. -/
def textNumber : Text → Nat
  | [] => 0
  | c :: t => (c.toNat + 1) + 4294967297 * textNumber t

theorem textNumber_injective : Function.Injective textNumber := by
  intro s t h
  induction s generalizing t with
  | nil =>
      cases t with
      | nil => rfl
      | cons d t =>
          simp only [textNumber] at h
          omega
  | cons c s ih =>
      cases t with
      | nil =>
          simp only [textNumber] at h
          omega
      | cons d t =>
          simp only [textNumber] at h
          have hc : c.toNat < 4294967296 := UInt32.toNat_lt c.val
          have hd : d.toNat < 4294967296 := UInt32.toNat_lt d.val
          have hhead : c = d := Char.toNat_inj.mp (by omega)
          have htail : s = t := ih (by omega)
          rw [hhead, htail]

/-- Texts in the order of their numbers. -/
def textOrder : Enumeration Text := .byNumber textNumber textNumber_injective

/-- A notification as `serde_json` prints it. -/
def roomsJson (rooms : List RoomStatus) : Text :=
  "\x7b\"rooms\":[".toList
    ++ [','].intercalate (rooms.map fun room =>
        "\x7b\"viewer_count\":".toList ++ showNat room.viewerCount ++ ",\"id\":".toList
          ++ showNat room.id.toNat ++ "\x7d".toList)
    ++ "]\x7d".toList

theorem newline_notMem_roomsJson (rooms : List RoomStatus) : '\n' ∉ roomsJson rooms := by
  have hpieces : '\n' ∉ [','].intercalate (rooms.map fun room =>
      "\x7b\"viewer_count\":".toList ++ showNat room.viewerCount ++ ",\"id\":".toList
        ++ showNat room.id.toNat ++ "\x7d".toList) := by
    apply notMem_intercalate (by decide)
    intro piece hpiece
    rcases List.mem_map.mp hpiece with ⟨room, _, rfl⟩
    simp only [List.mem_append, not_or]
    exact ⟨⟨⟨⟨by decide, notMem_showNat (by decide) _⟩, by decide⟩, notMem_showNat (by decide) _⟩,
      by decide⟩
  have hopen : '\n' ∉ "\x7b\"rooms\":[".toList := by decide
  have hclose : '\n' ∉ "]\x7d".toList := by decide
  intro hmem
  rcases List.mem_append.mp hmem with hmem | hmem
  · rcases List.mem_append.mp hmem with hmem | hmem
    · exact hopen hmem
    · exact hpieces hmem
  · exact hclose hmem

/-- A site on the loopback address. -/
def plainSite : Site where
  config :=
    { fingerprint := "AA".toList, whipToken := "token".toList,
      udpAddress := UDPServer.loopback 5000, frontendUrl := "http://localhost".toList,
      storageDir := "/srv".toList }
  lowercase := List.map Char.toLower
  notificationJson := roomsJson
  encodeWebp := fun image => image.dataBuffer

/-- A turn at the start of the clock, with the given ids. -/
def plainTurn (roomId resourceId : UInt32) : Turn :=
  { env := UDPServer.drawing roomId resourceId, order := textOrder }

/-- A request for the list of rooms. -/
def roomsRequest : Bytes := utf8 "GET /rooms HTTP/1.1\r\n\r\n".toList

/-- The bytes written to a connection that is not in the middle of a call. -/
def writtenTo (system : System crates) (k : ConnectionId) : Option Bytes :=
  (system.world.phase k).bind fun
    | .running t => some t.written
    | _ => none

theorem writtenTo_eq_some {system : System crates} {k : ConnectionId} {bytes : Bytes} :
    writtenTo system k = some bytes ↔
      ∃ t, system.world.phase k = some (.running t) ∧ t.written = bytes := by
  unfold writtenTo
  rcases system.world.phase k with _ | p
  · simp only [Option.bind_none, reduceCtorEq, false_and, exists_false]
  · cases p with
    | running t =>
        simp only [Option.bind_some, Option.some.injEq, Phase.running.injEq, exists_eq_left']
    | _ => simp only [Option.bind_some, Option.some.injEq, reduceCtorEq, false_and, exists_false]

/-- A request to publish, with the token. -/
def publishMessage (sdpOffer : Text) : Message where
  method := .post
  path := "/whip".toList
  parameters := []
  fields := [("Authorization".toList, "Bearer token".toList),
    ("content-length".toList, showNat (utf8 sdpOffer).length)]
  body := utf8 sdpOffer
  path_notMem := by decide
  isParameter := List.forall_mem_nil _
  isField := List.forall_mem_cons.mpr ⟨by decide,
    List.forall_mem_singleton.mpr (isField_contentLength _)⟩

section Publish

variable {sdpOffer : Text}

theorem publishMessage_headers (sdpOffer : Text) :
    ((publishMessage sdpOffer).request plainSite.lowercase).headers.lookup "content-length".toList
      = some (showNat (utf8 sdpOffer).length) ∧
    IsAuthorised plainSite ((publishMessage sdpOffer).request plainSite.lowercase) := by
  have hnames : plainSite.lowercase "Authorization".toList = "authorization".toList ∧
      plainSite.lowercase "content-length".toList = "content-length".toList ∧
      "authorization".toList ≠ "content-length".toList := by decide
  have hheaders : ((publishMessage sdpOffer).request plainSite.lowercase).headers
      = Finmap.insert (plainSite.lowercase "content-length".toList) (showNat (utf8 sdpOffer).length)
        (Finmap.insert (plainSite.lowercase "Authorization".toList) "Bearer token".toList ∅) := rfl
  rw [IsAuthorised, hheaders, hnames.1, hnames.2.1]
  simp only [Store.lookup_insert_eq, if_true, if_neg hnames.2.2]
  exact ⟨trivial, by decide⟩

theorem contentLength_publishMessage
    (hfits : (publishMessage sdpOffer).bytes.length ≤ readLimit) :
    contentLength ((publishMessage sdpOffer).request plainSite.lowercase).headers
      = some (utf8 sdpOffer).length := by
  have hle : (utf8 sdpOffer).length ≤ readLimit :=
    Nat.le_trans (publishMessage sdpOffer).length_body_le hfits
  have hlimit : readLimit < 2 ^ 64 := by decide
  rw [contentLength, (publishMessage_headers sdpOffer).1, Option.bind_some,
    parseUnsigned_showNat (Nat.lt_of_le_of_lt hle hlimit)]

/-- Whoever publishes sends the offer in the body. -/
theorem commandOf_publishMessage (hfits : (publishMessage sdpOffer).bytes.length ≤ readLimit) :
    ∃ request, requestOf plainSite ((publishMessage sdpOffer).bytes ++ []) = some request ∧
      request.path ≠ "/notifications".toList ∧
      commandOf plainSite request = some (.addStreamer sdpOffer) := by
  have hhead := Message.parseHead_take plainSite.lowercase hfits []
  have hcontent := contentLength_publishMessage hfits
  have hmax := Nat.le_trans (publishMessage sdpOffer).length_body_le hfits
  have hread := parseHttp_of_body hhead (flatten_linesOf _) hcontent hmax
  have hauth := (publishMessage_headers sdpOffer).2
  have hpath : "/whip".toList ≠ "/notifications".toList := by decide
  refine ⟨_, by rw [requestOf, hread], hpath, ?_⟩
  have hbody : fromUtf8 (publishMessage sdpOffer).body = some sdpOffer := fromUtf8_utf8 sdpOffer
  simp only [commandOf, bodyText, Option.bind_some, hbody, Option.map_some]
  exact (if_pos rfl).trans (if_pos hauth)

end Publish

/-- An offer to publish. -/
def publishOffer : Text := offerText "user".toList "sendonly".toList "111".toList "96".toList

theorem publishOffer_fits : (publishMessage publishOffer).bytes.length ≤ readLimit := by
  decide +kernel

/-- It is published by the only connection. -/
def publishEvents : List Event :=
  [.connect 0 ((publishMessage publishOffer).bytes ++ []) textOrder, .send 0,
    .take (plainTurn 1 2), .receive 0 false]

/-- A run in which it is. -/
theorem exists_run_publish :
    ∃ (first last : System UDPServer.plainCrates) (log : List LogEntry)
      (session : Session UDPServer.plainCrates) (written : Bytes),
      Run plainSite ∅ first publishEvents last log ∧
      last.world.owner.sessionRegistry.sessions.lookup 2 = some session ∧
      last.world.phase 0 = some (.running { written, rest := .closed }) := by
  have hturn : passes (UDPServer.ofConfig plainSite.config : Exec (UDPServer UDPServer.plainCrates))
      (fun server => passes (serve server (.addStreamer publishOffer, true, plainTurn 1 2))
        fun result => (result.1.sessionRegistry.sessions.lookup 2).isSome) = true := by
    decide +kernel
  rcases of_passes hturn with ⟨server, hserver, hrest⟩
  rcases of_passes hrest with ⟨⟨server', reply⟩, hserve, htest⟩
  rcases Option.isSome_iff_exists.mp htest with ⟨session, hsession⟩
  rcases commandOf_publishMessage publishOffer_fits with ⟨request, hrequest, hpath, hcommand⟩
  rcases exists_run_of_commandOf hserver hrequest hpath hcommand hserve ∅ textOrder false with
    ⟨first, last, log, h, howner, hphase⟩
  rw [← howner] at hsession
  exact ⟨first, last, log, session, _, h, hsession, hphase⟩

end System

end SigmaMedia
