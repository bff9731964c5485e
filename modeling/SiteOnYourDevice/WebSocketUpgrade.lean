import SiteOnYourDevice.HttpResponseText
import SiteOnYourDevice.WebSocketConnection

namespace SiteOnYourDevice
open CString
set_option relaxedAutoImplicit false
set_option autoImplicit true

/-- The code with its own `header_data`. -/
def WebSocketTypes.withTexts {ρ : Type*} (http : WebSocketTypes ρ) (texts : ResponseTexts) :
    WebSocketTypes ρ :=
  { http with header_data := texts.header_data }

namespace WebSocketConnection

variable {ρ : Type*} (http : WebSocketTypes ρ) (texts : ResponseTexts)

/-- The value of the `Connection` header, in lower case. -/
def lconnectionField (request : ρ) : Str :=
  http.StringToLowerASCII ((http.findHeaderByKey request "Connection".toList false).getD [])

/-- The tests of an upgrade beside the one of the `Connection` header. -/
structure OtherTests (request : ρ) : Prop where
  method : http.method request = .HM_GET
  upgrade : http.EqualsASCII ((http.findHeaderByKey request "Upgrade".toList false).getD [])
    "websocket".toList false = true
  key : (http.findHeaderByKey request "Sec-WebSocket-Key".toList false).isSome = true
  version : (http.findHeaderByKey request "Sec-WebSocket-Version".toList false).isSome = true

/-- The `Connection` header contains the word. -/
def SaysUpgrade (request : ρ) : Prop := "upgrade".toList <:+: lconnectionField http request

/-- The `Connection` header contains a letter of the word. -/
def SaysLetter (request : ρ) : Prop := ∃ c ∈ lconnectionField http request, c ∈ "upgrade".toList

/-- The client was answered with 101. -/
def Switched (s s' : WebSocketConnection) : Prop :=
  ∃ header_up, s'.answers = s.answers ++ [.switched header_up]

/-- An answer to a request: 101 for an upgrade and for nothing else, and with no word on the
connection but `Upgrade`. -/
structure UpgradesExactly (request : ρ) (notClose : Bool) (s : WebSocketConnection) : Prop where
  granted : Switched s (s.handleRequest (http.withTexts texts) request notClose) ↔
    OtherTests http request ∧ SaysUpgrade http request
  connection : ∀ data,
    (s.handleRequest (http.withTexts texts) request notClose).client.written =
      s.client.written ++ [.raw data] →
    ∀ value ∈ fieldsNamed "Connection".toList data, value = "Upgrade".toList

/-- A response can be sent: as text, or as frames of a stream. -/
def Sendable (protocol : http_protocols) (c : Http2Client) : Prop :=
  if protocol = .HP_2_0 then
    c.is_http2 = some true ∧ ∃ header_stream,
      c.findStreamByType .HTTP2_HEADERS = some (some header_stream)
  else c.is_http2.isSome = true

variable {http} {texts} {request : ρ} {notClose : Bool} {s : WebSocketConnection}
  {protocol : http_protocols}

theorem saysLetter_iff : SaysLetter http request ↔
    ((lconnectionField http request).any fun c => decide (c ∈ "upgrade".toList)) = true := by
  rw [SaysLetter, List.any_eq_true]
  simp only [decide_eq_true_eq]

theorem SaysUpgrade.letter (h : SaysUpgrade http request) : SaysLetter http request :=
  ⟨'u', h.subset (by decide), by decide⟩

/-- Behind all the tests, with any letter of the word. -/
theorem handleRequest_upgrade (s : WebSocketConnection) (notClose : Bool)
    (ho : OtherTests http request) (hl : SaysLetter http request) :
    ∃ key, s.handleRequest http request notClose =
      s.switchProtocol http (http.protocol request) (headerUp http key) notClose := by
  obtain ⟨key, hkey⟩ := Option.isSome_iff_exists.1 ho.key
  obtain ⟨version, hversion⟩ := Option.isSome_iff_exists.1 ho.version
  have hany := saysLetter_iff.1 hl
  rw [lconnectionField] at hany
  refine ⟨key, ?_⟩
  simp only [handleRequest, ho.method, ho.upgrade, hany, hkey, hversion, ne_eq, not_true_eq_false,
    if_false, Bool.not_true, Bool.false_eq_true]

theorem handleRequest_refused (s : WebSocketConnection) (notClose : Bool)
    (h : ¬ (OtherTests http request ∧ SaysLetter http request)) :
    s.handleRequest http request notClose = s.badRequest (http.protocol request) notClose := by
  simp only [handleRequest]
  split
  · rfl
  rename_i hmethod
  split
  · rfl
  rename_i hany
  split
  · rfl
  rename_i hupgrade
  split
  · rename_i key version hkey hversion
    refine absurd ⟨⟨not_not.1 hmethod, by simpa using hupgrade, by rw [hkey]; rfl,
      by rw [hversion]; rfl⟩, saysLetter_iff.2 ?_⟩ h
    simpa only [Bool.not_eq_true', Bool.not_eq_false, lconnectionField] using hany
  · rfl

/-- A refusal is no 101, and no block of lines. -/
theorem badRequest_answers (s : WebSocketConnection) (protocol : http_protocols)
    (notClose : Bool) :
    ¬ Switched s (s.badRequest protocol notClose) ∧
      ∀ data, (s.badRequest protocol notClose).client.written ≠
        s.client.written ++ [.raw data] := by
  have hself : ∀ (α : Type) (a : List α) (b : α), a ≠ a ++ [b] := by
    intro α a b h
    exact absurd (List.self_eq_append_right.1 h) (List.cons_ne_nil b [])
  simp only [badRequest, send_error, Http2Client.send_error_eq, Switched]
  cases hr : s.client.respond protocol
      (fun header_stream => [.frames header_stream.sid HS_BAD_REQUEST (some "Bad Request".toList)])
      [.text HS_BAD_REQUEST none (some "Bad Request".toList) notClose] with
  | none =>
    refine ⟨?_, fun data => hself _ _ _⟩
    rintro ⟨header_up, h⟩
    exact hself _ _ _ h
  | some out =>
    obtain ⟨ok, w⟩ := out
    refine ⟨?_, ?_⟩
    · rintro ⟨header_up, h⟩
      cases List.append_cancel_left h
    · intro data h
      have hw := List.append_cancel_left h
      obtain ⟨_, _, ⟨header_stream, _, rfl⟩ | rfl⟩ | ⟨_, rfl⟩ := Http2Client.respond_cases hr
      · cases hw
      · cases hw
      · cases hw

theorem Sendable.text {c : Http2Client} (h : Sendable protocol c) (hp : protocol ≠ .HP_2_0)
    (frames : IStream → List HttpWritten) (text : List HttpWritten) :
    c.respond protocol frames text = some (true, text) := by
  rw [Sendable, if_neg hp] at h
  obtain ⟨http2, hc⟩ := Option.isSome_iff_exists.1 h
  exact Http2Client.respond_text hc hp

theorem Sendable.frames {c : Http2Client} (h : Sendable .HP_2_0 c)
    (frames : IStream → List HttpWritten) (text : List HttpWritten) :
    ∃ header_stream, c.respond .HP_2_0 frames text = some (true, frames header_stream) := by
  rw [Sendable, if_pos rfl] at h
  obtain ⟨hc, header_stream, hs⟩ := h
  exact ⟨header_stream, Http2Client.respond_http2 hc hs⟩

theorem sendable_of_respond {c : Http2Client} {frames : IStream → List HttpWritten}
    {text w : List HttpWritten} (h : c.respond protocol frames text = some (true, w)) :
    Sendable protocol c := by
  obtain ⟨http2, hc, hr⟩ := Option.bind_eq_some_iff.1 h
  rw [Sendable]
  split
  · rename_i hp
    cases http2 with
    | false =>
      rw [Bool.false_and, if_neg Bool.false_ne_true, if_pos hp] at hr
      cases hr
    | true =>
      rw [Bool.true_and, if_pos (decide_eq_true hp)] at hr
      obtain ⟨stream, hs, he⟩ := Option.map_eq_some_iff.1 hr
      cases stream with
      | none => cases he
      | some header_stream => exact ⟨hc, header_stream, hs⟩
  · rw [hc]
    rfl

theorem sendable_of_text {c : Http2Client} {frames : IStream → List HttpWritten}
    {text w : List HttpWritten} {ok : Bool} (h : c.respond protocol frames text = some (ok, w))
    (hp : protocol ≠ .HP_2_0) : Sendable protocol c := by
  obtain ⟨http2, hc, _⟩ := Option.bind_eq_some_iff.1 h
  rw [Sendable, if_neg hp, hc]
  rfl

/-- The lines of a 101. -/
def upgradeLines (texts : ResponseTexts) (accept : Str) (notClose : Bool) : List Str :=
  ["HTTP/1.1 ".toList ++ decimalText HS_SWITCH_PROTOCOL ++ ' ' :: texts.title HS_SWITCH_PROTOCOL,
    "Server: ".toList ++ texts.server_name, "Date: ".toList ++ texts.date,
    "Upgrade: websocket".toList, "Connection: Upgrade".toList,
    "Sec-WebSocket-Accept: ".toList ++ accept,
    if notClose then CONNECTION_KEEP_ALIVE else CONNECTION_CLOSE]

theorem header_data_upgrade (key : Str) :
    texts.header_data ⟨HS_SWITCH_PROTOCOL, some (headerUp http key), none, none, none, notClose⟩ =
      ResponseTexts.block
        (upgradeLines texts (http.encode64 (http.sha1 (key ++ WEBSOCK_GUID))) notClose) := by
  have hlines : "Upgrade: websocket\r\nConnection: Upgrade\r\nSec-WebSocket-Accept: ".toList =
      "Upgrade: websocket".toList ++ (['\r', '\n'] ++ ("Connection: Upgrade".toList ++
        (['\r', '\n'] ++ "Sec-WebSocket-Accept: ".toList))) := by
    decide +kernel
  have hup : headerUp http key = "Upgrade: websocket".toList ++ (['\r', '\n'] ++
      ("Connection: Upgrade".toList ++ (['\r', '\n'] ++ ("Sec-WebSocket-Accept: ".toList ++
        http.encode64 (http.sha1 (key ++ WEBSOCK_GUID)))))) :=
    (congrArg (· ++ _) hlines).trans (by simp only [List.append_assoc])
  simp only [ResponseTexts.header_data, ResponseTexts.lines, ResponseTexts.block, upgradeLines,
    hup, Option.toList_some, Option.map_none, Option.toList_none, List.append_nil,
    List.flatMap_append, List.flatMap_cons, List.flatMap_nil, List.append_assoc]

theorem upgradeLines_line {accept : Str} (ha : '\r' ∉ accept) :
    ∀ l ∈ upgradeLines texts accept notClose, '\r' ∉ l := by
  have hstatus : '\r' ∉ "HTTP/1.1 ".toList ++ decimalText HS_SWITCH_PROTOCOL ++
      ' ' :: texts.title HS_SWITCH_PROTOCOL :=
    line_append (line_append (by decide) (decimalText_line _))
      (line_append (a := [' ']) (by decide) (texts.title_line _))
  have hlast : '\r' ∉ if notClose then CONNECTION_KEEP_ALIVE else CONNECTION_CLOSE := by
    cases notClose <;> decide
  simp only [upgradeLines, List.forall_mem_cons, List.not_mem_nil, false_implies, implies_true,
    and_true]
  exact ⟨hstatus, line_append (by decide) texts.server_name_line,
    line_append (by decide) texts.date_line, by decide, by decide,
    line_append (by decide) ha, hlast⟩

/-- The words on the connection in a 101 that is sent as text. -/
theorem fieldsNamed_upgrade (texts : ResponseTexts) (notClose : Bool) {accept : Str}
    (ha : '\r' ∉ accept) :
    fieldsNamed "Connection".toList (ResponseTexts.block (upgradeLines texts accept notClose)) =
      "Upgrade".toList :: if notClose then [] else ["close".toList] := by
  have hstatus : fieldOf "Connection".toList ("HTTP/1.1 ".toList ++ (decimalText HS_SWITCH_PROTOCOL
      ++ ' ' :: texts.title HS_SWITCH_PROTOCOL)) = none :=
    fieldOf_append _ (by decide +kernel) (by decide +kernel) _
  have hserver : fieldOf "Connection".toList ("Server: ".toList ++ texts.server_name) = none :=
    fieldOf_append _ (by decide +kernel) (by decide +kernel) _
  have hdate : fieldOf "Connection".toList ("Date: ".toList ++ texts.date) = none :=
    fieldOf_append _ (by decide +kernel) (by decide +kernel) _
  have hupgrade : fieldOf "Connection".toList "Upgrade: websocket".toList = none := by
    decide +kernel
  have hconnection : fieldOf "Connection".toList "Connection: Upgrade".toList =
      some "Upgrade".toList := by
    decide +kernel
  have haccept : fieldOf "Connection".toList ("Sec-WebSocket-Accept: ".toList ++ accept) = none :=
    fieldOf_append _ (by decide +kernel) (by decide +kernel) _
  have hempty : fieldOf "Connection".toList [] = none := by decide +kernel
  rw [fieldsNamed, headerLines_block (upgradeLines_line ha), upgradeLines, List.append_assoc]
  cases notClose with
  | true =>
    have hlast : fieldOf "Connection".toList CONNECTION_KEEP_ALIVE = none := by decide +kernel
    simp only [if_true, List.cons_append, List.nil_append, List.filterMap_cons, List.filterMap_nil,
      hstatus, hserver, hdate, hupgrade, hconnection, haccept, hlast, hempty]
  | false =>
    have hlast : fieldOf "Connection".toList CONNECTION_CLOSE = some "close".toList := by
      decide +kernel
    simp only [Bool.false_eq_true, if_false, List.cons_append, List.nil_append,
      List.filterMap_cons, List.filterMap_nil, hstatus, hserver, hdate, hupgrade, hconnection,
      haccept, hlast, hempty]

variable {header_up : Str}

theorem switchProtocol_text (h : Sendable protocol s.client) (hp : protocol ≠ .HP_2_0) :
    s.switchProtocol http protocol header_up notClose =
      { s with
        client := s.client.Write [.raw (http.header_data
          ⟨HS_SWITCH_PROTOCOL, some header_up, none, none, none, notClose⟩)]
        answers := s.answers ++ [.switched header_up] } := by
  simp only [switchProtocol, Http2Client.send_headers, h.text hp]

theorem switchProtocol_frames (http : WebSocketTypes ρ) (header_up : Str) (notClose : Bool)
    (h : Sendable .HP_2_0 s.client) :
    ∃ f, s.switchProtocol http .HP_2_0 header_up notClose =
      { s with
        client := s.client.Write [.frame f]
        answers := s.answers ++ [.switched header_up] } := by
  obtain ⟨header_stream, hs⟩ := h.frames
    (fun header_stream => [.frame ⟨.HTTP2_HEADERS, HTTP2_FLAG_END_HEADERS, header_stream.sid,
      http.http2_deflate_hd_bufs
        ⟨HS_SWITCH_PROTOCOL, some header_up, none, none, none, notClose⟩, true⟩])
    [.raw (http.header_data ⟨HS_SWITCH_PROTOCOL, some header_up, none, none, none, notClose⟩)]
  refine ⟨⟨.HTTP2_HEADERS, HTTP2_FLAG_END_HEADERS, header_stream.sid, http.http2_deflate_hd_bufs
    ⟨HS_SWITCH_PROTOCOL, some header_up, none, none, none, notClose⟩, true⟩, ?_⟩
  simp only [switchProtocol, Http2Client.send_headers, hs]

theorem switchProtocol_unsendable (h : ¬ Sendable protocol s.client) :
    (s.switchProtocol http protocol header_up notClose).answers = s.answers := by
  rw [switchProtocol]
  split
  · rfl
  · rename_i hr
    exact absurd (sendable_of_respond hr) h
  · rfl

/-- Behind the tests, 101 is sent whenever a response can be. -/
theorem switched_iff :
    Switched s (s.switchProtocol http protocol header_up notClose) ↔
      Sendable protocol s.client := by
  constructor
  · rintro ⟨up, h⟩
    by_contra hn
    rw [switchProtocol_unsendable hn] at h
    exact absurd (List.self_eq_append_right.1 h) (List.cons_ne_nil _ _)
  · intro h
    by_cases hp : protocol = .HP_2_0
    · subst hp
      obtain ⟨f, hf⟩ := switchProtocol_frames http header_up notClose h
      exact ⟨header_up, congrArg answers hf⟩
    · exact ⟨header_up, congrArg answers (switchProtocol_text h hp)⟩

/-- What is written for a 101, as a block of lines: its own header and no other. -/
theorem switchProtocol_raw {data : Str}
    (h : (s.switchProtocol http protocol header_up notClose).client.written =
      s.client.written ++ [.raw data]) :
    Sendable protocol s.client ∧ protocol ≠ .HP_2_0 ∧
      data = http.header_data ⟨HS_SWITCH_PROTOCOL, some header_up, none, none, none, notClose⟩ := by
  have hwrite : ∀ {ok : Bool} {w : List HttpWritten},
      s.client.send_headers http.toHttpRequestTypes protocol
        ⟨HS_SWITCH_PROTOCOL, some header_up, none, none, none, notClose⟩ = some (ok, w) →
      s.client.written ++ w = s.client.written ++ [.raw data] →
      Sendable protocol s.client ∧ protocol ≠ .HP_2_0 ∧
        data =
          http.header_data ⟨HS_SWITCH_PROTOCOL, some header_up, none, none, none, notClose⟩ := by
    intro ok w hr hw
    have hdata := List.append_cancel_left hw
    obtain ⟨_, _, ⟨header_stream, _, rfl⟩ | rfl⟩ | ⟨hp, rfl⟩ := Http2Client.respond_cases hr
    · cases hdata
    · cases hdata
    · cases hdata
      exact ⟨sendable_of_text hr hp, hp, rfl⟩
  rw [switchProtocol] at h
  split at h
  · exact absurd (List.self_eq_append_right.1 h) (List.cons_ne_nil _ _)
  · rename_i hr
    exact hwrite hr h
  · rename_i hr
    exact hwrite hr h

/-- A refused request is no upgrade, and is answered with no block of lines. -/
theorem upgradesExactly_refused (h : ¬ (OtherTests http request ∧ SaysLetter http request)) :
    UpgradesExactly http texts request notClose s := by
  have hnot : ¬ (OtherTests (http.withTexts texts) request ∧
      SaysLetter (http.withTexts texts) request) :=
    fun hup => h ⟨⟨hup.1.1, hup.1.2, hup.1.3, hup.1.4⟩, hup.2⟩
  have hrefused := handleRequest_refused s notClose hnot
  have hbad := badRequest_answers s (http.protocol request) notClose
  apply UpgradesExactly.mk
  · rw [hrefused]
    exact ⟨fun hs => absurd hs hbad.1, fun hup => absurd ⟨hup.1, hup.2.letter⟩ h⟩
  · intro data hdata
    rw [hrefused] at hdata
    exact absurd hdata (hbad.2 data)

/-- A 101 that is sent as text says only `Upgrade` when its connection is kept. -/
theorem connection_iff (texts : ResponseTexts) (protocol : http_protocols) (notClose : Bool)
    (s : WebSocketConnection) (h64 : ∀ data, '\r' ∉ http.encode64 data) (key : Str) :
    (∀ data, (s.switchProtocol (http.withTexts texts) protocol (headerUp http key)
        notClose).client.written = s.client.written ++ [.raw data] →
        ∀ value ∈ fieldsNamed "Connection".toList data, value = "Upgrade".toList) ↔
      (Sendable protocol s.client → protocol ≠ .HP_2_0 → notClose = true) := by
  have hfields := fieldsNamed_upgrade texts notClose (h64 (http.sha1 (key ++ WEBSOCK_GUID)))
  rw [← header_data_upgrade] at hfields
  constructor
  · intro hconnection hsend hp
    by_contra hclose
    have hwords := hconnection _ (congrArg (fun s' => s'.client.written)
      (switchProtocol_text hsend hp))
    have hword : "close".toList ∈ fieldsNamed "Connection".toList (texts.header_data
        ⟨HS_SWITCH_PROTOCOL, some (headerUp http key), none, none, none, notClose⟩) := by
      rw [hfields, if_neg hclose]
      exact List.mem_cons_of_mem _ List.mem_cons_self
    exact absurd (hwords _ hword) (by decide)
  · intro hclose data hdata value hvalue
    obtain ⟨hsend, hp, rfl⟩ := switchProtocol_raw hdata
    have hvalue' : value ∈ fieldsNamed "Connection".toList (texts.header_data
        ⟨HS_SWITCH_PROTOCOL, some (headerUp http key), none, none, none, notClose⟩) := hvalue
    rw [hfields, if_pos (hclose hsend hp)] at hvalue'
    exact List.mem_singleton.1 hvalue'

/-- What the code does grant: any letter of the word on a connection that can be answered; and a
connection that is not kept is told so beside its upgrade. -/
theorem upgradesExactly_iff (h64 : ∀ data, '\r' ∉ http.encode64 data) :
    UpgradesExactly http texts request notClose s ↔
      (OtherTests http request → SaysLetter http request →
        (SaysUpgrade http request ↔ Sendable (http.protocol request) s.client) ∧
        (Sendable (http.protocol request) s.client → http.protocol request ≠ .HP_2_0 →
          notClose = true)) := by
  by_cases hup : OtherTests http request ∧ SaysLetter http request
  · have ho : OtherTests (http.withTexts texts) request := ⟨hup.1.1, hup.1.2, hup.1.3, hup.1.4⟩
    obtain ⟨key, hkey⟩ := handleRequest_upgrade s notClose ho hup.2
    have hswitched : Switched s (s.handleRequest (http.withTexts texts) request notClose) ↔
        Sendable (http.protocol request) s.client := by
      rw [hkey]
      exact switched_iff
    have hconnection := connection_iff texts (http.protocol request) notClose s h64 key
    constructor
    · intro h _ _
      apply And.intro
      · rw [← hswitched, h.granted]
        exact ⟨fun hs => ⟨hup.1, hs⟩, And.right⟩
      · apply hconnection.1
        intro data hdata
        exact h.connection data ((congrArg (fun s' => s'.client.written) hkey).trans hdata)
    · intro h
      obtain ⟨hsaid, hclose⟩ := h hup.1 hup.2
      apply UpgradesExactly.mk
      · rw [hswitched, ← hsaid]
        exact ⟨fun hs => ⟨hup.1, hs⟩, And.right⟩
      · intro data hdata
        rw [hkey] at hdata
        exact hconnection.2 hclose data hdata
  · exact ⟨fun _ ho hl => absurd ⟨ho, hl⟩ hup, fun _ => upgradesExactly_refused hup⟩

/-- A request with a word on its connection. -/
def askUpgrade (connection : String) : List Str :=
  ["GET /chat HTTP/1.1".toList, "Connection: ".toList ++ connection.toList,
    "Upgrade: websocket".toList, "Sec-WebSocket-Key: dGhlIHNhbXBsZSBub25jZQ==".toList,
    "Sec-WebSocket-Version: 13".toList]

theorem upgradesExactly_iff_askUpgrade :
    (∀ data, '\r' ∉ plain.encode64 data) ∧
      UpgradesExactly plain .sample (askUpgrade "keep-alive, Upgrade") true new := by
  have h64 : ∀ data, '\r' ∉ plain.encode64 data := by
    intro data
    rw [plain]
    dsimp only
    split
    · decide
    · exact List.not_mem_nil
  have hsaid : SaysUpgrade plain (askUpgrade "keep-alive, Upgrade") := by
    rw [SaysUpgrade]
    decide +kernel
  have hsend : Sendable (plain.protocol (askUpgrade "keep-alive, Upgrade")) new.client := by
    have hprotocol : plain.protocol (askUpgrade "keep-alive, Upgrade") = .HP_1_1 := by
      decide +kernel
    rw [Sendable, hprotocol]
    rfl
  exact ⟨h64, (upgradesExactly_iff h64).2
    fun _ _ => ⟨⟨fun _ => hsend, fun _ => hsaid⟩, fun _ _ => rfl⟩⟩

/-- A connection that is only kept is upgraded, and one that asks for an upgrade alone is told that
it is closed. -/
theorem not_upgradesExactly_keepAlive :
    ¬ UpgradesExactly plain .sample (askUpgrade "keep-alive") true new ∧
      ¬ UpgradesExactly plain .sample (askUpgrade "Upgrade") false new := by
  constructor
  · intro h
    have hanswers : (new.handleRequest (plain.withTexts .sample) (askUpgrade "keep-alive")
        true).answers = [.switched (headerUp plain "dGhlIHNhbXBsZSBub25jZQ==".toList)] := by
      decide +kernel
    have hsaid : ¬ SaysUpgrade plain (askUpgrade "keep-alive") := by
      rw [SaysUpgrade]
      decide +kernel
    exact hsaid (h.granted.1 ⟨_, hanswers⟩).2
  · intro h
    have hwritten : (new.handleRequest (plain.withTexts .sample) (askUpgrade "Upgrade")
        false).client.written = [.raw (ResponseTexts.sample.header_data ⟨HS_SWITCH_PROTOCOL,
          some (headerUp plain "dGhlIHNhbXBsZSBub25jZQ==".toList), none, none, none, false⟩)] := by
      decide +kernel
    have hword : "close".toList ∈ fieldsNamed "Connection".toList
        (ResponseTexts.sample.header_data ⟨HS_SWITCH_PROTOCOL,
          some (headerUp plain "dGhlIHNhbXBsZSBub25jZQ==".toList), none, none, none, false⟩) := by
      decide +kernel
    exact absurd (h.connection _ hwritten _ hword) (by decide)

end WebSocketConnection

end SiteOnYourDevice
