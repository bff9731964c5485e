import SiteOnYourDevice.DeviceLink
import SiteOnYourDevice.ForwardedFrames
import SiteOnYourDevice.CommandsOut

namespace SiteOnYourDevice
open CString Sds JsonC Transition
set_option relaxedAutoImplicit false
set_option autoImplicit true

def COMMANDS.PING : Str := "ping".toList
def COMMANDS.INFO : Str := "plz_system_info".toList
def COMMANDS.CONFIG : Str := "plz_config".toList
def COMMANDS.SET_CONFIG : Str := "plz_set_config".toList

/-- What the functions of the page emit as `publish_redis`, when there is a name. -/
def emitted (name : Option Str) (id command : Str) : Option Str :=
  name.map fun name => name ++ ' ' :: id ++ ' ' :: command

def ping_server (id : Str) (name : Option Str) : Option Str := emitted name id COMMANDS.PING

def server_info (id : Str) (name : Option Str) : Option Str := emitted name id COMMANDS.INFO

def sync_server_config (id : Str) (name : Option Str) : Option Str :=
  emitted name id COMMANDS.CONFIG

def set_server_config (id : Str) (name : Option Str) (config : Str) : Option Str :=
  emitted name id (COMMANDS.SET_CONFIG ++ ' ' :: config)

/-- The requests of the page that ask the device for something. -/
inductive Query
  | ping
  | info
  | config

namespace Query
variable {Url : Type} (types : CommonTypes Url) (json : Texts) (env : DeviceEnv)

def command : Query → Str
  | ping => COMMANDS.PING
  | info => COMMANDS.INFO
  | config => COMMANDS.CONFIG

def emit (q : Query) (id : Str) (name : Option Str) : Option Str :=
  match q with
  | ping => ping_server id name
  | info => server_info id name
  | config => sync_server_config id name

/-- What the device has to say. -/
def answer (s : InnerServerHandler Url) : Query → Str
  | ping => "pong".toList
  | info => json.get_string (InnerServerHandler.infoJson env.systemInfo)
  | config => json.get_string (s.config_.toJson types)

/-- How it stands in the response. -/
def tail (s : InnerServerHandler Url) (q : Query) : Str :=
  match q with
  | ping => q.answer types json env s
  | info | config => quoted (q.answer types json env s)

/-- The texts of `json-c` are on one line, and no apostrophe is in the answer. -/
def Quotable (s : InnerServerHandler Url) (q : Query) : Prop :=
  '\'' ∉ q.answer types json env s ∧
    match q with
    | ping => True
    | info => json.OneLine (InnerServerHandler.infoJson env.systemInfo)
    | config => json.OneLine (s.config_.toJson types)

variable {types json env} {s : InnerServerHandler Url} {q : Query} {id : cmd_seq_t}

theorem emit_eq (q : Query) (id name : Str) :
    q.emit id (some name) = some (name ++ ' ' :: id ++ ' ' :: q.command) := by
  cases q <;> rfl

theorem command_word (q : Query) : IsWord q.command ∧ '\r' ∉ q.command ∧ '\x00' ∉ q.command := by
  cases q with
  | ping => exact ⟨.of_all (by decide) (by decide), by decide, by decide⟩
  | info => exact ⟨.of_all (by decide) (by decide), by decide, by decide⟩
  | config => exact ⟨.of_all (by decide) (by decide), by decide, by decide⟩

variable (types json env) in
/-- The device has a branch for each of them. -/
theorem handled (q : Query) (id : cmd_seq_t) (s : InnerServerHandler Url) :
    s.handleInnerRequestCommand types json env id [q.command] =
      some (s.respond env id (GENEATATE_SUCCESS_FMT q.command (q.tail types json env s))) := by
  cases q with
  | ping => rfl
  | info => rfl
  | config => rfl

theorem printable_of_oneLine {j : json_object} (h : json.OneLine j) :
    '\r' ∉ json.get_string j ∧ '\x00' ∉ json.get_string j := by
  constructor
  · exact fun hc => absurd (h.printable _ hc) (by decide)
  · exact fun hc => absurd (h.printable _ hc) (by decide)

theorem getLast_of_oneLine {j : json_object} (h : json.OneLine j) :
    (json.get_string j).getLast? ≠ some '\\' := by
  rw [h.closed]
  decide

theorem Quotable.answer_clean (h : q.Quotable types json env s) :
    '\r' ∉ q.answer types json env s ∧ '\x00' ∉ q.answer types json env s := by
  cases q with
  | ping =>
    have hpong : '\r' ∉ "pong".toList ∧ '\x00' ∉ "pong".toList := by decide
    exact hpong
  | info => exact printable_of_oneLine h.2
  | config => exact printable_of_oneLine h.2

theorem Quotable.tail_clean (h : q.Quotable types json env s) :
    '\r' ∉ q.tail types json env s ∧ '\x00' ∉ q.tail types json env s := by
  obtain ⟨hcr, hnul⟩ := h.answer_clean
  have hquoted : '\r' ∉ quoted (q.answer types json env s) ∧
      '\x00' ∉ quoted (q.answer types json env s) := by
    simp [quoted, hcr, hnul]
  cases q with
  | ping => exact ⟨hcr, hnul⟩
  | info => exact hquoted
  | config => exact hquoted

theorem Quotable.split (h : q.Quotable types json env s) :
    sdssplitargs (successRest q.command (q.tail types json env s)) =
      some [SUCCESS_COMMAND, q.command, q.answer types json env s] := by
  rw [sdssplitargs_successRest q.command_word.1]
  cases q with
  | ping => rfl
  | info => exact (splitFrom_quoted (getLast_of_oneLine h.2) _).2 h.1
  | config => exact (splitFrom_quoted (getLast_of_oneLine h.2) _).2 h.1

/-- The request is the shorter one of the two commands. -/
theorem request_fitting (q : Query) {tail : Str}
    (h : (builtText RESPONCE_COMMAND id (successRest q.command tail)).length ≤
      MAX_COMMAND_SIZE - 1) : Fitting REQUEST_COMMAND id q.command := by
  obtain ⟨_, hcr, hnul⟩ := q.command_word
  refine ⟨hcr, hnul, ?_⟩
  have hzero : CID_FMT REQUEST_COMMAND = ['0'] := by decide
  have hone : CID_FMT RESPONCE_COMMAND = ['1'] := by decide
  simp only [builtText, successRest, hzero, hone, List.length_append, List.length_cons] at h ⊢
  omega

theorem request_frame (q : Query) (h : Fitting REQUEST_COMMAND id q.command) (hid : ReadId id) :
    frameOf (builtText REQUEST_COMMAND id q.command) =
      some ⟨REQUEST_COMMAND, id, [q.command]⟩ := by
  have hsplit := q.command_word.1.splitFrom_blank (v := []) (p := [])
  rw [List.append_nil] at hsplit
  rw [h.frameOf_eq (.inl rfl) hid, sdssplitargs, hsplit]
  rfl

theorem Quotable.fitting (hq : q.Quotable types json env s)
    (h : (builtText RESPONCE_COMMAND id (successRest q.command (q.tail types json env s))).length ≤
      MAX_COMMAND_SIZE - 1) :
    Fitting RESPONCE_COMMAND id (successRest q.command (q.tail types json env s)) := by
  obtain ⟨_, hcr, hnul⟩ := q.command_word
  obtain ⟨htcr, htnul⟩ := hq.tail_clean
  have hok : '\r' ∉ SUCCESS_COMMAND ∧ '\x00' ∉ SUCCESS_COMMAND := by decide
  refine ⟨?_, ?_, h⟩
  · simp [successRest, hok.1, hcr, htcr]
  · simp [successRest, hok.2, hnul, htnul]

theorem Quotable.parsed (hq : q.Quotable types json env s) (hid : ReadId id) :
    parse_command_out (InnerServerHandlerHost.joined id
        [SUCCESS_COMMAND, q.command, q.answer types json env s]) =
      some ⟨id, .OK, q.command, ' ' :: q.answer types json env s⟩ := by
  obtain ⟨hword, _, hnul⟩ := q.command_word
  have hblank : ' ' ∉ q.command := fun hb => absurd (hword.plain _ hb).1 (by decide)
  have hparse := parse_joined hid.no_blank hblank .OK [q.answer types json env s]
  rw [if_neg (List.cons_ne_nil _ _), cstr_of_nul_free hid.nul_free, cstr_of_nul_free hnul,
    List.map_singleton, cstr_of_nul_free hq.answer_clean.2, List.intercalate_singleton] at hparse
  exact hparse

end Query

theorem InnerServerHandler.sent_respond {Url : Type} {env : DeviceEnv} {s : InnerServerHandler Url}
    {id : cmd_seq_t} (command tail : Str) (h : Fitting RESPONCE_COMMAND id (successRest command tail))
    (hid : ReadId id) (hw : env.writeError s.writes.length = none) :
    s.sent (s.respond env id (GENEATATE_SUCCESS_FMT command tail)) =
      [builtText RESPONCE_COMMAND id (successRest command tail)] := by
  rw [← h.buffText_eq (.inr (.inl rfl)) hid, ← GENEATATE_SUCCESS_FMT_eq]
  simp [InnerServerHandler.sent, InnerServerHandler.respond, InnerServerHandler.Write, hw,
    make_responce]

namespace InnerServerHandlerHost
variable {s : InnerServerHandlerHost} {c : ClientId} {name command : Str} {id : cmd_seq_t} {env : Env}

/-- A message for a connected host is forwarded, and its callback held. -/
theorem handleMessage_forwards (hname : ' ' ∉ name) (hz : '\x00' ∉ name) (hid : ReadId id)
    (hcommand : '\x00' ∉ command)
    (hfits : (builtText REQUEST_COMMAND id command).length < MAX_COMMAND_SIZE)
    (hreg : s.parent_.findInnerConnectionByHost name = some c)
    (hlive : (s.parent_.clients c).isSome = true) (hw : env.writeError s.writes.length = none) :
    s.handleMessage env (name ++ ' ' :: id ++ ' ' :: command) =
      some { s with
        writes := s.writes ++ [⟨c, builtText REQUEST_COMMAND id command, none⟩]
        listener := some ⟨id, c, s.writes.length⟩ } := by
  have hnul : '\x00' ∉ name ++ ' ' :: (id ++ ' ' :: command) := by
    simp [hz, hid.nul_free, hcommand]
  have hmsg : cstr (name ++ ' ' :: id ++ ' ' :: command) = name ++ ' ' :: (id ++ ' ' :: command) := by
    rw [List.append_assoc, List.cons_append, cstr_of_nul_free hnul]
  have hlen : (id ++ ' ' :: command).length + 5 ≤ MAX_COMMAND_SIZE := by
    have htext : builtText REQUEST_COMMAND id command = requestText (id ++ ' ' :: command) := by
      simp [builtText, requestText]
    rw [htext, requestText_length] at hfits
    exact hfits
  have hscan := scanMessage_eq hmsg hname
  have htake : (id ++ ' ' :: command ++ END_OF_COMMAND).take (MAX_COMMAND_SIZE - 3) =
      id ++ ' ' :: (command ++ END_OF_COMMAND) := by
    rw [List.take_of_length_le, List.append_assoc, List.cons_append]
    rw [List.length_append]
    have hend : END_OF_COMMAND.length = 2 := rfl
    omega
  rw [htake, strchr_append hid.no_blank] at hscan
  rw [handleMessage_connected hscan hreg hlive, writeMessage, Write, forwarded_of_fits hlen, hw]
  simp [builtText, requestText]

/-- A response that is read answers the requests with its id. -/
theorem responce_read (net : NetTypes) {read : Str} {argv : List Str}
    (hf : frameOf read = some ⟨RESPONCE_COMMAND, id, argv⟩) (hlen : read.length ≤ MAX_COMMAND_SIZE)
    (hlive : (s.parent_.clients c).isSome = true) (env : Env) :
    ∃ s', step net s (.dataReceived c read env) = some s' ∧
      SameRequests (s.processRequest id (some argv)) s' := by
  obtain ⟨cmd, b, hscan, hargv, _⟩ := frameOf_eq_some hf
  have hs : step net s (.dataReceived c read env) = some ((seqParser net env c).DataReceived read s) :=
    if_pos ⟨hlive, hlen⟩
  have hr : received (.dataReceived c read env) = some ⟨c, RESPONCE_COMMAND, id, some argv⟩ := by
    simp only [received, hscan, hargv]
  exact ⟨_, hs, frame_same hs hr⟩

end InnerServerHandlerHost

theorem InnerServerHandler.request_read {Url : Type} {types : CommonTypes Url} {json : Texts}
    {env : DeviceEnv} {s s' : InnerServerHandler Url} {read : Str} {id : cmd_seq_t}
    {argv : List Str} (hf : frameOf read = some ⟨REQUEST_COMMAND, id, argv⟩)
    (hs : s.handleInnerRequestCommand types json env id argv = some s') :
    (seqParser types json env).DataReceived read (some s) = some s' := by
  rw [DataReceived_of_frameOf hf]
  exact hs

namespace DeviceLink
variable {Url : Type} (types : CommonTypes Url) (json : Texts) {c : ClientId} {l : DeviceLink Url}
  {name command : Str} {id : cmd_seq_t} {env : Env} {denv : DeviceEnv}

/-- The device is connected under the name, nothing is on its way, and no request with the id
waits. -/
structure Ready (c : ClientId) (name : Str) (id : cmd_seq_t) (l : DeviceLink Url) : Prop where
  registered : l.host.parent_.findInnerConnectionByHost name = some c
  live : (l.host.parent_.clients c).isSome = true
  listener : l.host.listener = none
  unused : ∀ rc ∈ l.host.subscribed_requests_, rc.request_id_ ≠ id
  isOpen : l.device.inner_connection_ = true
  toDevice : l.toDevice = []
  toHost : l.toHost = []
  no_blank : ' ' ∉ name
  nul_free : '\x00' ∉ name

/-- The request is on its way to the device, and its callback waits. -/
def asked (c : ClientId) (id : cmd_seq_t) (command : Str) (l : DeviceLink Url) : DeviceLink Url :=
  { l with
    host := { l.host with
      writes := l.host.writes ++ [⟨c, builtText REQUEST_COMMAND id command, none⟩]
      subscribed_requests_ := l.host.subscribed_requests_ ++ [⟨id, c, l.host.writes.length⟩] }
    toDevice := [builtText REQUEST_COMMAND id command] }

/-- The request is on its way to the device, and the listener thread holds its callback. -/
def messaged (c : ClientId) (id : cmd_seq_t) (command : Str) (l : DeviceLink Url) :
    DeviceLink Url :=
  { l with
    host := { l.host with
      writes := l.host.writes ++ [⟨c, builtText REQUEST_COMMAND id command, none⟩]
      listener := some ⟨id, c, l.host.writes.length⟩ }
    toDevice := [builtText REQUEST_COMMAND id command] }

theorem step_messaged (h : Ready c name id l) (hid : ReadId id) (hcommand : '\x00' ∉ command)
    (hfits : (builtText REQUEST_COMMAND id command).length < MAX_COMMAND_SIZE)
    (hw : env.writeError l.host.writes.length = none) :
    step types json c l (.host (.handleMessage (name ++ ' ' :: id ++ ' ' :: command) env)) =
      some (l.messaged c id command) := by
  have hmessage := InnerServerHandlerHost.handleMessage_forwards h.no_blank h.nul_free hid hcommand
    hfits h.registered h.live hw
  have hhost : InnerServerHandlerHost.step types.toNetTypes l.host
      (.handleMessage (name ++ ' ' :: id ++ ' ' :: command) env) = _ :=
    (if_pos h.listener).trans hmessage
  have hstep : step types json c l
      (.host (.handleMessage (name ++ ' ' :: id ++ ' ' :: command) env)) = _ :=
    congrArg (Option.map (l.withHost c)) hhost
  rw [hstep]
  simp [withHost, arriving, InnerServerHandlerHost.sent, h.toDevice, messaged]

theorem step_subscribed (command : Str) (h : Ready c name id l) :
    step types json c (l.messaged c id command) (.host .subscribeRequest) =
      some (l.asked c id command) := by
  simp [step, readsFrom, InnerServerHandlerHost.step, withHost, arriving,
    InnerServerHandlerHost.sent, messaged, asked, InnerServerHandlerHost.subscribeRequest,
    h.listener]

theorem step_asked {device : InnerServerHandler Url} {argv : List Str} (h : Ready c name id l)
    (hfits : (builtText REQUEST_COMMAND id command).length < MAX_COMMAND_SIZE)
    (hf : frameOf (builtText REQUEST_COMMAND id command) = some ⟨REQUEST_COMMAND, id, argv⟩)
    (hs : l.device.handleInnerRequestCommand types json denv id argv = some device) :
    step types json c (l.asked c id command) (.deviceReads denv) =
      some ⟨(l.asked c id command).host, device, [], l.device.sent device⟩ := by
  have hread := InnerServerHandler.request_read hf hs
  have hpos : l.device.inner_connection_ = true ∧
      (builtText REQUEST_COMMAND id command).length ≤ MAX_COMMAND_SIZE := ⟨h.isOpen, hfits.le⟩
  have hdevice : deviceRead types json denv (builtText REQUEST_COMMAND id command) l.device =
      some device := (if_pos hpos).trans hread
  simp only [step, asked, hdevice, Option.map_some, h.toHost, List.nil_append]

/-- The answer of the device, on its way back, is published for the request and for no other one. -/
theorem step_answered (command : Str) {read : Str} {argv : List Str} (h : Ready c name id l)
    (hf : frameOf read = some ⟨RESPONCE_COMMAND, id, argv⟩) (hlen : read.length ≤ MAX_COMMAND_SIZE)
    (device : InnerServerHandler Url) (env : Env) :
    ∃ l', step types json c ⟨(l.asked c id command).host, device, [], [read]⟩ (.hostReads env) =
        some l' ∧
      InnerServerHandlerHost.published l.host l'.host =
        [⟨InnerServerHandlerHost.joined id argv, some ⟨id, c, l.host.writes.length⟩⟩] ∧
      l'.host.subscribed_requests_ = l.host.subscribed_requests_ ∧ l'.host.listener = none ∧
      l'.device = device ∧ l'.toHost = [] := by
  have hlive : ((l.asked c id command).host.parent_.clients c).isSome = true := h.live
  obtain ⟨host, hs, hsame⟩ := InnerServerHandlerHost.responce_read types.toNetTypes hf hlen
    hlive env
  have hother : l.host.subscribed_requests_.filter (fun rc => decide (id = rc.request_id_)) = [] := by
    rw [List.filter_eq_nil_iff]
    intro rc hrc he
    exact h.unused rc hrc (of_decide_eq_true he).symm
  have hkept : l.host.subscribed_requests_.filter (fun rc => decide (id ≠ rc.request_id_)) =
      l.host.subscribed_requests_ := by
    rw [List.filter_eq_self]
    intro rc hrc
    exact decide_eq_true fun he => h.unused rc hrc he.symm
  have hstep : step types json c ⟨(l.asked c id command).host, device, [], [read]⟩ (.hostReads env) =
      some (withHost c ⟨(l.asked c id command).host, device, [], []⟩ host) :=
    congrArg (Option.map _) hs
  refine ⟨_, hstep, ?_, ?_, ?_, rfl, rfl⟩
  · have hpub := hsame.published_eq l.host
    refine hpub.trans ?_
    rw [InnerServerHandlerHost.published, InnerServerHandlerHost.processRequest_eq]
    simp [asked, hother]
  · refine hsame.subscribed.trans ?_
    rw [InnerServerHandlerHost.processRequest_eq]
    simp only [asked, List.filter_append, hkept]
    simp
  · refine hsame.listener.trans ?_
    rw [InnerServerHandlerHost.processRequest_eq]
    exact h.listener

/-- A step of the server and a read of what the device had before it may come in either order. -/
theorem host_deviceReads_comm (c : ClientId) (hne : l.toDevice ≠ [])
    (e : InnerServerHandlerHost.Event) (denv : DeviceEnv) :
    run (step types json c) l [.host e, .deviceReads denv] =
      run (step types json c) l [.deviceReads denv, .host e] := by
  cases hto : l.toDevice with
  | nil => exact absurd hto hne
  | cons read rest =>
    cases hd : deviceRead types json denv read l.device with
    | none =>
      cases hr : readsFrom c e with
      | true => simp [run, step, hto, hr, hd]
      | false =>
        cases hh : InnerServerHandlerHost.step types.toNetTypes l.host e with
        | none => simp [run, step, hto, hr, hd, hh]
        | some host => simp [run, step, hto, hr, hd, hh, withHost]
    | some device =>
      cases hr : readsFrom c e with
      | true => simp [run, step, hto, hr, hd]
      | false =>
        cases hh : InnerServerHandlerHost.step types.toNetTypes l.host e with
        | none => simp [run, step, hto, hr, hd, hh]
        | some host => simp [run, step, hto, hr, hd, hh, withHost]

/-- The turns of a request and its answer: the device may read before the server has subscribed. -/
def roundTrips (msg : Str) (env : Env) (denv : DeviceEnv) (env' : Env) : List (List LinkTurn) :=
  [[.host (.handleMessage msg env), .host .subscribeRequest, .deviceReads denv, .hostReads env'],
    [.host (.handleMessage msg env), .deviceReads denv, .host .subscribeRequest, .hostReads env']]

theorem run_roundTrips {es : List LinkTurn} {env' : Env} (h : Ready c name id l) (hid : ReadId id)
    (hcommand : '\x00' ∉ command)
    (hfits : (builtText REQUEST_COMMAND id command).length < MAX_COMMAND_SIZE)
    (hw : env.writeError l.host.writes.length = none)
    (hes : es ∈ roundTrips (name ++ ' ' :: id ++ ' ' :: command) env denv env') :
    run (step types json c) l es =
      run (step types json c) (l.asked c id command) [.deviceReads denv, .hostReads env'] := by
  have hmessaged := step_messaged types json h hid hcommand hfits hw
  have hsubscribed := step_subscribed types json command h
  rw [roundTrips, List.mem_cons, List.mem_singleton] at hes
  rcases hes with rfl | rfl
  · rw [run_cons hmessaged, run_cons hsubscribed]
  · have hcomm := host_deviceReads_comm types json c
      (l := l.messaged c id command) (List.cons_ne_nil _ _) .subscribeRequest denv
    have hsplit : ∀ a b : LinkTurn, [a, b, .hostReads env'] = [a, b] ++ [.hostReads env'] :=
      fun _ _ => rfl
    rw [run_cons hmessaged, hsplit, run_append, ← hcomm, ← run_append, ← hsplit,
      run_cons hsubscribed]

/-- A request of the page comes back as the answer of its device, under its own id, whether or not
the device is faster than the subscription. -/
theorem run_query (q : Query) (h : Ready c name id l) (hid : ReadId id)
    (hw : env.writeError l.host.writes.length = none)
    (hdw : denv.writeError l.device.writes.length = none)
    (hq : q.Quotable types json denv l.device)
    (hfits : (builtText RESPONCE_COMMAND id
      (successRest q.command (q.tail types json denv l.device))).length ≤ MAX_COMMAND_SIZE - 1)
    (env' : Env) :
    ∃ msg l', q.emit id (some name) = some msg ∧
      (∀ es ∈ roundTrips msg env denv env', run (step types json c) l es = some l') ∧
      (∃ m rc, InnerServerHandlerHost.published l.host l'.host = [⟨m, some rc⟩] ∧
        parse_command_out m =
          some ⟨id, .OK, q.command, ' ' :: q.answer types json denv l.device⟩) ∧
      l'.host.subscribed_requests_ = l.host.subscribed_requests_ ∧ l'.host.listener = none ∧
      l'.device.config_ = l.device.config_ ∧ l'.toHost = [] := by
  have hnul := q.command_word.2.2
  have hrequest := q.request_fitting hfits
  have hanswer := hq.fitting hfits
  have hlt : (builtText REQUEST_COMMAND id q.command).length < MAX_COMMAND_SIZE :=
    Nat.lt_of_le_pred (by decide) hrequest.length
  have hread := step_asked types json h hlt (q.request_frame hrequest hid)
    (q.handled types json denv id l.device)
  rw [InnerServerHandler.sent_respond _ _ hanswer hid hdw] at hread
  have hframe := hanswer.frameOf_eq (.inr (.inl rfl)) hid
  rw [hq.split, Option.map_some] at hframe
  obtain ⟨l', hstep, hpub, hsub, hlistener, hdevice, hto⟩ := step_answered types json q.command h
    hframe (hanswer.length.trans (Nat.sub_le _ _)) (l.device.respond denv id
      (GENEATATE_SUCCESS_FMT q.command (q.tail types json denv l.device))) env'
  refine ⟨_, l', q.emit_eq id name, ?_, ⟨_, _, hpub, hq.parsed hid⟩, hsub, hlistener, ?_, hto⟩
  · intro es hes
    rw [run_roundTrips types json h hid hnul hlt hw hes, run_cons hread, run_cons hstep]
    rfl
  · rw [hdevice]
    rfl

/-- The device of the site, connected under its own name. -/
def siteLink : DeviceLink Str where
  host := { InnerServerHandlerHost.init with
    parent_ := HttpServerHost.init.accept.registerInnerConnectionByUser
      InnerServerHandler.siteDevice.authInfo 0 }
  device := InnerServerHandler.siteDevice
  toDevice := []
  toHost := []

theorem ready_siteLink : siteLink.Ready 0 "localhost".toList "7".toList := by
  constructor
  · rfl
  · rfl
  · rfl
  · exact fun _ hrc => absurd hrc List.not_mem_nil
  · rfl
  · rfl
  · rfl
  · decide
  · decide

theorem readId_seven : ReadId "7".toList := ⟨by decide, by decide, by decide⟩

open InnerServerHandler in
theorem run_query_config : ∃ msg l',
    Query.config.emit "7".toList (some "localhost".toList) = some msg ∧
      (∀ es ∈ roundTrips msg .calm calmDevice .calm,
        run (step twoHosts siteTexts 0) siteLink es = some l') ∧
      (∃ m rc, InnerServerHandlerHost.published siteLink.host l'.host = [⟨m, some rc⟩] ∧
        parse_command_out m = some ⟨"7".toList, .OK, COMMANDS.CONFIG,
          ' ' :: Query.config.answer twoHosts siteTexts calmDevice siteDevice⟩) ∧
      l'.host.subscribed_requests_ = siteLink.host.subscribed_requests_ ∧
      l'.host.listener = none ∧ l'.device.config_ = siteConfig ∧ l'.toHost = [] := by
  have hquote : '\'' ∉ siteTexts.get_string (siteConfig.toJson twoHosts) := by
    rw [get_string_site]
    exact fun h => (siteText_plain.1 _ h).2 rfl
  have hfits : (builtText RESPONCE_COMMAND "7".toList (successRest COMMANDS.CONFIG
      (quoted (siteTexts.get_string (siteConfig.toJson twoHosts))))).length ≤
        MAX_COMMAND_SIZE - 1 := by
    rw [get_string_site]
    decide +kernel
  exact run_query twoHosts siteTexts .config ready_siteLink readId_seven rfl rfl
    ⟨hquote, oneLine_site⟩ hfits .calm

end DeviceLink

/-- The command of the settings that are applied, with the JSON text between its quotes. -/
def settingsCommand (J : Str) : Str := COMMANDS.SET_CONFIG ++ ' ' :: quoted J

theorem set_server_config_eq (id name J : Str) :
    set_server_config id (some name) (quoted J) =
      some (name ++ ' ' :: id ++ ' ' :: settingsCommand J) := rfl

/-- A text of `JSON.stringify` that can be sent. -/
structure SettingsText (id : cmd_seq_t) (J : Str) : Prop where
  ne_nil : J ≠ []
  no_cr : '\r' ∉ J
  nul_free : '\x00' ∉ J
  closed : J.getLast? ≠ some '\\'
  length : (builtText REQUEST_COMMAND id (settingsCommand J)).length ≤ MAX_COMMAND_SIZE - 1

theorem SettingsText.fitting {id : cmd_seq_t} {J : Str} (h : SettingsText id J) :
    Fitting REQUEST_COMMAND id (settingsCommand J) := by
  have hset : '\r' ∉ COMMANDS.SET_CONFIG ∧ '\x00' ∉ COMMANDS.SET_CONFIG := by decide
  refine ⟨?_, ?_, h.length⟩
  · simp [settingsCommand, quoted, hset.1, h.no_cr]
  · simp [settingsCommand, quoted, hset.2, h.nul_free]

/-- The device reads the text that was sent exactly when nothing in it closes the quote. -/
theorem SettingsText.frameOf_iff {id : cmd_seq_t} {J : Str} (h : SettingsText id J)
    (hid : ReadId id) :
    frameOf (builtText REQUEST_COMMAND id (settingsCommand J)) =
        some ⟨REQUEST_COMMAND, id, [COMMANDS.SET_CONFIG, J]⟩ ↔ '\'' ∉ J := by
  have hword : IsWord COMMANDS.SET_CONFIG := .of_all (by decide) (by decide)
  have hsplit : sdssplitargs (settingsCommand J) =
      splitFrom .blank [COMMANDS.SET_CONFIG] (quoted J) := by
    rw [sdssplitargs, settingsCommand, hword.splitFrom_blank, splitFrom_token_end rfl]
    rfl
  rw [h.fitting.frameOf_eq (.inl rfl) hid, hsplit, ← splitFrom_quoted h.closed [COMMANDS.SET_CONFIG],
    Option.map_eq_some_iff]
  apply Iff.intro
  · rintro ⟨argv, hargv, hc⟩
    rw [hargv, (Command.mk.inj hc).2.2]
    rfl
  · intro hargv
    exact ⟨_, hargv, rfl⟩

/-- The response to settings says no more than that. -/
theorem SettingsText.responce {id : cmd_seq_t} {J : Str} (h : SettingsText id J) (hid : ReadId id) :
    Fitting RESPONCE_COMMAND id (successRest COMMANDS.SET_CONFIG []) ∧
      frameOf (builtText RESPONCE_COMMAND id (successRest COMMANDS.SET_CONFIG [])) =
        some ⟨RESPONCE_COMMAND, id, [SUCCESS_COMMAND, COMMANDS.SET_CONFIG]⟩ ∧
      parse_command_out (InnerServerHandlerHost.joined id [SUCCESS_COMMAND, COMMANDS.SET_CONFIG]) =
        none := by
  have hclean : '\r' ∉ successRest COMMANDS.SET_CONFIG [] ∧
      '\x00' ∉ successRest COMMANDS.SET_CONFIG [] := by decide
  have hsplit : sdssplitargs (successRest COMMANDS.SET_CONFIG []) =
      some [SUCCESS_COMMAND, COMMANDS.SET_CONFIG] := by decide
  have hfitting : Fitting RESPONCE_COMMAND id (successRest COMMANDS.SET_CONFIG []) := by
    have hlength := h.length
    have hpos := List.length_pos_iff.2 h.ne_nil
    have hzero : CID_FMT REQUEST_COMMAND = ['0'] := by decide
    have hone : CID_FMT RESPONCE_COMMAND = ['1'] := by decide
    have hok : SUCCESS_COMMAND.length = 2 := rfl
    refine ⟨hclean.1, hclean.2, ?_⟩
    simp only [builtText, settingsCommand, quoted, successRest, hzero, hone, hok,
      List.length_append, List.length_cons, List.length_nil] at hlength ⊢
    omega
  refine ⟨hfitting, ?_, ?_⟩
  · rw [hfitting.frameOf_eq (.inr (.inl rfl)) hid, hsplit]
    rfl
  · exact parse_joined hid.no_blank (by decide) .OK []

namespace DeviceLink
variable {Url : Type} (types : CommonTypes Url) (json : Texts) {c : ClientId} {l : DeviceLink Url}
  {name J : Str} {id : cmd_seq_t} {env : Env} {denv : DeviceEnv}

/-- Settings that the device accepts are posted as they were read, and the page is sent a text that
it makes nothing of; with an apostrophe in their text the device does not read what was sent. -/
theorem run_settings (h : Ready c name id l) (hid : ReadId id) (hJ : SettingsText id J)
    (hw : env.writeError l.host.writes.length = none)
    (hdw : denv.writeError l.device.writes.length = none) (env' : Env) :
    ∃ msg t read, set_server_config id (some name) (quoted J) = some msg ∧
      run (step types json c) l [.host (.handleMessage msg env), .host .subscribeRequest] = some t ∧
      t.toDevice = [read] ∧
      (frameOf read = some ⟨REQUEST_COMMAND, id, [COMMANDS.SET_CONFIG, J]⟩ ↔ '\'' ∉ J) ∧
      ∀ config_json new_config, (json.json_tokener_parse J).toOption = some config_json →
        l.device.config_.ofJson types json denv config_json = some new_config →
        new_config.local_host.host = l.device.config_.local_host.host → '\'' ∉ J →
        ∃ l', (∀ es ∈ roundTrips msg env denv env', run (step types json c) l es = some l') ∧
          l'.device.events = l.device.events ++ [.ConfigChangedEvent new_config] ∧
          ∃ m rc, InnerServerHandlerHost.published l.host l'.host = [⟨m, some rc⟩] ∧
            parse_command_out m = none := by
  have hrequest := hJ.fitting
  have hlt : (builtText REQUEST_COMMAND id (settingsCommand J)).length < MAX_COMMAND_SIZE :=
    Nat.lt_of_le_pred (by decide) hrequest.length
  have hmessaged := step_messaged types json h hid hrequest.nul_free hlt hw
  have hsubscribed := step_subscribed types json (settingsCommand J) h
  refine ⟨_, l.asked c id (settingsCommand J), _, set_server_config_eq id name J, ?_, rfl,
    hJ.frameOf_iff hid, ?_⟩
  · rw [run_cons hmessaged, run_cons hsubscribed]
    rfl
  · intro config_json new_config hparse hof hhost hquote
    have hset : l.device.handleInnerRequestCommand types json denv id [COMMANDS.SET_CONFIG, J] =
        some ((l.device.respond denv id CLIENT_PLEASE_SET_CONFIG_COMMAND_RESP_SUCCSESS).PostEvent
          (.ConfigChangedEvent new_config)) := by
      rw [InnerServerHandler.handleInnerRequestCommand_set_config (by decide),
        InnerServerHandler.handleSetConfig, cstr_of_nul_free hJ.nul_free, hparse]
      simp only [hof, Option.map_some, if_pos hhost]
    obtain ⟨hfitting, hframe, hparsed⟩ := hJ.responce hid
    have hread := step_asked types json h hlt ((hJ.frameOf_iff hid).2 hquote) hset
    have hsent := InnerServerHandler.sent_respond COMMANDS.SET_CONFIG [] hfitting hid hdw
    obtain ⟨l', hstep, hpub, _, _, hdevice, _⟩ := step_answered types json (settingsCommand J) h
      hframe (hfitting.length.trans (Nat.sub_le _ _))
      ((l.device.respond denv id CLIENT_PLEASE_SET_CONFIG_COMMAND_RESP_SUCCSESS).PostEvent
        (.ConfigChangedEvent new_config)) env'
    refine ⟨l', ?_, ?_, _, _, hpub, hparsed⟩
    · intro es hes
      have hlast : run (step types json c) _ [.hostReads env'] = run (step types json c) l' [] :=
        run_cons hstep
      rw [← hsent] at hlast
      rw [run_roundTrips types json h hid hrequest.nul_free hlt hw hes, run_cons hread]
      exact hlast
    · rw [hdevice]
      rfl

open InnerServerHandler in
theorem run_settings_site : ∃ msg t read,
    set_server_config "7".toList (some "localhost".toList) (quoted siteText) = some msg ∧
      run (step twoHosts siteTexts 0) siteLink
        [.host (.handleMessage msg .calm), .host .subscribeRequest] = some t ∧
      t.toDevice = [read] ∧
      (frameOf read = some ⟨REQUEST_COMMAND, "7".toList, [COMMANDS.SET_CONFIG, siteText]⟩ ↔
        '\'' ∉ siteText) ∧
      ∀ config_json new_config,
        (siteTexts.json_tokener_parse siteText).toOption = some config_json →
        siteConfig.ofJson twoHosts siteTexts calmDevice config_json = some new_config →
        new_config.local_host.host = "localhost".toList → '\'' ∉ siteText →
        ∃ l', (∀ es ∈ roundTrips msg .calm calmDevice .calm,
            run (step twoHosts siteTexts 0) siteLink es = some l') ∧
          l'.device.events = [.ConfigChangedEvent new_config] ∧
          ∃ m rc, InnerServerHandlerHost.published siteLink.host l'.host = [⟨m, some rc⟩] ∧
            parse_command_out m = none := by
  have hJ : SettingsText "7".toList siteText := by
    refine ⟨by decide +kernel, ?_, ?_, ?_, by decide +kernel⟩
    · exact fun h => absurd (siteText_plain.1 _ h).1 (by decide)
    · exact fun h => absurd (siteText_plain.1 _ h).1 (by decide)
    · rw [siteText_plain.2.1]
      decide
  exact run_settings twoHosts siteTexts ready_siteLink readId_seven hJ rfl rfl .calm

end DeviceLink

end SiteOnYourDevice
