import SiteOnYourDevice.InnerServerHandler
import SiteOnYourDevice.Transition

namespace SiteOnYourDevice
open CString JsonC Transition
set_option relaxedAutoImplicit false
set_option autoImplicit true

/-- The controller's configuration and its handler, once `CreateHandler` has run. The events the
handler posted stand in `events` until the main thread takes them. -/
structure Device (Url : Type) where
  config_ : DeviceConfig Url
  handler_ : Option (InnerServerHandler Url)

/-- What happens to a device: the inner thread builds its handler, connects it, reads from the
connection, and the main thread handles the `i`-th of the events not yet handled. -/
inductive DeviceEvent
  | createHandler
  | connected
  | dataReceived (read : Str) (env : DeviceEnv)
  | handleEvent (i : Nat)

variable {Url : Type} (types : CommonTypes Url) (json : Texts)

namespace Device

def init (config : DeviceConfig Url) : Device Url := ⟨config, none⟩

/-- `InnerServerHandler` of the controller's configuration. -/
def CreateHandler (d : Device Url) : Device Url :=
  { d with handler_ := some ⟨d.config_, 0, false, [], [], []⟩ }

/-- `NetworkController::setConfig`. -/
def setConfig (config : DeviceConfig Url) (d : Device Url) : Device Url :=
  ⟨config, d.handler_.map (·.setConfig config)⟩

/-- The part of `NetworkEventHandler::handleEvent` that is about configurations. -/
def handleEvent (event : PostedEvent Url) (d : Device Url) : Device Url :=
  match event with
  | .ConfigChangedEvent config => d.setConfig config
  | _ => d

/-- A read aborts the process where a list of a new configuration is no array. -/
def step (d : Device Url) : DeviceEvent → Option (Device Url)
  | .createHandler => if d.handler_.isNone then some d.CreateHandler else none
  | .connected =>
    d.handler_.map fun h => { d with handler_ := some { h with inner_connection_ := true } }
  | .dataReceived read env =>
    d.handler_.bind fun h =>
      if h.inner_connection_ then
        ((InnerServerHandler.seqParser types json env).DataReceived read (some h)).map fun h =>
          { d with handler_ := some h }
      else none
  | .handleEvent i =>
    d.handler_.bind fun h =>
      (h.events[i]?).map fun event =>
        handleEvent event { d with handler_ := some { h with events := h.events.eraseIdx i } }

/-- Both copies of the configuration name the account and the domain of `info`. -/
structure Names (info : UserAuthInfo) (d : Device Url) : Prop where
  controller : d.config_.authInfo.Same info
  handler : ∀ h, d.handler_ = some h → h.authInfo.Same info

end Device

theorem UserAuthInfo.Same.trans {a b c : UserAuthInfo} (hab : a.Same b) (hbc : b.Same c) :
    a.Same c :=
  ⟨hab.1.trans hbc.1, hab.2.1.trans hbc.2.1, hab.2.2.trans hbc.2.2⟩

namespace InnerServerHandler

/-- The copy of a handler names the account and the domain of `info`, and so does every
configuration among its events. -/
structure NamesAll (info : UserAuthInfo) (h : InnerServerHandler Url) : Prop where
  config_ : h.authInfo.Same info
  events : ∀ config, .ConfigChangedEvent config ∈ h.events → config.authInfo.Same info

variable {types} {json} {env : DeviceEnv} {info : UserAuthInfo} {s s' : InnerServerHandler Url}

theorem NamesAll.of_same (h : s.NamesAll info) (hc : s'.config_ = s.config_)
    (he : s'.events = s.events) : s'.NamesAll info := by
  refine ⟨?_, ?_⟩
  · rw [authInfo, hc]
    exact h.config_
  · rw [he]
    exact h.events

/-- An answer names nobody else when what it posts is about the handler's own account. -/
theorem NamesAll.answered {id : cmd_seq_t} {fmt : Fmt} {events : List (PostedEvent Url)}
    (h : s.NamesAll info) (ha : Answered env id fmt events s s')
    (he : ∀ config, .ConfigChangedEvent config ∈ events → config.authInfo.Same s.authInfo) :
    s'.NamesAll info := by
  refine ⟨?_, ?_⟩
  · rw [authInfo, ha.config_]
    exact h.config_
  · intro config hc
    rw [ha.events] at hc
    obtain hc | hc := List.mem_append.1 hc
    · exact h.events config hc
    · exact (he config hc).trans h.config_

theorem NamesAll.PostEvent {event : PostedEvent Url} (h : s.NamesAll info)
    (he : ∀ config, event ≠ .ConfigChangedEvent config) : (s.PostEvent event).NamesAll info := by
  refine ⟨h.config_, ?_⟩
  intro config hc
  obtain hc | hc := List.mem_append.1 hc
  · exact h.events config hc
  · exact absurd (List.mem_singleton.1 hc).symm (he config)

theorem NamesAll.Close (h : s.NamesAll info) : s.Close.NamesAll info := by
  rw [InnerServerHandler.Close]
  split
  · apply NamesAll.PostEvent
    · exact h.of_same rfl rfl
    · exact nofun
  · exact h

theorem NamesAll.request {id : cmd_seq_t} {argv : List Str} (h : s.NamesAll info)
    (hs : s.handleInnerRequestCommand types json env id argv = some s') : s'.NamesAll info := by
  have hr : Requested json env id argv s (s.handleInnerRequestCommand types json env id argv) :=
    handleInnerRequestCommand_requested
  rw [hs] at hr
  cases hr with
  | unknown => exact h
  | answered fmt events _ _ he ha => exact h.answered ha he

theorem NamesAll.responce {id : cmd_seq_t} {argv : List Str} (h : s.NamesAll info) :
    (s.handleInnerResponceCommand env id argv).NamesAll info := by
  fun_cases handleInnerResponceCommand env id argv s with
  | case1 | case2 => exact h.of_same rfl rfl
  | case3 | case4 | case5 => exact h

theorem NamesAll.approve {id : cmd_seq_t} {argv : List Str} (h : s.NamesAll info) :
    (s.handleInnerApproveCommand id argv).NamesAll info := by
  fun_cases handleInnerApproveCommand id argv s with
  | case2 => exact h.PostEvent nofun
  | case1 | case3 | case4 | case5 => exact h

/-- Nothing that is read changes whom a handler names. -/
theorem seqParser_keeps (types : CommonTypes Url) (json : Texts) (env : DeviceEnv)
    (info : UserAuthInfo) :
    (seqParser types json env).Keeps fun o => ∀ h, o = some h → h.NamesAll info where
  next_id o ho h hh := by
    cases o with
    | none => cases hh
    | some s =>
      cases hh
      exact (ho s rfl).of_same rfl rfl
  processRequest _ _ _ ho := ho
  Write data o ho h hh := by
    obtain ⟨s, rfl, rfl⟩ := Option.map_eq_some_iff.1 hh
    exact (ho s rfl).of_same rfl rfl
  Close o ho h hh := by
    obtain ⟨s, rfl, rfl⟩ := Option.map_eq_some_iff.1 hh
    exact (ho s rfl).Close
  handleInnerRequestCommand id argv o ho h hh := by
    obtain ⟨s, rfl, hs⟩ := Option.bind_eq_some_iff.1 hh
    exact (ho s rfl).request hs
  handleInnerResponceCommand id argv o ho h hh := by
    obtain ⟨s, rfl, rfl⟩ := Option.map_eq_some_iff.1 hh
    exact (ho s rfl).responce
  handleInnerApproveCommand id argv o ho h hh := by
    obtain ⟨s, rfl, rfl⟩ := Option.map_eq_some_iff.1 hh
    exact (ho s rfl).approve

end InnerServerHandler

namespace Device
variable {types} {json} {info : UserAuthInfo} {d d' : Device Url}

/-- Both copies and every configuration on its way name the account and the domain of `info`. -/
structure NamesAll (info : UserAuthInfo) (d : Device Url) : Prop where
  controller : d.config_.authInfo.Same info
  handler : ∀ h, d.handler_ = some h → h.NamesAll info

theorem NamesAll.names (h : d.NamesAll info) : d.Names info :=
  ⟨h.controller, fun s hs => (h.handler s hs).config_⟩

theorem NamesAll.setConfig {config : DeviceConfig Url} (h : d.NamesAll info)
    (hc : config.authInfo.Same info) : (d.setConfig config).NamesAll info := by
  refine ⟨hc, ?_⟩
  intro s hs
  obtain ⟨s, hd, rfl⟩ := Option.map_eq_some_iff.1 hs
  exact ⟨hc, (h.handler s hd).events⟩

theorem NamesAll.step {e : DeviceEvent} (h : d.NamesAll info)
    (hs : step types json d e = some d') : d'.NamesAll info := by
  cases e with
  | createHandler =>
    simp only [Device.step] at hs
    split at hs
    · cases hs
      refine ⟨h.controller, ?_⟩
      rintro s ⟨⟩
      exact ⟨h.controller, nofun⟩
    · cases hs
  | connected =>
    obtain ⟨s, hd, rfl⟩ := Option.map_eq_some_iff.1 hs
    refine ⟨h.controller, ?_⟩
    rintro s' ⟨⟩
    exact (h.handler s hd).of_same rfl rfl
  | dataReceived read env =>
    obtain ⟨s, hd, hs⟩ := Option.bind_eq_some_iff.1 hs
    split at hs
    · obtain ⟨s', hread, rfl⟩ := Option.map_eq_some_iff.1 hs
      refine ⟨h.controller, ?_⟩
      rintro s'' ⟨⟩
      apply (InnerServerHandler.seqParser_keeps types json env info).DataReceived read _ s' hread
      rintro t ⟨⟩
      exact h.handler s hd
    · cases hs
  | handleEvent i =>
    obtain ⟨s, hd, hs⟩ := Option.bind_eq_some_iff.1 hs
    obtain ⟨event, hi, rfl⟩ := Option.map_eq_some_iff.1 hs
    have hall := h.handler s hd
    have herase : NamesAll info
        { d with handler_ := some { s with events := s.events.eraseIdx i } } := by
      refine ⟨h.controller, ?_⟩
      rintro t ⟨⟩
      exact ⟨hall.config_, fun config hc => hall.events config (List.mem_of_mem_eraseIdx hc)⟩
    cases event with
    | ConfigChangedEvent config =>
      exact herase.setConfig (hall.events config (List.mem_of_getElem? hi))
    | InnerClientConnectedEvent | InnerClientDisconnectedEvent => exact herase

/-- Whatever is read and in whatever order the events are handled, both copies keep the login, the
password and the host name they start with. -/
theorem always_names (types : CommonTypes Url) (json : Texts) (config : DeviceConfig Url)
    (es : List DeviceEvent) :
    Always (step types json) (Names config.authInfo) (init config) es := by
  have hinit : (init config).NamesAll config.authInfo := ⟨⟨rfl, rfl, rfl⟩, nofun⟩
  refine ⟨hinit.names, ?_⟩
  apply along_of_invariant (I := NamesAll config.authInfo) hinit
  intro d e d' h hs
  exact ⟨(h.step hs).names, h.step hs⟩

end Device

end SiteOnYourDevice
