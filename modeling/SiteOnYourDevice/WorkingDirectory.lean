import SiteOnYourDevice.InnerServerHandler
import SiteOnYourDevice.LoopController

namespace SiteOnYourDevice
open CString Transition
set_option relaxedAutoImplicit false
set_option autoImplicit true

/-- The directories of a device, by what a path names from each of them. The path of the
application's own directory is absolute. -/
structure Directories (Dir : Type) where
  resolve : Dir → Str → Option Dir
  appDir : Dir
  GetAppDir : Str
  resolve_GetAppDir : ∀ d, resolve d GetAppDir = some appDir

namespace Directories
variable {Dir : Type} (dirs : Directories Dir)

/-- `change_directory`, with its error only logged. -/
def change_directory (path : Str) (cwd : Dir) : Dir := (dirs.resolve cwd path).getD cwd

/-- A content path names an existing directory, and the process finds it from where it is, or it is
there already. -/
def Lands (cwd : Dir) (path : Str) : Prop :=
  ∃ dir, dirs.resolve dirs.appDir path = some dir ∧
    (dirs.resolve cwd path = some dir ∨ dirs.resolve cwd path = none ∧ cwd = dir)

theorem lands_iff {cwd : Dir} {path : Str} :
    dirs.Lands cwd path ↔
      dirs.resolve dirs.appDir path = some (dirs.change_directory path cwd) := by
  constructor
  · rintro ⟨dir, hdir, h⟩
    rw [hdir, change_directory]
    rcases h with h | ⟨h, rfl⟩
    · rw [h]
      rfl
    · rw [h]
      rfl
  · intro h
    refine ⟨_, h, ?_⟩
    cases hc : dirs.resolve cwd path with
    | none => exact .inr ⟨rfl, by rw [change_directory, hc]; rfl⟩
    | some dir => exact .inl (by rw [change_directory, hc]; rfl)

/-- From the directory of the application every content path that exists is found. -/
theorem lands_appDir {path : Str} {dir : Dir} (h : dirs.resolve dirs.appDir path = some dir) :
    dirs.Lands dirs.appDir path :=
  ⟨dir, h, .inl h⟩

/-- So is an absolute one from everywhere. -/
theorem lands_absolute {cwd dir : Dir} {path : Str}
    (habs : dirs.resolve cwd path = dirs.resolve dirs.appDir path)
    (h : dirs.resolve dirs.appDir path = some dir) : dirs.Lands cwd path :=
  ⟨dir, h, .inl (habs.trans h)⟩

end Directories

/-- A `LocalHttpServerController`, or an `ExternalHttpServerController`, with its thread. -/
structure SiteServer (Url : Type) where
  isLocal : Bool
  config_ : DeviceConfig Url
  thread : ControlledLoop Unit

/-- The main thread waits for an event, or is in `disConnect`, for a new configuration or for
good. -/
inductive MainThread (Url : Type)
  | waiting
  | disconnecting (config : Option (DeviceConfig Url))

/-- The process of a device: the server of its `NetworkController`, and its working directory. -/
structure SiteProcess (Dir Url : Type) where
  server_ : Option (SiteServer Url)
  config_ : DeviceConfig Url
  main : MainThread Url
  cwd : Dir

/-- The calls of the main thread, the steps of `stop` and `join` in `disConnect`, its `delete` with
what comes behind it, and the steps of the server's thread. -/
inductive SiteEvent (Url : Type)
  | connect
  | disConnect
  | configChanged (config : DeviceConfig Url)
  | stop (e : ControlEvent)
  | delete
  | server (e : ExecEvent)

namespace SiteServer
variable {Url : Type}

/-- A new controller, started. -/
def new (isLocal : Bool) (config : DeviceConfig Url) : SiteServer Url :=
  ⟨isLocal, config, ⟨{ LoopController.init with exec := .entered }, .started, false⟩⟩

/-- `CreateHandler` always returns a handler. -/
def step (s : SiteServer Url) (e : ControlEvent) : Option (SiteServer Url) :=
  (s.thread.step (some ()) e).map fun thread => { s with thread }

/-- The loop of `local_http_server` is running. -/
def RunsLocal (s : SiteServer Url) : Prop := s.isLocal = true ∧ s.thread.loop.exec = .running

theorem step_isLocal {s s' : SiteServer Url} {e : ControlEvent} (h : s.step e = some s') :
    s'.isLocal = s.isLocal := by
  obtain ⟨thread, _, rfl⟩ := Option.map_eq_some_iff.1 h
  rfl

end SiteServer

namespace SiteProcess
variable {Dir Url : Type} (dirs : Directories Dir) (net : NetTypes)

/-- `NetworkController::connect`; the constructor of a local server changes the directory. -/
def connect (s : SiteProcess Dir Url) : SiteProcess Dir Url :=
  match s.server_ with
  | some _ => s
  | none =>
    if s.config_.server_type = .FASTO_SERVER then
      { s with
        server_ := some (.new true s.config_)
        cwd := dirs.change_directory s.config_.content_path s.cwd }
    else if s.config_.server_type = .EXTERNAL_SERVER ∧ net.IsValid s.config_.external_host then
      { s with server_ := some (.new false s.config_) }
    else s

/-- The destructor of a local server goes back to the directory of the application. -/
def deleteServer (s : SiteProcess Dir Url) : SiteProcess Dir Url :=
  match s.server_ with
  | none => s
  | some server =>
    { s with
      server_ := none
      cwd := if server.isLocal then dirs.change_directory dirs.GetAppDir s.cwd else s.cwd }

/-- The steps of `stop` and `join`; a null server has none. -/
def stopServer (e : ControlEvent) (s : SiteProcess Dir Url) : Option (SiteProcess Dir Url) :=
  match e with
  | .testLoop | .Stop | .join =>
    s.server_.bind fun server => (server.step e).map fun server => { s with server_ := some server }
  | _ => none

/-- There was no server, or its thread has been joined. -/
def disconnected (s : SiteProcess Dir Url) : Bool :=
  s.server_.all (·.thread.control = .joined)

def step (s : SiteProcess Dir Url) : SiteEvent Url → Option (SiteProcess Dir Url)
  | .connect =>
    match s.main with
    | .waiting => some (s.connect dirs net)
    | _ => none
  | .disConnect =>
    match s.main with
    | .waiting => some { s with main := .disconnecting none }
    | _ => none
  | .configChanged config =>
    match s.main with
    | .waiting => some { s with main := .disconnecting (some config) }
    | _ => none
  | .stop e =>
    match s.main with
    | .disconnecting _ => s.stopServer e
    | _ => none
  | .delete =>
    match s.main with
    | .disconnecting config =>
      if s.disconnected then
        let s := { s.deleteServer dirs with main := .waiting }
        match config with
        | none => some s
        | some config => some (connect dirs net { s with config_ := config })
      else none
    | _ => none
  | .server e =>
    s.server_.bind fun server =>
      (server.step (.exec e)).map fun server => { s with server_ := some server }

/-- The process at its start, wherever it was launched from. -/
def launched (config : DeviceConfig Url) (cwd : Dir) : SiteProcess Dir Url :=
  ⟨none, config, .waiting, cwd⟩

/-- While a local server is running, the process is in the directory that the content path of its
configuration names. -/
def ServesSite (s : SiteProcess Dir Url) : Prop :=
  ∀ server, s.server_ = some server → server.RunsLocal →
    dirs.resolve dirs.appDir s.config_.content_path = some s.cwd

/-- A local server is made only where its content path is found. -/
def ConnectsAtSite (s : SiteProcess Dir Url) : SiteEvent Url → Prop
  | .connect =>
    s.server_ = none → s.config_.server_type = .FASTO_SERVER →
      dirs.Lands s.cwd s.config_.content_path
  | .delete =>
    ∀ config, s.main = .disconnecting (some config) → config.server_type = .FASTO_SERVER →
      dirs.Lands (s.deleteServer dirs).cwd config.content_path
  | _ => True

/-- The same for a local server at any place of its thread. -/
def AtSite (s : SiteProcess Dir Url) : Prop :=
  ∀ server, s.server_ = some server → server.isLocal = true →
    dirs.resolve dirs.appDir s.config_.content_path = some s.cwd

variable {dirs net} {s s' : SiteProcess Dir Url} {server : SiteServer Url} {e : SiteEvent Url}

theorem AtSite.servesSite (h : s.AtSite dirs) : s.ServesSite dirs :=
  fun server hs hr => h server hs hr.1

/-- What `connect` leaves at its site: everything but a local server that is made elsewhere. -/
theorem atSite_connect_iff (h : s.AtSite dirs) :
    (s.connect dirs net).AtSite dirs ↔
      (s.server_ = none → s.config_.server_type = .FASTO_SERVER →
        dirs.Lands s.cwd s.config_.content_path) := by
  rw [connect]
  split
  · rename_i server hs
    refine ⟨fun _ hnone => ?_, fun _ => h⟩
    rw [hs] at hnone
    cases hnone
  rename_i hs
  split
  · rename_i htype
    rw [dirs.lands_iff]
    constructor
    · exact fun hat _ _ => hat _ rfl rfl
    · exact fun hlands server _ _ => hlands hs htype
  · rename_i hno
    refine ⟨fun _ _ hf => absurd hf hno, fun _ => ?_⟩
    split
    · intro server hserver hl
      cases hserver
      cases hl
    · exact h

theorem deleteServer_server_ : (s.deleteServer dirs).server_ = none := by
  rw [deleteServer]
  split
  · assumption
  · rfl

theorem AtSite.stepServer {server' : SiteServer Url} {e : ControlEvent} (h : s.AtSite dirs)
    (hsrv : s.server_ = some server) (hstep : server.step e = some server') :
    AtSite dirs { s with server_ := some server' } := by
  intro server'' hs'' hl
  cases hs''
  exact h server hsrv ((SiteServer.step_isLocal hstep).symm.trans hl)

theorem atSite_none (hs : s.server_ = none) : s.AtSite dirs := by
  intro server hserver
  rw [hs] at hserver
  cases hserver

theorem step_atSite_iff (h : s.AtSite dirs) (hs : s.step dirs net e = some s') :
    s'.AtSite dirs ↔ s.ConnectsAtSite dirs e := by
  cases e with
  | connect =>
    simp only [step] at hs
    split at hs
    · cases hs
      exact atSite_connect_iff h
    · cases hs
  | disConnect | configChanged _ =>
    simp only [step] at hs
    split at hs
    · cases hs
      exact ⟨fun _ => trivial, fun _ => h⟩
    · cases hs
  | stop e =>
    simp only [step] at hs
    split at hs
    · cases e with
      | testLoop | Stop | join =>
        obtain ⟨server, hsrv, hs⟩ := Option.bind_eq_some_iff.1 hs
        obtain ⟨server', hstep, rfl⟩ := Option.map_eq_some_iff.1 hs
        exact ⟨fun _ => trivial, fun _ => h.stepServer hsrv hstep⟩
      | start | exec _ => cases hs
    · cases hs
  | delete =>
    simp only [step] at hs
    split at hs
    · rename_i config hmain
      split at hs
      · have hnone : (s.deleteServer dirs).server_ = none := deleteServer_server_
        cases config with
        | none =>
          cases hs
          apply iff_of_true (atSite_none hnone)
          intro config hc
          rw [hmain] at hc
          cases hc
        | some config =>
          cases hs
          rw [atSite_connect_iff (s := ⟨_, config, .waiting, _⟩) (atSite_none hnone),
            ConnectsAtSite, hmain]
          apply Iff.intro
          · intro hc config' he
            cases he
            exact hc hnone
          · intro hc _
            exact hc config rfl
      · cases hs
    · cases hs
  | server e =>
    obtain ⟨server, hsrv, hs⟩ := Option.bind_eq_some_iff.1 hs
    obtain ⟨server', hstep, rfl⟩ := Option.map_eq_some_iff.1 hs
    exact ⟨fun _ => trivial, fun _ => h.stepServer hsrv hstep⟩

/-- Along a run in which every local server is made where its content path is found, whatever it
serves is the site of its configuration. -/
theorem always_servesSite (dirs : Directories Dir) (net : NetTypes) (config : DeviceConfig Url)
    (cwd : Dir) (es : List (SiteEvent Url))
    (h : Along (step dirs net) (fun s e _ => s.ConnectsAtSite dirs e) (launched config cwd) es) :
    Always (step dirs net) (fun s => s.ServesSite dirs) (launched config cwd) es := by
  apply h.always (I := fun s => s.AtSite dirs) (atSite_none rfl) (fun _ hat => hat.servesSite)
  intro s e s' hat hs hc
  exact (step_atSite_iff hat hs).2 hc

/-- The thread of a new server up to its loop. -/
def startUp : List (SiteEvent Url) :=
  [.server .CreateHandler, .server .assignHandler, .server (.CreateServer true),
    .server .assignLoop, .server .Exec]

/-- Nothing keeps a new local server from running where it is. -/
theorem runs_where_made {config : DeviceConfig Url} (hs : s.server_ = some (.new true config))
    (hsite : dirs.resolve dirs.appDir s.config_.content_path ≠ some s.cwd) :
    ∃ t, run (step dirs net) s startUp = some t ∧ ¬ t.ServesSite dirs := by
  obtain ⟨server_, config_, main, cwd⟩ := s
  cases hs
  refine ⟨_, rfl, ?_⟩
  intro h
  exact hsite (h _ rfl ⟨rfl, rfl⟩)

/-- A local server that is made elsewhere serves another directory, so no weaker condition on
`connect` would do. -/
theorem runs_elsewhere (h : ¬ s.ConnectsAtSite dirs e) (hs : s.step dirs net e = some s') :
    ∃ t, run (step dirs net) s' startUp = some t ∧ ¬ t.ServesSite dirs := by
  have hconnect : ∀ t : SiteProcess Dir Url, t.server_ = none →
      t.config_.server_type = .FASTO_SERVER → ¬ dirs.Lands t.cwd t.config_.content_path →
        ∃ u, run (step dirs net) (t.connect dirs net) startUp = some u ∧
          ¬ u.ServesSite dirs := by
    intro t hnone htype hlands
    rw [dirs.lands_iff] at hlands
    simp only [connect, hnone, htype]
    exact runs_where_made rfl hlands
  cases e with
  | connect =>
    simp only [ConnectsAtSite, Classical.not_imp] at h
    obtain ⟨hnone, htype, hlands⟩ := h
    simp only [step] at hs
    split at hs
    · cases hs
      exact hconnect s hnone htype hlands
    · cases hs
  | delete =>
    simp only [ConnectsAtSite, not_forall] at h
    obtain ⟨config, hmain, htype, hlands⟩ := h
    simp only [step, hmain] at hs
    split at hs
    · cases hs
      exact hconnect _ deleteServer_server_ htype hlands
    · cases hs
  | disConnect | configChanged | stop | server => exact absurd trivial h

theorem deleteServer_cwd (hs : s.server_ = some server) (hl : server.isLocal = true) :
    (s.deleteServer dirs).cwd = dirs.appDir := by
  simp only [deleteServer, hs, hl, if_true, Directories.change_directory,
    dirs.resolve_GetAppDir, Option.getD_some]

/-- Directories by their paths: the application's, one in it, and one elsewhere. -/
def threeDirectories : Directories Str where
  resolve cwd path :=
    if path = "/opt".toList then some "/opt".toList
    else if path = "/srv".toList then some "/srv".toList
    else if path = "www".toList && cwd = "/opt".toList then some "/opt/www".toList
    else none
  appDir := "/opt".toList
  GetAppDir := "/opt".toList
  resolve_GetAppDir _ := rfl

def siteAt (content_path : String) : DeviceConfig Str where
  local_host := ⟨"localhost".toList, 80⟩
  login := "login".toList
  password := "password".toList
  is_private_site := false
  external_host := ⟨[], 0⟩
  server_type := .FASTO_SERVER
  content_path := content_path.toList
  handlers_urls := []
  server_sockets_urls := []

/-- The site moves from an absolute path to one in the application's directory. -/
def moveSite : List (SiteEvent Str) :=
  .connect :: startUp ++
    [.configChanged (siteAt "www"), .stop .testLoop, .stop .Stop, .server .execReturns,
      .stop .join, .delete] ++ startUp

theorem always_servesSite_moveSite :
    Always (step threeDirectories .plain) (fun s => s.ServesSite threeDirectories)
      (launched (siteAt "/srv") "/home".toList) moveSite := by
  apply always_servesSite
  have hsrv : threeDirectories.Lands "/home".toList "/srv".toList :=
    ⟨"/srv".toList, by decide, .inl (by decide)⟩
  have hwww : threeDirectories.Lands "/opt".toList "www".toList :=
    ⟨"/opt/www".toList, by decide, .inl (by decide)⟩
  apply Along.cons rfl fun _ _ => hsrv
  iterate 5 apply Along.cons rfl trivial
  iterate 5 apply Along.cons rfl trivial
  apply Along.cons rfl
  · intro config hc _
    cases hc
    exact hwww
  · iterate 5 apply Along.cons rfl trivial
    trivial

/-- A content path that does not exist: the directory the process was launched from is served. -/
theorem not_always_servesSite_missing :
    ¬ Always (step threeDirectories .plain) (fun s => s.ServesSite threeDirectories)
      (launched (siteAt "/gone") "/home".toList) (.connect :: startUp) := by
  intro h
  have hsite := h.at_end rfl _ rfl ⟨rfl, rfl⟩
  exact absurd hsite (by decide)

end SiteProcess

end SiteOnYourDevice
