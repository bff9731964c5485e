import SiteOnYourDevice.BuildRequest
import SiteOnYourDevice.Raising
import SiteOnYourDevice.Transition

namespace SiteOnYourDevice
open CString Raising Transition
set_option relaxedAutoImplicit false
set_option autoImplicit true

/-- An exception of Python, but for those that are no `Exception`. -/
inductive PyException
  | BuildError (value : Str)
  | CalledProcessError
  | ValueError (text : Str)
  | UnboundLocalError
  | other (text : Str)
deriving DecidableEq

/-- A value of a JSON text; a number that is an integer, with its text, or anything else, which is
equal to no text and to no integer. -/
inductive PyValue
  | None
  | str (s : Str)
  | num (value : Int) (text : Str)
  | other
deriving DecidableEq

/-- The body of a request; what it does not have is `None`. -/
structure RequestData where
  branding_variables : PyValue
  platform : PyValue
  arch : PyValue
  package_type : PyValue
  destination : PyValue

/-- A directory that is made in another one is not this one. -/
structure DirectoryTree (Dir : Type) where
  child : Dir → Str → Dir
  child_ne : ∀ d name, child d name ≠ d

inductive BuildMessage
  | status (progress : Nat) (status : Str)
  | body (response : Str)
  | error (text : Str)
deriving DecidableEq

/-- A worker between two requests: its directory, and what it has sent. A request that is not
handled to its end ends the process. -/
structure Worker (Dir : Type) where
  cwd : Dir
  sent : List BuildMessage
  running : Bool

/-- The outcomes of a request: what its body is read as, and what each call of `on_request` and
`build_package` returns or raises, with the directory it runs in. -/
structure BuildEnv (Dir : Type) where
  loads : Except PyException RequestData
  getcwd : Except PyException Unit
  pathExists : Dir → Str → Bool
  rmtree : Dir → Str → Except PyException Unit
  mkdir : Dir → Str → Except PyException Unit
  chdir : Dir → Except PyException Unit
  /-- `shlex.split` of a value that is no text. -/
  splitOther : PyValue → Except PyException (List Str)
  run_command : Dir → List Str → Except PyException Unit
  CPackConfig : Dir → Except PyException (List Str)
  post_install_step : Str → PyValue → Except PyException Str
  send_status : Nat → Except PyException Unit
  basic_publish : Except PyException Unit
  basic_ack : Except PyException Unit
  str : PyException → Str

/-- A message of the queue. -/
structure BuildDelivery (Dir : Type) where
  env : BuildEnv Dir
  correlation_id : Str

namespace BuildServer
variable {Dir : Type} (tree : DirectoryTree Dir)

abbrev Py (Dir : Type) := Raising PyException (Worker Dir)

def get_extension_by_package (package_type : Str) : Option Str :=
  if package_type = "DEB".toList then some "deb".toList
  else if package_type = "RPM".toList then some "rpm".toList
  else if package_type = "TGZ".toList then some "tar.gz".toList
  else if package_type = "NSIS".toList then some "exe".toList
  else if package_type = "ZIP".toList then some "zip".toList
  else if package_type = "DragNDrop".toList then some "dmg".toList
  else none

/-- The group of `re.search(r'SET\(CPACK_SOURCE_PACKAGE_FILE_NAME "(.+)"\)', line)`, for one line:
it goes on up to the last `")`. -/
def packageFileName (line : Str) : Option Str :=
  (strstr "SET(CPACK_SOURCE_PACKAGE_FILE_NAME \"".toList line).bind fun (_, found) =>
    (strstr ")\"".toList (found.drop 36).reverse).bind fun (_, rest) =>
      if rest.drop 2 = [] then none else some (rest.drop 2).reverse

/-- The loop over the lines; `filename` is not bound before the first one that matches. -/
def filename (package_type : Str) (lines : List Str) : Except PyException (Option Str) :=
  lines.foldlM (fun filename line =>
    match packageFileName line with
    | none => .ok filename
    | some name =>
      match get_extension_by_package package_type with
      | some extension => .ok (some (name ++ '.' :: extension))
      | none => .error (.other "TypeError".toList)) none

/-- The checks in front of `os.getcwd`: the platform, the text of `arch`, and the package type. -/
def validate (data : RequestData) : Except PyException (BuildPlatform × Str × Str) :=
  let platform_or_none :=
    match data.platform with
    | .str platform => get_supported_platform_by_name platform
    | _ => none
  match platform_or_none with
  | none => .error (.BuildError "invalid platform".toList)
  | some platform =>
    match data.arch with
    | .num value text =>
      if platform.archs.all fun arch => (arch : Int) ≠ value then
        .error (.BuildError "invalid arch".toList)
      else
        match data.package_type with
        | .str package_type =>
          if platform.package_types.contains package_type then .ok (platform, text, package_type)
          else .error (.BuildError "invalid package_type".toList)
        | _ => .error (.BuildError "invalid package_type".toList)
    | _ => .error (.BuildError "invalid arch".toList)

variable (env : BuildEnv Dir)

def shlex_split : PyValue → Except PyException (List Str)
  | .str branding_variables =>
    match Shlex.split Shlex.posix branding_variables with
    | .ok tokens => .ok tokens
    | .error message => .error (.ValueError message.toList)
  | value => env.splitOther value

def make_line : List Str := ["make".toList, "package".toList, "-j2".toList]

def isCalledProcessError (ex : PyException) : Bool := ex = .CalledProcessError

def send (message : BuildMessage) : Py Dir Unit :=
  modify fun s => { s with sent := s.sent ++ [message] }

def send_status (progress : Nat) (status : Str) : Py Dir Unit := do
  lift (env.send_status progress)
  send (.status progress status)

def chdir (dir : Dir) : Py Dir Unit := do
  lift (env.chdir dir)
  modify fun s => { s with cwd := dir }

def run_command (cmd : List Str) : Py Dir Unit := do
  let s ← get
  lift (env.run_command s.cwd cmd)

def readFilename (package_type : Str) : Py Dir (Option Str) := do
  let s ← get
  let lines ← lift (env.CPackConfig s.cwd)
  lift (filename package_type lines)

/-- The last `try` of `build_package`. -/
def postInstall (destination : PyValue) (filename : Option Str) : Py Dir Str := do
  send_status env 80 "Loading package to server".toList
  match filename with
  | some filename => lift (env.post_install_step filename destination)
  | none => raise .UnboundLocalError

/-- `build_package` behind `os.chdir(dir_name)`. -/
def build (data : RequestData) (arch package_type : Str) (pwd : Dir) : Py Dir Str := do
  let branding_variables_list ← lift (shlex_split env data.branding_variables)
  guarded isCalledProcessError (chdir env pwd)
    (run_command env (cmake_options arch package_type ++ branding_variables_list))
  send_status env 20 "Building package".toList
  guarded isCalledProcessError (chdir env pwd) (run_command env make_line)
  send_status env 70 "Stable package".toList
  let filename ← readFilename env package_type
  let result ← guarded (fun _ => true) (chdir env pwd) (postInstall env data.destination filename)
  chdir env pwd
  return result

def dirName (platform : BuildPlatform) (op_id : Str) : Str :=
  "build_".toList ++ platform.platform ++ "_for_".toList ++ op_id

def build_package (op_id : Str) (data : RequestData) : Py Dir Str := do
  let (platform, arch, package_type) ← lift (validate data)
  lift env.getcwd
  let s ← get
  let dir_name := dirName platform op_id
  lift (if env.pathExists s.cwd dir_name then env.rmtree s.cwd dir_name else .ok ())
  lift (env.mkdir s.cwd dir_name)
  chdir env (tree.child s.cwd dir_name)
  build env data arch package_type s.cwd

/-- The answer of a build, which fails with every exception. -/
def buildAnswer (op_id : Str) (data : RequestData) : Py Dir BuildMessage :=
  handle (do
      let response ← build_package tree env op_id data
      return .body response)
    fun ex => return .error (env.str ex)

/-- `on_request` behind its last status. -/
def publish (json_to_send : BuildMessage) : Py Dir Unit := do
  lift env.basic_publish
  send json_to_send
  lift env.basic_ack

def on_request (op_id : Str) : Py Dir Unit := do
  let data ← lift env.loads
  send_status env 0 "Prepare to build package".toList
  let json_to_send ← buildAnswer tree env op_id data
  send_status env 100 "Completed".toList
  publish env json_to_send

/-- An exception that leaves `on_request` ends `start_consuming`. -/
def step (s : Worker Dir) (r : BuildDelivery Dir) : Option (Worker Dir) :=
  if s.running then
    match on_request tree r.env r.correlation_id s with
    | (.ok _, s') => some s'
    | (.error _, s') => some { s' with running := false }
  else none

def isAnswer : BuildMessage → Bool
  | .status _ _ => false
  | .body _ | .error _ => true

/-- The answers that a worker has published. -/
def answers (s : Worker Dir) : List BuildMessage := s.sent.filter isAnswer

/-- A request that was answered leaves the worker where it was. -/
def Restores (s : Worker Dir) (_ : BuildDelivery Dir) (s' : Worker Dir) : Prop :=
  answers s' ≠ answers s → s'.cwd = s.cwd

/-- What runs in the directory `dir` of a build, up to the last `try`, which catches everything. -/
def steps (data : RequestData) (arch package_type : Str) (dir : Dir) : List (Step PyException) :=
  [⟨error? (shlex_split env data.branding_variables), fun _ => false⟩,
    ⟨error? ((shlex_split env data.branding_variables).bind fun branding_variables_list =>
      env.run_command dir (cmake_options arch package_type ++ branding_variables_list)),
      isCalledProcessError⟩,
    ⟨error? (env.send_status 20), fun _ => false⟩,
    ⟨error? (env.run_command dir make_line), isCalledProcessError⟩,
    ⟨error? (env.send_status 70), fun _ => false⟩,
    ⟨error? ((env.CPackConfig dir).bind (filename package_type)), fun _ => false⟩]

/-- `build_package` gets to its `os.chdir(dir_name)` and through it. -/
structure Enters (pwd : Dir) (dir_name : Str) : Prop where
  getcwd : env.getcwd = .ok ()
  rmtree : env.pathExists pwd dir_name = true → env.rmtree pwd dir_name = .ok ()
  mkdir : env.mkdir pwd dir_name = .ok ()
  chdir : env.chdir (tree.child pwd dir_name) = .ok ()

/-- A build that enters its directory meets no exception that passes its clauses, and the way back
is open. -/
def ComesBack (op_id : Str) (data : RequestData) (pwd : Dir) : Prop :=
  ∀ platform arch package_type, validate data = .ok (platform, arch, package_type) →
    Enters tree env pwd (dirName platform op_id) →
      Caught (steps env data arch package_type (tree.child pwd (dirName platform op_id))) ∧
        env.chdir pwd = .ok ()

/-- The worker gets to the answer of a request, and publishes it. -/
structure Answers (data : RequestData) : Prop where
  loads : env.loads = .ok data
  prepare : env.send_status 0 = .ok ()
  completed : env.send_status 100 = .ok ()
  publish : env.basic_publish = .ok ()

variable {tree} {env} {s s' : Worker Dir} {pwd dir : Dir}

/-- A body of texts gets to the `cmake_line` of its build. -/
theorem cmake_line_iff {platform branding_variables package_type : Str} {arch : Nat}
    {destination : PyValue} {line : List Str} :
    cmake_line platform arch branding_variables package_type = .ok line ↔
      ∃ platform_or_none tokens,
        validate ⟨.str branding_variables, .str platform, .num arch (toString arch).toList,
            .str package_type, destination⟩ =
          .ok (platform_or_none, (toString arch).toList, package_type) ∧
        shlex_split env (.str branding_variables) = .ok tokens ∧
          line = cmake_options (toString arch).toList package_type ++ tokens := by
  rw [cmake_line]
  simp only [validate]
  cases get_supported_platform_by_name platform with
  | none => simp
  | some platform_or_none =>
    have harch : (platform_or_none.archs.all fun a => (a : Int) ≠ (arch : Int)) = true ↔
        arch ∉ platform_or_none.archs := by
      simp only [List.all_eq_true, decide_eq_true_eq, ne_eq, Int.natCast_inj]
      exact ⟨fun h hmem => h arch hmem rfl, fun h a hmem heq => h (heq ▸ hmem)⟩
    simp only [harch]
    by_cases hnot : arch ∉ platform_or_none.archs
    · simp [hnot]
    by_cases htype : package_type ∈ platform_or_none.package_types
    · have hcontains := List.contains_iff_mem.2 htype
      rw [if_neg hnot, if_neg hnot, if_neg (not_not_intro htype), if_pos hcontains]
      simp only [shlex_split]
      cases Shlex.split Shlex.posix branding_variables with
      | error message => simp [Except.map]
      | ok tokens =>
        simp only [Except.map, Except.ok.injEq, Prod.mk.injEq, and_true]
        constructor
        · exact fun heq => ⟨_, _, rfl, rfl, heq.symm⟩
        · rintro ⟨_, _, rfl, rfl, rfl⟩
          rfl
    · simp [hnot, htype]

theorem staysAt_send_status (progress : Nat) (status : Str) :
    StaysAt Worker.cwd dir (send_status env progress status) (env.send_status progress) := by
  have hbind : (env.send_status progress >>= fun _ => .ok ()) = env.send_status progress := by
    cases env.send_status progress <;> rfl
  rw [← hbind]
  exact (staysAt_lift _).bind fun _ => staysAt_modify fun _ => rfl

theorem staysAt_run_command (cmd : List Str) :
    StaysAt Worker.cwd dir (run_command env cmd) (env.run_command dir cmd) := by
  apply staysAt_get_bind
  intro s hs
  rw [hs]
  exact staysAt_lift _

theorem staysAt_readFilename (package_type : Str) :
    StaysAt Worker.cwd dir (readFilename env package_type)
      ((env.CPackConfig dir).bind (filename package_type)) := by
  apply staysAt_get_bind
  intro s hs
  rw [hs]
  exact (staysAt_lift _).bind fun _ => staysAt_lift _

theorem send_status_ok {progress : Nat} (status : Str) (h : env.send_status progress = .ok ()) :
    send_status env progress status s =
      (.ok (), { s with sent := s.sent ++ [.status progress status] }) := lift_modify_ok h

theorem send_status_error {progress : Nat} {e : PyException} (status : Str)
    (h : env.send_status progress = .error e) :
    send_status env progress status s = (.error e, s) := lift_modify_error h

theorem chdir_ok (h : env.chdir dir = .ok ()) :
    chdir env dir s = (.ok (), { s with cwd := dir }) := lift_modify_ok h

theorem chdir_error {e : PyException} (h : env.chdir dir = .error e) :
    chdir env dir s = (.error e, s) := lift_modify_error h

theorem cwd_chdir (hs : s.cwd = dir) (hne : dir ≠ pwd) :
    (chdir env pwd s).2.cwd = pwd ↔ env.chdir pwd = .ok () := by
  cases hc : env.chdir pwd with
  | ok u =>
    rw [chdir_ok hc]
    exact ⟨fun _ => rfl, fun _ => rfl⟩
  | error e =>
    rw [chdir_error hc, hs]
    exact ⟨fun heq => absurd heq hne, fun h => nomatch h⟩

theorem keeps_postInstall (destination : PyValue) (filename : Option Str) :
    Keeps Worker.cwd (postInstall env destination filename) := by
  apply Keeps.bind
  · exact (keeps_lift _).bind fun _ => keeps_modify fun _ => rfl
  · intro _
    cases filename with
    | none => exact keeps_lift _
    | some filename => exact keeps_lift _

/-- A build in the directory `dir` comes back to `pwd`. -/
theorem cwd_build (data : RequestData) (arch package_type : Str) (hs : s.cwd = dir)
    (hne : dir ≠ pwd) :
    (build env data arch package_type pwd s).2.cwd = pwd ↔
      Caught (steps env data arch package_type dir) ∧ env.chdir pwd = .ok () := by
  have hback (t : Worker Dir) (ht : t.cwd = dir) :
      (chdir env pwd t).2.cwd = pwd ↔ env.chdir pwd = .ok () := cwd_chdir ht hne
  rw [build, steps]
  apply back_bind_iff (staysAt_lift _) hne hs
  intro tokens htokens t ht
  rw [htokens]
  apply back_guarded_iff (staysAt_run_command _) hne ht hback
  intro _ _ t ht
  apply back_bind_iff (staysAt_send_status _ _) hne ht
  intro _ _ t ht
  apply back_guarded_iff (staysAt_run_command _) hne ht hback
  intro _ _ t ht
  apply back_bind_iff (staysAt_send_status _ _) hne ht
  intro _ _ t ht
  apply back_bind_iff (staysAt_readFilename _) hne ht
  intro filename _ t ht
  rw [Caught, true_and]
  apply back_guarded_all_iff (keeps_postInstall _ _) ht hback
  intro result t ht
  rw [bind_pure_state]
  exact hback t ht

/-- A call that raises in front of `os.chdir(dir_name)` leaves the worker where it is. -/
theorem cwd_lift_bind {outcome : Except PyException α} {k : α → Py Dir β} {P : Prop}
    (herror : ∀ e, outcome = .error e → P)
    (hok : ∀ a, outcome = .ok a → ((k a s).2.cwd = s.cwd ↔ P)) :
    ((lift outcome >>= k) s).2.cwd = s.cwd ↔ P := by
  cases outcome with
  | error e =>
    rw [bind_error (lift_apply _ _)]
    exact ⟨fun _ => herror e rfl, fun _ => rfl⟩
  | ok a =>
    rw [bind_ok (lift_apply _ _)]
    exact hok a rfl

theorem cwd_build_package (tree : DirectoryTree Dir) (env : BuildEnv Dir) (op_id : Str)
    (data : RequestData) (s : Worker Dir) :
    (build_package tree env op_id data s).2.cwd = s.cwd ↔
      ComesBack tree env op_id data s.cwd := by
  rw [build_package]
  apply cwd_lift_bind
  · intro e he platform arch package_type hv
    rw [he] at hv
    cases hv
  intro ⟨platform, arch, package_type⟩ hv
  have hiff : ComesBack tree env op_id data s.cwd ↔
      (Enters tree env s.cwd (dirName platform op_id) →
        Caught (steps env data arch package_type (tree.child s.cwd (dirName platform op_id))) ∧
          env.chdir s.cwd = .ok ()) := by
    simp only [ComesBack, hv, Except.ok.injEq, Prod.mk.injEq]
    constructor
    · intro h
      exact h _ _ _ ⟨rfl, rfl, rfl⟩
    · rintro h _ _ _ ⟨rfl, rfl, rfl⟩
      exact h
  rw [hiff]
  apply cwd_lift_bind
  · intro e he henters
    cases he.symm.trans henters.getcwd
  intro _ hgetcwd
  rw [bind_ok (m := get) rfl]
  apply cwd_lift_bind
  · intro e he henters
    split at he
    · rename_i hexists
      cases he.symm.trans (henters.rmtree hexists)
    · cases he
  intro _ hrmtree
  apply cwd_lift_bind
  · intro e he henters
    cases he.symm.trans henters.mkdir
  intro _ hmkdir
  cases hchdir : env.chdir (tree.child s.cwd (dirName platform op_id)) with
  | error e =>
    rw [bind_error (chdir_error hchdir)]
    refine ⟨fun _ henters => ?_, fun _ => rfl⟩
    cases hchdir.symm.trans henters.chdir
  | ok u =>
    have henters : Enters tree env s.cwd (dirName platform op_id) := by
      refine ⟨hgetcwd, ?_, hmkdir, hchdir⟩
      intro hexists
      rwa [if_pos hexists] at hrmtree
    rw [bind_ok (chdir_ok hchdir), forall_prop_of_true henters]
    exact cwd_build data arch package_type rfl (tree.child_ne _ _)

theorem answers_status (s : Worker Dir) (progress : Nat) (status : Str) :
    answers { s with sent := s.sent ++ [.status progress status] } = answers s := by
  rw [answers, List.filter_append]
  exact List.append_nil _

theorem answers_answer (s : Worker Dir) {message : BuildMessage} (h : isAnswer message = true) :
    answers { s with sent := s.sent ++ [message] } = answers s ++ [message] := by
  rw [answers, List.filter_append, List.filter_singleton, h]
  rfl

theorem keeps_send_status (progress : Nat) (status : Str) :
    Keeps answers (send_status env progress status) := by
  apply (keeps_lift _).bind
  intro _
  exact keeps_modify fun s => answers_status s progress status

theorem keeps_chdir (d : Dir) : Keeps answers (chdir env d) :=
  (keeps_lift _).bind fun _ => keeps_modify fun _ => rfl

theorem keeps_build (data : RequestData) (arch package_type : Str) (pwd : Dir) :
    Keeps answers (build env data arch package_type pwd) := by
  have hcommand (cmd : List Str) : Keeps answers (run_command env cmd) :=
    keeps_get.bind fun _ => keeps_lift _
  apply (keeps_lift _).bind
  intro _
  apply ((hcommand _).guarded (keeps_chdir _)).bind
  intro _
  apply (keeps_send_status _ _).bind
  intro _
  apply ((hcommand _).guarded (keeps_chdir _)).bind
  intro _
  apply (keeps_send_status _ _).bind
  intro _
  apply (keeps_get.bind fun _ => (keeps_lift _).bind fun _ => keeps_lift _).bind
  intro filename
  apply Keeps.bind
  · apply Keeps.guarded _ (keeps_chdir _)
    apply (keeps_send_status _ _).bind
    intro _
    cases filename with
    | none => exact keeps_lift _
    | some filename => exact keeps_lift _
  · intro _
    exact (keeps_chdir _).bind fun _ => keeps_pure _

theorem keeps_build_package (tree : DirectoryTree Dir) (env : BuildEnv Dir) (op_id : Str)
    (data : RequestData) :
    Keeps answers (build_package tree env op_id data) := by
  apply (keeps_lift _).bind
  intro ⟨_, _, _⟩
  apply (keeps_lift _).bind
  intro _
  apply keeps_get.bind
  intro _
  apply (keeps_lift _).bind
  intro _
  apply (keeps_lift _).bind
  intro _
  exact (keeps_chdir _).bind fun _ => keeps_build _ _ _ _

/-- A build ends with an answer, and with the state that it left. -/
theorem buildAnswer_run (op_id : Str) (data : RequestData) (s : Worker Dir) :
    ∃ message, isAnswer message = true ∧ buildAnswer tree env op_id data s =
      (.ok message, (build_package tree env op_id data s).2) := by
  cases hb : build_package tree env op_id data s with
  | mk result t =>
    cases result with
    | ok response =>
      refine ⟨.body response, rfl, ?_⟩
      simp only [buildAnswer, handle, bind_ok hb]
      rfl
    | error ex =>
      refine ⟨.error (env.str ex), rfl, ?_⟩
      simp only [buildAnswer, handle, bind_error hb]
      rfl

theorem publish_error {e : PyException} (json_to_send : BuildMessage)
    (h : env.basic_publish = .error e) : publish env json_to_send s = (.error e, s) := by
  rw [publish, h]
  rfl

theorem publish_state (json_to_send : BuildMessage) (h : env.basic_publish = .ok ()) :
    (publish env json_to_send s).2 = { s with sent := s.sent ++ [json_to_send] } := by
  rw [publish, h]
  rfl

/-- What a request does: it raises before it has published an answer, or it publishes one, in the
directory that its build has left. -/
theorem on_request_cases (tree : DirectoryTree Dir) (env : BuildEnv Dir) (op_id : Str)
    (s : Worker Dir) :
    (∀ data, ¬ Answers env data) ∧
        (∃ e t, on_request tree env op_id s = (.error e, t) ∧ answers t = answers s) ∨
      ∃ data, Answers env data ∧ answers (on_request tree env op_id s).2 ≠ answers s ∧
        ((on_request tree env op_id s).2.cwd = s.cwd ↔ ComesBack tree env op_id data s.cwd) := by
  rw [on_request]
  cases hloads : env.loads with
  | error e =>
    refine .inl ⟨fun data h => ?_, e, s, rfl, rfl⟩
    cases hloads.symm.trans h.loads
  | ok data =>
    rw [bind_ok (lift_apply _ _)]
    cases hprepare : env.send_status 0 with
    | error e =>
      rw [bind_error (send_status_error _ hprepare)]
      refine .inl ⟨fun data h => ?_, e, s, rfl, rfl⟩
      cases hprepare.symm.trans h.prepare
    | ok u =>
      rw [bind_ok (send_status_ok _ hprepare)]
      obtain ⟨message, hmessage, hbuild⟩ := buildAnswer_run op_id data
        { s with sent := s.sent ++ [.status 0 "Prepare to build package".toList] }
      have hanswers := (keeps_build_package tree env op_id data _).trans
        (answers_status s 0 "Prepare to build package".toList)
      have hcwd := cwd_build_package tree env op_id data
        { s with sent := s.sent ++ [.status 0 "Prepare to build package".toList] }
      rw [bind_ok hbuild]
      generalize (build_package tree env op_id data _).2 = t at hanswers hcwd
      cases hcompleted : env.send_status 100 with
      | error e =>
        rw [bind_error (send_status_error _ hcompleted)]
        refine .inl ⟨fun data h => ?_, e, t, rfl, hanswers⟩
        cases hcompleted.symm.trans h.completed
      | ok u =>
        rw [bind_ok (send_status_ok _ hcompleted)]
        cases hpublish : env.basic_publish with
        | error e =>
          rw [publish_error _ hpublish]
          refine .inl ⟨fun data h => ?_, e, _, rfl, (answers_status _ _ _).trans hanswers⟩
          cases hpublish.symm.trans h.publish
        | ok u =>
          rw [publish_state _ hpublish, answers_answer _ hmessage, answers_status, hanswers]
          refine .inr ⟨data, ⟨hloads, hprepare, hcompleted, hpublish⟩, ?_, hcwd⟩
          simp

/-- What a step of the worker leaves, but for whether it goes on. -/
theorem step_state {r : BuildDelivery Dir} (hs : step tree s r = some s') :
    s'.sent = (on_request tree r.env r.correlation_id s).2.sent ∧
      s'.cwd = (on_request tree r.env r.correlation_id s).2.cwd := by
  rw [step] at hs
  split at hs
  · split at hs
    all_goals
      rename_i hrun
      cases hs
      rw [hrun]
      exact ⟨rfl, rfl⟩
  · cases hs

/-- A request comes back to the directory it found. -/
def Returns (tree : DirectoryTree Dir) (s : Worker Dir) (r : BuildDelivery Dir) : Prop :=
  ∀ data, Answers r.env data → ComesBack tree r.env r.correlation_id data s.cwd

theorem step_restores {r : BuildDelivery Dir} (hs : step tree s r = some s') :
    Restores s r s' ↔ Returns tree s r := by
  obtain ⟨hsent, hcwd⟩ := step_state hs
  have hanswers : answers s' = answers (on_request tree r.env r.correlation_id s).2 := by
    rw [answers, hsent, answers]
  rw [Restores, hanswers, hcwd]
  obtain ⟨hnone, e, t, hrun, hsame⟩ | ⟨data, hdata, hne, hiff⟩ :=
    on_request_cases tree r.env r.correlation_id s
  · rw [hrun]
    exact ⟨fun _ data h => absurd h (hnone data), fun _ h => absurd hsame h⟩
  · constructor
    · intro h data' hdata'
      cases hdata.loads.symm.trans hdata'.loads
      exact hiff.1 (h hne)
    · exact fun h _ => hiff.2 (h data hdata)

/-- Answered requests leave a worker where they found it, along a run, exactly when each build that
enters its directory meets no exception that passes its clauses. -/
theorem along_restores_iff (tree : DirectoryTree Dir) (s : Worker Dir)
    (rs : List (BuildDelivery Dir)) :
    Along (step tree) Restores s rs ↔ Along (step tree) (fun t r _ => Returns tree t r) s rs :=
  along_congr fun _ _ _ hs => step_restores hs

def pathTree : DirectoryTree (List Str) where
  child d name := d ++ [name]
  child_ne d name := by simp

/-- A request whose password is a quotation mark, when everything that is called succeeds. -/
def quotedRequest : BuildDelivery (List Str) where
  env :=
    { loads := .ok
        { branding_variables := .str "-DUSER_SPECIFIC_DEFAULT_PASSWORD=\"".toList
          platform := .str "linux".toList
          arch := .num 64 "64".toList
          package_type := .str "DEB".toList
          destination := .None }
      getcwd := .ok ()
      pathExists := fun _ _ => false
      rmtree := fun _ _ => .ok ()
      mkdir := fun _ _ => .ok ()
      chdir := fun _ => .ok ()
      splitOther := fun _ => .ok []
      run_command := fun _ _ => .ok ()
      CPackConfig := fun _ => .ok []
      post_install_step := fun filename _ => .ok filename
      send_status := fun _ => .ok ()
      basic_publish := .ok ()
      basic_ack := .ok ()
      str := fun
        | .BuildError value => value
        | .ValueError text | .other text => text
        | .CalledProcessError | .UnboundLocalError => [] }
  correlation_id := "user@site".toList

/-- The worker stays in the directory of the build. -/
theorem not_along_restores_quoted :
    ¬ Along (step pathTree) Restores ⟨["build".toList], [], true⟩ [quotedRequest] := by
  intro h
  have hcwd := (h _ rfl).1 (by decide)
  revert hcwd
  decide

/-- Every request that a worker gets finds it then in the directory in which it was started. -/
theorem always_home {rs : List (BuildDelivery Dir)}
    (h : Along (step tree) (fun t r _ => Returns tree t r) s rs) :
    Always (step tree) (fun t => t.running = true → t.cwd = s.cwd) s rs := by
  apply h.always (I := fun t => t.running = true → t.cwd = s.cwd) (fun _ => rfl) fun _ ht => ht
  intro t r t' ht hs hreturns hrunning
  have hcwd := (step_state hs).2
  rw [step] at hs
  split at hs
  · rename_i htrunning
    obtain ⟨_, e, u, hrun, _⟩ | ⟨data, hdata, _, hiff⟩ :=
      on_request_cases tree r.env r.correlation_id t
    · rw [hrun] at hs
      cases hs
      cases hrunning
    · rw [hcwd, hiff.2 (hreturns data hdata), ht htrunning]
  · cases hs

end BuildServer

end SiteOnYourDevice
