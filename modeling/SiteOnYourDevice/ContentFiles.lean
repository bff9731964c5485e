import SiteOnYourDevice.DotSegments
import SiteOnYourDevice.HttpCallbacks

namespace SiteOnYourDevice
open CString DotSegments
set_option relaxedAutoImplicit false
set_option autoImplicit true

/-- A segment of a path; an empty one and `.` say nothing. -/
def segment? (text : Str) : Option (Segment Str) :=
  if text = [] ∨ text = ".".toList then none
  else if text = "..".toList then some .up
  else some (.name text)

def segments (path : Str) : List (Segment Str) := (path.splitOn '/').filterMap segment?

def isAbsolute (path : Str) : Bool := path.head? = some '/'

/-- The names from the root on of what a path leads to, without links. -/
def resolve (cwd : List Str) (path : Str) : List Str :=
  walk (if isAbsolute path then [] else cwd) (segments path)

/-- A relative path comes back into the content directory through the names it went up, and an
absolute one goes through all its names. -/
def ReturnsTo (content : List Str) (path : Str) : Prop :=
  if isAbsolute path then content <+: (net (segments path)).names
  else content.drop (content.length - (net (segments path)).ups) <+: (net (segments path)).names

theorem prefix_resolve_iff (content : List Str) (path : Str) :
    content <+: resolve content path ↔ ReturnsTo content path := by
  rw [resolve, ReturnsTo]
  split
  · exact prefix_walk_root_iff content _
  · exact prefix_walk_iff content _

example : resolve ["srv".toList] "./a//../b".toList = ["srv".toList, "b".toList] := by decide

/-- A call of the callback, with the text it gives to the system. -/
inductive FileCall
  | stat (path : Str)
  | open_ (path : Str)
deriving DecidableEq

def FileCall.path : FileCall → Str
  | .stat path | .open_ path => path

section ContentFiles
variable {ρ : Type*} (http : HttpRequestTypes ρ)

def file_path (request : ρ) : Str :=
  if http.isRoot request then "index.html".toList else http.path request

/-- The calls of `HttpFileSystemCallback::handleRequest`: `open` comes behind the answers for a name
that leads nowhere or to a directory. -/
def fileCalls (files : Str → FileOutcome) (request : ρ) : List FileCall :=
  if http.method request = .HM_GET ∨ http.method request = .HM_HEAD then
    match files (file_path http request) with
    | .missing | .directory => [.stat (cstr (file_path http request))]
    | .isProtected | .file _ _ _ _ =>
      [.stat (cstr (file_path http request)), .open_ (cstr (file_path http request))]
  else []

/-- What is looked up and opened for a request lies in the content directory. -/
def StaysInside (content : List Str) (files : Str → FileOutcome) (request : ρ) : Prop :=
  ∀ call ∈ fileCalls http files request, content <+: resolve content call.path

variable {http} {content : List Str} {files files' : Str → FileOutcome} {request : ρ}

theorem fileCalls_path {call : FileCall} (h : call ∈ fileCalls http files request) :
    call.path = cstr (file_path http request) := by
  rw [fileCalls] at h
  split at h
  · split at h <;> simp only [List.mem_cons, List.not_mem_nil, or_false] at h
    · rw [h]
      rfl
    · rw [h]
      rfl
    · rcases h with h | h <;> rw [h] <;> rfl
    · rcases h with h | h <;> rw [h] <;> rfl
  · cases h

theorem stat_mem_fileCalls (hm : http.method request = .HM_GET ∨ http.method request = .HM_HEAD) :
    .stat (cstr (file_path http request)) ∈ fileCalls http files request := by
  rw [fileCalls, if_pos hm]
  split <;> exact List.mem_cons_self

theorem returnsTo_index (content : List Str) : ReturnsTo content "index.html".toList := by
  have hups : (net (segments "index.html".toList)).ups = 0 := by decide
  rw [ReturnsTo, if_neg (by decide), hups, Nat.sub_zero, List.drop_length]
  exact List.nil_prefix

/-- Only the path of a request for a file decides whether it stays inside. -/
theorem staysInside_iff (http : HttpRequestTypes ρ) (content : List Str)
    (files : Str → FileOutcome) (request : ρ) :
    StaysInside http content files request ↔
      (http.method request = .HM_GET ∨ http.method request = .HM_HEAD →
        http.isRoot request = false → ReturnsTo content (cstr (http.path request))) := by
  constructor
  · intro h hm hroot
    have hinside := h _ (stat_mem_fileCalls hm)
    rwa [prefix_resolve_iff, FileCall.path, file_path, hroot, if_neg Bool.false_ne_true] at hinside
  · intro h call hcall
    have hm : http.method request = .HM_GET ∨ http.method request = .HM_HEAD := by
      by_contra hm
      rw [fileCalls, if_neg hm] at hcall
      cases hcall
    rw [fileCalls_path hcall, prefix_resolve_iff, file_path]
    cases hroot : http.isRoot request with
    | true => exact returnsTo_index content
    | false => exact h hm hroot

def secretRequest : List Str := ["GET /../secret HTTP/1.1".toList]

theorem not_staysInside_secretRequest :
    ¬ StaysInside .plain ["srv".toList] (fun _ => .missing) secretRequest := by
  intro h
  have hcall : .stat "/../secret".toList ∈
      fileCalls .plain (fun _ => .missing) secretRequest := by decide +kernel
  have hinside := h _ hcall
  rw [FileCall.path] at hinside
  revert hinside
  decide

/-- Two file systems look the same from the content directory. -/
def AgreeInside (content : List Str) (files files' : Str → FileOutcome) : Prop :=
  ∀ path, content <+: resolve content (cstr path) → files path = files' path

theorem createHttpCallback_congr {sys sys' : SystemCalls} {n : Nat} (type : HCTypes)
    (c : Http2Client) (hShutdown : sys.Shutdown = sys'.Shutdown)
    (hfiles : AgreeInside content (sys.file n) (sys'.file n))
    (hinside : StaysInside http content (sys.file n) request) :
    createHttpCallback http sys type n c request = createHttpCallback http sys' type n c request := by
  cases type with
  | system => rw [createHttpCallback, createHttpCallback, hShutdown]
  | file_system =>
    simp only [createHttpCallback, HttpFileSystemCallback]
    by_cases hm : http.method request = .HM_GET ∨ http.method request = .HM_HEAD
    · have hsame := hfiles _ (hinside _ (stat_mem_fileCalls hm))
      rw [file_path] at hsame
      rw [hsame]
    · rw [if_neg hm, if_neg hm]

/-- A request that stays inside is answered from the content directory alone. -/
theorem HttpServerHandler.handleRequest_congr {sys sys' : SystemCalls} {s : Connection ρ}
    (hShutdown : sys.Shutdown = sys'.Shutdown)
    (hfiles : AgreeInside content (sys.file s.log.length) (sys'.file s.log.length))
    (hinside : StaysInside http content (sys.file s.log.length) request)
    (urls : Str → Option (Option HCTypes)) (authChecker_ : Option IHttpAuthObserver)
    (notClose : Bool) :
    (configured http sys urls authChecker_).handleRequest http.toHttpTypes s request notClose =
      (configured http sys' urls authChecker_).handleRequest http.toHttpTypes s request
        notClose := by
  have hcallbacks (c : Http2Client) :
      (configured http sys urls authChecker_).callCallbacks http.toHttpTypes s.log.length c
        request =
      (configured http sys' urls authChecker_).callCallbacks http.toHttpTypes s.log.length c
        request := by
    have hsame (type : HCTypes) (c : Http2Client) :=
      createHttpCallback_congr type c hShutdown hfiles hinside
    simp only [callCallbacks, tryToHandleAsRegisteredCallback, configured]
    cases urls (http.path request) with
    | none => simp only [Option.map_none, hsame]
    | some entry =>
      cases entry with
      | none => simp only [Option.map_some, Option.map_none, hsame]
      | some type => simp only [Option.map_some, hsame]
  simp only [handleRequest, hcallbacks]
  rfl

end ContentFiles

end SiteOnYourDevice
