import SiteOnYourDevice.CString
import SiteOnYourDevice.Shlex

namespace SiteOnYourDevice
open CString Shlex
set_option relaxedAutoImplicit false
set_option autoImplicit true

/-- A message of `publish_rabbitmq`. -/
structure BuildRequest where
  email : Str
  password : Str
  domain_host : Str
  content_path : Str
  external_host : Str
  private_site : Str
  server_type : Str
  platform : Str
  arch : Nat
  package_type : Str

/-- What the build server can build. -/
structure BuildPlatform where
  platform : Str
  archs : List Nat
  package_types : List Str

def SUPPORTED_PLATFORMS : List BuildPlatform :=
  [⟨"linux".toList, [32, 64], ["DEB".toList, "RPM".toList, "TGZ".toList]⟩,
    ⟨"windows".toList, [32, 64], ["NSIS".toList, "ZIP".toList]⟩,
    ⟨"macosx".toList, [64], ["DragNDrop".toList, "ZIP".toList]⟩,
    ⟨"freebsd".toList, [64], ["TGZ".toList]⟩]

def get_supported_platform_by_name (platform : Str) : Option BuildPlatform :=
  SUPPORTED_PLATFORMS.find? (·.platform = platform)

/-- The part of `cmake_line` that the branding does not add to. -/
def cmake_options (arch package_type : Str) : List Str :=
  ["cmake".toList, "../../".toList, "-GUnix Makefiles".toList,
    "-DCMAKE_BUILD_TYPE=RELEASE".toList, "-DCPACK_GENERATOR=".toList ++ package_type,
    "-DOS_ARCH=".toList ++ arch]

/-- The `cmake_line` of `build_package`, or the text of the exception before it. -/
def cmake_line (platform : Str) (arch : Nat) (branding_variables package_type : Str) :
    Except String (List Str) :=
  match get_supported_platform_by_name platform with
  | none => .error "invalid platform"
  | some platform_or_none =>
    if arch ∉ platform_or_none.archs then .error "invalid arch"
    else if package_type ∉ platform_or_none.package_types then .error "invalid package_type"
    else (split posix branding_variables).map fun branding_variables_list =>
      cmake_options (toString arch).toList package_type ++ branding_variables_list

namespace BuildRequest
variable (in_json : BuildRequest)

def branding_variables : Str :=
  "-DUSER_SPECIFIC_DEFAULT_LOGIN=".toList ++ in_json.email
    ++ " -DUSER_SPECIFIC_DEFAULT_PASSWORD=".toList ++ in_json.password
    ++ " -DUSER_SPECIFIC_DEFAULT_LOCAL_DOMAIN=".toList ++ in_json.domain_host
    ++ " -DUSER_SPECIFIC_CONTENT_PATH=".toList ++ in_json.content_path
    ++ " -DUSER_SPECIFIC_DEFAULT_EXTERNAL_DOMAIN=".toList ++ in_json.external_host
    ++ " -DUSER_SPECIFIC_DEFAULT_PRIVATE_SITE=".toList ++ in_json.private_site
    ++ " -DUSER_SPECIFIC_SERVER_TYPE=".toList ++ in_json.server_type

/-- The values of the branding, each behind its key. -/
def fields : List (Str × Str) :=
  [("-DUSER_SPECIFIC_DEFAULT_LOGIN=".toList, in_json.email),
    ("-DUSER_SPECIFIC_DEFAULT_PASSWORD=".toList, in_json.password),
    ("-DUSER_SPECIFIC_DEFAULT_LOCAL_DOMAIN=".toList, in_json.domain_host),
    ("-DUSER_SPECIFIC_CONTENT_PATH=".toList, in_json.content_path),
    ("-DUSER_SPECIFIC_DEFAULT_EXTERNAL_DOMAIN=".toList, in_json.external_host),
    ("-DUSER_SPECIFIC_DEFAULT_PRIVATE_SITE=".toList, in_json.private_site),
    ("-DUSER_SPECIFIC_SERVER_TYPE=".toList, in_json.server_type)]

/-- One argument for each field. -/
def arguments : List Str := in_json.fields.map fun (key, value) => key ++ value

/-- What the build server makes of the message. -/
def build_package : Except String (List Str) :=
  cmake_line in_json.platform in_json.arch in_json.branding_variables in_json.package_type

/-- The fields come out of the splitter as they went in, and a line of `cmake` has nothing else
behind its own options. -/
structure DataOnly : Prop where
  splits : split posix in_json.branding_variables = .ok in_json.arguments
  cmake_line : ∀ line, in_json.build_package = .ok line →
    line = cmake_options (toString in_json.arch).toList in_json.package_type ++ in_json.arguments

/-- No value has a character that the splitter does not keep. -/
def Plain : Prop :=
  ∀ field ∈ in_json.fields, ∀ c ∈ field.2, c ∉ [' ', '\t', '\r', '\n', '\'', '"', '\\']

variable {in_json}

theorem branding_variables_eq :
    in_json.branding_variables = [' '].intercalate in_json.arguments := by
  have hpassword : " -DUSER_SPECIFIC_DEFAULT_PASSWORD=".toList =
      ' ' :: "-DUSER_SPECIFIC_DEFAULT_PASSWORD=".toList := by simp
  have hlocal : " -DUSER_SPECIFIC_DEFAULT_LOCAL_DOMAIN=".toList =
      ' ' :: "-DUSER_SPECIFIC_DEFAULT_LOCAL_DOMAIN=".toList := by simp
  have hcontent : " -DUSER_SPECIFIC_CONTENT_PATH=".toList =
      ' ' :: "-DUSER_SPECIFIC_CONTENT_PATH=".toList := by simp
  have hexternal : " -DUSER_SPECIFIC_DEFAULT_EXTERNAL_DOMAIN=".toList =
      ' ' :: "-DUSER_SPECIFIC_DEFAULT_EXTERNAL_DOMAIN=".toList := by simp
  have hprivate : " -DUSER_SPECIFIC_DEFAULT_PRIVATE_SITE=".toList =
      ' ' :: "-DUSER_SPECIFIC_DEFAULT_PRIVATE_SITE=".toList := by simp
  have htype : " -DUSER_SPECIFIC_SERVER_TYPE=".toList =
      ' ' :: "-DUSER_SPECIFIC_SERVER_TYPE=".toList := by simp
  unfold branding_variables arguments fields
  simp only [hpassword, hlocal, hcontent, hexternal, hprivate, htype, List.map_cons, List.map_nil,
    intercalate_cons, List.intercalate_singleton]
  simp only [List.append_assoc, List.cons_append]

theorem posix_plain_iff (c : Char) :
    posix.Plain c ↔ c ∉ [' ', '\t', '\r', '\n', '\'', '"', '\\'] := by
  simp only [List.mem_cons, List.not_mem_nil, or_false, not_or]
  apply Iff.intro
  · intro ⟨hw, hq, he⟩
    simp_all [posix]
  · intro h
    constructor <;> simp_all [posix]

theorem keys_plain : ∀ key ∈ in_json.fields.map Prod.fst, key ≠ [] ∧
    ∀ c ∈ key, c ∉ [' ', '\t', '\r', '\n', '\'', '"', '\\'] := by
  simp [fields]

theorem arguments_plain_iff :
    (∀ argument ∈ in_json.arguments, ∀ c ∈ argument, posix.Plain c) ↔ in_json.Plain := by
  simp only [arguments, List.forall_mem_map, List.forall_mem_append, posix_plain_iff]
  apply Iff.intro
  · intro h field hf
    exact (h field hf).2
  · intro h field hf
    exact ⟨(keys_plain _ (List.mem_map_of_mem hf)).2, h field hf⟩

theorem build_package_ok {line : List Str} (h : in_json.build_package = .ok line) :
    ∃ tokens, split posix in_json.branding_variables = .ok tokens ∧
      line = cmake_options (toString in_json.arch).toList in_json.package_type ++ tokens := by
  rw [build_package, SiteOnYourDevice.cmake_line] at h
  split at h
  · cases h
  · split_ifs at h
    cases hs : Shlex.split posix in_json.branding_variables with
    | error message =>
      rw [hs] at h
      cases h
    | ok tokens =>
      rw [hs] at h
      cases h
      exact ⟨tokens, rfl, rfl⟩

theorem splits_iff_plain : Shlex.split posix in_json.branding_variables = .ok in_json.arguments ↔
    in_json.Plain := by
  rw [branding_variables_eq, ← arguments_plain_iff]
  apply split_intercalate_iff rfl
  intro argument ha
  obtain ⟨field, hf, rfl⟩ := List.mem_map.1 ha
  exact List.append_ne_nil_of_left_ne_nil (keys_plain _ (List.mem_map_of_mem hf)).1 _

/-- The fields reach `cmake` as data exactly when every value is plain. -/
theorem dataOnly_iff_plain (in_json : BuildRequest) : in_json.DataOnly ↔ in_json.Plain := by
  apply Iff.intro
  · intro h
    exact splits_iff_plain.1 h.splits
  · intro h
    have hsplits := splits_iff_plain.2 h
    apply DataOnly.mk hsplits
    intro line hline
    obtain ⟨tokens, htokens, rfl⟩ := build_package_ok hline
    rw [hsplits] at htokens
    cases htokens
    rfl

example : Shlex.split posix "-DUSER_SPECIFIC_CONTENT_PATH=/home/u/my site".toList =
    .ok ["-DUSER_SPECIFIC_CONTENT_PATH=/home/u/my".toList, "site".toList] := by decide +kernel

/-- A path with a blank. -/
def withBlank : BuildRequest where
  email := "u@d.com".toList
  password := "pw".toList
  domain_host := "localhost:8080".toList
  content_path := "/home/u/my site".toList
  external_host := "d.com:80".toList
  private_site := "0".toList
  server_type := "0".toList
  platform := "linux".toList
  arch := 64
  package_type := "DEB".toList

/-- The end of the path becomes an argument of its own. -/
theorem not_dataOnly_withBlank : ¬ withBlank.DataOnly := by
  intro h
  have hblank : ' ' ∈ withBlank.content_path := by decide +kernel
  have hpath : ("-DUSER_SPECIFIC_CONTENT_PATH=".toList, withBlank.content_path) ∈ withBlank.fields :=
    .tail _ (.tail _ (.tail _ (.head _)))
  exact splits_iff_plain.1 h.splits _ hpath ' ' hblank List.mem_cons_self

end BuildRequest

end SiteOnYourDevice
