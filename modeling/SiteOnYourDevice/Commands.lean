import SiteOnYourDevice.CString
import Mathlib.Data.List.Infix

namespace SiteOnYourDevice
open CString
set_option relaxedAutoImplicit false
set_option autoImplicit true

abbrev cmd_seq_t := Str
abbrev cmd_id_t := UInt8

def END_OF_COMMAND : Str := ['\r', '\n']

def CAUSE_INVALID_ARGS : Str := "invalid_args".toList
def CAUSE_INVALID_USER : Str := "invalid_user".toList
def CAUSE_UNREGISTERED_USER : Str := "unregistered_user".toList
def CAUSE_DOUBLE_CONNECTION_HOST : Str := "double_connection_host".toList
def CAUSE_NOT_CONNECTED : Str := "not_connected".toList
def CAUSE_NOT_HANDLED : Str := "not_handled".toList

def FAIL_COMMAND : Str := "fail".toList
def SUCCESS_COMMAND : Str := "ok".toList

def MAX_COMMAND_SIZE : Nat := 1024

/-- `memcmp` over the length of the command name only: the buffer may go on after it. -/
def IS_EQUAL_COMMAND (BUF CMD : Str) : Bool := CMD.isPrefixOf BUF

/-- `"%" CID_FMT`. -/
def CID_FMT (seq : cmd_id_t) : Str := Nat.toDigits 10 seq.toNat

/-- A command format with the arguments of its `CMD_FMT` filled in; the type and the id are the
two arguments still open. -/
abbrev Fmt := cmd_id_t → cmd_seq_t → Str

def GENERATE_FMT (CMD CMD_FMT : Str) : Fmt := fun seq id =>
  CID_FMT seq ++ ' ' :: id ++ ' ' :: CMD ++ ' ' :: CMD_FMT ++ END_OF_COMMAND

def GENEATATE_SUCCESS_FMT (CMD CMD_FMT : Str) : Fmt := fun seq id =>
  CID_FMT seq ++ ' ' :: id ++ ' ' :: SUCCESS_COMMAND ++ ' ' :: CMD ++ ' ' :: CMD_FMT ++
    END_OF_COMMAND

def GENEATATE_FAIL_FMT (CMD CMD_FMT : Str) : Fmt := fun seq id =>
  CID_FMT seq ++ ' ' :: id ++ ' ' :: FAIL_COMMAND ++ ' ' :: CMD ++ ' ' :: CMD_FMT ++
    END_OF_COMMAND

def REQUEST_COMMAND : cmd_id_t := 0
def RESPONCE_COMMAND : cmd_id_t := 1
def APPROVE_COMMAND : cmd_id_t := 2

def PING_COMMAND : Str := "ping".toList
def PING_COMMAND_REQ : Fmt := GENERATE_FMT PING_COMMAND []
def PING_COMMAND_RESP_SUCCESS : Fmt := GENEATATE_SUCCESS_FMT PING_COMMAND "pong".toList
def PING_COMMAND_APPROVE_FAIL_1S (s : Str) : Fmt := GENEATATE_SUCCESS_FMT PING_COMMAND s
def PING_COMMAND_APPROVE_SUCCESS : Fmt := GENEATATE_SUCCESS_FMT PING_COMMAND []

def STATE_COMMAND : Str := "state_command".toList
def STATE_COMMAND_RESP_FAIL_1S (s : Str) : Fmt := GENEATATE_FAIL_FMT STATE_COMMAND s

def SERVER_WHO_ARE_YOU_COMMAND : Str := "who_are_you".toList
def SERVER_WHO_ARE_YOU_COMMAND_REQ : Fmt := GENERATE_FMT SERVER_WHO_ARE_YOU_COMMAND []
def SERVER_WHO_ARE_YOU_COMMAND_APPROVE_FAIL_1S (s : Str) : Fmt :=
  GENEATATE_FAIL_FMT SERVER_WHO_ARE_YOU_COMMAND s
def SERVER_WHO_ARE_YOU_COMMAND_APPROVE_SUCCESS : Fmt :=
  GENEATATE_SUCCESS_FMT SERVER_WHO_ARE_YOU_COMMAND []

def SERVER_NOTIFY_CLIENT_CONNECTED_1S (s : Str) : Str := s ++ " connected".toList
def SERVER_NOTIFY_CLIENT_DISCONNECTED_1S (s : Str) : Str := s ++ " disconnected".toList

/-- `"%" PRIu64 " fail %s " CAUSE`; the id is passed as a string and rendered as its text. -/
def SERVER_COMMANDS_OUT_FAIL_2US (CAUSE : Str) (id command : Str) : Str :=
  id ++ ' ' :: FAIL_COMMAND ++ ' ' :: command ++ ' ' :: CAUSE

/-- A built command; its type is a parameter of the template. -/
structure InnerCmd (cmd_id : cmd_id_t) where
  id_ : cmd_seq_t
  cmd_ : Str
deriving DecidableEq

abbrev cmd_request_t := InnerCmd REQUEST_COMMAND
abbrev cmd_responce_t := InnerCmd RESPONCE_COMMAND
abbrev cmd_approve_t := InnerCmd APPROVE_COMMAND

/-- What `SNPrintf` leaves in a zeroed buffer of `MAX_COMMAND_SIZE` bytes, read as a C string. -/
def buffText (text : Str) : Str := cstr (text.take (MAX_COMMAND_SIZE - 1))

def make_responce (id : cmd_seq_t) (cmd_fmt : Fmt) : cmd_responce_t :=
  ⟨id, buffText (cmd_fmt RESPONCE_COMMAND id)⟩

def make_approve_responce (id : cmd_seq_t) (cmd_fmt : Fmt) : cmd_approve_t :=
  ⟨id, buffText (cmd_fmt APPROVE_COMMAND id)⟩

/-- The eight bytes of a little-endian word, in the other order. -/
def NetToHost64 (x : UInt64) : UInt64 :=
  (List.range 8).foldl (fun y i => (y <<< 8) ||| ((x >>> UInt64.ofNat (8 * i)) &&& 255)) 0

/-- The four bytes of an `id_t` as they lie in memory. -/
def idBytes (x : UInt32) : List UInt8 :=
  (List.range 4).map fun i => (x >>> UInt32.ofNat (8 * i)).toUInt8

def hexEncode (bytes : List UInt8) : Str :=
  bytes.flatMap fun b => [Nat.digitChar (b.toNat / 16), Nat.digitChar (b.toNat % 16)]

/-- `next_id` on the counter `id_`; the POSIX `id_t` of both locals has 32 bits. -/
def next_id (id_ : UInt64) : cmd_seq_t × UInt64 :=
  let next_id : UInt32 := id_.toUInt32
  let stabled : UInt32 := (NetToHost64 next_id.toUInt64).toUInt32
  (hexEncode (idBytes stabled), id_ + 1)

def make_request (cmd_fmt : Fmt) (id_ : UInt64) : cmd_request_t × UInt64 :=
  let id := (next_id id_).1
  (⟨id, buffText (cmd_fmt REQUEST_COMMAND id)⟩, (next_id id_).2)

/-- A format that begins with the type and the id. -/
def Framed (fmt : Fmt) : Prop := ∀ t id, ∃ rest, fmt t id = CID_FMT t ++ ' ' :: id ++ ' ' :: rest

/-- A written command of type `t` with the id `id`, as much of it as fitted. -/
def IsCommandText (t : cmd_id_t) (id : cmd_seq_t) (data : Str) : Prop :=
  ∃ rest, data = buffText (CID_FMT t ++ ' ' :: id ++ ' ' :: rest)

theorem framed_success (CMD CMD_FMT : Str) : Framed (GENEATATE_SUCCESS_FMT CMD CMD_FMT) := by
  intro t id
  simp only [GENEATATE_SUCCESS_FMT, List.append_assoc, List.cons_append]
  exact ⟨_, rfl⟩

theorem framed_fail (CMD CMD_FMT : Str) : Framed (GENEATATE_FAIL_FMT CMD CMD_FMT) := by
  intro t id
  simp only [GENEATATE_FAIL_FMT, List.append_assoc, List.cons_append]
  exact ⟨_, rfl⟩

theorem Framed.make_responce {fmt : Fmt} (h : Framed fmt) (id : cmd_seq_t) :
    IsCommandText RESPONCE_COMMAND id (make_responce id fmt).cmd_ := by
  obtain ⟨rest, hr⟩ := h RESPONCE_COMMAND id
  exact ⟨rest, congrArg buffText hr⟩

theorem Framed.make_approve_responce {fmt : Fmt} (h : Framed fmt) (id : cmd_seq_t) :
    IsCommandText APPROVE_COMMAND id (make_approve_responce id fmt).cmd_ := by
  obtain ⟨rest, hr⟩ := h APPROVE_COMMAND id
  exact ⟨rest, congrArg buffText hr⟩

/-- A word that starts with one command name starts with no other one. -/
theorem IS_EQUAL_COMMAND_other (h : IS_EQUAL_COMMAND w a = true)
    (hab : IS_EQUAL_COMMAND a b = false) (hba : IS_EQUAL_COMMAND b a = false) :
    IS_EQUAL_COMMAND w b = false := by
  cases hb : IS_EQUAL_COMMAND w b with
  | false => rfl
  | true =>
    rw [IS_EQUAL_COMMAND, List.isPrefixOf_iff_prefix] at h hb
    obtain hp | hp := List.prefix_or_prefix_of_prefix h hb
    · rw [IS_EQUAL_COMMAND, List.isPrefixOf_iff_prefix.2 hp] at hba
      cases hba
    · rw [IS_EQUAL_COMMAND, List.isPrefixOf_iff_prefix.2 hp] at hab
      cases hab

theorem buffText_prefix (s : Str) : buffText s <+: s :=
  (List.takeWhile_prefix _).trans (List.take_prefix _ _)

theorem buffText_of_fits (hn : '\x00' ∉ s) (hl : s.length ≤ MAX_COMMAND_SIZE - 1) :
    buffText s = s := by
  rw [buffText, List.take_of_length_le hl, cstr_of_nul_free hn]

/-- The types a handler exists for. -/
def IsType (seq : cmd_id_t) : Prop :=
  seq = REQUEST_COMMAND ∨ seq = RESPONCE_COMMAND ∨ seq = APPROVE_COMMAND

instance : DecidablePred IsType := fun _ => inferInstanceAs (Decidable (_ ∨ _ ∨ _))

theorem CID_FMT_type (h : IsType t) :
    ∃ c, CID_FMT t = [c] ∧ isdigit c = true ∧ UInt8.ofNat (c.toNat - '0'.toNat) = t := by
  rcases h with rfl | rfl | rfl
  · exact ⟨'0', by decide, by decide, by decide⟩
  · exact ⟨'1', by decide, by decide, by decide⟩
  · exact ⟨'2', by decide, by decide, by decide⟩

theorem hexEncode_plain (bytes : List UInt8) : ' ' ∉ hexEncode bytes := by
  intro h
  obtain ⟨b, _, hb⟩ := List.mem_flatMap.1 h
  obtain hb | hb := List.mem_cons.1 hb
  · exact Nat.digitChar_ne ' ' (by decide) hb.symm
  · exact Nat.digitChar_ne ' ' (by decide) (List.mem_singleton.1 hb).symm

end SiteOnYourDevice
