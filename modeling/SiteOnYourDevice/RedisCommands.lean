import SiteOnYourDevice.RedisFormat
import SiteOnYourDevice.RedisStorage

namespace SiteOnYourDevice
open CString JsonC RedisFormat Transition
set_option relaxedAutoImplicit false
set_option autoImplicit true

def GET_USER_1S : Str := "HGET users %s".toList

/-- The text of a reply, or NULL. -/
def ReplyPtr.str : ReplyPtr → Option Str
  | .string str | .status str | .error str => some str
  | .NULL | .array _ | .unallocated _ | .integer _ | .nil => none

variable (vsnprintf : Str → VaArg → Str)

/-- `redisCommand`; `none` when it does not return. -/
def RedisLink.redisCommand (s : RedisLink) (format : Str) (ap : List VaArg)
    (writes : List SocketWrite) (reads : List SocketRead) : Option (ReplyPtr × RedisLink) :=
  match redisvFormatCommand vsnprintf format ap with
  | .ok (len, cmd) => (s.redisAppendFormattedCommand (cmd.take len)).redisBlockForReply writes reads
  | .error .memory => some (.NULL, s.redisSetError .OOM "Out of memory".toList)
  | .error .format => some (.NULL, s.redisSetError .OTHER "Invalid format string".toList)
  | .error .undefined => some (.NULL, s.redisSetError .undefined [])

/-- A connection that `redis_connect` has made, and what the system calls on it return. -/
structure RedisPeer where
  writes : List SocketWrite
  reads : List SocketRead

/-- `RedisStorage::findUser` on a connection: `none` when it does not return, and within that the
result, which is `none` where `parse_user_json` fails; and the bytes that were sent. -/
def findUserOver (net : NetTypes) (json : Texts) (user : UserAuthInfo) (redis : RedisPeer) :
    Option (Option Bool × Str) :=
  if user.isValid net then
    (RedisLink.redisCommand vsnprintf (.connected true) GET_USER_1S [.string user.login] redis.writes
      redis.reads).map fun out =>
        (if out.1.isNULL then some false
        else (parse_user_json json user.login out.1.str).map fun
          | none => false
          | some (info, hosts) =>
            hosts.any fun host => host = user.host.host && user.password = info.password,
        out.2.sent)
  else some (some false, [])

/-- The channels of a `RedisSub`. -/
structure redis_sub_configuration_t where
  channel_in : Str
  channel_out : Str
  channel_clients_state : Str

namespace RedisSub

/-- `RedisSub::publish`, of texts that may be NULL; and the bytes that were sent. -/
def publish (chn : Option Str) (chn_len : Nat) (msg : Option Str) (msg_len : Nat)
    (redis : RedisPeer) : Option (Bool × Str) :=
  match chn, msg with
  | some chn, some msg =>
    if chn_len = 0 ∨ msg_len = 0 then some (false, [])
    else
      (RedisLink.redisCommand vsnprintf (.connected true) "PUBLISH %s %s".toList
        [.string chn, .string msg] redis.writes redis.reads).map fun out => (!out.1.isNULL, out.2.sent)
  | _, _ => some (false, [])

/-- The channel of a message, or NULL when it is empty. -/
def channelOf (channel : Str) : Option Str := if channel = [] then none else some channel

def publish_clients_state (config : redis_sub_configuration_t) (msg : Str) (redis : RedisPeer) :
    Option (Bool × Str) :=
  publish vsnprintf (channelOf config.channel_clients_state) config.channel_clients_state.length
    (some msg) msg.length redis

def publish_command_out (config : redis_sub_configuration_t) (msg : Str) (redis : RedisPeer) :
    Option (Bool × Str) :=
  publish vsnprintf (channelOf config.channel_out) config.channel_out.length (some msg) msg.length
    redis

end RedisSub

/-- A command with its reply, on a connection that carries both. -/
def RedisPeer.exchange (redis : RedisPeer) (argv : List Str) (reply : redisReply) : RedisExchange :=
  ⟨commandText argv, redis.writes, redis.reads, reply⟩

variable {f : Str} {ap : List VaArg} {argv : List Str} {redis : RedisPeer} {reply : redisReply}

/-- A command of strings returns the reply to it. -/
theorem RedisLink.redisCommand_served {s : RedisLink} (hs : s.Quiet) (hf : OfStrings f = true)
    (h : fillAll (words f) ap = some argv) (he : (redis.exchange argv reply).Served) :
    ∃ s', s.redisCommand vsnprintf f ap redis.writes redis.reads = some (reply.pointer, s') ∧
      s'.Quiet ∧ s'.sent = s.sent ++ commandText argv := by
  obtain ⟨s', hget, hquiet, hsent⟩ := RedisLink.redisGetReply_served hs he
  refine ⟨s', ?_, hquiet, hsent⟩
  rw [redisCommand, redisvFormatCommand_eq vsnprintf hf h he.counted]
  simp only
  rw [totlen_eq, List.take_length, redisBlockForReply]
  have hblock : (s.redisAppendFormattedCommand (commandText argv)).c.REDIS_BLOCK = true := hs.block
  have hget' : (s.redisAppendFormattedCommand (commandText argv)).redisGetReply redis.writes
      redis.reads = some (true, reply.pointer, s') := hget
  rw [if_pos hblock, hget']
  rfl

/-- What Redis answers `HGET` with. -/
def hashReply (users : Str → Option Str) (key : Str) : redisReply :=
  match users key with
  | some value => .string value
  | none => .nil

theorem str_hashReply (users : Str → Option Str) (key : Str) :
    (hashReply users key).pointer.str = users key := by
  rw [hashReply]
  cases users key <;> rfl

/-- Over a connection the login that is looked up is the login of the user, whatever it contains; and
the answer is that of the store. -/
theorem findUserOver_eq (net : NetTypes) (json : Texts) (users : Str → Option Str)
    {user : UserAuthInfo} (he : (redis.exchange ["HGET".toList, "users".toList, cstr user.login]
      (hashReply users (cstr user.login))).Served) :
    findUserOver vsnprintf net json user redis =
      some (RedisStorage.findUser net json ⟨some users⟩ user,
        if user.isValid net then commandText ["HGET".toList, "users".toList, cstr user.login]
        else []) := by
  rw [findUserOver, RedisStorage.findUser]
  cases hv : user.isValid net with
  | false => rfl
  | true =>
    have hfill : fillAll (words GET_USER_1S) [.string user.login] =
        some ["HGET".toList, "users".toList, cstr user.login] := by
      have hwords : words GET_USER_1S = ["HGET".toList, "users".toList, "%s".toList] := by
        decide +kernel
      rw [hwords, fillAll, fill_plain (by decide), Option.bind_some, fillAll,
        fill_plain (by decide), Option.bind_some, fillAll, fill_string]
      rfl
    obtain ⟨s, hcommand, _, hsent⟩ := RedisLink.redisCommand_served vsnprintf
      RedisLink.connected_quiet (f := GET_USER_1S) (by decide +kernel) hfill he
    simp only [if_true]
    rw [hcommand, Option.map_some, redisReply.pointer_isNULL, str_hashReply, hsent]
    rfl

/-- A connection that takes a command whole and answers with a reply. -/
def RedisPeer.answering (argv : List Str) (reply : redisReply) : RedisPeer :=
  ⟨[.bytes (commandText argv).length], [.bytes reply.encode]⟩

theorem RedisPeer.answering_served (argv : List Str) (reply : redisReply)
    (hc : (commandText argv).length < INT_MAX) (hs : reply.Sendable 8)
    (hf : 1024 + reply.encode.length ≤ INT_MAX) (hne : reply.encode ≠ []) :
    ((answering argv reply).exchange argv reply).Served where
  counted := hc
  writes := by
    intro nwritten h
    rw [List.mem_singleton.1 h]
    trivial
  written := by simp [exchange, answering, SocketWrite.room]
  reads := by
    intro nread h
    rw [List.mem_singleton.1 h]
    exact hne
  read := List.append_nil _
  sendable := hs
  fits := hf

theorem findUserOver_eq_device :
    findUserOver (fun _ _ => []) .plain (oneText deviceRecord) (deviceUser "secret".toList)
        (.answering ["HGET".toList, "users".toList, "user".toList] (.string "{}".toList)) =
      some (some true, commandText ["HGET".toList, "users".toList, "user".toList]) := by
  have hfind := @findUserOver_eq (fun _ _ => [])
    (.answering ["HGET".toList, "users".toList, "user".toList] (.string "{}".toList)) .plain
    (oneText deviceRecord) (fun _ => some "{}".toList) (deviceUser "secret".toList)
    (RedisPeer.answering_served _ _ (by decide +kernel) (by change _ ≤ _; decide +kernel)
      (by decide +kernel) (List.cons_ne_nil _ _))
  rw [hfind]
  decide +kernel

/-- A message is published up to its first NUL; one that is empty is not published. -/
theorem publish_command_out_eq {config : redis_sub_configuration_t} {msg : Str}
    (hc : config.channel_out ≠ []) (he : msg ≠ [] →
      (redis.exchange ["PUBLISH".toList, cstr config.channel_out, cstr msg] reply).Served) :
    RedisSub.publish_command_out vsnprintf config msg redis =
      some (if msg = [] then (false, [])
        else (true, commandText ["PUBLISH".toList, cstr config.channel_out, cstr msg])) := by
  have hlen : config.channel_out.length ≠ 0 := mt List.length_eq_zero_iff.1 hc
  rw [RedisSub.publish_command_out, RedisSub.channelOf, if_neg hc, RedisSub.publish]
  by_cases hmsg : msg = []
  · subst hmsg
    rw [if_pos (.inr rfl), if_pos rfl]
  · have hmlen : msg.length ≠ 0 := mt List.length_eq_zero_iff.1 hmsg
    have hfill : fillAll (words "PUBLISH %s %s".toList) [.string config.channel_out, .string msg] =
        some ["PUBLISH".toList, cstr config.channel_out, cstr msg] := by
      have hwords : words "PUBLISH %s %s".toList =
          ["PUBLISH".toList, "%s".toList, "%s".toList] := by decide +kernel
      rw [hwords, fillAll, fill_plain (by decide), Option.bind_some, fillAll, fill_string,
        Option.bind_some, fillAll, fill_string]
      rfl
    obtain ⟨s, hcommand, _, hsent⟩ := RedisLink.redisCommand_served vsnprintf
      RedisLink.connected_quiet (f := "PUBLISH %s %s".toList) (by decide +kernel) hfill (he hmsg)
    rw [if_neg (not_or.2 ⟨hlen, hmlen⟩), if_neg hmsg, hcommand, Option.map_some,
      redisReply.pointer_isNULL, hsent]
    rfl

theorem publish_command_out_nul :
    RedisSub.publish_command_out (fun _ _ => []) ⟨[], "OUT".toList, []⟩ "1 ok\x00".toList
        (.answering ["PUBLISH".toList, "OUT".toList, "1 ok".toList] (.integer 1)) =
      some (true, commandText ["PUBLISH".toList, "OUT".toList, "1 ok".toList]) :=
  publish_command_out_eq (fun _ _ => []) (List.cons_ne_nil _ _) fun _ =>
    RedisPeer.answering_served _ (.integer 1) (by decide +kernel) ⟨by decide, by decide⟩
      (by decide +kernel) (List.cons_ne_nil _ _)

end SiteOnYourDevice
