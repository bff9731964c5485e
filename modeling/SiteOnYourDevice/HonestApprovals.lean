import SiteOnYourDevice.BuiltFrames
import SiteOnYourDevice.CommandExchanges

namespace SiteOnYourDevice
open CString Sds
set_option relaxedAutoImplicit false
set_option autoImplicit true

/-- The status word of a written command, where the scan of the other side finds it. -/
def statusWord (data : Str) : Option Str :=
  match scanLine data with
  | .malformed _ => none
  | .command _ _ cmd _ => some (cmd.tail.takeWhile (· ≠ ' '))

/-- An approval, and the reason to fail of the branch that wrote it. -/
def Honest (data : Str) (cause : Option Str) : Prop :=
  statusWord data = some (if cause = none then SUCCESS_COMMAND else FAIL_COMMAND)

/-- The reason of the `ping` branch; `pong` itself may be any word. -/
def pongCause : List Str → Option Str
  | [] => some CAUSE_INVALID_ARGS
  | _ :: _ => none

namespace InnerServerHandlerHost

variable (net : NetTypes) (env : Env)

/-- The reasons of the approvals in the `who_are_you` branch: after one that could not be written
there is a second one. -/
def whoAreYouCauses (uauthstr : Str) (s : InnerServerHandlerHost) : List (Option Str) :=
  let uauth := (userAuthInfoOfString net (cstr uauthstr)).getD .empty
  if uauth.isValid net then
    if env.findUser uauth then
      match s.parent_.findInnerConnectionByHost uauth.host.host with
      | some _ => [some CAUSE_DOUBLE_CONNECTION_HOST]
      | none => none :: ((env.writeError s.writes.length).map some).toList
    else [some CAUSE_UNREGISTERED_USER]
  else [some CAUSE_INVALID_USER]

/-- The reasons of the approvals that the handler of the responses writes. -/
def responceCauses (argv : List Str) (s : InnerServerHandlerHost) : List (Option Str) :=
  match argv with
  | state_command :: command :: args =>
    if IS_EQUAL_COMMAND state_command SUCCESS_COMMAND then
      if IS_EQUAL_COMMAND command PING_COMMAND then [pongCause args]
      else if IS_EQUAL_COMMAND command SERVER_WHO_ARE_YOU_COMMAND then
        match args with
        | [] => [some CAUSE_INVALID_ARGS]
        | uauthstr :: _ => s.whoAreYouCauses net env uauthstr
      else []
    else []
  | _ => []

end InnerServerHandlerHost

/-- The reasons of the approvals of a device. -/
def InnerServerHandler.responceCauses : List Str → List (Option Str)
  | state_command :: command :: args =>
    if IS_EQUAL_COMMAND state_command SUCCESS_COMMAND then
      if IS_EQUAL_COMMAND command PING_COMMAND then [pongCause args] else []
    else []
  | _ => []

/-- One of the two sides, with what its handler of the responses gets beside the frame. -/
inductive Party (Url : Type)
  | device (env : DeviceEnv) (s : InnerServerHandler Url)
  | host (net : NetTypes) (env : Env) (c : ClientId) (s : InnerServerHandlerHost)

namespace Party

variable {Url : Type}

/-- What the handler of the responses writes. -/
def written (id : cmd_seq_t) (argv : List Str) : Party Url → List Str
  | device env s =>
    ((s.handleInnerResponceCommand env id argv).writes.drop s.writes.length).map Prod.fst
  | host net env c s =>
    ((s.handleInnerResponceCommand net env c id argv).writes.drop s.writes.length).map Written.data

def causes (argv : List Str) : Party Url → List (Option Str)
  | device _ _ => InnerServerHandler.responceCauses argv
  | host net env _ s => s.responceCauses net env argv

end Party

/-- A successful `ping` with nothing behind it. -/
def PongMissing : List Str → Prop
  | [state_command, command] =>
    IS_EQUAL_COMMAND state_command SUCCESS_COMMAND = true ∧
      IS_EQUAL_COMMAND command PING_COMMAND = true
  | _ => False

/-- An id that leaves room for the status word of an answer. -/
structure AnsweredId (id : cmd_seq_t) : Prop where
  plain : ' ' ∉ id
  nul_free : '\x00' ∉ id
  length : id.length + 8 ≤ MAX_COMMAND_SIZE - 1

variable {id : cmd_seq_t} {argv : List Str} {read CMD : Str}

/-- The words of a frame that was read leave little room to its id. -/
theorem frame_id_length (hread : read.length ≤ MAX_COMMAND_SIZE)
    (hf : frameOf read = some ⟨t, id, argv⟩) :
    id.length + argv.flatten.length + 3 ≤ MAX_COMMAND_SIZE ∧ ' ' ∉ id ∧ '\x00' ∉ id := by
  obtain ⟨cmd, b, hscan, hargv, _⟩ := frameOf_eq_some hf
  have hwords := sdssplitargs_length_le hargv
  rw [scanCommand] at hscan
  split at hscan
  · cases hscan
  rename_i line after hline
  obtain ⟨hcut, hend⟩ := strstr_eq_some hline
  obtain ⟨n, v, _, _, hl, hid, _, _⟩ := scanLine_eq_command hscan
  have hnul : '\x00' ∉ line := fun hm =>
    nul_not_mem_cstr read (hcut ▸ List.mem_append_left after hm)
  have hle : line.length + 2 ≤ read.length := by
    have hr := (List.takeWhile_prefix (p := (· ≠ '\x00')) (l := read)).length_le
    have ha := hend.length_le
    change (cstr read).length ≤ _ at hr
    rw [hcut, List.length_append] at hr
    change 2 ≤ _ at ha
    omega
  refine ⟨?_, hid, fun hm => hnul ?_⟩
  · rw [hl] at hle
    simp only [List.length_append, List.length_cons] at hle
    simp only at hwords
    omega
  · rw [hl]
    exact List.mem_append_left _ (List.mem_append_right _ (List.mem_cons_of_mem _ hm))

/-- The words of a command take up enough of the frame. -/
theorem AnsweredId.of_frame (hread : read.length ≤ MAX_COMMAND_SIZE)
    (hf : frameOf read = some ⟨t, id, argv⟩) (hw : 6 ≤ argv.flatten.length) : AnsweredId id := by
  obtain ⟨hl, hid, hnul⟩ := frame_id_length hread hf
  exact ⟨hid, hnul, Nat.le_sub_one_of_lt (by omega)⟩

/-- The words of a successful response are long enough. -/
theorem AnsweredId.of_responce {state command : Str} {args : List Str}
    (hread : read.length ≤ MAX_COMMAND_SIZE)
    (hf : frameOf read = some ⟨RESPONCE_COMMAND, id, state :: command :: args⟩)
    (hstate : IS_EQUAL_COMMAND state SUCCESS_COMMAND = true)
    (hcommand : IS_EQUAL_COMMAND command CMD = true) (hc : 4 ≤ CMD.length) : AnsweredId id := by
  have hs : 2 ≤ state.length := (List.isPrefixOf_iff_prefix.1 hstate).length_le
  have hm := (List.isPrefixOf_iff_prefix.1 hcommand).length_le
  apply AnsweredId.of_frame hread hf
  simp only [List.flatten_cons, List.length_append]
  omega

/-- The status word of an answer is never cut off. -/
theorem AnsweredId.statusWord (h : AnsweredId id) (ht : IsType t) (hw : ' ' ∉ w)
    (hn : '\x00' ∉ w) (hl : w.length ≤ 4) (rest : Str) :
    statusWord (buffText (CID_FMT t ++ ' ' :: id ++ ' ' :: w ++ ' ' :: rest)) = some w := by
  obtain ⟨d, hcid, hd, _⟩ := CID_FMT_type ht
  have hsplit : CID_FMT t ++ ' ' :: id ++ ' ' :: w ++ ' ' :: rest =
      (d :: ' ' :: id ++ ' ' :: w ++ [' ']) ++ rest := by
    simp [hcid]
  have hhead : '\x00' ∉ d :: ' ' :: id ++ ' ' :: w ++ [' '] := by
    have hne : '\x00' ≠ d := by
      rintro rfl
      cases hd
    simp [h.nul_free, hn, hne]
  have hlen : (d :: ' ' :: id ++ ' ' :: w ++ [' ']).length ≤ MAX_COMMAND_SIZE - 1 := by
    have hid := h.length
    simp only [List.length_append, List.length_cons, List.length_nil]
    omega
  rw [hsplit, buffText_append hhead hlen]
  generalize cstr (rest.take (MAX_COMMAND_SIZE - 1 -
    (d :: ' ' :: id ++ ' ' :: w ++ [' ']).length)) = stored
  have hscan := scanLine_digit hd h.plain (w ++ ' ' :: stored)
  have htext : d :: ' ' :: id ++ ' ' :: w ++ [' '] ++ stored =
      d :: ' ' :: id ++ ' ' :: (w ++ ' ' :: stored) := by
    simp
  rw [htext, SiteOnYourDevice.statusWord, hscan]
  have hall : ∀ c ∈ w, decide (c ≠ ' ') = true := by
    intro c hc
    exact decide_eq_true fun he => hw (he ▸ hc)
  simp only [List.tail_cons]
  rw [List.takeWhile_append_of_pos hall, List.takeWhile_cons_of_neg (by simp), List.append_nil]

theorem AnsweredId.statusWord_success (h : AnsweredId id) (ht : IsType t) (CMD CMD_FMT : Str) :
    SiteOnYourDevice.statusWord (buffText (GENEATATE_SUCCESS_FMT CMD CMD_FMT t id)) =
      some SUCCESS_COMMAND := by
  have hw := h.statusWord ht (w := SUCCESS_COMMAND) (by decide) (by decide) (by decide)
    (CMD ++ ' ' :: CMD_FMT ++ END_OF_COMMAND)
  rw [← hw]
  simp [GENEATATE_SUCCESS_FMT]

theorem AnsweredId.statusWord_fail (h : AnsweredId id) (ht : IsType t) (CMD CMD_FMT : Str) :
    SiteOnYourDevice.statusWord (buffText (GENEATATE_FAIL_FMT CMD CMD_FMT t id)) =
      some FAIL_COMMAND := by
  have hw := h.statusWord ht (w := FAIL_COMMAND) (by decide) (by decide) (by decide)
    (CMD ++ ' ' :: CMD_FMT ++ END_OF_COMMAND)
  rw [← hw]
  simp [GENEATATE_FAIL_FMT]

/-- What a branch without a reason writes is honest, and so is what one with a reason writes with
a format of a failure. -/
theorem AnsweredId.honest_success (h : AnsweredId id) (CMD CMD_FMT : Str) :
    Honest (make_approve_responce id (GENEATATE_SUCCESS_FMT CMD CMD_FMT)).cmd_ none :=
  h.statusWord_success (by decide) CMD CMD_FMT

theorem AnsweredId.honest_fail (h : AnsweredId id) (CMD CMD_FMT cause : Str) :
    Honest (make_approve_responce id (GENEATATE_FAIL_FMT CMD CMD_FMT)).cmd_ (some cause) :=
  h.statusWord_fail (by decide) CMD CMD_FMT

/-- The format for a failed `ping` is one of a success. -/
theorem AnsweredId.not_honest_ping (h : AnsweredId id) (s cause : Str) :
    ¬ Honest (make_approve_responce id (PING_COMMAND_APPROVE_FAIL_1S s)).cmd_ (some cause) := by
  intro hh
  rw [Honest, make_approve_responce, PING_COMMAND_APPROVE_FAIL_1S,
    h.statusWord_success (by decide), if_neg (by simp)] at hh
  have hne : SUCCESS_COMMAND ≠ FAIL_COMMAND := by decide
  exact hne (Option.some.inj hh)

/-- The approval of the `ping` branch. -/
def pongFmt : List Str → Fmt
  | [] => PING_COMMAND_APPROVE_FAIL_1S CAUSE_INVALID_ARGS
  | _ :: _ => PING_COMMAND_APPROVE_SUCCESS

theorem AnsweredId.honest_pong (h : AnsweredId id) (args : List Str) :
    Honest (make_approve_responce id (pongFmt args)).cmd_ (pongCause args) ↔ args ≠ [] := by
  cases args with
  | nil =>
    have hh := h.not_honest_ping CAUSE_INVALID_ARGS CAUSE_INVALID_ARGS
    exact iff_of_false hh (fun hn => hn rfl)
  | cons a args => exact iff_of_true (h.honest_success PING_COMMAND []) (List.cons_ne_nil a args)

variable {net : NetTypes} {env : Env} {c : ClientId} {s : InnerServerHandlerHost}

theorem InnerServerHandlerHost.handlePong_texts (args : List Str) :
    ((s.handlePong net env c id args).writes.drop s.writes.length).map Written.data =
      [(make_approve_responce id (pongFmt args)).cmd_] := by
  cases args with
  | nil => simp [handlePong, writeApprove, InnerServerHandlerHost.Write, pongFmt]
  | cons a args =>
    rw [handlePong, writeApprove, InnerServerHandlerHost.Write]
    cases env.writeError s.writes.length with
    | none => simp [pongFmt]
    | some err => simp [pongFmt]

theorem InnerServerHandlerHost.failWith_texts (fmt : Fmt) :
    ((s.failWith net env c id fmt).writes.drop s.writes.length).map Written.data =
      [(make_approve_responce id fmt).cmd_] := by
  simp [failWith, writeApprove, InnerServerHandlerHost.Write]

/-- Each approval of the `who_are_you` branch is honest. -/
theorem InnerServerHandlerHost.handleWhoAreYou_honest (h : AnsweredId id) (uauthstr : Str) :
    List.Forall₂ Honest
      (((s.handleWhoAreYou net env c id uauthstr).writes.drop s.writes.length).map Written.data)
      (s.whoAreYouCauses net env uauthstr) := by
  have hfail : ∀ cause, List.Forall₂ Honest
      [(make_approve_responce id (SERVER_WHO_ARE_YOU_COMMAND_APPROVE_FAIL_1S cause)).cmd_]
      [some cause] := fun cause => .cons (h.honest_fail _ _ cause) .nil
  simp only [handleWhoAreYou, whoAreYouCauses]
  generalize (userAuthInfoOfString net (cstr uauthstr)).getD .empty = uauth
  split
  · split
    · cases s.parent_.findInnerConnectionByHost uauth.host.host with
      | some fclient =>
        rw [failWith_texts]
        exact hfail _
      | none =>
        have hok := h.honest_success SERVER_WHO_ARE_YOU_COMMAND []
        simp only [writeApprove, InnerServerHandlerHost.Write]
        cases env.writeError s.writes.length with
        | none =>
          simp only [register, publish_clients_state, List.drop_left]
          exact .cons hok .nil
        | some err =>
          simp only [failWith, writeApprove, InnerServerHandlerHost.Write, closeClient_writes,
            List.append_assoc, List.drop_left]
          exact .cons hok (hfail err)
    · rw [failWith_texts]
      exact hfail _
  · rw [failWith_texts]
    exact hfail _

section parties

variable {Url : Type} {state command : Str} {args : List Str}

theorem pongMissing_iff (hstate : IS_EQUAL_COMMAND state SUCCESS_COMMAND = true)
    (hcommand : IS_EQUAL_COMMAND command PING_COMMAND = true) :
    PongMissing (state :: command :: args) ↔ args = [] := by
  cases args with
  | nil => exact iff_of_true ⟨hstate, hcommand⟩ rfl
  | cons a args => exact iff_of_false id (List.cons_ne_nil a args)

theorem not_pongMissing (h : ¬ (IS_EQUAL_COMMAND state SUCCESS_COMMAND = true ∧
    IS_EQUAL_COMMAND command PING_COMMAND = true)) :
    ¬ PongMissing (state :: command :: args) := by
  cases args with
  | nil => exact h
  | cons a args => exact id

theorem AnsweredId.forall₂_pong (h : AnsweredId id)
    (hstate : IS_EQUAL_COMMAND state SUCCESS_COMMAND = true)
    (hcommand : IS_EQUAL_COMMAND command PING_COMMAND = true) :
    List.Forall₂ Honest [(make_approve_responce id (pongFmt args)).cmd_] [pongCause args] ↔
      ¬ PongMissing (state :: command :: args) := by
  rw [List.forall₂_cons, h.honest_pong, pongMissing_iff hstate hcommand]
  exact and_iff_left .nil

/-- A frame that no branch answers: nothing is written, so there is nothing to be honest about. -/
theorem Party.honest_silent {party : Party Url} (hw : party.written id argv = [])
    (hc : party.causes argv = []) (hn : ¬ PongMissing argv) :
    List.Forall₂ Honest (party.written id argv) (party.causes argv) ↔ ¬ PongMissing argv := by
  rw [hw, hc]
  exact iff_of_true .nil hn

theorem Party.device_silent {env : DeviceEnv} {s : InnerServerHandler Url}
    (h : s.handleInnerResponceCommand env id argv = s) :
    (Party.device env s).written id argv = [] := by
  simp only [Party.written, h, List.drop_length, List.map_nil]

theorem Party.host_silent {s : InnerServerHandlerHost}
    (h : s.handleInnerResponceCommand net env c id argv = s) :
    (.host net env c s : Party Url).written id argv = [] := by
  simp only [Party.written, h, List.drop_length, List.map_nil]

theorem device_honest (env : DeviceEnv) (s : InnerServerHandler Url)
    (hread : read.length ≤ MAX_COMMAND_SIZE)
    (hf : frameOf read = some ⟨RESPONCE_COMMAND, id, argv⟩) :
    List.Forall₂ Honest ((Party.device env s).written id argv) ((Party.device env s).causes argv) ↔
      ¬ PongMissing argv := by
  cases argv with
  | nil => exact Party.honest_silent (Party.device_silent rfl) rfl not_false
  | cons state argv =>
    cases argv with
    | nil => exact Party.honest_silent (Party.device_silent rfl) rfl not_false
    | cons command args =>
      by_cases hping : IS_EQUAL_COMMAND state SUCCESS_COMMAND = true ∧
          IS_EQUAL_COMMAND command PING_COMMAND = true
      · have hid := AnsweredId.of_responce hread hf hping.1 hping.2 (by decide)
        have hw : (Party.device env s).written id (state :: command :: args) =
            [(make_approve_responce id (pongFmt args)).cmd_] := by
          cases args <;>
            simp [Party.written, InnerServerHandler.handleInnerResponceCommand, hping,
              InnerServerHandler.Write, pongFmt]
        have hc : (Party.device env s).causes (state :: command :: args) = [pongCause args] := by
          simp [Party.causes, InnerServerHandler.responceCauses, hping]
        rw [hw, hc]
        exact hid.forall₂_pong hping.1 hping.2
      · rw [not_and] at hping
        apply Party.honest_silent (Party.device_silent _) _ (not_pongMissing (not_and.2 hping))
        · simp only [InnerServerHandler.handleInnerResponceCommand]
          split
          · rename_i hstate
            rw [if_neg (hping hstate)]
          · rfl
        · simp only [Party.causes, InnerServerHandler.responceCauses]
          split
          · rename_i hstate
            rw [if_neg (hping hstate)]
          · rfl

theorem host_honest (net : NetTypes) (env : Env) (c : ClientId) (s : InnerServerHandlerHost)
    (hread : read.length ≤ MAX_COMMAND_SIZE)
    (hf : frameOf read = some ⟨RESPONCE_COMMAND, id, argv⟩) :
    List.Forall₂ Honest ((.host net env c s : Party Url).written id argv)
        ((.host net env c s : Party Url).causes argv) ↔
      ¬ PongMissing argv := by
  cases argv with
  | nil => exact Party.honest_silent (Party.host_silent rfl) rfl not_false
  | cons state argv =>
    cases argv with
    | nil => exact Party.honest_silent (Party.host_silent rfl) rfl not_false
    | cons command args =>
      by_cases hstate : IS_EQUAL_COMMAND state SUCCESS_COMMAND = true
      · by_cases hping : IS_EQUAL_COMMAND command PING_COMMAND = true
        · have hid := AnsweredId.of_responce hread hf hstate hping (by decide)
          simp only [Party.written, Party.causes, InnerServerHandlerHost.responceCauses,
            InnerServerHandlerHost.handleInnerResponceCommand, if_pos hstate, if_pos hping,
            InnerServerHandlerHost.handlePong_texts]
          exact hid.forall₂_pong hstate hping
        · have hn : ¬ PongMissing (state :: command :: args) :=
            not_pongMissing fun h => hping h.2
          by_cases hwho : IS_EQUAL_COMMAND command SERVER_WHO_ARE_YOU_COMMAND = true
          · have hid := AnsweredId.of_responce hread hf hstate hwho (by decide)
            refine iff_of_true ?_ hn
            simp only [Party.written, Party.causes, InnerServerHandlerHost.responceCauses,
              InnerServerHandlerHost.handleInnerResponceCommand, if_pos hstate, if_neg hping,
              if_pos hwho]
            cases args with
            | nil =>
              simp only [InnerServerHandlerHost.writeApprove, InnerServerHandlerHost.Write,
                List.drop_left]
              exact .cons (hid.honest_fail _ _ _) .nil
            | cons uauthstr args =>
              exact InnerServerHandlerHost.handleWhoAreYou_honest hid uauthstr
          · apply Party.honest_silent (Party.host_silent _) _ hn
            · simp only [InnerServerHandlerHost.handleInnerResponceCommand, if_neg hping,
                if_neg hwho, ite_self]
            · simp only [Party.causes, InnerServerHandlerHost.responceCauses, if_neg hping,
                if_neg hwho, ite_self]
      · apply Party.honest_silent (Party.host_silent _) _ (not_pongMissing fun h => hstate h.1)
        · simp only [InnerServerHandlerHost.handleInnerResponceCommand, if_neg hstate]
        · simp only [Party.causes, InnerServerHandlerHost.responceCauses, if_neg hstate]

/-- Approvals tell the truth, on both sides and for every frame that is read as a response, but for
a successful `ping` with nothing behind it. -/
theorem honest_approvals_iff (party : Party Url) (hread : read.length ≤ MAX_COMMAND_SIZE)
    (hf : frameOf read = some ⟨RESPONCE_COMMAND, id, argv⟩) :
    List.Forall₂ Honest (party.written id argv) (party.causes argv) ↔ ¬ PongMissing argv := by
  cases party with
  | device env s => exact device_honest env s hread hf
  | host net env c s => exact host_honest net env c s hread hf

theorem honest_approvals_iff_pong :
    List.Forall₂ Honest
        ((.host .plain .calm 0 .init : Party Unit).written "7".toList
          ["ok".toList, "ping".toList, "pong".toList])
        ((.host .plain .calm 0 .init : Party Unit).causes
          ["ok".toList, "ping".toList, "pong".toList]) ↔
      ¬ PongMissing ["ok".toList, "ping".toList, "pong".toList] :=
  honest_approvals_iff _ (by decide : "1 7 ok ping pong\r\n".toList.length ≤ MAX_COMMAND_SIZE)
    (by decide +kernel)

/-- A host calls the response `ok ping` invalid, with an approval of a success. -/
theorem not_honest_ok_ping :
    ¬ List.Forall₂ Honest
      ((.host .plain .calm 0 .init : Party Unit).written "7".toList
        ["ok".toList, "ping".toList])
      ((.host .plain .calm 0 .init : Party Unit).causes ["ok".toList, "ping".toList]) := by
  intro h
  have hread : frameOf "1 7 ok ping\r\n".toList =
      some ⟨RESPONCE_COMMAND, "7".toList, ["ok".toList, "ping".toList]⟩ := by decide +kernel
  have hlen : "1 7 ok ping\r\n".toList.length ≤ MAX_COMMAND_SIZE := by decide +kernel
  exact (host_honest .plain .calm 0 .init hlen hread).1 h
    ⟨by decide, by decide⟩

end parties

end SiteOnYourDevice
