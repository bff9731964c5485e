import SiteOnYourDevice.DeviceConfiguration
import SiteOnYourDevice.InnerServerHandlerHost
import Mathlib.Logic.Function.Basic
import Mathlib.Algebra.BigOperators.Group.List.Basic
import Mathlib.Algebra.GroupWithZero.Nat

namespace SiteOnYourDevice
open CString Sds JsonC Transition
set_option relaxedAutoImplicit false
set_option autoImplicit true

instance (commands argv : List Str) : Decidable (Knows commands argv) :=
  match argv with
  | [] => isFalse nofun
  | command :: _ => inferInstanceAs (Decidable (∃ k ∈ commands, IS_EQUAL_COMMAND command k = true))

/-- The commands that are answered at all. -/
def Command.CallsForAnswer (c : Command) : Prop :=
  c.seq = REQUEST_COMMAND ∨ c.seq = RESPONCE_COMMAND ∧ Knows [SUCCESS_COMMAND] c.argv

/-- What the handler of `c` may send: at most one command, with the id of `c` and the next type,
and to an approval nothing. -/
structure Command.Climbs (c : Command) (sent : List Str) : Prop where
  atMostOne : sent.length ≤ 1
  commands : ∀ data ∈ sent, IsCommandText (c.seq + 1) c.id data
  silent : ¬ c.CallsForAnswer → sent = []

/-- What was sent from one state to the next: the writes that succeeded. -/
def InnerServerHandlerHost.sent (s s' : InnerServerHandlerHost) : List Written :=
  (s'.writes.drop s.writes.length).filter (·.error = none)

def InnerServerHandler.sent {Url : Type} (s s' : InnerServerHandler Url) : List Str :=
  ((s'.writes.drop s.writes.length).filter (·.2 = none)).map (·.1)

/-- A text on its way over the connection `c` of a device and the host. -/
inductive Sent
  | toHost (c : ClientId) (data : Str)
  | toDevice (c : ClientId) (data : Str)

def Sent.data : Sent → Str
  | toHost _ data | toDevice _ data => data

/-- The host and the devices at its connections, `none` for one whose process is gone; the texts
on their way, and the number of frames that a handler was called with. -/
structure Conversation (Url : Type) where
  host : InnerServerHandlerHost
  devices : ClientId → Option (InnerServerHandler Url)
  flight : List Sent
  handled : Nat

/-- The `i`-th text on its way is read. -/
structure Delivery where
  i : Nat
  env : Env
  device : DeviceEnv

/-- The number of frames in a read, 0 or 1. -/
def frames (read : Str) : Nat := (frameOf read).toList.length

namespace Conversation
variable {Url : Type} (net : NetTypes) (types : CommonTypes Url) (json : Texts)

/-- The `i`-th text has been read, and `sent` is on its way. -/
def deliver (i : Nat) (data : Str) (sent : List Sent) (s : Conversation Url) : Conversation Url :=
  { s with flight := s.flight.eraseIdx i ++ sent, handled := s.handled + frames data }

def step (s : Conversation Url) (e : Delivery) : Option (Conversation Url) :=
  match s.flight[e.i]? with
  | none => none
  | some (.toHost c data) =>
    if (s.host.parent_.clients c).isSome then
      let host := (InnerServerHandlerHost.seqParser net e.env c).DataReceived data s.host
      some ({ s with host }.deliver e.i data
        ((s.host.sent host).map fun (w : Written) => .toDevice w.client w.data))
    else none
  | some (.toDevice c data) =>
    (s.devices c).bind fun h =>
      if h.inner_connection_ then
        let device := (InnerServerHandler.seqParser types json e.device).DataReceived data (some h)
        some ({ s with devices := Function.update s.devices c device }.deliver e.i data
          ((device.toList.flatMap fun h' => h.sent h').map (.toHost c)))
      else none

end Conversation

theorem Command.climbs_nil (c : Command) : c.Climbs [] := ⟨Nat.zero_le 1, nofun, fun _ => rfl⟩

theorem InnerServerHandlerHost.sent_of_writes {s s' : InnerServerHandlerHost} {w : List Written}
    (h : s'.writes = s.writes ++ w) : s.sent s' = w.filter (·.error = none) := by
  rw [sent, h, List.drop_left]

theorem InnerServerHandler.sent_of_writes {Url : Type} {s s' : InnerServerHandler Url}
    {w : List (Str × Option Str)} (h : s'.writes = s.writes ++ w) :
    s.sent s' = (w.filter (·.2 = none)).map (·.1) := by
  rw [sent, h, List.drop_left]

namespace InnerServerHandlerHost
variable {net : NetTypes} {env : Env} {s s' t : InnerServerHandlerHost} {c : ClientId}
  {id : cmd_seq_t} {fmt : Fmt} {P : Str → Prop}

/-- What a call writes goes to the connection `c` and meets `P`, and one write at most succeeds. -/
def Writes (c : ClientId) (P : Str → Prop) (s s' : InnerServerHandlerHost) : Prop :=
  ∃ ws, s'.writes = s.writes ++ ws ∧ (∀ w ∈ ws, w.client = c ∧ P w.data) ∧
    (ws.filter (·.error = none)).length ≤ 1

theorem Writes.of_eq (h : s'.writes = s.writes) : Writes c P s s' :=
  ⟨[], by rw [h, List.append_nil], nofun, Nat.zero_le 1⟩

theorem Writes.write {data : Str} (h : P data) : Writes c P s (s.Write env c data).2 := by
  refine ⟨[⟨c, data, env.writeError s.writes.length⟩], rfl, ?_, ?_⟩
  · intro w hw
    obtain rfl := List.mem_singleton.1 hw
    exact ⟨rfl, h⟩
  · exact List.length_filter_le _ _

theorem Writes.then_eq (h : Writes c P s t) (ht : s'.writes = t.writes) : Writes c P s s' := by
  obtain ⟨ws, hws, h⟩ := h
  exact ⟨ws, ht.trans hws, h⟩

@[simp] theorem closeClient_writes : (s.closeClient net c).writes = s.writes := by
  simp only [closeClient]
  split
  · rfl
  · split <;> rfl

theorem failWith_writes (hf : Framed fmt) :
    Writes c (IsCommandText APPROVE_COMMAND id) s (s.failWith net env c id fmt) :=
  (Writes.write (hf.make_approve_responce id)).then_eq closeClient_writes

theorem handlePong_writes (args : List Str) :
    Writes c (IsCommandText APPROVE_COMMAND id) s (s.handlePong net env c id args) := by
  fun_cases handlePong net env c id args s with
  | case1 => exact .write ((framed_success _ _).make_approve_responce id)
  | case2 pong args err t ht =>
    obtain rfl : _ = t := congrArg Prod.snd ht
    exact (Writes.write ((framed_success _ _).make_approve_responce id)).then_eq
      closeClient_writes
  | case3 pong args t ht =>
    obtain rfl : _ = t := congrArg Prod.snd ht
    exact .write ((framed_success _ _).make_approve_responce id)

theorem handleWhoAreYou_writes (uauthstr : Str) :
    Writes c (IsCommandText APPROVE_COMMAND id) s (s.handleWhoAreYou net env c id uauthstr) := by
  have hfail : ∀ cause, Writes c (IsCommandText APPROVE_COMMAND id) s
      (s.failWith net env c id (SERVER_WHO_ARE_YOU_COMMAND_APPROVE_FAIL_1S cause)) :=
    fun cause => failWith_writes (framed_fail _ _)
  fun_cases handleWhoAreYou net env c id uauthstr s with
  | case1 | case4 | case5 => exact hfail _
  | case2 uauth _ _ _ err t ht =>
    -- the second approval is written because the first one failed
    obtain ⟨herr, rfl⟩ := Prod.mk.inj ht
    refine ⟨_, by rw [failWith, closeClient_writes]; exact List.append_assoc _ [_] [_], ?_, ?_⟩
    · intro w hw
      obtain rfl | hw := List.mem_cons.1 hw
      · exact ⟨rfl, (framed_success _ _).make_approve_responce id⟩
      · obtain rfl := List.mem_singleton.1 hw
        exact ⟨rfl, (framed_fail _ _).make_approve_responce id⟩
    · rw [List.singleton_append, List.filter_cons_of_neg (by simp [herr])]
      exact List.length_filter_le _ _
  | case3 uauth _ _ _ t ht =>
    obtain rfl : _ = t := congrArg Prod.snd ht
    exact (Writes.write ((framed_success _ _).make_approve_responce id)).then_eq rfl

theorem handleInnerResponceCommand_writes (argv : List Str) :
    Writes c (IsCommandText APPROVE_COMMAND id) s
      (s.handleInnerResponceCommand net env c id argv) := by
  fun_cases handleInnerResponceCommand net env c id argv s with
  | case1 state command args => exact handlePong_writes args
  | case2 => exact .write ((framed_fail _ _).make_approve_responce id)
  | case3 state command _ _ _ uauthstr => exact handleWhoAreYou_writes uauthstr
  | case4 | case5 | case6 => exact .of_eq rfl

theorem handleInnerResponceCommand_silent {argv : List Str}
    (h : ¬ Knows [SUCCESS_COMMAND] argv) : s.handleInnerResponceCommand net env c id argv = s := by
  match argv with
  | [] | [_] => rfl
  | state :: command :: args =>
    exact if_neg fun hs => h ⟨SUCCESS_COMMAND, List.mem_singleton_self _, hs⟩

theorem handleInnerRequestCommand_writes (argv : List Str) :
    Writes c (IsCommandText RESPONCE_COMMAND id) s
      (s.handleInnerRequestCommand env c id argv) := by
  fun_cases handleInnerRequestCommand env c id argv s with
  | case1 | case3 => exact .of_eq rfl
  | case2 => exact .write ((framed_success _ _).make_responce id)

/-- The requests that the host has a branch for. -/
def commands : List Str := [PING_COMMAND]

theorem handleInnerRequestCommand_answers {argv : List Str} (hk : Knows commands argv)
    (hw : ∀ n, env.writeError n = none) :
    (s.sent (s.handleInnerRequestCommand env c id argv)).length = 1 := by
  match argv with
  | command :: args =>
    obtain ⟨k, hk, h⟩ := hk
    obtain rfl := List.mem_singleton.1 hk
    rw [handleInnerRequestCommand, if_pos h, sent_of_writes (w := [_]) rfl,
      List.filter_cons_of_pos (by simp [hw])]
    rfl

theorem callHandler_writes (command : Command) :
    Writes c (IsCommandText (command.seq + 1) command.id) s
      ((seqParser net env c).callHandler command s) := by
  rw [InnerServerCommandSeqParser.callHandler]
  split
  · rename_i hseq
    rw [hseq]
    exact handleInnerRequestCommand_writes command.argv
  split
  · rename_i hseq
    rw [hseq]
    exact handleInnerResponceCommand_writes command.argv
  split
  · exact .of_eq rfl
  · exact .of_eq rfl

theorem callHandler_silent {command : Command} (h : ¬ command.CallsForAnswer) :
    (seqParser net env c).callHandler command s = s := by
  obtain ⟨hreq, hresp⟩ := not_or.1 h
  rw [InnerServerCommandSeqParser.callHandler, if_neg hreq]
  split
  · rename_i hseq
    exact handleInnerResponceCommand_silent fun hk => hresp ⟨hseq, hk⟩
  split
  · rfl
  · rfl

theorem callHandler_climbs (command : Command) :
    command.Climbs ((s.sent ((seqParser net env c).callHandler command s)).map (·.data)) := by
  obtain ⟨ws, hws, hP, hone⟩ : Writes c _ s ((seqParser net env c).callHandler command s) :=
    callHandler_writes command
  rw [sent_of_writes hws]
  refine ⟨by rw [List.length_map]; exact hone, ?_, ?_⟩
  · intro data hd
    obtain ⟨w, hw, rfl⟩ := List.mem_map.1 hd
    exact (hP w (List.mem_of_mem_filter hw)).2
  · intro hn
    rw [callHandler_silent hn] at hws
    rw [List.append_right_eq_self.1 hws.symm]
    rfl

end InnerServerHandlerHost

namespace InnerServerHandler
variable {Url : Type} {types : CommonTypes Url} {json : Texts} {env : DeviceEnv}
  {s s' : InnerServerHandler Url} {id : cmd_seq_t}

theorem sent_of_write {data : Str}
    (h : s'.writes = s.writes ++ [(data, env.writeError s.writes.length)]) :
    s.sent s' = if env.writeError s.writes.length = none then [data] else [] := by
  rw [sent_of_writes h]
  split
  · rename_i he
    rw [List.filter_cons_of_pos (by simp [he])]
    rfl
  · rename_i he
    rw [List.filter_cons_of_neg (by simp [he])]
    rfl

theorem sent_self : s.sent s = [] := sent_of_writes (List.append_nil _).symm

/-- A device answers a request of its own with one response, and nothing else at all. -/
theorem handleInnerRequestCommand_sent {argv : List Str}
    (h : s.handleInnerRequestCommand types json env id argv = some s') :
    (s.sent s').length ≤ 1 ∧ (∀ data ∈ s.sent s', IsCommandText RESPONCE_COMMAND id data) ∧
      (Knows commands argv → (∀ n, env.writeError n = none) → (s.sent s').length = 1) := by
  have hr : Requested json env id argv s (s.handleInnerRequestCommand types json env id argv) :=
    handleInnerRequestCommand_requested
  rw [h] at hr
  cases hr with
  | unknown hk =>
    rw [sent_self]
    exact ⟨Nat.zero_le 1, nofun, fun h => absurd h hk⟩
  | answered fmt events hk hn he ha =>
    rw [sent_of_write ha.writes]
    split
    · refine ⟨le_rfl, ?_, fun _ _ => rfl⟩
      intro data hd
      obtain rfl := List.mem_singleton.1 hd
      exact ha.framed.make_responce id
    · rename_i herr
      exact ⟨Nat.zero_le 1, nofun, fun _ hw => absurd (hw _) herr⟩

theorem climbs_write {command : Command} {data : Str} (hc : command.CallsForAnswer)
    (hd : IsCommandText (command.seq + 1) command.id data) :
    command.Climbs (s.sent (s.Write env data).2) := by
  have hw : (s.Write env data).2.writes = s.writes ++ [(data, env.writeError s.writes.length)] :=
    rfl
  rw [sent_of_write hw]
  split
  · refine ⟨le_rfl, ?_, fun hn => absurd hc hn⟩
    intro data' hd'
    obtain rfl := List.mem_singleton.1 hd'
    exact hd
  · exact command.climbs_nil

theorem handleInnerResponceCommand_climbs (argv : List Str) :
    Command.Climbs ⟨RESPONCE_COMMAND, id, argv⟩
      (s.sent (s.handleInnerResponceCommand env id argv)) := by
  have hanswer : ∀ fmt argv, Framed fmt → Knows [SUCCESS_COMMAND] argv →
      Command.Climbs ⟨RESPONCE_COMMAND, id, argv⟩
        (s.sent (s.Write env (make_approve_responce id fmt).cmd_).2) :=
    fun fmt argv hf hk => climbs_write (.inr ⟨rfl, hk⟩) (hf.make_approve_responce id)
  fun_cases handleInnerResponceCommand env id argv s with
  | case1 state command hok =>
    exact hanswer _ _ (framed_success _ _) ⟨SUCCESS_COMMAND, List.mem_singleton_self _, hok⟩
  | case2 state command hok =>
    exact hanswer _ _ (framed_success _ _) ⟨SUCCESS_COMMAND, List.mem_singleton_self _, hok⟩
  | case3 | case4 | case5 =>
    rw [sent_self]
    exact Command.climbs_nil _

theorem handleInnerApproveCommand_writes (argv : List Str) :
    (s.handleInnerApproveCommand id argv).writes = s.writes := by
  fun_cases handleInnerApproveCommand id argv s <;> rfl

theorem callHandler_climbs {command : Command}
    (h : (seqParser types json env).callHandler command (some s) = some s') :
    command.Climbs (s.sent s') := by
  obtain ⟨seq, id, argv⟩ := command
  rw [InnerServerCommandSeqParser.callHandler] at h
  split at h
  · rename_i hseq
    obtain rfl : seq = REQUEST_COMMAND := hseq
    obtain ⟨hone, hdata, _⟩ := handleInnerRequestCommand_sent h
    exact ⟨hone, hdata, fun hn => absurd (.inl rfl) hn⟩
  split at h
  · rename_i hseq
    obtain rfl : seq = RESPONCE_COMMAND := hseq
    cases h
    exact handleInnerResponceCommand_climbs argv
  split at h
  · cases h
    rw [sent_of_writes (w := [])]
    · exact Command.climbs_nil _
    · rw [List.append_nil]
      exact handleInnerApproveCommand_writes argv
  · cases h
    rw [sent_self]
    exact Command.climbs_nil _

end InnerServerHandler

instance (c : Command) : Decidable c.CallsForAnswer := inferInstanceAs (Decidable (_ ∨ _))

/-- The frames that may yet be handled for a command, itself included. -/
def Command.weight (c : Command) : Nat :=
  if c.seq = REQUEST_COMMAND then 3 else if c.CallsForAnswer then 2 else 1

/-- A text that is no frame is refused, which costs one frame more. -/
def textWeight (data : Str) : Nat := ((frameOf data).map Command.weight).getD 1

theorem Command.weight_le (c : Command) (h : c.seq ≠ REQUEST_COMMAND) : c.weight ≤ 2 := by
  rw [Command.weight, if_neg h]
  split <;> omega

theorem Command.weight_pos (c : Command) : 1 ≤ c.weight := by
  rw [Command.weight]
  split
  · omega
  · split <;> omega

theorem IsCommandText.weight_le {id : cmd_seq_t} {data : Str} (h : IsCommandText t id data)
    (ht : IsType t) (hid : ' ' ∉ id) (hk : 1 ≤ k) (hc : ∀ argv, Command.weight ⟨t, id, argv⟩ ≤ k) :
    textWeight data ≤ k := by
  obtain ⟨rest, rfl⟩ := h
  rw [textWeight]
  cases hf : frameOf (buffText (CID_FMT t ++ ' ' :: id ++ ' ' :: rest)) with
  | none => exact hk
  | some c =>
    obtain ⟨cmd, b, hscan, _, _⟩ := frameOf_eq_some hf
    obtain ⟨hseq, hid', _⟩ := scanCommand_buffText ht hid hscan
    obtain ⟨seq, id', argv⟩ := c
    obtain rfl : seq = t := hseq
    obtain rfl : id' = id := hid'
    exact hc argv

/-- A refusal is a response of a failure, which is not answered. -/
theorem textWeight_refusal {id : cmd_seq_t} (hid : ' ' ∉ id) (buff : Str) :
    textWeight (make_responce id (STATE_COMMAND_RESP_FAIL_1S buff)).cmd_ ≤ 1 := by
  obtain ⟨p, hp⟩ : ∃ p, STATE_COMMAND_RESP_FAIL_1S buff RESPONCE_COMMAND id =
      CID_FMT RESPONCE_COMMAND ++ ' ' :: id ++ ' ' :: 'f' :: p := by
    simp only [STATE_COMMAND_RESP_FAIL_1S, GENEATATE_FAIL_FMT, List.append_assoc, List.cons_append]
    exact ⟨_, rfl⟩
  rw [make_responce, hp, textWeight]
  cases hf : frameOf (buffText (CID_FMT RESPONCE_COMMAND ++ ' ' :: id ++ ' ' :: 'f' :: p)) with
  | none => exact le_rfl
  | some c =>
    obtain ⟨cmd, b, hscan, hargv, _⟩ := frameOf_eq_some hf
    obtain ⟨hseq, _, hcmd⟩ := scanCommand_buffText (.inr (.inl rfl)) hid hscan
    have hn : ¬ c.CallsForAnswer := by
      rintro (hreq | ⟨_, hk⟩)
      · rw [hseq] at hreq
        cases hreq
      obtain ⟨seq, id', argv⟩ := c
      cases argv with
      | nil => exact hk.elim
      | cons w ws =>
        obtain ⟨k, hk, hok⟩ := hk
        obtain rfl := List.mem_singleton.1 hk
        have hf : ['f'] <+: w := sdssplitargs_first rfl (by decide) (by decide) hcmd hargv
        have ho : ['o'] <+: w :=
          List.IsPrefix.trans ⟨['k'], rfl⟩ (List.isPrefixOf_iff_prefix.1 hok)
        have hfo := List.prefix_of_prefix_length_le hf ho le_rfl
        exact absurd hfo (by decide)
    have hreq : c.seq ≠ REQUEST_COMMAND := fun h => hn (.inl h)
    rw [Option.map_some, Option.getD_some, Command.weight, if_neg hreq, if_neg hn]

theorem sum_weights_le {texts : List Str} (hone : texts.length ≤ 1)
    (h : ∀ data ∈ texts, textWeight data ≤ k) : (texts.map textWeight).sum ≤ k := by
  match texts with
  | [] => exact Nat.zero_le k
  | [data] =>
    rw [List.map_singleton, List.sum_singleton]
    exact h data (List.mem_singleton_self _)

/-- The weight of a command pays for its handling and for what is sent then. -/
theorem Command.Climbs.weights_le {c : Command} {texts : List Str} (h : c.Climbs texts)
    (hid : ' ' ∉ c.id) : (texts.map textWeight).sum + 1 ≤ c.weight := by
  by_cases hc : c.CallsForAnswer
  · obtain hseq | ⟨hseq, hk⟩ := hc
    · have hle : (texts.map textWeight).sum ≤ 2 := by
        apply sum_weights_le h.atMostOne
        intro data hd
        have ht := h.commands data hd
        rw [hseq] at ht
        have hne : RESPONCE_COMMAND ≠ REQUEST_COMMAND := by decide
        exact ht.weight_le (t := RESPONCE_COMMAND) (.inr (.inl rfl)) hid (by decide) fun argv =>
          Command.weight_le _ hne
      rw [Command.weight, if_pos hseq]
      omega
    · have hle : (texts.map textWeight).sum ≤ 1 := by
        apply sum_weights_le h.atMostOne
        intro data hd
        have ht := h.commands data hd
        rw [hseq] at ht
        apply ht.weight_le (t := APPROVE_COMMAND) (.inr (.inr rfl)) hid le_rfl
        intro argv
        have hne : APPROVE_COMMAND ≠ REQUEST_COMMAND := by decide
        rw [Command.weight, if_neg hne, if_neg]
        rintro (hr | ⟨hr, _⟩) <;> cases hr
      have hreq : c.seq ≠ REQUEST_COMMAND := by
        rw [hseq]
        decide
      rw [Command.weight, if_neg hreq, if_pos (.inr ⟨hseq, hk⟩)]
      omega
  · rw [h.silent hc]
    exact c.weight_pos

/-- Reading `read` has been paid for by its weight, with the texts that are sent then. -/
def Paid (read : Str) (texts : List Str) : Prop :=
  frames read + (texts.map textWeight).sum ≤ textWeight read

theorem paid_of_frame {read : Str} {c : Command} {texts : List Str} (hf : frameOf read = some c)
    (h : c.Climbs texts) : Paid read texts := by
  obtain ⟨cmd, b, hscan, _, _⟩ := frameOf_eq_some hf
  have hle := h.weights_le (scanCommand_id_plain hscan)
  have hframes : frames read = 1 := by rw [frames, hf]; rfl
  have hweight : textWeight read = c.weight := by rw [textWeight, hf]; rfl
  rw [Paid, hframes, hweight]
  omega

theorem paid_of_no_frame {read : Str} {texts : List Str} (hf : frameOf read = none)
    (hone : texts.length ≤ 1) (h : ∀ data ∈ texts, textWeight data ≤ 1) : Paid read texts := by
  have hle := sum_weights_le hone h
  have hframes : frames read = 0 := by rw [frames, hf]; rfl
  have hweight : textWeight read = 1 := by rw [textWeight, hf]; rfl
  rw [Paid, hframes, hweight]
  omega

theorem paid_nil (read : Str) : Paid read [] := by
  cases hf : frameOf read with
  | none => exact paid_of_no_frame hf (Nat.zero_le 1) nofun
  | some c => exact paid_of_frame hf c.climbs_nil

theorem Command.CallsForAnswer.isType {c : Command} (h : c.CallsForAnswer) : IsType c.seq := by
  obtain h | ⟨h, _⟩ := h
  · exact .inl h
  · exact .inr (.inl h)

namespace InnerServerHandlerHost
variable {net : NetTypes} {env : Env} {s s' t : InnerServerHandlerHost} {c : ClientId}

theorem refuse_writes {id : cmd_seq_t} (hid : ' ' ∉ id) (buff : Str) :
    Writes c (fun data => textWeight data ≤ 1) s ((seqParser net env c).refuse id buff s) :=
  (Writes.write (textWeight_refusal hid buff)).then_eq closeClient_writes

/-- What is written over the connection `c` after a read has been paid for. -/
def PaidTo (c : ClientId) (read : Str) (s s' : InnerServerHandlerHost) : Prop :=
  (∀ w ∈ s.sent s', w.client = c) ∧ Paid read ((s.sent s').map (·.data))

theorem Writes.sent_client {P : Str → Prop} (h : Writes c P s s') : ∀ w ∈ s.sent s', w.client = c := by
  obtain ⟨ws, hws, hP, _⟩ := h
  rw [sent_of_writes hws]
  intro w hw
  exact (hP w (List.mem_of_mem_filter hw)).1

theorem Writes.paid {read : Str} (h : Writes c (fun data => textWeight data ≤ 1) s s')
    (hf : frameOf read = none) : PaidTo c read s s' := by
  refine ⟨h.sent_client, ?_⟩
  obtain ⟨ws, hws, hP, hone⟩ := h
  rw [sent_of_writes hws]
  apply paid_of_no_frame hf
  · rw [List.length_map]
    exact hone
  · intro data hd
    obtain ⟨w, hw, rfl⟩ := List.mem_map.1 hd
    exact (hP w (List.mem_of_mem_filter hw)).2

theorem PaidTo.of_eq {read : Str} (h : PaidTo c read t s') (ht : t.writes = s.writes) :
    PaidTo c read s s' := by
  have hs : s.sent s' = t.sent s' := by
    rw [sent, sent, ht]
  rw [PaidTo, hs]
  exact h

theorem DataReceived_paid (net : NetTypes) (env : Env) (c : ClientId) (read : Str)
    (s : InnerServerHandlerHost) :
    PaidTo c read s ((seqParser net env c).DataReceived read s) := by
  by_cases hr : read = []
  · subst hr
    exact Writes.paid (.of_eq closeClient_writes) rfl
  rw [InnerServerCommandSeqParser.DataReceived, if_neg hr]
  cases hscan : scanCommand read with
  | malformed buff =>
    rw [InnerServerCommandSeqParser.handleInnerDataReceived_malformed hscan]
    exact ((refuse_writes (hexEncode_plain _) buff).paid (frameOf_malformed hscan)).of_eq rfl
  | command seq id cmd buff =>
    have hf := frameOf_command hscan
    cases hargv : sdssplitargs cmd with
    | none =>
      rw [hargv] at hf
      simp only [InnerServerCommandSeqParser.handleInnerDataReceived, hscan, hargv]
      exact ((refuse_writes (scanCommand_id_plain hscan) buff).paid hf).of_eq
        processRequest_writes
    | some argv =>
      rw [hargv, Option.bind_some] at hf
      rw [InnerServerCommandSeqParser.handleInnerDataReceived_command hscan hargv]
      have hp : (s.processRequest id (some argv)).writes = s.writes := processRequest_writes
      apply PaidTo.of_eq _ hp
      by_cases ht : IsType seq
      · rw [if_pos ht] at hf
        exact ⟨(callHandler_writes _).sent_client, paid_of_frame hf (callHandler_climbs _)⟩
      · rw [if_neg ht] at hf
        have hn : ¬ Command.CallsForAnswer ⟨seq, id, argv⟩ := fun h => ht h.isType
        apply Writes.paid _ hf
        exact .of_eq (congrArg _ (callHandler_silent hn))

end InnerServerHandlerHost

namespace InnerServerHandler
variable {Url : Type} {types : CommonTypes Url} {json : Texts} {env : DeviceEnv}
  {s s' : InnerServerHandler Url}

theorem Close_writes : s.Close.writes = s.writes := by
  rw [Close]
  split <;> rfl

variable (env) in
/-- A refusal by a device; `next_id` may come before it. -/
theorem refuse_paid {read : Str} {id : cmd_seq_t} (hid : ' ' ∉ id) (buff : Str)
    (hf : frameOf read = none) (h : s'.writes = (s.Write env
      (make_responce id (STATE_COMMAND_RESP_FAIL_1S buff)).cmd_).2.writes) :
    Paid read (s.sent s') := by
  rw [sent_of_write h]
  split
  · apply paid_of_no_frame hf le_rfl
    intro data hd
    obtain rfl := List.mem_singleton.1 hd
    exact textWeight_refusal hid buff
  · exact paid_of_no_frame hf (Nat.zero_le 1) nofun

theorem DataReceived_paid {read : Str}
    (h : (seqParser types json env).DataReceived read (some s) = some s') :
    Paid read (s.sent s') := by
  by_cases hr : read = []
  · subst hr
    obtain rfl : s.Close = s' := Option.some.inj h
    rw [sent_of_writes (w := []) (by rw [Close_writes, List.append_nil])]
    exact paid_of_no_frame rfl (Nat.zero_le 1) (List.forall_mem_nil _)
  rw [InnerServerCommandSeqParser.DataReceived, if_neg hr] at h
  cases hscan : scanCommand read with
  | malformed buff =>
    rw [InnerServerCommandSeqParser.handleInnerDataReceived_malformed hscan] at h
    obtain rfl := Option.some.inj h
    exact refuse_paid env (hexEncode_plain _) buff (frameOf_malformed hscan) Close_writes
  | command seq id cmd buff =>
    have hf := frameOf_command hscan
    cases hargv : sdssplitargs cmd with
    | none =>
      rw [hargv] at hf
      simp only [InnerServerCommandSeqParser.handleInnerDataReceived, hscan, hargv] at h
      obtain rfl := Option.some.inj h
      exact refuse_paid env (scanCommand_id_plain hscan) buff hf Close_writes
    | some argv =>
      rw [hargv, Option.bind_some] at hf
      rw [InnerServerCommandSeqParser.handleInnerDataReceived_command hscan hargv] at h
      have hc : Command.Climbs ⟨seq, id, argv⟩ (s.sent s') := callHandler_climbs h
      by_cases ht : IsType seq
      · rw [if_pos ht] at hf
        exact paid_of_frame hf hc
      · rw [if_neg ht] at hf
        rw [hc.silent fun h => ht h.isType]
        exact paid_of_no_frame hf (Nat.zero_le 1) (List.forall_mem_nil _)

end InnerServerHandler

namespace Conversation
variable {Url : Type} {net : NetTypes} {types : CommonTypes Url} {json : Texts}
  {s s' : Conversation Url}

/-- The frames that may yet be handled. -/
def potential (s : Conversation Url) : Nat := (s.flight.map fun m => textWeight m.data).sum

/-- Reading a text that has been paid for raises neither what was handled nor what is to come. -/
theorem deliver_le {i : Nat} {m : Sent} {sent : List Sent} (hi : s.flight[i]? = some m)
    (hp : Paid m.data (sent.map Sent.data)) :
    (s.deliver i m.data sent).handled + (s.deliver i m.data sent).potential ≤
      s.handled + s.potential := by
  obtain ⟨hlt, rfl⟩ := List.getElem?_eq_some_iff.1 hi
  have hsum : textWeight s.flight[i].data +
      ((s.flight.eraseIdx i).map fun m => textWeight m.data).sum = s.potential := by
    rw [potential, ← ((List.getElem_cons_eraseIdx_perm hlt).map _).sum_eq, List.map_cons,
      List.sum_cons]
  rw [Paid, List.map_map] at hp
  simp only [deliver, potential, List.map_append, List.sum_append]
  simp only [potential] at hsum
  have hcomp : (sent.map (textWeight ∘ Sent.data)).sum = (sent.map fun m => textWeight m.data).sum :=
    rfl
  omega

theorem step_le {e : Delivery} (hs : step net types json s e = some s') :
    s'.handled + s'.potential ≤ s.handled + s.potential := by
  simp only [step] at hs
  split at hs
  · cases hs
  · rename_i c data hi
    split at hs
    · cases hs
      obtain ⟨_, hpaid⟩ := InnerServerHandlerHost.DataReceived_paid net e.env c data s.host
      refine deliver_le (m := .toHost c data) hi ?_
      rw [List.map_map]
      exact hpaid
    · cases hs
  · rename_i c data hi
    obtain ⟨h, _, hs⟩ := Option.bind_eq_some_iff.1 hs
    split at hs
    · cases hs
      refine deliver_le (m := .toDevice c data) hi ?_
      rw [List.map_map]
      cases hd : (InnerServerHandler.seqParser types json e.device).DataReceived data (some h) with
      | none => exact paid_nil data
      | some h' =>
        have hid : (h.sent h').map (Sent.data ∘ Sent.toHost c) = h.sent h' := List.map_id _
        rw [Option.toList_some, List.flatMap_singleton, hid]
        exact InnerServerHandler.DataReceived_paid hd
    · cases hs

/-- A request may lead to three frames. -/
theorem potential_requests (h : ∀ m ∈ s.flight, ∃ c, frameOf m.data = some c ∧
    c.seq = REQUEST_COMMAND) : s.potential = 3 * s.flight.length := by
  have hconst : ∀ m ∈ s.flight, textWeight m.data = 3 := by
    intro m hm
    obtain ⟨c, hf, hseq⟩ := h m hm
    rw [textWeight, hf, Option.map_some, Option.getD_some, Command.weight, if_pos hseq]
  rw [potential, List.map_congr_left hconst, List.map_const', List.sum_replicate_nat, Nat.mul_comm]

end Conversation

/-- A device handles `command` as the ladder of types says; an aborted process does not. -/
def InnerServerHandler.Answers {Url : Type} (types : CommonTypes Url) (json : Texts)
    (env : DeviceEnv) (command : Command) (s : InnerServerHandler Url) : Prop :=
  ∃ s', (seqParser types json env).callHandler command (some s) = some s' ∧
    command.Climbs (s.sent s') ∧
    (command.seq = REQUEST_COMMAND → Knows commands command.argv → (s.sent s').length = 1)

/-- The host handles `command`, from the connection `c`, as the ladder of types says. -/
def InnerServerHandlerHost.Answers (net : NetTypes) (env : Env) (c : ClientId) (command : Command)
    (s : InnerServerHandlerHost) : Prop :=
  let s' := (seqParser net env c).callHandler command s
  command.Climbs ((s.sent s').map (·.data)) ∧
    (command.seq = REQUEST_COMMAND → Knows commands command.argv → (s.sent s').length = 1)

theorem InnerServerHandler.answers_iff {Url : Type} {types : CommonTypes Url} {json : Texts}
    {env : DeviceEnv} (hw : ∀ n, env.writeError n = none) (command : Command)
    (s : InnerServerHandler Url) :
    s.Answers types json env command ↔
      ¬ (command.seq = REQUEST_COMMAND ∧ SetsNoArray json command.argv) := by
  obtain ⟨seq, id, argv⟩ := command
  constructor
  · rintro ⟨s', h, _⟩ ⟨hseq, hset⟩
    obtain rfl : seq = REQUEST_COMMAND := hseq
    have h : s.handleInnerRequestCommand types json env id argv = some s' := h
    rw [handleInnerRequestCommand_eq_none.2 hset] at h
    cases h
  · intro hn
    obtain ⟨s', hs'⟩ : ∃ s', (seqParser types json env).callHandler ⟨seq, id, argv⟩ (some s) =
        some s' := by
      rw [InnerServerCommandSeqParser.callHandler]
      split
      · rename_i hseq
        apply Option.ne_none_iff_exists'.1
        intro hnone
        exact hn ⟨hseq, handleInnerRequestCommand_eq_none.1 hnone⟩
      split
      · exact ⟨_, rfl⟩
      split
      · exact ⟨_, rfl⟩
      · exact ⟨_, rfl⟩
    refine ⟨s', hs', callHandler_climbs hs', ?_⟩
    intro hseq hk
    obtain rfl : seq = REQUEST_COMMAND := hseq
    exact (handleInnerRequestCommand_sent hs').2.2 hk hw

theorem InnerServerHandlerHost.answers {net : NetTypes} {env : Env}
    (hw : ∀ n, env.writeError n = none) (c : ClientId) (command : Command)
    (s : InnerServerHandlerHost) : s.Answers net env c command := by
  refine ⟨callHandler_climbs command, ?_⟩
  obtain ⟨seq, id, argv⟩ := command
  intro hseq hk
  obtain rfl : seq = REQUEST_COMMAND := hseq
  exact handleInnerRequestCommand_answers hk hw

/-- Both parties keep to the ladder of types, except a device that is told to set a list that is no
array; and requests on their way lead to three frames each, in whatever order these are read. -/
theorem exchanges_climb_iff_and_end {Url : Type} (net : NetTypes) (types : CommonTypes Url)
    (json : Texts) :
    (∀ env : DeviceEnv, (∀ n, env.writeError n = none) → ∀ command s,
      InnerServerHandler.Answers types json env command s ↔
        ¬ (command.seq = REQUEST_COMMAND ∧ SetsNoArray json command.argv)) ∧
    (∀ env : Env, (∀ n, env.writeError n = none) → ∀ c command s,
      InnerServerHandlerHost.Answers net env c command s) ∧
    ∀ (s : Conversation Url) (es : List Delivery), s.handled = 0 →
      (∀ m ∈ s.flight, ∃ c, frameOf m.data = some c ∧ c.seq = REQUEST_COMMAND) →
      Always (Conversation.step net types json) (fun t => t.handled ≤ 3 * s.flight.length) s es := by
  refine ⟨fun env => InnerServerHandler.answers_iff, fun env => InnerServerHandlerHost.answers, ?_⟩
  intro s es hz hreq
  have h : Always (Conversation.step net types json)
      (fun t => t.handled ≤ s.handled + s.potential) s es :=
    always_le_potential Conversation.handled Conversation.potential
      fun t e t' => Conversation.step_le
  rw [hz, Nat.zero_add, Conversation.potential_requests hreq] at h
  exact h

/-- The texts of an object with a number for a list. -/
def numberTexts : Texts :=
  .of (fun _ => .object [(HANDLERS_URLS_SECTION_LABEL, .int 1)])
    fun _ => "\x7b \"http_handlers_utls\": 1 \x7d".toList

/-- A number where the list of handlers should stand ends the process without a response. -/
theorem not_answers_number :
    ¬ InnerServerHandler.Answers InnerServerHandler.twoHosts numberTexts
      InnerServerHandler.calmDevice ⟨REQUEST_COMMAND, "1".toList,
        ["plz_set_config".toList, "\x7b\"http_handlers_utls\":1\x7d".toList]⟩
      InnerServerHandler.siteDevice := by
  rintro ⟨s', h, _⟩
  cases h

end SiteOnYourDevice
