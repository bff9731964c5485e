import SiteOnYourDevice.CommandExchanges
import SiteOnYourDevice.ConfigurationFrame

namespace SiteOnYourDevice
open CString Sds JsonC Transition
set_option relaxedAutoImplicit false
set_option autoImplicit true

/-- The bytes of a command before they are cut to the buffer. -/
def builtText (t : cmd_id_t) (id : cmd_seq_t) (rest : Str) : Str :=
  CID_FMT t ++ ' ' :: id ++ ' ' :: rest ++ END_OF_COMMAND

/-- What stands behind the id of a response of success. -/
def successRest (command tail : Str) : Str :=
  SUCCESS_COMMAND ++ ' ' :: command ++ ' ' :: tail

theorem GENEATATE_SUCCESS_FMT_eq (command tail : Str) (t : cmd_id_t) (id : cmd_seq_t) :
    GENEATATE_SUCCESS_FMT command tail t id = builtText t id (successRest command tail) := by
  simp only [GENEATATE_SUCCESS_FMT, builtText, successRest, List.append_assoc, List.cons_append]

/-- A text that fits into its buffer and that nothing in it ends early. -/
structure Fitting (t : cmd_id_t) (id : cmd_seq_t) (rest : Str) : Prop where
  no_cr : '\r' ∉ rest
  nul_free : '\x00' ∉ rest
  length : (builtText t id rest).length ≤ MAX_COMMAND_SIZE - 1

variable {id : cmd_seq_t} {rest command tail J : Str}

theorem line_clean (hcr : '\r' ∉ rest) (hnul : '\x00' ∉ rest) (ht : isdigit d = true)
    (hid : ReadId id) :
    '\x00' ∉ d :: ' ' :: id ++ ' ' :: rest ∧
      ¬ END_OF_COMMAND <:+: d :: ' ' :: id ++ ' ' :: rest := by
  have hd : d ≠ '\x00' ∧ d ≠ '\r' := by
    constructor
    · rintro rfl
      cases ht
    · rintro rfl
      cases ht
  constructor
  · simp [hid.nul_free, hnul, hd.1.symm]
  · apply not_infix_append
    · simp only [List.infix_cons_iff, hid.no_end, or_false, not_or]
      constructor
      · exact fun hp => hd.2 (List.cons_prefix_cons.1 hp).1.symm
      · exact fun hp => absurd (List.cons_prefix_cons.1 hp).1 (by decide)
    · simp [hcr]
    · exact fun hn => absurd (Option.some.inj hn) (by decide)

theorem builtText_eq (hcr : '\r' ∉ rest) (hnul : '\x00' ∉ rest) (ht : IsType t) (hid : ReadId id) :
    ∃ d, isdigit d = true ∧ UInt8.ofNat (d.toNat - '0'.toNat) = t ∧
      builtText t id rest = d :: ' ' :: id ++ ' ' :: rest ++ END_OF_COMMAND ∧
      '\x00' ∉ d :: ' ' :: id ++ ' ' :: rest ∧
      ¬ END_OF_COMMAND <:+: d :: ' ' :: id ++ ' ' :: rest := by
  obtain ⟨d, hd, hdigit, hval⟩ := CID_FMT_type ht
  refine ⟨d, hdigit, hval, ?_, line_clean hcr hnul hdigit hid⟩
  simp [builtText, hd]

theorem Fitting.buffText_eq (h : Fitting t id rest) (ht : IsType t) (hid : ReadId id) :
    buffText (builtText t id rest) = builtText t id rest := by
  obtain ⟨d, _, _, htext, hnul, _⟩ := builtText_eq h.no_cr h.nul_free ht hid
  apply buffText_of_fits _ h.length
  rw [htext, List.mem_append, not_or]
  exact ⟨hnul, by decide⟩

/-- A command that fits is read back with its type and its id, as far as its rest can be split. -/
theorem Fitting.frameOf_eq (h : Fitting t id rest) (ht : IsType t) (hid : ReadId id) :
    frameOf (builtText t id rest) = (sdssplitargs rest).map fun argv => ⟨t, id, argv⟩ := by
  obtain ⟨d, hdigit, hval, htext, hnul, hend⟩ := builtText_eq h.no_cr h.nul_free ht hid
  have hscan := scanCommand_line hnul hend []
  rw [List.append_nil, scanLine_digit hdigit hid.no_blank, hval] at hscan
  rw [htext, frameOf_command hscan, sdssplitargs_blank]
  cases sdssplitargs rest with
  | none => rfl
  | some argv => exact if_pos ht

theorem sdssplitargs_successRest (h : IsWord command) (tail : Str) :
    sdssplitargs (successRest command tail) = splitFrom .blank [SUCCESS_COMMAND, command] tail := by
  have hok : IsWord SUCCESS_COMMAND := .of_all (by decide) (by decide)
  rw [sdssplitargs, successRest, List.append_assoc, List.cons_append, hok.splitFrom_blank,
    splitFrom_token_end rfl, h.splitFrom_blank, splitFrom_token_end rfl]
  rfl

/-- A text between single quotes is one argument exactly when it has no apostrophe. -/
theorem splitFrom_quoted (hlast : J.getLast? ≠ some '\\') (v : List Str) :
    splitFrom .blank v (quoted J) = some (v ++ [J]) ↔ '\'' ∉ J := by
  rw [quoted, List.cons_append, splitFrom_blank_char rfl]
  exact splitFrom_insq_iff hlast

theorem DataReceived_of_frameOf {p : InnerServerCommandSeqParser σ} {read : Str} {c : Command}
    (h : frameOf read = some c) (s : σ) : p.DataReceived read s = p.dispatch c s := by
  obtain ⟨cmd, b, hscan, hargv, _⟩ := frameOf_eq_some h
  have hne : read ≠ [] := by
    rintro rfl
    cases hscan
  rw [InnerServerCommandSeqParser.DataReceived, if_neg hne]
  exact InnerServerCommandSeqParser.handleInnerDataReceived_command hscan hargv p s

/-- The server and one device at the connection `c`, with what each has sent to the other and the
other has not read yet. -/
structure DeviceLink (Url : Type) where
  host : InnerServerHandlerHost
  device : InnerServerHandler Url
  toDevice : List Str
  toHost : List Str

/-- A step of the server that is no read from the device, or a read of one write by either side. -/
inductive LinkTurn
  | host (e : InnerServerHandlerHost.Event)
  | deviceReads (env : DeviceEnv)
  | hostReads (env : Env)

namespace DeviceLink
variable {Url : Type} (types : CommonTypes Url) (json : Texts) (c : ClientId)

/-- What the server sent to the connection `c`. -/
def arriving (s s' : InnerServerHandlerHost) : List Str :=
  ((s.sent s').filter fun w => w.client = c).map (·.data)

/-- The server after a step of its own. -/
def withHost (l : DeviceLink Url) (host : InnerServerHandlerHost) : DeviceLink Url :=
  { l with host, toDevice := l.toDevice ++ arriving c l.host host }

/-- What a read makes of the device. -/
def deviceRead (env : DeviceEnv) (read : Str) (device : InnerServerHandler Url) :
    Option (InnerServerHandler Url) :=
  if device.inner_connection_ ∧ read.length ≤ MAX_COMMAND_SIZE then
    (InnerServerHandler.seqParser types json env).DataReceived read (some device)
  else none

/-- A read from the connection. -/
def readsFrom (c : ClientId) : InnerServerHandlerHost.Event → Bool
  | .dataReceived c' _ _ => c' = c
  | _ => false

def step (l : DeviceLink Url) : LinkTurn → Option (DeviceLink Url)
  | .host e =>
    if readsFrom c e then none
    else (InnerServerHandlerHost.step types.toNetTypes l.host e).map (l.withHost c)
  | .deviceReads env =>
    match l.toDevice with
    | [] => none
    | read :: toDevice =>
      (deviceRead types json env read l.device).map fun device =>
        { l with device, toDevice, toHost := l.toHost ++ l.device.sent device }
  | .hostReads env =>
    match l.toHost with
    | [] => none
    | read :: toHost =>
      (InnerServerHandlerHost.step types.toNetTypes l.host (.dataReceived c read env)).map
        fun host => { l with toHost }.withHost c host

end DeviceLink

end SiteOnYourDevice
