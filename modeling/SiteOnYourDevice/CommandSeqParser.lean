import SiteOnYourDevice.Commands
import SiteOnYourDevice.SdsSplitArgs

namespace SiteOnYourDevice
open CString Sds
set_option relaxedAutoImplicit false
set_option autoImplicit true

/-- What `handleInnerDataReceived` reaches of its class and of the connection a buffer came from.
`Close` stands for `connection->Close(); delete connection;`. -/
structure InnerServerCommandSeqParser (σ : Type*) where
  next_id : σ → cmd_seq_t × σ
  processRequest : cmd_seq_t → Option (List Str) → σ → σ
  Write : Str → σ → σ
  Close : σ → σ
  handleInnerRequestCommand : cmd_seq_t → List Str → σ → σ
  handleInnerResponceCommand : cmd_seq_t → List Str → σ → σ
  handleInnerApproveCommand : cmd_seq_t → List Str → σ → σ

/-- The outcome of the scans for the end of the command, the type and the id. -/
inductive Scanned
  | malformed (buff : Str)
  | command (seq : cmd_id_t) (id : cmd_seq_t) (cmd buff : Str)
deriving DecidableEq

/-- The scans for the type and the id, on the text before the end of the command. -/
def scanLine (buff : Str) : Scanned :=
  match strtoul buff with
  | (seq, ' ' :: star_seq) =>
    match strchr ' ' star_seq with
    | none => .malformed buff
    | some (id, cmd) => .command (UInt8.ofNat seq) id cmd buff
  | _ => .malformed buff

/-- The scans of `handleInnerDataReceived`; a full buffer is read as if a NUL stood behind it. -/
def scanCommand (buff : Str) : Scanned :=
  match strstr END_OF_COMMAND (cstr buff) with
  | none => .malformed (cstr buff)
  | some (buff, _) => scanLine buff

/-- A command as its handler gets it. -/
structure Command where
  seq : cmd_id_t
  id : cmd_seq_t
  argv : List Str
deriving DecidableEq

namespace InnerServerCommandSeqParser

/-- The choice of the handler; the last branch is the `NOTREACHED`. -/
def callHandler (p : InnerServerCommandSeqParser σ) (c : Command) (s : σ) : σ :=
  if c.seq = REQUEST_COMMAND then p.handleInnerRequestCommand c.id c.argv s
  else if c.seq = RESPONCE_COMMAND then p.handleInnerResponceCommand c.id c.argv s
  else if c.seq = APPROVE_COMMAND then p.handleInnerApproveCommand c.id c.argv s
  else s

/-- `processRequest` comes first, whatever the type. -/
def dispatch (p : InnerServerCommandSeqParser σ) (c : Command) (s : σ) : σ :=
  p.callHandler c (p.processRequest c.id (some c.argv) s)

/-- A fail response, then the end of the connection. -/
def refuse (p : InnerServerCommandSeqParser σ) (id : cmd_seq_t) (buff : Str) (s : σ) : σ :=
  p.Close (p.Write (make_responce id (STATE_COMMAND_RESP_FAIL_1S buff)).cmd_ s)

def handleInnerDataReceived (p : InnerServerCommandSeqParser σ) (buff : Str) (s : σ) : σ :=
  match scanCommand buff with
  | .malformed buff => p.refuse (p.next_id s).1 buff (p.next_id s).2
  | .command seq id cmd buff =>
    match sdssplitargs cmd with
    | none => p.refuse id buff (p.processRequest id none s)
    | some argv => p.dispatch ⟨seq, id, argv⟩ s

/-- `DataReceived` of either side; an empty read is one that failed or reached the end. -/
def DataReceived (p : InnerServerCommandSeqParser σ) (read : Str) (s : σ) : σ :=
  if read = [] then p.Close s else p.handleInnerDataReceived read s

/-- What a connection sees of a buffer: a handler called, or the connection given up. -/
inductive Call
  | handler (c : Command)
  | closed
deriving DecidableEq

/-- The same parser with a record of its calls. -/
def traced (p : InnerServerCommandSeqParser σ) : InnerServerCommandSeqParser (σ × List Call) where
  next_id x := ((p.next_id x.1).1, (p.next_id x.1).2, x.2)
  processRequest id argv x := (p.processRequest id argv x.1, x.2)
  Write text x := (p.Write text x.1, x.2)
  Close x := (p.Close x.1, x.2 ++ [.closed])
  handleInnerRequestCommand id argv x :=
    (p.handleInnerRequestCommand id argv x.1, x.2 ++ [.handler ⟨REQUEST_COMMAND, id, argv⟩])
  handleInnerResponceCommand id argv x :=
    (p.handleInnerResponceCommand id argv x.1, x.2 ++ [.handler ⟨RESPONCE_COMMAND, id, argv⟩])
  handleInnerApproveCommand id argv x :=
    (p.handleInnerApproveCommand id argv x.1, x.2 ++ [.handler ⟨APPROVE_COMMAND, id, argv⟩])

variable {p : InnerServerCommandSeqParser σ} {seq : cmd_id_t} {id : cmd_seq_t}
  {cmd buff buff' : Str} {argv : List Str} {calls : List Call}

theorem handleInnerDataReceived_command (h : scanCommand buff = .command seq id cmd buff')
    (ha : sdssplitargs cmd = some argv) (p : InnerServerCommandSeqParser σ) (s : σ) :
    p.handleInnerDataReceived buff s = p.dispatch ⟨seq, id, argv⟩ s := by
  simp only [handleInnerDataReceived, h, ha]

theorem handleInnerDataReceived_malformed (h : scanCommand buff = .malformed buff')
    (p : InnerServerCommandSeqParser σ) (s : σ) :
    p.handleInnerDataReceived buff s = p.refuse (p.next_id s).1 buff' (p.next_id s).2 := by
  simp only [handleInnerDataReceived, h]

theorem dispatch_traced (h : IsType seq) :
    p.traced.dispatch ⟨seq, id, argv⟩ (s, calls) =
      (p.dispatch ⟨seq, id, argv⟩ s, calls ++ [.handler ⟨seq, id, argv⟩]) := by
  rcases h with rfl | rfl | rfl <;> rfl

theorem dispatch_traced_other (h : ¬ IsType seq) :
    p.traced.dispatch ⟨seq, id, argv⟩ (s, calls) = (p.dispatch ⟨seq, id, argv⟩ s, calls) := by
  simp only [IsType, not_or] at h
  simp only [dispatch, callHandler, h.1, h.2.1, h.2.2, if_false]
  rfl

/-- A property of states that every call keeps. -/
structure Keeps (p : InnerServerCommandSeqParser σ) (I : σ → Prop) : Prop where
  next_id : ∀ s, I s → I (p.next_id s).2
  processRequest : ∀ id argv s, I s → I (p.processRequest id argv s)
  Write : ∀ data s, I s → I (p.Write data s)
  Close : ∀ s, I s → I (p.Close s)
  handleInnerRequestCommand : ∀ id argv s, I s → I (p.handleInnerRequestCommand id argv s)
  handleInnerResponceCommand : ∀ id argv s, I s → I (p.handleInnerResponceCommand id argv s)
  handleInnerApproveCommand : ∀ id argv s, I s → I (p.handleInnerApproveCommand id argv s)

theorem Keeps.refuse {I : σ → Prop} (h : p.Keeps I) (id : cmd_seq_t) (buff : Str) (hs : I s) :
    I (p.refuse id buff s) :=
  h.Close _ (h.Write _ s hs)

theorem Keeps.dispatch {I : σ → Prop} (h : p.Keeps I) (c : Command) (hs : I s) :
    I (p.dispatch c s) := by
  have hp := h.processRequest c.id (some c.argv) s hs
  rw [InnerServerCommandSeqParser.dispatch, callHandler]
  split
  · exact h.handleInnerRequestCommand c.id c.argv _ hp
  split
  · exact h.handleInnerResponceCommand c.id c.argv _ hp
  split
  · exact h.handleInnerApproveCommand c.id c.argv _ hp
  · exact hp

/-- Whatever is read. -/
theorem Keeps.DataReceived {I : σ → Prop} (h : p.Keeps I) (read : Str) (hs : I s) :
    I (p.DataReceived read s) := by
  rw [InnerServerCommandSeqParser.DataReceived]
  split
  · exact h.Close s hs
  rw [handleInnerDataReceived]
  split
  · exact h.refuse _ _ (h.next_id s hs)
  split
  · exact h.refuse _ _ (h.processRequest _ none s hs)
  · exact h.dispatch _ hs

/-- A side that answers nothing and never closes. -/
def idle : InnerServerCommandSeqParser Unit where
  next_id s := ([], s)
  processRequest _ _ s := s
  Write _ s := s
  Close s := s
  handleInnerRequestCommand _ _ s := s
  handleInnerResponceCommand _ _ s := s
  handleInnerApproveCommand _ _ s := s

end InnerServerCommandSeqParser

theorem cstr_append (h : '\x00' ∉ a) (b : Str) : cstr (a ++ b) = a ++ cstr b := by
  rw [cstr, List.takeWhile_append_of_pos]
  · rfl
  · intro c hc
    have hne : c ≠ '\x00' := fun he => h (he ▸ hc)
    exact decide_eq_true hne

/-- Only the first end of a command is looked at. -/
theorem scanCommand_line (hn : '\x00' ∉ a) (he : ¬ END_OF_COMMAND <:+: a) (b : Str) :
    scanCommand (a ++ END_OF_COMMAND ++ b) = scanLine a := by
  have hend : '\x00' ∉ END_OF_COMMAND := by decide
  have hc : cstr (a ++ END_OF_COMMAND ++ b) = a ++ (END_OF_COMMAND ++ cstr b) := by
    rw [List.append_assoc, cstr_append hn, cstr_append hend]
  have hs : strstr END_OF_COMMAND (a ++ (END_OF_COMMAND ++ cstr b)) =
      some (a, END_OF_COMMAND ++ cstr b) := by
    apply strstr_append
    intro x y hxy hy hp
    match y with
    | [] => exact hy rfl
    | [c] =>
      obtain ⟨_, ht⟩ := hp
      exact absurd (List.cons.inj (List.cons.inj ht).2).1 (by decide)
    | c :: d :: y =>
      obtain ⟨t, ht⟩ := hp
      obtain ⟨hc, ht⟩ := List.cons.inj ht
      obtain ⟨hd, _⟩ := List.cons.inj ht
      subst hc hd
      exact he ⟨x, y, by rw [← hxy, END_OF_COMMAND, List.append_assoc]; rfl⟩
  simp only [scanCommand, hc, hs]

/-- A line of a one-digit type, an id and the rest is scanned into the three. -/
theorem scanLine_digit {id : Str} (hc : isdigit c = true) (hid : ' ' ∉ id) (cmd : Str) :
    scanLine (c :: ' ' :: id ++ ' ' :: cmd) =
      .command (UInt8.ofNat (c.toNat - '0'.toNat)) id (' ' :: cmd)
        (c :: ' ' :: id ++ ' ' :: cmd) := by
  have hs : strtoul (c :: ' ' :: id ++ ' ' :: cmd) =
      (c.toNat - '0'.toNat, ' ' :: (id ++ ' ' :: cmd)) :=
    strtoul_digit hc (by decide) _
  simp only [scanLine, hs, strchr_append hid]

/-- What a line must be like to be scanned into a command. -/
theorem scanLine_eq_command {seq : cmd_id_t} {id cmd : Str}
    (h : scanLine a = .command seq id cmd b) :
    ∃ n v, seq = UInt8.ofNat (strtoul a).1 ∧ cmd = ' ' :: v ∧ a = n ++ ' ' :: id ++ cmd ∧
      ' ' ∉ id ∧ (strtoul a).2 = ' ' :: id ++ cmd ∧ (n = [] → strtoul a = (0, a)) := by
  obtain ⟨n, hn, hz⟩ := strtoul_spec a
  rw [scanLine] at h
  split at h
  · rename_i seq' star hstar
    split at h
    · cases h
    · rename_i id' cmd' hid
      cases h
      obtain ⟨v, hv, hcut⟩ := strchr_eq_some hid
      refine ⟨n, v, by rw [hstar], hv, ?_, strchr_not_mem hid, ?_, hz⟩
      · rw [hstar] at hn
        rw [hn, hcut, hv, List.append_assoc]
        rfl
      · rw [hstar, hcut, hv]
        rfl
  · cases h

/-- What is scanned from a buffer with a built command, however much of it fitted, has the type and
the id of that command, and a part of the rest. -/
theorem scanCommand_buffText {seq : cmd_id_t} {id id' : cmd_seq_t} {rest cmd buff : Str}
    (ht : IsType t) (hid : ' ' ∉ id)
    (h : scanCommand (buffText (CID_FMT t ++ ' ' :: id ++ ' ' :: rest)) =
      .command seq id' cmd buff) : seq = t ∧ id' = id ∧ cmd <+: ' ' :: rest := by
  obtain ⟨c, hc, hcd, hct⟩ := CID_FMT_type ht
  rw [scanCommand] at h
  split at h
  · cases h
  rename_i line after hs
  have hline : line <+: c :: ' ' :: id ++ [' '] ++ rest := by
    have hp : cstr (buffText (CID_FMT t ++ ' ' :: id ++ ' ' :: rest)) <+:
        CID_FMT t ++ ' ' :: id ++ ' ' :: rest :=
      (List.takeWhile_prefix _).trans <| buffText_prefix _
    rw [(strstr_eq_some hs).1, hc] at hp
    have he : c :: ' ' :: id ++ [' '] ++ rest = [c] ++ ' ' :: id ++ ' ' :: rest := by simp
    rw [he]
    exact (List.prefix_append _ _).trans hp
  -- a line that is scanned has two blanks, so the id ends before the line does
  have htwo : 2 ≤ line.count ' ' := by
    obtain ⟨n, v, _, hcmd, hn, _⟩ := scanLine_eq_command h
    rw [hn, hcmd]
    simp only [List.count_append, List.count_cons_self]
    omega
  have hone : (c :: ' ' :: id).count ' ' = 1 := by
    have hne : c ≠ ' ' := by
      rintro rfl
      cases hcd
    rw [List.count_cons_of_ne hne, List.count_cons_self, List.count_eq_zero.2 hid]
  have hlong : c :: ' ' :: id ++ [' '] <+: line := by
    obtain hp | hp := List.prefix_or_prefix_of_prefix hline (List.prefix_append _ rest)
    · obtain he | hp := List.prefix_concat_iff.1 hp
      · exact he ▸ List.prefix_rfl
      · have hle := hp.sublist.count_le ' '
        omega
    · exact hp
  obtain ⟨v, rfl⟩ := hlong
  have hl : c :: ' ' :: id ++ [' '] ++ v = c :: ' ' :: id ++ ' ' :: v := by simp
  rw [List.append_assoc, List.append_assoc] at hline
  rw [hl, scanLine_digit hcd hid] at h
  cases h
  exact ⟨hct, rfl, (List.prefix_append_right_inj _).1 hline⟩

theorem scanCommand_id_plain {read cmd b : Str} {seq : cmd_id_t} {id : cmd_seq_t}
    (h : scanCommand read = .command seq id cmd b) : ' ' ∉ id := by
  rw [scanCommand] at h
  split at h
  · cases h
  · obtain ⟨_, _, _, _, _, hid, _, _⟩ := scanLine_eq_command h
    exact hid

/-- The command that a read calls a handler with. -/
def frameOf (read : Str) : Option Command :=
  match scanCommand read with
  | .malformed _ => none
  | .command seq id cmd _ =>
    (sdssplitargs cmd).bind fun argv => if IsType seq then some ⟨seq, id, argv⟩ else none

theorem frameOf_eq_some {read : Str} {c : Command} (h : frameOf read = some c) :
    ∃ cmd b, scanCommand read = .command c.seq c.id cmd b ∧ sdssplitargs cmd = some c.argv ∧
      IsType c.seq := by
  rw [frameOf] at h
  split at h
  · cases h
  rename_i seq id cmd b hscan
  obtain ⟨argv, hargv, h⟩ := Option.bind_eq_some_iff.1 h
  split at h
  · rename_i ht
    cases h
    exact ⟨cmd, b, hscan, hargv, ht⟩
  · cases h

theorem frameOf_malformed {read buff : Str} (h : scanCommand read = .malformed buff) :
    frameOf read = none := by
  simp only [frameOf, h]

theorem frameOf_command {read cmd b : Str} {seq : cmd_id_t} {id : cmd_seq_t}
    (h : scanCommand read = .command seq id cmd b) :
    frameOf read = (sdssplitargs cmd).bind fun argv =>
      if IsType seq then some ⟨seq, id, argv⟩ else none := by
  simp only [frameOf, h]

end SiteOnYourDevice
