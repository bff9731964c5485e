import SiteOnYourDevice.BuiltFrames
import SiteOnYourDevice.ForwardedFrames
import SiteOnYourDevice.CommandExchanges

namespace SiteOnYourDevice
open CString Sds
set_option relaxedAutoImplicit false
set_option autoImplicit true

variable {id : cmd_seq_t} {data read rest cmd tail w₁ w₂ a b COMMAND : Str} {args : List Str}

/-- A text that is read as the success of the command. -/
def SaysOk (t : cmd_id_t) (COMMAND data : Str) : Prop :=
  ∃ id state command args, frameOf data = some ⟨t, id, state :: command :: args⟩ ∧
    IS_EQUAL_COMMAND state SUCCESS_COMMAND = true ∧ IS_EQUAL_COMMAND command COMMAND = true

theorem prefix_append_cons (h : p <+: w ++ c :: rest) :
    p <+: w ∨ ∃ q, p = w ++ c :: q ∧ q <+: rest := by
  obtain hp | ⟨y, rfl⟩ := List.prefix_or_prefix_of_prefix h (List.prefix_append w (c :: rest))
  · exact .inl hp
  · rw [List.prefix_append_right_inj, List.prefix_cons_iff] at h
    obtain rfl | ⟨q, rfl, hq⟩ := h
    · exact .inl (by rw [List.append_nil])
    · exact .inr ⟨q, rfl, hq⟩

/-- A part of a word is one argument, or none. -/
theorem splitFrom_part (hw : IsWord w) (hp : p <+: w) (v : List Str) :
    splitFrom .blank v p = some (if p = [] then v else v ++ [p]) := by
  by_cases hne : p = []
  · subst hne
    rfl
  · have hword : IsWord p := ⟨hne, fun c hc => hw.plain c (hp.subset hc)⟩
    have hsplit := hword.splitFrom_blank (v := v) (p := [])
    rw [List.append_nil] at hsplit
    rw [if_neg hne, hsplit]
    rfl

/-- The first two words of a text that may be cut. -/
theorem words_of_prefix (hw₁ : IsWord w₁) (hw₂ : IsWord w₂)
    (hp : cmd <+: ' ' :: w₁ ++ ' ' :: w₂ ++ ' ' :: tail)
    (h : sdssplitargs cmd = some (a :: b :: args)) : a = w₁ ∧ b <+: w₂ := by
  have hwhole : ' ' :: w₁ ++ ' ' :: w₂ ++ ' ' :: tail =
      ' ' :: (w₁ ++ ' ' :: (w₂ ++ ' ' :: tail)) := by
    simp
  rw [hwhole, List.prefix_cons_iff] at hp
  obtain rfl | ⟨p, rfl, hp⟩ := hp
  · cases h
  rw [sdssplitargs_blank, sdssplitargs] at h
  obtain hp | ⟨q, rfl, hq⟩ := prefix_append_cons hp
  · rw [splitFrom_part hw₁ hp] at h
    split at h <;> cases h
  rw [hw₁.splitFrom_blank, splitFrom_token_end rfl] at h
  obtain hq | ⟨y, rfl, hy⟩ := prefix_append_cons hq
  · rw [splitFrom_part hw₂ hq] at h
    split at h
    · cases h
    · cases h
      exact ⟨rfl, hq⟩
  · rw [hw₂.splitFrom_blank, splitFrom_token_end rfl] at h
    obtain ⟨z, hz⟩ := splitFrom_prefix h
    obtain ⟨ha, hz⟩ := List.cons.inj hz
    obtain ⟨hb, _⟩ := List.cons.inj hz
    exact ⟨ha.symm, hb ▸ List.prefix_rfl⟩

/-- A command that was built is read with its own type and words. -/
theorem not_saysOk_of_words {t t' : cmd_id_t} (ht : IsType t) (hid : ' ' ∉ id) (hw₁ : IsWord w₁)
    (hw₂ : IsWord w₂) (h : t ≠ t' ∨ ¬ SUCCESS_COMMAND <+: w₁ ∨ ¬ COMMAND <+: w₂) :
    ¬ SaysOk t' COMMAND
      (buffText (CID_FMT t ++ ' ' :: id ++ ' ' :: w₁ ++ ' ' :: w₂ ++ ' ' :: tail)) := by
  rintro ⟨id', state, command, args, hf, hstate, hcommand⟩
  obtain ⟨cmd, b, hscan, hargv, _⟩ := frameOf_eq_some hf
  have htext : CID_FMT t ++ ' ' :: id ++ ' ' :: w₁ ++ ' ' :: w₂ ++ ' ' :: tail =
      CID_FMT t ++ ' ' :: id ++ ' ' :: (w₁ ++ ' ' :: w₂ ++ ' ' :: tail) := by
    simp
  rw [htext] at hscan
  obtain ⟨rfl, _, hcmd⟩ := scanCommand_buffText ht hid hscan
  obtain ⟨rfl, hpre⟩ := words_of_prefix hw₁ hw₂ hcmd hargv
  rw [IS_EQUAL_COMMAND, List.isPrefixOf_iff_prefix] at hstate hcommand
  rcases h with h | h | h
  · exact h rfl
  · exact h hstate
  · exact h (hcommand.trans hpre)

theorem not_saysOk_fail {t : cmd_id_t} (ht : IsType t) (hid : ' ' ∉ id) {CMD : Str}
    (hw : IsWord CMD) (CMD_FMT : Str) (t' : cmd_id_t) (COMMAND : Str) :
    ¬ SaysOk t' COMMAND (buffText (GENEATATE_FAIL_FMT CMD CMD_FMT t id)) := by
  have hfail : IsWord FAIL_COMMAND := .of_all (by decide) (by decide)
  have h : ¬ SaysOk t' COMMAND (buffText (CID_FMT t ++ ' ' :: id ++ ' ' :: FAIL_COMMAND ++
      ' ' :: CMD ++ ' ' :: (CMD_FMT ++ END_OF_COMMAND))) :=
    not_saysOk_of_words ht hid hfail hw (.inr (.inl (by decide)))
  simpa [GENEATATE_FAIL_FMT] using h

theorem not_saysOk_success {t t' : cmd_id_t} (ht : IsType t) (hid : ' ' ∉ id) {CMD : Str}
    (hw : IsWord CMD) (CMD_FMT : Str) (h : t ≠ t' ∨ ¬ COMMAND <+: CMD) :
    ¬ SaysOk t' COMMAND (buffText (GENEATATE_SUCCESS_FMT CMD CMD_FMT t id)) := by
  have hok : IsWord SUCCESS_COMMAND := .of_all (by decide) (by decide)
  have hn : ¬ SaysOk t' COMMAND (buffText (CID_FMT t ++ ' ' :: id ++ ' ' :: SUCCESS_COMMAND ++
      ' ' :: CMD ++ ' ' :: (CMD_FMT ++ END_OF_COMMAND))) :=
    not_saysOk_of_words ht hid hok hw (h.imp_right .inr)
  simpa [GENEATATE_SUCCESS_FMT] using hn

theorem nul_not_mem_type (hd : isdigit d = true) : '\x00' ∉ [d, ' '] := by
  have hnul : '\x00' ≠ d := by
    rintro rfl
    cases hd
  simp [hnul]

/-- The type of a text stands in its first character. -/
theorem frame_seq {c : Command} (hd : isdigit d = true) (hf : frameOf (d :: ' ' :: rest) = some c) :
    c.seq = UInt8.ofNat (d.toNat - '0'.toNat) := by
  obtain ⟨cmd, b, hscan, _, _⟩ := frameOf_eq_some hf
  have hcr : d ≠ '\r' := by
    rintro rfl
    cases hd
  have hcstr : cstr (d :: ' ' :: rest) = d :: ' ' :: cstr rest :=
    cstr_append (nul_not_mem_type hd) rest
  rw [scanCommand, hcstr] at hscan
  split at hscan
  · cases hscan
  rename_i line after hs
  obtain ⟨hcut, hend⟩ := strstr_eq_some hs
  have hline : ∃ p, line = d :: ' ' :: p := by
    cases line with
    | nil =>
      rw [List.nil_append] at hcut
      rw [← hcut] at hend
      exact absurd (List.cons_prefix_cons.1 hend).1.symm hcr
    | cons e line =>
      rw [List.cons_append, List.cons.injEq] at hcut
      obtain ⟨rfl, hcut⟩ := hcut
      cases line with
      | nil =>
        rw [List.nil_append] at hcut
        rw [← hcut] at hend
        exact absurd (List.cons_prefix_cons.1 hend).1 (by decide)
      | cons f p =>
        rw [List.cons_append, List.cons.injEq] at hcut
        exact ⟨p, by rw [hcut.1]⟩
  obtain ⟨p, rfl⟩ := hline
  obtain ⟨_, _, hseq, _⟩ := scanLine_eq_command hscan
  rw [hseq, strtoul_digit hd (by decide)]

theorem not_saysOk_of_type {t t' : cmd_id_t} (ht : IsType t) (hne : t ≠ t') (p : Str) :
    ¬ SaysOk t' COMMAND (buffText (CID_FMT t ++ ' ' :: p)) := by
  rintro ⟨id, state, command, args, hf, _⟩
  obtain ⟨d, hcid, hd, hval⟩ := CID_FMT_type ht
  have htext : CID_FMT t ++ ' ' :: p = [d, ' '] ++ p := by
    rw [hcid]
    rfl
  rw [htext, buffText_append (nul_not_mem_type hd) (Nat.le_of_ble_eq_true rfl)] at hf
  have hseq := frame_seq hd hf
  rw [hval] at hseq
  exact hne hseq.symm

theorem IsCommandText.not_saysOk {t t' : cmd_id_t} (h : IsCommandText t id data) (ht : IsType t)
    (hne : t ≠ t') : ¬ SaysOk t' COMMAND data := by
  obtain ⟨p, rfl⟩ := h
  have hn : ¬ SaysOk t' COMMAND (buffText (CID_FMT t ++ ' ' :: (id ++ ' ' :: p))) :=
    not_saysOk_of_type ht hne _
  rw [List.append_assoc]
  exact hn

/-- Whatever follows in the buffer, the device gets a request. -/
theorem not_saysOk_forwarded (env : Env) (rest : Str) :
    ¬ SaysOk APPROVE_COMMAND COMMAND (InnerServerHandlerHost.forwarded env rest) := by
  rintro ⟨id, state, command, args, hf, _⟩
  have hhead : ∃ p, InnerServerHandlerHost.forwarded env rest = '0' :: ' ' :: p := by
    rw [InnerServerHandlerHost.forwarded_eq, requestText_eq]
    exact ⟨_, rfl⟩
  obtain ⟨p, hp⟩ := hhead
  rw [hp] at hf
  have hseq : APPROVE_COMMAND = _ := frame_seq (by decide) hf
  exact absurd hseq (by decide)

/-- A command that does not fit has lost its end. -/
theorem frameOf_cut {line : Str} (hnul : '\x00' ∉ line) (hend : ¬ END_OF_COMMAND <:+: line)
    (hl : MAX_COMMAND_SIZE - 1 < (line ++ END_OF_COMMAND).length) :
    frameOf (buffText (line ++ END_OF_COMMAND)) = none := by
  have hwhole : '\x00' ∉ line ++ END_OF_COMMAND := by
    rw [List.mem_append, not_or]
    exact ⟨hnul, by decide⟩
  have hbuff : buffText (line ++ END_OF_COMMAND) <+: line ++ ['\r'] := by
    have hp := buffText_prefix (line ++ END_OF_COMMAND)
    have hends : line ++ END_OF_COMMAND = (line ++ ['\r']) ++ ['\n'] := by
      rw [List.append_assoc]
      rfl
    have hlen := buffText_length_le (line ++ END_OF_COMMAND)
    rw [hends, List.prefix_concat_iff] at hp
    obtain hp | hp := hp
    · rw [← hends] at hp
      rw [hp] at hlen
      omega
    · rw [hends]
      exact hp
  have hpart : buffText (line ++ END_OF_COMMAND) <+: line ++ END_OF_COMMAND :=
    buffText_prefix _
  have hcstr : cstr (buffText (line ++ END_OF_COMMAND)) = buffText (line ++ END_OF_COMMAND) :=
    cstr_of_nul_free fun hn => hwhole (hpart.subset hn)
  suffices hbad : scanCommand (buffText (line ++ END_OF_COMMAND)) =
      .malformed (buffText (line ++ END_OF_COMMAND)) by exact frameOf_malformed hbad
  rw [scanCommand, hcstr]
  cases hs : strstr END_OF_COMMAND (buffText (line ++ END_OF_COMMAND)) with
  | none => rfl
  | some p =>
    obtain ⟨hcut, hp⟩ := strstr_eq_some (a := p.1) (b := p.2) hs
    have hends : END_OF_COMMAND <:+: buffText (line ++ END_OF_COMMAND) := by
      rw [hcut]
      exact hp.isInfix.trans (List.suffix_append _ _).isInfix
    exact absurd (hends.trans hbuff.isInfix) (not_infix_concat_cr hend)

end SiteOnYourDevice
