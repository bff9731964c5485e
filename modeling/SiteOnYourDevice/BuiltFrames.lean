import SiteOnYourDevice.CommandCodec

namespace SiteOnYourDevice
open CString
set_option relaxedAutoImplicit false
set_option autoImplicit true

/-- The body that the three templates share; `none` where `CHECK_NE(res, -1)` ends the process. -/
def checkedCommand (t : cmd_id_t) (cmd_fmt : Fmt) (id : cmd_seq_t) : Option (InnerCmd t) :=
  let printed := snprintf MAX_COMMAND_SIZE (cmd_fmt t id)
  if printed.1 = -1 then none else some ⟨id, cstr printed.2⟩

namespace Checked

/-- `make_request`, with its check. -/
def make_request (cmd_fmt : Fmt) (id_ : UInt64) : Option cmd_request_t × UInt64 :=
  (checkedCommand REQUEST_COMMAND cmd_fmt (next_id id_).1, (next_id id_).2)

def make_responce (id : cmd_seq_t) (cmd_fmt : Fmt) : Option cmd_responce_t :=
  checkedCommand RESPONCE_COMMAND cmd_fmt id

def make_approve_responce (id : cmd_seq_t) (cmd_fmt : Fmt) : Option cmd_approve_t :=
  checkedCommand APPROVE_COMMAND cmd_fmt id

end Checked

/-- A command that is returned fits into the buffer and ends with CR LF. -/
def EndsCommand (c : Option (InnerCmd t)) : Prop :=
  ∀ cmd, c = some cmd → cmd.cmd_.length ≤ MAX_COMMAND_SIZE - 1 ∧ END_OF_COMMAND <:+ cmd.cmd_

/-- The text fits and has no NUL. -/
structure Fits (text : Str) : Prop where
  nul_free : '\x00' ∉ text
  length : text.length ≤ MAX_COMMAND_SIZE - 1

/-- The text goes on behind a CR LF of an argument, where a NUL stands or the buffer is full. -/
structure CutBehindEnd (text : Str) : Prop where
  cut : ∃ p q, text = p ++ END_OF_COMMAND ++ q ∧ '\x00' ∉ p ∧
    (p.length + 2 = MAX_COMMAND_SIZE - 1 ∨
      p.length + 2 ≤ MAX_COMMAND_SIZE - 1 ∧ q.head? = some '\x00')

/-- The text ends in time, or is so long that the check sees it. -/
inductive EndsInTime (text : Str) : Prop
  | fits (h : Fits text)
  | cut (h : CutBehindEnd text)
  | checked (h : INT_MAX < text.length)

variable {text : Str} {t : cmd_id_t} {cmd_fmt : Fmt} {id : cmd_seq_t}

theorem checkedCommand_of_long (h : INT_MAX < (cmd_fmt t id).length) :
    checkedCommand t cmd_fmt id = none := by
  rw [checkedCommand, snprintf, if_neg (Nat.not_le.2 h)]
  rfl

/-- A text whose length is an `int` passes the check, however much of it was stored. -/
theorem checkedCommand_of_le (h : (cmd_fmt t id).length ≤ INT_MAX) :
    checkedCommand t cmd_fmt id = some ⟨id, buffText (cmd_fmt t id)⟩ := by
  have hne : ¬ ((cmd_fmt t id).length : Int) = -1 := by omega
  simp only [checkedCommand, snprintf, if_pos h, if_neg hne]
  rfl

theorem make_request_checked {id_ : UInt64}
    (h : (cmd_fmt REQUEST_COMMAND (next_id id_).1).length ≤ INT_MAX) :
    Checked.make_request cmd_fmt id_ = (some (make_request cmd_fmt id_).1, (next_id id_).2) :=
  congrArg (·, (next_id id_).2) (checkedCommand_of_le h)

theorem make_responce_checked (h : (cmd_fmt RESPONCE_COMMAND id).length ≤ INT_MAX) :
    Checked.make_responce id cmd_fmt = some (make_responce id cmd_fmt) :=
  checkedCommand_of_le h

theorem make_approve_responce_checked (h : (cmd_fmt APPROVE_COMMAND id).length ≤ INT_MAX) :
    Checked.make_approve_responce id cmd_fmt = some (make_approve_responce id cmd_fmt) :=
  checkedCommand_of_le h

theorem buffText_append (hn : '\x00' ∉ a) (hl : a.length ≤ MAX_COMMAND_SIZE - 1) (b : Str) :
    buffText (a ++ b) = a ++ cstr (b.take (MAX_COMMAND_SIZE - 1 - a.length)) := by
  rw [buffText, List.take_append, List.take_of_length_le hl, cstr_append hn]

theorem cstr_eq_nil : cstr a = [] ↔ a = [] ∨ a.head? = some '\x00' := by
  cases a with
  | nil => simp [cstr]
  | cons c a => simp [cstr]

theorem buffText_length_le (text : Str) : (buffText text).length ≤ MAX_COMMAND_SIZE - 1 :=
  (List.takeWhile_prefix _).length_le.trans (List.length_take_le _ _)

/-- What is stored of a text ends where the text does, where the buffer is full or before a NUL. -/
theorem buffText_stops (h : text = buffText text ++ b) :
    b = [] ∨ b.head? = some '\x00' ∨ (buffText text).length = MAX_COMMAND_SIZE - 1 := by
  have hn : '\x00' ∉ buffText text := nul_not_mem_cstr _
  have hb := buffText_append hn (buffText_length_le text) b
  rw [← h] at hb
  have hnil := cstr_eq_nil.1 (List.self_eq_append_right.1 hb)
  by_cases hfull : (buffText text).length = MAX_COMMAND_SIZE - 1
  · exact .inr (.inr hfull)
  · have hpos : 0 < MAX_COMMAND_SIZE - 1 - (buffText text).length :=
      Nat.sub_pos_of_lt ((buffText_length_le text).lt_of_ne hfull)
    obtain ⟨k, hk⟩ := Nat.exists_eq_succ_of_ne_zero hpos.ne'
    rw [hk] at hnil
    cases b with
    | nil => exact .inl rfl
    | cons c b =>
      right
      left
      simpa using hnil

/-- What is stored of a text that ends with CR LF ends with CR LF. -/
theorem end_buffText_iff (he : END_OF_COMMAND <:+ text) :
    END_OF_COMMAND <:+ buffText text ↔ Fits text ∨ CutBehindEnd text := by
  apply Iff.intro
  · rintro ⟨p, hp⟩
    have hn : '\x00' ∉ p ++ END_OF_COMMAND := hp ▸ nul_not_mem_cstr _
    have hl := buffText_length_le text
    obtain ⟨q, hq⟩ := buffText_prefix text
    have hlen : (buffText text).length = p.length + 2 := by
      rw [← hp, List.length_append]
      rfl
    have hnp : '\x00' ∉ p := fun hm => hn (List.mem_append_left _ hm)
    obtain rfl | hnul | hfull := buffText_stops hq.symm
    · left
      rw [List.append_nil] at hq
      exact ⟨hq ▸ hp ▸ hn, hq ▸ hl⟩
    · right
      exact ⟨p, q, by rw [hp, hq], hnp, .inr ⟨hlen ▸ hl, hnul⟩⟩
    · right
      exact ⟨p, q, by rw [hp, hq], hnp, .inl (hlen ▸ hfull)⟩
  · rintro (hfits | ⟨p, q, rfl, hn, hcut⟩)
    · rw [buffText_of_fits hfits.nul_free hfits.length]
      exact he
    · have hn' : '\x00' ∉ p ++ END_OF_COMMAND := by
        rw [List.mem_append, not_or]
        exact ⟨hn, by decide⟩
      have hlen : (p ++ END_OF_COMMAND).length = p.length + 2 := List.length_append
      have hstop : cstr (q.take (MAX_COMMAND_SIZE - 1 - (p ++ END_OF_COMMAND).length)) = [] := by
        rw [cstr_eq_nil, hlen]
        obtain hfull | ⟨_, hnul⟩ := hcut
        · left
          rw [hfull, Nat.sub_self, List.take_zero]
        · cases q with
          | nil => cases hnul
          | cons c q =>
            cases MAX_COMMAND_SIZE - 1 - (p.length + 2) with
            | zero => exact .inl rfl
            | succ k => exact .inr hnul
      rw [buffText_append hn' (by omega), hstop, List.append_nil]
      exact List.suffix_append p _

theorem endsCommand_checked (he : END_OF_COMMAND <:+ cmd_fmt t id) :
    EndsCommand (checkedCommand t cmd_fmt id) ↔ EndsInTime (cmd_fmt t id) := by
  by_cases hl : (cmd_fmt t id).length ≤ INT_MAX
  · have hends : EndsCommand (checkedCommand t cmd_fmt id) ↔
        END_OF_COMMAND <:+ buffText (cmd_fmt t id) := by
      rw [EndsCommand, checkedCommand_of_le hl]
      simp [buffText_length_le]
    rw [hends, end_buffText_iff he]
    apply Iff.intro
    · rintro (h | h)
      · exact .fits h
      · exact .cut h
    · intro h
      cases h with
      | fits h => exact .inl h
      | cut h => exact .inr h
      | checked h => exact absurd hl (Nat.not_le.2 h)
  · rw [EndsCommand, checkedCommand_of_long (Nat.lt_of_not_le hl)]
    simp [EndsInTime.checked (Nat.lt_of_not_le hl)]

theorem FmtMacro.end_suffix (m : FmtMacro) (CMD : Str) (args : List Str) (t : cmd_id_t)
    (id : cmd_seq_t) : END_OF_COMMAND <:+ m.fmt CMD args t id :=
  ⟨_, (m.fmt_eq CMD args t id).symm⟩

/-- Whatever the macro and the arguments, what each of the three templates returns ends with CR LF
exactly when the text ends in time: nothing but its length as an `int` is checked. -/
theorem endsCommand_iff (m : FmtMacro) (CMD : Str) (args : List Str) (id : cmd_seq_t)
    (id_ : UInt64) :
    (EndsCommand (Checked.make_request (m.fmt CMD args) id_).1 ↔
      EndsInTime (m.fmt CMD args REQUEST_COMMAND (next_id id_).1)) ∧
    (EndsCommand (Checked.make_responce id (m.fmt CMD args)) ↔
      EndsInTime (m.fmt CMD args RESPONCE_COMMAND id)) ∧
    (EndsCommand (Checked.make_approve_responce id (m.fmt CMD args)) ↔
      EndsInTime (m.fmt CMD args APPROVE_COMMAND id)) := by
  have h : ∀ t id, EndsCommand (checkedCommand t (m.fmt CMD args) id) ↔
      EndsInTime (m.fmt CMD args t id) :=
    fun t id => endsCommand_checked (m.end_suffix CMD args t id)
  exact ⟨h _ _, h _ _, h _ _⟩

/-- The answer to 1000 letters that are no command repeats them, and has no room for its end. -/
theorem not_endsCommand_echo :
    ¬ EndsCommand (Checked.make_responce "00000000".toList
      (STATE_COMMAND_RESP_FAIL_1S (List.replicate 1000 'a'))) := by
  intro h
  have hc : Checked.make_responce "00000000".toList
      (STATE_COMMAND_RESP_FAIL_1S (List.replicate 1000 'a')) = some (make_responce "00000000".toList
        (STATE_COMMAND_RESP_FAIL_1S (List.replicate 1000 'a'))) :=
    make_responce_checked (by decide +kernel)
  exact absurd (h _ hc).2 (by decide +kernel)

end SiteOnYourDevice
