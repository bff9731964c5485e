import SiteOnYourDevice.CommandsOut
import SiteOnYourDevice.ForwardedFrames
import SiteOnYourDevice.SplitArgsPrefix

namespace SiteOnYourDevice
open CString Sds
set_option relaxedAutoImplicit false
set_option autoImplicit true

variable {host rest msg id v w : Str} {env : Env} {m : Message}

/-- The first word of a command: a beginning of its line that ends at a separator splits with it
first. -/
def FirstWord (v w : Str) : Prop :=
  ∃ p c q ws, v ++ END_OF_COMMAND = p ++ c :: q ∧ isTokenEnd c = true ∧
    sdssplitargs p = some (w :: ws)

/-- What fits of the line behind the id and its blank. -/
def seenCommand (id v : Str) : Str :=
  (v ++ END_OF_COMMAND).take (MAX_COMMAND_SIZE - 4 - id.length)

theorem prefix_seenCommand (id v : Str) : seenCommand id v <+: v ++ END_OF_COMMAND :=
  List.take_prefix _ _

/-- What is read first in a part of a line is a beginning of its first word. -/
theorem FirstWord.of_seen (h : FirstWord v w) {u : Str} {us : List Str}
    (hp : u <+: v ++ END_OF_COMMAND) {w' : Str} (hu : sdssplitargs u = some (w' :: us)) :
    w' <+: w := by
  obtain ⟨p, c, q, ws, hv, hc, hw⟩ := h
  rw [hv] at hp
  obtain ⟨x, rfl⟩ | ⟨x, rfl⟩ := List.prefix_or_prefix_of_prefix hp (List.prefix_append p (c :: q))
  · exact first_of_prefix hu hw
  · cases x with
    | nil =>
      rw [List.append_nil, hw] at hu
      cases hu
      exact List.prefix_rfl
    | cons d x =>
      obtain ⟨rfl, _⟩ := List.cons_prefix_cons.1 ((List.prefix_append_right_inj p).1 hp)
      rw [first_of_separator hw hc hu]

theorem strchr_line (hid : ' ' ∉ id) (v : Str) :
    strchr ' ' ((id ++ ' ' :: v ++ END_OF_COMMAND).take (MAX_COMMAND_SIZE - 3)) =
      if id.length + 4 ≤ MAX_COMMAND_SIZE then some (id, ' ' :: seenCommand id v) else none := by
  have hm : 4 ≤ MAX_COMMAND_SIZE := by decide
  rw [List.append_assoc, List.take_append]
  split
  · rename_i hl
    have hsucc : MAX_COMMAND_SIZE - 3 - id.length = MAX_COMMAND_SIZE - 4 - id.length + 1 := by omega
    rw [List.take_of_length_le (by omega), hsucc, List.cons_append, List.take_succ_cons,
      strchr_append hid]
    rfl
  · rename_i hl
    have hzero : MAX_COMMAND_SIZE - 3 - id.length = 0 := by omega
    rw [hzero, List.take_zero, List.append_nil, strchr_eq_none_iff]
    exact fun hb => hid (List.mem_of_mem_take hb)

namespace InnerServerHandlerHost
variable {s s' : InnerServerHandlerHost}

/-- A scanned message has an id, and what fits of the line behind it. -/
theorem scanMessage_parts (h : cstr msg = host ++ ' ' :: rest) (hh : ' ' ∉ host)
    (hm : scanMessage msg = .inr m) :
    ∃ v, rest = m.id ++ ' ' :: v ∧ ' ' ∉ m.id ∧ m.cmd = ' ' :: seenCommand m.id v := by
  rw [scanMessage_eq h hh] at hm
  split at hm
  · cases hm
  · rename_i id cmd hs
    cases hm
    have hb : ' ' ∈ rest := by
      apply List.mem_of_mem_take
      rw [← blank_mem_take]
      by_contra hno
      rw [strchr_eq_none_iff.2 hno] at hs
      cases hs
    obtain ⟨a, v, rfl, ha⟩ := List.eq_append_cons_of_mem hb
    rw [strchr_line ha] at hs
    split at hs
    · cases hs
      exact ⟨v, rfl, ha, rfl⟩
    · cases hs

/-- A message without an id that can be seen is answered with a text the page cannot read. -/
theorem scanMessage_problem (h : cstr msg = host ++ ' ' :: rest) (hh : ' ' ∉ host) {resp : Str}
    (hm : scanMessage msg = .inl resp) : parse_command_out resp = none := by
  rw [scanMessage_eq h hh] at hm
  split at hm
  · cases hm
    rfl
  · cases hm

/-- The host is not connected, or its connection cannot be written to. -/
def CannotForward (env : Env) (s : InnerServerHandlerHost) (host : Str) : Prop :=
  s.parent_.findInnerConnectionByHost host = none ∨
    ∃ fclient, s.parent_.findInnerConnectionByHost host = some fclient ∧
      (s.parent_.clients fclient).isSome = true ∧ env.writeError s.writes.length ≠ none

/-- On both paths the answer is the one of `publishFail`. -/
theorem CannotForward.handleMessage (hf : CannotForward env s m.host)
    (hm : scanMessage msg = .inr m) :
    ∃ cause t, t.commands_out = s.commands_out ∧
      s.handleMessage env msg = publishFail cause m.id m.cmd t := by
  rw [handleMessage_eq, hm]
  rcases hf with hnone | ⟨fclient, hsome, hlive, herr⟩
  · exact ⟨CAUSE_NOT_CONNECTED, s, rfl, by simp only [hnone]⟩
  · refine ⟨CAUSE_NOT_HANDLED, (s.Write env fclient (forwarded env m.rest)).2, rfl, ?_⟩
    simp only [hsome, if_pos hlive, writeMessage]
    split
    · rename_i err t ht
      rw [ht]
    · rename_i t ht
      exact absurd (congrArg Prod.fst ht) herr

/-- The page reads the id and the failure, and of the word what stands before a blank or a NUL. -/
theorem parse_fail (hid : ' ' ∉ id) (cause w : Str) :
    ∃ o, parse_command_out (SERVER_COMMANDS_OUT_FAIL_2US cause id (cstr w)) = some o ∧
      o.id = id ∧ o.status = .FAIL ∧ o.command <+: w ∧
      (o.command = w ↔ ' ' ∉ w ∧ '\x00' ∉ w) := by
  have hpre : cstr w <+: w := List.takeWhile_prefix _
  have ht : SERVER_COMMANDS_OUT_FAIL_2US cause id (cstr w) =
      id ++ ' ' :: STATUS.FAIL.text ++ ' ' :: (cstr w ++ ' ' :: cause) := by
    simp [SERVER_COMMANDS_OUT_FAIL_2US, FAIL_COMMAND, STATUS.text]
  rw [ht, parse_command_out_head hid]
  by_cases hb : ' ' ∈ cstr w
  · obtain ⟨d, r, hd, hdb⟩ := List.eq_append_cons_of_mem hb
    rw [hd, List.append_assoc, List.cons_append, (parseFrom_command hdb _ _ _).2]
    refine ⟨_, rfl, rfl, rfl, ?_, ?_⟩
    · exact (hd ▸ List.prefix_append d (' ' :: r)).trans hpre
    · apply iff_of_false
      · rintro rfl
        exact hdb (mem_cstr hb)
      · exact fun hno => hno.1 (mem_cstr hb)
  · rw [(parseFrom_command hb _ _ _).2]
    refine ⟨_, rfl, rfl, rfl, hpre, ?_⟩
    apply Iff.intro
    · intro he
      exact ⟨he ▸ hb, cstr_eq_self.1 he⟩
    · intro hno
      exact cstr_eq_self.2 hno.2

/-- Exactly one message is published, which the page reads as the failure of the request: its id
and the first word of its command. -/
def AnswersFailure (env : Env) (s : InnerServerHandlerHost) (msg rest : Str) : Prop :=
  ∃ s' text id v w o, s.handleMessage env msg = some s' ∧
    s'.commands_out = s.commands_out ++ [⟨text, none⟩] ∧
    rest = id ++ ' ' :: v ∧ ' ' ∉ id ∧ FirstWord v w ∧
    parse_command_out text = some o ∧ o.id = id ∧ o.status = .FAIL ∧ o.command = w

/-- A request with an id, whose command begins with a plain word that is also the first one of what
fits into the buffer. -/
def Answerable (rest : Str) : Prop :=
  ∃ id v w ws, rest = id ++ ' ' :: v ∧ ' ' ∉ id ∧ FirstWord v w ∧
    sdssplitargs (seenCommand id v) = some (w :: ws) ∧ ' ' ∉ w ∧ '\x00' ∉ w

theorem publishFail_some {cause cmd : Str} {t : InnerServerHandlerHost}
    (h : publishFail cause id cmd t = some s') :
    ∃ w ws, sdssplitargs cmd = some (w :: ws) ∧
      s' = t.publish_command_out (SERVER_COMMANDS_OUT_FAIL_2US cause id (cstr w)) := by
  rw [publishFail] at h
  split at h
  · rename_i w ws hw
    cases h
    exact ⟨w, ws, hw, rfl⟩
  · cases h

/-- The answer to a request that cannot be forwarded is right exactly when it is answerable. -/
theorem answersFailure_iff (h : cstr msg = host ++ ' ' :: rest) (hh : ' ' ∉ host)
    (hf : CannotForward env s host) : AnswersFailure env s msg rest ↔ Answerable rest := by
  cases hm : scanMessage msg with
  | inl resp =>
    apply iff_of_false
    · rintro ⟨s', text, _, _, _, o, hs', hout, _, _, _, hparse, _⟩
      rw [handleMessage_eq, hm] at hs'
      cases hs'
      simp only [publish_command_out, List.append_cancel_left_eq, List.cons.injEq,
        Published.mk.injEq, and_true] at hout
      rw [← hout, scanMessage_problem h hh hm] at hparse
      cases hparse
    · rintro ⟨id, v, w, ws, rfl, hid, _, hseen, _⟩
      rw [scanMessage_eq h hh, strchr_line hid] at hm
      by_cases hl : id.length + 4 ≤ MAX_COMMAND_SIZE
      · rw [if_pos hl] at hm
        cases hm
      · have hzero : MAX_COMMAND_SIZE - 4 - id.length = 0 := by omega
        rw [seenCommand, hzero, List.take_zero] at hseen
        cases hseen
  | inr m =>
    obtain ⟨rfl, _⟩ := scanMessage_rest h hh hm
    obtain ⟨v, rfl, hid, hcmd⟩ := scanMessage_parts h hh hm
    obtain ⟨cause, t, ht, hmsg⟩ := hf.handleMessage hm
    rw [hcmd] at hmsg
    apply Iff.intro
    · rintro ⟨s', text, id', v', w, o, hs', hout, hrest, hid', hw, hparse, hoid, hst, hoc⟩
      obtain ⟨rfl, rfl⟩ := cut_unique hid hid' hrest
      obtain ⟨w', ws, hseen, rfl⟩ := publishFail_some (hmsg ▸ hs')
      rw [sdssplitargs_blank] at hseen
      simp only [publish_command_out, ht, List.append_cancel_left_eq, List.cons.injEq,
        Published.mk.injEq, and_true] at hout
      obtain ⟨o', ho', _, _, hpre, hiff⟩ := parse_fail hid cause w'
      rw [hout, hparse] at ho'
      cases ho'
      have hww : w' = w := by
        apply (hw.of_seen (prefix_seenCommand _ _) hseen).eq_of_length_le
        exact (hoc ▸ hpre).length_le
      subst hww
      obtain ⟨hb, hz⟩ := hiff.1 hoc
      exact ⟨m.id, v, w', ws, rfl, hid, hw, hseen, hb, hz⟩
    · rintro ⟨id', v', w, ws, hrest, hid', hw, hseen, hb, hz⟩
      obtain ⟨rfl, rfl⟩ := cut_unique hid hid' hrest
      obtain ⟨o, ho, hoid, hst, _, hiff⟩ := parse_fail hid cause w
      refine ⟨t.publish_command_out (SERVER_COMMANDS_OUT_FAIL_2US cause m.id (cstr w)), _, m.id, v,
        w, o, ?_, ?_, rfl, hid, hw, ho, hoid, hst, hiff.2 ⟨hb, hz⟩⟩
      · rw [hmsg, publishFail, sdssplitargs_blank, hseen]
      · rw [← ht]
        rfl

theorem answersFailure_ping :
    AnswersFailure .calm init "dev 7 ping".toList "7 ping".toList ↔ Answerable "7 ping".toList :=
  have hh : ' ' ∉ "dev".toList := by decide
  answersFailure_iff (by decide) hh (.inl rfl)

/-- A quote that is never closed: `argv` is NULL and its first entry is read. -/
theorem not_answersFailure_quote :
    ¬ AnswersFailure .calm init "dev 7 \"ping".toList "7 \"ping".toList := by
  rintro ⟨s', _, _, _, _, _, hs', _⟩
  have hnone : (init.handleMessage .calm "dev 7 \"ping".toList).isNone = true := by decide +kernel
  rw [hs'] at hnone
  cases hnone

end InnerServerHandlerHost

end SiteOnYourDevice
