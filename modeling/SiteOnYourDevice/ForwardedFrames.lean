import SiteOnYourDevice.FrameGrammar
import SiteOnYourDevice.LookedUpConnections

namespace SiteOnYourDevice
open CString Sds
set_option relaxedAutoImplicit false
set_option autoImplicit true

variable {host rest msg : Str} {env : Env}

theorem cstr_rest_plain (h : cstr msg = host ++ ' ' :: rest) : '\x00' ∉ rest := by
  intro hz
  apply nul_not_mem_cstr msg
  rw [h]
  exact List.mem_append_right host (List.mem_cons_of_mem ' ' hz)

/-- The text of a forwarded request before it is cut. -/
def requestText (rest : Str) : Str := CID_FMT REQUEST_COMMAND ++ ' ' :: rest ++ END_OF_COMMAND

theorem requestText_eq (rest : Str) :
    requestText rest = '0' :: ' ' :: (rest ++ END_OF_COMMAND) := by
  have hc : CID_FMT REQUEST_COMMAND = ['0'] := by decide
  rw [requestText, hc]
  rfl

theorem requestText_length (rest : Str) : (requestText rest).length = rest.length + 4 := by
  rw [requestText_eq, List.length_cons, List.length_cons, List.length_append]
  rfl

theorem requestText_plain (h : '\x00' ∉ rest) : '\x00' ∉ requestText rest := by
  simp [requestText_eq, END_OF_COMMAND, h]

namespace InnerServerHandlerHost

/-- The id is looked for in what fits behind the type. -/
theorem scanMessage_eq (h : cstr msg = host ++ ' ' :: rest) (hh : ' ' ∉ host) :
    scanMessage msg =
      match strchr ' ' ((rest ++ END_OF_COMMAND).take (MAX_COMMAND_SIZE - 3)) with
      | none => .inl ("PROBLEM EXTRACTING ID: ".toList ++ rest)
      | some (id, cmd) => .inr ⟨host, rest, id, cmd⟩ := by
  have hplain := cstr_rest_plain h
  have hbuff : buffText (requestText rest) =
      '0' :: ' ' :: (rest ++ END_OF_COMMAND).take (MAX_COMMAND_SIZE - 3) := by
    rw [buffText, cstr_of_nul_free, requestText_eq]
    · rfl
    · intro hz
      exact requestText_plain hplain (List.mem_of_mem_take hz)
  have hs := strtoul_digit (c := '0') (d := ' ') rfl rfl
    ((rest ++ END_OF_COMMAND).take (MAX_COMMAND_SIZE - 3))
  rw [scanMessage, h, strchr_append hh]
  simp only [List.tail_cons]
  rw [← requestText, hbuff, hs]
  rfl

/-- What the buffer holds of a text, in its whole length, and what stands behind it. -/
theorem forwarded_eq (env : Env) (rest : Str) :
    forwarded env rest =
      ((requestText rest).take (MAX_COMMAND_SIZE - 1) ++
        List.replicate (MAX_COMMAND_SIZE - ((requestText rest).take (MAX_COMMAND_SIZE - 1)).length)
          '\x00' ++
        (List.range ((requestText rest).length - MAX_COMMAND_SIZE)).map env.behindBuff).take
        (requestText rest).length :=
  rfl

theorem forwarded_length (env : Env) (rest : Str) :
    (forwarded env rest).length = rest.length + 4 := by
  rw [forwarded_eq, List.length_take, List.length_append, List.length_append, List.length_replicate,
    List.length_map, List.length_range, List.length_take, requestText_length]
  omega

theorem forwarded_of_fits (h : rest.length + 5 ≤ MAX_COMMAND_SIZE) :
    forwarded env rest = requestText rest := by
  have hl := requestText_length rest
  rw [forwarded_eq, List.take_of_length_le (i := MAX_COMMAND_SIZE - 1) (by omega),
    List.append_assoc]
  exact List.take_left

/-- A text of the length of the buffer loses its last byte to the NUL. -/
theorem forwarded_nul (h : rest.length + 4 = MAX_COMMAND_SIZE) : '\x00' ∈ forwarded env rest := by
  have hl := requestText_length rest
  have ht : ((requestText rest).take (MAX_COMMAND_SIZE - 1)).length = MAX_COMMAND_SIZE - 1 := by
    rw [List.length_take]
    omega
  have hone : MAX_COMMAND_SIZE - (MAX_COMMAND_SIZE - 1) = 1 := by decide
  rw [forwarded_eq, ht, hone, hl, h, Nat.sub_self, List.range_zero, List.map_nil, List.append_nil,
    List.take_of_length_le]
  · exact List.mem_append_right _ (List.mem_singleton_self _)
  · rw [List.length_append, ht, List.length_replicate]
    decide

end InnerServerHandlerHost

/-- The bytes passed to `Write` for a message are one frame, the request with the id that is
subscribed. -/
structure IsBoundedFrame (m : Message) (data : Str) : Prop where
  fits : data.length ≤ MAX_COMMAND_SIZE
  text : data = requestText m.rest
  one_end : ¬ END_OF_COMMAND <:+: data.dropLast
  request : ∃ argv, frameOf data = some ⟨REQUEST_COMMAND, m.id, argv⟩

/-- What can be forwarded: it fits with its end and a NUL, holds no end of a command, and behind
the id there is something that splits. -/
structure Forwardable (rest : Str) : Prop where
  fits : rest.length + 5 ≤ MAX_COMMAND_SIZE
  one_line : ¬ END_OF_COMMAND <:+: rest
  command : ∃ id v, rest = id ++ ' ' :: v ∧ ' ' ∉ id ∧ (sdssplitargs v).isSome = true

theorem not_infix_concat_cr (h : ¬ END_OF_COMMAND <:+: a) : ¬ END_OF_COMMAND <:+: a ++ ['\r'] := by
  rw [List.infix_concat_iff, not_or]
  refine ⟨?_, h⟩
  rintro ⟨t, ht⟩
  have hlast := congrArg List.getLast? ht
  simp [END_OF_COMMAND] at hlast

theorem one_line_iff (rest : Str) :
    ¬ END_OF_COMMAND <:+: (requestText rest).dropLast ↔ ¬ END_OF_COMMAND <:+: rest := by
  have hd : (requestText rest).dropLast = ('0' :: ' ' :: rest) ++ ['\r'] := by
    have ht : requestText rest = (('0' :: ' ' :: rest) ++ ['\r']) ++ ['\n'] := by
      rw [requestText_eq]
      simp [END_OF_COMMAND]
    rw [ht, List.dropLast_concat]
  rw [hd]
  apply Iff.intro
  · intro h hi
    exact h (hi.trans ⟨['0', ' '], ['\r'], rfl⟩)
  · intro h
    apply not_infix_concat_cr
    simp [List.infix_cons_iff, END_OF_COMMAND, List.cons_prefix_cons] at h ⊢
    exact h

/-- A request of one line is read back with the id before its first blank. -/
theorem frameOf_requestText {id v : Str} (hz : '\x00' ∉ id ++ ' ' :: v) (hid : ' ' ∉ id)
    (hline : ¬ END_OF_COMMAND <:+: id ++ ' ' :: v) :
    frameOf (requestText (id ++ ' ' :: v)) =
      (sdssplitargs v).map fun argv => ⟨REQUEST_COMMAND, id, argv⟩ := by
  have hl : scanCommand (requestText (id ++ ' ' :: v)) =
      .command REQUEST_COMMAND id (' ' :: v) ('0' :: ' ' :: id ++ ' ' :: v) := by
    have ht : requestText (id ++ ' ' :: v) =
        '0' :: ' ' :: id ++ ' ' :: v ++ END_OF_COMMAND ++ [] := by
      rw [requestText_eq, List.append_nil]
      simp
    rw [ht, scanCommand_line, scanLine_digit rfl hid]
    · rfl
    · simpa using hz
    · simp [List.infix_cons_iff, END_OF_COMMAND, List.cons_prefix_cons] at hline ⊢
      exact hline
  rw [frameOf_command hl, sdssplitargs_blank]
  cases sdssplitargs v with
  | none => rfl
  | some argv => rfl

/-- The cut between the id and the rest of a scanned message. -/
theorem scanned_cut {id cmd : Str} (hrest : ' ' ∈ rest)
    (h : strchr ' ' (rest ++ END_OF_COMMAND) = some (id, cmd)) :
    ∃ v, rest = id ++ ' ' :: v ∧ ' ' ∉ id ∧ cmd = ' ' :: v ++ END_OF_COMMAND := by
  obtain ⟨a, v, rfl, ha⟩ := List.eq_append_cons_of_mem hrest
  rw [List.append_assoc, List.cons_append, strchr_append ha] at h
  cases h
  exact ⟨v, rfl, ha, rfl⟩

namespace InnerServerHandlerHost

variable {m : Message} {s : InnerServerHandlerHost} {fclient : ClientId}

theorem scanMessage_rest (h : cstr msg = host ++ ' ' :: rest) (hh : ' ' ∉ host)
    (hm : scanMessage msg = .inr m) : m.host = host ∧ m.rest = rest := by
  rw [scanMessage_eq h hh] at hm
  split at hm <;> cases hm
  exact ⟨rfl, rfl⟩

/-- The bytes of a message with an id are a bounded frame exactly when it can be forwarded. -/
theorem isBoundedFrame_iff (h : cstr msg = host ++ ' ' :: rest) (hh : ' ' ∉ host)
    (hm : scanMessage msg = .inr m) :
    IsBoundedFrame m (forwarded env rest) ↔ Forwardable rest := by
  have hz := cstr_rest_plain h
  obtain ⟨_, hrest⟩ := scanMessage_rest h hh hm
  have hlen := forwarded_length env rest
  have hcut : rest.length + 5 ≤ MAX_COMMAND_SIZE →
      strchr ' ' (rest ++ END_OF_COMMAND) = some (m.id, m.cmd) := by
    intro hfits
    have he : (rest ++ END_OF_COMMAND).length = rest.length + 2 := List.length_append
    rw [scanMessage_eq h hh, List.take_of_length_le (by omega)] at hm
    split at hm
    · cases hm
    · rename_i hs
      cases hm
      exact hs
  apply Iff.intro
  · rintro ⟨hfits, htext, hone, argv, hreq⟩
    rw [hrest] at htext
    have hl : rest.length + 5 ≤ MAX_COMMAND_SIZE := by
      by_contra hno
      have hnul : '\x00' ∈ forwarded env rest := forwarded_nul (by omega)
      rw [htext] at hnul
      exact requestText_plain hz hnul
    rw [htext, one_line_iff] at hone
    have hid : ' ' ∈ rest := by
      obtain ⟨r, _, hr⟩ := strchr_eq_some (hcut hl)
      have hmem : ' ' ∈ rest ++ END_OF_COMMAND := hr ▸ List.mem_append_right _ List.mem_cons_self
      exact (List.mem_append.1 hmem).resolve_right (by decide)
    obtain ⟨v, hv, hplain, _⟩ := scanned_cut hid (hcut hl)
    refine ⟨hl, hone, m.id, v, hv, hplain, ?_⟩
    rw [htext, hv, frameOf_requestText (hv ▸ hz) hplain (hv ▸ hone)] at hreq
    obtain ⟨w, hw, _⟩ := Option.map_eq_some_iff.1 hreq
    exact hw ▸ rfl
  · rintro ⟨hl, hone, id, v, hv, hplain, hargv⟩
    have htext : forwarded env rest = requestText rest := forwarded_of_fits hl
    refine ⟨by omega, by rw [htext, hrest], ?_, ?_⟩
    · rw [htext, one_line_iff]
      exact hone
    · obtain ⟨argv, ha⟩ := Option.isSome_iff_exists.1 hargv
      have hid := hcut hl
      rw [hv, List.append_assoc, List.cons_append, strchr_append hplain] at hid
      have hmid : id = m.id := congrArg Prod.fst (Option.some.inj hid)
      refine ⟨argv, ?_⟩
      rw [htext, hv, frameOf_requestText (hv ▸ hz) hplain (hv ▸ hone), ha, hmid]
      rfl

/-- A message for the connection `fclient` is rejected with a published text, or written as a
bounded frame of the request. -/
def ForwardsFrame (env : Env) (fclient : ClientId) (s : InnerServerHandlerHost) (msg : Str) :
    Prop :=
  (∃ resp, s.handleMessage env msg = some (s.publish_command_out resp)) ∨
    ∃ m, scanMessage msg = .inr m ∧ s.handleMessage env msg = s.writeMessage env fclient m ∧
      IsBoundedFrame m (forwarded env m.rest)

/-- A message that is written does not count as rejected. -/
theorem writeMessage_ne (resp : Str) :
    s.writeMessage env fclient m ≠ some (s.publish_command_out resp) := by
  intro h
  have hw : ∀ t, s.writeMessage env fclient m = some t → t.writes ≠ s.writes := by
    intro t ht
    rw [writeMessage] at ht
    split at ht
    · rename_i err u hu
      obtain ⟨_, rfl⟩ := publishFail_eq ht
      obtain rfl : (s.Write env fclient (forwarded env m.rest)).2 = u := congrArg Prod.snd hu
      simp [Write, publish_command_out]
    · rename_i u hu
      cases ht
      obtain rfl : (s.Write env fclient (forwarded env m.rest)).2 = u := congrArg Prod.snd hu
      simp [Write]
  exact hw _ h rfl

theorem handleMessage_connected {env : Env} (hm : scanMessage msg = .inr m)
    (hf : s.parent_.findInnerConnectionByHost m.host = some fclient)
    (hlive : (s.parent_.clients fclient).isSome = true) :
    s.handleMessage env msg = s.writeMessage env fclient m := by
  rw [handleMessage_eq, hm]
  simp only [hf, if_pos hlive]

theorem forwardsFrame_scanned (hm : scanMessage msg = .inr m)
    (hf : s.parent_.findInnerConnectionByHost m.host = some fclient)
    (hlive : (s.parent_.clients fclient).isSome = true) :
    ForwardsFrame env fclient s msg ↔ IsBoundedFrame m (forwarded env m.rest) := by
  have hwrite : s.handleMessage env msg = s.writeMessage env fclient m :=
    handleMessage_connected hm hf hlive
  apply Iff.intro
  · rintro (⟨resp, hresp⟩ | ⟨m', hm', _, hbounded⟩)
    · rw [hwrite] at hresp
      exact absurd hresp (writeMessage_ne resp)
    · rw [hm] at hm'
      cases hm'
      exact hbounded
  · intro hbounded
    exact .inr ⟨m, hm, hwrite, hbounded⟩

/-- A blank is among what fits behind the type when it is among what fits of the message. -/
theorem blank_mem_take (rest : Str) (n : Nat) :
    ' ' ∈ (rest ++ END_OF_COMMAND).take n ↔ ' ' ∈ rest.take n := by
  rw [List.take_append, List.mem_append]
  apply or_iff_left
  intro hc
  exact absurd (List.mem_of_mem_take hc) (by decide)

/-- A message is forwarded as one bounded frame, or rejected, exactly when no id can be seen in
what fits into the buffer or it can be forwarded. -/
theorem forwardsFrame_iff (h : cstr msg = host ++ ' ' :: rest) (hh : ' ' ∉ host)
    (hf : s.parent_.findInnerConnectionByHost host = some fclient)
    (hlive : (s.parent_.clients fclient).isSome = true) :
    ForwardsFrame env fclient s msg ↔
      ' ' ∉ rest.take (MAX_COMMAND_SIZE - 3) ∨ Forwardable rest := by
  have hscan := scanMessage_eq h hh
  rw [← blank_mem_take]
  cases hs : strchr ' ' ((rest ++ END_OF_COMMAND).take (MAX_COMMAND_SIZE - 3)) with
  | none =>
    simp only [hs] at hscan
    apply iff_of_true
    · left
      exact ⟨_, by rw [handleMessage_eq, hscan]⟩
    · left
      exact strchr_eq_none_iff.1 hs
  | some x =>
    simp only [hs] at hscan
    rw [forwardsFrame_scanned hscan hf hlive, isBoundedFrame_iff h hh hscan]
    apply (or_iff_right _).symm
    intro hno
    rw [strchr_eq_none_iff.2 hno] at hs
    cases hs

/-- The device `dev` is connected. -/
def connected : InnerServerHandlerHost :=
  { init with
    parent_ := HttpServerHost.init.accept.registerInnerConnectionByUser
      ⟨['u'], ['p'], ⟨"dev".toList, 80⟩⟩ 0 }

theorem forwardsFrame_ping :
    ForwardsFrame .calm 0 connected "dev 7 ping".toList ↔
      ' ' ∉ "7 ping".toList.take (MAX_COMMAND_SIZE - 3) ∨ Forwardable "7 ping".toList :=
  have hh : ' ' ∉ "dev".toList := by decide
  forwardsFrame_iff (by decide) hh rfl rfl

/-- An argument of 1100 letters: 1111 bytes are written from the buffer of 1024. -/
theorem not_forwardsFrame_long :
    ¬ ForwardsFrame .calm 0 connected ("dev 7 ping ".toList ++ List.replicate 1100 'a') := by
  have hmsg : cstr ("dev 7 ping ".toList ++ List.replicate 1100 'a') =
      "dev".toList ++ ' ' :: ("7 ping ".toList ++ List.replicate 1100 'a') := by
    rw [cstr_of_nul_free]
    · rfl
    · intro hz
      obtain hz | hz := List.mem_append.1 hz
      · exact absurd hz (by decide)
      · exact absurd (List.eq_of_mem_replicate hz) (by decide)
  have hscan := scanMessage_eq hmsg (by decide)
  rw [forwardsFrame_scanned (m := ⟨"dev".toList, _, ['7'], _⟩) hscan rfl rfl]
  intro h
  have hfits := h.fits
  rw [forwarded_length, List.length_append, List.length_replicate] at hfits
  exact absurd hfits (by decide)

end InnerServerHandlerHost

end SiteOnYourDevice
