import SiteOnYourDevice.CommandFraming

namespace SiteOnYourDevice
open CString Sds InnerServerCommandSeqParser
set_option relaxedAutoImplicit false
set_option autoImplicit true

/-- What the parser does with a buffer. The `NOTREACHED` does nothing. -/
inductive ParserEvent
  | wrote (text : Str)
  | closed
  | called (c : Command)
deriving DecidableEq

namespace InnerServerCommandSeqParser

/-- The same parser with a record of what it writes, closes and calls. -/
def recorded (p : InnerServerCommandSeqParser σ) :
    InnerServerCommandSeqParser (σ × List ParserEvent) where
  next_id x := ((p.next_id x.1).1, (p.next_id x.1).2, x.2)
  processRequest id argv x := (p.processRequest id argv x.1, x.2)
  Write text x := (p.Write text x.1, x.2 ++ [.wrote text])
  Close x := (p.Close x.1, x.2 ++ [.closed])
  handleInnerRequestCommand id argv x :=
    (p.handleInnerRequestCommand id argv x.1, x.2 ++ [.called ⟨REQUEST_COMMAND, id, argv⟩])
  handleInnerResponceCommand id argv x :=
    (p.handleInnerResponceCommand id argv x.1, x.2 ++ [.called ⟨RESPONCE_COMMAND, id, argv⟩])
  handleInnerApproveCommand id argv x :=
    (p.handleInnerApproveCommand id argv x.1, x.2 ++ [.called ⟨APPROVE_COMMAND, id, argv⟩])

def events (p : InnerServerCommandSeqParser σ) (buff : Str) (s : σ) : List ParserEvent :=
  (p.recorded.handleInnerDataReceived buff (s, [])).2

end InnerServerCommandSeqParser

/-- One fail response, then the end of the connection. -/
def refusal (id : cmd_seq_t) (buff : Str) : List ParserEvent :=
  [.wrote (make_responce id (STATE_COMMAND_RESP_FAIL_1S buff)).cmd_, .closed]

/-- The text of a buffer before its first CR LF. -/
def IsLine (buff line : Str) : Prop :=
  ∃ after, strstr END_OF_COMMAND (cstr buff) = some (line, after)

/-- A line in the three parts its scans see: what `strtoul` reads, an id and the rest. -/
structure CutsInto (line n : Str) (id : cmd_seq_t) (v : Str) : Prop where
  line_eq : line = n ++ ' ' :: id ++ ' ' :: v
  numeral : (strtoul line).2 = ' ' :: id ++ ' ' :: v
  id_plain : ' ' ∉ id

variable {p : InnerServerCommandSeqParser σ} {s : σ} {id : cmd_seq_t} {argv : List Str}
  {buff cmd : Str} {seq : cmd_id_t}

theorem IsLine.unique (h : IsLine buff a) (h' : IsLine buff b) : a = b := by
  obtain ⟨x, hx⟩ := h
  obtain ⟨y, hy⟩ := h'
  rw [hx] at hy
  cases hy
  rfl

theorem scanCommand_eq_command_iff :
    scanCommand buff = .command seq id cmd b ↔
      ∃ n v, IsLine buff b ∧ CutsInto b n id v ∧ seq = UInt8.ofNat (strtoul b).1 ∧
        cmd = ' ' :: v := by
  apply Iff.intro
  · intro h
    rw [scanCommand] at h
    split at h
    · cases h
    · rename_i line after hline
      obtain ⟨n, v, hseq, rfl, hcut, hid, hstar, _⟩ := scanLine_eq_command h
      have hb : b = line := by
        rw [scanLine] at h
        split at h
        · split at h <;> cases h
          rfl
        · cases h
      subst hb
      exact ⟨n, v, ⟨after, hline⟩, ⟨hcut, hstar, hid⟩, hseq, rfl⟩
  · rintro ⟨n, v, ⟨after, hline⟩, hcut, rfl, rfl⟩
    have hstar : strtoul b = ((strtoul b).1, ' ' :: (id ++ ' ' :: v)) :=
      Prod.ext rfl hcut.numeral
    simp only [scanCommand, hline]
    rw [scanLine, hstar]
    simp only [strchr_append hcut.id_plain]

theorem events_malformed (h : scanCommand buff = .malformed b)
    (p : InnerServerCommandSeqParser σ) (s : σ) :
    p.events buff s = refusal (p.next_id s).1 b := by
  rw [events, handleInnerDataReceived_malformed h]
  rfl

theorem events_unbalanced (h : scanCommand buff = .command seq id cmd b)
    (ha : sdssplitargs cmd = none) (p : InnerServerCommandSeqParser σ) (s : σ) :
    p.events buff s = refusal id b := by
  simp only [events, handleInnerDataReceived, h, ha]
  rfl

theorem events_command (h : scanCommand buff = .command seq id cmd b)
    (ha : sdssplitargs cmd = some argv) (p : InnerServerCommandSeqParser σ) (s : σ) :
    p.events buff s = if IsType seq then [.called ⟨seq, id, argv⟩] else [] := by
  rw [events, handleInnerDataReceived_command h ha]
  split
  · rename_i ht
    rcases ht with rfl | rfl | rfl <;> rfl
  · rename_i ht
    simp only [IsType, not_or] at ht
    simp only [dispatch, callHandler, ht.1, ht.2.1, ht.2.2, if_false]
    rfl

/-- A handler is called with the parts of a line, and with nothing else around it. -/
theorem mem_events_called {c : Command} (h : .called c ∈ p.events buff s) :
    ∃ line n v, IsLine buff line ∧ CutsInto line n c.id v ∧
      c.seq = UInt8.ofNat (strtoul line).1 ∧ IsType c.seq ∧ sdssplitargs v = some c.argv := by
  cases hs : scanCommand buff with
  | malformed b =>
    rw [events_malformed hs] at h
    simp [refusal] at h
  | command seq id cmd b =>
    obtain ⟨n, v, hline, hcut, hseq, rfl⟩ := scanCommand_eq_command_iff.1 hs
    cases ha : sdssplitargs (' ' :: v) with
    | none =>
      rw [events_unbalanced hs ha] at h
      simp [refusal] at h
    | some argv =>
      rw [events_command hs ha] at h
      split at h
      · rename_i ht
        obtain rfl := ParserEvent.called.inj (List.mem_singleton.1 h)
        exact ⟨b, n, v, hline, hcut, hseq, ht, sdssplitargs_blank v ▸ ha⟩
      · exact absurd h List.not_mem_nil

theorem splitFrom_blank_eq_nil (h : splitFrom .blank [] cmd = some []) :
    ∀ c ∈ cmd, isspace c = true := by
  induction cmd with
  | nil => simp
  | cons c cmd ih =>
    cases hc : isspace c with
    | true =>
      rw [splitFrom_blank_space hc] at h
      intro d hd
      obtain rfl | hd := List.mem_cons.1 hd
      · exact hc
      · exact ih h d hd
    | false =>
      -- a token that has been begun is an argument
      rw [splitFrom_blank_char hc] at h
      obtain ⟨w, u, hw, _⟩ := splitFrom_current h (Scan.unquoted_begun [] c).1
      cases hw

theorem sdssplitargs_eq_nil_iff : sdssplitargs cmd = some [] ↔ ∀ c ∈ cmd, isspace c = true := by
  apply Iff.intro
  · intro h
    exact splitFrom_blank_eq_nil h
  · intro h
    rw [sdssplitargs]
    induction cmd with
    | nil => rfl
    | cons c cmd ih =>
      rw [splitFrom_blank_space (h c List.mem_cons_self)]
      exact ih fun d hd => h d (List.mem_cons_of_mem c hd)

/-- The handlers get a command word exactly when what stands behind the id of a line of one of the
three types is not blank. -/
theorem called_with_word_iff (p : InnerServerCommandSeqParser σ) (s : σ) (buff : Str) :
    (∀ c, .called c ∈ p.events buff s → c.argv ≠ []) ↔
      ∀ line n id v, IsLine buff line → CutsInto line n id v →
        IsType (UInt8.ofNat (strtoul line).1) → ∃ c ∈ v, isspace c = false := by
  apply Iff.intro
  · intro h line n id v hline hcut ht
    by_contra hv
    simp only [not_exists, not_and, Bool.not_eq_false] at hv
    have ha : sdssplitargs (' ' :: v) = some [] := by
      rw [sdssplitargs_blank, sdssplitargs_eq_nil_iff]
      exact hv
    have hs := scanCommand_eq_command_iff.2 ⟨n, v, hline, hcut, rfl, rfl⟩
    have he := events_command hs ha p s
    rw [if_pos ht] at he
    exact h ⟨_, id, []⟩ (he ▸ List.mem_singleton_self _) rfl
  · intro h c hc hargv
    obtain ⟨line, n, v, hline, hcut, hseq, ht, ha⟩ := mem_events_called hc
    obtain ⟨d, hd, hspace⟩ := h line n c.id v hline hcut (hseq ▸ ht)
    rw [hargv, sdssplitargs_eq_nil_iff] at ha
    rw [ha d hd] at hspace
    cases hspace

/-- A request of an id and one more blank. -/
theorem called_without_word :
    ¬ ∀ c, .called c ∈ idle.events "0 7 \r\n".toList () → c.argv ≠ [] := by
  intro h
  exact h ⟨REQUEST_COMMAND, ['7'], []⟩ (by decide +kernel) rfl

/-- The texts of the three types. -/
inductive TypeChar : Char → cmd_id_t → Prop
  | request : TypeChar '0' REQUEST_COMMAND
  | responce : TypeChar '1' RESPONCE_COMMAND
  | approve : TypeChar '2' APPROVE_COMMAND

/-- A buffer with the line `T id part`, where the part splits into `argv`. -/
def IsFrame (T : Char) (buff : Str) (id : cmd_seq_t) (argv : List Str) : Prop :=
  ∃ v, IsLine buff (T :: ' ' :: id ++ ' ' :: v) ∧ ' ' ∉ id ∧ sdssplitargs v = some argv

/-- A parser that accepts the frames of the three types, and refuses everything else. -/
structure AcceptsGrammar (buff : Str) (es : List ParserEvent) : Prop where
  dispatched : ∀ T t, TypeChar T t → ∀ id argv,
    es = [.called ⟨t, id, argv⟩] ↔ IsFrame T buff id argv
  refused : (∀ T t, TypeChar T t → ∀ id argv, ¬ IsFrame T buff id argv) →
    ∃ id b, es = refusal id b
  reached : es ≠ []

theorem TypeChar.isType (h : TypeChar T t) : IsType t := by
  cases h <;> decide

theorem TypeChar.cutsInto (h : TypeChar T t) (hid : ' ' ∉ id) (v : Str) :
    CutsInto (T :: ' ' :: id ++ ' ' :: v) [T] id v ∧
      UInt8.ofNat (strtoul (T :: ' ' :: id ++ ' ' :: v)).1 = t := by
  have hd : isdigit T = true ∧ UInt8.ofNat (T.toNat - '0'.toNat) = t := by
    cases h <;> decide
  have hs := strtoul_digit hd.1 (by decide : isdigit ' ' = false) (id ++ ' ' :: v)
  exact ⟨⟨rfl, congrArg Prod.snd hs, hid⟩, congrArg (fun x => UInt8.ofNat x.1) hs ▸ hd.2⟩

theorem TypeChar.events (h : TypeChar T t) (hf : IsFrame T buff id argv)
    (p : InnerServerCommandSeqParser σ) (s : σ) :
    p.events buff s = [.called ⟨t, id, argv⟩] := by
  obtain ⟨v, hline, hid, ha⟩ := hf
  obtain ⟨hcut, ht⟩ := h.cutsInto hid v
  have hs := scanCommand_eq_command_iff.2 ⟨[T], v, hline, hcut, rfl, rfl⟩
  have he := events_command hs (sdssplitargs_blank v ▸ ha) p s
  rw [ht, if_pos h.isType] at he
  exact he

theorem IsType.typeChar (h : IsType t) : ∃ T, TypeChar T t := by
  rcases h with rfl | rfl | rfl
  · exact ⟨'0', .request⟩
  · exact ⟨'1', .responce⟩
  · exact ⟨'2', .approve⟩

theorem TypeChar.inj (h : TypeChar T t) (h' : TypeChar U t) : T = U := by
  cases h <;> cases h' <;> rfl

/-- A line that begins with the text of a type has no other numeral. -/
theorem CutsInto.eq_singleton {n v w : Str} {id' : cmd_seq_t}
    (h : CutsInto (T :: ' ' :: id' ++ ' ' :: w) n id v) (hT : TypeChar T t) : n = [T] := by
  have hd : isdigit T = true := by
    cases hT <;> decide
  have hs := strtoul_digit hd (by decide : isdigit ' ' = false) (id' ++ ' ' :: w)
  have hn := h.numeral
  rw [List.cons_append, List.cons_append, hs] at hn
  have hl := h.line_eq
  rw [List.append_assoc, ← hn] at hl
  exact (List.append_cancel_right hl : [T] = n).symm

section Numerals
variable (h : ∀ line n id v, IsLine buff line → CutsInto line n id v →
  (sdssplitargs v).isSome = true → ∃ T t, TypeChar T t ∧ n = [T])
include h

/-- Without other numerals a call is that of a frame. -/
theorem isFrame_of_called {c : Command} (hc : p.events buff s = [.called c]) :
    ∃ T, TypeChar T c.seq ∧ IsFrame T buff c.id c.argv := by
  obtain ⟨line, n, v, hline, hcut, hseq, _, ha⟩ :=
    mem_events_called (hc ▸ List.mem_singleton_self (ParserEvent.called c))
  obtain ⟨T, t, hT, rfl⟩ := h line n c.id v hline hcut (ha ▸ rfl)
  have hl : line = T :: ' ' :: c.id ++ ' ' :: v := hcut.line_eq
  have ht := (hT.cutsInto hcut.id_plain v).2
  rw [← hl, ← hseq] at ht
  exact ⟨T, ht ▸ hT, v, hl ▸ hline, hcut.id_plain, ha⟩

/-- Without other numerals a buffer is refused, or one handler is called. -/
theorem refused_or_called (p : InnerServerCommandSeqParser σ) (s : σ) :
    (∃ id b, p.events buff s = refusal id b) ∨ ∃ c, p.events buff s = [.called c] := by
  cases hs : scanCommand buff with
  | malformed b => exact .inl ⟨_, b, events_malformed hs p s⟩
  | command seq id cmd b =>
    obtain ⟨n, v, hline, hcut, hseq, rfl⟩ := scanCommand_eq_command_iff.1 hs
    cases ha : sdssplitargs (' ' :: v) with
    | none => exact .inl ⟨id, b, events_unbalanced hs ha p s⟩
    | some argv =>
      obtain ⟨T, t, hT, rfl⟩ := h b n id v hline hcut
        (sdssplitargs_blank v ▸ Option.isSome_iff_exists.2 ⟨argv, ha⟩)
      have hf : IsFrame T buff id argv :=
        ⟨v, hcut.line_eq ▸ hline, hcut.id_plain, sdssplitargs_blank v ▸ ha⟩
      exact .inr ⟨_, hT.events hf p s⟩

end Numerals

/-- The grammar is met exactly when `strtoul` reads no other numeral before an id and a part that
splits: no blanks, sign or leading zeros, no empty numeral and no other number. -/
theorem acceptsGrammar_iff (p : InnerServerCommandSeqParser σ) (s : σ) (buff : Str) :
    AcceptsGrammar buff (p.events buff s) ↔
      ∀ line n id v, IsLine buff line → CutsInto line n id v → (sdssplitargs v).isSome = true →
        ∃ T t, TypeChar T t ∧ n = [T] := by
  apply Iff.intro
  · intro h line n id v hline hcut hv
    obtain ⟨argv, ha⟩ := Option.isSome_iff_exists.1 hv
    have hs := scanCommand_eq_command_iff.2 ⟨n, v, hline, hcut, rfl, rfl⟩
    have he := events_command hs (sdssplitargs_blank v ▸ ha) p s
    split at he
    · rename_i ht
      obtain ⟨T, hT⟩ := ht.typeChar
      obtain ⟨w, hline', _, _⟩ := (h.dispatched T _ hT id argv).1 he
      obtain rfl := hline.unique hline'
      exact ⟨T, _, hT, hcut.eq_singleton hT⟩
    · exact absurd he h.reached
  · intro h
    refine ⟨?_, ?_, ?_⟩
    · intro T t hT id argv
      apply Iff.intro
      · intro he
        obtain ⟨U, hU, hf⟩ := isFrame_of_called h he
        exact hT.inj hU ▸ hf
      · intro hf
        exact hT.events hf p s
    · intro hno
      obtain hr | ⟨c, hc⟩ := refused_or_called h p s
      · exact hr
      · obtain ⟨T, hT, hf⟩ := isFrame_of_called h hc
        exact absurd hf (hno T c.seq hT c.id c.argv)
    · obtain ⟨_, _, hr⟩ | ⟨c, hc⟩ := refused_or_called h p s
      · rw [hr]
        exact List.cons_ne_nil _ _
      · rw [hc]
        exact List.cons_ne_nil _ _

/-- The type 256 is narrowed to that of a request. -/
theorem not_acceptsGrammar_wide :
    ¬ AcceptsGrammar "256 7 ping\r\n".toList (idle.events "256 7 ping\r\n".toList ()) := by
  intro h
  have he : idle.events "256 7 ping\r\n".toList () =
      [.called ⟨REQUEST_COMMAND, ['7'], ["ping".toList]⟩] := by decide +kernel
  obtain ⟨v, ⟨after, hline⟩, _, _⟩ := (h.dispatched _ _ .request _ _).1 he
  have hs : strstr END_OF_COMMAND (cstr "256 7 ping\r\n".toList) =
      some ("256 7 ping".toList, END_OF_COMMAND) := by decide +kernel
  rw [hs] at hline
  have h2 := (Prod.mk.inj (Option.some.inj hline)).1
  exact absurd (congrArg List.head? h2) (by simp)

end SiteOnYourDevice
