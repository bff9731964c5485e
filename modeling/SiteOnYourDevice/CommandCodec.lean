import SiteOnYourDevice.CommandSeqParser

namespace SiteOnYourDevice
open CString Sds InnerServerCommandSeqParser
set_option relaxedAutoImplicit false
set_option autoImplicit true

/-- The three macros a command format is written with. -/
inductive FmtMacro
  | generate
  | success
  | fail

/-- The format a macro gives, its arguments rendered with one blank between them (`"%s %s"`). -/
def FmtMacro.fmt (m : FmtMacro) (CMD : Str) (args : List Str) : Fmt :=
  match m with
  | .generate => GENERATE_FMT CMD (List.intercalate [' '] args)
  | .success => GENEATATE_SUCCESS_FMT CMD (List.intercalate [' '] args)
  | .fail => GENEATATE_FAIL_FMT CMD (List.intercalate [' '] args)

/-- The words of the command, the state of a response or an approval being the first. -/
def FmtMacro.words (m : FmtMacro) (CMD : Str) (args : List Str) : List Str :=
  match m with
  | .generate => CMD :: args
  | .success => SUCCESS_COMMAND :: CMD :: args
  | .fail => FAIL_COMMAND :: CMD :: args

/-- A word of a command: a token without quotes and without NUL. -/
structure IsCommandWord (w : Str) : Prop where
  word : IsWord w
  nul_free : '\x00' ∉ w

/-- An id that the scan for the id reads back. -/
structure IsCommandId (id : Str) : Prop where
  no_blank : ' ' ∉ id
  no_cr : '\r' ∉ id
  nul_free : '\x00' ∉ id

theorem IsCommandWord.no_cr (h : IsCommandWord w) : '\r' ∉ w := fun hr =>
  absurd (h.word.plain _ hr).1 (by decide)

theorem SUCCESS_COMMAND_word : IsCommandWord SUCCESS_COMMAND :=
  ⟨.of_all (by decide) (by decide), by decide⟩

theorem FAIL_COMMAND_word : IsCommandWord FAIL_COMMAND :=
  ⟨.of_all (by decide) (by decide), by decide⟩

theorem FmtMacro.words_ok (m : FmtMacro) {CMD : Str} {args : List Str}
    (h : ∀ w ∈ CMD :: args, IsCommandWord w) : ∀ w ∈ m.words CMD args, IsCommandWord w := by
  cases m with
  | generate => exact h
  | success => exact List.forall_mem_cons.2 ⟨SUCCESS_COMMAND_word, h⟩
  | fail => exact List.forall_mem_cons.2 ⟨FAIL_COMMAND_word, h⟩

/-- The blank behind the command name when no argument follows. -/
def trailing (args : List Str) : Str := if args = [] then [' '] else []

theorem trailing_cons (w : Str) (args : List Str) : trailing (w :: args) = [] := rfl

theorem intercalate_blank (args : List Str) :
    ' ' :: List.intercalate [' '] args = args.flatMap (fun w => ' ' :: w) ++ trailing args := by
  induction args with
  | nil => rfl
  | cons w args ih =>
    cases args with
    | nil => simp [List.intercalate, trailing_cons]
    | cons u args =>
      rw [trailing_cons, List.append_nil] at ih ⊢
      rw [List.intercalate_cons_cons, List.flatMap_cons, ← ih]
      simp

/-- Every format is the type, the id and each word behind a blank. -/
theorem FmtMacro.fmt_eq (m : FmtMacro) (CMD : Str) (args : List Str) (seq : cmd_id_t) (id : Str) :
    m.fmt CMD args seq id =
      CID_FMT seq ++ ' ' :: id ++
        ((m.words CMD args).flatMap (fun w => ' ' :: w) ++ trailing args) ++ END_OF_COMMAND := by
  have h := intercalate_blank args
  cases m <;>
    simp only [fmt, words, GENERATE_FMT, GENEATATE_SUCCESS_FMT, GENEATATE_FAIL_FMT, h,
      List.flatMap_cons, List.append_assoc, List.cons_append]

/-- The text of a format before the end of the command. -/
def FmtMacro.line (m : FmtMacro) (CMD : Str) (args : List Str) (seq : cmd_id_t) (id : Str) : Str :=
  CID_FMT seq ++ ' ' :: id ++ ((m.words CMD args).flatMap (fun w => ' ' :: w) ++ trailing args)

theorem not_mem_line (m : FmtMacro) {CMD id : Str} {args : List Str} (ht : IsType t)
    (hd : isdigit d = false) (hb : d ≠ ' ') (hid : d ∉ id)
    (hw : ∀ w ∈ m.words CMD args, d ∉ w) : d ∉ m.line CMD args t id := by
  obtain ⟨c, hc, hcd, _⟩ := CID_FMT_type ht
  have hne : d ≠ c := by
    rintro rfl
    rw [hd] at hcd
    cases hcd
  have htr : d ∉ trailing args := by
    rw [trailing]
    split <;> simp [hb]
  simp only [FmtMacro.line, hc, List.cons_append, List.nil_append, List.mem_cons,
    List.mem_append, List.mem_flatMap, hne, hb, hid, htr, false_or, or_false]
  rintro ⟨w, hm, hdw⟩
  exact hw w hm hdw

/-- What is built for some words is read back as these words, once, by the handler of its type. -/
theorem handleInnerDataReceived_fmt (m : FmtMacro) {CMD id : Str} {args : List Str}
    (ht : IsType t) (hid : IsCommandId id) (hw : ∀ w ∈ CMD :: args, IsCommandWord w)
    (hl : (m.fmt CMD args t id).length ≤ MAX_COMMAND_SIZE - 1)
    (p : InnerServerCommandSeqParser σ) (s : σ) :
    p.traced.handleInnerDataReceived (buffText (m.fmt CMD args t id)) (s, []) =
      (p.dispatch ⟨t, id, m.words CMD args⟩ s, [.handler ⟨t, id, m.words CMD args⟩]) := by
  have hwords := m.words_ok hw
  have hnul : '\x00' ∉ m.line CMD args t id :=
    not_mem_line m ht rfl (by decide) hid.nul_free fun w hm => (hwords w hm).nul_free
  have hcr : '\r' ∉ m.line CMD args t id :=
    not_mem_line m ht rfl (by decide) hid.no_cr fun w hm => (hwords w hm).no_cr
  have htext : m.fmt CMD args t id = m.line CMD args t id ++ END_OF_COMMAND := m.fmt_eq ..
  have hbuff : buffText (m.fmt CMD args t id) = m.line CMD args t id ++ END_OF_COMMAND := by
    rw [← htext]
    apply buffText_of_fits _ hl
    rw [htext, List.mem_append, not_or]
    exact ⟨hnul, by decide⟩
  have hend : ¬ END_OF_COMMAND <:+: m.line CMD args t id := fun he =>
    hcr (he.subset List.mem_cons_self)
  have hscan := scanCommand_line hnul hend []
  rw [List.append_nil] at hscan
  obtain ⟨c, hc, hcd, htc⟩ := CID_FMT_type ht
  obtain ⟨cmd, hcmd⟩ : ∃ cmd, (m.words CMD args).flatMap (fun w => ' ' :: w) ++ trailing args =
      ' ' :: cmd := by
    cases m <;> exact ⟨_, rfl⟩
  have hline : m.line CMD args t id = c :: ' ' :: id ++ ' ' :: cmd := by
    rw [FmtMacro.line, hc, hcmd]
    rfl
  have hargv : sdssplitargs (' ' :: cmd) = some (m.words CMD args) := by
    rw [← hcmd]
    apply splitFrom_words fun w hm => (hwords w hm).word
    rw [trailing]
    split <;> simp
  rw [hline, scanLine_digit hcd hid.no_blank, htc, ← hline] at hscan
  rw [hbuff, handleInnerDataReceived_command hscan hargv, dispatch_traced ht, List.nil_append]

theorem handleInnerDataReceived_fmt_who_are_you :
    idle.traced.handleInnerDataReceived
        (buffText (FmtMacro.success.fmt "who_are_you".toList ["u:p:h:80".toList] RESPONCE_COMMAND
          "00000000".toList)) ((), []) =
      ((), [.handler ⟨RESPONCE_COMMAND, "00000000".toList,
        ["ok".toList, "who_are_you".toList, "u:p:h:80".toList]⟩]) :=
  handleInnerDataReceived_fmt .success (by decide) ⟨by decide, by decide, by decide⟩
    (by
      intro w hw
      simp only [List.mem_cons, List.not_mem_nil, or_false] at hw
      rcases hw with rfl | rfl <;> exact ⟨.of_all (by decide) (by decide), by decide⟩)
    (by decide) idle ()

end SiteOnYourDevice
