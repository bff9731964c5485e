import SiteOnYourDevice.CommandSeqParser
import SiteOnYourDevice.SplitArgsSuffix

namespace SiteOnYourDevice
open CString Sds InnerServerCommandSeqParser
set_option relaxedAutoImplicit false
set_option autoImplicit true

/-- A command frame on the wire. -/
structure FrameText where
  seq : cmd_id_t
  id : cmd_seq_t
  cmd : Str
deriving DecidableEq

def FrameText.line (f : FrameText) : Str := CID_FMT f.seq ++ ' ' :: f.id ++ ' ' :: f.cmd

def FrameText.text (f : FrameText) : Str := f.line ++ END_OF_COMMAND

/-- A well-formed frame: one of the three types, an id, and a command that splits into at least
one argument, in at most 1023 bytes that end in the only CR LF. -/
structure Frame extends FrameText where
  argv : List Str
  seq_type : IsType seq
  id_ne_nil : id ≠ []
  id_plain : ∀ c ∈ id, isspace c = false
  nul_free : '\x00' ∉ toFrameText.line
  one_end : ¬ END_OF_COMMAND <:+: toFrameText.line
  splits : sdssplitargs cmd = some argv
  argv_ne_nil : argv ≠ []
  size : toFrameText.text.length ≤ MAX_COMMAND_SIZE - 1

def Frame.command (f : Frame) : Command := ⟨f.seq, f.id, f.argv⟩

/-- The calls of one connection over its reads; a closed connection gets no more of them. -/
def calls (p : InnerServerCommandSeqParser σ) (isOpen : σ → Bool) : List Str → σ → List Call
  | [], _ => []
  | r :: rs, s =>
    if isOpen s then
      (p.traced.DataReceived r (s, [])).2 ++ calls p isOpen rs (p.DataReceived r s)
    else []

/-- The text of a list of frames sent one after the other. -/
def stream (frames : List Frame) : Str := (frames.map fun f => f.text).flatten

/-- No handler but the last one ends the connection. -/
def KeepsOpen (p : InnerServerCommandSeqParser σ) (isOpen : σ → Bool) : List Frame → σ → Prop
  | [], _ => True
  | [_], _ => True
  | f :: g :: fs, s =>
    isOpen (p.dispatch f.command s) = true ∧ KeepsOpen p isOpen (g :: fs) (p.dispatch f.command s)

/-- An id in which `strtoul` finds no number. -/
def NoNumber (id : Str) : Prop := (signed id).2.takeWhile isdigit = []

/-- The part of a frame that can be cut off without harm: nothing, or the type of a request whose
id is not taken for a type in its place. -/
def Skippable (f : Frame) (h : Str) : Prop :=
  h = [] ∨ h = ['0'] ∧ f.seq = REQUEST_COMMAND ∧ NoNumber f.id

/-- Every read ends exactly one frame, whose beginning `h` came with the read before. -/
inductive FramePerRead : Str → List Frame → List Str → Prop
  | done : FramePerRead [] [] []
  | frame {h t h' : Str} {f : Frame} {fs : List Frame} {rs : List Str} (ht : f.text = h ++ t)
      (hs : Skippable f h) (hr : FramePerRead h' fs rs) :
      FramePerRead h (f :: fs) ((t ++ h') :: rs)

/-- The calls a read makes depend on nothing but the read. -/
def readCalls (r : Str) : List Call :=
  match scanCommand r with
  | .malformed _ => [.closed]
  | .command seq id cmd _ =>
    match sdssplitargs cmd with
    | none => [.closed]
    | some argv => if IsType seq then [.handler ⟨seq, id, argv⟩] else []

theorem traced_DataReceived (p : InnerServerCommandSeqParser σ) (r : Str) (s : σ) :
    (p.traced.DataReceived r (s, [])).2 = readCalls r := by
  by_cases hr : r = []
  · subst hr
    rfl
  rw [DataReceived, if_neg hr, handleInnerDataReceived, readCalls]
  cases scanCommand r with
  | malformed b => rfl
  | command seq id cmd b =>
    cases ha : sdssplitargs cmd with
    | none =>
      simp only [ha]
      rfl
    | some argv =>
      by_cases ht : IsType seq
      · simp only [ha, dispatch_traced ht, if_pos ht, List.nil_append]
      · simp only [ha, dispatch_traced_other ht, if_neg ht]

/-- The number of command ends in a text. -/
def ends : Str → Nat
  | '\r' :: '\n' :: s => ends s + 1
  | _ :: s => ends s
  | [] => 0

theorem ends_cons (h : c = '\r' → s.head? ≠ some '\n') : ends (c :: s) = ends s := by
  rw [ends]
  rintro t rfl rfl
  exact h rfl rfl

theorem ends_cons_le (c : Char) (s : Str) : ends s ≤ ends (c :: s) := by
  by_cases h : c = '\r' → s.head? ≠ some '\n'
  · rw [ends_cons h]
  · simp only [ne_eq, Classical.not_imp, not_not] at h
    obtain ⟨rfl, h⟩ := h
    obtain ⟨t, rfl⟩ := List.head?_eq_some_iff.1 h
    exact Nat.le_succ (ends t)

theorem ends_append_le (a b : Str) : ends a + ends b ≤ ends (a ++ b) := by
  induction a using ends.induct with
  | case1 s ih =>
    simp only [List.cons_append, ends]
    omega
  | case2 c s h ih =>
    have hc : c = '\r' → s.head? ≠ some '\n' := by
      intro hc hs
      obtain ⟨t, rfl⟩ := List.head?_eq_some_iff.1 hs
      exact h t hc rfl
    rw [ends_cons hc, List.cons_append]
    exact ih.trans (ends_cons_le c _)
  | case3 => exact (Nat.zero_add _).le

theorem ends_suffix_le (h : b <:+ a) : ends b ≤ ends a := by
  obtain ⟨t, rfl⟩ := h
  exact (Nat.le_add_left _ _).trans (ends_append_le t b)

theorem ends_prefix_le (h : b <+: a) : ends b ≤ ends a := by
  obtain ⟨t, rfl⟩ := h
  exact (Nat.le_add_right _ _).trans (ends_append_le b t)

theorem ends_pos (h : END_OF_COMMAND <:+: a) : 1 ≤ ends a := by
  obtain ⟨x, y, rfl⟩ := h
  have hxy := ends_prefix_le (List.prefix_append (x ++ END_OF_COMMAND) y)
  have hx := ends_append_le x END_OF_COMMAND
  have hend : ends END_OF_COMMAND = 1 := rfl
  omega

/-- Up to a `\r` there is no end of command in a line. -/
theorem ends_append_cr (h : ¬ END_OF_COMMAND <:+: a) (b : Str) :
    ends (a ++ '\r' :: b) = ends ('\r' :: b) := by
  induction a with
  | nil => rfl
  | cons c a ih =>
    rw [List.cons_append, ends_cons, ih fun hi => h (hi.trans (List.suffix_cons c a).isInfix)]
    rintro rfl hh
    cases a with
    | nil => exact absurd (Option.some.inj hh) (by decide)
    | cons d a =>
      obtain rfl := Option.some.inj hh
      exact h ⟨[], a, rfl⟩

theorem ends_line (h : ¬ END_OF_COMMAND <:+: a) (b : Str) :
    ends (a ++ END_OF_COMMAND ++ b) = ends b + 1 := by
  rw [List.append_assoc]
  exact ends_append_cr h ('\n' :: b)

theorem ends_stream (fs : List Frame) : ends (stream fs) = fs.length := by
  induction fs with
  | nil => rfl
  | cons f fs ih =>
    have hs : stream (f :: fs) = f.line ++ END_OF_COMMAND ++ stream fs := rfl
    rw [hs, ends_line f.one_end, ih, List.length_cons]

/-- A read is refused, or it holds the end of a command and calls at most one handler. -/
theorem readCalls_cases (r : Str) :
    readCalls r = [.closed] ∨
      1 ≤ ends r ∧ (readCalls r = [] ∨ ∃ seq id cmd b argv, scanCommand r = .command seq id cmd b ∧
        sdssplitargs cmd = some argv ∧ readCalls r = [.handler ⟨seq, id, argv⟩]) := by
  cases hs : strstr END_OF_COMMAND (cstr r) with
  | none =>
    left
    simp only [readCalls, scanCommand, hs]
  | some ab =>
    obtain ⟨hcut, hpre⟩ := strstr_eq_some hs
    have hinf : END_OF_COMMAND <:+: cstr r := by
      rw [hcut]
      exact hpre.isInfix.trans (List.suffix_append _ _).isInfix
    have hpos := ends_pos (hinf.trans (List.takeWhile_prefix _).isInfix)
    rw [readCalls]
    cases hc : scanCommand r with
    | malformed b => exact .inl rfl
    | command seq id cmd b =>
      cases ha : sdssplitargs cmd with
      | none =>
        left
        simp only [ha]
      | some argv =>
        right
        by_cases ht : IsType seq
        · exact ⟨hpos, .inr ⟨seq, id, cmd, b, argv, rfl, ha, by simp only [ha, if_pos ht]⟩⟩
        · exact ⟨hpos, .inl (by simp only [ha, if_neg ht])⟩

variable {p : InnerServerCommandSeqParser σ} {isOpen : σ → Bool} {fs : List Frame}
  {rs : List Str} {cs : List Command}

theorem calls_cons (h : isOpen s = true) (r : Str) (rs : List Str) :
    calls p isOpen (r :: rs) s = readCalls r ++ calls p isOpen rs (p.DataReceived r s) := by
  rw [calls, if_pos h, traced_DataReceived]

theorem calls_closed (h : ¬ isOpen s = true) (rs : List Str) : calls p isOpen rs s = [] := by
  cases rs with
  | nil => rfl
  | cons r rs => rw [calls, if_neg h]

/-- No more handlers are called than there are command ends in the reads. -/
theorem length_le_ends (h : calls p isOpen rs s = cs.map .handler) :
    cs.length ≤ ends rs.flatten := by
  induction rs generalizing s cs with
  | nil =>
    rw [List.map_eq_nil_iff.1 h.symm]
    exact Nat.zero_le _
  | cons r rs ih =>
    by_cases ho : isOpen s = true
    · have hle := ends_append_le r rs.flatten
      rw [calls_cons ho] at h
      rw [List.flatten_cons]
      obtain hr | ⟨hpos, hr | ⟨_, _, _, _, _, _, _, hr⟩⟩ := readCalls_cases r
      · cases cs <;> rw [hr] at h <;> cases h
      · rw [hr] at h
        have := ih h
        omega
      · cases cs with
        | nil => exact Nat.zero_le _
        | cons c cs =>
          rw [hr] at h
          have := ih (List.cons.inj h).2
          simp only [List.length_cons]
          omega
    · rw [calls_closed ho] at h
      rw [List.map_eq_nil_iff.1 h.symm]
      exact Nat.zero_le _

theorem strtoul_blank_id {id : Str} (hne : id ≠ []) (hid : ∀ c ∈ id, isspace c = false)
    (v : Str) : strtoul (' ' :: id ++ ' ' :: v) = (0, ' ' :: id ++ ' ' :: v) ↔ NoNumber id := by
  have hblank : (' ' :: id ++ ' ' :: v).dropWhile isspace = id ++ ' ' :: v := by
    rw [List.cons_append, List.dropWhile_cons_of_pos rfl]
    cases id with
    | nil => exact absurd rfl hne
    | cons c id =>
      have hc := hid c List.mem_cons_self
      rw [List.cons_append, List.dropWhile_cons_of_neg (by rw [hc]; exact Bool.false_ne_true)]
  have hdigits : ((signed id).2 ++ ' ' :: v).takeWhile isdigit =
      (signed id).2.takeWhile isdigit := takeWhile_isdigit_append rfl _ v
  simp only [strtoul, hblank, signed_append hne, hdigits, NoNumber]
  constructor
  · intro h
    by_contra hd
    rw [if_neg hd] at h
    -- what is left after a number is shorter than the text
    have hlen := congrArg (fun x => x.2.length) h
    have hdrop := (List.dropWhile_suffix (l := (signed id).2 ++ ' ' :: v) isdigit).length_le
    have hsign := (signed_suffix id).length_le
    simp only [List.length_append, List.length_cons] at hlen hdrop
    omega
  · intro hd
    rw [if_pos hd]

theorem sdssplitargs_blank (cmd : Str) : sdssplitargs (' ' :: cmd) = sdssplitargs cmd :=
  splitFrom_blank_space rfl

/-- What comes before a second copy of the id in a command is not blank. -/
theorem cmd_of_shifted {y id cmd v : Str} (hid : ' ' ∉ id)
    (h : y ++ ' ' :: (id ++ ' ' :: v) = id ++ ' ' :: cmd) :
    ∃ u, (∀ c ∈ id, c ∈ u) ∧ cmd = u ++ ' ' :: v := by
  obtain ⟨x, hx, hrest⟩ | ⟨x, hx, hrest⟩ := List.append_eq_append_iff.1 h
  · cases x with
    | nil => exact ⟨id, fun c hc => hc, (List.cons.inj hrest).2.symm⟩
    | cons c x =>
      obtain ⟨rfl, _⟩ := List.cons.inj hrest
      exact absurd (hx ▸ List.mem_append_right y List.mem_cons_self) hid
  · cases x with
    | nil => exact ⟨id, fun c hc => hc, (List.cons.inj hrest).2⟩
    | cons c x =>
      refine ⟨x ++ ' ' :: id, fun d hd => ?_, ?_⟩
      · exact List.mem_append_right x (List.mem_cons_of_mem _ hd)
      · rw [(List.cons.inj hrest).2, List.append_assoc]
        rfl

theorem Frame.blank_not_mem_id (f : Frame) : ' ' ∉ f.id := fun hb =>
  absurd (f.id_plain _ hb) (by decide)

theorem Frame.line_eq (f : Frame) : ∃ d, isdigit d = true ∧
    UInt8.ofNat (d.toNat - '0'.toNat) = f.seq ∧ CID_FMT f.seq = [d] ∧
    f.line = d :: ' ' :: f.id ++ ' ' :: f.cmd := by
  obtain ⟨d, hd, hdd, hdt⟩ := CID_FMT_type f.seq_type
  exact ⟨d, hdd, hdt, hd, by rw [FrameText.line, hd]; rfl⟩

/-- A line cut short reads as the same command only when at most the type 0 is gone. -/
theorem Frame.skippable_of_scanLine (f : Frame) (ht : f.line = h ++ a) {cmd : Str}
    (hs : scanLine a = .command f.seq f.id cmd b) (hargv : sdssplitargs cmd = some f.argv) :
    Skippable f h := by
  obtain ⟨n, v, hseq, rfl, ha, hid, _, hn⟩ := scanLine_eq_command hs
  obtain ⟨d, hd, hdt, hdc, hline⟩ := f.line_eq
  rw [hline, ha] at ht
  have hcut : (h ++ n) ++ ' ' :: (f.id ++ ' ' :: v) = d :: ' ' :: (f.id ++ ' ' :: f.cmd) := by
    simpa using ht.symm
  match hx : h ++ n with
  | [] =>
    rw [hx] at hcut
    obtain ⟨rfl, _⟩ := List.cons.inj hcut
    exact absurd hd (by decide)
  | [e] =>
    rw [hx] at hcut
    obtain ⟨rfl, _⟩ := List.cons.inj hcut
    cases h with
    | nil => exact .inl rfl
    | cons c h =>
      obtain ⟨rfl, hhn⟩ := List.cons.inj hx
      obtain ⟨rfl, rfl⟩ := List.append_eq_nil_iff.1 hhn
      have hz := hn rfl
      replace hseq : f.seq = REQUEST_COMMAND := by rw [hseq, hz]; rfl
      have hc : [c] = ['0'] := by rw [← hdc, hseq]; decide
      rw [ha] at hz
      exact .inr ⟨hc, hseq, (strtoul_blank_id f.id_ne_nil f.id_plain v).1 hz⟩
  | e :: e' :: y =>
    rw [hx] at hcut
    obtain ⟨u, hu, hcmd⟩ := cmd_of_shifted hid (List.cons.inj (List.cons.inj hcut).2).2
    have hplain : ∃ c ∈ u, isspace c = false := by
      obtain ⟨c, hc⟩ := List.exists_mem_of_ne_nil f.id f.id_ne_nil
      exact ⟨c, hu c hc, f.id_plain c hc⟩
    rw [sdssplitargs_blank] at hargv
    exact absurd hargv (sdssplitargs_append_ne hplain (hcmd ▸ f.splits))

/-- A read that ends one frame is read as this frame, if no more than a skippable part is
missing; what follows the end of the frame is not looked at. -/
theorem Frame.scanCommand_read (f : Frame) (ht : f.line = h ++ a) (hs : Skippable f h)
    (h' : Str) : ∃ b, scanCommand (a ++ END_OF_COMMAND ++ h') =
      .command f.seq f.id (' ' :: f.cmd) b := by
  have hsuf : a <:+ f.line := ⟨h, ht.symm⟩
  rw [scanCommand_line (fun hn => f.nul_free (hsuf.subset hn))
    (fun he => f.one_end (he.trans hsuf.isInfix))]
  obtain ⟨d, hd, hdt, hdc, hline⟩ := f.line_eq
  obtain rfl | ⟨rfl, hseq, hnum⟩ := hs
  · obtain rfl : f.line = a := ht
    rw [hline, scanLine_digit hd f.blank_not_mem_id, hdt]
    exact ⟨_, rfl⟩
  · rw [hline] at ht
    obtain rfl : ' ' :: f.id ++ ' ' :: f.cmd = a := (List.cons.inj ht).2
    have hz := (strtoul_blank_id f.id_ne_nil f.id_plain f.cmd).2 hnum
    refine ⟨' ' :: f.id ++ ' ' :: f.cmd, ?_⟩
    rw [scanLine, hz]
    simp only [List.cons_append, strchr_append f.blank_not_mem_id, hseq]
    rfl

/-- Where a frame is cut: before its line ends, or between the two bytes of its end. -/
theorem Frame.text_cut (f : Frame) (ht : f.text = h ++ t) (hne : t ≠ []) :
    (∃ a, f.line = h ++ a ∧ t = a ++ END_OF_COMMAND) ∨ t = ['\n'] := by
  obtain ⟨x, hx, hrest⟩ | ⟨x, hx, hrest⟩ := List.append_eq_append_iff.1 ht
  · match x with
    | [] => exact .inl ⟨[], by rw [hx, List.append_nil, List.append_nil], hrest.symm⟩
    | [c] => exact .inr (List.cons.inj hrest).2.symm
    | c :: d :: x =>
      have hnil := (List.cons.inj (List.cons.inj hrest).2).2
      exact absurd (List.append_eq_nil_iff.1 hnil.symm).2 hne
  · exact .inl ⟨x, hx, hrest⟩

theorem Frame.read (f : Frame) (ht : f.text = h ++ t) (hs : Skippable f h) (h' : Str) :
    readCalls (t ++ h') = [.handler f.command] ∧
      ∀ (p : InnerServerCommandSeqParser σ) s,
        p.DataReceived (t ++ h') s = p.dispatch f.command s := by
  have hcut : ∃ a, f.line = h ++ a ∧ t = a ++ END_OF_COMMAND := by
    have hend : f.line ++ END_OF_COMMAND = h ++ t := ht
    obtain rfl | ⟨rfl, _⟩ := hs
    · exact ⟨f.line, rfl, hend.symm⟩
    · obtain ⟨d, _, _, _, hline⟩ := f.line_eq
      rw [hline] at hend ⊢
      obtain ⟨rfl, htail⟩ := List.cons.inj hend
      exact ⟨_, rfl, htail.symm⟩
  obtain ⟨a, hline, rfl⟩ := hcut
  obtain ⟨b, hscan⟩ := f.scanCommand_read hline hs h'
  have hargv : sdssplitargs (' ' :: f.cmd) = some f.argv :=
    (sdssplitargs_blank f.cmd).trans f.splits
  constructor
  · simp only [readCalls, hscan, hargv, if_pos f.seq_type]
    rfl
  · intro p s
    have hne : a ++ END_OF_COMMAND ++ h' ≠ [] := by simp [END_OF_COMMAND]
    rw [DataReceived, if_neg hne, handleInnerDataReceived_command hscan hargv]
    rfl

theorem FramePerRead.calls_eq (hf : FramePerRead h fs rs) (hk : KeepsOpen p isOpen fs s)
    (ho : isOpen s = true) : calls p isOpen rs s = fs.map fun f => .handler f.command := by
  induction hf generalizing s with
  | done => rfl
  | @frame h t h' f fs rs ht hs hr ih =>
    obtain ⟨hcalls, hdata⟩ := f.read (σ := σ) ht hs h'
    rw [calls_cons ho, hcalls, hdata]
    cases fs with
    | nil =>
      cases hr
      rfl
    | cons g fs =>
      rw [ih hk.2 hk.1]
      rfl

/-- No more than the rest of a line and one byte of its end hold no end of command. -/
theorem ends_of_short (he : ¬ END_OF_COMMAND <:+: a) (hr : r <+: a ++ END_OF_COMMAND)
    (hlt : r.length < (a ++ END_OF_COMMAND).length) : ends r = 0 := by
  have hcr : a ++ ['\r'] <+: a ++ END_OF_COMMAND := ⟨['\n'], by rw [List.append_assoc]; rfl⟩
  have hle : r.length ≤ (a ++ ['\r']).length := by
    simp only [END_OF_COMMAND, List.length_append, List.length_cons, List.length_nil] at hlt ⊢
    omega
  have h := ends_prefix_le (List.prefix_of_prefix_length_le hr hcr hle)
  rw [ends_append_cr he] at h
  exact Nat.le_zero.1 h

/-- When a read and those after it call the handlers of the remaining frames, the read ends the
first of them, of which no more than a skippable part had been read before. -/
theorem first_read {f : Frame} {r : Str} (ht : f.text = h ++ t) (hne : t ≠ [])
    (hcat : r ++ rs.flatten = t ++ stream fs)
    (hc : calls p isOpen (r :: rs) s = (f :: fs).map fun f => .handler f.command) :
    ∃ h', r = t ++ h' ∧ Skippable f h ∧ h' ++ rs.flatten = stream fs ∧
      calls p isOpen rs (p.dispatch f.command s) = fs.map fun f => .handler f.command := by
  have ho : isOpen s = true := by
    by_contra ho
    rw [calls_closed ho] at hc
    cases hc
  have hmap : ∀ gs : List Frame, (gs.map fun f => Call.handler f.command) =
      (gs.map Frame.command).map Call.handler := fun gs => (List.map_map ..).symm
  have hall := length_le_ends (hc.trans (hmap (f :: fs)))
  rw [List.flatten_cons, hcat, List.length_map, List.length_cons] at hall
  have hsplit := ends_append_le r rs.flatten
  have htotal : ends (t ++ stream fs) ≤ fs.length + 1 := by
    rw [← List.length_cons (a := f), ← ends_stream (f :: fs)]
    exact ends_suffix_le ⟨h, by rw [← List.append_assoc, ← ht]; rfl⟩
  rw [calls_cons ho] at hc
  obtain hr | ⟨hpos, hr | ⟨seq, id, cmd, b, argv, hscan, hargv, hr⟩⟩ := readCalls_cases r
  · rw [hr] at hc
    cases hc
  · -- an unknown type: the frames left over are more than the ends left over
    rw [hr, List.nil_append] at hc
    have hrest := length_le_ends (hc.trans (hmap (f :: fs)))
    rw [List.length_map, List.length_cons] at hrest
    rw [hcat] at hsplit
    omega
  rw [hr] at hc
  obtain ⟨hcommand, hrest⟩ := List.cons.inj hc
  obtain ⟨a, hline, rfl⟩ | rfl := f.text_cut ht hne
  · have hsuf : a <:+ f.line := ⟨h, hline.symm⟩
    have hend : ¬ END_OF_COMMAND <:+: a := fun he => f.one_end (he.trans hsuf.isInfix)
    have hcut : ∃ h', r = a ++ END_OF_COMMAND ++ h' ∧ h' ++ rs.flatten = stream fs := by
      obtain ⟨x, hx, hxs⟩ | ⟨x, hx, hxs⟩ := List.append_eq_append_iff.1 hcat
      · cases x with
        | nil => exact ⟨[], by rw [hx, List.append_nil, List.append_nil], hxs⟩
        | cons c x =>
          have hz := ends_of_short hend (hx ▸ List.prefix_append r (c :: x)) (by
            rw [hx, List.length_append, List.length_cons]
            omega)
          omega
      · exact ⟨x, hx, hxs.symm⟩
    obtain ⟨h', rfl, hcat'⟩ := hcut
    rw [scanCommand_line (fun hn => f.nul_free (hsuf.subset hn)) hend] at hscan
    obtain ⟨rfl, rfl, rfl⟩ := Command.mk.inj (Call.handler.inj hcommand)
    have hs := f.skippable_of_scanLine hline hscan hargv
    refine ⟨h', rfl, hs, hcat', ?_⟩
    rw [← (f.read ht hs h').2 p s]
    exact hrest
  · have hlf : ends ('\n' :: stream fs) = ends (stream fs) := ends_cons fun hcr =>
      absurd hcr (by decide)
    rw [List.singleton_append, hlf, ends_stream] at hall
    omega

/-- From the rest of a frame on: reads that call every handler end one frame each. -/
theorem framePerRead_of_calls {f : Frame} (ht : f.text = h ++ t) (hne : t ≠ [])
    (hrs : ∀ r ∈ rs, r ≠ []) (hcat : rs.flatten = t ++ stream fs)
    (hc : calls p isOpen rs s = (f :: fs).map fun f => .handler f.command) :
    FramePerRead h (f :: fs) rs ∧ KeepsOpen p isOpen (f :: fs) s := by
  induction fs generalizing f h t rs s with
  | nil =>
    cases rs with
    | nil => cases hc
    | cons r rs =>
      obtain ⟨h', rfl, hs, hcat', _⟩ := first_read ht hne hcat hc
      obtain ⟨rfl, hflat⟩ := List.append_eq_nil_iff.1 hcat'
      have hnil : rs = [] := List.eq_nil_iff_forall_not_mem.2 fun r hr =>
        hrs r (List.mem_cons_of_mem _ hr) (List.flatten_eq_nil_iff.1 hflat r hr)
      subst hnil
      exact ⟨.frame ht hs .done, trivial⟩
  | cons g fs ih =>
    cases rs with
    | nil => cases hc
    | cons r rs =>
      obtain ⟨h', rfl, hs, hcat', hrest⟩ := first_read ht hne hcat hc
      have ho : isOpen (p.dispatch f.command s) = true := by
        by_contra ho
        rw [calls_closed ho] at hrest
        cases hrest
      have hend : ∃ t', g.text = h' ++ t' ∧ t' ≠ [] ∧ rs.flatten = t' ++ stream fs := by
        have hcat' : h' ++ rs.flatten = g.text ++ stream fs := hcat'
        have hle : (g :: fs).length ≤ ends rs.flatten := by
          have hmap : (g :: fs).map (fun f => Call.handler f.command) =
              ((g :: fs).map Frame.command).map Call.handler := (List.map_map ..).symm
          have hrest := length_le_ends (hrest.trans hmap)
          rwa [List.length_map] at hrest
        have hlt : ¬ rs.flatten <:+ stream fs := fun hsuf => by
          have := ends_suffix_le hsuf
          rw [ends_stream] at this
          simp only [List.length_cons] at hle
          omega
        obtain ⟨x, hx, hxs⟩ | ⟨x, hx, hxs⟩ := List.append_eq_append_iff.1 hcat'
        · refine ⟨x, hx, ?_, hxs⟩
          rintro rfl
          exact hlt (hxs ▸ List.suffix_rfl)
        · exact absurd (hxs ▸ List.suffix_append x rs.flatten) hlt
      obtain ⟨t', ht', hne', hcat''⟩ := hend
      obtain ⟨hf, hk⟩ := ih ht' hne' (fun r hr => hrs r (List.mem_cons_of_mem _ hr)) hcat'' hrest
      exact ⟨.frame ht hs hf, ho, hk⟩

/-- The commands dispatched on a connection are the frames sent, none lost and none refused,
exactly when every read ends one frame, the type 0 at most of it having come before, and no
frame but the last makes its handler end the connection. -/
theorem calls_eq_frames_iff (p : InnerServerCommandSeqParser σ) (isOpen : σ → Bool)
    (frames : List Frame) (reads : List Str) (s : σ) (ho : isOpen s = true)
    (hrs : ∀ r ∈ reads, r ≠ [] ∧ r.length ≤ MAX_COMMAND_SIZE)
    (hcat : reads.flatten = stream frames) :
    (calls p isOpen reads s = frames.map fun f => .handler f.command) ↔
      FramePerRead [] frames reads ∧ KeepsOpen p isOpen frames s := by
  constructor
  · intro hc
    cases frames with
    | nil =>
      have hnil : reads = [] := List.eq_nil_iff_forall_not_mem.2 fun r hr =>
        (hrs r hr).1 (List.flatten_eq_nil_iff.1 hcat r hr)
      subst hnil
      exact ⟨.done, trivial⟩
    | cons f fs =>
      apply framePerRead_of_calls (h := []) rfl ?_ (fun r hr => (hrs r hr).1) hcat hc
      simp [END_OF_COMMAND]
  · rintro ⟨hf, hk⟩
    exact hf.calls_eq hk ho

/-- The ping request as either side sends it. -/
def pingFrame : Frame where
  seq := REQUEST_COMMAND
  id := "00000000".toList
  cmd := "ping ".toList
  argv := ["ping".toList]
  seq_type := by decide
  id_ne_nil := by decide
  id_plain c hc := by
    have hany : "00000000".toList.any isspace = false := by decide
    exact Bool.eq_false_iff.2 (List.any_eq_false.1 hany c hc)
  nul_free := by decide
  one_end := by decide
  splits := by decide
  argv_ne_nil := by decide
  size := by decide

theorem calls_eq_frames_iff_two_pings :
    (calls idle (fun _ => true) [pingFrame.text ++ ['0'], pingFrame.text.tail] () =
        [pingFrame, pingFrame].map fun f => .handler f.command) ↔
      FramePerRead [] [pingFrame, pingFrame] [pingFrame.text ++ ['0'], pingFrame.text.tail] ∧
        KeepsOpen idle (fun _ => true) [pingFrame, pingFrame] () :=
  calls_eq_frames_iff idle (fun _ => true) [pingFrame, pingFrame]
    [pingFrame.text ++ ['0'], pingFrame.text.tail] () rfl (by decide) (by decide)

/-- Two requests that arrive in one read: the second one is lost. -/
theorem calls_coalesced_pings :
    ¬ ∀ (p : InnerServerCommandSeqParser Unit) (isOpen : Unit → Bool) (frames : List Frame)
      (reads : List Str), isOpen () = true → (∀ r ∈ reads, r ≠ [] ∧ r.length ≤ MAX_COMMAND_SIZE) →
      reads.flatten = stream frames →
      calls p isOpen reads () = frames.map fun f => .handler f.command := by
  intro h
  have hlost := h idle (fun _ => true) [pingFrame, pingFrame] [pingFrame.text ++ pingFrame.text]
    rfl (by decide) (by decide)
  exact absurd hlost (by decide)

end SiteOnYourDevice
