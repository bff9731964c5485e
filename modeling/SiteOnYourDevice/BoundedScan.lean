import SiteOnYourDevice.ArrayReads
import SiteOnYourDevice.FrameGrammar

namespace SiteOnYourDevice
open CString Sds ArrayReads ArrayReads.Reading
set_option relaxedAutoImplicit false
set_option autoImplicit true

theorem cstr_cons (h : c ≠ '\x00') (p : Str) : cstr (c :: p) = c :: cstr p :=
  List.takeWhile_cons_of_pos (decide_eq_true h)

theorem cstr_nul (p : Str) : cstr ('\x00' :: p) = [] := rfl

/-- `%s` and `<<` on a text: everything up to its NUL. -/
def formattedAt (i : Nat) (p : Str) : Reading Str := do
  let x ← readWhile (· ≠ '\x00') i p
  pure x.1

/-- The comparison of `strstr` at one place. -/
def needleAt : Str → Nat → Str → Reading Bool
  | [], _, _ => pure true
  | _ :: _, i, [] => .outside i
  | d :: needle, i, c :: p =>
    .reading [i] <| if c = d then needleAt needle (i + 1) p else pure false

/-- `strstr` on the bytes from index `i` on. -/
def strstrAt (needle : Str) (i : Nat) : Str → Reading (Option (Str × Place Char))
  | [] => .outside i
  | c :: p => do
    if ← needleAt needle i (c :: p) then pure (some ([], ⟨i, c :: p⟩))
    else
      .reading [i] <|
        if c = '\x00' then pure none
        else do
          let x ← strstrAt needle (i + 1) p
          pure (x.map fun x => (c :: x.1, x.2))

def isBefore (d c : Char) : Bool := c ≠ d && c ≠ '\x00'

/-- `strchr` for a byte that is not NUL. -/
def strchrAt (d : Char) (i : Nat) (p : Str) : Reading (Option (Str × Place Char)) := do
  let x ← readWhile (isBefore d) i p
  let c ← readAt x.2.index x.2.rest
  pure (if c = d then some x else none)

/-- The text behind an optional sign, and its index. -/
def signedAt (i : Nat) (p : Str) : Nat := if (signed p).2 = p then i else i + 1

/-- `strtoul(p, &end, 10)`: blanks, a sign and digits. -/
def strtoulAt (i : Nat) (p : Str) : Reading (Nat × Place Char) := do
  let x ← readWhile isspace i p
  let q := x.2
  let _ ← readAt q.index q.rest
  let y ← readWhile isdigit (signedAt q.index q.rest) (signed q.rest).2
  pure (if y.1 = [] then (0, ⟨i, p⟩) else (unsignedLong (signed q.rest).1 (decimal y.1), y.2))

/-- The byte behind a closing quote, which must be a space or the end. -/
def quoteEndsAt (i : Nat) (p : Str) : Reading Bool := do
  let c ← readAt i p
  pure (c = '\x00' || isspace c)

/-- The loops of `sdssplitargs` on the bytes from index `i` on, with the bytes each step looks
ahead to. -/
def splitFromAt : Scan → List Str → Nat → Str → Reading (Option (List Str))
  | _, _, i, [] => .outside i
  | .blank, vector, i, c :: p =>
    .reading [i] <|
      if c = '\x00' then pure (some vector)
      else if isspace c then splitFromAt .blank vector (i + 1) p
      else splitFromAt (.unquoted [] c) vector (i + 1) p
  | .token current, vector, i, c :: p =>
    .reading [i] <|
      if c = '\x00' then pure (some (vector ++ [current]))
      else if isTokenEnd c then splitFromAt .blank (vector ++ [current]) (i + 1) p
      else splitFromAt (.unquoted current c) vector (i + 1) p
  | .inq _, _, i, ['\\'] => .reading [i] (.outside (i + 1))
  | .inq _, _, i, ['\\', 'x'] => .reading [i, i + 1] (.outside (i + 2))
  | .inq current, vector, i, ['\\', 'x', a] =>
    .reading [i, i + 1, i + 2] <|
      if is_hex_digit a then .outside (i + 3)
      else splitFromAt (.inq (current ++ ['x'])) vector (i + 2) [a]
  | .inq current, vector, i, '\\' :: 'x' :: a :: b :: p =>
    .reading [i, i + 1, i + 2] <|
      if is_hex_digit a then
        .reading [i + 3] <|
          if is_hex_digit b then splitFromAt (.inq (current ++ [hexByte a b])) vector (i + 4) p
          else splitFromAt (.inq (current ++ ['x'])) vector (i + 2) (a :: b :: p)
      else splitFromAt (.inq (current ++ ['x'])) vector (i + 2) (a :: b :: p)
  | .inq current, vector, i, '\\' :: c :: p =>
    .reading [i, i + 1] <|
      if c = '\x00' then splitFromAt (.inq (current ++ ['\\'])) vector (i + 1) (c :: p)
      else splitFromAt (.inq (current ++ [unescape c])) vector (i + 2) p
  | .inq current, vector, i, c :: p =>
    .reading [i] <|
      if c = '"' then do
        if ← quoteEndsAt (i + 1) p then splitFromAt .blank (vector ++ [current]) (i + 1) p
        else pure none
      else if c = '\x00' then pure none
      else splitFromAt (.inq (current ++ [c])) vector (i + 1) p
  | .insq _, _, i, ['\\'] => .reading [i] (.outside (i + 1))
  | .insq current, vector, i, '\\' :: c :: p =>
    .reading [i, i + 1] <|
      if c = '\'' then splitFromAt (.insq (current ++ ['\''])) vector (i + 2) p
      else splitFromAt (.insq (current ++ ['\\'])) vector (i + 1) (c :: p)
  | .insq current, vector, i, c :: p =>
    .reading [i] <|
      if c = '\'' then do
        if ← quoteEndsAt (i + 1) p then splitFromAt .blank (vector ++ [current]) (i + 1) p
        else pure none
      else if c = '\x00' then pure none
      else splitFromAt (.insq (current ++ [c])) vector (i + 1) p
termination_by structural _ _ _ p => p

/-- The log line and the response of an error path, each with the text of the buffer. -/
def refusedAt (buff : Str) : Reading (Except Str Command) := do
  let _ ← formattedAt 0 buff
  let text ← formattedAt 0 buff
  pure (.error text)

/-- `handleInnerDataReceived` behind `*end = 0`. -/
def scanLineAt (buff : Str) : Reading (Except Str Command) := do
  let x ← strtoulAt 0 buff
  let star_seq := x.2
  let c ← readAt star_seq.index star_seq.rest
  if c ≠ ' ' then refusedAt buff
  else
    match ← strchrAt ' ' (star_seq.index + 1) star_seq.rest.tail with
    | none => refusedAt buff
    | some (id, id_ptr) =>
      -- `std::string(star_seq + 1, len_seq)`
      .reading (List.range' (star_seq.index + 1) id.length) <| do
        match ← splitFromAt .blank [] id_ptr.index id_ptr.rest with
        | none => refusedAt buff
        | some argv =>
          let _ ← formattedAt id_ptr.index id_ptr.rest
          pure (.ok ⟨UInt8.ofNat x.1, id, argv⟩)

/-- `handleInnerDataReceived` on an array: the text of the refusal, or the command. -/
def handleInnerDataReceivedAt (buff : Str) : Reading (Except Str Command) := do
  match ← strstrAt END_OF_COMMAND 0 buff with
  | none => refusedAt buff
  | some (line, stop) => scanLineAt (line ++ '\x00' :: stop.rest.tail)

/-- The array of `DataReceived` with the bytes read into it. -/
def readBuff (read : Str) : Str :=
  read ++ List.replicate (MAX_COMMAND_SIZE - read.length) '\x00'

/-- A place from which a NUL is ahead, in an array of `n` bytes. -/
structure Terminated (n : Nat) (q : Place Char) : Prop where
  nul : '\x00' ∈ q.rest
  index : q.index + q.rest.length = n

variable {p : Str}

theorem takeWhile_cstr {f : Char → Bool} (hf : f '\x00' = false) (p : Str) :
    (cstr p).takeWhile f = p.takeWhile f := by
  induction p with
  | nil => rfl
  | cons c p ih =>
    by_cases hc : c = '\x00'
    · subst hc
      rw [cstr_nul, List.takeWhile_cons_of_neg (by rw [hf]; exact Bool.false_ne_true)]
      rfl
    · rw [cstr_cons hc, List.takeWhile_cons, List.takeWhile_cons, ih]

theorem dropWhile_cstr {f : Char → Bool} (hf : f '\x00' = false) (p : Str) :
    (cstr p).dropWhile f = cstr (p.dropWhile f) := by
  induction p with
  | nil => rfl
  | cons c p ih =>
    by_cases hc : c = '\x00'
    · subst hc
      rw [List.dropWhile_cons_of_neg (by rw [hf]; exact Bool.false_ne_true)]
      rfl
    · rw [cstr_cons hc, List.dropWhile_cons, List.dropWhile_cons, ih]
      split
      · rfl
      · rw [cstr_cons hc]

/-- A loop that a NUL stops leaves the NUL ahead. -/
theorem terminated_dropWhile {f : Char → Bool} (hf : f '\x00' = false) (h : '\x00' ∈ p)
    (hn : i + p.length = n) : Terminated n ⟨i + (p.takeWhile f).length, p.dropWhile f⟩ := by
  have hcut := List.takeWhile_append_dropWhile (p := f) (l := p)
  refine ⟨?_, ?_⟩
  · rw [← hcut] at h
    obtain h | h := List.mem_append.1 h
    · rw [List.mem_takeWhile_imp h] at hf
      cases hf
    · exact h
  · have hlen := congrArg List.length hcut
    rw [List.length_append] at hlen
    dsimp only
    omega

theorem formattedAt_within (h : '\x00' ∈ p) (hn : i + p.length = n) :
    Within n (fun x => x = cstr p) (formattedAt i p) := by
  apply (readWhile_within rfl h hn).bind
  rintro _ rfl
  exact Within.pure rfl

theorem needleAt_within {needle : Str} (hd : '\x00' ∉ needle)
    (h : '\x00' ∈ p ∨ needle.length ≤ p.length) (hn : i + p.length = n) :
    Within n (fun x => x = needle.isPrefixOf (cstr p)) (needleAt needle i p) := by
  induction needle generalizing i p with
  | nil => exact Within.pure (by rw [List.isPrefixOf_nil_left])
  | cons d needle ih =>
    rw [List.mem_cons, not_or] at hd
    cases p with
    | nil =>
      obtain h | h := h
      · exact absurd h List.not_mem_nil
      · exact absurd h (Nat.not_succ_le_zero _)
    | cons c p =>
      rw [List.length_cons] at hn
      rw [needleAt]
      apply Within.reading
      · split
        · rename_i hc
          subst hc
          have hp : '\x00' ∈ p ∨ needle.length ≤ p.length := by
            obtain h | h := h
            · exact .inl ((List.mem_cons.1 h).resolve_left hd.1)
            · exact .inr (Nat.le_of_succ_le_succ h)
          apply (ih hd.2 hp (by omega)).mono
          rintro _ rfl
          rw [cstr_cons (Ne.symm hd.1), List.isPrefixOf_cons_cons_self]
        · rename_i hc
          apply Within.pure
          by_cases hz : c = '\x00'
          · rw [hz, cstr_nul]
            rfl
          · have hdc : (d == c) = false := beq_false_of_ne (Ne.symm hc)
            rw [cstr_cons hz, List.isPrefixOf, hdc, Bool.false_and]
      · intro j hj
        rw [List.mem_singleton.1 hj]
        omega

/-- A needle that is not at the first byte is behind it. -/
theorem infix_tail {needle : Str} (hd : '\x00' ∉ needle) (h : needle <:+: c :: p)
    (hb : needle.isPrefixOf (cstr (c :: p)) = false) : needle <:+: p := by
  obtain h | h := List.infix_cons_iff.1 h
  · obtain ⟨t, ht⟩ := h
    have hpre : needle.isPrefixOf (cstr (c :: p)) = true := by
      rw [← ht, cstr_append hd, List.isPrefixOf_iff_prefix]
      exact List.prefix_append _ _
    rw [hb] at hpre
    cases hpre
  · exact h

/-- `strstr` stays inside when the needle or a NUL is ahead. -/
theorem strstrAt_within {needle : Str} (hd : '\x00' ∉ needle) (hne : needle ≠ [])
    (h : '\x00' ∈ p ∨ needle <:+: p) (hn : i + p.length = n) :
    Within n (fun x => x.map (fun y => (y.1, cstr y.2.rest)) = strstr needle (cstr p) ∧
        (x = none → '\x00' ∈ p) ∧ ∀ y ∈ x, p = y.1 ++ y.2.rest ∧ y.2.rest ≠ [])
      (strstrAt needle i p) := by
  induction p generalizing i with
  | nil =>
    obtain h | h := h
    · exact absurd h List.not_mem_nil
    · exact absurd (List.infix_nil.1 h) hne
  | cons c p ih =>
    rw [List.length_cons] at hn
    have hlen : '\x00' ∈ c :: p ∨ needle.length ≤ (c :: p).length :=
      h.imp_right fun h => h.length_le
    rw [strstrAt]
    apply (needleAt_within (i := i) hd hlen hn).bind
    rintro b hb
    cases b with
    | true =>
      have hz : c ≠ '\x00' := by
        rintro rfl
        rw [cstr_nul] at hb
        cases needle with
        | nil => exact hne rfl
        | cons d needle => cases hb
      apply Within.pure
      refine ⟨?_, by simp, ?_⟩
      · rw [cstr_cons hz] at hb ⊢
        rw [strstr, if_pos hb.symm]
        simp only [Option.map_some, cstr_cons hz]
      · rintro _ ⟨⟩
        exact ⟨rfl, List.cons_ne_nil c p⟩
    | false =>
      apply Within.reading
      · split
        · rename_i hz
          subst hz
          apply Within.pure
          refine ⟨?_, fun _ => List.mem_cons_self, by simp⟩
          rw [cstr_nul, strstr, if_neg hne]
          rfl
        · rename_i hz
          have hp : '\x00' ∈ p ∨ needle <:+: p := by
            obtain h | h := h
            · exact .inl ((List.mem_cons.1 h).resolve_left (Ne.symm hz))
            · exact .inr (infix_tail hd h hb.symm)
          apply (ih hp (by omega)).bind
          rintro x ⟨hx, hnone, hsome⟩
          apply Within.pure
          refine ⟨?_, ?_, ?_⟩
          · rw [cstr_cons hz] at hb ⊢
            rw [strstr, if_neg (by rw [← hb]; exact Bool.false_ne_true), ← hx]
            cases x <;> rfl
          · intro hx
            exact List.mem_cons_of_mem c (hnone (Option.map_eq_none_iff.1 hx))
          · intro y hy
            obtain ⟨z, hz, rfl⟩ := Option.map_eq_some_iff.1 hy
            obtain ⟨hp, hr⟩ := hsome z hz
            exact ⟨congrArg (c :: ·) hp, hr⟩
      · intro j hj
        rw [List.mem_singleton.1 hj]
        omega

theorem signedAt_signed (hc : c ≠ '\x00') {b : Bool} (hs : ∀ p, signed (c :: p) = (b, p))
    (h : '\x00' ∈ c :: p) (hn : i + (c :: p).length = n) :
    '\x00' ∈ (signed (c :: p)).2 ∧ signedAt i (c :: p) + (signed (c :: p)).2.length = n ∧
      signed (cstr (c :: p)) = ((signed (c :: p)).1, cstr (signed (c :: p)).2) := by
  rw [signedAt, cstr_cons hc, hs, hs, if_neg (List.cons_ne_self c p).symm]
  refine ⟨(List.mem_cons.1 h).resolve_left (Ne.symm hc), ?_, rfl⟩
  rw [← hn, List.length_cons, Nat.add_right_comm, Nat.add_assoc]

theorem signedAt_spec (h : '\x00' ∈ p) (hn : i + p.length = n) :
    '\x00' ∈ (signed p).2 ∧ signedAt i p + (signed p).2.length = n ∧
      signed (cstr p) = ((signed p).1, cstr (signed p).2) := by
  cases p with
  | nil => exact absurd h List.not_mem_nil
  | cons c p =>
    by_cases hm : c = '-'
    · subst hm
      exact signedAt_signed (by decide) (fun _ => rfl) h hn
    by_cases hp : c = '+'
    · subst hp
      exact signedAt_signed (by decide) (fun _ => rfl) h hn
    have hs := signed_unsigned hm hp
    rw [signedAt, hs, if_pos rfl]
    refine ⟨h, hn, ?_⟩
    by_cases hz : c = '\x00'
    · subst hz
      rfl
    · rw [cstr_cons hz, hs]

theorem strtoulAt_within (h : '\x00' ∈ p) (hn : i + p.length = n) :
    Within n (fun x => strtoul (cstr p) = (x.1, cstr x.2.rest) ∧ Terminated n x.2)
      (strtoulAt i p) := by
  have hblank := terminated_dropWhile (f := isspace) rfl h hn
  apply (readWhile_within (f := isspace) rfl h hn).bind
  rintro _ rfl
  obtain ⟨hz, hq⟩ := hblank
  generalize hqe : p.dropWhile isspace = q at hz hq
  generalize i + (p.takeWhile isspace).length = j at hz hq
  dsimp only at hz hq ⊢
  cases q with
  | nil => exact absurd hz List.not_mem_nil
  | cons c q =>
    apply (readAt_within hq).bind
    rintro _ -
    obtain ⟨hsz, hsn, hse⟩ := signedAt_spec hz hq
    have hdigits := terminated_dropWhile (f := isdigit) rfl hsz hsn
    apply (readWhile_within (f := isdigit) rfl hsz hsn).bind
    rintro _ rfl
    apply Within.pure
    have hd : (cstr p).dropWhile isspace = cstr (c :: q) := by
      rw [dropWhile_cstr rfl, hqe]
    simp only [strtoul, hd, hse, takeWhile_cstr (f := isdigit) rfl,
      dropWhile_cstr (f := isdigit) rfl]
    split
    · exact ⟨rfl, h, hn⟩
    · exact ⟨rfl, hdigits⟩

theorem strchrAt_within (hd : d ≠ '\x00') (h : '\x00' ∈ p) (hn : i + p.length = n) :
    Within n (fun x => x.map (fun y => (y.1, cstr y.2.rest)) = strchr d (cstr p) ∧
        ∀ y ∈ x, Terminated n y.2 ∧ y.2.index = i + y.1.length)
      (strchrAt d i p) := by
  have hf : isBefore d '\x00' = false := by simp [isBefore]
  obtain ⟨hz, hq⟩ := terminated_dropWhile hf h hn
  apply (readWhile_within hf h hn).bind
  rintro _ rfl
  have hcut := List.takeWhile_append_dropWhile (p := isBefore d) (l := p)
  have hplain : ∀ c ∈ p.takeWhile (isBefore d), c ≠ d ∧ c ≠ '\x00' := by
    intro c hc
    simpa [isBefore] using List.mem_takeWhile_imp hc
  have hstop := List.head?_dropWhile_not (isBefore d) p
  generalize p.takeWhile (isBefore d) = before at *
  generalize p.dropWhile (isBefore d) = q at *
  cases q with
  | nil => exact absurd hz List.not_mem_nil
  | cons c q =>
    dsimp only at hq hz ⊢
    apply (readAt_within hq).bind
    intro b hb
    apply Within.pure
    have hbz : '\x00' ∉ before := fun hb => (hplain _ hb).2 rfl
    have hbd : d ∉ before := fun hb => (hplain _ hb).1 rfl
    rw [hb, ← hcut, cstr_append hbz]
    split
    · rename_i hc
      refine ⟨?_, ?_⟩
      · rw [hc, cstr_cons hd, strchr_append hbd]
        simp only [Option.map_some, cstr_cons hd]
      · rintro _ ⟨⟩
        exact ⟨⟨hz, hq⟩, rfl⟩
    · rename_i hc
      have hnul : c = '\x00' := by
        simpa [isBefore, hc] using hstop
      refine ⟨?_, by simp⟩
      rw [hnul, cstr_nul, List.append_nil, strchr_eq_none_iff.2 hbd]
      rfl

theorem quoteEndsAt_within (h : '\x00' ∈ p) (hn : i + p.length = n) :
    Within n (fun x => x = quoteEnds (cstr p)) (quoteEndsAt i p) := by
  cases p with
  | nil => exact absurd h List.not_mem_nil
  | cons c p =>
    apply (readAt_within hn).bind
    intro b hb
    apply Within.pure
    subst hb
    by_cases hz : b = '\x00'
    · subst hz
      rfl
    · rw [cstr_cons hz, quoteEnds, decide_eq_false hz, Bool.false_or]

/-- One index, in an array that goes on behind it. -/
theorem lt_of_mem_singleton {c : Char} (hn : i + (c :: p).length = n) : ∀ j ∈ [i], j < n := by
  intro j hj
  rw [List.mem_singleton.1 hj, ← hn, List.length_cons]
  omega

theorem lt_of_mem_range {is : List Nat} (hn : i + p.length = n) (hj : j ∈ is)
    (h : ∀ j ∈ is, j < i + p.length) : j < n := hn ▸ h j hj

theorem hexEscape_cstr (h : HexEscape ('x' :: cstr (a :: b :: p))) :
    is_hex_digit a = true ∧ is_hex_digit b = true := by
  obtain ⟨c, d, q, he, hc, hd⟩ := h
  have ht := (List.cons.inj he).2
  have ha : a ≠ '\x00' := by
    rintro rfl
    cases ht
  rw [cstr_cons ha] at ht
  have htb := (List.cons.inj ht).2
  have hb : b ≠ '\x00' := by
    rintro rfl
    cases htb
  rw [cstr_cons hb] at htb
  rw [(List.cons.inj ht).1, (List.cons.inj htb).1]
  exact ⟨hc, hd⟩

theorem nul_mem_tail (hc : c ≠ '\x00') (h : '\x00' ∈ c :: p) : '\x00' ∈ p :=
  (List.mem_cons.1 h).resolve_left (Ne.symm hc)

theorem length_tail {c : Char} (hn : i + (c :: p).length = n) : i + 1 + p.length = n := by
  rw [← hn, List.length_cons, Nat.add_right_comm, Nat.add_assoc]

/-- A closing quote: the byte behind it is looked at, and decides. -/
theorem closing_within {q : Scan} {w : List Str} (h : '\x00' ∈ p) (hn : i + p.length = n)
    (ih : Within n (fun x => x = splitFrom q w (cstr p)) (splitFromAt q w i p)) :
    Within n (fun x => x = if quoteEnds (cstr p) then splitFrom q w (cstr p) else none) (do
      if ← quoteEndsAt i p then splitFromAt q w i p else pure none) := by
  apply (quoteEndsAt_within h hn).bind
  rintro _ rfl
  split
  · exact ih
  · exact Within.pure rfl

/-- A byte outside quotes: a NUL ends the scan with `w`, and one that `f` accepts begins a blank. -/
theorem unquoted_within {f : Char → Bool} {q : Scan} {w : List Str} (h : '\x00' ∈ c :: p)
    (hn : i + (c :: p).length = n) (hend : splitFrom m v [] = some w)
    (hstop : f c = true → splitFrom m v (c :: cstr p) = splitFrom .blank w (cstr p))
    (hgo : f c = false → splitFrom m v (c :: cstr p) = splitFrom q v (cstr p))
    (ihb : '\x00' ∈ p → i + 1 + p.length = n →
      Within n (fun x => x = splitFrom .blank w (cstr p)) (splitFromAt .blank w (i + 1) p))
    (iht : '\x00' ∈ p → i + 1 + p.length = n →
      Within n (fun x => x = splitFrom q v (cstr p)) (splitFromAt q v (i + 1) p)) :
    Within n (fun x => x = splitFrom m v (cstr (c :: p))) (.reading [i] <|
      if c = '\x00' then pure (some w)
      else if f c then splitFromAt .blank w (i + 1) p else splitFromAt q v (i + 1) p) := by
  apply Within.reading _ (lt_of_mem_singleton hn)
  split
  · rename_i hz
    exact Within.pure (by rw [hz, cstr_nul, hend])
  · rename_i hz
    have hp := nul_mem_tail hz h
    rw [cstr_cons hz]
    split
    · rename_i hs
      rw [hstop hs]
      exact ihb hp (length_tail hn)
    · rename_i hs
      rw [hgo (Bool.eq_false_iff.2 hs)]
      exact iht hp (length_tail hn)

/-- A byte between quotes `d` that escapes nothing: the quote ends the argument, a NUL the scan. -/
theorem quoted_within {d : Char} {q : Scan} {w : List Str} (hd : d ≠ '\x00') (h : '\x00' ∈ c :: p)
    (hn : i + (c :: p).length = n) (hend : splitFrom m v [] = none)
    (hclose : splitFrom m v (d :: cstr p) =
      if quoteEnds (cstr p) then splitFrom .blank w (cstr p) else none)
    (hgo : c ≠ d → splitFrom m v (c :: cstr p) = splitFrom q v (cstr p))
    (ihe : '\x00' ∈ p → i + 1 + p.length = n →
      Within n (fun x => x = splitFrom .blank w (cstr p)) (splitFromAt .blank w (i + 1) p))
    (ihc : '\x00' ∈ p → i + 1 + p.length = n →
      Within n (fun x => x = splitFrom q v (cstr p)) (splitFromAt q v (i + 1) p)) :
    Within n (fun x => x = splitFrom m v (cstr (c :: p))) (.reading [i] <|
      if c = d then do
        if ← quoteEndsAt (i + 1) p then splitFromAt .blank w (i + 1) p else pure none
      else if c = '\x00' then pure none else splitFromAt q v (i + 1) p) := by
  apply Within.reading _ (lt_of_mem_singleton hn)
  split
  · rename_i hc
    subst hc
    have hp := nul_mem_tail hd h
    rw [cstr_cons hd, hclose]
    exact closing_within hp (length_tail hn) (ihe hp (length_tail hn))
  · rename_i hc
    split
    · rename_i hz
      exact Within.pure (by rw [hz, cstr_nul, hend])
    · rename_i hz
      rw [cstr_cons hz, hgo hc]
      exact ihc (nul_mem_tail hz h) (length_tail hn)

/-- `sdssplitargs` stays inside when a NUL is ahead: it looks further only behind bytes that are
not NUL. -/
theorem splitFromAt_within (h : '\x00' ∈ p) (hn : i + p.length = n) :
    Within n (fun x => x = splitFrom m v (cstr p)) (splitFromAt m v i p) := by
  induction m, v, i, p using splitFromAt.induct with
  | case1 => exact absurd h List.not_mem_nil
  | case2 v i c p ihb iht =>
    rw [splitFromAt]
    exact unquoted_within h hn rfl splitFrom_blank_space splitFrom_blank_char ihb iht
  | case3 t v i c p ihb iht =>
    rw [splitFromAt]
    exact unquoted_within h hn rfl splitFrom_token_end splitFrom_token_char ihb iht
  | case4 => exact absurd h (by simp)
  | case5 => exact absurd h (by simp)
  | case6 t v i a ih =>
    have ha : '\x00' ∈ [a] := nul_mem_tail (by decide) (nul_mem_tail (by decide) h)
    obtain rfl := List.mem_singleton.1 ha
    rw [splitFromAt]
    apply Within.reading (ih ha (length_tail (length_tail hn)))
    exact fun j hj => lt_of_mem_range hn hj (by simp)
  | case7 t v i a b p ihh ihx =>
    have ha := nul_mem_tail (by decide) (nul_mem_tail (by decide) h)
    have hx := ihx ha (length_tail (length_tail hn))
    have hplain : ¬ (is_hex_digit a = true ∧ is_hex_digit b = true) →
        splitFrom (.inq t) v (cstr ('\\' :: 'x' :: a :: b :: p)) =
          splitFrom (.inq (t ++ ['x'])) v (cstr (a :: b :: p)) := by
      intro hno
      rw [cstr_cons (by decide), cstr_cons (by decide)]
      apply splitFrom_inq_escape
      exact fun he => hno (hexEscape_cstr he)
    rw [splitFromAt]
    apply Within.reading _ fun j hj => lt_of_mem_range hn hj (by simp)
    split
    · rename_i hda
      have hza : a ≠ '\x00' := by
        rintro rfl
        cases hda
      have hb := nul_mem_tail hza ha
      apply Within.reading _ fun j hj => lt_of_mem_range hn hj (by simp)
      split
      · rename_i hdb
        have hzb : b ≠ '\x00' := by
          rintro rfl
          cases hdb
        rw [cstr_cons (by decide), cstr_cons (by decide), cstr_cons hza, cstr_cons hzb,
          splitFrom_inq_hex hda hdb]
        exact ihh (nul_mem_tail hzb hb) (length_tail (length_tail (length_tail (length_tail hn))))
      · rename_i hdb
        rw [hplain fun hd => hdb hd.2]
        exact hx
    · rename_i hda
      rw [hplain fun hd => hda hd.1]
      exact hx
  | case8 t v i c p h1 h2 h3 ihz ihc =>
    have hc := nul_mem_tail (by decide) h
    rw [splitFromAt]
    · apply Within.reading _ fun j hj => lt_of_mem_range hn hj (by simp)
      split
      · rename_i hz
        subst hz
        exact ihz hc (length_tail hn)
      · rename_i hz
        have hx : ¬ HexEscape (c :: cstr p) := by
          rintro ⟨a, b, q, he, _, _⟩
          obtain ⟨rfl, hp⟩ := List.cons.inj he
          match p with
          | [] => cases hp
          | [d] => exact h2 d rfl rfl
          | d :: e :: p => exact h3 d e p rfl rfl
        rw [cstr_cons (by decide), cstr_cons hz, splitFrom_inq_escape hx]
        exact ihc (nul_mem_tail hz hc) (length_tail (length_tail hn))
    · exact h1
    · exact h2
    · exact h3
  | case9 t v i c p h1 h2 h3 h4 h5 ihe ihc =>
    have hb : c ≠ '\\' := by
      intro hc
      cases p with
      | nil => exact h1 hc rfl
      | cons d p => exact h5 d p hc rfl
    rw [splitFromAt]
    · exact quoted_within (by decide) h hn rfl splitFrom_inq_close
        (fun hq => splitFrom_inq_char hq hb) ihe ihc
    · exact h1
    · exact h2
    · exact h3
    · exact h4
    · exact h5
  | case10 => exact absurd h (by simp)
  | case11 t v i c p ihq ihb =>
    have hc := nul_mem_tail (by decide) h
    rw [splitFromAt]
    apply Within.reading _ fun j hj => lt_of_mem_range hn hj (by simp)
    split
    · rename_i hq
      subst hq
      exact ihq (nul_mem_tail (by decide) hc) (length_tail (length_tail hn))
    · rename_i hq
      have hhead : (cstr (c :: p)).head? ≠ some '\'' := by
        by_cases hz : c = '\x00'
        · subst hz
          simp [cstr_nul]
        · rw [cstr_cons hz]
          exact fun he => hq (Option.some.inj he)
      rw [cstr_cons (by decide), splitFrom_insq_char (by decide) fun _ => hhead]
      exact ihb hc (length_tail hn)
  | case12 t v i c p h1 h2 ihe ihc =>
    have hb : c ≠ '\\' := by
      intro hc
      cases p with
      | nil => exact h1 hc rfl
      | cons d p => exact h2 d p hc rfl
    rw [splitFromAt]
    · exact quoted_within (by decide) h hn rfl splitFrom_insq_close
        (fun hq => splitFrom_insq_char hq fun hc => absurd hc hb) ihe ihc
    · exact h1
    · exact h2

theorem refusedAt_within (h : '\x00' ∈ p) (hn : p.length = n) :
    Within n (fun x => x = .error (cstr p)) (refusedAt p) := by
  have hf : Within n (fun x => x = cstr p) (formattedAt 0 p) :=
    formattedAt_within h (by rw [Nat.zero_add, hn])
  apply hf.bind
  rintro _ -
  apply hf.bind
  rintro _ rfl
  exact Within.pure rfl

/-- The text of the refusal, or the command, that a scan gives. -/
def Scanned.outcome : Scanned → Except Str Command
  | .malformed buff => .error buff
  | .command seq id cmd buff =>
    match sdssplitargs cmd with
    | none => .error buff
    | some argv => .ok ⟨seq, id, argv⟩

/-- Behind `*end = 0` everything stays inside and is what the scans of the text before it give. -/
theorem scanLineAt_within (h : '\x00' ∈ p) (hn : p.length = n) :
    Within n (fun x => x = (scanLine (cstr p)).outcome) (scanLineAt p) := by
  have hrefused := refusedAt_within h hn
  apply (strtoulAt_within (i := 0) h (by rw [Nat.zero_add, hn])).bind
  rintro ⟨seq, ⟨j, q⟩⟩ ⟨hs, hz, hq⟩
  dsimp only at hs hz hq ⊢
  cases q with
  | nil => exact absurd hz List.not_mem_nil
  | cons c q =>
    apply (readAt_within hq).bind
    rintro b rfl
    split
    · rename_i hc
      have hm : scanLine (cstr p) = .malformed (cstr p) := by
        by_cases hb : b = '\x00'
        · subst hb
          rw [scanLine, hs, cstr_nul]
        · rw [scanLine, hs, cstr_cons hb]
          split
          · rename_i he
            exact absurd (List.cons.inj (Prod.mk.inj he).2).1 hc
          · rfl
      rw [hm]
      exact hrefused
    · rename_i hc
      obtain rfl := not_not.1 hc
      have hblank : cstr (' ' :: q) = ' ' :: cstr q := cstr_cons (by decide) q
      apply (strchrAt_within (by decide) (nul_mem_tail (by decide) hz) (length_tail hq)).bind
      rintro x ⟨hx, hterm⟩
      cases x with
      | none =>
        have hm : scanLine (cstr p) = .malformed (cstr p) := by
          rw [scanLine, hs, hblank]
          simp only [← hx, Option.map_none]
        rw [hm]
        exact hrefused
      | some x =>
        obtain ⟨id, ⟨k, r⟩⟩ := x
        obtain ⟨⟨hrz, hr⟩, hk⟩ := hterm _ rfl
        dsimp only at hrz hr hk
        have hm : scanLine (cstr p) = .command (UInt8.ofNat seq) id (cstr r) (cstr p) := by
          rw [scanLine, hs, hblank]
          simp only [← hx, Option.map_some]
        rw [hm]
        apply Within.reading
        · apply (splitFromAt_within hrz hr).bind
          rintro argv rfl
          dsimp only [Option.map_some, Scanned.outcome]
          rw [← sdssplitargs]
          cases ha : sdssplitargs (cstr r) with
          | none => exact hrefused
          | some argv =>
            apply (formattedAt_within hrz hr).bind
            rintro _ -
            exact Within.pure rfl
        · intro i hi
          have hb := (List.mem_range'_1.1 hi).2
          omega

/-- Every read is inside the array, and the result is the one of the scans, when a NUL or the end
of a command is ahead. -/
theorem handleInnerDataReceivedAt_within (h : '\x00' ∈ p ∨ END_OF_COMMAND <:+: p)
    (hn : p.length = n) :
    Within n (fun x => x = (scanCommand p).outcome) (handleInnerDataReceivedAt p) := by
  apply (strstrAt_within (i := 0) (by decide) (by decide) h (by rw [Nat.zero_add, hn])).bind
  rintro x ⟨hx, hnone, hsome⟩
  cases x with
  | none =>
    rw [scanCommand, ← hx]
    exact refusedAt_within (hnone rfl) hn
  | some x =>
    obtain ⟨line, stop⟩ := x
    obtain ⟨hcut, hne⟩ := hsome _ rfl
    dsimp only at hcut hne ⊢
    have hline : '\x00' ∉ line := by
      intro hm
      have hp := (strstr_eq_some hx.symm).1
      exact nul_not_mem_cstr p (hp ▸ List.mem_append_left _ hm)
    have hc : cstr (line ++ '\x00' :: stop.rest.tail) = line := by
      rw [cstr_append hline, cstr_nul, List.append_nil]
    have hlen : (line ++ '\x00' :: stop.rest.tail).length = n := by
      rw [← hn, hcut, List.length_append, List.length_append, List.length_cons, List.length_tail,
        Nat.sub_add_cancel (List.length_pos_iff.2 hne)]
    have hscan := scanLineAt_within (List.mem_append_right line List.mem_cons_self) hlen
    rw [hc] at hscan
    rw [scanCommand, ← hx]
    exact hscan

/-- A comparison that fails is one that fails inside, or that leaves the array. -/
theorem needleAt_mismatch {needle : Str} (h : ¬ needle <+: p) :
    i + p.length ∈ (needleAt needle i p).reads ∨ (needleAt needle i p).value = some false := by
  induction needle generalizing i p with
  | nil => exact absurd List.nil_prefix h
  | cons d needle ih =>
    cases p with
    | nil => exact .inl (List.mem_singleton_self i)
    | cons c p =>
      rw [needleAt]
      split
      · rename_i hc
        subst hc
        have hp : ¬ needle <+: p := fun hp => h (List.cons_prefix_cons.2 ⟨rfl, hp⟩)
        rw [← length_tail (c := c) (p := p) rfl]
        exact (ih hp).imp_left fun hm => List.mem_append_right _ hm
      · exact .inr rfl

/-- With neither ahead the search for the end of the command leaves the array. -/
theorem strstrAt_outside {needle : Str} (h : '\x00' ∉ p) (hd : ¬ needle <:+: p) :
    i + p.length ∈ (strstrAt needle i p).reads := by
  induction p generalizing i with
  | nil => exact List.mem_singleton_self i
  | cons c p ih =>
    rw [List.infix_cons_iff, not_or] at hd
    rw [List.mem_cons, not_or] at h
    rw [strstrAt]
    obtain hm | hv := needleAt_mismatch (i := i) hd.1
    · exact reads_subset_bind _ _ hm
    · rw [reads_bind hv]
      have hz : c ≠ '\x00' := Ne.symm h.1
      have htail := reads_subset_bind (strstrAt needle (i + 1) p)
        (fun x => pure (x.map fun x => (c :: x.1, x.2))) (ih h.2 hd.2 (i := i + 1))
      rw [length_tail rfl] at htail
      simp only [Bool.false_eq_true, if_false, if_neg hz]
      exact List.mem_append_right _ (List.mem_append_right _ htail)

theorem readBuff_length {read : Str} (h : read.length ≤ MAX_COMMAND_SIZE) :
    (readBuff read).length = MAX_COMMAND_SIZE := by
  rw [readBuff, List.length_append, List.length_replicate]
  omega

theorem readBuff_full {read : Str} (h : read.length = MAX_COMMAND_SIZE) :
    readBuff read = read := by
  rw [readBuff, h, Nat.sub_self, List.replicate_zero, List.append_nil]

/-- A full array without a NUL and without the end of a command is left. -/
theorem reads_outside {read : Str} (hl : read.length = MAX_COMMAND_SIZE) (hz : '\x00' ∉ read)
    (he : ¬ END_OF_COMMAND <:+: read) :
    MAX_COMMAND_SIZE ∈ (handleInnerDataReceivedAt (readBuff read)).reads := by
  have hm := strstrAt_outside (i := 0) hz he
  rw [Nat.zero_add, hl] at hm
  rw [readBuff_full hl]
  exact reads_subset_bind _ _ hm

/-- Every index read is one of the array exactly when the bytes read leave room for a NUL, or hold
one, or hold the end of a command. -/
theorem reads_inside_iff {read : Str} (h : read.length ≤ MAX_COMMAND_SIZE) :
    (∀ i ∈ (handleInnerDataReceivedAt (readBuff read)).reads, i < MAX_COMMAND_SIZE) ↔
      read.length < MAX_COMMAND_SIZE ∨ '\x00' ∈ read ∨ END_OF_COMMAND <:+: read := by
  apply Iff.intro
  · intro hin
    by_contra hno
    simp only [not_or] at hno
    obtain ⟨hl, hz, he⟩ := hno
    have hfull : read.length = MAX_COMMAND_SIZE := by omega
    exact absurd (hin _ (reads_outside hfull hz he)) (Nat.lt_irrefl _)
  · intro hread
    have hahead : '\x00' ∈ readBuff read ∨ END_OF_COMMAND <:+: readBuff read := by
      rw [readBuff]
      rcases hread with hl | hz | he
      · left
        apply List.mem_append_right
        rw [List.mem_replicate]
        exact ⟨by omega, rfl⟩
      · exact .inl (List.mem_append_left _ hz)
      · exact .inr (he.trans (List.prefix_append _ _).isInfix)
    exact (handleInnerDataReceivedAt_within hahead (readBuff_length h)).reads

theorem reads_inside_iff_ping :
    (∀ i ∈ (handleInnerDataReceivedAt (readBuff "0 7 ping\r\n".toList)).reads,
      i < MAX_COMMAND_SIZE) ↔
      "0 7 ping\r\n".toList.length < MAX_COMMAND_SIZE ∨ '\x00' ∈ "0 7 ping\r\n".toList ∨
        END_OF_COMMAND <:+: "0 7 ping\r\n".toList :=
  reads_inside_iff (by decide)

/-- A read of 1024 letters. -/
theorem reads_outside_letters :
    ¬ ∀ i ∈ (handleInnerDataReceivedAt (readBuff (List.replicate MAX_COMMAND_SIZE 'a'))).reads,
      i < MAX_COMMAND_SIZE := by
  intro h
  have hz : '\x00' ∉ List.replicate MAX_COMMAND_SIZE 'a' := by
    intro hm
    exact absurd (List.eq_of_mem_replicate hm) (by decide)
  have he : ¬ END_OF_COMMAND <:+: List.replicate MAX_COMMAND_SIZE 'a' := by
    intro hi
    have hm : '\r' ∈ List.replicate MAX_COMMAND_SIZE 'a' := hi.subset List.mem_cons_self
    exact absurd (List.eq_of_mem_replicate hm) (by decide)
  have hl : (List.replicate MAX_COMMAND_SIZE 'a').length = MAX_COMMAND_SIZE :=
    List.length_replicate
  exact absurd (h _ (reads_outside hl hz he)) (Nat.lt_irrefl _)

end SiteOnYourDevice
