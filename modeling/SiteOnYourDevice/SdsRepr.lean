import SiteOnYourDevice.SdsSplitArgs

namespace Sds
open CString
set_option relaxedAutoImplicit false
set_option autoImplicit true

/-- What the loop of `sdscatrepr` appends for a byte. -/
def reprByte (c : Char) : Str :=
  if c = '\\' ∨ c = '"' then ['\\', c]
  else if c = '\n' then ['\\', 'n']
  else if c = '\r' then ['\\', 'r']
  else if c = '\t' then ['\\', 't']
  else if c = '\x07' then ['\\', 'a']
  else if c = '\x08' then ['\\', 'b']
  else if isprint c then [c]
  else '\\' :: 'x' :: hex02 c

def sdscatrepr (s p : Str) : Str := s ++ '"' :: p.flatMap reprByte ++ ['"']

/-- `sdsjoinsds`: the separator stands behind every string but the last. -/
def sdsjoinsds (sep : Str) : List Str → Str
  | [] => []
  | [s] => s
  | s :: argv => s ++ sep ++ sdsjoinsds sep argv

example : sdscatrepr [] "\x07\n\x00foo\r".toList = "\"\\a\\n\\x00foo\\r\"".toList := by
  decide

/-- The characters of these strings are bytes. -/
def Bytes (s : Str) : Prop := ∀ c ∈ s, c.toNat < 256

theorem hex_digit_of_lt (h : n < 16) :
    is_hex_digit (Nat.digitChar n) = true ∧ hex_digit_to_int (Nat.digitChar n) = n := by
  have hall : ∀ n < 16, is_hex_digit (Nat.digitChar n) = true ∧
      hex_digit_to_int (Nat.digitChar n) = n := by decide
  exact hall n h

/-- The two digits of a byte are read back as the byte. -/
theorem splitFrom_inq_hex02 (h : c.toNat < 256) :
    splitFrom (.inq t) v ('\\' :: 'x' :: hex02 c ++ p) = splitFrom (.inq (t ++ [c])) v p := by
  have hhigh : c.toNat / 16 < 16 := by omega
  have hlow : c.toNat % 16 < 16 := Nat.mod_lt _ (by decide)
  obtain ⟨ha, hvala⟩ := hex_digit_of_lt hhigh
  obtain ⟨hb, hvalb⟩ := hex_digit_of_lt hlow
  have hbyte : hexByte (Nat.digitChar (c.toNat / 16)) (Nat.digitChar (c.toNat % 16)) = c := by
    rw [hexByte, hvala, hvalb, Nat.div_add_mod', Char.ofNat_toNat]
  rw [hex02, Nat.mod_eq_of_lt hhigh]
  have hread := splitFrom_inq_hex (t := t) (v := v) (p := p) ha hb
  rw [hbyte] at hread
  exact hread

/-- A letter behind a backslash stands for a byte, unless it is the `x`. -/
theorem splitFrom_inq_letter (h : d ≠ 'x') (hd : unescape d = c) :
    splitFrom (.inq t) v ('\\' :: d :: p) = splitFrom (.inq (t ++ [c])) v p := by
  rw [splitFrom_inq_escape, hd]
  rintro ⟨a, b, q, hq, _⟩
  exact h (List.cons.inj hq).1

/-- What is appended for a byte is read back as the byte. -/
theorem splitFrom_reprByte (h : c.toNat < 256) :
    splitFrom (.inq t) v (reprByte c ++ p) = splitFrom (.inq (t ++ [c])) v p := by
  rw [reprByte]
  split
  · rename_i hc
    rcases hc with rfl | rfl
    · exact splitFrom_inq_letter (by decide) rfl
    · exact splitFrom_inq_letter (by decide) rfl
  rename_i hc
  obtain ⟨hb, hq⟩ := not_or.1 hc
  split
  · rename_i hn
    exact splitFrom_inq_letter (by decide) hn.symm
  split
  · rename_i hr
    exact splitFrom_inq_letter (by decide) hr.symm
  split
  · rename_i ht
    exact splitFrom_inq_letter (by decide) ht.symm
  split
  · rename_i ha
    exact splitFrom_inq_letter (by decide) ha.symm
  split
  · rename_i hbs
    exact splitFrom_inq_letter (by decide) hbs.symm
  split
  · exact splitFrom_inq_char hq hb
  · exact splitFrom_inq_hex02 h

theorem splitFrom_flatMap_reprByte (h : Bytes s) :
    splitFrom (.inq t) v (s.flatMap reprByte ++ p) = splitFrom (.inq (t ++ s)) v p := by
  induction s generalizing t with
  | nil => rw [List.append_nil]; rfl
  | cons c s ih =>
    rw [List.flatMap_cons, List.append_assoc, splitFrom_reprByte (h c List.mem_cons_self),
      ih fun d hd => h d (List.mem_cons_of_mem c hd), List.append_assoc]
    rfl

/-- A quoted string is one argument, when a space or nothing at all follows. -/
theorem splitFrom_sdscatrepr (h : Bytes s) (hp : quoteEnds p = true) :
    splitFrom .blank v (sdscatrepr [] s ++ p) = splitFrom .blank (v ++ [s]) p := by
  have htext : sdscatrepr [] s ++ p = '"' :: (s.flatMap reprByte ++ '"' :: p) := by
    simp [sdscatrepr]
  rw [htext, splitFrom_blank_char rfl]
  change splitFrom (.inq []) v _ = _
  rw [splitFrom_flatMap_reprByte h, splitFrom_inq_close, if_pos hp]
  rfl

theorem splitFrom_joined {argv : List Str} (h : ∀ s ∈ argv, Bytes s) :
    splitFrom .blank v (sdsjoinsds [' '] (argv.map (sdscatrepr []))) = some (v ++ argv) := by
  induction argv generalizing v with
  | nil => rw [List.append_nil]; rfl
  | cons s argv ih =>
    obtain ⟨hs, hargv⟩ := List.forall_mem_cons.1 h
    cases argv with
    | nil =>
      have hone := splitFrom_sdscatrepr (v := v) (p := []) hs rfl
      rw [List.append_nil] at hone
      exact hone
    | cons s' argv =>
      have hrest := ih (v := v ++ [s]) hargv
      rw [List.append_assoc] at hrest
      rw [List.map_cons, List.map_cons, sdsjoinsds, List.append_assoc,
        splitFrom_sdscatrepr hs rfl, List.singleton_append, splitFrom_blank_space rfl]
      · exact hrest
      · exact nofun

theorem isprint_letter (h : isprint d = true) (hc : c ∈ ['\\', d]) : isprint c = true := by
  rw [List.mem_cons, List.mem_singleton] at hc
  rcases hc with rfl | rfl
  · rfl
  · exact h

theorem reprByte_isprint (hc : c ∈ reprByte d) : isprint c = true := by
  have hdigit : ∀ n < 16, isprint (Nat.digitChar n) = true := by decide
  rw [reprByte] at hc
  split at hc
  · rename_i hd
    rcases hd with rfl | rfl
    · exact isprint_letter rfl hc
    · exact isprint_letter rfl hc
  iterate 5
    split at hc
    · exact isprint_letter rfl hc
  split at hc
  · rename_i hd
    rw [List.mem_singleton.1 hc]
    exact hd
  · simp only [hex02, List.mem_cons, List.not_mem_nil, or_false] at hc
    rcases hc with rfl | rfl | rfl | rfl
    · rfl
    · rfl
    · exact hdigit _ (Nat.mod_lt _ (by decide))
    · exact hdigit _ (Nat.mod_lt _ (by decide))

theorem sdscatrepr_isprint (hc : c ∈ sdscatrepr [] s) : isprint c = true := by
  rw [sdscatrepr, List.nil_append, List.cons_append, List.mem_cons, List.mem_append,
    List.mem_singleton] at hc
  rcases hc with rfl | hc | rfl
  · rfl
  · obtain ⟨d, _, hc⟩ := List.mem_flatMap.1 hc
    exact reprByte_isprint hc
  · rfl

theorem sdsjoinsds_isprint {argv : List Str} (h : ∀ s ∈ argv, ∀ c ∈ s, isprint c = true) :
    ∀ c ∈ sdsjoinsds [' '] argv, isprint c = true := by
  fun_induction sdsjoinsds [' '] argv with
  | case1 => exact nofun
  | case2 s => exact h s List.mem_cons_self
  | case3 s argv hne ih =>
    obtain ⟨hs, hargv⟩ := List.forall_mem_cons.1 h
    intro c hc
    rw [List.append_assoc, List.mem_append, List.mem_append, List.mem_singleton] at hc
    rcases hc with hc | rfl | hc
    · exact hs c hc
    · rfl
    · exact ih hargv c hc

/-- `sdssplitargs` reads back whatever strings `sdscatrepr` quoted, and the line they make has
nothing but printable characters: no NUL ends it and no end of a command stands in it. -/
theorem sdssplitargs_sdscatrepr {argv : List Str} (h : ∀ s ∈ argv, Bytes s) :
    sdssplitargs (sdsjoinsds [' '] (argv.map (sdscatrepr []))) = some argv ∧
      ∀ c ∈ sdsjoinsds [' '] (argv.map (sdscatrepr [])), isprint c = true := by
  constructor
  · exact splitFrom_joined h
  · apply sdsjoinsds_isprint
    intro s hs c hc
    obtain ⟨a, _, rfl⟩ := List.mem_map.1 hs
    exact sdscatrepr_isprint hc

theorem sdssplitargs_sdscatrepr_two :
    sdssplitargs (sdsjoinsds [' '] ([[], "a \"b\"\r\n\x00\xff".toList].map (sdscatrepr []))) =
        some [[], "a \"b\"\r\n\x00\xff".toList] ∧
      ∀ c ∈ sdsjoinsds [' '] ([[], "a \"b\"\r\n\x00\xff".toList].map (sdscatrepr [])),
        isprint c = true :=
  sdssplitargs_sdscatrepr (by simp [Bytes])

end Sds
