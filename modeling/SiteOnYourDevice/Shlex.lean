import Mathlib.Data.List.Basic

namespace Shlex
set_option relaxedAutoImplicit false
set_option autoImplicit true

/-- The characters that a splitter knows. -/
structure Lexer (α : Type*) where
  whitespace : α → Bool
  quotes : α → Bool
  escape : α → Bool
  escapedquotes : α → Bool

/-- Between two tokens, in one, behind an opening quote, behind an escape; an escape knows the quote
that it stands in. -/
inductive State (α : Type*)
  | blank
  | word
  | quoted (quote : α)
  | escaped (escape : α) (inside : Option α)

/-- A state with the token so far, and whether it had a quote. -/
structure Reader (α : Type*) where
  state : State α
  token : List α
  quoted : Bool

/-- The token is given out, unless it is empty and had no quote. -/
def Reader.give (r : Reader α) : List (List α) :=
  if r.token.isEmpty && !r.quoted then [] else [r.token]

/-- What the next character of a word is put behind. -/
def Reader.kept (r : Reader α) : List α :=
  match r.state with
  | .blank => []
  | _ => r.token

def start : Reader α := ⟨.blank, [], false⟩

def Reader.finish (r : Reader α) : Except String (List (List α)) :=
  match r.state with
  | .blank | .word => .ok r.give
  | .quoted _ => .error "No closing quotation"
  | .escaped _ _ => .error "No escaped character"

/-- The characters of tokens, with one more for each. -/
def weight : List (List α) → Nat
  | [] => 0
  | token :: tokens => token.length + 1 + weight tokens

/-- The weight that a reader has left for its token; an open quote has lost a character. -/
def Reader.room (r : Reader α) : Nat :=
  match r.state with
  | .quoted _ => r.token.length
  | _ => r.token.length + 1

/-- No quote is open, and no escape. -/
def Reader.Open (r : Reader α) : Prop := r.state = .blank ∨ r.state = .word

theorem weight_append (tokens tokens' : List (List α)) :
    weight (tokens ++ tokens') = weight tokens + weight tokens' := by
  induction tokens with
  | nil => exact (Nat.zero_add _).symm
  | cons token tokens ih => rw [List.cons_append, weight, weight, ih, Nat.add_assoc _ (weight _)]

theorem weight_give (r : Reader α) : weight r.give ≤ r.token.length + 1 := by
  rw [Reader.give]
  split
  · exact Nat.zero_le _
  · exact Nat.le_refl _

theorem mem_give {r : Reader α} {token : List α} (h : token ∈ r.give) : token = r.token := by
  rw [Reader.give] at h
  split at h
  · cases h
  · exact List.mem_singleton.1 h

theorem Reader.kept_sublist (r : Reader α) : r.kept.Sublist r.token := by
  rw [Reader.kept]
  split
  · exact List.nil_sublist _
  · exact List.Sublist.refl _

theorem finish_eq {r : Reader α} {tokens : List (List α)} (h : r.finish = .ok tokens) :
    r.Open ∧ tokens = r.give := by
  rw [Reader.finish] at h
  split at h
  · rename_i hs
    cases h
    exact ⟨.inl hs, rfl⟩
  · rename_i hs
    cases h
    exact ⟨.inr hs, rfl⟩
  · cases h
  · cases h

theorem Reader.Open.room_eq {r : Reader α} (h : r.Open) : r.room = r.token.length + 1 := by
  rw [Reader.room]
  rcases h with hs | hs <;> rw [hs]

theorem intercalate_cons (b : α) (word word' : List α) (words : List (List α)) :
    [b].intercalate (word :: word' :: words) = word ++ b :: [b].intercalate (word' :: words) :=
  rfl

theorem weight_intercalate {b : α} {words : List (List α)} (hwords : words ≠ []) :
    weight words = ([b].intercalate words).length + 1 := by
  induction words with
  | nil => exact absurd rfl hwords
  | cons word words ih =>
    cases words with
    | nil => simp [weight, List.intercalate]
    | cons word' words =>
      have hweight : weight (word :: word' :: words) = word.length + 1 + weight (word' :: words) :=
        rfl
      rw [hweight, ih nofun, intercalate_cons, List.length_append, List.length_cons]
      omega

variable {α : Type*} [DecidableEq α] (lex : Lexer α)

/-- The tokens that a character gives out, and the reader behind it. -/
def step (r : Reader α) (c : α) : List (List α) × Reader α :=
  match r.state with
  | .blank =>
    if lex.whitespace c then (r.give, start)
    else if lex.escape c then ([], { r with state := .escaped c none })
    else if lex.quotes c then ([], { r with state := .quoted c })
    else ([], { r with state := .word, token := [c] })
  | .word =>
    if lex.whitespace c then (r.give, start)
    else if lex.quotes c then ([], { r with state := .quoted c })
    else if lex.escape c then ([], { r with state := .escaped c none })
    else ([], { r with token := r.token ++ [c] })
  | .quoted quote =>
    if c = quote then ([], { r with state := .word, quoted := true })
    else if lex.escape c && lex.escapedquotes quote then
      ([], { r with state := .escaped c (some quote), quoted := true })
    else ([], { r with token := r.token ++ [c], quoted := true })
  | .escaped escape inside =>
    -- within quotes only the quote and the escape can be escaped
    let kept := if inside.any fun quote => c ≠ escape && c ≠ quote then [escape] else []
    ([], { r with state := inside.elim .word .quoted, token := r.token ++ kept ++ [c] })

def read : Reader α → List α → Except String (List (List α))
  | r, [] => r.finish
  | r, c :: text => (read (step lex r c).2 text).map ((step lex r c).1 ++ ·)

/-- The tokens of a text, with quotes and escapes resolved. -/
def split (text : List α) : Except String (List (List α)) := read lex start text

/-- A character that stands for itself. -/
structure Lexer.Plain (c : α) : Prop where
  whitespace : lex.whitespace c = false
  quotes : lex.quotes c = false
  escape : lex.escape c = false

variable {lex} {r : Reader α} {b : α} {text : List α} {tokens words : List (List α)}

variable (lex) in
/-- A character adds at most itself to what is given out. -/
theorem step_weight (r : Reader α) (c : α) :
    weight (step lex r c).1 + (step lex r c).2.room ≤ r.room + 1 := by
  have hgive := weight_give r
  rcases r with ⟨state, token, quoted⟩
  cases state with
  | blank =>
    simp only [step]
    split_ifs
    · exact Nat.add_le_add_right hgive 1
    all_goals
      simp only [weight, Reader.room, List.length_singleton]
      omega
  | word =>
    simp only [step]
    split_ifs
    · exact Nat.add_le_add_right hgive 1
    all_goals
      simp only [weight, Reader.room, List.length_append,
        List.length_singleton]
      omega
  | quoted quote =>
    simp only [step]
    split_ifs
    all_goals
      simp only [weight, Reader.room, List.length_append,
        List.length_singleton]
      omega
  | escaped escape inside =>
    cases inside with
    | none => simp [step, weight, Reader.room]
    | some quote =>
      simp only [step]
      split_ifs
      · simp [weight, Reader.room]
      · simp [weight, Reader.room]

theorem read_cons {c : α} (h : read lex r (c :: text) = .ok tokens) :
    ∃ rest, read lex (step lex r c).2 text = .ok rest ∧ tokens = (step lex r c).1 ++ rest := by
  rw [read] at h
  cases hread : read lex (step lex r c).2 text with
  | error message =>
    rw [hread] at h
    cases h
  | ok rest =>
    rw [hread] at h
    cases h
    exact ⟨rest, rfl, rfl⟩

/-- No text gives out more than itself. -/
theorem read_weight (h : read lex r text = .ok tokens) :
    weight tokens ≤ r.room + text.length := by
  induction text generalizing r tokens with
  | nil =>
    obtain ⟨hopen, rfl⟩ := finish_eq h
    rw [hopen.room_eq]
    exact weight_give r
  | cons c text ih =>
    obtain ⟨rest, hrest, rfl⟩ := read_cons h
    have hstep := step_weight lex r c
    have hih := ih hrest
    rw [weight_append, List.length_cons]
    omega

theorem step_whitespace (hopen : r.Open) {c : α} (hc : lex.whitespace c = true) :
    step lex r c = (r.give, start) := by
  rcases r with ⟨state, token, quoted⟩
  rcases hopen with rfl | rfl
  · exact if_pos hc
  · exact if_pos hc

theorem step_plain (hopen : r.Open) {c : α} (hc : lex.Plain c) :
    step lex r c = ([], ⟨.word, r.kept ++ [c], r.quoted⟩) := by
  rcases r with ⟨state, token, quoted⟩
  rcases hopen with rfl | rfl
  · simp [step, Reader.kept, hc.whitespace, hc.quotes, hc.escape]
  · simp [step, Reader.kept, hc.whitespace, hc.quotes, hc.escape]

theorem step_lost (hopen : r.Open) {c : α} (hw : lex.whitespace c = false) (hc : ¬ lex.Plain c) :
    weight (step lex r c).1 + (step lex r c).2.room ≤ r.room := by
  have hspecial : lex.quotes c = true ∨ lex.escape c = true := by
    by_contra hnone
    obtain ⟨hq, he⟩ := not_or.1 hnone
    exact hc ⟨hw, Bool.eq_false_iff.2 hq, Bool.eq_false_iff.2 he⟩
  rcases r with ⟨state, token, quoted⟩
  rcases hopen with rfl | rfl
  · rcases Bool.eq_false_or_eq_true (lex.escape c) with he | he
    · simp [step, weight, Reader.room, hw, he]
    · simp [step, weight, Reader.room, hw, he, hspecial.resolve_right (by simp [he])]
  · rcases Bool.eq_false_or_eq_true (lex.quotes c) with hq | hq
    · simp [step, weight, Reader.room, hw, hq]
    · simp [step, weight, Reader.room, hw, hq, hspecial.resolve_left (by simp [hq])]

/-- The tokens of a text that gives out all of itself but one character for each gap are plain. -/
theorem read_tight (hopen : r.Open) (htoken : ∀ c ∈ r.token, lex.Plain c)
    (h : read lex r text = .ok tokens) (hweight : weight tokens = r.room + text.length) :
    ∀ token ∈ tokens, ∀ c ∈ token, lex.Plain c := by
  induction text generalizing r tokens with
  | nil =>
    obtain ⟨_, rfl⟩ := finish_eq h
    intro token ht
    rw [mem_give ht]
    exact htoken
  | cons c text ih =>
    obtain ⟨rest, hrest, rfl⟩ := read_cons h
    have hle := read_weight hrest
    rw [weight_append, List.length_cons, hopen.room_eq] at hweight
    rcases Bool.eq_false_or_eq_true (lex.whitespace c) with hw | hw
    · rw [step_whitespace hopen hw] at hrest hle hweight ⊢
      have hgive := weight_give r
      have hrest_weight : weight rest = (start : Reader α).room + text.length := by
        dsimp only [start, Reader.room, List.length_nil] at hle hweight ⊢
        omega
      intro token ht
      rcases List.mem_append.1 ht with ht | ht
      · rw [mem_give ht]
        exact htoken
      · exact ih (.inl rfl) (by simp [start]) hrest hrest_weight token ht
    · by_cases hc : lex.Plain c
      · rw [step_plain hopen hc] at hrest hle hweight ⊢
        have hkept := r.kept_sublist.length_le
        apply ih (.inr rfl) _ hrest
        · simp only [weight, Reader.room, List.length_append,
            List.length_singleton] at hle hweight ⊢
          omega
        · intro d hd
          rcases List.mem_append.1 hd with hd | hd
          · exact htoken d (r.kept_sublist.subset hd)
          · exact List.mem_singleton.1 hd ▸ hc
      · have hlost := step_lost hopen hw hc
        rw [hopen.room_eq] at hlost
        omega

theorem read_plain {word : List α} (hopen : r.Open) (hword : word ≠ [])
    (hplain : ∀ c ∈ word, lex.Plain c) (text : List α) :
    read lex r (word ++ text) = read lex ⟨.word, r.kept ++ word, r.quoted⟩ text := by
  induction word generalizing r with
  | nil => exact absurd rfl hword
  | cons c word ih =>
    rw [List.cons_append, read, step_plain hopen (hplain c List.mem_cons_self)]
    have hnil (out : Except String (List (List α))) : out.map ([] ++ ·) = out := by
      cases out <;> rfl
    rw [hnil]
    cases word with
    | nil => rfl
    | cons d word =>
      rw [ih (.inr rfl) nofun fun c hc => hplain c (List.mem_cons_of_mem _ hc)]
      simp [Reader.kept]

theorem split_intercalate (hb : lex.whitespace b = true) (hwords : ∀ word ∈ words, word ≠ [])
    (hplain : ∀ word ∈ words, ∀ c ∈ word, lex.Plain c) :
    split lex ([b].intercalate words) = .ok words := by
  induction words with
  | nil => rfl
  | cons word words ih =>
    have hword := hwords word List.mem_cons_self
    have hread := read_plain (r := start) (.inl rfl) hword
      (hplain word List.mem_cons_self)
    have hgive : (⟨.word, word, false⟩ : Reader α).give = [word] := by simp [Reader.give, hword]
    cases words with
    | nil =>
      rw [split, List.intercalate_singleton, ← List.append_nil word, hread]
      simp [read, Reader.finish, Reader.kept, start, hgive]
    | cons word' words =>
      have hrest := ih (fun w hw => hwords w (List.mem_cons_of_mem _ hw))
        (fun w hw => hplain w (List.mem_cons_of_mem _ hw))
      rw [split] at hrest
      rw [split, intercalate_cons, hread, read, step_whitespace (.inr rfl) hb, hrest]
      simp [Reader.kept, start, hgive, Except.map]

/-- Words that are joined come back from the splitter exactly when they are plain. -/
theorem split_intercalate_iff (hb : lex.whitespace b = true) (hwords : ∀ word ∈ words, word ≠ []) :
    split lex ([b].intercalate words) = .ok words ↔
      ∀ word ∈ words, ∀ c ∈ word, lex.Plain c := by
  apply Iff.intro
  · intro h
    by_cases hnil : words = []
    · simp [hnil]
    · apply read_tight (.inl rfl) (by simp [start]) h
      rw [weight_intercalate (b := b) hnil, Nat.add_comm]
      rfl
  · exact split_intercalate hb hwords

/-- The characters of the splitter by default, as in a shell. -/
def posix : Lexer Char where
  whitespace c := c ∈ [' ', '\t', '\r', '\n']
  quotes c := c = '\'' || c = '"'
  escape c := c = '\\'
  escapedquotes c := c = '"'

example : split posix "a 'b c' \"\\\"\" d\\ e".toList =
    .ok ["a".toList, "b c".toList, "\"".toList, "d e".toList] := by decide +kernel

end Shlex
