import Mathlib.Data.List.Basic

namespace RemoveIf
set_option relaxedAutoImplicit false
set_option autoImplicit true

variable {α σ : Type*} (p : α → σ → Bool × σ)

/-- The place of the first match, or the length; the predicate may have effects. -/
def findIf : List α → σ → Nat × σ
  | [], s => (0, s)
  | x :: v, s =>
    match p x s with
    | (true, s) => (0, s)
    | (false, s) => ((findIf v s).1 + 1, (findIf v s).2)

/-- The loop behind the first match: what is kept is moved from `first` to `result`. -/
def shift : Nat → List α → Nat → Nat → σ → (List α × Nat) × σ
  | 0, v, _, result, s => ((v, result), s)
  | n + 1, v, first, result, s =>
    match v[first]? with
    | none => ((v, result), s)
    | some x =>
      match p x s with
      | (true, s) => shift n v (first + 1) result s
      | (false, s) => shift n (v.set result x) (first + 1) (result + 1) s

/-- `std::remove_if` on a whole vector: the vector, and the new end in it. -/
def removeIf (v : List α) (s : σ) : (List α × Nat) × σ :=
  let first := (findIf p v s).1
  if first = v.length then ((v, first), (findIf p v s).2)
  else shift p (v.length - (first + 1)) v (first + 1) first (findIf p v s).2

/-- `erase` from the new end to the old one. -/
def eraseTail (r : (List α × Nat) × σ) : List α × σ := (r.1.1.take r.1.2, r.2)

/-- `v.erase(std::remove_if(v.begin(), v.end(), p), v.end())`. -/
def eraseIf (v : List α) (s : σ) : List α × σ := eraseTail (removeIf p v s)

/-- One pass from the left: the predicate runs once on each element. -/
def pass : List α → σ → List α × σ
  | [], s => ([], s)
  | x :: v, s =>
    match p x s with
    | (true, s) => pass v s
    | (false, s) => (x :: (pass v s).1, (pass v s).2)

variable {p}

theorem pass_true {s' : σ} {x : α} {v : List α} {s : σ} (h : p x s = (true, s')) :
    pass p (x :: v) s = pass p v s' := by
  simp only [pass, h]

theorem pass_false {s' : σ} {x : α} {v : List α} {s : σ} (h : p x s = (false, s')) :
    pass p (x :: v) s = (x :: (pass p v s').1, (pass p v s').2) := by
  simp only [pass, h]

/-- The search splits the vector before the first match and leaves the rest of the pass to do. -/
theorem findIf_spec (v : List α) (s : σ) :
    (findIf p v s).1 = v.length ∧ pass p v s = (v, (findIf p v s).2) ∨
      ∃ a x b, v = a ++ x :: b ∧ (findIf p v s).1 = a.length ∧
        pass p v s =
          (a ++ (pass p b (findIf p v s).2).1, (pass p b (findIf p v s).2).2) := by
  induction v generalizing s with
  | nil => exact .inl ⟨rfl, rfl⟩
  | cons x v ih =>
    cases h : p x s with
    | mk found s' =>
      cases found with
      | true =>
        have hf : findIf p (x :: v) s = (0, s') := by simp only [findIf, h]
        rw [hf, pass_true h]
        exact .inr ⟨[], x, v, rfl, rfl, rfl⟩
      | false =>
        have hf : findIf p (x :: v) s = ((findIf p v s').1 + 1, (findIf p v s').2) := by
          simp only [findIf, h]
        rw [hf, pass_false h]
        obtain ⟨hlen, hpass⟩ | ⟨a, y, b, hv, hlen, hpass⟩ := ih s'
        · rw [hpass]
          exact .inl ⟨congrArg (· + 1) hlen, rfl⟩
        · rw [hpass]
          exact .inr ⟨x :: a, y, b, congrArg (x :: ·) hv, congrArg (· + 1) hlen, rfl⟩

/-- A kept element is written behind the kept ones, over the first that has been moved away. -/
theorem set_kept (kept moved rest : List α) (x : α) :
    (kept ++ moved ++ x :: rest).set kept.length x =
      kept ++ [x] ++ (moved ++ [x]).tail ++ rest := by
  cases moved with
  | nil => simp
  | cons y moved => simp

/-- What is kept stands before what has been moved away, and this before what is still to read. -/
theorem shift_spec (kept moved rest : List α) (s : σ) :
    eraseTail
        (shift p rest.length (kept ++ moved ++ rest) (kept ++ moved).length kept.length s) =
      (kept ++ (pass p rest s).1, (pass p rest s).2) := by
  induction rest generalizing kept moved s with
  | nil =>
    simp only [List.length_nil, shift, eraseTail, pass, List.append_nil, List.take_left]
  | cons x rest ih =>
    have hx : (kept ++ moved ++ x :: rest)[(kept ++ moved).length]? = some x := by
      rw [List.getElem?_append_right (Nat.le_refl _), Nat.sub_self]
      rfl
    cases h : p x s with
    | mk found s' =>
      cases found with
      | true =>
        have hv : kept ++ moved ++ x :: rest = kept ++ (moved ++ [x]) ++ rest := by simp
        have hl : (kept ++ moved).length + 1 = (kept ++ (moved ++ [x])).length := by
          simp only [List.length_append, List.length_singleton]
          omega
        rw [pass_true h, ← ih kept (moved ++ [x]) s', List.length_cons]
        simp only [shift, hx, h]
        rw [hl, hv]
      | false =>
        have hl : (kept ++ moved).length + 1 = (kept ++ [x] ++ (moved ++ [x]).tail).length := by
          simp only [List.length_append, List.length_tail, List.length_cons, List.length_nil]
          omega
        have hr : kept.length + 1 = (kept ++ [x]).length := by simp
        have hk := ih (kept ++ [x]) (moved ++ [x]).tail s'
        rw [← set_kept, ← hl, ← hr, List.append_assoc kept [x], List.singleton_append] at hk
        rw [pass_false h, ← hk, List.length_cons]
        simp only [shift, hx, h]

theorem eraseIf_eq_pass (v : List α) (s : σ) : eraseIf p v s = pass p v s := by
  obtain ⟨hlen, hpass⟩ | ⟨a, x, b, hv, hlen, hpass⟩ := findIf_spec (p := p) v s
  · rw [eraseIf, removeIf, if_pos hlen, hlen, eraseTail, List.take_length, hpass]
  · have hne : (findIf p v s).1 ≠ v.length := by
      rw [hlen, hv, List.length_append, List.length_cons]
      omega
    have hrest : v.length - ((findIf p v s).1 + 1) = b.length := by
      rw [hlen, hv, List.length_append, List.length_cons]
      omega
    have hs := shift_spec (p := p) a [x] b (findIf p v s).2
    have hfirst : (findIf p v s).1 + 1 = (a ++ [x]).length := by
      rw [hlen, List.length_append]
      rfl
    have hvec : v = a ++ [x] ++ b := by
      rw [hv, List.append_assoc]
      rfl
    rw [eraseIf, removeIf, if_neg hne, hrest, hfirst, hlen, hpass]
    rw [← hs, ← hvec]

theorem pass_of_test {q : α → Bool} {f : α → σ → σ}
    (h : ∀ x s, p x s = if q x then (true, f x s) else (false, s)) (v : List α) (s : σ) :
    pass p v s = (v.filter (!q ·), (v.filter q).foldl (fun s x => f x s) s) := by
  induction v generalizing s with
  | nil => rfl
  | cons x v ih =>
    cases hq : q x with
    | true =>
      have hp : p x s = (true, f x s) := by rw [h, if_pos hq]
      rw [pass_true hp, ih, List.filter_cons_of_pos hq, List.filter_cons_of_neg (by simp [hq])]
      rfl
    | false =>
      have hneg : ¬ q x = true := by
        rw [hq]
        exact Bool.false_ne_true
      have hp : p x s = (false, s) := by rw [h, if_neg hneg]
      rw [pass_false hp, ih, List.filter_cons_of_neg hneg, List.filter_cons_of_pos (by simp [hq])]

end RemoveIf
