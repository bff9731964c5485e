import Mathlib.Data.List.Nodup

set_option relaxedAutoImplicit false
set_option autoImplicit true

/-- Cells with keys, and events that are addressed to them. -/
structure DispatchTable (σ ν κ : Type*) where
  key : σ → κ
  address : ν → κ
  create : ν → σ
  step : σ → ν → σ
  key_create : ∀ e, key (create e) = address e
  key_step : ∀ s e, key (step s e) = key s

namespace DispatchTable

variable {σ ν κ : Type*} [DecidableEq κ] (T : DispatchTable σ ν κ)

/-- An event goes to the first cell with its address, or to a new one at the end. -/
def dispatch : List σ → ν → List σ
  | [], e => [T.step (T.create e) e]
  | s :: t, e => if T.key s = T.address e then T.step s e :: t else s :: dispatch t e

/-- The place of that cell. -/
def place : List σ → ν → Nat
  | [], _ => 0
  | s :: t, e => if T.key s = T.address e then 0 else place t e + 1

/-- The cell with a key. -/
def cell (t : List σ) (k : κ) : Option σ := t.find? (T.key · = k)

/-- What an event makes of its cell. -/
def feed (s : Option σ) (e : ν) : Option σ := some (T.step (s.getD (T.create e)) e)

/-- The events of a run with the places of their cells. -/
def log : List σ → List ν → List (Nat × ν)
  | _, [] => []
  | t, e :: es => (T.place t e, e) :: log (T.dispatch t e) es

variable {T} {t : List σ} {e : ν} {k : κ}

theorem keys_dispatch (t : List σ) (e : ν) :
    (T.dispatch t e).map T.key =
      if T.address e ∈ t.map T.key then t.map T.key else t.map T.key ++ [T.address e] := by
  induction t with
  | nil => simp only [dispatch, List.map_cons, List.map_nil, T.key_step, T.key_create,
      List.not_mem_nil, if_false, List.nil_append]
  | cons s t ih =>
    rw [dispatch]
    by_cases h : T.key s = T.address e
    · rw [if_pos h, List.map_cons, List.map_cons, T.key_step, if_pos]
      rw [h]
      exact List.mem_cons_self
    · rw [if_neg h, List.map_cons, List.map_cons, ih]
      simp only [List.mem_cons, Ne.symm h, false_or]
      split
      · rfl
      · rfl

/-- Cells are never moved. -/
theorem keys_grow (t : List σ) (e : ν) : t.map T.key <+: (T.dispatch t e).map T.key := by
  rw [keys_dispatch]
  split
  · exact List.prefix_refl _
  · exact List.prefix_append _ _

theorem nodup_dispatch (h : (t.map T.key).Nodup) : ((T.dispatch t e).map T.key).Nodup := by
  rw [keys_dispatch]
  split
  · exact h
  · rename_i hnew
    exact h.append (List.nodup_singleton _) (List.disjoint_singleton.2 hnew)

/-- The place of an event is one with its address. -/
theorem keys_place (t : List σ) (e : ν) :
    ((T.dispatch t e).map T.key)[T.place t e]? = some (T.address e) := by
  induction t with
  | nil => simp only [dispatch, place, List.map_cons, T.key_step, T.key_create,
      List.getElem?_cons_zero]
  | cons s t ih =>
    rw [dispatch, place]
    by_cases h : T.key s = T.address e
    · rw [if_pos h, if_pos h, List.map_cons, List.getElem?_cons_zero, T.key_step, h]
    · rw [if_neg h, if_neg h, List.map_cons, List.getElem?_cons_succ, ih]

theorem cell_dispatch (t : List σ) (e : ν) (k : κ) :
    T.cell (T.dispatch t e) k =
      if T.address e = k then T.feed (T.cell t k) e else T.cell t k := by
  induction t with
  | nil =>
    rw [dispatch, cell, List.find?_singleton, T.key_step, T.key_create]
    simp only [decide_eq_true_eq]
    rfl
  | cons s t ih =>
    simp only [cell, feed] at ih ⊢
    rw [dispatch]
    by_cases hs : T.key s = T.address e
    · rw [if_pos hs]
      by_cases hk : T.address e = k
      · simp only [List.find?_cons, T.key_step, hs, hk, decide_true, if_true, Option.getD_some]
      · simp only [List.find?_cons, T.key_step, hs, hk, decide_false, if_false]
    · rw [if_neg hs]
      by_cases hk : T.key s = k
      · have hne : T.address e ≠ k := fun h => hs (hk.trans h.symm)
        simp only [List.find?_cons, hk, hne, decide_true, if_false]
      · simp only [List.find?_cons, hk, decide_false, ih]

/-- A new cell is put at the end. -/
theorem dispatch_new (h : T.cell t (T.address e) = none) :
    T.place t e = t.length ∧ T.dispatch t e = t ++ [T.step (T.create e) e] := by
  induction t with
  | nil => exact ⟨rfl, rfl⟩
  | cons s t ih =>
    rw [cell, List.find?_eq_none] at h
    have hs : T.key s ≠ T.address e := fun he => h s List.mem_cons_self (decide_eq_true he)
    have ht : T.cell t (T.address e) = none :=
      List.find?_eq_none.2 fun x hx => h x (List.mem_cons_of_mem _ hx)
    obtain ⟨hplace, hdispatch⟩ := ih ht
    rw [place, dispatch, if_neg hs, if_neg hs, hplace, hdispatch]
    exact ⟨rfl, rfl⟩

/-- A known cell is updated where it is. -/
theorem dispatch_known {s : σ} (h : T.cell t (T.address e) = some s) :
    t[T.place t e]? = some s ∧ t.set (T.place t e) (T.step s e) = T.dispatch t e := by
  induction t with
  | nil => cases h
  | cons d t ih =>
    rw [cell, List.find?_cons] at h
    rw [place, dispatch]
    by_cases hd : T.key d = T.address e
    · rw [decide_eq_true hd] at h
      cases h
      rw [if_pos hd, if_pos hd]
      exact ⟨rfl, rfl⟩
    · rw [decide_eq_false hd] at h
      obtain ⟨hget, hset⟩ := ih h
      rw [if_neg hd, if_neg hd, List.getElem?_cons_succ, List.set_cons_succ, hset]
      exact ⟨hget, rfl⟩

theorem prefix_run (t : List σ) (es : List ν) :
    t.map T.key <+: (es.foldl T.dispatch t).map T.key := by
  induction es generalizing t with
  | nil => exact List.prefix_refl _
  | cons e es ih => exact (keys_grow t e).trans (ih _)

theorem nodup_run (h : (t.map T.key).Nodup) (es : List ν) :
    ((es.foldl T.dispatch t).map T.key).Nodup := by
  induction es generalizing t with
  | nil => exact h
  | cons e es ih => exact ih (nodup_dispatch h)

theorem log_events (t : List σ) (es : List ν) : (T.log t es).map Prod.snd = es := by
  induction es generalizing t with
  | nil => rfl
  | cons e es ih => rw [log, List.map_cons, ih]

/-- By induction over the events: each went to a cell with its address, which is there at the
end. -/
theorem log_place (t : List σ) (es : List ν) :
    ∀ d ∈ T.log t es, ((es.foldl T.dispatch t).map T.key)[d.1]? = some (T.address d.2) := by
  induction es generalizing t with
  | nil =>
    intro d hd
    cases hd
  | cons e es ih =>
    intro d hd
    rcases List.mem_cons.1 hd with rfl | hd
    · have hplace := keys_place (T := T) t e
      obtain ⟨suf, hsuf⟩ := prefix_run (T := T) (T.dispatch t e) es
      obtain ⟨hlt, _⟩ := List.getElem?_eq_some_iff.1 hplace
      rw [List.foldl_cons, ← hsuf, List.getElem?_append_left hlt]
      exact hplace
    · exact ih _ d hd

/-- By induction over the events: a cell has seen those of its own key, in their order. -/
theorem cell_run (t : List σ) (es : List ν) (k : κ) :
    T.cell (es.foldl T.dispatch t) k =
      (es.filter (T.address · = k)).foldl T.feed (T.cell t k) := by
  induction es generalizing t with
  | nil => rfl
  | cons e es ih =>
    rw [List.foldl_cons, ih, cell_dispatch, List.filter_cons]
    split
    · rename_i h
      rw [if_pos (decide_eq_true h), List.foldl_cons]
    · rename_i h
      rw [if_neg (by rw [decide_eq_true_eq]; exact h)]

end DispatchTable
