import Mathlib.Data.List.Basic

namespace Documents
set_option relaxedAutoImplicit false
set_option autoImplicit true

variable {α κ : Type*} (keys : α → List κ)

/-- The document at a place of the collection has the key. -/
def HasKey (docs : List α) (i : Nat) (k : κ) : Prop := ∃ x, docs[i]? = some x ∧ k ∈ keys x

/-- The first document with the key. -/
def findOne [DecidableEq κ] (docs : List α) (k : κ) : Option Nat :=
  docs.findIdx? fun x => k ∈ keys x

/-- A key is carried by one document, and once in it. -/
structure OneOwner (docs : List α) : Prop where
  each : ∀ (i : Nat) (x : α), docs[i]? = some x → (keys x).Nodup
  owner : ∀ (i j : Nat) (k : κ), HasKey keys docs i k → HasKey keys docs j k → i = j

variable {keys} {docs : List α} {i j : Nat} {k : κ} {x : α} {f : α → α}

theorem hasKey_at (h : docs[i]? = some x) : HasKey keys docs i k ↔ k ∈ keys x := by
  constructor
  · rintro ⟨y, hy, hk⟩
    rw [h] at hy
    cases hy
    exact hk
  · intro hk
    exact ⟨x, h, hk⟩

theorem hasKey_iff_map :
    HasKey keys docs i k ↔ ∃ ks, (docs.map keys)[i]? = some ks ∧ k ∈ ks := by
  rw [List.getElem?_map]
  constructor
  · rintro ⟨x, hx, hk⟩
    exact ⟨keys x, by rw [hx]; rfl, hk⟩
  · rintro ⟨ks, hks, hk⟩
    obtain ⟨x, hx, rfl⟩ := Option.map_eq_some_iff.1 hks
    exact ⟨x, hx, hk⟩

theorem HasKey.lt (h : HasKey keys docs i k) : i < docs.length := by
  obtain ⟨x, hx, _⟩ := h
  exact (List.getElem?_eq_some_iff.1 hx).1

theorem hasKey_modify_of_ne (h : j ≠ i) :
    HasKey keys (docs.modify i f) j k ↔ HasKey keys docs j k := by
  simp only [HasKey, List.getElem?_modify_ne f docs (Ne.symm h)]

theorem hasKey_modify_self (h : docs[i]? = some x) :
    HasKey keys (docs.modify i f) i k ↔ k ∈ keys (f x) := by
  apply hasKey_at
  rw [List.getElem?_modify_eq, h]
  rfl

theorem HasKey.of_modify (hf : ∀ x, docs[i]? = some x → ∀ k ∈ keys (f x), k ∈ keys x)
    (h : HasKey keys (docs.modify i f) j k) : HasKey keys docs j k := by
  by_cases hj : j = i
  · subst hj
    obtain ⟨y, hy, hk⟩ := h
    rw [List.getElem?_modify_eq] at hy
    obtain ⟨x, hx, rfl⟩ := Option.map_eq_some_iff.1 hy
    exact ⟨x, hx, hf x hx k hk⟩
  · exact (hasKey_modify_of_ne hj).1 h

theorem hasKey_concat :
    HasKey keys (docs ++ [x]) j k ↔ HasKey keys docs j k ∨ j = docs.length ∧ k ∈ keys x := by
  obtain hlt | rfl | hgt := Nat.lt_trichotomy j docs.length
  · have he : HasKey keys (docs ++ [x]) j k ↔ HasKey keys docs j k := by
      simp only [HasKey, List.getElem?_append_left hlt]
    rw [he]
    constructor
    · exact .inl
    · rintro (h | ⟨rfl, _⟩)
      · exact h
      · exact absurd hlt (Nat.lt_irrefl _)
  · rw [hasKey_at List.getElem?_concat_length]
    constructor
    · exact fun hk => .inr ⟨rfl, hk⟩
    · rintro (h | ⟨_, hk⟩)
      · exact absurd h.lt (Nat.lt_irrefl _)
      · exact hk
  · constructor
    · intro h
      have hlt := h.lt
      rw [List.length_append, List.length_singleton] at hlt
      omega
    · rintro (h | ⟨rfl, _⟩)
      · exact absurd h.lt (Nat.lt_asymm hgt)
      · exact absurd hgt (Nat.lt_irrefl _)

section findOne
variable [DecidableEq κ]

theorem findOne_eq_none : findOne keys docs k = none ↔ ∀ i, ¬ HasKey keys docs i k := by
  rw [findOne, List.findIdx?_eq_none_iff]
  constructor
  · rintro h i ⟨x, hx, hk⟩
    exact of_decide_eq_false (h x (List.mem_of_getElem? hx)) hk
  · intro h x hx
    obtain ⟨i, hi⟩ := List.mem_iff_getElem?.1 hx
    exact decide_eq_false fun hk => h i ⟨x, hi, hk⟩

theorem hasKey_of_findOne (h : findOne keys docs k = some i) : HasKey keys docs i k := by
  obtain ⟨hi, hk, _⟩ := List.findIdx?_eq_some_iff_getElem.1 h
  exact ⟨docs[i], List.getElem?_eq_getElem hi, of_decide_eq_true hk⟩

/-- Where a key has one owner, a search for it finds the owner. -/
theorem OneOwner.findOne_eq (h : OneOwner keys docs) (hi : HasKey keys docs i k) :
    findOne keys docs k = some i := by
  cases hf : findOne keys docs k with
  | none => exact absurd hi (findOne_eq_none.1 hf i)
  | some j => rw [h.owner i j k hi (hasKey_of_findOne hf)]

end findOne

theorem oneOwner_nil : OneOwner keys ([] : List α) := by
  refine ⟨?_, ?_⟩
  · intro i x hx
    cases hx
  · rintro i j k ⟨x, hx, _⟩
    cases hx

/-- A new document may only bring keys that no document carries. -/
theorem OneOwner.concat (h : OneOwner keys docs) (hx : (keys x).Nodup)
    (hnew : ∀ k ∈ keys x, ∀ i, ¬ HasKey keys docs i k) : OneOwner keys (docs ++ [x]) := by
  refine ⟨?_, ?_⟩
  · intro i y hy
    by_cases hlt : i < docs.length
    · rw [List.getElem?_append_left hlt] at hy
      exact h.each i y hy
    · rw [List.getElem?_append_right (Nat.le_of_not_lt hlt)] at hy
      obtain rfl := List.mem_singleton.1 (List.mem_of_getElem? hy)
      exact hx
  · intro i j k hi hj
    obtain hi | ⟨rfl, hki⟩ := hasKey_concat.1 hi
    · obtain hj | ⟨rfl, hkj⟩ := hasKey_concat.1 hj
      · exact h.owner i j k hi hj
      · exact absurd hi (hnew k hkj i)
    · obtain hj | ⟨rfl, hkj⟩ := hasKey_concat.1 hj
      · exact absurd hj (hnew k hki j)
      · rfl

/-- An update keeps the keys apart exactly when no other document carries what it writes. -/
theorem OneOwner.modify_iff (h : OneOwner keys docs) (hx : docs[i]? = some x) :
    OneOwner keys (docs.modify i f) ↔
      (keys (f x)).Nodup ∧ ∀ k ∈ keys (f x), ∀ j, HasKey keys docs j k → j = i := by
  constructor
  · intro h'
    refine ⟨h'.each i (f x) ?_, ?_⟩
    · rw [List.getElem?_modify_eq, hx]
      rfl
    · intro k hk j hj
      by_contra hne
      exact hne (h'.owner j i k ((hasKey_modify_of_ne hne).2 hj) ((hasKey_modify_self hx).2 hk))
  · rintro ⟨hnodup, hown⟩
    have howner (j : Nat) (k : κ) (hk : k ∈ keys (f x))
        (hj : HasKey keys (docs.modify i f) j k) : j = i := by
      by_contra hne
      exact hne (hown k hk j ((hasKey_modify_of_ne hne).1 hj))
    refine ⟨?_, ?_⟩
    · intro j y hy
      by_cases hj : j = i
      · subst hj
        rw [List.getElem?_modify_eq, hx] at hy
        cases hy
        exact hnodup
      · rw [List.getElem?_modify_ne f docs (Ne.symm hj)] at hy
        exact h.each j y hy
    · intro j j' k hj hj'
      by_cases he : j = i
      · subst he
        exact (howner j' k ((hasKey_modify_self hx).1 hj) hj').symm
      · by_cases he' : j' = i
        · subst he'
          exact howner j k ((hasKey_modify_self hx).1 hj') hj
        · exact h.owner j j' k ((hasKey_modify_of_ne he).1 hj) ((hasKey_modify_of_ne he').1 hj')

/-- So does an update that writes no new key. -/
theorem OneOwner.modify_of_sublist (h : OneOwner keys docs)
    (hf : ∀ x, (keys (f x)).Sublist (keys x)) : OneOwner keys (docs.modify i f) := by
  cases hx : docs[i]? with
  | none => rwa [List.modify_eq_self (List.getElem?_eq_none_iff.1 hx)]
  | some x =>
    apply (h.modify_iff hx).2
    refine ⟨(h.each i x hx).sublist (hf x), ?_⟩
    intro k hk j hj
    exact h.owner j i k hj ⟨x, hx, (hf x).subset hk⟩

end Documents
