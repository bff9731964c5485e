import Mathlib.Data.List.Basic

namespace DotSegments
set_option relaxedAutoImplicit false
set_option autoImplicit true

/-- A segment of a path that says something: a step up, or a step down to a name. -/
inductive Segment (α : Type*)
  | up
  | name (a : α)
deriving DecidableEq

/-- One segment, from a directory that is given by the names from the root on; there is nothing
above the root. -/
def step : List α → Segment α → List α
  | dir, .up => dir.dropLast
  | dir, .name a => dir ++ [a]

def walk (dir : List α) (segs : List (Segment α)) : List α := segs.foldl step dir

/-- A path without detours: so many steps up, and the names behind them. -/
structure Net (α : Type*) where
  ups : Nat
  names : List α
deriving DecidableEq

namespace Net

def step : Net α → Segment α → Net α
  | ⟨ups, []⟩, .up => ⟨ups + 1, []⟩
  | ⟨ups, a :: names⟩, .up => ⟨ups, (a :: names).dropLast⟩
  | ⟨ups, names⟩, .name a => ⟨ups, names ++ [a]⟩

def apply (n : Net α) (dir : List α) : List α := dir.take (dir.length - n.ups) ++ n.names

theorem apply_step (n : Net α) (dir : List α) (seg : Segment α) :
    (n.step seg).apply dir = DotSegments.step (n.apply dir) seg := by
  cases n with
  | mk ups names =>
    cases seg with
    | name a => cases names <;> simp [step, apply, DotSegments.step]
    | up =>
      cases names with
      | nil =>
        have hlength : min (dir.length - ups) dir.length - 1 = dir.length - (ups + 1) := by omega
        simp only [step, apply, DotSegments.step, List.append_nil, List.dropLast_eq_take,
          List.length_take, List.take_take, hlength]
        congr 1
        omega
      | cons a names =>
        rw [step, apply, apply, DotSegments.step, List.dropLast_append_of_ne_nil]
        exact List.cons_ne_nil a names

theorem prefix_apply_iff (n : Net α) (dir : List α) :
    dir <+: n.apply dir ↔ dir.drop (dir.length - n.ups) <+: n.names := by
  have h : dir.take (dir.length - n.ups) ++ dir.drop (dir.length - n.ups) <+: n.apply dir ↔
      dir.drop (dir.length - n.ups) <+: n.names := List.prefix_append_right_inj _
  rwa [List.take_append_drop] at h

end Net

def net (segs : List (Segment α)) : Net α := segs.foldl Net.step ⟨0, []⟩

/-- Walking along a path is going up and then down its net steps. -/
theorem walk_eq (dir : List α) (segs : List (Segment α)) : walk dir segs = (net segs).apply dir := by
  have hfold (n : Net α) : segs.foldl step (n.apply dir) = (segs.foldl Net.step n).apply dir := by
    induction segs generalizing n with
    | nil => rfl
    | cons seg segs ih => rw [List.foldl_cons, List.foldl_cons, ← n.apply_step, ih]
  rw [walk, net, ← hfold ⟨0, []⟩, Net.apply, Nat.sub_zero, List.take_length, List.append_nil]

/-- A path ends below where it starts exactly when it comes back through the names it went up. -/
theorem prefix_walk_iff (dir : List α) (segs : List (Segment α)) :
    dir <+: walk dir segs ↔ dir.drop (dir.length - (net segs).ups) <+: (net segs).names := by
  rw [walk_eq, Net.prefix_apply_iff]

/-- From the root there is nothing to come back through but the names themselves. -/
theorem prefix_walk_root_iff (dir : List α) (segs : List (Segment α)) :
    dir <+: walk [] segs ↔ dir <+: (net segs).names := by
  rw [walk_eq, Net.apply, List.take_nil, List.nil_append]

end DotSegments
