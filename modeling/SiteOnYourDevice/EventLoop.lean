import Mathlib.Logic.Hydra
import Mathlib.Logic.Relation

namespace EventLoop
open Relation
set_option relaxedAutoImplicit false
set_option autoImplicit true

/-- What a program does in one turn. An operation that it starts is answered in a later turn, by its
callback; `stop` is also the end of a turn that throws. -/
inductive Turn (Op : Type) (Ans : Op → Type) (σ Out : Type)
  | stop
  | update (f : σ → σ) (next : Turn Op Ans σ Out)
  | read (next : σ → Turn Op Ans σ Out)
  | emit (out : Out) (next : Turn Op Ans σ Out)
  | start (op : Op) (callback : Ans op → Turn Op Ans σ Out) (next : Turn Op Ans σ Out)

structure Waiting (Op : Type) (Ans : Op → Type) (σ Out : Type) where
  op : Op
  callback : Ans op → Turn Op Ans σ Out

inductive Event (Op : Type) (Ans : Op → Type) (Out : Type)
  | answered (op : Op) (answer : Ans op)
  | emitted (out : Out)

/-- Between two turns: the newest event stands first. -/
structure Loop (Op : Type) (Ans : Op → Type) (σ Out : Type) where
  shared : σ
  waiting : List (Waiting Op Ans σ Out)
  trace : List (Event Op Ans Out)

variable {Op : Type} {Ans : Op → Type} {σ Out : Type}

def Turn.run : Turn Op Ans σ Out → Loop Op Ans σ Out → Loop Op Ans σ Out
  | stop, l => l
  | update f next, l => next.run { l with shared := f l.shared }
  | read next, l => (next l.shared).run l
  | emit out next, l => next.run { l with trace := .emitted out :: l.trace }
  | start op callback next, l => next.run { l with waiting := l.waiting ++ [⟨op, callback⟩] }

/-- The turn of a callback. -/
def Waiting.turn (env : ∀ op, Ans op) (w : Waiting Op Ans σ Out) (l : Loop Op Ans σ Out) :
    Loop Op Ans σ Out :=
  (w.callback (env w.op)).run { l with trace := .answered w.op (env w.op) :: l.trace }

/-- Any operation that waits may be the next one that is answered. -/
inductive Step (env : ∀ op, Ans op) (l : Loop Op Ans σ Out) : Loop Op Ans σ Out → Prop
  | answer (before after : List (Waiting Op Ans σ Out)) (w : Waiting Op Ans σ Out)
      (h : l.waiting = before ++ w :: after) :
      Step env l (w.turn env { l with waiting := before ++ after })

def Runs (env : ∀ op, Ans op) : Loop Op Ans σ Out → Loop Op Ans σ Out → Prop :=
  ReflTransGen (Step env)

/-- `Q` holds whatever the order of the answers has been so far. -/
def Throughout (env : ∀ op, Ans op) (Q : Loop Op Ans σ Out → Prop) (l : Loop Op Ans σ Out) : Prop :=
  ∀ l', Runs env l l' → Q l'

/-- What the turns before emitted, the newest first. -/
def Loop.emitted (l : Loop Op Ans σ Out) : List Out :=
  l.trace.filterMap fun
    | .answered _ _ => none
    | .emitted out => some out

variable {env : ∀ op, Ans op} {l l' : Loop Op Ans σ Out} {w w' : Waiting Op Ans σ Out}
  {Q I : Loop Op Ans σ Out → Prop} {t : Turn Op Ans σ Out}

/-- The run rule. -/
theorem throughout_of_invariant (hl : I l) (hstep : ∀ l l', I l → Step env l l' → I l')
    (hQ : ∀ l, I l → Q l) : Throughout env Q l := by
  intro l' hruns
  apply hQ
  induction hruns with
  | refl => exact hl
  | tail _ hs ih => exact hstep _ _ ih hs

theorem throughout_iff :
    Throughout env Q l ↔ Q l ∧ ∀ l', Step env l l' → Throughout env Q l' := by
  constructor
  · intro h
    exact ⟨h l .refl, fun l' hs l'' hruns => h l'' (hruns.head hs)⟩
  · intro ⟨hl, hrest⟩ l' hruns
    cases hruns.cases_head with
    | inl heq => exact heq ▸ hl
    | inr h =>
      obtain ⟨l₁, hs, hruns⟩ := h
      exact hrest l₁ hs l' hruns

/-- A loop at rest. -/
theorem throughout_rest (h : l.waiting = []) : Throughout env Q l ↔ Q l := by
  rw [throughout_iff, and_iff_left]
  intro l' hs
  cases hs with
  | answer before after w hw =>
    rw [h] at hw
    cases before <;> cases hw

/-- A loop that waits for one answer. -/
theorem throughout_one (h : l.waiting = [w]) :
    Throughout env Q l ↔ Q l ∧ Throughout env Q (w.turn env { l with waiting := [] }) := by
  rw [throughout_iff]
  refine and_congr_right fun _ => ⟨fun hall => hall _ (.answer [] [] w h), fun hw l' hs => ?_⟩
  cases hs with
  | answer before after w' hw' =>
    rw [h, List.singleton_eq_append_iff] at hw'
    obtain ⟨rfl, heq⟩ | ⟨_, heq⟩ := hw'
    · cases heq
      exact hw
    · cases heq

/-- Whatever a turn, or a callback that it leads to, emits is in `P`. -/
def Turn.Emits (env : ∀ op, Ans op) (P : Out → Prop) : Turn Op Ans σ Out → Prop
  | stop => True
  | update _ next => next.Emits env P
  | read next => ∀ s, (next s).Emits env P
  | emit out next => P out ∧ next.Emits env P
  | start op callback next => (callback (env op)).Emits env P ∧ next.Emits env P

structure EmitsOnly (env : ∀ op, Ans op) (P : Out → Prop) (l : Loop Op Ans σ Out) : Prop where
  emitted : ∀ out ∈ l.emitted, P out
  waiting : ∀ w ∈ l.waiting, (w.callback (env w.op)).Emits env P

theorem EmitsOnly.run {P : Out → Prop} (t : Turn Op Ans σ Out) (ht : t.Emits env P)
    (hl : EmitsOnly env P l) : EmitsOnly env P (t.run l) := by
  induction t generalizing l with
  | stop => exact hl
  | update f next ih => exact ih ht ⟨hl.emitted, hl.waiting⟩
  | read next ih => exact ih l.shared (ht l.shared) hl
  | emit out next ih => exact ih ht.2 ⟨List.forall_mem_cons.2 ⟨ht.1, hl.emitted⟩, hl.waiting⟩
  | start op callback next _ ih =>
    refine ih ht.2 ⟨hl.emitted, ?_⟩
    intro w hw
    obtain hw | hw := List.mem_append.1 hw
    · exact hl.waiting w hw
    · cases List.mem_singleton.1 hw
      exact ht.1

/-- The rule for what is emitted, by the structure of the turns. -/
theorem EmitsOnly.throughout {P : Out → Prop} (h : EmitsOnly env P l) :
    Throughout env (fun l => ∀ out ∈ l.emitted, P out) l := by
  refine throughout_of_invariant h (fun l l' hl hs => ?_) fun _ hl => hl.emitted
  cases hs with
  | answer before after w hw =>
    refine EmitsOnly.run _ (hl.waiting w (by rw [hw]; simp)) ⟨hl.emitted, fun w' hw' => ?_⟩
    apply hl.waiting
    rw [hw]
    exact List.mem_append.2 ((List.mem_append.1 hw').imp_right (List.mem_cons_of_mem _))

/-- What a turn may start. -/
inductive Starts : Turn Op Ans σ Out → Waiting Op Ans σ Out → Prop
  | here (op : Op) (callback : Ans op → Turn Op Ans σ Out) (next : Turn Op Ans σ Out) :
      Starts (.start op callback next) ⟨op, callback⟩
  | start (op : Op) (callback : Ans op → Turn Op Ans σ Out) {next : Turn Op Ans σ Out}
      {w : Waiting Op Ans σ Out} (h : Starts next w) : Starts (.start op callback next) w
  | update (f : σ → σ) {next : Turn Op Ans σ Out} {w : Waiting Op Ans σ Out} (h : Starts next w) :
      Starts (.update f next) w
  | read (s : σ) {next : σ → Turn Op Ans σ Out} {w : Waiting Op Ans σ Out}
      (h : Starts (next s) w) : Starts (.read next) w
  | emit (out : Out) {next : Turn Op Ans σ Out} {w : Waiting Op Ans σ Out} (h : Starts next w) :
      Starts (.emit out next) w

/-- A callback may start the other operation. -/
def Below (w' w : Waiting Op Ans σ Out) : Prop := ∃ answer, Starts (w.callback answer) w'

theorem run_waiting (t : Turn Op Ans σ Out) (l : Loop Op Ans σ Out) :
    ∃ ws, (t.run l).waiting = l.waiting ++ ws ∧ ∀ w ∈ ws, Starts t w := by
  induction t generalizing l with
  | stop => exact ⟨[], (List.append_nil _).symm, nofun⟩
  | update f next ih =>
    obtain ⟨ws, hws, hstarts⟩ := ih { l with shared := f l.shared }
    exact ⟨ws, hws, fun w hw => .update f (hstarts w hw)⟩
  | read next ih =>
    obtain ⟨ws, hws, hstarts⟩ := ih l.shared l
    exact ⟨ws, hws, fun w hw => .read l.shared (hstarts w hw)⟩
  | emit out next ih =>
    obtain ⟨ws, hws, hstarts⟩ := ih { l with trace := .emitted out :: l.trace }
    exact ⟨ws, hws, fun w hw => .emit out (hstarts w hw)⟩
  | start op callback next _ ih =>
    obtain ⟨ws, hws, hstarts⟩ := ih { l with waiting := l.waiting ++ [⟨op, callback⟩] }
    refine ⟨⟨op, callback⟩ :: ws, hws.trans (List.append_assoc _ _ _), ?_⟩
    rw [List.forall_mem_cons]
    exact ⟨.here op callback next, fun w hw => .start op callback (hstarts w hw)⟩

theorem acc_of_starts (t : Turn Op Ans σ Out) (h : Starts t w) : Acc Below w := by
  induction t generalizing w with
  | stop => cases h
  | update f next ih =>
    cases h with
    | update _ h => exact ih h
  | read next ih =>
    cases h with
    | read s h => exact ih s h
  | emit out next ih =>
    cases h with
    | emit _ h => exact ih h
  | start op callback next ihcallback ih =>
    cases h with
    | here => exact ⟨_, fun w' ⟨answer, hw'⟩ => ihcallback answer hw'⟩
    | start _ _ h => exact ih h

theorem wellFounded_below :
    WellFounded (Below : Waiting Op Ans σ Out → Waiting Op Ans σ Out → Prop) :=
  ⟨fun w => acc_of_starts (.start w.op w.callback .stop) (.here w.op w.callback .stop)⟩

/-- A step takes one operation out, and what its callback starts is below it. -/
theorem cutExpand_of_step (hs : Step env l l') :
    CutExpand Below (l'.waiting : Multiset (Waiting Op Ans σ Out)) l.waiting := by
  cases hs with
  | answer before after w h =>
    obtain ⟨ws, hws, hstarts⟩ := run_waiting (w.callback (env w.op))
      { l with
        waiting := before ++ after
        trace := .answered w.op (env w.op) :: l.trace }
    refine ⟨ws, w, fun w' hw' => ⟨_, hstarts w' hw'⟩, ?_⟩
    rw [Waiting.turn, hws, h, ← Multiset.coe_singleton, Multiset.coe_add, Multiset.coe_add,
      Multiset.coe_eq_coe]
    exact (List.perm_append_singleton w _).trans (List.perm_middle.symm.append_right ws)

/-- No order of answers goes on forever. -/
theorem wellFounded_step (env : ∀ op, Ans op) :
    WellFounded fun l' l : Loop Op Ans σ Out => Step env l l' := by
  have hwf := InvImage.wf (fun l : Loop Op Ans σ Out => Multiset.ofList l.waiting)
    wellFounded_below.cutExpand
  exact Subrelation.wf (fun hs => cutExpand_of_step hs) hwf

/-- Every loop comes to rest. -/
theorem exists_rest (env : ∀ op, Ans op) (l : Loop Op Ans σ Out) :
    ∃ l', Runs env l l' ∧ l'.waiting = [] := by
  induction l using (wellFounded_step env).induction with
  | _ l ih =>
    cases h : l.waiting with
    | nil => exact ⟨l, .refl, h⟩
    | cons w ws =>
      have hs : Step env l (w.turn env { l with waiting := ws }) := .answer [] ws w h
      obtain ⟨l', hruns, hrest⟩ := ih _ hs
      exact ⟨l', hruns.head hs, hrest⟩

end EventLoop
