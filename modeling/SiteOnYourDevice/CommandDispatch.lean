import SiteOnYourDevice.ArrayReads
import SiteOnYourDevice.InnerServerHandler
import SiteOnYourDevice.InnerServerHandlerHost

namespace SiteOnYourDevice
open CString JsonC ArrayReads ArrayReads.Reading
set_option relaxedAutoImplicit false
set_option autoImplicit true

/-- `memcmp(BUF, CMD, sizeof(CMD) - 1)`: it is told to read as many bytes of the word as the name
has, and the word ends with the NUL at its length. -/
def IS_EQUAL_COMMANDAt (BUF CMD : Str) : Reading Bool :=
  .reading (List.range CMD.length) (pure (IS_EQUAL_COMMAND BUF CMD))

/-- A chain of `else if` over the names: the name whose branch is taken, `none` at the end. -/
def takenAt (w : Str) : List Str → Reading (Option Str)
  | [] => pure none
  | CMD :: names => do
    if ← IS_EQUAL_COMMANDAt w CMD then pure (some CMD) else takenAt w names

/-- A chain of comparisons with one word of a frame: the command word of a request, and both words
of a response and of an approval, with what else the handler gets. The second word is looked at
when the first one is compared equal to the word of a success. -/
inductive CommandSite (Url : Type)
  | deviceRequest (types : CommonTypes Url) (json : Texts) (env : DeviceEnv) (id : cmd_seq_t)
      (args : List Str)
  | deviceResponceState (env : DeviceEnv) (id : cmd_seq_t) (command : Str) (args : List Str)
  | deviceResponce (env : DeviceEnv) (id : cmd_seq_t) (state_command : Str)
      (success : IS_EQUAL_COMMAND state_command SUCCESS_COMMAND = true) (args : List Str)
  | deviceApproveState (id : cmd_seq_t) (args : List Str)
  | deviceApprove (id : cmd_seq_t) (state_command : Str)
      (success : IS_EQUAL_COMMAND state_command SUCCESS_COMMAND = true) (args : List Str)
  | hostRequest (env : Env) (c : ClientId) (id : cmd_seq_t) (args : List Str)
  | hostResponceState (net : NetTypes) (env : Env) (c : ClientId) (id : cmd_seq_t) (command : Str)
      (args : List Str)
  | hostResponce (net : NetTypes) (env : Env) (c : ClientId) (id : cmd_seq_t) (state_command : Str)
      (success : IS_EQUAL_COMMAND state_command SUCCESS_COMMAND = true) (args : List Str)
  | hostApproveState (id : cmd_seq_t) (args : List Str)
  | hostApprove (id : cmd_seq_t) (state_command : Str)
      (success : IS_EQUAL_COMMAND state_command SUCCESS_COMMAND = true) (args : List Str)

namespace CommandSite

variable {Url : Type}

/-- What the handler works on; of a device, `none` is its aborted process. -/
@[reducible] def State : CommandSite Url → Type
  | deviceRequest .. => Option (InnerServerHandler Url)
  | deviceResponceState .. => InnerServerHandler Url
  | deviceResponce .. => InnerServerHandler Url
  | deviceApproveState .. => InnerServerHandler Url
  | deviceApprove .. => InnerServerHandler Url
  | hostRequest .. => InnerServerHandlerHost
  | hostResponceState .. => InnerServerHandlerHost
  | hostResponce .. => InnerServerHandlerHost
  | hostApproveState .. => InnerServerHandlerHost
  | hostApprove .. => InnerServerHandlerHost

/-- The names in the order of their comparisons, those with an empty branch too. -/
def names : CommandSite Url → List Str
  | deviceRequest .. => InnerServerHandler.commands
  | deviceResponceState .. => [SUCCESS_COMMAND, FAIL_COMMAND]
  | deviceResponce .. => [PING_COMMAND]
  | deviceApproveState .. => [SUCCESS_COMMAND, FAIL_COMMAND]
  | deviceApprove .. => [PING_COMMAND, SERVER_WHO_ARE_YOU_COMMAND]
  | hostRequest .. => [PING_COMMAND]
  | hostResponceState .. => [SUCCESS_COMMAND, FAIL_COMMAND]
  | hostResponce .. =>
    [PING_COMMAND, SERVER_WHO_ARE_YOU_COMMAND, SERVER_PLEASE_CONNECT_HTTP_COMMAND,
      SERVER_PLEASE_CONNECT_WEBSOCKET_COMMAND, SERVER_PLEASE_SYSTEM_INFO_COMMAND,
      SERVER_PLEASE_CONFIG_COMMAND]
  | hostApproveState .. => [SUCCESS_COMMAND, FAIL_COMMAND]
  | hostApprove .. => [PING_COMMAND, SERVER_WHO_ARE_YOU_COMMAND]

/-- The handler, with the word at its place in `argv`. -/
def handle : (site : CommandSite Url) → Str → site.State → site.State
  | deviceRequest types json env id args, w, s =>
    Option.bind s fun s => s.handleInnerRequestCommand types json env id (w :: args)
  | deviceResponceState env id command args, w, s =>
    InnerServerHandler.handleInnerResponceCommand env id (w :: command :: args) s
  | deviceResponce env id state_command _ args, w, s =>
    InnerServerHandler.handleInnerResponceCommand env id (state_command :: w :: args) s
  | deviceApproveState id args, w, s =>
    InnerServerHandler.handleInnerApproveCommand id (w :: args) s
  | deviceApprove id state_command _ args, w, s =>
    InnerServerHandler.handleInnerApproveCommand id (state_command :: w :: args) s
  | hostRequest env c id args, w, s =>
    InnerServerHandlerHost.handleInnerRequestCommand env c id (w :: args) s
  | hostResponceState net env c id command args, w, s =>
    InnerServerHandlerHost.handleInnerResponceCommand net env c id (w :: command :: args) s
  | hostResponce net env c id state_command _ args, w, s =>
    InnerServerHandlerHost.handleInnerResponceCommand net env c id (state_command :: w :: args) s
  | hostApproveState id args, w, s =>
    InnerServerHandlerHost.handleInnerApproveCommand id (w :: args) s
  | hostApprove id state_command _ args, w, s =>
    InnerServerHandlerHost.handleInnerApproveCommand id (state_command :: w :: args) s

/-- Dispatch by the exact name, for one word: each branch is taken for its own name only, nothing
behind the NUL of the word is read, and a word that is no name changes nothing (the frames written
are part of the state). -/
structure Exact (site : CommandSite Url) (w : Str) : Prop where
  branch : ∀ CMD ∈ site.names, (takenAt w site.names).value = some (some CMD) ↔ w = CMD
  inside : ∀ i ∈ (takenAt w site.names).reads, i ≤ w.length
  unknown : w ∉ site.names →
    (takenAt w site.names).value = some none ∧ ∀ s, site.handle w s = s

end CommandSite

/-- The names that are compared with a word, up to the first one that it starts with. -/
def compared (w : Str) : List Str → List Str
  | [] => []
  | CMD :: names => CMD :: if IS_EQUAL_COMMAND w CMD then [] else compared w names

theorem takenAt_value (w : Str) (names : List Str) :
    (takenAt w names).value = some (names.find? (IS_EQUAL_COMMAND w)) := by
  induction names with
  | nil => rfl
  | cons CMD names ih =>
    cases h : IS_EQUAL_COMMAND w CMD with
    | true =>
      rw [List.find?_cons_of_pos h]
      simp only [takenAt, IS_EQUAL_COMMANDAt, h, Bind.bind, Reading.reading, Pure.pure, if_true]
    | false =>
      rw [List.find?_cons_of_neg (by simp [h]), ← ih]
      simp only [takenAt, IS_EQUAL_COMMANDAt, h, Bind.bind, Reading.reading, Pure.pure,
        Bool.false_eq_true, if_false]

variable {w v CMD : Str} {names : List Str}

theorem mem_takenAt_reads :
    i ∈ (takenAt w names).reads ↔ ∃ CMD ∈ compared w names, i < CMD.length := by
  induction names with
  | nil => simp [takenAt, compared, Pure.pure]
  | cons CMD names ih =>
    cases h : IS_EQUAL_COMMAND w CMD with
    | true =>
      simp [takenAt, compared, IS_EQUAL_COMMANDAt, h, Bind.bind, Reading.reading, Pure.pure]
    | false =>
      simp [takenAt, compared, IS_EQUAL_COMMANDAt, h, Bind.bind, Reading.reading, Pure.pure, ih]

/-- The chain stays inside the word when no name compared with it is longer by two. -/
theorem takenAt_inside : (∀ i ∈ (takenAt w names).reads, i ≤ w.length) ↔
    ∀ CMD ∈ compared w names, CMD.length ≤ w.length + 1 := by
  apply Iff.intro
  · intro h CMD hm
    by_contra hlen
    have hi := h (w.length + 1) (mem_takenAt_reads.2 ⟨CMD, hm, by omega⟩)
    omega
  · intro h i hi
    obtain ⟨CMD, hm, hlt⟩ := mem_takenAt_reads.1 hi
    have hlen := h CMD hm
    omega

/-- The word is one of the names or starts with none of them. -/
def Settled (w : Str) (names : List Str) : Prop :=
  w ∈ names ∨ ∀ CMD ∈ names, ¬ CMD <+: w

/-- No name starts with another one. -/
def PrefixFree (names : List Str) : Prop :=
  ∀ a ∈ names, ∀ b ∈ names, a <+: b → a = b

theorem Settled.equal_iff (h : Settled w names) (hf : PrefixFree names) (hm : CMD ∈ names) :
    IS_EQUAL_COMMAND w CMD = true ↔ w = CMD := by
  rw [IS_EQUAL_COMMAND, List.isPrefixOf_iff_prefix]
  apply Iff.intro
  · intro hp
    obtain hw | hw := h
    · exact (hf CMD hm w hw hp).symm
    · exact absurd hp (hw CMD hm)
  · rintro rfl
    exact List.prefix_refl w

theorem Settled.find (h : Settled w names) (hf : PrefixFree names) (hm : CMD ∈ names) :
    names.find? (IS_EQUAL_COMMAND w) = some CMD ↔ w = CMD := by
  apply Iff.intro
  · intro hs
    exact (h.equal_iff hf hm).1 (List.find?_some hs)
  · intro hw
    cases hs : names.find? (IS_EQUAL_COMMAND w) with
    | none => exact absurd ((h.equal_iff hf hm).2 hw) (List.find?_eq_none.1 hs CMD hm)
    | some b =>
      have hb := (h.equal_iff hf (List.mem_of_find?_eq_some hs)).1 (List.find?_some hs)
      rw [← hb, hw]

theorem compared_eq (h : ∀ CMD ∈ names, IS_EQUAL_COMMAND w CMD = true ↔ w = CMD) :
    compared w names = names.takeWhile (· ≠ w) ++ if w ∈ names then [w] else [] := by
  induction names with
  | nil => rfl
  | cons CMD names ih =>
    have hc := h CMD List.mem_cons_self
    rw [compared]
    by_cases hw : w = CMD
    · rw [if_pos (hc.2 hw), List.takeWhile_cons_of_neg (by simp [hw]),
        if_pos (hw ▸ List.mem_cons_self), hw]
      rfl
    · have hm : w ∈ CMD :: names ↔ w ∈ names := by simp [hw]
      rw [if_neg (fun hs => hw (hc.1 hs)), ih (fun b hb => h b (List.mem_cons_of_mem _ hb)),
        List.takeWhile_cons_of_pos (by simp [Ne.symm hw])]
      simp only [hm]
      rfl

/-- The words that the handlers compare with. -/
def wordNames : List Str :=
  SUCCESS_COMMAND :: FAIL_COMMAND :: InnerServerHandler.commands

theorem wordNames_free : PrefixFree wordNames := by
  unfold PrefixFree
  decide +kernel

namespace CommandSite

variable {Url : Type} {site : CommandSite Url}

theorem names_subset (site : CommandSite Url) : site.names ⊆ wordNames := by
  have hstate : [SUCCESS_COMMAND, FAIL_COMMAND] ⊆ wordNames := by decide +kernel
  have hping : [PING_COMMAND] ⊆ wordNames := by decide +kernel
  have hokresp : [PING_COMMAND, SERVER_WHO_ARE_YOU_COMMAND] ⊆ wordNames := by decide +kernel
  cases site with
  | deviceRequest =>
    exact List.Subset.trans (List.subset_cons_self _ _) (List.subset_cons_self _ _)
  | deviceResponceState => exact hstate
  | deviceResponce => exact hping
  | deviceApproveState => exact hstate
  | deviceApprove => exact hokresp
  | hostRequest => exact hping
  | hostResponceState => exact hstate
  | hostResponce =>
    rw [names]
    decide +kernel
  | hostApproveState => exact hstate
  | hostApprove => exact hokresp

theorem names_free (site : CommandSite Url) : PrefixFree site.names := by
  intro a ha b hb
  exact wordNames_free a (site.names_subset ha) b (site.names_subset hb)

/-- The handler looks at its word through the comparisons only. -/
theorem handle_congr (h : ∀ CMD ∈ site.names, IS_EQUAL_COMMAND w CMD = IS_EQUAL_COMMAND v CMD)
    (s : site.State) : site.handle w s = site.handle v s := by
  cases site with
  | deviceRequest types json env id args =>
    simp only [names, InnerServerHandler.commands, List.forall_mem_cons] at h
    obtain ⟨h1, h2, h3, h4, h5, h6, h7, _⟩ := h
    simp only [handle, InnerServerHandler.handleInnerRequestCommand, h1, h2, h3, h4, h5, h6, h7]
  | deviceResponceState env id command args =>
    have hok := h SUCCESS_COMMAND List.mem_cons_self
    simp only [handle, InnerServerHandler.handleInnerResponceCommand, hok]
  | deviceResponce env id state_command success args =>
    have hping := h PING_COMMAND List.mem_cons_self
    simp only [handle, InnerServerHandler.handleInnerResponceCommand, hping]
  | deviceApproveState id args =>
    have hok := h SUCCESS_COMMAND List.mem_cons_self
    cases args with
    | nil => rfl
    | cons a args => simp only [handle, InnerServerHandler.handleInnerApproveCommand, hok]
  | deviceApprove id state_command success args =>
    simp only [names, List.forall_mem_cons] at h
    obtain ⟨h1, h2, _⟩ := h
    simp only [handle, InnerServerHandler.handleInnerApproveCommand, h1, h2]
  | hostRequest env c id args =>
    have hping := h PING_COMMAND List.mem_cons_self
    simp only [handle, InnerServerHandlerHost.handleInnerRequestCommand, hping]
  | hostResponceState net env c id command args =>
    have hok := h SUCCESS_COMMAND List.mem_cons_self
    simp only [handle, InnerServerHandlerHost.handleInnerResponceCommand, hok]
  | hostResponce net env c id state_command success args =>
    simp only [names, List.forall_mem_cons] at h
    obtain ⟨h1, h2, _⟩ := h
    simp only [handle, InnerServerHandlerHost.handleInnerResponceCommand, h1, h2]
  | hostApproveState id args => rfl
  | hostApprove id state_command success args => rfl

theorem handle_unknown (h : ∀ CMD ∈ site.names, IS_EQUAL_COMMAND w CMD = false) (s : site.State) :
    site.handle w s = s := by
  cases site with
  | deviceRequest types json env id args =>
    simp only [names, InnerServerHandler.commands, List.forall_mem_cons] at h
    obtain ⟨h1, h2, h3, h4, h5, h6, h7, _⟩ := h
    simp only [handle, InnerServerHandler.handleInnerRequestCommand, h1, h2, h3, h4, h5, h6, h7,
      Bool.false_eq_true, if_false]
    exact Option.bind_fun_some s
  | deviceResponceState env id command args =>
    have hok := h SUCCESS_COMMAND List.mem_cons_self
    simp only [handle, InnerServerHandler.handleInnerResponceCommand, hok, Bool.false_eq_true,
      if_false]
  | deviceResponce env id state_command success args =>
    have hping := h PING_COMMAND List.mem_cons_self
    simp only [handle, InnerServerHandler.handleInnerResponceCommand, hping, Bool.false_eq_true,
      if_false, ite_self]
  | deviceApproveState id args =>
    have hok := h SUCCESS_COMMAND List.mem_cons_self
    cases args with
    | nil => rfl
    | cons a args =>
      simp only [handle, InnerServerHandler.handleInnerApproveCommand, hok, Bool.false_eq_true,
        if_false]
  | deviceApprove id state_command success args =>
    simp only [names, List.forall_mem_cons] at h
    obtain ⟨h1, h2, _⟩ := h
    simp only [handle, InnerServerHandler.handleInnerApproveCommand, h1, h2, Bool.false_eq_true,
      if_false, ite_self]
  | hostRequest env c id args =>
    have hping := h PING_COMMAND List.mem_cons_self
    simp only [handle, InnerServerHandlerHost.handleInnerRequestCommand, hping,
      Bool.false_eq_true, if_false]
  | hostResponceState net env c id command args =>
    have hok := h SUCCESS_COMMAND List.mem_cons_self
    simp only [handle, InnerServerHandlerHost.handleInnerResponceCommand, hok, Bool.false_eq_true,
      if_false]
  | hostResponce net env c id state_command success args =>
    simp only [names, List.forall_mem_cons] at h
    obtain ⟨h1, h2, _⟩ := h
    simp only [handle, InnerServerHandlerHost.handleInnerResponceCommand, h1, h2,
      Bool.false_eq_true, if_false, ite_self]
  | hostApproveState id args => rfl
  | hostApprove id state_command success args => rfl

/-- What runs for a word is the branch of the name that was found for it. -/
theorem handle_taken (hm : CMD ∈ site.names)
    (h : (takenAt w site.names).value = some (some CMD)) (s : site.State) :
    site.handle w s = site.handle CMD s := by
  rw [takenAt_value] at h
  have hc : IS_EQUAL_COMMAND w CMD = true := List.find?_some (Option.some.inj h)
  apply handle_congr
  intro b hb
  by_cases he : CMD = b
  · rw [he] at hc
    rw [hc, he, IS_EQUAL_COMMAND, List.isPrefixOf_iff_prefix.2 (List.prefix_refl b)]
  · have hcb : IS_EQUAL_COMMAND CMD b = false := by
      rw [← Bool.not_eq_true, IS_EQUAL_COMMAND, List.isPrefixOf_iff_prefix]
      exact fun hp => he (site.names_free b hb CMD hm hp).symm
    have hbc : IS_EQUAL_COMMAND b CMD = false := by
      rw [← Bool.not_eq_true, IS_EQUAL_COMMAND, List.isPrefixOf_iff_prefix]
      exact fun hp => he (site.names_free CMD hm b hb hp)
    rw [hcb, IS_EQUAL_COMMAND_other hc hcb hbc]

theorem Exact.settled (h : site.Exact w) : Settled w site.names := by
  by_cases hw : w ∈ site.names
  · exact .inl hw
  · refine .inr ?_
    intro CMD hm hp
    have hnone := (h.unknown hw).1
    rw [takenAt_value, Option.some.injEq, List.find?_eq_none] at hnone
    exact hnone CMD hm (List.isPrefixOf_iff_prefix.2 hp)

/-- Dispatch is by the exact name for the words that are one of the names or start with none of
them, as long as no name that comes before goes on behind the NUL of the word. -/
theorem exact_iff (site : CommandSite Url) (w : Str) :
    site.Exact w ↔
      Settled w site.names ∧
        ∀ CMD ∈ site.names.takeWhile (· ≠ w), CMD.length ≤ w.length + 1 := by
  have hcompared : Settled w site.names →
      ((∀ CMD ∈ compared w site.names, CMD.length ≤ w.length + 1) ↔
        ∀ CMD ∈ site.names.takeWhile (· ≠ w), CMD.length ≤ w.length + 1) := by
    intro hs
    rw [compared_eq fun CMD hm => hs.equal_iff site.names_free hm]
    apply Iff.intro
    · intro h CMD hm
      exact h CMD (List.mem_append_left _ hm)
    · intro h CMD hm
      obtain hm | hm := List.mem_append.1 hm
      · exact h CMD hm
      · split at hm
        · rw [List.mem_singleton.1 hm]
          omega
        · exact absurd hm List.not_mem_nil
  apply Iff.intro
  · intro h
    exact ⟨h.settled, (hcompared h.settled).1 (takenAt_inside.1 h.inside)⟩
  · rintro ⟨hs, hlen⟩
    refine ⟨?_, takenAt_inside.2 ((hcompared hs).2 hlen), ?_⟩
    · intro CMD hm
      rw [takenAt_value, Option.some.injEq]
      exact hs.find site.names_free hm
    · intro hw
      have hnone : ∀ CMD ∈ site.names, IS_EQUAL_COMMAND w CMD = false := by
        intro CMD hm
        rw [← Bool.not_eq_true, hs.equal_iff site.names_free hm]
        rintro rfl
        exact hw hm
      apply And.intro
      · rw [takenAt_value, Option.some.injEq, List.find?_eq_none]
        intro CMD hm
        rw [hnone CMD hm]
        exact Bool.false_ne_true
      · exact site.handle_unknown hnone

/-- A host answers the request `pingx` as it answers `ping`. -/
theorem not_exact_pingx :
    ¬ (hostRequest .calm 0 "00000000".toList [] : CommandSite Unit).Exact "pingx".toList := by
  intro h
  have hping := (h.branch PING_COMMAND List.mem_cons_self).1 (by decide +kernel)
  exact absurd hping (by decide +kernel)

/-- A device reads behind the end of the word `plz_config`: two longer names come before. -/
example : ¬ ∀ i ∈ (takenAt SERVER_PLEASE_CONFIG_COMMAND InnerServerHandler.commands).reads,
    i ≤ SERVER_PLEASE_CONFIG_COMMAND.length := by
  decide +kernel

end CommandSite

end SiteOnYourDevice
