import Rotor.Plugin.InitQueue

/-!
# The loops finish when every plugin is done

Each `handle_init` answering `true` pops the front of the INIT slot, and each `handle_shutdown`
answering `true` pops the back of the SHUTDOWN slot; what the handler installs into that slot
meanwhile is appended to it. So when every answer is `true` and there are at least as many
answers as the slot holds plus what the answers install into it, one call of `init_continue`
empties the INIT slot and runs `init_finish`, and one call of `shutdown_continue` empties the
SHUTDOWN slot and runs `shutdown_finish`.
-/

namespace Rotor

variable {P : Type}

/-- How many plugins the answers install into slot `s`. -/
def installCount (s : Slot) : List (Answer P) → Nat
  | [] => 0
  | ans :: answers => (installed s (installEvents ans.installs)).length + installCount s answers

@[simp] lemma installCount_nil (s : Slot) : installCount s ([] : List (Answer P)) = 0 := rfl

@[simp] lemma installCount_cons (s : Slot) (ans : Answer P) (answers : List (Answer P)) :
    installCount s (ans :: answers) =
      (installed s (installEvents ans.installs)).length + installCount s answers := rfl

namespace ActorBase

/-- The loop of `init_continue` empties the INIT slot when every answer is `true` and the
answers outnumber the slot plus what they install into it. -/
lemma initLoop_empties (answers : List (Answer P)) : ∀ a : ActorBase P,
    (∀ ans ∈ answers, ans.done = true) →
    a.initPlugins.length + installCount .init answers ≤ answers.length →
    (a.initLoop answers).initPlugins = [] := by
  induction answers with
  | nil =>
    intro a _ hlen
    have h : a.initPlugins = [] := List.eq_nil_of_length_eq_zero (by simpa using hlen)
    rw [initLoop_empty h, h]
  | cons ans answers ih =>
    intro a hdone hlen
    cases h : a.initPlugins with
    | nil => rw [initLoop_empty h, h]
    | cons p ps =>
      rw [initLoop_cons h, if_pos (hdone ans (List.mem_cons_self _ _))]
      refine ih _ (fun b hb => hdone b (List.mem_cons_of_mem _ hb)) ?_
      simp only [h, installCount_cons, List.length_cons] at hlen
      simp only [popInit_initPlugins, handleInit_initPlugins, h, List.cons_append, List.tail_cons,
        List.length_append]
      omega

/-- The loop of `shutdown_continue` empties the SHUTDOWN slot when every answer is `true` and
the answers outnumber the slot plus what they install into it. -/
lemma shutdownLoop_empties (answers : List (Answer P)) : ∀ a : ActorBase P,
    (∀ ans ∈ answers, ans.done = true) →
    a.shutdownPlugins.length + installCount .shutdown answers ≤ answers.length →
    (a.shutdownLoop answers).shutdownPlugins = [] := by
  induction answers with
  | nil =>
    intro a _ hlen
    have h : a.shutdownPlugins = [] := List.eq_nil_of_length_eq_zero (by simpa using hlen)
    rw [shutdownLoop_empty h, h]
  | cons ans answers ih =>
    intro a hdone hlen
    cases h : a.shutdownPlugins.getLast? with
    | none =>
      have h' := List.getLast?_eq_none_iff.mp h
      rw [shutdownLoop_empty h', h']
    | some p =>
      have hpos : 0 < a.shutdownPlugins.length := List.length_pos.mpr fun he => by simp [he] at h
      rw [shutdownLoop_cons h, if_pos (hdone ans (List.mem_cons_self _ _))]
      refine ih _ (fun b hb => hdone b (List.mem_cons_of_mem _ hb)) ?_
      simp only [installCount_cons, List.length_cons] at hlen
      simp only [popShutdown_shutdownPlugins, handleShutdown_shutdownPlugins, List.length_dropLast,
        List.length_append]
      omega

/-- The loop of `shutdown_continue` sends nothing. -/
lemma shutdownLoop_quiet (a : ActorBase P) (answers : List (Answer P)) :
    ∃ u, (a.shutdownLoop answers).trace = a.trace ++ u ∧ sent u = [] :=
  shutdownLoop_induction (fun b => ∃ u, b.trace = a.trace ++ u ∧ sent u = [])
    (fun _ p ans ⟨u, hu, hs⟩ => ⟨u ++ (installEvents ans.installs ++ [.handleShutdown p ans.done]),
      by simp [hu], by simp [hs]⟩)
    (fun _ ⟨u, hu, hs⟩ => ⟨u, by simp [hu], hs⟩) a answers ⟨[], by simp, rfl⟩

end ActorBase

/-- One call of `init_continue` finishes the initialization when every plugin answers `true`
and the answers outnumber the INIT slot plus what they install into it: the slot is emptied,
the stored request is confirmed, and the actor is `INITIALIZED`. -/
theorem initContinue_completes (a : ActorBase P) (r : Nat) (hs : a.state = .initializing)
    (hr : a.initRequest = some r) (answers : List (Answer P))
    (hdone : ∀ ans ∈ answers, ans.done = true)
    (hlen : a.initPlugins.length + installCount .init answers ≤ answers.length) :
    ∃ a' u, a.initContinue answers = some a' ∧ a'.trace = a.trace ++ u ∧
      sent u = [.initializeConfirmation r] ∧ a'.state = .initialized ∧ a'.initPlugins = [] ∧
      a'.initRequest = none := by
  obtain ⟨u, hu, hsent, -⟩ := a.initLoop_fifo answers (InitFifo.start a.initPlugins)
  have hempty := ActorBase.initLoop_empties answers a hdone hlen
  have hfin := ActorBase.initFinish_eq
    (by simpa using hr : (a.initLoop answers).initRequest = some r)
  refine ⟨{ (a.initLoop answers).record [.send (.initializeConfirmation r)] with
      initRequest := none, state := .initialized }, u ++ [.send (.initializeConfirmation r)], ?_,
    by simp [hu], by simp [hsent], rfl, by simpa using hempty, rfl⟩
  simp [ActorBase.initContinue, hs, hempty, hfin]

/-- Three plugins in the INIT slot, the first installing a fourth: four answers `true` finish the
initialization in one call. -/
theorem initContinue_completes_installing :
    let a : ActorBase Nat := { ActorBase.ofConfig id [] with
      state := .initializing, initPlugins := [1, 2, 3], initRequest := some 7 }
    let answers : List (Answer Nat) := [{ installs := [(4, .init)], done := true },
      { done := true }, { done := true }, { done := true }]
    a.state = .initializing ∧ a.initRequest = some 7 ∧ (∀ ans ∈ answers, ans.done = true) ∧
      a.initPlugins.length + installCount .init answers ≤ answers.length ∧
      ∃ a' u, a.initContinue answers = some a' ∧ a'.trace = a.trace ++ u ∧
        sent u = [.initializeConfirmation 7] ∧ a'.state = .initialized ∧ a'.initPlugins = [] ∧
        a'.initRequest = none :=
  ⟨rfl, rfl, by decide, by decide, initContinue_completes _ 7 rfl rfl _ (by decide) (by decide)⟩

/-- One call of `shutdown_continue` finishes the shutdown when every plugin answers `true` and
the answers outnumber the SHUTDOWN slot plus what they install into it: the slot is emptied,
the stored request, if any, is confirmed, and the actor is `SHUTTED_DOWN`. -/
theorem shutdownContinue_completes (a : ActorBase P) (hs : a.state = .shuttingDown)
    (answers : List (Answer P)) (hdone : ∀ ans ∈ answers, ans.done = true)
    (hlen : a.shutdownPlugins.length + installCount .shutdown answers ≤ answers.length) :
    ∃ a' u, a.shutdownContinue answers = some a' ∧ a'.trace = a.trace ++ u ∧
      sent u = a.shutdownRequest.toList.map .shutdownConfirmation ∧ a'.state = .shuttedDown ∧
      a'.shutdownPlugins = [] ∧ a'.shutdownRequest = none := by
  obtain ⟨u, hu, hsent⟩ := a.shutdownLoop_quiet answers
  have hempty := ActorBase.shutdownLoop_empties answers a hdone hlen
  refine ⟨(a.shutdownLoop answers).shutdownFinish,
    u ++ a.shutdownRequest.toList.map fun r => .send (.shutdownConfirmation r),
    by simp [ActorBase.shutdownContinue, hs, hempty], by simp [hu], ?_, by simp, by simp [hempty],
    by simp⟩
  cases a.shutdownRequest <;> simp [hsent]

/-- Two plugins in the SHUTDOWN slot, the last installing a third: three answers `true` finish
the shutdown in one call. -/
theorem shutdownContinue_completes_installing :
    let a : ActorBase Nat := { ActorBase.ofConfig id [] with
      state := .shuttingDown, shutdownPlugins := [1, 2], shutdownRequest := some 8 }
    let answers : List (Answer Nat) := [{ installs := [(3, .shutdown)], done := true },
      { done := true }, { done := true }]
    a.state = .shuttingDown ∧ (∀ ans ∈ answers, ans.done = true) ∧
      a.shutdownPlugins.length + installCount .shutdown answers ≤ answers.length ∧
      ∃ a' u, a.shutdownContinue answers = some a' ∧ a'.trace = a.trace ++ u ∧
        sent u = a.shutdownRequest.toList.map .shutdownConfirmation ∧ a'.state = .shuttedDown ∧
        a'.shutdownPlugins = [] ∧ a'.shutdownRequest = none :=
  ⟨rfl, by decide, by decide, shutdownContinue_completes _ rfl _ (by decide) (by decide)⟩

end Rotor
