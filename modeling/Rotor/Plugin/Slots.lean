import Rotor.Actor.Ops
import Rotor.Plugin.InitQueue

/-!
# The slots along every run

The four slots of `actor_base_t` are changed by `install_plugin`, which appends; by
`uninstall_plugin`, which erases; by the loops of `init_continue` and `shutdown_continue`,
which pop and let the handlers install; and by `poll`, which erases the plugins that finish.
Nothing reorders a slot, so along any run of these operations each slot is, in order, some of
what it held followed by some of what the run installed into it.

For the INIT slot more holds. The plugins that complete their init, in the order they do,
followed by what the slot still holds, are some of what it held followed by what was installed
into it; and all of it, when no `uninstall_plugin` targets the INIT slot.
-/

namespace Rotor

variable {P : Type}

/-! ### The ledgers -/

/-- From `a` to `a'`, which appended `u` to the trace: each slot of `a'` is, in order, some of
the slot of `a` followed by what `u` installed into it. -/
structure SlotLedger (a : ActorBase P) (u : List (Event P)) (a' : ActorBase P) : Prop where
  trace : a'.trace = a.trace ++ u
  slots : ∀ s, (a'.slot s).Sublist (a.slot s ++ installed s u)

/-- The plugins that completed their init in `u`, followed by the INIT slot of `a'`, are, in
order, some of the INIT slot of `a` followed by what `u` installed into it. -/
def InitLedger (a : ActorBase P) (u : List (Event P)) (a' : ActorBase P) : Prop :=
  (completedInit u ++ a'.initPlugins).Sublist (a.initPlugins ++ installed .init u)

/-- The same with nothing lost. -/
def InitExact (a : ActorBase P) (u : List (Event P)) (a' : ActorBase P) : Prop :=
  completedInit u ++ a'.initPlugins = a.initPlugins ++ installed .init u

variable {a b c : ActorBase P} {u v : List (Event P)}

namespace SlotLedger

lemma refl (a : ActorBase P) : SlotLedger a [] a := ⟨by simp, fun s => by simp⟩

lemma trans (h : SlotLedger a u b) (h' : SlotLedger b v c) : SlotLedger a (u ++ v) c where
  trace := by rw [h'.trace, h.trace, List.append_assoc]
  slots s := by
    simpa using (h'.slots s).trans ((h.slots s).append_right _)

end SlotLedger

lemma InitExact.refl (a : ActorBase P) : InitExact a [] a := by simp [InitExact]

lemma InitExact.ledger (h : InitExact a u b) : InitLedger a u b := by
  rw [InitLedger, h]

lemma InitExact.trans (h : InitExact a u b) (h' : InitExact b v c) : InitExact a (u ++ v) c := by
  unfold InitExact at *
  rw [completedInit_append, List.append_assoc, h', ← List.append_assoc, h, installed_append,
    List.append_assoc]

lemma InitLedger.trans (h : InitLedger a u b) (h' : InitLedger b v c) :
    InitLedger a (u ++ v) c := by
  unfold InitLedger at *
  calc completedInit (u ++ v) ++ c.initPlugins
      = completedInit u ++ (completedInit v ++ c.initPlugins) := by simp
    List.Sublist _ (completedInit u ++ (b.initPlugins ++ installed .init v)) := h'.append_left _
    _ = (completedInit u ++ b.initPlugins) ++ installed .init v := by simp
    List.Sublist _ ((a.initPlugins ++ installed .init u) ++ installed .init v) := h.append_right _
    _ = a.initPlugins ++ installed .init (u ++ v) := by simp

/-- A step that appends `u`, completes no init, and adds to each slot exactly what `u`
installs into it. -/
lemma ledger_of_grow (ht : b.trace = a.trace ++ u) (hs : ∀ s, b.slot s = a.slot s ++ installed s u)
    (hc : completedInit u = []) : SlotLedger a u b ∧ InitExact a u b :=
  ⟨⟨ht, fun s => by rw [hs s]⟩, by simpa [InitExact, hc] using hs .init⟩

/-- A step that appends nothing and only drops entries of the slots. -/
lemma ledger_of_shrink (ht : b.trace = a.trace) (hs : ∀ s, (b.slot s).Sublist (a.slot s)) :
    SlotLedger a [] b ∧ InitLedger a [] b ∧ (b.initPlugins = a.initPlugins → InitExact a [] b) :=
  ⟨⟨by simp [ht], fun s => by simpa using hs s⟩, by simpa [InitLedger] using hs .init,
    fun h => by simp [InitExact, h]⟩

/-! ### One lemma per step -/

namespace ActorBase

section Steps

variable (a : ActorBase P) (plugin : P) (s : Slot) (ans : Answer P)

lemma installPlugin_ledger :
    SlotLedger a [.installPlugin plugin s] (a.installPlugin plugin s) ∧
      InitExact a [.installPlugin plugin s] (a.installPlugin plugin s) := by
  refine ledger_of_grow (by simp) (fun s' => ?_) (by simp)
  by_cases h : s' = s
  · subst h; simp
  · simp [h, Ne.symm h]

lemma handleInit_ledger :
    SlotLedger a (installEvents ans.installs ++ [.handleInit plugin ans.done])
      (a.handleInit plugin ans) :=
  ⟨by simp, fun s => by simp⟩

lemma handleShutdown_ledger :
    SlotLedger a (installEvents ans.installs ++ [.handleShutdown plugin ans.done])
        (a.handleShutdown plugin ans) ∧
      InitExact a (installEvents ans.installs ++ [.handleShutdown plugin ans.done])
        (a.handleShutdown plugin ans) :=
  ledger_of_grow (by simp) (fun s => by simp) (by simp)

lemma popInit_ledger : SlotLedger a [] a.popInit :=
  (ledger_of_shrink (a := a) (b := a.popInit) rfl fun s => by
    cases s <;> simp [popInit, List.tail_sublist]).1

lemma popShutdown_ledger : SlotLedger a [] a.popShutdown ∧ InitExact a [] a.popShutdown :=
  let h := ledger_of_shrink (a := a) (b := a.popShutdown) rfl fun s => by
    cases s <;> simp [popShutdown, List.dropLast_sublist]
  ⟨h.1, h.2.2 rfl⟩

lemma shutdownFinish_ledger :
    SlotLedger a (a.shutdownRequest.toList.map fun r => .send (.shutdownConfirmation r))
        a.shutdownFinish ∧
      InitExact a (a.shutdownRequest.toList.map fun r => .send (.shutdownConfirmation r))
        a.shutdownFinish := by
  cases hr : a.shutdownRequest <;>
    exact ledger_of_grow (by simp [hr]) (fun s => by cases s <;> simp [shutdownFinish, hr, record])
      (by simp)

lemma initFinish_ledger {a' : ActorBase P} (h : a.initFinish = some a') :
    ∃ u, SlotLedger a u a' ∧ InitExact a u a' := by
  obtain ⟨r, -, rfl⟩ := Option.map_eq_some'.mp h
  exact ⟨_, ledger_of_grow rfl (fun s => by cases s <;> simp [record]) (by simp)⟩

/-- Replacing a slot by a subsequence of it, as `uninstall_plugin` and `poll` do. -/
lemma setSlot_ledger {l : List P} (hl : l.Sublist (a.slot s)) :
    SlotLedger a [] (a.setSlot s l) ∧ InitLedger a [] (a.setSlot s l) ∧
      (s ≠ .init → InitExact a [] (a.setSlot s l)) := by
  obtain ⟨hs, hi, he⟩ := ledger_of_shrink (a := a) (b := a.setSlot s l) (by simp) fun s' => by
    rw [slot_setSlot]
    split
    · subst s'; exact hl
    · exact List.Sublist.refl _
  exact ⟨hs, hi, fun hne => he (by simpa [Ne.symm hne] using slot_setSlot a s .init l)⟩

lemma pollSlot_ledger (fn : P → ProcessingResult) (hs : s ≠ .init) :
    SlotLedger a [] (a.pollSlot s fn) ∧ InitExact a [] (a.pollSlot s fn) :=
  let h := a.setSlot_ledger s (poll_sublist fn (a.slot s))
  ⟨h.1, h.2.2 hs⟩

end Steps

variable (a : ActorBase P) (answers : List (Answer P))

/-- The loop of `init_continue` loses no entry of the INIT slot: what leaves it completes its
init. -/
lemma initLoop_ledger :
    ∃ u, SlotLedger a u (a.initLoop answers) ∧ InitExact a u (a.initLoop answers) := by
  obtain ⟨u, hu, -, hf⟩ := a.initLoop_fifo answers (InitFifo.start a.initPlugins)
  obtain ⟨v, hv⟩ := initLoop_induction (fun b => ∃ v, SlotLedger a v b)
    (fun b p ans ⟨_, hv⟩ => ⟨_, hv.trans (handleInit_ledger b p ans)⟩)
    (fun b ⟨_, hv⟩ => ⟨_, hv.trans (popInit_ledger b)⟩) a answers ⟨[], .refl a⟩
  obtain rfl : v = u := List.append_cancel_left (hv.trace.symm.trans hu)
  exact ⟨v, hv, hf.queue⟩

lemma shutdownLoop_ledger :
    ∃ u, SlotLedger a u (a.shutdownLoop answers) ∧ InitExact a u (a.shutdownLoop answers) :=
  shutdownLoop_induction (fun b => ∃ u, SlotLedger a u b ∧ InitExact a u b)
    (fun b p ans ⟨_, hl, he⟩ =>
      ⟨_, hl.trans (handleShutdown_ledger b p ans).1, he.trans (handleShutdown_ledger b p ans).2⟩)
    (fun b ⟨_, hl, he⟩ => ⟨_, hl.trans (popShutdown_ledger b).1, he.trans (popShutdown_ledger b).2⟩)
    a answers ⟨[], .refl a, .refl a⟩

variable {a answers} {a' : ActorBase P}

lemma initContinue_ledger (h : a.initContinue answers = some a') :
    ∃ u, SlotLedger a u a' ∧ InitExact a u a' := by
  obtain ⟨u, hl, he⟩ := a.initLoop_ledger answers
  rcases initContinue_cases h with rfl | hf
  · exact ⟨u, hl, he⟩
  · obtain ⟨v, hl', he'⟩ := initFinish_ledger _ hf
    exact ⟨_, hl.trans hl', he.trans he'⟩

lemma shutdownContinue_ledger (h : a.shutdownContinue answers = some a') :
    ∃ u, SlotLedger a u a' ∧ InitExact a u a' := by
  obtain ⟨u, hl, he⟩ := a.shutdownLoop_ledger answers
  rcases shutdownContinue_cases h with rfl | rfl
  · exact ⟨u, hl, he⟩
  · exact ⟨_, hl.trans (shutdownFinish_ledger _).1, he.trans (shutdownFinish_ledger _).2⟩

end ActorBase

/-- Every lifecycle entry point loses no entry of the INIT slot: what leaves it completes its
init. -/
lemma Call.exec_ledger {c : Call P} {a a' : ActorBase P} (h : c.exec a = some a') :
    ∃ u, SlotLedger a u a' ∧ InitExact a u a' := by
  have hsame : ∀ b : ActorBase P, b.trace = a.trace → (∀ s, b.slot s = a.slot s) →
      SlotLedger a [] b ∧ InitExact a [] b :=
    fun b ht hs => ledger_of_grow (by simp [ht]) (by simp [hs]) rfl
  cases c with
  | initStart | onStart | shutdownStart =>
    cases h; exact ⟨[], hsame _ rfl fun s => by cases s <;> rfl⟩
  | initContinue answers => exact ActorBase.initContinue_ledger h
  | shutdownContinue answers => exact ActorBase.shutdownContinue_ledger h
  | doShutdown =>
    simp only [exec, ActorBase.doShutdown, Option.ite_none_right_eq_some] at h
    obtain ⟨-, ⟨⟩⟩ := h
    exact ⟨_, ledger_of_grow rfl (fun s => by simp) (by simp)⟩

variable [DecidableEq P]

/-- What one operation does to the slots. Only `uninstall_plugin` on the INIT slot can drop
from it a plugin that has not completed its init. -/
lemma Op.exec_ledger {op : Op P} {a a' : ActorBase P} (h : op.exec a = some a') :
    ∃ u, SlotLedger a u a' ∧ InitLedger a u a' ∧
      ((∀ p, op ≠ .uninstallPlugin p .init) → InitExact a u a') := by
  have exact_of : ∀ {u b}, SlotLedger a u b ∧ InitExact a u b →
      ∃ u, SlotLedger a u b ∧ InitLedger a u b ∧
        ((∀ p, op ≠ .uninstallPlugin p .init) → InitExact a u b) :=
    fun ⟨hl, he⟩ => ⟨_, hl, he.ledger, fun _ => he⟩
  cases op with
  | installPlugin plugin s => cases h; exact exact_of (a.installPlugin_ledger plugin s)
  | uninstallPlugin plugin s =>
    by_cases hm : plugin ∈ a.slot s
    · rw [exec, ActorBase.uninstallPlugin_of_mem hm] at h
      cases h
      obtain ⟨hl, hi, he⟩ := a.setSlot_ledger s (List.erase_sublist plugin _)
      exact ⟨[], hl, hi, fun hs => he fun hi => hs plugin (hi ▸ rfl)⟩
    · rw [exec, ActorBase.uninstallPlugin_of_not_mem hm] at h
      cases h
  | call c =>
    obtain ⟨u, hc⟩ := Call.exec_ledger h
    exact exact_of hc
  | onSubscription fn => cases h; exact exact_of (a.pollSlot_ledger .subscription fn (by decide))
  | onUnsubscription fn =>
    cases h; exact exact_of (a.pollSlot_ledger .unsubscription fn (by decide))
  | onUnsubscriptionExternal fn =>
    cases h; exact exact_of (a.pollSlot_ledger .unsubscription fn (by decide))

/-- What a run does to the slots, by induction on the run. -/
lemma ActorBase.runOps_ledger (ops : List (Op P)) : ∀ a a' : ActorBase P, a.runOps ops = some a' →
    ∃ u, SlotLedger a u a' ∧ InitLedger a u a' ∧
      ((∀ p, Op.uninstallPlugin p .init ∉ ops) → InitExact a u a') := by
  induction ops with
  | nil =>
    rintro a _ ⟨⟩
    exact ⟨[], .refl a, (InitExact.refl a).ledger, fun _ => .refl a⟩
  | cons op ops ih =>
    intro a a' h
    obtain ⟨b, hb, hrun⟩ := Option.bind_eq_some.mp h
    obtain ⟨u, hl, hi, he⟩ := Op.exec_ledger hb
    obtain ⟨v, hl', hi', he'⟩ := ih b a' hrun
    refine ⟨u ++ v, hl.trans hl', hi.trans hi', fun hno => (he fun p hp => ?_).trans
      (he' fun p hp => hno p (List.mem_cons_of_mem _ hp))⟩
    exact hno p (hp ▸ List.mem_cons_self _ _)

/-- Along every run of slot operations: the trace only grows, and each slot is, in order, some
of what it held followed by some of what the run installed into it. No operation reorders a
slot or puts into it a plugin that was not installed there. -/
theorem slots_subsequence_of_installed (a a' : ActorBase P) (ops : List (Op P))
    (h : a.runOps ops = some a') :
    ∃ u, a'.trace = a.trace ++ u ∧ ∀ s, (a'.slot s).Sublist (a.slot s ++ installed s u) :=
  let ⟨u, hl, _⟩ := ActorBase.runOps_ledger ops a a' h
  ⟨u, hl.trace, hl.slots⟩

/-- An actor waiting to initialize, with plugins `1` and `2` in its INIT slot and `1` in its
SUBSCRIPTION slot: `init_start`; an `init_continue` in which `1` installs `3` into INIT and
completes, `2` completes and `3` does not; `on_subscription` in which `1` finishes. -/
def slotsRun : ActorBase Nat × List (Op Nat) :=
  ({ ActorBase.ofConfig id [] with
      initRequest := some 7, initPlugins := [1, 2], subscriptionPlugins := [1] },
    [.call .initStart,
      .call (.initContinue [{ installs := [(3, .init)], done := true }, { done := true },
        { done := false }]),
      .onSubscription fun _ => .finished])

theorem slots_subsequence_of_installed_slotsRun :
    ∃ a', slotsRun.1.runOps slotsRun.2 = some a' ∧
      a'.initPlugins = [3] ∧ a'.subscriptionPlugins = [] ∧
      ∃ u, a'.trace = slotsRun.1.trace ++ u ∧
        ∀ s, (a'.slot s).Sublist (slotsRun.1.slot s ++ installed s u) :=
  ⟨_, rfl, rfl, rfl, slots_subsequence_of_installed _ _ slotsRun.2 rfl⟩

/-- Along every run, the plugins that complete init, followed by the INIT slot, are in order some
of what it held and what was installed into it; with no `uninstall_plugin` on INIT, all of
them. -/
theorem init_completes_in_install_order (a a' : ActorBase P) (ops : List (Op P))
    (h : a.runOps ops = some a') :
    ∃ u, a'.trace = a.trace ++ u ∧
      (completedInit u ++ a'.initPlugins).Sublist (a.initPlugins ++ installed .init u) ∧
      ((∀ p, Op.uninstallPlugin p .init ∉ ops) →
        completedInit u ++ a'.initPlugins = a.initPlugins ++ installed .init u) :=
  let ⟨u, hl, hi, he⟩ := ActorBase.runOps_ledger ops a a' h
  ⟨u, hl.trace, hi, he⟩

/-- In the run `slotsRun`, `1` and `2` complete their init in the order they were queued, and
`3`, installed by `1`, still waits. -/
theorem init_completes_in_install_order_slotsRun :
    ∃ a', slotsRun.1.runOps slotsRun.2 = some a' ∧
      a'.trace = [.installPlugin 3 .init, .handleInit 1 true, .handleInit 2 true,
        .handleInit 3 false] ∧
      ∃ u, a'.trace = slotsRun.1.trace ++ u ∧
        (completedInit u ++ a'.initPlugins).Sublist
          (slotsRun.1.initPlugins ++ installed .init u) ∧
        ((∀ p, Op.uninstallPlugin p .init ∉ slotsRun.2) →
          completedInit u ++ a'.initPlugins = slotsRun.1.initPlugins ++ installed .init u) :=
  ⟨_, rfl, rfl, init_completes_in_install_order _ _ slotsRun.2 rfl⟩

end Rotor
