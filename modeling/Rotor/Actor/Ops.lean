import Rotor.Actor.LifecycleOrder
import Rotor.Plugin.Poll
import Rotor.Plugin.Uninstall

/-!
# Runs of the actor's operations

The operations of `actor_base_t` that a supervisor or a plugin calls on an actor between its
construction and its destruction, outside the plugin activation machinery: `install_plugin`,
`uninstall_plugin`, the lifecycle entry points, and the three message handlers that poll a
slot. Each comes with what the plugins' handlers answer, so that a sequence of operations is a
run of the actor, which stops at the first failed `assert` or undefined behaviour.
-/

namespace Rotor

variable {P : Type}

/-! ### The two entry points with a loop -/

namespace ActorBase

variable {a a' : ActorBase P} {answers : List (Answer P)}

/-- What `init_continue` can return: the actor after its loop, or after its loop and
`init_finish`. -/
lemma initContinue_cases (h : a.initContinue answers = some a') :
    a' = a.initLoop answers ∨ (a.initLoop answers).initFinish = some a' := by
  unfold initContinue at h
  split at h
  · dsimp only at h
    split at h
    · exact .inr h
    · exact .inl (Option.some.inj h).symm
  · cases h

/-- What `shutdown_continue` can return: the actor after its loop, or after its loop and
`shutdown_finish`. -/
lemma shutdownContinue_cases (h : a.shutdownContinue answers = some a') :
    a' = a.shutdownLoop answers ∨ a' = (a.shutdownLoop answers).shutdownFinish := by
  unfold shutdownContinue at h
  split at h
  · cases h
    split <;> simp
  · cases h

end ActorBase

/-! ### Operations and runs -/

/-- An operation on the actor, with the answers of the plugins' handlers it calls. -/
inductive Op (P : Type) where
  | installPlugin (plugin : P) (slot : Slot)
  | uninstallPlugin (plugin : P) (slot : Slot)
  | call (c : Call P)
  | onSubscription (handleSubscription : P → ProcessingResult)
  | onUnsubscription (handleUnsubscription : P → ProcessingResult)
  | onUnsubscriptionExternal (handleUnsubscriptionExternal : P → ProcessingResult)

section Exec

variable [DecidableEq P]

/-- The operation on an actor; `none` when an `assert` fails or the behaviour is undefined. -/
def Op.exec : Op P → ActorBase P → Option (ActorBase P)
  | .installPlugin plugin s, a => some (a.installPlugin plugin s)
  | .uninstallPlugin plugin s, a => a.uninstallPlugin plugin s
  | .call c, a => c.exec a
  | .onSubscription fn, a => some (a.onSubscription fn)
  | .onUnsubscription fn, a => some (a.onUnsubscription fn)
  | .onUnsubscriptionExternal fn, a => some (a.onUnsubscriptionExternal fn)

namespace ActorBase

/-- A sequence of operations; `none` as soon as one of them is. -/
def runOps (a : ActorBase P) : List (Op P) → Option (ActorBase P)
  | [] => some a
  | op :: ops => (op.exec a).bind (·.runOps ops)

@[simp] lemma runOps_nil (a : ActorBase P) : a.runOps [] = some a := rfl

lemma runOps_cons (a : ActorBase P) (op : Op P) (ops : List (Op P)) :
    a.runOps (op :: ops) = (op.exec a).bind (·.runOps ops) := rfl

end ActorBase

end Exec

/-! ### Relations kept by every operation -/

/-- A relation between an actor, the events appended to its trace and the actor after, which
holds of the empty run, composes, and holds of each step the operations are made of. -/
structure OpsKeep (R : ActorBase P → List (Event P) → ActorBase P → Prop) : Prop where
  refl : ∀ a, R a [] a
  trans : ∀ {a b c u v}, R a u b → R b v c → R a (u ++ v) c
  setState : ∀ a st, R a [] { a with state := st }
  installPlugin : ∀ a p s, R a [.installPlugin p s] (a.installPlugin p s)
  setSlot : ∀ a s l, R a [] (a.setSlot s l)
  handleInit : ∀ a p ans,
    R a (installEvents ans.installs ++ [.handleInit p ans.done]) (a.handleInit p ans)
  popInit : ∀ a, R a [] a.popInit
  handleShutdown : ∀ a p ans,
    R a (installEvents ans.installs ++ [.handleShutdown p ans.done]) (a.handleShutdown p ans)
  popShutdown : ∀ a, R a [] a.popShutdown
  initFinish : ∀ {a a'}, a.initFinish = some a' → ∃ u, R a u a'
  shutdownFinish : ∀ a, ∃ u, R a u a.shutdownFinish
  doShutdown : ∀ a, R a [.send .shutdownTrigger] (a.record [.send .shutdownTrigger])

namespace OpsKeep

variable {R : ActorBase P → List (Event P) → ActorBase P → Prop} (hR : OpsKeep R)
include hR

lemma initLoop (a : ActorBase P) (answers : List (Answer P)) : ∃ u, R a u (a.initLoop answers) :=
  ActorBase.initLoop_induction (fun b => ∃ u, R a u b)
    (fun b p ans ⟨_, hb⟩ => ⟨_, hR.trans hb (hR.handleInit b p ans)⟩)
    (fun b ⟨_, hb⟩ => ⟨_, hR.trans hb (hR.popInit b)⟩) a answers ⟨[], hR.refl a⟩

lemma shutdownLoop (a : ActorBase P) (answers : List (Answer P)) :
    ∃ u, R a u (a.shutdownLoop answers) :=
  ActorBase.shutdownLoop_induction (fun b => ∃ u, R a u b)
    (fun b p ans ⟨_, hb⟩ => ⟨_, hR.trans hb (hR.handleShutdown b p ans)⟩)
    (fun b ⟨_, hb⟩ => ⟨_, hR.trans hb (hR.popShutdown b)⟩) a answers ⟨[], hR.refl a⟩

lemma call {c : Call P} {a a' : ActorBase P} (h : c.exec a = some a') : ∃ u, R a u a' := by
  cases c with
  | initStart | onStart | shutdownStart => cases h; exact ⟨[], hR.setState a _⟩
  | initContinue answers =>
    obtain ⟨u, hu⟩ := hR.initLoop a answers
    rcases ActorBase.initContinue_cases h with rfl | hf
    · exact ⟨u, hu⟩
    · obtain ⟨v, hv⟩ := hR.initFinish hf
      exact ⟨_, hR.trans hu hv⟩
  | shutdownContinue answers =>
    obtain ⟨u, hu⟩ := hR.shutdownLoop a answers
    rcases ActorBase.shutdownContinue_cases h with rfl | rfl
    · exact ⟨u, hu⟩
    · obtain ⟨v, hv⟩ := hR.shutdownFinish (a.shutdownLoop answers)
      exact ⟨_, hR.trans hu hv⟩
  | doShutdown =>
    simp only [Call.exec, ActorBase.doShutdown, Option.ite_none_right_eq_some] at h
    obtain ⟨-, ⟨⟩⟩ := h
    exact ⟨_, hR.doShutdown a⟩

lemma op [DecidableEq P] {op : Op P} {a a' : ActorBase P} (h : op.exec a = some a') :
    ∃ u, R a u a' := by
  cases op with
  | installPlugin p s => cases h; exact ⟨_, hR.installPlugin a p s⟩
  | uninstallPlugin p s =>
    obtain ⟨l, -, rfl⟩ := Option.map_eq_some'.mp h
    exact ⟨[], hR.setSlot a s l⟩
  | call c => exact hR.call h
  | onSubscription fn => cases h; exact ⟨[], hR.setSlot a .subscription _⟩
  | onUnsubscription fn | onUnsubscriptionExternal fn =>
    cases h; exact ⟨[], hR.setSlot a .unsubscription _⟩

/-- The relation holds across every run of operations. -/
lemma runOps [DecidableEq P] (ops : List (Op P)) :
    ∀ a a' : ActorBase P, a.runOps ops = some a' → ∃ u, R a u a' := by
  induction ops with
  | nil => rintro a _ ⟨⟩; exact ⟨[], hR.refl a⟩
  | cons op ops ih =>
    intro a a' h
    obtain ⟨b, hb, hrun⟩ := Option.bind_eq_some.mp h
    obtain ⟨u, hu⟩ := hR.op hb
    obtain ⟨v, hv⟩ := ih b a' hrun
    exact ⟨u ++ v, hR.trans hu hv⟩

end OpsKeep

/-! ### The activation machinery is left alone -/

/-- The events of the plugin activation machinery. -/
@[simp] def Event.isActivation : Event P → Bool
  | .activate _ | .deactivate _ | .commitActivation _ _ | .commitDeactivation _ => true
  | _ => false

/-- An event of the activation machinery is in `t ++ u` when `u` holds none, only if in `t`. -/
lemma mem_append_quiet {t u : List (Event P)} (hu : ∀ e ∈ u, e.isActivation = false)
    {e : Event P} (he : e.isActivation = true) : e ∈ t ++ u ↔ e ∈ t :=
  ⟨fun h => (List.mem_append.mp h).resolve_right fun h' =>
    Bool.false_ne_true ((hu e h').symm.trans he),
    List.mem_append_left u⟩

lemma installEvents_quiet (installs : List (P × Slot)) :
    ∀ e ∈ installEvents installs, e.isActivation = false := by
  intro e he
  obtain ⟨i, -, rfl⟩ := List.mem_map.mp he
  rfl

/-- From `a` to `a'`, which appended `u` to the trace: what the activation machinery reads and
writes is as it was, and `u` holds none of its events. -/
structure Untouched (a : ActorBase P) (u : List (Event P)) (a' : ActorBase P) : Prop where
  trace : a'.trace = a.trace ++ u
  quiet : ∀ e ∈ u, e.isActivation = false
  plugins : a'.plugins = a.plugins
  activatingPlugins : a'.activatingPlugins = a.activatingPlugins
  deactivatingPlugins : a'.deactivatingPlugins = a.deactivatingPlugins

lemma Untouched.opsKeep : OpsKeep (Untouched (P := P)) where
  refl a := ⟨by simp, by simp, rfl, rfl, rfl⟩
  trans h h' := ⟨by rw [h'.trace, h.trace, List.append_assoc],
    fun e he => (List.mem_append.mp he).elim (h.quiet e) (h'.quiet e),
    h'.plugins.trans h.plugins, h'.activatingPlugins.trans h.activatingPlugins,
    h'.deactivatingPlugins.trans h.deactivatingPlugins⟩
  setState a st := ⟨by simp, by simp, rfl, rfl, rfl⟩
  installPlugin a p s := by constructor <;> simp [ActorBase.installPlugin]
  setSlot a s l := by constructor <;> simp
  handleInit a p ans := ⟨by simp, List.forall_mem_append.mpr ⟨installEvents_quiet _, by simp⟩,
    by simp [ActorBase.handleInit], by simp [ActorBase.handleInit], by simp [ActorBase.handleInit]⟩
  popInit a := ⟨by simp, by simp, rfl, rfl, rfl⟩
  handleShutdown a p ans := ⟨by simp, List.forall_mem_append.mpr ⟨installEvents_quiet _, by simp⟩,
    by simp [ActorBase.handleShutdown], by simp [ActorBase.handleShutdown],
    by simp [ActorBase.handleShutdown]⟩
  popShutdown a := ⟨by simp, by simp, rfl, rfl, rfl⟩
  initFinish h := by
    obtain ⟨r, -, rfl⟩ := Option.map_eq_some'.mp h
    exact ⟨_, rfl, by simp, rfl, rfl, rfl⟩
  shutdownFinish a := by
    refine ⟨_, a.shutdownFinish_trace, by simp, ?_, ?_, ?_⟩ <;>
      unfold ActorBase.shutdownFinish <;> split <;> rfl
  doShutdown a := ⟨rfl, by simp, rfl, rfl, rfl⟩

/-- No operation touches the activation machinery. -/
lemma Op.exec_untouched [DecidableEq P] {op : Op P} {a a' : ActorBase P}
    (h : op.exec a = some a') : ∃ u, Untouched a u a' :=
  Untouched.opsKeep.op h

end Rotor
