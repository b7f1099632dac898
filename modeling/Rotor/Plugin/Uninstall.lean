import Mathlib.Data.List.Basic
import Rotor.Actor.Lifecycle

/-!
# `uninstall_plugin`

`uninstall_plugin(plugin, slot)` erases what `std::find` returns. For a plugin in the slot
that is its first occurrence, and nothing else changes. For a plugin no longer in the slot,
which `init_continue`, `shutdown_continue` and `poll` bring about by popping and erasing, it
is `end()`, and `erase(end())` is undefined: there is no `it != dest->end()` check, unlike
the `if (plugin->actor)` guard of `deactivate_plugins` for a plugin that is already inactive.
-/

namespace Rotor

namespace ActorBase

variable {P : Type}

lemma eraseAt_of_lt {l : List P} {i : Nat} (h : i < l.length) :
    eraseAt l i = some (l.eraseIdx i) :=
  if_pos h

lemma eraseAt_length (l : List P) : eraseAt l l.length = none := if_neg (lt_irrefl _)

variable [DecidableEq P] {a : ActorBase P} {plugin : P} {s : Slot}

/-- For a plugin in the slot: its first occurrence is erased, the other entries keep their
order, and the rest of the actor is unchanged. -/
lemma uninstallPlugin_of_mem (h : plugin ∈ a.slot s) :
    a.uninstallPlugin plugin s = some (a.setSlot s ((a.slot s).erase plugin)) := by
  rw [uninstallPlugin, eraseAt_of_lt (List.indexOf_lt_length.mpr h),
    List.eraseIdx_indexOf_eq_erase]
  rfl

/-- For a plugin not in the slot: `erase(end())`, undefined. -/
lemma uninstallPlugin_of_not_mem (h : plugin ∉ a.slot s) : a.uninstallPlugin plugin s = none := by
  rw [uninstallPlugin, List.indexOf_eq_length.mpr h, eraseAt_length]
  rfl

/-- Uninstalling right after installing restores every slot when the plugin was not in the
slot before. -/
lemma uninstallPlugin_installPlugin (h : plugin ∉ a.slot s) (s' : Slot) :
    ((a.installPlugin plugin s).uninstallPlugin plugin s).map (·.slot s') = some (a.slot s') := by
  rw [uninstallPlugin_of_mem (by simp)]
  by_cases hs : s' = s
  · subst hs; simp [List.erase_append_right _ h]
  · simp [hs]

/-- Plugin `2` installed into the INIT slot `[1]` and uninstalled again. -/
theorem uninstallPlugin_installPlugin_init :
    let a : ActorBase Nat := { ofConfig (id : Nat → Nat) [] with initPlugins := [1] }
    (2 : Nat) ∉ a.slot .init ∧
    ((a.installPlugin 2 .init).uninstallPlugin 2 .init).map (·.slot .init) = some (a.slot .init) :=
  ⟨by decide, uninstallPlugin_installPlugin (by decide) .init⟩

/-- Plugin `1` in the INIT slot answers `true` to `handle_init`, so `init_continue` pops it;
uninstalling it from the INIT slot afterwards erases at `end()`. -/
theorem uninstallPlugin_after_initContinue :
    ((({ (ofConfig (id : Nat → Nat) []).initStart with initRequest := some 7 }).installPlugin
      1 .init).initContinue [{ done := true }]).map ActorBase.initPlugins = some [] ∧
    ((({ (ofConfig (id : Nat → Nat) []).initStart with initRequest := some 7 }).installPlugin
      1 .init).initContinue [{ done := true }]).bind
      (fun b : ActorBase Nat => b.uninstallPlugin 1 .init) = none :=
  ⟨rfl, rfl⟩

end ActorBase

end Rotor
