import Rotor.Activation.Machine
import Mathlib.Data.List.Infix

/-!
# A plugin is activated before it is asked to deactivate

A plugin sets its link only from inside one of its own callbacks, `activate()` or
`deactivate()`, and `deactivate_plugins` calls `deactivate()` only on a linked plugin. So along
every run, whatever the plugins do from inside their callbacks and in whatever order, every
`deactivate()` on a plugin comes after an `activate()` on it.
-/

namespace Rotor

variable {P : Type}

/-- Every `deactivate()` in `t` comes after an `activate()` on the same plugin. -/
def DeactivatesAfterActivate (t : List (Event P)) : Prop :=
  ∀ t₁ q, t₁ ++ [.deactivate q] <+: t → Event.activate q ∈ t₁

namespace DeactivatesAfterActivate

variable {t : List (Event P)}

lemma nil : DeactivatesAfterActivate ([] : List (Event P)) := by
  intro t₁ q h
  simp at h

/-- Appending an event keeps the order, when a `deactivate()` it may be comes after an
`activate()` on the same plugin. -/
lemma snoc (h : DeactivatesAfterActivate t) {e : Event P}
    (he : ∀ q, e = .deactivate q → Event.activate q ∈ t) : DeactivatesAfterActivate (t ++ [e]) := by
  intro t₁ q hp
  rcases List.prefix_concat_iff.mp hp with heq | hp
  · obtain ⟨rfl, he'⟩ := List.append_inj' heq rfl
    exact he q (List.singleton_inj.mp he').symm
  · exact h t₁ q hp

/-- Appending events outside the activation machinery keeps the order. -/
lemma append_quiet (h : DeactivatesAfterActivate t) {u : List (Event P)}
    (hu : ∀ e ∈ u, e.isActivation = false) : DeactivatesAfterActivate (t ++ u) := by
  induction u using List.reverseRecOn with
  | nil => simpa
  | append_singleton u e ih =>
    rw [← List.append_assoc]
    exact (ih fun e' h => hu e' (by simp [h])).snoc fun q he =>
      absurd (hu e (by simp)) (by simp [he])

end DeactivatesAfterActivate

namespace System

/-- Every linked plugin and every plugin with a callback in progress has been activated, and
every `deactivate()` so far came after an `activate()` on the same plugin. -/
structure ActivatedFirst (s : System P) : Prop where
  linked : ∀ q, s.linked q = true → Event.activate q ∈ s.actor.trace
  callbacks : ∀ q, Frame.callback q ∈ s.stack → Event.activate q ∈ s.actor.trace
  order : DeactivatesAfterActivate s.actor.trace

lemma ActivatedFirst.init (identity : P → Nat) (plugins : List P) :
    ActivatedFirst (System.init identity plugins) :=
  ⟨by simp [System.init], by simp [System.init], .nil⟩

variable [DecidableEq P] {identity : P → Nat} {s s' : System P} {l : Label P}

/-- Every step keeps the invariant. -/
lemma ActivatedFirst.moves (h : ActivatedFirst s) (m : Moves identity s l s') :
    ActivatedFirst s' := by
  obtain ⟨hl, hc, ho⟩ := h
  cases m with
  | doInitialize _ => exact ⟨hl, by simp [doInitialize], ho⟩
  | activatingDone hs | deactivatingDone hs | ret hs =>
    exact ⟨hl, fun q hq => hc q (hs ▸ List.mem_cons_of_mem _ hq), ho⟩
  | skip hs _ => exact ⟨hl, fun q hq => hc q (by rw [hs]; simpa using hq), ho⟩
  | deactivatePlugins _ => exact ⟨hl, fun q hq => hc q (by simpa using hq), ho⟩
  | @activate plugin rest frames hs =>
    refine ⟨fun q hq => List.mem_append_left _ (hl q hq), fun q hq => ?_, ho.snoc (by simp)⟩
    rcases List.mem_cons.mp hq with hq | hq
    · cases hq; simp
    · exact List.mem_append_left _ (hc q (by rw [hs]; simpa using hq))
  | @deactivate plugin rest frames hs hlinked =>
    refine ⟨fun q hq => List.mem_append_left _ (hl q hq), fun q hq => ?_,
      ho.snoc fun q he => by cases he; exact hl _ hlinked⟩
    rcases List.mem_cons.mp hq with hq | hq
    · cases hq; exact List.mem_append_left _ (hl _ hlinked)
    · exact List.mem_append_left _ (hc q (by rw [hs]; simpa using hq))
  | commitActivation success _ _ =>
    refine ⟨fun q hq => ?_, fun q hq => ?_, ?_⟩ <;> rw [commitPluginActivation_trace]
    · rw [commitPluginActivation_linked] at hq
      exact List.mem_append_left _ (hl q hq)
    · refine List.mem_append_left _ (hc q ?_)
      rw [commitPluginActivation_stack] at hq
      split at hq
      · exact hq
      · simpa using hq
    · exact ho.snoc (by simp)
  | commitDeactivation _ _ =>
    exact ⟨fun q hq => List.mem_append_left _ (hl q hq),
      fun q hq => List.mem_append_left _ (hc q hq), ho.snoc (by simp)⟩
  | @unlink plugin _ =>
    refine ⟨fun q hq => hl q ?_, hc, ho⟩
    rcases eq_or_ne q plugin with rfl | hne
    · simp at hq
    · exact (Function.update_noteq hne _ _).symm.trans hq
  | @link plugin frames hs =>
    refine ⟨fun q hq => ?_, hc, ho⟩
    rcases eq_or_ne q plugin with rfl | hne
    · exact hc q (by simp [hs])
    · exact hl q ((Function.update_noteq hne _ _).symm.trans hq)
  | op _ ho' =>
    obtain ⟨u, hu⟩ := Op.exec_untouched ho'
    refine ⟨fun q hq => ?_, fun q hq => ?_, ?_⟩ <;> dsimp only <;> rw [hu.trace]
    · exact List.mem_append_left _ (hl q hq)
    · exact List.mem_append_left _ (hc q hq)
    · exact ho.append_quiet hu.quiet

end System

/-- Along every run from the constructor, whatever the plugins do from inside their callbacks
and in whatever order, every `deactivate()` on a plugin comes after an `activate()` on it. -/
theorem deactivate_after_activate [DecidableEq P] (identity : P → Nat) (plugins : List P)
    (labels : List (Label P)) (s : System P)
    (h : (System.init identity plugins).run identity labels = some s) :
    ∀ t₁ q, t₁ ++ [.deactivate q] <+: s.actor.trace → Event.activate q ∈ t₁ :=
  (System.run_induction System.ActivatedFirst (fun _ _ _ hs m => hs.moves m) labels _ s
    (System.ActivatedFirst.init identity plugins) h).order

/-- Plugin `1` commits a failed activation from inside its `activate()`: the cascade asks `1`
to deactivate, after its activation, and passes `2`, not yet activated. -/
theorem deactivate_after_activate_cascade :
    ∃ s : System Nat, (System.init id [1, 2]).run id [.doInitialize, .advance, .link,
        .commitActivation 1 false, .advance, .advance, .ret, .advance, .ret, .advance, .link,
        .commitActivation 2 true, .ret, .advance] = some s ∧
      s.actor.trace = [.activate 1, .commitActivation 1 false, .deactivate 1, .activate 2,
        .commitActivation 2 true] ∧
      ∀ t₁ q, t₁ ++ [.deactivate q] <+: s.actor.trace → Event.activate q ∈ t₁ := by
  have hrun : (System.init id [1, 2]).run id [.doInitialize, .advance, .link,
      .commitActivation 1 false, .advance, .advance, .ret, .advance, .ret, .advance, .link,
      .commitActivation 2 true, .ret, .advance] = some _ := rfl
  exact ⟨_, hrun, rfl, deactivate_after_activate id [1, 2] _ _ hrun⟩

end Rotor
