import Rotor.Activation.Bookkeeping

/-!
# The loops when every callback returns at once

When every plugin's `activate()` only sets its link, and every `deactivate()` returns at once,
the two loops of the actor run as plain loops. `activate_plugins` calls `activate()` on every
plugin in list order and changes nothing but the links. `deactivate_plugins` calls
`deactivate()` on exactly the plugins linked, last first, inserts the identity of each into
`deactivating_plugins` before the call, and returns to its caller with nothing else changed.
When every plugin also commits a successful activation from inside its `activate()`,
`do_initialize` on a fresh actor leaves `activating_plugins` empty.
-/

namespace Rotor

variable {P : Type} [DecidableEq P]

namespace System

variable (identity : P → Nat)

/-- The schedule of a loop of `activate_plugins` over `rest` in which every plugin sets its
link from inside its `activate()`, which then returns. -/
def linkAtOnce : List P → List (Label P)
  | [] => [.advance]
  | _ :: rest => [.advance, .link, .ret] ++ linkAtOnce rest

/-- The schedule of a loop over `rest` whose callbacks return at once: one iteration per
plugin, followed by the return of its callback when `calls` says it makes one, and the
iteration that ends the loop. -/
def returnAtOnce (calls : P → Bool) : List P → List (Label P)
  | [] => [.advance]
  | p :: rest => (if calls p then [.advance, .ret] else [.advance]) ++ returnAtOnce calls rest

/-- The schedule of a loop of `activate_plugins` over `rest` in which every plugin sets its
link and commits a successful activation from inside its `activate()`, which then returns. -/
def commitAtOnce : List P → List (Label P)
  | [] => [.advance]
  | p :: rest => [.advance, .link, .commitActivation p true, .ret] ++ commitAtOnce rest

/-- The schedule of a loop of `deactivate_plugins` over linked plugins `rest` in which every
plugin commits its deactivation from inside its `deactivate()`, which then returns. -/
def commitDeactivationAtOnce : List P → List (Label P)
  | [] => [.advance]
  | p :: rest => [.advance, .commitDeactivation p, .ret] ++ commitDeactivationAtOnce rest

variable {identity}

/-- The loop of `activate_plugins` over `rest`, every `activate()` setting the link and
returning. -/
lemma run_activating (rest : List P) : ∀ (s : System P) (frames : List (Frame P)),
    s.stack = .activating rest :: frames →
    s.run identity (linkAtOnce rest) =
      some ⟨s.actor.record (rest.map .activate), fun q => s.linked q || decide (q ∈ rest),
        frames⟩ := by
  induction rest with
  | nil =>
    intro s frames hs
    simp [linkAtOnce, step, advance, hs]
  | cons p rest ih =>
    intro s frames hs
    have hlinked : (fun q => Function.update s.linked p true q || decide (q ∈ rest)) =
        fun q => s.linked q || decide (q ∈ p :: rest) := by
      funext q
      rcases eq_or_ne q p with rfl | hne
      · simp
      · simp [Function.update_noteq hne, hne]
    simp only [linkAtOnce, List.cons_append, List.nil_append, run_cons, step, advance, hs,
      Option.some_bind]
    rw [ih _ frames rfl]
    simp only [hlinked, ActorBase.record_record, List.singleton_append, List.map_cons]

/-- The loop of `deactivate_plugins` over `rest`, every `deactivate()` returning at once. -/
lemma run_deactivating (rest : List P) : ∀ (s : System P) (frames : List (Frame P)),
    s.stack = .deactivating rest :: frames →
    s.run identity (returnAtOnce s.linked rest) =
      some ⟨{ s.actor.record ((rest.filter s.linked).map .deactivate) with
          deactivatingPlugins :=
            s.actor.deactivatingPlugins ∪ ((rest.filter s.linked).map identity).toFinset },
        s.linked, frames⟩ := by
  induction rest with
  | nil =>
    intro s frames hs
    simp [returnAtOnce, step, advance, hs]
  | cons p rest ih =>
    intro s frames hs
    by_cases hl : s.linked p = true
    · simp only [returnAtOnce, hl, if_true, List.cons_append, List.nil_append, run_cons, step,
        advance, hs, Option.some_bind]
      rw [ih _ frames rfl]
      simp [hl, ActorBase.record, Finset.insert_union, Finset.union_insert]
    · simp only [returnAtOnce, hl, Bool.false_eq_true, if_false, List.singleton_append,
        run_cons, step, advance, hs, Option.some_bind]
      rw [ih _ frames rfl]
      simp [hl]

/-- One plugin of the loop of `activate_plugins`: `activate()`, the link and the successful
commit from inside it, and its return. -/
lemma run_activate_commit {s : System P} {p : P} {rest : List P} {frames : List (Frame P)}
    (hs : s.stack = .activating (p :: rest) :: frames) (hp : p ∈ s.actor.plugins) :
    s.run identity [.advance, .link, .commitActivation p true, .ret] =
      some ⟨{ s.actor.record [.activate p, .commitActivation p true] with
          activatingPlugins := s.actor.activatingPlugins.erase (identity p) },
        Function.update s.linked p true, .activating rest :: frames⟩ := by
  simp [step, advance, hs, pluginRuns, hp, commitPluginActivation, ActorBase.record]

/-- The loop of `activate_plugins` over `rest`, every plugin committing a successful activation
from inside its `activate()`. -/
lemma run_activating_committed (rest : List P) : ∀ (s : System P) (frames : List (Frame P)),
    s.stack = .activating rest :: frames → (∀ p ∈ rest, p ∈ s.actor.plugins) →
    s.run identity (commitAtOnce rest) =
      some ⟨{ s.actor.record (rest.flatMap fun p => [.activate p, .commitActivation p true]) with
          activatingPlugins := s.actor.activatingPlugins \ (rest.map identity).toFinset },
        fun q => s.linked q || decide (q ∈ rest), frames⟩ := by
  induction rest with
  | nil =>
    intro s frames hs _
    simp [commitAtOnce, step, advance, hs]
  | cons p rest ih =>
    intro s frames hs hmem
    have hlinked : (fun q => Function.update s.linked p true q || decide (q ∈ rest)) =
        fun q => s.linked q || decide (q ∈ p :: rest) := by
      funext q
      rcases eq_or_ne q p with rfl | hne
      · simp
      · simp [Function.update_noteq hne, hne]
    rw [commitAtOnce, run_append, run_activate_commit hs (hmem p (List.mem_cons_self _ _)),
      Option.some_bind, ih _ frames rfl ?_, hlinked]
    · simp [ActorBase.record, Finset.sdiff_insert, Finset.erase_sdiff_comm]
    · exact fun q hq => hmem q (List.mem_cons_of_mem _ hq)

/-- One linked plugin of the loop of `deactivate_plugins`: `deactivate()`, the commit from
inside it, and its return. -/
lemma run_deactivate_commit {s : System P} {p : P} {rest : List P} {frames : List (Frame P)}
    (hs : s.stack = .deactivating (p :: rest) :: frames) (hl : s.linked p = true)
    (hp : p ∈ s.actor.plugins) :
    s.run identity [.advance, .commitDeactivation p, .ret] =
      some ⟨{ s.actor.record [.deactivate p, .commitDeactivation p] with
          deactivatingPlugins := s.actor.deactivatingPlugins.erase (identity p) },
        s.linked, .deactivating rest :: frames⟩ := by
  simp [step, advance, hs, hl, pluginRuns, hp, commitPluginDeactivation, ActorBase.record,
    Finset.erase_insert_eq_erase]

/-- The loop of `deactivate_plugins` over linked plugins `rest`, every plugin committing its
deactivation from inside its `deactivate()`. -/
lemma run_deactivating_committed (rest : List P) : ∀ (s : System P) (frames : List (Frame P)),
    s.stack = .deactivating rest :: frames → (∀ p ∈ rest, s.linked p = true ∧ p ∈ s.actor.plugins) →
    s.run identity (commitDeactivationAtOnce rest) =
      some ⟨{ s.actor.record (rest.flatMap fun p => [.deactivate p, .commitDeactivation p]) with
          deactivatingPlugins := s.actor.deactivatingPlugins \ (rest.map identity).toFinset },
        s.linked, frames⟩ := by
  induction rest with
  | nil =>
    intro s frames hs _
    simp [commitDeactivationAtOnce, step, advance, hs]
  | cons p rest ih =>
    intro s frames hs hrest
    obtain ⟨hl, hp⟩ := hrest p (List.mem_cons_self _ _)
    rw [commitDeactivationAtOnce, run_append, run_deactivate_commit hs hl hp, Option.some_bind,
      ih _ frames rfl ?_]
    · simp [ActorBase.record, Finset.sdiff_insert, Finset.erase_sdiff_comm]
    · exact fun q hq => hrest q (List.mem_cons_of_mem _ hq)

/-- With every `activate()` setting the plugin's link and returning, `do_initialize` calls
`activate()` on every plugin in list order and changes nothing else of the actor. -/
theorem doInitialize_activates_all (s : System P) (hs : s.stack = []) :
    s.run identity (.doInitialize :: linkAtOnce s.actor.plugins) =
      some ⟨s.actor.record (s.actor.plugins.map .activate),
        fun q => s.linked q || decide (q ∈ s.actor.plugins), []⟩ := by
  rw [run_cons, step, if_pos (List.isEmpty_iff.mpr hs), Option.some_bind]
  exact run_activating _ _ [] rfl

/-- Three plugins, none linked before: all three are activated in order and linked. -/
theorem doInitialize_activates_all_three :
    let s : System Nat := System.init id [1, 2, 3]
    s.stack = [] ∧
    s.run id (.doInitialize :: linkAtOnce s.actor.plugins) =
      some ⟨s.actor.record (s.actor.plugins.map .activate),
        fun q => s.linked q || decide (q ∈ s.actor.plugins), []⟩ :=
  ⟨rfl, doInitialize_activates_all (System.init id [1, 2, 3]) rfl⟩

/-- When every plugin sets its link and commits a successful activation from inside its
`activate()`, `do_initialize` on a fresh actor activates and commits every plugin in list order,
returns with nothing running, and leaves `activating_plugins` empty. -/
theorem doInitialize_commits_all (plugins : List P) :
    (System.init identity plugins).run identity (.doInitialize :: commitAtOnce plugins) =
      some ⟨{ (ActorBase.ofConfig identity plugins).record
          (plugins.flatMap fun p => [.activate p, .commitActivation p true]) with
          activatingPlugins := ∅ }, fun q => decide (q ∈ plugins), []⟩ := by
  rw [run_cons, step,
    if_pos (List.isEmpty_iff.mpr (rfl : (System.init identity plugins).stack = [])),
    Option.some_bind]
  refine (run_activating_committed plugins _ [] rfl fun p hp => hp).trans ?_
  simp [System.init, doInitialize, ActorBase.ofConfig]

/-- With every `deactivate()` returning at once, `deactivate_plugins` calls `deactivate()` on
exactly the linked plugins, last first, inserts the identity of each into
`deactivating_plugins`, and returns to its caller with nothing else changed. -/
theorem deactivatePlugins_deactivates_linked (s : System P) (hr : s.pluginRuns = true) :
    s.run identity (.deactivatePlugins :: returnAtOnce s.linked s.actor.plugins.reverse) =
      some { s with
        actor := { s.actor.record ((s.actor.plugins.reverse.filter s.linked).map .deactivate) with
          deactivatingPlugins := s.actor.deactivatingPlugins ∪
            ((s.actor.plugins.filter s.linked).map identity).toFinset } } := by
  rw [run_cons, step, if_pos hr, Option.some_bind]
  refine (run_deactivating _ s.deactivatePlugins s.stack rfl).trans ?_
  simp [List.filter_reverse, List.map_reverse, List.toFinset_reverse]

/-- Plugins `1`, `2`, `3` with `2` no longer linked: `3` and then `1` are asked to deactivate. -/
theorem deactivatePlugins_deactivates_linked_skip :
    let s : System Nat := ⟨ActorBase.ofConfig id [1, 2, 3], fun q => decide (q ≠ 2), []⟩
    s.pluginRuns = true ∧
    s.run id (.deactivatePlugins :: returnAtOnce s.linked s.actor.plugins.reverse) =
      some { s with
        actor := { s.actor.record ((s.actor.plugins.reverse.filter s.linked).map .deactivate) with
          deactivatingPlugins := s.actor.deactivatingPlugins ∪
            ((s.actor.plugins.filter s.linked).map id).toFinset } } :=
  ⟨rfl, deactivatePlugins_deactivates_linked ⟨ActorBase.ofConfig id [1, 2, 3],
    fun q => decide (q ≠ 2), []⟩ rfl⟩

/-- The happy path of a fresh actor, every commit made from inside its callback: the plugins are
activated in order and deactivated in reverse, both identity sets end empty, and the assert of
`~actor_base_t` holds. -/
theorem activate_then_deactivate_clears (plugins : List P) :
    ∃ s, (System.init identity plugins).run identity (.doInitialize :: commitAtOnce plugins ++
        .deactivatePlugins :: commitDeactivationAtOnce plugins.reverse) = some s ∧
      s.stack = [] ∧
      s.actor.trace = plugins.flatMap (fun p => [.activate p, .commitActivation p true]) ++
        plugins.reverse.flatMap (fun p => [.deactivate p, .commitDeactivation p]) ∧
      s.actor.activatingPlugins = ∅ ∧ s.actor.deactivatingPlugins = ∅ ∧
      s.actor.destructorAsserts := by
  have hinit : (System.init identity plugins).doInitialize.run identity (commitAtOnce plugins) =
      _ := run_activating_committed plugins _ [] rfl fun p hp => hp
  rw [run_append, run_doInitialize identity (s := System.init identity plugins) rfl, hinit,
    Option.some_bind, run_deactivatePlugins identity (s := ⟨_, _, []⟩) rfl,
    run_deactivating_committed _ _ [] rfl fun p hp =>
      ⟨by simp [List.mem_reverse.mp hp], by simpa using hp⟩]
  refine ⟨_, rfl, rfl, by simp [System.init, doInitialize, deactivatePlugins, ActorBase.ofConfig],
    by simp [System.init, doInitialize, ActorBase.ofConfig],
    by simp [System.init, doInitialize, ActorBase.ofConfig], fun h => ?_⟩
  simp [System.init, doInitialize, ActorBase.ofConfig] at h

end System

end Rotor
