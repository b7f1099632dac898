import Rotor.Activation.Machine

/-!
# The deactivation cascade

A failed `commit_plugin_activation` runs `deactivate_plugins`, whose loop walks the plugins
from the back and calls `deactivate()` on each one linked when the loop reaches it. The actor
never sets a link: a plugin sets its own from inside its `activate()`. So the cascade misses a
plugin that is not linked yet when the loop reaches it. When the failure is committed from inside
the `activate()` of a plugin, the loop of `activate_plugins` is still in progress below it and
activates the later plugins once the cascade has passed them. A plugin that commits its failure
before it sets its link is passed as well, and is linked once it does.

What holds: a plugin linked when a failure is committed, and which does not clear its link
afterwards, has been asked to deactivate after the failure once nothing of the actor's is
running.
-/

namespace Rotor

variable {P : Type}

/-! ### A plugin ahead of a cascade -/

/-- Some loop of `deactivate_plugins` on the stack has `q` still to visit. -/
def Ahead (q : P) (stack : List (Frame P)) : Prop :=
  ∃ rest, Frame.deactivating rest ∈ stack ∧ q ∈ rest

namespace Ahead

variable {q : P} {f : Frame P} {frames : List (Frame P)}

lemma cons (h : Ahead q frames) (f : Frame P) : Ahead q (f :: frames) :=
  let ⟨rest, hm, hq⟩ := h
  ⟨rest, List.mem_cons_of_mem _ hm, hq⟩

/-- Popping a frame other than a loop of `deactivate_plugins` with `q` ahead keeps `q` ahead. -/
lemma tail (h : Ahead q (f :: frames)) (hf : ∀ rest, f = .deactivating rest → q ∉ rest) :
    Ahead q frames := by
  obtain ⟨rest, hm, hq⟩ := h
  rcases List.mem_cons.mp hm with rfl | hm
  · exact absurd hq (hf rest rfl)
  · exact ⟨rest, hm, hq⟩

/-- The loop of `deactivate_plugins` moving past another plugin keeps `q` ahead. -/
lemma pass {p : P} {rest : List P} (h : Ahead q (.deactivating (p :: rest) :: frames))
    (hq : q ≠ p) : Ahead q (.deactivating rest :: frames) := by
  obtain ⟨rest', hm, hq'⟩ := h
  rcases List.mem_cons.mp hm with he | hm
  · cases he
    exact ⟨rest, List.mem_cons_self _ _, (List.mem_cons.mp hq').resolve_left hq⟩
  · exact ⟨rest', List.mem_cons_of_mem _ hm, hq'⟩

end Ahead

namespace System

variable {identity : P → Nat} {s s' : System P} {l : Label P} {q : P}

/-! ### Only the actor's own plugins link -/

/-- The frames stand within the actor's plugins, and only they are linked. -/
structure LinksOwn (s : System P) : Prop where
  frames : FramesWithin s.actor.plugins s.stack
  linked : ∀ q, s.linked q = true → q ∈ s.actor.plugins

lemma LinksOwn.init (identity : P → Nat) (plugins : List P) :
    LinksOwn (System.init identity plugins) :=
  ⟨by simp [System.init, FramesWithin], by simp [System.init]⟩

/-! ### After the failure -/

/-- After a failure committed while `q` was linked, `b` being the trace up to the commit: `q`
is still linked, and has been asked to deactivate since or is ahead of a cascade in progress. -/
structure Owed (q : P) (b : List (Event P)) (s : System P) : Prop where
  linked : s.linked q = true
  owed : ∃ t, s.actor.trace = b ++ t ∧ (Event.deactivate q ∈ t ∨ Ahead q s.stack)

/-- The failed commit starts a cascade with every plugin ahead, `q` among them. -/
lemma Owed.start (h : LinksOwn s) (hq : s.linked q = true) (r : P) :
    Owed q (s.actor.trace ++ [.commitActivation r false])
      (s.commitPluginActivation identity r false) :=
  ⟨hq, [], by simp, .inr ⟨_, by simp, List.mem_reverse.mpr (h.linked q hq)⟩⟩

/-! ### Every step keeps the invariants -/

variable [DecidableEq P]

lemma LinksOwn.moves (h : LinksOwn s) (m : Moves identity s l s') : LinksOwn s' := by
  refine ⟨m.plugins_eq ▸ m.framesWithin h.frames, fun q hq => m.plugins_eq ▸ ?_⟩
  cases m with
  | @unlink plugin _ =>
    rcases eq_or_ne q plugin with rfl | hne
    · simp at hq
    · exact h.linked q ((Function.update_noteq hne _ _).symm.trans hq)
  | @link plugin frames hs =>
    rcases eq_or_ne q plugin with rfl | hne
    · exact h.frames (.callback q) (by simp [hs])
    · exact h.linked q ((Function.update_noteq hne _ _).symm.trans hq)
  | _ => exact h.linked q (by simpa using hq)

/-- Every step but `q` clearing its link keeps `q` owed its `deactivate()`. -/
lemma Owed.moves {b : List (Event P)} (h : Owed q b s) (hl : l ≠ .unlink q)
    (m : Moves identity s l s') : Owed q b s' := by
  obtain ⟨hlq, t, ht, ho⟩ := h
  obtain ⟨u, hu⟩ := m.trace_grows
  have hlq' : s'.linked q = true := by
    cases m with
    | @unlink plugin _ => exact (Function.update_noteq (fun he => hl (by rw [he])) _ _).trans hlq
    | @link plugin _ _ =>
      rcases eq_or_ne q plugin with rfl | hne
      · simp
      · exact (Function.update_noteq hne _ _).trans hlq
    | _ => simpa using hlq
  refine ⟨hlq', t ++ u, by rw [hu, ht, List.append_assoc], ?_⟩
  rcases ho with hd | ha
  · exact .inl (List.mem_append_left _ hd)
  cases m with
  | doInitialize hs => rw [hs] at ha; obtain ⟨_, hm, _⟩ := ha; cases hm
  | activate hs => exact .inr ((((hs ▸ ha).tail (by simp)).cons _).cons _)
  | activatingDone hs | ret hs | deactivatingDone hs => exact .inr ((hs ▸ ha).tail (by simp))
  | @deactivate plugin rest frames hs _ =>
    rcases eq_or_ne q plugin with rfl | hne
    · have hu' : u = [.deactivate q] := List.append_cancel_left (hu.symm.trans (by simp))
      exact .inl (by simp [hu'])
    · exact .inr (((hs ▸ ha).pass hne).cons _)
  | @skip plugin rest frames hs hunlinked =>
    exact .inr ((hs ▸ ha).pass fun he => by subst he; simp [hlq] at hunlinked)
  | deactivatePlugins _ => exact .inr (ha.cons _)
  | commitActivation success _ _ =>
    rw [commitPluginActivation_stack]
    split
    · exact .inr ha
    · exact .inr (ha.cons _)
  | commitDeactivation | unlink | link | op => exact .inr ha

end System

/-- A plugin linked when a failed activation is committed, which does not clear its link
afterwards, has been asked to deactivate after the failure once nothing of the actor's runs. -/
theorem linked_deactivated_after_failure [DecidableEq P] (identity : P → Nat) (plugins : List P)
    (before after : List (Label P)) (s₁ s : System P) (q r : P)
    (h₁ : (System.init identity plugins).run identity before = some s₁)
    (hq : s₁.linked q = true)
    (h : s₁.run identity (.commitActivation r false :: after) = some s)
    (hno : Label.unlink q ∉ after) (hs : s.stack = []) :
    ∃ t, s.actor.trace = s₁.actor.trace ++ .commitActivation r false :: t ∧
      Event.deactivate q ∈ t := by
  have hown := System.run_induction System.LinksOwn (fun _ _ _ hs m => hs.moves m) before _ s₁
    (System.LinksOwn.init identity plugins) h₁
  obtain ⟨s₂, h₂, hrun⟩ := Option.bind_eq_some.mp h
  cases System.step_moves h₂
  have ho := System.run_induction_of (fun l => l ≠ .unlink q) _
    (fun _ _ _ hl hs m => System.Owed.moves hs hl m) after (fun l hl he => hno (he ▸ hl)) _ s
    (System.Owed.start hown hq r) hrun
  obtain ⟨-, t, ht, hd | ⟨_, hm, _⟩⟩ := ho
  · exact ⟨t, by rw [ht, List.append_assoc]; rfl, hd⟩
  · rw [hs] at hm; cases hm

/-- Plugins `1` and `2` link themselves from inside `activate()`; `1` commits, and `2`, after
installing itself into the INIT slot, commits a failure: the cascade asks `2`, then `1`. -/
theorem linked_deactivated_after_failure_cascade :
    let before : List (Label Nat) := [.doInitialize, .advance, .link, .commitActivation 1 true,
      .ret, .advance, .link, .op (.installPlugin 2 .init)]
    let after : List (Label Nat) :=
      [.advance, .commitDeactivation 2, .ret, .advance, .ret, .advance, .ret, .advance]
    ∃ s₁ s, (System.init id [1, 2]).run id before = some s₁ ∧ s₁.linked 1 = true ∧
      s₁.run id (.commitActivation 2 false :: after) = some s ∧ Label.unlink 1 ∉ after ∧
      s.stack = [] ∧ ∃ t, s.actor.trace = s₁.actor.trace ++ .commitActivation 2 false :: t ∧
        Event.deactivate 1 ∈ t := by
  intro before after
  exact ⟨_, _, rfl, rfl, rfl, by simp [after], rfl,
    linked_deactivated_after_failure id [1, 2] before after _ _ 1 2 rfl rfl rfl (by simp [after])
      rfl⟩

/-- A failed activation can leave a plugin linked that is never asked to deactivate: `2`,
activated after a failure committed inside `activate()` of `1`; or `1` itself, when it commits
its failure before it sets its link. -/
theorem failure_leaves_plugin_linked :
    (∃ s : System Nat, (System.init id [1, 2]).run id [.doInitialize, .advance, .link,
        .commitActivation 1 false, .advance, .advance, .ret, .advance, .ret, .advance, .link,
        .commitActivation 2 true, .ret, .advance] = some s ∧
      s.stack = [] ∧ s.linked 2 = true ∧
      s.actor.trace = [.activate 1, .commitActivation 1 false, .deactivate 1, .activate 2,
        .commitActivation 2 true]) ∧
    (∃ s : System Nat, (System.init id [1]).run id [.doInitialize, .advance,
        .commitActivation 1 false, .advance, .advance, .link, .ret, .advance] = some s ∧
      s.stack = [] ∧ s.linked 1 = true ∧
      s.actor.trace = [.activate 1, .commitActivation 1 false]) :=
  ⟨⟨_, rfl, rfl, rfl, rfl⟩, ⟨_, rfl, rfl, rfl, rfl⟩⟩

end Rotor
