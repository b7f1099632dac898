import Rotor.Actor.Ops
import Mathlib.Logic.Function.Basic

/-!
# Activation and deactivation of plugins

`do_initialize` runs `activate_plugins`, which calls `activate(this)` on every plugin in list
order. A plugin answers with `commit_plugin_activation(plugin, success)`, either from inside
`activate` or later from one of its handlers; a failed commit runs `deactivate_plugins`, which
walks the plugins from the back and, for each one still linked to the actor (its `actor`
field set), inserts its identity into `deactivating_plugins` and calls `deactivate()`. The
plugin answers that with `commit_plugin_deactivation(plugin)`, again from inside the call or
later.

Every call into a plugin may call back into the actor, so the system keeps the actor's call
stack: the loops of `activate_plugins` and `deactivate_plugins` in progress with what they have
left, and the plugin callbacks in progress. The actor's code advances the innermost loop; while
a callback is on top, or nothing is running, the plugins may commit, call
`deactivate_plugins` or any other operation of the actor, and clear their link, in any order.
The actor never sets a link: a plugin sets its own from inside its callback.
-/

namespace Rotor

variable {P : Type}

/-- A call in progress on the actor's stack. -/
inductive Frame (P : Type) where
  /-- The loop of `activate_plugins`, with the plugins it has still to activate. -/
  | activating (rest : List P)
  /-- The loop of `deactivate_plugins`, with the plugins it has still to visit, last first. -/
  | deactivating (rest : List P)
  /-- A plugin's `activate(this)` or `deactivate()`. -/
  | callback (plugin : P)

/-- The plugins a frame still refers to. -/
def Frame.plugins : Frame P → List P
  | .activating rest => rest
  | .deactivating rest => rest
  | .callback plugin => [plugin]

/-! ### Where the frames stand -/

/-- Where a frame stands in the plugin list: the loop of `activate_plugins` has a suffix of it
still to visit, the loop of `deactivate_plugins` a suffix of it reversed, and a callback runs
on one of its plugins. -/
def Frame.Within (plugins : List P) : Frame P → Prop
  | .activating rest => rest <:+ plugins
  | .deactivating rest => rest <:+ plugins.reverse
  | .callback plugin => plugin ∈ plugins

lemma Frame.Within.mem {plugins : List P} {f : Frame P} (h : f.Within plugins) {q : P}
    (hq : q ∈ f.plugins) : q ∈ plugins := by
  cases f with
  | activating rest => exact h.subset hq
  | deactivating rest => exact List.mem_reverse.mp (h.subset hq)
  | callback p => rw [List.mem_singleton.mp hq]; exact h

/-- Every frame of the stack stands within `plugins`. -/
def FramesWithin (plugins : List P) (stack : List (Frame P)) : Prop :=
  ∀ f ∈ stack, f.Within plugins

lemma FramesWithin.cons_iff {plugins : List P} {f : Frame P} {frames : List (Frame P)} :
    FramesWithin plugins (f :: frames) ↔ f.Within plugins ∧ FramesWithin plugins frames :=
  List.forall_mem_cons

/-! ### The system -/

/-- The actor, the plugins' links to it, and its call stack, innermost call first. -/
structure System (P : Type) where
  actor : ActorBase P
  linked : P → Bool
  stack : List (Frame P)

/-- What happens next: the actor's code advances or a callback returns, or plugin code acts. -/
inductive Label (P : Type) where
  /-- The supervisor calls `do_initialize`. -/
  | doInitialize
  /-- The innermost loop of the actor runs one iteration. -/
  | advance
  /-- The innermost plugin callback returns. -/
  | ret
  /-- Plugin code calls `deactivate_plugins()`. -/
  | deactivatePlugins
  /-- Plugin code calls `commit_plugin_activation(plugin, success)`. -/
  | commitActivation (plugin : P) (success : Bool)
  /-- Plugin code calls `commit_plugin_deactivation(plugin)`. -/
  | commitDeactivation (plugin : P)
  /-- A plugin clears its `actor` field. -/
  | unlink (plugin : P)
  /-- The plugin whose callback is innermost sets its `actor` field. -/
  | link
  /-- Plugin code, or the supervisor while nothing of the actor's runs, calls one of the
  actor's operations. -/
  | op (o : Op P)

namespace System

variable (identity : P → Nat)

/-- After the constructor: no link, nothing running. -/
def init (plugins : List P) : System P :=
  ⟨ActorBase.ofConfig identity plugins, fun _ => false, []⟩

/-- Whether plugin code may run: nothing of the actor's is running, or a plugin callback is
innermost. -/
def pluginRuns (s : System P) : Bool :=
  match s.stack with
  | [] => true
  | .callback _ :: _ => true
  | _ => false

/-- `do_initialize`: start the loop of `activate_plugins`. -/
def doInitialize (s : System P) : System P := { s with stack := [.activating s.actor.plugins] }

/-- `deactivate_plugins`: start its loop from `plugins.rbegin()`. -/
def deactivatePlugins (s : System P) : System P :=
  { s with stack := .deactivating s.actor.plugins.reverse :: s.stack }

/-- `commit_plugin_activation(plugin, success)`: erase the identity on success, otherwise
`deactivate_plugins()`. -/
def commitPluginActivation (s : System P) (plugin : P) (success : Bool) : System P :=
  let s := { s with actor := s.actor.record [.commitActivation plugin success] }
  if success then
    { s with actor := { s.actor with
        activatingPlugins := s.actor.activatingPlugins.erase (identity plugin) } }
  else s.deactivatePlugins

/-- `commit_plugin_deactivation(plugin)`: erase the identity. -/
def commitPluginDeactivation (s : System P) (plugin : P) : System P :=
  { s with actor := { s.actor.record [.commitDeactivation plugin] with
      deactivatingPlugins := s.actor.deactivatingPlugins.erase (identity plugin) } }

section Frame

variable (s : System P) (plugin : P) (success : Bool)

@[simp] lemma doInitialize_actor : (s.doInitialize).actor = s.actor := rfl
@[simp] lemma doInitialize_linked : (s.doInitialize).linked = s.linked := rfl
@[simp] lemma deactivatePlugins_actor : (s.deactivatePlugins).actor = s.actor := rfl
@[simp] lemma deactivatePlugins_linked : (s.deactivatePlugins).linked = s.linked := rfl
@[simp] lemma deactivatePlugins_stack :
    (s.deactivatePlugins).stack = .deactivating s.actor.plugins.reverse :: s.stack := rfl

@[simp] lemma commitPluginActivation_plugins :
    (s.commitPluginActivation identity plugin success).actor.plugins = s.actor.plugins := by
  cases success <;> rfl
@[simp] lemma commitPluginActivation_trace :
    (s.commitPluginActivation identity plugin success).actor.trace =
      s.actor.trace ++ [.commitActivation plugin success] := by
  cases success <;> rfl
@[simp] lemma commitPluginActivation_linked :
    (s.commitPluginActivation identity plugin success).linked = s.linked := by
  cases success <;> rfl
@[simp] lemma commitPluginActivation_deactivatingPlugins :
    (s.commitPluginActivation identity plugin success).actor.deactivatingPlugins =
      s.actor.deactivatingPlugins := by
  cases success <;> rfl
@[simp] lemma commitPluginActivation_activatingPlugins :
    (s.commitPluginActivation identity plugin success).actor.activatingPlugins =
      if success then s.actor.activatingPlugins.erase (identity plugin)
      else s.actor.activatingPlugins := by
  cases success <;> rfl
@[simp] lemma commitPluginActivation_stack :
    (s.commitPluginActivation identity plugin success).stack =
      if success then s.stack else .deactivating s.actor.plugins.reverse :: s.stack := by
  cases success <;> rfl

@[simp] lemma commitPluginDeactivation_plugins :
    (s.commitPluginDeactivation identity plugin).actor.plugins = s.actor.plugins := rfl
@[simp] lemma commitPluginDeactivation_trace :
    (s.commitPluginDeactivation identity plugin).actor.trace =
      s.actor.trace ++ [.commitDeactivation plugin] := rfl
@[simp] lemma commitPluginDeactivation_linked :
    (s.commitPluginDeactivation identity plugin).linked = s.linked := rfl
@[simp] lemma commitPluginDeactivation_activatingPlugins :
    (s.commitPluginDeactivation identity plugin).actor.activatingPlugins =
      s.actor.activatingPlugins := rfl
@[simp] lemma commitPluginDeactivation_deactivatingPlugins :
    (s.commitPluginDeactivation identity plugin).actor.deactivatingPlugins =
      s.actor.deactivatingPlugins.erase (identity plugin) := rfl
@[simp] lemma commitPluginDeactivation_stack :
    (s.commitPluginDeactivation identity plugin).stack = s.stack := rfl

end Frame

variable [DecidableEq P]

/-- One iteration of the innermost loop. `activate_plugins` calls `plugin->activate(this)`.
`deactivate_plugins` skips a plugin that is not linked, and otherwise inserts its identity into
`deactivating_plugins` before calling `plugin->deactivate()`. -/
def advance (s : System P) : Option (System P) :=
  match s.stack with
  | .activating (plugin :: rest) :: frames =>
    some { s with
      actor := s.actor.record [.activate plugin]
      stack := .callback plugin :: .activating rest :: frames }
  | .activating [] :: frames => some { s with stack := frames }
  | .deactivating (plugin :: rest) :: frames =>
    if s.linked plugin then
      some { s with
        actor := { s.actor.record [.deactivate plugin] with
          deactivatingPlugins := insert (identity plugin) s.actor.deactivatingPlugins }
        stack := .callback plugin :: .deactivating rest :: frames }
    else some { s with stack := .deactivating rest :: frames }
  | .deactivating [] :: frames => some { s with stack := frames }
  | _ => none

/-- One step; `none` when the label cannot happen now. Only the actor's own plugins commit. -/
def step (s : System P) : Label P → Option (System P)
  | .doInitialize => if s.stack.isEmpty then some s.doInitialize else none
  | .advance => s.advance identity
  | .ret =>
    match s.stack with
    | .callback _ :: frames => some { s with stack := frames }
    | _ => none
  | .deactivatePlugins => if s.pluginRuns then some s.deactivatePlugins else none
  | .commitActivation plugin success =>
    if s.pluginRuns ∧ plugin ∈ s.actor.plugins then
      some (s.commitPluginActivation identity plugin success)
    else none
  | .commitDeactivation plugin =>
    if s.pluginRuns ∧ plugin ∈ s.actor.plugins then
      some (s.commitPluginDeactivation identity plugin)
    else none
  | .unlink plugin =>
    if s.pluginRuns then some { s with linked := Function.update s.linked plugin false }
    else none
  | .link =>
    match s.stack with
    | .callback plugin :: _ => some { s with linked := Function.update s.linked plugin true }
    | _ => none
  | .op o => if s.pluginRuns then (o.exec s.actor).map fun a => { s with actor := a } else none

/-- A run: the steps of the labels in order; `none` when one cannot happen. -/
def run (s : System P) : List (Label P) → Option (System P)
  | [] => some s
  | l :: ls => (s.step identity l).bind (·.run ls)

@[simp] lemma run_nil (s : System P) : s.run identity [] = some s := rfl
@[simp] lemma run_cons (s : System P) (l : Label P) (ls : List (Label P)) :
    s.run identity (l :: ls) = (s.step identity l).bind (·.run identity ls) := rfl

lemma run_append (l l' : List (Label P)) : ∀ s : System P,
    s.run identity (l ++ l') = (s.run identity l).bind (·.run identity l') := by
  induction l with
  | nil => intro s; rfl
  | cons x l ih => intro s; simp only [List.cons_append, run_cons, ih, Option.bind_assoc]

lemma run_doInitialize {s : System P} (hs : s.stack = []) (ls : List (Label P)) :
    s.run identity (.doInitialize :: ls) = s.doInitialize.run identity ls := by
  rw [run_cons, step, if_pos (List.isEmpty_iff.mpr hs), Option.some_bind]

lemma run_deactivatePlugins {s : System P} (hr : s.pluginRuns = true) (ls : List (Label P)) :
    s.run identity (.deactivatePlugins :: ls) = s.deactivatePlugins.run identity ls := by
  rw [run_cons, step, if_pos hr, Option.some_bind]

/-- With nothing of the actor's running, a run of operations inside the machine is the run of
the operations on the actor alone. -/
lemma run_ops (ops : List (Op P)) : ∀ s : System P, s.stack = [] →
    s.run identity (ops.map .op) = (s.actor.runOps ops).map fun a => { s with actor := a } := by
  induction ops with
  | nil => intro s _; rfl
  | cons o ops ih =>
    intro s hs
    have hr : s.pluginRuns = true := by simp [pluginRuns, hs]
    rw [List.map_cons, run_cons, step, if_pos hr, ActorBase.runOps_cons]
    cases o.exec s.actor with
    | none => rfl
    | some a => exact ih { s with actor := a } hs

/-! ### What a step can do -/

variable {identity} {s s' : System P} {l : Label P}

/-- Every step is one of these, under its label. -/
inductive Moves (identity : P → Nat) (s : System P) : Label P → System P → Prop where
  | doInitialize (h : s.stack = []) : Moves identity s .doInitialize s.doInitialize
  | activate {plugin rest frames} (h : s.stack = .activating (plugin :: rest) :: frames) :
      Moves identity s .advance { s with
        actor := s.actor.record [.activate plugin]
        stack := .callback plugin :: .activating rest :: frames }
  | activatingDone {frames} (h : s.stack = .activating [] :: frames) :
      Moves identity s .advance { s with stack := frames }
  | deactivate {plugin rest frames} (h : s.stack = .deactivating (plugin :: rest) :: frames)
      (hl : s.linked plugin = true) :
      Moves identity s .advance { s with
        actor := { s.actor.record [.deactivate plugin] with
          deactivatingPlugins := insert (identity plugin) s.actor.deactivatingPlugins }
        stack := .callback plugin :: .deactivating rest :: frames }
  | skip {plugin rest frames} (h : s.stack = .deactivating (plugin :: rest) :: frames)
      (hl : s.linked plugin = false) :
      Moves identity s .advance { s with stack := .deactivating rest :: frames }
  | deactivatingDone {frames} (h : s.stack = .deactivating [] :: frames) :
      Moves identity s .advance { s with stack := frames }
  | ret {plugin frames} (h : s.stack = .callback plugin :: frames) :
      Moves identity s .ret { s with stack := frames }
  | deactivatePlugins (h : s.pluginRuns = true) :
      Moves identity s .deactivatePlugins s.deactivatePlugins
  | commitActivation {plugin} (success : Bool) (h : s.pluginRuns = true)
      (hp : plugin ∈ s.actor.plugins) :
      Moves identity s (.commitActivation plugin success)
        (s.commitPluginActivation identity plugin success)
  | commitDeactivation {plugin} (h : s.pluginRuns = true) (hp : plugin ∈ s.actor.plugins) :
      Moves identity s (.commitDeactivation plugin) (s.commitPluginDeactivation identity plugin)
  | unlink {plugin} (h : s.pluginRuns = true) :
      Moves identity s (.unlink plugin) { s with linked := Function.update s.linked plugin false }
  | link {plugin frames} (h : s.stack = .callback plugin :: frames) :
      Moves identity s .link { s with linked := Function.update s.linked plugin true }
  | op {o a} (h : s.pluginRuns = true) (ho : o.exec s.actor = some a) :
      Moves identity s (.op o) { s with actor := a }

lemma advance_moves (h : s.advance identity = some s') : Moves identity s .advance s' := by
  unfold advance at h
  split at h
  · next h₁ => cases h; exact .activate h₁
  · next h₁ => cases h; exact .activatingDone h₁
  · next h₁ =>
    split at h
    · next hl => cases h; exact .deactivate h₁ hl
    · next hl => cases h; exact .skip h₁ (by simpa using hl)
  · next h₁ => cases h; exact .deactivatingDone h₁
  · cases h

lemma step_moves (h : s.step identity l = some s') : Moves identity s l s' := by
  cases l with
  | advance => exact advance_moves h
  | ret | link =>
    simp only [step] at h
    split at h
    · next h₁ => cases h; first | exact .ret h₁ | exact .link h₁
    · cases h
  | doInitialize =>
    obtain ⟨h₁, ⟨⟩⟩ := Option.ite_none_right_eq_some.mp h
    exact .doInitialize (List.isEmpty_iff.mp h₁)
  | deactivatePlugins =>
    obtain ⟨h₁, ⟨⟩⟩ := Option.ite_none_right_eq_some.mp h
    exact .deactivatePlugins h₁
  | commitActivation plugin success =>
    obtain ⟨⟨h₁, h₂⟩, ⟨⟩⟩ := Option.ite_none_right_eq_some.mp h
    exact .commitActivation success h₁ h₂
  | commitDeactivation plugin =>
    obtain ⟨⟨h₁, h₂⟩, ⟨⟩⟩ := Option.ite_none_right_eq_some.mp h
    exact .commitDeactivation h₁ h₂
  | unlink plugin =>
    obtain ⟨h₁, ⟨⟩⟩ := Option.ite_none_right_eq_some.mp h
    exact .unlink h₁
  | op o =>
    obtain ⟨h₁, h₂⟩ := Option.ite_none_right_eq_some.mp h
    obtain ⟨a, ha, rfl⟩ := Option.map_eq_some'.mp h₂
    exact .op h₁ ha

/-- No step changes the plugin list. -/
lemma Moves.plugins_eq (m : Moves identity s l s') : s'.actor.plugins = s.actor.plugins := by
  cases m with
  | commitActivation success => exact commitPluginActivation_plugins identity s _ success
  | op _ ho => exact (Op.exec_untouched ho).choose_spec.plugins
  | _ => rfl

/-- No step takes an event back from the trace. -/
lemma Moves.trace_grows (m : Moves identity s l s') :
    ∃ u, s'.actor.trace = s.actor.trace ++ u := by
  cases m with
  | activate | deactivate | commitActivation | commitDeactivation =>
    exact ⟨_, by simp only [ActorBase.record_trace, commitPluginActivation_trace,
      commitPluginDeactivation_trace]; rfl⟩
  | op _ ho => exact ⟨_, (Op.exec_untouched ho).choose_spec.trace⟩
  | _ => exact ⟨[], by simp⟩

/-- Every step keeps the frames within the plugin list: the loops move along it, the callbacks
they push are on the plugins they reach, and a fresh `deactivate_plugins` starts from its
back. -/
lemma Moves.framesWithin (m : Moves identity s l s')
    (h : FramesWithin s.actor.plugins s.stack) : FramesWithin s.actor.plugins s'.stack := by
  cases m with
  | doInitialize hs => exact FramesWithin.cons_iff.mpr ⟨List.suffix_refl _, by simp [FramesWithin]⟩
  | activate hs =>
    rw [hs, FramesWithin.cons_iff] at h
    exact FramesWithin.cons_iff.mpr ⟨h.1.subset (List.mem_cons_self _ _),
      FramesWithin.cons_iff.mpr ⟨(List.suffix_cons _ _).trans h.1, h.2⟩⟩
  | deactivate hs hl =>
    rw [hs, FramesWithin.cons_iff] at h
    exact FramesWithin.cons_iff.mpr ⟨List.mem_reverse.mp (h.1.subset (List.mem_cons_self _ _)),
      FramesWithin.cons_iff.mpr ⟨(List.suffix_cons _ _).trans h.1, h.2⟩⟩
  | skip hs hl =>
    rw [hs, FramesWithin.cons_iff] at h
    exact FramesWithin.cons_iff.mpr ⟨(List.suffix_cons _ _).trans h.1, h.2⟩
  | activatingDone hs | deactivatingDone hs | ret hs =>
    rw [hs] at h
    exact (FramesWithin.cons_iff.mp h).2
  | deactivatePlugins hr => exact FramesWithin.cons_iff.mpr ⟨List.suffix_refl _, h⟩
  | commitActivation success hr hp =>
    cases success
    · exact FramesWithin.cons_iff.mpr ⟨List.suffix_refl _, h⟩
    · exact h
  | commitDeactivation hr hp | unlink hr | link hs | op hr ho => exact h

/-- An invariant kept by every step whose label is `Good` holds after every run of `Good`
labels. -/
lemma run_induction_of (Good : Label P → Prop) (Inv : System P → Prop)
    (hstep : ∀ s l s', Good l → Inv s → Moves identity s l s' → Inv s')
    (labels : List (Label P)) (hgood : ∀ l ∈ labels, Good l) :
    ∀ s s', Inv s → s.run identity labels = some s' → Inv s' := by
  induction labels with
  | nil => intro s s' hs h; cases h; exact hs
  | cons l ls ih =>
    intro s s' hs h
    obtain ⟨s₁, h₁, h₂⟩ := Option.bind_eq_some.mp h
    exact ih (fun l' hl' => hgood l' (List.mem_cons_of_mem _ hl')) s₁ s'
      (hstep s l s₁ (hgood l (List.mem_cons_self _ _)) hs (step_moves h₁)) h₂

/-- An invariant kept by every step holds after every run. -/
lemma run_induction (Inv : System P → Prop)
    (hstep : ∀ s l s', Inv s → Moves identity s l s' → Inv s')
    (labels : List (Label P)) : ∀ s s', Inv s → s.run identity labels = some s' → Inv s' :=
  run_induction_of (fun _ => True) Inv (fun s l s' _ => hstep s l s') labels fun _ _ => trivial

end System

end Rotor
