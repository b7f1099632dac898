import Rotor.Actor.Basic

/-!
# Lifecycle entry points of `actor_base_t`

`init_start`, `init_continue`, `init_finish`, `on_start`, `shutdown_start`,
`shutdown_continue`, `shutdown_finish` and `do_shutdown`. A failed `assert`, and
`reply_to(*init_request)` on an empty `init_request`, leave the behaviour undefined: the
operation returns `none`.

A plugin's `handle_init` and `handle_shutdown` are foreign code. One call of
`init_continue` or `shutdown_continue` is given what its successive `handle_*` calls do,
as a list of `Answer`s: the `install_plugin` calls each makes and the value it returns.
Once the list is used up, every plugin answers `false`. Every call that returns is the
call for some such list.
-/

namespace Rotor

variable {P : Type}

/-- What one call of a plugin's `handle_init` or `handle_shutdown` does: its
`install_plugin(plugin, slot)` calls, in order, and its result. -/
structure Answer (P : Type) where
  installs : List (P × Slot) := []
  done : Bool := false

instance : Inhabited (Answer P) := ⟨{}⟩

@[simp] lemma Answer.default_installs : (default : Answer P).installs = [] := rfl
@[simp] lemma Answer.default_done : (default : Answer P).done = false := rfl

/-- The message an event sends, if it is a send. -/
@[simp] def Event.sentMessage : Event P → Option Message
  | .send m => some m
  | _ => none

/-- The messages sent along a trace, in order. -/
def sent (t : List (Event P)) : List Message := t.filterMap Event.sentMessage

@[simp] lemma sent_nil : sent ([] : List (Event P)) = [] := rfl
@[simp] lemma sent_cons (e : Event P) (t : List (Event P)) :
    sent (e :: t) = e.sentMessage.toList ++ sent t := by
  cases h : e.sentMessage <;>
    simp only [sent, List.filterMap_cons, h, Option.toList, List.nil_append, List.singleton_append]
@[simp] lemma sent_append (t t' : List (Event P)) : sent (t ++ t') = sent t ++ sent t' :=
  List.filterMap_append _ _ _

/-- The trace of a list of `install_plugin` calls. -/
def installEvents (installs : List (P × Slot)) : List (Event P) :=
  installs.map fun i => .installPlugin i.1 i.2

namespace ActorBase

/-! ### The state setters -/

/-- `init_start`: `state = state_t::INITIALIZING`. -/
def initStart (a : ActorBase P) : ActorBase P := { a with state := .initializing }

/-- `init_finish`: reply to the stored init request, drop it, `state = INITIALIZED`. -/
def initFinish (a : ActorBase P) : Option (ActorBase P) :=
  a.initRequest.map fun r =>
    { a.record [.send (.initializeConfirmation r)] with
      initRequest := none, state := .initialized }

/-- `on_start`: `state = state_t::OPERATIONAL`. -/
def onStart (a : ActorBase P) : ActorBase P := { a with state := .operational }

/-- `shutdown_start`: `state = state_t::SHUTTING_DOWN`. -/
def shutdownStart (a : ActorBase P) : ActorBase P := { a with state := .shuttingDown }

/-- `shutdown_finish`: reply to the shutdown request if there is one (the root supervisor
has none), then `state = SHUTTED_DOWN`. -/
def shutdownFinish (a : ActorBase P) : ActorBase P :=
  match a.shutdownRequest with
  | some r =>
    { a.record [.send (.shutdownConfirmation r)] with
      shutdownRequest := none, state := .shuttedDown }
  | none => { a with state := .shuttedDown }

/-- `do_shutdown`: asserts the actor is neither `NEW` nor `UNKNOWN`, and sends a
`shutdown_trigger` to its supervisor. -/
def doShutdown (a : ActorBase P) : Option (ActorBase P) :=
  if a.state ≠ .new ∧ a.state ≠ .unknown then some (a.record [.send .shutdownTrigger])
  else none

/-! ### The plugin loops -/

/-- The `install_plugin` calls a handler makes. -/
def installAll (a : ActorBase P) (installs : List (P × Slot)) : ActorBase P :=
  installs.foldl (fun a i => a.installPlugin i.1 i.2) a

/-- `plugin->handle_init(init_request.get())`, doing what `ans` says. -/
def handleInit (a : ActorBase P) (plugin : P) (ans : Answer P) : ActorBase P :=
  (a.installAll ans.installs).record [.handleInit plugin ans.done]

/-- `plugin->handle_shutdown(shutdown_request.get())`, doing what `ans` says. -/
def handleShutdown (a : ActorBase P) (plugin : P) (ans : Answer P) : ActorBase P :=
  (a.installAll ans.installs).record [.handleShutdown plugin ans.done]

/-- `init_plugins.pop_front()`. -/
def popInit (a : ActorBase P) : ActorBase P := { a with initPlugins := a.initPlugins.tail }

/-- `shutdown_plugins.pop_back()`. -/
def popShutdown (a : ActorBase P) : ActorBase P :=
  { a with shutdownPlugins := a.shutdownPlugins.dropLast }

/-- The `while` loop of `init_continue`: ask the front plugin, pop the front when it
answers `true`, stop at the first `false`. -/
def initLoop (a : ActorBase P) (answers : List (Answer P)) : ActorBase P :=
  match a.initPlugins, answers with
  | [], _ => a
  | plugin :: _, [] => a.handleInit plugin default
  | plugin :: _, ans :: rest =>
    if ans.done then (a.handleInit plugin ans).popInit.initLoop rest
    else a.handleInit plugin ans

/-- The `while` loop of `shutdown_continue`: ask the back plugin, pop the back when it
answers `true`, stop at the first `false`. -/
def shutdownLoop (a : ActorBase P) (answers : List (Answer P)) : ActorBase P :=
  match a.shutdownPlugins.getLast?, answers with
  | none, _ => a
  | some plugin, [] => a.handleShutdown plugin default
  | some plugin, ans :: rest =>
    if ans.done then (a.handleShutdown plugin ans).popShutdown.shutdownLoop rest
    else a.handleShutdown plugin ans

/-- `init_continue`: asserts `INITIALIZING`, runs the loop, and calls `init_finish` once
`init_plugins` is empty. -/
def initContinue (a : ActorBase P) (answers : List (Answer P)) : Option (ActorBase P) :=
  if a.state = .initializing then
    let a := a.initLoop answers
    if a.initPlugins.isEmpty then a.initFinish else some a
  else none

/-- `shutdown_continue`: asserts `SHUTTING_DOWN`, runs the loop, and calls
`shutdown_finish` once `shutdown_plugins` is empty. -/
def shutdownContinue (a : ActorBase P) (answers : List (Answer P)) : Option (ActorBase P) :=
  if a.state = .shuttingDown then
    let a := a.shutdownLoop answers
    some (if a.shutdownPlugins.isEmpty then a.shutdownFinish else a)
  else none

/-! ### Frame lemmas -/

section Frame

variable (a : ActorBase P) (plugin : P) (s : Slot) (ans : Answer P)
  (installs : List (P × Slot))

@[simp] lemma installPlugin_state : (a.installPlugin plugin s).state = a.state := by
  simp [installPlugin]
@[simp] lemma installPlugin_slot (s' : Slot) :
    (a.installPlugin plugin s).slot s' =
      if s' = s then a.slot s ++ [plugin] else a.slot s' := by
  simp [installPlugin]
@[simp] lemma installPlugin_initRequest :
    (a.installPlugin plugin s).initRequest = a.initRequest := by simp [installPlugin]
@[simp] lemma installPlugin_shutdownRequest :
    (a.installPlugin plugin s).shutdownRequest = a.shutdownRequest := by simp [installPlugin]
@[simp] lemma installPlugin_trace :
    (a.installPlugin plugin s).trace = a.trace ++ [.installPlugin plugin s] := by
  simp [installPlugin]

@[simp] lemma installAll_state : (a.installAll installs).state = a.state := by
  induction installs generalizing a <;> simp_all [installAll]
@[simp] lemma installAll_initRequest :
    (a.installAll installs).initRequest = a.initRequest := by
  induction installs generalizing a <;> simp_all [installAll]
@[simp] lemma installAll_shutdownRequest :
    (a.installAll installs).shutdownRequest = a.shutdownRequest := by
  induction installs generalizing a <;> simp_all [installAll]
@[simp] lemma installAll_plugins : (a.installAll installs).plugins = a.plugins := by
  induction installs generalizing a <;> simp_all [installAll, installPlugin]
@[simp] lemma installAll_activatingPlugins :
    (a.installAll installs).activatingPlugins = a.activatingPlugins := by
  induction installs generalizing a <;> simp_all [installAll, installPlugin]
@[simp] lemma installAll_deactivatingPlugins :
    (a.installAll installs).deactivatingPlugins = a.deactivatingPlugins := by
  induction installs generalizing a <;> simp_all [installAll, installPlugin]
@[simp] lemma installAll_trace :
    (a.installAll installs).trace = a.trace ++ installEvents installs := by
  induction installs generalizing a <;> simp_all [installAll, installEvents]

/-- The `install_plugin` calls of a handler append to each slot what they install there. -/
@[simp] lemma installAll_slot (s' : Slot) :
    (a.installAll installs).slot s' = a.slot s' ++ installed s' (installEvents installs) := by
  induction installs generalizing a with
  | nil => simp [installAll, installEvents]
  | cons i is ih =>
    simp only [installAll, installEvents, List.foldl_cons, List.map_cons] at ih ⊢
    rw [ih]
    by_cases h : s' = i.2
    · subst h; simp
    · simp [h, Ne.symm h]

@[simp] lemma installAll_initPlugins : (a.installAll installs).initPlugins =
    a.initPlugins ++ installed .init (installEvents installs) := installAll_slot a installs .init
@[simp] lemma installAll_shutdownPlugins : (a.installAll installs).shutdownPlugins =
    a.shutdownPlugins ++ installed .shutdown (installEvents installs) :=
  installAll_slot a installs .shutdown

@[simp] lemma handleInit_state : (a.handleInit plugin ans).state = a.state := by
  simp [handleInit]
@[simp] lemma handleInit_initRequest :
    (a.handleInit plugin ans).initRequest = a.initRequest := by simp [handleInit]
@[simp] lemma handleInit_slot :
    (a.handleInit plugin ans).slot s = a.slot s ++ installed s (installEvents ans.installs) := by
  simp [handleInit]
@[simp] lemma handleInit_initPlugins : (a.handleInit plugin ans).initPlugins =
    a.initPlugins ++ installed .init (installEvents ans.installs) := by
  simp [handleInit]
@[simp] lemma handleInit_shutdownPlugins : (a.handleInit plugin ans).shutdownPlugins =
    a.shutdownPlugins ++ installed .shutdown (installEvents ans.installs) := by
  simp [handleInit]
@[simp] lemma handleInit_trace : (a.handleInit plugin ans).trace =
    a.trace ++ (installEvents ans.installs ++ [.handleInit plugin ans.done]) := by
  simp [handleInit]

@[simp] lemma handleShutdown_state : (a.handleShutdown plugin ans).state = a.state := by
  simp [handleShutdown]
@[simp] lemma handleShutdown_shutdownRequest :
    (a.handleShutdown plugin ans).shutdownRequest = a.shutdownRequest := by
  simp [handleShutdown]
@[simp] lemma handleShutdown_slot : (a.handleShutdown plugin ans).slot s =
    a.slot s ++ installed s (installEvents ans.installs) := by
  simp [handleShutdown]
@[simp] lemma handleShutdown_initPlugins : (a.handleShutdown plugin ans).initPlugins =
    a.initPlugins ++ installed .init (installEvents ans.installs) := by
  simp [handleShutdown]
@[simp] lemma handleShutdown_shutdownPlugins : (a.handleShutdown plugin ans).shutdownPlugins =
    a.shutdownPlugins ++ installed .shutdown (installEvents ans.installs) := by
  simp [handleShutdown]
@[simp] lemma handleShutdown_trace : (a.handleShutdown plugin ans).trace =
    a.trace ++ (installEvents ans.installs ++ [.handleShutdown plugin ans.done]) := by
  simp [handleShutdown]

@[simp] lemma popInit_initPlugins : a.popInit.initPlugins = a.initPlugins.tail := rfl
@[simp] lemma popInit_state : a.popInit.state = a.state := rfl
@[simp] lemma popInit_initRequest : a.popInit.initRequest = a.initRequest := rfl
@[simp] lemma popInit_trace : a.popInit.trace = a.trace := rfl

@[simp] lemma popShutdown_shutdownPlugins :
    a.popShutdown.shutdownPlugins = a.shutdownPlugins.dropLast := rfl
@[simp] lemma popShutdown_state : a.popShutdown.state = a.state := rfl
@[simp] lemma popShutdown_shutdownRequest :
    a.popShutdown.shutdownRequest = a.shutdownRequest := rfl
@[simp] lemma popShutdown_trace : a.popShutdown.trace = a.trace := rfl

@[simp] lemma shutdownFinish_state : a.shutdownFinish.state = .shuttedDown := by
  unfold shutdownFinish; split <;> rfl
@[simp] lemma shutdownFinish_shutdownRequest : a.shutdownFinish.shutdownRequest = none := by
  unfold shutdownFinish; split <;> simp_all
@[simp] lemma shutdownFinish_shutdownPlugins :
    a.shutdownFinish.shutdownPlugins = a.shutdownPlugins := by
  unfold shutdownFinish; split <;> rfl
@[simp] lemma shutdownFinish_trace : a.shutdownFinish.trace =
    a.trace ++ a.shutdownRequest.toList.map fun r => .send (.shutdownConfirmation r) := by
  unfold shutdownFinish; split <;> simp_all

end Frame

@[simp] lemma sent_installEvents (installs : List (P × Slot)) :
    sent (installEvents installs) = [] := by
  induction installs <;> simp_all [installEvents]

/-! ### One equation per branch of the loops -/

section Loops

variable {a : ActorBase P} {plugin : P} {rest : List P} {ans : Answer P}
  {answers : List (Answer P)}

lemma initLoop_empty (h : a.initPlugins = []) : a.initLoop answers = a := by
  conv_lhs => unfold initLoop
  rw [h]

lemma initLoop_nil (h : a.initPlugins = plugin :: rest) :
    a.initLoop [] = a.handleInit plugin default := by
  conv_lhs => unfold initLoop
  rw [h]

lemma initLoop_cons (h : a.initPlugins = plugin :: rest) :
    a.initLoop (ans :: answers) =
      if ans.done then (a.handleInit plugin ans).popInit.initLoop answers
      else a.handleInit plugin ans := by
  conv_lhs => unfold initLoop
  rw [h]

lemma shutdownLoop_empty (h : a.shutdownPlugins = []) : a.shutdownLoop answers = a := by
  conv_lhs => unfold shutdownLoop
  rw [h]; rfl

lemma shutdownLoop_nil (h : a.shutdownPlugins.getLast? = some plugin) :
    a.shutdownLoop [] = a.handleShutdown plugin default := by
  conv_lhs => unfold shutdownLoop
  rw [h]

lemma shutdownLoop_cons (h : a.shutdownPlugins.getLast? = some plugin) :
    a.shutdownLoop (ans :: answers) =
      if ans.done then (a.handleShutdown plugin ans).popShutdown.shutdownLoop answers
      else a.handleShutdown plugin ans := by
  conv_lhs => unfold shutdownLoop
  rw [h]

/-- A property kept by every `handle_init` call and every `pop_front` is kept by the loop of
`init_continue`. -/
lemma initLoop_induction (motive : ActorBase P → Prop)
    (hask : ∀ b plugin ans, motive b → motive (b.handleInit plugin ans))
    (hpop : ∀ b, motive b → motive b.popInit) (a : ActorBase P) (answers : List (Answer P))
    (ha : motive a) : motive (a.initLoop answers) := by
  induction answers generalizing a with
  | nil =>
    cases h : a.initPlugins with
    | nil => rwa [initLoop_empty h]
    | cons p ps => rw [initLoop_nil h]; exact hask _ _ _ ha
  | cons ans rest ih =>
    cases h : a.initPlugins with
    | nil => rwa [initLoop_empty h]
    | cons p ps =>
      rw [initLoop_cons h]
      split
      · exact ih _ (hpop _ (hask _ _ _ ha))
      · exact hask _ _ _ ha

/-- A property kept by every `handle_shutdown` call and every `pop_back` is kept by the loop of
`shutdown_continue`. -/
lemma shutdownLoop_induction (motive : ActorBase P → Prop)
    (hask : ∀ b plugin ans, motive b → motive (b.handleShutdown plugin ans))
    (hpop : ∀ b, motive b → motive b.popShutdown) (a : ActorBase P) (answers : List (Answer P))
    (ha : motive a) : motive (a.shutdownLoop answers) := by
  induction answers generalizing a with
  | nil =>
    cases h : a.shutdownPlugins.getLast? with
    | none => rwa [shutdownLoop_empty (List.getLast?_eq_none_iff.mp h)]
    | some p => rw [shutdownLoop_nil h]; exact hask _ _ _ ha
  | cons ans rest ih =>
    cases h : a.shutdownPlugins.getLast? with
    | none => rwa [shutdownLoop_empty (List.getLast?_eq_none_iff.mp h)]
    | some p =>
      rw [shutdownLoop_cons h]
      split
      · exact ih _ (hpop _ (hask _ _ _ ha))
      · exact hask _ _ _ ha

variable (a : ActorBase P) (answers : List (Answer P))

@[simp] lemma initLoop_state : (a.initLoop answers).state = a.state :=
  initLoop_induction (fun b => b.state = a.state) (fun _ _ _ h => by simp [h])
    (fun _ h => by simp [h]) a answers rfl

@[simp] lemma initLoop_initRequest : (a.initLoop answers).initRequest = a.initRequest :=
  initLoop_induction (fun b => b.initRequest = a.initRequest) (fun _ _ _ h => by simp [h])
    (fun _ h => by simp [h]) a answers rfl

@[simp] lemma shutdownLoop_state : (a.shutdownLoop answers).state = a.state :=
  shutdownLoop_induction (fun b => b.state = a.state) (fun _ _ _ h => by simp [h])
    (fun _ h => by simp [h]) a answers rfl

@[simp] lemma shutdownLoop_shutdownRequest :
    (a.shutdownLoop answers).shutdownRequest = a.shutdownRequest :=
  shutdownLoop_induction (fun b => b.shutdownRequest = a.shutdownRequest)
    (fun _ _ _ h => by simp [h]) (fun _ h => by simp [h]) a answers rfl

end Loops

end ActorBase

end Rotor
