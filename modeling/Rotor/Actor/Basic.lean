import Mathlib.Data.Finset.Basic

/-!
# The data of `actor_base_t`

The fields of `actor_base_t` that its lifecycle and plugin code reads and writes
(`src/src/rotor/actor_base.cpp`), with the plugin slots and the two operations that
edit them, `install_plugin` and `uninstall_plugin`.

Plugins are the pointers `plugin_t *` held by the actor: a type `P` with decidable
equality, compared as `std::find` compares them. Their `identity()` tags are natural
numbers (`const void *`, with `0` for `nullptr`). Requests are named by their id.

What the actor does that the outside sees (its calls into plugins, the calls plugins make
into it, the messages it sends) is recorded in `trace`, oldest first. It is a history
variable: `actor_base_t` has no such field.
-/

namespace Rotor

/-- `state_t`: the lifecycle states of an actor, in the order the lifecycle visits them. -/
inductive State where
  | unknown
  | new
  | initializing
  | initialized
  | operational
  | shuttingDown
  | shuttedDown
  deriving DecidableEq, Repr

/-- Position of a state in the lifecycle order `NEW < INITIALIZING < ... < SHUTTED_DOWN`. -/
def State.rank : State → Nat
  | .unknown => 0
  | .new => 1
  | .initializing => 2
  | .initialized => 3
  | .operational => 4
  | .shuttingDown => 5
  | .shuttedDown => 6

lemma State.rank_le (s : State) : s.rank ≤ 6 := by
  cases s <;> decide

lemma State.rank_injective : Function.Injective State.rank := by
  intro s s' h
  cases s <;> cases s' <;> first | rfl | cases h

/-- `slot_t`: the four sequences a plugin can be installed into. -/
inductive Slot where
  | init
  | shutdown
  | subscription
  | unsubscription
  deriving DecidableEq, Repr

/-- `processing_result_t`: what a plugin answers to a (un)subscription message. -/
inductive ProcessingResult where
  | ignored
  | consumed
  | finished
  deriving DecidableEq, Repr

/-- The messages `actor_base_t` sends: the replies of `init_finish` and
`shutdown_finish` to the stored requests, and the trigger of `do_shutdown`. -/
inductive Message where
  | initializeConfirmation (request : Nat)
  | shutdownConfirmation (request : Nat)
  | shutdownTrigger
  deriving DecidableEq, Repr

/-- What the actor's plugins and supervisor can observe of it. -/
inductive Event (P : Type) where
  /-- `plugin->handle_init(...)` returned `done`. -/
  | handleInit (plugin : P) (done : Bool)
  /-- `plugin->handle_shutdown(...)` returned `done`. -/
  | handleShutdown (plugin : P) (done : Bool)
  /-- `install_plugin(plugin, slot)` was called. -/
  | installPlugin (plugin : P) (slot : Slot)
  /-- `plugin->activate(this)` was called. -/
  | activate (plugin : P)
  /-- `plugin->deactivate()` was called. -/
  | deactivate (plugin : P)
  /-- `commit_plugin_activation(plugin, success)` was called. -/
  | commitActivation (plugin : P) (success : Bool)
  /-- `commit_plugin_deactivation(plugin)` was called. -/
  | commitDeactivation (plugin : P)
  /-- The actor sent a message. -/
  | send (message : Message)
  deriving DecidableEq, Repr

variable {P : Type}

/-- The plugin an event installs into slot `s`, if it is such an event. -/
@[simp] def Event.installedInto (s : Slot) : Event P → Option P
  | .installPlugin plugin s' => if s' = s then some plugin else none
  | _ => none

/-- The plugins installed into slot `s` along a trace, in order. -/
def installed (s : Slot) (t : List (Event P)) : List P :=
  t.filterMap (Event.installedInto s)

@[simp] lemma installed_nil (s : Slot) : installed s ([] : List (Event P)) = [] := rfl

@[simp] lemma installed_cons (s : Slot) (e : Event P) (t : List (Event P)) :
    installed s (e :: t) = (e.installedInto s).toList ++ installed s t := by
  cases h : e.installedInto s <;>
    simp only [installed, List.filterMap_cons, h, Option.toList, List.nil_append,
      List.singleton_append]

@[simp] lemma installed_append (s : Slot) (t t' : List (Event P)) :
    installed s (t ++ t') = installed s t ++ installed s t' := List.filterMap_append _ _ _

/-- The fields of `actor_base_t` read by its lifecycle and plugin code. -/
structure ActorBase (P : Type) where
  state : State
  plugins : List P
  activatingPlugins : Finset Nat
  deactivatingPlugins : Finset Nat
  initPlugins : List P
  shutdownPlugins : List P
  subscriptionPlugins : List P
  unsubscriptionPlugins : List P
  initRequest : Option Nat
  shutdownRequest : Option Nat
  trace : List (Event P)

namespace ActorBase

/-- The constructor `actor_base_t(actor_config_t &cfg)`: state `NEW`, the configured plugins,
and the identity of each of them in `activating_plugins`. -/
def ofConfig (identity : P → Nat) (plugins : List P) : ActorBase P where
  state := .new
  plugins := plugins
  activatingPlugins := (plugins.map identity).toFinset
  deactivatingPlugins := ∅
  initPlugins := []
  shutdownPlugins := []
  subscriptionPlugins := []
  unsubscriptionPlugins := []
  initRequest := none
  shutdownRequest := none
  trace := []

/-- Append events to the trace. -/
def record (a : ActorBase P) (t : List (Event P)) : ActorBase P :=
  { a with trace := a.trace ++ t }

/-- The sequence behind a slot: the `switch (slot)` of `install_plugin`. -/
def slot (a : ActorBase P) : Slot → List P
  | .init => a.initPlugins
  | .shutdown => a.shutdownPlugins
  | .subscription => a.subscriptionPlugins
  | .unsubscription => a.unsubscriptionPlugins

/-- Replace the sequence behind a slot. -/
def setSlot (a : ActorBase P) : Slot → List P → ActorBase P
  | .init, l => { a with initPlugins := l }
  | .shutdown, l => { a with shutdownPlugins := l }
  | .subscription, l => { a with subscriptionPlugins := l }
  | .unsubscription, l => { a with unsubscriptionPlugins := l }

@[simp] lemma slot_init (a : ActorBase P) : a.slot .init = a.initPlugins := rfl
@[simp] lemma slot_shutdown (a : ActorBase P) : a.slot .shutdown = a.shutdownPlugins := rfl
@[simp] lemma slot_subscription (a : ActorBase P) :
    a.slot .subscription = a.subscriptionPlugins := rfl
@[simp] lemma slot_unsubscription (a : ActorBase P) :
    a.slot .unsubscription = a.unsubscriptionPlugins := rfl

@[simp] lemma slot_setSlot (a : ActorBase P) (s s' : Slot) (l : List P) :
    (a.setSlot s l).slot s' = if s' = s then l else a.slot s' := by
  cases s <;> cases s' <;> rfl

@[simp] lemma setSlot_slot (a : ActorBase P) (s : Slot) : a.setSlot s (a.slot s) = a := by
  cases s <;> rfl

@[simp] lemma setSlot_setSlot (a : ActorBase P) (s : Slot) (l l' : List P) :
    (a.setSlot s l).setSlot s l' = a.setSlot s l' := by
  cases s <;> rfl

section Frame

variable (a : ActorBase P) (s : Slot) (l : List P) (t : List (Event P))

@[simp] lemma setSlot_state : (a.setSlot s l).state = a.state := by cases s <;> rfl
@[simp] lemma setSlot_plugins : (a.setSlot s l).plugins = a.plugins := by cases s <;> rfl
@[simp] lemma setSlot_activatingPlugins :
    (a.setSlot s l).activatingPlugins = a.activatingPlugins := by cases s <;> rfl
@[simp] lemma setSlot_deactivatingPlugins :
    (a.setSlot s l).deactivatingPlugins = a.deactivatingPlugins := by cases s <;> rfl
@[simp] lemma setSlot_initRequest : (a.setSlot s l).initRequest = a.initRequest := by
  cases s <;> rfl
@[simp] lemma setSlot_shutdownRequest :
    (a.setSlot s l).shutdownRequest = a.shutdownRequest := by cases s <;> rfl
@[simp] lemma setSlot_trace : (a.setSlot s l).trace = a.trace := by cases s <;> rfl

@[simp] lemma record_trace : (a.record t).trace = a.trace ++ t := rfl
@[simp] lemma record_record (t' : List (Event P)) :
    (a.record t).record t' = a.record (t ++ t') := by
  simp [record]
@[simp] lemma record_nil : a.record [] = a := by simp [record]
@[simp] lemma record_state : (a.record t).state = a.state := rfl
@[simp] lemma record_slot : (a.record t).slot s = a.slot s := by cases s <;> rfl
@[simp] lemma record_initPlugins : (a.record t).initPlugins = a.initPlugins := rfl
@[simp] lemma record_shutdownPlugins : (a.record t).shutdownPlugins = a.shutdownPlugins := rfl
@[simp] lemma record_plugins : (a.record t).plugins = a.plugins := rfl
@[simp] lemma record_activatingPlugins :
    (a.record t).activatingPlugins = a.activatingPlugins := rfl
@[simp] lemma record_deactivatingPlugins :
    (a.record t).deactivatingPlugins = a.deactivatingPlugins := rfl
@[simp] lemma record_initRequest : (a.record t).initRequest = a.initRequest := rfl
@[simp] lemma record_shutdownRequest : (a.record t).shutdownRequest = a.shutdownRequest := rfl

end Frame

/-! ### `install_plugin` and `uninstall_plugin` -/

/-- `install_plugin(plugin, slot)`: `dest->emplace_back(&plugin)`. -/
def installPlugin (a : ActorBase P) (plugin : P) (s : Slot) : ActorBase P :=
  (a.setSlot s (a.slot s ++ [plugin])).record [.installPlugin plugin s]

/-- `dest->erase(it)` at position `i`. Erasing at `end()` is undefined behaviour, `none`. -/
def eraseAt (l : List P) (i : Nat) : Option (List P) :=
  if i < l.length then some (l.eraseIdx i) else none

/-- `uninstall_plugin(plugin, slot)`: `dest->erase(std::find(dest->begin(), dest->end(),
&plugin))`. `std::find` gives the first position holding `plugin`, or `end()`. -/
def uninstallPlugin [DecidableEq P] (a : ActorBase P) (plugin : P) (s : Slot) :
    Option (ActorBase P) :=
  (eraseAt (a.slot s) ((a.slot s).indexOf plugin)).map (a.setSlot s)

end ActorBase

end Rotor
