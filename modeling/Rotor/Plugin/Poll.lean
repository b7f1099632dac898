import Rotor.Actor.Basic

/-!
# Polling the subscription slots

`poll` walks a slot with a reverse iterator, from its last entry towards its first. An entry
that answers `IGNORED` is stepped over, one that answers `FINISHED` is erased and the iterator
is rebuilt from the one `erase` returns, and the first `CONSUMED` ends the walk. The loop is
equal to a reference fold over the reversed slot (`pollSpec`): every entry is asked once, from
the last, up to and including the first `CONSUMED`, and exactly the `FINISHED` ones are gone.
-/

namespace Rotor

variable {P : Type}

/-- The loop of `poll` from the reverse iterator whose `base()` is at position `base`.
`it = --rit.base()` is the entry at `base - 1`. `++rit` moves `base()` one step towards the
front; after `it = plugins.erase(it)` the rebuilt `rit = std::reverse_iterator(it)` has its
`base()` at the erased position, `base - 1` as well. Returns the slot and the entries `fn` was
called on, in order. -/
def pollFrom (fn : P → ProcessingResult) : List P → Nat → List P × List P
  | plugins, 0 => (plugins, [])
  | plugins, base + 1 =>
    match plugins[base]? with
    | none => (plugins, [])
    | some plugin =>
      match fn plugin with
      | .ignored =>
        let r := pollFrom fn plugins base
        (r.1, plugin :: r.2)
      | .consumed => (plugins, [plugin])
      | .finished =>
        let r := pollFrom fn (plugins.eraseIdx base) base
        (r.1, plugin :: r.2)

/-- `poll(plugins, message, fn)`: the loop from `rbegin()`, whose `base()` is `end()`. -/
def poll (plugins : List P) (fn : P → ProcessingResult) : List P × List P :=
  pollFrom fn plugins plugins.length

/-- The reference: a fold over the entries in visiting order. Returns the entries kept, in
visiting order, and the entries visited. -/
def pollSpec (fn : P → ProcessingResult) : List P → List P × List P
  | [] => ([], [])
  | plugin :: rest =>
    match fn plugin with
    | .ignored => ((pollSpec fn rest).1.cons plugin, plugin :: (pollSpec fn rest).2)
    | .consumed => (plugin :: rest, [plugin])
    | .finished => ((pollSpec fn rest).1, plugin :: (pollSpec fn rest).2)

namespace ActorBase

/-- The body shared by the three message handlers below: poll slot `s` with the plugins'
handler `fn`. -/
def pollSlot (a : ActorBase P) (s : Slot) (fn : P → ProcessingResult) : ActorBase P :=
  a.setSlot s (poll (a.slot s) fn).1

/-- `on_subscription`: poll `subscription_plugins` with the plugins' `handle_subscription`. -/
def onSubscription (a : ActorBase P) (handleSubscription : P → ProcessingResult) :
    ActorBase P :=
  a.pollSlot .subscription handleSubscription

/-- `on_unsubscription`: poll `unsubscription_plugins` with `handle_unsubscription`. -/
def onUnsubscription (a : ActorBase P) (handleUnsubscription : P → ProcessingResult) :
    ActorBase P :=
  a.pollSlot .unsubscription handleUnsubscription

/-- `on_unsubscription_external`: poll `unsubscription_plugins` with
`handle_unsubscription_external`. -/
def onUnsubscriptionExternal (a : ActorBase P)
    (handleUnsubscriptionExternal : P → ProcessingResult) : ActorBase P :=
  a.pollSlot .unsubscription handleUnsubscriptionExternal

/-- A poll changes its own slot only. -/
@[simp] lemma pollSlot_slot (a : ActorBase P) (s s' : Slot) (fn : P → ProcessingResult) :
    (a.pollSlot s fn).slot s' = if s' = s then (poll (a.slot s) fn).1 else a.slot s' := by
  simp [pollSlot]

end ActorBase

/-! ### The loop is the reference fold -/

section Spec

variable (fn : P → ProcessingResult)

/-- The loop over the part `R.reverse` of the slot in front of `base()`, with `B` behind it. -/
lemma pollFrom_reverse_append (R B : List P) :
    pollFrom fn (R.reverse ++ B) R.length =
      ((pollSpec fn R).1.reverse ++ B, (pollSpec fn R).2) := by
  induction R generalizing B with
  | nil => rfl
  | cons x R ih =>
    have hx : (R.reverse ++ x :: B)[R.length]? = some x := by
      rw [List.getElem?_append_right (by simp)]; simp
    simp only [List.reverse_cons, List.append_assoc, List.singleton_append, List.length_cons,
      pollFrom, hx, pollSpec]
    cases fn x with
    | ignored => simp [ih]
    | consumed => simp
    | finished =>
      rw [List.eraseIdx_append_of_length_le (by simp)]
      simp [ih]

theorem poll_eq_pollSpec (plugins : List P) :
    poll plugins fn =
      ((pollSpec fn plugins.reverse).1.reverse, (pollSpec fn plugins.reverse).2) := by
  simpa [poll] using pollFrom_reverse_append fn plugins.reverse []

/-- How many entries the reference visits: up to and including the first `CONSUMED`. -/
def pollCount (R : List P) : Nat := min (R.findIdx (fun p => fn p = .consumed) + 1) R.length

/-- The reference visits the first `pollCount` entries, keeps those of them that do not answer
`FINISHED`, and keeps every entry it does not visit. -/
lemma pollSpec_eq (R : List P) :
    pollSpec fn R = ((R.take (pollCount fn R)).filter (fun p => fn p ≠ .finished) ++
      R.drop (pollCount fn R), R.take (pollCount fn R)) := by
  induction R with
  | nil => rfl
  | cons x R ih =>
    rw [pollSpec, ih]
    cases hx : fn x <;> simp [pollCount, List.findIdx_cons, hx, Nat.succ_min_succ]

/-- The reference keeps, in order, some of the entries. -/
lemma pollSpec_sublist (R : List P) : (pollSpec fn R).1.Sublist R := by
  rw [pollSpec_eq]
  conv_rhs => rw [← List.take_append_drop (pollCount fn R) R]
  exact (List.filter_sublist _).append_right _

/-- What the reference keeps, it keeps again: every kept entry it visits answers `IGNORED`,
up to the first `CONSUMED`. -/
lemma pollSpec_idem (R : List P) : (pollSpec fn (pollSpec fn R).1).1 = (pollSpec fn R).1 := by
  induction R with
  | nil => rfl
  | cons x R ih => cases hx : fn x <;> simp [pollSpec, hx, ih]

/-- A poll keeps, in order, some of the entries of the slot. -/
lemma poll_sublist (plugins : List P) : (poll plugins fn).1.Sublist plugins := by
  rw [poll_eq_pollSpec]
  simpa using (pollSpec_sublist fn plugins.reverse).reverse

end Spec

/-- Polling twice with the same answers is polling once. -/
lemma poll_poll (plugins : List P) (fn : P → ProcessingResult) :
    (poll (poll plugins fn).1 fn).1 = (poll plugins fn).1 := by
  simp [poll_eq_pollSpec, pollSpec_idem]

lemma ActorBase.pollSlot_pollSlot (a : ActorBase P) (s : Slot) (fn : P → ProcessingResult) :
    (a.pollSlot s fn).pollSlot s fn = a.pollSlot s fn := by
  simp [ActorBase.pollSlot, poll_poll]

/-- `poll` is the reference fold over the reversed slot: it asks the entries from the last back
to the first `CONSUMED` and drops those that answered `FINISHED`. Each of the three handlers
leaves its own slot as the fold does and every other slot alone. -/
theorem poll_reverse_fold (plugins : List P) (fn : P → ProcessingResult) :
    poll plugins fn =
      ((pollSpec fn plugins.reverse).1.reverse, (pollSpec fn plugins.reverse).2) ∧
    (poll plugins fn).2 = plugins.reverse.take (pollCount fn plugins.reverse) ∧
    (poll plugins fn).1 =
      (plugins.reverse.drop (pollCount fn plugins.reverse)).reverse ++
        ((plugins.reverse.take (pollCount fn plugins.reverse)).filter
          (fun p => fn p ≠ .finished)).reverse ∧
    ∀ (a : ActorBase P) (s : Slot),
      (a.onSubscription fn).slot s = (if s = .subscription then
        (pollSpec fn (a.slot .subscription).reverse).1.reverse else a.slot s) ∧
      (a.onUnsubscription fn).slot s = (if s = .unsubscription then
        (pollSpec fn (a.slot .unsubscription).reverse).1.reverse else a.slot s) ∧
      (a.onUnsubscriptionExternal fn).slot s = (if s = .unsubscription then
        (pollSpec fn (a.slot .unsubscription).reverse).1.reverse else a.slot s) := by
  refine ⟨poll_eq_pollSpec fn plugins, ?_, ?_, fun a s => ?_⟩
  · simp [poll_eq_pollSpec, pollSpec_eq]
  · simp [poll_eq_pollSpec, pollSpec_eq]
  · simp [ActorBase.onSubscription, ActorBase.onUnsubscription,
      ActorBase.onUnsubscriptionExternal, poll_eq_pollSpec]

/-- Polling a second time with the same answers changes nothing: a message delivered twice to
`on_subscription`, `on_unsubscription` or `on_unsubscription_external` removes no more plugins
than once. -/
theorem poll_idempotent (plugins : List P) (fn : P → ProcessingResult) :
    (poll (poll plugins fn).1 fn).1 = (poll plugins fn).1 ∧
    ∀ a : ActorBase P, (a.onSubscription fn).onSubscription fn = a.onSubscription fn ∧
      (a.onUnsubscription fn).onUnsubscription fn = a.onUnsubscription fn ∧
      (a.onUnsubscriptionExternal fn).onUnsubscriptionExternal fn =
        a.onUnsubscriptionExternal fn :=
  ⟨poll_poll plugins fn, fun a =>
    ⟨a.pollSlot_pollSlot _ fn, a.pollSlot_pollSlot _ fn, a.pollSlot_pollSlot _ fn⟩⟩

end Rotor
