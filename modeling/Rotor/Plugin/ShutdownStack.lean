import Rotor.Plugin.InitQueue

/-!
# The SHUTDOWN slot

`shutdown_continue` asks the plugin at the back of the SHUTDOWN slot, and when it answers
`true` pops the back. While no handler installs into the slot, this makes it a stack: every ask
goes to the last plugin not yet completed, the plugins complete last first, and
`shutdown_finish` runs once, in the call that empties the slot (`ShutdownLifo`).

A handler may append to the slot through `install_plugin`; then the back is no longer the
plugin that answered, and `pop_back` removes the plugin just installed, which was never asked,
while the one that answered stays and is asked again.
-/

namespace Rotor

variable {P : Type}

/-! ### Completed plugins -/

/-- The plugin whose `handle_shutdown` an event calls. -/
@[simp] def Event.shutdownAsked : Event P → Option P
  | .handleShutdown plugin _ => some plugin
  | _ => none

/-- The plugin of an event whose `handle_shutdown` answered `true`. -/
@[simp] def Event.shutdownDone : Event P → Option P
  | .handleShutdown plugin true => some plugin
  | _ => none

/-- The answer an ask of `handle_shutdown` carries. -/
@[simp] def Event.shutdownAnswer : Event P → Option Bool
  | .handleShutdown _ done => some done
  | _ => none

@[simp] lemma installEvents_shutdownAnswer (installs : List (P × Slot)) :
    (installEvents installs).filterMap Event.shutdownAnswer = [] := by
  induction installs <;> simp_all [installEvents]

/-- The plugins that completed shutdown along a trace, in order. -/
def completedShutdown (t : List (Event P)) : List P := t.filterMap Event.shutdownDone

section Projections

variable (p : P) (d : Bool) (e : Event P) (t t' : List (Event P))

@[simp] lemma completedShutdown_nil : completedShutdown ([] : List (Event P)) = [] := rfl
@[simp] lemma completedShutdown_append :
    completedShutdown (t ++ t') = completedShutdown t ++ completedShutdown t' :=
  List.filterMap_append _ _ _
@[simp] lemma completedShutdown_handleShutdown :
    completedShutdown [.handleShutdown p d] = if d then [p] else [] := by
  cases d <;> rfl
@[simp] lemma completedShutdown_send (m : Message) :
    completedShutdown [(.send m : Event P)] = [] := rfl
@[simp] lemma completedShutdown_installEvents (installs : List (P × Slot)) :
    completedShutdown (installEvents installs) = [] := by
  induction installs <;> simp_all [installEvents, completedShutdown]

/-- Nothing installed into SHUTDOWN by `install_plugin` calls that all name another slot. -/
lemma installed_shutdown_eq_nil {installs : List (P × Slot)}
    (h : ∀ i ∈ installs, i.2 ≠ .shutdown) :
    installed .shutdown (installEvents installs) = [] := by
  induction installs with
  | nil => rfl
  | cons i is ih =>
    simp only [installEvents, List.map_cons, installed_cons] at ih ⊢
    rw [ih fun j hj => h j (List.mem_cons_of_mem _ hj)]
    simp [h i (List.mem_cons_self _ _)]

end Projections

/-! ### The LIFO discipline -/

/-- The LIFO discipline of the SHUTDOWN slot along the events `t`, from contents `L`, while
nothing is installed into it: every ask goes to the last entry not yet completed, and `slot`
is `L` without the completed entries, which completed last first. -/
structure ShutdownLifo (L : List P) (t : List (Event P)) (slot : List P) : Prop where
  asks : AsksInOrder Event.shutdownAsked completedShutdown (fun _ => L.reverse) t
  stack : completedShutdown t ++ slot.reverse = L.reverse

namespace ShutdownLifo

variable {L slot : List P} {t : List (Event P)} {p : P}

lemma start (L : List P) : ShutdownLifo L [] L := ⟨.nil, by simp⟩

lemma install (h : ShutdownLifo L t slot) (installs : List (P × Slot)) :
    ShutdownLifo L (t ++ installEvents installs) slot where
  asks := h.asks.append_quiet fun e he => by obtain ⟨i, -, rfl⟩ := List.mem_map.mp he; rfl
  stack := by simpa using h.stack

lemma ask (h : ShutdownLifo L t slot) (hp : slot.getLast? = some p) (d : Bool) :
    ShutdownLifo L (t ++ [.handleShutdown p d]) (if d then slot.dropLast else slot) where
  asks := h.asks.snoc rfl <| by
    rw [← h.stack, List.getElem?_append_right (le_refl _), Nat.sub_self,
      ← List.head?_eq_getElem?, List.head?_reverse, hp]
  stack := by
    cases d
    · simpa using h.stack
    · rw [← h.stack, ← List.dropLast_append_getLast? p hp]
      simp

lemma send (h : ShutdownLifo L t slot) (m : Message) :
    ShutdownLifo L (t ++ [.send m]) slot where
  asks := h.asks.append_quiet (by simp)
  stack := by simpa using h.stack

end ShutdownLifo

/-! ### One call of `shutdown_continue` -/

namespace ActorBase

variable {a : ActorBase P} {r : Option Nat}

/-- The loop of `shutdown_continue`, with handlers that install nothing into SHUTDOWN, sends
nothing and keeps the LIFO discipline. -/
lemma shutdownLoop_lifo (a : ActorBase P) (answers : List (Answer P))
    (hno : ∀ ans ∈ answers, installed .shutdown (installEvents ans.installs) = []) {L : List P}
    {t : List (Event P)} (hf : ShutdownLifo L t a.shutdownPlugins) :
    ∃ u, (a.shutdownLoop answers).trace = a.trace ++ u ∧ sent u = [] ∧
      ShutdownLifo L (t ++ u) (a.shutdownLoop answers).shutdownPlugins := by
  induction answers generalizing a t with
  | nil =>
    cases h : a.shutdownPlugins.getLast? with
    | none =>
      have he := List.getLast?_eq_none_iff.mp h
      exact ⟨[], by simp [shutdownLoop_empty he], rfl,
        by simpa [shutdownLoop_empty he] using hf⟩
    | some p =>
      exact ⟨[.handleShutdown p false], by simp [shutdownLoop_nil h, installEvents], by simp,
        by simpa [shutdownLoop_nil h, installEvents] using hf.ask h false⟩
  | cons ans rest ih =>
    cases h : a.shutdownPlugins.getLast? with
    | none =>
      have he := List.getLast?_eq_none_iff.mp h
      exact ⟨[], by simp [shutdownLoop_empty he], rfl,
        by simpa [shutdownLoop_empty he] using hf⟩
    | some p =>
      have hans := hno ans (List.mem_cons_self _ _)
      have hask := (hf.install ans.installs).ask h ans.done
      rw [shutdownLoop_cons h]
      split
      · next hd =>
        obtain ⟨u, hu, hs, hf'⟩ := ih (a.handleShutdown p ans).popShutdown
          (fun b hb => hno b (List.mem_cons_of_mem _ hb)) (by simpa [hans, hd] using hask)
        exact ⟨installEvents ans.installs ++ [.handleShutdown p true] ++ u, by simp [hu, hd],
          by simp [hs], by simpa using hf'⟩
      · next hd =>
        exact ⟨installEvents ans.installs ++ [.handleShutdown p ans.done], by simp, by simp,
          by simpa [hans, hd] using hask⟩

/-- The loop of `shutdown_continue` asks with the answers in order, up to the first `false` or
a default `false` once they run out, unless the slot empties first. -/
lemma shutdownLoop_asks (answers : List (Answer P)) : ∀ a : ActorBase P,
    ∃ u, (a.shutdownLoop answers).trace = a.trace ++ u ∧
      (u.filterMap Event.shutdownAnswer = askBits answers ∨
        (u.filterMap Event.shutdownAnswer <+: askBits answers ∧
          (a.shutdownLoop answers).shutdownPlugins = [])) := by
  induction answers with
  | nil =>
    intro a
    cases h : a.shutdownPlugins.getLast? with
    | none =>
      have he := List.getLast?_eq_none_iff.mp h
      exact ⟨[], by simp [shutdownLoop_empty he], .inr ⟨List.nil_prefix, by
        simp [shutdownLoop_empty he, he]⟩⟩
    | some p =>
      exact ⟨[.handleShutdown p false], by simp [shutdownLoop_nil h, installEvents], .inl rfl⟩
  | cons ans rest ih =>
    intro a
    cases h : a.shutdownPlugins.getLast? with
    | none =>
      have he := List.getLast?_eq_none_iff.mp h
      exact ⟨[], by simp [shutdownLoop_empty he], .inr ⟨List.nil_prefix, by
        simp [shutdownLoop_empty he, he]⟩⟩
    | some p =>
      rw [shutdownLoop_cons h, askBits_cons]
      split
      · next hd =>
        obtain ⟨u, hu, hask⟩ := ih (a.handleShutdown p ans).popShutdown
        refine ⟨installEvents ans.installs ++ [.handleShutdown p true] ++ u, by simp [hu, hd], ?_⟩
        have hbits : (installEvents ans.installs ++ [Event.handleShutdown p true] ++ u).filterMap
            Event.shutdownAnswer = true :: u.filterMap Event.shutdownAnswer := by
          simp [List.filterMap_append]
        rw [hbits]
        exact hask.imp (congrArg _) fun ⟨hp, he⟩ => ⟨List.cons_prefix_cons.mpr ⟨rfl, hp⟩, he⟩
      · next hd =>
        exact ⟨installEvents ans.installs ++ [.handleShutdown p ans.done], by simp,
          .inl (by simp [List.filterMap_append, hd])⟩

/-- How a run that started with shutdown request `r` (`none` for the root supervisor) stands
after its events `u`: either it has finished, with the slot empty and one reply to `r`, if
there is one, as its last event, or it is still shutting down and has sent nothing. -/
def ShutdownStatus (r : Option Nat) (u : List (Event P)) (a : ActorBase P) : Prop :=
  (a.state = .shuttedDown ∧ a.shutdownRequest = none ∧ a.shutdownPlugins = [] ∧
    sent u = r.toList.map .shutdownConfirmation ∧
    ∀ x, r = some x → u.getLast? = some (.send (.shutdownConfirmation x))) ∨
  (a.state = .shuttingDown ∧ a.shutdownRequest = r ∧ sent u = [])

lemma ShutdownStatus.append {t u : List (Event P)} {a' : ActorBase P} (ht : sent t = [])
    (h : ShutdownStatus r u a') : ShutdownStatus r (t ++ u) a' := by
  rcases h with ⟨h₁, h₂, h₃, h₄, h₅⟩ | ⟨h₁, h₂, h₃⟩
  · refine .inl ⟨h₁, h₂, h₃, by simp [ht, h₄], fun x hx => ?_⟩
    have hne : u ≠ [] := by rintro rfl; simp [hx] at h₅
    rw [List.getLast?_append_of_ne_nil _ hne]
    exact h₅ x hx
  · exact .inr ⟨h₁, h₂, by simp [ht, h₃]⟩

/-- One call of `shutdown_continue` made while `SHUTTING_DOWN`, with handlers that install
nothing into SHUTDOWN: it keeps the LIFO discipline, asks with its answers, and runs
`shutdown_finish` exactly when its loop empties the slot. -/
lemma shutdownContinue_lifo (hs : a.state = .shuttingDown) (answers : List (Answer P))
    (hno : ∀ ans ∈ answers, installed .shutdown (installEvents ans.installs) = []) {L : List P}
    {t : List (Event P)} (hf : ShutdownLifo L t a.shutdownPlugins) :
    ∃ a' u, a.shutdownContinue answers = some a' ∧ a'.trace = a.trace ++ u ∧
      ShutdownLifo L (t ++ u) a'.shutdownPlugins ∧ ShutdownStatus a.shutdownRequest u a' ∧
      (a'.shutdownPlugins = [] ↔ a'.state = .shuttedDown) ∧
      (u.filterMap Event.shutdownAnswer = askBits answers ∨
        (u.filterMap Event.shutdownAnswer <+: askBits answers ∧ a'.shutdownPlugins = [])) := by
  obtain ⟨u, hu, hsent, hf'⟩ := shutdownLoop_lifo a answers hno hf
  obtain ⟨u', hu', hask⟩ := shutdownLoop_asks answers a
  obtain rfl : u' = u := List.append_cancel_left (hu'.symm.trans hu)
  simp only [shutdownContinue, hs, if_true]
  by_cases he : (a.shutdownLoop answers).shutdownPlugins = []
  · rw [if_pos (List.isEmpty_iff.mpr he)]
    let replies : List (Event P) :=
      a.shutdownRequest.toList.map fun r => .send (.shutdownConfirmation r)
    refine ⟨_, u' ++ replies, rfl, by simp [hu, replies], ?_,
      .inl ⟨by simp, by simp, by simp [he], ?_, ?_⟩, by simp [he], .inr ⟨?_, by simp [he]⟩⟩
    · cases hr : a.shutdownRequest with
      | none => simpa [replies, hr, he] using hf'
      | some x => simpa [replies, hr, he] using hf'.send (.shutdownConfirmation x)
    · cases hr : a.shutdownRequest <;> simp [replies, hr, hsent]
    · intro x hx
      simp [replies, hx]
    · have hpre : u'.filterMap Event.shutdownAnswer <+: askBits answers :=
        hask.elim (fun h => h ▸ List.prefix_refl _) And.left
      cases hr : a.shutdownRequest <;> simpa [replies, hr, List.filterMap_append] using hpre
  · rw [if_neg (by simpa [List.isEmpty_iff] using he)]
    exact ⟨_, u', rfl, hu, hf', .inr ⟨by simp [hs], by simp, hsent⟩, by simp [he, hs], hask⟩

end ActorBase

/-- A run of `shutdown_continue` calls, one list of answers per call, made while the actor is
`SHUTTING_DOWN`: the calls stop once it has left that state. -/
def ActorBase.shutdownRun (a : ActorBase P) : List (List (Answer P)) → Option (ActorBase P)
  | [] => some a
  | answers :: calls =>
    if a.state = .shuttingDown then (a.shutdownContinue answers).bind (·.shutdownRun calls)
    else some a

namespace ActorBase

variable {r : Option Nat} {L : List P}

lemma shutdownRun_of_ne {a : ActorBase P} (h : a.state ≠ .shuttingDown)
    (calls : List (List (Answer P))) : a.shutdownRun calls = some a := by
  cases calls <;> simp [shutdownRun, h]

/-- Along a run of `shutdown_continue` calls whose handlers install nothing into SHUTDOWN, the
LIFO discipline and the status are kept, after each call the slot is empty exactly when
shutdown has finished, and each call asks with its answers. -/
lemma shutdownRun_lifo (calls : List (List (Answer P)))
    (hno : ∀ answers ∈ calls, ∀ ans ∈ answers,
      installed .shutdown (installEvents ans.installs) = []) :
    ∀ (a : ActorBase P) (t : List (Event P)), ShutdownLifo L t a.shutdownPlugins →
      ShutdownStatus r t a →
      (calls ≠ [] ∨ (a.shutdownPlugins = [] ↔ a.state = .shuttedDown)) →
      ∃ a' u, a.shutdownRun calls = some a' ∧ a'.trace = a.trace ++ u ∧
        ShutdownLifo L (t ++ u) a'.shutdownPlugins ∧ ShutdownStatus r (t ++ u) a' ∧
        (a'.shutdownPlugins = [] ↔ a'.state = .shuttedDown) ∧
        ∃ us, u = us.flatten ∧
          CallsAsked Event.shutdownAnswer (a'.shutdownPlugins = []) calls us := by
  induction calls with
  | nil =>
    intro a t hf hst hg
    exact ⟨a, [], rfl, by simp, by simpa using hf, by simpa using hst,
      hg.resolve_left (by simp), [], rfl, rfl⟩
  | cons answers calls ih =>
    intro a t hf hst _
    rcases hst with ⟨hd, hreq, he, hsent, hlast⟩ | ⟨hs, hreq, hsent⟩
    · -- already `SHUTTED_DOWN`: no call is made
      refine ⟨a, [], by simp [shutdownRun, hd], by simp, by simpa using hf, ?_,
        by simp [he, hd], [], rfl, he⟩
      rw [List.append_nil]
      exact .inl ⟨hd, hreq, he, hsent, hlast⟩
    · obtain ⟨a₁, u₁, h₁, ht₁, hf₁, hst₁, hg₁, hask₁⟩ :=
        shutdownContinue_lifo hs answers (hno answers (List.mem_cons_self _ _)) hf
      rw [hreq] at hst₁
      have hst₁' := hst₁.append hsent
      rcases hst₁ with ⟨hfin, -, hempty, -⟩ | ⟨hcont, -⟩
      · -- the call finishes shutdown, and the run makes no call after it
        have hrun : a₁.shutdownRun calls = some a₁ := shutdownRun_of_ne (by simp [hfin]) calls
        refine ⟨a₁, u₁, by simp [shutdownRun, hs, h₁, hrun], ht₁, hf₁, hst₁', hg₁, [u₁],
          by simp, .inr ⟨?_, hempty, rfl⟩⟩
        exact hask₁.elim (fun h => h ▸ List.prefix_refl _) And.left
      · obtain ⟨a', u₂, h₂, ht₂, hf₂, hst₂, hg₂, us, rfl, hus⟩ :=
          ih (fun c hc => hno c (List.mem_cons_of_mem _ hc)) a₁ (t ++ u₁) hf₁ hst₁' (.inr hg₁)
        refine ⟨a', u₁ ++ us.flatten, by simp [shutdownRun, hs, h₁, h₂], by simp [ht₂, ht₁],
          by simpa using hf₂, by simpa using hst₂, hg₂, u₁ :: us, rfl, .inl ⟨?_, hus⟩⟩
        exact hask₁.resolve_right fun ⟨_, he⟩ => by simp [hg₁.mp he] at hcont

/-- While no handler installs into SHUTDOWN, `shutdown_continue` serves the slot as a stack:
each call asks with its answers, each ask goes to the last entry not completed, and
`shutdown_finish` replies once, last, after the call that empties the slot. -/
theorem shutdownContinue_lifo_run (a : ActorBase P) (calls : List (List (Answer P)))
    (hs : a.state = .shuttingDown)
    (hno : ∀ answers ∈ calls, ∀ ans ∈ answers, ∀ i ∈ ans.installs, i.2 ≠ .shutdown) :
    ∃ a' u, a.shutdownRun calls = some a' ∧ a'.trace = a.trace ++ u ∧
      ShutdownLifo a.shutdownPlugins u a'.shutdownPlugins ∧
      ShutdownStatus a.shutdownRequest u a' ∧
      (calls ≠ [] → (a'.shutdownPlugins = [] ↔ a'.state = .shuttedDown)) ∧
      ∃ us, u = us.flatten ∧
        CallsAsked Event.shutdownAnswer (a'.shutdownPlugins = []) calls us := by
  have hno' : ∀ answers ∈ calls, ∀ ans ∈ answers,
      installed .shutdown (installEvents ans.installs) = [] :=
    fun answers ha ans hans => installed_shutdown_eq_nil (hno answers ha ans hans)
  by_cases hc : calls = []
  · subst hc
    exact ⟨a, [], rfl, by simp, .start _, .inr ⟨hs, rfl, rfl⟩, fun h => absurd rfl h, [], rfl,
      rfl⟩
  · obtain ⟨a', u, h, ht, hf, hst, hg, hask⟩ :=
      shutdownRun_lifo calls hno' a [] (.start _) (.inr ⟨hs, rfl, rfl⟩) (.inl hc)
    exact ⟨a', u, h, ht, by simpa using hf, by simpa using hst, fun _ => hg, hask⟩

/-- Plugins `1` and `2` in the SHUTDOWN slot, a stored request `5`: the first call asks `2`,
which installs plugin `3` into INIT and answers `true`, then `1`, which answers `false`; the
second call asks `1` again, which answers `true`, and `shutdown_finish` replies. -/
theorem shutdownContinue_lifo_run_twoCalls :
    let a : ActorBase Nat :=
      { (ofConfig (id : Nat → Nat) []).shutdownStart with
        shutdownRequest := some 5, shutdownPlugins := [1, 2] }
    let calls : List (List (Answer Nat)) :=
      [[{ installs := [(3, .init)], done := true }], [{ done := true }]]
    a.state = .shuttingDown ∧
    (∀ answers ∈ calls, ∀ ans ∈ answers, ∀ i ∈ ans.installs, i.2 ≠ .shutdown) ∧
    ∃ a' u, a.shutdownRun calls = some a' ∧ a'.trace = a.trace ++ u ∧
      ShutdownLifo a.shutdownPlugins u a'.shutdownPlugins ∧
      ShutdownStatus a.shutdownRequest u a' ∧
      (calls ≠ [] → (a'.shutdownPlugins = [] ↔ a'.state = .shuttedDown)) ∧
      ∃ us, u = us.flatten ∧
        CallsAsked Event.shutdownAnswer (a'.shutdownPlugins = []) calls us := by
  intro a calls
  have hs : a.state = .shuttingDown := rfl
  have hno : ∀ answers ∈ calls, ∀ ans ∈ answers, ∀ i ∈ ans.installs,
      i.2 ≠ .shutdown := by decide
  exact ⟨hs, hno, shutdownContinue_lifo_run a calls hs hno⟩

/-- Plugin `1`, alone in the SHUTDOWN slot, installs plugin `2` into it from its
`handle_shutdown` and answers `true`. `pop_back` removes `2`; `1` stays and is asked again. -/
theorem shutdownContinue_pops_installed :
    (({ (ofConfig (id : Nat → Nat) []).shutdownStart with shutdownPlugins := [1] }
      ).shutdownContinue [{ installs := [(2, .shutdown)], done := true }]).map
      (fun b : ActorBase Nat => (b.shutdownPlugins, b.trace)) =
    some ([1], [Event.installPlugin 2 .shutdown, .handleShutdown 1 true,
      .handleShutdown 1 false]) :=
  rfl

end ActorBase

end Rotor
