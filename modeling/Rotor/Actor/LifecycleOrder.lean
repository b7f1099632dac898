import Rotor.Actor.Lifecycle

/-!
# The lifecycle order

The supervisor drives an actor through `init_start`, `init_continue`, `on_start`,
`shutdown_start`, `shutdown_continue` and `do_shutdown`. Of these, `init_continue`,
`shutdown_continue` and `do_shutdown` assert the state they run in and never move it
backwards. `init_start`, `on_start` and `shutdown_start` assert nothing: each sets its state
whatever the state was, so a start arriving after `shutdown_start` moves the actor from
`SHUTTING_DOWN` back to `OPERATIONAL`. Along every sequence of calls in which each of these
three comes no later than the state it sets (`Call.latest`), the actor goes through the states
in order, never comes back to one it has left, and leaves `SHUTTING_DOWN` only for
`SHUTTED_DOWN`.
-/

namespace Rotor

variable {P : Type}

/-- The lifecycle entry points of `actor_base_t`, with what the plugin handlers of
`init_continue` and `shutdown_continue` do. -/
inductive Call (P : Type) where
  | initStart
  | initContinue (answers : List (Answer P))
  | onStart
  | shutdownStart
  | shutdownContinue (answers : List (Answer P))
  | doShutdown

namespace Call

/-- The call on an actor; `none` when its `assert` fails. -/
def exec : Call P → ActorBase P → Option (ActorBase P)
  | .initStart, a => some a.initStart
  | .initContinue answers, a => a.initContinue answers
  | .onStart, a => some a.onStart
  | .shutdownStart, a => some a.shutdownStart
  | .shutdownContinue answers, a => a.shutdownContinue answers
  | .doShutdown, a => a.doShutdown

/-- The last state in which a call keeps the lifecycle order: for `init_start`, `on_start` and
`shutdown_start` the state they set; the other calls never move the state backwards. -/
def latest : Call P → State
  | .initStart => .initializing
  | .onStart => .operational
  | .shutdownStart => .shuttingDown
  | _ => .shuttedDown

end Call

/-- The states an actor is in along a sequence of calls, before the first call and after each;
`none` when a call's `assert` fails or `init_finish` has no request to reply to. -/
def ActorBase.runStates (a : ActorBase P) : List (Call P) → Option (List State)
  | [] => some [a.state]
  | c :: cs => (c.exec a).bind fun a' => (a'.runStates cs).map (a.state :: ·)

/-- From a `NEW` actor with its init request stored: `init_start`, `init_continue` with an empty
INIT slot, `on_start`, `shutdown_start`, and a second `on_start`. No call fails its `assert`, and
the last one moves the actor from `SHUTTING_DOWN` back to `OPERATIONAL`. -/
theorem onStart_after_shutdownStart :
    ({ ActorBase.ofConfig (id : Nat → Nat) [] with initRequest := some 7 }).runStates
        [.initStart, .initContinue [], .onStart, .shutdownStart, .onStart] =
      some [.new, .initializing, .initialized, .operational, .shuttingDown, .operational] ∧
    ¬ [State.new, .initializing, .initialized, .operational, .shuttingDown,
        .operational].Pairwise (fun s s' => s.rank ≤ s'.rank) :=
  ⟨rfl, by decide⟩

/-! ### One call -/

namespace ActorBase

variable {a a' : ActorBase P} {answers : List (Answer P)}

lemma initContinue_state (h : a.initContinue answers = some a') :
    a.state = .initializing ∧ (a'.state = .initializing ∨ a'.state = .initialized) := by
  unfold initContinue at h
  split at h
  · next hs =>
    refine ⟨hs, ?_⟩
    dsimp only at h
    split at h
    · simp only [initFinish, Option.map_eq_some'] at h
      obtain ⟨r, -, rfl⟩ := h
      exact .inr rfl
    · cases h; exact .inl (by simp [hs])
  · cases h

lemma shutdownContinue_state (h : a.shutdownContinue answers = some a') :
    a.state = .shuttingDown ∧ (a'.state = .shuttingDown ∨ a'.state = .shuttedDown) := by
  unfold shutdownContinue at h
  split at h
  · next hs =>
    refine ⟨hs, ?_⟩
    cases h
    split
    · unfold shutdownFinish; split <;> exact .inr rfl
    · exact .inl (by simp [hs])
  · cases h

lemma doShutdown_state (h : a.doShutdown = some a') : a'.state = a.state := by
  unfold doShutdown at h
  split at h
  · cases h; rfl
  · cases h

end ActorBase

/-- A call made no later than its `latest` state never moves the state backwards. -/
lemma Call.rank_le_exec {c : Call P} {a a' : ActorBase P} (h : c.exec a = some a')
    (hc : a.state.rank ≤ c.latest.rank) : a.state.rank ≤ a'.state.rank := by
  cases c with
  | initStart => cases h; exact hc
  | onStart => cases h; exact hc
  | shutdownStart => cases h; exact hc
  | initContinue answers =>
    obtain ⟨hs, hs' | hs'⟩ := ActorBase.initContinue_state h <;> simp [hs, hs', State.rank]
  | shutdownContinue answers =>
    obtain ⟨hs, hs' | hs'⟩ := ActorBase.shutdownContinue_state h <;> simp [hs, hs', State.rank]
  | doShutdown => rw [ActorBase.doShutdown_state h]

/-! ### Whole runs -/

namespace ActorBase

lemma runStates_cons {a : ActorBase P} {c : Call P} {cs : List (Call P)} {ss : List State}
    (h : a.runStates (c :: cs) = some ss) :
    ∃ a' ss', c.exec a = some a' ∧ a'.runStates cs = some ss' ∧ ss = a.state :: ss' := by
  simp only [runStates, Option.bind_eq_some, Option.map_eq_some'] at h
  obtain ⟨a', h₁, ss', h₂, rfl⟩ := h
  exact ⟨a', ss', h₁, h₂, rfl⟩

lemma runStates_head {a : ActorBase P} {cs : List (Call P)} {ss : List State}
    (h : a.runStates cs = some ss) : ∃ ss', ss = a.state :: ss' := by
  cases cs with
  | nil => cases h; exact ⟨[], rfl⟩
  | cons c cs => obtain ⟨_, ss', -, -, rfl⟩ := runStates_cons h; exact ⟨ss', rfl⟩

/-- Along calls each made no later than its `latest` state, the states are ordered. -/
lemma runStates_pairwise (cs : List (Call P)) :
    ∀ (a : ActorBase P) (ss : List State), a.runStates cs = some ss →
      (∀ p ∈ cs.zip ss, p.2.rank ≤ p.1.latest.rank) →
      ss.Pairwise (fun s s' => s.rank ≤ s'.rank) := by
  induction cs with
  | nil => intro a ss h _; cases h; simp
  | cons c cs ih =>
    intro a ss h hord
    obtain ⟨a', ss', hc, hrun, rfl⟩ := runStates_cons h
    obtain ⟨ss'', rfl⟩ := runStates_head hrun
    have hle := c.rank_le_exec hc (hord (c, a.state) (by simp))
    have hpw := ih a' _ hrun fun p hp => hord p (List.mem_cons_of_mem _ hp)
    refine List.Pairwise.cons (fun s hs => ?_) hpw
    rcases List.mem_cons.mp hs with rfl | hs
    · exact hle
    · exact hle.trans (List.rel_of_pairwise_cons hpw hs)

end ActorBase

/-- In a sequence of states ordered by rank, a state once left is never entered again. -/
lemma State.eq_of_pairwise {ss : List State} (h : ss.Pairwise (fun s s' => s.rank ≤ s'.rank))
    {i j k : Nat} (hij : i ≤ j) (hjk : j ≤ k) {s : State} (hi : ss[i]? = some s)
    (hk : ss[k]? = some s) : ss[j]? = some s := by
  obtain ⟨hk', rfl⟩ := List.getElem?_eq_some_iff.mp hk
  have hj : j < ss.length := by omega
  have hle : ∀ {x y : Nat} (hx : x < ss.length) (hy : y < ss.length), x ≤ y →
      ss[x].rank ≤ ss[y].rank := by
    intro x y hx hy hxy
    rcases hxy.lt_or_eq with hxy | rfl
    · exact List.pairwise_iff_getElem.mp h x y hx hy hxy
    · exact le_rfl
  obtain ⟨hi', hs⟩ := List.getElem?_eq_some_iff.mp hi
  rw [List.getElem?_eq_getElem hj, Option.some.injEq]
  apply State.rank_injective
  have := hle hi' hj hij
  have := hle hj hk' hjk
  rw [hs] at *
  omega

/-- When each of `init_start`, `on_start` and `shutdown_start` comes no later than the state it
sets, the states never move backwards, a state left is never entered again, and
`SHUTTING_DOWN` is followed only by `SHUTTING_DOWN` or `SHUTTED_DOWN`. -/
theorem lifecycle_order_of_latest (a : ActorBase P) (calls : List (Call P)) (ss : List State)
    (hrun : a.runStates calls = some ss)
    (hord : ∀ p ∈ calls.zip ss, p.2.rank ≤ p.1.latest.rank) :
    ss.Pairwise (fun s s' => s.rank ≤ s'.rank) ∧
    (∀ (i j k : Nat) (s : State), i ≤ j → j ≤ k → ss[i]? = some s → ss[k]? = some s →
      ss[j]? = some s) ∧
    (∀ (i : Nat) (s : State), ss[i]? = some .shuttingDown → ss[i + 1]? = some s →
      s = .shuttingDown ∨ s = .shuttedDown) := by
  have hpw := ActorBase.runStates_pairwise calls a ss hrun hord
  refine ⟨hpw, fun i j k s hij hjk hi hk => State.eq_of_pairwise hpw hij hjk hi hk, ?_⟩
  intro i s hi hs
  obtain ⟨hi', hi⟩ := List.getElem?_eq_some_iff.mp hi
  obtain ⟨hs', rfl⟩ := List.getElem?_eq_some_iff.mp hs
  have := List.pairwise_iff_getElem.mp hpw i (i + 1) hi' hs' (by omega)
  rw [hi] at this
  revert this
  cases ss[i + 1] <;> simp [State.rank]

/-- The usual order: `init_start`, `init_continue` with an empty INIT slot, `on_start`,
`shutdown_start`, `shutdown_continue` with an empty SHUTDOWN slot. -/
theorem lifecycle_order_of_latest_usual :
    let a : ActorBase Nat := { ActorBase.ofConfig (id : Nat → Nat) [] with initRequest := some 7 }
    let calls : List (Call Nat) :=
      [.initStart, .initContinue [], .onStart, .shutdownStart, .shutdownContinue []]
    let ss : List State :=
      [.new, .initializing, .initialized, .operational, .shuttingDown, .shuttedDown]
    a.runStates calls = some ss ∧ (∀ p ∈ calls.zip ss, p.2.rank ≤ p.1.latest.rank) ∧
    (ss.Pairwise (fun s s' => s.rank ≤ s'.rank) ∧
      (∀ (i j k : Nat) (s : State), i ≤ j → j ≤ k → ss[i]? = some s →
        ss[k]? = some s → ss[j]? = some s) ∧
      (∀ (i : Nat) (s : State), ss[i]? = some .shuttingDown → ss[i + 1]? = some s →
        s = .shuttingDown ∨ s = .shuttedDown)) := by
  intro a calls ss
  have hrun : a.runStates calls = some ss := rfl
  have hord : ∀ p ∈ calls.zip ss, p.2.rank ≤ p.1.latest.rank := by decide
  exact ⟨hrun, hord, lifecycle_order_of_latest a calls ss hrun hord⟩

end Rotor
