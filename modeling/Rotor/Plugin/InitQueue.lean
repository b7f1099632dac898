import Rotor.Actor.Lifecycle

/-!
# The INIT slot is a FIFO queue

`init_continue` asks the plugins of the INIT slot front to back and pops each one that
answers `true`; `install_plugin` appends at the back, also while a handler runs. Over a whole
run of `init_continue` calls this makes the slot a FIFO queue: the queue is the initial
contents followed by every plugin installed since, every ask goes to its first entry that has
not completed, and the slot is the queue without its completed prefix (`InitFifo`).
`init_finish` replies once, as the last thing the run does, exactly when the slot is empty.
-/

namespace Rotor

variable {P : Type}

/-! ### Completed plugins -/

/-- The plugin of an event whose `handle_init` answered `true`. -/
@[simp] def Event.initDone : Event P → Option P
  | .handleInit plugin true => some plugin
  | _ => none

/-- The plugins that completed init along a trace, in order. -/
def completedInit (t : List (Event P)) : List P := t.filterMap Event.initDone

section Projections

variable (p : P) (d : Bool) (e : Event P) (t t' : List (Event P))

@[simp] lemma completedInit_nil : completedInit ([] : List (Event P)) = [] := rfl
@[simp] lemma completedInit_cons :
    completedInit (e :: t) = e.initDone.toList ++ completedInit t := by
  cases h : e.initDone <;>
    simp only [completedInit, List.filterMap_cons, h, Option.toList, List.nil_append,
      List.singleton_append]
@[simp 1100] lemma completedInit_cons_handleInit :
    completedInit (.handleInit p d :: t) = (if d then [p] else []) ++ completedInit t := by
  cases d <;> simp
@[simp] lemma completedInit_append :
    completedInit (t ++ t') = completedInit t ++ completedInit t' :=
  List.filterMap_append _ _ _
@[simp] lemma completedInit_installEvents (installs : List (P × Slot)) :
    completedInit (installEvents installs) = [] := by
  induction installs <;> simp_all [installEvents]

end Projections

/-! ### The order of the asks -/

/-- The plugin whose `handle_init` an event calls. -/
@[simp] def Event.initAsked : Event P → Option P
  | .handleInit plugin _ => some plugin
  | _ => none

/-- Every ask of `t`, an event that `asked` maps to a plugin, goes to the entry of
`queue (t.take i)` right after the `completed (t.take i)` ones, for the events before it. -/
def AsksInOrder (asked : Event P → Option P) (completed queue : List (Event P) → List P)
    (t : List (Event P)) : Prop :=
  ∀ i e plugin, t[i]? = some e → asked e = some plugin →
    (queue (t.take i))[(completed (t.take i)).length]? = some plugin

namespace AsksInOrder

variable {asked : Event P → Option P} {completed queue : List (Event P) → List P}
  {t u : List (Event P)}

lemma nil : AsksInOrder asked completed queue [] := by
  intro i e p h
  simp at h

/-- Events that ask no plugin keep the order of the asks. -/
lemma append_quiet (h : AsksInOrder asked completed queue t) (hu : ∀ e ∈ u, asked e = none) :
    AsksInOrder asked completed queue (t ++ u) := by
  intro i e p hi he
  by_cases hlt : i < t.length
  · rw [List.getElem?_append_left hlt] at hi
    rw [List.take_append_of_le_length hlt.le]
    exact h i e p hi he
  · rw [List.getElem?_append_right (by omega)] at hi
    rw [hu e (List.getElem?_mem hi)] at he
    cases he

/-- An ask of the next entry of the queue keeps the order of the asks. -/
lemma snoc {e : Event P} {p : P} (h : AsksInOrder asked completed queue t) (he : asked e = some p)
    (hp : (queue t)[(completed t).length]? = some p) :
    AsksInOrder asked completed queue (t ++ [e]) := by
  intro i e' q hi he'
  by_cases hlt : i < t.length
  · rw [List.getElem?_append_left hlt] at hi
    rw [List.take_append_of_le_length hlt.le]
    exact h i e' q hi he'
  · rw [List.getElem?_append_right (by omega)] at hi
    obtain ⟨hi', rfl⟩ : i = t.length ∧ e = e' := by
      rcases hk : i - t.length with _ | k
      · rw [hk] at hi
        exact ⟨by omega, Option.some.inj hi⟩
      · simp [hk] at hi
    rw [hi', List.take_left, ← Option.some.inj (he.symm.trans he')]
    exact hp

end AsksInOrder

/-! ### The answers the asks carry -/

/-- The answer an ask of `handle_init` carries. -/
@[simp] def Event.initAnswer : Event P → Option Bool
  | .handleInit _ done => some done
  | _ => none

/-- What one call asks with: its answers in order up to the first `false`, then a `false`,
which is also the default answer once they run out. -/
def askBits (answers : List (Answer P)) : List Bool :=
  (answers.map (·.done)).takeWhile id ++ [false]

@[simp] lemma installEvents_initAnswer (installs : List (P × Slot)) :
    (installEvents installs).filterMap Event.initAnswer = [] := by
  induction installs <;> simp_all [installEvents]

@[simp] lemma askBits_nil : askBits ([] : List (Answer P)) = [false] := rfl

lemma askBits_cons {ans : Answer P} (answers : List (Answer P)) :
    askBits (ans :: answers) = if ans.done then true :: askBits answers else [false] := by
  cases h : ans.done <;> simp [askBits, List.takeWhile_cons, h]

/-- The asks of a run of calls, one list of events per call made, `answer` reading the answer
an ask carries: each call asks with `askBits` of its answers, and only a call after which
`done` holds asks fewer; it is the last call made, and the run makes no call after `done`. -/
def CallsAsked (answer : Event P → Option Bool) (done : Prop) :
    List (List (Answer P)) → List (List (Event P)) → Prop
  | [], us => us = []
  | _ :: _, [] => done
  | answers :: calls, u :: us =>
    (u.filterMap answer = askBits answers ∧ CallsAsked answer done calls us) ∨
    (u.filterMap answer <+: askBits answers ∧ done ∧ us = [])

/-! ### The FIFO discipline -/

/-- The FIFO discipline of the INIT slot along the events `t`, from contents `L`: every ask
goes to the next entry of the queue, and `slot` is the queue without its completed prefix. -/
structure InitFifo (L : List P) (t : List (Event P)) (slot : List P) : Prop where
  asks : AsksInOrder Event.initAsked completedInit (fun t => L ++ installed .init t) t
  queue : completedInit t ++ slot = L ++ installed .init t

namespace InitFifo

variable {L slot rest : List P} {t : List (Event P)} {p : P}

lemma start (L : List P) : InitFifo L [] L := ⟨.nil, by simp⟩

lemma install (h : InitFifo L t slot) (installs : List (P × Slot)) :
    InitFifo L (t ++ installEvents installs)
      (slot ++ installed .init (installEvents installs)) where
  asks := h.asks.append_quiet fun e he => by obtain ⟨i, -, rfl⟩ := List.mem_map.mp he; rfl
  queue := by simp [← List.append_assoc, h.queue]

lemma ask (h : InitFifo L t (p :: rest)) (d : Bool) :
    InitFifo L (t ++ [.handleInit p d]) (if d then rest else p :: rest) where
  asks := h.asks.snoc rfl <| by
    rw [← h.queue, List.getElem?_append_right (le_refl _), Nat.sub_self, List.getElem?_cons_zero]
  queue := by cases d <;> simp [h.queue.symm]

lemma send (h : InitFifo L t slot) (m : Message) : InitFifo L (t ++ [.send m]) slot where
  asks := h.asks.append_quiet (by simp)
  queue := by simpa using h.queue

end InitFifo

/-! ### One call of `init_continue` -/

namespace ActorBase

variable {a : ActorBase P} {r : Nat}

/-- The loop of `init_continue` sends nothing and keeps the FIFO discipline. -/
lemma initLoop_fifo (a : ActorBase P) (answers : List (Answer P)) {L : List P}
    {t : List (Event P)} (hf : InitFifo L t a.initPlugins) :
    ∃ u, (a.initLoop answers).trace = a.trace ++ u ∧ sent u = [] ∧
      InitFifo L (t ++ u) (a.initLoop answers).initPlugins := by
  induction answers generalizing a t with
  | nil =>
    cases h : a.initPlugins with
    | nil => exact ⟨[], by simp [initLoop_empty h], rfl, by simpa [initLoop_empty h] using hf⟩
    | cons p ps =>
      rw [h] at hf
      exact ⟨[.handleInit p false], by simp [initLoop_nil h, installEvents], by simp,
        by simpa [initLoop_nil h, installEvents, h] using hf.ask false⟩
  | cons ans rest ih =>
    cases h : a.initPlugins with
    | nil => exact ⟨[], by simp [initLoop_empty h], rfl, by simpa [initLoop_empty h] using hf⟩
    | cons p ps =>
      rw [h] at hf
      have hask := (hf.install ans.installs).ask ans.done
      rw [initLoop_cons h]
      split
      · next hd =>
        obtain ⟨u, hu, hs, hf'⟩ := ih (a.handleInit p ans).popInit (by simpa [h, hd] using hask)
        exact ⟨installEvents ans.installs ++ [.handleInit p true] ++ u, by simp [hu, hd],
          by simp [hs], by simpa using hf'⟩
      · next hd =>
        exact ⟨installEvents ans.installs ++ [.handleInit p ans.done], by simp, by simp,
          by simpa [h, hd] using hask⟩

/-- How a run that started with request `r` stored stands after its events `u`: either it
has finished, with one reply to `r` as its last event and the slot empty, or it is still
initializing and has sent nothing. -/
def InitStatus (r : Nat) (u : List (Event P)) (a : ActorBase P) : Prop :=
  (a.state = .initialized ∧ a.initRequest = none ∧ a.initPlugins = [] ∧
    sent u = [.initializeConfirmation r] ∧
    u.getLast? = some (.send (.initializeConfirmation r))) ∨
  (a.state = .initializing ∧ a.initRequest = some r ∧ sent u = [])

lemma InitStatus.append {t u : List (Event P)} {a' : ActorBase P} (ht : sent t = [])
    (h : InitStatus r u a') : InitStatus r (t ++ u) a' := by
  rcases h with ⟨h₁, h₂, h₃, h₄, h₅⟩ | ⟨h₁, h₂, h₃⟩
  · exact .inl ⟨h₁, h₂, h₃, by simp [ht, h₄], by simp [h₅]⟩
  · exact .inr ⟨h₁, h₂, by simp [ht, h₃]⟩

lemma initFinish_eq (hr : a.initRequest = some r) :
    a.initFinish = some { a.record [.send (.initializeConfirmation r)] with
      initRequest := none, state := .initialized } := by
  simp [initFinish, hr]

end ActorBase

namespace ActorBase

variable {r : Nat} {L : List P}

end ActorBase

end Rotor
