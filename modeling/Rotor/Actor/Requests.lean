import Rotor.Actor.Ops

/-!
# Each request is answered at most once

`init_finish` replies to the stored `init_request` and resets it, and `shutdown_finish` does the
same with `shutdown_request`. No other code of `actor_base_t` sends a confirmation or touches the
two requests. So along every run, the confirmations sent for each request, followed by the
request still stored, are the request stored at the start: a request is answered at most once,
with its own identity, and it is no longer stored exactly when it has been answered.
-/

namespace Rotor

variable {P : Type}

/-- The init request a message confirms. -/
@[simp] def Message.initReply : Message → Option Nat
  | .initializeConfirmation r => some r
  | _ => none

/-- The shutdown request a message confirms. -/
@[simp] def Message.shutdownReply : Message → Option Nat
  | .shutdownConfirmation r => some r
  | _ => none

/-- The init requests confirmed along a trace, in order. -/
def initReplies (t : List (Event P)) : List Nat := (sent t).filterMap Message.initReply

/-- The shutdown requests confirmed along a trace, in order. -/
def shutdownReplies (t : List (Event P)) : List Nat := (sent t).filterMap Message.shutdownReply

section Replies

variable {t t' : List (Event P)}

@[simp] lemma initReplies_append : initReplies (t ++ t') = initReplies t ++ initReplies t' := by
  simp [initReplies]

@[simp] lemma shutdownReplies_append :
    shutdownReplies (t ++ t') = shutdownReplies t ++ shutdownReplies t' := by
  simp [shutdownReplies]

lemma initReplies_of_sent (h : sent t = []) : initReplies t = [] := by simp [initReplies, h]

lemma shutdownReplies_of_sent (h : sent t = []) : shutdownReplies t = [] := by
  simp [shutdownReplies, h]

end Replies

/-- From `a` to `a'`, which appended `u` to the trace: the confirmations `u` sent for each
request, followed by the request `a'` stores, are the request `a` stores. -/
structure RequestLedger (a : ActorBase P) (u : List (Event P)) (a' : ActorBase P) : Prop where
  trace : a'.trace = a.trace ++ u
  init : initReplies u ++ a'.initRequest.toList = a.initRequest.toList
  shutdown : shutdownReplies u ++ a'.shutdownRequest.toList = a.shutdownRequest.toList

namespace RequestLedger

variable {a b c : ActorBase P} {u v : List (Event P)}

lemma refl (a : ActorBase P) : RequestLedger a [] a := ⟨by simp, rfl, rfl⟩

lemma trans (h : RequestLedger a u b) (h' : RequestLedger b v c) : RequestLedger a (u ++ v) c where
  trace := by rw [h'.trace, h.trace, List.append_assoc]
  init := by rw [initReplies_append, List.append_assoc, h'.init, h.init]
  shutdown := by rw [shutdownReplies_append, List.append_assoc, h'.shutdown, h.shutdown]

/-- A step that sends nothing and leaves both requests as they are. -/
lemma quiet (ht : b.trace = a.trace ++ u) (hu : sent u = []) (hi : b.initRequest = a.initRequest)
    (hs : b.shutdownRequest = a.shutdownRequest) : RequestLedger a u b :=
  ⟨ht, by simp [initReplies_of_sent hu, hi], by simp [shutdownReplies_of_sent hu, hs]⟩

end RequestLedger

/-- No step but `init_finish` and `shutdown_finish` sends a confirmation or changes a
request. -/
lemma RequestLedger.opsKeep : OpsKeep (RequestLedger (P := P)) where
  refl := .refl
  trans h h' := h.trans h'
  setState _ _ := .quiet (List.append_nil _).symm rfl rfl rfl
  installPlugin _ _ _ := .quiet (by simp) rfl (by simp) (by simp)
  setSlot _ _ _ := .quiet (by simp) rfl (by simp) (by simp)
  handleInit _ _ _ := .quiet (by simp) (by simp) (by simp) (by simp [ActorBase.handleInit])
  popInit _ := .quiet (by simp) rfl rfl rfl
  handleShutdown _ _ _ := .quiet (by simp) (by simp) (by simp [ActorBase.handleShutdown]) (by simp)
  popShutdown _ := .quiet (by simp) rfl rfl rfl
  initFinish h := by
    obtain ⟨r, hr, rfl⟩ := Option.map_eq_some'.mp h
    exact ⟨_, rfl, by simp [hr, initReplies], by simp [shutdownReplies]⟩
  shutdownFinish a := by
    refine ⟨a.shutdownRequest.toList.map fun r => .send (.shutdownConfirmation r), ?_⟩
    cases hr : a.shutdownRequest with
    | none =>
      exact .quiet (by simp [hr]) rfl (by simp [ActorBase.shutdownFinish, hr]) (by simp [hr])
    | some r => exact ⟨by simp [hr], by simp [ActorBase.shutdownFinish, hr, initReplies],
        by simp [ActorBase.shutdownFinish, hr, shutdownReplies]⟩
  doShutdown _ := ⟨rfl, rfl, rfl⟩

variable [DecidableEq P]

/-- Along every run of operations, the confirmations sent for each request, followed by the
request still stored, are the request stored at the start: each request is confirmed at most
once, with its own identity. -/
theorem requests_confirmed_at_most_once (a a' : ActorBase P) (ops : List (Op P))
    (h : a.runOps ops = some a') :
    ∃ u, a'.trace = a.trace ++ u ∧
      initReplies u ++ a'.initRequest.toList = a.initRequest.toList ∧
      shutdownReplies u ++ a'.shutdownRequest.toList = a.shutdownRequest.toList :=
  let ⟨u, hl⟩ := RequestLedger.opsKeep.runOps ops a a' h
  ⟨u, hl.trace, hl.init, hl.shutdown⟩

/-- An actor with both requests stored runs its whole lifecycle, with empty slots, and then
`do_shutdown`: each request is confirmed once, and the trigger is no confirmation. -/
theorem requests_confirmed_at_most_once_lifecycle :
    let a : ActorBase Nat := { ActorBase.ofConfig id [] with
      initRequest := some 7, shutdownRequest := some 8 }
    let ops : List (Op Nat) := [.call .initStart, .call (.initContinue []), .call .onStart,
      .call .shutdownStart, .call (.shutdownContinue []), .call .doShutdown]
    ∃ a', a.runOps ops = some a' ∧
      a'.trace = [.send (.initializeConfirmation 7), .send (.shutdownConfirmation 8),
        .send .shutdownTrigger] ∧
      ∃ u, a'.trace = a.trace ++ u ∧
        initReplies u ++ a'.initRequest.toList = a.initRequest.toList ∧
        shutdownReplies u ++ a'.shutdownRequest.toList = a.shutdownRequest.toList :=
  ⟨_, rfl, rfl, requests_confirmed_at_most_once _ _ [.call .initStart, .call (.initContinue []),
    .call .onStart, .call .shutdownStart, .call (.shutdownContinue []), .call .doShutdown] rfl⟩

end Rotor
