import Rotor.Actor.Basic

/-!
# `unsubscribe`

`unsubscribe(h, addr, callback)` tells the actor that owns the handler `h` that `h` is no longer
subscribed at `addr`. When this actor is the supervisor of `addr`, it confirms at once with an
`unsubscription_confirmation_t`, which carries the callback: the payload's destructor runs the
callback when the message is destroyed after delivery. Otherwise it forwards an
`external_unsubscription_t`, which has no room for a callback, and asserts that there is none.
-/

namespace Rotor

/-- `subscription_point_t{h, addr}`: a handler and the address it is subscribed at. -/
structure SubscriptionPoint (H A : Type) where
  handler : H
  address : A
  deriving DecidableEq, Repr

/-- The payloads `unsubscribe` sends. -/
inductive UnsubscribePayload (H A C : Type) where
  /-- `payload::unsubscription_confirmation_t{point, callback}`. -/
  | unsubscriptionConfirmation (point : SubscriptionPoint H A) (callback : Option C)
  /-- `payload::external_unsubscription_t{point}`. -/
  | externalUnsubscription (point : SubscriptionPoint H A)

namespace UnsubscribePayload

variable {H A C : Type}

/-- The subscription point a payload names. -/
@[simp] def point : UnsubscribePayload H A C → SubscriptionPoint H A
  | .unsubscriptionConfirmation point _ => point
  | .externalUnsubscription point => point

/-- The callbacks run when the message holding the payload is destroyed:
`~unsubscription_confirmation_t` runs its callback if it is set, and `external_unsubscription_t`
has none. -/
@[simp] def destroy : UnsubscribePayload H A C → List C
  | .unsubscriptionConfirmation _ callback => callback.toList
  | .externalUnsubscription _ => []

end UnsubscribePayload

variable {S H A C : Type} [DecidableEq S]

/-- `unsubscribe(h, addr, callback)` on the actor `self`: the destination `h->actor_ptr->address`
and the payload sent; `none` when `assert(!callback)` fails. `supervisorOf addr` stands for
`&addr->supervisor`. -/
def unsubscribe (self : S) (supervisorOf : A → S) (actorAddress : H → A) (h : H) (addr : A)
    (callback : Option C) : Option (A × UnsubscribePayload H A C) :=
  let dest := actorAddress h
  let point : SubscriptionPoint H A := ⟨h, addr⟩
  if supervisorOf addr = self then some (dest, .unsubscriptionConfirmation point callback)
  else if callback.isNone then some (dest, .externalUnsubscription point)
  else none

end Rotor
