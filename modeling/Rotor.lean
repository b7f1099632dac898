import Rotor.Actor.Basic
import Rotor.Actor.Lifecycle
import Rotor.Actor.LifecycleOrder
import Rotor.Plugin.InitQueue
import Rotor.Plugin.ShutdownStack
import Rotor.Plugin.Poll
import Rotor.Plugin.Uninstall
import Rotor.Actor.Ops
import Rotor.Actor.Requests
import Rotor.Actor.Unsubscribe
import Rotor.Plugin.Slots
import Rotor.Plugin.Progress
import Rotor.Activation.Machine
import Rotor.Activation.Bookkeeping
import Rotor.Activation.Cascade
import Rotor.Activation.Precedence
import Rotor.Activation.Loops
