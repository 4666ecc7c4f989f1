import KvsProducer.CurlApi.Shutdown
import KvsProducer.Lib.TransitionSystem

/-!
# The curl API callbacks as a transition system

Any number of API calls with their handlers and of shutdown calls, in any
order of steps.  An identifier stands for one call and is never used again.
-/

namespace KvsProducer

namespace CurlApi

open TransitionSystem

inductive Action where
  | api (id : JobId) (action : ApiAction)
  | handler (id : JobId) (action : HandlerAction)
  | shutdown (id : ShutdownId) (action : ShutdownAction)
  deriving DecidableEq, Repr

namespace State

def next (state : State) : Action → Option State
  | .api id action => state.apiStep id action
  | .handler id action => state.handlerStep id action
  | .shutdown id action => state.shutdownStep id action

/-- What the steps of the system can do. -/
inductive Step (state : State) : Action → State → Prop where
  | api {id : JobId} {action : ApiAction} {target : State}
      (step : ApiStep state id action target) :
      Step state (.api id action) target
  | handler {id : JobId} {action : HandlerAction} {target : State}
      (step : HandlerStep state id action target) :
      Step state (.handler id action) target
  | shutdown {id : ShutdownId} {action : ShutdownAction} {target : State}
      (step : ShutdownStep state id action target) :
      Step state (.shutdown id action) target

theorem next_cases
    {state target : State} {action : Action}
    (step : state.next action = some target) :
    Step state action target := by
  cases action with
  | api id action => exact .api (apiStep_cases step)
  | handler id action => exact .handler (handlerStep_cases step)
  | shutdown id action => exact .shutdown (shutdownStep_cases step)

end State

/-- The states of runs whose every action meets the condition. -/
abbrev Run (ok : State → Action → Prop) (state : State) : Prop :=
  Steps State.next ok State.initial state

abbrev Reachable (state : State) : Prop :=
  Reaches State.next State.initial state

/-- The state after a list of actions, whatever they are. -/
abbrev State.after (state : State) (actions : List Action) : State :=
  stateAfter State.next (fun _ _ => True) state actions

/-- The actions can be taken one after the other. -/
abbrev State.CanTake (state : State) (actions : List Action) : Prop :=
  (replay State.next (fun _ _ => True) state actions).isSome = true

end CurlApi

end KvsProducer
