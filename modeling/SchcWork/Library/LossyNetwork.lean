import Mathlib.Data.List.Basic
import Mathlib.Logic.Function.Basic
import SchcWork.Library.LabelledSystem

/-- A node emits frames with its outputs and absorbs frames with its actions. -/
structure NetworkNode (State Action Output Frame : Type) where
  system : LabelledSystem State Action Output
  emits : Output → Option Frame
  absorbs : Action → Option Frame

/-- The frames that the node emitted in a trace, oldest first. -/
def NetworkNode.emitted {State Action Output Frame : Type} (node : NetworkNode State Action Output Frame)
    (trace : List (Action × Output)) : List Frame :=
  trace.filterMap fun record => node.emits record.2

/-- The links connect each node with its peer, and they may change a frame within a relation. -/
structure LossyNetwork (Node : Type) (State Output : Node → Type) (Action Frame : Type) where
  nodes : ∀ node, NetworkNode (State node) Action (Output node) Frame
  peer : Node → Node
  relays : Frame → Frame → Bool

namespace LossyNetwork

variable {Node : Type} [DecidableEq Node] {State Output : Node → Type} {Action Frame : Type}

/-- The links keep every frame that a node emitted. -/
structure Configuration (State : Node → Type) (Frame : Type) where
  states : ∀ node, State node
  sent : Node → List Frame

/-- The links offer an action when a sent frame of the peer explains the frame that it absorbs. -/
def offers (network : LossyNetwork Node State Output Action Frame) (configuration : Configuration State Frame)
    (node : Node) (action : Action) : Bool :=
  ((network.nodes node).absorbs action).all fun delivered =>
    (configuration.sent (network.peer node)).any fun sent => network.relays sent delivered

/-- The node takes its step, and the links keep the frame that it emits. -/
def Configuration.update (network : LossyNetwork Node State Output Action Frame)
    (configuration : Configuration State Frame) (node : Node) (next : State node) (output : Output node) :
    Configuration State Frame where
  states := Function.update configuration.states node next
  sent := Function.update configuration.sent node
    (configuration.sent node ++ ((network.nodes node).emits output).toList)

/-- Each step of the network is a step of one node. -/
def system (network : LossyNetwork Node State Output Action Frame) :
    LabelledSystem (Configuration State Frame) (Node × Action) (Σ node, Output node) where
  initial configuration :=
    ∀ node, (network.nodes node).system.initial (configuration.states node) ∧ configuration.sent node = []
  step configuration move :=
    if network.offers configuration move.1 move.2 then
      ((network.nodes move.1).system.step (configuration.states move.1) move.2).map fun taken =>
        (configuration.update network move.1 taken.1 taken.2, ⟨move.1, taken.2⟩)
    else none

/-- The part of one record that belongs to a node. -/
def localRecord (node : Node) (record : (Node × Action) × Σ node, Output node) : Option (Action × Output node) :=
  if same : record.2.1 = node then some (record.1.2, same ▸ record.2.2) else none

/-- The part of a trace that belongs to a node. -/
def localTrace (node : Node) (trace : List ((Node × Action) × Σ node, Output node)) : List (Action × Output node) :=
  trace.filterMap (localRecord node)

variable {network : LossyNetwork Node State Output Action Frame}

theorem Configuration.update_states (configuration : Configuration State Frame) (node : Node) (next : State node)
    (output : Output node) :
    (configuration.update network node next output).states = Function.update configuration.states node next :=
  rfl

theorem Configuration.update_sent (configuration : Configuration State Frame) (node : Node) (next : State node)
    (output : Output node) :
    (configuration.update network node next output).sent = Function.update configuration.sent node
      (configuration.sent node ++ ((network.nodes node).emits output).toList) :=
  rfl

/-- A step of the network is an offered step of one node. -/
theorem step_cases {configuration next : Configuration State Frame} {move : Node × Action}
    {output : Σ node, Output node} (taken : network.system.step configuration move = some (next, output)) :
    ∃ node action state emitted, move = (node, action) ∧ output = ⟨node, emitted⟩ ∧
      network.offers configuration node action = true ∧
      (network.nodes node).system.step (configuration.states node) action = some (state, emitted) ∧
      next = configuration.update network node state emitted := by
  obtain ⟨node, action⟩ := move
  simp only [system] at taken
  split at taken
  · rename_i offered
    obtain ⟨⟨state, emitted⟩, stepped, same⟩ := Option.map_eq_some_iff.mp taken
    obtain ⟨rfl, rfl⟩ := Prod.mk.inj same
    exact ⟨node, action, state, emitted, rfl, rfl, offered, stepped, rfl⟩
  · contradiction

@[simp] theorem localRecord_self (node : Node) (action : Action) (output : Output node) :
    localRecord node ((node, action), ⟨node, output⟩) = some (action, output) :=
  dif_pos rfl

theorem localRecord_other {node other : Node} (different : node ≠ other) (action : Action) (output : Output node) :
    localRecord other ((node, action), ⟨node, output⟩) = none :=
  dif_neg different

theorem localTrace_append (node : Node) (first second : List ((Node × Action) × Σ node, Output node)) :
    localTrace node (first ++ second) = localTrace node first ++ localTrace node second :=
  List.filterMap_append

theorem localTrace_self (node : Node) (action : Action) (output : Output node) :
    localTrace node [((node, action), ⟨node, output⟩)] = [(action, output)] := by
  rw [localTrace, List.filterMap_cons_some (localRecord_self node action output), List.filterMap_nil]

theorem localTrace_other {node other : Node} (different : node ≠ other) (action : Action) (output : Output node) :
    localTrace other [((node, action), ⟨node, output⟩)] = [] := by
  rw [localTrace, List.filterMap_cons_none (localRecord_other different action output), List.filterMap_nil]

/-- The part of a node is a run of the node, and the links hold what the node emitted in it. -/
structure Faithful (network : LossyNetwork Node State Output Action Frame)
    (configuration : Configuration State Frame) (trace : List ((Node × Action) × Σ node, Output node))
    (node : Node) : Prop where
  run : (network.nodes node).system.Run (configuration.states node) (localTrace node trace)
  sent : configuration.sent node = (network.nodes node).emitted (localTrace node trace)

/-- A step of one node keeps the other parts and extends its own part. -/
theorem Faithful.extend {configuration : Configuration State Frame}
    {trace : List ((Node × Action) × Σ node, Output node)} {node other : Node} {action : Action} {state : State node}
    {output : Output node} (faithful : network.Faithful configuration trace other)
    (stepped : (network.nodes node).system.step (configuration.states node) action = some (state, output)) :
    network.Faithful (configuration.update network node state output)
      (trace ++ [((node, action), ⟨node, output⟩)]) other := by
  obtain ⟨run, sent⟩ := faithful
  by_cases same : node = other
  · subst same
    constructor
    · rw [localTrace_append, localTrace_self, Configuration.update_states, Function.update_self]
      exact run.extend stepped
    · rw [localTrace_append, localTrace_self, Configuration.update_sent, Function.update_self, sent,
        NetworkNode.emitted, NetworkNode.emitted, List.filterMap_append]
      rfl
  · constructor
    · rw [localTrace_append, localTrace_other same, List.append_nil, Configuration.update_states,
        Function.update_of_ne (Ne.symm same)]
      exact run
    · rw [localTrace_append, localTrace_other same, List.append_nil, Configuration.update_sent,
        Function.update_of_ne (Ne.symm same)]
      exact sent

/-- Every run of the network is a run of each node. -/
theorem run_faithful {configuration : Configuration State Frame}
    {trace : List ((Node × Action) × Σ node, Output node)} (run : network.system.Run configuration trace)
    (node : Node) : network.Faithful configuration trace node := by
  induction run with
  | start initial => exact ⟨.start (initial node).1, (initial node).2⟩
  | extend previous taken ih =>
      obtain ⟨mover, action, state, output, rfl, rfl, -, stepped, rfl⟩ := step_cases taken
      exact ih.extend stepped

/-- At each record a node takes its step, and an earlier frame of its peer explains the frame that it absorbs. -/
theorem run_explained {configuration : Configuration State Frame}
    {earlier later : List ((Node × Action) × Σ node, Output node)} {node : Node} {action : Action}
    {output : Output node}
    (run : network.system.Run configuration (earlier ++ ((node, action), ⟨node, output⟩) :: later)) :
    ∃ before after, network.system.Run before earlier ∧
      (network.nodes node).system.step (before.states node) action = some (after, output) ∧
      ∀ delivered, (network.nodes node).absorbs action = some delivered →
        ∃ sent ∈ (network.nodes (network.peer node)).emitted (localTrace (network.peer node) earlier),
          network.relays sent delivered = true := by
  obtain ⟨before, after, previous, taken⟩ := run.split
  obtain ⟨mover, moved, state, emitted, sameMove, sameOutput, offered, stepped, -⟩ := step_cases taken
  obtain ⟨rfl, rfl⟩ := Prod.mk.inj sameMove
  obtain rfl := eq_of_heq (Sigma.mk.inj sameOutput).2
  refine ⟨before, state, previous, stepped, ?_⟩
  intro delivered absorbed
  rw [offers, absorbed, Option.all_some, List.any_eq_true] at offered
  rw [← (run_faithful previous (network.peer node)).sent]
  exact offered

end LossyNetwork
