import Mathlib.Data.List.Forall2
import SchcWork.Library.LossyNetwork

/-- The frames that the node absorbed in a trace, oldest first. -/
def NetworkNode.absorbed {State Action Output Frame : Type} (node : NetworkNode State Action Output Frame)
    (trace : List (Action × Output)) : List Frame :=
  trace.filterMap fun record => node.absorbs record.1

theorem NetworkNode.emitted_concat {State Action Output Frame : Type} (node : NetworkNode State Action Output Frame)
    (trace : List (Action × Output)) (action : Action) (output : Output) :
    node.emitted (trace ++ [(action, output)]) = node.emitted trace ++ (node.emits output).toList :=
  filterMap_concat _ _ _

theorem NetworkNode.absorbed_concat {State Action Output Frame : Type} (node : NetworkNode State Action Output Frame)
    (trace : List (Action × Output)) (action : Action) (output : Output) :
    node.absorbed (trace ++ [(action, output)]) = node.absorbed trace ++ (node.absorbs action).toList :=
  filterMap_concat _ _ _

namespace LossyNetwork

variable {Node : Type} {State Output : Node → Type} {Action Frame : Type}

/-- The queue to a node after an action, which takes the oldest frame when it absorbs one. -/
def dequeue (network : LossyNetwork Node State Output Action Frame) (configuration : Configuration State Frame)
    (node : Node) (action : Action) : Option (List Frame) :=
  match (network.nodes node).absorbs action, configuration.sent (network.peer node) with
  | none, queue => some queue
  | some delivered, oldest :: rest => if network.relays oldest delivered then some rest else none
  | some _, [] => none

variable {network : LossyNetwork Node State Output Action Frame}

theorem dequeue_none {configuration : Configuration State Frame} {node : Node} {action : Action}
    (absorbs : (network.nodes node).absorbs action = none) :
    network.dequeue configuration node action = some (configuration.sent (network.peer node)) := by
  rw [dequeue, absorbs]

theorem dequeue_oldest {configuration : Configuration State Frame} {node : Node} {action : Action}
    {delivered oldest : Frame} {rest : List Frame} (absorbs : (network.nodes node).absorbs action = some delivered)
    (queue : configuration.sent (network.peer node) = oldest :: rest)
    (relayed : network.relays oldest delivered = true) :
    network.dequeue configuration node action = some rest := by
  simp only [dequeue, absorbs, queue, relayed, if_true]

/-- A step keeps the queue or takes its oldest frame. -/
theorem dequeue_cases {configuration : Configuration State Frame} {node : Node} {action : Action} {queue : List Frame}
    (dequeued : network.dequeue configuration node action = some queue) :
    ((network.nodes node).absorbs action = none ∧ queue = configuration.sent (network.peer node)) ∨
      ∃ delivered oldest, (network.nodes node).absorbs action = some delivered ∧
        configuration.sent (network.peer node) = oldest :: queue ∧ network.relays oldest delivered = true := by
  unfold dequeue at dequeued
  split at dequeued
  · rename_i absorbs
    exact Or.inl ⟨absorbs, (Option.some.inj dequeued).symm⟩
  · rename_i delivered oldest rest absorbs waiting
    obtain ⟨relayed, same⟩ := Option.ite_none_right_eq_some.mp dequeued
    rw [← Option.some.inj same]
    exact Or.inr ⟨delivered, oldest, absorbs, waiting, relayed⟩
  · contradiction

variable [DecidableEq Node]

/-- The queue to the node is replaced. -/
def Configuration.withQueue (network : LossyNetwork Node State Output Action Frame)
    (configuration : Configuration State Frame) (node : Node) (queue : List Frame) : Configuration State Frame where
  states := configuration.states
  sent := Function.update configuration.sent (network.peer node) queue

/-- Each step of the network is a step of one node, and the links keep the frames on their way. -/
def ordered (network : LossyNetwork Node State Output Action Frame) :
    LabelledSystem (Configuration State Frame) (Node × Action) (Σ node, Output node) where
  initial := network.system.initial
  step configuration move :=
    (network.dequeue configuration move.1 move.2).bind fun queue =>
      ((network.nodes move.1).system.step (configuration.states move.1) move.2).map fun taken =>
        ((configuration.withQueue network move.1 queue).update network move.1 taken.1 taken.2, ⟨move.1, taken.2⟩)

theorem withQueue_sent (configuration : Configuration State Frame) (node : Node) (queue : List Frame) :
    (configuration.withQueue network node queue).sent =
      Function.update configuration.sent (network.peer node) queue :=
  rfl

theorem ordered_cases {configuration next : Configuration State Frame} {move : Node × Action}
    {output : Σ node, Output node} (taken : network.ordered.step configuration move = some (next, output)) :
    ∃ node action state emitted queue, move = (node, action) ∧ output = ⟨node, emitted⟩ ∧
      network.dequeue configuration node action = some queue ∧
      (network.nodes node).system.step (configuration.states node) action = some (state, emitted) ∧
      next = (configuration.withQueue network node queue).update network node state emitted := by
  obtain ⟨node, action⟩ := move
  obtain ⟨queue, dequeued, stepped⟩ := Option.bind_eq_some_iff.mp taken
  obtain ⟨⟨state, emitted⟩, moved, same⟩ := Option.map_eq_some_iff.mp stepped
  obtain ⟨rfl, rfl⟩ := Prod.mk.inj same
  exact ⟨node, action, state, emitted, queue, rfl, rfl, dequeued, moved, rfl⟩

/-- The lossy links hold every frame that the ordered links still have. -/
structure Covers (lossy configuration : Configuration State Frame) : Prop where
  states : lossy.states = configuration.states
  sent : ∀ node, configuration.sent node ⊆ lossy.sent node

/-- Every step over ordered links is a step over lossy links. -/
theorem Covers.step {lossy configuration next : Configuration State Frame} {move : Node × Action}
    {output : Σ node, Output node} (covers : Covers lossy configuration)
    (taken : network.ordered.step configuration move = some (next, output)) :
    ∃ other, network.system.step lossy move = some (other, output) ∧ Covers other next := by
  obtain ⟨node, action, state, emitted, queue, rfl, rfl, dequeued, moved, rfl⟩ := ordered_cases taken
  have offered : network.offers lossy node action = true := by
    unfold offers
    rcases dequeue_cases dequeued with ⟨absorbs, -⟩ | ⟨delivered, oldest, absorbs, waiting, relayed⟩
    · rw [absorbs, Option.all_none]
    · rw [absorbs, Option.all_some, List.any_eq_true]
      exact ⟨oldest, covers.sent _ (by rw [waiting]; exact List.mem_cons_self), relayed⟩
  have kept : ∀ other, (configuration.withQueue network node queue).sent other ⊆ lossy.sent other := by
    intro other
    by_cases same : other = network.peer node
    · subst same
      rw [withQueue_sent, Function.update_self]
      apply List.Subset.trans _ (covers.sent _)
      rcases dequeue_cases dequeued with ⟨-, rfl⟩ | ⟨delivered, oldest, -, waiting, -⟩
      · exact List.Subset.refl _
      · rw [waiting]
        exact List.subset_cons_self _ _
    · rw [withQueue_sent, Function.update_of_ne same]
      exact covers.sent other
  refine ⟨lossy.update network node state emitted, ?_, ?_, ?_⟩
  · simp only [system, offered, if_true, covers.states, moved, Option.map_some]
  · rw [Configuration.update_states, Configuration.update_states, covers.states]
    rfl
  · intro other
    rw [Configuration.update_sent, Configuration.update_sent]
    by_cases same : other = node
    · subst same
      rw [Function.update_self, Function.update_self]
      intro frame member
      exact List.mem_append.mpr ((List.mem_append.mp member).imp_left fun waiting => kept _ waiting)
    · rw [Function.update_of_ne same, Function.update_of_ne same]
      exact kept other

/-- Every run over ordered links is a run over lossy links. -/
theorem run_lossy {configuration : Configuration State Frame}
    {trace : List ((Node × Action) × Σ node, Output node)} (run : network.ordered.Run configuration trace) :
    ∃ lossy, network.system.Run lossy trace ∧ Covers lossy configuration := by
  induction run with
  | start initial => exact ⟨_, .start initial, rfl, fun _ => List.Subset.refl _⟩
  | extend previous taken ih =>
      obtain ⟨lossy, run, covers⟩ := ih
      obtain ⟨other, stepped, still⟩ := covers.step taken
      exact ⟨other, run.extend stepped, still⟩

/-- Every run over ordered links is a run of each node. -/
theorem run_local {configuration : Configuration State Frame}
    {trace : List ((Node × Action) × Σ node, Output node)} (run : network.ordered.Run configuration trace)
    (node : Node) : (network.nodes node).system.Run (configuration.states node) (localTrace node trace) := by
  obtain ⟨lossy, run, covers⟩ := run_lossy run
  rw [← covers.states]
  exact (run_faithful run node).run

/-- The nodes form pairs. -/
structure Paired (network : LossyNetwork Node State Output Action Frame) : Prop where
  back : ∀ node, network.peer (network.peer node) = node
  apart : ∀ node, network.peer node ≠ node

/-- The peer of a node absorbed these frames, and the others are on their way. -/
def Absorbs (network : LossyNetwork Node State Output Action Frame) (configuration : Configuration State Frame)
    (trace : List ((Node × Action) × Σ node, Output node)) (node : Node) (received : List Frame) : Prop :=
  (network.nodes node).emitted (localTrace node trace) = received ++ configuration.sent node ∧
    List.Forall₂ (fun sent delivered => network.relays sent delivered = true) received
      ((network.nodes (network.peer node)).absorbed (localTrace (network.peer node) trace))

/-- A node absorbs the frames of its peer once and in their order, and the queue holds the others. -/
theorem run_absorbs (paired : network.Paired) {configuration : Configuration State Frame}
    {trace : List ((Node × Action) × Σ node, Output node)} (run : network.ordered.Run configuration trace)
    (node : Node) : ∃ received, network.Absorbs configuration trace node received := by
  induction run with
  | start initial =>
      refine ⟨[], ?_, .nil⟩
      rw [(initial node).2]
      rfl
  | @extend before next trace move output previous taken ih =>
      obtain ⟨received, balance, related⟩ := ih
      obtain ⟨mover, action, state, emitted, queue, rfl, rfl, dequeued, -, rfl⟩ := ordered_cases taken
      by_cases sends : mover = node
      · subst sends
        refine ⟨received, ?_, ?_⟩
        · rw [localTrace_append, localTrace_self, NetworkNode.emitted_concat, balance, Configuration.update_sent,
            Function.update_self, withQueue_sent, Function.update_of_ne (paired.apart _).symm,
            List.append_assoc]
        · rw [localTrace_append, localTrace_other (paired.apart _).symm, List.append_nil]
          exact related
      · have queued : ((before.withQueue network mover queue).update network mover state emitted).sent node =
            (before.withQueue network mover queue).sent node := by
          rw [Configuration.update_sent, Function.update_of_ne (Ne.symm sends)]
        unfold Absorbs
        rw [localTrace_append, localTrace_other sends, List.append_nil, queued]
        by_cases receives : mover = network.peer node
        · subst receives
          have back := paired.back node
          rw [localTrace_append, localTrace_self, NetworkNode.absorbed_concat, withQueue_sent, back,
            Function.update_self]
          rcases dequeue_cases dequeued with ⟨absorbs, rfl⟩ | ⟨delivered, oldest, absorbs, waiting, relayed⟩
          · rw [absorbs, Option.toList_none, List.append_nil, back]
            exact ⟨received, balance, related⟩
          · rw [back] at waiting
            rw [absorbs, Option.toList_some]
            refine ⟨received ++ [oldest], ?_, List.rel_append related (.cons relayed .nil)⟩
            rw [balance, waiting, List.append_assoc, List.singleton_append]
        · have other : node ≠ network.peer mover := by
            rintro rfl
            exact receives (paired.back mover).symm
          rw [localTrace_append, localTrace_other receives, List.append_nil, withQueue_sent,
            Function.update_of_ne other]
          exact ⟨received, balance, related⟩

/-- The record of a step of one node. -/
def nodeRecord (node : Node) (record : Action × Output node) : (Node × Action) × Σ node, Output node :=
  ((node, record.1), ⟨node, record.2⟩)

theorem localRecord_nodeRecord (node : Node) (record : Action × Output node) :
    localRecord node (nodeRecord node record) = some record :=
  localRecord_self node record.1 record.2

theorem localTrace_nodeRecord (node : Node) (trace : List (Action × Output node)) :
    localTrace node (trace.map (nodeRecord node)) = trace := by
  induction trace with
  | nil => rfl
  | cons record rest ih =>
      rw [List.map_cons, localTrace, List.filterMap_cons_some (localRecord_nodeRecord node record)]
      exact congrArg (record :: ·) ih

theorem localTrace_nodeRecord_other {node other : Node} (different : node ≠ other)
    (trace : List (Action × Output node)) : localTrace other (trace.map (nodeRecord node)) = [] := by
  induction trace with
  | nil => rfl
  | cons record rest ih =>
      have nothing : localRecord other (nodeRecord node record) = none :=
        localRecord_other different record.1 record.2
      rw [List.map_cons, localTrace, List.filterMap_cons_none nothing]
      exact ih

theorem ordered_step {configuration : Configuration State Frame} {node : Node} {action : Action} {queue : List Frame}
    {state : State node} {output : Output node} (dequeued : network.dequeue configuration node action = some queue)
    (taken : (network.nodes node).system.step (configuration.states node) action = some (state, output)) :
    network.ordered.step configuration (node, action) =
      some ((configuration.withQueue network node queue).update network node state output, ⟨node, output⟩) := by
  simp only [ordered, dequeued, Option.bind_some, taken, Option.map_some]

/-- The links are unchanged but for the frames that the node sent. -/
structure AfterSending (network : LossyNetwork Node State Output Action Frame)
    (configuration next : Configuration State Frame) (node : Node) (state : State node) (frames : List Frame) :
    Prop where
  states : next.states = Function.update configuration.states node state
  sent : next.sent = Function.update configuration.sent node (configuration.sent node ++ frames)

/-- A schedule of one node that absorbs no frame is a schedule of the network. -/
theorem exec_quiet {configuration : Configuration State Frame} {node : Node} {actions : List Action}
    {final : State node} {trace : List (Action × Output node)}
    (executed : (network.nodes node).system.exec (configuration.states node) actions = some (final, trace))
    (quiet : ∀ action ∈ actions, (network.nodes node).absorbs action = none) :
    ∃ next, network.ordered.exec configuration (actions.map (node, ·)) = some (next, trace.map (nodeRecord node)) ∧
      network.AfterSending configuration next node final ((network.nodes node).emitted trace) := by
  induction actions generalizing configuration trace with
  | nil =>
      obtain ⟨rfl, rfl⟩ := Prod.mk.inj (Option.some.inj executed)
      refine ⟨configuration, rfl, (Function.update_eq_self _ _).symm, ?_⟩
      rw [NetworkNode.emitted, List.filterMap_nil, List.append_nil, Function.update_eq_self]
  | cons action rest ih =>
      obtain ⟨⟨state, output⟩, taken, remaining⟩ := Option.bind_eq_some_iff.mp executed
      obtain ⟨⟨last, tail⟩, executedRest, same⟩ := Option.map_eq_some_iff.mp remaining
      obtain ⟨rfl, rfl⟩ := Prod.mk.inj same
      have dequeued := @dequeue_none _ _ _ _ _ network configuration _ _ (quiet action List.mem_cons_self)
      have stepped := ordered_step dequeued taken
      generalize made : (configuration.withQueue network node (configuration.sent (network.peer node))).update
        network node state output = next at stepped
      have states : next.states = Function.update configuration.states node state := by rw [← made]; rfl
      have sent : next.sent = Function.update configuration.sent node
          (configuration.sent node ++ ((network.nodes node).emits output).toList) := by
        rw [← made, Configuration.update_sent, withQueue_sent, Function.update_eq_self]
      have here : next.states node = state := by rw [states, Function.update_self]
      obtain ⟨after, continued, afterSending⟩ := @ih next tail (by rw [here]; exact executedRest)
        fun other member => quiet other (List.mem_cons_of_mem _ member)
      refine ⟨after, ?_, ?_, ?_⟩
      · rw [List.map_cons, LabelledSystem.exec, stepped, Option.bind_some, continued]
        rfl
      · rw [afterSending.states, states, Function.update_idem]
      · rw [afterSending.sent, sent, Function.update_self, Function.update_idem, List.append_assoc]
        apply congrArg (Function.update configuration.sent node)
        apply congrArg (configuration.sent node ++ ·)
        exact (filterMap_cons_toList (fun record : Action × Output node => (network.nodes node).emits record.2)
          (action, output) tail).symm

/-- A node can always absorb a frame of its peer, and it sends nothing then. -/
structure Drains (network : LossyNetwork Node State Output Action Frame) (node : Node)
    (deliver : Frame → Action) : Prop where
  absorbs : ∀ frame, (network.nodes node).absorbs (deliver frame) = some frame
  relays : ∀ frame, network.relays frame frame = true
  enabled : ∀ state frame, ∃ next output, (network.nodes node).system.step state (deliver frame) = some (next, output) ∧
    (network.nodes node).emits output = none

/-- These actions empty the queue to a node, and the node takes them one after the other. -/
structure Drained (network : LossyNetwork Node State Output Action Frame)
    (configuration final : Configuration State Frame) (node : Node) (actions : List Action)
    (trace : List (Action × Output node)) : Prop where
  executed : network.ordered.exec configuration (actions.map (node, ·)) = some (final, trace.map (nodeRecord node))
  alone : (network.nodes node).system.exec (configuration.states node) actions = some (final.states node, trace)
  empty : final.sent (network.peer node) = []

/-- Deliveries to a node empty the queue to it. -/
theorem exec_drain (paired : network.Paired) {node : Node} {deliver : Frame → Action}
    (drains : network.Drains node deliver) (frames : List Frame) {configuration : Configuration State Frame}
    (queue : configuration.sent (network.peer node) = frames) :
    ∃ final trace, network.Drained configuration final node (frames.map deliver) trace := by
  induction frames generalizing configuration with
  | nil => exact ⟨configuration, [], rfl, rfl, queue⟩
  | cons frame rest ih =>
      obtain ⟨state, output, taken, silent⟩ := drains.enabled (configuration.states node) frame
      have stepped := ordered_step (dequeue_oldest (drains.absorbs frame) queue (drains.relays frame)) taken
      generalize made : (configuration.withQueue network node rest).update network node state output = next at stepped
      have sent : next.sent (network.peer node) = rest := by
        rw [← made, Configuration.update_sent, Function.update_of_ne (paired.apart node), withQueue_sent,
          Function.update_self]
      have here : next.states node = state := by rw [← made, Configuration.update_states, Function.update_self]
      obtain ⟨final, trace, continued, alone, empty⟩ := ih sent
      refine ⟨final, (deliver frame, output) :: trace, ?_, ?_, empty⟩
      · rw [List.map_cons, List.map_cons, LabelledSystem.exec, stepped, Option.bind_some, continued]
        rfl
      · rw [here] at alone
        rw [List.map_cons, LabelledSystem.exec, taken, Option.bind_some, alone]
        rfl

end LossyNetwork
