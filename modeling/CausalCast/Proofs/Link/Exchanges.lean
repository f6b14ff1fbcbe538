import CausalCast.Proofs.Link.Loops

/-!
# What a step does to the pipeline

Seen as a whole, the pipeline of a link changes little in one step of a loop:
one message leaves it for good, or another copy comes in the place of one.
Which of the four places it leaves or enters does not matter for what follows,
so the pipeline is taken up to order here.
-/

namespace CausalCast

namespace Message

def isData (message : Message) : Bool :=
  !message.payload.isAck

/-- Two messages that a link does not tell apart: they go to one node, are
copies of one first copy, and are both data or both acknowledgements. -/
structure Alike (left right : Message) : Prop where
  recipient_eq : left.recipient = right.recipient
  original_eq : left.payload.original = right.payload.original
  isData_eq : left.isData = right.isData

theorem Alike.refl (message : Message) : Alike message message :=
  ⟨rfl, rfl, rfl⟩

theorem Alike.trans {first second third : Message} (left : first.Alike second)
    (right : second.Alike third) : first.Alike third :=
  ⟨left.recipient_eq.trans right.recipient_eq,
    left.original_eq.trans right.original_eq,
    left.isData_eq.trans right.isData_eq⟩

end Message

theorem Node.discountUnacked_of_message (node : Node) (message : Message) :
    node.discountUnacked message.payload =
      { node with
        unacked := node.unacked - [message].countP Message.isData } := by
  cases ack : message.payload.isAck <;>
    simp [discountUnacked, Message.isData, ack]

theorem Node.unacked_discountUnacked (node : Node) (message : Message) :
    (node.discountUnacked message.payload).unacked =
      node.unacked - [message].countP Message.isData := by
  rw [discountUnacked_of_message]

namespace Link

/-- The message that the retransmitter looks at next, if its recipient is known
to have seen it. -/
def settling (link : Link) : List Message :=
  let next := link.held <|> link.node.retransmissions.toList.head?
  next.toList.filter link.node.isAcknowledged

section Pipeline

variable {link : Link}

theorem mem_pipeline {message : Message} :
    message ∈ link.pipeline ↔
      message ∈ link.node.sending.toList ∨ message ∈ link.inFlight ∨
        message ∈ link.node.retransmissions.toList ∨
          message ∈ link.held.toList := by
  simp only [pipeline, List.mem_append, or_assoc]

theorem inFlight_of_empty (empty : link.flight = none) :
    link.inFlight = [] := by
  simp [inFlight, empty]

theorem inFlight_of_flying {flight : Flight}
    (flying : link.flight = some flight) :
    link.inFlight = [flight.message] := by
  simp [inFlight, flying]

theorem mem_pipeline_of_flying {flight : Flight}
    (flying : link.flight = some flight) : flight.message ∈ link.pipeline := by
  apply mem_pipeline.mpr
  right
  left
  simp [inFlight_of_flying flying]

end Pipeline

/-- What a step of the sender does to the pipeline and to the count of data. -/
inductive SenderExchange (link after : Link) : Prop where
  /-- A message leaves that cannot be sent, or that need not be kept. -/
  | drop (message : Message)
      (pipeline : link.pipeline.Perm (message :: after.pipeline))
      (useless : message.isData = false ∨
        link.node.departure message = .abandoned)
      (unacked_eq : after.node.unacked =
        link.node.unacked - [message].countP Message.isData)
  /-- Another copy comes in the place of a message. -/
  | replace (old new : Message) (rest : List Message)
      (before : link.pipeline.Perm (old :: rest))
      (behind : after.pipeline.Perm (new :: rest))
      (alike : new.Alike old)
      (unacked_eq : after.node.unacked = link.node.unacked)

theorem SenderMove.exchange {link after : Link} {datagrams : List Datagram}
    (move : SenderMove link after datagrams) : SenderExchange link after := by
  cases move with
  | @abandon message rest empty taken _ departure node_eq flight_eq held_eq =>
      refine .drop message ?_ (.inr departure) ?_
      · simp only [pipeline, node_eq, inFlight_of_empty empty, taken,
          inFlight_of_empty flight_eq, held_eq, Node.sending_discountUnacked,
          Node.retransmissions_discountUnacked]
        exact .refl _
      · rw [node_eq, Node.unacked_discountUnacked]
  | @depart message stamped rest _ _ empty taken _ departure node_eq flight_eq
      held_eq =>
      refine .replace message stamped (rest.toList ++
        (link.node.retransmissions.toList ++ link.held.toList)) ?_ ?_ ?_ ?_
      · simp only [pipeline, inFlight_of_empty empty, taken, List.append_nil,
          List.append_assoc]
        exact .refl _
      · simp only [pipeline, inFlight_of_flying flight_eq, node_eq, held_eq,
          List.append_assoc]
        exact List.perm_middle
      · rw [Node.stamped_of_leaving departure]
        exact ⟨rfl, rfl, rfl⟩
      · rw [node_eq]
  | @forget flight flying ack node_eq flight_eq held_eq =>
      have forgotten : flight.message.isData = false := by
        simp [Message.isData, ack]
      refine .drop flight.message ?_ (.inl forgotten) ?_
      · simp only [pipeline, inFlight_of_flying flying,
          inFlight_of_empty flight_eq, node_eq, held_eq, List.append_assoc,
          List.nil_append]
        exact List.perm_middle
      · simp [node_eq, forgotten]
  | @park flight parked flying data items _ node_eq flight_eq held_eq =>
      refine .replace flight.message
        (flight.message.transmitted link.node.now) (link.node.sending.toList ++
          (link.node.retransmissions.toList ++ link.held.toList)) ?_ ?_ ?_ ?_
      · simp only [pipeline, inFlight_of_flying flying, List.append_assoc]
        exact List.perm_middle
      · simp only [pipeline, inFlight_of_empty flight_eq, node_eq, held_eq,
          items, List.append_nil, List.append_assoc]
        exact (List.perm_middle.append_left _).trans List.perm_middle
      · exact ⟨rfl, rfl, rfl⟩
      · rw [node_eq]

/-- What a step of the retransmitter does to the pipeline and to the count of
data. -/
inductive RetransmitterExchange (link after : Link) : Prop where
  /-- A message leaves whose recipient has seen it. -/
  | settle (message : Message)
      (pipeline : link.pipeline.Perm (message :: after.pipeline))
      (settling_eq : link.settling = [message])
      (waiting : message ∈
        link.node.retransmissions.toList ++ link.held.toList)
      (unacked_eq : after.node.unacked = link.node.unacked - 1)
  /-- A message moves on. -/
  | keep (pipeline : link.pipeline.Perm after.pipeline)
      (settling_eq : link.settling = [])
      (unacked_eq : after.node.unacked = link.node.unacked)

theorem RetransmitterMove.exchange {link after : Link}
    (move : RetransmitterMove link after) :
    RetransmitterExchange link after := by
  have hand : after.inFlight = link.inFlight := by
    have flights : after.flight = link.flight := by
      cases move <;> assumption
    rw [inFlight, flights, inFlight]
  cases move with
  | @settleNext message rest empty taken _ seen node_eq flight_eq held_eq =>
      refine .settle message ?_ ?_ ?_ ?_
      · simp only [pipeline, hand, node_eq, held_eq, empty, taken, Node.settle,
          Option.toList_none, List.append_nil]
        exact List.perm_middle
      · simp [settling, empty, taken, seen]
      · simp [taken]
      · rw [node_eq]
        rfl
  | @hold message rest empty taken _ unseen node_eq flight_eq held_eq =>
      refine .keep ?_ ?_ ?_
      · simp only [pipeline, hand, node_eq, held_eq, empty, taken,
          Option.toList_none, Option.toList_some, List.append_nil]
        exact List.perm_middle.trans (List.perm_append_singleton _ _).symm
      · simp [settling, empty, taken, unseen]
      · rw [node_eq]
  | @settleHeld message holding seen node_eq flight_eq held_eq =>
      refine .settle message ?_ ?_ ?_ ?_
      · simp only [pipeline, hand, node_eq, held_eq, holding, Node.settle,
          Option.toList_none, Option.toList_some, List.append_nil]
        exact List.perm_append_singleton _ _
      · simp [settling, holding, seen]
      · simp [holding]
      · rw [node_eq]
        rfl
  | @requeue message filled holding unseen items _ node_eq flight_eq held_eq =>
      refine .keep ?_ ?_ ?_
      · simp only [pipeline, hand, node_eq, held_eq, holding, items,
          Option.toList_none, Option.toList_some, List.append_nil,
          List.append_assoc]
        apply List.Perm.append_left
        rw [← List.append_assoc]
        exact List.perm_append_comm
      · simp [settling, holding, unseen]
      · rw [node_eq]

end Link

end CausalCast
