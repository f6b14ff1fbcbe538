import CausalCast.Proofs.Copies

/-!
# Streams of payloads

The payloads of one owner in a list form a stream.  A list is numbered if each
of its streams carries the sequence numbers 1, 2, 3, and so on, in this order.
In a numbered list a message occurs at most once, its position in its stream
is told by its number, and two numbered lists with copies of the same messages
have streams of which one is a prefix of the other.
-/

namespace CausalCast

/-- A list with one more element at the end is split at that element or at one
of the list. -/
theorem split_of_concat {α : Type} {front before after : List α}
    {last element : α} (split : front ++ [last] = before ++ element :: after) :
    (after = [] ∧ front = before ∧ last = element) ∨
      ∃ rest, after = rest ++ [last] ∧ front = before ++ element :: rest := by
  rcases List.eq_nil_or_concat after with rfl | ⟨rest, final, rfl⟩
  · obtain ⟨rfl, same⟩ := List.append_inj' split rfl
    exact .inl ⟨rfl, rfl, (List.cons.inj same).1⟩
  · have regrouped : before ++ element :: rest.concat final =
        (before ++ element :: rest) ++ [final] := by
      simp
    rw [regrouped] at split
    obtain ⟨earlier, same⟩ := List.append_inj' split rfl
    obtain rfl := (List.cons.inj same).1
    exact .inr ⟨rest, List.concat_eq_append, earlier⟩

/-- The payloads of one owner, in order. -/
def stream (payloads : List Payload) (owner : NodeId) : List Payload :=
  payloads.filter (·.owner = owner)

/-- The payloads of each owner are numbered from 1 on, without a gap. -/
def Numbered (payloads : List Payload) : Prop :=
  ∀ owner, (stream payloads owner).map (·.uid.toNat) =
    List.range' 1 (stream payloads owner).length

@[simp] theorem stream_nil (owner : NodeId) : stream [] owner = [] := rfl

@[simp] theorem stream_append (left right : List Payload) (owner : NodeId) :
    stream (left ++ right) owner = stream left owner ++ stream right owner := by
  simp [stream]

theorem stream_cons_self (payload : Payload) (rest : List Payload) :
    stream (payload :: rest) payload.owner =
      payload :: stream rest payload.owner := by
  simp [stream]

theorem stream_singleton_of_ne {payload : Payload} {owner : NodeId}
    (different : payload.owner ≠ owner) : stream [payload] owner = [] := by
  simp [stream, different]

theorem mem_stream {payload : Payload} {payloads : List Payload}
    {owner : NodeId} :
    payload ∈ stream payloads owner ↔
      payload ∈ payloads ∧ payload.owner = owner := by
  simp [stream]

namespace Numbered

theorem nil : Numbered [] := by
  intro owner
  rfl

theorem append_one {payloads : List Payload} {payload : Payload}
    (numbered : Numbered payloads)
    (next : payload.uid.toNat = (stream payloads payload.owner).length + 1) :
    Numbered (payloads ++ [payload]) := by
  intro owner
  by_cases same : payload.owner = owner
  · subst same
    rw [stream_append, stream_cons_self, List.map_append, numbered payload.owner]
    simp only [stream_nil, List.map_cons, List.map_nil, next, List.length_append,
      List.length_cons, List.length_nil, Nat.zero_add, List.range'_1_concat,
      Nat.add_comm 1]
  · rw [stream_append, stream_singleton_of_ne same, List.append_nil]
    exact numbered owner

theorem of_append {front back : List Payload}
    (numbered : Numbered (front ++ back)) : Numbered front := by
  intro owner
  have all := numbered owner
  rw [stream_append, List.map_append, List.length_append,
    ← List.range'_append_1] at all
  exact List.append_inj_left all (by simp)

theorem uid_eq {before after : List Payload} {payload : Payload}
    (numbered : Numbered (before ++ payload :: after)) :
    payload.uid.toNat = (stream before payload.owner).length + 1 := by
  have all := numbered payload.owner
  rw [stream_append, stream_cons_self] at all
  have here := congrArg (·[(stream before payload.owner).length]?) all
  simp only [List.map_append, List.map_cons, List.length_append,
    List.length_cons] at here
  rw [List.getElem?_append_right (by simp), List.getElem?_range' (by omega)] at here
  simp only [List.length_map, Nat.sub_self, List.getElem?_cons_zero,
    Option.some.injEq] at here
  omega

theorem uid_bounds {payloads : List Payload} {payload : Payload}
    (numbered : Numbered payloads) (member : payload ∈ payloads) :
    1 ≤ payload.uid.toNat ∧
      payload.uid.toNat ≤ (stream payloads payload.owner).length := by
  obtain ⟨before, after, rfl⟩ := List.append_of_mem member
  have position := numbered.uid_eq
  rw [stream_append, stream_cons_self, List.length_append, List.length_cons]
  omega

theorem exists_place {payloads : List Payload} {payload : Payload}
    (numbered : Numbered payloads) (member : payload ∈ payloads) :
    ∃ place, payload.uid.toNat = place + 1 ∧
      (stream payloads payload.owner)[place]? = some payload := by
  obtain ⟨before, after, rfl⟩ := List.append_of_mem member
  refine ⟨_, numbered.uid_eq, ?_⟩
  rw [stream_append, stream_cons_self, List.getElem?_append_right (Nat.le_refl _),
    Nat.sub_self]
  rfl

theorem exists_of_le {payloads : List Payload} (numbered : Numbered payloads)
    {owner : NodeId} {number : Nat} (positive : 1 ≤ number)
    (bound : number ≤ (stream payloads owner).length) :
    ∃ payload ∈ payloads, payload.owner = owner ∧
      payload.uid.toNat = number := by
  have member : number ∈ (stream payloads owner).map (·.uid.toNat) := by
    rw [numbered owner, List.mem_range'_1]
    omega
  obtain ⟨payload, inStream, uid⟩ := List.mem_map.mp member
  obtain ⟨inList, ownerEq⟩ := mem_stream.mp inStream
  exact ⟨payload, inList, ownerEq, uid⟩

theorem exists_message_of_le {payloads : List Payload}
    (numbered : Numbered payloads) {owner : NodeId} {uid : UInt32}
    (positive : 1 ≤ uid.toNat)
    (bound : uid.toNat ≤ (stream payloads owner).length) :
    ∃ payload ∈ payloads, payload.message = ⟨owner, uid⟩ := by
  obtain ⟨payload, listed, ownerEq, uidEq⟩ :=
    numbered.exists_of_le positive bound
  refine ⟨payload, listed, ?_⟩
  rw [Payload.message, ownerEq, UInt32.toNat_inj.mp uidEq]

theorem length_stream_le {listed known : List Payload}
    (listedNumbered : Numbered listed) (knownNumbered : Numbered known)
    (covered : ∀ payload ∈ listed,
      ∃ copy ∈ known, copy.message = payload.message) (owner : NodeId) :
    (stream listed owner).length ≤ (stream known owner).length := by
  cases count : (stream listed owner).length with
  | zero => exact Nat.zero_le _
  | succ number =>
      obtain ⟨last, member, ownerEq, uidEq⟩ :=
        listedNumbered.exists_of_le (Nat.le_add_left 1 number)
          (Nat.le_of_eq count.symm)
      obtain ⟨copy, found, same⟩ := covered last member
      obtain ⟨copyOwner, copyUid⟩ := MessageId.mk.inj same
      have bound := (knownNumbered.uid_bounds found).2
      rw [copyOwner, copyUid, ownerEq, uidEq] at bound
      exact bound

theorem filter_message {payloads : List Payload} {payload : Payload}
    (numbered : Numbered payloads) (member : payload ∈ payloads) :
    payloads.filter (·.message = payload.message) = [payload] := by
  obtain ⟨before, after, rfl⟩ := List.append_of_mem member
  have position := numbered.uid_eq
  have noneBefore :
      before.filter (·.message = payload.message) = [] := by
    rw [List.filter_eq_nil_iff]
    intro other otherMember same
    simp only [Payload.message, MessageId.mk.injEq, decide_eq_true_eq] at same
    obtain ⟨front, back, rfl⟩ := List.append_of_mem otherMember
    rw [List.append_assoc, List.cons_append] at numbered
    have earlier := numbered.uid_eq
    rw [stream_append, ← same.1, stream_cons_self, List.length_append,
      List.length_cons] at position
    rw [same.2] at earlier
    omega
  have noneAfter : after.filter (·.message = payload.message) = [] := by
    rw [List.filter_eq_nil_iff]
    intro other otherMember same
    simp only [Payload.message, MessageId.mk.injEq, decide_eq_true_eq] at same
    obtain ⟨front, back, rfl⟩ := List.append_of_mem otherMember
    have regrouped : before ++ payload :: (front ++ other :: back) =
        (before ++ payload :: front) ++ other :: back := by
      simp
    rw [regrouped] at numbered
    have later := numbered.uid_eq
    rw [stream_append, same.1, stream_cons_self, List.length_append,
      List.length_cons, same.2] at later
    omega
  rw [List.filter_append, List.filter_cons_of_pos (by simp), noneBefore,
    noneAfter]
  rfl

theorem eq_of_message_eq {payloads : List Payload} {left right : Payload}
    (numbered : Numbered payloads) (leftMember : left ∈ payloads)
    (rightMember : right ∈ payloads) (same : left.message = right.message) :
    left = right := by
  have once := numbered.filter_message rightMember
  have listed : left ∈ payloads.filter (·.message = right.message) := by
    simp [leftMember, same]
  rw [once] at listed
  simpa using listed

/-- Copies of messages of a numbered list, numbered themselves, come in each
stream in the same order and without a gap. -/
theorem stream_isPrefix {copies originals : List Payload}
    (copiesNumbered : Numbered copies) (originalsNumbered : Numbered originals)
    (genuine : ∀ payload ∈ copies, payload.original ∈ originals)
    (owner : NodeId) :
    (stream copies owner).map Payload.original <+: stream originals owner := by
  have streamGenuine : ∀ payload ∈ stream copies owner,
      payload.original ∈ stream originals owner := by
    intro payload member
    obtain ⟨inCopies, ownerEq⟩ := mem_stream.mp member
    exact mem_stream.mpr ⟨genuine payload inCopies, ownerEq⟩
  have copyUids := copiesNumbered owner
  have originalUids := originalsNumbered owner
  generalize stream copies owner = front at *
  generalize stream originals owner = whole at *
  have uidAt : ∀ {payloads : List Payload} {index : Nat} {payload : Payload},
      payloads.map (·.uid.toNat) = List.range' 1 payloads.length →
      payloads[index]? = some payload → payload.uid.toNat = index + 1 := by
    intro payloads index payload uids found
    have inRange := (List.getElem?_eq_some_iff.mp found).1
    have here := congrArg (·[index]?) uids
    simp only [List.getElem?_map, found, Option.map_some,
      List.getElem?_range' inRange, Option.some.injEq] at here
    omega
  rw [List.prefix_iff_getElem?]
  intro index inRange
  rw [List.length_map] at inRange
  have found : front[index]? = some front[index] := List.getElem?_eq_getElem inRange
  obtain ⟨place, placed⟩ := List.mem_iff_getElem?.mp
    (streamGenuine front[index] (List.getElem_mem inRange))
  have frontUid := uidAt copyUids found
  have wholeUid := uidAt originalUids placed
  have sameUid : front[index].original.uid = front[index].uid := rfl
  rw [sameUid] at wholeUid
  have samePlace : place = index := by omega
  rw [samePlace] at placed
  simpa using placed

end Numbered

end CausalCast
