import CausalCast.Membership
import Mathlib.Data.List.Nodup

/-!
# The members of a membership

Who is a member, who its peers are, and which ids members have.
-/

namespace CausalCast

namespace Membership

theorem contains_iff {membership : Membership} {id : NodeId} :
    membership.contains id = true ↔
      ∃ member ∈ membership.members, member.id = id := by
  simp only [contains, get?, List.find?_isSome, beq_iff_eq]

theorem bounds_of_contains {membership : Membership} {id : NodeId}
    (member : membership.contains id = true) :
    1 ≤ id.toNat ∧ id.toNat ≤ membership.size := by
  obtain ⟨listed, inList, rfl⟩ := contains_iff.mp member
  exact membership.bounded listed inList

theorem address?_isSome {membership : Membership} {id : NodeId} :
    (membership.address? id).isSome = membership.contains id := by
  simp [address?, contains]

theorem exists_member_of_address? {membership : Membership} {id : NodeId}
    {address : Address} (known : membership.address? id = some address) :
    ∃ member ∈ membership.members, member.id = id ∧
      member.address = address := by
  obtain ⟨member, found, rfl⟩ := Option.map_eq_some_iff.mp known
  have same := List.find?_some found
  exact ⟨member, List.mem_of_find?_eq_some found, beq_iff_eq.mp same, rfl⟩

/-- No two members have the same address. -/
def Apart (membership : Membership) : Prop :=
  (membership.members.map Member.address).Nodup

theorem address?_injective {membership : Membership}
    (apart : membership.Apart)
    {left right : NodeId} {address : Address}
    (first : membership.address? left = some address)
    (second : membership.address? right = some address) : left = right := by
  obtain ⟨member, inLeft, rfl, rfl⟩ := exists_member_of_address? first
  obtain ⟨other, inRight, rfl, same⟩ := exists_member_of_address? second
  rw [List.inj_on_of_nodup_map apart inLeft inRight same.symm]

theorem mem_peerIds {membership : Membership} {me id : NodeId} :
    id ∈ membership.peerIds me ↔ membership.contains id = true ∧ id ≠ me := by
  simp only [peerIds, peers, List.mem_map, List.mem_filter, bne_iff_ne,
    contains_iff]
  constructor
  · rintro ⟨member, ⟨listed, different⟩, rfl⟩
    exact ⟨⟨member, listed, rfl⟩, different⟩
  · rintro ⟨⟨member, listed, rfl⟩, different⟩
    exact ⟨member, ⟨listed, different⟩, rfl⟩

theorem length_peerIds {membership : Membership} {me : NodeId}
    (member : membership.contains me = true) :
    (membership.peerIds me).length = membership.size - 1 := by
  have listed : me ∈ membership.members.map Member.id := by
    obtain ⟨found, inList, rfl⟩ := contains_iff.mp member
    exact List.mem_map_of_mem inList
  have erased : membership.peerIds me =
      (membership.members.map Member.id).erase me := by
    rw [membership.distinct.erase_eq_filter, List.filter_map]
    rfl
  rw [erased, List.length_erase_of_mem listed, List.length_map]
  rfl

/-- Two nodes on one machine. -/
def pair : Membership where
  members := [⟨1, .v4 .loopback 40001⟩, ⟨2, .v4 .loopback 40002⟩]
  inhabited := by simp
  bounded := by decide
  distinct := by decide

theorem eq_of_contains_pair {id : NodeId} (member : pair.contains id = true) :
    id = 1 ∨ id = 2 := by
  obtain ⟨listed, inPair, rfl⟩ := contains_iff.mp member
  simp only [pair, List.mem_cons, List.not_mem_nil, or_false] at inPair
  rcases inPair with rfl | rfl
  · exact .inl rfl
  · exact .inr rfl

end Membership

end CausalCast
