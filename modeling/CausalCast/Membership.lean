import CausalCast.Address
import CausalCast.Config.Error

/-!
# Membership

The nodes that take part are fixed when a node starts.  They are kept in the
order in which they were listed.  Node ids index the vector clocks, so the
ids of `n` nodes lie in the range from 1 to `n` and no id occurs twice; both
facts, and that there is at least one node, are part of the type.
-/

namespace CausalCast

structure Member where
  id : NodeId
  address : Address
deriving DecidableEq, Repr

def Member.describe (member : Member) : String :=
  "node " ++ toString member.id.toNat ++ " (" ++ member.address.toText ++ ")"

/-- The listed nodes, in order. -/
structure Membership where
  members : List Member
  inhabited : members ≠ []
  bounded : ∀ member ∈ members,
    1 ≤ member.id.toNat ∧ member.id.toNat ≤ members.length
  distinct : (members.map Member.id).Nodup

namespace Membership

/-- The first thing wrong with the ids of a list of nodes, `count` being the
length of the whole list and `seen` the ids before this part of it. -/
def idProblem? (count : Nat) (seen : List NodeId) :
    List Member → Option ConfigError
  | [] => none
  | member :: rest =>
      if member.id.toNat = 0 ∨ count < member.id.toNat then
        some (.idOutOfRange member.id count)
      else if member.id ∈ seen then some (.duplicateId member.id)
      else idProblem? count (member.id :: seen) rest

theorem bounded_of_idProblem?_eq_none {count : Nat} {seen : List NodeId}
    {members : List Member} (sound : idProblem? count seen members = none) :
    ∀ member ∈ members, 1 ≤ member.id.toNat ∧ member.id.toNat ≤ count := by
  fun_induction idProblem? count seen members with
  | case1 => simp
  | case2 | case3 => simp at sound
  | case4 seen member rest inRange fresh induction =>
      intro other listed
      rcases List.mem_cons.mp listed with rfl | listed
      · omega
      · exact induction sound other listed

theorem distinct_of_idProblem?_eq_none {count : Nat} {seen : List NodeId}
    {members : List Member} (sound : idProblem? count seen members = none) :
    (members.map Member.id).Nodup ∧
      ∀ member ∈ members, member.id ∉ seen := by
  fun_induction idProblem? count seen members with
  | case1 => simp
  | case2 | case3 => simp at sound
  | case4 seen member rest inRange fresh induction =>
      obtain ⟨apart, unseen⟩ := induction sound
      simp only [List.map_cons, List.nodup_cons, List.mem_map, not_exists,
        not_and, List.mem_cons, forall_eq_or_imp]
      refine ⟨⟨?_, apart⟩, fresh, ?_⟩
      · intro other listed same
        exact unseen other listed (by simp [same])
      · intro other listed within
        exact unseen other listed (by simp [within])

def ofList (members : List Member) : Except ConfigError Membership :=
  if inhabited : members = [] then .error .noHosts
  else
    match sound : idProblem? members.length [] members with
    | some problem => .error problem
    | none => .ok {
        members := members
        inhabited := inhabited
        bounded := bounded_of_idProblem?_eq_none sound
        distinct := (distinct_of_idProblem?_eq_none sound).1 }

def size (membership : Membership) : Nat :=
  membership.members.length

/-- The number of entries of a vector clock: one for each node, and the
unused entry 0. -/
def clockLength (membership : Membership) : Nat :=
  membership.size + 1

def get? (membership : Membership) (id : NodeId) : Option Member :=
  membership.members.find? (·.id == id)

def contains (membership : Membership) (id : NodeId) : Bool :=
  (membership.get? id).isSome

def address? (membership : Membership) (id : NodeId) : Option Address :=
  (membership.get? id).map Member.address

/-- All nodes but one, in order. -/
def peers (membership : Membership) (me : NodeId) : List Member :=
  membership.members.filter (·.id != me)

/-- The ids of all nodes but one, in order. -/
def peerIds (membership : Membership) (me : NodeId) : List NodeId :=
  (membership.peers me).map Member.id

end Membership

end CausalCast
