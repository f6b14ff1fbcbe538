import CausalCast.Proofs.Members
import Mathlib.Data.List.Perm.Subperm

/-!
# Which lists of nodes are admitted

The ids of `n` nodes have to be the numbers from 1 to `n`, in any order.  What
is looked at, node after node, is only that an id is in range and that no
earlier node has it; that no id is missing follows by counting.  The first node
that fails decides the error.

Nodes are found by their ids through a search of the list.  A table that is
filled while the ids are looked at, with the position of each node in the place
of its id, gives the same verdict and the same answers: `slotsOf`.
-/

namespace CausalCast

namespace Membership

/-! ## Sound ids -/

/-- The ids of some nodes lie in the range from 1 to a number, and no two nodes
have the same. -/
structure SoundIds (count : Nat) (members : List Member) : Prop where
  inRange : ∀ member ∈ members,
    1 ≤ member.id.toNat ∧ member.id.toNat ≤ count
  distinct : (members.map Member.id).Nodup

theorem soundIds_nil (count : Nat) : SoundIds count [] :=
  ⟨List.forall_mem_nil _, List.nodup_nil⟩

theorem soundIds_cons {count : Nat} {member : Member} {rest : List Member} :
    SoundIds count (member :: rest) ↔
      (1 ≤ member.id.toNat ∧ member.id.toNat ≤ count) ∧
        member.id ∉ rest.map Member.id ∧ SoundIds count rest := by
  constructor
  · intro sound
    obtain ⟨here, there⟩ := List.forall_mem_cons.mp sound.inRange
    obtain ⟨fresh, distinct⟩ := List.nodup_cons.mp sound.distinct
    exact ⟨here, fresh, there, distinct⟩
  · rintro ⟨here, fresh, sound⟩
    exact ⟨List.forall_mem_cons.mpr ⟨here, sound.inRange⟩,
      List.nodup_cons.mpr ⟨fresh, sound.distinct⟩⟩

/-- Distinct ids in the range of their number leave none of that range out. -/
theorem soundIds_iff_perm {members : List Member} :
    SoundIds members.length members ↔
      (members.map (·.id.toNat)).Perm (List.range' 1 members.length) := by
  have lengths : (members.map (·.id.toNat)).length = members.length :=
    List.length_map _
  have composed : members.map (·.id.toNat) =
      (members.map Member.id).map UInt32.toNat := by
    rw [List.map_map]
    rfl
  constructor
  · intro sound
    have distinct : (members.map (·.id.toNat)).Nodup := by
      rw [composed]
      exact sound.distinct.map fun _ _ => UInt32.toNat_inj.mp
    have within : members.map (·.id.toNat) ⊆ List.range' 1 members.length := by
      intro number listed
      obtain ⟨member, inList, rfl⟩ := List.mem_map.mp listed
      have bounds := sound.inRange member inList
      apply List.mem_range'_1.mpr
      omega
    apply (List.subperm_of_subset distinct within).perm_of_length_le
    apply Nat.le_of_eq
    rw [lengths, List.length_range']
  · intro permutation
    constructor
    · intro member inList
      have listed := permutation.mem_iff.mp
        (List.mem_map_of_mem (f := fun member : Member => member.id.toNat) inList)
      have bounds := List.mem_range'_1.mp listed
      omega
    · have distinct := permutation.nodup_iff.mpr List.nodup_range'
      rw [composed] at distinct
      exact distinct.of_map _

/-! ## The first fault -/

theorem idProblem?_of_sound {count : Nat} {seen : List NodeId}
    {members : List Member} (sound : SoundIds count members)
    (unseen : ∀ member ∈ members, member.id ∉ seen) :
    idProblem? count seen members = none := by
  fun_induction idProblem? count seen members with
  | case1 => rfl
  | case2 seen member rest outside =>
      have bounds := (soundIds_cons.mp sound).1
      omega
  | case3 seen member rest _ known =>
      exact absurd known (unseen member List.mem_cons_self)
  | case4 seen member rest _ _ induction =>
      obtain ⟨_, fresh, later⟩ := soundIds_cons.mp sound
      apply induction later
      intro other listed within
      rcases List.mem_cons.mp within with same | within
      · exact fresh (List.mem_map.mpr ⟨other, listed, same⟩)
      · exact unseen other (List.mem_cons_of_mem member listed) within

theorem idProblem?_append {count : Nat} {seen : List NodeId}
    {earlier : List Member} (rest : List Member)
    (sound : SoundIds count earlier)
    (unseen : ∀ member ∈ earlier, member.id ∉ seen) :
    idProblem? count seen (earlier ++ rest) =
      idProblem? count ((earlier.map Member.id).reverse ++ seen) rest := by
  induction earlier generalizing seen with
  | nil => rfl
  | cons member earlier induction =>
      obtain ⟨bounds, fresh, later⟩ := soundIds_cons.mp sound
      have here := unseen member List.mem_cons_self
      have inRange : ¬(member.id.toNat = 0 ∨ count < member.id.toNat) := by
        omega
      have passed : ∀ other ∈ earlier, other.id ∉ member.id :: seen := by
        intro other listed within
        rcases List.mem_cons.mp within with same | within
        · exact fresh (List.mem_map.mpr ⟨other, listed, same⟩)
        · exact unseen other (List.mem_cons_of_mem member listed) within
      rw [List.cons_append, idProblem?, if_neg inRange, if_neg here,
        induction later passed]
      simp

/-- What is wrong with the ids of a list of nodes: there are none, or the first
node whose id is out of range or taken. -/
inductive IdFault (members : List Member) : ConfigError → Prop where
  | noHosts (empty : members = []) : IdFault members .noHosts
  | outOfRange {earlier : List Member} {member : Member} {later : List Member}
      (split : members = earlier ++ member :: later)
      (sound : SoundIds members.length earlier)
      (outside : ¬(1 ≤ member.id.toNat ∧ member.id.toNat ≤ members.length)) :
      IdFault members (.idOutOfRange member.id members.length)
  | repeated {earlier : List Member} {member : Member} {later : List Member}
      (split : members = earlier ++ member :: later)
      (sound : SoundIds members.length earlier)
      (taken : member.id ∈ earlier.map Member.id) :
      IdFault members (.duplicateId member.id)

theorem exists_of_idProblem? {count : Nat} {seen : List NodeId}
    {members : List Member} {problem : ConfigError}
    (found : idProblem? count seen members = some problem) :
    ∃ earlier member later, members = earlier ++ member :: later ∧
      SoundIds count earlier ∧ (∀ other ∈ earlier, other.id ∉ seen) ∧
      (¬(1 ≤ member.id.toNat ∧ member.id.toNat ≤ count) ∧
          problem = .idOutOfRange member.id count ∨
        (member.id ∈ seen ∨ member.id ∈ earlier.map Member.id) ∧
          problem = .duplicateId member.id) := by
  fun_induction idProblem? count seen members with
  | case1 => contradiction
  | case2 seen member rest outside =>
      obtain rfl := Option.some.inj found
      exact ⟨[], member, rest, rfl, soundIds_nil count, List.forall_mem_nil _,
        .inl ⟨by omega, rfl⟩⟩
  | case3 seen member rest _ known =>
      obtain rfl := Option.some.inj found
      exact ⟨[], member, rest, rfl, soundIds_nil count, List.forall_mem_nil _,
        .inr ⟨.inl known, rfl⟩⟩
  | case4 seen member rest inRange fresh induction =>
      obtain ⟨earlier, faulty, later, rfl, sound, unseen, fault⟩ :=
        induction found
      have apart : member.id ∉ earlier.map Member.id := by
        intro listed
        obtain ⟨other, inList, same⟩ := List.mem_map.mp listed
        exact unseen other inList (by simp [same])
      refine ⟨member :: earlier, faulty, later, rfl,
        soundIds_cons.mpr ⟨by omega, apart, sound⟩, ?_, ?_⟩
      · intro other inList
        rcases List.mem_cons.mp inList with rfl | inList
        · exact fresh
        · exact fun within =>
            unseen other inList (List.mem_cons_of_mem _ within)
      · simp only [List.mem_cons, List.map_cons] at fault ⊢
        rcases fault with outside | ⟨(own | known) | listed, same⟩
        · exact .inl outside
        · exact .inr ⟨.inr (.inl own), same⟩
        · exact .inr ⟨.inl known, same⟩
        · exact .inr ⟨.inr (.inr listed), same⟩

theorem ofList_nil : ofList [] = .error .noHosts := rfl

theorem ofList_eq_error_iff_idProblem? {members : List Member}
    {problem : ConfigError} (inhabited : members ≠ []) :
    ofList members = .error problem ↔
      idProblem? members.length [] members = some problem := by
  unfold ofList
  rw [dif_neg inhabited]
  split
  case h_1 found sound => simp [sound]
  case h_2 sound => simp [sound]

theorem ofList_eq_ok_iff {members : List Member} {membership : Membership} :
    ofList members = .ok membership ↔ membership.members = members := by
  constructor
  · intro admitted
    unfold ofList at admitted
    split at admitted
    · contradiction
    · split at admitted
      · contradiction
      · rw [← Except.ok.inj admitted]
  · rintro rfl
    have sound :
        idProblem? membership.members.length [] membership.members = none :=
      idProblem?_of_sound ⟨membership.bounded, membership.distinct⟩ (by simp)
    unfold ofList
    rw [dif_neg membership.inhabited]
    split
    case h_1 found => simp [sound] at found
    case h_2 => rfl

theorem exists_ofList_eq_ok_iff {members : List Member} :
    (∃ membership, ofList members = .ok membership) ↔
      members ≠ [] ∧
        (members.map (·.id.toNat)).Perm (List.range' 1 members.length) := by
  rw [← soundIds_iff_perm]
  constructor
  · rintro ⟨membership, admitted⟩
    obtain rfl := ofList_eq_ok_iff.mp admitted
    exact ⟨membership.inhabited, membership.bounded, membership.distinct⟩
  · rintro ⟨inhabited, sound⟩
    exact ⟨⟨members, inhabited, sound.inRange, sound.distinct⟩,
      ofList_eq_ok_iff.mpr rfl⟩

theorem ofList_eq_error_iff {members : List Member} {problem : ConfigError} :
    ofList members = .error problem ↔ IdFault members problem := by
  constructor
  · intro rejected
    by_cases empty : members = []
    · subst empty
      obtain rfl := Except.error.inj rejected
      exact .noHosts rfl
    · obtain ⟨earlier, member, later, split, sound, _, fault⟩ :=
        exists_of_idProblem? ((ofList_eq_error_iff_idProblem? empty).mp rejected)
      rcases fault with ⟨outside, rfl⟩ | ⟨nothing | taken, rfl⟩
      · exact .outOfRange split sound outside
      · contradiction
      · exact .repeated split sound taken
  · intro fault
    cases fault with
    | noHosts empty =>
        rw [empty]
        rfl
    | @outOfRange earlier member later split sound outside =>
        apply (ofList_eq_error_iff_idProblem? (by simp [split])).mpr
        generalize members.length = count at *
        rw [split, idProblem?_append _ sound (by simp), idProblem?,
          if_pos (by omega)]
    | @repeated earlier member later split sound taken =>
        apply (ofList_eq_error_iff_idProblem? (by simp [split])).mpr
        obtain ⟨other, listed, same⟩ := List.mem_map.mp taken
        have bounds := sound.inRange other listed
        rw [same] at bounds
        generalize members.length = count at *
        rw [split, idProblem?_append _ sound (by simp), idProblem?,
          if_neg (by omega), if_pos (by simpa using taken)]

/-! ## Looking nodes up -/

section Lookup

variable {membership : Membership}

theorem contains_iff_inRange {id : NodeId} :
    membership.contains id = true ↔
      1 ≤ id.toNat ∧ id.toNat ≤ membership.size := by
  constructor
  · exact bounds_of_contains
  · intro bounds
    have permutation := soundIds_iff_perm.mp
      ⟨membership.bounded, membership.distinct⟩
    have listed : id.toNat ∈ membership.members.map (·.id.toNat) := by
      apply permutation.mem_iff.mpr
      apply List.mem_range'_1.mpr
      simp only [size] at bounds
      omega
    obtain ⟨member, inList, same⟩ := List.mem_map.mp listed
    exact contains_iff.mpr ⟨member, inList, UInt32.toNat_inj.mp same⟩

/-- The last node has its number as its id, so a word can count the nodes. -/
theorem size_lt (membership : Membership) : membership.size < 4294967296 := by
  have permutation := soundIds_iff_perm.mp
    ⟨membership.bounded, membership.distinct⟩
  have positive := List.length_pos_iff.mpr membership.inhabited
  have last : membership.size ∈ membership.members.map (·.id.toNat) := by
    apply permutation.mem_iff.mpr
    apply List.mem_range'_1.mpr
    simp only [size]
    omega
  obtain ⟨member, _, same⟩ := List.mem_map.mp last
  rw [← same]
  exact member.id.toNat_lt

theorem eq_of_id_eq {left right : Member} (first : left ∈ membership.members)
    (second : right ∈ membership.members) (same : left.id = right.id) :
    left = right :=
  List.inj_on_of_nodup_map membership.distinct first second same

theorem of_get? {id : NodeId} {member : Member}
    (found : membership.get? id = some member) :
    member ∈ membership.members ∧ member.id = id := by
  have same := List.find?_some found
  exact ⟨List.mem_of_find?_eq_some found, beq_iff_eq.mp same⟩

theorem get?_eq_some_iff {id : NodeId} {member : Member} :
    membership.get? id = some member ↔
      member ∈ membership.members ∧ member.id = id := by
  constructor
  · exact of_get?
  · rintro ⟨listed, rfl⟩
    have present := contains_iff.mpr ⟨member, listed, rfl⟩
    obtain ⟨other, found⟩ := Option.isSome_iff_exists.mp present
    obtain ⟨otherListed, same⟩ := of_get? found
    rw [found, eq_of_id_eq otherListed listed same]

theorem nodup_peers (me : NodeId) : (membership.peers me).Nodup :=
  (membership.distinct.of_map _).filter _

theorem mem_peers {me : NodeId} {member : Member} :
    member ∈ membership.peers me ↔
      member ∈ membership.members ∧ member.id ≠ me := by
  simp only [peers, List.mem_filter, bne_iff_ne]

theorem length_peers {me : NodeId} (member : membership.contains me = true) :
    (membership.peers me).length + 1 = membership.size := by
  obtain ⟨listed, inList, same⟩ := contains_iff.mp member
  have once : membership.members.countP (·.id == me) = 1 := by
    have counted := List.count_eq_one_of_mem membership.distinct
      (List.mem_map.mpr ⟨listed, inList, same⟩)
    rwa [List.count, List.countP_map] at counted
  have others : (membership.peers me).length =
      membership.members.countP fun member => ¬(member.id == me) = true := by
    rw [List.countP_eq_length_filter, peers]
    simp only [Bool.not_eq_true, Bool.decide_eq_false]
    rfl
  have total := List.length_eq_countP_add_countP
    (fun member : Member => member.id == me) (l := membership.members)
  rw [size, total, once, others, Nat.add_comm]

end Lookup

/-! ## Positions by id -/

/-- For each id the position of its node, as far as it is known. -/
abbrev Slots := Array (Option Nat)

def Slots.position? (slots : Slots) (id : NodeId) : Option Nat :=
  slots.getD id.toNat none

/-- Enter the positions of nodes, counting from the position of the first; up
to the first id that is out of range or taken. -/
def fillSlots (count : Nat) (slots : Slots) (position : Nat) :
    List Member → Except ConfigError Slots
  | [] => .ok slots
  | member :: rest =>
      if member.id.toNat = 0 ∨ count < member.id.toNat then
        .error (.idOutOfRange member.id count)
      else if (slots.position? member.id).isSome then
        .error (.duplicateId member.id)
      else
        fillSlots count (slots.set! member.id.toNat (some position))
          (position + 1) rest

def slotsOf (members : List Member) : Except ConfigError Slots :=
  if members = [] then .error .noHosts
  else
    fillSlots members.length (Array.replicate (members.length + 1) none) 0
      members

/-- A table leads from each id to the position of its node in a list, and back. -/
structure Slots.Inverse (slots : Slots) (count : Nat) (members : List Member) :
    Prop where
  size_eq : slots.size = count + 1
  position?_eq_some_iff : ∀ id position,
    slots.position? id = some position ↔
      members[position]?.map Member.id = some id

theorem Slots.Inverse.isSome_iff {slots : Slots} {count : Nat}
    {members : List Member} (inverse : slots.Inverse count members)
    (id : NodeId) :
    (slots.position? id).isSome = true ↔ id ∈ members.map Member.id := by
  rw [Option.isSome_iff_exists, List.mem_iff_getElem?]
  simp only [List.getElem?_map, inverse.position?_eq_some_iff]

theorem Slots.inverse_new (count : Nat) :
    Slots.Inverse (Array.replicate (count + 1) none) count [] := by
  refine ⟨Array.size_replicate, ?_⟩
  intro id position
  have nothing : Slots.position? (Array.replicate (count + 1) none) id = none := by
    simp only [position?, Array.getD_eq_getD_getElem?, Array.getElem?_replicate]
    split <;> rfl
  simp [nothing]

theorem Slots.Inverse.enter {slots : Slots} {count : Nat}
    {earlier : List Member} (inverse : slots.Inverse count earlier)
    {member : Member} (bounds : member.id.toNat ≤ count)
    (free : member.id ∉ earlier.map Member.id) :
    Slots.Inverse (slots.set! member.id.toNat (some earlier.length)) count
      (earlier ++ [member]) := by
  have here : member.id.toNat < slots.size := by
    rw [inverse.size_eq]
    omega
  refine ⟨by simpa using inverse.size_eq, ?_⟩
  intro id position
  have entered : Slots.position?
      (slots.set! member.id.toNat (some earlier.length)) id =
        if id = member.id then some earlier.length
        else slots.position? id := by
    simp only [position?, Array.getD_eq_getD_getElem?, Array.set!_eq_setIfInBounds,
      Array.getElem?_setIfInBounds]
    by_cases same : id = member.id
    · simp [same, here]
    · have apart : ¬member.id.toNat = id.toNat :=
        fun equal => same (UInt32.toNat_inj.mp equal.symm)
      simp [same, apart]
  have unlisted : id = member.id →
      ¬earlier[position]?.map Member.id = some id := by
    rintro rfl found
    obtain ⟨other, inList, same⟩ := Option.map_eq_some_iff.mp found
    exact free (List.mem_map.mpr ⟨other, List.mem_of_getElem? inList, same⟩)
  rw [entered]
  by_cases before : position < earlier.length
  · rw [List.getElem?_append_left before]
    by_cases same : id = member.id
    · rw [if_pos same, iff_false_right (unlisted same)]
      intro equal
      exact Nat.ne_of_gt before (Option.some.inj equal)
    · rw [if_neg same]
      exact inverse.position?_eq_some_iff id position
  · have beyond : earlier[position]? = none :=
      List.getElem?_eq_none (Nat.le_of_not_lt before)
    have outside : ¬slots.position? id = some position := by
      rw [inverse.position?_eq_some_iff, beyond]
      simp
    rw [List.getElem?_append_right (Nat.le_of_not_lt before)]
    by_cases last : position = earlier.length
    · subst last
      by_cases same : id = member.id
      · simp [same]
      · simpa [same, eq_comm] using outside
    · have above : ¬position - earlier.length = 0 := by
        omega
      rw [List.getElem?_singleton, if_neg above]
      by_cases same : id = member.id
      · simp [same, Ne.symm last]
      · simpa [same] using outside

/-- Filling a table meets the same faults as looking at the ids alone, and ends
with the positions of all nodes. -/
theorem Slots.Inverse.fill {slots : Slots} {count : Nat}
    {earlier : List Member} (inverse : slots.Inverse count earlier)
    {seen : List NodeId} (seen_iff : ∀ id, id ∈ seen ↔ id ∈ earlier.map Member.id)
    (members : List Member) :
    match idProblem? count seen members with
    | some problem =>
        fillSlots count slots earlier.length members = .error problem
    | none => ∃ final,
        fillSlots count slots earlier.length members = .ok final ∧
          final.Inverse count (earlier ++ members) := by
  induction members generalizing slots earlier seen with
  | nil => exact ⟨slots, rfl, by simpa using inverse⟩
  | cons member rest induction =>
      have taken_iff := (inverse.isSome_iff member.id).trans
        (seen_iff member.id).symm
      unfold idProblem? fillSlots
      by_cases outside : member.id.toNat = 0 ∨ count < member.id.toNat
      · simp only [if_pos outside]
      · by_cases taken : member.id ∈ seen
        · simp only [if_neg outside, if_pos taken, if_pos (taken_iff.mpr taken)]
        · have free : member.id ∉ earlier.map Member.id :=
            fun listed => taken ((seen_iff member.id).mpr listed)
          have next : Slots.Inverse
              (slots.set! member.id.toNat (some earlier.length)) count
              (earlier ++ [member]) := inverse.enter (by omega) free
          have remembered : ∀ id, id ∈ member.id :: seen ↔
              id ∈ (earlier ++ [member]).map Member.id := by
            intro id
            simp [seen_iff, or_comm, eq_comm]
          have later := induction next remembered
          rw [List.length_append, List.length_singleton, List.append_assoc,
            List.singleton_append] at later
          simp only [if_neg outside, if_neg taken,
            if_neg (fun found => taken (taken_iff.mp found))]
          exact later

theorem slotsOf_spec {members : List Member} (inhabited : members ≠ []) :
    match idProblem? members.length [] members with
    | some problem => slotsOf members = .error problem
    | none => ∃ slots, slotsOf members = .ok slots ∧
        slots.Inverse members.length members := by
  have nobody : ∀ id, id ∈ ([] : List NodeId) ↔
      id ∈ ([] : List Member).map Member.id := by
    simp
  have filled := (Slots.inverse_new members.length).fill nobody members
  rw [slotsOf, if_neg inhabited]
  exact filled

theorem slotsOf_eq_error_iff {members : List Member} {problem : ConfigError} :
    slotsOf members = .error problem ↔ ofList members = .error problem := by
  by_cases empty : members = []
  · rw [slotsOf, if_pos empty, empty, ofList_nil, Except.error.injEq,
      Except.error.injEq]
  · have filled := slotsOf_spec empty
    rw [ofList_eq_error_iff_idProblem? empty]
    cases verdict : idProblem? members.length [] members with
    | some found =>
        rw [verdict] at filled
        simp [filled]
    | none =>
        rw [verdict] at filled
        obtain ⟨slots, table, _⟩ := filled
        simp [table]

/-- The table of an admitted list leads to the nodes that a search finds. -/
theorem exists_slotsOf (membership : Membership) :
    ∃ slots, slotsOf membership.members = .ok slots ∧
      slots.size = membership.clockLength ∧
      ∀ id, membership.get? id =
        (slots.position? id).bind (membership.members[·]?) := by
  have filled := slotsOf_spec membership.inhabited
  rw [idProblem?_of_sound ⟨membership.bounded, membership.distinct⟩
    (by simp)] at filled
  obtain ⟨slots, table, inverse⟩ := filled
  refine ⟨slots, table, inverse.size_eq, ?_⟩
  intro id
  ext member
  rw [get?_eq_some_iff, Option.bind_eq_some_iff]
  constructor
  · rintro ⟨listed, rfl⟩
    obtain ⟨position, found⟩ := List.mem_iff_getElem?.mp listed
    refine ⟨position, ?_, found⟩
    rw [inverse.position?_eq_some_iff, found]
    rfl
  · rintro ⟨position, known, found⟩
    rw [inverse.position?_eq_some_iff, found] at known
    exact ⟨List.mem_of_getElem? found, Option.some.inj known⟩

/-! ## The verdict -/

/-- A list of nodes is admitted exactly if it is not empty and its ids are the
numbers from 1 to its length, in any order; otherwise its first fault is
reported.  In an admitted list, which keeps its order, each of these ids and no
other leads to its one node, through the table as well, and each node has all
others as its peers. -/
theorem admitted_exactly (members : List Member) :
    ((∃ membership, ofList members = .ok membership) ↔
        members ≠ [] ∧
          (members.map (·.id.toNat)).Perm (List.range' 1 members.length)) ∧
      (∀ problem, ofList members = .error problem ↔ IdFault members problem) ∧
      (∀ problem,
        slotsOf members = .error problem ↔ ofList members = .error problem) ∧
      ∀ membership, ofList members = .ok membership →
        membership.members = members ∧
        (∀ id, (membership.get? id).isSome = true ↔
          1 ≤ id.toNat ∧ id.toNat ≤ members.length) ∧
        (∀ id member, membership.get? id = some member →
          (member ∈ members ∧ member.id = id) ∧
            ∀ other ∈ members, other.id = id → other = member) ∧
        (∀ me, 1 ≤ me.toNat → me.toNat ≤ members.length →
          (membership.peers me).Sublist members ∧
            (membership.peers me).Nodup ∧
            (membership.peers me).length + 1 = members.length ∧
            ∀ member, member ∈ membership.peers me ↔
              member ∈ members ∧ member.id ≠ me) ∧
        ∃ slots, slotsOf members = .ok slots ∧
          slots.size = membership.clockLength ∧
          ∀ id, membership.get? id =
            (slots.position? id).bind (members[·]?) := by
  refine ⟨exists_ofList_eq_ok_iff, fun _ => ofList_eq_error_iff,
    fun _ => slotsOf_eq_error_iff, ?_⟩
  intro membership admitted
  obtain rfl := ofList_eq_ok_iff.mp admitted
  refine ⟨rfl, fun id => contains_iff_inRange, ?_, ?_, exists_slotsOf membership⟩
  · intro id member found
    obtain ⟨listed, rfl⟩ := of_get? found
    exact ⟨⟨listed, rfl⟩, fun other inList same => eq_of_id_eq inList listed same⟩
  · intro me positive small
    have member := contains_iff_inRange.mpr ⟨positive, small⟩
    exact ⟨List.filter_sublist, nodup_peers me, length_peers member,
      fun _ => mem_peers⟩

/-- Three nodes that are listed out of order are admitted, and the second of
them finds the two others. -/
theorem admitted_out_of_order :
    ∃ membership, ofList [⟨3, .v4 .loopback 40003⟩, ⟨1, .v4 .loopback 40001⟩,
        ⟨2, .v4 .loopback 40002⟩] = .ok membership ∧
      (membership.get? 2).isSome = true ∧
      (membership.peers 1).length + 1 = 3 := by
  obtain ⟨admitted, _, _, answers⟩ := admitted_exactly
    [⟨3, .v4 .loopback 40003⟩, ⟨1, .v4 .loopback 40001⟩,
      ⟨2, .v4 .loopback 40002⟩]
  obtain ⟨membership, made⟩ := admitted.mpr ⟨by simp, by decide⟩
  obtain ⟨_, known, _, peers, _⟩ := answers membership made
  exact ⟨membership, made, (known 2).mpr (by decide),
    (peers 1 (by decide) (by decide)).2.2.1⟩

end Membership

end CausalCast
