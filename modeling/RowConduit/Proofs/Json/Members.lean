import RowConduit.Json.Basic
import RowConduit.Proofs.Distinct

/-!
# Members of an object

Collected members have distinct names, in the order in which these occur first, and each has the
last value that was written for it.  Members whose names are distinct are collected as they stand.
-/

namespace RowConduit.Json

theorem setMember_fresh {name : String} {members : Members} (value : Json)
    (fresh : name ∉ members.map (·.1)) :
    setMember name value members = members ++ [(name, value)] := by
  induction members with
  | nil => rfl
  | cons member rest ih =>
      simp only [List.map_cons, List.mem_cons, not_or] at fresh
      have other : ¬ member.1 = name := fun same => fresh.1 same.symm
      rw [setMember, if_neg other, ih fresh.2, List.cons_append]

theorem collect_append {done members : Members}
    (distinct : ((done ++ members).map (·.1)).Nodup) :
    members.foldl (fun done member => setMember member.1 member.2 done) done = done ++ members := by
  induction members generalizing done with
  | nil => rw [List.foldl_nil, List.append_nil]
  | cons member rest ih =>
      have shape : done ++ member :: rest = (done ++ [member]) ++ rest := by
        rw [List.append_assoc, List.singleton_append]
      have fresh : member.1 ∉ done.map (·.1) := by
        rw [List.map_append, List.nodup_append'] at distinct
        intro before
        exact distinct.2.2 before (by simp)
      rw [shape] at distinct ⊢
      rw [List.foldl_cons, setMember_fresh member.2 fresh]
      exact ih distinct

theorem collect_of_nodup {members : Members} (distinct : (members.map (·.1)).Nodup) :
    collect members = members := by
  have all : (([] ++ members : Members).map (·.1)).Nodup := distinct
  exact collect_append all

theorem names_setMember (name : String) (value : Json) (members : Members) :
    (setMember name value members).map (·.1) = addFresh (members.map (·.1)) name := by
  induction members with
  | nil => rfl
  | cons member rest ih =>
      rw [addFresh] at ih ⊢
      by_cases same : member.1 = name
      · simp [setMember, same]
      · have other : ¬ name = member.1 := fun equal => same equal.symm
        rw [setMember, if_neg same, List.map_cons, ih]
        by_cases later : name ∈ rest.map (·.1)
        · simp [later]
        · simp [later, other]

/-- The names of collected members are those that were written, each at its first occurrence. -/
theorem names_collect (members : Members) :
    (collect members).map (·.1) = (members.map (·.1)).eraseDups := by
  have grown : ∀ done : Members,
      (members.foldl (fun done member => setMember member.1 member.2 done) done).map (·.1) =
        (members.map (·.1)).foldl addFresh (done.map (·.1)) := by
    induction members with
    | nil => exact fun _ => rfl
    | cons member rest ih =>
        intro done
        rw [List.foldl_cons, ih, names_setMember, List.map_cons, List.foldl_cons]
  rw [collect, grown, List.map_nil, foldl_addFresh_nil]

theorem member?_append (name : String) (first second : Members) :
    member? name (first ++ second) = (member? name first).or (member? name second) := by
  rw [member?, List.find?_append, Option.map_or]
  rfl

/-- A member that was set is found by its name, and hides one of the same name. -/
theorem member?_setMember (name : String) (member : String × Json) (members : Members) :
    member? name (setMember member.1 member.2 members) =
      (member? name [member]).or (member? name members) := by
  by_cases same : member.1 = name
  · rw [← same, member?_setMember_self]
    simp [member?]
  · rw [member?_setMember_of_ne member.2 members same]
    simp [member?, same]

/-- The value of a collected member is the last one that was written under its name. -/
theorem member?_collect (name : String) (members : Members) :
    member? name (collect members) = member? name members.reverse := by
  have grown : ∀ done : Members,
      member? name (members.foldl (fun done member => setMember member.1 member.2 done) done) =
        (member? name members.reverse).or (member? name done) := by
    induction members with
    | nil => exact fun _ => rfl
    | cons member rest ih =>
        intro done
        rw [List.foldl_cons, ih, member?_setMember, List.reverse_cons, member?_append,
          Option.or_assoc]
  rw [collect, grown []]
  exact Option.or_none

theorem mem_setMember {name : String} {value : Json} {members : Members} {member : String × Json}
    (found : member ∈ setMember name value members) :
    member = (name, value) ∨ member ∈ members := by
  induction members with
  | nil => exact Or.inl (List.mem_singleton.mp found)
  | cons first rest ih =>
      rw [setMember] at found
      split at found
      · rcases List.mem_cons.mp found with here | later
        · exact Or.inl here
        · exact Or.inr (List.mem_cons_of_mem first later)
      · rcases List.mem_cons.mp found with here | later
        · exact Or.inr (here ▸ List.mem_cons_self)
        · exact (ih later).imp_right (List.mem_cons_of_mem first)

theorem mem_collect {members : Members} {member : String × Json}
    (found : member ∈ collect members) : member ∈ members := by
  have grown : ∀ done : Members,
      member ∈ members.foldl (fun done member => setMember member.1 member.2 done) done →
        member ∈ done ∨ member ∈ members := by
    clear found
    induction members with
    | nil => exact fun done listed => Or.inl listed
    | cons first rest ih =>
        intro done listed
        rcases ih _ listed with before | later
        · rcases mem_setMember before with rfl | earlier
          · exact Or.inr List.mem_cons_self
          · exact Or.inl earlier
        · exact Or.inr (List.mem_cons_of_mem first later)
  rcases grown [] found with nowhere | listed
  · cases nowhere
  · exact listed

theorem nodup_setMember {members : Members} (name : String) (value : Json)
    (distinct : (members.map (·.1)).Nodup) :
    ((setMember name value members).map (·.1)).Nodup := by
  rw [names_setMember]
  exact nodup_addFresh distinct name

theorem nodup_collect (members : Members) : ((collect members).map (·.1)).Nodup := by
  have grown : ∀ done : Members, (done.map (·.1)).Nodup →
      ((members.foldl (fun done member => setMember member.1 member.2 done) done).map
        (·.1)).Nodup := by
    induction members with
    | nil => exact fun done distinct => distinct
    | cons member rest ih =>
        exact fun done distinct => ih _ (nodup_setMember member.1 member.2 distinct)
  exact grown [] List.nodup_nil

theorem itemsWellFormed_iff {items : List Json} :
    ItemsWellFormed items ↔ ∀ item ∈ items, item.WellFormed := by
  induction items with
  | nil => simp [ItemsWellFormed]
  | cons item rest ih => simp [ItemsWellFormed, ih]

theorem membersWellFormed_iff {members : Members} :
    MembersWellFormed members ↔ ∀ member ∈ members, member.2.WellFormed := by
  induction members with
  | nil => simp [MembersWellFormed]
  | cons member rest ih => simp [MembersWellFormed, ih]

theorem wellFormed_collect {members : Members}
    (each : ∀ member ∈ members, member.2.WellFormed) :
    (Json.object (collect members)).WellFormed :=
  ⟨nodup_collect members,
    membersWellFormed_iff.mpr fun member found => each member (mem_collect found)⟩

end RowConduit.Json
