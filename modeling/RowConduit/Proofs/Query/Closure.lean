import Mathlib
import RowConduit.Proofs.Query.TableRead
import RowConduit.Proofs.Schema.Table

/-!
# The tables a request covers

A table refers to its parent and to the tables of its foreign keys; a request requires what it lists
and all that can be reached by references, which may form cycles.  The work list of `Database.close`
visits exactly the required tables: whatever is selected is required, and whatever a selected table
refers to is selected or waits.  So a plan reads the required tables, each once and in the order of
the schema, and fails when a required table is missing.
-/

namespace RowConduit

namespace Database

/-- The first table has a parent or foreign-key reference to the second name. -/
def RefersTo (db : Database) (name other : String) : Prop :=
  ∃ table, db.table? name = some table ∧ other ∈ table.references

/-- The name is listed, or can be reached from a listed one by references. -/
def Required (db : Database) (allowed : List String) (name : String) : Prop :=
  ∃ root ∈ allowed, Relation.ReflTransGen db.RefersTo root name

theorem Required.of_mem {db : Database} {allowed : List String} {name : String}
    (listed : name ∈ allowed) : db.Required allowed name :=
  ⟨name, listed, .refl⟩

theorem Required.step {db : Database} {allowed : List String} {name other : String}
    (required : db.Required allowed name) (refers : db.RefersTo name other) :
    db.Required allowed other := by
  obtain ⟨root, listed, path⟩ := required
  exact ⟨root, listed, path.tail refers⟩

/-- Only what a request lists matters, not how often or in which order. -/
theorem required_congr {db : Database} {allowed other : List String}
    (same : ∀ name, name ∈ other ↔ name ∈ allowed) (name : String) :
    db.Required other name ↔ db.Required allowed name := by
  simp only [Required, same]

def Covered (selected : List String) (pending : List Pending) (name : String) : Prop :=
  name ∈ selected ∨ ∃ entry ∈ pending, entry.table = name

/-- What holds of the selected and the waiting tables all along the work list. -/
structure Exploring (db : Database) (allowed selected : List String) (pending : List Pending) :
    Prop where
  listed : ∀ name ∈ allowed, Covered selected pending name
  present : ∀ name ∈ selected, (db.table? name).isSome = true
  followed : ∀ name ∈ selected, ∀ other, db.RefersTo name other → Covered selected pending other
  required : ∀ name ∈ selected, db.Required allowed name
  justified : ∀ entry ∈ pending,
    match entry.requiredBy with
    | none => entry.table ∈ allowed
    | some by_ => by_ ∈ selected ∧ db.RefersTo by_ entry.table

theorem mem_dependencies {table : Table} {entry : Pending} :
    entry ∈ table.dependencies ↔
      entry.table ∈ table.references ∧ entry.requiredBy = some table.name := by
  cases entry with
  | mk name by_ => simp [Table.dependencies, eq_comm]

namespace Exploring

variable {db : Database} {allowed selected : List String} {pending : List Pending}

theorem start (db : Database) (allowed : List String) :
    db.Exploring allowed [] (allowed.reverse.map fun name => ⟨name, none⟩) where
  listed := by
    intro name listed
    exact Or.inr ⟨⟨name, none⟩, by simpa using listed, rfl⟩
  present := by simp
  followed := by simp
  required := by simp
  justified := by
    intro entry waiting
    obtain ⟨name, listed, rfl⟩ := List.mem_map.mp waiting
    exact List.mem_reverse.mp listed

theorem requires_pending (exploring : db.Exploring allowed selected pending) {entry : Pending}
    (waiting : entry ∈ pending) : db.Required allowed entry.table := by
  have why := exploring.justified entry waiting
  cases h : entry.requiredBy with
  | none =>
      simp only [h] at why
      exact .of_mem why
  | some by_ =>
      simp only [h] at why
      exact (exploring.required by_ why.1).step why.2

theorem skip {entry : Pending} (exploring : db.Exploring allowed selected (entry :: pending))
    (seen : entry.table ∈ selected) : db.Exploring allowed selected pending := by
  have narrow : ∀ name, Covered selected (entry :: pending) name →
      Covered selected pending name := by
    rintro name (inside | ⟨other, waiting, rfl⟩)
    · exact Or.inl inside
    · rcases List.mem_cons.mp waiting with rfl | later
      · exact Or.inl seen
      · exact Or.inr ⟨other, later, rfl⟩
  exact {
    listed := fun name listed => narrow name (exploring.listed name listed)
    present := exploring.present
    followed := fun name inside other refers =>
      narrow other (exploring.followed name inside other refers)
    required := exploring.required
    justified := fun other later =>
      exploring.justified other (List.mem_cons_of_mem entry later) }

/-- A new table is selected, and what it depends on waits from then on. -/
theorem expand {entry : Pending} {table : Table}
    (exploring : db.Exploring allowed selected (entry :: pending))
    (found : db.table? entry.table = some table) :
    db.Exploring allowed (entry.table :: selected) (table.dependencies ++ pending) := by
  have named : table.name = entry.table := db.name_of_table? found
  have widen : ∀ name, Covered selected (entry :: pending) name →
      Covered (entry.table :: selected) (table.dependencies ++ pending) name := by
    rintro name (inside | ⟨other, waiting, rfl⟩)
    · exact Or.inl (List.mem_cons_of_mem _ inside)
    · rcases List.mem_cons.mp waiting with rfl | later
      · exact Or.inl List.mem_cons_self
      · exact Or.inr ⟨other, List.mem_append_right _ later, rfl⟩
  exact {
    listed := fun name listed => widen name (exploring.listed name listed)
    present := by
      intro name inside
      rcases List.mem_cons.mp inside with rfl | earlier
      · simp [found]
      · exact exploring.present name earlier
    followed := by
      intro name inside other refers
      rcases List.mem_cons.mp inside with rfl | earlier
      · obtain ⟨source, sourceFound, reference⟩ := refers
        rw [found] at sourceFound
        cases sourceFound
        have waiting : (⟨other, some table.name⟩ : Pending) ∈ table.dependencies :=
          mem_dependencies.mpr ⟨reference, rfl⟩
        exact Or.inr ⟨_, List.mem_append_left _ waiting, rfl⟩
      · exact widen other (exploring.followed name earlier other refers)
    required := by
      intro name inside
      rcases List.mem_cons.mp inside with rfl | earlier
      · exact exploring.requires_pending List.mem_cons_self
      · exact exploring.required name earlier
    justified := by
      intro other waiting
      rcases List.mem_append.mp waiting with fresh | later
      · obtain ⟨reference, blamed⟩ := mem_dependencies.mp fresh
        simp only [blamed, named]
        exact ⟨List.mem_cons_self, table, found, reference⟩
      · have why := exploring.justified other (List.mem_cons_of_mem entry later)
        cases h : other.requiredBy with
        | none => simpa only [h] using why
        | some by_ =>
            simp only [h] at why
            exact ⟨List.mem_cons_of_mem _ why.1, why.2⟩ }

/-- When nothing waits any more, exactly the required tables are selected. -/
theorem mem_iff_required (exploring : db.Exploring allowed selected []) {name : String} :
    name ∈ selected ↔ db.Required allowed name := by
  have settled : ∀ other, Covered selected [] other → other ∈ selected := by
    rintro other (inside | ⟨entry, waiting, _⟩)
    · exact inside
    · simp at waiting
  constructor
  · exact exploring.required name
  · rintro ⟨root, listed, path⟩
    induction path with
    | refl => exact settled root (exploring.listed root listed)
    | tail _ refers ih => exact settled _ (exploring.followed _ ih _ refers)

end Exploring

/-- A run of the work list that ends leaves nothing to explore. -/
theorem close_ok {db : Database} {allowed selected result : List String} {pending : List Pending}
    (exploring : db.Exploring allowed selected pending)
    (closed : db.close selected pending = .ok result) : db.Exploring allowed result [] := by
  fun_induction db.close selected pending with
  | case1 selected =>
      cases closed
      exact exploring
  | case2 selected entry pending seen ih => exact ih (exploring.skip seen) closed
  | case3 selected entry pending fresh missing => simp at closed
  | case4 selected entry pending fresh table found ih => exact ih (exploring.expand found) closed

/-- A run of the work list that fails does so at a waiting table that the database lacks. -/
theorem close_error {db : Database} {allowed selected : List String} {pending : List Pending}
    {fault : SchemaFault} (exploring : db.Exploring allowed selected pending)
    (failed : db.close selected pending = .error fault) :
    ∃ visited entry rest, db.Exploring allowed visited (entry :: rest) ∧
      db.table? entry.table = none ∧
      fault = .missingTable db.reference entry.table (entry.requiredBy.getD entry.table) := by
  fun_induction db.close selected pending with
  | case1 selected => simp at failed
  | case2 selected entry pending seen ih => exact ih (exploring.skip seen) failed
  | case3 selected entry pending fresh missing =>
      cases failed
      exact ⟨selected, entry, pending, exploring, missing, rfl⟩
  | case4 selected entry pending fresh table found ih => exact ih (exploring.expand found) failed

/-- Every table that a request requires is a table of the database. -/
def Closed (db : Database) (allowed : List String) : Prop :=
  ∀ name, db.Required allowed name → (db.table? name).isSome = true

theorem missing_isEmpty_iff {db : Database} {allowed : List String} :
    (db.missing allowed).isEmpty = true ↔
      ∀ name ∈ allowed, (db.table? name).isSome = true := by
  simp [missing, Option.isSome_iff_ne_none]

open Classical in
noncomputable def requiredTables (db : Database) (allowed : List String) : List Table :=
  db.tables.filter fun table => db.Required allowed table.name

open Classical in
theorem mem_requiredTables {db : Database} {allowed : List String} {table : Table} :
    table ∈ db.requiredTables allowed ↔
      table ∈ db.tables ∧ db.Required allowed table.name := by
  simp [requiredTables]

theorem requiredTables_congr {db : Database} {allowed other : List String}
    (same : ∀ name, name ∈ other ↔ name ∈ allowed) :
    db.requiredTables other = db.requiredTables allowed := by
  unfold requiredTables
  congr 1
  funext table
  exact decide_eq_decide.mpr (required_congr same table.name)

/-- What the work list leaves selected are the required tables. -/
theorem filter_selected {db : Database} {allowed selected : List String}
    (explored : db.Exploring allowed selected []) :
    (db.tables.filter fun table => selected.contains table.name) = db.requiredTables allowed := by
  unfold requiredTables
  congr 1
  funext table
  simp [explored.mem_iff_required]

/-- A request that lists tables is granted exactly if nothing it requires is missing. -/
theorem select_eq_ok_iff {db : Database} {allowed : List String} (listed : allowed ≠ [])
    {tables : List Table} :
    db.select allowed = .ok tables ↔
      db.Closed allowed ∧ tables = db.requiredTables allowed := by
  have nonempty : ¬ allowed.isEmpty = true := by simpa using listed
  have start := Exploring.start db allowed
  constructor
  · intro selected
    simp only [select, if_neg nonempty] at selected
    split at selected
    · split at selected
      · next result run =>
          have explored := close_ok start run
          rw [filter_selected explored] at selected
          cases selected
          refine ⟨?_, rfl⟩
          intro name required
          exact explored.present name (explored.mem_iff_required.mpr required)
      · cases selected
    · cases selected
  · rintro ⟨closed, rfl⟩
    have known : (db.missing allowed).isEmpty = true :=
      missing_isEmpty_iff.mpr fun name member => closed name (.of_mem member)
    simp only [select, if_neg nonempty, if_pos known]
    split
    · next result run => rw [filter_selected (close_ok start run)]
    · next fault run =>
        obtain ⟨visited, entry, rest, exploring, missing, _⟩ := close_error start run
        have present := closed entry.table (exploring.requires_pending List.mem_cons_self)
        simp [missing] at present

end Database

namespace Planner

theorem plan_eq_ok_iff {p : Planner} {db : Database} {allowed : List String}
    {reads : List TableRead} :
    p.plan db allowed = .ok reads ↔
      ∃ tables, db.select allowed = .ok tables ∧
        List.Forall₂ (fun table read => p.planTable table = .ok read) tables reads := by
  simp only [plan, Except.bind_eq_ok_iff, Except.mapM_mapError, Except.mapError_eq_ok_iff,
    Except.mapM_eq_ok_iff]

theorem tables_of_reads {p : Planner} {tables : List Table} {reads : List TableRead}
    (planned : List.Forall₂ (fun table read => p.planTable table = .ok read) tables reads) :
    reads.map (·.table) = tables.map (·.name) :=
  map_eq_of_forall₂ planned fun _ _ each => planTable_table each

theorem plan_eq_ok_iff_of_listed {p : Planner} {db : Database} {allowed : List String}
    (listed : allowed ≠ []) {reads : List TableRead} :
    p.plan db allowed = .ok reads ↔
      db.Closed allowed ∧ List.Forall₂ (fun table read => p.planTable table = .ok read)
        (db.requiredTables allowed) reads := by
  rw [plan_eq_ok_iff]
  constructor
  · rintro ⟨tables, selected, planned⟩
    obtain ⟨closed, rfl⟩ := (Database.select_eq_ok_iff listed).mp selected
    exact ⟨closed, planned⟩
  · rintro ⟨closed, planned⟩
    exact ⟨_, (Database.select_eq_ok_iff listed).mpr ⟨closed, rfl⟩, planned⟩

/-- The names of the tables read are the required names, none of them twice. -/
theorem names_of_reads {p : Planner} {db : Database}
    (distinct : (db.tables.map (·.name)).Nodup) {allowed : List String} (closed : db.Closed allowed)
    {reads : List TableRead}
    (planned : List.Forall₂ (fun table read => p.planTable table = .ok read)
      (db.requiredTables allowed) reads) :
    (reads.map (·.table)).Nodup ∧
      ∀ name, name ∈ reads.map (·.table) ↔ db.Required allowed name := by
  rw [tables_of_reads planned]
  refine ⟨distinct.sublist (List.filter_sublist.map _), ?_⟩
  intro name
  constructor
  · intro member
    obtain ⟨table, inside, rfl⟩ := List.mem_map.mp member
    exact (Database.mem_requiredTables.mp inside).2
  · intro required
    obtain ⟨table, found⟩ := Option.isSome_iff_exists.mp (closed name required)
    have named : table.name = name := db.name_of_table? found
    have member : table ∈ db.tables := List.mem_of_find?_eq_some found
    rw [← named] at required ⊢
    exact List.mem_map_of_mem (Database.mem_requiredTables.mpr ⟨member, required⟩)

/--
A plan for a request that lists tables reads exactly the tables it requires, once each and in the
order of the schema.  There is such a plan exactly if no listed and no required table is missing and
the read of each required table can be planned; order and repetition in the request do not matter.
The empty request reads every table and follows no reference.
-/
theorem plan_reads_required {reference : SchemaReference} {tables : List Table} {db : Database}
    (built : Database.of reference tables = .ok db) (p : Planner) :
    (∀ allowed : List String, allowed ≠ [] →
      ((∃ reads, p.plan db allowed = .ok reads) ↔
        (∀ name ∈ allowed, (db.table? name).isSome = true) ∧
        (∀ name, db.Required allowed name → (db.table? name).isSome = true) ∧
        ∀ table ∈ db.tables, db.Required allowed table.name →
          ∃ read, p.planTable table = .ok read) ∧
      (∀ reads, p.plan db allowed = .ok reads →
        List.Forall₂ (fun table read => p.planTable table = .ok read)
          (db.requiredTables allowed) reads ∧
        (reads.map (·.table)).Nodup ∧
        ∀ name, name ∈ reads.map (·.table) ↔ db.Required allowed name) ∧
      (∀ other : List String, (∀ name, name ∈ other ↔ name ∈ allowed) →
        ∀ reads, p.plan db other = .ok reads ↔ p.plan db allowed = .ok reads)) ∧
    p.plan db [] = (db.tables.mapM p.planTable).mapError .invalidIdentifier := by
  have distinct := Database.nodup_names built
  refine ⟨?_, ?_⟩
  · intro allowed listed
    refine ⟨?_, ?_, ?_⟩
    · simp only [plan_eq_ok_iff_of_listed listed, exists_and_left, ← Except.mapM_eq_ok_iff,
        Except.exists_mapM_eq_ok_iff, Database.mem_requiredTables, and_imp]
      constructor
      · rintro ⟨closed, planned⟩
        exact ⟨fun name member => closed name (.of_mem member), closed, planned⟩
      · rintro ⟨_, closed, planned⟩
        exact ⟨closed, planned⟩
    · intro reads planned
      obtain ⟨closed, each⟩ := (plan_eq_ok_iff_of_listed listed).mp planned
      exact ⟨each, names_of_reads distinct closed each⟩
    · intro other same reads
      have otherListed : other ≠ [] := by
        obtain ⟨name, member⟩ := List.exists_mem_of_ne_nil allowed listed
        exact List.ne_nil_of_mem ((same name).mpr member)
      simp only [plan_eq_ok_iff_of_listed listed, plan_eq_ok_iff_of_listed otherListed,
        Database.Closed, Database.requiredTables_congr same, Database.required_congr same]
  · exact Except.mapM_mapError p.planTable JobError.invalidIdentifier db.tables

def cyclicTables : List Table :=
  [⟨"audit", [], none, []⟩, ⟨"orders", [], some "orders", ["items"]⟩,
    ⟨"items", [], some "orders", []⟩]

/-- A request for one table of a cycle reads the whole cycle and nothing else. -/
theorem plan_reads_required_cyclic :
    let db : Database := ⟨⟨"shop", .postgreSql⟩, cyclicTables⟩
    let p : Planner := ⟨.postgres, TypeMapper.builtin⟩
    Database.of ⟨"shop", .postgreSql⟩ cyclicTables = .ok db ∧ ["items", "items"] ≠ [] ∧
      ∃ reads, p.plan db ["items", "items"] = .ok reads ∧
        reads.map (·.table) = ["orders", "items"] ∧
        ∀ name, name ∈ ["orders", "items"] ↔ db.Required ["items", "items"] name := by
  intro db p
  have built : Database.of ⟨"shop", .postgreSql⟩ cyclicTables = .ok db := by decide
  have listed : ["items", "items"] ≠ [] := by decide
  have selected : db.select ["items", "items"] =
      .ok [⟨"orders", [], some "orders", ["items"]⟩, ⟨"items", [], some "orders", []⟩] := by
    cbv
  have plannable : ∀ table ∈ [(⟨"orders", [], some "orders", ["items"]⟩ : Table),
      ⟨"items", [], some "orders", []⟩], ∃ read, p.planTable table = .ok read := by
    intro table member
    refine planTable_succeeds_iff.mpr ⟨?_, ?_⟩
    · revert table
      decide
    · revert table
      decide
  obtain ⟨reads, each⟩ := Except.exists_mapM_eq_ok_iff.mpr plannable
  have planned : p.plan db ["items", "items"] = .ok reads :=
    plan_eq_ok_iff.mpr ⟨_, selected, Except.mapM_eq_ok_iff.mp each⟩
  have names := tables_of_reads (Except.mapM_eq_ok_iff.mp each)
  have exactly := (((plan_reads_required built p).1 _ listed).2.1 reads planned).2.2
  rw [names] at exactly
  exact ⟨built, listed, reads, planned, names, exactly⟩

end Planner

end RowConduit
