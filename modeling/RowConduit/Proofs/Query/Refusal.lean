import RowConduit.Proofs.Query.Closure

/-!
# Why a plan is refused

A request is refused for one of three reasons, looked for in this order: it lists a name that is no
table, a table it requires is missing, or the read of a required table cannot be planned.  The
missing table is the one at which the work list of `Database.close` stops.  An entry of the work
list that no table required is a listed name; all of these are known by then, so the entry names a
selected table that refers to the missing one.
-/

namespace RowConduit

namespace Database

variable {db : Database} {allowed : List String}

/-- The first name is no table, and the second is that of a required table that refers to it. -/
structure Lacks (db : Database) (allowed : List String) (name requiredBy : String) : Prop where
  missing : db.table? name = none
  referrer : db.Required allowed requiredBy
  refers : db.RefersTo requiredBy name

/-- A known request that is not closed is lacking what the fault of the work list names. -/
theorem close_lacks {selected : List String} {pending : List Pending} {fault : SchemaFault}
    (exploring : db.Exploring allowed selected pending)
    (known : ∀ name ∈ allowed, (db.table? name).isSome = true)
    (failed : db.close selected pending = .error fault) :
    ∃ name requiredBy, db.Lacks allowed name requiredBy ∧
      fault = .missingTable db.reference name requiredBy := by
  obtain ⟨visited, entry, rest, reached, missing, rfl⟩ := close_error exploring failed
  have why := reached.justified entry List.mem_cons_self
  cases blamed : entry.requiredBy with
  | none =>
      -- only a listed name waits without being required, and all of these are known
      simp only [blamed] at why
      have present := known entry.table why
      simp [missing] at present
  | some requiredBy =>
      simp only [blamed] at why
      exact ⟨entry.table, requiredBy, ⟨missing, reached.required requiredBy why.1, why.2⟩, rfl⟩

theorem closed_iff : db.Closed allowed ↔
    ∀ name, db.Required allowed name → db.table? name ≠ none := by
  simp only [Closed, Option.isSome_iff_ne_none]

theorem missing_eq_nil_iff :
    db.missing allowed = [] ↔ ∀ name ∈ allowed, (db.table? name).isSome = true := by
  rw [← missing_isEmpty_iff, List.isEmpty_iff]

/-- Listed names that are no tables are reported before anything else is looked at. -/
theorem select_of_missing (unknown : db.missing allowed ≠ []) :
    db.select allowed = .error (.config (.tablesNotFound db.reference (db.missing allowed))) := by
  have listed : allowed ≠ [] := by
    rintro rfl
    exact unknown rfl
  rw [select, if_neg (by simpa using listed), if_neg (by simpa using unknown)]

/-- A request for tables that lacks one of those it requires is refused for one that it lacks. -/
theorem select_of_lacking (listed : allowed ≠ []) (known : db.missing allowed = [])
    (lacking : ¬ db.Closed allowed) :
    ∃ name requiredBy, db.Lacks allowed name requiredBy ∧
      db.select allowed = .error (.schema (.missingTable db.reference name requiredBy)) := by
  have start := Exploring.start db allowed
  have refused : ∀ tables, db.select allowed ≠ .ok tables := fun tables selected =>
    lacking ((select_eq_ok_iff listed).mp selected).1
  rw [select, if_neg (by simpa using listed), if_pos (by simp [known])] at refused ⊢
  split at refused
  · exact absurd rfl (refused _)
  · next fault failed =>
      obtain ⟨name, requiredBy, lacks, rfl⟩ :=
        close_lacks start (missing_eq_nil_iff.mp known) failed
      exact ⟨name, requiredBy, lacks, rfl⟩

/-- What stands before a required table among the required ones is what is required before it. -/
theorem requiredTables_eq_append {before after : List Table} {table : Table}
    (split : db.requiredTables allowed = before ++ table :: after) :
    ∃ front back, db.tables = front ++ table :: back ∧ db.Required allowed table.name ∧
      ∀ earlier ∈ front, db.Required allowed earlier.name → earlier ∈ before := by
  classical
  rw [requiredTables, List.filter_eq_append_iff] at split
  obtain ⟨first, rest, whole, rfl, found⟩ := split
  obtain ⟨skipped, back, rfl, unrequired, required, _⟩ := List.filter_eq_cons_iff.mp found
  refine ⟨first ++ skipped, back, by rw [whole, List.append_assoc], by simpa using required, ?_⟩
  intro earlier listed needed
  rcases List.mem_append.mp listed with inFirst | inSkipped
  · exact List.mem_filter.mpr ⟨inFirst, by simpa using needed⟩
  · exact absurd (by simpa using needed) (unrequired earlier inSkipped)

end Database

namespace Planner

variable {p : Planner} {db : Database} {allowed : List String}

theorem plan_eq_error_iff {e : JobError} :
    p.plan db allowed = .error e ↔
      db.select allowed = .error e ∨
        ∃ tables, db.select allowed = .ok tables ∧
          ∃ before table after fault, tables = before ++ table :: after ∧
            (∀ earlier ∈ before, ∃ read, p.planTable earlier = .ok read) ∧
            p.planTable table = .error fault ∧ .invalidIdentifier fault = e := by
  rw [plan, Except.bind_eq_error_iff]
  simp only [Except.mapM_mapError, Except.mapError_eq_error_iff, Except.mapM_eq_error_iff]
  grind

/-- A closed request is refused for the first required table whose read cannot be planned. -/
theorem plan_of_unplannable (listed : allowed ≠ []) (closed : db.Closed allowed) {table : Table}
    (stored : table ∈ db.tables) (required : db.Required allowed table.name)
    {fault : IdentifierFault} (faulty : p.planTable table = .error fault) :
    ∃ before first after found, db.tables = before ++ first :: after ∧
      db.Required allowed first.name ∧
      (∀ earlier ∈ before, db.Required allowed earlier.name →
        ∃ read, p.planTable earlier = .ok read) ∧
      p.planTable first = .error found ∧
      p.plan db allowed = .error (.invalidIdentifier found) := by
  have selected := (Database.select_eq_ok_iff listed).mpr ⟨closed, rfl⟩
  cases planned : p.plan db allowed with
  | ok reads =>
      have each := ((plan_eq_ok_iff_of_listed listed).mp planned).2
      obtain ⟨read, _, reached⟩ :=
        exists_of_mem_left each (Database.mem_requiredTables.mpr ⟨stored, required⟩)
      cases faulty.symm.trans reached
  | error e =>
      rcases plan_eq_error_iff.mp planned with refused | ⟨tables, covered, rest⟩
      · cases selected.symm.trans refused
      · cases selected.symm.trans covered
        obtain ⟨before, first, after, found, split, good, bad, rfl⟩ := rest
        obtain ⟨front, back, whole, needed, earlier⟩ := Database.requiredTables_eq_append split
        refine ⟨front, first, back, found, whole, needed, ?_, bad, rfl⟩
        exact fun other inFront otherNeeded => good other (earlier other inFront otherNeeded)

/-- Only a request that requires what is missing or what cannot be planned is refused. -/
theorem cause_of_refusal (listed : allowed ≠ []) {e : JobError}
    (refused : p.plan db allowed = .error e) :
    (∃ name, db.Required allowed name ∧ db.table? name = none) ∨
      ∃ table ∈ db.tables, db.Required allowed table.name ∧
        ∃ fault, p.planTable table = .error fault := by
  by_cases closed : db.Closed allowed
  · have selected := (Database.select_eq_ok_iff listed).mpr ⟨closed, rfl⟩
    rcases plan_eq_error_iff.mp refused with early | ⟨tables, covered, rest⟩
    · cases selected.symm.trans early
    · cases selected.symm.trans covered
      obtain ⟨before, first, after, fault, split, _, bad, _⟩ := rest
      have member : first ∈ db.requiredTables allowed := by
        rw [split]
        exact List.mem_append_right _ List.mem_cons_self
      obtain ⟨stored, required⟩ := Database.mem_requiredTables.mp member
      exact Or.inr ⟨first, stored, required, fault, bad⟩
  · rw [Database.closed_iff] at closed
    push Not at closed
    exact Or.inl closed

/--
A request that lists names which are no tables is refused for all of them, in its own order and
whatever else is wrong.  Otherwise, if it requires something that is no table, it is refused for one
such name and a required table that refers to it.  Otherwise it is refused for the first required
table whose read cannot be planned, with the fault of that table.  There is no other refusal.
-/
theorem plan_error_precise (p : Planner) (db : Database) {allowed : List String}
    (listed : allowed ≠ []) :
    let unknown := allowed.filter fun name => (db.table? name).isNone
    (unknown ≠ [] →
      p.plan db allowed = .error (.config (.tablesNotFound db.reference unknown))) ∧
    (unknown = [] → (∃ name, db.Required allowed name ∧ db.table? name = none) →
      ∃ name requiredBy, db.Lacks allowed name requiredBy ∧
        p.plan db allowed = .error (.schema (.missingTable db.reference name requiredBy))) ∧
    ((∀ name, db.Required allowed name → db.table? name ≠ none) →
      (∃ table ∈ db.tables, db.Required allowed table.name ∧
        ∃ fault, p.planTable table = .error fault) →
      ∃ before first after fault, db.tables = before ++ first :: after ∧
        db.Required allowed first.name ∧
        (∀ earlier ∈ before, db.Required allowed earlier.name →
          ∃ read, p.planTable earlier = .ok read) ∧
        p.planTable first = .error fault ∧
        p.plan db allowed = .error (.invalidIdentifier fault)) ∧
    (∀ e, p.plan db allowed = .error e →
      unknown ≠ [] ∨ (∃ name, db.Required allowed name ∧ db.table? name = none) ∨
        ∃ table ∈ db.tables, db.Required allowed table.name ∧
          ∃ fault, p.planTable table = .error fault) := by
  intro unknown
  refine ⟨?_, ?_, ?_, ?_⟩
  · intro some
    exact plan_eq_error_iff.mpr (Or.inl (Database.select_of_missing some))
  · rintro known ⟨name, required, missing⟩
    have lacking : ¬ db.Closed allowed := fun closed =>
      Database.closed_iff.mp closed name required missing
    obtain ⟨lacked, requiredBy, lacks, refused⟩ :=
      Database.select_of_lacking listed known lacking
    exact ⟨lacked, requiredBy, lacks, plan_eq_error_iff.mpr (Or.inl refused)⟩
  · rintro present ⟨table, stored, required, fault, faulty⟩
    exact plan_of_unplannable listed (Database.closed_iff.mpr present) stored required faulty
  · intro e refused
    exact Or.inr (cause_of_refusal listed refused)

def ledgerTables : List Table :=
  [⟨"notes", [], none, ["ghost", "ledger"]⟩, ⟨"ledger", [], some "ledger", ["book"]⟩,
    ⟨"book", [⟨"", "integer", .postgreSql, none, none, false⟩], some "ledger", []⟩]

/-- Three requests that are refused for one reason each, the first in spite of all three. -/
theorem plan_error_precise_ledgers :
    let db : Database := ⟨⟨"shop", .postgreSql⟩, ledgerTables⟩
    let p : Planner := ⟨.postgres, TypeMapper.builtin⟩
    p.plan db ["phantom", "notes", "ghost", "phantom"] =
      .error (.config (.tablesNotFound db.reference ["phantom", "ghost", "phantom"])) ∧
    (∃ name requiredBy, db.Lacks ["book", "notes"] name requiredBy ∧
      p.plan db ["book", "notes"] =
        .error (.schema (.missingTable db.reference name requiredBy))) ∧
    ∃ table fault, p.planTable table = .error fault ∧
      p.plan db ["ledger"] = .error (.invalidIdentifier fault) := by
  intro db p
  have listed : ∀ first rest, (first :: rest : List String) ≠ [] := List.cons_ne_nil
  refine ⟨?_, ?_, ?_⟩
  · exact (plan_error_precise p db (listed _ _)).1 (by decide)
  · have notes : db.Required ["book", "notes"] "notes" := .of_mem (by decide)
    have ghost : db.Required ["book", "notes"] "ghost" :=
      notes.step ⟨⟨"notes", [], none, ["ghost", "ledger"]⟩, by decide, by decide⟩
    exact (plan_error_precise p db (listed _ _)).2.1 (by decide) ⟨"ghost", ghost, by decide⟩
  · have selected : db.select ["ledger"] = .ok ledgerTables.tail := by cbv
    have closed := ((Database.select_eq_ok_iff (listed _ _)).mp selected).1
    have present : ∀ name, db.Required ["ledger"] name → db.table? name ≠ none := by
      intro name required
      exact Option.isSome_iff_ne_none.mp (closed name required)
    have ledger : db.Required ["ledger"] "ledger" := .of_mem (by decide)
    have book : db.Required ["ledger"] "book" :=
      ledger.step ⟨⟨"ledger", [], some "ledger", ["book"]⟩, by decide, by decide⟩
    have nameless : ∃ fault, p.planTable
        ⟨"book", [⟨"", "integer", .postgreSql, none, none, false⟩], some "ledger", []⟩ =
          .error fault := ⟨.empty, by rfl⟩
    obtain ⟨_, table, _, fault, _, _, _, faulty, refused⟩ :=
      (plan_error_precise p db (listed _ _)).2.2.1 present ⟨_, by decide, book, nameless⟩
    exact ⟨table, fault, faulty, refused⟩

end Planner

end RowConduit
