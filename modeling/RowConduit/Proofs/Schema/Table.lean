import RowConduit.Proofs.Distinct
import RowConduit.Schema.Table

/-!
# What the checked constructors build

The tables and databases that the constructors and the setters can make are exactly the sound ones:
no blank table name, and no repetition among the tables, the columns of a table or the tables its
keys refer to.
-/

namespace RowConduit

open RowConduit.Text

theorem not_nodup_of_firstRepeated {names : List String} {name : String}
    (found : firstRepeated [] names = some name) : ¬ names.Nodup := by
  intro distinct
  have none := firstRepeated_eq_none_iff.mpr ⟨distinct, fun _ _ => List.not_mem_nil⟩
  rw [found] at none
  cases none

namespace Table

theorem of_eq_ok_iff {name : String} {columns : List Column} {table : Table} :
    Table.of name columns = .ok table ↔
      isBlankText name = false ∧ (columns.map (·.name)).Nodup ∧
        table = ⟨name, columns, none, []⟩ := by
  unfold Table.of
  split
  · next blank => simp [blank]
  · next named =>
    rw [Bool.not_eq_true] at named
    split
    · next column found =>
      have repeated := not_nodup_of_firstRepeated found
      simp [repeated]
    · next fresh =>
      have distinct := (firstRepeated_eq_none_iff.mp fresh).1
      simp only [named, distinct, true_and, Except.ok.injEq]
      exact eq_comm

theorem withForeignKey_eq (t : Table) (referenced : String) :
    t.withForeignKey referenced =
      { t with foreignKeys := addFresh t.foreignKeys referenced } := by
  unfold withForeignKey addFresh
  split <;> rfl

/-- The tables of several foreign keys are added in order, those listed before left out. -/
theorem withForeignKeys_eq (t : Table) (referenced : List String) :
    t.withForeignKeys referenced =
      { t with foreignKeys := referenced.foldl addFresh t.foreignKeys } := by
  induction referenced generalizing t with
  | nil => rfl
  | cons name rest ih =>
      have step : t.withForeignKeys (name :: rest) = (t.withForeignKey name).withForeignKeys rest :=
        rfl
      rw [step, ih, withForeignKey_eq, List.foldl_cons]

theorem withForeignKeys_of_empty {t : Table} (empty : t.foreignKeys = [])
    (referenced : List String) :
    t.withForeignKeys referenced = { t with foreignKeys := referenced.eraseDups } := by
  rw [withForeignKeys_eq, empty, foldl_addFresh_nil]

/-- The table has a name, and neither its columns nor the tables its keys refer to repeat a name. -/
structure Sound (t : Table) : Prop where
  named : isBlankText t.name = false
  columns : (t.columns.map (·.name)).Nodup
  foreignKeys : t.foreignKeys.Nodup

/-- The tables that can be made: one with columns, then parents and foreign keys in any order. -/
inductive Built : Table → Prop
  | of {name columns table} : Table.of name columns = .ok table → Built table
  | withParent {t} (parent : String) : Built t → Built (t.withParent parent)
  | withForeignKey {t} (referenced : String) : Built t → Built (t.withForeignKey referenced)

theorem Sound.withForeignKey {t : Table} (sound : t.Sound) (referenced : String) :
    (t.withForeignKey referenced).Sound := by
  rw [withForeignKey_eq]
  exact ⟨sound.named, sound.columns, nodup_addFresh sound.foreignKeys referenced⟩

theorem Built.sound {t : Table} (built : t.Built) : t.Sound := by
  induction built with
  | of checked =>
      obtain ⟨named, columns, rfl⟩ := of_eq_ok_iff.mp checked
      exact ⟨named, columns, List.nodup_nil⟩
  | withParent parent _ ih => exact ⟨ih.named, ih.columns, ih.foreignKeys⟩
  | withForeignKey referenced _ ih => exact ih.withForeignKey referenced

end Table

namespace Database

theorem of_eq_ok_iff {reference : SchemaReference} {tables : List Table} {db : Database} :
    Database.of reference tables = .ok db ↔
      (tables.map (·.name)).Nodup ∧ db = ⟨reference, tables⟩ := by
  unfold Database.of
  split
  · next table found =>
    have repeated := not_nodup_of_firstRepeated found
    simp [repeated]
  · next fresh =>
    have distinct := (firstRepeated_eq_none_iff.mp fresh).1
    simp only [distinct, true_and, Except.ok.injEq]
    exact eq_comm

theorem nodup_names {reference : SchemaReference} {tables : List Table} {db : Database}
    (checked : Database.of reference tables = .ok db) : (db.tables.map (·.name)).Nodup := by
  obtain ⟨distinct, rfl⟩ := of_eq_ok_iff.mp checked
  exact distinct

structure Sound (db : Database) : Prop where
  tables : ∀ table ∈ db.tables, table.Sound
  distinct : (db.tables.map (·.name)).Nodup

inductive Built : Database → Prop
  | of {name kind reference tables db} : SchemaReference.of name kind = .ok reference →
      (∀ table ∈ tables, Table.Built table) → Database.of reference tables = .ok db → Built db

theorem Built.sound {db : Database} (built : db.Built) : db.Sound := by
  cases built with
  | of _ tables checked =>
      obtain ⟨distinct, rfl⟩ := of_eq_ok_iff.mp checked
      exact ⟨fun table listed => (tables table listed).sound, distinct⟩

end Database

end RowConduit
