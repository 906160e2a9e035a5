import RowConduit.Proofs.Convert.Parts
import RowConduit.Proofs.Number.Written

/-!
# Exact numbers stay exact

Integers, exact decimals and texts of numbers denote rational numbers, and coercion to an integer or
to a numeric text keeps what they denote.  Which texts are accepted is a matter of how a number may
be written; a numeric text is kept as it is, so a number of a document comes out as it is printed.
-/

namespace RowConduit

open RowConduit.Text RowConduit.Number SqlValue Coercion

/-- A text denotes the number that is written in it, blanks around it aside. -/
def TextDenotes (s : String) (q : ℚ) : Prop :=
  ∃ n : WrittenDecimal, n.text = trim s.toList ∧ n.value = q

namespace SqlValue

def isExact : SqlValue → Bool
  | .int _ => true
  | .decimal _ => true
  | .number _ => true
  | .text _ => true
  | _ => false

def Denotes : SqlValue → ℚ → Prop
  | .int i, q => (i.toInt : ℚ) = q
  | .decimal d, q => d.value = q
  | .number s, q => TextDenotes s q
  | .text s, q => TextDenotes s q
  | _, _ => False

end SqlValue

theorem TextDenotes.unique {s : String} {q r : ℚ} (first : TextDenotes s q)
    (second : TextDenotes s r) : q = r := by
  obtain ⟨m, written, rfl⟩ := first
  obtain ⟨n, same, rfl⟩ := second
  exact WrittenDecimal.value_of_text (written.trans same.symm)

theorem SqlValue.Denotes.unique {v : SqlValue} {q r : ℚ} (first : v.Denotes q)
    (second : v.Denotes r) : q = r := by
  cases v with
  | int i => exact first.symm.trans second
  | decimal d => exact first.symm.trans second
  | number s => exact TextDenotes.unique first second
  | text s => exact TextDenotes.unique first second
  | _ => exact first.elim

theorem SqlValue.Denotes.iff_eq {v : SqlValue} {q : ℚ} (denotes : v.Denotes q) (r : ℚ) :
    v.Denotes r ↔ r = q := by
  constructor
  · intro other
    exact other.unique denotes
  · rintro rfl
    exact denotes

theorem textDenotes_written (n : WrittenDecimal) : TextDenotes (String.ofList n.text) n.value := by
  refine ⟨n, ?_, rfl⟩
  rw [String.toList_ofList, trim_of_visible n.visible_text]

theorem textDenotes_trimmed {s : String} {q : ℚ} (denotes : TextDenotes s q) :
    TextDenotes (trimmed s) q := by
  obtain ⟨n, written, value⟩ := denotes
  refine ⟨n, ?_, value⟩
  rw [trimmed, String.toList_ofList, trim_trim, written]

namespace Coercion

variable {field s : String} {w : SqlValue}

theorem intOfText_eq_ok_iff :
    intOfText field s = .ok w ↔ ∃ i, readInt64 (trim s.toList) = .ok i ∧ w = .int i := by
  unfold intOfText unreadable
  cases readInt64 (trim s.toList) <;> simp [eq_comm]

theorem exists_intOfText_iff :
    (∃ w, intOfText field s = .ok w) ↔
      ∃ n : WrittenInteger, n.text = trim s.toList ∧ -(2 ^ 63) ≤ n.value ∧ n.value < 2 ^ 63 := by
  rw [← exists_readInt64_iff]
  simp only [intOfText_eq_ok_iff]
  constructor
  · rintro ⟨w, i, read, rfl⟩
    exact ⟨i, read⟩
  · rintro ⟨i, read⟩
    exact ⟨.int i, i, read, rfl⟩

theorem numeralOfText?_eq_some_iff :
    numeralOfText? s = some w ↔
      (∃ n : WrittenDecimal, n.text = trim s.toList) ∧ w = .text (trimmed s) := by
  rw [numeralOfText?, Option.ite_none_right_eq_some, isDecimalLiteral_iff, Option.some.injEq,
    eq_comm (a := w)]

theorem denotes_intOfText (coerced : intOfText field s = .ok w) :
    ∃ q, TextDenotes s q ∧ w.Denotes q := by
  obtain ⟨i, read, rfl⟩ := intOfText_eq_ok_iff.mp coerced
  obtain ⟨n, written, value⟩ := readInt64_eq_ok_iff.mp read
  refine ⟨(i.toInt : ℚ), ⟨n.toDecimal, ?_, ?_⟩, rfl⟩
  · rw [n.text_toDecimal, written]
  · rw [n.value_toDecimal, value]

theorem denotes_numeralOfText? (coerced : numeralOfText? s = some w) :
    ∃ q, TextDenotes s q ∧ w.Denotes q := by
  obtain ⟨⟨n, written⟩, rfl⟩ := numeralOfText?_eq_some_iff.mp coerced
  exact ⟨n.value, ⟨n, written, rfl⟩, textDenotes_trimmed ⟨n, written, rfl⟩⟩

theorem toInt_literal {v : SqlValue} (literal : v = .text s ∨ v = .number s) :
    toInt field v = intOfText field s := by
  rcases literal with rfl | rfl <;> rfl

theorem toNumericString_literal_iff {v : SqlValue} (literal : v = .text s ∨ v = .number s) :
    toNumericString field v = .ok w ↔ numeralOfText? s = some w := by
  rcases literal with rfl | rfl
  · cases found : numeralOfText? s <;> simp [toNumericString, refuse, found]
  · cases found : numeralOfText? s <;> simp [toNumericString, refuse, found]

end Coercion

section Values

variable {field s : String} {v w : SqlValue}

theorem toInt_denotes (exact : v.isExact = true) (coerced : toInt field v = .ok w) :
    ∃ q, v.Denotes q ∧ w.Denotes q := by
  cases v with
  | int i =>
      cases coerced
      exact ⟨i.toInt, rfl, rfl⟩
  | decimal d => cases coerced
  | number s => exact denotes_intOfText coerced
  | text s => exact denotes_intOfText coerced
  | _ => cases exact

theorem toNumericString_denotes (exact : v.isExact = true)
    (coerced : toNumericString field v = .ok w) : ∃ q, v.Denotes q ∧ w.Denotes q := by
  cases v with
  | int i =>
      cases coerced
      obtain ⟨n, written, value⟩ := exists_written_int64Text i
      refine ⟨i.toInt, rfl, ?_⟩
      rw [← written, ← value]
      exact textDenotes_written n
  | decimal d =>
      cases coerced
      obtain ⟨n, written, value⟩ := d.exists_written
      refine ⟨d.value, rfl, ?_⟩
      rw [← written, ← value]
      exact textDenotes_written n
  | number s => exact denotes_numeralOfText? ((toNumericString_literal_iff (Or.inr rfl)).mp coerced)
  | text s => exact denotes_numeralOfText? ((toNumericString_literal_iff (Or.inl rfl)).mp coerced)
  | _ => cases exact

theorem coerce_int (present : v ≠ .null) : coerce field .int v = toInt field v := by
  cases v with
  | null => exact absurd rfl present
  | _ => rfl

theorem coerce_numericString (present : v ≠ .null) :
    coerce field .numericString v = toNumericString field v := by
  cases v with
  | null => exact absurd rfl present
  | _ => rfl

theorem ne_null_of_literal (literal : v = .text s ∨ v = .number s) : v ≠ .null := by
  rcases literal with rfl | rfl <;> exact nofun

theorem coerce_exact {type : LogicalType} (exact : v.isExact = true)
    (target : type = .int ∨ type = .numericString) (coerced : coerce field type v = .ok w) :
    ∃ q, (∀ r, v.Denotes r ↔ r = q) ∧ ∀ r, w.Denotes r ↔ r = q := by
  have present : v ≠ .null := by
    rintro rfl
    cases exact
  rcases target with rfl | rfl
  · rw [coerce_int present] at coerced
    obtain ⟨q, before, after⟩ := toInt_denotes exact coerced
    exact ⟨q, before.iff_eq, after.iff_eq⟩
  · rw [coerce_numericString present] at coerced
    obtain ⟨q, before, after⟩ := toNumericString_denotes exact coerced
    exact ⟨q, before.iff_eq, after.iff_eq⟩

theorem exists_coerce_int_iff (literal : v = .text s ∨ v = .number s) :
    (∃ w, coerce field .int v = .ok w) ↔
      ∃ n : WrittenInteger, n.text = trim s.toList ∧ -(2 ^ 63) ≤ n.value ∧ n.value < 2 ^ 63 := by
  rw [coerce_int (ne_null_of_literal literal), toInt_literal literal]
  exact exists_intOfText_iff

theorem coerce_numericString_iff (literal : v = .text s ∨ v = .number s) :
    coerce field .numericString v = .ok w ↔
      (∃ n : WrittenDecimal, n.text = trim s.toList) ∧ w = .text (trimmed s) := by
  rw [coerce_numericString (ne_null_of_literal literal), toNumericString_literal_iff literal]
  exact numeralOfText?_eq_some_iff

theorem coerce_numericString_ofNumber (field : String) {n : Json.Number}
    (signed : n ≠ Json.Number.negativeZero) :
    coerce field .numericString (ofJson (.number n)) = .ok (.text (String.ofList n.text)) := by
  rw [ofJson]
  split
  · next i whole =>
      -- An integer is written anew from its value, and only `-0` is then written otherwise.
      have same := Json.Number.ofInt_int64? whole signed
      change toNumericString field (.int i) = _
      rw [toNumericString, int64Text, ← Json.Number.text_ofInt, same]
  · have bare : trim n.text = n.text := by
      rw [← n.text_written]
      exact trim_of_visible n.written.visible_text
    refine (coerce_numericString_iff (Or.inr rfl)).mpr ⟨⟨n.written, ?_⟩, ?_⟩
    · rw [String.toList_ofList, bare, n.text_written]
    · rw [trimmed, String.toList_ofList, bare]

end Values

section Documents

variable {table bare : Table} {mapper : TypeMapper} {row w : Row} {members : Json.Members}

theorem Target.printed_of_document (checked : Table.of table.name table.columns = .ok bare)
    (payload : row.payload = .document members) (distinct : (members.map (·.1)).Nodup)
    (shaped : (Target.of table mapper).stage.convert row = .converted w) {column : Column}
    (sourced : column ∈ table.sourcedColumns) {i : Nat} {member : String × Json}
    (listed : members[i]? = some member) (named : member.1 = column.name) {place : List Nat}
    {n : Json.Number} (found : member.2.at? place = some (.number n))
    (signed : n ≠ Json.Number.negativeZero)
    (numeric : (mapper.mapColumn column).below? place.length = some .numericString) :
    rowToDocument.convert row = .converted (Json.object members).render ∧
      ∃ v printed, w.get? column.name = some v ∧
        v.at? place = some (.text (String.ofList printed)) ∧
        ∀ cs, (Json.object members).PrintedAt cs (i :: place) ↔ cs = printed := by
  obtain ⟨v, stored, coerced⟩ := Target.exists_coerced_of_document checked payload distinct shaped
    sourced (List.mem_of_getElem? listed) named
  obtain ⟨part, held, taken⟩ := coerce_at coerced numeric found
  rw [coerce_numericString_ofNumber column.name signed] at taken
  cases taken
  have whole : (Json.object members).at? (i :: place) = some (.number n) := by
    refine Json.at?_cons_eq_some.mpr ⟨member.2, ?_, found⟩
    rw [Json.part?, listed, Option.map_some]
  have document : row.toJson = .object members := by rw [Row.toJson, payload]
  refine ⟨?_, v, n.text, stored, held, fun cs => Json.printedAt_iff whole⟩
  rw [← document]
  rfl

end Documents

/--
Exact numbers stay exact.  What an exact value is coerced to denotes just the number it denotes; an
integer is read from the texts of integers in its range, and a numeric text from any text of a
number, without the blanks around it.  A number of a document becomes its own text, and in a row
that was a document the numeric text at any place is what the document prints there.
-/
theorem exact_numbers_kept :
    (∀ (field : String) (type : LogicalType) (v w : SqlValue), v.isExact = true →
      type = .int ∨ type = .numericString → coerce field type v = .ok w →
      ∃ q, (∀ r, v.Denotes r ↔ r = q) ∧ ∀ r, w.Denotes r ↔ r = q) ∧
    (∀ (field s : String) (v : SqlValue), v = .text s ∨ v = .number s →
      ((∃ w, coerce field .int v = .ok w) ↔
        ∃ n : WrittenInteger, n.text = trim s.toList ∧ -(2 ^ 63) ≤ n.value ∧ n.value < 2 ^ 63)) ∧
    (∀ (field s : String) (v w : SqlValue), v = .text s ∨ v = .number s →
      (coerce field .numericString v = .ok w ↔
        (∃ n : WrittenDecimal, n.text = trim s.toList) ∧ w = .text (trimmed s))) ∧
    (∀ (field : String) (n : Json.Number), n ≠ Json.Number.negativeZero →
      coerce field .numericString (ofJson (.number n)) = .ok (.text (String.ofList n.text))) ∧
    ∀ (table bare : Table) (mapper : TypeMapper) (row w : Row) (members : Json.Members),
      Table.of table.name table.columns = .ok bare → row.payload = .document members →
      (members.map (·.1)).Nodup → (Target.of table mapper).stage.convert row = .converted w →
      ∀ column ∈ table.sourcedColumns, ∀ (i : Nat) (member : String × Json),
      members[i]? = some member → member.1 = column.name →
      ∀ (place : List Nat) (n : Json.Number), member.2.at? place = some (.number n) →
      n ≠ Json.Number.negativeZero →
      (mapper.mapColumn column).below? place.length = some .numericString →
      rowToDocument.convert row = .converted (Json.object members).render ∧
        ∃ v printed, w.get? column.name = some v ∧
          v.at? place = some (.text (String.ofList printed)) ∧
          ∀ cs, (Json.object members).PrintedAt cs (i :: place) ↔ cs = printed := by
  refine ⟨?_, ?_, ?_, ?_, ?_⟩
  · intro field type v w exact target coerced
    exact coerce_exact exact target coerced
  · intro field s v literal
    exact exists_coerce_int_iff literal
  · intro field s v w literal
    exact coerce_numericString_iff literal
  · intro field n signed
    exact coerce_numericString_ofNumber field signed
  · intro table bare mapper row w members checked payload distinct shaped column sourced i member
      listed named place n found signed numeric
    exact Target.printed_of_document checked payload distinct shaped sourced listed named found
      signed numeric

def tariffs : Table :=
  ⟨"tariffs", [⟨"base", "decimal", .cassandra, none, none, false⟩,
    ⟨"steps", "list<varint>", .cassandra, none, none, false⟩,
    ⟨"rates", "map<text, decimal>", .cassandra, none, none, false⟩], none, []⟩

def steepRate : Json.Number :=
  ⟨true, .positive ⟨1, by decide⟩ [], [5, 0], some ⟨false, 0, [7]⟩⟩

def tariffMembers : Json.Members :=
  [("rates", .object [("day", .null), ("night", .number steepRate)]),
    ("steps", .array [.number ⟨false, .zero, [], none⟩]), ("note", .bool true)]

def tariffDocument : Row :=
  Row.ofDocument "inbox" ⟨"depot", .cassandra⟩ tariffMembers

def tariffRow : Row :=
  Row.ofColumns "tariffs" ⟨"depot", .cassandra⟩
    [("base", .null), ("steps", .array [.text "0"]),
      ("rates", .map [(.text "day", .null), (.text "night", .text "-2.50e+07")])]

theorem exact_numbers_kept_tariffs :
    let target := Target.of tariffs .builtin
    coerce "steps" .int (.text " +042 ") = .ok (.int 42) ∧
      (∃ q, (∀ r, (SqlValue.text " +042 ").Denotes r ↔ r = q) ∧
        ∀ r, (SqlValue.int 42).Denotes r ↔ r = q) ∧
      (∃ n : WrittenInteger, n.text = trim " +042 ".toList ∧
        -(2 ^ 63) ≤ n.value ∧ n.value < 2 ^ 63) ∧
      (∃ n : WrittenDecimal, n.text = trim " +042 ".toList) ∧
      coerce "base" .numericString (ofJson (.number steepRate)) = .ok (.text "-2.50e+07") ∧
      Table.of tariffs.name tariffs.columns = .ok tariffs ∧
      target.stage.convert tariffDocument = .converted tariffRow ∧
      ∃ v printed, tariffRow.get? "rates" = some v ∧
        v.at? [1] = some (.text (String.ofList printed)) ∧
        ∀ cs, (Json.object tariffMembers).PrintedAt cs [0, 1] ↔ cs = printed := by
  intro target
  obtain ⟨exact, integers, numerals, numbers, documents⟩ := exact_numbers_kept
  have read : coerce "steps" .int (.text " +042 ") = .ok (.int 42) := by rfl
  have kept : coerce "base" .numericString (.text " +042 ") = .ok (.text "+042") := by rfl
  have signed : steepRate ≠ Json.Number.negativeZero := by decide
  have literal : String.ofList steepRate.text = "-2.50e+07" := by decide
  have checked : Table.of tariffs.name tariffs.columns = .ok tariffs := by decide
  have shaped : target.stage.convert tariffDocument = .converted tariffRow := by cbv
  have distinct : (tariffMembers.map (·.1)).Nodup := by decide
  have sourced : tariffs.columns[2] ∈ tariffs.sourcedColumns := by decide
  have numeric : (TypeMapper.builtin.mapColumn tariffs.columns[2]).below? 1 =
      some .numericString := by decide +kernel
  refine ⟨read, ?_, ?_, ?_, ?_, checked, shaped, ?_⟩
  · exact exact "steps" .int (.text " +042 ") (.int 42) rfl (Or.inl rfl) read
  · exact (integers "steps" " +042 " (.text " +042 ") (Or.inl rfl)).mp ⟨.int 42, read⟩
  · exact ((numerals "base" " +042 " _ _ (Or.inl rfl)).mp kept).1
  · rw [← literal]
    exact numbers "base" steepRate signed
  · exact (documents tariffs tariffs .builtin tariffDocument tariffRow tariffMembers checked rfl
      distinct shaped tariffs.columns[2] sourced 0 tariffMembers[0] rfl rfl [1] steepRate rfl signed
      numeric).2

end RowConduit
