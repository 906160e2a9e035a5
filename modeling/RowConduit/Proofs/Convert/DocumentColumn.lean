import RowConduit.Proofs.Convert.RoundTrip
import RowConduit.Proofs.Value.Document

/-!
# Document columns

A document is written as it stands, and what its text is read as is made a value before it is
coerced back.  That value is a document again for objects only; numbers, truth values and arrays are
written as documents once more, but NULL stays NULL and a string is taken for the text of a
document, which is never that string.
-/

namespace RowConduit

open SqlValue Coercion

theorem SqlValue.exists_toJson_ofNumber (n : Json.Number) :
    ∃ m, (ofJson (.number n)).toJson = .number m := by
  rw [ofJson]
  split
  · exact ⟨_, rfl⟩
  · exact ⟨n, by rw [SqlValue.toJson, numberJson_text]⟩

namespace Json

theorem eq_string_of_toDraft {j : Json} {s : String} (draft : j.toDraft = .string (some s)) :
    j = .string s := by
  cases j <;> cases draft
  rfl

mutual

theorem eq_of_document? (j : Json) {read : Json} (reading : j.toDraft.document? = some read)
    (written : (ofJson read).toJson = j) : read = j := by
  cases j with
  | array items =>
      obtain ⟨found, rfl, each⟩ := document?_array reading
      rw [ofJson, SqlValue.toJson, Json.array.injEq] at written
      rw [eq_of_documents? items each written]
  | object members =>
      cases read with
      | object found => exact written
      | number n =>
          obtain ⟨m, isNumber⟩ := exists_toJson_ofNumber n
          rw [isNumber] at written
          cases written
      | _ => cases written
  | _ =>
      cases reading
      rfl

theorem eq_of_documents? (items : List Json) {found : List Json}
    (each : List.Forall₂ (fun item result => item.toDraft.document? = some result) items found)
    (written : itemsToJson (itemsOfJson found) = items) : found = items := by
  cases each with
  | nil => rfl
  | @cons item result rest results head tail =>
      rw [itemsOfJson, itemsToJson, List.cons.injEq] at written
      rw [eq_of_document? item head written.1, eq_of_documents? rest tail written.2]

end

end Json

section Rereading

variable {w : Row} {name : String} {j : Json}

/-- What is neither NULL nor a string becomes the document that it is written as. -/
theorem coerce_json_ofJson {read : Json} (present : read ≠ .null) (other : ∀ s, read ≠ .string s) :
    coerce name .json (ofJson read) = .ok (.json (ofJson read).toJson) := by
  cases read with
  | null => exact absurd rfl present
  | string s => exact absurd rfl (other s)
  | number n =>
      rw [ofJson]
      split <;> rfl
  | _ => rfl

theorem parse?_of_coerce_json {s : String} (coerced : coerce name .json (.text s) = .ok (.json j)) :
    Json.parse? s = some j := by
  rw [coerce, toDocument] at coerced
  · split at coerced
    · next document parsed =>
      cases coerced
      exact parsed
    · cases coerced
  · intro isNull
    cases isNull

/--
A document column is read back exactly if the document is neither NULL nor a string, no object in it
is marked as a number, and it is nested less deeply than a document may be.
-/
theorem rereads_json_iff (held : w.get? name = some (.json j)) (wellFormed : j.WellFormed)
    (plain : j.WithoutNegativeZero) :
    w.Rereads (name, .json) (.json j) ↔
      j ≠ .null ∧ (∀ s, j ≠ .string s) ∧ j.Unmarked ∧ j.depth < Json.maxDepth := by
  rw [Row.rereads_iff held, SqlValue.toJson]
  constructor
  · rintro ⟨shallow, read, parsed, coerced⟩
    have reading : j.toDraft.document? = some read := by
      rw [← Json.parse?_render_of_lt shallow, parsed]
    have present : read ≠ .null := by
      rintro rfl
      cases coerced
    have other : ∀ s, read ≠ .string s := by
      rintro s rfl
      have nested := parse?_of_coerce_json coerced
      rw [Json.eq_string_of_toDraft (Json.document?_eq_string reading)] at nested
      exact Json.parse?_ne_self s nested
    rw [coerce_json_ofJson present other, Except.ok.injEq, SqlValue.json.injEq] at coerced
    cases Json.eq_of_document? j reading coerced
    exact ⟨present, other, (Json.readable_of_parse? parsed).unmarked, shallow⟩
  · rintro ⟨present, other, unmarked, shallow⟩
    have parsed := Json.parse?_render wellFormed unmarked (Nat.le_of_lt shallow)
    exact ⟨shallow, j, parsed, by rw [coerce_json_ofJson present other, toJson_ofJson j plain]⟩

end Rereading

/--
A target row comes back from its document with the document of a JSON column exactly if the other
columns do not keep it from being read and the document is neither NULL nor a string, has no object
that is marked as a number, and is nested less deeply than a document may be.
-/
theorem Target.jsonColumn_comesBack_iff {table bare : Table} {mapper : TypeMapper} {row w : Row}
    {column : Column} {j : Json}
    (checked : Table.of table.name table.columns = .ok bare)
    (shaped : (Target.of table mapper).stage.convert row = .converted w)
    (sourced : column ∈ table.sourcedColumns) (mapped : mapper.mapColumn column = .json)
    (held : w.get? column.name = some (.json j)) (wellFormed : j.WellFormed)
    (plain : j.WithoutNegativeZero) (schema : SchemaReference) (defaultTable : String) :
    (∃ again, (Target.of table mapper).ComesBack schema defaultTable w again ∧
      again.get? column.name = some (.json j)) ↔
      (Target.of table mapper).ReadsBeside w column.name ∧
      j ≠ .null ∧ (∀ s, j ≠ .string s) ∧ j.Unmarked ∧ j.depth < Json.maxDepth := by
  rw [Target.comesBack_of_iff checked shaped sourced mapped, rereads_json_iff held wellFormed plain]

def signals : Table :=
  ⟨"signals", [⟨"payload", "jsonb", .postgreSql, none, none, false⟩,
    ⟨"source", "uuid", .postgreSql, none, none, false⟩,
    ⟨"tags", "jsonb[]", .postgreSql, none, none, false⟩], none, []⟩

def signalPayload : Json :=
  .object [("levels", .array [.number ⟨true, .zero, [5, 0], none⟩, .object [], .null]),
    ("label", .string "leap")]

def signalRow : Row :=
  Row.ofColumns "signals" ⟨"depot", .postgreSql⟩
    [("payload", .json signalPayload), ("source", .null), ("tags", .array [.json (.bool true)])]

theorem Target.jsonColumn_comesBack_signals :
    let target := Target.of signals .builtin
    Table.of signals.name signals.columns = .ok signals ∧
      target.stage.convert signalRow = .converted signalRow ∧
      target.ReadsBeside signalRow "payload" ∧ signalPayload.WellFormed ∧
      signalPayload.WithoutNegativeZero ∧ signalPayload.Unmarked ∧
      ∃ again, target.ComesBack ⟨"depot", .postgreSql⟩ "inbox" signalRow again ∧
        again.get? "payload" = some (.json signalPayload) := by
  intro target
  have checked : Table.of signals.name signals.columns = .ok signals := by decide
  have shaped : target.stage.convert signalRow = .converted signalRow := by cbv
  have columns : target.columns =
      [("payload", .json), ("source", .uuid), ("tags", .array .json)] := by decide +kernel
  have beside : target.ReadsBeside signalRow "payload" := by
    rw [Target.ReadsBeside, columns]
    refine ⟨by decide, ?_⟩
    intro other listed apart
    simp only [List.mem_cons, List.not_mem_nil, or_false] at listed
    rcases listed with rfl | rfl | rfl
    · exact absurd rfl apart
    · have read : Json.parse? SqlValue.null.toJson.render = some .null :=
        Json.parse?_render True.intro True.intro (Nat.zero_le _)
      exact ⟨.null, .null, .null, rfl, by decide, read, rfl⟩
    · let tags := SqlValue.array [.json (.bool true)]
      have read : Json.parse? tags.toJson.render = some (.array [.bool true]) :=
        Json.parse?_render ⟨True.intro, True.intro⟩ ⟨True.intro, True.intro⟩ (by decide)
      exact ⟨tags, tags, .array [.bool true], rfl, by decide, read, rfl⟩
  have sourced : signals.columns[0] ∈ signals.sourcedColumns := by decide
  have mapped : TypeMapper.builtin.mapColumn signals.columns[0] = .json := by decide +kernel
  have wellFormed : signalPayload.WellFormed := by
    simp [signalPayload, Json.WellFormed, Json.MembersWellFormed, Json.ItemsWellFormed]
  have plain : signalPayload.WithoutNegativeZero := by
    simp [signalPayload, Json.WithoutNegativeZero, Json.MembersWithoutNegativeZero,
      Json.ItemsWithoutNegativeZero, Json.Number.negativeZero]
  have unmarked : signalPayload.Unmarked := by
    simp [signalPayload, Json.Unmarked, Json.MembersUnmarked, Json.ItemsUnmarked, Json.numberName]
  have present : signalPayload ≠ .null := by rintro ⟨⟩
  have other : ∀ s, signalPayload ≠ .string s := by rintro s ⟨⟩
  refine ⟨checked, shaped, beside, wellFormed, plain, unmarked, ?_⟩
  exact (Target.jsonColumn_comesBack_iff checked shaped sourced mapped rfl wellFormed plain
    ⟨"depot", .postgreSql⟩ "inbox").mpr ⟨beside, present, other, unmarked, by decide⟩

def memos : Table :=
  ⟨"memos", [⟨"body", "jsonb", .postgreSql, none, none, false⟩], none, []⟩

def memoRow : Row :=
  Row.ofColumns "memos" ⟨"depot", .postgreSql⟩ [("body", .json (.string "leap"))]

/-- A string does not come back to a document column: it is taken for the text of a document. -/
theorem Target.jsonColumn_lost_memos :
    let target := Target.of memos .builtin
    Table.of memos.name memos.columns = .ok memos ∧
      (∃ column ∈ memos.sourcedColumns,
        column.name = "body" ∧ TypeMapper.builtin.mapColumn column = .json) ∧
      target.stage.convert memoRow = .converted memoRow ∧
      memoRow.get? "body" = some (.json (.string "leap")) ∧
      ¬ ∃ again, target.ComesBack ⟨"depot", .postgreSql⟩ "inbox" memoRow again ∧
        again.get? "body" = some (.json (.string "leap")) := by
  intro target
  have checked : Table.of memos.name memos.columns = .ok memos := by decide
  have shaped : target.stage.convert memoRow = .converted memoRow := by cbv
  have sourced : memos.columns[0] ∈ memos.sourcedColumns := by decide
  have mapped : TypeMapper.builtin.mapColumn memos.columns[0] = .json := by decide +kernel
  have wellFormed : (Json.string "leap").WellFormed := True.intro
  have plain : (Json.string "leap").WithoutNegativeZero := True.intro
  refine ⟨checked, ⟨memos.columns[0], sourced, rfl, mapped⟩, shaped, rfl, ?_⟩
  intro back
  have rereads := ((Target.comesBack_of_iff checked shaped sourced mapped).mp back).2
  obtain ⟨_, other, _, _⟩ := (rereads_json_iff rfl wellFormed plain).mp rereads
  exact other "leap" rfl

end RowConduit
