import RowConduit.Proofs.Convert.TargetRow
import RowConduit.Proofs.Json.Readable

/-!
# Documents pass through unchanged

A row that is read from a text is written as a text that is read as the same row.  The row depends
on the text only through the document that the text is read as, and that document is read back from
its own text; so one writing reaches the form that no later reading or writing changes.
-/

namespace RowConduit

/-- A row depends on its text only through the document that the text is read as. -/
theorem rowOfDocument_congr (schema : SchemaReference) (defaultTable : String) {text other : String}
    (same : Json.parse? text = Json.parse? other) :
    rowOfDocument schema defaultTable text = rowOfDocument schema defaultTable other := by
  rw [rowOfDocument, rowOfDocument, Row.ofText, Row.ofText, same]

theorem rowOfDocument_display {schema : SchemaReference} {defaultTable text : String} {row : Row}
    (reading : rowOfDocument schema defaultTable text = .ok row) :
    rowOfDocument schema defaultTable row.display = .ok row := by
  obtain ⟨members, parsed, document⟩ := rowOfDocument_eq_ok reading
  have written : row.display = (Json.object members).render := by
    rw [Row.display, Row.toJson, document]
  have same : Json.parse? row.display = Json.parse? text := by
    rw [written, Json.parse?_render_of_parse? parsed, parsed]
  rw [rowOfDocument_congr schema defaultTable same, reading]

/--
A row that is read from a text is written, the text is read as the very same row, and the row is
written as that text again.
-/
theorem documentToRow_settles {schema : SchemaReference} {defaultTable text : String} {row : Row}
    (reading : (documentToRow schema defaultTable).convert text = .converted row) :
    ∃ written again,
      rowToDocument.convert row = .converted written ∧
      (documentToRow schema defaultTable).convert written = .converted again ∧
      again = row ∧
      rowToDocument.convert again = .converted written := by
  have settled := rowOfDocument_display (Outcome.ofExcept_eq_converted_iff.mp reading)
  exact ⟨row.display, row, rfl, Outcome.ofExcept_eq_converted_iff.mpr settled, rfl, rfl⟩

def untidyText : String :=
  "\x7b \"b\":1, \"_metadata_table\":\"orders\",\n\"a\":0.50E5,\"b\":[-0,\"\\uD83D\\uDE00\\/\"]\x7d"

def tidyMembers : Json.Members :=
  [("b", .array [.number ⟨true, .zero, [], none⟩, .string "😀/"]),
    ("_metadata_table", .string "orders"),
    ("a", .number ⟨false, .zero, [5, 0], some ⟨false, 5, []⟩⟩)]

theorem documentToRow_settles_untidyText :
    let row := Row.ofDocument "orders" ⟨"shop", .oracle⟩ tidyMembers
    (documentToRow ⟨"shop", .oracle⟩ "inbox").convert untidyText = .converted row ∧
    ∃ written again,
      rowToDocument.convert row = .converted written ∧
      (documentToRow ⟨"shop", .oracle⟩ "inbox").convert written = .converted again ∧
      again = row ∧
      rowToDocument.convert again = .converted written := by
  intro row
  have cut : Json.tokens untidyText.toList =
      [.openObject, .string (some "b"), .colon, .number ⟨false, .positive 0 [], [], none⟩, .comma,
        .string (some "_metadata_table"), .colon, .string (some "orders"), .comma,
        .string (some "a"), .colon, .number ⟨false, .zero, [5, 0], some ⟨false, 5, []⟩⟩, .comma,
        .string (some "b"), .colon, .openArray, .number ⟨true, .zero, [], none⟩, .comma,
        .string (some "😀/"), .closeArray, .closeObject] := by
    cbv
  have parsed : Json.parse? untidyText = some (.object tidyMembers) := by
    rw [Json.parse?, Json.draft, cut]
    rfl
  have reading : (documentToRow ⟨"shop", .oracle⟩ "inbox").convert untidyText =
      .converted row := by
    rw [documentToRow, Outcome.ofExcept_eq_converted_iff, rowOfDocument, Row.ofText, parsed]
    rfl
  exact ⟨reading, documentToRow_settles reading⟩

end RowConduit
