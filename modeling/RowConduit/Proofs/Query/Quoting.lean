import RowConduit.Proofs.Query.Symbols
import RowConduit.Proofs.Query.TableRead

/-!
# Quoted names and literals are read back

A name can be quoted exactly if it is an identifier, a literal always.  Taking one token off a query
by the rule of its marks undoes either, whatever stands behind the token: it ends where the quoted
text ends, no escaped mark ends it before, and what it stands for is what was quoted.
-/

namespace RowConduit

open RowConduit.Text

namespace Text.QuoteStyle

/-- A text is one token of the style, which ends where the text ends, and stands for the value. -/
def Spells (style : QuoteStyle) (text value : String) : Prop :=
  ∀ rest, style.Apart rest → style.scan? (text.toList ++ rest) = some (value.toList, rest)

theorem spells_quoteText {style : QuoteStyle} (sound : style.Sound) (value : String) :
    style.Spells (style.quoteText value) value := by
  intro rest apart
  rw [quoteText, String.toList_ofList]
  exact scan?_quote sound value.toList apart

end Text.QuoteStyle

theorem Identifier.faultless_iff {name : String} :
    fault? name = none ↔ name ≠ "" ∧ '\x00' ∉ name.toList ∧ name.length ≤ 128 := by
  rw [fault?_eq_none_iff, String.length_toList, Ne, String.toList_eq_nil_iff]
  rfl

namespace Dialect

theorem quoteIdentifier_succeeds_iff {d : Dialect} {name : String} :
    (∃ quoted, d.quoteIdentifier name = .ok quoted) ↔ Identifier.fault? name = none := by
  simp only [quoteIdentifier, Except.map_eq_ok_iff, ← Identifier.of_succeeds_iff]
  exact ⟨fun ⟨_, id, checked, _⟩ => ⟨id, checked⟩, fun ⟨id, checked⟩ => ⟨_, id, checked, rfl⟩⟩

theorem spells_quoteIdentifier {d : Dialect} {name quoted : String}
    (accepted : d.quoteIdentifier name = .ok quoted) : d.identifierStyle.Spells quoted name := by
  rw [quoteIdentifier, Except.map_eq_ok_iff] at accepted
  obtain ⟨id, checked, rfl⟩ := accepted
  cases Identifier.of_eq_ok_iff.mp checked
  exact QuoteStyle.spells_quoteText d.identifierStyle_sound id.name

theorem spells_quoteLiteral (d : Dialect) (value : String) :
    d.literalStyle.Spells (d.quoteLiteral value) value :=
  QuoteStyle.spells_quoteText d.literalStyle_sound value

/--
Both dialects quote the names that are not empty, hold no NUL and have at most 128 characters, and
no others.  A quoted name is one token: between backticks, where a backslash takes the next
character as it is, or between double quotes, where two of them stand for one.  So is every literal:
between double quotes by the rule of the backslash, or between single quotes by that of doubling.
-/
theorem quoted_is_one_token :
    (∀ (d : Dialect) (name : String), (∃ quoted, d.quoteIdentifier name = .ok quoted) ↔
      name ≠ "" ∧ '\x00' ∉ name.toList ∧ name.length ≤ 128) ∧
    (∀ name quoted : String, googleSql.quoteIdentifier name = .ok quoted →
      QuoteStyle.Spells ⟨'\x60', .backslash⟩ quoted name) ∧
    (∀ name quoted : String, postgres.quoteIdentifier name = .ok quoted →
      QuoteStyle.Spells ⟨'"', .doubling⟩ quoted name) ∧
    (∀ value : String, QuoteStyle.Spells ⟨'"', .backslash⟩ (googleSql.quoteLiteral value) value) ∧
    (∀ value : String,
      QuoteStyle.Spells ⟨'\x27', .doubling⟩ (postgres.quoteLiteral value) value) := by
  refine ⟨fun d name => ?_, fun _ _ => spells_quoteIdentifier, fun _ _ => spells_quoteIdentifier,
    spells_quoteLiteral googleSql, spells_quoteLiteral postgres⟩
  exact quoteIdentifier_succeeds_iff.trans Identifier.faultless_iff

/-- A name that ends in a backslash and one of two marks only, each with a mark behind it. -/
theorem quoted_is_one_token_marks :
    (googleSql.quoteIdentifier "a\x60\\" = .ok "\x60a\\\x60\\\\\x60" ∧
      QuoteStyle.scan? ⟨'\x60', .backslash⟩ ("\x60a\\\x60\\\\\x60".toList ++ ['\x60', 'b']) =
        some ("a\x60\\".toList, ['\x60', 'b'])) ∧
    (postgres.quoteIdentifier "\"\"" = .ok "\"\"\"\"\"\"" ∧
      QuoteStyle.scan? ⟨'"', .doubling⟩ ("\"\"\"\"\"\"".toList ++ [',', '"']) =
        some ("\"\"".toList, [',', '"'])) ∧
    QuoteStyle.scan? ⟨'\x27', .doubling⟩ ((postgres.quoteLiteral "O\x27").toList ++ ['"']) =
      some ("O\x27".toList, ['"']) := by
  have backticked : googleSql.quoteIdentifier "a\x60\\" = .ok "\x60a\\\x60\\\\\x60" := by decide
  have doubled : postgres.quoteIdentifier "\"\"" = .ok "\"\"\"\"\"\"" := by decide
  obtain ⟨_, googleSqlNames, postgresNames, _, postgresLiterals⟩ := quoted_is_one_token
  exact ⟨⟨backticked, googleSqlNames _ _ backticked _ nofun⟩,
    ⟨doubled, postgresNames _ _ doubled _ fun _ => by decide⟩,
    postgresLiterals _ _ fun _ => by decide⟩

end Dialect

end RowConduit
