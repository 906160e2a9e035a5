import RowConduit.Proofs.Row.Representation
import RowConduit.Proofs.Text.Trim
import RowConduit.Row.ChangeEvent

/-!
# Primary keys in a text

The primary keys of a change event are written as a JSON array of column names, or as a list in a
text.  In the text a name may stand in quotes or not and have blanks around it; brackets and quotes
inside a name are part of it.  Both forms are read as the same names, so they give the same keys.
An Oracle row has a key whatever list it holds.
-/

namespace RowConduit

open RowConduit.Text

namespace ChangeEvent

structure IsColumnName (name : List Char) : Prop where
  filled : name ≠ []
  commaFree : ',' ∉ name
  first : ∀ c, name.head? = some c → isBlank c = false ∧ c ≠ '"'
  last : ∀ c, name.getLast? = some c → isBlank c = false ∧ c ≠ '"'

def enclosed (opening closing : Char) (cs : List Char) : List Char :=
  opening :: (cs ++ [closing])

/-- The ways to write a name in a list: quoted or not, blanks around it and inside the quotes. -/
inductive WrittenAs (name : List Char) : List Char → Prop where
  | bare {before after : List Char} (first : AllBlank before) (last : AllBlank after) :
      WrittenAs name (before ++ (name ++ after))
  | quoted {before lead trail after : List Char} (first : AllBlank before)
      (inner : AllBlank lead) (ending : AllBlank trail) (last : AllBlank after) :
      WrittenAs name (before ++ (enclosed '"' '"' (lead ++ (name ++ trail)) ++ after))

/-- The ways to write names one after the other, commas between them; no names are blanks. -/
inductive ListedAs : List (List Char) → List Char → Prop where
  | none {gap : List Char} (blank : AllBlank gap) : ListedAs [] gap
  | last {name piece : List Char} (written : WrittenAs name piece) : ListedAs [name] piece
  | more {name piece second rest : List Char} {names : List (List Char)}
      (written : WrittenAs name piece) (others : ListedAs (second :: names) rest) :
      ListedAs (name :: second :: names) (piece ++ ',' :: rest)

/-- The text is a list of the names in square brackets, blanks around it. -/
def IsKeyList (names : List (List Char)) (text : List Char) : Prop :=
  ∃ before body after, AllBlank before ∧ ListedAs names body ∧ AllBlank after ∧
    text = before ++ (enclosed '[' ']' body ++ after)

section Names

variable {name : List Char}

theorem IsColumnName.trim_eq (column : IsColumnName name) : trim name = name :=
  trim_of_ends (fun c found => (column.first c found).1) fun c found => (column.last c found).1

theorem dropQuotes_of_ends {cs : List Char} (first : ∀ c, cs.head? = some c → c ≠ '"')
    (last : ∀ c, cs.getLast? = some c → c ≠ '"') : dropQuotes cs = cs :=
  dropEnds_eq_self (fun c found => decide_eq_false (first c found))
    fun c found => decide_eq_false (last c found)

theorem dropQuotes_enclosed (cs : List Char) :
    dropQuotes (enclosed '"' '"' cs) = dropQuotes cs := by
  have quote : ∀ c ∈ ['"'], decide (c = '"') = true := by simp
  exact dropEnds_padded quote quote cs

/-- Between blanks, the outermost characters of a name are blanks or its own. -/
theorem IsColumnName.padded_ends (column : IsColumnName name) {lead trail : List Char}
    (inner : AllBlank lead) (ending : AllBlank trail) :
    (∀ c, (lead ++ (name ++ trail)).head? = some c → c ≠ '"') ∧
      ∀ c, (lead ++ (name ++ trail)).getLast? = some c → c ≠ '"' := by
  have visible : isBlank '"' = false := by decide
  constructor
  · intro c found
    rw [List.head?_append, List.head?_append, Option.or_eq_some_iff, Option.or_eq_some_iff] at found
    rcases found with before | ⟨_, here | ⟨empty, _⟩⟩
    · exact inner.ne visible c (List.mem_of_mem_head? before)
    · exact (column.first c here).2
    · exact absurd (List.head?_eq_none_iff.mp empty) column.filled
  · intro c found
    rw [List.getLast?_append, List.getLast?_append, Option.or_eq_some_iff,
      Option.or_eq_some_iff] at found
    rcases found with (behind | ⟨_, here⟩) | ⟨empty, _⟩
    · exact ending.ne visible c (List.mem_of_mem_getLast? behind)
    · exact (column.last c here).2
    · rw [Option.or_eq_none_iff] at empty
      exact absurd (List.getLast?_eq_none_iff.mp empty.2) column.filled

theorem keyName_of_writtenAs (column : IsColumnName name) {piece : List Char}
    (written : WrittenAs name piece) : keyName piece = name := by
  cases written with
  | bare first last =>
      have ends := dropQuotes_of_ends (fun c found => (column.first c found).2)
        fun c found => (column.last c found).2
      rw [keyName, trim_padded first last, column.trim_eq, ends, column.trim_eq]
  | quoted first inner ending last =>
      have ends := column.padded_ends inner ending
      rw [keyName, trim_padded first last, enclosed, trim_enclosed (by decide) (by decide),
        ← enclosed, dropQuotes_enclosed, dropQuotes_of_ends ends.1 ends.2,
        trim_padded inner ending, column.trim_eq]

theorem comma_notMem_of_writtenAs (column : IsColumnName name) {piece : List Char}
    (written : WrittenAs name piece) : ',' ∉ piece := by
  have visible : isBlank ',' = false := by decide
  have absent {cs : List Char} (blank : AllBlank cs) : ',' ∉ cs :=
    fun listed => blank.ne visible ',' listed rfl
  cases written with
  | bare first last => simp [absent first, absent last, column.commaFree]
  | quoted first inner ending last =>
      simp [enclosed, absent first, absent inner, absent ending, absent last, column.commaFree]

end Names

theorem keyName_of_allBlank {gap : List Char} (blank : AllBlank gap) : keyName gap = [] := by
  rw [keyName, trim_eq_nil_iff.mpr blank]
  rfl

theorem keyNames_of_listedAs {names : List (List Char)} {body : List Char}
    (columns : ∀ name ∈ names, IsColumnName name) (listed : ListedAs names body) :
    ((pieces (· = ',') body).map keyName).filter (fun name => !name.isEmpty) = names := by
  induction listed with
  | none blank =>
      have free : ',' ∉ _ := fun listed => blank.ne (by decide) ',' listed rfl
      rw [pieces_of_free (free_mark_iff.mpr free), List.map_singleton, keyName_of_allBlank blank]
      rfl
  | last written =>
      have column := columns _ List.mem_cons_self
      have free := free_mark_iff.mpr (comma_notMem_of_writtenAs column written)
      rw [pieces_of_free free, List.map_singleton, keyName_of_writtenAs column written]
      simp [column.filled]
  | more written others ih =>
      have column := columns _ List.mem_cons_self
      have free := free_mark_iff.mpr (comma_notMem_of_writtenAs column written)
      have later := ih fun name member => columns name (List.mem_cons_of_mem _ member)
      rw [pieces_append_cons free (decide_eq_true rfl), List.map_cons,
        keyName_of_writtenAs column written, List.filter_cons_of_pos, later]
      simp [column.filled]

theorem insideBrackets_enclosed (body : List Char) :
    insideBrackets (enclosed '[' ']' body) = body := by
  have opens : dropStart? ['['] (enclosed '[' ']' body) = some (body ++ [']']) :=
    dropStart?_append ['['] (body ++ [']'])
  rw [insideBrackets, opens]
  dsimp only
  rw [dropEnd?_append]

theorem keyNames_of_isKeyList {names : List (List Char)} {text : List Char}
    (columns : ∀ name ∈ names, IsColumnName name) (list : IsKeyList names text) :
    keyNames text = names := by
  obtain ⟨before, body, after, first, listed, last, rfl⟩ := list
  rw [keyNames, trim_padded first last, enclosed, trim_enclosed (by decide) (by decide),
    ← enclosed, insideBrackets_enclosed, keyNames_of_listedAs columns listed]

end ChangeEvent

namespace Row

open ChangeEvent

/-- The rows have one schema, and the same value in every field beside the given one. -/
structure AgreesBeside (field : String) (r s : Row) : Prop where
  schema : r.schema = s.schema
  get : ∀ other, other ≠ field → r.get? other = s.get? other

variable {r s : Row}

theorem AgreesBeside.sourceKind {field : String} (agrees : AgreesBeside field r s)
    (elsewhere : sourceTypeField ≠ field) : r.sourceKind = s.sourceKind := by
  have text : r.text? sourceTypeField = s.text? sourceTypeField := by
    rw [text?_eq_bind_get?, text?_eq_bind_get?, agrees.get sourceTypeField elsewhere]
  rw [Row.sourceKind, Row.sourceKind, text, agrees.schema]

/-- The field of the primary keys is absent or NULL, or holds an array or a text. -/
def ListsKeys (r : Row) : Prop :=
  r.json? primaryKeysField = none ∨ r.json? primaryKeysField = some .null ∨
    (∃ items, r.json? primaryKeysField = some (.array items)) ∨
    ∃ text, r.json? primaryKeysField = some (.string text)

theorem exists_writtenKeys (lists : r.ListsKeys) : ∃ keys, r.writtenKeys = .ok keys := by
  unfold writtenKeys
  rcases lists with absent | null | ⟨items, array⟩ | ⟨text, given⟩
  · exact ⟨[], by rw [absent]⟩
  · exact ⟨[], by rw [null]⟩
  · exact ⟨items.map keyOfJson, by rw [array]⟩
  · exact ⟨(keyNames text.toList).map String.ofList, by rw [given]⟩

theorem writtenKeys_text {names : List String} {text : String}
    (columns : ∀ name ∈ names, IsColumnName name.toList)
    (list : IsKeyList (names.map String.toList) text.toList)
    (given : r.json? primaryKeysField = some (.string text)) : r.writtenKeys = .ok names := by
  have read := keyNames_of_isKeyList (by simpa using columns) list
  rw [writtenKeys, given]
  dsimp only
  rw [read, List.map_map]
  simp [Function.comp_def]

theorem writtenKeys_array {names : List String}
    (given : r.json? primaryKeysField = some (.array (names.map .string))) :
    r.writtenKeys = .ok names := by
  rw [writtenKeys, given]
  dsimp only
  rw [List.map_map]
  exact congrArg Except.ok (List.map_id names)

theorem primaryKeys_of_writtenKeys {keys : List String} (written : r.writtenKeys = .ok keys) :
    r.primaryKeys =
      .ok (if keys = [] ∧ r.sourceKind = .oracle then [rowIdField] else keys) := by
  rw [primaryKeys, written]
  by_cases empty : keys = []
  · by_cases oracle : r.sourceKind = .oracle <;> simp [empty, oracle]
  · simp [empty]

/--
The names in a key list are the keys of a row, be they written in a text or in a JSON array; an
Oracle row without any has its row identifier, so it never lacks a key.
-/
theorem primaryKeys_agree (r s : Row) :
    (∀ (names : List String) (text : String), AgreesBeside primaryKeysField r s →
        (∀ name ∈ names, IsColumnName name.toList) →
        IsKeyList (names.map String.toList) text.toList →
        r.json? primaryKeysField = some (.string text) →
        s.json? primaryKeysField = some (.array (names.map .string)) →
        r.primaryKeys = s.primaryKeys ∧
          s.primaryKeys =
            .ok (if names = [] ∧ s.sourceKind = .oracle then [rowIdField] else names)) ∧
      (r.sourceKind = .oracle → r.ListsKeys → ∃ keys, r.primaryKeys = .ok keys ∧ keys ≠ []) := by
  constructor
  · intro names text agrees columns list given array
    have first := primaryKeys_of_writtenKeys (writtenKeys_text columns list given)
    have second := primaryKeys_of_writtenKeys (writtenKeys_array array)
    rw [agrees.sourceKind (by decide)] at first
    exact ⟨first.trans second.symm, second⟩
  · intro oracle lists
    obtain ⟨keys, written⟩ := exists_writtenKeys lists
    refine ⟨_, primaryKeys_of_writtenKeys written, ?_⟩
    by_cases empty : keys = []
    · simp [empty, oracle]
    · simp [empty]

end Row

def spacedKeyList : String :=
  " [[id ,\"or\"der\",\t\" x y\" ]\n"

def keyedEvent : Row :=
  .ofDocument "orders" ⟨"shop", .mySql⟩
    [("_metadata_source_type", .string "oracle"),
      ("_metadata_primary_keys", .string spacedKeyList)]

def keyedRow : Row :=
  .ofColumns "orders" ⟨"shop", .mySql⟩
    [("_metadata_source_type", .text "oracle"),
      ("_metadata_primary_keys", .array [.text "[id", .text "or\"der", .text "x y"])]

theorem Row.primaryKeys_agree_spaced :
    keyedEvent.primaryKeys = .ok ["[id", "or\"der", "x y"] ∧
      keyedEvent.primaryKeys = keyedRow.primaryKeys ∧
      ∃ keys, (Row.ofDocument "orders" ⟨"shop", .oracle⟩ []).primaryKeys = .ok keys ∧
        keys ≠ [] := by
  have agrees : Row.AgreesBeside ChangeEvent.primaryKeysField keyedEvent keyedRow := by
    refine ⟨rfl, fun other different => ?_⟩
    by_cases kind : "_metadata_source_type" = other
    · subst kind
      rfl
    · have key : ¬ "_metadata_primary_keys" = other := fun same => different same.symm
      simp [keyedEvent, keyedRow, Row.get?, Row.ofDocument, Row.ofColumns, Row.lookup?, kind, key]
  have columns : ∀ name ∈ ["[id", "or\"der", "x y"], ChangeEvent.IsColumnName name.toList := by
    intro name listed
    simp only [List.mem_cons, List.not_mem_nil, or_false] at listed
    rcases listed with rfl | rfl | rfl
    all_goals
      refine ⟨by decide, by decide, ?_, ?_⟩ <;>
        · intro c found
          cases found
          decide
  have list : ChangeEvent.IsKeyList (["[id", "or\"der", "x y"].map String.toList)
      spacedKeyList.toList := by
    have none : AllBlank [] := by decide
    have space : AllBlank [' '] := by decide
    have tab : AllBlank ['\t'] := by decide
    have newline : AllBlank ['\n'] := by decide
    have id : ChangeEvent.WrittenAs "[id".toList "[id ".toList := .bare none space
    have order : ChangeEvent.WrittenAs "or\"der".toList "\"or\"der\"".toList :=
      .quoted none none none none
    have spaced : ChangeEvent.WrittenAs "x y".toList "\t\" x y\" ".toList :=
      .quoted tab space none space
    exact ⟨[' '], _, ['\n'], space, .more id (.more order (.last spaced)), newline, by decide⟩
  have agreed := (Row.primaryKeys_agree keyedEvent keyedRow).1 ["[id", "or\"der", "x y"]
    spacedKeyList agrees columns list rfl rfl
  have keyless := (Row.primaryKeys_agree (.ofDocument "orders" ⟨"shop", .oracle⟩ []) keyedRow).2
    (by decide) (Or.inl rfl)
  exact ⟨agreed.1.trans agreed.2, agreed.1, keyless⟩

end RowConduit
