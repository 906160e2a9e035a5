import RowConduit.Proofs.Query.Symbols
import RowConduit.Proofs.Query.TableRead

/-!
# Names stay inside their quotes

The query that reads a table, scanned by the quoting rules of its dialect: every token closes, what
stands outside tokens is fixed by the types of the columns, and the select list has the table name
and then one item for each sourced column, whose tokens all stand for the name of that column.

The code between names holds no quoting mark, and a name or literal is always followed by code; this
is all that scanning needs.  Splitting needs in addition that each item closes its own parentheses.
-/

namespace RowConduit

open RowConduit.Text RowConduit.Symbol

def quotingMarks : List Char :=
  ['\x60', '"', '\x27']

/-- Something is written, and no character of it is a quoting mark. -/
def isCode (text : String) : Bool :=
  !text.toList.isEmpty && text.toList.all fun c => !quotingMarks.contains c

def startsWithCode : List Fragment → Bool
  | .identifier _ :: _ => false
  | .literal _ :: _ => false
  | _ => true

/-- Code holds no mark, and behind every name and literal comes code or nothing. -/
def wellSpaced : List Fragment → Bool
  | [] => true
  | .code text :: rest => isCode text && wellSpaced rest
  | .identifier _ :: rest => startsWithCode rest && wellSpaced rest
  | .literal _ :: rest => startsWithCode rest && wellSpaced rest

theorem startsWithCode_append {front back : List Fragment} (first : startsWithCode front = true)
    (second : startsWithCode back = true) : startsWithCode (front ++ back) = true := by
  cases front with
  | nil => exact second
  | cons fragment rest => cases fragment <;> simp_all [startsWithCode]

theorem wellSpaced_append {front back : List Fragment} (first : wellSpaced front = true)
    (second : wellSpaced back = true) (code : startsWithCode back = true) :
    wellSpaced (front ++ back) = true := by
  induction front with
  | nil => exact second
  | cons fragment rest ih =>
      cases fragment with
      | code text =>
          simp only [List.cons_append, wellSpaced, Bool.and_eq_true] at first ⊢
          exact ⟨first.1, ih first.2⟩
      | identifier id =>
          simp only [List.cons_append, wellSpaced, Bool.and_eq_true] at first ⊢
          exact ⟨startsWithCode_append first.1 code, ih first.2⟩
      | literal value =>
          simp only [List.cons_append, wellSpaced, Bool.and_eq_true] at first ⊢
          exact ⟨startsWithCode_append first.1 code, ih first.2⟩

namespace Dialect

theorem styleOf?_eq_none {d : Dialect} {c : Char} (plain : c ∉ quotingMarks) :
    d.styleOf? c = none := by
  simp only [quotingMarks, List.mem_cons, List.not_mem_nil, or_false, not_or] at plain
  cases d <;> simp [styleOf?, identifierStyle, literalStyle, plain]

theorem mark_mem {d : Dialect} {style : QuoteStyle} (used : d.Uses style) :
    style.mark ∈ quotingMarks := by
  rcases used with rfl | rfl <;> cases d <;> decide

def spelled (d : Dialect) (fragments : List Fragment) : List Char :=
  fragments.flatMap fun fragment => (d.writeFragment fragment).toList

theorem write_toList (d : Dialect) (fragments : List Fragment) :
    (d.write fragments).toList = d.spelled fragments := by
  rw [write, spelled, String.toList_join, List.flatMap_map]

theorem styleOf?_of_isCode {d : Dialect} {text : String} (code : isCode text = true) :
    ∀ c ∈ text.toList, d.styleOf? c = none := by
  intro c member
  simp only [isCode, Bool.and_eq_true, List.all_eq_true] at code
  exact styleOf?_eq_none (by simpa using code.2 c member)

/-- Well-spaced fragments that start with code can follow a token. -/
theorem apart_spelled {d : Dialect} {style : QuoteStyle} (used : d.Uses style)
    {fragments : List Fragment} (code : startsWithCode fragments = true)
    (spaced : wellSpaced fragments = true) : style.Apart (d.spelled fragments) := by
  intro _
  cases fragments with
  | nil => simp [spelled]
  | cons fragment rest =>
      cases fragment with
      | identifier id => simp [startsWithCode] at code
      | literal value => simp [startsWithCode] at code
      | code text =>
          simp only [wellSpaced, isCode, Bool.and_eq_true] at spaced
          cases characters : text.toList with
          | nil => simp [characters] at spaced
          | cons c cs =>
              have plain : c ∉ quotingMarks := by
                have clean := spaced.1.2
                rw [characters, List.all_cons, Bool.and_eq_true] at clean
                simpa using clean.1
              have different : c ≠ style.mark := fun same => plain (same ▸ mark_mem used)
              simpa [spelled, writeFragment, characters] using different

/-- Well-spaced fragments are scanned back to their symbols, so every token closes. -/
theorem scan?_spelled {d : Dialect} {fragments : List Fragment}
    (spaced : wellSpaced fragments = true) :
    d.scan? (d.spelled fragments) = some (fragments.flatMap d.symbols) := by
  induction fragments with
  | nil => simp [spelled, scan?]
  | cons fragment rest ih =>
      have unfolded : d.spelled (fragment :: rest) =
          (d.writeFragment fragment).toList ++ d.spelled rest := by
        simp [spelled]
      rw [unfolded, List.flatMap_cons]
      cases fragment with
      | code text =>
          simp only [wellSpaced, Bool.and_eq_true] at spaced
          rw [writeFragment, scan?_plain (styleOf?_of_isCode spaced.1), ih spaced.2]
          rfl
      | identifier id =>
          simp only [wellSpaced, Bool.and_eq_true] at spaced
          have used : d.Uses d.identifierStyle := Or.inl rfl
          rw [writeFragment, QuoteStyle.quoteText, String.toList_ofList,
            scan?_quote used _ (apart_spelled used spaced.1 spaced.2), ih spaced.2]
          rfl
      | literal value =>
          simp only [wellSpaced, Bool.and_eq_true] at spaced
          have used : d.Uses d.literalStyle := Or.inr rfl
          rw [writeFragment, QuoteStyle.quoteText, String.toList_ofList,
            scan?_quote used _ (apart_spelled used spaced.1 spaced.2), ih spaced.2]
          rfl

def OnlyNames (d : Dialect) (name : String) (symbols : List Symbol) : Prop :=
  ∀ style value, .token style value ∈ symbols → style = d.identifierStyle ∧ value = name.toList

/-- The fragments of an item that projects the column named by an identifier. -/
structure Projects (d : Dialect) (id : Identifier) (fragments : List Fragment) : Prop where
  spaced : wellSpaced fragments = true
  code : startsWithCode fragments = true
  balanced : Balanced (fragments.flatMap d.symbols)
  tokens : d.OnlyNames id.name (fragments.flatMap d.symbols)
  named : ∀ lead, lead = [] ∨ lead = [.char ' '] →
    outputName? (lead ++ fragments.flatMap d.symbols) = some id.name.toList

theorem onlyNames_spell (d : Dialect) (name s : String) : d.OnlyNames name (spell s) := by
  intro style value member
  obtain ⟨c, _, different⟩ := List.mem_map.mp member
  cases different

theorem onlyNames_token (d : Dialect) (name : String) :
    d.OnlyNames name [.token d.identifierStyle name.toList] := by
  intro style value member
  cases List.mem_singleton.mp member
  exact ⟨rfl, rfl⟩

theorem OnlyNames.append {d : Dialect} {name : String} {front back : List Symbol}
    (first : d.OnlyNames name front) (second : d.OnlyNames name back) :
    d.OnlyNames name (front ++ back) := by
  intro style value member
  rcases List.mem_append.mp member with inFront | inBack
  · exact first style value inFront
  · exact second style value inBack

theorem onlyNames_around (d : Dialect) (name before behind : String) :
    d.OnlyNames name (spell before ++ .token d.identifierStyle name.toList :: spell behind) :=
  (onlyNames_spell d name before).append
    ((onlyNames_token d name).append (onlyNames_spell d name behind))

theorem projects_of_alias {d : Dialect} {id : Identifier} {fragments : List Fragment}
    {front : List Symbol} (spaced : wellSpaced fragments = true)
    (code : startsWithCode fragments = true)
    (shape : fragments.flatMap d.symbols =
      front ++ (spell " AS " ++ [.token d.identifierStyle id.name.toList]))
    (balanced : Balanced front)
    (tokens : d.OnlyNames id.name front) :
    Projects d id fragments := by
  have last : Balanced (spell " AS " ++ [.token d.identifierStyle id.name.toList]) :=
    ⟨by rfl, by rfl⟩
  refine ⟨spaced, code, ?_, ?_, ?_⟩
  · rw [shape]
    exact balanced.append last
  · rw [shape]
    exact tokens.append ((onlyNames_spell d id.name " AS ").append (onlyNames_token d id.name))
  · intro lead allowed
    have leadClosed : depthAfter 0 lead = 0 := by
      rcases allowed with rfl | rfl <;> rfl
    rw [shape, ← List.append_assoc]
    refine outputName?_alias ?_ _ _
    rw [depthAfter_append, leadClosed, balanced.closed]

/-- Two pieces of code that may stand around a name: the second closes what the first opens. -/
def encloses (before behind : String) : Bool :=
  isCode before && isCode behind && unbroken 0 (spell before) &&
    unbroken (depthAfter 0 (spell before)) (spell behind) &&
    depthAfter (depthAfter 0 (spell before)) (spell behind) == 0

theorem balanced_of_encloses {before behind : String} (fits : encloses before behind = true)
    (style : QuoteStyle) (value : List Char) :
    Balanced (spell before ++ .token style value :: spell behind) := by
  simp only [encloses, Bool.and_eq_true, beq_iff_eq] at fits
  exact Balanced.around ⟨fits.1.1.2, rfl⟩ ⟨fits.1.2, fits.2⟩ style value

theorem plainColumn_projects (d : Dialect) (id : Identifier) : Projects d id (plainColumn id) where
  spaced := by rfl
  code := by rfl
  balanced := ⟨by rfl, by rfl⟩
  tokens := (onlyNames_spell d id.name "t.").append (onlyNames_token d id.name)
  named := by
    rintro lead (rfl | rfl) <;> rfl

/-- A name in parentheses or followed by a cast, under its own name. -/
theorem enclosed_projects {d : Dialect} {id : Identifier} {before behind : String}
    (fits : encloses before behind = true) :
    Projects d id [.code before, .identifier id, .code (behind ++ " AS "), .identifier id] := by
  have parts := fits
  simp only [encloses, Bool.and_eq_true] at parts
  have shape : [Fragment.code before, .identifier id, .code (behind ++ " AS "),
      .identifier id].flatMap d.symbols =
      (spell before ++ .token d.identifierStyle id.name.toList :: spell behind) ++
        (spell " AS " ++ [.token d.identifierStyle id.name.toList]) := by
    simp [symbols, spell_append]
  refine projects_of_alias ?_ rfl shape (balanced_of_encloses fits _ _)
    (onlyNames_around d id.name before behind)
  · have longer : isCode (behind ++ " AS ") = true := by
      have code := parts.1.1.1.2
      simp only [isCode, Bool.and_eq_true, String.toList_append, List.all_append] at code ⊢
      refine ⟨?_, code.2, by decide⟩
      simp
    simp [wellSpaced, startsWithCode, parts.1.1.1.1, longer]

/-- A conversion of the column, wherever it stands in the conversion, keeps the name. -/
theorem unlessNull_projects {d : Dialect} {id : Identifier} {before behind : String}
    (fits : encloses before behind = true) :
    Projects d id (unlessNull id [.code before, .identifier id, .code behind]) := by
  have parts := fits
  simp only [encloses, Bool.and_eq_true] at parts
  have guard : encloses "CASE WHEN t." " IS NULL THEN NULL ELSE " = true := by decide +kernel
  have closing : Balanced (spell " END") := ⟨by rfl, by rfl⟩
  have shape : (unlessNull id [.code before, .identifier id, .code behind]).flatMap d.symbols =
      ((spell "CASE WHEN t." ++ .token d.identifierStyle id.name.toList ::
          spell " IS NULL THEN NULL ELSE ") ++
        (spell before ++ .token d.identifierStyle id.name.toList :: spell behind) ++
        spell " END") ++ (spell " AS " ++ [.token d.identifierStyle id.name.toList]) := by
    have ending : spell " END AS " = spell " END" ++ spell " AS " := by decide +kernel
    simp [unlessNull, symbols, ending]
  refine projects_of_alias ?_ rfl shape
    (((balanced_of_encloses guard _ _).append (balanced_of_encloses fits _ _)).append closing) ?_
  · have first : isCode "CASE WHEN t." = true := by decide +kernel
    have second : isCode " IS NULL THEN NULL ELSE " = true := by decide +kernel
    have last : isCode " END AS " = true := by decide +kernel
    simp [unlessNull, wellSpaced, startsWithCode, parts.1.1.1, first, second, last]
  · have ifNull := onlyNames_around d id.name "CASE WHEN t." " IS NULL THEN NULL ELSE "
    have ifPresent := onlyNames_around d id.name before behind
    exact (ifNull.append ifPresent).append (onlyNames_spell d id.name " END")

/-- Whatever its type, a column comes out under its own name, and every token is that name. -/
theorem projection_projects (d : Dialect) (id : Identifier) (type : LogicalType) :
    Projects d id (d.projection id type) := by
  fun_cases projection d id type
  · exact unlessNull_projects (by decide +kernel)
  · exact enclosed_projects (by decide +kernel : encloses "CAST(t." " AS STRING)" = true)
  · exact unlessNull_projects (by decide +kernel)
  · exact unlessNull_projects (by decide +kernel)
  · exact unlessNull_projects (by decide +kernel)
  · exact enclosed_projects (by decide +kernel : encloses "t." "::text" = true)
  · exact unlessNull_projects (by decide +kernel)
  · exact plainColumn_projects d id

/-- Outside tokens a projection does not depend on the name of the column. -/
theorem projection_blank (d : Dialect) (id other : Identifier) (type : LogicalType) :
    ((d.projection id type).flatMap d.symbols).map blank =
      ((d.projection other type).flatMap d.symbols).map blank := by
  fun_cases projection d id type <;>
    simp [projection, unlessNull, convertElements, selectElements, plainColumn, symbols, blank, *]

end Dialect

namespace Planner

open Dialect

variable {d : Dialect}

def listSymbols (d : Dialect) (table : Identifier) (columns : List (List Fragment)) :
    List Symbol :=
  .token d.literalStyle table.name.toList :: spell (" AS " ++ sourceTableColumn) ++
    (if columns.isEmpty then [] else
      .char ',' :: .char ' ' :: (commaSeparated columns).flatMap d.symbols)

theorem queryFragments_symbols (d : Dialect) (table : Identifier)
    (columns : List (List Fragment)) :
    (queryFragments table columns).flatMap d.symbols =
      spell "SELECT " ++ (listSymbols d table columns ++
        (spell " FROM " ++ .token d.identifierStyle table.name.toList :: spell " AS t")) := by
  have comma : spell ", " = [.char ',', .char ' '] := by decide +kernel
  cases columns <;> simp [queryFragments, listSymbols, symbols, comma]

theorem commaSeparated_spaced {columns : List (List Fragment)}
    (each : ∀ column ∈ columns, wellSpaced column = true) :
    wellSpaced (commaSeparated columns) = true := by
  have comma : isCode "," = true := by decide
  fun_induction commaSeparated columns with
  | case1 => rfl
  | case2 only => exact each only List.mem_cons_self
  | case3 first rest _ ih =>
      have later := ih fun column member => each column (List.mem_cons_of_mem first member)
      refine wellSpaced_append (each first List.mem_cons_self) ?_ rfl
      rw [wellSpaced, comma, later]
      rfl

theorem queryFragments_spaced (table : Identifier) {columns : List (List Fragment)}
    (each : ∀ column ∈ columns, wellSpaced column = true) :
    wellSpaced (queryFragments table columns) = true := by
  have select : isCode "SELECT " = true := by decide
  have name : isCode (" AS " ++ sourceTableColumn) = true := by decide +kernel
  have comma : isCode ", " = true := by decide
  have source : wellSpaced [.code " FROM ", .identifier table, .code " AS t"] = true := by
    have before : isCode " FROM " = true := by decide
    have behind : isCode " AS t" = true := by decide
    simp [wellSpaced, startsWithCode, before, behind]
  rw [queryFragments]
  refine wellSpaced_append (wellSpaced_append ?_ ?_ ?_) source rfl
  · simp [wellSpaced, startsWithCode, select, name]
  · split
    · rfl
    · rw [wellSpaced, comma, commaSeparated_spaced each]
      rfl
  · split <;> rfl

/-- Between top-level commas stand the projections of the columns. -/
theorem splitCommas_commaSeparated {columns : List (List Fragment)} (listed : columns ≠ [])
    (each : ∀ column ∈ columns, Balanced (column.flatMap d.symbols)) :
    splitCommas 0 ((commaSeparated columns).flatMap d.symbols) =
      columns.map fun column => column.flatMap d.symbols := by
  fun_induction commaSeparated columns with
  | case1 => exact absurd rfl listed
  | case2 only => exact splitCommas_whole (each only List.mem_cons_self).whole
  | case3 first rest nonempty ih =>
      have head := each first List.mem_cons_self
      have later := ih nonempty fun column member => each column (List.mem_cons_of_mem first member)
      have shape : (first ++ Fragment.code "," :: commaSeparated rest).flatMap d.symbols =
          first.flatMap d.symbols ++
            .char ',' :: (commaSeparated rest).flatMap d.symbols := by
        have comma : spell "," = [.char ','] := by decide
        simp [symbols, comma]
      rw [shape, splitCommas_comma head.whole head.closed, later]
      rfl

theorem commaSeparated_closed {columns : List (List Fragment)}
    (each : ∀ column ∈ columns, Balanced (column.flatMap d.symbols)) :
    depthAfter 0 ((commaSeparated columns).flatMap d.symbols) = 0 := by
  fun_induction commaSeparated columns with
  | case1 => rfl
  | case2 only => exact (each only List.mem_cons_self).closed
  | case3 first rest _ ih =>
      have head := each first List.mem_cons_self
      have later := ih fun column member => each column (List.mem_cons_of_mem first member)
      rw [List.flatMap_append, depthAfter_append, head.closed, List.flatMap_cons,
        depthAfter_append]
      exact later

/-- The items of the select list: the table name, then the columns, a blank before the first. -/
def listItems (d : Dialect) (table : Identifier) (columns : List (List Fragment)) :
    List (List Symbol) :=
  (.token d.literalStyle table.name.toList :: spell (" AS " ++ sourceTableColumn)) ::
    (columns.map fun column => column.flatMap d.symbols).modifyHead (.char ' ' :: ·)

theorem splitCommas_listSymbols (table : Identifier) {columns : List (List Fragment)}
    (each : ∀ column ∈ columns, Balanced (column.flatMap d.symbols)) :
    splitCommas 0 (listSymbols d table columns) = listItems d table columns := by
  have first : Balanced (.token d.literalStyle table.name.toList ::
      spell (" AS " ++ sourceTableColumn)) := ⟨by rfl, by rfl⟩
  rw [listSymbols, listItems]
  split
  · next none =>
      rw [List.isEmpty_iff.mp none, List.append_nil, splitCommas_whole first.whole]
      rfl
  · next some =>
      have listed : columns ≠ [] := fun none => some (List.isEmpty_iff.mpr none)
      have blank : unbroken 0 [.char ' '] = true := rfl
      have lead := splitCommas_append blank ((commaSeparated columns).flatMap d.symbols)
      rw [splitCommas_comma first.whole first.closed]
      rw [List.singleton_append] at lead
      rw [lead]
      exact congrArg _ (congrArg _ (splitCommas_commaSeparated listed each))

theorem listSymbols_closed (table : Identifier) {columns : List (List Fragment)}
    (each : ∀ column ∈ columns, Balanced (column.flatMap d.symbols)) :
    depthAfter 0 (listSymbols d table columns) = 0 := by
  have first : Balanced (.token d.literalStyle table.name.toList ::
      spell (" AS " ++ sourceTableColumn)) := ⟨by rfl, by rfl⟩
  rw [listSymbols, depthAfter_append, first.closed]
  split
  · rfl
  · exact commaSeparated_closed each

/-- The parts of the query are the items of its list and the table behind its last `FROM`. -/
theorem selectParts?_queryFragments (table : Identifier) {columns : List (List Fragment)}
    (each : ∀ column ∈ columns, Balanced (column.flatMap d.symbols)) :
    selectParts? ((queryFragments table columns).flatMap d.symbols) =
      some (listItems d table columns,
        .token d.identifierStyle table.name.toList :: spell " AS t") := by
  have found : splitLast? (spell " FROM ") (depthAfter 0 (listSymbols d table columns))
      (spell " FROM " ++ .token d.identifierStyle table.name.toList :: spell " AS t") =
      some ([], .token d.identifierStyle table.name.toList :: spell " AS t") := by
    rw [listSymbols_closed table each]
    rfl
  rw [queryFragments_symbols, selectParts?, if_pos (List.isPrefixOf_iff_prefix.mpr
    (List.prefix_append _ _)), List.drop_left, splitLast?_append found, Option.map_some,
    List.append_nil, splitCommas_listSymbols table each]

/-- A name to fill the places of names with when what stands around them is written down. -/
def placeholder : Identifier :=
  ⟨"x", by decide⟩

/-- What stands outside the tokens of the query for columns of these types, tokens left empty. -/
def outline (d : Dialect) (types : List LogicalType) : List Symbol :=
  ((queryFragments placeholder (types.map (d.projection placeholder))).flatMap d.symbols).map blank

theorem commaSeparated_blank {columns others : List (List Fragment)}
    (same : List.Forall₂ (fun column other => (column.flatMap d.symbols).map blank =
      (other.flatMap d.symbols).map blank) columns others) :
    ((commaSeparated columns).flatMap d.symbols).map blank =
      ((commaSeparated others).flatMap d.symbols).map blank := by
  induction same with
  | nil => rfl
  | cons head rest ih =>
      cases rest with
      | nil => exact head
      | cons next more =>
          simp only [commaSeparated, List.flatMap_append, List.flatMap_cons, List.map_append,
            head]
          exact congrArg _ (congrArg _ ih)

theorem queryFragments_blank (id other : Identifier) {columns others : List (List Fragment)}
    (same : List.Forall₂ (fun column other => (column.flatMap d.symbols).map blank =
      (other.flatMap d.symbols).map blank) columns others) :
    ((queryFragments id columns).flatMap d.symbols).map blank =
      ((queryFragments other others).flatMap d.symbols).map blank := by
  have list : (listSymbols d id columns).map blank = (listSymbols d other others).map blank := by
    have inner := commaSeparated_blank same
    cases same with
    | nil => simp [listSymbols, blank]
    | cons head rest => simp [listSymbols, blank, inner]
  simp [queryFragments_symbols, list, blank]

variable {p : Planner} {table : Table} {read : TableRead} {projections : List (List Fragment)}

theorem Projected.each (projected : p.Projected table projections) :
    List.Forall₂ (fun column fragments => ∃ id : Identifier, id.name = column.name ∧
      p.dialect.Projects id fragments) table.sourcedColumns projections := by
  refine List.Forall₂.imp ?_ projected
  rintro column fragments ⟨id, named, rfl⟩
  exact ⟨id, named, projection_projects p.dialect id (p.mapper.mapColumn column)⟩

theorem Projected.projects (projected : p.Projected table projections) {fragments : List Fragment}
    (member : fragments ∈ projections) : ∃ id, p.dialect.Projects id fragments := by
  obtain ⟨column, _, id, _, projects⟩ := exists_of_mem_right projected.each member
  exact ⟨id, projects⟩

theorem Projected.blank (projected : p.Projected table projections) (id : Identifier) :
    ((queryFragments id projections).flatMap p.dialect.symbols).map Symbol.blank =
      outline p.dialect (table.sourcedColumns.map p.mapper.mapColumn) := by
  apply queryFragments_blank id placeholder
  rw [List.map_map, List.forall₂_map_right_iff]
  refine List.Forall₂.flip (List.Forall₂.imp ?_ projected)
  rintro column fragments ⟨column, _, rfl⟩
  exact projection_blank p.dialect column placeholder _

/-- An item of a select list that gives a column under its name and quotes nothing else. -/
def NamesColumn (d : Dialect) (column : Column) (item : List Symbol) : Prop :=
  d.OnlyNames column.name item ∧ outputName? item = some column.name.toList

/-- The parts of a query that reads the sourced columns of a table and the name of the table. -/
structure Confined (d : Dialect) (table : Table) (items : List (List Symbol))
    (source : List Symbol) : Prop where
  count : items.length = 1 + table.sourcedColumns.length
  tableName : items.head? = some (.token d.literalStyle table.name.toList ::
    spell (" AS " ++ sourceTableColumn))
  columns : List.Forall₂ (NamesColumn d) table.sourcedColumns items.tail
  source : source = .token d.identifierStyle table.name.toList :: spell " AS t"

/-- The first column item keeps its name and its tokens behind the blank that leads it. -/
theorem Projected.namesColumns (projected : p.Projected table projections) (id : Identifier) :
    List.Forall₂ (NamesColumn p.dialect) table.sourcedColumns
      (listItems p.dialect id projections).tail := by
  have plain : List.Forall₂ (fun column fragments =>
      ∀ lead, lead = [] ∨ lead = [.char ' '] →
        NamesColumn p.dialect column (lead ++ fragments.flatMap p.dialect.symbols))
      table.sourcedColumns projections := by
    refine List.Forall₂.imp ?_ projected.each
    rintro column fragments ⟨id, named, projects⟩ lead allowed
    have blanks : p.dialect.OnlyNames column.name lead := by
      intro style value member
      rcases allowed with rfl | rfl <;> simp at member
    rw [NamesColumn, ← named]
    rw [← named] at blanks
    exact ⟨blanks.append projects.tokens, projects.named lead allowed⟩
  rw [listItems, List.tail_cons]
  generalize table.sourcedColumns = columns at plain ⊢
  cases plain with
  | nil => exact List.Forall₂.nil
  | cons first rest =>
      refine List.Forall₂.cons (first [.char ' '] (Or.inr rfl)) ?_
      rw [List.forall₂_map_right_iff]
      exact List.Forall₂.imp (fun _ _ names => names [] (Or.inl rfl)) rest

/--
A planned query scans without an open token; what is outside its tokens is fixed by the dialect and
the types of the columns, and its parts give each name of the table exactly the place of that name.
-/
theorem planTable_confined (planned : p.planTable table = .ok read) :
    ∃ symbols items source,
      p.dialect.scan? read.query.toList = some symbols ∧
      symbols.map Symbol.blank = outline p.dialect (table.sourcedColumns.map p.mapper.mapColumn) ∧
      selectParts? symbols = some (items, source) ∧
      Confined p.dialect table items source := by
  obtain ⟨projections, id, projected, named, rfl⟩ := planTable_eq_ok_iff.mp planned
  have spaced : wellSpaced (queryFragments id projections) = true := by
    refine queryFragments_spaced id fun fragments member => ?_
    obtain ⟨_, projects⟩ := projected.projects member
    exact projects.spaced
  have balanced : ∀ fragments ∈ projections, Balanced (fragments.flatMap p.dialect.symbols) := by
    intro fragments member
    obtain ⟨_, projects⟩ := projected.projects member
    exact projects.balanced
  refine ⟨(queryFragments id projections).flatMap p.dialect.symbols,
    listItems p.dialect id projections,
    .token p.dialect.identifierStyle table.name.toList :: spell " AS t", ?_, ?_, ?_, ?_⟩
  · rw [write_toList, scan?_spelled spaced]
  · exact projected.blank id
  · rw [← named]
    exact selectParts?_queryFragments id balanced
  · have columns := projected.namesColumns id
    refine ⟨?_, ?_, columns, rfl⟩
    · have length := columns.length_eq
      rw [listItems, List.tail_cons] at length
      rw [listItems, List.length_cons, ← length, Nat.add_comm]
    · rw [listItems, ← named]
      rfl

/-- A table whose names hold marks, backslashes, commas and keywords. -/
def trickyTable : Table :=
  ⟨"x\x60\", \\ FROM y",
    [⟨"a\x60 AS b, \\", "ARRAY<JSON>", .googleSql, none, none, false⟩,
      ⟨"sum", "INT64", .googleSql, none, none, true⟩,
      ⟨"\\\x60) FROM z", "STRING", .googleSql, none, none, false⟩], none, []⟩

theorem planTable_confined_tricky :
    let p : Planner := ⟨.googleSql, TypeMapper.builtin⟩
    ∃ read, p.planTable trickyTable = .ok read ∧ ∃ symbols items source,
      p.dialect.scan? read.query.toList = some symbols ∧
      symbols.map Symbol.blank = outline .googleSql [.array .json, .string] ∧
      selectParts? symbols = some (items, source) ∧
      Confined .googleSql trickyTable items source := by
  intro p
  have plannable : ∃ read, p.planTable trickyTable = .ok read := by
    refine planTable_succeeds_iff.mpr ⟨?_, ?_⟩ <;> decide +kernel
  obtain ⟨read, planned⟩ := plannable
  have types : trickyTable.sourcedColumns.map p.mapper.mapColumn = [.array .json, .string] := by
    decide +kernel
  have confined := planTable_confined planned
  rw [types] at confined
  exact ⟨read, planned, confined⟩

end Planner

end RowConduit
