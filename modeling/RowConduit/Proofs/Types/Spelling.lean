import RowConduit.Proofs.Number.Written
import RowConduit.Proofs.Types.LookupName
import RowConduit.Types.Mapper

/-!
# The spelling of type texts

Letter case and the kind and number of blanks make no difference to a type: a text is mapped as its
canonical spelling is, whatever the text.

The reader trims texts and cuts them at marks, and it does the same to a respelled text as to the
text.  Where it compares, it compares constructor names in lower case, and a name with a blank in it
is no constructor.  So a respelled text is taken apart into the same parts, respelled, down to leaves
with the same numbers and with names that are looked up alike.  The induction is on the length of the
text, as the reader goes.
-/

namespace RowConduit

open RowConduit.Text RowConduit.Number

def canonicalText (s : String) : String :=
  String.ofList (canonical s.toList)

namespace TypeExpr

/-- The same structure with the same numbers, and with names that are looked up alike. -/
inductive Alike : TypeExpr → TypeExpr → Prop where
  | leaf {l k : TypeLeaf} (name : lookupName l.name = lookupName k.name)
      (precision : l.precision = k.precision) (scale : l.scale = k.scale) :
      Alike (.leaf l) (.leaf k)
  | array {d e : TypeExpr} (element : Alike d e) : Alike (.array d) (.array e)
  | map {d e f g : TypeExpr} (key : Alike d e) (value : Alike f g) :
      Alike (.map d f) (.map e g)

section Parts

theorem solid?_respell (spaced : Bool) (cs : List Char) :
    solid? (respell spaced cs) = (solid? cs).map (respell false) := by
  by_cases blank : AllBlank cs
  · rw [solid?_eq_none blank, solid?_eq_none (allBlank_respell_iff.mpr blank), Option.map_none]
  · have solid : ¬ AllBlank (respell spaced cs) := by
      rw [allBlank_respell_iff]
      exact blank
    rw [solid?_eq_some blank, solid?_eq_some solid, trim_respell, Option.map_some]

theorem depthStep_toLower (c : Char) : depthStep c.toLower = depthStep c := by
  simp [depthStep, toLower_eq_iff]

theorem cutAtComma?_respell (spaced : Bool) (depth : Int) (cs : List Char) :
    cutAtComma? depth (respell spaced cs) =
      (cutAtComma? depth cs).map fun sides => (respell spaced sides.1, respell false sides.2) := by
  induction cs generalizing spaced depth with
  | nil => rfl
  | cons c rest ih =>
      by_cases blank : isBlank c = true
      · have uncut {d : Char} (gap : isBlank d = true) (others : List Char) :
            cutAtComma? depth (d :: others) =
              (cutAtComma? depth others).map fun sides => (d :: sides.1, sides.2) := by
          have level := level_of gap (by simp [isBlank])
          rw [cutAtComma?_cons (fun comma => absurd comma level.1), level.2, Int.add_zero]
        cases spaced <;>
          simp [respell_cons_of_isBlank blank, uncut blank, uncut isBlank_space, ih,
            Function.comp_def]
      · have visible : isBlank c = false := by simpa using blank
        have comma : c.toLower = ',' ↔ c = ',' := toLower_eq_iff (by decide) c
        rw [respell_cons_of_visible visible, cutAtComma?, cutAtComma?, depthStep_toLower]
        simp only [comma]
        split
        · simp [respell_nil]
        · simp [ih, respell_cons_of_visible visible, Function.comp_def]

theorem splitPair?_respell (arguments : List Char) :
    splitPair? (respell false arguments) =
      (splitPair? arguments).map fun sides => (respell false sides.1, respell false sides.2) := by
  rw [splitPair?, splitPair?, cutAtComma?_respell]
  cases cutAtComma? 0 arguments with
  | none => rfl
  | some sides =>
      simp only [Option.map_some, Option.bind_eq_bind, Option.bind_some, solid?_respell]
      cases solid? sides.1 with
      | none => rfl
      | some key => cases solid? sides.2 <;> rfl

theorem dropEnd?_brackets_respell (cs : List Char) :
    dropEnd? ['[', ']'] (respell false cs) = (dropEnd? ['[', ']'] cs).map (respell false) := by
  have twice (ds : List Char) :
      dropEnd? ['[', ']'] ds = (dropEnd? [']'] ds).bind (dropEnd? ['[']) :=
    dropEnd?_append_ending ['['] [']'] ds
  rw [twice, twice, dropEnd?_respell (by decide) (by decide)]
  cases dropEnd? [']'] cs with
  | none => rfl
  | some front => exact dropEnd?_respell (by decide) (by decide) false front

theorem splitAngle?_respell (raw : List Char) :
    splitAngle? (respell false raw) =
      (splitAngle? raw).map fun sides => (respell false sides.1, respell false sides.2) := by
  rw [splitAngle?, splitAngle?, cutAt?_respell (ignoresSpelling_mark (by decide) (by decide))]
  cases cutAt? (· = '<') raw with
  | none => rfl
  | some sides =>
      simp only [Option.map_some, Option.bind_eq_bind, Option.bind_some, solid?_respell,
        dropEnd?_respell (by decide : Char.isAlpha '>' = false) (by decide)]
      cases dropEnd? ['>'] sides.2 with
      | none => rfl
      | some inside =>
          simp only [Option.map_some, Option.bind_some, solid?_respell]
          cases solid? sides.1 with
          | none => rfl
          | some name => cases solid? inside <;> rfl

theorem stripSize_respell (raw : List Char) :
    stripSize (respell false raw) = respell false (stripSize raw) := by
  rw [stripSize, stripSize, cutAt?_respell (ignoresSpelling_mark (by decide) (by decide)),
    dropEnd?_respell (by decide) (by decide)]
  cases cutAt? (· = '(') raw with
  | none => rfl
  | some sides =>
      cases dropEnd? [')'] raw with
      | none => rfl
      | some front => exact trimEnd_respell false sides.1

theorem Constructor.ofName_respell (name : List Char) :
    Constructor.ofName (respell false name) = Constructor.ofName name := by
  have same {word : String} (visible : Visible word.toList) :
      String.ofList (respell false name) = word ↔
        String.ofList (name.map Char.toLower) = word := by
    rw [String.ofList_eq, String.ofList_eq, respell_eq_iff visible]
  have frozen : Visible "frozen".toList := visible_of_all (by decide)
  have array : Visible "array".toList := visible_of_all (by decide)
  have list : Visible "list".toList := visible_of_all (by decide)
  have set : Visible "set".toList := visible_of_all (by decide)
  have map : Visible "map".toList := visible_of_all (by decide)
  simp only [Constructor.ofName, map_toLower_respell, same frozen, same array, same list, same set,
    same map]

theorem sizeNumber?_respell (spaced : Bool) (cs : List Char) :
    sizeNumber? (respell spaced cs) = sizeNumber? cs := by
  ext i
  have written (n : WrittenInteger) : n.text = respell false (trim cs) ↔ n.text = trim cs := by
    rw [eq_comm, respell_eq_iff n.visible_text, map_toLower_eq_iff n.letterless_text, eq_comm]
  rw [sizeNumber?_eq_some_iff_read, sizeNumber?_eq_some_iff_read, trim_respell,
    readUInt32_eq_ok_iff, readUInt32_eq_ok_iff]
  simp only [written]

theorem sizeNumbers_respell (raw : List Char) :
    sizeNumbers (respell false raw) = sizeNumbers raw := by
  have parenthesis : IgnoresSpelling (· = ')') := ignoresSpelling_mark (by decide) (by decide)
  have comma : IgnoresSpelling (· = ',') := ignoresSpelling_mark (by decide) (by decide)
  rw [sizeNumbers, sizeNumbers, cutAt?_respell (ignoresSpelling_mark (by decide) (by decide))]
  cases cutAt? (· = '(') raw with
  | none => rfl
  | some sides =>
      simp only [Option.map_some, cutAt?_respell parenthesis]
      cases cutAt? (· = ')') sides.2 with
      | none => rfl
      | some inner =>
          simp only [Option.map_some, pieces_respell comma]
          rcases pieces (· = ',') inner.1 with _ | ⟨first, _ | ⟨second, others⟩⟩
          · rfl
          · simp [sizeNumber?_respell]
          · simp [sizeNumber?_respell]

end Parts

theorem alike_leafOf {name other whole text : List Char} (names : lookupName name = lookupName other)
    (numbers : sizeNumbers whole = sizeNumbers text) :
    Alike (leafOf name whole) (leafOf other text) :=
  .leaf names (by rw [numbers]) (by rw [numbers])

theorem alike_parseIn_respell {whole other : List Char}
    (numbers : sizeNumbers whole = sizeNumbers other) (text : List Char) :
    Alike (parseIn whole (respell false text)) (parseIn other text) := by
  have shrinks := trim_length text
  rw [parseIn_eq whole, parseIn_eq other, trim_respell, dropEnd?_brackets_respell]
  cases dropped : dropEnd? ['[', ']'] (trim text) with
  | some element =>
      have smaller := dropEnd?_length dropped
      have shorter : element.length < text.length := by
        simp only [List.length_cons, List.length_nil] at smaller
        omega
      have parts := alike_parseIn_respell (sizeNumbers_respell element) element
      exact .array parts
  | none =>
      rw [Option.map_none, splitAngle?_respell]
      cases angle : splitAngle? (trim text) with
      | none =>
          have names : lookupName (stripSize (respell false (trim text))) =
              lookupName (stripSize (trim text)) := by
            rw [stripSize_respell, lookupName_respell]
          exact alike_leafOf names numbers
      | some sides =>
          obtain ⟨name, arguments⟩ := sides
          have smaller := splitAngle?_length angle
          have wholeLeaf : Alike (leafOf (respell false (trim text)) whole)
              (leafOf (trim text) other) := alike_leafOf (lookupName_respell _) numbers
          simp only [Option.map_some, Constructor.ofName_respell]
          cases Constructor.ofName name with
          | transparent => exact alike_parseIn_respell numbers arguments
          | collection =>
              have parts := alike_parseIn_respell (sizeNumbers_respell arguments) arguments
              exact .array parts
          | unknown => exact wholeLeaf
          | pairing =>
              simp only [splitPair?_respell]
              cases pair : splitPair? arguments with
              | none => exact wholeLeaf
              | some parts =>
                  obtain ⟨key, value⟩ := parts
                  have shorter := splitPair?_length pair
                  have keys := alike_parseIn_respell (sizeNumbers_respell key) key
                  have values := alike_parseIn_respell (sizeNumbers_respell value) value
                  exact .map keys values
termination_by text.length

end TypeExpr

namespace TypeMapper

open TypeExpr

theorem mapExpr_of_alike (m : TypeMapper) (kind : SourceKind) {d e : TypeExpr} (alike : Alike d e)
    (precision scale : Option UInt32) :
    m.mapExpr kind precision scale d = m.mapExpr kind precision scale e := by
  induction alike generalizing precision scale with
  | leaf name leafPrecision leafScale =>
      rw [mapExpr, mapExpr, mapScalar, mapScalar, name, leafPrecision, leafScale]
  | array element ih => rw [mapExpr, mapExpr, ih]
  | map key value keyIh valueIh => rw [mapExpr, mapExpr, keyIh, valueIh]

/-- A text and its canonical spelling are mapped to the same type. -/
theorem mapType_canonicalText (m : TypeMapper) (kind : SourceKind) (raw : String)
    (precision scale : Option UInt32) :
    m.mapType kind (canonicalText raw) precision scale = m.mapType kind raw precision scale := by
  have alike : Alike (parse (respell false raw.toList)) (parse raw.toList) :=
    alike_parseIn_respell (sizeNumbers_respell raw.toList) raw.toList
  rw [mapType, mapType, canonicalText, String.toList_ofList, canonical, parse_trim]
  exact mapExpr_of_alike m kind alike precision scale

example :
    canonicalText " MAP<Double\tPrecision ,\n Timestamp ( 6 )  WITH time  zone[ ]>[]  " =
      "map<double precision , timestamp ( 6 ) with time zone[ ]>[]" := by
  decide +kernel

end TypeMapper

end RowConduit
