import RowConduit.Proofs.Row.Representation
import RowConduit.Row.Template

/-!
# Templates are resolved in one pass

A template is taken apart in exactly one way: literal texts with a placeholder after each, and a
tail in which no placeholder is closed.  Resolving it puts one text in the place of each placeholder
and leaves everything else as it stands, so what was put there is never looked at again.

Two templates with the same text are the same because the reader of parts gives back the layout,
whatever it was put together from; that there is one is an induction along the reader.
-/

namespace RowConduit

open RowConduit.Text

namespace Template

structure Slot where
  literal : List Char
  name : List Char
  unopened : opening ∉ literal
  unclosed : closing ∉ name

/-- There is no opening brace, or there is no closing brace behind the first one. -/
def PlaceholderFree (cs : List Char) : Prop :=
  opening ∉ cs ∨
    ∃ before after, opening ∉ before ∧ cs = before ++ opening :: after ∧ closing ∉ after

/-- A template taken apart: placeholders, each with the literal text before it, and a tail. -/
structure Layout where
  slots : List Slot
  tail : List Char
  free : PlaceholderFree tail

def written (name : List Char) : List Char :=
  opening :: (name ++ [closing])

def Slot.text (slot : Slot) : List Char :=
  slot.literal ++ written slot.name

def Slot.parts (slot : Slot) : List Part :=
  [.literal slot.literal, .placeholder slot.name]

def Layout.text (layout : Layout) : List Char :=
  layout.slots.flatMap Slot.text ++ layout.tail

def Layout.fill (layout : Layout) (value : List Char → List Char) : List Char :=
  layout.slots.flatMap (fun slot => slot.literal ++ value slot.name) ++ layout.tail

theorem parts_eq (cs : List Char) :
    parts cs =
      match cutAt? (· = opening) cs with
      | none => [.literal cs]
      | some (before, inside) =>
          match cutAt? (· = closing) inside with
          | none => [.literal cs]
          | some (name, after) => .literal before :: .placeholder name :: parts after := by
  rw [parts]
  split
  · next opens => rw [opens]
  · next opens =>
      rw [opens]
      dsimp only
      split
      · next closes => rw [closes]
      · next closes => rw [closes]

theorem parts_of_free {cs : List Char} (free : PlaceholderFree cs) :
    parts cs = [.literal cs] := by
  rw [parts_eq]
  rcases free with unopened | ⟨before, after, unopened, shape, unclosed⟩
  · rw [cutAt?_mark_eq_none_iff.mpr unopened]
  · rw [cutAt?_mark_eq_some_iff.mpr ⟨unopened, shape⟩]
    dsimp only
    rw [cutAt?_mark_eq_none_iff.mpr unclosed]

/-- A slot at the beginning of a template is read off, whatever follows it. -/
theorem parts_append (slot : Slot) (rest : List Char) :
    parts (slot.text ++ rest) = slot.parts ++ parts rest := by
  have shape : slot.text ++ rest =
      slot.literal ++ opening :: (slot.name ++ closing :: rest) := by
    simp [Slot.text, written]
  have closes : cutAt? (· = closing) (slot.name ++ closing :: rest) = some (slot.name, rest) :=
    cutAt?_mark_eq_some_iff.mpr ⟨slot.unclosed, rfl⟩
  rw [parts_eq, cutAt?_mark_eq_some_iff.mpr ⟨slot.unopened, shape⟩]
  dsimp only
  rw [closes]
  rfl

theorem parts_text (layout : Layout) :
    parts layout.text = layout.slots.flatMap Slot.parts ++ [.literal layout.tail] := by
  obtain ⟨slots, tail, free⟩ := layout
  simp only [Layout.text]
  induction slots with
  | nil => exact parts_of_free free
  | cons slot slots ih =>
      rw [List.flatMap_cons, List.append_assoc, parts_append, ih, List.flatMap_cons,
        List.append_assoc]

/-- Every text can be taken apart: the reader finds the slots one after the other. -/
theorem exists_layout (cs : List Char) : ∃ layout : Layout, layout.text = cs := by
  induction cs using parts.induct with
  | case1 cs opens =>
      exact ⟨⟨[], cs, Or.inl (cutAt?_mark_eq_none_iff.mp opens)⟩, rfl⟩
  | case2 cs before inside opens closes =>
      obtain ⟨unopened, shape⟩ := cutAt?_mark_eq_some_iff.mp opens
      have unclosed := cutAt?_mark_eq_none_iff.mp closes
      exact ⟨⟨[], cs, Or.inr ⟨before, inside, unopened, shape, unclosed⟩⟩, rfl⟩
  | case3 cs before inside opens name after closes ih =>
      obtain ⟨unopened, shape⟩ := cutAt?_mark_eq_some_iff.mp opens
      obtain ⟨unclosed, inner⟩ := cutAt?_mark_eq_some_iff.mp closes
      obtain ⟨layout, same⟩ := ih
      rw [Layout.text] at same
      refine ⟨⟨⟨before, name, unopened, unclosed⟩ :: layout.slots, layout.tail, layout.free⟩, ?_⟩
      simp [Layout.text, Slot.text, written, same, shape, inner]

theorem slots_of_parts {slots others : List Slot} {tail last : List Char}
    (same : slots.flatMap Slot.parts ++ [Part.literal tail] =
      others.flatMap Slot.parts ++ [Part.literal last]) : slots = others ∧ tail = last := by
  induction slots generalizing others with
  | nil =>
      cases others with
      | nil => simpa using same
      | cons other others => simp [Slot.parts] at same
  | cons slot slots ih =>
      cases others with
      | nil => simp [Slot.parts] at same
      | cons other others =>
          obtain ⟨literal, name, _, _⟩ := slot
          obtain ⟨otherLiteral, otherName, _, _⟩ := other
          simp only [List.flatMap_cons, Slot.parts, List.cons_append, List.nil_append,
            List.cons.injEq, Part.literal.injEq, Part.placeholder.injEq] at same
          obtain ⟨rfl, rfl, later⟩ := same
          obtain ⟨rfl, rfl⟩ := ih later
          exact ⟨rfl, rfl⟩

theorem text_injective : Function.Injective Layout.text := by
  intro layout other same
  have parts := congrArg Template.parts same
  rw [parts_text, parts_text] at parts
  obtain ⟨slots, tail, _⟩ := layout
  obtain ⟨others, last, _⟩ := other
  obtain ⟨rfl, rfl⟩ := slots_of_parts parts
  rfl

theorem fill_written (layout : Layout) : layout.fill written = layout.text :=
  rfl

end Template

namespace Row

open Template

/-- What a placeholder stands for: the text of the field it names, otherwise what is written. -/
def substitute (r : Row) (name : List Char) : List Char :=
  match r.get? (String.ofList name) with
  | some (.text value) => value.toList
  | _ => written name

theorem resolve_placeholder (r : Row) (name : List Char) :
    (Part.placeholder name).resolve r.text? = r.substitute name := by
  rw [Part.resolve, text?_eq_bind_get?, substitute]
  cases r.get? (String.ofList name) with
  | none => rfl
  | some value => cases value <;> rfl

theorem substitute_of_ne_text {r : Row} {name : List Char}
    (other : ∀ value, r.get? (String.ofList name) ≠ some (.text value)) :
    r.substitute name = written name := by
  rw [substitute]
  split
  · next value found => exact absurd found (other value)
  · rfl

theorem resolve_slot (r : Row) (slot : Slot) :
    slot.parts.flatMap (·.resolve r.text?) = slot.literal ++ r.substitute slot.name := by
  rw [Slot.parts, List.flatMap_cons, List.flatMap_singleton, resolve_placeholder, Part.resolve]

theorem formatTemplate_text (r : Row) {template : String} {layout : Layout}
    (same : layout.text = template.toList) :
    r.formatTemplate template = String.ofList (layout.fill r.substitute) := by
  have last : [Part.literal layout.tail].flatMap (·.resolve r.text?) = layout.tail := by
    rw [List.flatMap_singleton, Part.resolve]
  rw [formatTemplate, ← same, parts_text, List.flatMap_append, List.flatMap_assoc, last,
    Layout.fill]
  simp only [resolve_slot]

/--
A template has one layout, and is resolved by what each of its placeholders stands for, once; it
stays as it is if no placeholder names a text field.
-/
theorem formatTemplate_eq_fill (r : Row) (template : String) :
    (∃! layout : Layout, layout.text = template.toList) ∧
      ∀ layout : Layout, layout.text = template.toList →
        (r.formatTemplate template).toList = layout.fill r.substitute ∧
          ((∀ slot ∈ layout.slots, ∀ value,
              r.get? (String.ofList slot.name) ≠ some (.text value)) →
            r.formatTemplate template = template) := by
  refine ⟨?_, fun layout same => ⟨?_, fun unnamed => ?_⟩⟩
  · obtain ⟨layout, same⟩ := exists_layout template.toList
    exact ⟨layout, same, fun other also => text_injective (also.trans same.symm)⟩
  · rw [formatTemplate_text r same, String.toList_ofList]
  · have kept : layout.fill r.substitute = layout.fill written := by
      unfold Layout.fill
      congr 1
      exact List.flatMap_congr fun slot listed => by
        rw [substitute_of_ne_text (unnamed slot listed)]
    rw [formatTemplate_text r same, kept, fill_written, same, String.ofList_toList]

end Row

def nestedTemplate : String :=
  "\x7ba\x7d-\x7bn\x7d-\x7bb\x7bc\x7d\x7bb\x7d \x7b"

def nestedLayout : Template.Layout where
  slots :=
    [⟨[], ['a'], by decide, by decide⟩, ⟨['-'], ['n'], by decide, by decide⟩,
      ⟨['-'], ['b', '\x7b', 'c'], by decide, by decide⟩, ⟨[], ['b'], by decide, by decide⟩]
  tail := [' ', '\x7b']
  free := Or.inr ⟨[' '], [], by decide, rfl, by decide⟩

def bracedRow : Row :=
  .ofColumns "labels" ⟨"shop", .mySql⟩
    [("a", .text "\x7bb\x7d"), ("n", .int 3), ("b", .text "x")]

theorem Row.formatTemplate_eq_fill_nested :
    bracedRow.formatTemplate nestedTemplate = "\x7bb\x7d-\x7bn\x7d-\x7bb\x7bc\x7dx \x7b" ∧
      (Row.ofDocument "labels" ⟨"shop", .mySql⟩ []).formatTemplate nestedTemplate =
        nestedTemplate := by
  have same : nestedLayout.text = nestedTemplate.toList := by decide
  have named := Row.formatTemplate_eq_fill bracedRow nestedTemplate
  have unnamed := Row.formatTemplate_eq_fill (.ofDocument "labels" ⟨"shop", .mySql⟩ [])
    nestedTemplate
  constructor
  · exact String.toList_inj.mp ((named.2 nestedLayout same).1.trans (by decide))
  · apply (unnamed.2 nestedLayout same).2
    intro slot _ value found
    cases found

end RowConduit
