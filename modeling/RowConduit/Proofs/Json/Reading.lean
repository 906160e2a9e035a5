import RowConduit.Proofs.Fallible
import RowConduit.Proofs.Json.Readable

/-!
# What a text is read as

Two facts about reading that do not start from a document.  The text of an object is read member by
member, each value as if it stood alone and could be nested one level less.  And a text that is read
as a string is longer than the string, so no text is read as itself.

The second follows the machine that reads tokens: once a container is open, what is read in the end
is a container, so a string can only come of a string token that stands first, and every character
of it takes at least one of the text.
-/

namespace RowConduit.Json

open RowConduit.Text

section Objects

variable {members found : Members}

theorem membersOf?_of_forall₂
    (each : List.Forall₂ (fun member result =>
      result.1 = member.1 ∧ member.2.toDraft.document? = some result.2) members found) :
    membersOf? (membersToDraft members) = some found := by
  induction each with
  | nil => rfl
  | @cons member result rest results head tail ih =>
      simp only [membersToDraft, membersOf?, head.2, ih, ← head.1]

theorem depth_object_le_iff :
    (Json.object members).depth ≤ maxDepth ↔ ∀ member ∈ members, member.2.depth < maxDepth := by
  have inner : (Json.object members).depth ≤ maxDepth ↔ membersDepth members ≤ 126 := by
    rw [depth, maxDepth]
    omega
  rw [inner, membersDepth_le_iff]
  exact forall₂_congr fun member _ => Nat.lt_succ_iff.symm

theorem parse?_render_of_lt {j : Json} (shallow : j.depth < maxDepth) :
    parse? j.render = j.toDraft.document? := by
  rw [parse?_render_eq, if_pos (Nat.le_of_lt shallow)]

/-- The value of a member is read from its own text, with a level of nesting to spare. -/
def MemberReads (member result : String × Json) : Prop :=
  result.1 = member.1 ∧ member.2.depth < maxDepth ∧ parse? member.2.render = some result.2

theorem names_of_memberReads (each : List.Forall₂ MemberReads members found) :
    found.map (·.1) = members.map (·.1) :=
  map_eq_of_forall₂ each fun _ _ step => step.1

theorem parse?_object_iff (distinct : (members.map (·.1)).Nodup) :
    parse? (Json.object members).render = some (.object found) ↔
      (members.map (·.1)).head? ≠ some numberName ∧
      List.Forall₂ MemberReads members found := by
  rw [parse?_render_eq, Option.ite_none_right_eq_some, depth_object_le_iff]
  constructor
  · rintro ⟨shallow, reading⟩
    rcases document?_object distinct reading with ⟨n, isNumber⟩ | ⟨first, same, read, _, each⟩
    · cases isNumber
    · cases read
      refine ⟨first, forall₂_of_mem each fun member listed result _ step => ?_⟩
      have nested := shallow member listed
      exact ⟨step.1, nested, by rw [parse?_render_of_lt nested, step.2]⟩
  · rintro ⟨first, each⟩
    have shallow : ∀ member ∈ members, member.2.depth < maxDepth := by
      intro member listed
      obtain ⟨result, _, step⟩ := exists_of_mem_left each listed
      exact step.2.1
    have names := names_of_memberReads each
    have read := membersOf?_of_forall₂ (each.imp fun member result step =>
      ⟨step.1, (parse?_render_of_lt step.2.1).symm.trans step.2.2⟩)
    refine ⟨shallow, ?_⟩
    rw [toDraft, Draft.document?, marksNumber_membersToDraft first, read]
    simp [collect_of_nodup (names ▸ distinct)]

end Objects

section Strings

def Draft.isString : Draft → Bool
  | .string _ => true
  | _ => false

/-- What is read cannot come to be a string any more. -/
def State.Contained : State → Prop
  | .value stack => stack ≠ []
  | .finished root => root.isString = false
  | .failed root => root.isString = false
  | _ => True

theorem isString_abandon (stack : List Frame) {d : Draft} (other : d.isString = false) :
    (abandon d stack).isString = false := by
  induction stack generalizing d with
  | nil => exact other
  | cons frame outer ih =>
      cases frame with
      | item done => exact ih rfl
      | member done name => exact ih rfl

theorem contained_deliver {d : Draft} {stack : List Frame}
    (inside : stack ≠ [] ∨ d.isString = false) : (deliver d stack).Contained := by
  cases stack with
  | nil => exact inside.resolve_left (fun filled => filled rfl)
  | cons frame outer => cases frame <;> exact True.intro

theorem contained_startValue {stack : List Frame} {token : Token}
    (inside : stack ≠ [] ∨ ∀ text, token ≠ .string text) :
    (startValue stack token).Contained := by
  cases token with
  | openArray => exact True.intro
  | openObject => exact True.intro
  | null => exact contained_deliver (Or.inr rfl)
  | bool b => exact contained_deliver (Or.inr rfl)
  | number n => exact contained_deliver (Or.inr rfl)
  | string s => exact contained_deliver (Or.inl (inside.resolve_right (fun other => other s rfl)))
  | _ => exact isString_abandon (d := .broken) stack rfl

theorem contained_startName (done : List (Draft × Draft)) (stack : List Frame) (token : Token) :
    (startName done stack token).Contained := by
  cases token with
  | string s => exact True.intro
  | _ => exact isString_abandon (d := .ofMembers _ false) stack rfl

/-- One token leaves an open container open, or closes it as what it is. -/
theorem State.Contained.step {state : State} (contained : state.Contained) (token : Token) :
    (state.step token).Contained := by
  fun_cases State.step state token with
  | case1 stack token => exact contained_startValue (Or.inl contained)
  | case2 stack => exact contained_deliver (Or.inr rfl)
  | case3 stack token other => exact contained_startValue (Or.inl (List.cons_ne_nil _ _))
  | case4 stack => exact contained_deliver (Or.inr rfl)
  | case5 stack token other => exact contained_startName [] stack token
  | case6 done stack token => exact contained_startName done stack token
  | case7 done name stack => exact List.cons_ne_nil _ _
  | case8 done name stack token other =>
      exact isString_abandon (d := .ofMembers _ false) stack rfl
  | case9 done stack => exact List.cons_ne_nil _ _
  | case10 done stack => exact contained_deliver (Or.inr rfl)
  | case11 done stack token _ _ => exact isString_abandon (d := .ofItems done false) stack rfl
  | case12 done stack => exact True.intro
  | case13 done stack => exact contained_deliver (Or.inr rfl)
  | case14 done stack token _ _ => exact isString_abandon (d := .ofMembers done false) stack rfl
  | case15 root token => exact contained
  | case16 root token => exact contained

theorem State.Contained.atEnd {state : State} (contained : state.Contained) :
    state.atEnd.isString = false := by
  cases state with
  | finished root => exact contained
  | failed root => exact contained
  | value stack => exact isString_abandon (d := .broken) stack rfl
  | firstItem stack => exact isString_abandon (d := .array [] false) stack rfl
  | firstName stack => exact isString_abandon (d := .object [] false) stack rfl
  | memberName done stack => exact isString_abandon (d := .ofMembers done false) stack rfl
  | colon done name stack => exact isString_abandon (d := .ofMembers _ false) stack rfl
  | afterItem done stack => exact isString_abandon (d := .ofItems done false) stack rfl
  | afterMember done stack => exact isString_abandon (d := .ofMembers done false) stack rfl

theorem State.Contained.run {state : State} (contained : state.Contained) (tokens : List Token) :
    (state.run tokens).1.isString = false := by
  fun_induction State.run state tokens with
  | case1 root rest => exact contained
  | case2 state other => exact contained.atEnd
  | case3 state token rest other ih => exact ih (contained.step token)

theorem tokens_of_run_string {tokens : List Token} {text : Option String}
    (reading : ((State.value []).run tokens).1 = .string text) :
    ∃ rest, tokens = .string text :: rest := by
  cases tokens with
  | nil => cases reading
  | cons token rest =>
      have next : (State.value []).run (token :: rest) = (startValue [] token).run rest := rfl
      by_cases first : ∃ s, token = .string s
      · obtain ⟨s, rfl⟩ := first
        have done : (startValue [] (.string s)).run rest = (.string s, rest) := by
          cases rest <;> rfl
        rw [next, done] at reading
        cases reading
        exact ⟨rest, rfl⟩
      · have other : ∀ s, token ≠ .string s := fun s same => first ⟨s, same⟩
        have inside : (startValue [] token).Contained := contained_startValue (Or.inr other)
        have closed := inside.run rest
        rw [← next, reading] at closed
        cases closed

theorem takePieces?_length_le {cs : List Char} {pieces : List Piece} {tail : List Char}
    (taken : takePieces? cs = some (pieces, tail)) : pieces.length + tail.length < cs.length := by
  fun_induction takePieces? cs generalizing pieces tail <;> simp_all <;> grind

theorem joinPieces?_length_le {pieces : List Piece} {cs : List Char}
    (joined : joinPieces? pieces = some cs) : cs.length ≤ pieces.length := by
  fun_induction joinPieces? pieces generalizing cs <;> simp_all <;> grind

theorem takeWord?_ne_string {cs rest : List Char} {text : Option String} :
    takeWord? cs ≠ some (.string text, rest) := by
  unfold takeWord?
  split
  · nofun
  · split
    · nofun
    · simp

theorem punctuation?_ne_string {c : Char} {text : Option String} :
    punctuation? c ≠ some (.string text) := by
  unfold punctuation?
  grind

theorem takeToken?_string {cs rest : List Char} {s : String}
    (taken : takeToken? cs = some (.string (some s), rest)) : s.toList.length < cs.length := by
  cases cs with
  | nil => cases taken
  | cons c after =>
      rw [takeToken?] at taken
      split at taken
      · next token isToken =>
        cases taken
        exact absurd isToken punctuation?_ne_string
      · split at taken
        · obtain ⟨⟨pieces, tail⟩, piecesTaken, same⟩ := Option.map_eq_some_iff.mp taken
          rw [Prod.mk.injEq, Token.string.injEq, Option.map_eq_some_iff] at same
          obtain ⟨⟨text, joined, rfl⟩, _⟩ := same
          have shorter := takePieces?_length_le piecesTaken
          have within : text.length ≤ pieces.length := joinPieces?_length_le joined
          rw [String.toList_ofList, List.length_cons]
          omega
        · split at taken
          · next found =>
            exact absurd (found.trans taken) takeWord?_ne_string
          · obtain ⟨number, _, same⟩ := Option.map_eq_some_iff.mp taken
            cases same

theorem length_lt_of_tokens_string {cs : List Char} {s : String} {rest : List Token}
    (cut : tokens cs = .string (some s) :: rest) : s.toList.length < cs.length := by
  have within := (List.dropWhile_suffix isSpace (l := cs)).length_le
  rw [tokens] at cut
  split at cut
  · cases cut
  · next c after dropped =>
    split at cut
    · cases cut
    · next token tail taken =>
      cases cut
      have shorter := takeToken?_string taken
      rw [dropped] at within
      omega

theorem document?_eq_string {d : Draft} {s : String} (reading : d.document? = some (.string s)) :
    d = .string (some s) := by
  revert reading
  fun_cases Draft.document? d with
  | case6 text =>
      intro reading
      cases reading
      rfl
  | case7 items => simp
  | case8 members marked => simp
  | case9 members plain => simp
  | _ => nofun

/-- No text is read as the string of itself. -/
theorem parse?_ne_self (s : String) : parse? s ≠ some (.string s) := by
  intro parsed
  simp only [parse?, Option.ite_none_right_eq_some] at parsed
  obtain ⟨_, reading⟩ := parsed
  obtain ⟨rest, cut⟩ := tokens_of_run_string (document?_eq_string reading)
  exact Nat.lt_irrefl _ (length_lt_of_tokens_string cut)

end Strings

end RowConduit.Json
