/-!
# Quoted tokens

A text between two marks, with an escape for the mark inside it: the mark is written twice, or a
backslash takes the character after it as it is.  Scanning a token undoes the quoting, whatever text
follows.
-/

namespace RowConduit.Text

/-- How a mark inside a quoted text is told from the closing one. -/
inductive Escaping where
  | doubling
  | backslash
  deriving DecidableEq, Repr

structure QuoteStyle where
  mark : Char
  escaping : Escaping
  deriving DecidableEq, Repr

namespace QuoteStyle

def escapeChar (style : QuoteStyle) (c : Char) : List Char :=
  match style.escaping with
  | .doubling => if c = style.mark then [c, c] else [c]
  | .backslash => if c = '\\' || c = style.mark then ['\\', c] else [c]

def quote (style : QuoteStyle) (cs : List Char) : List Char :=
  style.mark :: (cs.flatMap style.escapeChar ++ [style.mark])

/-- The text up to the closing mark, where a doubled mark stands for one, and what follows. -/
def scanDoubled? (mark : Char) : List Char → Option (List Char × List Char)
  | [] => none
  | [c] => if c = mark then some ([], []) else none
  | c :: d :: rest =>
      if c = mark then
        if d = mark then (scanDoubled? mark rest).map fun taken => (mark :: taken.1, taken.2)
        else some ([], d :: rest)
      else
        (scanDoubled? mark (d :: rest)).map fun taken => (c :: taken.1, taken.2)

/-- The text up to the closing mark, a backslash taking the next character, and what follows. -/
def scanEscaped? (mark : Char) : List Char → Option (List Char × List Char)
  | [] => none
  | [c] => if c = mark then some ([], []) else none
  | c :: d :: rest =>
      if c = mark then some ([], d :: rest)
      else if c = '\\' then (scanEscaped? mark rest).map fun taken => (d :: taken.1, taken.2)
      else (scanEscaped? mark (d :: rest)).map fun taken => (c :: taken.1, taken.2)

/-- Take one quoted token off a text: the text it stands for, and what follows it. -/
def scan? (style : QuoteStyle) : List Char → Option (List Char × List Char)
  | [] => none
  | c :: rest =>
      if c = style.mark then
        match style.escaping with
        | .doubling => scanDoubled? style.mark rest
        | .backslash => scanEscaped? style.mark rest
      else
        none

def quoteText (style : QuoteStyle) (s : String) : String :=
  String.ofList (style.quote s.toList)

end QuoteStyle

end RowConduit.Text
