import RowQuery.Text.Emoji
import RowQuery.Text.Ligature

/-!
# Display width of lines

`Text.width` is the number of columns that a line takes in a fixed-width display. It is the sum of
the widths of the characters by themselves (`Text.charWidth`), except where characters stand
together: emoji sequences (`Emoji`), signs of several letters (`Ligature`), and characters in front
of a variation selector (`Selector`). Since it is the later character that tells how an earlier one
is shown, the line is read from its end, and `Context` is what a character has to know of the part
behind it.
-/

namespace RowQuery.Text

/-- The variation selectors that change widths. -/
inductive Selector where
  /-- The character before it is a picture. -/
  | picture
  /-- The character before it is text. -/
  | text
  /-- The quotation mark before it is wide. -/
  | wideQuote
deriving DecidableEq, Repr

/-- The selector that a character is. -/
def Selector.ofChar? (c : Char) : Option Selector :=
  if c = '\uFE0F' then some .picture
  else if c = '\uFE0E' then some .text
  else if c = '\uFE01' then some .wideQuote
  else none

/-- What stands behind a place in a line, selectors apart. -/
inductive Following where
  /-- Nothing that joins what is before it. -/
  | plain
  | letter (l : Ligature)
  | emoji (e : Emoji)
deriving DecidableEq, Repr

/-- What stands behind a place in a line. -/
structure Context where
  /-- The selector that stands there. -/
  selector? : Option Selector
  /-- What follows it. -/
  following : Following
deriving DecidableEq, Repr

namespace Following

/-- The place where this follows and no selector stands between. -/
def context (f : Following) : Context := { selector? := none, following := f }

/-- What a character and nothing behind it is. -/
def ofChar (c : Char) : Following :=
  match Ligature.ofChar? c, Emoji.ofChar? c with
  | some l, _ => .letter l
  | none, some e => .emoji e
  | none, none => .plain

/-- What the character before a selector has to know of what follows the selector. Between a picture
and a joiner the selector for pictures keeps the sequence going. -/
def behind (f : Following) (s : Selector) : Following :=
  match f, s with
  | .letter l, _ => if l.outlastsSelectors then f else .plain
  | .emoji .joined, .picture | .emoji .joinedKeycap, .picture => f
  | _, _ => .plain

/-- The columns that a character adds in front of this, and what there is then, if the two stand
together. -/
def extend? (f : Following) (c : Char) : Option (Int × Following) :=
  match f with
  | .plain => none
  | .letter l => (l.extend? c).map fun (columns, l?) => (columns, (l?.map letter).getD plain)
  | .emoji e => (e.extend? c).map fun (columns, e) => (columns, emoji e)

end Following

namespace Context

/-- The columns that a character has by the selector behind it, and what there is then, if the
selector changes the character. A picture that joins what follows has no columns of its own. -/
def selected? (context : Context) (c : Char) : Option (Int × Following) :=
  match context.selector? with
  | some .picture =>
    let columns : Int := match context.following with
      | .emoji _ => 0
      | .plain | .letter _ => 2
    if canBePicture c then some (columns, .emoji .picture) else none
  | some .text => if canBeNarrow c then some (1, .plain) else none
  | some .wideQuote =>
    if c = '\u2018' ∨ c = '\u2019' ∨ c = '\u201C' ∨ c = '\u201D' then some (2, .plain) else none
  | none => none

/-- What follows when the selector has changed nothing: an emoji sequence is at its end. -/
def unselected (context : Context) : Following :=
  match context.selector?, context.following with
  | some _, .emoji _ => .plain
  | _, following => following

end Context

/-- The columns that a character adds in front of a place, and the place in front of it. -/
def addChar (c : Char) (context : Context) : Int × Context :=
  match context.selected? c with
  | some (columns, following) => (columns, following.context)
  | none =>
    if c.toNat ≤ 0xA0 then (1, Following.plain.context)
    else match Selector.ofChar? c with
      | some s => (0, { selector? := some s, following := context.unselected.behind s })
      | none =>
        match context.unselected.extend? c with
        | some (columns, following) => (columns, following.context)
        | none => (charWidth c, (Following.ofChar c).context)

/-- The columns of a line with a character in front of it, and the place in front of that. -/
def addColumns (c : Char) (line : Int × Context) : Int × Context :=
  let (columns, context) := addChar c line.2
  (line.1 + columns, context)

/-- The number of columns of a line. -/
def width (line : String) : Nat :=
  (line.toList.foldr addColumns (0, Following.plain.context)).1.toNat

end RowQuery.Text
