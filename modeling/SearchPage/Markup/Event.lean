/-!
# Markup events

Reading a page turns its characters into a sequence of events: a start tag with its
attributes and the position of its `<`, an end tag, a piece of text, or an aside (a
comment, a declaration, a processing instruction or a character-data section). Building
the tree afterwards only needs these events, never the characters.

The reader is in one of two modes. Ordinary content knows tags, references and asides.
After the start tag of `script` or `style` only the matching end tag is special: the rest
is raw text.

Reading can fail: a marked section (`<![...`) without a keyword, or with one the markup
language does not know, makes the whole page unreadable, and so does a decimal character
reference too long to be read as a number.
-/

namespace SearchPage.Markup

/-- The kinds of aside. The tree keeps none of them; a character-data section is told
apart because it still counts as content beside the document element. -/
inductive Aside where
  | comment
  | declaration
  | instruction
  | characterData
  deriving DecidableEq, Repr

/-- One event of the markup reader. Attribute names are in lower case; a value is `none`
when the attribute was written without one. -/
inductive Event where
  | startTag (name : String) (attrs : List (String × Option String)) (pos : Nat)
      (selfClosing : Bool)
  | endTag (name : String)
  | text (data : String)
  | aside (kind : Aside)
  deriving DecidableEq, Repr

/-- Why a page could not be read. -/
inductive ReadFault where
  /-- A marked section without a keyword, or with an unknown one. -/
  | rejected
  /-- A decimal character reference with too many digits. -/
  | overlongNumber
  deriving DecidableEq, Repr

/-- The reading mode. -/
inductive Mode where
  /-- Ordinary content. -/
  | content
  /-- Raw text, ended only by the end tag of `elem`. -/
  | raw (elem : String)
  deriving DecidableEq, Repr

/-- The elements whose content is raw text. -/
def rawTextElements : List String := ["script", "style"]

/-- The mode that follows the start tag of an element. -/
def Mode.after (name : String) : Mode :=
  if rawTextElements.contains name then .raw name else .content

end SearchPage.Markup
