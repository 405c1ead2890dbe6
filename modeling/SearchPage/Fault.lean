import SearchPage.Selector.Syntax
import SearchPage.Markup.Event

/-!
# Faults

Everything that can stop the program, each with the name under which it is reported
and, for the program's own faults, a message. Anything that is simply not on a page (a
selector that matches nothing, a missing attribute or text) is no fault: it is a missing
value.
-/

namespace SearchPage

/-- Why a request could not be answered. -/
inductive Fault where
  /-- A CSS selector that could not be compiled. -/
  | selector (e : Selector.SelectorError)
  /-- An extraction setting under a key no setting has; the keys, already listed. -/
  | unknownSettings (keys : String)
  /-- A value of the right kind that cannot be used, such as text where pairs are due. -/
  | unusableValue
  /-- A value of the wrong kind. -/
  | wrongKind
  /-- A value without the member an operation needs, such as a list where a mapping is
  due. -/
  | missingMember
  /-- A record without the key that is read. -/
  | missingKey
  /-- A pattern that does not compile. -/
  | badPattern
  /-- A number too large for the place it is given in. -/
  | tooLarge
  /-- A parser configuration that is not valid. -/
  | configuration (message : String)
  /-- A page of the other platform than the one asked for. -/
  | platformMismatch (askedMobile looksMobile : Bool)
  /-- A request the program cannot read at all. -/
  | badRequest (message : String)
  /-- A page that cannot be read. -/
  | markup (e : Markup.ReadFault)
  deriving Repr

namespace Fault

/-- The name a fault is reported under. -/
def kind : Fault → String
  | .selector (.malformed _) => "SelectorSyntaxError"
  | .selector (.unsupported _) => "NotImplementedError"
  | .selector (.badCodePoint _) => "ValueError"
  | .selector .overlongNumber => "ValueError"
  | .selector .yearOutOfRange => "ValueError"
  | .selector .untypedField => "TypeError"
  | .selector .quotientOverflow => "OverflowError"
  | .unknownSettings _ => "ValueError"
  | .unusableValue => "ValueError"
  | .wrongKind => "TypeError"
  | .missingMember => "AttributeError"
  | .missingKey => "KeyError"
  | .badPattern => "error"
  | .tooLarge => "OverflowError"
  | .configuration _ => "ConfigurationError"
  | .platformMismatch _ _ => "PlatformMismatchError"
  | .badRequest _ => "BadRequest"
  | .markup .rejected => "ParserRejectedMarkup"
  | .markup .overlongNumber => "ValueError"

/-- The name of a platform. -/
def platformName (mobile : Bool) : String := if mobile then "mobile" else "desktop"

/-- The message reported with a fault, for the program's own faults. -/
def message? : Fault → Option String
  | .unknownSettings keys => some ("Unknown extraction config keys: " ++ keys)
  | .configuration m => some m
  | .platformMismatch asked looks =>
    some ("HTML did not match requested user agent platform (requested " ++
      platformName asked ++ ", document looks " ++ platformName looks ++ ").")
  | .badRequest m => some m
  | _ => none

end Fault

end SearchPage
