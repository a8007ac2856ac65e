import Witnessed.Text.Blank
import Witnessed.Text.Decimal
import Witnessed.Text.Letters
import Witnessed.Text.Pattern
import Witnessed.Text.Utf8

/-!
Log filters: directives with commas between them. A directive is a level, or a target, a span in
brackets with fields in braces, and a level after an equals sign, most of which can be left out.
-/

namespace Witnessed.LogFilter

def levelNames : List String := ["off", "error", "warn", "info", "debug", "trace"]

/-- A level is named, in letters of either case, or numbered from zero to five. -/
def isLevel (cs : List Char) : Bool :=
  let digits := if cs.head? = some '+' then cs.drop 1 else cs
  levelNames.contains (String.ofList (cs.map Char.toLower)) ||
    (!digits.isEmpty && digits.all Char.isDigit && Nat.ofDigitChars 10 digits 0 ≤ 5)

/-- Whether a value is a number, infinite ones and those that are none among them. -/
def isNumber (cs : List Char) : Bool :=
  let magnitude := Decimal.unsigned cs
  Decimal.isMagnitude magnitude ||
    ["inf", "infinity", "nan"].contains (String.ofList (magnitude.map Char.toLower))

/-- A field has a name, and perhaps a value, which is a number or a pattern. -/
def isField (cs : List Char) : Bool :=
  match cs.splitOn '=' with
  | _ :: value :: _ => isNumber value || Pattern.isWellFormed value
  | _ => !cs.isEmpty

/-- A directive as it is written, with the blanks around it. -/
structure Directive where
  written : List Char
  deriving DecidableEq, Repr

namespace Directive

/-- What counts of a directive. -/
def body (d : Directive) : List Char :=
  trim d.written

/-- What may follow a target or a span: nothing, or a level after an equals sign. A directive
with blanks around it has no level. -/
def isEnd (d : Directive) : List Char → Bool
  | [] => true
  | '=' :: level => d.body = d.written && (level.isEmpty || isLevel level)
  | _ => false

/-- The field at the front of a rest of the body. Its place is counted in bytes from the front of
the body, and the field is what stands there in the directive as it is written. -/
def field? (d : Directive) (rest : List Char) : Option (List Char) :=
  let start := (utf8 d.body).length - (utf8 rest).length
  let size := (utf8 (rest.takeWhile (· != '\x7d'))).length
  ofUtf8? (((utf8 d.written).drop start).take size)

/-- The rest of the body after the opening bracket of a span. -/
def isSpan (d : Directive) (cs : List Char) : Bool :=
  match cs.dropWhile fun c => c != ']' && c != '\x7b' with
  | ']' :: rest => d.isEnd rest
  | _ :: rest =>
      match rest.dropWhile (· != '\x7d') with
      | '\x7d' :: ']' :: after => (d.field? rest).any isField && d.isEnd after
      | _ => false
  | [] => false

def isValid (d : Directive) : Bool :=
  match d.body with
  | [] => false
  | '[' :: rest => d.isSpan rest
  | c :: rest =>
      (isLetter c || isNumeral c || ['-', ':', '_'].contains c) &&
        match rest.dropWhile fun c => c != '=' && c != '[' with
        | '[' :: rest => d.isSpan rest
        | rest => d.isEnd rest

end Directive

/-- Whether every directive of a filter is well formed. Empty ones do not count. -/
def isValid (filter : String) : Bool :=
  ((filter.toList.splitOn ',').filter (· ≠ [])).all fun cs => Directive.isValid ⟨cs⟩

end Witnessed.LogFilter
