import EmulatedShell.Template.Fault
import EmulatedShell.Unicode.Digit

namespace EmulatedShell

/-- The largest number that a template may hold. -/
def templateNumberLimit : Nat := Nat.pow 2 63 - 1

/-- The number written by the digits at the start of a text and the text after them, or nothing
when there is no digit. -/
def takeNumber : Option Nat → List Char → Except TemplateFault (Option Nat × List Char)
  | value, [] => .ok (value, [])
  | value, c :: rest =>
    match digitValue c with
    | none => .ok (value, c :: rest)
    | some digit =>
      let next := 10 * value.getD 0 + digit
      if next > templateNumberLimit then .error .numberTooLarge else takeNumber (some next) rest

/-- How a value is laid out in its field. -/
structure Layout where
  fill : Char
  align : Char
  sign : Option Char
  zeroSign : Bool
  alternate : Bool
  width : Option Nat
  grouping : Option Char
  precision : Option Nat
  kind : Char
  deriving Repr, DecidableEq

/-- The characters that say on which side a value is filled up. -/
def isAlignment (c : Char) : Bool := c = '<' || c = '>' || c = '=' || c = '^'

/-- The fill character, the alignment, whether a fill was written, and the text after them. -/
def takeAlignment : List Char → Char × Char × Bool × List Char
  | first :: second :: rest =>
    if isAlignment second then (first, second, true, rest)
    else if isAlignment first then (' ', first, false, second :: rest)
    else (' ', '<', false, first :: second :: rest)
  | [first] => if isAlignment first then (' ', first, false, []) else (' ', '<', false, [first])
  | [] => (' ', '<', false, [])

/-- The first character of a text if it passes a test, and the text after it. -/
def takeIf (test : Char → Bool) : List Char → Option Char × List Char
  | c :: rest => if test c then (some c, rest) else (none, c :: rest)
  | [] => (none, [])

/-- The separator of digit groups, and the text after it. Only one kind may be written. -/
def takeGrouping (text : List Char) : Except TemplateFault (Option Char × List Char) :=
  let (comma, rest) := takeIf (· = ',') text
  let (underscore, rest) := takeIf (· = '_') rest
  if comma.isSome && underscore.isSome then .error .bothGroupings
  else if underscore.isSome && rest.head? = some ',' then .error .bothGroupings
  else .ok (comma <|> underscore, rest)

/-- The precision after a point, and the text after it. -/
def takePrecision : List Char → Except TemplateFault (Option Nat × List Char)
  | '.' :: rest => do
    let (precision, rest) ← takeNumber none rest
    if precision.isNone then throw .missingPrecision
    return (precision, rest)
  | text => .ok (none, text)

/-- The kinds of number that may be written with a separator of digit groups. -/
def takesGrouping (grouping kind : Char) : Bool :=
  "deEfFgG%".toList.contains kind || (grouping = '_' && "boxX".toList.contains kind)

/-- The layout that a field asks for. -/
def Layout.ofText (text : List Char) : Except TemplateFault Layout := do
  let (fill, align, filled, rest) := takeAlignment text
  let (sign, rest) := takeIf (fun c => c = ' ' || c = '+' || c = '-') rest
  let (zeroSign, rest) := takeIf (· = 'z') rest
  let (alternate, rest) := takeIf (· = '#') rest
  let (zero, rest) := takeIf (fun c => c = '0' && !filled) rest
  let (width, rest) ← takeNumber none rest
  let (grouping, rest) ← takeGrouping rest
  let (precision, rest) ← takePrecision rest
  if rest.length > 1 then throw (.badSpec (String.ofList text))
  let kind := rest.head?.getD 's'
  match grouping with
  | some separator =>
    if !takesGrouping separator kind then throw (.groupingWith separator kind)
  | none => pure ()
  return ⟨zero.getD fill, align, sign, zeroSign.isSome, alternate.isSome, width, grouping,
    precision, kind⟩

/-- What a layout asks for that a text has not got. -/
def Layout.objection (layout : Layout) : Option TemplateFault :=
  if layout.kind != 's' then some (.unknownKind layout.kind)
  else if layout.sign = some ' ' then some .spaceSign
  else if layout.sign.isSome then some .plusOrMinusSign
  else if layout.zeroSign then some .zeroSign
  else if layout.alternate then some .alternateForm
  else if layout.align = '=' then some .signAlignment
  else none

/-- A text cut to the precision and filled up to the width of a layout. -/
def Layout.apply (layout : Layout) (text : String) : String :=
  let kept := text.toList.take (layout.precision.getD text.length)
  let room := layout.width.getD 0 - kept.length
  let left := if layout.align = '>' then room else if layout.align = '^' then room / 2 else 0
  String.ofList
    (List.replicate left layout.fill ++ kept ++ List.replicate (room - left) layout.fill)

/-- A text laid out as a field asks. -/
def layOut (spec : List Char) (text : String) : Except TemplateFault String := do
  if spec.isEmpty then return text
  let layout ← Layout.ofText spec
  match layout.objection with
  | some fault => throw fault
  | none => return layout.apply text

end EmulatedShell
