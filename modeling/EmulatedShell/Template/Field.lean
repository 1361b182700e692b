import EmulatedShell.Template.Layout

namespace EmulatedShell

/-- A field of a template: which value, in which notation, in which layout. -/
structure Field where
  name : List Char
  conversion : Option Char
  spec : List Char
  deriving Repr, DecidableEq

/-- The name of a field, the character that ends it and the text after that. Inside square brackets
nothing ends it. -/
def takeName (inside : Bool) :
    List Char → Except TemplateFault (List Char × Option Char × List Char)
  | [] => .ok ([], none, [])
  | c :: rest =>
    if !inside && c = '\x7b' then .error .openInName
    else if !inside && (c = '\x7d' || c = ':' || c = '!') then .ok ([], some c, rest)
    else do
      let (name, ending, rest) ← takeName (if inside then c != ']' else c = '[') rest
      return (c :: name, ending, rest)

/-- The layout of a field up to the brace that closes it, and the text after that. -/
def takeSpec : Nat → List Char → Except TemplateFault (List Char × List Char)
  | _, [] => .error .openSpec
  | depth, c :: rest =>
    if c = '\x7d' && depth = 0 then .ok ([], rest)
    else do
      let inner := if c = '\x7b' then depth + 1 else if c = '\x7d' then depth - 1 else depth
      let (spec, rest) ← takeSpec inner rest
      return (c :: spec, rest)

/-- The field after an opening brace, and the text after it. -/
def Field.take (text : List Char) : Except TemplateFault (Field × List Char) := do
  let (name, ending, rest) ← takeName false text
  match ending with
  | none => throw .unclosedField
  | some '\x7d' => return (⟨name, none, []⟩, rest)
  | some ':' =>
    let (spec, rest) ← takeSpec 0 rest
    return (⟨name, none, spec⟩, rest)
  | some _ =>
    match rest with
    | [] => throw .endInConversion
    | conversion :: '\x7d' :: rest => return (⟨name, some conversion, []⟩, rest)
    | conversion :: ':' :: rest =>
      let (spec, rest) ← takeSpec 0 rest
      return (⟨name, some conversion, spec⟩, rest)
    | [_] => throw .openSpec
    | _ :: _ :: _ => throw .noColonAfterConversion

/-- A number that is written by digits alone. -/
def wholeNumber (text : List Char) : Except TemplateFault (Option Nat) := do
  let (value, rest) ← takeNumber none text
  return if rest.isEmpty then value else none

/-- One character of a text by its index in brackets. -/
def characterAt (text : String) (index : List Char) : Except TemplateFault String := do
  let position ← wholeNumber index
  if index.isEmpty then throw .emptyAccess
  match position with
  | none => throw .indexByName
  | some i =>
    match text.toList[i]? with
    | some c => return String.singleton c
    | none => throw .indexOutOfRange

/-- The value behind a name after the accesses that follow it. The attributes of texts are left out,
and to ask for one fails. -/
def access : Nat → String → List Char → Except TemplateFault String
  | _, text, [] => .ok text
  | 0, text, _ => .ok text
  | steps + 1, text, '[' :: rest =>
    if rest.contains ']' then do
      let character ← characterAt text (rest.takeWhile (· != ']'))
      access steps character ((rest.dropWhile (· != ']')).drop 1)
    else .error .unclosedBracket
  | _, _, '.' :: rest =>
    let name := rest.takeWhile fun c => c != '.' && c != '['
    if name.isEmpty then .error .emptyAccess else .error (.noAttribute (String.ofList name))
  | _, _, _ => .error .noAccessAfterBracket

/-- The value that the name of a field stands for. There are values by name and none by position. -/
def Field.value (values : String → Option String) (field : Field) :
    Except TemplateFault String := do
  let isName := fun c => c != '.' && c != '['
  let first := field.name.takeWhile isName
  match ← wholeNumber first with
  | some index => throw (.position index)
  | none =>
    if first.isEmpty then throw (.position 0)
    match values (String.ofList first) with
    | none => throw (.unknownName (String.ofList first))
    | some text => access field.name.length text (field.name.dropWhile isName)

/-- A value in the notation that a field asks for: as it is, in quotes, or in quotes and ASCII. -/
def convert (conversion : Option Char) (text : String) : Except TemplateFault String :=
  match conversion with
  | none | some 's' => .ok text
  | some 'r' => .ok (quoted text)
  | some 'a' => .ok (quotedAscii text)
  | some c => .error (.unknownConversion c)

end EmulatedShell
