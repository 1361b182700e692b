import EmulatedShell.Template.Field

namespace EmulatedShell

/-- A template with its fields filled in. A doubled brace stands for one brace. Layouts may hold
fields themselves, as deep as `depth` says. Each step uses up a character, so as many steps as the
template has characters are enough. -/
def fillFields (values : String → Option String) : Nat → Nat → List Char →
    Except TemplateFault (List Char)
  | 0, _, _ => .error .nestedTooDeep
  | _, 0, _ => .ok []
  | _, _, [] => .ok []
  | depth + 1, steps + 1, '\x7b' :: rest =>
    match rest with
    | [] => .error .loneOpen
    | '\x7b' :: rest => do return '\x7b' :: (← fillFields values (depth + 1) steps rest)
    | _ => do
      let (field, after) ← Field.take rest
      let value ← field.value values
      let shown ← convert field.conversion value
      let spec ←
        if field.spec.contains '\x7b' then
          fillFields values depth field.spec.length field.spec
        else pure field.spec
      let text ← layOut spec shown
      return text.toList ++ (← fillFields values (depth + 1) steps after)
  | depth + 1, steps + 1, '\x7d' :: rest =>
    match rest with
    | '\x7d' :: rest => do return '\x7d' :: (← fillFields values (depth + 1) steps rest)
    | _ => .error .loneClose
  | depth + 1, steps + 1, c :: rest => do
    return c :: (← fillFields values (depth + 1) steps rest)

/-- A template with its fields filled in. Its layouts may hold fields, theirs may not. -/
def fillTemplate (values : String → Option String) (template : String) :
    Except TemplateFault String := do
  return String.ofList (← fillFields values 2 template.length template.toList)

end EmulatedShell
