import EmulatedShell.Session.Prompt

namespace EmulatedShell

variable {values : String → Option String} {depth steps : Nat} {name rest after : List Char}
  {text : String}

theorem fillFields_nil : fillFields values (depth + 1) steps [] = .ok [] := by
  cases steps <;> simp [fillFields]

theorem fillFields_plain {c : Char} (hopen : c ≠ '\x7b') (hclose : c ≠ '\x7d') :
    fillFields values (depth + 1) (steps + 1) (c :: rest) =
      (c :: ·) <$> fillFields values (depth + 1) steps rest := by
  rw [fillFields]
  · rfl
  · exact hopen
  · exact hclose

theorem fillFields_open {field : Field} (single : rest.head? ≠ some '\x7b')
    (taken : Field.take rest = .ok (field, after)) :
    fillFields values (depth + 1) (steps + 1) ('\x7b' :: rest) = (do
      let value ← field.value values
      let shown ← convert field.conversion value
      let spec ←
        if field.spec.contains '\x7b' then
          fillFields values depth field.spec.length field.spec
        else pure field.spec
      let text ← layOut spec shown
      return text.toList ++ (← fillFields values (depth + 1) steps after)) := by
  have more : rest ≠ [] := by
    rintro rfl
    cases taken
  have first : ∀ others, rest ≠ '\x7b' :: others := by
    rintro others rfl
    exact single rfl
  rw [fillFields]
  · rw [taken]
    rfl
  · exact more
  · exact first

/-- A field with a name and nothing else is filled with its value. -/
theorem fillFields_field (single : rest.head? ≠ some '\x7b')
    (taken : Field.take rest = .ok (⟨name, none, []⟩, after))
    (value : Field.value values ⟨name, none, []⟩ = .ok text) :
    fillFields values (depth + 1) (steps + 1) ('\x7b' :: rest) =
      (text.toList ++ ·) <$> fillFields values (depth + 1) steps after := by
  rw [fillFields_open single taken, value]
  rfl

/-- Where a field has no value, there is nothing of the template. -/
theorem fillFields_lost {field : Field} {fault : TemplateFault}
    (single : rest.head? ≠ some '\x7b') (taken : Field.take rest = .ok (field, after))
    (lost : Field.value values field = .error fault) :
    fillFields values (depth + 1) (steps + 1) ('\x7b' :: rest) = .error fault := by
  rw [fillFields_open single taken, lost]
  rfl

/-- With the usual template a prompt shows the user, the host and the directory. -/
theorem promptIn_usual {settings : Settings}
    (usual : settings.promptTemplate = usualSettings.promptTemplate) (directory : String) :
    promptIn settings directory = .ok (settings.user ++ "@" ++ settings.hostname ++ ":" ++
      shownDirectory settings.home directory ++ "$ ") := by
  have user : Field.take "user\x7d@\x7bhostname\x7d:\x7bcwd\x7d$ ".toList =
      .ok (⟨"user".toList, none, []⟩, '@' :: '\x7b' :: "hostname\x7d:\x7bcwd\x7d$ ".toList) := rfl
  have host : Field.take "hostname\x7d:\x7bcwd\x7d$ ".toList =
      .ok (⟨"hostname".toList, none, []⟩, ':' :: '\x7b' :: "cwd\x7d$ ".toList) := rfl
  have cwd : Field.take "cwd\x7d$ ".toList = .ok (⟨"cwd".toList, none, []⟩, ['$', ' ']) := rfl
  have template : settings.promptTemplate.toList =
      '\x7b' :: "user\x7d@\x7bhostname\x7d:\x7bcwd\x7d$ ".toList := by
    rw [usual]
    rfl
  have length : settings.promptTemplate.length = 25 := by
    rw [usual]
    rfl
  have plain : ∀ {c : Char} {steps rest}, c ≠ '\x7b' → c ≠ '\x7d' →
      fillFields (promptValue settings directory) 2 (steps + 1) (c :: rest) =
        (c :: ·) <$> fillFields (promptValue settings directory) 2 steps rest :=
    fun hopen hclose => fillFields_plain hopen hclose
  have filled : fillFields (promptValue settings directory) 2 25
      ('\x7b' :: "user\x7d@\x7bhostname\x7d:\x7bcwd\x7d$ ".toList) =
        .ok (settings.user.toList ++ '@' :: (settings.hostname.toList ++
          ':' :: ((shownDirectory settings.home directory).toList ++ ['$', ' ']))) := by
    rw [@fillFields_field _ 1 24 _ _ _ settings.user (by decide) user rfl,
      plain (by decide) (by decide),
      @fillFields_field _ 1 22 _ _ _ settings.hostname (by decide) host rfl,
      plain (by decide) (by decide),
      @fillFields_field _ 1 20 _ _ _ (shownDirectory settings.home directory) (by decide) cwd rfl,
      plain (by decide) (by decide), plain (by decide) (by decide), fillFields_nil]
    rfl
  rw [promptIn, fillTemplate, length, template, filled]
  have written : settings.user.toList ++ '@' :: (settings.hostname.toList ++
      ':' :: ((shownDirectory settings.home directory).toList ++ ['$', ' '])) =
        (settings.user ++ "@" ++ settings.hostname ++ ":" ++
          shownDirectory settings.home directory ++ "$ ").toList := by
    simp
  rw [written]
  simp only [bind, Except.bind, pure, Except.pure, String.ofList_toList]

end EmulatedShell
