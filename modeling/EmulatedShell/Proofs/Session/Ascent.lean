import EmulatedShell.Proofs.Path
import EmulatedShell.Proofs.Session.Utilities

namespace EmulatedShell

namespace Session

/-- The session after a step up. -/
def climb (shell : Shell) (s : Session) : Session := (s.execute shell "cd ..").2

/-- Every step up succeeds, and the root is reached when the path is used up, to be left no more. -/
structure Ascends (shell : Shell) (s : Session) : Prop where
  steps : ∀ n, ∃ r, ((climb shell)^[n] s).execute shell "cd .." =
    (.ok r, (climb shell)^[n + 1] s) ∧ r.exitCode = 0
  arrives : ∀ n, ((climb shell)^[n] s).directory = "/" ↔ (segments s.directory).length ≤ n

variable {shell : Shell} {s t : Session} {line name : String} {r : Record}

theorem parse_up : Command.parse "cd .." = ⟨"cd", [".."], "cd .."⟩ := by decide

theorem destination_up : s.destination shell "cd .." = parentPath s.directory := by
  rw [destination, parse_up]
  exact resolvePath_parent s.directory shell.settings.home

/-- A step up succeeds where the parent is a directory. -/
theorem execute_up (builtin : shell.handlers = builtinHandlers)
    (timely : s.now.hasTimestamp = true)
    (known : shell.disk.isDirectory (parentPath s.directory) = true) :
    ∃ r, s.execute shell "cd .." = (.ok r, s.climb shell) ∧ r.exitCode = 0 ∧
      (s.climb shell).directory = parentPath s.directory := by
  have he : s.execute shell "cd .." = _ := execute_of_timestamp timely
  have up : (Command.parse "cd ..").name = "cd" := by rw [parse_up]
  have after : s.climb shell = _ := congrArg Prod.snd he
  rw [← after] at he
  rcases execute_cd builtin up he with ⟨_, success, moved⟩ | ⟨unknown, _⟩
  · rw [destination_up] at moved
    exact ⟨_, he, success, moved⟩
  · rw [destination_up, known] at unknown
    cases unknown

theorem iterate_climb (builtin : shell.handlers = builtinHandlers)
    (timely : s.now.hasTimestamp = true)
    (closed : ∀ path ∈ shell.disk.tree.keys, parentPath path ∈ shell.disk.tree.keys)
    (known : s.directory ∈ shell.disk.tree.keys) (n : Nat) :
    ((climb shell)^[n] s).now = s.now ∧
      ((climb shell)^[n] s).directory ∈ shell.disk.tree.keys ∧
      ((climb shell)^[n] s).directory = parentPath^[n] s.directory := by
  induction n with
  | zero => exact ⟨rfl, known, rfl⟩
  | succ n ih =>
    obtain ⟨now, there, path⟩ := ih
    have above := closed _ there
    obtain ⟨r, he, _, moved⟩ := execute_up builtin (now ▸ timely) (Table.has_iff.mpr above)
    rw [Function.iterate_succ_apply', Function.iterate_succ_apply']
    refine ⟨(now_of_execute he).trans now, ?_, ?_⟩
    · rw [moved]
      exact above
    · rw [moved, path]

theorem ascends (builtin : shell.handlers = builtinHandlers)
    (normal : ∀ path ∈ shell.disk.tree.keys, IsNormal path)
    (closed : ∀ path ∈ shell.disk.tree.keys, parentPath path ∈ shell.disk.tree.keys)
    (timely : s.now.hasTimestamp = true) (known : s.directory ∈ shell.disk.tree.keys) :
    Ascends shell s := by
  refine ⟨?_, ?_⟩
  · intro n
    obtain ⟨now, there, _⟩ := iterate_climb builtin timely closed known n
    obtain ⟨r, he, success, _⟩ :=
      execute_up builtin (now ▸ timely) (Table.has_iff.mpr (closed _ there))
    rw [Function.iterate_succ_apply']
    exact ⟨r, he, success⟩
  · intro n
    obtain ⟨_, _, path⟩ := iterate_climb builtin timely closed known n
    rw [path]
    exact iterate_parentPath_eq_root_iff (normal _ known) n

/-- After a step down to a single name a step up leads back. -/
theorem execute_down_up (builtin : shell.handlers = builtinHandlers)
    (normal : IsNormal s.directory) (known : shell.disk.isDirectory s.directory = true)
    (goes : (Command.parse line).name = "cd") (down : (Command.parse line).arg 0 = some name)
    (single : IsSegment name) (points : name ≠ "..") (tilde : name ≠ "~")
    (he : s.execute shell line = (.ok r, t)) (success : r.exitCode = 0) :
    ∃ back u, t.execute shell "cd .." = (.ok back, u) ∧ back.exitCode = 0 ∧
      u.directory = s.directory := by
  rcases execute_cd builtin goes he with ⟨_, _, moved⟩ | ⟨_, failed, _⟩
  · rw [destination, down, resolvePath_segment single tilde points] at moved
    have above : parentPath t.directory = s.directory := by
      rw [moved]
      exact parentPath_childPath normal single
    have timely : t.now.hasTimestamp = true := now_of_execute he ▸ timely_of_execute he
    obtain ⟨back, hb, succeeds, returned⟩ := execute_up builtin timely (above ▸ known)
    exact ⟨back, _, hb, succeeds, returned.trans above⟩
  · rw [failed] at success
    cases success

/-- On a disk of normal paths a step up undoes a step down, and if parents are directories too, the
steps up lead to the root, one for each segment. A time without a timestamp hinders every step. -/
theorem ascent_undoes_descent (builtin : shell.handlers = builtinHandlers)
    (normal : ∀ path ∈ shell.disk.tree.keys, IsNormal path) :
    (∀ (s : Session) line name r t, s.directory ∈ shell.disk.tree.keys →
      (Command.parse line).name = "cd" → (Command.parse line).arg 0 = some name →
      IsSegment name → name ≠ ".." → name ≠ "~" →
      s.execute shell line = (.ok r, t) → r.exitCode = 0 →
      ∃ back u, t.execute shell "cd .." = (.ok back, u) ∧ back.exitCode = 0 ∧
        u.directory = s.directory) ∧
    ((∀ path ∈ shell.disk.tree.keys, parentPath path ∈ shell.disk.tree.keys) →
      ∀ s : Session, s.directory ∈ shell.disk.tree.keys →
        (s.now.hasTimestamp = true ∧ Ascends shell s) ∨
        (s.now.hasTimestamp = false ∧
          s.execute shell "cd .." = (.error .beforeCalendar, { s with executing := false }))) ∧
    ∀ path, parentPath path = "/" ++ "/".intercalate
      (((path.toList.splitOn '/').filter (· ≠ [])).dropLast.map String.ofList) := by
  refine ⟨?_, ?_, parentPath_eq⟩
  · intro s line name r t known goes down single points tilde he success
    exact execute_down_up builtin (normal _ known) (Table.has_iff.mpr known) goes down single
      points tilde he success
  · intro closed s known
    cases timely : s.now.hasTimestamp with
    | true => exact .inl ⟨rfl, ascends builtin normal closed timely known⟩
    | false => exact .inr ⟨rfl, execute_of_no_timestamp timely⟩

theorem outset_ascent_undoes_descent :
    (∀ path ∈ usualShell.disk.tree.keys, IsNormal path) ∧
    (∀ path ∈ usualShell.disk.tree.keys, parentPath path ∈ usualShell.disk.tree.keys) ∧
    outset.directory ∈ usualShell.disk.tree.keys ∧
    (∃ r t, outset.execute usualShell "cd projects" = (.ok r, t) ∧ r.exitCode = 0 ∧
      t.directory = "/home/user/projects" ∧
      ∃ back u, t.execute usualShell "cd .." = (.ok back, u) ∧ back.exitCode = 0 ∧
        u.directory = "/home/user") ∧
    ((climb usualShell)^[1] outset).directory ≠ "/" ∧
    ((climb usualShell)^[2] outset).directory = "/" ∧
    ((climb usualShell)^[3] outset).directory = "/" := by
  have normal : ∀ path ∈ usualShell.disk.tree.keys, IsNormal path := by decide +kernel
  have closed : ∀ path ∈ usualShell.disk.tree.keys,
      parentPath path ∈ usualShell.disk.tree.keys := by decide +kernel
  have known : outset.directory ∈ usualShell.disk.tree.keys := by decide
  have timely : outset.now.hasTimestamp = true := by decide
  have builtin : usualShell.handlers = builtinHandlers := rfl
  obtain ⟨down, up, _⟩ := ascent_undoes_descent builtin normal
  have he : outset.execute usualShell "cd projects" = _ := execute_of_timestamp timely
  have single : IsSegment "projects" := ⟨by decide, by decide⟩
  have returns := down outset "cd projects" "projects" _ _ known (by decide) (by decide) single
    (by decide) (by decide) he (by decide)
  obtain ⟨_, ascends⟩ := (up closed outset known).resolve_right (by simp [timely])
  refine ⟨normal, closed, known, ⟨_, _, he, by decide, by decide, returns⟩, ?_, ?_, ?_⟩
  · rw [ne_eq, ascends.arrives]
    decide
  · rw [ascends.arrives]
    decide
  · rw [ascends.arrives]
    decide

end Session

end EmulatedShell
