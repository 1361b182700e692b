import EmulatedShell.Proofs.Text.Integer
import EmulatedShell.Session.Record
import Std.Data.String.ToInt

namespace EmulatedShell

/-- A text is cut in one way only at the last place of a character. -/
theorem append_cons_inj_of_last {α : Type} {front other rest tail : List α} {a : α}
    (hr : a ∉ rest) (ht : a ∉ tail) (h : front ++ a :: rest = other ++ a :: tail) :
    front = other ∧ rest = tail := by
  have beyond : ∀ {more xs ys : List α}, a ∉ xs → a :: xs = more ++ a :: ys →
      more = [] ∧ xs = ys := by
    intro more xs ys hx he
    cases more with
    | nil => exact ⟨rfl, (List.cons.inj he).2⟩
    | cons b more =>
      have hm : xs = more ++ a :: ys := (List.cons.inj he).2
      exact absurd (by simp [hm]) hx
  rcases List.append_eq_append_iff.mp h with ⟨more, ho, he⟩ | ⟨more, hf, he⟩
  · obtain ⟨rfl, hz⟩ := beyond hr he
    exact ⟨by simp [ho], hz⟩
  · obtain ⟨rfl, hz⟩ := beyond ht he
    exact ⟨by simp [hf], hz.symm⟩

theorem hyphen_not_mem_toString (n : Nat) : '-' ∉ (toString n).toList :=
  not_mem_toString (by decide) n

namespace RecordId

theorem text_toList (id : RecordId) :
    id.text.toList = (toString id.milliseconds).toList ++ '-' :: (toString id.number).toList := by
  rw [text, String.toList_append, String.toList_append, List.append_assoc]
  rfl

/-- The number is what follows the last hyphen, though the milliseconds may begin with one. -/
theorem text_injective {id other : RecordId} (h : id.text = other.text) : id = other := by
  have hl : (toString id.milliseconds).toList ++ '-' :: (toString id.number).toList =
      (toString other.milliseconds).toList ++ '-' :: (toString other.number).toList := by
    rw [← text_toList, ← text_toList, h]
  obtain ⟨hm, hn⟩ := append_cons_inj_of_last (hyphen_not_mem_toString id.number)
    (hyphen_not_mem_toString other.number) hl
  have milliseconds : id.milliseconds = other.milliseconds :=
    Int.repr_injective (String.toList_injective hm)
  have number : id.number = other.number := Nat.repr_injective (String.toList_injective hn)
  cases id
  cases other
  simp_all

end RecordId

end EmulatedShell
