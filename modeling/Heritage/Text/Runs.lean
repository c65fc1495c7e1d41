import Mathlib

/-!
# Runs of letters

How a list splits at its separators, and where a run of letters of one kind
ends.
-/

namespace Heritage.Text

universe u

variable {α : Type u}

/-- A letter that is not a separator lies in one of the parts. -/
theorem mem_splitOn [BEq α] [LawfulBEq α] {separator letter : α}
    {letters : List α} (member : letter ∈ letters)
    (different : letter ≠ separator) :
    ∃ part ∈ letters.splitOn separator, letter ∈ part := by
  induction letters with
  | nil =>
      exact absurd member List.not_mem_nil
  | cons head rest inductionHypothesis =>
      rw [List.splitOn_cons_eq_if_modifyHead]
      by_cases isSeparator : head == separator
      · rw [if_pos isSeparator]
        have inRest : letter ∈ rest := by
          rcases List.mem_cons.mp member with rfl | inRest
          · exact absurd (eq_of_beq isSeparator) different
          · exact inRest
        obtain ⟨part, partMember, inPart⟩ := inductionHypothesis inRest
        exact ⟨part, List.mem_cons_of_mem _ partMember, inPart⟩
      · rw [if_neg isSeparator]
        cases parts : rest.splitOn separator with
        | nil =>
            exact absurd parts (List.splitOn_ne_nil _ _)
        | cons first others =>
            rw [parts] at inductionHypothesis
            rw [List.modifyHead_cons]
            rcases List.mem_cons.mp member with rfl | inRest
            · exact ⟨letter :: first, List.mem_cons_self, List.mem_cons_self⟩
            · obtain ⟨part, partMember, inPart⟩ := inductionHypothesis inRest
              rcases List.mem_cons.mp partMember with rfl | inOthers
              · exact ⟨head :: part, List.mem_cons_self,
                  List.mem_cons_of_mem _ inPart⟩
              · exact ⟨part, List.mem_cons_of_mem _ inOthers, inPart⟩

section Runs

variable {property : α → Bool} {run behind : List α}

theorem takeWhile_append_of_head (inRun : ∀ letter ∈ run, property letter)
    (stop : ∀ letter ∈ behind.head?, ¬ property letter) :
    (run ++ behind).takeWhile property = run := by
  rw [List.takeWhile_append_of_pos inRun]
  cases behind with
  | nil =>
      exact List.append_nil run
  | cons head rest =>
      rw [List.takeWhile_cons_of_neg (stop head rfl), List.append_nil]

theorem dropWhile_append_of_head (inRun : ∀ letter ∈ run, property letter)
    (stop : ∀ letter ∈ behind.head?, ¬ property letter) :
    (run ++ behind).dropWhile property = behind := by
  rw [List.dropWhile_append_of_pos inRun]
  cases behind with
  | nil =>
      rfl
  | cons head rest =>
      exact List.dropWhile_cons_of_neg (stop head rfl)

end Runs

end Heritage.Text
