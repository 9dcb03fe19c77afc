/-
# Names listed once

Names that are collected in the order of their use are listed once each, at the place of their first
use.
-/
import ComponentTags.Text.Basic
import Mathlib.Tactic.Common

namespace ComponentTags

lemma eraseDups_filter (l : List Text) (f : Text → Bool) :
    (l.filter f).eraseDups = l.eraseDups.filter f := by
  induction hlength : l.length using Nat.strongRecOn generalizing l with
  | ind length ih =>
  subst hlength
  cases l with
  | nil => rfl
  | cons a as =>
    have hshort : (as.filter fun b => !b == a).length < (a :: as).length :=
      Nat.lt_succ_of_le (List.length_filter_le _ _)
    have hrest := ih _ hshort _ rfl
    rw [List.filter_filter] at hrest
    rw [List.eraseDups_cons]
    by_cases hf : f a = true
    · rw [List.filter_cons_of_pos hf, List.filter_cons_of_pos hf, List.eraseDups_cons, ← hrest,
        List.filter_filter]
      congr 3
      funext b
      exact Bool.and_comm _ _
    · rw [List.filter_cons_of_neg hf, List.filter_cons_of_neg hf, ← hrest]
      congr 1
      refine List.filter_congr fun b hb => ?_
      by_cases hba : b = a
      · subst hba
        simp [hf]
      · simp [hba]

lemma eraseDups_eraseDups (names : List Text) : names.eraseDups.eraseDups = names.eraseDups := by
  induction hlength : names.length using Nat.strongRecOn generalizing names with
  | ind length ih =>
  subst hlength
  cases names with
  | nil => rfl
  | cons first rest =>
    have hshort : (rest.filter fun n => !n == first).length < (first :: rest).length :=
      Nat.lt_succ_of_le (List.length_filter_le _ _)
    have hrest := ih _ hshort _ rfl
    rw [List.eraseDups_cons, List.eraseDups_cons, ← eraseDups_filter, List.filter_filter]
    simp only [Bool.and_self]
    rw [hrest]

lemma nodup_eraseDups (names : List Text) : names.eraseDups.Nodup := by
  induction hlength : names.length using Nat.strongRecOn generalizing names with
  | ind length ih =>
  subst hlength
  cases names with
  | nil => exact List.nodup_nil
  | cons first rest =>
    rw [List.eraseDups_cons, List.nodup_cons, List.mem_eraseDups]
    refine ⟨fun hmem => ?_, ih _ (Nat.lt_succ_of_le (List.length_filter_le _ _)) _ rfl⟩
    simpa using (List.mem_filter.mp hmem).2

/-- Names that follow others are listed unless they are listed already. -/
lemma eraseDups_append (names more : List Text) :
    (names ++ more).eraseDups =
      names.eraseDups ++ more.eraseDups.filter fun name => name ∉ names.eraseDups := by
  rw [List.eraseDups_append, List.removeAll, eraseDups_filter]
  congr 1
  refine List.filter_congr fun name _ => ?_
  simp

lemma eraseDups_append_eraseDups (names more : List Text) :
    (names.eraseDups ++ more).eraseDups = (names ++ more).eraseDups := by
  rw [eraseDups_append, eraseDups_append, eraseDups_eraseDups]

end ComponentTags
