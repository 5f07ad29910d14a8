import GridQuery.Grid.Diagnostic

/-!
# Collections that are joined

Adding a diagnostic to a collection that has it already changes nothing. Joining two collections
does not look at what they have in common, so a diagnostic of both stands twice in the result.

Main results: `Diagnostics.entries_pushAll` and `Gathering.nodup_iff`.
-/

namespace GridQuery

namespace Diagnostics

theorem nodup_push_iff {ds : Diagnostics} {d : Diagnostic} :
    (ds.push d).entries.Nodup ↔ ds.entries.Nodup := by
  refine ⟨fun h => ?_, fun h => nodup_push h d⟩
  have hkept : ds.entries.Sublist (ds.push d).entries := by
    unfold push
    split
    · exact List.Sublist.refl _
    · exact List.sublist_append_left _ _
  exact hkept.nodup h

theorem nodup_extend_iff {ds other : Diagnostics} :
    (ds.extend other).entries.Nodup ↔ ds.entries.Nodup ∧ other.entries.Nodup ∧
      ∀ d ∈ ds.entries, d ∉ other.entries := by
  rw [extend, List.nodup_append]
  refine and_congr_right fun _ => and_congr_right fun _ => ⟨?_, ?_⟩
  · exact fun h d hd hother => h d hd d hother rfl
  · rintro h d hd _ hother rfl
    exact h d hd hother

/-- **Of a list the diagnostics that are not there yet are added, each once and where it stands
first.** -/
theorem entries_pushAll (ds : Diagnostics) (list : List Diagnostic) :
    (ds.pushAll list).entries = ds.entries ++ (list.filter (· ∉ ds.entries)).eraseDups := by
  induction list generalizing ds with
  | nil => simp [pushAll]
  | cons d list ih =>
    show ((ds.push d).pushAll list).entries = _
    rw [ih]
    by_cases hd : d ∈ ds.entries
    · have hpush : ds.push d = ds := by simp [push, hd]
      rw [hpush, List.filter_cons_of_neg (by simpa using hd)]
    · have hpush : (ds.push d).entries = ds.entries ++ [d] := by simp [push, hd]
      have hnew : list.filter (· ∉ ds.entries ++ [d]) =
          (list.filter (· ∉ ds.entries)).filter (!· == d) := by
        rw [List.filter_filter]
        refine List.filter_congr fun e _ => ?_
        by_cases he : e = d <;> simp [he]
      rw [hpush, hnew, List.filter_cons_of_pos (by simpa using hd), List.eraseDups_cons,
        List.append_assoc, List.singleton_append]

end Diagnostics

/-- How a collection comes about: diagnostics are added to it one by one, and other collections are
joined to it. -/
inductive Gathering where
  | start
  | push (g : Gathering) (d : Diagnostic)
  | extend (g other : Gathering)

namespace Gathering

def diagnostics : Gathering → Diagnostics
  | .start => .empty
  | .push g d => g.diagnostics.push d
  | .extend g other => g.diagnostics.extend other.diagnostics

/-- No collection is joined to one that has a diagnostic in common with it. -/
def Apart : Gathering → Prop
  | .start => True
  | .push g _ => g.Apart
  | .extend g other => g.Apart ∧ other.Apart ∧
      ∀ d ∈ g.diagnostics.entries, d ∉ other.diagnostics.entries

/-- **A collection has each diagnostic once exactly when no joined ones had any in common.** -/
theorem nodup_iff (g : Gathering) : g.diagnostics.entries.Nodup ↔ g.Apart := by
  induction g with
  | start => exact ⟨fun _ => trivial, fun _ => List.nodup_nil⟩
  | push g d ih => exact Diagnostics.nodup_push_iff.trans ih
  | extend g other ih ihother =>
    rw [diagnostics, Diagnostics.nodup_extend_iff, ih, ihother]
    rfl

end Gathering

end GridQuery
