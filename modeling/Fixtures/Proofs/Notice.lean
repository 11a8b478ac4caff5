import Fixtures.Notice

/-!
# What is seen of notices

A notice that the filter drops leaves no trace in the text. Under the standard filter this is so for
every event of a level below a warning. Of the others some sum up what a command plans or has done:
lines for records, tables and counts.
-/

namespace Fixtures

/-- By default no event is shown that is less important than a warning. -/
theorem Log.Filter.standard_not_shows {event : Log.Event} (h : 2 < event.level.rank) :
    Log.Filter.standard.shows event = false := by
  have hrank : ¬event.level.rank ≤ 2 := by omega
  cases hspeaks : "boinkgen".toList.isPrefixOf event.target.toList with
  | false =>
    simp only [shows, ruleFor, standard, List.filter_cons, List.filter_nil, hspeaks,
      Bool.false_eq_true, ite_false, List.foldl_nil]
  | true =>
    simp only [shows, ruleFor, standard, List.filter_cons, List.filter_nil, hspeaks, ite_true,
      List.foldl_cons, List.foldl_nil, hrank, decide_false]

/-- By default the warnings and errors of the program itself are shown. -/
theorem Log.Filter.standard_shows {event : Log.Event}
    (htarget : "boinkgen".toList.isPrefixOf event.target.toList = true)
    (h : event.level.rank ≤ 2) : Log.Filter.standard.shows event = true := by
  simp only [shows, ruleFor, standard, List.filter_cons, List.filter_nil, htarget, ite_true,
    List.foldl_cons, List.foldl_nil, h, decide_true]

/-- The parts of what a command says, as far as they sum it up. -/
inductive Part where
  /-- The line for a record. -/
  | line
  /-- A table. -/
  | table
  /-- The line with the counts. -/
  | counts
  /-- All else. -/
  | other
  deriving DecidableEq, Repr

namespace Notice

/-- Whether a notice has a text under a filter. -/
def shown (filter : Log.Filter) : Notice → Bool
  | event e => filter.shows e
  | _ => true

/-- A notice that is not shown has no text. -/
theorem render_of_not_shown {filter : Log.Filter} {notice : Notice} (color : Bool)
    (h : notice.shown filter = false) : notice.render filter color = "" := by
  cases notice with
  | event e =>
    rw [shown] at h
    simp [render, h]
  | _ => cases h

/-- The text of one notice after another. -/
theorem renderAll_cons (filter : Log.Filter) (color : Bool) (notice : Notice)
    (rest : List Notice) :
    renderAll filter color (notice :: rest) =
      notice.render filter color ++ renderAll filter color rest := by
  rw [renderAll, List.map_cons, String.join_cons]
  rfl

/-- Leaving out what is not shown does not change the text. -/
theorem renderAll_filter_shown (filter : Log.Filter) (color : Bool) (notices : List Notice) :
    renderAll filter color (notices.filter (shown filter)) = renderAll filter color notices := by
  induction notices with
  | nil => rfl
  | cons notice rest ih =>
    cases hshown : notice.shown filter with
    | true => rw [List.filter_cons_of_pos hshown, renderAll_cons, renderAll_cons, ih]
    | false =>
      rw [List.filter_cons_of_neg (by simp [hshown]), renderAll_cons, ih,
        render_of_not_shown color hshown, String.empty_append]

/-- Notices of which none is shown have no text. -/
theorem renderAll_of_not_shown {filter : Log.Filter} {notices : List Notice} (color : Bool)
    (h : ∀ notice ∈ notices, notice.shown filter = false) :
    renderAll filter color notices = "" := by
  have hnone : notices.filter (shown filter) = [] := by
    rw [List.filter_eq_nil_iff]
    intro notice hmem
    rw [h notice hmem]
    exact Bool.false_ne_true
  rw [← renderAll_filter_shown, hnone]
  rfl

/-- The text of some notices after others. -/
theorem renderAll_append (filter : Log.Filter) (color : Bool) (notices others : List Notice) :
    renderAll filter color (notices ++ others) =
      renderAll filter color notices ++ renderAll filter color others := by
  simp only [renderAll, List.map_append, String.join_append]

/-- The part that a notice belongs to. -/
def part : Notice → Part
  | generated _ _ => .line
  | status .skip _ => .line
  | table _ => .table
  | status .done _ => .counts
  | _ => .other

/-- The notices that belong to one part, in order. -/
def ofPart (part : Part) (notices : List Notice) : List Notice :=
  notices.filter fun notice => notice.part = part

theorem ofPart_append (part : Part) (notices others : List Notice) :
    ofPart part (notices ++ others) = ofPart part notices ++ ofPart part others :=
  List.filter_append ..

/-- Notices that all belong to one part. -/
theorem ofPart_of_forall {part : Part} {notices : List Notice}
    (h : ∀ notice ∈ notices, notice.part = part) (wanted : Part) :
    ofPart wanted notices = if part = wanted then notices else [] := by
  by_cases heq : part = wanted
  · rw [if_pos heq, ofPart, List.filter_eq_self]
    intro notice hmem
    exact decide_eq_true ((h notice hmem).trans heq)
  · rw [if_neg heq, ofPart, List.filter_eq_nil_iff]
    intro notice hmem hwanted
    exact heq ((h notice hmem).symm.trans (of_decide_eq_true hwanted))

end Notice

end Fixtures
