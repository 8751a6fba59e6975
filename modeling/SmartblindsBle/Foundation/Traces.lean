import Mathlib.Data.List.Basic
import Mathlib.Data.List.TakeWhile

/-! # Traces

A safety property of a trace says what may come after what. It is proved along
the trace, one entry at a time.
-/

namespace Foundation

variable {Entry : Type} {allowed : List Entry → Entry → Prop} {trace : List Entry}

/-- Every entry is allowed by the entries before it. -/
def EveryEntry (allowed : List Entry → Entry → Prop) (trace : List Entry) : Prop :=
  ∀ before entry after, trace = before ++ entry :: after → allowed before entry

namespace EveryEntry

theorem nil : EveryEntry allowed [] := by
  intro before entry after split
  cases before <;> cases split

theorem concat (every : EveryEntry allowed trace) {entry : Entry}
    (next : allowed trace entry) : EveryEntry allowed (trace ++ [entry]) := by
  intro before other after split
  rcases List.eq_nil_or_concat after with rfl | ⟨front, last, rfl⟩
  · have same := List.append_inj' split rfl
    cases same.1
    cases same.2
    exact next
  · have regrouped : trace ++ [entry] = (before ++ other :: front) ++ [last] := by
      simp [split]
    exact every before other front (List.append_inj' regrouped rfl).1

theorem append (every : EveryEntry allowed trace) {entries : List Entry}
    (always : ∀ entry ∈ entries, ∀ before, allowed before entry) :
    EveryEntry allowed (trace ++ entries) := by
  induction entries generalizing trace with
  | nil => rwa [List.append_nil]
  | cons entry entries induction =>
      rw [List.append_cons]
      apply induction (every.concat (always entry (List.mem_cons_self ..) trace))
      exact fun other member => always other (List.mem_cons_of_mem entry member)

end EveryEntry

/-! ## Stretches -/

/-- Some entries begin a stretch, which ends before the next of them. Every stretch is as
`holds` says. -/
def EveryStretch (begins : Entry → Bool) (holds : Entry → List Entry → Prop) :
    List Entry → Prop
  | [] => True
  | entry :: trace =>
      (begins entry = true → holds entry (trace.takeWhile fun next => !begins next)) ∧
        EveryStretch begins holds trace

namespace EveryStretch

variable {begins : Entry → Bool} {holds : Entry → List Entry → Prop}

theorem none {entries : List Entry} (others : ∀ other ∈ entries, begins other = false) :
    EveryStretch begins holds entries := by
  induction entries with
  | nil => trivial
  | cons entry entries induction =>
      constructor
      · intro isBegin
        cases (others entry (List.mem_cons_self ..)).symm.trans isBegin
      · exact induction fun other member => others other (List.mem_cons_of_mem _ member)

theorem of_append (before : List Entry) {entry : Entry} {after : List Entry}
    (every : EveryStretch begins holds (before ++ entry :: after)) (isBegin : begins entry = true) :
    holds entry (after.takeWhile fun next => !begins next) := by
  induction before with
  | nil => exact every.1 isBegin
  | cons first before induction => exact induction every.2

theorem takeWhile_begins (trace : List Entry) {entry : Entry} (isBegin : begins entry = true)
    (entries : List Entry) :
    (trace ++ entry :: entries).takeWhile (fun next => !begins next) =
      trace.takeWhile fun next => !begins next := by
  induction trace with
  | nil => simp [isBegin]
  | cons first trace induction =>
      rw [List.cons_append, List.takeWhile_cons, List.takeWhile_cons, induction]

theorem stretch (every : EveryStretch begins holds trace) {entry : Entry} {entries : List Entry}
    (isBegin : begins entry = true) (others : ∀ other ∈ entries, begins other = false)
    (isStretch : holds entry entries) :
    EveryStretch begins holds (trace ++ entry :: entries) := by
  induction trace with
  | nil =>
      refine ⟨?_, none others⟩
      intro _
      have whole : (entries.takeWhile fun next => !begins next) = entries := by
        apply List.takeWhile_eq_self_iff.mpr
        intro other member
        rw [others other member]
        rfl
      rw [whole]
      exact isStretch
  | cons first trace induction =>
      rw [List.cons_append]
      refine ⟨?_, induction every.2⟩
      intro isFirst
      rw [takeWhile_begins trace isBegin]
      exact every.1 isFirst

end EveryStretch

end Foundation
