import CrashDiff.Compiler.Version
import Mathlib.Data.List.DropRight

/-!
# Answers to version queries

A query that is answered gives a text that is ready to be shown: it is not empty, and there are no
blanks at its ends. Whether there is an answer depends on how the child has ended. Every exit is
answered, and so are failures of the operating system and the time limit; any other failure passes
through the query.

Results:
1. `trim_trim`, `trim_eq_empty_iff`: a trimmed text stays as it is, and nothing is left of blanks.
2. `trim_shown`, `shown_ne_empty`: the text of an answer.
3. `ofEnding_fst`, `escape?_eq_some_iff`: when there is an answer, and which one it is.
-/

namespace CrashDiff

namespace Text

theorem trimBy_trimBy (p : Char → Bool) (cs : List Char) :
    trimBy p (trimBy p cs) = trimBy p cs := by
  have eq (l : List Char) : trimBy p l = (l.dropWhile p).rdropWhile p := rfl
  rw [eq, eq]
  -- The blanks at the front are gone, and those at the end are taken from the others.
  have front : ((cs.dropWhile p).rdropWhile p).dropWhile p = (cs.dropWhile p).rdropWhile p := by
    rw [List.dropWhile_eq_self_iff]
    intro some
    have within := List.rdropWhile_prefix p (l := cs.dropWhile p)
    have first := List.dropWhile_get_zero_not p cs (some.trans_le within.length_le)
    rwa [within.getElem some]
  rw [front, List.rdropWhile_idempotent]

@[simp] theorem trim_trim (s : String) : trim (trim s) = trim s := by
  simp [trim, trimBy_trimBy]

theorem trim_eq_empty_iff {s : String} : trim s = "" ↔ s.toList.all isBlank = true := by
  have eq : (trim s).toList = (s.toList.dropWhile isBlank).rdropWhile isBlank :=
    String.toList_ofList
  rw [← String.toList_inj, eq, String.toList_empty, List.rdropWhile_eq_nil_iff, List.all_eq_true]
  constructor
  · intro rest c member
    rw [← List.takeWhile_append_dropWhile (p := isBlank) (l := s.toList)] at member
    rcases List.mem_append.mp member with front | behind
    · exact List.mem_takeWhile_imp front
    · exact rest c behind
  · intro blank c member
    exact blank c ((List.dropWhile_suffix isBlank).subset member)

end Text

namespace Version

open Text

variable {e : VersionEnding} {f : Failure}

/-- The version that is shown after a query that is answered: unknown, if the child has failed or
there are only blanks in its output, and otherwise the output without blanks at its ends. -/
def shown : VersionEnding → String
  | .exited code output _ =>
    if code ≠ 0 ∨ output.toList.all isBlank = true then unknown else trim output
  | .failed _ => unknown

/-- The failure that passes through a query; none if the query is answered. -/
def escape? : VersionEnding → Option Failure
  | .exited .. => none
  | .failed f => if isForgiven f then none else some f

theorem shown_cases (e : VersionEnding) :
    shown e = unknown ∨ ∃ output, shown e = trim output ∧ trim output ≠ "" := by
  cases e with
  | failed f => exact Or.inl rfl
  | exited code output errors =>
    by_cases bad : code ≠ 0 ∨ output.toList.all isBlank = true
    · exact Or.inl (if_pos bad)
    · exact Or.inr ⟨output, if_neg bad, fun empty => bad (Or.inr (trim_eq_empty_iff.mp empty))⟩

theorem shown_ne_empty (e : VersionEnding) : shown e ≠ "" := by
  rcases shown_cases e with none | ⟨output, eq, some⟩
  · rw [none]
    decide
  · rwa [eq]

@[simp] theorem trim_shown (e : VersionEnding) : trim (shown e) = shown e := by
  rcases shown_cases e with none | ⟨output, eq, _⟩
  · rw [none]
    decide
  · rw [eq, trim_trim]

/-- A query is answered unless its failure passes through. -/
theorem ofEnding_fst (v : Variant) (e : VersionEnding) :
    (ofEnding v e).1 =
      match escape? e with
      | none => .ok (shown e)
      | some f => .error f := by
  cases e with
  | failed f =>
    by_cases forgiven : isForgiven f = true <;> simp [ofEnding, escape?, shown, forgiven]
  | exited code output errors =>
    have empty : (trim output).isEmpty = output.toList.all isBlank := by
      rw [Bool.eq_iff_iff, String.isEmpty_iff, trim_eq_empty_iff]
    by_cases succeeded : code = 0
    · by_cases blank : output.toList.all isBlank = true <;>
        simp only [ofEnding, escape?, shown, succeeded, empty, blank] <;> rfl
    · simp [ofEnding, escape?, shown, succeeded]

/-- The failures that pass through: neither those of the operating system, nor the time limit. -/
theorem escape?_eq_some_iff : escape? e = some f ↔ e = .failed f ∧
    (f.kind ∈ [.value, .runtime, .type, .interrupt, .subprocess, .overflow] ∨
      ∃ kind, f.kind = .other kind ∧ kind.isSystem = false) := by
  cases e with
  | exited code output errors => simp [escape?]
  | failed g =>
    have kinds : isForgiven g = false ↔
        g.kind ∈ [.value, .runtime, .type, .interrupt, .subprocess, .overflow] ∨
          ∃ kind, g.kind = .other kind ∧ kind.isSystem = false := by
      unfold isForgiven
      cases g.kind <;> simp [FailureKind.isSystem]
    constructor
    · intro escapes
      by_cases forgiven : isForgiven g = true
      · simp [escape?, forgiven] at escapes
      · obtain rfl : g = f := by simpa [escape?, forgiven] using escapes
        exact ⟨rfl, kinds.mp (by simpa using forgiven)⟩
    · rintro ⟨same, kind⟩
      cases same
      simp [escape?, kinds.mpr kind]

end Version

end CrashDiff
