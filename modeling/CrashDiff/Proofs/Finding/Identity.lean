import CrashDiff.Proofs.Run.Books
import CrashDiff.Proofs.Run.Lines
import CrashDiff.Proofs.Text.Marks

/-!
# What a report identifies

A report is put together from names and a path without any escapes, so a part of it may look like
another one: a variant may be named like the rest of a report. Still no two findings of a run have
the same report. The path of a case ends with its identifier, and so does a report without a detail;
a report on unexpected exits has the identifier in front of all free text. What is left are the
names, which differ, and the exit codes, which hold no blank.

Results:
1. `last_of_fileName`: an identifier is read back from the end of a path.
2. `surprises_of_detail`: a detail tells which variants have exited unexpectedly, and how.
3. `lineOf_plain_inj`, `lineOf_unexpected_inj`: what reports of either form tell.
4. `identifies_of_accept`: reports are the same just if they say the same.
-/

namespace CrashDiff

open Text

/-! ## Exit codes and file names -/

theorem Outcome.codeText_injective {a b : Option Int}
    (same : Outcome.codeText a = Outcome.codeText b) : a = b := by
  have unlike (n : Int) : Outcome.codeText none ≠ Outcome.codeText (some n) := by
    intro alike
    have letter : 'N' ∈ (Outcome.codeText none).toList := by decide
    rw [alike] at letter
    exact not_mem_numeral (by decide) (by decide) n letter
  cases a with
  | none =>
    cases b with
    | none => rfl
    | some n => exact absurd same (unlike n)
  | some m =>
    cases b with
    | none => exact absurd same.symm (unlike m)
    | some n => exact congrArg some (numeral_injective same)

theorem Outcome.blank_not_mem_codeText (code : Option Int) :
    ' ' ∉ (Outcome.codeText code).toList := by
  cases code with
  | none => decide
  | some n => exact not_mem_numeral (by decide) (by decide) n

/-- The file name at the end of a text has the identifier behind its last `z`. -/
theorem Source.last_of_fileName {xs ys : List Char} {m n : Int}
    (same : xs ++ (fileName m).toList = ys ++ (fileName n).toList) : xs = ys ∧ m = n := by
  have shape (k : Int) (front : List Char) : front ++ (fileName k).toList =
      (front ++ "fuz".toList) ++ 'z' :: ((numeral k).toList ++ ".rs".toList) := by
    simp [fileName, fileNameOf]
  have free (k : Int) : 'z' ∉ (numeral k).toList ++ ".rs".toList := by
    intro member
    rcases List.mem_append.mp member with number | ending
    · exact not_mem_numeral (by decide) (by decide) k number
    · exact absurd ending (by decide)
  rw [shape, shape] at same
  obtain ⟨front, behind⟩ := last_of_mark (free m) (free n) same
  exact ⟨List.append_cancel_right front,
    numeral_injective (String.toList_inj.mp (List.append_cancel_right behind))⟩

/-- The text of a path stands in front of the names of all entries below it. -/
theorem Path.exists_front (p : Path) :
    ∃ front : String, ∀ name, (p.child name).toText = front ++ name := by
  refine ⟨anchorText p.anchor ++
    if p.names = [] then "" else String.intercalate "/" p.names ++ "/", fun name => ?_⟩
  have named : (p.child name).names ≠ [] := by simp [child]
  have names : String.intercalate "/" (p.names ++ [name]) =
      (if p.names = [] then "" else String.intercalate "/" p.names ++ "/") ++ name := by
    by_cases empty : p.names = []
    · simp [empty]
    · rw [if_neg empty, String.intercalate_append_of_ne_nil empty (List.cons_ne_nil _ _),
        String.intercalate_singleton]
  rw [toText, if_neg (by simp [named]), String.append_assoc, ← names]
  rfl

/-! ## Details -/

/-- The results are those of the two variants of the settings. -/
structure DualResult.IsOf (result : DualResult) (s : ExecutionSettings) : Prop where
  baseline : result.baseline.variant = s.baseline
  candidate : result.candidate.variant = s.candidate

namespace Report

variable {s : ExecutionSettings} {r t : DualResult} {e f g : VariantResult}
  {l l' : List VariantResult} {v w : Verdict} {m n : Int} {p : Path}

/-- The entry of a variant in a detail. -/
def entry (e : VariantResult) : String :=
  e.variant.name ++ " exited " ++ Outcome.codeText e.code

/-- Unexpected results under settings: of no variant, of one, or of both. -/
inductive Listed (s : ExecutionSettings) : List VariantResult → Prop
  | none : Listed s []
  | one {e : VariantResult} : (e.variant = s.baseline ∨ e.variant = s.candidate) →
      e.outcome = .unexpected → Listed s [e]
  | both {e f : VariantResult} : e.variant = s.baseline → f.variant = s.candidate →
      e.outcome = .unexpected → f.outcome = .unexpected → Listed s [e, f]

theorem listed_surprises (own : r.IsOf s) : Listed s r.surprises := by
  unfold DualResult.surprises
  by_cases baseline : r.baseline.outcome = .unexpected <;>
    by_cases candidate : r.candidate.outcome = .unexpected
  · simpa [baseline, candidate] using .both own.baseline own.candidate baseline candidate
  · simpa [baseline, candidate] using .one (.inl own.baseline) baseline
  · simpa [baseline, candidate] using .one (.inr own.candidate) candidate
  · simpa [baseline, candidate] using Listed.none

/-- The code stands behind the last blank of an entry. -/
theorem last_of_entry {xs ys : List Char}
    (same : xs ++ (entry e).toList = ys ++ (entry f).toList) :
    xs ++ e.variant.name.toList = ys ++ f.variant.name.toList ∧ e.code = f.code := by
  have shape (g : VariantResult) (front : List Char) : front ++ (entry g).toList =
      (front ++ g.variant.name.toList ++ " exited".toList) ++
        ' ' :: (Outcome.codeText g.code).toList := by
    simp [entry]
  rw [shape, shape] at same
  obtain ⟨front, code⟩ := last_of_mark (Outcome.blank_not_mem_codeText e.code)
    (Outcome.blank_not_mem_codeText f.code) same
  exact ⟨List.append_cancel_right front, Outcome.codeText_injective (String.toList_inj.mp code)⟩

theorem eq_of_entry (variant : e.variant = f.variant) (unexpected : e.outcome = .unexpected)
    (unexpected' : f.outcome = .unexpected) (same : entry e = entry f) : e = f := by
  have texts : [] ++ (entry e).toList = [] ++ (entry f).toList := by rw [same]
  obtain ⟨-, code⟩ := last_of_entry texts
  obtain ⟨_, _, _⟩ := e
  obtain ⟨_, _, _⟩ := f
  cases variant
  cases code
  cases unexpected
  cases unexpected'
  rfl

theorem entry_ne_empty (e : VariantResult) : entry e ≠ "" := by
  intro empty
  have blank : ' ' ∈ (entry e).toList := by simp [entry]
  rw [empty] at blank
  cases blank

theorem variant_of_name (valid : s.Valid) (own : e.variant = s.baseline ∨ e.variant = s.candidate)
    (own' : f.variant = s.baseline ∨ f.variant = s.candidate)
    (name : e.variant.name = f.variant.name) : e.variant = f.variant := by
  rcases own with own | own <;> rcases own' with own' | own' <;> rw [own, own'] at name ⊢
  · exact absurd name valid.names_distinct
  · exact absurd name.symm valid.names_distinct

theorem single_eq (e : VariantResult) : String.intercalate ", " ([e].map entry) = entry e := by
  simp

theorem pair_eq (e f : VariantResult) :
    String.intercalate ", " ([e, f].map entry) = entry e ++ ", " ++ entry f := by
  simp [String.append_assoc]

/-- Two entries are not one: in front of the last code there is more than a name. -/
theorem pair_ne_single (name : g.variant.name = e.variant.name ∨ g.variant.name = f.variant.name) :
    entry e ++ ", " ++ entry f ≠ entry g := by
  intro same
  have texts : (entry e ++ ", ").toList ++ (entry f).toList = [] ++ (entry g).toList := by
    rw [← String.toList_append, same, List.nil_append]
  obtain ⟨front, -⟩ := last_of_entry texts
  have lengths := congrArg List.length front
  rcases name with name | name
  · simp [entry, name] at lengths
  · simp [name] at lengths
    omega

theorem pair_ne_listed (baseline : e.variant = s.baseline) (candidate : f.variant = s.candidate)
    (own : g.variant = s.baseline ∨ g.variant = s.candidate) :
    entry e ++ ", " ++ entry f ≠ entry g := by
  refine pair_ne_single (own.imp (fun own => ?_) (fun own => ?_))
  · rw [own, baseline]
  · rw [own, candidate]

/-- A list of entries tells what it lists. -/
theorem eq_of_listed (valid : s.Valid) (listed : Listed s l) (listed' : Listed s l')
    (same : String.intercalate ", " (l.map entry) = String.intercalate ", " (l'.map entry)) :
    l = l' := by
  have none_ne_pair (e f : VariantResult) : "" ≠ entry e ++ ", " ++ entry f := by
    intro empty
    have comma : ',' ∈ (entry e ++ ", " ++ entry f).toList := by simp
    rw [← empty] at comma
    cases comma
  cases listed with
  | none =>
    cases listed' with
    | none => rfl
    | @one e => exact absurd (same.trans (single_eq e)).symm (entry_ne_empty e)
    | @both e f => exact absurd (same.trans (pair_eq e f)) (none_ne_pair e f)
  | @one e own unexpected =>
    rw [single_eq] at same
    cases listed' with
    | none => exact absurd same (entry_ne_empty e)
    | @one f own' unexpected' =>
      rw [single_eq] at same
      have texts : [] ++ (entry e).toList = [] ++ (entry f).toList := by rw [same]
      obtain ⟨name, -⟩ := last_of_entry texts
      have variant := variant_of_name valid own own' (String.toList_inj.mp name)
      rw [eq_of_entry variant unexpected unexpected' same]
    | @both f g baseline candidate =>
      rw [pair_eq] at same
      exact absurd same.symm (pair_ne_listed baseline candidate own)
  | @both e f baseline candidate unexpected unexpected₂ =>
    rw [pair_eq] at same
    cases listed' with
    | none => exact absurd same.symm (none_ne_pair e f)
    | @one g own =>
      rw [single_eq] at same
      exact absurd same (pair_ne_listed baseline candidate own)
    | @both e' f' baseline' candidate' unexpected' unexpected₂' =>
      rw [pair_eq] at same
      have texts : (entry e ++ ", ").toList ++ (entry f).toList =
          (entry e' ++ ", ").toList ++ (entry f').toList := by
        rw [← String.toList_append, same, String.toList_append]
      obtain ⟨front, code⟩ := last_of_entry texts
      -- The names in front of the last codes are the same, so the first entries are, too.
      rw [candidate, candidate'] at front
      have first := List.append_cancel_right front
      rw [String.toList_append, String.toList_append] at first
      have entries := String.toList_inj.mp (List.append_cancel_right first)
      have second : f = f' := by
        refine eq_of_entry (candidate.trans candidate'.symm) unexpected₂ unexpected₂' ?_
        rw [entry, entry, candidate, candidate', code]
      rw [eq_of_entry (baseline.trans baseline'.symm) unexpected unexpected' entries, second]

theorem detail_eq (r : DualResult) :
    detail r = String.intercalate ", " (r.surprises.map entry) := rfl

/-- A detail tells which variants have exited unexpectedly, and how. -/
theorem surprises_of_detail (valid : s.Valid) (own : r.IsOf s) (own' : t.IsOf s)
    (same : detail r = detail t) : r.surprises = t.surprises :=
  eq_of_listed valid (listed_surprises own) (listed_surprises own') same

/-! ## Reports -/

/-- The first letter of a report. -/
def initial? : Verdict → Option Char
  | .uninteresting => none
  | .baselineOnly | .candidateOnly => some 'I'
  | .bothCrashed => some 'B'
  | .unexpectedExit => some 'U'

theorem head?_lineOf (v : Verdict) (n : Int) (p : Path) (r : DualResult) :
    (lineOf v n p r).toList.head? = initial? v := by
  cases v <;> simp [lineOf, line?, label?, initial?]

/-- What happened, in the words of a report. -/
def labelOf (s : ExecutionSettings) (v : Verdict) : String :=
  (label? s.baseline.name s.candidate.name v).getD ""

theorem lineOf_plain (own : r.IsOf s) (worthy : v ≠ .uninteresting) (plain : v ≠ .unexpectedExit)
    (n : Int) (p : Path) :
    lineOf v n p r = labelOf s v ++ " (case " ++ numeral n ++ "): " ++ p.toText := by
  cases v with
  | uninteresting => exact absurd rfl worthy
  | unexpectedExit => exact absurd rfl plain
  | baselineOnly => simp [lineOf, line?, labelOf, label?, own.baseline]
  | candidateOnly => simp [lineOf, line?, labelOf, label?, own.candidate]
  | bothCrashed => simp [lineOf, line?, labelOf, label?]

theorem verdict_of_label (valid : s.Valid) (plain : v ≠ .unexpectedExit)
    (letter : initial? v = initial? w) (label : labelOf s v = labelOf s w) : v = w := by
  have name {a b : String} (same : "ICE in " ++ a ++ " only" = "ICE in " ++ b ++ " only") :
      a = b := by
    have texts := congrArg String.toList same
    simp only [String.toList_append] at texts
    exact String.toList_inj.mp (List.append_cancel_left (List.append_cancel_right texts))
  cases v <;> cases w <;> first | rfl | cases letter
  · exact absurd (name label) valid.names_distinct
  · exact absurd (name label).symm valid.names_distinct

/-- A report without a detail ends with the identifier of its case. What is in front of the number
and the path is then the label. -/
theorem lineOf_plain_inj {d : Path} (valid : s.Valid) (own : r.IsOf s) (own' : t.IsOf s)
    (worthy : v ≠ .uninteresting) (worthy' : w ≠ .uninteresting) (plain : v ≠ .unexpectedExit)
    (plain' : w ≠ .unexpectedExit)
    (same : lineOf v m (d.child (Source.fileName m)) r =
      lineOf w n (d.child (Source.fileName n)) t) : m = n ∧ v = w := by
  obtain ⟨front, path⟩ := d.exists_front
  have letter : initial? v = initial? w := by rw [← head?_lineOf, same, head?_lineOf]
  rw [lineOf_plain own worthy plain, lineOf_plain own' worthy' plain', path, path] at same
  have texts := congrArg String.toList same
  simp only [String.toList_append, ← List.append_assoc] at texts
  obtain ⟨before, rfl⟩ := Source.last_of_fileName texts
  have labels := List.append_cancel_right (List.append_cancel_right (List.append_cancel_right
    (List.append_cancel_right before)))
  exact ⟨rfl, verdict_of_label valid plain letter (String.toList_inj.mp labels)⟩

/-- A detail in brackets; nothing if there is no detail. -/
def bracketed (text : String) : String :=
  if text.isEmpty then "" else " [" ++ text ++ "]"

theorem bracketed_injective {a b : String} (same : bracketed a = bracketed b) : a = b := by
  have unlike (text : String) : "" ≠ " [" ++ text ++ "]" := by
    intro empty
    have bracket : '[' ∈ (" [" ++ text ++ "]").toList := by simp
    rw [← empty] at bracket
    cases bracket
  unfold bracketed at same
  split at same
  · rename_i none
    split at same
    · rename_i none'
      rw [String.isEmpty_iff.mp none, String.isEmpty_iff.mp none']
    · exact absurd same (unlike b)
  · split at same
    · exact absurd same.symm (unlike a)
    · have texts := congrArg String.toList same
      simp only [String.toList_append] at texts
      exact String.toList_inj.mp (List.append_cancel_left (List.append_cancel_right texts))

theorem toList_lineOf_unexpected (n : Int) (p : Path) (r : DualResult) :
    (lineOf .unexpectedExit n p r).toList = "UNEXPECTED EXIT CODE (case ".toList ++
      ((numeral n).toList ++ ')' :: (": ".toList ++ p.toText.toList ++
        (bracketed (detail r)).toList)) := by
  simp [lineOf, line?, label?, bracketed]

/-- A report on unexpected exits has the identifier in front of the first bracket that closes. -/
theorem lineOf_unexpected_inj {d : Path} (valid : s.Valid) (own : r.IsOf s) (own' : t.IsOf s)
    (same : lineOf .unexpectedExit m (d.child (Source.fileName m)) r =
      lineOf .unexpectedExit n (d.child (Source.fileName n)) t) :
    m = n ∧ r.surprises = t.surprises := by
  have free (k : Int) : ')' ∉ (numeral k).toList := not_mem_numeral (by decide) (by decide) k
  have texts := congrArg String.toList same
  rw [toList_lineOf_unexpected, toList_lineOf_unexpected] at texts
  obtain ⟨number, behind⟩ := first_of_mark (free m) (free n) (List.append_cancel_left texts)
  obtain rfl := numeral_injective (String.toList_inj.mp number)
  have details := String.toList_inj.mp (List.append_cancel_left behind)
  exact ⟨rfl, surprises_of_detail valid own own' (bracketed_injective details)⟩

/-- Reports on two cases in one directory are the same just if the cases have the same identifier
and the same verdict, and the same variants have exited unexpectedly with the same codes, if the
reports are on that. -/
theorem lineOf_eq_iff {d : Path} (valid : s.Valid) (own : r.IsOf s) (own' : t.IsOf s)
    (worthy : v ≠ .uninteresting) (worthy' : w ≠ .uninteresting) :
    lineOf v m (d.child (Source.fileName m)) r = lineOf w n (d.child (Source.fileName n)) t ↔
      m = n ∧ v = w ∧ (v = .unexpectedExit → r.surprises = t.surprises) := by
  constructor
  · intro same
    have letter : initial? v = initial? w := by rw [← head?_lineOf, same, head?_lineOf]
    by_cases unexpected : v = .unexpectedExit
    · have unexpected' : w = .unexpectedExit := by
        rw [unexpected] at letter
        cases w <;> first | rfl | cases letter
      rw [unexpected, unexpected'] at same
      obtain ⟨number, surprises⟩ := lineOf_unexpected_inj valid own own' same
      exact ⟨number, unexpected.trans unexpected'.symm, fun _ => surprises⟩
    · have unexpected' : w ≠ .unexpectedExit := by
        rintro rfl
        cases v <;> first | exact unexpected rfl | cases letter
      obtain ⟨number, verdict⟩ :=
        lineOf_plain_inj valid own own' worthy worthy' unexpected unexpected' same
      exact ⟨number, verdict, fun known => absurd known unexpected⟩
  · rintro ⟨rfl, rfl, surprises⟩
    by_cases unexpected : v = .unexpectedExit
    · have details : detail r = detail t := by
        rw [detail_eq, detail_eq, surprises unexpected]
      rw [unexpected]
      refine String.toList_inj.mp ?_
      rw [toList_lineOf_unexpected, toList_lineOf_unexpected, details]
    · rw [lineOf_plain own worthy unexpected, lineOf_plain own' worthy unexpected]

end Report

/-! ## Findings of a run -/

variable {s : ExecutionSettings}

/-- Under accepted settings, whatever the variants and the scratch directory are called, a report
identifies its finding: reports on cases of the scratch directory are the same just if they say the
same. This holds of all reports that cases can get, and so of those that the calls of workers print,
in one pool or in two. -/
theorem identifies_of_accept {checked : { s : ExecutionSettings // s.Valid }}
    (accepted : s.accept = .ok checked) :
    checked.1 = s ∧
    (∀ (m n : Int) (body body' : Body) (typeCount typeCount' : Nat) (v w : Verdict)
      (r t : DualResult), r.IsOf s → t.IsOf s → v ≠ .uninteresting → w ≠ .uninteresting →
      let c := TestCase.build m body s.scratchDir typeCount
      let d := TestCase.build n body' s.scratchDir typeCount'
      (Report.lineOf v c.identifier c.path r = Report.lineOf w d.identifier d.path t ↔
        m = n ∧ v = w ∧ (v = .unexpectedExit → r.surprises = t.surprises))) ∧
    ∀ {σ τ : Type} [DrawSource σ] [DrawSource τ] (i : Iteration σ) (j : Iteration τ)
      (r t : DualResult), i.before.settings.execution = s → j.before.settings.execution = s →
      i.fate = .judged r → j.fate = .judged t →
      r.verdict ≠ .uninteresting → t.verdict ≠ .uninteresting →
      (i.before.reportOf i.turn.worker r = j.before.reportOf j.turn.worker t ↔
        i.case.identifier = j.case.identifier ∧ r.verdict = t.verdict ∧
          (r.verdict = .unexpectedExit → r.surprises = t.surprises)) := by
  have same : checked.1 = s := by
    unfold ExecutionSettings.accept at accepted
    split_ifs at accepted
    cases accepted
    rfl
  have valid : s.Valid := same ▸ checked.2
  refine ⟨same, fun m n _ _ _ _ v w r t own own' worthy worthy' =>
    Report.lineOf_eq_iff valid own own' worthy worthy', ?_⟩
  intro σ τ _ _ i j r t given given' judged judged' worthy worthy'
  have own : r.IsOf s := by
    obtain ⟨baseline, candidate⟩ := Pool.variants_of_judged judged
    exact ⟨given ▸ baseline, given ▸ candidate⟩
  have own' : t.IsOf s := by
    obtain ⟨baseline, candidate⟩ := Pool.variants_of_judged judged'
    exact ⟨given' ▸ baseline, given' ▸ candidate⟩
  unfold Pool.reportOf
  rw [Pool.caseOf_path, Pool.caseOf_path, given, given']
  exact Report.lineOf_eq_iff valid own own' worthy worthy'

/-- Settings whose names are parts of reports. -/
def ExecutionSettings.reportLike : ExecutionSettings where
  baseline := ⟨"c exited 7, c", "+nightly"⟩
  candidate := ⟨"c", "+stage1"⟩
  scratchDir := ⟨.root, ["d only (case 5): "]⟩

/-- Results under these settings, with the given exit codes. -/
def DualResult.reportLike (baseline candidate : Int) : DualResult :=
  ⟨ExecutionSettings.reportLike.resultOf ExecutionSettings.reportLike.baseline (some baseline),
    ExecutionSettings.reportLike.resultOf ExecutionSettings.reportLike.candidate (some candidate)⟩

/-- Where a baseline is named like the entry of a candidate, what it has exited with is still told
apart from what both have. -/
theorem identifies_reportLike :
    ExecutionSettings.reportLike.accept = .ok ⟨.reportLike, ⟨by decide, by decide⟩⟩ ∧
      (DualResult.reportLike 8 0).IsOf .reportLike ∧ (DualResult.reportLike 7 8).IsOf .reportLike ∧
      Report.lineOf .unexpectedExit 5
          (TestCase.build 5 ⟨[], []⟩ ExecutionSettings.reportLike.scratchDir 1).path
          (.reportLike 8 0) ≠
        Report.lineOf .unexpectedExit 5
          (TestCase.build 5 ⟨[1], []⟩ ExecutionSettings.reportLike.scratchDir 1).path
          (.reportLike 7 8) := by
  have accepted :
      ExecutionSettings.reportLike.accept = .ok ⟨.reportLike, ⟨by decide, by decide⟩⟩ := rfl
  obtain ⟨_, reports, _⟩ := identifies_of_accept accepted
  have told := reports 5 5 ⟨[], []⟩ ⟨[1], []⟩ 1 1 .unexpectedExit .unexpectedExit
    (.reportLike 8 0) (.reportLike 7 8) ⟨rfl, rfl⟩ ⟨rfl, rfl⟩ (by decide) (by decide)
  refine ⟨accepted, ⟨rfl, rfl⟩, ⟨rfl, rfl⟩, fun same => ?_⟩
  obtain ⟨_, _, surprises⟩ := told.mp same
  exact absurd (surprises rfl) (by decide)

end CrashDiff
