import ServiceProbe.Proofs.Source.Readings

/-!
Which line an error is about. Every result of a source comes from one of its lines,
and the results before it from the lines before. The number in an error counts the
lines up to its own that are UTF-8: it is the place of the line as long as all lines
before it can be read, and falls behind by one with each that cannot.
-/

namespace ServiceProbe

open Text

/-- The line is UTF-8. -/
def isText (line : Bytes) : Bool := (decode? line).isSome

/-- The line is at fault in this way, whatever its number. -/
def Registry.HasFault (registry : Registry) (line : Bytes) (fault : LineFault) : Prop :=
  ∃ text, decode? line = some text ∧ ∀ number,
    (Parser.fresh.parseLine registry (String.ofList text) number).1 =
      .error (.inLine number fault)

namespace Parser

variable {registry : Registry} {source : String} {number : Nat} {line : Bytes}

/-! ### One line -/

/-- A line is counted if it is UTF-8, whatever it yields. -/
theorem yielded_snd (registry : Registry) (source : String) (number : Nat) (line : Bytes) :
    (yielded registry source number line).2 = number + [line].countP isText := by
  cases hdecode : decode? line with
  | none => simp [yielded_of_decode?_eq_none hdecode, isText, hdecode]
  | some text => simp [yielded_of_decode? hdecode, isText, hdecode]

/-- What a line says does not depend on its number, which only shows in its fault. -/
theorem parseLine_fst_eq_error_iff {line : String} {e : ParseError} :
    (fresh.parseLine registry line number).1 = .error e ↔
      ∃ fault, e = .inLine number fault ∧
        lineResult (fun protocol => (fresh.schema registry protocol).1) (trim line.toList) =
          .error fault := by
  rw [parseLine_fst]
  cases lineResult (fun protocol => (fresh.schema registry protocol).1) (trim line.toList) with
  | ok result => simp [Except.mapError]
  | error fault => simp [Except.mapError, eq_comm]

theorem hasFault_iff {fault : LineFault} :
    registry.HasFault line fault ↔
      ∃ text, decode? line = some text ∧
        lineResult (fun protocol => (fresh.schema registry protocol).1) (trim text) =
          .error fault := by
  simp only [Registry.HasFault, parseLine_fst_eq_error_iff, ParseError.inLine.injEq, true_and,
    exists_eq_left', String.toList_ofList, forall_const]

theorem yielded_eq_inLine_iff {k : Nat} {fault : LineFault} :
    (yielded registry source number line).1 = some (.error (.inLine k fault)) ↔
      k = number + 1 ∧ registry.HasFault line fault := by
  rw [hasFault_iff]
  cases hdecode : decode? line with
  | none => simp [yielded_of_decode?_eq_none hdecode]
  | some text =>
    rw [yielded_of_decode? hdecode, parseLine_fst, String.toList_ofList]
    cases hresult : lineResult (fun protocol => (fresh.schema registry protocol).1) (trim text) with
    | ok result => cases result <;> simp [Except.mapError, hresult]
    | error e =>
      simp [Except.mapError, hresult, eq_comm]

/-! ### The line of a result -/

/-- A parser that has read lines before yields what a fresh one does. -/
theorem tests_after (registry : Registry) (history : List String) (content : Bytes)
    (source : String) :
    ((fresh.after registry history).tests registry content source).1 =
      (fresh.testsFrom registry source 0 (splitLines content)).1 :=
  testsFrom_eq_of_current (current_fresh_after registry history) (current_fresh registry) ..

theorem testsFrom_lines_append (earlier later : List Bytes) :
    (fresh.testsFrom registry source number (earlier ++ later)).1 =
      (fresh.testsFrom registry source number earlier).1 ++
        (fresh.testsFrom registry source (number + earlier.countP isText) later).1 := by
  induction earlier generalizing number with
  | nil => rfl
  | cons line earlier ih =>
    have hcount : (line :: earlier).countP isText =
        [line].countP isText + earlier.countP isText := by
      rw [← List.countP_append, List.singleton_append]
    rw [List.cons_append, testsFrom_cons, testsFrom_cons, yielded_snd, ih, List.append_assoc,
      hcount, Nat.add_assoc]

/-- Each result comes from a line, and those before it from the lines before. -/
theorem exists_line_of_testsFrom_eq {lines : List Bytes} {result : Except ParseError Test}
    {before after : List (Except ParseError Test)}
    (h : (fresh.testsFrom registry source number lines).1 = before ++ result :: after) :
    ∃ earlier line later, lines = earlier ++ line :: later ∧
      before = (fresh.testsFrom registry source number earlier).1 ∧
      (yielded registry source (number + earlier.countP isText) line).1 = some result := by
  induction lines generalizing number before with
  | nil => simp [testsFrom] at h
  | cons line lines ih =>
    rw [testsFrom_cons, yielded_snd] at h
    -- what this line yields is the result, or it stands before the result
    have hsplit : ((yielded registry source number line).1 = some result ∧ before = []) ∨
        ∃ others, before = (yielded registry source number line).1.toList ++ others ∧
          (fresh.testsFrom registry source (number + [line].countP isText) lines).1 =
            others ++ result :: after := by
      cases hyielded : (yielded registry source number line).1 with
      | none =>
        rw [hyielded] at h
        exact .inr ⟨before, rfl, h⟩
      | some first =>
        rw [hyielded] at h
        cases before with
        | nil => exact .inl ⟨congrArg some (List.cons.inj h).1, rfl⟩
        | cons head others =>
          obtain ⟨rfl, hrest⟩ := List.cons.inj h
          exact .inr ⟨others, rfl, hrest⟩
    rcases hsplit with ⟨hresult, rfl⟩ | ⟨others, rfl, hrest⟩
    · exact ⟨[], line, lines, rfl, rfl, hresult⟩
    · obtain ⟨earlier, other, later, rfl, rfl, hresult⟩ := ih hrest
      refine ⟨line :: earlier, other, later, rfl, ?_, ?_⟩
      · rw [testsFrom_cons, yielded_snd]
      · rwa [← List.singleton_append, List.countP_append, ← Nat.add_assoc]

/-- An error about a line carries the number of lines up to it that are UTF-8. The
results before it are those of the lines before, and the results after it those of
the lines after, which are counted on from there. So the number falls short of the
line's place by one for each line before that is not UTF-8, and is the place exactly
if there is none. -/
theorem number_of_error (registry : Registry) (history : List String) (content : Bytes)
    (source : String) {before after : List (Except ParseError Test)} {k : Nat}
    {fault : LineFault}
    (h : ((fresh.after registry history).tests registry content source).1 =
      before ++ .error (.inLine k fault) :: after) :
    ∃ earlier line later, splitLines content = earlier ++ line :: later ∧
      registry.HasFault line fault ∧
      before = (fresh.testsFrom registry source 0 earlier).1 ∧
      after = (fresh.testsFrom registry source k later).1 ∧
      k + earlier.countP (!isText ·) = earlier.length + 1 ∧
      (k = earlier.length + 1 ↔ ∀ other ∈ earlier, isText other = true) := by
  rw [tests_after] at h
  obtain ⟨earlier, line, later, hlines, hbefore, hline⟩ := exists_line_of_testsFrom_eq h
  obtain ⟨hnumber, hfault⟩ := yielded_eq_inLine_iff.1 hline
  have hcount : earlier.countP isText + earlier.countP (!isText ·) = earlier.length := by
    simpa using (List.length_eq_countP_add_countP isText (l := earlier)).symm
  refine ⟨earlier, line, later, hlines, hfault, hbefore, ?_, by omega, ?_⟩
  · have hcounted : [line].countP isText = 1 := by
      obtain ⟨text, hdecode, -⟩ := hfault
      simp [isText, hdecode]
    rw [hlines, testsFrom_lines_append, testsFrom_cons, hline, yielded_snd, hcounted,
      Option.toList_some, ← hnumber, hbefore] at h
    exact (List.cons.inj (List.append_cancel_left h)).2.symm
  · rw [← List.countP_eq_length]
    omega

theorem number_of_error_past_unreadable_line :
    let content : Bytes :=
      encode "#\n".toList ++ [0xFF, lineFeed] ++ encode "lost".toList
    let results : List (Except ParseError Test) := [.error (.read "f" .notUtf8)]
    let fault := LineFault.malformedHeader "lost"
    ((fresh.after Registry.empty []).tests Registry.empty content "f").1 =
        results ++ .error (.inLine 2 fault) :: [] ∧
      ∃ earlier line later, splitLines content = earlier ++ line :: later ∧
        Registry.empty.HasFault line fault ∧
        results = (fresh.testsFrom Registry.empty "f" 0 earlier).1 ∧
        [] = (fresh.testsFrom Registry.empty "f" 2 later).1 ∧
        2 + earlier.countP (!isText ·) = earlier.length + 1 ∧
        (2 = earlier.length + 1 ↔ ∀ other ∈ earlier, isText other = true) := by
  intro content results fault
  have hresults : ((fresh.after Registry.empty []).tests Registry.empty content "f").1 =
      results ++ .error (.inLine 2 fault) :: [] := by cbv
  exact ⟨hresults, number_of_error Registry.empty [] content "f" hresults⟩

/-- The second of two lines is said to be the first, with which nothing is wrong but
that it cannot be read. -/
theorem number_falls_behind :
    let content : Bytes := [0xFF, lineFeed] ++ encode "lost".toList
    let fault := LineFault.malformedHeader "lost"
    (fresh.tests Registry.empty content "f").1 =
        [.error (.read "f" .notUtf8), .error (.inLine 1 fault)] ∧
      splitLines content = [[0xFF], encode "lost".toList] ∧
      (∀ fault, ¬ Registry.empty.HasFault [0xFF] fault) ∧
      Registry.empty.HasFault (encode "lost".toList) fault := by
  intro content fault
  have hresults : (fresh.tests Registry.empty content "f").1 =
      [.error (.read "f" .notUtf8), .error (.inLine 1 fault)] := by cbv
  have hlines : splitLines content = [[0xFF], encode "lost".toList] := by cbv
  refine ⟨hresults, hlines, ?_, ?_⟩
  · rintro fault ⟨text, hdecode, -⟩
    have hnone : decode? [0xFF] = none := by cbv
    rw [hnone] at hdecode
    contradiction
  · rw [hasFault_iff]
    refine ⟨"lost".toList, decode?_encode _, ?_⟩
    cbv

end Parser

end ServiceProbe
