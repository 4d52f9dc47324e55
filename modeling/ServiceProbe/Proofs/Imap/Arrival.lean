import ServiceProbe.Proofs.Imap.Deadline

/-!
One line after the other. How the bytes of a peer arrive makes no difference to the
lines that are read: which they are, where they end and why there are no more is
told from the content alone. A line is collected in looks for bytes; before each of
them what is held of the line and what is still to come make up the content, and a
line that is too long is given up before more is read.
-/

namespace ServiceProbe.Imap

open Channel (lineTooLong closedByServer)
open Text

/-! ### The end of a content -/

/-- What stands after the last line feed of a content. -/
def unterminated (content : Bytes) : Bytes :=
  (content.splitOn lineFeed).getLast (List.splitOn_ne_nil _ _)

/-- Why there is no line after the last one: a piece of the content is too long, with
a line feed or without one, or else the content is over. -/
def linesEnd (content : Bytes) : ProbeError :=
  if ∀ piece ∈ terminatedLines content ++ [unterminated content], piece.length ≤ 65536 then
    .protocol "connection closed by server"
  else .protocol "server line exceeds 65536 bytes"

theorem unterminated_of_not_mem {content : Bytes} (h : lineFeed ∉ content) :
    unterminated content = content := by
  simp only [unterminated, List.splitOn_eq_singleton h, List.getLast_singleton]

theorem unterminated_append {line : Bytes} (h : lineFeed ∉ line) (rest : Bytes) :
    unterminated (line ++ lineFeed :: rest) = unterminated rest := by
  simp only [unterminated, List.splitOn_append_cons_self_of_not_mem h,
    List.getLast_cons (List.splitOn_ne_nil _ _)]

/-- The lines and what stands after them are the whole content. -/
theorem flatten_terminatedLines (content : Bytes) :
    (terminatedLines content).flatten ++ unterminated content = content := by
  induction hlength : content.length using Nat.strong_induction_on generalizing content with
  | _ n ih =>
    rcases not_mem_or_eq_append content with h | ⟨line, rest, h, rfl⟩
    · rw [terminatedLines_of_not_mem h, unterminated_of_not_mem h]
      rfl
    · have hshorter : rest.length < n := by
        rw [← hlength, List.length_append, List.length_cons]
        omega
      rw [terminatedLines_append h, unterminated_append h, List.flatten_cons, List.append_assoc,
        ih rest.length hshorter rest rfl, List.append_assoc, List.singleton_append]

/-- A first line is the first of the lines, and all else is told from what follows it. -/
theorem terminatedLines_of_firstLine {content line rest : Bytes}
    (h : firstLine content = .ok (line, rest)) :
    terminatedLines content = line :: terminatedLines rest ∧
      unterminated content = unterminated rest ∧ linesEnd content = linesEnd rest := by
  rcases not_mem_or_eq_append content with hmem | ⟨line', rest', hmem, rfl⟩
  · rw [firstLine_of_not_mem hmem] at h
    split at h <;> contradiction
  · rw [firstLine_append hmem] at h
    split at h
    · contradiction
    · next hfits =>
      cases h
      have hlength : (line' ++ [lineFeed]).length ≤ 65536 := by
        simpa [maxLineLength] using hfits
      refine ⟨terminatedLines_append hmem rest, unterminated_append hmem rest, ?_⟩
      simp only [linesEnd, terminatedLines_append hmem, unterminated_append hmem,
        List.cons_append, List.forall_mem_cons, hlength, true_and]

theorem linesEnd_of_firstLine_error {content : Bytes} {e : ProbeError}
    (h : firstLine content = .error e) : linesEnd content = e := by
  rcases not_mem_or_eq_append content with hmem | ⟨line, rest, hmem, rfl⟩
  · rw [firstLine_of_not_mem hmem] at h
    simp only [linesEnd, terminatedLines_of_not_mem hmem, unterminated_of_not_mem hmem,
      List.nil_append, List.forall_mem_singleton]
    split at h
    · next hlong =>
      cases h
      exact if_neg (Nat.not_le.2 hlong)
    · next hfits =>
      cases h
      exact if_pos (Nat.not_lt.1 hfits)
  · rw [firstLine_append hmem] at h
    split at h
    · next hlong =>
      cases h
      refine if_neg fun hfit => ?_
      have hline := hfit (line ++ [lineFeed]) (by simp [terminatedLines_append hmem])
      rw [List.length_append, List.length_singleton] at hline
      exact absurd hlong (Nat.not_lt.2 hline)
    · contradiction

namespace Channel

variable {c d : Channel} {content line : Bytes}

/-! ### One look for bytes -/

/-- How a look for bytes ends: the line is done, or it goes on. -/
inductive Look where
  | done (outcome : Except ProbeError Bytes × Channel)
  | more (line : Bytes) (c : Channel)

/-- One look, after bytes of the same line that were read before. -/
def look (line : Bytes) (c : Channel) : Look :=
  match c.arm with
  | (.error e, armed) => .done (.error e, armed)
  | (.ok (), armed) =>
    match armed.available with
    | (.error e, d) => .done (.error (.ofIo e d.deadline.budget), d)
    | (.ok [], d) => .done (.error closedByServer, d)
    | (.ok (byte :: bytes), d) =>
      match (byte :: bytes).dropWhile (· != lineFeed) with
      | [] =>
        let line := line ++ byte :: bytes
        if maxLineLength < line.length then .done (.error lineTooLong, d) else .more line d
      | _ :: rest =>
        let line := line ++ (byte :: bytes).takeWhile (· != lineFeed) ++ [lineFeed]
        let d := { d with buffer := rest }
        if maxLineLength < line.length then .done (.error lineTooLong, d) else .done (.ok line, d)

/-- One look after the other is all that is done for a line. -/
theorem collect_eq_look (line : Bytes) (c : Channel) :
    c.collect line =
      match c.look line with
      | .done outcome => outcome
      | .more line d => d.collect line := by
  rw [collect_eq, look]
  rcases c.arm with ⟨e | u, armed⟩
  · rfl
  · dsimp only
    rcases armed.available with ⟨e | _ | ⟨byte, bytes⟩, d⟩
    · rfl
    · rfl
    · dsimp only
      cases (byte :: bytes).dropWhile (· != lineFeed) <;> dsimp only <;> split <;> rfl

/-- A look after which the line goes on has taken all the bytes it found, and they
were not too many. -/
theorem look_eq_more {line' : Bytes} (h : c.look line = .more line' d) :
    ∃ armed bytes, c.arm = (.ok (), armed) ∧ armed.available = (.ok bytes, d) ∧ bytes ≠ [] ∧
      line' = line ++ bytes ∧ line'.length ≤ maxLineLength := by
  unfold look at h
  rcases harm : c.arm with ⟨e | u, armed⟩ <;> rw [harm] at h
  · contradiction
  · dsimp only at h
    rcases hread : armed.available with ⟨e | _ | ⟨byte, bytes⟩, f⟩ <;> rw [hread] at h
    · contradiction
    · contradiction
    · dsimp only at h
      split at h <;> split at h
      · contradiction
      · next hfits =>
        cases h
        exact ⟨armed, byte :: bytes, rfl, hread, by simp, rfl, Nat.not_lt.1 hfits⟩
      · contradiction
      · contradiction

theorem volume_look {line' : Bytes} (h : c.look line = .more line' d) : d.volume < c.volume := by
  obtain ⟨armed, bytes, harm, hread, hbytes, -, -⟩ := look_eq_more h
  have hvolume := volume_available hread
  have harmed : armed.volume = c.volume := by rw [← volume_arm c, harm]
  have := List.length_pos_iff.2 hbytes
  omega

/-- The bytes of a look that goes on are the next ones of the content. -/
theorem delivers_look {line' : Bytes} (h : c.Delivers content)
    (hlook : c.look line = .more line' d) :
    ∃ bytes rest, line' = line ++ bytes ∧ content = bytes ++ rest ∧ d.Delivers rest := by
  obtain ⟨armed, bytes, harm, hread, hbytes, hline, -⟩ := look_eq_more hlook
  have hnext := delivers_wait h harm hread
  cases bytes with
  | nil => contradiction
  | cons byte bytes =>
    obtain ⟨rest, hcontent, hrest, -⟩ := hnext
    exact ⟨byte :: bytes, rest, hline, hcontent, hrest⟩

/-! ### One line -/

/-- On the way through a line that is read from the channel on: what is held of it
before a look for bytes, and the channel then. -/
inductive Gathers (c : Channel) : Bytes → Channel → Prop where
  | start : Gathers c [] c
  | again {line line' : Bytes} {d e : Channel} (h : Gathers c line d)
      (hlook : d.look line = .more line' e) : Gathers c line' e

/-- The last look decides. -/
theorem Gathers.last_look (h : c.Gathers line d) :
    ∃ line' d', c.Gathers line' d' ∧ d'.look line' = .done (d.collect line) := by
  induction hvolume : d.volume using Nat.strong_induction_on generalizing line d with
  | _ n ih =>
    rw [collect_eq_look]
    cases hlook : d.look line with
    | done outcome => exact ⟨line, d, h, hlook⟩
    | more line' e => exact ih e.volume (hvolume ▸ volume_look hlook) (h.again hlook) rfl

/-- Nothing that is held is too long for a line. -/
theorem Gathers.length_le (h : c.Gathers line d) : line.length ≤ maxLineLength := by
  cases h with
  | start => simp
  | again _ hlook =>
    obtain ⟨-, -, -, -, -, -, hfits⟩ := look_eq_more hlook
    exact hfits

/-- What is held and what is still to come are the content. -/
theorem Gathers.delivers (h : c.Gathers line d) (hcontent : c.Delivers content) :
    ∃ rest, d.Delivers rest ∧ content = line ++ rest := by
  induction h with
  | start => exact ⟨content, hcontent, rfl⟩
  | again _ hlook ih =>
    obtain ⟨rest, hrest, rfl⟩ := ih
    obtain ⟨bytes, rest', rfl, rfl, hrest'⟩ := delivers_look hrest hlook
    exact ⟨rest', hrest', by rw [List.append_assoc]⟩

/-- With time left, the first line of the content is read or its fault is found. -/
theorem readLine_cases (h : c.Delivers content)
    (hopen : c.readLine.2.clock.nanos < c.deadline.expiry.nanos) :
    (∃ line rest, firstLine content = .ok (line, rest) ∧ c.readLine.1 = .ok (textOf line) ∧
      c.readLine.2.Delivers rest) ∨
    ∃ e, firstLine content = .error e ∧ c.readLine.1 = .error e := by
  have hreads := readLine_reads h
  rcases hread : c.readLine with ⟨e | text, d⟩ <;> rw [hread] at hreads hopen
  · cases hreads with
    | expired _ passed => exact absurd hopen (Nat.not_lt.2 passed)
    | @failed reason _ hfails => exact .inr ⟨.protocol reason, hfails, rfl⟩
  · cases hreads with
    | given hgives delivers =>
      obtain ⟨line, hfirst, rfl⟩ := hgives
      exact .inl ⟨line, _, hfirst, rfl, delivers⟩

/-- Where a line is not read because the peer has closed, nothing is left. -/
theorem delivers_nil_of_closed (h : c.Delivers content)
    (hclosed : c.readLine.1 = .error closedByServer) (hlast : c.ClosesLast) :
    c.readLine.2.Delivers [] := by
  have hreads := readLine_reads h
  rcases hread : c.readLine with ⟨e | text, d⟩ <;> rw [hread] at hreads hclosed
  · cases hreads with
    | expired => cases hclosed
    | failed _ nothing => exact nothing (Except.error.inj hclosed) hlast
  · cases hclosed

/-! ### One line after the other -/

/-- The channel after a line was asked for that many times. -/
def afterLines (k : Nat) (c : Channel) : Channel :=
  (fun d => d.readLine.2)^[k] c

theorem kept_later (c : Channel) : Kept c.Later fun _ => True where
  arm h := h.trans (later_arm _)
  expired _ _ := trivial
  read h harm := (h.trans (later_of_arm harm)).trans (later_available _)
  rest _ h := ⟨h.deadline_eq, h.clock_le, h.reads_suffix, h.writes_suffix, h.flushes_suffix⟩
  write bytes h harm := (h.trans (later_of_arm harm)).trans (later_send _ bytes)
  io _ _ := trivial
  protocol _ := trivial

theorem later_readLine (c : Channel) : c.Later c.readLine.2 :=
  ((kept_later c).readLine_keeps (.refl c)).1

theorem later_afterLines (k : Nat) (c : Channel) : c.Later (c.afterLines k) := by
  induction k generalizing c with
  | zero => exact .refl c
  | succ k ih => exact (later_readLine c).trans (ih c.readLine.2)

/-- The lines of the content are read in turn. Each leaves what comes after it, and
after the last one it is said why there are no more. -/
theorem delivers_afterLines {k : Nat} (h : c.Delivers content)
    (hk : k ≤ (serverLines content).length)
    (hopen : (c.afterLines (k + 1)).clock.nanos < c.deadline.expiry.nanos) :
    (c.afterLines k).Delivers
        (((terminatedLines content).drop k).flatten ++ unterminated content) ∧
      (c.afterLines k).readLine.1 =
        match (serverLines content)[k]? with
        | some text => .ok text
        | none => .error (linesEnd content) := by
  induction k generalizing c content with
  | zero =>
    refine ⟨by rwa [List.drop_zero, flatten_terminatedLines], ?_⟩
    rcases readLine_cases h hopen with ⟨line, rest, hfirst, hread, -⟩ | ⟨e, hfirst, hread⟩
    · rw [serverLines_of_firstLine hfirst]
      exact hread
    · rw [serverLines_of_firstLine_error hfirst, linesEnd_of_firstLine_error hfirst]
      exact hread
  | succ k ih =>
    have hlater : c.readLine.2.Later (c.afterLines (k + 2)) := later_afterLines (k + 1) _
    rcases readLine_cases h (lt_of_le_of_lt hlater.clock_le hopen) with
      ⟨line, rest, hfirst, -, hrest⟩ | ⟨e, hfirst, -⟩
    · have hlines := serverLines_of_firstLine hfirst
      obtain ⟨hterminated, hunterminated, hend⟩ := terminatedLines_of_firstLine hfirst
      rw [hlines, List.length_cons, Nat.add_le_add_iff_right] at hk
      rw [← (later_readLine c).deadline_eq] at hopen
      have hnext := ih hrest hk hopen
      rw [hlines, hterminated, hunterminated, hend]
      exact hnext
    · rw [serverLines_of_firstLine_error hfirst] at hk
      contradiction

/-- How the bytes of a peer arrive makes no difference to the lines that are read, as
long as there is time. When `k` lines have been read, what comes after them is left: no
byte of it is lost and none is read twice. The next line is collected in looks for
bytes, the last of which decides; what is held before each of them is short enough for
a line, and together with what is still to come it is all that was left. The call gives
the next line of the content, or else why there is none; if the peer has closed, the
rest without a line feed is dropped. -/
theorem readLine_afterLines {k : Nat} (h : c.Delivers content)
    (hk : k ≤ (serverLines content).length)
    (hopen : (c.afterLines (k + 1)).clock.nanos < c.deadline.expiry.nanos) :
    let before := c.afterLines k
    let left := ((terminatedLines content).drop k).flatten ++ unterminated content
    before.Delivers left ∧
      (∀ line d, before.Gathers line d →
        line.length ≤ 65536 ∧ ∃ rest, d.Delivers rest ∧ left = line ++ rest) ∧
      (∃ line d, before.Gathers line d ∧ d.look line = .done (before.collect [])) ∧
      (before.readLine.1 =
        match (serverLines content)[k]? with
        | some text => .ok text
        | none => .error (linesEnd content)) ∧
      (before.readLine.1 = .error (.protocol "connection closed by server") → c.ClosesLast →
        (c.afterLines (k + 1)).Delivers []) := by
  intro before left
  obtain ⟨hdelivers, hread⟩ := delivers_afterLines h hk hopen
  have hgathers (line : Bytes) (d : Channel) (hline : before.Gathers line d) :
      line.length ≤ 65536 ∧ ∃ rest, d.Delivers rest ∧ left = line ++ rest :=
    ⟨hline.length_le, hline.delivers hdelivers⟩
  refine ⟨hdelivers, hgathers, Gathers.start.last_look, hread, fun hclosed hlast => ?_⟩
  rw [afterLines, Function.iterate_succ_apply']
  exact delivers_nil_of_closed hdelivers hclosed (hlast.later (later_afterLines k c))

/-- A line feed that begins a read, one that ends one, two lines in one read, and a
byte that begins no character. The peer takes its time, and what it sends last is no
line. -/
theorem readLine_afterLines_of_pieces :
    let pieces := [encode "* OK hi\r".toList, encode "\na1 OK\n\r\na2 ".toList,
      [0xFF] ++ encode " OK\r\r\n".toList, encode "a3 O".toList]
    let c : Channel := .ofStream ⟨pieces.map fun piece => ⟨0, 1, .ok piece⟩, [], [none]⟩
      ⟨⟨9⟩, ⟨9⟩⟩ ⟨0⟩
    c.Delivers pieces.flatten ∧ c.ClosesLast ∧ (serverLines pieces.flatten).length = 4 ∧
      (c.afterLines 5).clock.nanos < 9 ∧
      c.readLine.1 = .ok "* OK hi".toList ∧
      (c.afterLines 2).Delivers
        (encode "\r\na2 ".toList ++ [0xFF] ++ encode " OK\r\r\na3 O".toList) ∧
      (c.afterLines 2).readLine.1 = .ok [] ∧
      (c.afterLines 3).readLine.1 = .ok "a2 \uFFFD OK".toList ∧
      (c.afterLines 4).Delivers (encode "a3 O".toList) ∧
      (c.afterLines 4).readLine.1 = .error (.protocol "connection closed by server") ∧
      (c.afterLines 5).Delivers [] := by
  intro pieces c
  have hdelivers : c.Delivers pieces.flatten :=
    ⟨⟨pieces.flatten, .of_pieces (by decide), rfl⟩, by simp [c, ofStream]⟩
  have hlast : c.ClosesLast := by
    have hne : ∀ piece ∈ pieces, piece ≠ [] := by decide
    simpa [ClosesLast, c, ofStream] using hne
  have hlines : serverLines pieces.flatten =
      ["* OK hi", "a1 OK", "", "a2 \uFFFD OK"].map String.toList := by decide
  have htime : ∀ k ≤ 5, (c.afterLines k).clock.nanos < 9 := by decide +kernel
  have hlength : (serverLines pieces.flatten).length = 4 := by rw [hlines]; rfl
  obtain ⟨-, -, -, hfirst, -⟩ := readLine_afterLines (k := 0) hdelivers (by omega)
    (htime _ (by decide))
  obtain ⟨hleft, -, -, hthird, -⟩ := readLine_afterLines (k := 2) hdelivers (by omega)
    (htime _ (by decide))
  obtain ⟨-, -, -, hfourth, -⟩ := readLine_afterLines (k := 3) hdelivers (by omega)
    (htime _ (by decide))
  obtain ⟨hrest, -, -, hend, hdropped⟩ := readLine_afterLines (k := 4) hdelivers (by omega)
    (htime _ le_rfl)
  rw [hlines] at hfirst hthird hfourth hend
  have hclosed : (c.afterLines 4).readLine.1 = .error (.protocol "connection closed by server") :=
    hend.trans (by decide)
  exact ⟨hdelivers, hlast, hlength, htime 5 le_rfl, hfirst, hleft, hthird, hfourth, hrest, hclosed,
    hdropped hclosed hlast⟩

end Channel

end ServiceProbe.Imap
