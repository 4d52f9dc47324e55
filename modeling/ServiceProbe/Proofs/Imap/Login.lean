import ServiceProbe.Probe.Builtin
import ServiceProbe.Proofs.Imap.Sent
import ServiceProbe.Proofs.Parser.Arguments
import ServiceProbe.Proofs.Source.Lines

/-!
The line of a login. A user name and a password are read out of their quotes as
they were put in, with what follows them left as it is, so neither can end the
command early or add a word to it. Quotes do not keep a line feed from ending
the line, but the credentials of a test that was read from a line hold none.
-/

namespace ServiceProbe.Imap

open Text

/-! ### Quoted strings -/

/-- The given character after a backslash, everywhere in a text. -/
def escape (special : Char) (s : List Char) : List Char :=
  s.flatMap fun c => if c = special then ['\\', c] else [c]

/-- The two kinds of characters can be escaped one after the other, as long as
the backslashes come first. -/
theorem toList_quote (s : String) :
    (quote s).toList = '"' :: escape '"' (escape '\\' s.toList) ++ ['"'] := by
  have hchar (c : Char) : escape '"' (escape '\\' [c]) = quoteChar c := by
    by_cases hbackslash : c = '\\'
    · subst hbackslash
      decide
    · by_cases hquote : c = '"' <;> simp [escape, quoteChar, hbackslash, hquote]
  have hall : escape '"' (escape '\\' s.toList) = s.toList.flatMap quoteChar := by
    rw [← funext hchar]
    simp [escape, List.flatMap_assoc]
  rw [hall, quote, String.toList_ofList]

theorem unquoteFrom_quoteChar (seen : List Char) (c : Char) (rest : List Char) :
    unquoteFrom seen (quoteChar c ++ rest) = unquoteFrom (c :: seen) rest := by
  unfold quoteChar
  split
  · next hspecial =>
    rw [List.cons_append, List.singleton_append, unquoteFrom]
  · next hplain =>
    rw [not_or] at hplain
    rw [List.singleton_append, unquoteFrom]
    · exact hplain.2
    · rintro d rest' rfl -
      exact hplain.1 rfl
    · rintro rfl -
      exact hplain.1 rfl

/-- The first double quote without a backslash is the one at the end. -/
theorem unquoteFrom_quoted (seen s rest : List Char) :
    unquoteFrom seen (s.flatMap quoteChar ++ '"' :: rest) = some (seen.reverse ++ s, rest) := by
  induction s generalizing seen with
  | nil => rw [List.flatMap_nil, List.nil_append, unquoteFrom, List.append_nil]
  | cons c s ih =>
    rw [List.flatMap_cons, List.append_assoc, unquoteFrom_quoteChar, ih, List.reverse_cons,
      List.append_assoc, List.singleton_append]

theorem unquote?_quote (s : String) (rest : List Char) :
    unquote? ((quote s).toList ++ rest) = some (s.toList, rest) := by
  have hquoted : (quote s).toList ++ rest = '"' :: (s.toList.flatMap quoteChar ++ '"' :: rest) := by
    simp [quote]
  rw [hquoted, unquote?, unquoteFrom_quoted]
  rfl

/-! ### The command -/

/-- Reads a login with the given tag: the user name, the password and what
follows them. -/
def readLogin? (tag : String) (line : List Char) :
    Option (List Char × List Char × List Char) := do
  let rest ← Line.dropPrefix? (tag ++ " LOGIN ").toList line
  let (username, rest) ← unquote? rest
  let rest ← Line.dropPrefix? " ".toList rest
  let (password, rest) ← unquote? rest
  return (username, password, rest)

theorem readLogin?_login (tag username password : String) (rest : List Char) :
    readLogin? tag
      ((tag ++ " LOGIN " ++ quote username ++ " " ++ quote password).toList ++ rest) =
        some (username.toList, password.toList, rest) := by
  have hdrop (word s : List Char) : Line.dropPrefix? word (word ++ s) = some s :=
    Line.dropPrefix?_eq_some_iff.2 rfl
  simp only [readLogin?, String.toList_append, List.append_assoc]
  rw [← List.append_assoc tag.toList, hdrop, Option.bind_eq_bind, Option.bind_some, unquote?_quote,
    Option.bind_eq_bind, Option.bind_some, hdrop, Option.bind_some, unquote?_quote]
  rfl

/-- What is quoted holds a line feed only if the text does. -/
theorem newline_mem_quote {s : String} : '\n' ∈ (quote s).toList ↔ '\n' ∈ s.toList := by
  have hchar (c : Char) : '\n' ∈ quoteChar c ↔ '\n' = c := by
    unfold quoteChar
    split <;> simp
  simp [quote, List.mem_flatMap, hchar]

/-- The credentials of a test that was read from a line stand on one line. -/
theorem newline_not_mem_of_credentialsOf {parser : Parser} {registry : Registry}
    {text : String} {number : Nat} {test : Test} {username password : String}
    (h : (parser.parseLine registry text number).1 = .ok (some test))
    (hcredentials : credentialsOf test = some (username, password)) :
    '\n' ∉ username.toList ∧ '\n' ∉ password.toList := by
  obtain ⟨d, hd, -, hnames, rfl⟩ := Parser.sentence_of_parseLine h
  rw [credentialsOf] at hcredentials
  split at hcredentials
  · contradiction
  · cases hcredentials
    exact ⟨hd.newline_not_mem_argument hnames _, hd.newline_not_mem_argument hnames _⟩

/-- The first command of a conversation is one line that gives back both
credentials, and for those that a line of a test file gave it is a single line
of bytes. -/
theorem login_line (channel : Channel) (username password : String) :
    let greeted := (Session.start channel).greet.2
    let line := ("a1 LOGIN " ++ quote username ++ " " ++ quote password ++ "\r\n").toList
    let outcome := greeted.login username password
    (∃ part, part <+: encode line ∧ outcome.2.channel.sent = channel.sent ++ part ∧
      (greeted.channel.Takes (encode line) ∨ outcome.1 = .ok () → part = encode line)) ∧
    readLogin? "a1" line = some (username.toList, password.toList, "\r\n".toList) ∧
    ∀ (parser : Parser) (registry : Registry) (text : String) (number : Nat) (test : Test),
      (parser.parseLine registry text number).1 = .ok (some test) →
      credentialsOf test = some (username, password) →
      ∃ front, encode line = front ++ [lineFeed] ∧ lineFeed ∉ front := by
  intro greeted line outcome
  refine ⟨?_, ?_, ?_⟩
  · have hline : greeted.commandBytes (Session.loginText username password) = encode line :=
      Session.commandBytes_login (Session.nextTag_greet _) username password
    obtain ⟨part, hprefix, hsent, hall⟩ :=
      greeted.sent_command (Session.loginText username password)
    rw [hline] at hprefix hall
    refine ⟨part, hprefix, ?_, ?_⟩
    · show (Session.step "login" _).2.channel.sent = _
      rw [Session.step_snd, hsent, Session.sent_greet]
      rfl
    · rintro (htakes | hok)
      · exact hall htakes
      · have hanswered : (greeted.command (Session.loginText username password)).1.isOk :=
          Session.isOk_of_step_eq_ok hok
        exact hall (hline ▸ Session.takes_of_command_isOk hanswered)
  · have h := readLogin?_login "a1" username password "\r\n".toList
    rw [← String.toList_append] at h
    exact h
  · intro parser registry text number test hparse hcredentials
    obtain ⟨husername, hpassword⟩ := newline_not_mem_of_credentialsOf hparse hcredentials
    let front := ("a1 LOGIN " ++ quote username ++ " " ++ quote password ++ "\r").toList
    have hfront : line = front ++ ['\n'] := by simp [line, front]
    refine ⟨encode front, by rw [hfront, encode_append]; rfl, fun hmem => ?_⟩
    have hnewline : '\n' ∈ front := (mem_encode (by decide) (by decide)).1 hmem
    simp [front, newline_mem_quote, husername, hpassword] at hnewline

/-- A double quote, and a backslash in front of the closing quote. -/
theorem login_line_of_test :
    let text := "mail must run imaps with username 'a\"b\\' with password \"it's\""
    let test : Test := ⟨"mail", "imaps", text,
      [("username", "a\"b\\"), ("password", "it's")]⟩
    let line := "a1 LOGIN \"a\\\"b\\\\\" \"it's\"\r\n".toList
    (Parser.fresh.parseLine Registry.builtin text 1).1 = .ok (some test) ∧
      credentialsOf test = some ("a\"b\\", "it's") ∧
      readLogin? "a1" line = some ("a\"b\\".toList, "it's".toList, "\r\n".toList) ∧
      ∃ front, encode line = front ++ [lineFeed] ∧ lineFeed ∉ front := by
  intro text test line
  have hparse : (Parser.fresh.parseLine Registry.builtin text 1).1 = .ok (some test) := by
    decide +kernel
  have hcredentials : credentialsOf test = some ("a\"b\\", "it's") := by decide
  obtain ⟨-, hreads, hsingle⟩ :=
    login_line (.ofStream ⟨[], [], []⟩ ⟨⟨0⟩, ⟨0⟩⟩ ⟨0⟩) "a\"b\\" "it's"
  exact ⟨hparse, hcredentials, hreads, hsingle _ _ _ _ _ hparse hcredentials⟩

end ServiceProbe.Imap
