import ServiceProbe.Proofs.Dns.Verdict
import ServiceProbe.Proofs.Dns.Wire

/-!
Answers that leave no trace in the joined text. No answers at all join to the empty
text, and so does one answer that is itself empty; nothing else does. Addresses and
names are never shown as the empty text, so in a message that was read only a text
record whose first string is empty can be that one answer.
-/

namespace ServiceProbe

open Text

theorem intercalate_eq_empty_iff {separator : String} (h : separator ≠ "")
    {texts : List String} :
    String.intercalate separator texts = "" ↔ texts = [] ∨ texts = [""] := by
  cases texts with
  | nil => simp
  | cons text texts =>
    cases texts with
    | nil => simp
    | cons other texts =>
      rw [String.intercalate_cons_cons]
      simp [String.append_eq_empty_iff, h]

/-! ### Addresses -/

namespace Net

theorem Ipv4.text_ne_empty (ip : Ipv4) : ip.text ≠ "" := by
  rw [Ipv4.text, ne_eq, intercalate_eq_empty_iff (by decide)]
  simp

theorem groupsText_ne_empty {groups : List UInt16} (h : 2 ≤ groups.length) :
    groupsText groups ≠ "" := by
  intro hempty
  rw [groupsText, intercalate_eq_empty_iff (by decide)] at hempty
  rcases hempty with hnone | hone
  · have hlength := congrArg List.length hnone
    rw [List.length_map, List.length_nil] at hlength
    omega
  · have hlength := congrArg List.length hone
    rw [List.length_map, List.length_singleton] at hlength
    omega

theorem Ipv6.text_ne_empty (ip : Ipv6) : ip.text ≠ "" := by
  unfold Ipv6.text
  split
  · simp [String.append_eq_empty_iff]
  · dsimp only
    split
    · apply groupsText_ne_empty
      rw [ip.length_groups]
      decide
    · simp [String.append_eq_empty_iff]

end Net

namespace Dns

open Net

/-! ### Records -/

theorem Name.text_ne_empty {name : Name} (h : name.fqdn = true) : name.text ≠ "" := by
  simp [Name.text, h, String.append_eq_empty_iff]

/-- Of all data that a message can hold, only a text is shown as nothing. -/
theorem RecordData.answer?_eq_empty_iff {data : RecordData} (h : data.Complete) :
    data.answer? = some "" ↔ ∃ rest, data = .txt ([] :: rest) := by
  cases data with
  | a ip => simp [answer?, Ipv4.text_ne_empty]
  | aaaa ip =>
    simp only [answer?]
    cases ip.mapped? <;> simp [Ipv4.text_ne_empty, Ipv6.text_ne_empty]
  | mx preference exchange => simp [answer?, String.append_eq_empty_iff]
  | ns name => simp [answer?, Name.text_ne_empty h]
  | txt chunks =>
    cases chunks with
    | nil => exact absurd rfl h
    | cons first rest => simp [answer?, decodeLossy_eq_nil_iff]
  | other => simp [answer?]

/-- The answer that a record is shown as, if its type can be asked for. -/
def Record.answer? (record : Record) : Option String :=
  record.data.bind RecordData.answer?

theorem extractAnswers_eq (records : List Record) :
    extractAnswers records = records.filterMap Record.answer? := rfl

theorem Record.answer?_eq_empty_iff {record : Record} (h : record.Complete) :
    record.answer? = some "" ↔ ∃ rest, record.data = some (.txt ([] :: rest)) := by
  rw [answer?, Option.bind_eq_some_iff]
  constructor
  · rintro ⟨data, hdata, hanswer⟩
    obtain ⟨rest, rfl⟩ := (RecordData.answer?_eq_empty_iff (h data hdata)).1 hanswer
    exact ⟨rest, hdata⟩
  · rintro ⟨rest, hdata⟩
    exact ⟨_, hdata, (RecordData.answer?_eq_empty_iff (h _ hdata)).2 ⟨rest, rfl⟩⟩

/-- The one record that can be asked for is a text whose first string is empty. -/
def OnlyEmptyText (records : List Record) : Prop :=
  ∃ before record after rest, records = before ++ record :: after ∧
    record.data = some (.txt ([] :: rest)) ∧ ∀ other ∈ before ++ after, other.answer? = none

theorem extractAnswers_eq_empty_iff {records : List Record} (h : ∀ r ∈ records, r.Complete) :
    extractAnswers records = [""] ↔ OnlyEmptyText records := by
  rw [extractAnswers_eq, List.filterMap_eq_cons_iff]
  simp only [List.filterMap_eq_nil_iff]
  constructor
  · rintro ⟨before, record, after, rfl, hbefore, hanswer, hafter⟩
    have hcomplete : record.Complete := h record (by simp)
    obtain ⟨rest, hdata⟩ := (Record.answer?_eq_empty_iff hcomplete).1 hanswer
    refine ⟨before, record, after, rest, rfl, hdata, ?_⟩
    intro other hother
    exact (List.mem_append.1 hother).elim (hbefore other) (hafter other)
  · rintro ⟨before, record, after, rest, rfl, hdata, hothers⟩
    have hcomplete : record.Complete := h record (by simp)
    rw [List.forall_mem_append] at hothers
    exact ⟨before, record, after, rfl, hothers.1,
      (Record.answer?_eq_empty_iff hcomplete).2 ⟨rest, hdata⟩, hothers.2⟩

/-! ### The empty expectation -/

theorem joinSorted_eq_empty_iff {answers : List String} :
    joinSorted answers = "" ↔ answers = [] ∨ answers = [""] := by
  rw [joinSorted, intercalate_eq_empty_iff (by decide)]
  have hperm := sorted_perm answers
  constructor
  · rintro (hsorted | hsorted)
    · rw [hsorted] at hperm
      exact .inl (List.nil_perm.1 hperm)
    · rw [hsorted] at hperm
      exact .inr (List.singleton_perm.1 hperm).symm
  · rintro (rfl | rfl)
    · exact .inl (List.perm_nil.1 hperm)
    · exact .inr (List.perm_singleton.1 hperm)

/-- The empty expectation is met by no answers and by one empty answer. Of the answers
of a message that was read, it is met by those without a record that can be asked for,
and by those with one such record, a text whose first string is empty. -/
theorem emptyExpectation_met_iff (records : List Record) :
    (compareAnswers "" (extractAnswers records) = .ok () ↔
      extractAnswers records = [] ∨ extractAnswers records = [""]) ∧
    ∀ bytes message, Message.decode bytes = .ok message → message.answers = records →
      (compareAnswers "" (extractAnswers records) = .ok () ↔
        (∀ record ∈ records, record.answer? = none) ∨ OnlyEmptyText records) := by
  have hmet : compareAnswers "" (extractAnswers records) = .ok () ↔
      extractAnswers records = [] ∨ extractAnswers records = [""] := by
    rw [compareAnswers_eq_ok_iff, joinSorted_eq_empty_iff]
  refine ⟨hmet, ?_⟩
  rintro bytes message hdecode rfl
  have hcomplete := Message.complete_of_decode hdecode
  rw [hmet, extractAnswers_eq_empty_iff hcomplete, extractAnswers_eq,
    List.filterMap_eq_nil_iff]

/-- A reply with one record of the root, of a type below 256. -/
def replyOf (typeCode : UInt8) (data : Bytes) : Bytes :=
  [0, 7, 0x81, 0x80, 0, 0, 0, 1, 0, 0, 0, 0] ++
    [0, 0, typeCode, 0, 1, 0, 0, 0, 60, 0, UInt8.ofNat data.length] ++ data

theorem decode_emptyText :
    Message.decode (replyOf 16 [0]) = .ok ⟨7, 0, [⟨.root, 16, 60, some (.txt [[]])⟩]⟩ := by cbv

theorem emptyExpectation_met_iff_text_and_address :
    let address : Message := ⟨7, 0, [⟨.root, 1, 60, some (.a ⟨192, 0, 2, 1⟩)⟩]⟩
    let text : Message := ⟨7, 0, [⟨.root, 16, 60, some (.txt [[]])⟩]⟩
    Message.decode (replyOf 1 [192, 0, 2, 1]) = .ok address ∧
      compareAnswers "" (extractAnswers address.answers) ≠ .ok () ∧
      Message.decode (replyOf 16 [0]) = .ok text ∧
      compareAnswers "" (extractAnswers text.answers) = .ok () := by
  intro address text
  have haddress : Message.decode (replyOf 1 [192, 0, 2, 1]) = .ok address := by cbv
  refine ⟨haddress, ?_, decode_emptyText, ?_⟩
  · rw [ne_eq, (emptyExpectation_met_iff address.answers).2 _ _ haddress rfl]
    rintro (hnone | ⟨before, record, after, rest, hrecords, hdata, -⟩)
    · have hshown := hnone _ (List.mem_singleton_self _)
      simp [Record.answer?, RecordData.answer?] at hshown
    · have hmem : record ∈ address.answers := by rw [hrecords]; simp
      obtain rfl := List.mem_singleton.1 hmem
      cases hdata
  · rw [(emptyExpectation_met_iff text.answers).2 _ _ decode_emptyText rfl]
    exact .inr ⟨[], _, [], [], rfl, rfl, by simp⟩

/-- A record of a type that can be asked for is there, and the empty expectation is
met all the same: a whole run of the probe passes. -/
theorem emptyExpectation_met_by_record :
    let records : List Record := [⟨.root, 16, 60, some (.txt [[]])⟩]
    let network : Network :=
      { Network.unreachable with
        datagrams := fun _ => .ok fun _ => .reply ⟨1⟩ (replyOf 16 [0]) }
    let test : Test := ⟨"127.0.0.1", "dns", "", [("lookup", "a"), ("type", "TXT"), ("result", "")]⟩
    Message.decode (replyOf 16 [0]) = .ok ⟨7, 0, records⟩ ∧
      extractAnswers records = [""] ∧
      ¬ (compareAnswers "" (extractAnswers records) = .ok () ↔ extractAnswers records = []) ∧
      (runProbe ⟨test, "127.0.0.1", ⟨2⟩, network, ⟨0⟩, 7⟩).result = .ok () := by
  intro records network test
  have hanswers : extractAnswers records = [""] := by cbv
  have hmet : compareAnswers "" (extractAnswers records) = .ok () := by
    rw [compareAnswers_eq_ok_iff, joinSorted_eq_empty_iff]
    exact .inr hanswers
  refine ⟨decode_emptyText, hanswers, ?_, ?_⟩
  · intro hiff
    rw [hiff.1 hmet] at hanswers
    contradiction
  · cbv

end Dns

end ServiceProbe
