import ServiceProbe.Proofs.Dns.Answers
import ServiceProbe.Proofs.Net.Texts

/-!
What the comparison of answers can tell apart. Sorting forgets the order of the
answers and nothing else; joining forgets nothing either as long as no answer has a
comma in it, since the commas of the joined text then stand where it is to be split.
Addresses are shown without commas, and no two of one type are shown alike, so their
lookups are compared up to the order.
-/

namespace ServiceProbe

open Text

/-- Texts without commas are found again between the commas that join them. -/
theorem splitOn_intercalate_comma {texts : List String} (hne : texts ≠ [])
    (hcomma : ∀ text ∈ texts, ',' ∉ text.toList) :
    (String.intercalate "," texts).toList.splitOn ',' = texts.map String.toList := by
  rw [String.toList_intercalate]
  apply List.splitOn_intercalate
  · intro s hs
    obtain ⟨text, htext, rfl⟩ := List.mem_map.1 hs
    exact hcomma text htext
  · rwa [ne_eq, List.map_eq_nil_iff]

theorem intercalate_comma_inj {texts texts' : List String} (hne : texts ≠ []) (hne' : texts' ≠ [])
    (hcomma : ∀ text ∈ texts, ',' ∉ text.toList) (hcomma' : ∀ text ∈ texts', ',' ∉ text.toList)
    (h : String.intercalate "," texts = String.intercalate "," texts') : texts = texts' := by
  have hsplit := splitOn_intercalate_comma hne hcomma
  rw [h, splitOn_intercalate_comma hne' hcomma'] at hsplit
  have hinjective : Function.Injective String.toList := fun _ _ => String.toList_inj.1
  exact (hinjective.list_map hsplit).symm

namespace Text

/-- Sorting forgets nothing but the order. -/
theorem sorted_eq_iff_perm {texts texts' : List String} :
    sorted texts = sorted texts' ↔ texts'.Perm texts := by
  constructor
  · intro h
    exact (sorted_perm texts').symm.trans (h ▸ sorted_perm texts)
  · intro h
    exact eq_sorted_iff.2 ⟨(sorted_perm texts).trans h.symm, byteSorted_sorted texts⟩

end Text

namespace Dns

open Net

/-! ### Joined answers -/

theorem joinSorted_congr {answers answers' : List String} (h : answers'.Perm answers) :
    joinSorted answers = joinSorted answers' := by
  rw [joinSorted, sorted_eq_iff_perm.2 h, joinSorted]

/-- The joined text gives the answers back up to their order, if it is known whether
there are any. -/
theorem perm_of_joinSorted_eq {answers answers' : List String} (hnil : answers = [] ↔ answers' = [])
    (hcomma : ∀ answer ∈ answers, ',' ∉ answer.toList)
    (hcomma' : ∀ answer ∈ answers', ',' ∉ answer.toList)
    (h : joinSorted answers = joinSorted answers') : answers'.Perm answers := by
  by_cases hnone : answers = []
  · rw [hnone, hnil.1 hnone]
  · have hsome {texts : List String} (htexts : texts ≠ []) : sorted texts ≠ [] := by
      intro hsorted
      apply htexts
      exact List.nil_perm.1 (hsorted ▸ sorted_perm texts)
    rw [← sorted_eq_iff_perm]
    apply intercalate_comma_inj (hsome hnone) (hsome (mt hnil.2 hnone)) _ _ h
    · exact fun text htext => hcomma text (mem_sorted.1 htext)
    · exact fun text htext => hcomma' text (mem_sorted.1 htext)

/-- The order of the answers makes no difference to the joined text, nor to any
comparison; and answers without commas, if there are any, are given back by it up to
their order. -/
theorem joinSorted_up_to_order (answers answers' : List String) :
    (answers'.Perm answers →
      joinSorted answers = joinSorted answers' ∧
      ∀ expected, compareAnswers expected answers = compareAnswers expected answers') ∧
    (answers ≠ [] → answers' ≠ [] →
      (∀ answer ∈ answers, ',' ∉ answer.toList) → (∀ answer ∈ answers', ',' ∉ answer.toList) →
      joinSorted answers = joinSorted answers' → answers'.Perm answers) := by
  constructor
  · intro hperm
    have hjoined := joinSorted_congr hperm
    refine ⟨hjoined, fun expected => ?_⟩
    rw [compareAnswers, compareAnswers, hjoined]
  · intro hne hne' hcomma hcomma' hjoined
    exact perm_of_joinSorted_eq (iff_of_false hne hne') hcomma hcomma' hjoined

/-- Empty answers, repeated ones and ones that begin alike. -/
theorem joinSorted_up_to_order_prefixes :
    let answers := ["b", "", "ab", "a", "a"]
    let answers' := ["a", "ab", "", "b", "a"]
    answers'.Perm answers ∧
      joinSorted answers = joinSorted answers' ∧
      compareAnswers ",a,a,ab,b" answers = compareAnswers ",a,a,ab,b" answers' ∧
      joinSorted answers ≠ joinSorted ["a", "ab", "", "b"] := by
  intro answers answers'
  have hperm : answers'.Perm answers := by decide
  have hcomma : ∀ answer ∈ answers, ',' ∉ answer.toList := by decide
  obtain ⟨hjoined, hcompared⟩ := (joinSorted_up_to_order answers answers').1 hperm
  refine ⟨hperm, hjoined, hcompared _, ?_⟩
  intro hfewer
  have hfew := (joinSorted_up_to_order answers _).2 (by decide) (by decide) hcomma (by decide)
    hfewer
  exact absurd hfew.length_eq (by decide)

/-- Whether there are any answers is lost, and so is where an answer with a comma ends. -/
example : joinSorted [] = joinSorted [""] ∧ joinSorted ["a,b"] = joinSorted ["a", "b"] := by cbv

end Dns

/-! ### Addresses -/

namespace Net

theorem IpAddress.comma_not_mem_text (ip : IpAddress) : ',' ∉ ip.text.toList :=
  not_mem_of_parse? (by decide) (by decide) (by decide) ip.parse?_text

theorem IpAddress.text_ne_empty (ip : IpAddress) : ip.text ≠ "" := by
  cases ip with
  | v4 ip => exact ip.text_ne_empty
  | v6 ip => exact ip.text_ne_empty

/-- The address whose text stands for an IPv6 address as an answer: its IPv4 address, if
it is a mapped one. -/
def Ipv6.shown (ip : Ipv6) : IpAddress :=
  match ip.mapped? with
  | some v4 => .v4 v4
  | none => .v6 ip

theorem Ipv6.shown_injective : Function.Injective Ipv6.shown := by
  intro ip ip' h
  unfold shown at h
  cases hmapped : ip.mapped? with
  | none =>
    cases hmapped' : ip'.mapped? with
    | none => simpa [hmapped, hmapped'] using h
    | some v4' => simp [hmapped, hmapped'] at h
  | some v4 =>
    cases hmapped' : ip'.mapped? with
    | none => simp [hmapped, hmapped'] at h
    | some v4' =>
      -- all mapped addresses begin alike
      have hv4 : v4 = v4' := by simpa [hmapped, hmapped'] using h
      have hgroups := groups_of_mapped? hmapped
      rw [hv4, ← groups_of_mapped? hmapped'] at hgroups
      cases ip
      cases ip'
      congr

end Net

namespace Dns

open Net

theorem RecordData.answer?_aaaa (ip : Ipv6) : (aaaa ip).answer? = some ip.shown.text := by
  simp only [answer?, Ipv6.shown]
  cases ip.mapped? <;> rfl

/-- Records of one type, each shown as an address. -/
theorem extractAnswers_of_map {α : Type} {data : α → RecordData} {shown : α → IpAddress}
    (hshown : ∀ a, (data a).answer? = some (shown a).text) {records : List Record} {values : List α}
    (h : records.map (·.data) = values.map fun a => some (data a)) :
    extractAnswers records = values.map fun a => (shown a).text := by
  have hfilter : extractAnswers records =
      (records.map (·.data)).filterMap fun data => data.bind RecordData.answer? := by
    rw [List.filterMap_map]
    rfl
  rw [hfilter, h, List.filterMap_map]
  have hanswer : ((fun data => Option.bind data RecordData.answer?) ∘ fun a => some (data a)) =
      some ∘ fun a => (shown a).text := by
    funext a
    exact hshown a
  rw [hanswer, List.filterMap_eq_map]

/-- Answers that are texts of addresses are compared as the addresses. -/
theorem compareAnswers_texts_iff {ips ips' : List IpAddress} :
    compareAnswers (joinSorted (ips.map IpAddress.text)) (ips'.map IpAddress.text) = .ok () ↔
      ips'.Perm ips := by
  have hinjective : Function.Injective IpAddress.text := fun _ _ => IpAddress.text_injective
  have hcomma (ips : List IpAddress) : ∀ answer ∈ ips.map IpAddress.text, ',' ∉ answer.toList := by
    intro answer hanswer
    obtain ⟨ip, -, rfl⟩ := List.mem_map.1 hanswer
    exact ip.comma_not_mem_text
  have hempty (ips : List IpAddress) : joinSorted (ips.map IpAddress.text) = "" ↔ ips = [] := by
    rw [joinSorted_eq_empty_iff, List.map_eq_nil_iff, or_iff_left]
    intro hone
    have hmem : "" ∈ ips.map IpAddress.text := by rw [hone]; exact List.mem_singleton_self _
    obtain ⟨ip, -, htext⟩ := List.mem_map.1 hmem
    exact ip.text_ne_empty htext
  rw [compareAnswers_eq_ok_iff, ← List.map_perm_map_iff hinjective]
  constructor
  · intro hjoined
    apply perm_of_joinSorted_eq _ (hcomma ips) (hcomma ips') hjoined.symm
    rw [List.map_eq_nil_iff, List.map_eq_nil_iff, ← hempty ips, ← hempty ips', hjoined]
  · intro hperm
    exact (joinSorted_congr hperm).symm

theorem compareAnswers_extractAnswers_iff {α : Type} {data : α → RecordData}
    {shown : α → IpAddress} (hshown : ∀ a, (data a).answer? = some (shown a).text)
    (hinjective : Function.Injective shown) {records records' : List Record}
    {values values' : List α} (h : records.map (·.data) = values.map fun a => some (data a))
    (h' : records'.map (·.data) = values'.map fun a => some (data a)) :
    compareAnswers (joinSorted (extractAnswers records)) (extractAnswers records') = .ok () ↔
      values'.Perm values := by
  have htexts (values : List α) :
      (values.map fun a => (shown a).text) = (values.map shown).map IpAddress.text := by
    rw [List.map_map]
    rfl
  rw [extractAnswers_of_map hshown h, extractAnswers_of_map hshown h', htexts, htexts,
    compareAnswers_texts_iff, List.map_perm_map_iff hinjective]

/-- The answers of an address lookup meet those of another one of the same type if they
are the same addresses, each as often, in whatever order, and in no other case. -/
theorem compareAnswers_addresses_iff (records records' : List Record) :
    (∀ ips ips' : List Ipv4,
      records.map (·.data) = ips.map (fun ip => some (.a ip)) →
      records'.map (·.data) = ips'.map (fun ip => some (.a ip)) →
      (compareAnswers (joinSorted (extractAnswers records)) (extractAnswers records') = .ok () ↔
        ips'.Perm ips)) ∧
    ∀ ips ips' : List Ipv6,
      records.map (·.data) = ips.map (fun ip => some (.aaaa ip)) →
      records'.map (·.data) = ips'.map (fun ip => some (.aaaa ip)) →
      (compareAnswers (joinSorted (extractAnswers records)) (extractAnswers records') = .ok () ↔
        ips'.Perm ips) := by
  constructor
  · intro ips ips' h h'
    exact compareAnswers_extractAnswers_iff (fun _ => rfl) (fun _ _ => IpAddress.v4.inj) h h'
  · intro ips ips' h h'
    exact compareAnswers_extractAnswers_iff RecordData.answer?_aaaa Ipv6.shown_injective h h'

/-- A mapped address is shown as an IPv4 address and still told from the one that has
the same last groups, and each of the addresses counts as often as it is there. -/
theorem compareAnswers_addresses_iff_mapped :
    let record (data : RecordData) : Record := ⟨.root, 28, 60, some data⟩
    let mapped : Ipv6 := ⟨[0, 0, 0, 0, 0, 0xFFFF, 0xC000, 0x0201], rfl⟩
    let other : Ipv6 := ⟨[0, 0, 0, 0, 0, 0, 0xC000, 0x0201], rfl⟩
    let found := [record (.aaaa mapped), record (.aaaa other), record (.aaaa mapped)]
    let different := [record (.aaaa other), record (.aaaa mapped), record (.aaaa other)]
    let hosts := [record (.a ⟨10, 0, 0, 1⟩), record (.a ⟨9, 9, 9, 9⟩)]
    mapped.shown = .v4 ⟨192, 0, 2, 1⟩ ∧
      compareAnswers (joinSorted (extractAnswers found)) (extractAnswers different) ≠ .ok () ∧
      compareAnswers (joinSorted (extractAnswers found))
        (extractAnswers [record (.aaaa other), record (.aaaa mapped), record (.aaaa mapped)]) =
          .ok () ∧
      compareAnswers (joinSorted (extractAnswers hosts)) (extractAnswers hosts.reverse) =
        .ok () := by
  intro record mapped other found different hosts
  refine ⟨rfl, ?_, ?_, ?_⟩
  · rw [ne_eq, (compareAnswers_addresses_iff found different).2 [mapped, other, mapped]
      [other, mapped, other] rfl rfl]
    intro hperm
    exact absurd (hperm.count_eq other) (by decide)
  · rw [(compareAnswers_addresses_iff found _).2 [mapped, other, mapped] [other, mapped, mapped]
      rfl rfl]
    exact List.Perm.swap _ _ _
  · rw [(compareAnswers_addresses_iff hosts _).1 [⟨10, 0, 0, 1⟩, ⟨9, 9, 9, 9⟩]
      [⟨9, 9, 9, 9⟩, ⟨10, 0, 0, 1⟩] rfl rfl]
    exact List.Perm.swap _ _ _

end Dns

end ServiceProbe
