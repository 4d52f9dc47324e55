import Mathlib
import ServiceProbe.Proofs.Net.Literals
import ServiceProbe.Settings

/-!
The queue's address as a text. Every host that neither begins with an opening
bracket nor ends with a closing one is found again in the text that joins it with a
port, whatever colons and brackets it holds inside; and an address that is
understood names such a host. A host alone, in brackets or not, has the default
port, unless its one colon makes the rest of it a port.
-/

namespace ServiceProbe

open Net Text

variable {host port front s : List Char}

/-! ### The last colon -/

namespace Net.Network

theorem splitPort?_of_not_mem (h : ':' ∉ s) : splitPort? s = none := if_neg h

theorem splitPort?_append (host : List Char) (h : ':' ∉ port) :
    splitPort? (host ++ ':' :: port) = some (host, port) := by
  have hrun : (host ++ ':' :: port).reverse.takeWhile (· != ':') = port.reverse := by
    rw [List.reverse_append, List.reverse_cons, List.append_assoc]
    apply takeWhile_append_of_stops
    · exact bne_of_not_mem (by simpa using h)
    · exact stops_cons.2 (by simp)
  have hlength : (host ++ ':' :: port).length - port.length - 1 = host.length := by
    rw [List.length_append, List.length_cons]
    omega
  rw [splitPort?, if_pos (by simp), hrun]
  simp only [List.reverse_reverse]
  rw [hlength, List.take_left]

end Net.Network

/-- Where there are colons one of them is the last. -/
theorem exists_last_colon (h : ':' ∈ s) :
    ∃ front port, s = front ++ ':' :: port ∧ ':' ∉ port := by
  obtain ⟨port, front, hreverse, hport⟩ := List.eq_append_cons_of_mem (List.mem_reverse.2 h)
  refine ⟨front.reverse, port.reverse, ?_, by simpa using hport⟩
  rw [← List.reverse_reverse s, hreverse]
  simp

/-! ### Brackets -/

/-- Neither an opening bracket in front nor a closing one at the end. -/
structure Unbracketed (s : List Char) : Prop where
  head : s.head? ≠ some '['
  last : s.getLast? ≠ some ']'

theorem unbracketed_of_not_mem (h : '[' ∉ s) (h' : ']' ∉ s) : Unbracketed s where
  head := fun hhead => h (List.mem_of_mem_head? hhead)
  last := fun hlast => h' (List.mem_of_getLast? hlast)

theorem dropWhile_beq_eq_self {c : Char} (h : s.head? ≠ some c) :
    s.dropWhile (· == c) = s := by
  cases s with
  | nil => rfl
  | cons d s =>
    apply List.dropWhile_cons_of_neg
    simpa using h

theorem head?_dropWhile_beq (c : Char) (s : List Char) :
    (s.dropWhile (· == c)).head? ≠ some c := by
  intro h
  have hc := stops_dropWhile (· == c) s c h
  simp at hc

theorem dropBrackets_eq_self (h : Unbracketed s) : dropBrackets s = s := by
  have hlast : s.reverse.head? ≠ some ']' := by
    rw [List.head?_reverse]
    exact h.last
  rw [dropBrackets, dropWhile_beq_eq_self h.head, dropWhile_beq_eq_self hlast,
    List.reverse_reverse]

theorem dropBrackets_bracketed (hne : s ≠ []) (h : Unbracketed s) :
    dropBrackets ('[' :: (s ++ [']'])) = s := by
  have hhead : (s ++ [']']).head? ≠ some '[' := by
    rw [List.head?_append_of_ne_nil _ hne]
    exact h.head
  have hlast : s.reverse.head? ≠ some ']' := by
    rw [List.head?_reverse]
    exact h.last
  rw [dropBrackets, List.dropWhile_cons_of_pos (by simp), dropWhile_beq_eq_self hhead,
    List.reverse_append, List.reverse_singleton, List.singleton_append,
    List.dropWhile_cons_of_pos (by simp), dropWhile_beq_eq_self hlast, List.reverse_reverse]

/-- What is left begins as the text does after its opening brackets. -/
theorem unbracketed_dropBrackets (s : List Char) : Unbracketed (dropBrackets s) where
  head := by
    have hprefix : dropBrackets s <+: s.dropWhile (· == '[') := List.rdropWhile_prefix _ _
    intro hhead
    apply head?_dropWhile_beq '[' s
    obtain ⟨rest, hrest⟩ := hprefix
    rw [← hrest, List.head?_append, hhead, Option.some_or]
  last := by
    rw [dropBrackets, List.getLast?_reverse]
    exact head?_dropWhile_beq ']' _

/-! ### Hosts and ports -/

theorem splitQueueHost_of_not_mem (h : ':' ∉ s) :
    splitQueueHost s = .ok (s, defaultQueuePort) := by
  rw [splitQueueHost, Network.splitPort?_of_not_mem h]

/-- A colon inside the host is no fault where the host ends in a bracket. -/
theorem splitQueueHost_port (h : ':' ∈ host → host.getLast? = some ']') (port : UInt16) :
    splitQueueHost (host ++ ':' :: (toString port.toNat).toList) = .ok (host, port) := by
  have hdigits : ':' ∉ (toString port.toNat).toList := by
    rw [Nat.toString_eq_ofList_toDigits, String.toList_ofList]
    intro hmem
    have hdigit := Nat.isDigit_of_mem_toDigits (by decide) (by decide) hmem
    contradiction
  have hsplit : ¬ (':' ∈ host ∧ host.getLast? ≠ some ']') := fun ⟨hmem, hlast⟩ => hlast (h hmem)
  rw [splitQueueHost, Network.splitPort?_append host hdigits]
  dsimp only
  rw [if_neg hsplit, readPort_toString]

/-- Two colons make a host if no bracket stands before the last of them. -/
theorem splitQueueHost_whole (hport : ':' ∉ port) (hcolon : ':' ∈ front)
    (hlast : front.getLast? ≠ some ']') :
    splitQueueHost (front ++ ':' :: port) = .ok (front ++ ':' :: port, defaultQueuePort) := by
  rw [splitQueueHost, Network.splitPort?_append front hport]
  dsimp only
  rw [if_pos ⟨hcolon, hlast⟩]

theorem splitQueueHost_bare (hbracket : ']' ∉ s) (hcolons : ':' ∉ s ∨ 2 ≤ s.count ':') :
    splitQueueHost s = .ok (s, defaultQueuePort) ∧
      splitQueueHost ('[' :: (s ++ [']'])) = .ok ('[' :: (s ++ [']']), defaultQueuePort) := by
  rcases hcolons with hcolon | hcount
  · exact ⟨splitQueueHost_of_not_mem hcolon, splitQueueHost_of_not_mem (by simp [hcolon])⟩
  · have hmem : ':' ∈ s := List.count_pos_iff.1 (by omega)
    obtain ⟨front, port, rfl, hport⟩ := exists_last_colon hmem
    have hfront : ':' ∈ front := by
      rw [List.count_append, List.count_cons_self, List.count_eq_zero.2 hport] at hcount
      exact List.count_pos_iff.1 (by omega)
    have hclosing : ']' ∉ front := fun hmem => hbracket (List.mem_append_left _ hmem)
    constructor
    · apply splitQueueHost_whole hport hfront
      exact fun hlast => hclosing (List.mem_of_getLast? hlast)
    · have hwritten : '[' :: (front ++ ':' :: port ++ [']']) =
          ('[' :: front) ++ ':' :: (port ++ [']']) := by simp
      rw [hwritten]
      apply splitQueueHost_whole
      · simpa using hport
      · exact List.mem_cons_of_mem _ hfront
      · rw [List.getLast?_cons_of_ne_nil (List.ne_nil_of_mem hfront)]
        exact fun hlast => hclosing (List.mem_of_getLast? hlast)

/-! ### Endpoints -/

/-- Settings with the queue at an address, and no socket. -/
def Settings.withQueue (settings : Settings) (address : String) : Settings :=
  { settings with redisHost := address, redisSocket := "" }

theorem Settings.queueEndpoint_withQueue_iff {settings : Settings} {address name : String}
    {port : UInt16} :
    (settings.withQueue address).queueEndpoint = .ok (.tcp name port) ↔
      name ≠ "" ∧ ∃ host, splitQueueHost address.toList = .ok (host, port) ∧
        dropBrackets host = name.toList := by
  have hname : name ≠ "" ↔ name.toList ≠ [] := by
    rw [ne_eq, ne_eq, String.toList_eq_nil_iff]
  rw [queueEndpoint, if_neg (by simp [withQueue]), hname]
  dsimp only [withQueue]
  cases hsplit : splitQueueHost address.toList with
  | error reason => simp
  | ok pair =>
    obtain ⟨host, port'⟩ := pair
    dsimp only
    cases hdrop : dropBrackets host with
    | nil =>
      refine iff_of_false (by simp) ?_
      rintro ⟨hne, _, hhost, hrest⟩
      cases hhost
      exact hne (hrest.symm.trans hdrop)
    | cons c rest =>
      constructor
      · intro hendpoint
        simp only [Except.ok.injEq, QueueEndpoint.tcp.injEq] at hendpoint
        obtain ⟨rfl, rfl⟩ := hendpoint
        exact ⟨by simp, host, rfl, by simp [hdrop]⟩
      · rintro ⟨-, _, hhost, hrest⟩
        cases hhost
        have htext : name = String.ofList (c :: rest) := by
          rw [← hdrop, hrest, String.ofList_toList]
        rw [htext]

/-- A host that can be told from the brackets and the port around it. -/
structure PlainHost (name : String) : Prop where
  ne_empty : name ≠ ""
  unbracketed : Unbracketed name.toList

theorem Settings.queueEndpoint_joinHostPort {settings : Settings} {name : String}
    (h : PlainHost name) (port : UInt16) :
    (settings.withQueue (joinHostPort name port)).queueEndpoint = .ok (.tcp name port) := by
  rw [queueEndpoint_withQueue_iff]
  refine ⟨h.ne_empty, ?_⟩
  by_cases hcolon : ':' ∈ name.toList
  · have hne : name.toList ≠ [] := List.ne_nil_of_mem hcolon
    refine ⟨'[' :: (name.toList ++ [']']), ?_, dropBrackets_bracketed hne h.unbracketed⟩
    have hwritten : (joinHostPort name port).toList =
        '[' :: (name.toList ++ [']']) ++ ':' :: (toString port.toNat).toList := by
      rw [toList_joinHostPort_of_mem hcolon]
      simp
    rw [hwritten]
    apply splitQueueHost_port
    intro _
    rw [← List.cons_append]
    exact List.getLast?_concat
  · refine ⟨name.toList, ?_, dropBrackets_eq_self h.unbracketed⟩
    rw [toList_joinHostPort_of_not_mem hcolon]
    apply splitQueueHost_port
    exact fun hmem => absurd hmem hcolon

/-- The queue's address and its endpoint. A plain host joined with a port is read as
these two; what is read as a host and a port is a plain host, and joining them gives
an address of the same endpoint; a host without brackets and with no colon, or
several, needs no port and may stand in brackets. A socket goes before all this. -/
theorem Settings.queueEndpoint_address (settings : Settings) :
    (∀ name port, PlainHost name →
      (settings.withQueue (joinHostPort name port)).queueEndpoint = .ok (.tcp name port)) ∧
    (∀ address name port, (settings.withQueue address).queueEndpoint = .ok (.tcp name port) →
      PlainHost name ∧
        (settings.withQueue (joinHostPort name port)).queueEndpoint = .ok (.tcp name port)) ∧
    (∀ name : String, name ≠ "" → '[' ∉ name.toList → ']' ∉ name.toList →
      ':' ∉ name.toList ∨ 2 ≤ name.toList.count ':' →
        (settings.withQueue name).queueEndpoint = .ok (.tcp name 6379) ∧
          (settings.withQueue ("[" ++ name ++ "]")).queueEndpoint = .ok (.tcp name 6379)) ∧
    (settings.redisSocket ≠ "" →
      settings.queueEndpoint = .ok (.unix settings.redisSocket)) := by
  refine ⟨?_, ?_, ?_, ?_⟩
  · intro name port hplain
    exact queueEndpoint_joinHostPort hplain port
  · intro address name port hendpoint
    obtain ⟨hne, host, -, hdrop⟩ := queueEndpoint_withQueue_iff.1 hendpoint
    have hplain : PlainHost name := ⟨hne, hdrop ▸ unbracketed_dropBrackets host⟩
    exact ⟨hplain, queueEndpoint_joinHostPort hplain port⟩
  · intro name hne hopening hclosing hcolons
    have hplain : Unbracketed name.toList := unbracketed_of_not_mem hopening hclosing
    obtain ⟨hbare, hbracketed⟩ := splitQueueHost_bare hclosing hcolons
    have hwritten : ("[" ++ name ++ "]").toList = '[' :: (name.toList ++ [']']) := by
      simp [String.toList_append]
    constructor
    · rw [queueEndpoint_withQueue_iff]
      exact ⟨hne, name.toList, hbare, dropBrackets_eq_self hplain⟩
    · rw [queueEndpoint_withQueue_iff, hwritten]
      refine ⟨hne, _, hbracketed, dropBrackets_bracketed ?_ hplain⟩
      rwa [ne_eq, String.toList_eq_nil_iff]
  · intro hsocket
    rw [queueEndpoint, if_pos hsocket]

/-- A host whose brackets are all inside, and the endpoint of an address with more
brackets around it than are needed. -/
theorem Settings.queueEndpoint_inner_brackets :
    let name := "a]:[b"
    PlainHost name ∧
      (defaults.withQueue (joinHostPort name 65535)).queueEndpoint = .ok (.tcp name 65535) ∧
      (defaults.withQueue "[[::1]]:+07").queueEndpoint = .ok (.tcp "::1" 7) ∧
      PlainHost "::1" ∧
      (defaults.withQueue (joinHostPort "::1" 7)).queueEndpoint = .ok (.tcp "::1" 7) ∧
      (defaults.withQueue "fe80::1%lo").queueEndpoint = .ok (.tcp "fe80::1%lo" 6379) := by
  intro name
  have hplain : PlainHost name := ⟨by decide, by decide, by decide⟩
  have hread : (defaults.withQueue "[[::1]]:+07").queueEndpoint = .ok (.tcp "::1" 7) := by cbv
  obtain ⟨hjoin, hparse, hbare, -⟩ := queueEndpoint_address defaults
  obtain ⟨hparsed, hrejoined⟩ := hparse _ _ _ hread
  refine ⟨hplain, hjoin name 65535 hplain, hread, hparsed, hrejoined, ?_⟩
  exact (hbare "fe80::1%lo" (by decide) (by decide) (by decide) (.inr (by decide))).1

end ServiceProbe
