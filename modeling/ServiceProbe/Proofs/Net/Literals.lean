import Mathlib.Data.List.Infix
import Mathlib.Data.Option.Basic
import ServiceProbe.Net.Network
import ServiceProbe.Proofs.Text.Blank
import ServiceProbe.Proofs.Text.Numeral

/-!
A literal target is dialled at its own address. The readers of addresses are put
together from numbers and separators. They take characters of one class from the
front of a text and do not look behind them, so a literal is read the same in
front of a colon or a closing bracket as on its own, and a port written after it
is read back.
-/

namespace ServiceProbe.Net

open Text

variable {α β : Type} {p : Char → Bool} {ext : List Char}

/-! ### Scanners -/

/-- Readers that are put together from numbers and separators, all of them of
one class of characters. -/
inductive Scanner (p : Char → Bool) : {α : Type} → (List Char → Option (α × List Char)) → Prop
  | pure {α : Type} (a : α) : Scanner p fun s => some (a, s)
  /-- Refuses what was read before it. -/
  | refuse {α : Type} (q : Prop) [Decidable q] (a : α) :
      Scanner p fun s => if q then none else some (a, s)
  | number {digit? : Char → Option Nat} (h : ∀ c, (digit? c).isSome = true → p c = true)
      (radix limit : Nat) : Scanner p (readNumber digit? radix limit)
  | expect {α : Type} {c : Char} (h : p c = true) {next : List Char → Option (α × List Char)}
      (hnext : Scanner p next) : Scanner p fun s => expect c s >>= next
  | bind {α β : Type} {read : List Char → Option (α × List Char)}
      {next : α × List Char → Option (β × List Char)} (h : Scanner p read)
      (hnext : ∀ a, Scanner p fun s => next (a, s)) : Scanner p fun s => read s >>= next

theorem readNumber_append {digit? : Char → Option Nat}
    (h : Stops (fun c => (digit? c).isSome) ext) (radix limit : Nat) (s : List Char) :
    readNumber digit? radix limit (s ++ ext) =
      (readNumber digit? radix limit s).map fun q => (q.1, q.2 ++ ext) := by
  have htake : (s ++ ext).takeWhile (fun c => (digit? c).isSome) =
      s.takeWhile fun c => (digit? c).isSome := by
    rw [List.takeWhile_append]
    split
    · next hall =>
      have hself := (List.takeWhile_prefix fun c => (digit? c).isSome).eq_of_length hall
      rw [hself]
      cases ext with
      | nil => simp
      | cons c ext => rw [List.takeWhile_cons_of_neg (by simp [stops_cons.1 h]), List.append_nil]
    · rfl
  have hdrop : (s ++ ext).drop (s.takeWhile fun c => (digit? c).isSome).length =
      s.drop (s.takeWhile fun c => (digit? c).isSome).length ++ ext :=
    List.drop_append_of_le_length (List.takeWhile_prefix _).length_le
  dsimp only [readNumber]
  rw [htake, hdrop]
  split <;> rfl

theorem expect_append {c : Char} (h : ext.head? ≠ some c) (s : List Char) :
    expect c (s ++ ext) = (expect c s).map (· ++ ext) := by
  cases s with
  | nil =>
    cases ext with
    | nil => rfl
    | cons d ext => exact if_neg fun heq => h (congrArg some heq)
  | cons d s =>
    rw [List.cons_append, expect, expect]
    split <;> rfl

/-- A scanner leaves alone what begins with a character of another class. -/
theorem Scanner.append {read : List Char → Option (α × List Char)} (h : Scanner p read)
    (hext : Stops p ext) (s : List Char) :
    read (s ++ ext) = (read s).map fun q => (q.1, q.2 ++ ext) := by
  induction h generalizing s with
  | pure a => rfl
  | refuse q a =>
    dsimp only
    split <;> rfl
  | number hclass radix limit =>
    refine readNumber_append (fun c hc => ?_) radix limit s
    rw [← Bool.not_eq_true]
    intro hdigit
    have hp := hclass c hdigit
    rw [hext c hc] at hp
    contradiction
  | @expect _ c hc next _ ih =>
    have hhead : ext.head? ≠ some c := fun hhead => by simp [hext c hhead] at hc
    dsimp only
    rw [expect_append hhead]
    cases Net.expect c s with
    | none => rfl
    | some rest => exact ih rest
  | @bind _ _ read next _ _ ih ihnext =>
    dsimp only
    rw [ih s]
    cases read s with
    | none => rfl
    | some q => exact ihnext q.1 q.2

/-- What a scanner takes is of its class. -/
theorem Scanner.exists_eq_append {read : List Char → Option (α × List Char)}
    (h : Scanner p read) {s rest : List Char} {a : α} (hread : read s = some (a, rest)) :
    ∃ front, s = front ++ rest ∧ ∀ c ∈ front, p c = true := by
  induction h generalizing s rest with
  | pure a =>
    cases hread
    exact ⟨[], rfl, by simp⟩
  | refuse q a =>
    dsimp only at hread
    split at hread
    · contradiction
    · cases hread
      exact ⟨[], rfl, by simp⟩
  | number hclass radix limit =>
    dsimp only [readNumber] at hread
    split at hread
    · contradiction
    · cases hread
      refine ⟨_, List.prefix_append_drop (List.takeWhile_prefix _), fun c hc => ?_⟩
      have hdigit := List.mem_takeWhile_imp hc
      exact hclass c hdigit
  | @expect _ c hc next _ ih =>
    obtain ⟨t, ht, hnext⟩ := Option.bind_eq_some_iff.1 hread
    obtain ⟨front, rfl, hfront⟩ := ih hnext
    cases s with
    | nil => contradiction
    | cons d s =>
      rw [Net.expect] at ht
      split at ht
      · next hd =>
        cases ht
        exact ⟨d :: front, rfl, by simpa [hd, hc] using hfront⟩
      · contradiction
  | bind _ _ ih ihnext =>
    obtain ⟨q, hq, hnext⟩ := Option.bind_eq_some_iff.1 hread
    obtain ⟨front, rfl, hfront⟩ := ih hq
    obtain ⟨back, hback, hback'⟩ := ihnext q.1 hnext
    refine ⟨front ++ back, by rw [hback, List.append_assoc], fun c hc => ?_⟩
    rcases List.mem_append.1 hc with hc | hc
    · exact hfront c hc
    · exact hback' c hc

/-- What is of one class is of every class around it. -/
theorem Scanner.mono {q : Char → Bool} {read : List Char → Option (α × List Char)}
    (h : Scanner p read) (hpq : ∀ c, p c = true → q c = true) : Scanner q read := by
  induction h with
  | pure a => exact .pure a
  | refuse r a => exact .refuse r a
  | number hclass radix limit => exact .number (fun c hc => hpq c (hclass c hc)) radix limit
  | expect hc _ ih => exact .expect (hpq _ hc) ih
  | bind _ _ ih ihnext => exact .bind ih ihnext

/-! ### Numbers of an address -/

def isDecimal (c : Char) : Bool := (digit? c).isSome

/-- The characters of dotted addresses. -/
def isDotted (c : Char) : Bool := isDecimal c || c == '.'

def isHexDigit (c : Char) : Bool := (hexDigit? c).isSome

theorem scanner_readOctet : Scanner isDecimal readOctet := by
  have hread : readOctet = fun s => readNumber digit? 10 255 s >>= fun q =>
      if 3 < q.1.1.length ∨ (q.1.1.head? = some '0' ∧ q.1.1 ≠ ['0']) then none
      else some (q.1.2.toUInt8, q.2) := by
    funext s
    unfold readOctet
    cases readNumber digit? 10 255 s <;> rfl
  rw [hread]
  have hdigits : Scanner isDecimal (readNumber digit? 10 255) :=
    .number (fun c hc => hc) 10 255
  refine hdigits.bind fun a => ?_
  exact .refuse (3 < a.1.length ∨ (a.1.head? = some '0' ∧ a.1 ≠ ['0'])) a.2.toUInt8

theorem scanner_readGroup : Scanner isHexDigit readGroup := by
  have hread : readGroup = fun s => readNumber hexDigit? 16 0xFFFF s >>= fun q =>
      if 4 < q.1.1.length then none else some (q.1.2.toUInt16, q.2) := by
    funext s
    unfold readGroup
    cases readNumber hexDigit? 16 0xFFFF s <;> rfl
  rw [hread]
  have hdigits : Scanner isHexDigit (readNumber hexDigit? 16 0xFFFF) :=
    .number (fun c hc => hc) 16 0xFFFF
  refine hdigits.bind fun a => ?_
  exact .refuse (4 < a.1.length) a.2.toUInt16

theorem scanner_readIpv4 : Scanner isDotted readIpv4 := by
  have hdot : isDotted '.' = true := by decide
  have hoctet : Scanner isDotted readOctet :=
    scanner_readOctet.mono fun c hc => by rw [isDotted, hc, Bool.true_or]
  unfold readIpv4
  refine hoctet.bind fun a => ?_
  refine .expect hdot ?_
  refine hoctet.bind fun b => ?_
  refine .expect hdot ?_
  refine hoctet.bind fun c => ?_
  refine .expect hdot ?_
  refine hoctet.bind fun d => ?_
  exact .pure _

/-! ### Groups -/

section Groups

variable (hdotted : Stops isDotted ext) (hhex : Stops isHexDigit ext)
  (hcolon : ext.head? ≠ some ':')
include hdotted hhex hcolon

theorem readGroups_append (room : Nat) (apart : Bool) (s : List Char) :
    readGroups room apart (s ++ ext) =
      ((readGroups room apart s).1, (readGroups room apart s).2 ++ ext) := by
  induction room generalizing apart s with
  | zero => rfl
  | succ room ih =>
    have hstart : (if apart then expect ':' (s ++ ext) else some (s ++ ext)) =
        (if apart then expect ':' s else some s).map (· ++ ext) := by
      split
      · exact expect_append hcolon s
      · rfl
    rw [readGroups, readGroups, hstart]
    cases (if apart then expect ':' s else some s) with
    | none => rfl
    | some t =>
      -- a dotted address is tried only where there is room for two groups
      have hpair : (if room = 0 then none else readIpv4 (t ++ ext)) =
          (if room = 0 then none else readIpv4 t).map fun q => (q.1, q.2 ++ ext) := by
        split
        · rfl
        · exact scanner_readIpv4.append hdotted t
      dsimp only [Option.map_some]
      rw [hpair, scanner_readGroup.append hhex t]
      cases (if room = 0 then none else readIpv4 t) with
      | some q => rfl
      | none =>
        cases readGroup t with
        | none => rfl
        | some q =>
          dsimp only [Option.map_none, Option.map_some]
          rw [ih]

theorem readIpv6_append (s : List Char) :
    readIpv6 (s ++ ext) = (readIpv6 s).map fun q => (q.1, q.2 ++ ext) := by
  have hgroups := readGroups_append hdotted hhex hcolon
  unfold readIpv6
  rw [hgroups]
  obtain ⟨⟨front, dotted⟩, rest⟩ := readGroups 8 false s
  dsimp only
  cases Ipv6.ofGroups? front with
  | some ip => rfl
  | none =>
    cases dotted with
    | true => rfl
    | false =>
      -- the two colons that stand for the groups left out
      dsimp only
      rw [expect_append hcolon]
      cases expect ':' rest with
      | none => rfl
      | some t =>
        simp only [Option.map_some, Option.bind_eq_bind, Option.bind_some, Bool.false_eq_true,
          if_false]
        rw [expect_append hcolon]
        cases expect ':' t with
        | none => rfl
        | some u =>
          simp only [Option.map_some, Option.bind_some]
          rw [hgroups]
          obtain ⟨⟨back, last⟩, after⟩ := readGroups (7 - front.length) false u
          dsimp only
          cases Ipv6.ofGroups?
            (front ++ List.replicate (8 - front.length - back.length) 0 ++ back) <;> rfl

end Groups

/-! ### Colons -/

theorem expect_of_not_mem {c : Char} {s : List Char} (h : c ∉ s) : expect c s = none := by
  cases s with
  | nil => rfl
  | cons d s =>
    refine if_neg fun heq => h ?_
    rw [heq]
    exact List.mem_cons_self

/-- Without a colon there is one group or a dotted address at most. -/
theorem readGroups_of_not_mem {s rest : List Char} (h : ':' ∉ s) {room : Nat}
    {groups : List UInt16} {dotted : Bool}
    (hread : readGroups room false s = ((groups, dotted), rest)) :
    groups.length ≤ 2 ∧ (dotted = false → ':' ∉ rest) := by
  cases room with
  | zero =>
    cases hread
    exact ⟨by simp, fun _ => h⟩
  | succ room =>
    rw [readGroups, if_neg Bool.false_ne_true] at hread
    dsimp only at hread
    split at hread
    · cases hread
      exact ⟨by simp [Ipv4.groups], fun hdotted => by simp at hdotted⟩
    · split at hread
      · cases hread
        exact ⟨by simp, fun _ => h⟩
      · next g after hgroup =>
        obtain ⟨front, rfl, -⟩ := scanner_readGroup.exists_eq_append hgroup
        have hafter : ':' ∉ after := fun hmem => h (List.mem_append_right _ hmem)
        -- a second group would have to come after a colon
        have hstop : readGroups room true after = (([], false), after) := by
          cases room with
          | zero => rfl
          | succ room => rw [readGroups, if_pos rfl, expect_of_not_mem hafter]
        rw [hstop] at hread
        cases hread
        exact ⟨by simp, fun _ => hafter⟩

theorem colon_mem_of_readIpv6 {s rest : List Char} {ip : Ipv6} (h : readIpv6 s = some (ip, rest)) :
    ':' ∈ s := by
  by_contra hcolon
  rcases hread : readGroups 8 false s with ⟨⟨front, dotted⟩, after⟩
  obtain ⟨hlength, hafter⟩ := readGroups_of_not_mem hcolon hread
  rw [readIpv6, hread] at h
  dsimp only at h
  rw [Ipv6.ofGroups?, dif_neg (by omega)] at h
  cases dotted with
  | true => simp at h
  | false => simp [expect_of_not_mem (hafter rfl)] at h

theorem colon_not_mem_of_readIpv4 {s : List Char} {ip : Ipv4} (h : readIpv4 s = some (ip, [])) :
    ':' ∉ s := by
  obtain ⟨front, hfront, hclass⟩ := scanner_readIpv4.exists_eq_append h
  rw [List.append_nil] at hfront
  intro hmem
  have hdotted := hclass ':' (hfront ▸ hmem)
  contradiction

/-! ### Digits -/

section Digits

variable {radix : Nat} (hradix : 1 < radix)
include hradix

theorem forall_mem_toDigits {P : Char → Prop} (h : ∀ d < radix, P d.digitChar) (n : Nat) :
    ∀ c ∈ Nat.toDigits radix n, P c := by
  induction n using Nat.strongRecOn with
  | ind n ih =>
    rw [Nat.toDigits_eq_if hradix]
    split
    · next hn => exact List.forall_mem_singleton.2 (h n hn)
    · next hn =>
      rw [List.forall_mem_append, List.forall_mem_singleton]
      refine ⟨ih _ (Nat.div_lt_self (by omega) hradix), h _ (Nat.mod_lt n (by omega))⟩

theorem foldl_toDigits {digit? : Char → Option Nat} (h : ∀ d < radix, digit? d.digitChar = some d)
    (n : Nat) :
    (Nat.toDigits radix n).foldl (fun m c => m * radix + (digit? c).getD 0) 0 = n := by
  induction n using Nat.strongRecOn with
  | ind n ih =>
    rw [Nat.toDigits_eq_if hradix]
    split
    · next hn => simp [h n hn]
    · next hn =>
      rw [List.foldl_append, ih _ (Nat.div_lt_self (by omega) hradix), List.foldl_cons,
        List.foldl_nil, h _ (Nat.mod_lt n (by omega)), Option.getD_some]
      exact Nat.div_add_mod' n radix

/-- A number is read back from its digits, whatever follows them. -/
theorem readNumber_toDigits {digit? : Char → Option Nat}
    (h : ∀ d < radix, digit? d.digitChar = some d) {n limit : Nat} (hn : n ≤ limit)
    {rest : List Char} (hrest : Stops (fun c => (digit? c).isSome) rest) :
    readNumber digit? radix limit (Nat.toDigits radix n ++ rest) =
      some ((Nat.toDigits radix n, n), rest) := by
  have hdigits : ∀ c ∈ Nat.toDigits radix n, (digit? c).isSome = true :=
    forall_mem_toDigits hradix (fun d hd => by rw [h d hd, Option.isSome_some]) n
  dsimp only [readNumber]
  rw [takeWhile_append_of_stops hdigits hrest, foldl_toDigits hradix h,
    if_neg (by simp [Nat.toDigits_ne_nil, hn]), List.drop_left]

end Digits

theorem digit?_digitChar {d : Nat} (h : d < 10) : digit? d.digitChar = some d := by
  rw [digit?_of_isDigit (by simp [h]), Nat.toNat_digitChar_of_lt_ten h]
  simp

theorem hexDigit?_digitChar {d : Nat} (h : d < 16) : hexDigit? d.digitChar = some d := by
  have hall : ∀ d < 16, hexDigit? d.digitChar = some d := by decide
  exact hall d h

/-- A number is read back from its digits. -/
theorem readNumber_toString {n limit : Nat} (h : n ≤ limit) :
    readNumber digit? 10 limit (toString n).toList = some (((toString n).toList, n), []) := by
  have hread := readNumber_toDigits (by decide) (fun d => digit?_digitChar) h
    (stops_nil fun c => (digit? c).isSome)
  rw [List.append_nil] at hread
  rw [Nat.toString_eq_ofList_toDigits, String.toList_ofList, hread]

/-! ### Ports -/

theorem readPortNumber_toString (port : UInt16) :
    readPortNumber (toString port.toNat).toList = some (port, []) := by
  have hlimit : port.toNat ≤ 65535 := Nat.le_of_lt_succ port.toNat_lt
  rw [readPortNumber, readNumber_toString hlimit]
  simp

/-! ### Literals -/

theorem toList_joinHostPort_of_not_mem {host : String} (h : ':' ∉ host.toList) (port : UInt16) :
    (joinHostPort host port).toList = host.toList ++ ':' :: (toString port.toNat).toList := by
  rw [joinHostPort, if_neg h]
  show (host ++ ":" ++ toString port.toNat).toList = _
  rw [String.toList_append, String.toList_append, List.append_assoc]
  rfl

theorem toList_joinHostPort_of_mem {host : String} (h : ':' ∈ host.toList) (port : UInt16) :
    (joinHostPort host port).toList =
      '[' :: (host.toList ++ ']' :: ':' :: (toString port.toNat).toList) := by
  rw [joinHostPort, if_pos h]
  show ("[" ++ host ++ "]:" ++ toString port.toNat).toList = _
  rw [String.toList_append, String.toList_append, String.toList_append, List.append_assoc]
  rfl

theorem whole_eq_some_iff {read : Option (α × List Char)} {a : α} :
    whole read = some a ↔ read = some (a, []) := by
  rcases read with _ | ⟨b, _ | ⟨c, rest⟩⟩ <;> simp [whole]

theorem IpAddress.parse?_cases {s : List Char} {ip : IpAddress} (h : parse? s = some ip) :
    (∃ a, readIpv4 s = some (a, []) ∧ ip = .v4 a) ∨
      ∃ a, readIpv6 s = some (a, []) ∧ ip = .v6 a := by
  rw [parse?, Option.orElse_eq_some, Option.map_eq_some_iff, Option.map_eq_some_iff] at h
  rcases h with ⟨a, ha, rfl⟩ | ⟨-, a, ha, rfl⟩
  · exact .inl ⟨a, whole_eq_some_iff.1 ha, rfl⟩
  · exact .inr ⟨a, whole_eq_some_iff.1 ha, rfl⟩

/-- Nothing stands in an address but digits, dots and colons. -/
theorem not_mem_of_parse? {c : Char} (hdotted : isDotted c = false) (hhex : isHexDigit c = false)
    (hcolon : c ≠ ':') {s : List Char} {ip : IpAddress} (h : IpAddress.parse? s = some ip) :
    c ∉ s := by
  intro hmem
  obtain ⟨front, back, rfl⟩ := List.append_of_mem hmem
  -- a reader that stops in front of the character leaves it unread
  rcases IpAddress.parse?_cases h with ⟨a, hread, -⟩ | ⟨a, hread, -⟩
  · rw [scanner_readIpv4.append (stops_cons.2 hdotted), Option.map_eq_some_iff] at hread
    obtain ⟨q, -, hrest⟩ := hread
    simp at hrest
  · rw [readIpv6_append (stops_cons.2 hdotted) (stops_cons.2 hhex) (by simpa using hcolon),
      Option.map_eq_some_iff] at hread
    obtain ⟨q, -, hrest⟩ := hread
    simp at hrest

/-- A dotted address holds no colon, so it is written without brackets. -/
theorem readSocketV4_joinHostPort {host : String} {ip : Ipv4}
    (h : readIpv4 host.toList = some (ip, [])) (port : UInt16) :
    readSocketV4 (joinHostPort host port).toList = some (⟨.v4 ip, port⟩, []) := by
  have hport := readPortNumber_toString port
  rw [toList_joinHostPort_of_not_mem (colon_not_mem_of_readIpv4 h)]
  generalize (toString port.toNat).toList = digits at hport ⊢
  have hread : readIpv4 (host.toList ++ ':' :: digits) = some (ip, ':' :: digits) := by
    rw [scanner_readIpv4.append (stops_cons.2 (by decide)), h]
    rfl
  rw [readSocketV4, hread]
  simp [expect, hport]

/-- Any other literal holds one and is written in brackets. -/
theorem readSocketV6_joinHostPort {host : String} {ip : Ipv6}
    (h : readIpv6 host.toList = some (ip, [])) (port : UInt16) :
    readSocketV4 (joinHostPort host port).toList = none ∧
      readSocketV6 (joinHostPort host port).toList = some (⟨.v6 ip, port⟩, []) := by
  have hport := readPortNumber_toString port
  rw [toList_joinHostPort_of_mem (colon_mem_of_readIpv6 h)]
  generalize (toString port.toNat).toList = digits at hport ⊢
  have hread : readIpv6 (host.toList ++ ']' :: ':' :: digits) =
      some (ip, ']' :: ':' :: digits) := by
    rw [readIpv6_append (stops_cons.2 (by decide)) (stops_cons.2 (by decide)) (by simp), h]
    rfl
  constructor
  · rfl
  · rw [readSocketV6]
    simp [expect, hread, skipZone, hport]

/-- A literal with a port is an address with that port. -/
theorem SocketAddress.parse?_joinHostPort {host : String} {ip : IpAddress}
    (h : IpAddress.parse? host.toList = some ip) (port : UInt16) :
    SocketAddress.parse? (joinHostPort host port).toList = some ⟨ip, port⟩ := by
  rw [SocketAddress.parse?]
  rcases IpAddress.parse?_cases h with ⟨a, ha, rfl⟩ | ⟨a, ha, rfl⟩
  · rw [readSocketV4_joinHostPort ha]
    rfl
  · obtain ⟨hdotted, hread⟩ := readSocketV6_joinHostPort ha port
    rw [hdotted, hread]
    rfl

theorem Network.socketAddresses_joinHostPort (network : Network) {host : String} {ip : IpAddress}
    (h : IpAddress.parse? host.toList = some ip) (port : UInt16) :
    network.socketAddresses (joinHostPort host port) = .ok [⟨ip, port⟩] := by
  rw [socketAddresses, SocketAddress.parse?_joinHostPort h]

end ServiceProbe.Net
