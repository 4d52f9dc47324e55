import ServiceProbe.Proofs.Net.Literals

/-!
The text of an address is read back as that address. Dotted addresses are four
numbers between dots. Of the others the groups are read from the left as far as they
go: up to the end, or up to the two colons that stand for a run of zeros, whose length
is what the groups on both sides leave. So no two addresses have the same text.
-/

namespace ServiceProbe.Net

open Text

variable {rest : List Char}

/-! ### Dotted addresses -/

/-- Only nought is written with a nought in front. -/
theorem eq_zero_of_head?_toDigits {radix n : Nat} (hradix : 1 < radix)
    (h : (Nat.toDigits radix n).head? = some '0') : n = 0 := by
  induction n using Nat.strongRecOn with
  | ind n ih =>
    rw [Nat.toDigits_eq_if hradix] at h
    split at h
    · simpa using h
    · next hn =>
      rw [List.head?_append_of_ne_nil _ Nat.toDigits_ne_nil] at h
      have hzero := ih _ (Nat.div_lt_self (by omega) hradix) h
      rw [Nat.div_eq_zero_iff] at hzero
      omega

theorem readOctet_text (n : UInt8) (hrest : Stops isDecimal rest) :
    readOctet ((toString n.toNat).toList ++ rest) = some (n, rest) := by
  have hlimit : n.toNat ≤ 255 := Nat.le_of_lt_succ n.toNat_lt
  have hlength : (Nat.toDigits 10 n.toNat).length ≤ 3 :=
    (Nat.length_toDigits_le_iff (by decide) (by decide)).2 (by omega)
  have hread := readNumber_toDigits (by decide) (fun d => digit?_digitChar) hlimit hrest
  have hfits : ¬ (3 < (Nat.toDigits 10 n.toNat).length ∨
      ((Nat.toDigits 10 n.toNat).head? = some '0' ∧ Nat.toDigits 10 n.toNat ≠ ['0'])) := by
    rintro (hlong | ⟨hhead, hne⟩)
    · omega
    · rw [eq_zero_of_head?_toDigits (by decide) hhead, Nat.toDigits_zero] at hne
      exact hne rfl
  rw [Nat.toString_eq_ofList_toDigits, String.toList_ofList, readOctet, hread]
  dsimp only
  rw [if_neg hfits, Nat.toUInt8_eq, UInt8.ofNat_toNat]

theorem Ipv4.toList_text (ip : Ipv4) :
    ip.text.toList = (toString ip.a.toNat).toList ++ '.' :: ((toString ip.b.toNat).toList ++
      '.' :: ((toString ip.c.toNat).toList ++ '.' :: (toString ip.d.toNat).toList)) := by
  simp [Ipv4.text]

theorem readIpv4_text (ip : Ipv4) (hrest : Stops isDecimal rest) :
    readIpv4 (ip.text.toList ++ rest) = some (ip, rest) := by
  have hdot (s : List Char) : Stops isDecimal ('.' :: s) := stops_cons.2 (by decide)
  simp only [Ipv4.toList_text, List.append_assoc, List.cons_append, readIpv4,
    readOctet_text _ (hdot _), readOctet_text _ hrest, expect, Option.bind_eq_bind,
    Option.bind_some, if_true]
  rfl

/-! ### Groups -/

/-- The groups that come after another one. -/
def tailText (groups : List UInt16) : List Char :=
  groups.flatMap fun g => ':' :: lowerHex g.toNat

theorem toList_groupsText_cons (g : UInt16) (groups : List UInt16) :
    (groupsText (g :: groups)).toList = lowerHex g.toNat ++ tailText groups := by
  induction groups generalizing g with
  | nil => simp [groupsText, tailText]
  | cons g' groups ih =>
    have htail : (groupsText (g :: g' :: groups)).toList =
        lowerHex g.toNat ++ ':' :: (groupsText (g' :: groups)).toList := by
      simp [groupsText, String.intercalate_cons_cons]
    rw [htail, ih]
    simp [tailText]

theorem readGroup_text (g : UInt16) (hrest : Stops isHexDigit rest) :
    readGroup (lowerHex g.toNat ++ rest) = some (g, rest) := by
  have hlimit : g.toNat ≤ 0xFFFF := Nat.le_of_lt_succ g.toNat_lt
  have hlength : ¬ 4 < (Nat.toDigits 16 g.toNat).length :=
    not_lt.2 ((Nat.length_toDigits_le_iff (by decide) (by decide)).2 (by omega))
  have hread := readNumber_toDigits (by decide) (fun d => hexDigit?_digitChar) hlimit hrest
  rw [lowerHex, readGroup, hread]
  dsimp only
  rw [if_neg hlength, Nat.toUInt16_eq, UInt16.ofNat_toNat]

theorem forall_mem_lowerHex (n : Nat) : ∀ c ∈ lowerHex n, isHexDigit c = true :=
  forall_mem_toDigits (by decide)
    (fun d hd => by rw [isHexDigit, hexDigit?_digitChar hd, Option.isSome_some]) n

theorem isHexDigit_of_isDecimal {c : Char} (h : isDecimal c = true) : isHexDigit c = true := by
  unfold isDecimal digit? at h
  unfold isHexDigit hexDigit?
  split at h
  · next hc => rw [if_pos hc]; rfl
  · contradiction

/-- A group is not taken for the first number of a dotted address. -/
theorem readIpv4_lowerHex (n : Nat) (hrest : Stops isHexDigit rest) (hdot : rest.head? ≠ some '.') :
    readIpv4 (lowerHex n ++ rest) = none := by
  cases hread : readOctet (lowerHex n ++ rest) with
  | none => rw [readIpv4, hread, Option.bind_eq_bind, Option.bind_none]
  | some q =>
    obtain ⟨a, s⟩ := q
    obtain ⟨front, htext, hfront⟩ := scanner_readOctet.exists_eq_append hread
    have hexpect : expect '.' s = none := by
      cases s with
      | nil => rfl
      | cons d t =>
        apply if_neg
        rintro rfl
        -- the digits of the group would end where those of the number do
        obtain ⟨-, heq⟩ := append_inj_of_stops (forall_mem_lowerHex n)
          (fun c hc => isHexDigit_of_isDecimal (hfront c hc)) hrest (stops_cons.2 (by decide)) htext
        rw [heq] at hdot
        exact hdot rfl
    simp [readIpv4, hread, hexpect]

theorem readGroup_of_stops {s : List Char} (h : Stops isHexDigit s) : readGroup s = none := by
  have htake : s.takeWhile (fun c => (hexDigit? c).isSome) = [] :=
    takeWhile_append_of_stops (w := []) (by simp) h
  simp [readGroup, readNumber, htake]

theorem readIpv4_of_stops {s : List Char} (h : Stops isHexDigit s) : readIpv4 s = none := by
  have hdecimal : Stops isDecimal s := by
    intro c hc
    by_contra hdigit
    have hhex := isHexDigit_of_isDecimal (Bool.of_not_eq_false hdigit)
    rw [h c hc] at hhex
    contradiction
  have htake : s.takeWhile (fun c => (digit? c).isSome) = [] :=
    takeWhile_append_of_stops (w := []) (by simp) hdecimal
  simp [readIpv4, readOctet, readNumber, htake]

theorem readGroups_of_stops {s : List Char} (h : Stops isHexDigit s) (room : Nat) :
    readGroups room false s = (([], false), s) := by
  cases room with
  | zero => rfl
  | succ room => simp [readGroups, readIpv4_of_stops h, readGroup_of_stops h]

/-- What can follow the last group: nothing, or two colons. -/
inductive Closes : List Char → Prop
  | nil : Closes []
  | colons (s : List Char) : Closes (':' :: ':' :: s)

namespace Closes

theorem stops (h : Closes rest) : Stops isHexDigit rest := by
  cases h with
  | nil => exact stops_nil _
  | colons s => exact stops_cons.2 (by decide)

theorem head?_ne (h : Closes rest) : rest.head? ≠ some '.' := by
  cases h <;> simp

theorem readGroups_eq (h : Closes rest) (room : Nat) :
    readGroups room true rest = (([], false), rest) := by
  cases room with
  | zero => rfl
  | succ room =>
    cases h with
    | nil => rfl
    | colons s =>
      have hstops : Stops isHexDigit (':' :: s) := stops_cons.2 (by decide)
      simp [readGroups, expect, readIpv4_of_stops hstops, readGroup_of_stops hstops]

end Closes

/-- One turn of the reader at a group. -/
theorem readGroups_group {apart : Bool} {s : List Char} {g : UInt16} {groups : List UInt16}
    {dotted : Bool} {room : Nat} {after : List Char}
    (hs : (if apart then expect ':' s else some s) = some (lowerHex g.toNat ++ rest))
    (hstops : Stops isHexDigit rest) (hdot : rest.head? ≠ some '.')
    (hrest : readGroups room true rest = ((groups, dotted), after)) :
    readGroups (room + 1) apart s = ((g :: groups, dotted), after) := by
  have hnone : (if room = 0 then none else readIpv4 (lowerHex g.toNat ++ rest)) = none := by
    rw [readIpv4_lowerHex _ hstops hdot, ite_self]
  rw [readGroups, hs]
  dsimp only
  rw [hnone]
  dsimp only
  rw [readGroup_text g hstops]
  dsimp only
  rw [hrest]

theorem stops_tailText (groups : List UInt16) (h : Closes rest) :
    Stops isHexDigit (tailText groups ++ rest) ∧ (tailText groups ++ rest).head? ≠ some '.' := by
  cases groups with
  | nil => exact ⟨h.stops, h.head?_ne⟩
  | cons g groups => exact ⟨stops_cons.2 (by decide), by simp [tailText]⟩

theorem readGroups_tailText {groups : List UInt16} {room : Nat} (hroom : groups.length ≤ room)
    (h : Closes rest) :
    readGroups room true (tailText groups ++ rest) = ((groups, false), rest) := by
  induction groups generalizing room with
  | nil => exact h.readGroups_eq room
  | cons g groups ih =>
    obtain ⟨hstops, hdot⟩ := stops_tailText groups h
    cases room with
    | zero => contradiction
    | succ room =>
      apply readGroups_group _ hstops hdot (ih (Nat.le_of_succ_le_succ hroom))
      simp [tailText, expect]

theorem readGroups_groupsText {groups : List UInt16} {room : Nat} (hroom : groups.length ≤ room)
    (h : Closes rest) :
    readGroups room false ((groupsText groups).toList ++ rest) = ((groups, false), rest) := by
  cases groups with
  | nil => exact readGroups_of_stops h.stops room
  | cons g groups =>
    obtain ⟨hstops, hdot⟩ := stops_tailText groups h
    cases room with
    | zero => contradiction
    | succ room =>
      have htail := readGroups_tailText (Nat.le_of_succ_le_succ hroom) h
      apply readGroups_group _ hstops hdot htail
      rw [toList_groupsText_cons, List.append_assoc]
      rfl

/-! ### Runs of zeros -/

/-- So many zeros stand at this place. -/
def ZerosAt (groups : List UInt16) (run : Nat × Nat) : Prop :=
  groups = groups.take run.1 ++ (List.replicate run.2 0 ++ groups.drop (run.1 + run.2))

theorem zerosAt_takeWhile (groups : List UInt16) (i : Nat) :
    ZerosAt groups (i, ((groups.drop i).takeWhile (· == 0)).length) := by
  have hzeros : (groups.drop i).takeWhile (· == 0) =
      List.replicate ((groups.drop i).takeWhile (· == 0)).length 0 := by
    apply List.eq_replicate_iff.2
    refine ⟨rfl, fun g hg => ?_⟩
    simpa using List.mem_takeWhile_imp hg
  have hprefix := List.prefix_append_drop (List.takeWhile_prefix (l := groups.drop i) (· == 0))
  show groups = groups.take i ++ (_ ++ groups.drop _)
  rw [← hzeros, ← List.drop_drop, ← hprefix, List.take_append_drop]

theorem zerosAt_longestZeroRun (groups : List UInt16) : ZerosAt groups (longestZeroRun groups) := by
  -- whichever run is chosen is one of zeros
  have hfold {runs : List (Nat × Nat)} {best : Nat × Nat} (hbest : ZerosAt groups best)
      (hruns : ∀ run ∈ runs, ZerosAt groups run) :
      ZerosAt groups
        (runs.foldl (fun best run => if best.2 < run.2 then run else best) best) := by
    induction runs generalizing best with
    | nil => exact hbest
    | cons run runs ih =>
      rw [List.forall_mem_cons] at hruns
      rw [List.foldl_cons]
      apply ih _ hruns.2
      split
      · exact hruns.1
      · exact hbest
  apply hfold
  · show groups = groups.take 0 ++ ([] ++ groups.drop 0)
    rfl
  · intro run hrun
    obtain ⟨i, -, rfl⟩ := List.mem_map.1 hrun
    exact zerosAt_takeWhile groups i

/-! ### IPv4-mapped addresses -/

/-- A group is put together again from its two bytes. -/
theorem group_of_bytes (g : UInt16) :
    (g >>> 8).toUInt8.toUInt16 <<< 8 ||| g.toUInt8.toUInt16 = g := by
  apply UInt16.toNat_inj.1
  have hg := g.toNat_lt
  have hlow : g.toNat % 2 ^ 8 < 2 ^ 8 := Nat.mod_lt _ (by decide)
  have hhigh : g.toNat / 2 ^ 8 < 2 ^ 8 := by omega
  have hshift : UInt16.toNat 8 % 16 = 8 := rfl
  rw [UInt16.toNat_or, UInt16.toNat_shiftLeft, UInt8.toNat_toUInt16, UInt8.toNat_toUInt16,
    UInt16.toNat_toUInt8, UInt16.toNat_toUInt8, UInt16.toNat_shiftRight, hshift,
    Nat.shiftRight_eq_div_pow, Nat.mod_eq_of_lt hhigh,
    Nat.mod_eq_of_lt (by rw [Nat.shiftLeft_eq]; omega), ← Nat.shiftLeft_add_eq_or_of_lt hlow,
    Nat.shiftLeft_eq]
  exact Nat.div_add_mod' g.toNat (2 ^ 8)

theorem groups_of_mapped? {ip : Ipv6} {v4 : Ipv4} (h : ip.mapped? = some v4) :
    ip.groups = [0, 0, 0, 0, 0, 0xFFFF] ++ v4.groups := by
  unfold Ipv6.mapped? at h
  split at h
  · next g g' hgroups =>
    cases h
    rw [hgroups, Ipv4.groups, group_of_bytes, group_of_bytes]
    rfl
  · contradiction

/-- A dotted address ends the groups. -/
theorem readGroups_dotted (v4 : Ipv4) (room : Nat) :
    readGroups (room + 2) true (':' :: v4.text.toList) = ((v4.groups, true), []) := by
  have hread := readIpv4_text v4 (stops_nil isDecimal)
  rw [List.append_nil] at hread
  simp [readGroups, expect, hread]

theorem readGroups_mapped (v4 : Ipv4) :
    readGroups 7 false ("ffff:".toList ++ v4.text.toList) = ((0xFFFF :: v4.groups, true), []) := by
  have htext : "ffff:".toList ++ v4.text.toList =
      lowerHex (UInt16.toNat 0xFFFF) ++ ':' :: v4.text.toList := rfl
  rw [htext]
  exact readGroups_group rfl (stops_cons.2 (by decide)) (by simp) (readGroups_dotted v4 4)

/-! ### Whole texts -/

theorem Ipv6.ofGroups?_eq {groups : List UInt16} {ip : Ipv6} (h : groups = ip.groups) :
    Ipv6.ofGroups? groups = some ip := by
  subst h
  exact dif_pos ip.length_groups

/-- The groups left out are zeros, as many as are missing. -/
theorem readIpv6_colons {front back : List UInt16} {s : List Char} {ip : Ipv6} {dotted : Bool}
    (hlength : front.length < 8)
    (hread : readGroups (7 - front.length) false s = ((back, dotted), []))
    (hgroups : front ++ List.replicate (8 - front.length - back.length) 0 ++ back = ip.groups) :
    readIpv6 ((groupsText front).toList ++ ':' :: ':' :: s) = some (ip, []) := by
  have hfront := readGroups_groupsText hlength.le (.colons s)
  have hfew : Ipv6.ofGroups? front = none := dif_neg hlength.ne
  have hall := Ipv6.ofGroups?_eq hgroups
  rw [readIpv6, hfront]
  dsimp only
  rw [hfew]
  simp only [expect, Option.bind_eq_bind, Option.bind_some, if_true, Bool.false_eq_true, if_false,
    hread, hall]
  rfl

theorem readIpv6_mapped {ip : Ipv6} {v4 : Ipv4} (h : ip.mapped? = some v4) :
    readIpv6 ("::ffff:" ++ v4.text).toList = some (ip, []) := by
  have htext : ("::ffff:" ++ v4.text).toList =
      (groupsText []).toList ++ ':' :: ':' :: ("ffff:".toList ++ v4.text.toList) := by
    rw [String.toList_append]
    rfl
  have hread : readGroups (7 - ([] : List UInt16).length) false
      ("ffff:".toList ++ v4.text.toList) = ((0xFFFF :: v4.groups, true), []) :=
    readGroups_mapped v4
  rw [htext]
  apply readIpv6_colons (by decide) hread
  rw [groups_of_mapped? h]
  rfl

theorem readIpv6_whole (ip : Ipv6) : readIpv6 (groupsText ip.groups).toList = some (ip, []) := by
  have hread := readGroups_groupsText ip.length_groups.le .nil
  rw [List.append_nil] at hread
  rw [readIpv6, hread]
  dsimp only
  rw [Ipv6.ofGroups?_eq rfl]
  rfl

/-- A run of two zeros or more is left out. -/
theorem readIpv6_shortened {ip : Ipv6} {start count : Nat} (hcount : 2 ≤ count)
    (h : ZerosAt ip.groups (start, count)) :
    readIpv6 (groupsText (ip.groups.take start) ++ "::" ++
      groupsText (ip.groups.drop (start + count))).toList = some (ip, []) := by
  have hlength := congrArg List.length h
  simp only [List.length_append, List.length_take, List.length_drop, List.length_replicate,
    ip.length_groups] at hlength
  have htake : (ip.groups.take start).length = start := by
    rw [List.length_take, ip.length_groups]
    omega
  have hdrop : (ip.groups.drop (start + count)).length = 8 - (start + count) := by
    rw [List.length_drop, ip.length_groups]
  have hroom : (ip.groups.drop (start + count)).length ≤ 7 - (ip.groups.take start).length := by
    omega
  have hback := readGroups_groupsText hroom .nil
  rw [List.append_nil] at hback
  have htext (front back : String) :
      (front ++ "::" ++ back).toList = front.toList ++ ':' :: ':' :: back.toList := by
    simp [String.toList_append]
  rw [htext]
  apply readIpv6_colons (by omega) hback
  have hleft : 8 - start - (8 - (start + count)) = count := by omega
  rw [htake, hdrop, hleft, List.append_assoc]
  exact h.symm

theorem readIpv6_text (ip : Ipv6) : readIpv6 ip.text.toList = some (ip, []) := by
  unfold Ipv6.text
  split
  · next v4 hmapped => exact readIpv6_mapped hmapped
  · dsimp only
    split
    · exact readIpv6_whole ip
    · next hcount =>
      exact readIpv6_shortened (not_lt.1 hcount) (zerosAt_longestZeroRun ip.groups)

/-- The two kinds of texts are told apart by their colons. -/
theorem IpAddress.parse?_text (ip : IpAddress) : parse? ip.text.toList = some ip := by
  cases ip with
  | v4 a =>
    have hread := readIpv4_text a (stops_nil isDecimal)
    rw [List.append_nil] at hread
    rw [text, parse?, hread]
    rfl
  | v6 a =>
    have hread := readIpv6_text a
    have hdotted : whole (readIpv4 a.text.toList) = none := by
      rw [Option.eq_none_iff_forall_ne_some]
      intro b hb
      apply colon_not_mem_of_readIpv4 (whole_eq_some_iff.1 hb)
      exact colon_mem_of_readIpv6 hread
    rw [text, parse?, hdotted, hread]
    rfl

theorem IpAddress.text_injective {ip ip' : IpAddress} (h : ip.text = ip'.text) : ip = ip' := by
  have hparse := ip.parse?_text
  rw [h, ip'.parse?_text] at hparse
  exact (Option.some.inj hparse).symm

end ServiceProbe.Net
