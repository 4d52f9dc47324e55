import Mathlib
import ServiceProbe.Dns.Wire

/-!
What readers of messages give. A reader is judged by all that it gives, whatever the
message and wherever it stands in it, and the judgment composes as readers do. So
records that were read have complete names, and texts of one string or more.
-/

namespace ServiceProbe.Dns

/-- The data as a message can hold it: names are complete ones, and a text has one
string or more. -/
def RecordData.Complete : RecordData → Prop
  | mx _ exchange => exchange.fqdn = true
  | ns name => name.fqdn = true
  | txt chunks => chunks ≠ []
  | a _ | aaaa _ | other => True

def Record.Complete (record : Record) : Prop :=
  ∀ data, record.data = some data → data.Complete

namespace Wire

variable {α β : Type} {P : α → Prop} {R : β → Prop}

/-- Whatever the reader gives is of this kind. -/
structure Gives (reader : Wire α) (P : α → Prop) : Prop where
  of_ok : ∀ message position a, (reader message position).1 = .ok a → P a

theorem gives_pure {a : α} (h : P a) : Gives (pure a) P := by
  constructor
  intro message position b hb
  cases hb
  exact h

theorem gives_fail (fault : Fault) (P : α → Prop) : Gives (fail fault) P := by
  constructor
  intro message position a ha
  cases ha

theorem bind_apply (reader : Wire α) (next : α → Wire β) (message : Array UInt8)
    (position : Nat) :
    (reader >>= next) message position =
      match reader message position with
      | (.ok a, later) => next a message later
      | (.error fault, later) => (.error fault, later) := by
  simp only [Bind.bind, ReaderT.bind, ExceptT.bind, ExceptT.mk, StateT.bind, ExceptT.bindCont]
  rcases reader message position with ⟨_ | _, _⟩ <;> rfl

theorem Gives.bind {reader : Wire α} {next : α → Wire β} (h : reader.Gives P)
    (hnext : ∀ a, P a → (next a).Gives R) : Gives (reader >>= next) R := by
  constructor
  intro message position b hb
  rw [bind_apply] at hb
  rcases hread : reader message position with ⟨_ | a, later⟩
  · rw [hread] at hb
    cases hb
  · rw [hread] at hb
    have ha : P a := h.of_ok message position a (by rw [hread])
    exact (hnext a ha).of_ok message later b hb

/-- A part that is read and does not matter. -/
theorem Gives.after {next : α → Wire β} (reader : Wire α) (hnext : ∀ a, (next a).Gives R) :
    Gives (reader >>= next) R :=
  Gives.bind (P := fun _ => True) ⟨fun _ _ _ _ => trivial⟩ fun a _ => hnext a

/-- A check that ends the reading when it does not hold. -/
theorem Gives.unless {c : Prop} [Decidable c] {next : Unit → Wire α} (fault : Fault)
    (h : (next ()).Gives P) : Gives (if c then fail fault >>= next else next ()) P := by
  split
  · exact (gives_fail fault fun _ => False).bind fun _ hfalse => hfalse.elim
  · exact h

theorem Gives.measured {reader : Wire α} (h : reader.Gives P) :
    reader.measured.Gives fun result => ∀ a, result.1 = .ok a → P a := by
  constructor
  intro message position result hresult a ha
  cases hresult
  exact h.of_ok message position a ha

/-! ### Data -/

theorem name_gives : name.Gives fun name => name.fqdn = true := by
  constructor
  intro message position name hname
  simp only [Wire.name] at hname
  cases hlabels : (labelsFrom message position position none []).1 with
  | error fault =>
    rw [hlabels] at hname
    cases hname
  | ok labels =>
    rw [hlabels] at hname
    cases hname
    rfl

theorem ne_nil_of_strings_go {message : Array UInt8} {position stop : Nat} {read : List Bytes}
    (h : read ≠ [] ∨ position < stop) {chunks : List Bytes}
    (hread : (strings.go message position stop read).1 = .ok chunks) : chunks ≠ [] := by
  fun_induction strings.go message position stop read with
  | case1 position read hstop =>
    cases hread
    rw [ne_eq, List.reverse_eq_nil_iff]
    exact h.resolve_right (by omega)
  | case2 => cases hread
  | case3 => cases hread
  | case4 position read hstop byte hbyte after hafter ih =>
    apply ih
    · exact .inl (List.cons_ne_nil _ _)
    · exact hread

theorem strings_gives {count : Nat} (h : count ≠ 0) :
    (strings count).Gives fun chunks => chunks ≠ [] := by
  constructor
  intro message position chunks hread
  apply ne_nil_of_strings_go _ hread
  right
  omega

theorem ipv6_gives : ipv6.Gives fun data? => ∀ data, data? = some data → data.Complete := by
  apply Gives.after
  intro groups
  apply gives_pure
  intro data hdata
  obtain ⟨ip, -, rfl⟩ := Option.map_eq_some_iff.1 hdata
  trivial

theorem data_gives (code : Nat) {length : Nat} (h : length ≠ 0) :
    (data code length).Gives fun data? => ∀ data, data? = some data → data.Complete := by
  have hsome {data : RecordData} (hdata : data.Complete) :
      Gives (pure (some data)) fun data? => ∀ data, data? = some data → data.Complete := by
    apply gives_pure
    rintro _ ⟨⟩
    exact hdata
  unfold data
  split
  · exact Gives.after _ fun ip => hsome trivial
  · exact name_gives.bind fun name hname => hsome hname
  · apply Gives.after
    intro preference
    exact name_gives.bind fun name hname => hsome hname
  · exact (strings_gives h).bind fun chunks hchunks => hsome hchunks
  · exact ipv6_gives
  · dsimp only
    split
    · exact Gives.after _ fun _ => hsome trivial
    · split
      · exact Gives.after _ fun _ => hsome trivial
      · exact Gives.after _ fun _ => hsome trivial

theorem boundedData_gives (code : Nat) {length : Nat} (h : length ≠ 0) :
    (boundedData code length).Gives fun data? => ∀ data, data? = some data → data.Complete := by
  unfold boundedData
  apply Gives.unless
  apply (data_gives code h).measured.bind
  rintro ⟨result, consumed⟩ hresult
  apply Gives.unless
  cases result with
  | ok data? => exact gives_pure (hresult data? rfl)
  | error fault => exact gives_fail fault _

/-! ### Records -/

theorem record_gives : record.Gives Record.Complete := by
  unfold record
  apply Gives.after
  intro name
  apply Gives.after
  intro typeCode
  apply Gives.unless
  apply Gives.after
  intro _
  apply Gives.after
  intro ttl
  apply Gives.after
  intro length
  apply Gives.after
  intro ahead
  apply Gives.unless
  dsimp only
  split
  · apply gives_pure
    intro data hdata
    cases hdata
  · next hlength =>
    apply (boundedData_gives _ hlength).bind
    intro data? hdata?
    exact gives_pure hdata?

theorem records_gives (count : Nat) {earlier : List Record} (h : ∀ r ∈ earlier, r.Complete) :
    (records count earlier).Gives fun all => ∀ r ∈ all, r.Complete := by
  induction count generalizing earlier with
  | zero =>
    apply gives_pure
    simpa using h
  | succ count ih =>
    apply record_gives.bind
    intro record hrecord
    apply ih
    rw [List.forall_mem_cons]
    exact ⟨hrecord, h⟩

theorem message_gives : message.Gives fun message => ∀ r ∈ message.answers, r.Complete := by
  unfold message
  apply Gives.after
  intro id
  apply Gives.after
  intro flags
  apply Gives.unless
  apply Gives.after
  intro low
  apply Gives.after
  intro questionCount
  apply Gives.after
  intro answerCount
  apply Gives.after
  intro authorityCount
  apply Gives.after
  intro additionalCount
  apply Gives.after
  intro _
  apply (records_gives answerCount (by simp)).bind
  intro answers hanswers
  apply Gives.after
  intro _
  apply Gives.after
  intro options
  exact gives_pure hanswers

end Wire

theorem Message.complete_of_decode {bytes : Bytes} {message : Message}
    (h : decode bytes = .ok message) : ∀ record ∈ message.answers, record.Complete :=
  Wire.message_gives.of_ok _ _ _ h

end ServiceProbe.Dns
