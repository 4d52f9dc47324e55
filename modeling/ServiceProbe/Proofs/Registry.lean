import ServiceProbe.Probe.Builtin
import ServiceProbe.Proofs.Text.Order

/-!
The registry as a map that only grows. Registering a name decides what is found
under that name and under no other. After any registrations a name leads to the
probe it was registered with last, or to a built-in one if it never was, and the
names stand in strict order.
-/

namespace ServiceProbe.Registry

open Text

/-- Registers names with their probes, one after the other. -/
def registerAll (registry : Registry) (calls : List (String × Probe)) : Registry :=
  calls.foldl (fun registry call => registry.register call.1 call.2) registry

/-- The last time that the name is registered, it is with the probe. -/
def Latest (calls : List (String × Probe)) (name : String) (probe : Probe) : Prop :=
  ∃ earlier later, calls = earlier ++ (name, probe) :: later ∧ ∀ call ∈ later, call.1 ≠ name

/-- The probes that stand in every registry to begin with. -/
def IsBuiltin (name : String) (probe : Probe) : Prop :=
  name = "dns" ∧ probe = Dns.probe ∨ name = "imaps" ∧ probe = Imap.probe

/-! ### One registration -/

theorem lookup_register (registry : Registry) (name other : String) (probe : Probe) :
    (registry.register name probe).lookup other =
      if other = name then some probe else registry.lookup other := by
  split
  · next h =>
    subst h
    exact lookup_register_self registry other probe
  · next h => exact lookup_register_of_ne registry h probe

theorem lookup_builtin_eq_some_iff {name : String} {probe : Probe} :
    builtin.lookup name = some probe ↔ IsBuiltin name probe := by
  rw [builtin, lookup_register, lookup_register]
  change (if name = "imaps" then some Imap.probe
    else if name = "dns" then some Dns.probe else none) = some probe ↔ _
  by_cases himap : name = "imaps"
  · subst himap
    simp [IsBuiltin, eq_comm]
  · by_cases hdns : name = "dns"
    · subst hdns
      simp [IsBuiltin, eq_comm]
    · simp [IsBuiltin, himap, hdns]

/-! ### Names -/

/-- A name is listed when there is a probe for it. -/
theorem exists_lookup_iff {registry : Registry} {name : String} :
    (∃ probe, registry.lookup name = some probe) ↔ name ∈ registry.names := by
  rw [mem_names, ← Option.isSome_iff_exists, lookup, List.lookup_isSome_iff]
  constructor
  · rintro ⟨⟨known, probe⟩, hmem, hname⟩
    rw [beq_iff_eq.1 hname]
    exact ⟨probe, hmem⟩
  · rintro ⟨probe, hmem⟩
    exact ⟨(name, probe), hmem, beq_self_eq_true name⟩

/-- No name is listed twice, so each one comes before the next. -/
theorem names_increasing (registry : Registry) :
    registry.names.Pairwise fun s t => encode s.toList < encode t.toList := by
  have hnodup : registry.names.Nodup := (sorted_perm _).nodup_iff.2 registry.nodup
  have hsorted : ByteSorted registry.names := byteSorted_sorted _
  refine (hsorted.and hnodup).imp fun {s t} h => ?_
  apply encode_lt_encode_of_lt
  exact lt_of_le_of_ne (encode_le_encode_iff.1 h.1) h.2

/-! ### Many registrations -/

theorem latest_iff {calls : List (String × Probe)} {name : String} {probe : Probe} :
    Latest calls name probe ↔ calls.reverse.lookup name = some probe := by
  rw [List.lookup_eq_some_iff]
  constructor
  · rintro ⟨earlier, later, rfl, hlater⟩
    refine ⟨later.reverse, earlier.reverse, by simp, ?_⟩
    intro call hcall
    exact bne_iff_ne.2 (hlater call (List.mem_reverse.1 hcall)).symm
  · rintro ⟨later, earlier, hcalls, hlater⟩
    refine ⟨earlier.reverse, later.reverse, by simpa using congrArg List.reverse hcalls, ?_⟩
    intro call hcall
    exact (bne_iff_ne.1 (hlater call (List.mem_reverse.1 hcall))).symm

/-- What is found is what was registered last, or else what was there before. -/
theorem lookup_registerAll (registry : Registry) (calls : List (String × Probe)) (name : String) :
    (registry.registerAll calls).lookup name =
      (calls.reverse.lookup name).or (registry.lookup name) := by
  induction calls generalizing registry with
  | nil => rfl
  | cons call calls ih =>
    change ((registry.register call.1 call.2).registerAll calls).lookup name = _
    rw [ih, lookup_register, List.reverse_cons, List.lookup_append, Option.or_assoc,
      List.lookup_cons, List.lookup_nil]
    by_cases hname : name = call.1
    · rw [if_pos hname, beq_iff_eq.2 hname]
      rfl
    · rw [if_neg hname, beq_eq_false_iff_ne.2 hname]
      rfl

/-- No name is ever taken off the list. -/
theorem mem_names_registerAll {registry : Registry} {calls : List (String × Probe)}
    {name : String} : name ∈ (registry.registerAll calls).names ↔
      name ∈ registry.names ∨ ∃ call ∈ calls, call.1 = name := by
  have hcalled : (calls.reverse.lookup name).isSome = true ↔ ∃ call ∈ calls, call.1 = name := by
    rw [List.lookup_isSome_iff]
    simp only [List.mem_reverse, beq_iff_eq, @eq_comm _ name]
  rw [← exists_lookup_iff, ← exists_lookup_iff, ← Option.isSome_iff_exists,
    ← Option.isSome_iff_exists, lookup_registerAll, Option.isSome_or, Bool.or_eq_true, hcalled]
  exact or_comm

theorem mem_names_builtin {name : String} :
    name ∈ builtin.names ↔ name = "dns" ∨ name = "imaps" := by
  rw [← exists_lookup_iff]
  simp only [lookup_builtin_eq_some_iff, IsBuiltin, exists_or, exists_and_left, exists_eq,
    and_true]

/-- A registry to which names were added in any order, some of them more than
once. Its names are the built-in ones and the added ones, in strict order of
their bytes; what is found under a name is the probe of its last registration, or
the built-in one if there was none; and one more registration changes what is
found under its own name only. -/
theorem registered_map (calls : List (String × Probe)) :
    let registry := builtin.registerAll calls
    (registry.names.Pairwise fun s t => encode s.toList < encode t.toList) ∧
    (∀ name, name ∈ registry.names ↔
      name = "dns" ∨ name = "imaps" ∨ ∃ call ∈ calls, call.1 = name) ∧
    (∀ name, (∃ probe, registry.lookup name = some probe) ↔ name ∈ registry.names) ∧
    (∀ name probe, registry.lookup name = some probe ↔
      Latest calls name probe ∨ (∀ call ∈ calls, call.1 ≠ name) ∧ IsBuiltin name probe) ∧
    ∀ name probe other, (registry.register name probe).lookup other =
      if other = name then some probe else registry.lookup other := by
  intro registry
  have hlookup : ∀ name, registry.lookup name =
      (calls.reverse.lookup name).or (builtin.lookup name) := lookup_registerAll builtin calls
  have habsent : ∀ name, calls.reverse.lookup name = none ↔ ∀ call ∈ calls, call.1 ≠ name := by
    intro name
    simp only [List.lookup_eq_none_iff, List.mem_reverse, bne_iff_ne, ne_comm]
  refine ⟨names_increasing registry, ?_, fun _ => exists_lookup_iff, ?_, ?_⟩
  · intro name
    rw [mem_names_registerAll, mem_names_builtin, or_assoc]
  · intro name probe
    rw [hlookup, Option.or_eq_some_iff, latest_iff, habsent, lookup_builtin_eq_some_iff]
  · intro name probe other
    exact lookup_register registry name other probe

end ServiceProbe.Registry
