import ServiceProbe.Probe
import ServiceProbe.Text.Sorted

/-!
The table from protocol names to probes. A later entry takes the place of an
earlier one of the same name; entries are never removed.
-/

namespace ServiceProbe

structure Registry where
  entries : List (String × Probe)
  /-- There is at most one entry for each name. -/
  nodup : (entries.map (·.1)).Nodup

namespace Registry

def empty : Registry := ⟨[], List.nodup_nil⟩

/-- The entries of all names but one. -/
def others (registry : Registry) (name : String) : List (String × Probe) :=
  registry.entries.filter (·.1 != name)

theorem nodup_cons_others (registry : Registry) (name : String) (probe : Probe) :
    (((name, probe) :: registry.others name).map (·.1)).Nodup := by
  rw [List.map_cons, List.nodup_cons]
  constructor
  · simp [others]
  · exact registry.nodup.sublist (List.filter_sublist.map _)

def register (registry : Registry) (name : String) (probe : Probe) : Registry :=
  ⟨(name, probe) :: registry.others name, registry.nodup_cons_others name probe⟩

/-- A fresh instance of the probe of a name. -/
def lookup (registry : Registry) (name : String) : Option Probe :=
  registry.entries.lookup name

/-- All names, in order. -/
def names (registry : Registry) : List String :=
  Text.sorted (registry.entries.map (·.1))

theorem lookup_register_self (registry : Registry) (name : String) (probe : Probe) :
    (registry.register name probe).lookup name = some probe := by
  simp [register, lookup]

theorem lookup_others {name other : String} (h : other ≠ name) (entries : List (String × Probe)) :
    (entries.filter (·.1 != name)).lookup other = entries.lookup other := by
  induction entries with
  | nil => rfl
  | cons entry entries ih =>
    obtain ⟨known, probe⟩ := entry
    by_cases heq : known = name
    · have hne : (other == known) = false := by simpa [heq] using h
      rw [List.filter_cons_of_neg (by simp [heq]), ih, List.lookup_cons, hne]
    · rw [List.filter_cons_of_pos (by simp [heq]), List.lookup_cons, List.lookup_cons, ih]

theorem lookup_register_of_ne (registry : Registry) {name other : String} (h : other ≠ name)
    (probe : Probe) : (registry.register name probe).lookup other = registry.lookup other := by
  have hne : (other == name) = false := by simpa using h
  simp only [register, lookup, List.lookup_cons, hne]
  exact lookup_others h registry.entries

theorem mem_names {registry : Registry} {name : String} :
    name ∈ registry.names ↔ ∃ probe, (name, probe) ∈ registry.entries := by
  simp [names, Text.mem_sorted]

end Registry

end ServiceProbe
