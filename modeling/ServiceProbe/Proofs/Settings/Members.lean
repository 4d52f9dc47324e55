import ServiceProbe.Proofs.Settings.Fields

/-!
The object of a settings file. Its members stand in any order, with white space
around all of their parts; a member is the field of its name, or is passed over if
there is none. What becomes of an object follows from what becomes of one member,
by induction on those that are left. The reader counts members down to end; every
member has a character at least, so the length of the text is enough.
-/

namespace ServiceProbe.Settings

open Text Json

/-! ### Names -/

namespace Field

theorem name_injective : Function.Injective name := by
  intro field other h
  cases field <;> cases other <;> first | rfl | exact absurd h (by decide)

theorem mem_all (field : Field) : field ∈ all := by
  cases field <;> decide

theorem ofName?_name (field : Field) : ofName? field.name = some field := by
  cases field <;> decide

theorem ofName?_eq_none {name : String} (h : ∀ field : Field, name ≠ field.name) :
    ofName? name = none :=
  List.find?_eq_none.2 fun field _ => by simpa using (h field).symm

end Field

/-! ### Texts of objects -/

/-- A member as it is written: a name that `key` spells, a colon and a value. -/
structure Member where
  before : List Char
  key : List Char
  name : String
  beforeColon : List Char
  beforeValue : List Char
  value : List Char
  after : List Char

namespace Member

/-- The member from its colon on, and what follows it. -/
def fromColon (m : Member) (rest : List Char) : List Char :=
  m.beforeColon ++ ':' :: (m.beforeValue ++ (m.value ++ (m.after ++ rest)))

def text (m : Member) : List Char := m.before ++ (quotedText m.key ++ m.fromColon [])

/-- The value of a member that is no field may be any. -/
structure WellFormed (m : Member) : Prop where
  before : Spaces m.before
  key : Spells m.key m.name.toList
  beforeColon : Spaces m.beforeColon
  beforeValue : Spaces m.beforeValue
  value : (∀ field : Field, m.name ≠ field.name) → Valid .value m.value
  after : Spaces m.after

theorem text_append (m : Member) (rest : List Char) :
    m.text ++ rest = m.before ++ '"' :: (m.key ++ '"' :: m.fromColon rest) := by
  simp [text, fromColon, quotedText]

/-- A member without white space. -/
def tight (key : List Char) (name : String) (value : List Char) : Member :=
  ⟨[], key, name, [], [], value, []⟩

theorem tight_wellFormed {key value : List Char} {name : String} (hkey : Spells key name.toList)
    (hvalue : (∀ field : Field, name ≠ field.name) → Valid .value value) :
    (tight key name value).WellFormed :=
  ⟨spaces_nil, hkey, spaces_nil, spaces_nil, hvalue, spaces_nil⟩

end Member

/-- No field is given twice. Members of other names may be. -/
def Once (members : List Member) : Prop :=
  members.Pairwise fun m n => m.name = n.name → ∀ field : Field, m.name ≠ field.name

/-- An object and the white space around it, and in it before its end. -/
structure Document where
  before : List Char
  members : List Member
  inner : List Char
  after : List Char

namespace Document

def text (d : Document) : List Char :=
  d.before ++ '\x7b' :: (((d.members.map Member.text).intersperse [',']).flatten ++
    (d.inner ++ '\x7d' :: d.after))

structure WellFormed (d : Document) : Prop where
  before : Spaces d.before
  inner : Spaces d.inner
  after : Spaces d.after
  members : ∀ m ∈ d.members, m.WellFormed
  once : Once d.members

/-- An object without white space. -/
def tight (members : List Member) : Document := ⟨[], members, [], []⟩

theorem tight_wellFormed {members : List Member} (hmembers : ∀ m ∈ members, m.WellFormed)
    (honce : Once members) : (tight members).WellFormed :=
  ⟨spaces_nil, spaces_nil, spaces_nil, hmembers, honce⟩

end Document

/-- Members that are left to read, each after a comma but the first of all. -/
def joined : (first : Bool) → List Member → List Char
  | _, [] => []
  | first, m :: members => (if first then [] else [',']) ++ (m.text ++ joined false members)

theorem joined_true (members : List Member) :
    joined true members = ((members.map Member.text).intersperse [',']).flatten := by
  cases members with
  | nil => rfl
  | cons m members =>
    induction members generalizing m with
    | nil => simp [joined]
    | cons n members ih =>
      have h := ih n
      simp only [joined, List.map_cons, if_true, List.nil_append] at h ⊢
      simp [h]

theorem length_le_joined (first : Bool) (members : List Member) :
    members.length ≤ (joined first members).length := by
  induction members generalizing first with
  | nil => simp
  | cons m members ih =>
    have h := ih false
    simp only [joined, List.length_cons, List.length_append, Member.text, quotedText]
    omega

/-! ### One member -/

section Step

variable {first : Bool} {room : Nat} {seen : List Field} {layer : Overrides}
  {w rest : List Char} {m : Member}

theorem skipColon_append (hw : Spaces w) : skipColon (w ++ ':' :: rest) = .ok rest := by
  rw [skipColon, skipSpace_append_cons hw (by decide)]
  exact if_pos rfl

theorem nextKey_brace (hw : Spaces w) :
    nextKey first (w ++ '\x7d' :: rest) = .ok (none, '\x7d' :: rest) := by
  rw [nextKey, skipSpace_append_cons hw (by decide)]
  rfl

theorem nextKey_text (hm : m.WellFormed) (hw : Spaces w) :
    nextKey first (w ++ ((if first then [] else [',']) ++ (m.text ++ rest))) =
      .ok (some (m.key ++ '"' :: m.fromColon rest), m.key ++ '"' :: m.fromColon rest) := by
  have hkey := skipSpace_append_cons hm.before (by decide : isSpace '"' = false)
    (m.key ++ '"' :: m.fromColon rest)
  rw [Member.text_append, nextKey]
  cases first with
  | true =>
    have hspace : skipSpace (w ++ ([] ++ (m.before ++ '"' :: (m.key ++ '"' :: m.fromColon rest)))) =
        '"' :: (m.key ++ '"' :: m.fromColon rest) := by
      have hboth : Spaces (w ++ m.before) := List.forall_mem_append.2 ⟨hw, hm.before⟩
      rw [List.nil_append, ← List.append_assoc]
      exact skipSpace_append_cons hboth (by decide) _
    simp only [if_true, hspace]
    rfl
  | false =>
    have hspace : skipSpace (w ++ ',' :: (m.before ++ '"' :: (m.key ++ '"' :: m.fromColon rest))) =
        ',' :: (m.before ++ '"' :: (m.key ++ '"' :: m.fromColon rest)) :=
      skipSpace_append_cons hw (by decide) _
    simp [hspace, hkey]

/-- What is read after the name of a member. -/
def afterName (room : Nat) (seen : List Field) (layer : Overrides) (name : String) :
    ReadField Overrides := fun s => do
  match Field.ofName? name with
  | none =>
    let rest ← place (skipColon s)
    let rest ← place (skipValue rest)
    readMembers room false seen layer rest
  | some field =>
    if field ∈ seen then throw (.unplaced (.duplicateField field.name) s)
    let rest ← place (skipColon s)
    let (layer, rest) ← readField field layer rest
    readMembers room false (field :: seen) layer rest

theorem readMembers_text (hm : m.WellFormed) (hw : Spaces w) :
    readMembers (room + 1) first seen layer
        (w ++ ((if first then [] else [',']) ++ (m.text ++ rest))) =
      afterName room seen layer m.name (m.fromColon rest) := by
  rw [readMembers, nextKey_text hm hw]
  simp only [place, bind, Except.bind, readString_append hm.key, List.reverse_nil, List.nil_append,
    String.ofList_toList]
  rfl

theorem readMembers_other (hm : m.WellFormed) (hw : Spaces w)
    (hname : ∀ field : Field, m.name ≠ field.name) (hrest : Stops continues (m.after ++ rest)) :
    readMembers (room + 1) first seen layer
        (w ++ ((if first then [] else [',']) ++ (m.text ++ rest))) =
      readMembers room false seen layer (m.after ++ rest) := by
  rw [readMembers_text hm hw, afterName, Field.ofName?_eq_none hname, Member.fromColon]
  simp only [skipColon_append hm.beforeColon, place, bind, Except.bind,
    skipValue_append hm.beforeValue (hm.value hname) hrest]

theorem readMembers_seen (hm : m.WellFormed) (hw : Spaces w) {field : Field}
    (hname : m.name = field.name) (hseen : field ∈ seen) :
    ∃ refusal, readMembers (room + 1) first seen layer
      (w ++ ((if first then [] else [',']) ++ (m.text ++ rest))) = .error refusal := by
  rw [readMembers_text hm hw, afterName, hname, Field.ofName?_name]
  simp only [if_pos hseen]
  exact ⟨_, rfl⟩

theorem readMembers_field (hm : m.WellFormed) (hw : Spaces w) {field : Field}
    (hname : m.name = field.name) (hseen : field ∉ seen) :
    readMembers (room + 1) first seen layer
        (w ++ ((if first then [] else [',']) ++ (m.text ++ rest))) =
      (readField field layer (m.beforeValue ++ (m.value ++ (m.after ++ rest)))).bind
        fun (layer, rest) => readMembers room false (field :: seen) layer rest := by
  rw [readMembers_text hm hw, afterName, hname, Field.ofName?_name, Member.fromColon]
  simp only [if_neg hseen, skipColon_append hm.beforeColon, place, bind, Except.bind]

end Step

/-! ### All members -/

section Run

variable {seen : List Field} {w inner : List Char} {members : List Member}

/-- Where a value ends there is a comma or the end of the object. -/
theorem stops_joined (members : List Member) (rest : List Char) {after : List Char}
    (hafter : Spaces after) (hinner : Spaces inner) :
    Stops continues (after ++ (joined false members ++ (inner ++ '\x7d' :: rest))) := by
  cases members with
  | nil => exact stops_continues hafter (stops_spaces_cons hinner (by decide) rest)
  | cons m members => exact stops_spaces_cons hafter (by decide) _

/-- Members that can be read are read into their fields, and nothing else is. -/
theorem readMembers_joined {P : (field : Field) → List Char → field.Value → Prop}
    (hmembers : ∀ m ∈ members, m.WellFormed)
    (hvalues : ∀ m ∈ members, ∀ field : Field, m.name = field.name →
      field.Reads m.value (P field m.value))
    (honce : Once members) (hseen : ∀ m ∈ members, ∀ field ∈ seen, m.name ≠ field.name)
    (hw : Spaces w) (hinner : Spaces inner) {room : Nat} (hroom : members.length < room)
    (first : Bool) (layer : Overrides) (rest : List Char) :
    ∃ layer', readMembers room first seen layer
        (w ++ (joined first members ++ (inner ++ '\x7d' :: rest))) = .ok (layer', '\x7d' :: rest) ∧
      (∀ m ∈ members, ∀ field : Field, m.name = field.name →
        ∃ value, layer'.get field = some value ∧ P field m.value value) ∧
      ∀ field : Field, (∀ m ∈ members, m.name ≠ field.name) →
        layer'.get field = layer.get field := by
  induction members generalizing room first seen layer w with
  | nil =>
    obtain ⟨room, rfl⟩ : ∃ k, room = k + 1 := ⟨room - 1, by simp at hroom; omega⟩
    refine ⟨layer, ?_, by simp, fun _ _ => rfl⟩
    have hboth : Spaces (w ++ inner) := List.forall_mem_append.2 ⟨hw, hinner⟩
    rw [joined, List.nil_append, ← List.append_assoc, readMembers, nextKey_brace hboth]
    rfl
  | cons m members ih =>
    obtain ⟨room, rfl⟩ : ∃ k, room = k + 1 := ⟨room - 1, by simp at hroom; omega⟩
    rw [List.length_cons, Nat.add_lt_add_iff_right] at hroom
    obtain ⟨hm, hmembers⟩ := List.forall_mem_cons.1 hmembers
    obtain ⟨hvalue, hvalues⟩ := List.forall_mem_cons.1 hvalues
    obtain ⟨hfirst, honce⟩ := List.pairwise_cons.1 honce
    obtain ⟨hnew, hseen⟩ := List.forall_mem_cons.1 hseen
    have hstops := stops_joined members rest hm.after hinner
    rw [joined, List.append_assoc, List.append_assoc]
    by_cases hname : ∃ field : Field, m.name = field.name
    · obtain ⟨field, hname⟩ := hname
      obtain ⟨value, hP, hread⟩ :=
        hvalue field hname m.beforeValue layer _ hm.beforeValue hstops
      -- no later member has the name of this one
      have hlater : ∀ n ∈ members, n.name ≠ field.name := fun n hn hn' =>
        hfirst n hn (hname.trans hn'.symm) field hname
      have hseen' : ∀ n ∈ members, ∀ other ∈ field :: seen, n.name ≠ other.name := fun n hn =>
        List.forall_mem_cons.2 ⟨hlater n hn, hseen n hn⟩
      obtain ⟨layer', hrun, hpresent, habsent⟩ :=
        ih hmembers hvalues honce hseen' hm.after hroom false (layer.set field value)
      rw [readMembers_field hm hw hname fun h => hnew field h hname, hread, Except.bind]
      refine ⟨layer', hrun, fun n hn other hother => ?_, fun other hother => ?_⟩
      · rcases List.mem_cons.1 hn with rfl | hn
        · obtain rfl : field = other := Field.name_injective (hname.symm.trans hother)
          exact ⟨value, by rw [habsent field hlater, Overrides.get_set_self], hP⟩
        · exact hpresent n hn other hother
      · rw [habsent other fun n hn => hother n (by simp [hn])]
        refine Overrides.get_set_of_ne layer ?_ value
        rintro rfl
        exact hother m (by simp) hname
    · rw [not_exists] at hname
      obtain ⟨layer', hrun, hpresent, habsent⟩ :=
        ih hmembers hvalues honce hseen hm.after hroom false layer
      rw [readMembers_other hm hw hname hstops]
      refine ⟨layer', hrun, fun n hn other hother => ?_, fun other hother =>
        habsent other fun n hn => hother n (by simp [hn])⟩
      rcases List.mem_cons.1 hn with rfl | hn
      · exact absurd hother (hname other)
      · exact hpresent n hn other hother

/-- Members of which one is refused are refused. -/
theorem readMembers_error (hmembers : ∀ m ∈ members, m.WellFormed)
    (hvalues : ∀ m ∈ members, ∀ field : Field, m.name = field.name →
      field.Reads m.value (fun _ => True) ∨ field.Refuses m.value)
    (hrefused : ∃ m ∈ members, ∃ field : Field, m.name = field.name ∧ field.Refuses m.value)
    (hw : Spaces w) (hinner : Spaces inner) {room : Nat} (hroom : members.length < room)
    (first : Bool) (seen : List Field) (layer : Overrides) (rest : List Char) :
    ∃ refusal, readMembers room first seen layer
      (w ++ (joined first members ++ (inner ++ '\x7d' :: rest))) = .error refusal := by
  induction members generalizing room first seen layer w with
  | nil =>
    obtain ⟨m, hm, -⟩ := hrefused
    cases hm
  | cons m members ih =>
    obtain ⟨room, rfl⟩ : ∃ k, room = k + 1 := ⟨room - 1, by simp at hroom; omega⟩
    rw [List.length_cons, Nat.add_lt_add_iff_right] at hroom
    have hm := hmembers m (by simp)
    have hstops := stops_joined members rest hm.after hinner
    rw [joined, List.append_assoc, List.append_assoc]
    have hlater (hread : ∀ field : Field, m.name = field.name → ¬ field.Refuses m.value)
        (seen : List Field) (layer : Overrides) :
        ∃ refusal, readMembers room false seen layer
          (m.after ++ (joined false members ++ (inner ++ '\x7d' :: rest))) = .error refusal := by
      refine ih (fun n hn => hmembers n (by simp [hn])) (fun n hn => hvalues n (by simp [hn])) ?_
        hm.after hroom false seen layer
      obtain ⟨n, hn, field, hname, hrefuses⟩ := hrefused
      rcases List.mem_cons.1 hn with rfl | hn
      · exact absurd hrefuses (hread field hname)
      · exact ⟨n, hn, field, hname, hrefuses⟩
    by_cases hname : ∃ field : Field, m.name = field.name
    · obtain ⟨field, hname⟩ := hname
      by_cases hseen : field ∈ seen
      · exact readMembers_seen hm hw hname hseen
      rw [readMembers_field hm hw hname hseen]
      by_cases hrefuses : field.Refuses m.value
      · obtain ⟨refusal, hread⟩ := hrefuses m.beforeValue layer _ hm.beforeValue hstops
        exact ⟨refusal, by rw [hread, Except.bind]⟩
      · have hreads := (hvalues m (by simp) field hname).resolve_right hrefuses
        obtain ⟨value, -, hread⟩ := hreads m.beforeValue layer _ hm.beforeValue hstops
        rw [hread, Except.bind]
        refine hlater (fun other hother => ?_) _ _
        rwa [← Field.name_injective (hname.symm.trans hother)]
    · rw [not_exists] at hname
      rw [readMembers_other hm hw hname hstops]
      exact hlater (fun field h => absurd h (hname field)) _ _

end Run

/-! ### Whole objects -/

namespace Document

variable {d : Document}

theorem readLayer_text (hd : d.WellFormed) :
    readLayer d.text =
      (settle leaveObject (readMembers
        ((joined true d.members ++ (d.inner ++ '\x7d' :: d.after)).length + 1) true [] .none
        (joined true d.members ++ (d.inner ++ '\x7d' :: d.after)))).bind
          fun (layer, rest) => .ok (layer, leaveObject rest) := by
  rw [text, readLayer, skipSpace_append_cons hd.before (by decide), ← joined_true]
  rfl

theorem length_members_lt (d : Document) :
    d.members.length < (joined true d.members ++ (d.inner ++ '\x7d' :: d.after)).length + 1 := by
  have h := length_le_joined true d.members
  rw [List.length_append]
  omega

/-- The layer of an object has the values of its members and no others. -/
theorem layerOfJson_text (hd : d.WellFormed)
    {P : (field : Field) → List Char → field.Value → Prop}
    (hvalues : ∀ m ∈ d.members, ∀ field : Field, m.name = field.name →
      field.Reads m.value (P field m.value)) :
    ∃ layer, layerOfJson d.text = .ok layer ∧
      (∀ m ∈ d.members, ∀ field : Field, m.name = field.name →
        ∃ value, layer.get field = some value ∧ P field m.value value) ∧
      ∀ field : Field, (∀ m ∈ d.members, m.name ≠ field.name) → layer.get field = none := by
  obtain ⟨layer, hrun, hpresent, habsent⟩ := readMembers_joined hd.members hvalues hd.once
    (fun _ _ => List.forall_mem_nil _) spaces_nil hd.inner d.length_members_lt true .none d.after
  have hleave : leaveObject ('\x7d' :: d.after) = d.after := rfl
  have hend : skipSpace d.after = [] := by
    have h := skipSpace_append hd.after (stops_nil isSpace)
    rwa [List.append_nil] at h
  refine ⟨layer, ?_, hpresent, fun field h => (habsent field h).trans (Overrides.get_none field)⟩
  rw [List.nil_append] at hrun
  rw [layerOfJson, readLayer_text hd, hrun, settle]
  simp only [bind, Except.bind, hleave, hend]
  rfl

theorem layerOfJson_error (hd : d.WellFormed)
    (hvalues : ∀ m ∈ d.members, ∀ field : Field, m.name = field.name →
      field.Reads m.value (fun _ => True) ∨ field.Refuses m.value)
    (hrefused : ∃ m ∈ d.members, ∃ field : Field, m.name = field.name ∧ field.Refuses m.value) :
    ∃ fault, layerOfJson d.text = .error fault := by
  obtain ⟨refusal, hrun⟩ := readMembers_error hd.members hvalues hrefused spaces_nil hd.inner
    d.length_members_lt true [] .none d.after
  rw [List.nil_append] at hrun
  rw [layerOfJson, readLayer_text hd, hrun]
  cases refusal with
  | placed fault => exact ⟨fault, rfl⟩
  | unplaced cause rest => exact ⟨.here cause (leaveObject rest), rfl⟩

end Document

end ServiceProbe.Settings
