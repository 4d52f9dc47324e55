import ServiceProbe.Proofs.Settings.Loaded
import ServiceProbe.Proofs.Settings.Members

/-!
Settings written and read again. The text that is written is one object with all
fields, so it is read member by member; every value comes back as it was, unless a
time is longer than a day, when the text is refused. All that can be loaded can
thus be written and loaded again.
-/

namespace ServiceProbe.Settings

open Text Json

variable {settings : Settings}

/-! ### The object that is written -/

def fieldMember (field : Field) (value : List Char) : Member :=
  .tight (field.name.toList.flatMap writeChar) field.name value

theorem fieldMember_wellFormed (field : Field) (value : List Char) :
    (fieldMember field value).WellFormed :=
  Member.tight_wellFormed (spells_writeChars _) fun hother => absurd rfl (hother field)

def written (settings : Settings) : Document :=
  .tight (Field.all.map fun field => fieldMember field (settings.writeField field))

theorem text_written (settings : Settings) : settings.written.text = settings.toJson := by
  have hmember (field : Field) :
      (fieldMember field (settings.writeField field)).text = settings.writeMember field := by
    simp [fieldMember, Member.tight, Member.text, Member.fromColon, quotedText, writeMember,
      writeText]
  have hmembers :
      settings.written.members.map Member.text = Field.all.map settings.writeMember := by
    rw [written, Document.tight, List.map_map]
    exact List.map_congr_left fun field _ => hmember field
  rw [Document.text, hmembers, toJson]
  simp [written, Document.tight]

theorem mem_written (settings : Settings) (field : Field) :
    fieldMember field (settings.writeField field) ∈ settings.written.members :=
  List.mem_map.2 ⟨field, field.mem_all, rfl⟩

theorem forall_mem_written {P : Member → Prop} :
    (∀ m ∈ settings.written.members, P m) ↔
      ∀ field : Field, P (fieldMember field (settings.writeField field)) := by
  refine ⟨fun h field => h _ (mem_written settings field), fun h m hm => ?_⟩
  obtain ⟨field, -, rfl⟩ := List.mem_map.1 hm
  exact h field

theorem written_wellFormed (settings : Settings) : settings.written.WellFormed := by
  have hdistinct : Field.all.Pairwise fun field other => field.name ≠ other.name := by decide
  exact Document.tight_wellFormed (forall_mem_written.2 fun field => fieldMember_wellFormed _ _)
    (List.pairwise_map.2 (hdistinct.imp fun h heq => absurd heq h))

/-! ### Reading it -/

/-- Values that fit come back. -/
theorem ofJson_toJson_of_fits (h : ∀ field : Field, field.Fits (settings.get field)) :
    ofJson settings.toJson = .ok settings := by
  have hvalues : ∀ m ∈ settings.written.members, ∀ field : Field, m.name = field.name →
      field.Reads m.value (· = settings.get field) := by
    refine forall_mem_written.2 fun field other hname => ?_
    obtain rfl : field = other := Field.name_injective hname
    exact reads_writeField (h field)
  obtain ⟨layer, hread, hpresent, -⟩ := Document.layerOfJson_text settings.written_wellFormed
    (P := fun field _ value => value = settings.get field) hvalues
  have hlayer (field : Field) : layer.get field = some (settings.get field) := by
    obtain ⟨value, hvalue, rfl⟩ := hpresent _ (mem_written settings field) field rfl
    exact hvalue
  have happly : defaults.apply layer = settings := ext_get fun field => by
    rw [get_apply, hlayer, Option.getD_some]
  rw [text_written] at hread
  rw [ofJson, hread]
  exact congrArg Except.ok happly

/-- One value that does not fit is enough for the whole text to be refused. -/
theorem ofJson_toJson_error (hs : settings.Representable)
    (h : ¬ ∀ field : Field, field.Fits (settings.get field)) :
    ∃ problem, ofJson settings.toJson = .error problem := by
  obtain ⟨field, hfield⟩ := not_forall.1 h
  have hrefused : ∃ m ∈ settings.written.members, ∃ field : Field,
      m.name = field.name ∧ field.Refuses m.value :=
    ⟨_, mem_written settings field, field, rfl, refuses_writeField hs hfield⟩
  have hvalues : ∀ m ∈ settings.written.members, ∀ field : Field, m.name = field.name →
      field.Reads m.value (fun _ => True) ∨ field.Refuses m.value := by
    refine forall_mem_written.2 fun other field hname => ?_
    obtain rfl : other = field := Field.name_injective hname
    by_cases hother : other.Fits (settings.get other)
    · exact .inl ((reads_writeField hother).mono fun _ _ => trivial)
    · exact .inr (refuses_writeField hs hother)
  obtain ⟨fault, hfault⟩ :=
    Document.layerOfJson_error settings.written_wellFormed hvalues hrefused
  rw [text_written] at hfault
  exact ⟨fault.message settings.toJson, by rw [ofJson, hfault]⟩

/-- No time is longer than a day. -/
def WithinDay (settings : Settings) : Prop :=
  settings.redisTimeout.nanos ≤ maxSeconds * 10 ^ 9 ∧ settings.timeout.nanos ≤ maxSeconds * 10 ^ 9

theorem withinDay_iff (hs : settings.Representable) :
    settings.WithinDay ↔ ∀ field : Field, field.Fits (settings.get field) := by
  refine ⟨fun h field => ?_, fun h => ⟨h .redisTimeout, h .timeout⟩⟩
  cases field with
  | redisDb => exact hs.redisDb
  | redisTimeout => exact h.1
  | timeout => exact h.2
  | redisHost | redisSocket | redisPassword | ipv4 | ipv6 => trivial

/-- Settings survive being written and read if no time is longer than a day, and are
refused otherwise; so whatever has been loaded survives. -/
theorem ofJson_toJson :
    (∀ settings : Settings, settings.Representable → settings.WithinDay →
      ofJson settings.toJson = .ok settings) ∧
    (∀ settings : Settings, settings.Representable → ¬ settings.WithinDay →
      ∃ problem, ofJson settings.toJson = .error problem) ∧
    ∀ (text : List Char) (settings : Settings), ofJson text = .ok settings →
      settings.WithinDay ∧ ofJson settings.toJson = .ok settings := by
  refine ⟨fun settings hs h => ofJson_toJson_of_fits ((withinDay_iff hs).1 h),
    fun settings hs h => ofJson_toJson_error hs ((withinDay_iff hs).not.1 h),
    fun text settings h => ?_⟩
  have hfits := fits_ofJson h
  exact ⟨⟨hfits .redisTimeout, hfits .timeout⟩, ofJson_toJson_of_fits hfits⟩

/-- A day survives, a nanosecond more does not. -/
theorem ofJson_toJson_about_a_day :
    ofJson { defaults with timeout := day }.toJson = .ok { defaults with timeout := day } ∧
    (∃ problem,
      ofJson { defaults with timeout := ⟨day.nanos + 1⟩ }.toJson = .error problem) ∧
    ofJson "\x7b\x7d".toList = .ok defaults ∧ ofJson defaults.toJson = .ok defaults := by
  have hlong : ¬ WithinDay { defaults with timeout := ⟨day.nanos + 1⟩ } := fun h =>
    absurd h.2 (by decide)
  have hempty : ofJson "\x7b\x7d".toList = .ok defaults := by decide +kernel
  exact ⟨ofJson_toJson.1 _ ⟨by decide, by decide, by decide⟩ ⟨by decide, by decide⟩,
    ofJson_toJson.2.1 _ ⟨by decide, by decide, by decide⟩ hlong, hempty,
    (ofJson_toJson.2.2 _ _ hempty).2⟩

end ServiceProbe.Settings
