import ClassLowering.Host.Profile
import ClassLowering.Proofs.Json.DistinctNames

/-!
# Loading profiles

A document describes a profile if it is an object of documented fields. The preset decides what the other
fields override, wherever it stands, so that the order of the fields does not matter, as long as no two have
one name. A document that is refused is refused for its preset, or else for the first field that is wrong.
-/

namespace ClassLowering

/-! ## Names -/

section Names

variable {α : Type} {all : List α} {name : α → String}
  (finds : ∀ item, all.find? (fun other => name other == name item) = some item)
include finds

/-- If every name finds its own, a search finds what has the name. -/
theorem find?_name_eq_some_iff {text : String} {item : α} :
    all.find? (fun other => name other == text) = some item ↔ text = name item := by
  refine ⟨fun found => ?_, ?_⟩
  · have same := List.find?_some found
    exact (eq_of_beq same).symm
  · rintro rfl
    exact finds item

theorem injective_of_find?_name {first second : α} (same : name first = name second) : first = second := by
  have found := finds first
  rw [same, finds second] at found
  exact (Option.some.inj found).symm

end Names

theorem Preset.ofName?_name (preset : Preset) : ofName? preset.name = some preset := by
  cases preset <;> rfl

theorem ReflectSupport.ofName?_name (support : ReflectSupport) : ofName? support.name = some support := by
  cases support <;> rfl

theorem Facility.ofName?_name (facility : Facility) : ofName? facility.name = some facility := by
  cases facility <;> rfl

theorem Preset.ofName?_eq_some_iff {text : String} {preset : Preset} :
    ofName? text = some preset ↔ text = preset.name :=
  find?_name_eq_some_iff ofName?_name

theorem ReflectSupport.ofName?_eq_some_iff {text : String} {support : ReflectSupport} :
    ofName? text = some support ↔ text = support.name :=
  find?_name_eq_some_iff ofName?_name

theorem Facility.ofName?_eq_some_iff {text : String} {facility : Facility} :
    ofName? text = some facility ↔ text = facility.name :=
  find?_name_eq_some_iff ofName?_name

theorem Facility.name_ne (facility : Facility) : facility.name ≠ "preset" ∧ facility.name ≠ "reflect" := by
  cases facility <;> decide

/-! ## Fields -/

variable {fields others : List (String × Json)} {field : String × Json}

namespace Profile

/-- Whether a host has a facility. -/
def offers (profile : Profile) : Facility → Bool
  | .objectGetPrototypeOf => profile.objectGetPrototypeOf
  | .objectSetPrototypeOf => profile.objectSetPrototypeOf
  | .legacyProtoAccessor => profile.legacyProtoAccessor
  | .proxy => profile.proxy

theorem offers_setFacility (profile : Profile) (facility other : Facility) (offered : Bool) :
    (profile.setFacility facility offered).offers other =
      if other = facility then offered else profile.offers other := by
  cases facility <;> cases other <;> rfl

theorem reflect_setFacility (profile : Profile) (facility : Facility) (offered : Bool) :
    (profile.setFacility facility offered).reflect = profile.reflect := by
  cases facility <;> rfl

/-- A profile is what it offers. -/
theorem eq_of_offers {first second : Profile}
    (offers : ∀ facility, first.offers facility = second.offers facility)
    (reflect : first.reflect = second.reflect) : first = second := by
  obtain ⟨_, _, _, _, _⟩ := first
  obtain ⟨_, _, _, _, _⟩ := second
  cases offers .objectGetPrototypeOf
  cases offers .objectSetPrototypeOf
  cases offers .legacyProtoAccessor
  cases offers .proxy
  cases reflect
  rfl

/-- The fields that a profile may have. -/
inductive Documented : String × Json → Prop
  | preset (preset : Preset) : Documented ("preset", .string preset.name)
  | facility (facility : Facility) (offered : Bool) : Documented (facility.name, .boolean offered)
  | reflect (support : ReflectSupport) : Documented ("reflect", .string support.name)

/-- What is wrong with the preset. -/
inductive PresetRefused : Json → ProfileError → Prop
  | kind {value : Json} (wrong : ∀ text, value ≠ .string text) : PresetRefused value .presetNotAString
  | name {text : String} (unknown : ∀ preset : Preset, text ≠ preset.name) :
      PresetRefused (.string text) (.unknownPreset text)

/-- What is wrong with a field other than the preset. -/
inductive Refused : String × Json → ProfileError → Prop
  | name {key : String} {value : Json} (other : key ≠ "preset" ∧ key ≠ "reflect")
      (unknown : ∀ facility : Facility, key ≠ facility.name) : Refused (key, value) (.unknownKey key)
  | facility (facility : Facility) {value : Json} (wrong : ∀ offered, value ≠ .boolean offered) :
      Refused (facility.name, value) (.notABoolean facility.name)
  | reflectKind {value : Json} (wrong : ∀ text, value ≠ .string text) :
      Refused ("reflect", value) .reflectNotAString
  | reflectName {text : String} (unknown : ∀ support : ReflectSupport, text ≠ support.name) :
      Refused ("reflect", .string text) (.unknownReflect text)

/-- What a field makes of a profile. -/
inductive Overrides (profile : Profile) : String × Json → Profile → Prop
  | preset {value : Json} : Overrides profile ("preset", value) profile
  | facility (facility : Facility) (offered : Bool) :
      Overrides profile (facility.name, .boolean offered) (profile.setFacility facility offered)
  | reflect (support : ReflectSupport) :
      Overrides profile ("reflect", .string support.name) { profile with reflect := support }

variable {profile next base first second result : Profile} {error : ProfileError}

theorem Overrides.override_eq (overrides : profile.Overrides field next) :
    profile.override field = .ok next := by
  unfold override
  cases overrides with
  | preset => exact if_pos rfl
  | facility facility offered =>
      obtain ⟨notPreset, notReflect⟩ := facility.name_ne
      simp only [if_neg notPreset, if_neg notReflect, Facility.ofName?_eq_some_iff.mpr rfl, Json.boolean?]
  | reflect support =>
      have notPreset : "reflect" ≠ "preset" := by decide
      simp only [if_neg notPreset, if_true, Json.string?, ReflectSupport.ofName?_eq_some_iff.mpr rfl]

theorem Refused.override_eq (refused : Refused field error) (profile : Profile) :
    profile.override field = .error error := by
  have notPreset : "reflect" ≠ "preset" := by decide
  unfold override
  cases refused with
  | name other unknown =>
      have nameless : Facility.ofName? _ = none := Option.eq_none_iff_forall_ne_some.mpr
        fun facility named => unknown facility (Facility.ofName?_eq_some_iff.mp named)
      simp only [if_neg other.1, if_neg other.2, nameless]
  | @facility facility value wrong =>
      obtain ⟨notPreset, notReflect⟩ := facility.name_ne
      have unread : value.boolean? = none := by
        cases value with
        | boolean offered => exact absurd rfl (wrong offered)
        | _ => rfl
      simp only [if_neg notPreset, if_neg notReflect, Facility.ofName?_eq_some_iff.mpr rfl, unread]
  | @reflectKind value wrong =>
      have unread : value.string? = none := by
        cases value with
        | string text => exact absurd rfl (wrong text)
        | _ => rfl
      simp only [if_neg notPreset, if_true, unread]
  | reflectName unknown =>
      have nameless : ReflectSupport.ofName? _ = none := Option.eq_none_iff_forall_ne_some.mpr
        fun support named => unknown support (ReflectSupport.ofName?_eq_some_iff.mp named)
      simp only [if_neg notPreset, if_true, Json.string?, nameless]

/-- A field overrides something, or it is refused. -/
theorem overrides_or_refused (profile : Profile) (field : String × Json) :
    (∃ next, profile.Overrides field next) ∨ ∃ error, Refused field error := by
  obtain ⟨key, value⟩ := field
  by_cases preset : key = "preset"
  · subst preset
    exact .inl ⟨profile, .preset⟩
  by_cases reflect : key = "reflect"
  · subst reflect
    cases value with
    | string text =>
        by_cases known : ∃ support : ReflectSupport, text = support.name
        · obtain ⟨support, rfl⟩ := known
          exact .inl ⟨_, .reflect support⟩
        · exact .inr ⟨_, .reflectName fun support named => known ⟨support, named⟩⟩
    | _ => exact .inr ⟨_, .reflectKind nofun⟩
  by_cases known : ∃ facility : Facility, key = facility.name
  · obtain ⟨facility, rfl⟩ := known
    cases value with
    | boolean offered => exact .inl ⟨_, .facility facility offered⟩
    | _ => exact .inr ⟨_, .facility facility nofun⟩
  · exact .inr ⟨_, .name ⟨preset, reflect⟩ fun facility named => known ⟨facility, named⟩⟩

theorem override_eq_ok_iff : profile.override field = .ok next ↔ profile.Overrides field next := by
  refine ⟨fun ran => ?_, Overrides.override_eq⟩
  rcases profile.overrides_or_refused field with ⟨other, overrides⟩ | ⟨error, refused⟩
  · rw [overrides.override_eq] at ran
    cases ran
    exact overrides
  · rw [refused.override_eq] at ran
    cases ran

theorem override_eq_error_iff : profile.override field = .error error ↔ Refused field error := by
  refine ⟨fun ran => ?_, fun refused => refused.override_eq profile⟩
  rcases profile.overrides_or_refused field with ⟨next, overrides⟩ | ⟨other, refused⟩
  · rw [overrides.override_eq] at ran
    cases ran
  · rw [refused.override_eq] at ran
    cases ran
    exact refused

/-! ## All fields -/

/-- The first field that is refused, with what is wrong with it. -/
def FirstRefused (fields : List (String × Json)) (error : ProfileError) : Prop :=
  ∃ before field after, fields = before ++ field :: after ∧
    (∀ earlier ∈ before, ∀ wrong, ¬ Refused earlier wrong) ∧ Refused field error

/-- What fields make of a profile: they decide what they name and leave the rest. -/
structure Settles (fields : List (String × Json)) (base result : Profile) : Prop where
  offers : ∀ facility offered, (facility.name, .boolean offered) ∈ fields →
    result.offers facility = offered
  keeps : ∀ facility, facility.name ∉ fields.map Prod.fst →
    result.offers facility = base.offers facility
  reflect : ∀ support : ReflectSupport, ("reflect", .string support.name) ∈ fields →
    result.reflect = support
  keepsReflect : "reflect" ∉ fields.map Prod.fst → result.reflect = base.reflect

theorem FirstRefused.cons (passes : ∀ wrong, ¬ Refused field wrong) (later : FirstRefused fields error) :
    FirstRefused (field :: fields) error := by
  obtain ⟨before, refused, after, rfl, sound, wrong⟩ := later
  exact ⟨field :: before, refused, after, rfl, List.forall_mem_cons.mpr ⟨passes, sound⟩, wrong⟩

theorem firstRefused_cons_iff : FirstRefused (field :: fields) error ↔
    Refused field error ∨ (∀ wrong, ¬ Refused field wrong) ∧ FirstRefused fields error := by
  constructor
  · rintro ⟨before, refused, after, split_eq, sound, wrong⟩
    cases before with
    | nil =>
        cases split_eq
        exact .inl wrong
    | cons earlier before =>
        cases split_eq
        obtain ⟨passes, sound⟩ := List.forall_mem_cons.mp sound
        exact .inr ⟨passes, before, refused, after, rfl, sound, wrong⟩
  · rintro (refused | ⟨passes, later⟩)
    · exact ⟨[], field, fields, rfl, nofun, refused⟩
    · exact later.cons passes

theorem Overrides.not_refused (overrides : profile.Overrides field next) (wrong : ProfileError) :
    ¬ Refused field wrong := fun refused => by
  have ran := refused.override_eq profile
  rw [overrides.override_eq] at ran
  cases ran

/-- Overriding fails at the first field that is refused. -/
theorem foldlM_override_eq_error_iff :
    fields.foldlM override profile = .error error ↔ FirstRefused fields error := by
  induction fields generalizing profile with
  | nil =>
      refine ⟨nofun, ?_⟩
      rintro ⟨before, _, _, split_eq, _⟩
      cases before <;> cases split_eq
  | cons field fields ih =>
      rw [List.foldlM_cons, firstRefused_cons_iff]
      cases ran : profile.override field with
      | ok next =>
          have passes := (override_eq_ok_iff.mp ran).not_refused
          exact ih.trans ⟨fun later => .inr ⟨passes, later⟩,
            fun some => some.elim (fun refused => absurd refused (passes error)) And.right⟩
      | error wrong =>
          have refused := override_eq_error_iff.mp ran
          refine ⟨fun same => ?_, ?_⟩
          · cases same
            exact .inl refused
          · rintro (also | ⟨passes, _⟩)
            · cases ran.symm.trans (override_eq_error_iff.mpr also)
              rfl
            · exact absurd refused (passes wrong)

/-- A field settles what it names. -/
theorem Overrides.settles (overrides : base.Overrides field next) : Settles [field] base next := by
  cases overrides with
  | preset =>
      refine ⟨fun facility offered listed => ?_, fun _ _ => rfl, fun support listed => ?_, fun _ => rfl⟩
      · exact absurd (congrArg Prod.fst (List.mem_singleton.mp listed)) facility.name_ne.1
      · have same : "reflect" = "preset" := congrArg Prod.fst (List.mem_singleton.mp listed)
        exact absurd same (by decide)
  | facility named offeredNow =>
      refine ⟨fun facility offered listed => ?_, fun facility unlisted => ?_, fun support listed => ?_,
        fun _ => reflect_setFacility ..⟩
      · obtain ⟨sameName, sameValue⟩ := Prod.mk.inj (List.mem_singleton.mp listed)
        cases injective_of_find?_name Facility.ofName?_name sameName
        cases sameValue
        rw [offers_setFacility, if_pos rfl]
      · have differs : facility ≠ named := fun same =>
          unlisted (List.mem_singleton.mpr (congrArg Facility.name same))
        rw [offers_setFacility, if_neg differs]
      · exact absurd (congrArg Prod.fst (List.mem_singleton.mp listed)).symm named.name_ne.2
  | reflect named =>
      refine ⟨fun facility offered listed => ?_, fun facility _ => by cases facility <;> rfl,
        fun support listed => ?_, fun unlisted => absurd (List.mem_singleton.mpr rfl) unlisted⟩
      · exact absurd (congrArg Prod.fst (List.mem_singleton.mp listed)) facility.name_ne.2
      · have same : support.name = named.name :=
          Json.string.inj (congrArg Prod.snd (List.mem_singleton.mp listed))
        exact (injective_of_find?_name ReflectSupport.ofName?_name same).symm

/-- Fields after fields of other names. -/
theorem Settles.trans {earlier later : List (String × Json)} (first : Settles earlier base next)
    (second : Settles later next result)
    (apart : ∀ name ∈ earlier.map Prod.fst, name ∉ later.map Prod.fst) :
    Settles (earlier ++ later) base result := by
  have named {name : String} {value : Json} (listed : (name, value) ∈ earlier) :
      name ∉ later.map Prod.fst := apart name (List.mem_map_of_mem listed)
  have unnamed {name : String} (unlisted : name ∉ (earlier ++ later).map Prod.fst) :
      name ∉ earlier.map Prod.fst ∧ name ∉ later.map Prod.fst := by
    rwa [List.map_append, List.mem_append, not_or] at unlisted
  constructor
  · intro facility offered listed
    rcases List.mem_append.mp listed with listed | listed
    · rw [second.keeps facility (named listed), first.offers facility offered listed]
    · exact second.offers facility offered listed
  · intro facility unlisted
    obtain ⟨before, after⟩ := unnamed unlisted
    rw [second.keeps facility after, first.keeps facility before]
  · intro support listed
    rcases List.mem_append.mp listed with listed | listed
    · rw [second.keepsReflect (named listed), first.reflect support listed]
    · exact second.reflect support listed
  · intro unlisted
    obtain ⟨before, after⟩ := unnamed unlisted
    rw [second.keepsReflect after, first.keepsReflect before]

/-- If no two fields have one name, each decides what it names. -/
theorem settles_of_foldlM (distinct : (fields.map Prod.fst).Nodup)
    (ran : fields.foldlM override base = .ok result) : Settles fields base result := by
  induction fields generalizing base with
  | nil =>
      cases ran
      exact ⟨nofun, fun _ _ => rfl, nofun, fun _ => rfl⟩
  | cons field fields ih =>
      obtain ⟨fresh, distinct⟩ := List.nodup_cons.mp distinct
      rw [List.foldlM_cons] at ran
      cases overridden : base.override field with
      | error wrong =>
          rw [overridden] at ran
          cases ran
      | ok next =>
          rw [overridden] at ran
          refine (override_eq_ok_iff.mp overridden).settles.trans (ih distinct ran) ?_
          rintro name listed
          rwa [List.mem_singleton.mp listed]

/-! ## The preset -/

/-- The preset that fields start from. -/
def StartsFrom (fields : List (String × Json)) (preset : Preset) : Prop :=
  ("preset", .string preset.name) ∈ fields ∨ "preset" ∉ fields.map Prod.fst ∧ preset = .modern

/-- If no two fields have one name, a name finds its field. -/
theorem lookup_eq_some_of_mem (distinct : (fields.map Prod.fst).Nodup) {name : String} {value : Json}
    (listed : (name, value) ∈ fields) : fields.lookup name = some value := by
  obtain ⟨before, after, rfl⟩ := List.append_of_mem listed
  refine List.lookup_eq_some_iff.mpr ⟨before, after, rfl, fun earlier among => ?_⟩
  rw [List.map_append, List.nodup_append] at distinct
  have differs := distinct.2.2 _ (List.mem_map_of_mem among) name List.mem_cons_self
  exact bne_iff_ne.mpr differs.symm

theorem StartsFrom.base_eq (distinct : (fields.map Prod.fst).Nodup) {preset : Preset}
    (starts : StartsFrom fields preset) : Profile.base fields = .ok preset.profile := by
  unfold Profile.base
  rcases starts with listed | ⟨unlisted, rfl⟩
  · rw [lookup_eq_some_of_mem distinct listed]
    simp only [ofPreset, Preset.ofName?_name]
  · have missing : fields.lookup "preset" = none := List.lookup_eq_none_iff.mpr fun field listed =>
      bne_iff_ne.mpr fun same => unlisted (same ▸ List.mem_map_of_mem listed)
    rw [missing]

theorem PresetRefused.base_eq (distinct : (fields.map Prod.fst).Nodup) {value : Json}
    (listed : ("preset", value) ∈ fields) (refused : PresetRefused value error) :
    Profile.base fields = .error error := by
  unfold Profile.base
  rw [lookup_eq_some_of_mem distinct listed]
  cases refused with
  | kind wrong =>
      cases value with
      | string text => exact absurd rfl (wrong text)
      | _ => rfl
  | name unknown =>
      have nameless : Preset.ofName? _ = none := Option.eq_none_iff_forall_ne_some.mpr
        fun preset named => unknown preset (Preset.ofName?_eq_some_iff.mp named)
      simp only [ofPreset, nameless]

/-- Fields start from a preset, or their preset is refused. -/
theorem starts_or_refused (fields : List (String × Json)) :
    (∃ preset, StartsFrom fields preset) ∨
      ∃ value error, ("preset", value) ∈ fields ∧ PresetRefused value error := by
  by_cases named : "preset" ∈ fields.map Prod.fst
  · obtain ⟨⟨_, value⟩, listed, rfl⟩ := List.mem_map.mp named
    cases value with
    | string text =>
        by_cases known : ∃ preset : Preset, text = preset.name
        · obtain ⟨preset, rfl⟩ := known
          exact .inl ⟨preset, .inl listed⟩
        · exact .inr ⟨_, _, listed, .name fun preset same => known ⟨preset, same⟩⟩
    | _ => exact .inr ⟨_, _, listed, .kind nofun⟩
  · exact .inl ⟨.modern, .inr ⟨named, rfl⟩⟩

/-! ## Documents -/

/-- A profile is the one that fields describe: a preset in which they override what they name. -/
structure Describes (fields : List (String × Json)) (result : Profile) : Prop where
  documented : ∀ field ∈ fields, Documented field
  overridden : ∃ preset, StartsFrom fields preset ∧ Settles fields preset.profile result

/-- What is wrong with a document. The preset comes first, wherever it stands. -/
inductive DocumentRefused : Json → ProfileError → Prop
  | shape {document : Json} (wrong : ∀ fields, document ≠ .object fields) :
      DocumentRefused document .notAnObject
  | preset {fields : List (String × Json)} {value : Json} {error : ProfileError}
      (listed : ("preset", value) ∈ fields) (refused : PresetRefused value error) :
      DocumentRefused (.object fields) error
  | field {fields : List (String × Json)} {error : ProfileError}
      (known : ∀ value wrong, ("preset", value) ∈ fields → ¬ PresetRefused value wrong)
      (first : FirstRefused fields error) : DocumentRefused (.object fields) error

theorem exists_firstRefused (listed : field ∈ fields) (refused : Refused field error) :
    ∃ first, FirstRefused fields first := by
  induction fields with
  | nil => cases listed
  | cons head fields ih =>
      by_cases wrong : ∃ error, Refused head error
      · obtain ⟨first, refused⟩ := wrong
        exact ⟨first, firstRefused_cons_iff.mpr (.inl refused)⟩
      · rcases List.mem_cons.mp listed with rfl | listed
        · exact absurd ⟨error, refused⟩ wrong
        · obtain ⟨first, later⟩ := ih listed
          exact ⟨first, later.cons (not_exists.mp wrong)⟩

theorem Documented.overrides (documented : Documented field) (profile : Profile) :
    ∃ next, profile.Overrides field next := by
  cases documented with
  | preset preset => exact ⟨_, .preset⟩
  | facility facility offered => exact ⟨_, .facility facility offered⟩
  | reflect support => exact ⟨_, .reflect support⟩

theorem Documented.not_refused (documented : Documented field) (wrong : ProfileError) :
    ¬ Refused field wrong := by
  obtain ⟨_, overrides⟩ := documented.overrides Preset.modern.profile
  exact overrides.not_refused wrong

/-- A documented preset is not refused. -/
theorem Documented.preset_not_refused {value : Json} (documented : Documented ("preset", value))
    (wrong : ProfileError) : ¬ PresetRefused value wrong := by
  generalize same : ("preset", value) = field at documented
  cases documented with
  | preset preset =>
      cases same
      intro refused
      cases refused with
      | kind wrong => exact wrong _ rfl
      | name unknown => exact unknown preset rfl
  | facility facility offered => exact absurd (congrArg Prod.fst same).symm facility.name_ne.1
  | reflect support =>
      have named : "preset" = "reflect" := congrArg Prod.fst same
      exact absurd named (by decide)

/-- A documented field of a facility says whether it is there. -/
theorem Documented.facility_value {facility : Facility} {value : Json}
    (documented : Documented (facility.name, value)) : ∃ offered, value = .boolean offered := by
  generalize same : (facility.name, value) = field at documented
  cases documented with
  | preset preset => exact absurd (congrArg Prod.fst same) facility.name_ne.1
  | facility other offered => exact ⟨offered, congrArg Prod.snd same⟩
  | reflect support => exact absurd (congrArg Prod.fst same) facility.name_ne.2

/-- A documented field `reflect` names a level of support. -/
theorem Documented.reflect_value {value : Json} (documented : Documented ("reflect", value)) :
    ∃ support : ReflectSupport, value = .string support.name := by
  generalize same : ("reflect", value) = field at documented
  cases documented with
  | preset preset =>
      have named : "reflect" = "preset" := congrArg Prod.fst same
      exact absurd named (by decide)
  | facility facility offered => exact absurd (congrArg Prod.fst same).symm facility.name_ne.2
  | reflect support => exact ⟨support, congrArg Prod.snd same⟩

/-- A field is documented if it overrides something and, being the preset, is not refused. -/
theorem Overrides.documented (overrides : base.Overrides field next)
    (known : field.1 = "preset" → ∀ wrong, ¬ PresetRefused field.2 wrong) : Documented field := by
  cases overrides with
  | @preset value =>
      have passes := known rfl
      cases value with
      | string text =>
          by_cases named : ∃ preset : Preset, text = preset.name
          · obtain ⟨preset, rfl⟩ := named
            exact .preset preset
          · exact absurd (.name (not_exists.mp named)) (passes (.unknownPreset text))
      | _ => exact absurd (.kind nofun) (passes .presetNotAString)
  | facility facility offered => exact .facility facility offered
  | reflect support => exact .reflect support

/-- Documented fields settle one profile. -/
theorem Settles.unique (documented : ∀ field ∈ fields, Documented field)
    (one : Settles fields base first) (other : Settles fields base second) : first = second := by
  refine eq_of_offers (fun facility => ?_) ?_
  · by_cases named : facility.name ∈ fields.map Prod.fst
    · obtain ⟨⟨_, value⟩, listed, same⟩ := List.mem_map.mp named
      cases same
      obtain ⟨offered, rfl⟩ := (documented _ listed).facility_value
      rw [one.offers facility offered listed, other.offers facility offered listed]
    · rw [one.keeps facility named, other.keeps facility named]
  · by_cases named : "reflect" ∈ fields.map Prod.fst
    · obtain ⟨⟨_, value⟩, listed, rfl⟩ := List.mem_map.mp named
      obtain ⟨support, rfl⟩ := (documented _ listed).reflect_value
      rw [one.reflect support listed, other.reflect support listed]
    · rw [one.keepsReflect named, other.keepsReflect named]

theorem ofJson_of_startsFrom (distinct : (fields.map Prod.fst).Nodup) {preset : Preset}
    (starts : StartsFrom fields preset) :
    ofJson (.object fields) = fields.foldlM override preset.profile := by
  change (Profile.base fields >>= fun profile => fields.foldlM override profile) = _
  rw [starts.base_eq distinct]
  rfl

theorem ofJson_of_presetRefused (distinct : (fields.map Prod.fst).Nodup) {value : Json}
    (listed : ("preset", value) ∈ fields) (refused : PresetRefused value error) :
    ofJson (.object fields) = .error error := by
  change (Profile.base fields >>= fun profile => fields.foldlM override profile) = _
  rw [refused.base_eq distinct listed]
  rfl

/-- Documented fields are loaded. -/
theorem ofJson_of_documented (distinct : (fields.map Prod.fst).Nodup)
    (documented : ∀ field ∈ fields, Documented field) : ∃ result, ofJson (.object fields) = .ok result := by
  rcases starts_or_refused fields with ⟨preset, starts⟩ | ⟨value, wrong, listed, refused⟩
  · rw [ofJson_of_startsFrom distinct starts]
    cases ran : fields.foldlM override preset.profile with
    | ok result => exact ⟨result, rfl⟩
    | error wrong =>
        obtain ⟨_, field, _, rfl, _, refused⟩ := foldlM_override_eq_error_iff.mp ran
        exact absurd refused ((documented field (by simp)).not_refused wrong)
  · exact absurd refused ((documented _ listed).preset_not_refused wrong)

/-- What is loaded is what the fields describe. -/
theorem describes_of_ofJson (distinct : (fields.map Prod.fst).Nodup)
    (loaded : ofJson (.object fields) = .ok result) : Describes fields result := by
  rcases starts_or_refused fields with ⟨preset, starts⟩ | ⟨value, wrong, listed, refused⟩
  · have ran := (ofJson_of_startsFrom distinct starts).symm.trans loaded
    refine ⟨fun field listed => ?_, preset, starts, settles_of_foldlM distinct ran⟩
    rcases preset.profile.overrides_or_refused field with ⟨next, overrides⟩ | ⟨wrong, refused⟩
    · refine overrides.documented fun named wrong refused => ?_
      obtain ⟨_, value⟩ := field
      cases named
      rw [ofJson_of_presetRefused distinct listed refused] at loaded
      cases loaded
    · obtain ⟨_, first⟩ := exists_firstRefused listed refused
      rw [foldlM_override_eq_error_iff.mpr first] at ran
      cases ran
  · rw [ofJson_of_presetRefused distinct listed refused] at loaded
    cases loaded

/-- Fields describe one profile. -/
theorem Describes.unique (distinct : (fields.map Prod.fst).Nodup) (one : Describes fields first)
    (other : Describes fields second) : first = second := by
  obtain ⟨preset, starts, settles⟩ := one.overridden
  obtain ⟨also, startsAlso, settlesAlso⟩ := other.overridden
  have same : preset.profile = also.profile :=
    Except.ok.inj ((starts.base_eq distinct).symm.trans (startsAlso.base_eq distinct))
  rw [← same] at settlesAlso
  exact settles.unique one.documented settlesAlso

theorem ofJson_eq_ok_iff (distinct : (fields.map Prod.fst).Nodup) :
    ofJson (.object fields) = .ok result ↔ Describes fields result := by
  refine ⟨describes_of_ofJson distinct, fun describes => ?_⟩
  obtain ⟨loaded, ran⟩ := ofJson_of_documented distinct describes.documented
  rw [ran, (describes_of_ofJson distinct ran).unique distinct describes]

/-- The order of the fields does not matter to what they describe. -/
theorem Describes.perm (reordered : fields.Perm others) (describes : Describes fields result) :
    Describes others result := by
  have names (name : String) : name ∈ others.map Prod.fst ↔ name ∈ fields.map Prod.fst :=
    (reordered.map Prod.fst).mem_iff.symm
  obtain ⟨preset, starts, settles⟩ := describes.overridden
  refine ⟨fun field listed => describes.documented field (reordered.mem_iff.mpr listed), preset, ?_,
    fun facility offered listed => settles.offers facility offered (reordered.mem_iff.mpr listed),
    fun facility unlisted => settles.keeps facility fun listed => unlisted ((names _).mpr listed),
    fun support listed => settles.reflect support (reordered.mem_iff.mpr listed),
    fun unlisted => settles.keepsReflect fun listed => unlisted ((names _).mpr listed)⟩
  exact starts.imp reordered.mem_iff.mp
    (And.imp_left fun unlisted listed => unlisted ((names _).mp listed))

theorem ofJson_eq_error_iff {document : Json} (distinct : document.NamesDistinct) :
    ofJson document = .error error ↔ DocumentRefused document error := by
  cases document with
  | object fields =>
      rcases starts_or_refused fields with ⟨preset, starts⟩ | ⟨value, wrong, listed, refused⟩
      · have known (value : Json) (wrong : ProfileError) (listed : ("preset", value) ∈ fields) :
            ¬ PresetRefused value wrong := fun refused => by
          have ran := refused.base_eq distinct listed
          rw [starts.base_eq distinct] at ran
          cases ran
        rw [ofJson_of_startsFrom distinct starts, foldlM_override_eq_error_iff]
        refine ⟨.field known, fun refused => ?_⟩
        cases refused with
        | shape wrong => exact absurd rfl (wrong fields)
        | preset listed refused => exact absurd refused (known _ _ listed)
        | field _ first => exact first
      · have ran := ofJson_of_presetRefused distinct listed refused
        refine ⟨fun same => ?_, fun also => ?_⟩
        · cases ran.symm.trans same
          exact .preset listed refused
        · cases also with
          | shape wrong => exact absurd rfl (wrong fields)
          | preset listed refused => exact ofJson_of_presetRefused distinct listed refused
          | field known _ => exact absurd refused (known value wrong listed)
  | _ =>
      refine ⟨fun same => ?_, fun refused => ?_⟩
      · cases same
        exact .shape nofun
      · cases refused
        rfl

/-- The documents that texts are read as repeat no names, and what is loaded from a text is what is loaded from
its document. -/
theorem ofText_of_read? {text : String} {document : Json} (found : Json.read? text = some document) :
    document.NamesDistinct ∧ ofText text = ofJson document := by
  refine ⟨Json.namesDistinct_of_read? found, ?_⟩
  rw [ofText, found]

end Profile

/-- How a document is loaded as a profile. -/
structure Json.LoadsAsProfile (document : Json) : Prop where
  accepted : (∃ profile, Profile.ofJson document = .ok profile) ↔
    ∃ fields, document = .object fields ∧ ∀ field ∈ fields, Profile.Documented field
  described : ∀ fields profile, document = .object fields →
    (Profile.ofJson document = .ok profile ↔ Profile.Describes fields profile)
  reordered : ∀ fields others profile, document = .object fields → fields.Perm others →
    (Profile.ofJson (.object others) = .ok profile ↔ Profile.ofJson document = .ok profile)
  refused : ∀ error, Profile.ofJson document = .error error ↔ Profile.DocumentRefused document error

/-- Every document without repeated names is loaded as a profile if it is an object of documented fields, and
then as the profile that these describe, in whatever order they stand. Otherwise it is refused for its preset,
or else for the first field that is wrong. -/
theorem profiles_loaded {document : Json} (distinct : document.NamesDistinct) : document.LoadsAsProfile := by
  refine ⟨⟨?_, ?_⟩, ?_, ?_, fun error => Profile.ofJson_eq_error_iff distinct⟩
  · rintro ⟨profile, loaded⟩
    cases document with
    | object fields => exact ⟨fields, rfl, (Profile.describes_of_ofJson distinct loaded).documented⟩
    | _ => cases loaded
  · rintro ⟨fields, rfl, documented⟩
    exact Profile.ofJson_of_documented distinct documented
  · rintro fields profile rfl
    exact Profile.ofJson_eq_ok_iff distinct
  · rintro fields others profile rfl reordered
    have distinctOthers := (reordered.map Prod.fst).nodup_iff.mp distinct
    rw [Profile.ofJson_eq_ok_iff distinct, Profile.ofJson_eq_ok_iff distinctOthers]
    exact ⟨Profile.Describes.perm reordered.symm, Profile.Describes.perm reordered⟩

/-- A preset that comes last is overridden all the same, and it is refused before the fields in front of it. -/
theorem late_preset_loaded :
    let text := "\x7b\"reflect\": \"sham\", \"proxy\": true, \"preset\": \"es5\"\x7d"
    let fields : List (String × Json) :=
      [("reflect", .string "sham"), ("proxy", .boolean true), ("preset", .string "es5")]
    let wrong : List (String × Json) := [("proxy", .string "yes"), ("preset", .string "netscape")]
    let loaded : Profile := { Preset.es5.profile with reflect := .sham, proxy := true }
    Json.read? text = some (.object fields) ∧ Profile.ofText text = .ok loaded ∧
      (Json.object fields).NamesDistinct ∧ (Json.object wrong).NamesDistinct ∧
      Profile.ofJson (.object fields) = .ok loaded ∧
      Profile.ofJson (.object fields.reverse) = .ok loaded ∧
      Profile.ofJson (.object wrong) = .error (.unknownPreset "netscape") := by
  intro text fields wrong loaded
  have found : Json.read? text = some (.object fields) := by
    unfold text fields
    rfl
  obtain ⟨distinct, same⟩ := Profile.ofText_of_read? found
  have wrongDistinct : (Json.object wrong).NamesDistinct := by
    change (wrong.map Prod.fst).Nodup
    decide
  have loads := profiles_loaded distinct
  have refuses := profiles_loaded wrongDistinct
  have first : Profile.ofJson (.object fields) = .ok loaded := by rfl
  have unknown : Profile.PresetRefused (.string "netscape") (.unknownPreset "netscape") :=
    .name fun preset => by cases preset <;> decide
  have listed : ("preset", Json.string "netscape") ∈ wrong := by simp [wrong]
  exact ⟨found, same.trans first, distinct, wrongDistinct, first,
    (loads.reordered _ _ _ rfl (List.reverse_perm _).symm).mpr first,
    (refuses.refused _).mpr (.preset listed unknown)⟩

end ClassLowering
