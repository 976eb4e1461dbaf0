-- Drafts and revisions as they are read from a body: which fields a body can give, and what a draft
-- or a revision says of each, whether the body is an object or a list.
import Workspaces.Proofs.Json.FieldValues
import Workspaces.Workspace.Draft
import Workspaces.Workspace.Revision

namespace Workspaces

open Json (Decoder Field GivesUnder)

/-! ## Fields -/

/-- The fields that a body can give. -/
def fieldNames : List String := ["name", "description", "icon", "color", "state"]

theorem Draft.names_shape : shape.names = fieldNames := rfl

theorem Revision.names_shape : shape.names = fieldNames := rfl

theorem fieldNames_nodup : fieldNames.Nodup := by decide

theorem Draft.exact : ∀ f ∈ shape.fields, f.decoder.Exact := by
  intro f hf
  unfold shape at hf
  simp only [List.mem_cons, List.not_mem_nil, or_false] at hf
  have htext := Decoder.exact_text.optional
  rcases hf with rfl | rfl | rfl | rfl | rfl
  · exact Field.exact_of Decoder.exact_text
  · exact Field.exact_of htext
  · exact Field.exact_of htext
  · exact Field.exact_of htext
  · exact Field.exact_of (Decoder.exact_value _).optional

theorem Revision.exact : ∀ f ∈ shape.fields, f.decoder.Exact := by
  intro f hf
  unfold shape at hf
  simp only [List.mem_cons, List.not_mem_nil, or_false] at hf
  have htext := Decoder.exact_text.optional
  rcases hf with rfl | rfl | rfl | rfl | rfl
  · exact Field.exact_of htext
  · exact Field.exact_of htext
  · exact Field.exact_of htext
  · exact Field.exact_of htext
  · exact Field.exact_of (Decoder.exact_value _).optional

/-- Every field of a draft takes what is given for it. -/
theorem Draft.faithful : ∀ f ∈ shape.fields, f.decoder.Faithful := by
  intro f hf
  unfold shape at hf
  simp only [List.mem_cons, List.not_mem_nil, or_false] at hf
  have htext := Decoder.faithful_text.optional
  rcases hf with rfl | rfl | rfl | rfl | rfl
  · exact Field.faithful_of Decoder.faithful_text
  · exact Field.faithful_of htext
  · exact Field.faithful_of htext
  · exact Field.faithful_of htext
  · exact Field.faithful_of (Decoder.faithful_value (Nat.sub_le _ _)).optional

/-- Every field of a revision takes what is given for it. -/
theorem Revision.faithful : ∀ f ∈ shape.fields, f.decoder.Faithful := by
  intro f hf
  unfold shape at hf
  simp only [List.mem_cons, List.not_mem_nil, or_false] at hf
  have htext := Decoder.faithful_text.optional
  rcases hf with rfl | rfl | rfl | rfl | rfl
  · exact Field.faithful_of htext
  · exact Field.faithful_of htext
  · exact Field.faithful_of htext
  · exact Field.faithful_of htext
  · exact Field.faithful_of (Decoder.faithful_value (Nat.sub_le _ _)).optional

/-! ## What a field makes of a value -/

namespace Json

/-- A value, or nothing if it is null. -/
def present? : Json → Option Json
  | .null => none
  | v => some v

namespace Decoder

theorem ofValue_text {v : Json} {s : String} (h : Decoder.text.ofValue v = .ok s) :
    v = .string s := by
  cases v with
  | string t => rw [← Except.ok.inj h]
  | null | bool | number | array | object => cases h

theorem ofValue_optional_text {v : Json} {x : Option String}
    (h : (Decoder.optional .text).ofValue v = .ok x) : v = .ofText? x := by
  cases v with
  | null => rw [← Except.ok.inj h]; rfl
  | string s => rw [← Except.ok.inj h]; rfl
  | bool | number | array | object => cases h

theorem ofValue_optional_value {depth : Nat} {v : Json} {x : Option Json}
    (h : (Decoder.optional (.value depth)).ofValue v = .ok x) : x = v.present? := by
  cases v with
  | null | string | bool | number | array | object => rw [← Except.ok.inj h]; rfl

end Decoder

end Json

/-! ## Values given for a field -/

/-- The value that is given for a field, if it is one at most. Null is as good as nothing. -/
def soleValue : List (Option Json) → Option (Option Json)
  | [] => some none
  | [some v] => some v.present?
  | _ => none

/-- The edit that the values given for a field ask for: null is not as good as nothing. -/
def textEdit : List (Option Json) → Option (Edit String)
  | [] => some .keep
  | [some .null] => some .clear
  | [some (.string s)] => some (.write s)
  | _ => none

theorem soleValue_cases {values : List (Option Json)} {x : Option Json}
    (h : soleValue values = some x) :
    values = [] ∧ x = none ∨ ∃ v : Json, values = [some v] ∧ x = v.present? := by
  unfold soleValue at h
  split at h
  · exact .inl ⟨rfl, (Option.some.inj h).symm⟩
  · exact .inr ⟨_, rfl, (Option.some.inj h).symm⟩
  · cases h

theorem soleValue_ofText? (x : Option String) :
    soleValue [some (.ofText? x)] = some (x.map .string) := by
  cases x <;> rfl

theorem textEdit_ofText? (x : Option String) :
    textEdit [some (.ofText? x)] = some (.replace x) := by
  cases x <;> rfl

variable {given : String → List (Option Json)} {t u : Octets}

/-- The text gives values for the fields, and however it is taken apart `P` is true of them. -/
def Json.GivesSuch (P : (String → List (Option Json)) → Prop) (t : Octets) : Prop :=
  (∃ given, GivesUnder fieldNames given t) ∧ ∀ given, GivesUnder fieldNames given t → P given

/-! ## Drafts -/

namespace Draft

/-- What the draft says of each field is what is given for it. -/
structure Says (given : String → List (Option Json)) (d : Draft) : Prop where
  name : given "name" = [some (.string d.name)]
  description : soleValue (given "description") = some (d.description.map .string)
  icon : soleValue (given "icon") = some (d.icon.map .string)
  color : soleValue (given "color") = some (d.color.map .string)
  state : soleValue (given "state") = some d.state

/-- What a value sets in a draft. -/
inductive Sets : (name : String) → Json → (Draft → Draft) → Prop
  | name (s : String) : Sets "name" (.string s) fun d => { d with name := s }
  | description (x : Option String) :
      Sets "description" (.ofText? x) fun d => { d with description := x }
  | icon (x : Option String) : Sets "icon" (.ofText? x) fun d => { d with icon := x }
  | color (x : Option String) : Sets "color" (.ofText? x) fun d => { d with color := x }
  | state (v : Json) : Sets "state" v fun d => { d with state := v.present? }

theorem sets_of_ofValue {name : String} {f : Json.Field Draft} {v : Json} {set : Draft → Draft}
    (hf : shape.field? name = some f) (hv : f.decoder.ofValue v = .ok set) : Sets name v set := by
  obtain ⟨hmem, rfl⟩ := Json.Shape.field?_spec hf
  unfold shape at hmem
  simp only [List.mem_cons, List.not_mem_nil, or_false] at hmem
  rcases hmem with rfl | rfl | rfl | rfl | rfl
  · obtain ⟨s, hs, rfl⟩ := ok_of_map hv
    obtain rfl := Decoder.ofValue_text hs
    exact .name s
  · obtain ⟨x, hx, rfl⟩ := ok_of_map hv
    obtain rfl := Decoder.ofValue_optional_text hx
    exact .description x
  · obtain ⟨x, hx, rfl⟩ := ok_of_map hv
    obtain rfl := Decoder.ofValue_optional_text hx
    exact .icon x
  · obtain ⟨x, hx, rfl⟩ := ok_of_map hv
    obtain rfl := Decoder.ofValue_optional_text hx
    exact .color x
  · obtain ⟨x, hx, rfl⟩ := ok_of_map hv
    obtain rfl := Decoder.ofValue_optional_value hx
    exact .state v

theorem name_set : shape.SetUnder "name" .string Draft.name id := by
  intro name f v set hf hv
  cases sets_of_ofValue hf hv with
  | name s => exact .inl ⟨rfl, s, rfl, fun _ => rfl⟩
  | description | icon | color | state => exact .inr ⟨by decide, fun _ => rfl⟩

theorem description_set : shape.SetUnder "description" .ofText? Draft.description id := by
  intro name f v set hf hv
  cases sets_of_ofValue hf hv with
  | description x => exact .inl ⟨rfl, x, rfl, fun _ => rfl⟩
  | name | icon | color | state => exact .inr ⟨by decide, fun _ => rfl⟩

theorem icon_set : shape.SetUnder "icon" .ofText? Draft.icon id := by
  intro name f v set hf hv
  cases sets_of_ofValue hf hv with
  | icon x => exact .inl ⟨rfl, x, rfl, fun _ => rfl⟩
  | name | description | color | state => exact .inr ⟨by decide, fun _ => rfl⟩

theorem color_set : shape.SetUnder "color" .ofText? Draft.color id := by
  intro name f v set hf hv
  cases sets_of_ofValue hf hv with
  | color x => exact .inl ⟨rfl, x, rfl, fun _ => rfl⟩
  | name | description | icon | state => exact .inr ⟨by decide, fun _ => rfl⟩

theorem state_set : shape.SetUnder "state" id Draft.state Json.present? := by
  intro name f v set hf hv
  cases sets_of_ofValue hf hv with
  | state v => exact .inl ⟨rfl, v, rfl, fun _ => rfl⟩
  | name | description | icon | color => exact .inr ⟨by decide, fun _ => rfl⟩

variable {d : Draft}

theorem soleValue_of_take (hgives : GivesUnder fieldNames given t)
    (htake : shape.take t = .ok (d, u)) {key : String} {part : Draft → Option String}
    (hkey : key ∈ fieldNames) (hset : shape.SetUnder key .ofText? part id)
    (hblank : part shape.blank = none) :
    soleValue (given key) = some ((part d).map .string) := by
  rcases Json.Shape.value_cases_of_take faithful fieldNames_nodup hkey hset hgives htake with
    ⟨hvalues, hpart, _⟩ | ⟨x, hvalues, hpart⟩
  · rw [hvalues, hpart, hblank]
    rfl
  · rw [hvalues, hpart]
    exact soleValue_ofText? x

/-- A draft that is read from a body says what the body gives. -/
theorem says_of_take (hgives : GivesUnder fieldNames given t) (htake : shape.take t = .ok (d, u)) :
    d.Says given where
  name := by
    rcases Json.Shape.value_cases_of_take faithful fieldNames_nodup (by decide)
      name_set hgives htake with ⟨_, _, hmissing⟩ | ⟨s, hvalues, hpart⟩
    · exact absurd (hmissing _ List.mem_cons_self rfl rfl) Bool.false_ne_true
    · rw [hvalues, hpart]
      rfl
  description := soleValue_of_take hgives htake (by decide) description_set rfl
  icon := soleValue_of_take hgives htake (by decide) icon_set rfl
  color := soleValue_of_take hgives htake (by decide) color_set rfl
  state := by
    rcases Json.Shape.value_cases_of_take faithful fieldNames_nodup (by decide) state_set hgives
      htake with ⟨hvalues, hpart, _⟩ | ⟨v, hvalues, hpart⟩
    · rw [hvalues, hpart]
      rfl
    · rw [hvalues, hpart]
      rfl

theorem givesSuch_of_take (htake : shape.take t = .ok (d, u)) : Json.GivesSuch d.Says t := by
  obtain ⟨front, rfl, hfront, _⟩ := Json.Shape.front_of_take exact htake
  exact ⟨hfront.gives u, fun _ hgives => says_of_take hgives htake⟩

end Draft

/-! ## Revisions -/

namespace Revision

/-- What the revision says of each field is what is given for it. -/
structure Says (given : String → List (Option Json)) (r : Revision) : Prop where
  name : soleValue (given "name") = some (r.name.map .string)
  description : textEdit (given "description") = some r.description
  icon : textEdit (given "icon") = some r.icon
  color : textEdit (given "color") = some r.color
  state : soleValue (given "state") = some r.state

/-- What a value sets in a revision. -/
inductive Sets : (name : String) → Json → (Revision → Revision) → Prop
  | name (x : Option String) : Sets "name" (.ofText? x) fun r => { r with name := x }
  | description (x : Option String) :
      Sets "description" (.ofText? x) fun r => { r with description := .replace x }
  | icon (x : Option String) : Sets "icon" (.ofText? x) fun r => { r with icon := .replace x }
  | color (x : Option String) : Sets "color" (.ofText? x) fun r => { r with color := .replace x }
  | state (v : Json) : Sets "state" v fun r => { r with state := v.present? }

theorem sets_of_ofValue {name : String} {f : Json.Field Revision} {v : Json}
    {set : Revision → Revision} (hf : shape.field? name = some f)
    (hv : f.decoder.ofValue v = .ok set) : Sets name v set := by
  obtain ⟨hmem, rfl⟩ := Json.Shape.field?_spec hf
  unfold shape at hmem
  simp only [List.mem_cons, List.not_mem_nil, or_false] at hmem
  rcases hmem with rfl | rfl | rfl | rfl | rfl
  · obtain ⟨x, hx, rfl⟩ := ok_of_map hv
    obtain rfl := Decoder.ofValue_optional_text hx
    exact .name x
  · obtain ⟨x, hx, rfl⟩ := ok_of_map hv
    obtain rfl := Decoder.ofValue_optional_text hx
    exact .description x
  · obtain ⟨x, hx, rfl⟩ := ok_of_map hv
    obtain rfl := Decoder.ofValue_optional_text hx
    exact .icon x
  · obtain ⟨x, hx, rfl⟩ := ok_of_map hv
    obtain rfl := Decoder.ofValue_optional_text hx
    exact .color x
  · obtain ⟨x, hx, rfl⟩ := ok_of_map hv
    obtain rfl := Decoder.ofValue_optional_value hx
    exact .state v

theorem name_set : shape.SetUnder "name" .ofText? Revision.name id := by
  intro name f v set hf hv
  cases sets_of_ofValue hf hv with
  | name x => exact .inl ⟨rfl, x, rfl, fun _ => rfl⟩
  | description | icon | color | state => exact .inr ⟨by decide, fun _ => rfl⟩

theorem description_set : shape.SetUnder "description" .ofText? description .replace := by
  intro name f v set hf hv
  cases sets_of_ofValue hf hv with
  | description x => exact .inl ⟨rfl, x, rfl, fun _ => rfl⟩
  | name | icon | color | state => exact .inr ⟨by decide, fun _ => rfl⟩

theorem icon_set : shape.SetUnder "icon" .ofText? icon .replace := by
  intro name f v set hf hv
  cases sets_of_ofValue hf hv with
  | icon x => exact .inl ⟨rfl, x, rfl, fun _ => rfl⟩
  | name | description | color | state => exact .inr ⟨by decide, fun _ => rfl⟩

theorem color_set : shape.SetUnder "color" .ofText? color .replace := by
  intro name f v set hf hv
  cases sets_of_ofValue hf hv with
  | color x => exact .inl ⟨rfl, x, rfl, fun _ => rfl⟩
  | name | description | icon | state => exact .inr ⟨by decide, fun _ => rfl⟩

theorem state_set : shape.SetUnder "state" id Revision.state Json.present? := by
  intro name f v set hf hv
  cases sets_of_ofValue hf hv with
  | state v => exact .inl ⟨rfl, v, rfl, fun _ => rfl⟩
  | name | description | icon | color => exact .inr ⟨by decide, fun _ => rfl⟩

variable {r : Revision}

theorem textEdit_of_take (hgives : GivesUnder fieldNames given t)
    (htake : shape.take t = .ok (r, u)) {key : String} {part : Revision → Edit String}
    (hkey : key ∈ fieldNames) (hset : shape.SetUnder key .ofText? part .replace)
    (hblank : part shape.blank = .keep) :
    textEdit (given key) = some (part r) := by
  rcases Json.Shape.value_cases_of_take faithful fieldNames_nodup hkey hset hgives htake with
    ⟨hvalues, hpart, _⟩ | ⟨x, hvalues, hpart⟩
  · rw [hvalues, hpart, hblank]
    rfl
  · rw [hvalues, hpart]
    exact textEdit_ofText? x

/-- A revision that is read from a body says what the body gives. -/
theorem says_of_take (hgives : GivesUnder fieldNames given t) (htake : shape.take t = .ok (r, u)) :
    r.Says given where
  name := by
    rcases Json.Shape.value_cases_of_take faithful fieldNames_nodup (by decide) name_set hgives
      htake with ⟨hvalues, hpart, _⟩ | ⟨x, hvalues, hpart⟩
    · rw [hvalues, hpart]
      rfl
    · rw [hvalues, hpart]
      exact soleValue_ofText? x
  description := textEdit_of_take hgives htake (by decide) description_set rfl
  icon := textEdit_of_take hgives htake (by decide) icon_set rfl
  color := textEdit_of_take hgives htake (by decide) color_set rfl
  state := by
    rcases Json.Shape.value_cases_of_take faithful fieldNames_nodup (by decide) state_set hgives
      htake with ⟨hvalues, hpart, _⟩ | ⟨v, hvalues, hpart⟩
    · rw [hvalues, hpart]
      rfl
    · rw [hvalues, hpart]
      rfl

theorem givesSuch_of_take (htake : shape.take t = .ok (r, u)) : Json.GivesSuch r.Says t := by
  obtain ⟨front, rfl, hfront, _⟩ := Json.Shape.front_of_take exact htake
  exact ⟨hfront.gives u, fun _ hgives => says_of_take hgives htake⟩

end Revision

end Workspaces
