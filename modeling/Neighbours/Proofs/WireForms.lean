import Neighbours.Proofs.JsonText
import Neighbours.Proofs.MacForms
import Neighbours.WireForm

/-! Values through JSON and back. Each form writes a text that stands for one JSON value, and takes from
that value what it has written. Texts that were written otherwise are brought into this form by reading
and writing them once; that changes them no further. -/

namespace Neighbours.WireForm

section Forms

variable {α : Type}

/-- What is written is read as a JSON value from which the form takes what was to be written. -/
def Faithful (form : WireForm α) : Prop :=
  ∀ value, ∃ json, Json.Reads (form.letters value) json ∧ form.ofValue? json = some value

/-- Writing loses nothing, and a text that was read and written again stays as it is from then on. -/
structure Lossless (form : WireForm α) : Prop where
  read_write : ∀ value, form.read? (form.write value) = some value
  normal : ∀ text other, form.normalise? text = some other →
    form.read? other = form.read? text ∧ form.normalise? other = some other

theorem Faithful.lossless {form : WireForm α} (h : form.Faithful) : form.Lossless := by
  have hwrite : ∀ value, form.read? (form.write value) = some value := by
    intro value
    obtain ⟨json, hreads, hvalue⟩ := h value
    rw [read?, write, String.toList_ofList, Json.read?_of_reads hreads, Option.bind_some, hvalue]
  refine ⟨hwrite, ?_⟩
  intro text other hnormal
  obtain ⟨value, hread, rfl⟩ := Option.map_eq_some_iff.mp hnormal
  refine ⟨(hwrite value).trans hread.symm, ?_⟩
  rw [normalise?, hwrite, Option.map_some]

end Forms

theorem below?_eq_some_iff {json : Json.Value} {bound n : Nat} :
    json.below? bound = some n ↔ json = .natural n ∧ n < bound := by
  cases json with
  | natural m =>
      simp only [Json.Value.below?, Option.ite_none_right_eq_some, Option.some.injEq,
        Json.Value.natural.injEq]
      constructor
      · rintro ⟨h, rfl⟩
        exact ⟨rfl, h⟩
      · rintro ⟨rfl, h⟩
        exact ⟨h, rfl⟩
  | _ => simp [Json.Value.below?]

theorem below?_natural {bound n : Nat} (h : n < bound) :
    (Json.Value.natural n).below? bound = some n :=
  below?_eq_some_iff.mpr ⟨rfl, h⟩

theorem device_faithful : device.Faithful := fun name =>
  ⟨.text (some name), Json.reads_quoted name, rfl⟩

theorem mac_faithful : mac.Faithful := by
  intro address
  refine ⟨.text (some address.text), Json.reads_quoted _, ?_⟩
  exact Mac.ofText_eq_ok_iff_ofLetters?.mp (Mac.ofText_text address)

theorem ofValue?_vlan (value : Vlan) : vlan.ofValue? (.natural value.id) = some value := by
  have hlt : value.id < UInt16.size := Nat.lt_of_le_of_lt value.le_max (by decide)
  show ((Json.Value.natural value.id).below? UInt16.size).bind Vlan.ofId? = some value
  rw [below?_natural hlt, Option.bind_some, Vlan.ofId?_id]

theorem vlan_faithful : vlan.Faithful := fun value =>
  ⟨.natural value.id, Json.reads_natural _, ofValue?_vlan value⟩

theorem pointNumber_faithful : pointNumber.Faithful := by
  intro number
  refine ⟨.natural number.toNat, Json.reads_natural _, ?_⟩
  show ((Json.Value.natural number.toNat).below? UInt64.size).map UInt64.ofNat = some number
  rw [below?_natural number.toNat_lt, Option.map_some, UInt64.ofNat_toNat]

theorem priority_faithful : priority.Faithful := by
  intro value
  refine ⟨.natural value.toNat, Json.reads_natural _, ?_⟩
  show ((Json.Value.natural value.toNat).below? UInt32.size).map UInt32.ofNat = some value
  rw [below?_natural value.toNat_lt, Option.map_some, UInt32.ofNat_toNat]

/-! Records. The members are written in the order of the fields, and each is found under its name. -/

def pointMembers (value : Point) (json : Json.Value) : List Json.Member :=
  [⟨"device_id", device.letters value.device, .text (some value.device)⟩,
    ⟨"port", pointNumber.letters value.number, json⟩]

theorem point_faithful : point.Faithful := by
  intro value
  obtain ⟨json, hnumber, hvalue⟩ := pointNumber_faithful value.number
  have hreads : ∀ member ∈ pointMembers value json, Json.Reads member.letters member.value := by
    simp only [pointMembers, List.forall_mem_cons]
    exact ⟨Json.reads_quoted _, hnumber, fun _ hmem => absurd hmem List.not_mem_nil⟩
  have hfields : (Json.Value.object ((pointMembers value json).map Json.Member.read)).fields?
      ["device_id", "port"] = some [some (.text (some value.device)), some json] := rfl
  have hne : pointMembers value json ≠ [] := List.cons_ne_nil _ _
  refine ⟨_, Json.reads_object hne hreads, ?_⟩
  simp only [point, hfields, device, Json.Value.text?, hvalue]
  rfl

def appMembers (value : App) : List Json.Member :=
  [⟨"id", Json.natural value.id.toNat, .natural value.id.toNat⟩,
    ⟨"name", Json.quoted value.name, .text (some value.name)⟩]

theorem app_faithful : app.Faithful := by
  intro value
  have hreads : ∀ member ∈ appMembers value, Json.Reads member.letters member.value := by
    simp only [appMembers, List.forall_mem_cons]
    exact ⟨Json.reads_natural _, Json.reads_quoted _, fun _ hmem => absurd hmem List.not_mem_nil⟩
  have hfields : (Json.Value.object ((appMembers value).map Json.Member.read)).fields?
      ["id", "name"] = some [some (.natural value.id.toNat), some (.text (some value.name))] := rfl
  have hne : appMembers value ≠ [] := List.cons_ne_nil _ _
  refine ⟨_, Json.reads_object hne hreads, ?_⟩
  simp only [app, hfields, below?_natural value.id.toNat_lt, Json.Value.text?]
  show some (App.mk (UInt16.ofNat value.id.toNat) value.name) = some value
  rw [UInt16.ofNat_toNat]

def settingsMembers (value : Settings) (json : Json.Value) : List Json.Member :=
  [⟨"ndp_enabled", Json.boolean value.discovery, .boolean value.discovery⟩,
    ⟨"packet_priority", priority.letters value.priority, json⟩,
    ⟨"warn_on_duplicate_replies", Json.boolean value.warnDuplicates, .boolean value.warnDuplicates⟩]

theorem settings_faithful : settings.Faithful := by
  intro value
  obtain ⟨json, hnumber, hvalue⟩ := priority_faithful value.priority
  have hreads : ∀ member ∈ settingsMembers value json,
      Json.Reads member.letters member.value := by
    simp only [settingsMembers, List.forall_mem_cons]
    exact ⟨Json.reads_boolean _, hnumber, Json.reads_boolean _,
      fun _ hmem => absurd hmem List.not_mem_nil⟩
  have hfields : (Json.Value.object ((settingsMembers value json).map Json.Member.read)).fields?
      ["ndp_enabled", "packet_priority", "warn_on_duplicate_replies"] =
        some [some (.boolean value.discovery), some json, some (.boolean value.warnDuplicates)] := rfl
  have hne : settingsMembers value json ≠ [] := List.cons_ne_nil _ _
  refine ⟨_, Json.reads_object hne hreads, ?_⟩
  simp only [settings, hfields, Option.elim_some, Json.Value.boolean?, hvalue]
  rfl

/-- A text is read as an identifier exactly if it is a number from 1 to 4094. -/
theorem read?_vlan_eq_some_iff {text : String} {value : Vlan} :
    vlan.read? text = some value ↔
      Json.read? text.toList = some (.natural value.id) ∧ 1 ≤ value.id ∧ value.id ≤ 4094 := by
  constructor
  · intro h
    obtain ⟨json, hread, hvalue⟩ := Option.bind_eq_some_iff.mp h
    obtain ⟨id, hbelow, hid⟩ := Option.bind_eq_some_iff.mp hvalue
    obtain ⟨rfl, -⟩ := below?_eq_some_iff.mp hbelow
    rw [← Vlan.ofId?_eq_some_iff.mp hid] at hread
    exact ⟨hread, value.pos, value.le_max⟩
  · rintro ⟨hread, -, -⟩
    rw [read?, hread, Option.bind_some, ofValue?_vlan]

/-- Reading undoes writing for every value of every wire form, whatever text its names hold, and what
was read from any text is written as a text that is read as the same value and written as it is from
then on. A VLAN is read from a text only if the text is a number from 1 to 4094. -/
theorem forms_lossless :
    (mac.Lossless ∧ vlan.Lossless ∧ device.Lossless ∧ app.Lossless ∧ pointNumber.Lossless ∧
        point.Lossless ∧ priority.Lossless ∧ settings.Lossless) ∧
      ∀ text id, (vlan.read? text).map Vlan.id = some id ↔
        Json.read? text.toList = some (.natural id) ∧ 1 ≤ id ∧ id ≤ 4094 := by
  refine ⟨⟨mac_faithful.lossless, vlan_faithful.lossless, device_faithful.lossless,
    app_faithful.lossless, pointNumber_faithful.lossless, point_faithful.lossless,
    priority_faithful.lossless, settings_faithful.lossless⟩, fun text id => ?_⟩
  constructor
  · intro h
    obtain ⟨value, hread, rfl⟩ := Option.map_eq_some_iff.mp h
    exact read?_vlan_eq_some_iff.mp hread
  · rintro ⟨hread, hpos, hle⟩
    have hvlan : vlan.read? text = some ⟨id, hpos, hle⟩ :=
      read?_vlan_eq_some_iff.mpr ⟨hread, hpos, hle⟩
    rw [hvlan, Option.map_some]

end Neighbours.WireForm
