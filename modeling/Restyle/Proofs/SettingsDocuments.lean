import Mathlib
import Restyle.Proofs.AlikeTables
import Restyle.Settings.Store

/-! # Changes of settings documents
To change a setting, one entry of one section of the document is set (`Settings.assign`). After
several changes every entry of every section has the value that the last change of it gives, or else
the value it had, in the document (`Settings.value?_assignAll`) as in the effective settings
(`Settings.value?_ofDocument_assignAll`). Changes of different settings can be made in either order
(`Settings.alike_assign_assign`). -/

namespace Restyle

/-! ## Sections of documents -/

namespace Toml

/-- The entries of a table; nothing else has any. -/
def Value.entries : Value → Table
  | .table entries => entries
  | _ => []

/-- Alike values have alike entries. -/
theorem Value.Alike.entries {v w : Value} (h : v.Alike w) : Table.Alike v.entries w.entries := by
  cases h with
  | refl => exact .refl _
  | array => exact .refl _
  | table hkeys hall => exact .table hkeys hall

namespace Table

variable {doc other : Table} {name : String}

/-- The entries of the table in the place of a section. -/
def subtable (doc : Table) (name : String) : Table := (doc.get? name).elim [] Value.entries

/-- The value of an entry of a section. -/
def value? (doc : Table) (name key : String) : Option Value := (doc.subtable name).get? key

/-- There is room for a section where a table stands, or nothing. -/
def HasRoom (doc : Table) (name : String) : Prop := ∀ v, doc.get? name = some v → v.isTable = true

instance : Decidable (doc.HasRoom name) :=
  decidable_of_iff ((doc.get? name).all Value.isTable = true) (Option.all_eq_true _ _)

/-- `(doc.put name (.table entries)).subtable other` is `entries` for `name`, and
`doc.subtable other` otherwise. -/
theorem subtable_put (doc : Table) (name : String) (entries : Table) (other : String) :
    (doc.put name (.table entries)).subtable other = if other = name then entries
      else doc.subtable other := by
  unfold subtable
  rw [get?_put]
  split <;> rfl

/-- `doc.subtable name` of alike documents are alike. -/
theorem Alike.subtable (h : Alike doc other) (name : String) :
    Alike (doc.subtable name) (other.subtable name) := by
  unfold Table.subtable
  have hrel := h.get? name
  generalize doc.get? name = found, other.get? name = found' at hrel
  cases hrel with
  | none => exact .refl _
  | some hvw => exact hvw.entries

/-- `doc.value? name key` of alike documents are alike. -/
theorem Alike.value? (h : Alike doc other) (name key : String) :
    Option.Rel Value.Alike (doc.value? name key) (other.value? name key) :=
  (h.subtable name).get? key

/-- `HasRoom` passes to an alike document. -/
theorem HasRoom.of_alike (hroom : other.HasRoom name) (h : Alike doc other) : doc.HasRoom name := by
  intro v hv
  have hrel := h.get? name
  rw [hv] at hrel
  generalize hw : other.get? name = found at hrel
  cases hrel with
  | some hvw =>
    have htable := hroom _ hw
    cases hvw with
    | refl => exact htable
    | array => cases htable
    | table => rfl

end Table

end Toml

namespace Settings

open Toml (Table Value)

variable {doc other : Table} {s s' : Setting}

/-! ## Changes -/

/-- The document in which a setting has the given value. -/
def assign (doc : Table) (s : Setting) (v : Value) : Table :=
  doc.put s.sectionName (.table ((doc.subtable s.sectionName).put s.name v))

/-- `setIn doc s v = .ok (assign doc s v)` where there is room for the section. -/
theorem setIn_of_hasRoom (h : doc.HasRoom s.sectionName) (v : Value) :
    setIn doc s v = .ok (assign doc s v) := by
  unfold setIn assign Table.subtable
  cases hv : doc.get? s.sectionName with
  | none => rfl
  | some w =>
    have htable := h w hv
    cases w with
    | table entries => rfl
    | _ => cases htable

/-- `setIn doc s v = .error .sectionNotTable` where there is no room for the section. -/
theorem setIn_of_not_hasRoom (h : ¬doc.HasRoom s.sectionName) (v : Value) :
    setIn doc s v = .error .sectionNotTable := by
  unfold Table.HasRoom at h
  push Not at h
  obtain ⟨w, hw, htable⟩ := h
  unfold setIn
  rw [hw]
  cases w with
  | table entries => exact absurd rfl htable
  | _ => rfl

/-- `(assign doc s v).subtable name` changes for the section of `s` only. -/
theorem subtable_assign (doc : Table) (s : Setting) (v : Value) (name : String) :
    (assign doc s v).subtable name =
      if name = s.sectionName then (doc.subtable name).put s.name v else doc.subtable name := by
  unfold assign
  rw [Table.subtable_put]
  split
  · next h => rw [h]
  · rfl

/-- `(assign doc s v).value? name key` is `v` for `s`, and `doc.value? name key` otherwise. -/
theorem value?_assign (doc : Table) (s : Setting) (v : Value) (name key : String) :
    (assign doc s v).value? name key =
      if s.sectionName = name ∧ s.name = key then some v else doc.value? name key := by
  unfold Table.value?
  rw [subtable_assign]
  by_cases hname : name = s.sectionName
  · rw [if_pos hname, Table.get?_put]
    by_cases hkey : key = s.name
    · rw [if_pos hkey, if_pos ⟨hname.symm, hkey.symm⟩]
    · rw [if_neg hkey, if_neg fun h => hkey h.2.symm]
  · rw [if_neg hname, if_neg fun h => hname h.1.symm]

/-- `(assign doc s v).get? name = doc.get? name` unless `name` is the section of `s`. -/
theorem get?_assign_of_ne {name : String} (h : s.sectionName ≠ name) (doc : Table) (v : Value) :
    (assign doc s v).get? name = doc.get? name := by
  unfold assign
  rw [Table.get?_put, if_neg h.symm]

/-- `assign` goes through `Alike`. -/
theorem alike_assign (h : doc.Alike other) (s : Setting) (v : Value) :
    (assign doc s v).Alike (assign other s v) :=
  h.put s.sectionName ((h.subtable s.sectionName).put s.name (.refl v))

/-- A document with room for the sections, and with sections in which every key occurs once. -/
structure HasSections (doc : Table) : Prop where
  /-- In the place of a section stands a table, or nothing. -/
  hasRoom : ∀ s : Setting, doc.HasRoom s.sectionName
  /-- No key occurs twice in a section. -/
  nodup : ∀ s : Setting, ((doc.subtable s.sectionName).map Prod.fst).Nodup

/-- `HasSections` passes to an alike document. -/
theorem HasSections.of_alike (hdoc : HasSections other) (h : doc.Alike other) :
    HasSections doc where
  hasRoom s := (hdoc.hasRoom s).of_alike h
  nodup s := (h.subtable s.sectionName).keys_perm.nodup_iff.mpr (hdoc.nodup s)

/-- `assign` keeps `HasSections`. -/
theorem HasSections.assign (hdoc : HasSections doc) (s : Setting) (v : Value) :
    HasSections (assign doc s v) where
  hasRoom s' := by
    intro w hw
    unfold Settings.assign at hw
    rw [Table.get?_put] at hw
    split at hw
    · exact Option.some.inj hw ▸ rfl
    · exact hdoc.hasRoom s' w hw
  nodup s' := by
    rw [subtable_assign]
    split
    · exact Table.nodup_keys_put (hdoc.nodup s') s.name v
    · exact hdoc.nodup s'

/-- A setting is determined by its section and its name. -/
theorem eq_of_names_eq (hsection : s.sectionName = s'.sectionName) (hname : s.name = s'.name) :
    s = s' := by
  cases s <;> cases s' <;> first | rfl | exact absurd hname (by decide)

/-- `assign` of different settings can be done in either order, up to `Alike`. -/
theorem alike_assign_assign (hne : s ≠ s') (doc : Table) (v v' : Value) :
    (assign (assign doc s v) s' v').Alike (assign (assign doc s' v') s v) := by
  unfold assign
  rw [Table.subtable_put, Table.subtable_put]
  by_cases hsection : s.sectionName = s'.sectionName
  · -- both are entries of one section, which is set twice
    have hname : s.name ≠ s'.name := fun h => hne (eq_of_names_eq hsection h)
    have hentries := Table.alike_put_put hname (doc.subtable s.sectionName) v v'
    rw [← hsection, if_pos rfl, if_pos rfl]
    exact (Table.alike_put_put_self _ _ _ _).trans
      ((Table.Alike.put (.refl _) s.sectionName hentries).trans
        (Table.alike_put_put_self _ _ _ _).symm)
  · rw [if_neg (Ne.symm hsection), if_neg hsection]
    exact Table.alike_put_put hsection doc _ _

/-! ## Several changes -/

/-- The document in which several settings have been changed, one after the other. -/
def assignAll (doc : Table) (changes : List (Setting × Value)) : Table :=
  changes.foldl (fun doc change => assign doc change.1 change.2) doc

/-- The value that the last change of an entry gives it. -/
def latest (changes : List (Setting × Value)) (name key : String) : Option Value :=
  match changes with
  | [] => none
  | (s, v) :: changes =>
    (latest changes name key).or (if s.sectionName = name ∧ s.name = key then some v else none)

/-- `(assignAll doc changes).value? name key` is what the latest change of that entry gives, or else
what it was. -/
theorem value?_assignAll (doc : Table) (changes : List (Setting × Value)) (name key : String) :
    (assignAll doc changes).value? name key =
      (latest changes name key).or (doc.value? name key) := by
  induction changes generalizing doc with
  | nil => rfl
  | cons change changes ih =>
    obtain ⟨s, v⟩ := change
    have hcons : assignAll doc ((s, v) :: changes) = assignAll (assign doc s v) changes := rfl
    rw [hcons, ih, value?_assign, latest, Option.or_assoc]
    split
    · rw [Option.some_or]
    · rw [Option.none_or]

/-- `(assignAll doc changes).get? name = doc.get? name` unless `name` is a section that is
changed. -/
theorem get?_assignAll_of_ne {changes : List (Setting × Value)} {name : String}
    (h : ∀ change ∈ changes, change.1.sectionName ≠ name) (doc : Table) :
    (assignAll doc changes).get? name = doc.get? name := by
  induction changes generalizing doc with
  | nil => rfl
  | cons change changes ih =>
    obtain ⟨s, v⟩ := change
    have hcons : assignAll doc ((s, v) :: changes) = assignAll (assign doc s v) changes := rfl
    rw [hcons, ih fun other hother => h other (List.mem_cons_of_mem _ hother)]
    exact get?_assign_of_ne (h (s, v) List.mem_cons_self) doc v

/-- `assignAll` keeps `HasSections`. -/
theorem HasSections.assignAll (hdoc : HasSections doc) (changes : List (Setting × Value)) :
    HasSections (assignAll doc changes) := by
  induction changes generalizing doc with
  | nil => exact hdoc
  | cons change changes ih => exact ih (hdoc.assign change.1 change.2)

/-! ## Effective settings -/

/-- The effective value of an entry of a section. -/
def value? (settings : Settings) (name key : String) : Option Value :=
  (settings.sections.lookup name).bind fun entries => Table.get? entries key

/-- `overlaid doc name` is `defaultSection name` with `doc.subtable name` set in it. -/
theorem overlaid_eq (doc : Table) (name : String) :
    overlaid doc name = (defaultSection name).putAll (doc.subtable name) := by
  unfold overlaid Table.subtable
  cases doc.get? name with
  | none => rfl
  | some v => cases v <;> rfl

/-- `(ofDocument doc).value?` is that of the document, or else that of the defaults. -/
theorem value?_ofDocument (hdoc : HasSections doc) (s : Setting) (key : String) :
    (ofDocument doc).value? s.sectionName key =
      (doc.value? s.sectionName key).or (Table.get? (defaultSection s.sectionName) key) := by
  have hlookup : (ofDocument doc).sections.lookup s.sectionName =
      some (overlaid doc s.sectionName) := by
    cases s <;> rfl
  -- the overlay sets the entries one after the other, so that no key may occur twice in the section
  rw [value?, hlookup, Option.bind_some, overlaid_eq,
    Table.get?_putAll (hdoc.nodup s), Table.value?]

/-- `(ofDocument doc).value? name key = none` for a `name` that is no section. -/
theorem value?_ofDocument_of_ne {name : String}
    (h : ∀ s : Setting, s.sectionName ≠ name) (doc : Table) (key : String) :
    (ofDocument doc).value? name key = none := by
  have hrender : name ≠ "render" := (h .outputStyle).symm
  have hwatch : name ≠ "watch" := (h .recursive).symm
  have hlookup : (ofDocument doc).sections.lookup name = none := by
    unfold sections
    rw [lookup_cons_of_ne hrender, lookup_cons_of_ne hwatch, List.lookup_nil]
  rw [value?, hlookup, Option.bind_none]

/-- No change is one of a `name` that is no section. -/
theorem latest_of_ne {name : String} (h : ∀ s : Setting, s.sectionName ≠ name)
    (changes : List (Setting × Value)) (key : String) : latest changes name key = none := by
  induction changes with
  | nil => rfl
  | cons change changes ih =>
    obtain ⟨s, v⟩ := change
    rw [latest, ih, Option.none_or, if_neg fun hsame => h s hsame.1]

/-- `(ofDocument doc).value?` of alike documents are alike. -/
theorem rel_value?_ofDocument (hdoc : HasSections other) (h : doc.Alike other) (name key : String) :
    Option.Rel Value.Alike ((ofDocument doc).value? name key)
      ((ofDocument other).value? name key) := by
  by_cases hname : ∃ s : Setting, s.sectionName = name
  · obtain ⟨s, rfl⟩ := hname
    rw [value?_ofDocument (hdoc.of_alike h), value?_ofDocument hdoc]
    have hrel := h.value? s.sectionName key
    generalize doc.value? s.sectionName key = found, other.value? s.sectionName key = found' at hrel
    cases hrel with
    | none => exact Value.Alike.rel_refl _
    | some hvw => exact .some hvw
  · push Not at hname
    rw [value?_ofDocument_of_ne hname, value?_ofDocument_of_ne hname]
    exact .none

/-- `(ofDocument (assignAll doc changes)).value?` is what the latest change gives, or else what it
was. -/
theorem value?_ofDocument_assignAll (hdoc : HasSections doc) (changes : List (Setting × Value))
    (name key : String) :
    (ofDocument (assignAll doc changes)).value? name key =
      (latest changes name key).or ((ofDocument doc).value? name key) := by
  by_cases hname : ∃ s : Setting, s.sectionName = name
  · -- changes come before the document, and the document before the defaults
    obtain ⟨s, rfl⟩ := hname
    rw [value?_ofDocument (hdoc.assignAll changes), value?_ofDocument hdoc, value?_assignAll,
      Option.or_assoc]
  · push Not at hname
    rw [value?_ofDocument_of_ne hname, value?_ofDocument_of_ne hname, latest_of_ne hname,
      Option.none_or]

/-! ## Documents after changes -/

/-- A document after changes of another one, up to the order of its entries. -/
structure IsUpdated (doc : Table) (changes : List (Setting × Value)) (updated : Table) : Prop where
  /-- It is the document with the changes made in it. -/
  alike : updated.Alike (assignAll doc changes)
  /-- Every entry of every section has the value of its last change, or else the value it had. -/
  entry : ∀ name key, Option.Rel Value.Alike (updated.value? name key)
    ((latest changes name key).or (doc.value? name key))
  /-- What lies outside the changed sections is as it was. -/
  other : ∀ name, (∀ change ∈ changes, change.1.sectionName ≠ name) →
    Option.Rel Value.Alike (updated.get? name) (doc.get? name)
  /-- Every effective setting has the value of its last change, or else the value it had. -/
  effective : ∀ name key, Option.Rel Value.Alike ((ofDocument updated).value? name key)
    ((latest changes name key).or ((ofDocument doc).value? name key))

/-- `IsUpdated doc changes updated` for an `updated` that is alike to `assignAll doc changes`. -/
theorem isUpdated_of_alike (hdoc : HasSections doc) {changes : List (Setting × Value)}
    {updated : Table} (h : updated.Alike (assignAll doc changes)) :
    IsUpdated doc changes updated where
  alike := h
  entry name key := value?_assignAll doc changes name key ▸ h.value? name key
  other name hne := get?_assignAll_of_ne hne doc ▸ h.get? name
  effective name key :=
    value?_ofDocument_assignAll hdoc changes name key ▸
      rel_value?_ofDocument (hdoc.assignAll changes) h name key

end Settings

end Restyle
