import Mathlib
import Restyle.Proofs.BareTrees
import Restyle.Proofs.SettingsDocuments
import Restyle.Proofs.SettingsFile

/-! # Sequences of settings calls
Calls that set values follow one another, accepted or refused. As long as every document that is
stored can be spelled and is read back, the settings file holds what it held at first with the
accepted changes made in it, and the effective settings follow (`Settings.isUpdated_setAll`). A call
whose document cannot be spelled empties the file, and with it what other calls have set
(`Settings.not_isUpdated_spoilt`). -/

namespace Restyle

/-- A codec reads back a document that it has written, up to the order of entries. -/
def Toml.Codec.ReadsBack (codec : Toml.Codec) (doc : Toml.Table) : Prop :=
  ∀ text, codec.write doc = .ok text →
    ∃ doc', codec.read (Text.unifyLineBreaks text) = .ok doc' ∧ doc'.Alike doc

namespace Settings

open Toml (Codec Table Value)

/-- A call that sets a setting, given by its full name, to the value of a text. -/
structure SetRequest where
  /-- The full name. -/
  key : String
  /-- The text. -/
  raw : String

/-- Make calls, one after the other. -/
def setAll (t : FileTree) (path : String) (requests : List SetRequest)
    (codec : Codec := .standard) :
    List (Except SettingsError Value) × FileTree :=
  match requests with
  | [] => ([], t)
  | r :: requests =>
    let (answer, t) := set t path r.key r.raw codec
    let (answers, t) := setAll t path requests codec
    (answer :: answers, t)

/-- The change that a call makes if it is accepted. -/
def SetRequest.change? (r : SetRequest) : Except SettingsError Value → Option (Setting × Value)
  | .ok v => (Setting.ofKey? r.key).map (·, v)
  | .error _ => none

/-- The changes that calls make, in view of their answers. -/
def accepted (requests : List SetRequest) (answers : List (Except SettingsError Value)) :
    List (Setting × Value) :=
  (requests.zip answers).filterMap fun p => p.1.change? p.2

/-- The documents that calls are about to store. -/
def changedDocuments (t : FileTree) (path : String) (requests : List SetRequest)
    (codec : Codec) : List Table :=
  match requests with
  | [] => []
  | r :: requests =>
    let changed := changedDocuments (set t path r.key r.raw codec).2 path requests codec
    match change t path r.key r.raw codec with
    | .ok (_, doc) => doc :: changed
    | .error _ => changed

/-- Calls whose documents can be spelled and are read back. -/
structure IsSound (t : FileTree) (path : String) (requests : List SetRequest)
    (codec : Codec) : Prop where
  /-- No call fails at the spelling of its document. -/
  ne_writing : ∀ answer ∈ (setAll t path requests codec).1, ∀ w, answer ≠ .error (.writing w)
  /-- The documents are read back. -/
  readsBack : ∀ doc ∈ changedDocuments t path requests codec, codec.ReadsBack doc

variable {t t' : FileTree} {path : String} {requests : List SetRequest} {codec : Codec}
  {doc : Table}

/-! ## What the file holds -/

/-- The file holds a document, up to the order of its entries, and may be read. -/
structure Holds (t : FileTree) (path : String) (codec : Codec) (doc : Table) : Prop where
  /-- Reading is permitted. -/
  readable : path ∉ t.unreadable
  /-- A document like this is loaded. -/
  exists_load : ∃ loaded, loadDocument t path codec = .ok loaded ∧ loaded.Alike doc
  /-- It has room for the sections. -/
  hasSections : HasSections doc

/-- `set` turns `Holds … doc` into `Holds … (assignAll doc changes)` with the change that it
accepts, if any. -/
theorem Holds.set (h : Holds t path codec doc) {r : SetRequest}
    {answer : Except SettingsError Value} (hset : Settings.set t path r.key r.raw codec =
      (answer, t')) (hspelled : ∀ w, answer ≠ .error (.writing w))
    (hback : ∀ v changed, change t path r.key r.raw codec = .ok (v, changed) →
      codec.ReadsBack changed) :
    Holds t' path codec (assignAll doc (r.change? answer).toList) := by
  cases ends_of_set_eq hset with
  | refused => exact h
  | notOpened => exact h
  | notSpelled => exact absurd rfl (hspelled _)
  | @stored v changed emptied _ text hchange hopen hwrite hstore =>
    obtain ⟨s, old, hkey, -, hold, hsetIn⟩ := exists_of_change_eq_ok hchange
    obtain ⟨loaded, hloaded, halike⟩ := h.exists_load
    -- the change is made in what has been loaded, which is like the document but need not be it
    obtain rfl : loaded = old := Except.ok.inj (hloaded.symm.trans hold)
    rw [setIn_of_hasRoom ((h.hasSections.hasRoom s).of_alike halike)] at hsetIn
    obtain rfl := Except.ok.inj hsetIn
    obtain ⟨again, hread, hagain⟩ := hback _ _ hchange text hwrite
    have hreadable : path ∉ emptied.unreadable := by
      rw [unreadable_of_openFile hopen]
      exact h.readable
    have hchanges : (r.change? (.ok v)).toList = [(s, v)] := by
      rw [SetRequest.change?, hkey]
      rfl
    rw [hchanges]
    refine ⟨?_, ⟨again, ?_, hagain.trans (alike_assign halike s v)⟩, h.hasSections.assign s v⟩
    · rwa [FileTree.unreadable_of_writeFile hstore]
    · exact loadDocument_of_writeFile hstore hreadable hread

/-- `accepted` goes through the calls one by one. -/
theorem accepted_cons (r : SetRequest) (answer : Except SettingsError Value)
    (answers : List (Except SettingsError Value)) :
    accepted (r :: requests) (answer :: answers) = (r.change? answer).toList ++
      accepted requests answers := by
  unfold accepted
  simp only [List.zip_cons_cons, List.filterMap_cons]
  cases r.change? answer <;> rfl

/-- The first of sound calls does not fail at the spelling, and what it writes reads back. -/
theorem IsSound.head {r : SetRequest} (h : IsSound t path (r :: requests) codec) :
    (∀ w, (set t path r.key r.raw codec).1 ≠ .error (.writing w)) ∧
      ∀ v changed, change t path r.key r.raw codec = .ok (v, changed) →
      codec.ReadsBack changed := by
  refine ⟨h.ne_writing _ List.mem_cons_self, fun v changed hchange => h.readsBack changed ?_⟩
  rw [changedDocuments, hchange]
  exact List.mem_cons_self

/-- Sound calls without the first one are sound, from the tree that it leaves. -/
theorem IsSound.tail {r : SetRequest} (h : IsSound t path (r :: requests) codec) :
    IsSound (set t path r.key r.raw codec).2 path requests codec := by
  refine ⟨fun answer hanswer => h.ne_writing answer (List.mem_cons_of_mem _ hanswer),
    fun changed hchanged => ?_⟩
  refine h.readsBack changed ?_
  rw [changedDocuments]
  split
  · exact List.mem_cons_of_mem _ hchanged
  · exact hchanged

/-- `setAll` turns `Holds … doc` into `Holds … (assignAll doc changes)` with all accepted changes,
if the calls are sound. -/
theorem Holds.setAll (h : Holds t path codec doc) (hsound : IsSound t path requests codec) :
    Holds (setAll t path requests codec).2 path codec
      (assignAll doc (accepted requests (Settings.setAll t path requests codec).1)) := by
  -- by induction on the calls, with any tree and any document that the tree holds
  induction requests generalizing t doc with
  | nil => exact h
  | cons r requests ih =>
    have hnext := ih (h.set rfl hsound.head.1 hsound.head.2) hsound.tail
    have hcons : Settings.setAll t path (r :: requests) codec =
      ((Settings.set t path r.key r.raw codec).1 ::
        (Settings.setAll (Settings.set t path r.key r.raw codec).2 path requests codec).1,
        (Settings.setAll (Settings.set t path r.key r.raw codec).2 path requests codec).2) := rfl
    rw [hcons, accepted_cons, assignAll, List.foldl_append]
    exact hnext

/-! ## Calls in either order -/

/-- `openFile` succeeds in `t'` if it does in `t` and both have the same `bare` tree. -/
theorem exists_openFile_of_bare_eq (h : t.bare = t'.bare) {emptied : FileTree}
    (hopen : openFile t path = .ok emptied) : ∃ emptied', openFile t' path = .ok emptied' := by
  have hbare := openFile_bare t path
  rw [h, openFile_bare t' path, hopen] at hbare
  cases hopen' : openFile t' path with
  | error e =>
    rw [hopen'] at hbare
    cases hbare
  | ok emptied' => exact ⟨emptied', rfl⟩

/-- `set` answers `.ok v` for a setting and a value of it, if the file can be opened and the
spelling does not fail. -/
theorem Holds.exists_set_eq_ok (h : Holds t path codec doc) {r : SetRequest}
    {s : Setting} {v : Value} {emptied : FileTree} (hkey : Setting.ofKey? r.key = some s)
    (hparse : s.parse r.raw = .ok v)
    (hopen : openFile t path = .ok emptied)
    (hspelled : ∀ w, (Settings.set t path r.key r.raw codec).1 ≠ .error (.writing w)) :
    ∃ t' content, emptied.writeFile path content = .ok t' ∧
      Settings.set t path r.key r.raw codec = (.ok v, t') := by
  obtain ⟨loaded, hload, halike⟩ := h.exists_load
  have hchange : change t path r.key r.raw codec = .ok (v, assign loaded s v) := by
    rw [change_eq_map_setIn hkey hparse hload,
      setIn_of_hasRoom ((h.hasSections.hasRoom s).of_alike halike)]
    rfl
  cases hwrite : codec.write (assign loaded s v) with
  | error w =>
    exact absurd (congrArg Prod.fst (Ends.notSpelled hchange hopen hwrite).set_eq) (hspelled w)
  | ok text =>
    obtain ⟨t', hstore⟩ := exists_writeFile_of_openFile hopen (String.ofList text).toUTF8.toList
    exact ⟨t', _, hstore, (Ends.stored hchange hopen hwrite hstore).set_eq⟩

/-- `Setting.ofKey? key = some s` only for `key = s.key`. -/
theorem ofKey?_eq_some {key : String} {s : Setting} (h : Setting.ofKey? key = some s) :
    s.key = key := by
  simpa using List.find?_some h

/-- `writeFile` leaves the same `bare` tree whatever the content. -/
theorem bare_eq_of_writeFile {u u' : FileTree} {content content' : List UInt8}
    (h : t.writeFile path content = .ok u) (h' : t.writeFile path content' = .ok u') :
    u.bare = u'.bare := by
  have hbare := FileTree.writeFile_bare t path content
  rw [FileTree.writeFile_bare t path content', h, h'] at hbare
  exact (Except.ok.inj hbare).symm

/-- Two sound calls for different keys that are accepted in one order are accepted in the other, and
leave alike documents. -/
theorem Holds.setAll_swap (h : Holds t path codec doc) {r r' : SetRequest} {v v' : Value}
    (hne : r.key ≠ r'.key) (hsound : IsSound t path [r, r'] codec)
    (hsound' : IsSound t path [r', r] codec)
    (haccepted : (Settings.setAll t path [r, r'] codec).1 = [.ok v, .ok v']) :
    (Settings.setAll t path [r', r] codec).1 = [.ok v', .ok v] ∧
      ∃ doc₁ doc₂, doc₁.Alike doc₂ ∧
      Holds (Settings.setAll t path [r, r'] codec).2 path codec doc₁ ∧
        Holds (Settings.setAll t path [r', r] codec).2 path codec doc₂ := by
  obtain ⟨hfirst, hsecond⟩ : (Settings.set t path r.key r.raw codec).1 = .ok v ∧
      (Settings.set (Settings.set t path r.key r.raw codec).2 path r'.key r'.raw codec).1 =
        .ok v' := by
    simpa [Settings.setAll] using haccepted
  obtain ⟨s, emptied, content, hkey, hparse, hopen, hstore⟩ :=
    exists_of_set_eq_ok (Prod.ext hfirst rfl)
  obtain ⟨s', emptied', content', hkey', hparse', hopen', -⟩ :=
    exists_of_set_eq_ok (Prod.ext hsecond rfl)
  -- in the other order the file is opened as before, and stands at the same place after the first
  -- call
  obtain ⟨t₁, content₁, hstore₁, hset₁⟩ := h.exists_set_eq_ok hkey' hparse' hopen hsound'.head.1
  obtain ⟨emptied₁, hopen₁⟩ :=
    exists_openFile_of_bare_eq (bare_eq_of_writeFile hstore hstore₁) hopen'
  -- so the file can be opened again, and holds a document with room for the other setting
  have hnext := h.set hset₁ (by simp) hsound'.head.2
  have hspelled := hsound'.tail.head.1
  rw [hset₁] at hspelled
  obtain ⟨t₂, -, -, hset₂⟩ := hnext.exists_set_eq_ok hkey hparse hopen₁ hspelled
  have hanswers : (Settings.setAll t path [r', r] codec).1 = [.ok v', .ok v] := by
    simp [Settings.setAll, hset₁, hset₂]
  refine ⟨hanswers, _, _, ?_, h.setAll hsound, h.setAll hsound'⟩
  have hsettings : s ≠ s' := by
    rintro rfl
    exact hne ((ofKey?_eq_some hkey).symm.trans (ofKey?_eq_some hkey'))
  have hchanges : accepted [r, r'] [.ok v, .ok v'] = [(s, v), (s', v')] := by
    simp [accepted, SetRequest.change?, hkey, hkey']
  have hchanges' : accepted [r', r] [.ok v', .ok v] = [(s', v'), (s, v)] := by
    simp [accepted, SetRequest.change?, hkey, hkey']
  rw [haccepted, hanswers, hchanges, hchanges']
  exact alike_assign_assign hsettings doc v v'

/-! ## Sequences of calls -/

/-- A settings file may be read, and its document has room for the sections. Then sound calls,
accepted or refused, leave a file whose document is that one with the accepted changes made in it,
and nothing else; the effective settings have changed likewise. Moreover two accepted calls for
different settings may be made in either order. -/
theorem isUpdated_setAll (hreadable : path ∉ t.unreadable)
    (hload : loadDocument t path codec = .ok doc) (hdoc : HasSections doc) :
    (∀ requests, IsSound t path requests codec →
      ∃ updated, loadDocument (setAll t path requests codec).2 path codec = .ok updated ∧
        IsUpdated doc (accepted requests (setAll t path requests codec).1) updated ∧
        load t path codec = .ok (ofDocument doc) ∧
        load (setAll t path requests codec).2 path codec = .ok (ofDocument updated)) ∧
      ∀ r r' v v', r.key ≠ r'.key → IsSound t path [r, r'] codec → IsSound t path [r', r] codec →
        (setAll t path [r, r'] codec).1 = [.ok v, .ok v'] →
        (setAll t path [r', r] codec).1 = [.ok v', .ok v] ∧
          ∃ doc₁ doc₂, loadDocument (setAll t path [r, r'] codec).2 path codec = .ok doc₁ ∧
            loadDocument (setAll t path [r', r] codec).2 path codec = .ok doc₂ ∧ doc₁.Alike doc₂ ∧
            ∀ name key, Option.Rel Value.Alike ((ofDocument doc₁).value? name key)
              ((ofDocument doc₂).value? name key) := by
  -- what the file holds is carried along up to `Document.Alike`
  have hholds : Holds t path codec doc := ⟨hreadable, ⟨doc, hload, .refl _⟩, hdoc⟩
  refine ⟨fun requests hsound => ?_, fun r r' v v' hne hsound hsound' haccepted => ?_⟩
  · obtain ⟨updated, hupdated, halike⟩ := (hholds.setAll hsound).exists_load
    refine ⟨updated, hupdated, isUpdated_of_alike hdoc halike, ?_, ?_⟩
    · rw [load, hload]
      rfl
    · rw [load, hupdated]
      rfl
  · obtain ⟨hanswers, doc₁, doc₂, halike, hholds₁, hholds₂⟩ :=
      hholds.setAll_swap hne hsound hsound' haccepted
    obtain ⟨loaded₁, hload₁, halike₁⟩ := hholds₁.exists_load
    obtain ⟨loaded₂, hload₂, halike₂⟩ := hholds₂.exists_load
    have hsame : loaded₁.Alike loaded₂ := halike₁.trans (halike.trans halike₂.symm)
    exact ⟨hanswers, loaded₁, loaded₂, hload₁, hload₂, hsame, fun name key =>
      rel_value?_ofDocument (hholds₂.hasSections.of_alike halike₂) hsame name key⟩

/-! ## Calls on a small tree -/

/-- No calls are sound. -/
theorem IsSound.nil : IsSound t path [] codec := ⟨by simp [setAll], by simp [changedDocuments]⟩

/-- A call that does not fail at the spelling, and whose document reads back, is sound in front of
sound calls. -/
theorem IsSound.cons {r : SetRequest} {answer : Except SettingsError Value}
    (hset : set t path r.key r.raw codec = (answer, t'))
    (hspelled : ∀ w, answer ≠ .error (.writing w))
    (hback : ∀ v changed, change t path r.key r.raw codec = .ok (v, changed) →
      codec.ReadsBack changed)
    (h : IsSound t' path requests codec) : IsSound t path (r :: requests) codec := by
  refine ⟨fun other hother => ?_, fun changed hchanged => ?_⟩
  · simp only [setAll, hset, List.mem_cons] at hother
    rcases hother with rfl | hother
    · exact hspelled
    · exact h.ne_writing other hother
  · simp only [changedDocuments, hset] at hchanged
    split at hchanged
    · next v doc hchange =>
      rcases List.mem_cons.mp hchanged with rfl | hchanged
      · exact hback v _ hchange
      · exact h.readsBack changed hchanged
    · exact h.readsBack changed hchanged

/-- `setAll` makes the first call and then the others in the tree that it leaves. -/
theorem setAll_cons {r : SetRequest} {answer : Except SettingsError Value}
    (hset : set t path r.key r.raw codec = (answer, t')) : setAll t path (r :: requests) codec =
      (answer :: (setAll t' path requests codec).1, (setAll t' path requests codec).2) := by
  rw [setAll, hset]

/-- A text that spells a document, and is read as that document. -/
structure IsTextOf (text : String) (doc : Table) : Prop where
  /-- The document is spelled so. -/
  write_eq : Toml.write doc = .ok text.toList
  /-- What is spelled so is the document. -/
  read_eq : Toml.read (Text.unifyLineBreaks text.toList) = .ok doc

/-- A text that `IsTextOf` a document reads back with the standard codec. -/
theorem IsTextOf.readsBack {text : String} (h : IsTextOf text doc) :
    Codec.standard.ReadsBack doc := by
  intro other hother
  obtain rfl : text.toList = other := Except.ok.inj (h.write_eq.symm.trans hother)
  exact ⟨doc, h.read_eq, .refl _⟩

section

variable {text next : String} {r : SetRequest} {s : Setting} {v : Value}
  (hkey : Setting.ofKey? r.key = some s) (hparse : s.parse r.raw = .ok v)
  (hroom : doc.HasRoom s.sectionName)

include hkey hparse hroom

/-- `change` of a document that the settings file spells is `assign doc s v`. -/
theorem IsTextOf.change_eq (h : IsTextOf text doc) :
    change (textTree text) "/config.toml" r.key r.raw = .ok (v, assign doc s v) := by
  have hload : loadDocument (textTree text) "/config.toml" = .ok doc :=
    loadDocument_textTree h.read_eq
  rw [change_eq_map_setIn hkey hparse hload, setIn_of_hasRoom hroom]
  rfl

/-- `set` replaces the text of a document by that of `assign doc s v`. -/
theorem IsTextOf.set_eq (h : IsTextOf text doc) (hnext : IsTextOf next (assign doc s v)) :
    set (textTree text) "/config.toml" r.key r.raw = (.ok v, textTree next) := by
  have hstore := writeFile_settingsTree [] (String.ofList next.toList).toUTF8.toList
  rw [(Ends.stored (h.change_eq hkey hparse hroom) (openFile_settingsTree _) hnext.write_eq
    hstore).set_eq, String.ofList_toList]
  rfl

/-- A call between two texts that spell documents is sound in front of sound calls. -/
theorem IsTextOf.isSound_cons (h : IsTextOf text doc) (hnext : IsTextOf next (assign doc s v))
    (hrest : IsSound (textTree next) "/config.toml" requests .standard) :
    IsSound (textTree text) "/config.toml" (r :: requests) .standard := by
  refine .cons (h.set_eq hkey hparse hroom hnext) (by simp) (fun w changed hchange => ?_) hrest
  rw [h.change_eq hkey hparse hroom] at hchange
  cases hchange
  exact hnext.readsBack

end

/-- The settings with an output style too. -/
def nestedSettings : String := "[render]\nsource_map = true\noutput_style = \"nested\"\n"

/-- The settings with a depth of the scan too. -/
def flatSettings : String := "[render]\nsource_map = true\n\n[watch]\nrecursive = false\n"

/-- The settings with both. -/
def bothSettings : String :=
  "[render]\nsource_map = true\noutput_style = \"nested\"\n\n[watch]\nrecursive = false\n"

/-- Each of the texts spells its document. -/
theorem isTextOf_settings :
    IsTextOf mappedSettings mappedDocument ∧
      IsTextOf nestedSettings (assign mappedDocument .outputStyle (.text "nested")) ∧
      IsTextOf flatSettings (assign mappedDocument .recursive (.boolean false)) ∧
      IsTextOf bothSettings
        (assign (assign mappedDocument .outputStyle (.text "nested")) .recursive (.boolean false)) ∧
      IsTextOf bothSettings
        (assign (assign mappedDocument .recursive (.boolean false)) .outputStyle
          (.text "nested")) := by
  refine ⟨⟨by decide +kernel, read_mappedSettings⟩, ⟨by decide +kernel, ?_⟩,
    ⟨by decide +kernel, ?_⟩, ⟨by decide +kernel, ?_⟩, ⟨by decide +kernel, ?_⟩⟩
  all_goals exact Toml.eq_ok_of_isReadAs (by decide +kernel)

/-- Set the output style. -/
def nestRequest : SetRequest := { key := Setting.outputStyle.key, raw := "nested" }

/-- Leave out the directories below the root. -/
def flatRequest : SetRequest := { key := Setting.recursive.key, raw := "off" }

/-- `mappedDocument` has room for every section. -/
theorem hasSections_mapped : HasSections mappedDocument where
  hasRoom s := by cases s <;> decide
  nodup s := by cases s <;> decide

/-- The two calls are sound. -/
theorem isSound_nest_flat :
    IsSound (textTree mappedSettings) "/config.toml" [nestRequest, flatRequest] .standard := by
  obtain ⟨hmapped, hnested, -, hboth, -⟩ := isTextOf_settings
  exact hmapped.isSound_cons (Setting.ofKey?_key _)
    rfl (hasSections_mapped.hasRoom .outputStyle) hnested
    (hnested.isSound_cons (Setting.ofKey?_key _)
      rfl ((hasSections_mapped.assign _ _).hasRoom .recursive) hboth .nil)

/-- The two calls are sound in the other order. -/
theorem isSound_flat_nest :
    IsSound (textTree mappedSettings) "/config.toml" [flatRequest, nestRequest] .standard := by
  obtain ⟨hmapped, -, hflat, -, hboth⟩ := isTextOf_settings
  exact hmapped.isSound_cons (Setting.ofKey?_key _)
    rfl (hasSections_mapped.hasRoom .recursive) hflat
    (hflat.isSound_cons (Setting.ofKey?_key _)
      rfl ((hasSections_mapped.assign _ _).hasRoom .outputStyle) hboth .nil)

/-- The two calls are accepted. -/
theorem answers_nest_flat :
    (setAll (textTree mappedSettings) "/config.toml" [nestRequest, flatRequest]).1 =
    [.ok (.text "nested"), .ok (.boolean false)] := by
  obtain ⟨hmapped, hnested, -, hboth, -⟩ := isTextOf_settings
  have hnest :=
    hmapped.set_eq (Setting.ofKey?_key _) rfl (hasSections_mapped.hasRoom .outputStyle) hnested
    (r := nestRequest)
  have hflat :=
    hnested.set_eq (Setting.ofKey?_key _)
      rfl ((hasSections_mapped.assign _ _).hasRoom .recursive) hboth
    (r := flatRequest)
  rw [setAll_cons hnest, setAll_cons hflat]
  rfl

/-- Two calls set what they name, and could be made in the other order. -/
theorem isUpdated_nest_flat :
    (∃ updated,
      loadDocument (setAll (textTree mappedSettings) "/config.toml" [nestRequest, flatRequest]).2
        "/config.toml" = .ok updated ∧
      IsUpdated mappedDocument [(.outputStyle, .text "nested"),
        (.recursive, .boolean false)] updated) ∧
    (setAll (textTree mappedSettings) "/config.toml" [flatRequest, nestRequest]).1 =
      [.ok (.boolean false), .ok (.text "nested")] := by
  obtain ⟨hruns, hswap⟩ :=
    isUpdated_setAll (by simp [textTree, settingsTree]) loadDocument_mappedSettings
    hasSections_mapped
  obtain ⟨updated, hload, hupdated, -, -⟩ := hruns _ isSound_nest_flat
  rw [answers_nest_flat] at hupdated
  exact ⟨⟨updated, hload, hupdated⟩,
    (hswap _ _ _ _ (by decide) isSound_nest_flat isSound_flat_nest answers_nest_flat).1⟩

/-- Set a name in which a character cannot be spelled. -/
def spoilRequest : SetRequest := { key := "render.sass_binary", raw := "\x01" }

/-- A call that is refused for the spelling of its value takes the other settings from the
document. -/
theorem not_isUpdated_spoilt :
    loadDocument (textTree mappedSettings) "/config.toml" = .ok mappedDocument ∧
    HasSections mappedDocument ∧
      (∀ doc ∈ changedDocuments (textTree mappedSettings) "/config.toml" [spoilRequest] .standard,
        Codec.standard.ReadsBack doc) ∧
      ¬∃ updated, loadDocument (setAll (textTree mappedSettings) "/config.toml" [spoilRequest]).2
        "/config.toml" = .ok updated ∧
        IsUpdated mappedDocument
          (accepted [spoilRequest] (setAll (textTree mappedSettings) "/config.toml"
            [spoilRequest]).1) updated := by
  refine ⟨loadDocument_mappedSettings, hasSections_mapped, ?_, ?_⟩
  · intro doc hdoc text hwrite
    have hchanged : changedDocuments (textTree mappedSettings) "/config.toml"
        [spoilRequest] .standard = [spoiltDocument] := by
      rw [changedDocuments]
      simp only [spoilRequest, change_spoilt]
      rfl
    rw [hchanged, List.mem_singleton] at hdoc
    rw [hdoc, Codec.write_standard, write_spoiltDocument] at hwrite
    cases hwrite
  · rintro ⟨updated, hload, hupdated⟩
    have hset : set (textTree mappedSettings) "/config.toml" spoilRequest.key spoilRequest.raw =
        (.error (.writing .unspellable), settingsTree []) := set_spoilt
    -- the file has been emptied, so that `source_map` is gone
    have hread : Toml.read (Text.unifyLineBreaks "".toList) = .ok [] :=
      Toml.eq_ok_of_isReadAs (by decide)
    have hempty : loadDocument (textTree "") "/config.toml" = .ok [] := loadDocument_textTree hread
    have htree : textTree "" = settingsTree [] := congrArg settingsTree (Text.toList_toUTF8 [])
    rw [setAll_cons hset] at hload hupdated
    rw [htree] at hempty
    obtain rfl : [] = updated := Except.ok.inj (hempty.symm.trans hload)
    have hkeys := hupdated.alike.keys_perm
    simp [accepted, SetRequest.change?, setAll, assignAll, mappedDocument] at hkeys

end Settings

end Restyle
