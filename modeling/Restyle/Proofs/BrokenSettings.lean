import Mathlib
import Restyle.Proofs.SettingsDocuments
import Restyle.Proofs.SettingsFile

/-! # Broken settings files
A settings file may hold anything. A text that breaks the rules of documents counts as empty, so
that the defaults are effective and any setting can be set. Bytes that are no text stop both, and
something else in the place of a section stops what is set in it, though not what is loaded
(`Settings.load_and_set_of_readBytes`). -/

namespace Restyle

namespace Toml.Table

/-- `t.putAll u` has a value for every key of `t`. -/
theorem isSome_get?_putAll {t : Table} {key : String} (h : (t.get? key).isSome = true) (u : Table) :
    ((t.putAll u).get? key).isSome = true := by
  induction u generalizing t with
  | nil => exact h
  | cons e u ih =>
    refine ih (t := t.put e.1 e.2) ?_
    rw [get?_put]
    split
    · rfl
    · exact h

end Toml.Table

namespace Settings

open Toml (Codec Table Value)

variable {t emptied : FileTree} {path raw : String} {codec : Codec} {bytes : List UInt8}
  {s : Setting} {v : Value}

/-- Every setting has a value. -/
def IsFull (settings : Settings) : Prop :=
  ∀ s : Setting, (settings.value? s.sectionName s.name).isSome = true

/-- `(ofDocument doc).IsFull` for every document: what it lacks has a default. -/
theorem isFull_ofDocument (doc : Table) : (ofDocument doc).IsFull := by
  intro s
  have hlookup : (ofDocument doc).sections.lookup s.sectionName =
      some (overlaid doc s.sectionName) := by
    cases s <;> rfl
  have hdefault : ((defaultSection s.sectionName).get? s.name).isSome = true := by
    cases s <;> rfl
  rw [value?, hlookup, Option.bind_some, overlaid_eq]
  exact Table.isSome_get?_putAll hdefault (doc.subtable s.sectionName)

/-! ## What is loaded -/

/-- What can be read is seen to exist, `t.testExists path = .ok true`. -/
theorem testExists_of_readBytes (h : t.readBytes path = .ok bytes) :
    t.testExists path = .ok true := by
  obtain ⟨-, place, hfind, hentry⟩ := FileTree.exists_of_readBytes h
  rw [FileTree.testExists_eq_ok_true_iff, FileTree.pathExists, FileTree.follow?, hfind]
  simp only [hentry, Option.isSome_some]

/-- `loadDocument` fails with `.notUtf8` where `Text.decodeStrict?` finds no text. -/
theorem loadDocument_of_not_utf8 (hbytes : t.readBytes path = .ok bytes)
    (h : Text.decodeStrict? bytes = none) :
    loadDocument t path codec = .error .notUtf8 := by
  unfold loadDocument
  simp only [testExists_of_readBytes hbytes, hbytes, h]

/-- `loadDocument` succeeds on every text, if the codec fails with `.malformed` only: such a text
counts as empty. -/
theorem exists_loadDocument_of_utf8 (hbytes : t.readBytes path = .ok bytes) {cs : List Char}
    (h : Text.decodeStrict? bytes = some cs)
    (hread : ∀ e, codec.read (Text.unifyLineBreaks cs) = .error e → e = .malformed) :
    ∃ doc, loadDocument t path codec = .ok doc := by
  unfold loadDocument
  simp only [testExists_of_readBytes hbytes, hbytes, h]
  cases hdoc : codec.read (Text.unifyLineBreaks cs) with
  | ok doc => exact ⟨doc, rfl⟩
  | error e =>
    obtain rfl := hread e hdoc
    exact ⟨[], rfl⟩

/-! ## What can be set -/

/-- `set` fails with the error of `loadDocument`, and leaves the tree as it is. -/
theorem set_of_loadDocument_eq_error {e : SettingsError} (hparse : s.parse raw = .ok v)
    (hload : loadDocument t path codec = .error e) :
    set t path s.key raw codec = (.error e, t) := by
  have hchange : change t path s.key raw codec = .error e := by
    rw [change_of_ofKey? (Setting.ofKey?_key s), hparse, hload]
    rfl
  exact (Ends.refused hchange).set_eq

/-- `set` fails with `.sectionNotTable` where the document has no room for the section, and leaves
the tree as it is. -/
theorem set_of_not_hasRoom {doc : Table} (hparse : s.parse raw = .ok v)
    (hload : loadDocument t path codec = .ok doc) (hroom : ¬doc.HasRoom s.sectionName) :
    set t path s.key raw codec = (.error .sectionNotTable, t) := by
  have hchange : change t path s.key raw codec = .error .sectionNotTable := by
    rw [change_eq_map_setIn (Setting.ofKey?_key s) hparse hload, setIn_of_not_hasRoom hroom]
    rfl
  exact (Ends.refused hchange).set_eq

/-- `set` answers `.ok v` where the document has room for the section and the new text can be
written. -/
theorem exists_set_of_hasRoom {doc : Table} {text : List Char} (hparse : s.parse raw = .ok v)
    (hload : loadDocument t path codec = .ok doc) (hroom : doc.HasRoom s.sectionName)
    (hopen : openFile t path = .ok emptied) (hwrite : codec.write (assign doc s v) = .ok text) :
    ∃ t', set t path s.key raw codec = (.ok v, t') := by
  have hchange : change t path s.key raw codec = .ok (v, assign doc s v) := by
    rw [change_eq_map_setIn (Setting.ofKey?_key s) hparse hload, setIn_of_hasRoom hroom]
    rfl
  obtain ⟨t', hstore⟩ := exists_writeFile_of_openFile hopen (String.ofList text).toUTF8.toList
  exact ⟨t', (Ends.stored hchange hopen hwrite hstore).set_eq⟩

/-- What a settings file does to loading and setting, whatever bytes it holds. The settings are
loaded, all of them, if and only if the bytes are a text. A setting is set to a value that it can
have if and only if there also is room for its section; otherwise the call says which of the two is
missing, and the file is left as it was. -/
theorem load_and_set_of_readBytes (hbytes : t.readBytes path = .ok bytes)
    (hread : ∀ cs e, Text.decodeStrict? bytes = some cs →
      codec.read (Text.unifyLineBreaks cs) = .error e → e = .malformed)
    (hparse : s.parse raw = .ok v) (hopen : openFile t path = .ok emptied)
    (hwrite : ∀ doc, loadDocument t path codec = .ok doc → ∃ text,
      codec.write (assign doc s v) = .ok text) :
    ((∃ settings, load t path codec = .ok settings ∧ settings.IsFull) ↔
      (Text.decodeStrict? bytes).isSome = true) ∧
      ((∃ t', set t path s.key raw codec = (.ok v, t')) ↔
        ∃ doc, loadDocument t path codec = .ok doc ∧ doc.HasRoom s.sectionName) ∧
      (Text.decodeStrict? bytes = none →
        load t path codec = .error .notUtf8 ∧ set t path s.key raw codec = (.error .notUtf8, t)) ∧
      ∀ cs, Text.decodeStrict? bytes = some cs → ∃ doc, loadDocument t path codec = .ok doc ∧
        (¬doc.HasRoom s.sectionName →
          set t path s.key raw codec = (.error .sectionNotTable, t)) := by
  cases hdecode : Text.decodeStrict? bytes with
  | none =>
    -- both load the document first, and stop there
    have hload : loadDocument t path codec = .error .notUtf8 :=
      loadDocument_of_not_utf8 hbytes hdecode
    have hloaded : load t path codec = .error .notUtf8 := by
      rw [load, hload]
      rfl
    have hset := set_of_loadDocument_eq_error hparse hload
    refine ⟨?_, ?_, fun _ => ⟨hloaded, hset⟩, by simp⟩
    · simp [hloaded]
    · simp [hset, hload]
  | some cs =>
    obtain ⟨doc, hload⟩ := exists_loadDocument_of_utf8 hbytes hdecode (hread cs · hdecode)
    have hloaded : load t path codec = .ok (ofDocument doc) := by
      rw [load, hload]
      rfl
    refine ⟨iff_of_true ⟨_, hloaded, isFull_ofDocument doc⟩ rfl, ⟨?_, ?_⟩,
      by simp, fun _ _ => ⟨doc, hload, ?_⟩⟩
    · -- a call that is accepted has found room
      rintro ⟨t', hset⟩
      refine ⟨doc, hload, ?_⟩
      by_contra hroom
      rw [set_of_not_hasRoom hparse hload hroom] at hset
      cases hset
    · rintro ⟨doc', hload', hroom⟩
      obtain ⟨text, htext⟩ := hwrite doc' hload'
      exact exists_set_of_hasRoom hparse hload' hroom hopen htext
    · exact set_of_not_hasRoom hparse hload

/-! ## Small settings files -/

/-- Whether a document breaks the rules. -/
def isMalformed : Except Toml.ReadError Table → Bool
  | .error .malformed => true
  | _ => false

/-- `isMalformed x` gives `x = .error .malformed`, so that a reading can be evaluated. -/
theorem eq_of_isMalformed {x : Except Toml.ReadError Table} (h : isMalformed x = true) :
    x = .error .malformed := by
  unfold isMalformed at h
  split at h
  · rfl
  · cases h

/-- The start of a header. -/
def tornSettings : String := "[render"

/-- `tornSettings` is `.malformed`. -/
theorem read_tornSettings :
    Toml.read (Text.unifyLineBreaks tornSettings.toList) = .error .malformed :=
  eq_of_isMalformed (by decide)

/-- A file that ends within a header does no harm: all settings are loaded, and any of them can be
set. -/
theorem load_and_set_tornSettings :
    (∃ settings, load (textTree tornSettings) "/config.toml" = .ok settings ∧ settings.IsFull) ∧
      ∃ t', set (textTree tornSettings) "/config.toml" Setting.sassBinary.key "sassc" =
        (.ok (.text "sassc"), t') := by
  have hbytes := readBytes_settingsTree tornSettings.toUTF8.toList
  have hdecode := Text.decodeStrict?_toUTF8_toList tornSettings
  -- the one reading of these bytes fails as malformed text
  have hread : ∀ cs e, Text.decodeStrict? tornSettings.toUTF8.toList = some cs →
      Codec.standard.read (Text.unifyLineBreaks cs) = .error e → e = .malformed := by
    intro cs e hcs he
    obtain rfl : tornSettings.toList = cs := Option.some.inj (hdecode.symm.trans hcs)
    rw [Codec.read_standard, read_tornSettings] at he
    exact (Except.error.inj he).symm
  have hload : loadDocument (textTree tornSettings) "/config.toml" = .ok [] := by
    unfold loadDocument textTree
    simp only [testExists_of_readBytes hbytes, hbytes, hdecode, Codec.read_standard,
      read_tornSettings]
  have hparse : Setting.sassBinary.parse "sassc" = .ok (.text "sassc") := rfl
  have htext : Toml.write (assign [] .sassBinary (.text "sassc")) =
      .ok "[render]\nsass_binary = \"sassc\"\n".toList := by decide +kernel
  have hwrite : ∀ doc, loadDocument (textTree tornSettings) "/config.toml" = .ok doc →
      ∃ text, Codec.standard.write (assign doc .sassBinary (.text "sassc")) = .ok text := by
    intro doc hdoc
    obtain rfl : [] = doc := Except.ok.inj (hload.symm.trans hdoc)
    exact ⟨_, htext⟩
  obtain ⟨hloads, hsets, -, -⟩ :=
    load_and_set_of_readBytes hbytes hread hparse (openFile_settingsTree _) hwrite
  refine ⟨hloads.mpr (by rw [hdecode]; rfl), hsets.mpr ⟨[], hload, ?_⟩⟩
  decide

/-- The settings in which a number stands in the place of a section. -/
def squatSettings : String := "render = 1\n"

/-- `squatSettings` is read as a document in which `render` is the number `1`. -/
theorem read_squatSettings :
    Toml.read (Text.unifyLineBreaks squatSettings.toList) = .ok [("render", .integer 1)] :=
  Toml.eq_ok_of_isReadAs (by decide +kernel)

/-- A byte that is no text stops the loading of the settings, and a number in the place of a section
stops the setting of a value that it can have. -/
theorem not_load_or_not_set :
    ((settingsTree [0xff]).readBytes "/config.toml" = .ok [0xff] ∧
        ¬∃ settings, load (settingsTree [0xff]) "/config.toml" = .ok settings) ∧
      (∃ bytes emptied doc, (textTree squatSettings).readBytes "/config.toml" = .ok bytes ∧
        openFile (textTree squatSettings) "/config.toml" = .ok emptied ∧
        loadDocument (textTree squatSettings) "/config.toml" = .ok doc ∧
        Setting.sassBinary.parse "sassc" = .ok (.text "sassc") ∧
        ¬∃ v t', set (textTree squatSettings) "/config.toml" Setting.sassBinary.key "sassc" =
          (.ok v, t')) := by
  have hparse : Setting.sassBinary.parse "sassc" = .ok (.text "sassc") := rfl
  refine ⟨⟨readBytes_settingsTree _, ?_⟩, ?_⟩
  · have hdecode : Text.decodeStrict? [0xff] = none := by decide
    have hload : loadDocument (settingsTree [0xff]) "/config.toml" = .error .notUtf8 :=
      loadDocument_of_not_utf8 (readBytes_settingsTree _) hdecode
    rintro ⟨settings, hsettings⟩
    rw [load, hload] at hsettings
    cases hsettings
  · have hload : loadDocument (textTree squatSettings) "/config.toml" =
        .ok [("render", .integer 1)] :=
      loadDocument_textTree read_squatSettings
    refine ⟨_, _, _, readBytes_settingsTree _, openFile_settingsTree _, hload, hparse, ?_⟩
    rintro ⟨v, t', hset⟩
    rw [set_of_not_hasRoom hparse hload (by decide)] at hset
    cases hset

end Settings

end Restyle
