import Mathlib
import Restyle.Proofs.AlikeTables
import Restyle.Proofs.FileWrites
import Restyle.Proofs.Searches
import Restyle.Proofs.Utf8Texts
import Restyle.Settings.Store

/-! # The settings file when a call fails
A call that sets a value comes to one of four ends (`Settings.Ends`): the change is refused, the
file cannot be opened, the document cannot be spelled, or it is stored. The file is opened, and so
emptied, before the document is spelled. So a call that fails leaves the file as it was, unless it
fails at the spelling: then it leaves an empty file (`Settings.follow?_eq_of_set_eq_error_iff`). -/

namespace Restyle.Settings

variable {t t' : FileTree} {path key raw : String} {codec : Toml.Codec}

/-! ## Changes -/

variable {s : Setting} {v : Toml.Value} {doc : Toml.Table}

/-- `change` parses the value first, then loads the document and sets the value in it. -/
theorem change_of_ofKey? (hkey : Setting.ofKey? key = some s) : change t path key raw codec =
    (s.parse raw).mapError .refused >>= fun v => loadDocument t path codec >>= fun doc =>
      setIn doc s v >>= fun changed => .ok (v, changed) := by
  unfold change
  rw [hkey]
  rfl

/-- `change` is `setIn doc s v`, where the value and the document can be read. -/
theorem change_eq_map_setIn (hkey : Setting.ofKey? key = some s) (hparse : s.parse raw = .ok v)
    (hload : loadDocument t path codec = .ok doc) :
    change t path key raw codec = (setIn doc s v).map (v, ·) := by
  rw [change_of_ofKey? hkey, hparse, hload]
  show setIn doc s v >>= _ = _
  cases setIn doc s v <;> rfl

/-- `change` answers `.ok` only for a setting, a value of it, and a document with room for the
section. -/
theorem exists_of_change_eq_ok (h : change t path key raw codec = .ok (v, doc)) :
    ∃ s old, Setting.ofKey? key = some s ∧ s.parse raw = .ok v ∧
    loadDocument t path codec = .ok old ∧
      setIn old s v = .ok doc := by
  cases hkey : Setting.ofKey? key with
  | none =>
    unfold change at h
    rw [hkey] at h
    cases h
  | some s =>
    rw [change_of_ofKey? hkey] at h
    obtain ⟨v', hparse, h⟩ := exists_of_bind_eq_ok h
    obtain ⟨old, hload, h⟩ := exists_of_bind_eq_ok h
    obtain ⟨changed, hset, h⟩ := exists_of_bind_eq_ok h
    cases h
    exact ⟨s, old, rfl, eq_ok_of_mapError_eq_ok hparse, hload, hset⟩

/-- `loadDocument` never fails with `.writing w`. -/
theorem loadDocument_ne_writing (t : FileTree) (path : String) (codec : Toml.Codec)
    (w : Toml.WriteError) :
    loadDocument t path codec ≠ .error (.writing w) := by
  unfold loadDocument
  split
  · simp
  · simp
  · split
    · simp
    · split
      · simp
      · split <;> simp

/-- `setIn` never fails with `.writing w`. -/
theorem setIn_ne_writing (doc : Toml.Table) (s : Setting) (v : Toml.Value) (w : Toml.WriteError) :
    setIn doc s v ≠ .error (.writing w) := by
  unfold setIn
  split <;> simp

/-- `change` never fails with `.writing w`. -/
theorem change_ne_writing (t : FileTree) (path key raw : String) (codec : Toml.Codec)
    (w : Toml.WriteError) :
    change t path key raw codec ≠ .error (.writing w) := by
  intro h
  cases hkey : Setting.ofKey? key with
  | none =>
    unfold change at h
    rw [hkey] at h
    cases h
  | some s =>
    -- the steps of a change, each of which may be the one that fails
    rw [change_of_ofKey? hkey] at h
    rcases eq_error_or_of_bind_eq_error h with hparse | ⟨v, -, h⟩
    · cases hs : s.parse raw with
      | error e =>
        rw [hs] at hparse
        cases hparse
      | ok v =>
        rw [hs] at hparse
        cases hparse
    rcases eq_error_or_of_bind_eq_error h with hload | ⟨doc, -, h⟩
    · exact loadDocument_ne_writing t path codec w hload
    rcases eq_error_or_of_bind_eq_error h with hset | ⟨changed, -, h⟩
    · exact setIn_ne_writing doc s v w hset
    · cases h

/-! ## What a call comes to -/

/-- `loadDocument` after `writeFile path text` is `codec.read text`, unless `path` may not be
read. -/
theorem loadDocument_of_writeFile {text : List Char}
    (h : t.writeFile path (String.ofList text).toUTF8.toList = .ok t')
    (hreadable : path ∉ t.unreadable)
    (hread : codec.read (Text.unifyLineBreaks text) = .ok doc) :
    loadDocument t' path codec = .ok doc := by
  have hexists : t'.testExists path = .ok true := by
    rw [FileTree.testExists_eq_ok_true_iff, FileTree.pathExists, FileTree.follow?_of_writeFile h,
      Option.isSome_some]
  have hbytes := FileTree.readBytes_of_written h hreadable
  unfold loadDocument
  simp only [hexists, hbytes, Text.decodeStrict?_toUTF8, hread]

/-- The ends that a call which sets a value comes to, each with its answer and the file tree that it
leaves. -/
inductive Ends (t : FileTree) (path key raw : String) (codec : Toml.Codec) :
    Except SettingsError Toml.Value → FileTree → Prop where
  /-- The change is refused. -/
  | refused {e : SettingsError} (hchange : change t path key raw codec = .error e) :
    Ends t path key raw codec (.error e) t
  /-- The file cannot be opened. -/
  | notOpened {v : Toml.Value} {doc : Toml.Table} {e : FileError}
    (hchange : change t path key raw codec = .ok (v, doc)) (hopen : openFile t path = .error e) :
    Ends t path key raw codec (.error (.fileNotWritable path)) t
  /-- The document cannot be spelled, and the file has been opened. -/
  | notSpelled {v : Toml.Value} {doc : Toml.Table} {emptied : FileTree} {w : Toml.WriteError}
    (hchange : change t path key raw codec = .ok (v, doc)) (hopen : openFile t path = .ok emptied)
    (hwrite : codec.write doc = .error w) :
    Ends t path key raw codec (.error (.writing w)) emptied
  /-- The document is stored. -/
  | stored {v : Toml.Value} {doc : Toml.Table} {emptied t' : FileTree} {text : List Char}
    (hchange : change t path key raw codec = .ok (v, doc)) (hopen : openFile t path = .ok emptied)
    (hwrite : codec.write doc = .ok text)
    (hstore : emptied.writeFile path (String.ofList text).toUTF8.toList = .ok t') :
    Ends t path key raw codec (.ok v) t'

/-- `openFile` leaves an empty file at `path`. -/
theorem follow?_of_openFile (h : openFile t path = .ok t') : t'.follow? path = some (.file []) := by
  obtain ⟨made, -, hwrite⟩ := exists_of_bind_eq_ok h
  exact FileTree.follow?_of_writeFile hwrite

/-- `writeFile` succeeds after `openFile`. -/
theorem exists_writeFile_of_openFile (h : openFile t path = .ok t') (content : List UInt8) :
    ∃ t'', t'.writeFile path content = .ok t'' := by
  obtain ⟨made, -, hwrite⟩ := exists_of_bind_eq_ok h
  exact FileTree.exists_writeFile_of_writeFile hwrite content

/-- `openFile` leaves `unreadable` as it is. -/
theorem unreadable_of_openFile (h : openFile t path = .ok t') : t'.unreadable = t.unreadable := by
  obtain ⟨made, hmade, hwrite⟩ := exists_of_bind_eq_ok h
  exact (FileTree.unreadable_of_writeFile hwrite).trans (FileTree.unreadable_makeDirectories hmade)

/-- `set` comes to one of the ends that `Ends` lists. -/
theorem ends_set (t : FileTree) (path key raw : String) (codec : Toml.Codec) :
    Ends t path key raw codec (set t path key raw codec).1 (set t path key raw codec).2 := by
  unfold set storeDocument
  cases hchange : change t path key raw codec with
  | error e => exact .refused hchange
  | ok changed =>
    obtain ⟨v, doc⟩ := changed
    cases hopen : openFile t path with
    | error e => exact .notOpened hchange hopen
    | ok emptied =>
      -- a file that has been opened can be written, so there is no fifth end
      cases hwrite : codec.write doc with
      | error w =>
        simp only [hwrite]
        exact .notSpelled hchange hopen hwrite
      | ok text =>
        obtain ⟨t', hstore⟩ := exists_writeFile_of_openFile hopen (String.ofList text).toUTF8.toList
        simp only [hwrite, hstore]
        exact .stored hchange hopen hwrite hstore

/-- What `set` answers and leaves is one of the ends that `Ends` lists. -/
theorem ends_of_set_eq {answer : Except SettingsError Toml.Value}
    (h : set t path key raw codec = (answer, t')) : Ends t path key raw codec answer t' := by
  have hends := ends_set t path key raw codec
  rwa [h] at hends

/-- Each of the ends that `Ends` lists is what `set` answers and leaves. -/
theorem Ends.set_eq {answer : Except SettingsError Toml.Value}
    (h : Ends t path key raw codec answer t') :
    set t path key raw codec = (answer, t') := by
  unfold set
  cases h with
  | refused hchange => rw [hchange]
  | notOpened hchange hopen =>
    rw [hchange]
    unfold storeDocument
    simp only [hopen]
  | notSpelled hchange hopen hwrite =>
    rw [hchange]
    unfold storeDocument
    simp only [hopen, hwrite]
  | stored hchange hopen hwrite hstore =>
    rw [hchange]
    unfold storeDocument
    simp only [hopen, hwrite, hstore]

/-- `set` answers `.ok v` only for a setting and a value of it, with the file opened and written. -/
theorem exists_of_set_eq_ok (h : set t path key raw codec = (.ok v, t')) :
    ∃ s emptied content, Setting.ofKey? key = some s ∧ s.parse raw = .ok v ∧
    openFile t path = .ok emptied ∧
      emptied.writeFile path content = .ok t' := by
  cases ends_of_set_eq h with
  | stored hchange hopen hwrite hstore =>
    obtain ⟨s, old, hkey, hparse, -, -⟩ := exists_of_change_eq_ok hchange
    exact ⟨s, _, _, hkey, hparse, hopen, hstore⟩

/-! ## Calls that fail -/

/-- A call that fails leaves the file as it was, unless what fails is the spelling of the document.
Such a call leaves an empty file, which is the file as it was only if it was empty already. A call
whose change is refused leaves all files as they were. -/
theorem follow?_eq_of_set_eq_error_iff {e : SettingsError}
    (h : set t path key raw codec = (.error e, t')) :
    (t'.follow? path = t.follow? path ↔ (∀ w, e ≠ .writing w) ∨ t.follow? path = some (.file [])) ∧
      (∀ w, e = .writing w → t'.follow? path = some (.file []) ∧
        ∃ v doc, change t path key raw codec = .ok (v, doc) ∧ codec.write doc = .error w) ∧
      ∀ e', change t path key raw codec = .error e' → e = e' ∧ t' = t := by
  cases ends_of_set_eq h with
  | refused hchange =>
    have hne : ∀ w, e ≠ .writing w := by
      rintro w rfl
      exact change_ne_writing t path key raw codec w hchange
    exact ⟨iff_of_true rfl (.inl hne), fun w hw => absurd hw (hne w),
      fun e' he' => ⟨Except.error.inj (hchange.symm.trans he'), rfl⟩⟩
  | notOpened hchange hopen =>
    have hne : ∀ w, SettingsError.fileNotWritable path ≠ .writing w := by simp
    refine ⟨iff_of_true rfl (.inl hne), fun w hw => absurd hw (hne w), fun e' he' => ?_⟩
    rw [hchange] at he'
    cases he'
  | @notSpelled v doc _ w hchange hopen hwrite =>
    -- the only end of a failing call in which the file has been opened
    have hempty := follow?_of_openFile hopen
    refine ⟨?_, fun w' hw => ⟨hempty, v, doc, hchange, ?_⟩, fun e' he' => ?_⟩
    · rw [hempty]
      constructor
      · intro hsame
        exact .inr hsame.symm
      · rintro (hne | hsame)
        · exact absurd rfl (hne w)
        · exact hsame.symm
    · rw [hwrite, SettingsError.writing.inj hw]
    · rw [hchange] at he'
      cases he'

/-! ## Calls on a small tree -/

/-- A file tree with nothing but a settings file. -/
def settingsTree (content : List UInt8) : FileTree :=
  { entries := [(["config.toml"], .file content)] }

/-- `openFile` empties the settings file of `settingsTree content`. -/
theorem openFile_settingsTree (content : List UInt8) :
    openFile (settingsTree content) "/config.toml" = .ok (settingsTree []) := by cbv

/-- `writeFile` puts `next` in the settings file. -/
theorem writeFile_settingsTree (content next : List UInt8) :
    (settingsTree content).writeFile "/config.toml" next = .ok (settingsTree next) := by cbv

/-- `readBytes` gives the `content` of the settings file. -/
theorem readBytes_settingsTree (content : List UInt8) :
    (settingsTree content).readBytes "/config.toml" = .ok content := by cbv

/-- `follow?` leads to the `content` of the settings file. -/
theorem follow?_settingsTree (content : List UInt8) :
    (settingsTree content).follow? "/config.toml" = some (.file content) := by cbv

/-- The file tree with the settings that a text spells. -/
def textTree (text : String) : FileTree := settingsTree text.toUTF8.toList

/-- `loadDocument (textTree text)` is what `codec.read` makes of `text`. -/
theorem loadDocument_textTree {text : String}
    (hread : codec.read (Text.unifyLineBreaks text.toList) = .ok doc) :
    loadDocument (textTree text) "/config.toml" codec = .ok doc := by
  have hwritten : (settingsTree []).writeFile "/config.toml"
      (String.ofList text.toList).toUTF8.toList = .ok (textTree text) := by
    rw [String.ofList_toList]
    exact writeFile_settingsTree [] _
  exact loadDocument_of_writeFile hwritten (by simp [settingsTree]) hread

/-- The settings that turn source maps on. -/
def mappedSettings : String := "[render]\nsource_map = true\n"

/-- The document of these settings. -/
def mappedDocument : Toml.Table := [("render", .table [("source_map", .boolean true)])]

/-- `mappedSettings` is read as `mappedDocument`. -/
theorem read_mappedSettings :
    Toml.read (Text.unifyLineBreaks mappedSettings.toList) = .ok mappedDocument :=
  Toml.eq_ok_of_isReadAs (by decide +kernel)

/-- `loadDocument` of `mappedSettings` is `mappedDocument`. -/
theorem loadDocument_mappedSettings :
    loadDocument (textTree mappedSettings) "/config.toml" = .ok mappedDocument :=
  loadDocument_textTree read_mappedSettings

/-- An unknown key leaves the settings file as it was. -/
theorem follow?_eq_of_unknownKey :
    ∃ e t', set (textTree mappedSettings) "/config.toml" "render.minify" "true" = (.error e, t') ∧
      t'.follow? "/config.toml" = (textTree mappedSettings).follow? "/config.toml" := by
  have hset : set (textTree mappedSettings) "/config.toml" "render.minify" "true" =
      (.error (.refused (.unknownKey "render.minify")), textTree mappedSettings) := by
    have hkey : Setting.ofKey? "render.minify" = none := by decide
    rw [set, change, hkey]
    rfl
  exact ⟨_, _, hset, (follow?_eq_of_set_eq_error_iff hset).1.mpr (.inl (by simp))⟩

/-- The document of these settings with a value in which a character cannot be spelled. -/
def spoiltDocument : Toml.Table :=
  [("render", .table [("source_map", .boolean true), ("sass_binary", .text "\x01")])]

/-- `change` sets the value, and gives `spoiltDocument`. -/
theorem change_spoilt :
    change (textTree mappedSettings) "/config.toml" "render.sass_binary" "\x01" =
    .ok (.text "\x01", spoiltDocument) := by
  have hkey : Setting.ofKey? "render.sass_binary" = some .sassBinary := by decide
  have hparse : Setting.sassBinary.parse "\x01" = .ok (.text "\x01") := rfl
  rw [change_eq_map_setIn hkey hparse loadDocument_mappedSettings]
  rfl

/-- `Toml.write spoiltDocument = .error .unspellable`. -/
theorem write_spoiltDocument : Toml.write spoiltDocument = .error .unspellable := by decide +kernel

/-- `set` fails with `.writing .unspellable`, and leaves an empty file. -/
theorem set_spoilt : set (textTree mappedSettings) "/config.toml" "render.sass_binary" "\x01" =
    (.error (.writing .unspellable), settingsTree []) :=
  (Ends.notSpelled change_spoilt (openFile_settingsTree _) write_spoiltDocument).set_eq

/-- A value with a character that cannot be spelled empties the settings file. -/
theorem follow?_ne_of_unspellable :
    ∃ e t', set (textTree mappedSettings) "/config.toml" "render.sass_binary" "\x01" =
      (.error e, t') ∧
      t'.follow? "/config.toml" ≠ (textTree mappedSettings).follow? "/config.toml" := by
  refine ⟨_, _, set_spoilt, ?_⟩
  rw [textTree, follow?_settingsTree, follow?_settingsTree]
  decide +kernel

end Restyle.Settings
