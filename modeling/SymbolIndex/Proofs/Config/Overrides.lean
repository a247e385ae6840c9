-- SUMMARY: A configuration file sets what it names and keeps the other defaults.
import SymbolIndex.Config.Format
import SymbolIndex.Proofs.File.Written
import SymbolIndex.Proofs.Json.Layouts
import SymbolIndex.Proofs.Json.Records
import SymbolIndex.Proofs.Text.Space

/-!
# Overrides

What a configuration file says is a value for some of the fields, at both levels. Such
overrides are told apart from how they are spelled: in any order, among members that no
field is named after. Whatever spells them is read as the defaults with these values, and
the check looks at the result. A written configuration spells a value for every field.
-/

namespace SymbolIndex

open Json

/-! ## Values of fields -/

section

variable {text : Bytes}

/-- The text of a path whose bytes are UTF-8. -/
def SpellsPath (p : Path) (text : Bytes) : Prop := ∃ s, p = .ofString s ∧ SpellsText s text

theorem reads_string {s : String} (h : SpellsText s text) : Reads Json.string s text :=
  reads_textAs h _

theorem reads_strings {xs : List String} (h : SpellsList SpellsText xs text) :
    Reads Json.strings xs text :=
  reads_sequence h (ignoresBlanks_textAs _) fun _ _ hs => ⟨reads_string hs, hs.opens (by decide)⟩

theorem reads_word64 {n : UInt64} (h : SpellsNat n.toNat text) (expected : String) :
    Reads (Json.word64 expected) n text := by
  have hn : n.toNat ≤ wordLimit := Nat.le_of_lt_succ n.toNat_lt
  have hread := (reads_unsigned h hn (Nat.le_refl _) expected).map UInt64.ofNat
  rwa [UInt64.ofNat_toNat] at hread

theorem reads_word16 {n : UInt16} (h : SpellsNat n.toNat text) (expected : String) :
    Reads (Json.word16 expected) n text := by
  have hn : n.toNat ≤ 65535 := Nat.le_of_lt_succ n.toNat_lt
  have hread := (reads_unsigned h hn (by decide) expected).map UInt16.ofNat
  rwa [UInt16.ofNat_toNat] at hread

theorem reads_path {p : Path} (h : SpellsPath p text) :
    Reads Json.path p text ∧ Opens (byte 'n') text := by
  obtain ⟨s, rfl, hs⟩ := h
  exact ⟨(reads_textAs hs _).map Path.ofString, hs.opens (by decide)⟩

theorem reads_root {root : Option Path} (h : SpellsOption SpellsPath root text) :
    Reads (optional Json.path) root text := by
  refine reads_optional h (fun bs => ?_) fun _ _ => reads_path
  rw [Json.path, ignoresBlanks_textAs]
  rfl

end

/-! ## Store -/

namespace StoreConfig

/-- Values for some of the fields. -/
structure Overrides where
  host : Option String := none
  port : Option UInt16 := none
  protocol : Option String := none
  apiKey : Option String := none
  collection : Option String := none
  connectionTimeoutSecs : Option UInt64 := none

namespace Overrides

variable {o : Overrides} {text : Bytes}

/-- The default settings, but for the fields that have a value. -/
def config (o : Overrides) : StoreConfig :=
  let default : StoreConfig := {}
  { host := o.host.getD default.host
    port := o.port.getD default.port
    protocol := o.protocol.getD default.protocol
    apiKey := o.apiKey.getD default.apiKey
    collection := o.collection.getD default.collection
    connectionTimeoutSecs := o.connectionTimeoutSecs.getD default.connectionTimeoutSecs }

def names : List String :=
  ["host", "port", "protocol", "api_key", "collection", "connection_timeout_secs"]

/-- The members have the values under the names of their fields, and any values under
other names. -/
structure AreGivenBy (o : Overrides) (members : List (String × Bytes)) : Prop where
  nodup : (members.map Prod.fst).Nodup
  others : ∀ m ∈ members, m.1 ∉ names → IsValue m.2
  host : Gives members "host" SpellsText o.host
  port : Gives members "port" (fun n => SpellsNat n.toNat) o.port
  protocol : Gives members "protocol" SpellsText o.protocol
  apiKey : Gives members "api_key" SpellsText o.apiKey
  collection : Gives members "collection" SpellsText o.collection
  connectionTimeoutSecs :
    Gives members "connection_timeout_secs" (fun n => SpellsNat n.toNat) o.connectionTimeoutSecs

def Spells (o : Overrides) (text : Bytes) : Prop :=
  ∃ members, SpellsObject members text ∧ o.AreGivenBy members

/-- Every field with what the overrides do to it. -/
def changes (o : Overrides) : List (RecordField StoreConfig × (StoreConfig → StoreConfig)) :=
  StoreConfig.fields.zip
    [fun s => { s with host := o.host.getD s.host },
      fun s => { s with port := o.port.getD s.port },
      fun s => { s with protocol := o.protocol.getD s.protocol },
      fun s => { s with apiKey := o.apiKey.getD s.apiKey },
      fun s => { s with collection := o.collection.getD s.collection },
      fun s => { s with
        connectionTimeoutSecs := o.connectionTimeoutSecs.getD s.connectionTimeoutSecs }]

theorem changes_comm (o : Overrides) :
    ∀ p ∈ o.changes, ∀ q ∈ o.changes, ∀ s, p.2 (q.2 s) = q.2 (p.2 s) := by
  simp only [changes, fields, List.zip_cons_cons, List.zip_nil_right, List.mem_cons,
    List.not_mem_nil, or_false]
  rintro p (rfl | rfl | rfl | rfl | rfl | rfl) q (rfl | rfl | rfl | rfl | rfl | rfl) s <;> rfl

theorem AreGivenBy.isChange {members : List (String × Bytes)} (h : o.AreGivenBy members) :
    ∀ p ∈ o.changes, IsChange members p.1 p.2 := by
  have hstring : ∀ s text, SpellsText s text → Reads Json.string s text := fun _ _ => reads_string
  simp only [changes, fields, List.zip_cons_cons, List.zip_nil_right, List.forall_mem_cons]
  exact ⟨h.host.isChange h.nodup hstring fun _ => rfl,
    h.port.isChange h.nodup (fun _ _ hn => reads_word16 hn _) fun _ => rfl,
    h.protocol.isChange h.nodup hstring fun _ => rfl,
    h.apiKey.isChange h.nodup hstring fun _ => rfl,
    h.collection.isChange h.nodup hstring fun _ => rfl,
    h.connectionTimeoutSecs.isChange h.nodup (fun _ _ hn => reads_word64 hn _) fun _ => rfl,
    fun _ hp => absurd hp List.not_mem_nil⟩

/-- What spells the overrides is read as the defaults with them. -/
theorem Spells.reads (h : o.Spells text) : Reads StoreConfig.read o.config text := by
  obtain ⟨members, hobject, hgiven⟩ := h
  have hnames : o.changes.map (·.1.name) = names := rfl
  exact reads_record hnames (by decide) hobject hgiven.nodup hgiven.others hgiven.isChange
    o.changes_comm "struct StoreConfig" {}

/-- A value for every field. -/
def all (c : StoreConfig) : Overrides :=
  ⟨some c.host, some c.port, some c.protocol, some c.apiKey, some c.collection,
    some c.connectionTimeoutSecs⟩

/-- Written settings spell a value for every field. -/
theorem spells_all {c : StoreConfig} (h : c.toJson.IsLayout text) : (all c).Spells text := by
  obtain ⟨spell, hspell, hobject⟩ := h.spellsObject
  refine ⟨_, hobject, ⟨?_, ?_, ⟨_, ?_, (hspell (.text c.host)).spellsText⟩,
    ⟨_, ?_, (hspell (.ofNat c.port.toNat)).spellsNat⟩,
    ⟨_, ?_, (hspell (.text c.protocol)).spellsText⟩,
    ⟨_, ?_, (hspell (.text c.apiKey)).spellsText⟩,
    ⟨_, ?_, (hspell (.text c.collection)).spellsText⟩,
    ⟨_, ?_, (hspell (.ofNat c.connectionTimeoutSecs.toNat)).spellsNat⟩⟩⟩
  all_goals simp [names]

end Overrides

end StoreConfig

/-! ## Configuration -/

namespace Config

/-- Values for some of the fields; those of the store are again overrides. -/
structure Overrides where
  store : Option StoreConfig.Overrides := none
  srcRoot : Option (Option Path) := none
  includeExtensions : Option (List String) := none
  excludeDirs : Option (List String) := none
  maxFileBytes : Option UInt64 := none
  maxContentChars : Option UInt64 := none
  batchSize : Option UInt64 := none
  debounceMs : Option UInt64 := none
  progressIntervalSecs : Option UInt64 := none

namespace Overrides

variable {o : Overrides} {text : Bytes}

/-- The default configuration, but for the fields that have a value. -/
def config (o : Overrides) : Config :=
  let default : Config := {}
  { store := (o.store.map StoreConfig.Overrides.config).getD default.store
    srcRoot := o.srcRoot.getD default.srcRoot
    includeExtensions := o.includeExtensions.getD default.includeExtensions
    excludeDirs := o.excludeDirs.getD default.excludeDirs
    maxFileBytes := o.maxFileBytes.getD default.maxFileBytes
    maxContentChars := o.maxContentChars.getD default.maxContentChars
    batchSize := o.batchSize.getD default.batchSize
    debounceMs := o.debounceMs.getD default.debounceMs
    progressIntervalSecs := o.progressIntervalSecs.getD default.progressIntervalSecs }

def names : List String :=
  ["store", "src_root", "include_extensions", "exclude_dirs", "max_file_bytes",
    "max_content_chars", "batch_size", "debounce_ms", "progress_interval_secs"]

/-- The members have the values under the names of their fields, and any values under
other names. -/
structure AreGivenBy (o : Overrides) (members : List (String × Bytes)) : Prop where
  nodup : (members.map Prod.fst).Nodup
  others : ∀ m ∈ members, m.1 ∉ names → IsValue m.2
  store : Gives members "store" StoreConfig.Overrides.Spells o.store
  srcRoot : Gives members "src_root" (SpellsOption SpellsPath) o.srcRoot
  includeExtensions :
    Gives members "include_extensions" (SpellsList SpellsText) o.includeExtensions
  excludeDirs : Gives members "exclude_dirs" (SpellsList SpellsText) o.excludeDirs
  maxFileBytes : Gives members "max_file_bytes" (fun n => SpellsNat n.toNat) o.maxFileBytes
  maxContentChars :
    Gives members "max_content_chars" (fun n => SpellsNat n.toNat) o.maxContentChars
  batchSize : Gives members "batch_size" (fun n => SpellsNat n.toNat) o.batchSize
  debounceMs : Gives members "debounce_ms" (fun n => SpellsNat n.toNat) o.debounceMs
  progressIntervalSecs :
    Gives members "progress_interval_secs" (fun n => SpellsNat n.toNat) o.progressIntervalSecs

def Spells (o : Overrides) (text : Bytes) : Prop :=
  ∃ members, SpellsObject members text ∧ o.AreGivenBy members

/-- Every field with what the overrides do to it. -/
def changes (o : Overrides) : List (RecordField Config × (Config → Config)) :=
  Config.fields.zip
    [fun s => { s with store := (o.store.map StoreConfig.Overrides.config).getD s.store },
      fun s => { s with srcRoot := o.srcRoot.getD s.srcRoot },
      fun s => { s with includeExtensions := o.includeExtensions.getD s.includeExtensions },
      fun s => { s with excludeDirs := o.excludeDirs.getD s.excludeDirs },
      fun s => { s with maxFileBytes := o.maxFileBytes.getD s.maxFileBytes },
      fun s => { s with maxContentChars := o.maxContentChars.getD s.maxContentChars },
      fun s => { s with batchSize := o.batchSize.getD s.batchSize },
      fun s => { s with debounceMs := o.debounceMs.getD s.debounceMs },
      fun s => { s with
        progressIntervalSecs := o.progressIntervalSecs.getD s.progressIntervalSecs }]

theorem changes_comm (o : Overrides) :
    ∀ p ∈ o.changes, ∀ q ∈ o.changes, ∀ s, p.2 (q.2 s) = q.2 (p.2 s) := by
  simp only [changes, fields, List.zip_cons_cons, List.zip_nil_right, List.mem_cons,
    List.not_mem_nil, or_false]
  rintro p (rfl | rfl | rfl | rfl | rfl | rfl | rfl | rfl | rfl)
    q (rfl | rfl | rfl | rfl | rfl | rfl | rfl | rfl | rfl) s <;> rfl

theorem AreGivenBy.isChange {members : List (String × Bytes)} (h : o.AreGivenBy members) :
    ∀ p ∈ o.changes, IsChange members p.1 p.2 := by
  have hstore : Gives members "store" (Reads StoreConfig.read)
      (o.store.map StoreConfig.Overrides.config) :=
    h.store.map fun _ _ hstore => hstore.reads
  have hword : ∀ expected (n : UInt64) text, SpellsNat n.toNat text →
      Reads (Json.word64 expected) n text := fun expected _ _ hn => reads_word64 hn expected
  simp only [changes, fields, List.zip_cons_cons, List.zip_nil_right, List.forall_mem_cons]
  exact ⟨hstore.isChange h.nodup (fun _ _ hread => hread) fun _ => rfl,
    h.srcRoot.isChange h.nodup (fun _ _ => reads_root) fun _ => rfl,
    h.includeExtensions.isChange h.nodup (fun _ _ => reads_strings) fun _ => rfl,
    h.excludeDirs.isChange h.nodup (fun _ _ => reads_strings) fun _ => rfl,
    h.maxFileBytes.isChange h.nodup (hword _) fun _ => rfl,
    h.maxContentChars.isChange h.nodup (hword _) fun _ => rfl,
    h.batchSize.isChange h.nodup (hword _) fun _ => rfl,
    h.debounceMs.isChange h.nodup (hword _) fun _ => rfl,
    h.progressIntervalSecs.isChange h.nodup (hword _) fun _ => rfl,
    fun _ hp => absurd hp List.not_mem_nil⟩

/-- What spells the overrides is read as the defaults with them. -/
theorem Spells.reads (h : o.Spells text) : Reads Config.read o.config text := by
  obtain ⟨members, hobject, hgiven⟩ := h
  have hnames : o.changes.map (·.1.name) = names := rfl
  exact reads_record hnames (by decide) hobject hgiven.nodup hgiven.others hgiven.isChange
    o.changes_comm "struct Config" {}

/-- A value for every field. -/
def all (c : Config) : Overrides :=
  ⟨some (.all c.store), some c.srcRoot, some c.includeExtensions, some c.excludeDirs,
    some c.maxFileBytes, some c.maxContentChars, some c.batchSize, some c.debounceMs,
    some c.progressIntervalSecs⟩

theorem spells_root {root : Option Path} (hroot : ∀ p ∈ root, ∃ s, p = .ofString s)
    (h : ((root.map fun p => Json.text p.display).getD .null).IsLayout text) :
    SpellsOption SpellsPath root text := by
  cases root with
  | none => exact h.spellsNull
  | some p =>
      obtain ⟨s, rfl⟩ := hroot p rfl
      have hdisplay : (Path.ofString s).display = s := Utf8.decode_encode s
      exact ⟨s, rfl, IsLayout.spellsText (hdisplay ▸ h)⟩

/-- A written configuration spells a value for every field. -/
theorem spells_all {c : Config} (hroot : ∀ root ∈ c.srcRoot, ∃ s, root = .ofString s)
    (h : c.toJson.IsLayout text) : (all c).Spells text := by
  obtain ⟨spell, hspell, hobject⟩ := h.spellsObject
  refine ⟨_, hobject, ⟨?_, ?_,
    ⟨_, ?_, StoreConfig.Overrides.spells_all (hspell c.store.toJson)⟩,
    ⟨_, ?_, spells_root hroot (hspell _)⟩,
    ⟨_, ?_, (hspell (.ofTexts c.includeExtensions)).spellsList⟩,
    ⟨_, ?_, (hspell (.ofTexts c.excludeDirs)).spellsList⟩,
    ⟨_, ?_, (hspell (.ofNat c.maxFileBytes.toNat)).spellsNat⟩,
    ⟨_, ?_, (hspell (.ofNat c.maxContentChars.toNat)).spellsNat⟩,
    ⟨_, ?_, (hspell (.ofNat c.batchSize.toNat)).spellsNat⟩,
    ⟨_, ?_, (hspell (.ofNat c.debounceMs.toNat)).spellsNat⟩,
    ⟨_, ?_, (hspell (.ofNat c.progressIntervalSecs.toNat)).spellsNat⟩⟩⟩
  all_goals simp [names]

end Overrides

/-! ## A file -/

/-- A working directory that has nothing but the default file. -/
def withDefaultFile (content : Bytes) : FileSystem where
  entries := [([Utf8.encode "codesearch.json"], .file content 0)]
  workingDir := []

theorem entryAt?_withDefaultFile (content : Bytes) :
    (withDefaultFile content).entryAt? [Utf8.encode "codesearch.json"] =
      some (.file content 0) := by
  simp [FileSystem.entryAt?, withDefaultFile]

theorem resolve_withDefaultFile (content : Bytes) :
    (withDefaultFile content).resolve defaultFile = .ok [Utf8.encode "codesearch.json"] := by
  have hentry := entryAt?_withDefaultFile content
  have hname : Path.IsName (Utf8.encode "codesearch.json") := by decide +kernel
  have hwalk : (withDefaultFile content).resolveFrom FileSystem.linkLimit []
      [Utf8.encode "codesearch.json"] = .ok [Utf8.encode "codesearch.json"] := by
    rw [FileSystem.resolveFrom_cons hname, List.nil_append, hentry, if_neg (by simp),
      if_neg (by decide +kernel), if_neg (Option.some_ne_none _), FileSystem.resolveFrom]
    simp [hentry]
  have hparts : defaultFile.parts = [Utf8.encode "codesearch.json"] := by decide +kernel
  rw [FileSystem.resolve, if_neg (by decide +kernel), if_neg (by decide +kernel),
    if_neg (by decide +kernel), hparts, if_neg (by decide +kernel)]
  exact hwalk

theorem read_withDefaultFile (content : Bytes) :
    (withDefaultFile content).read defaultFile = .ok content := by
  simp [FileSystem.read, resolve_withDefaultFile, entryAt?_withDefaultFile, bind, Except.bind]

theorem readText_withDefaultFile (text : String) :
    (withDefaultFile (Utf8.encode text)).readText defaultFile = .ok text := by
  simp [FileSystem.readText, read_withDefaultFile, Utf8.decode?_encode, bind, Except.bind]

/-- A text that names a field of each level, and something else. -/
def partialText : String :=
  "\x7b\"batch_size\": 7, \"note\": [1.5e3, \x7b\x7d], \"store\": \x7b\"api_key\": \"k\"\x7d\x7d"

theorem isValue_note : IsValue (wordBytes " [1.5e3, \x7b\x7d]") := by
  have hdigit : ∀ {d : UInt8}, isDigit d = true → AreDigits [d] :=
    fun hd => ⟨List.cons_ne_nil _ _, List.forall_mem_singleton.2 hd⟩
  have hnumber : IsValue (wordBytes "1.5e3") :=
    .number ⟨[], 1, wordBytes ".5", wordBytes "e3", .inl rfl,
      .inr ⟨[byte '5'], hdigit (by decide), rfl⟩,
      .inr ⟨byte 'e', [], [byte '3'], .inl rfl, .inl rfl, hdigit (by decide), rfl⟩, by decide⟩
  have hobject : IsValue (wordBytes " \x7b\x7d") :=
    .padded areBlanks_space (.object (fun _ h => absurd h List.not_mem_nil)
      (fun _ h => absurd h List.not_mem_nil) areBlanks_nil) areBlanks_nil
  have hlist : IsValue (wordBytes "[1.5e3, \x7b\x7d]") :=
    .list (List.forall_mem_cons.2 ⟨hnumber, List.forall_mem_singleton.2 hobject⟩) areBlanks_nil
  exact .padded areBlanks_space hlist areBlanks_nil

/-- The settings of the store in the text. -/
theorem spells_key : StoreConfig.Overrides.Spells { apiKey := some "k" }
    (wordBytes " \x7b\"api_key\": \"k\"\x7d") := by
  have hkey : SpellsText "k" ([byte ' '] ++ Utf8.encode (renderText "k")) :=
    (spellsText_renderText "k").behind_blanks areBlanks_space
  have hobject : SpellsObject [("api_key", [byte ' '] ++ Utf8.encode (renderText "k"))]
      (wordBytes " \x7b\"api_key\": \"k\"\x7d") :=
    ⟨[byte ' '], _, [], areBlanks_space,
      ⟨[.written areBlanks_nil "api_key" _], [], areBlanks_nil, rfl, rfl⟩, areBlanks_nil,
      by decide +kernel⟩
  refine ⟨_, hobject, ⟨?_, ?_, ?_, ?_, ?_, ⟨_, List.mem_cons_self, hkey⟩, ?_, ?_⟩⟩
  all_goals simp [Gives, StoreConfig.Overrides.names]

theorem spells_partialText : Overrides.Spells
    { store := some { apiKey := some "k" }, batchSize := some 7 } (Utf8.encode partialText) := by
  have hsize : SpellsNat 7 (wordBytes " 7") :=
    ⟨[byte ' '], _, [], areBlanks_space, rfl, areBlanks_nil, by decide⟩
  have hobject : SpellsObject
      [("batch_size", wordBytes " 7"), ("note", wordBytes " [1.5e3, \x7b\x7d]"),
        ("store", wordBytes " \x7b\"api_key\": \"k\"\x7d")] (Utf8.encode partialText) := by
    have hbatch : Utf8.encode (renderText "batch_size") = wordBytes "\"batch_size\"" := by
      decide +kernel
    have hnote : Utf8.encode (renderText "note") = wordBytes "\"note\"" := by decide +kernel
    have hstore : Utf8.encode (renderText "store") = wordBytes "\"store\"" := by decide +kernel
    rw [encode_word (by decide)]
    refine ⟨[], _, [], areBlanks_nil,
      ⟨[.written areBlanks_nil "batch_size" _, .written areBlanks_space "note" _,
        .written areBlanks_space "store" _], [], areBlanks_nil, rfl, rfl⟩, areBlanks_nil, ?_⟩
    simp only [Member.bytes, Member.written, separated, afterCommas_cons, hbatch, hnote, hstore]
    decide
  refine ⟨_, hobject, ⟨?_, ?_, ⟨_, by simp, spells_key⟩, ?_, ?_, ?_, ?_, ?_, ⟨_, by simp, hsize⟩,
    ?_, ?_⟩⟩
  case refine_2 => simp [Overrides.names, isValue_note]
  all_goals simp [Gives]

/-! ## Loading -/

variable {fs : FileSystem} {file : Path} {c : Config} {text : String}

/-- What is read is checked, and then it is the configuration. -/
theorem load_of_reads (hfile : fs.readText file = .ok text)
    (h : Reads Config.read c (Utf8.encode text)) :
    load fs file = c.problem?.elim (.ok c) fun problem => .error (.config problem) := by
  have hparse : parse (Utf8.encode text) = .ok c := h.decode
  simp only [load, hfile, hparse, Except.mapError, bind, Except.bind]
  cases c.problem? <;> rfl

theorem problem?_eq (c : Config) :
    c.problem? =
      if c.batchSize = 0 then some .zeroBatch
      else if c.store.collection.toList.all Text.isSpace then some .blankCollection
      else none := by
  have hblank : Text.trim c.store.collection = "" ↔
      c.store.collection.toList.all Text.isSpace = true := by
    rw [List.all_eq_true, ← Text.trimChars_eq_nil_iff, ← Text.toList_trim,
      String.toList_eq_nil_iff]
  simp only [problem?, hblank]

/-- A file that gives values to some fields is the default configuration with them, unless
that has no batches or no collection. A configuration that passes this check is what its
own text gives. -/
theorem load_overrides (fs : FileSystem) (file : Path) :
    (∀ (o : Overrides) (text : String), fs.readText file = .ok text →
      o.Spells (Utf8.encode text) →
        load fs file =
          if o.config.batchSize = 0 then .error (.config .zeroBatch)
          else if o.config.store.collection.toList.all Text.isSpace then
            .error (.config .blankCollection)
          else .ok o.config) ∧
    ∀ (c : Config) (text : String), fs.readText file = .ok text →
      text = c.toJson.render ∨ text = c.toJson.renderIndented 0 →
      c.problem? = none → (∀ root ∈ c.srcRoot, ∃ s, root = .ofString s) →
        load fs file = .ok c := by
  refine ⟨fun o text hfile h => ?_, fun c text hfile htext hproblem hroot => ?_⟩
  · rw [load_of_reads hfile h.reads, problem?_eq]
    split_ifs <;> rfl
  · have hlayout : c.toJson.IsLayout (Utf8.encode text) := by
      rcases htext with rfl | rfl
      · exact .compact areBlanks_nil
      · exact .indented areBlanks_nil 0
    have hall : (Overrides.all c).config = c := rfl
    rw [load_of_reads hfile (Overrides.spells_all hroot hlayout).reads, hall, hproblem,
      Option.elim_none]

theorem load_overrides_partialText :
    (let o : Overrides := { store := some { apiKey := some "k" }, batchSize := some 7 }
      let fs := withDefaultFile (Utf8.encode partialText)
      fs.readText defaultFile = .ok partialText ∧ o.Spells (Utf8.encode partialText) ∧
        load fs defaultFile = .ok { store := { apiKey := "k" }, batchSize := 7 }) ∧
    (let c : Config := { srcRoot := some (.ofString "/r") }
      let fs := withDefaultFile (Utf8.encode (c.toJson.renderIndented 0))
      fs.readText defaultFile = .ok (c.toJson.renderIndented 0) ∧ c.problem? = none ∧
        load fs defaultFile = .ok c) := by
  constructor
  · intro o fs
    refine ⟨readText_withDefaultFile _, spells_partialText, ?_⟩
    rw [(load_overrides fs defaultFile).1 o _ (readText_withDefaultFile _) spells_partialText]
    decide
  · intro c fs
    have hproblem : c.problem? = none := by decide
    refine ⟨readText_withDefaultFile _, hproblem, ?_⟩
    exact (load_overrides fs defaultFile).2 c _ (readText_withDefaultFile _) (.inr rfl) hproblem
      fun root hroot => ⟨"/r", (Option.some.inj hroot).symm⟩

end Config

end SymbolIndex
