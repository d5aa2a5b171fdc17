import CallGuard.Proofs.Format.Json
import CallGuard.Proofs.Settings.Overriding
import CallGuard.Settings.Loader

/-!
# Where a setting comes from

A loaded setting has the value of a variable of the environment, if one sets it. Else it has the
value that the last document gives it, if that document says something about it. Else it has its
default value. Documents before the last one have no part in it (`Loader.load_forgets`).

* `Loader.addAll_eq_ok` : what sources come to: the last document, and the last marker;
* `Loader.load_get` : where each setting comes from.
-/

namespace CallGuard

namespace Settings

/-! ### Sources -/

namespace Loader

variable {files : FileTree} {l l' : Loader}

/-- What a document says in a format, if it has one. -/
def layerOf? (format : Option DocumentFormat) (content : String) : Option Layer :=
  format.bind (Layer.ofDocument? · content)

theorem parse_eq_ok_iff {format : Option DocumentFormat} {shown content : String} {s : Settings} :
    parse format shown content = .ok s ↔
      ∃ layer, layerOf? format content = some layer ∧ s = layer.settings := by
  cases format with
  | none => simp [parse, layerOf?]
  | some format =>
    cases hlayer : Layer.ofDocument? format content with
    | none => simp [parse, layerOf?, hlayer]
    | some layer => simp [parse, layerOf?, hlayer, eq_comm]

/-- What a file says. -/
def fileLayer? (path : String) : FileNode → Option Layer
  | .directory => none
  | .file content =>
    (Text.ofBytes? content).bind (layerOf? ((FileTree.extension? path).bind formatOf?))

theorem readNode_eq_ok {path : String} {node : FileNode} (h : l.readNode path node = .ok l') :
    ∃ layer, fileLayer? path node = some layer ∧ l' = { l with settings := layer.settings } := by
  cases node with
  | directory => cases h
  | file content =>
    rw [readNode] at h
    cases hcontent : Text.ofBytes? content with
    | none =>
      rw [hcontent] at h
      cases h
    | some text =>
      rw [hcontent] at h
      simp only [bind, Except.bind] at h
      split at h
      · cases h
      · next s hs =>
        obtain ⟨layer, hlayer, rfl⟩ := parse_eq_ok_iff.1 hs
        refine ⟨layer, ?_, (Except.ok.inj h).symm⟩
        rw [fileLayer?, hcontent]
        exact hlayer

namespace Source

/-- What the document of a source says. There is none in a missing file and in the environment. -/
def layer? (files : FileTree) : Source → Option Layer
  | .file path | .optionalFile path => (files.find? path).bind (fileLayer? path)
  | .document content format => layerOf? (formatOf? format.toList) content
  | .environment _ => none

/-- The marker that a source gives to variables of the environment. -/
def marker? : Source → Option String
  | .environment marker => some (Text.upper marker)
  | _ => none

end Source

/-- The source is no document: it is about the environment, or a file that may be missing and is. -/
inductive Source.Silent (files : FileTree) : Source → Prop
  | environment (marker : String) : Silent files (.environment marker)
  | missing {path : String} (h : files.find? path = none) : Silent files (.optionalFile path)

/-- What the loader is left with by a source that it accepts. -/
theorem add_eq_ok {source : Source} (h : l.add files source = .ok l') :
    l'.settings = (source.layer? files).elim l.settings Layer.settings ∧
      l'.marker = source.marker?.or l.marker ∧
      (source.layer? files = none → source.Silent files) := by
  have hread : ∀ path node, files.find? path = some node → l.readNode path node = .ok l' →
      ∃ layer, (files.find? path).bind (fileLayer? path) = some layer ∧
        l' = { l with settings := layer.settings } := by
    intro path node hnode hl
    obtain ⟨layer, hlayer, hl'⟩ := readNode_eq_ok hl
    exact ⟨layer, by rw [hnode]; exact hlayer, hl'⟩
  cases source with
  | file path =>
    rw [add] at h
    cases hnode : files.find? path with
    | none =>
      rw [hnode] at h
      cases h
    | some node =>
      rw [hnode] at h
      obtain ⟨layer, hlayer, rfl⟩ := hread path node hnode h
      simp [Source.layer?, Source.marker?, hlayer]
  | optionalFile path =>
    rw [add] at h
    cases hnode : files.find? path with
    | none =>
      rw [hnode] at h
      obtain rfl := Except.ok.inj h
      simp [Source.layer?, Source.marker?, hnode, Source.Silent.missing hnode]
    | some node =>
      rw [hnode] at h
      obtain ⟨layer, hlayer, rfl⟩ := hread path node hnode h
      simp [Source.layer?, Source.marker?, hlayer]
  | document content format =>
    simp only [add, bind, Except.bind] at h
    split at h
    · cases h
    · next s hs =>
      obtain ⟨layer, hlayer, rfl⟩ := parse_eq_ok_iff.1 hs
      obtain rfl := Except.ok.inj h
      simp [Source.layer?, Source.marker?, hlayer]
  | environment marker =>
    obtain rfl := Except.ok.inj h
    exact ⟨rfl, rfl, fun _ => .environment marker⟩

/-- What the last document of a sequence says, if there is a document. -/
def lastLayer? (files : FileTree) (sources : List Source) : Option Layer :=
  (sources.filterMap (·.layer? files)).getLast?

/-- The last marker of a sequence, if there is one. -/
def lastMarker? (sources : List Source) : Option String :=
  (sources.filterMap Source.marker?).getLast?

/-- What the loader is left with by sources that it accepts: of the documents, the last one. -/
theorem addAll_eq_ok {sources : List Source} {first : Nat}
    (h : l.addAll files first sources = .ok l') :
    l'.settings = (lastLayer? files sources).elim l.settings Layer.settings ∧
      l'.marker = (lastMarker? sources).or l.marker ∧
      ∀ source ∈ sources, source.layer? files = none → source.Silent files := by
  induction sources generalizing l first with
  | nil =>
    obtain rfl := Except.ok.inj h
    exact ⟨rfl, rfl, nofun⟩
  | cons source sources ih =>
    rw [addAll] at h
    cases hadd : l.add files source with
    | error e =>
      rw [hadd] at h
      cases h
    | ok l₁ =>
      rw [hadd] at h
      obtain ⟨hsettings, hmarker, hsilent⟩ := add_eq_ok hadd
      obtain ⟨hsettings', hmarker', hsilent'⟩ := ih h
      refine ⟨?_, ?_, List.forall_mem_cons.2 ⟨hsilent, hsilent'⟩⟩
      · rw [hsettings', hsettings, lastLayer?, lastLayer?, List.filterMap_cons]
        cases source.layer? files with
        | none => rfl
        | some layer =>
          rw [List.getLast?_cons]
          cases (sources.filterMap (·.layer? files)).getLast? <;> rfl
      · rw [hmarker', hmarker, lastMarker?, lastMarker?, List.filterMap_cons]
        cases source.marker? with
        | none => rfl
        | some marker =>
          rw [List.getLast?_cons]
          cases (sources.filterMap Source.marker?).getLast? <;> rfl

end Loader

variable {s : Settings}

/-! ### Documents that set one field -/

namespace Loader

variable {files : FileTree}

/-- A JSON document that sets one field to a truth value. -/
def switchDocument (f : Field) (b : Bool) : String :=
  String.ofList (Json.entry f.parent.name.toList (Json.entry f.name.toList (toString b).toList))

theorem read_switchDocument (f : Field) (b : Bool) : Json.read (switchDocument f b) =
    some (.table .inline [(f.parent.name, .table .inline [(f.name, .bool b)])]) := by
  have hname : f.name.toList.all Json.isPlain = true := by cases f <;> decide
  have hparent : f.parent.name.toList.all Json.isPlain = true := by cases f <;> decide
  -- from the inside out: the truth value, the section around it, and the document
  have hvalue : Json.Finds (Json.value (Json.skip ((toString b).toList ++ ['\x7d', '\x7d'])))
      (.bool b) ['\x7d', '\x7d'] := by
    have hskip : Json.skip ((toString b).toList ++ ['\x7d', '\x7d']) =
        (toString b).toList ++ ['\x7d', '\x7d'] := by
      cases b <;> rfl
    rw [hskip]
    exact Json.finds_bool b _
  have hsection : Json.Finds
      (Json.value (Json.skip (Json.entry f.name.toList (toString b).toList ++ ['\x7d'])))
      (.table .inline [(String.ofList f.name.toList, .bool b)]) ['\x7d'] :=
    Json.finds_entry hname hvalue
  have hdocument := Json.finds_entry hparent hsection
  rw [String.ofList_toList, String.ofList_toList, List.append_nil] at hdocument
  refine Json.read_of_finds ?_
  rw [switchDocument, String.toList_ofList]
  exact hdocument

theorem ofDocument?_switchDocument {f : Field} {b : Bool} {v : f.Value}
    (hv : f.value? .json (.bool b) = some v) :
    Layer.ofDocument? .json (switchDocument f b) = some (Layer.empty.set f v) := by
  have hlayer : Layer.ofDocument? .json (switchDocument f b) =
      (DocumentFormat.parts? .json (Section.all.map Section.name)
        (.table .inline [(f.parent.name, .table .inline [(f.name, .bool b)])])).bind
          (Layer.addSections? .json .empty) := by
    simp only [Layer.ofDocument?, DocumentFormat.read?, read_switchDocument]
    rfl
  rw [hlayer]
  cases f <;> cases hv <;> rfl

theorem add_switchDocument (l : Loader) {f : Field} {b : Bool} {v : f.Value}
    (hv : f.value? .json (.bool b) = some v) :
    l.add files (.document (switchDocument f b) "json") =
      .ok { l with settings := (Layer.empty.set f v).settings } := by
  have hparse : parse (formatOf? "json".toList) "json" (switchDocument f b) =
      .ok (Layer.empty.set f v).settings :=
    parse_eq_ok_iff.2 ⟨_, ofDocument?_switchDocument hv, rfl⟩
  rw [add, hparse]
  rfl

theorem layer?_switchDocument {f : Field} {b : Bool} {v : f.Value}
    (hv : f.value? .json (.bool b) = some v) :
    (Source.document (switchDocument f b) "json").layer? files = some (Layer.empty.set f v) :=
  ofDocument?_switchDocument hv

end Loader

/-! ### What is loaded -/

namespace Loader

variable {files : FileTree} {l : Loader} {environment : Environment}

theorem eq_of_validate {t : Settings} (h : (do validate t; return t) = (.ok s : Except Error _)) :
    s = t := by
  cases hv : validate t with
  | error e =>
    rw [hv] at h
    cases h
  | ok =>
    rw [hv] at h
    exact (Except.ok.inj h).symm

/-- The settings that are loaded are those of the loader, with what the variables make of them if
there is a marker. -/
theorem load_eq_ok (h : l.load environment = .ok s) : (l.marker = none ∧ s = l.settings) ∨
    ∃ marker, l.marker = some marker ∧
      overrideAll marker l.settings environment.entries = .ok s := by
  obtain ⟨settings, marker?⟩ := l
  cases marker? with
  | none => exact .inl ⟨rfl, eq_of_validate h⟩
  | some marker =>
    refine .inr ⟨marker, rfl, ?_⟩
    cases hset : overrideAll marker settings environment.entries with
    | error e =>
      simp only [load, hset] at h
      cases h
    | ok t =>
      simp only [load, hset] at h
      rw [eq_of_validate h]

/-- What the environment sets a field to after a sequence of sources, if one gives a marker. -/
def override? (sources : List Source) (environment : Environment) (f : Field) : Option String :=
  (lastMarker? sources).bind fun marker =>
    Keyed.get? (f.variableName marker) environment.entries

/-- **Where each setting comes from.** When sources are accepted and settings are loaded, a field
that a variable of the environment sets has the value of that variable. Each other field has the
value that the last document gives it, or else its default value. Every source is a document in this
sense unless it is about the environment or a missing file. -/
theorem load_get {sources : List Source} {first : Nat}
    (hl : start.addAll files first sources = .ok l) (hs : l.load environment = .ok s) (f : Field) :
    (∀ text, override? sources environment f = some text → f.read text = .ok (s.get f)) ∧
    (override? sources environment f = none →
      s.get f = ((lastLayer? files sources).bind (· f)).getD (Settings.default.get f)) ∧
    ∀ source ∈ sources, source.layer? files = none → source.Silent files := by
  obtain ⟨hsettings, hmarker, hsilent⟩ := addAll_eq_ok hl
  have hget : l.settings.get f =
      ((lastLayer? files sources).bind (· f)).getD (Settings.default.get f) := by
    rw [hsettings]
    cases lastLayer? files sources with
    | none => rfl
    | some layer => exact Layer.get_settings layer f
  have hmarker : l.marker = lastMarker? sources := by
    rw [hmarker]
    exact Option.or_none
  rw [override?, ← hmarker]
  rcases load_eq_ok hs with ⟨hnone, rfl⟩ | ⟨marker, hsome, hset⟩
  · rw [hnone]
    exact ⟨nofun, fun _ => hget, hsilent⟩
  · obtain ⟨hown, hother⟩ := overrideAll_get environment.nodup hset f
    rw [hsome]
    exact ⟨hown, fun hf => (hother hf).trans hget, hsilent⟩

/-- A document about errors, and one about metrics. -/
def twoDocuments : List Source :=
  [.document "\x7b\"exception_handler\":\x7b\"log_unmapped\":false\x7d\x7d" "json",
    .document "\x7b\"metrics\":\x7b\"enabled\":true\x7d\x7d" "json"]

theorem twoDocuments_eq : twoDocuments =
    [.document (switchDocument .logUnmapped false) "json",
      .document (switchDocument .metricsEnabled true) "json"] :=
  rfl

theorem addAll_twoDocuments (l : Loader) (sources : List Source) (first : Nat) :
    l.addAll files first (twoDocuments ++ sources) =
      addAll files { l with settings := (Layer.empty.set .metricsEnabled true).settings }
        (first + 1 + 1) sources := by
  rw [twoDocuments_eq, List.cons_append, List.cons_append, List.nil_append, addAll,
    add_switchDocument (b := false) l rfl]
  dsimp only
  rw [addAll, add_switchDocument (b := true) _ rfl]

/-- A document about errors, one about metrics, and the environment: the level has the value of its
variable, and nothing is left of the first document. -/
theorem load_get_metered : ∃ l s,
    start.addAll .empty 0 (twoDocuments ++ [.environment "aegis"]) = .ok l ∧
    l.load (.ofList [("AEGIS__LOGGING__LEVEL", "debug")]) = .ok s ∧
    Field.read "debug" .level = .ok (s.get .level) ∧
    s.get .logUnmapped = true := by
  obtain ⟨l, hl⟩ : ∃ l, start.addAll .empty 0 (twoDocuments ++ [.environment "aegis"]) = .ok l :=
    ⟨_, addAll_twoDocuments ..⟩
  obtain ⟨s, hs⟩ : ∃ s, l.load (.ofList [("AEGIS__LOGGING__LEVEL", "debug")]) = .ok s := by
    rw [addAll_twoDocuments] at hl
    obtain rfl := Except.ok.inj hl
    exact ⟨_, rfl⟩
  have hmarker : lastMarker? (twoDocuments ++ [.environment "aegis"]) = some "AEGIS" := by
    decide +kernel
  have hlevel := (load_get hl hs .level).1 "debug" (by rw [override?, hmarker]; rfl)
  have hunmapped := (load_get hl hs .logUnmapped).2.1 (by rw [override?, hmarker]; rfl)
  refine ⟨l, s, hl, hs, hlevel, hunmapped.trans ?_⟩
  rw [lastLayer?, List.filterMap_append, twoDocuments_eq,
    List.filterMap_cons_some (layer?_switchDocument (b := false) rfl),
    List.filterMap_cons_some (layer?_switchDocument (b := true) rfl)]
  rfl

/-- What the last document that sets a field sets it to. -/
def lastSet? (files : FileTree) (sources : List Source) (f : Field) : Option f.Value :=
  (sources.filterMap (·.layer? files)).reverse.findSome? (· f)

/-- **A later document forgets what an earlier one set.** The first document turns the log of
unmapped errors off, the second one says nothing about it, and it is on. -/
theorem load_forgets : ∃ l s, start.addAll .empty 0 twoDocuments = .ok l ∧
    l.load ⟨[], List.nodup_nil⟩ = .ok s ∧
    override? twoDocuments ⟨[], List.nodup_nil⟩ .logUnmapped = none ∧
    lastSet? .empty twoDocuments .logUnmapped = some false ∧ s.get .logUnmapped = true := by
  have hl : start.addAll .empty 0 (twoDocuments ++ []) = _ := addAll_twoDocuments start [] 0
  rw [List.append_nil] at hl
  refine ⟨_, _, hl, rfl, rfl, ?_, rfl⟩
  rw [lastSet?, twoDocuments_eq, List.filterMap_cons_some (layer?_switchDocument (b := false) rfl),
    List.filterMap_cons_some (layer?_switchDocument (b := true) rfl)]
  rfl

end Loader

end Settings

end CallGuard
