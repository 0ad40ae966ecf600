import Phrasebook.CommandLine.Outcome
import Phrasebook.Proofs.CommandLine.OptionValue
import Phrasebook.Proofs.Identity.StorageKey
import Phrasebook.Proofs.Number.Respelling

/-! Naming a section on the command line.

A text is a section number if it can be read as one. A number shows the numeral
and not the text it was read from, so a section whose name is another spelling of
a number is taken for that number.
-/

set_option autoImplicit false

namespace Phrasebook.CommandLine

section

variable (environment : Environment) {path language part key : String} {arguments : List String}

inductive Asks (path language part key : String) : List String → Prop where
  | options {catalogs languages sections : List String} :
      Gives translateGrammar (single "catalog") path catalogs →
      Gives translateGrammar (single "lang") language languages →
      Gives translateGrammar (single "section") part sections →
      Asks path language part key (catalogs ++ (languages ++ (sections ++ ["--", key])))

def asked (path language part key : String) : List Given :=
  [.option (single "catalog") (some path), .option (single "lang") (some language),
    .option (single "section") (some part), .operand key]

def askedOptions (path language part key : String) : TranslateOptions where
  catalog := path
  language := language
  within := readSection part
  defaultLanguage := environment.defaultLanguage.getD "en"
  cardinals := []
  key := key
  parameters := ∅
  audit := false
  json := false

theorem readOnce_of_asks (asks : Asks path language part key arguments) :
    translateGrammar.readOnce arguments = .ok (asked path language part key) := by
  have valued (name : String) (known : translateGrammar.findName name.toList = some (single name))
      (nonempty : name.toList ≠ []) (plain : '=' ∉ name.toList) :
      translateGrammar.Valued (single name) := ⟨known, nofun, nonempty, plain⟩
  obtain ⟨catalog, language, part⟩ := asks
  rw [Grammar.readOnce, Grammar.read,
    (valued "catalog" rfl (by decide) (by decide)).readArguments_append catalog,
    (valued "lang" rfl (by decide) (by decide)).readArguments_append language,
    (valued "section" rfl (by decide) (by decide)).readArguments_append part]
  rfl

theorem readTranslate_of_asks (named : path ≠ "") (asks : Asks path language part key arguments) :
    readTranslate environment arguments = .ok (askedOptions environment path language part key) := by
  rw [readTranslate, readOnce_of_asks asks]
  show ((readCatalogPath environment (asked path language part key)).bind fun path =>
    .ok (askedOptions environment path language part key)) = _
  rw [@readCatalogPath_of_head? environment (asked path language part key) path rfl named]
  rfl

theorem readRequest_of_asks (named : path ≠ "") (asks : Asks path language part key arguments) :
    readRequest environment ("translate" :: arguments) =
      .ok (.command (.translate (askedOptions environment path language part key))) := by
  rw [readRequest_translate, readTranslate_of_asks environment named asks]
  rfl

end

theorem display_readSection {text : String} (nonempty : text ≠ "") :
    (readSection text).display =
      match Numeral.readBelow (2 ^ 32) text.toList with
      | some number => Numeral.display number
      | none => text := by
  unfold readSection
  cases read : Numeral.readBelow (2 ^ 32) text.toList with
  | none => exact Section.display_ofName nonempty
  | some number =>
    have below := (Numeral.readBelow_eq_some_iff.1 read).1
    simp only [Section.display, UInt32.toNat_ofNat', Nat.mod_eq_of_lt below]

theorem display_readSection_display_iff (part : Section) :
    (readSection part.display).display = part.display ↔
      ¬Numeral.Respelled (2 ^ 32) part.display.toList := by
  rw [display_readSection part.display_ne_empty, Numeral.respelled_iff]
  cases Numeral.readBelow (2 ^ 32) part.display.toList with
  | none => simp
  | some number => simp [Numeral.display, ← String.toList_inj]

/-- A section can be named by the text it shows unless this is another spelling of a
number. Then and only then a translation looks up its entries where they are stored,
however the options are given. -/
theorem section_named_iff {path : String} (named : path ≠ "") (part : Section) :
    ((readSection part.display).display = part.display ↔
        ¬Numeral.Respelled (2 ^ 32) part.display.toList) ∧
      ∀ (environment : Environment) (language key : String) (arguments : List String),
        Asks path language part.display key arguments →
          ∃ options, readRequest environment ("translate" :: arguments) =
              .ok (.command (.translate options)) ∧
            ∀ entries registry,
              (Translation.ofOptions options entries registry).identity.storageKey =
                  Identity.storageKey ⟨key, language, part⟩ ↔
                ¬Numeral.Respelled (2 ^ 32) part.display.toList := by
  refine ⟨display_readSection_display_iff part, ?_⟩
  intro environment language key arguments asks
  refine ⟨_, readRequest_of_asks environment named asks, ?_⟩
  intro entries registry
  rw [← display_readSection_display_iff]
  exact Identity.storageKey_eq_iff_display

/-- A name with a zero in front that is too large for a section number stays a name. -/
theorem largeSection_named :
    "c" ≠ "" ∧
      Asks "c" "en" "04294967296" "k"
        ["--catalog", "c", "--lang=en", "--section", "04294967296", "--", "k"] ∧
      ∃ options,
        readRequest {} ["translate", "--catalog", "c", "--lang=en", "--section", "04294967296",
            "--", "k"] = .ok (.command (.translate options)) ∧
          ∀ entries registry,
            (Translation.ofOptions options entries registry).identity.storageKey =
              "en/04294967296/k" := by
  have asks : Asks "c" "en" "04294967296" "k"
      ["--catalog", "c", "--lang=en", "--section", "04294967296", "--", "k"] :=
    .options (.separate rfl) .joined (.separate rfl)
  obtain ⟨options, read, same⟩ := (section_named_iff (by decide) (.name "04294967296" (by decide))).2
    {} "en" "k" _ asks
  refine ⟨by decide, asks, options, read, fun entries registry => ?_⟩
  exact (same entries registry).2 (by decide)

def paddedSection : String :=
  "[\x7b\"key\":\"k\",\"language\":\"en\",\"section\":\"007\",\"template\":\"T\"\x7d]"

/-- The section is taken for number seven, and its template is not found. -/
theorem paddedSection_not_found :
    (readCatalog paddedSection).toOption = some [⟨⟨"k", "en", .name "007" (by decide)⟩, "T"⟩] ∧
      (readSection (Section.name "007" (by decide)).display).display = "7" ∧
      ∃ options,
        readRequest {} ["translate", "--catalog", "c", "--lang", "en", "--section", "007", "k"] =
            .ok (.command (.translate options)) ∧
          (Command.translate options).run (some paddedSection) = ⟨.badData, "k\n", []⟩ :=
  ⟨rfl, by decide, askedOptions {} "c" "en" "007" "k", rfl, by decide +kernel⟩

end Phrasebook.CommandLine
