import Phrasebook.Locale.Basic
import Phrasebook.Plural.Category
import Phrasebook.Plural.Condition

/-! Cardinal plural rules by language.

The conditions of a locale are tried in canonical order, and a number that meets
none of them is `other`. Regions, variants and extensions do not matter, but for
Portuguese outside Brazil. A language in a script that is not its usual one has
conditions only if they are listed for that script.
-/

set_option autoImplicit false

namespace Phrasebook.Cardinal

structure Rules where
  locales : List String
  conditions : List (Category × Condition)

section Table

open Term

def table : List Rules := [
  ⟨["am", "as", "bn", "doi", "fa", "gu", "hi", "kn", "kok", "pcm", "tg", "vi", "zu"], [
    (.one, [[i.isIn [0]], [n.isIn [1]]])]⟩,
  ⟨["hy"], [
    (.one, [[i.isIn [0, 1]]])]⟩,
  ⟨["fr", "pt"], [
    (.one, [[i.isIn [⟨0, 1⟩]]]),
    (.many, [[e.isIn [0], i.notIn [0], (i % 1000000).isIn [0], v.isIn [0]], [e.notIn [⟨0, 5⟩]]])]⟩,
  ⟨["ast", "de", "en", "et", "fi", "fy", "ia", "ie", "lij", "nl", "sc", "sv", "sw", "ur",
     "hi-Latn"], [
    (.one, [[i.isIn [1], v.isIn [0]]])]⟩,
  ⟨["cs", "sk"], [
    (.one, [[i.isIn [1], v.isIn [0]]]),
    (.few, [[i.isIn [⟨2, 4⟩], v.isIn [0]]]),
    (.many, [[v.notIn [0]]])]⟩,
  ⟨["ro"], [
    (.one, [[i.isIn [1], v.isIn [0]]]),
    (.few, [[v.notIn [0]], [n.isIn [0]], [n.notIn [1], (n % 100).isIn [⟨1, 19⟩]]])]⟩,
  ⟨["pl"], [
    (.one, [[i.isIn [1], v.isIn [0]]]),
    (.few, [[v.isIn [0], (i % 10).isIn [⟨2, 4⟩], (i % 100).notIn [⟨12, 14⟩]]]),
    (.many, [
      [v.isIn [0], i.notIn [1], (i % 10).isIn [⟨0, 1⟩]],
      [v.isIn [0], (i % 10).isIn [⟨5, 9⟩]],
      [v.isIn [0], (i % 100).isIn [⟨12, 14⟩]]])]⟩,
  ⟨["ca", "gl", "it", "lld", "scn", "vec", "pt-PT"], [
    (.one, [[i.isIn [1], v.isIn [0]]]),
    (.many, [[e.isIn [0], i.notIn [0], (i % 1000000).isIn [0], v.isIn [0]], [e.notIn [⟨0, 5⟩]]])]⟩,
  ⟨["he"], [
    (.one, [[i.isIn [1], v.isIn [0]], [i.isIn [0], v.notIn [0]]]),
    (.two, [[i.isIn [2], v.isIn [0]]])]⟩,
  ⟨["be"], [
    (.one, [[(n % 10).isIn [1], (n % 100).notIn [11]]]),
    (.few, [[(n % 10).isIn [⟨2, 4⟩], (n % 100).notIn [⟨12, 14⟩]]]),
    (.many, [[(n % 10).isIn [0]], [(n % 10).isIn [⟨5, 9⟩]], [(n % 100).isIn [⟨11, 14⟩]]])]⟩,
  ⟨["br"], [
    (.one, [[(n % 10).isIn [1], (n % 100).notIn [11, 71, 91]]]),
    (.two, [[(n % 10).isIn [2], (n % 100).notIn [12, 72, 92]]]),
    (.few, [[(n % 10).isIn [⟨3, 4⟩, 9], (n % 100).notIn [⟨10, 19⟩, ⟨70, 79⟩, ⟨90, 99⟩]]]),
    (.many, [[n.notIn [0], (n % 1000000).isIn [0]]])]⟩,
  ⟨["lt"], [
    (.one, [[(n % 10).isIn [1], (n % 100).notIn [⟨11, 19⟩]]]),
    (.few, [[(n % 10).isIn [⟨2, 9⟩], (n % 100).notIn [⟨11, 19⟩]]]),
    (.many, [[f.notIn [0]]])]⟩,
  ⟨["si"], [
    (.one, [[n.isIn [0, 1]], [i.isIn [0], f.isIn [1]]])]⟩,
  ⟨["ak", "bho", "csw", "nso", "pa", "ti"], [
    (.one, [[n.isIn [⟨0, 1⟩]]])]⟩,
  ⟨["af", "az", "bg", "brx", "chr", "ckb", "ee", "el", "eo", "eu", "fo", "ha", "hu", "ka", "kk",
     "ks", "ku", "ky", "lb", "ml", "mn", "mr", "nb", "ne", "nn", "no", "om", "or", "ps", "rm",
     "sd", "so", "sq", "st", "syr", "ta", "te", "tk", "tn", "tr", "ug", "uz", "xh"], [
    (.one, [[n.isIn [1]]])]⟩,
  ⟨["es"], [
    (.one, [[n.isIn [1]]]),
    (.many, [[e.isIn [0], i.notIn [0], (i % 1000000).isIn [0], v.isIn [0]], [e.notIn [⟨0, 5⟩]]])]⟩,
  ⟨["sat"], [
    (.one, [[n.isIn [1]]]),
    (.two, [[n.isIn [2]]])]⟩,
  ⟨["mt"], [
    (.one, [[n.isIn [1]]]),
    (.two, [[n.isIn [2]]]),
    (.few, [[n.isIn [0]], [(n % 100).isIn [⟨3, 10⟩]]]),
    (.many, [[(n % 100).isIn [⟨11, 19⟩]]])]⟩,
  ⟨["ga"], [
    (.one, [[n.isIn [1]]]),
    (.two, [[n.isIn [2]]]),
    (.few, [[n.isIn [⟨3, 6⟩]]]),
    (.many, [[n.isIn [⟨7, 10⟩]]])]⟩,
  ⟨["da"], [
    (.one, [[n.isIn [1]], [t.notIn [0], i.isIn [0, 1]]])]⟩,
  ⟨["gd"], [
    (.one, [[n.isIn [1, 11]]]),
    (.two, [[n.isIn [2, 12]]]),
    (.few, [[n.isIn [⟨3, 10⟩, ⟨13, 19⟩]]])]⟩,
  ⟨["is"], [
    (.one, [
      [t.isIn [0], (i % 10).isIn [1], (i % 100).notIn [11]],
      [(t % 10).isIn [1], (t % 100).notIn [11]]])]⟩,
  ⟨["ru", "uk"], [
    (.one, [[v.isIn [0], (i % 10).isIn [1], (i % 100).notIn [11]]]),
    (.few, [[v.isIn [0], (i % 10).isIn [⟨2, 4⟩], (i % 100).notIn [⟨12, 14⟩]]]),
    (.many, [
      [v.isIn [0], (i % 10).isIn [0]],
      [v.isIn [0], (i % 10).isIn [⟨5, 9⟩]],
      [v.isIn [0], (i % 100).isIn [⟨11, 14⟩]]])]⟩,
  ⟨["mk"], [
    (.one, [
      [v.isIn [0], (i % 10).isIn [1], (i % 100).notIn [11]],
      [(f % 10).isIn [1], (f % 100).notIn [11]]])]⟩,
  ⟨["bs", "hr", "sr", "bs-Latn"], [
    (.one, [
      [v.isIn [0], (i % 10).isIn [1], (i % 100).notIn [11]],
      [(f % 10).isIn [1], (f % 100).notIn [11]]]),
    (.few, [
      [v.isIn [0], (i % 10).isIn [⟨2, 4⟩], (i % 100).notIn [⟨12, 14⟩]],
      [(f % 10).isIn [⟨2, 4⟩], (f % 100).notIn [⟨12, 14⟩]]])]⟩,
  ⟨["sl"], [
    (.one, [[v.isIn [0], (i % 100).isIn [1]]]),
    (.two, [[v.isIn [0], (i % 100).isIn [2]]]),
    (.few, [[v.isIn [0], (i % 100).isIn [⟨3, 4⟩]], [v.notIn [0]]])]⟩,
  ⟨["dsb", "hsb"], [
    (.one, [[v.isIn [0], (i % 100).isIn [1]], [(f % 100).isIn [1]]]),
    (.two, [[v.isIn [0], (i % 100).isIn [2]], [(f % 100).isIn [2]]]),
    (.few, [[v.isIn [0], (i % 100).isIn [⟨3, 4⟩]], [(f % 100).isIn [⟨3, 4⟩]]])]⟩,
  ⟨["ceb", "fil"], [
    (.one, [
      [v.isIn [0], i.isIn [1, 2, 3]],
      [v.isIn [0], (i % 10).notIn [4, 6, 9]],
      [v.notIn [0], (f % 10).notIn [4, 6, 9]]])]⟩,
  ⟨["lv", "prg"], [
    (.zero, [
      [(n % 10).isIn [0]],
      [(n % 100).isIn [⟨11, 19⟩]],
      [v.isIn [2], (f % 100).isIn [⟨11, 19⟩]]]),
    (.one, [
      [(n % 10).isIn [1], (n % 100).notIn [11]],
      [v.isIn [2], (f % 10).isIn [1], (f % 100).notIn [11]],
      [v.notIn [2], (f % 10).isIn [1]]])]⟩,
  ⟨["blo", "cv", "ksh"], [
    (.zero, [[n.isIn [0]]]),
    (.one, [[n.isIn [1]]])]⟩,
  ⟨["ar"], [
    (.zero, [[n.isIn [0]]]),
    (.one, [[n.isIn [1]]]),
    (.two, [[n.isIn [2]]]),
    (.few, [[(n % 100).isIn [⟨3, 10⟩]]]),
    (.many, [[(n % 100).isIn [⟨11, 99⟩]]])]⟩,
  ⟨["cy"], [
    (.zero, [[n.isIn [0]]]),
    (.one, [[n.isIn [1]]]),
    (.two, [[n.isIn [2]]]),
    (.few, [[n.isIn [3]]]),
    (.many, [[n.isIn [6]]])]⟩]

end Table

/-- The languages of the table by the script in which they are usually written. -/
def usualScripts : List (String × List String) := [
  ("latn", ["af", "ak", "ast", "az", "blo", "br", "bs", "ca", "ceb", "cs", "cy", "da", "de",
    "dsb", "ee", "en", "eo", "es", "et", "eu", "fi", "fil", "fo", "fr", "fy", "ga", "gd", "gl",
    "ha", "hr", "hsb", "hu", "ia", "ie", "is", "it", "ksh", "ku", "lb", "lij", "lld", "lt", "lv",
    "mt", "nb", "nl", "nn", "no", "nso", "om", "pcm", "pl", "prg", "pt", "rm", "ro", "sc", "scn",
    "sk", "sl", "so", "sq", "st", "sv", "sw", "tk", "tn", "tr", "uz", "vec", "vi", "xh", "zu"]),
  ("cyrl", ["be", "bg", "cv", "kk", "ky", "mk", "mn", "ru", "sr", "tg", "uk"]),
  ("arab", ["ar", "ckb", "fa", "ks", "ps", "sd", "ug", "ur"]),
  ("deva", ["bho", "brx", "doi", "hi", "kok", "mr", "ne"]),
  ("ethi", ["am", "ti"]),
  ("beng", ["as", "bn"]),
  ("armn", ["hy"]),
  ("cans", ["csw"]),
  ("cher", ["chr"]),
  ("geor", ["ka"]),
  ("grek", ["el"]),
  ("gujr", ["gu"]),
  ("guru", ["pa"]),
  ("hebr", ["he"]),
  ("knda", ["kn"]),
  ("mlym", ["ml"]),
  ("olck", ["sat"]),
  ("orya", ["or"]),
  ("sinh", ["si"]),
  ("syrc", ["syr"]),
  ("taml", ["ta"]),
  ("telu", ["te"])]

def usualScript? (language : Subtag) : Option String :=
  (usualScripts.find? (·.2.contains (String.ofList language))).map (·.1)

/-- The name under which the conditions of a locale are listed. -/
def listedAs (tag : LanguageTag) : String :=
  let language := String.ofList tag.language
  match tag.script with
  | some script =>
    if usualScript? tag.language = some (String.ofList script) then inRegion language
    else language ++ "-" ++ String.ofList (LanguageTag.titleCase script)
  | none => inRegion language
where
  inRegion (language : String) : String :=
    match tag.region with
    | some region =>
      if language = "pt" ∧ region ≠ "br".toList then "pt-PT" else language
    | none => language

def conditions (locale : Locale) : List (Category × Condition) :=
  match table.find? (·.locales.contains (listedAs locale.tag)) with
  | some rules => rules.conditions
  | none => []

def classify (conditions : List (Category × Condition)) (operands : Operands) : Category :=
  match conditions.find? (·.2.holds operands) with
  | some found => found.1
  | none => .other

@[simp] theorem classify_nil (operands : Operands) : classify [] operands = .other := rfl

@[simp] theorem classify_cons (category : Category) (condition : Condition)
    (rest : List (Category × Condition)) (operands : Operands) :
    classify ((category, condition) :: rest) operands =
      if condition.holds operands = true then category else classify rest operands := by
  by_cases holds : condition.holds operands = true
  · simp [classify, holds]
  · simp [classify, holds]

def forms (conditions : List (Category × Condition)) : List Category :=
  conditions.map (·.1) ++ [.other]

theorem classify_mem_forms (conditions : List (Category × Condition)) (operands : Operands) :
    classify conditions operands ∈ forms conditions := by
  unfold classify forms
  split
  · next found shape =>
    exact List.mem_append_left _ (List.mem_map_of_mem (List.mem_of_find?_eq_some shape))
  · simp

end Phrasebook.Cardinal
