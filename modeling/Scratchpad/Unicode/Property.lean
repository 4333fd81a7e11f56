import Scratchpad.Unicode.Age
import Scratchpad.Unicode.Break
import Scratchpad.Unicode.Category
import Scratchpad.Unicode.ScriptExtension
import Scratchpad.Unicode.Trait

/-!
# Character properties by name

A pattern names a set of characters by a property, as in `Greek` or `Script=Greek`.  Names are
compared loosely: case, spaces, hyphens and underscores do not count, nor does a leading `is`.
The sets are those of version 16.0 of the standard.

* `looseName` — a name in normal form.
* `namedSet` — the set that one name stands for.
* `valuedSet` — the set that a property and one of its values stand for.
-/

namespace Scratchpad.Unicode

/-- Why a property has no set. -/
inductive PropertyError where
  | unknownProperty
  | unknownValue
  deriving DecidableEq, Repr

/-- A name in normal form.  A leading `is` is dropped, except from `isc`, which is the name of a
property itself and would become the category `c`. -/
def looseName (name : String) : String :=
  match name.toList with
  | i :: s :: rest =>
    if i.toLower = 'i' && s.toLower = 's' then
      let tail := squeeze rest
      if tail = ['c'] then "isc" else .ofList tail
    else .ofList (squeeze name.toList)
  | cs => .ofList (squeeze cs)
where
  squeeze (cs : List Char) : List Char :=
    (cs.filter fun c => c.toNat ≤ 0x7F && c != ' ' && c != '_' && c != '-').map Char.toLower

/-- Names of properties that exist but have no sets: their values are texts, numbers, or classes
for other purposes. -/
def otherProperties : List String := [
  "bc", "bidiclass", "blk", "block", "bmg", "bidimirroringglyph", "bpb", "bidipairedbracket",
  "bpt", "bidipairedbrackettype", "ccc", "canonicalcombiningclass", "ce", "compositionexclusion",
  "cf", "casefolding", "compex", "fullcompositionexclusion", "cwkcf",
  "changeswhennfkccasefolded", "dm", "decompositionmapping", "dt", "decompositiontype", "ea",
  "eastasianwidth", "equideo", "equivalentunifiedideograph", "hst", "hangulsyllabletype", "inpc",
  "indicpositionalcategory", "insc", "indicsyllabiccategory", "isc", "ocomment", "jg",
  "joininggroup", "jt", "joiningtype", "lb", "linebreak", "lc", "lowercasemapping", "na", "name",
  "na1", "unicode1name", "nfcqc", "nfcquickcheck", "nfdqc", "nfdquickcheck", "nfkccf",
  "nfkccasefold", "nfkcqc", "nfkcquickcheck", "nfkdqc", "nfkdquickcheck", "nt", "numerictype",
  "nv", "numericvalue", "scf", "simplecasefolding", "sfc", "slc", "simplelowercasemapping",
  "stc", "simpletitlecasemapping", "suc", "simpleuppercasemapping", "tc", "titlecasemapping",
  "uc", "uppercasemapping", "vo", "verticalorientation", "unicoderadicalstroke", "cjkrsunicode",
  "krsunicode", "urs", "cjkaccountingnumeric", "kaccountingnumeric", "cjkothernumeric",
  "kothernumeric", "cjkprimarynumeric", "kprimarynumeric", "cjkcompatibilityvariant",
  "kcompatibilityvariant", "cjkiicore", "kiicore", "cjkirggsource", "kirggsource",
  "cjkirghsource", "kirghsource", "cjkirgjsource", "kirgjsource", "cjkirgkpsource",
  "kirgkpsource", "cjkirgksource", "kirgksource", "cjkirgmsource", "kirgmsource",
  "cjkirgssource", "kirgssource", "cjkirgtsource", "kirgtsource", "cjkirguksource",
  "kirguksource", "cjkirgusource", "kirgusource", "cjkirgvsource", "kirgvsource",
  "jamoshortname", "jsn", "expandsonnfc", "xonfc", "expandsonnfd", "xonfd", "expandsonnfkc",
  "xonfkc", "expandsonnfkd", "xonfkd", "fcnfkcclosure", "fcnfkc", "indicconjunctbreak", "incb",
  "nfkcsimplecasefold", "nfkcscf", "namealias", "kehcat", "kehdesc", "kehhg", "kehifao",
  "kehjsesh", "kehnomirror", "kehnorotate"]

/-- The properties whose values have sets. -/
inductive Valued where
  | category
  | script
  | scriptExtensions
  | age
  | graphemeBreak
  | wordBreak
  | sentenceBreak
  deriving DecidableEq, Repr

/-- The names of the properties whose values have sets. -/
def valuedNames : List (String × Valued) := [
  ("gc", .category), ("generalcategory", .category), ("sc", .script), ("script", .script),
  ("scx", .scriptExtensions), ("scriptextensions", .scriptExtensions), ("age", .age),
  ("gcb", .graphemeBreak), ("graphemeclusterbreak", .graphemeBreak), ("wb", .wordBreak),
  ("wordbreak", .wordBreak), ("sb", .sentenceBreak), ("sentencebreak", .sentenceBreak)]

/-- The set of a category: the surrogates are a value without characters, so without a set. -/
def categorySet (missing : PropertyError) (name : String) : Except PropertyError CharSet :=
  match category? name with
  | some (some s) => .ok s
  | some none => .error .unknownValue
  | none => .error missing

/-- The set of a script. -/
def scriptSet (missing : PropertyError) (name : String) : Except PropertyError CharSet :=
  match findRuns? name scriptRuns with
  | some runs => .ok (.ofRuns runs)
  | none => .error (if name ∈ setlessScriptNames then .unknownValue else missing)

/-- The set that the loose name of a two-valued property, a category or a script stands for.
Where a name could be both a property and a category, `cf`, `sc` and `lc` are categories. -/
def namedSet (name : String) : Except PropertyError CharSet :=
  let name := looseName name
  let isCategory := name ∈ ["cf", "sc", "lc"]
  let isOther := name ∈ otherProperties || (valuedNames.lookup name).isSome
  match if isCategory then none else findRuns? name traitRuns with
  | some runs => .ok (.ofRuns runs)
  | none =>
    if !isCategory && isOther then .error .unknownProperty
    else match category? name with
      | some (some s) => .ok s
      | some none => .error .unknownValue
      | none => scriptSet .unknownProperty name

/-- The set that a value of a property stands for. -/
def valuedSet (property value : String) : Except PropertyError CharSet :=
  let property := looseName property
  let value := looseName value
  match valuedNames.lookup property with
  | some .category => categorySet .unknownValue value
  | some .script => scriptSet .unknownValue value
  | some .scriptExtensions =>
    match scriptRuns.find? (·.1.contains value) with
    | some e => ofTable (e.1.headD "") scriptExtensionRuns
    | none => .error .unknownValue
  | some .age => (upToAge? value).elim (.error .unknownValue) .ok
  | some .graphemeBreak => ofTable value graphemeBreakRuns
  | some .wordBreak => ofTable value wordBreakRuns
  | some .sentenceBreak => ofTable value sentenceBreakRuns
  | none =>
    if property ∈ otherProperties || (findRuns? property traitRuns).isSome then
      .error .unknownValue
    else .error .unknownProperty
where
  ofTable (name : String) (table : List (List String × String)) : Except PropertyError CharSet :=
    match findRuns? name table with
    | some runs => .ok (.ofRuns runs)
    | none => .error .unknownValue

end Scratchpad.Unicode
