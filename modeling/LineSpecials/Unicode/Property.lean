import LineSpecials.Unicode.Age
import LineSpecials.Unicode.Segmentation

namespace LineSpecials.Unicode

/-- A name in the form in which names are compared: in small letters, without blanks, underscores,
hyphens, characters beyond ASCII and a leading `is`. One name would otherwise turn into another,
which is why it keeps its lead. -/
def looseName (name : Text) : Text :=
  let plain (t : Text) : Text :=
    (t.filter fun c => c.toNat < 0x80 && c != ' ' && c != '_' && c != '-').map Char.toLower
  match name with
  | a :: b :: r =>
    if a.toLower = 'i' ∧ b.toLower = 's' then if plain r = "c" then "isc" else plain r
    else plain name
  | _ => plain name

/-- Whether one of some names is the given one, which is in loose form. -/
def goBy (names : List String) (name : Text) : Bool := names.any fun n => looseName n == name

/-- What a query for a property does not find. -/
inductive Missing
  | property
  | value
  deriving DecidableEq

/-- A set that some character belongs to; the others have names only. -/
def inhabited (s : CharSet) : Except Missing CharSet :=
  if s.isEmpty then .error .value else .ok s

/-- The characters of a category or a group of categories. -/
def category? (name : Text) : Option CharSet :=
  if name = "any" then some .all
  else if name = "assigned" then some assigned
  else if name = "ascii" then some (.range '\x00' '\x7F')
  else if goBy ["Cn", "Unassigned"] name then some assigned.compl
  else if goBy ["C", "Other"] name then
    some (assigned.compl.union (ofCategories ["Cc", "Cf", "Co"]))
  else match categoryTables.find? (goBy ·.names name) with
    | some t => some t.set
    | none => (categoryGroups.find? (goBy ·.1 name)).map fun g => ofCategories g.2

/-- The table of a script. -/
def script? (name : Text) : Option NamedTable := scriptTables.find? (goBy ·.names name)

/-- The characters with a property that characters have or lack. -/
def binary? (name : Text) : Option CharSet :=
  match listedTables.find? (goBy ·.names name) with
  | some t => some t.set
  | none => (derivedProperties.find? (goBy ·.1 name)).map (·.2)

/-- The names of properties of which nothing can be asked. -/
def otherProperties : List (List String) :=
  [["bc", "Bidi_Class"], ["blk", "Block"], ["bmg", "Bidi_Mirroring_Glyph"],
   ["bpb", "Bidi_Paired_Bracket"], ["bpt", "Bidi_Paired_Bracket_Type"],
   ["ccc", "Canonical_Combining_Class"], ["CE", "Composition_Exclusion"], ["cf", "Case_Folding"],
   ["cjkAccountingNumeric", "kAccountingNumeric"],
   ["cjkCompatibilityVariant", "kCompatibilityVariant"], ["cjkIICore", "kIICore"],
   ["cjkIRG_GSource", "kIRG_GSource"], ["cjkIRG_HSource", "kIRG_HSource"],
   ["cjkIRG_JSource", "kIRG_JSource"], ["cjkIRG_KPSource", "kIRG_KPSource"],
   ["cjkIRG_KSource", "kIRG_KSource"], ["cjkIRG_MSource", "kIRG_MSource"],
   ["cjkIRG_SSource", "kIRG_SSource"], ["cjkIRG_TSource", "kIRG_TSource"],
   ["cjkIRG_UKSource", "kIRG_UKSource"], ["cjkIRG_USource", "kIRG_USource"],
   ["cjkIRG_VSource", "kIRG_VSource"], ["cjkOtherNumeric", "kOtherNumeric"],
   ["cjkPrimaryNumeric", "kPrimaryNumeric"],
   ["cjkRSUnicode", "kRSUnicode", "Unicode_Radical_Stroke", "URS"],
   ["Comp_Ex", "Full_Composition_Exclusion"], ["CWKCF", "Changes_When_NFKC_Casefolded"],
   ["dm", "Decomposition_Mapping"], ["dt", "Decomposition_Type"], ["ea", "East_Asian_Width"],
   ["EqUIdeo", "Equivalent_Unified_Ideograph"], ["FC_NFKC", "FC_NFKC_Closure"],
   ["hst", "Hangul_Syllable_Type"], ["InCB", "Indic_Conjunct_Break"],
   ["InPC", "Indic_Positional_Category"], ["InSC", "Indic_Syllabic_Category"],
   ["isc", "ISO_Comment"], ["jg", "Joining_Group"], ["JSN", "Jamo_Short_Name"],
   ["jt", "Joining_Type"], ["kEH_Cat"], ["kEH_Desc"], ["kEH_HG"], ["kEH_IFAO"], ["kEH_JSesh"],
   ["kEH_NoMirror"], ["kEH_NoRotate"], ["lb", "Line_Break"], ["lc", "Lowercase_Mapping"],
   ["na", "Name"], ["na1", "Unicode_1_Name"], ["Name_Alias"], ["NFC_QC", "NFC_Quick_Check"],
   ["NFD_QC", "NFD_Quick_Check"], ["NFKC_CF", "NFKC_Casefold"], ["NFKC_QC", "NFKC_Quick_Check"],
   ["NFKC_SCF", "NFKC_Simple_Casefold"], ["NFKD_QC", "NFKD_Quick_Check"], ["nt", "Numeric_Type"],
   ["nv", "Numeric_Value"], ["scf", "Simple_Case_Folding", "sfc"],
   ["slc", "Simple_Lowercase_Mapping"], ["stc", "Simple_Titlecase_Mapping"],
   ["suc", "Simple_Uppercase_Mapping"], ["tc", "Titlecase_Mapping"], ["uc", "Uppercase_Mapping"],
   ["vo", "Vertical_Orientation"], ["XO_NFC", "Expands_On_NFC"], ["XO_NFD", "Expands_On_NFD"],
   ["XO_NFKC", "Expands_On_NFKC"], ["XO_NFKD", "Expands_On_NFKD"]]

/-- The set with one of the given names. -/
def valued (rows : List (List String × CharSet)) (name : Text) : Except Missing CharSet :=
  match rows.find? (goBy ·.1 name) with
  | some r => inhabited r.2
  | none => .error .value

/-- The properties that have values, with what a value's name stands for. -/
def valuedProperties : List (List String × (Text → Except Missing CharSet)) :=
  [(["gc", "General_Category"], fun v => ((category? v).map inhabited).getD (.error .value)),
   (["sc", "Script"], fun v => ((script? v).map (inhabited ·.set)).getD (.error .value)),
   (["scx", "Script_Extensions"], fun v =>
    ((script? v).map (inhabited <| usedIn ·)).getD (.error .value)),
   (["age", "Age"], fun v =>
    ((ageTables.find? (goBy ·.names v)).map (.ok <| upToAge ·)).getD (.error .value)),
   (["GCB", "Grapheme_Cluster_Break"], valued graphemeBreaks),
   (["SB", "Sentence_Break"], valued sentenceBreaks),
   (["WB", "Word_Break"], valued wordBreaks)]

/-- Whether the standard has a property of that name without values that can be asked for. -/
def isUnvalued (name : Text) : Bool :=
  (binary? name).isSome || otherProperties.any (goBy · name)

/-- The characters with a property. Categories and scripts need not be told to be such; three short
names of categories are names of properties, too, and mean the categories. -/
def withProperty (name : Text) : Except Missing CharSet :=
  let name := looseName name
  let isProperty := name != "cf" && name != "sc" && name != "lc" &&
    (isUnvalued name || valuedProperties.any (goBy ·.1 name))
  if isProperty then ((binary? name).map .ok).getD (.error .property)
  else match category? name with
    | some s => inhabited s
    | none =>
      match script? name with
      | some t => inhabited t.set
      | none => .error .property

/-- The characters for which a property has a value. -/
def withValue (property value : Text) : Except Missing CharSet :=
  let property := looseName property
  match valuedProperties.find? (goBy ·.1 property) with
  | some p => p.2 (looseName value)
  | none => .error (if isUnvalued property then .value else .property)

end LineSpecials.Unicode
