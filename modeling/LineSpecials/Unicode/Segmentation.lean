import LineSpecials.Unicode.Binary
import LineSpecials.Unicode.Script

namespace LineSpecials.Unicode

/-- Characters that continue a word or a sentence. -/
def extending : CharSet := .unions [graphemeExtend, ofCategories ["Mc"], listed "EMod"]

/-- Marks that surround the digits behind them, and count as digits. -/
def numberMarks : CharSet := (listed "PCM").minus (.singleton '\u070F')

/-- Format characters that neither join nor part, nor surround what follows. -/
def formats : CharSet :=
  (ofCategories ["Cf"]).minus (.unions [listed "PCM", .ofTable ["200C-200D E0020-E007F"]])

/-- The classes of characters inside what a reader takes for one, as of version 16 of the Unicode
standard. Classes that no character belongs to any more have names only, and so has the class of all
others. -/
def graphemeBreaks : List (List String × CharSet) :=
  let extend := graphemeExtend.union (listed "EMod")
  [(["CN", "Control"],
    (.unions [ofCategories ["Cc", "Zl", "Zp", "Cf"], (listed "DI").minus assigned] : CharSet).minus
      (.unions [listed "PCM", .ofTable ["A D 200C-200D E0020-E007F"]])),
   (["CR"], .singleton '\r'),
   (["EX", "Extend"], extend),
   (["L"], .ofTable ["1100-115F A960-A97C"]),
   (["LF"], .singleton '\n'),
   (["LV"], .ofTable ["AC00-D788/1C"]),
   (["LVT"], (CharSet.ofTable ["AC00-D7A3"]).minus (.ofTable ["AC00-D788/1C"])),
   (["PP", "Prepend"],
    (listed "PCM").union
      (.ofTable ["D4E 111C2-111C3 113D1 1193F 11941 11A3A 11A84-11A89 11D46 11F02"])),
   (["RI", "Regional_Indicator"], listed "RI"),
   (["SM", "SpacingMark"],
    (((ofCategories ["Mc"]).minus extend).minus (.ofTable
      ["102B-102C 1038 1062-1064 1067-106D 1083 1087-108C 108F 109A-109C 1A61 1A63-1A64 AA7B AA7D",
       "11720-11721"])).union (.ofTable ["E33 EB3"])),
   (["T"], .ofTable ["11A8-11FF D7CB-D7FB"]),
   (["V"], .ofTable ["1160-11A7 D7B0-D7C6 16D63 16D67-16D6A"]),
   (["ZWJ"], .singleton '\u200D'),
   (["XX", "Other"], .empty),
   (["EB", "E_Base"], .empty),
   (["EBG", "E_Base_GAZ"], .empty),
   (["EM", "E_Modifier"], .empty),
   (["GAZ", "Glue_After_Zwj"], .empty)]

/-- The classes of characters inside words. -/
def wordBreaks : List (List String × CharSet) :=
  let scripts (names : List String) : CharSet :=
    .unions ((scriptTables.filter fun t => t.names.head?.any names.contains).map (·.set))
  let hebrew := (scripts ["Hebr"]).inter (ofCategories ["Lo"])
  let katakana := (scripts ["Kana"]).union (.ofTable ["3031-3035 309B-309C 30A0 30FC FF70"])
  let unspaced := (scripts
    ["Thai", "Laoo", "Khmr", "Mymr", "Tale", "Talu", "Lana", "Tavt", "Ahom"]).minus
      (ofCategories ["Nd"])
  [(["LE", "ALetter"],
    (alphabetic.minus (.unions
      [listed "Ideo", katakana, unspaced, scripts ["Hira"], extending, hebrew])).union (.ofTable
        ["2C2-2C5 2D2-2D7 2DE-2DF 2E5-2EB 2ED 2EF-2FF 55A-55C 55E 58A 5F3 70F A708-A716 A720-A721",
         "A789-A78A AB5B"])),
   (["CR"], .singleton '\r'),
   (["DQ", "Double_Quote"], .singleton '"'),
   (["Extend"], extending),
   (["EX", "ExtendNumLet"], .ofTable ["5F 202F 203F-2040 2054 FE33-FE34 FE4D-FE4F FF3F"]),
   (["FO", "Format"], formats.minus (.singleton '\u200B')),
   (["HL", "Hebrew_Letter"], hebrew),
   (["KA", "Katakana"], katakana),
   (["LF"], .singleton '\n'),
   (["ML", "MidLetter"], .ofTable ["3A B7 387 55F 5F4 2027 FE13 FE55 FF1A"]),
   (["MN", "MidNum"],
    .ofTable ["2C 3B 37E 589 60C-60D 66C 7F8 2044 FE10 FE14 FE50 FE54 FF0C FF1B"]),
   (["MB", "MidNumLet"], .ofTable ["2E 2018-2019 2024 FE52 FF07 FF0E"]),
   (["NL", "Newline"], .ofTable ["B-C 85 2028-2029"]),
   (["NU", "Numeric"], .unions [ofCategories ["Nd"], numberMarks, .singleton '\u066B']),
   (["RI", "Regional_Indicator"], listed "RI"),
   (["SQ", "Single_Quote"], .ofTable ["27"]),
   (["WSegSpace"], .ofTable ["20 1680 2000-2006 2008-200A 205F 3000"]),
   (["ZWJ"], .singleton '\u200D'),
   (["XX", "Other"], .empty),
   (["EB", "E_Base"], .empty),
   (["EBG", "E_Base_GAZ"], .empty),
   (["EM", "E_Modifier"], .empty),
   (["GAZ", "Glue_After_Zwj"], .empty)]

/-- The classes of characters inside sentences. -/
def sentenceBreaks : List (List String × CharSet) :=
  let georgian := CharSet.ofTable ["10D0-10FA 10FD-10FF 1C90-1CBA 1CBD-1CBF"]
  let extend := (extending.minus (listed "EMod")).union (.singleton '\u200D')
  let lower := (lowercase.minus extending).minus georgian
  let upper := (uppercase.union (ofCategories ["Lt"])).minus georgian
  let stops := CharSet.ofTable ["2E 2024 FE52 FF0E"]
  [(["AT", "ATerm"], stops),
   (["CL", "Close"],
    (ofCategories ["Ps", "Pe", "Pi", "Pf"]).union
      (.ofTable ["22 27 275B-2760 2E00-2E01 2E06-2E08 2E0B 1F676-1F678"])),
   (["CR"], .singleton '\r'),
   (["EX", "Extend"], extend),
   (["FO", "Format"], formats),
   (["LF"], .singleton '\n'),
   (["LO", "Lower"], lower),
   (["NU", "Numeric"], .unions [ofCategories ["Nd"], numberMarks, .ofTable ["66B-66C"]]),
   (["LE", "OLetter"],
    (((alphabetic.union (.ofTable ["5F3 70F"])).minus lower).minus upper).minus extending),
   (["SC", "SContinue"], .ofTable
     ["2C-2D 3A-3B 37E 55D 60C-60D 7F8 1802 1808 2013-2014 3001 FE10-FE11 FE13-FE14 FE31-FE32",
      "FE50-FE51 FE54-FE55 FE58 FE63 FF0C-FF0D FF1A-FF1B FF64"]),
   (["SE", "Sep"], .ofTable ["85 2028-2029"]),
   (["SP", "Sp"], .ofTable ["9 B-C 20 A0 1680 2000-200A 202F 205F 3000"]),
   (["ST", "STerm"], (listed "STerm").minus stops),
   (["UP", "Upper"], upper),
   (["XX", "Other"], .empty)]

end LineSpecials.Unicode
