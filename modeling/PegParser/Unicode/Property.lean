import PegParser.Text.Parts
import PegParser.Unicode.Binary
import PegParser.Unicode.CaseFolding
import PegParser.Unicode.Category
import PegParser.Unicode.RangeSet
import PegParser.Unicode.Script

namespace PegParser.Unicode

-- The form in which names are compared. A leading `is` does not count.
def normalName (name : String) : String :=
  let letters : List Char → String := fun cs =>
    String.ofList ((cs.filter fun c => c.toNat < 128 && c != ' ' && c != '_' && c != '-').map
      Char.toLower)
  match name.toList with
  | a :: b :: rest =>
    if a.toLower = 'i' ∧ b.toLower = 's' then
      let rest := letters rest
      if rest = "c" then "isc" else rest
    else
      letters name.toList
  | cs => letters cs

def isNamed (normal names : String) : Bool :=
  (Text.words names).any (normalName · == normal)

def categories : List (String × RangeSet) :=
  categoryTable.map fun (names, table) => (names, .ofTable table)

def ofCategories (short : List String) : RangeSet :=
  .unions ((categories.filter fun (names, _) => short.any (names.startsWith ·)).map (·.2))

def scripts : List (String × RangeSet) :=
  scriptTable.map fun (names, table) => (names, .ofTable table)

def categoryUnions : List (List String × List String) := [
  (["lc", "casedletter"], ["Lu", "Ll", "Lt"]),
  (["l", "letter"], ["Lu", "Ll", "Lt", "Lm", "Lo"]),
  (["m", "mark", "combiningmark"], ["Mn", "Mc", "Me"]),
  (["n", "number"], ["Nd", "Nl", "No"]),
  (["p", "punctuation", "punct"], ["Pc", "Pd", "Ps", "Pe", "Pi", "Pf", "Po"]),
  (["s", "symbol"], ["Sm", "Sc", "Sk", "So"]),
  (["z", "separator"], ["Zs", "Zl", "Zp"])]

def unassigned : RangeSet :=
  (RangeSet.unions (⟨[(0xD800, 0xDFFF)]⟩ :: categories.map (·.2))).complement

def category? (normal : String) : Option RangeSet :=
  if normal == "any" then some .all
  else if normal == "ascii" then some ⟨[(0, 0x7F)]⟩
  else if normal == "assigned" then some unassigned.complement
  else if normal == "cn" || normal == "unassigned" then some unassigned
  else if normal == "c" || normal == "other" then
    some (unassigned.union (ofCategories ["Cc", "Cf", "Co"]))
  else
    match categoryUnions.find? (·.1.contains normal) with
    | some (_, short) => some (ofCategories short)
    | none => (categories.find? (isNamed normal ·.1)).map (·.2)

def script? (normal : String) : Option RangeSet :=
  (scripts.find? (isNamed normal ·.1)).map (·.2)

def binaryEntry (short : String) (extra missing : List String) : RangeSet :=
  ((ofCategories (Text.words short)).union (.ofTable extra)).diff (.ofTable missing)

def binary? (normal : String) : Option RangeSet :=
  (binaryTable.find? (isNamed normal ·.1)).map fun (_, short, extra, missing) =>
    binaryEntry short extra missing

def valuedProperties : List String := [
  "age", "bc", "bidiclass", "blk", "block", "bmg", "bidimirroringglyph", "bpb",
  "bidipairedbracket", "bpt", "bidipairedbrackettype", "canonicalcombiningclass", "ccc",
  "casefolding", "ea", "eastasianwidth", "gc", "generalcategory", "gcb", "graphemeclusterbreak",
  "hst", "hangulsyllabletype", "inpc", "indicpositionalcategory", "insc",
  "indicsyllabiccategory", "isc", "isocomment", "jg", "joininggroup", "jsn", "jamoshortname",
  "jt", "joiningtype", "lb", "linebreak", "lowercasemapping", "na", "name", "na1",
  "unicode1name", "namealias", "nfcqc", "nfcquickcheck", "nfdqc", "nfdquickcheck", "nfkcqc",
  "nfkcquickcheck", "nfkdqc", "nfkdquickcheck", "nfkccf", "nfkccasefold", "nt", "numerictype",
  "nv", "numericvalue", "sb", "sentencebreak", "scf", "sfc", "simplecasefolding", "scx",
  "script", "scriptextensions", "slc", "simplelowercasemapping", "stc",
  "simpletitlecasemapping", "suc", "simpleuppercasemapping", "tc", "titlecasemapping", "uc",
  "uppercasemapping", "vo", "verticalorientation", "wb", "wordbreak", "dm",
  "decompositionmapping", "dt", "decompositiontype"]

def property? (name : String) : Option RangeSet :=
  let normal := normalName name
  let general := (category? normal).orElse fun _ => script? normal
  if normal == "cf" || normal == "sc" || normal == "lc" then general
  else if valuedProperties.contains normal then none
  else (binary? normal).orElse fun _ => general

-- Of the properties with values, the general category and the script are known, but no ages, no
-- extensions of scripts and no breaks of text.
def valuedProperty? (name value : String) : Option RangeSet :=
  let normal := normalName name
  if normal == "gc" || normal == "generalcategory" then category? (normalName value)
  else if normal == "sc" || normal == "script" then script? (normalName value)
  else none

def alphabetic : RangeSet := (binary? "alphabetic").getD .empty

def decimalNumber : RangeSet := ofCategories ["Nd"]

def number : RangeSet := ofCategories ["Nd", "Nl", "No"]

def graphemeExtend : RangeSet := (binary? "graphemeextend").getD .empty

def whiteSpace : RangeSet := (binary? "whitespace").getD .empty

def word : RangeSet :=
  .unions [alphabetic, ofCategories ["Mn", "Mc", "Me", "Nd", "Pc"],
    (binary? "joincontrol").getD .empty]

def unprintable : RangeSet :=
  (RangeSet.unions [ofCategories ["Cc", "Cf", "Co", "Zs", "Zl", "Zp"], unassigned]).diff
    (.singleton 0x20)

end PegParser.Unicode
