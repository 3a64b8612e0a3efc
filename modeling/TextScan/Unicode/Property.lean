import TextScan.Unicode.Age
import TextScan.Unicode.BinaryProperty
import TextScan.Unicode.Break
import TextScan.Unicode.GeneralCategory
import TextScan.Unicode.Script

/-!
# Unicode — properties by name

A property is a set of characters that has a name: a binary property, a general category or a group
of them, a script, or the value of some kind of property.  Names are compared without case,
separators and a leading `is`.

* `Property.named?` finds a set by the name of a property.
* `Property.valued?` finds a set by the name of a kind of property and the name of a value.
* `Property.word`, `Property.alphabetic`, `Property.numeric` and `Property.whiteSpace` are the sets
  that are needed without a name.
-/

namespace TextScan.Unicode.Property

open GeneralCategory

/-! ### Sets -/

/-- The categories of letters. -/
def letters : List GeneralCategory := [lu, ll, lt, lm, lo]

/-- The categories of marks. -/
def marks : List GeneralCategory := [mn, mc, me]

/-- Alphabetic characters. -/
def alphabetic : RangeSet :=
  BinaryProperty.alphabeticSet

/-- Digits and other characters that stand for numbers. -/
def numeric : RangeSet :=
  unionOf [nd, nl, no]

/-- White space. -/
def whiteSpace : RangeSet :=
  BinaryProperty.whiteSpaceSet

/-- What words are made of: alphabetic characters, marks, decimal digits, connecting punctuation and
joiners. -/
def word : RangeSet :=
  alphabetic.union <| (unionOf (nd :: pc :: marks)).union (.range 0x200C 0x200D)

/-! ### Names -/

/-- The general categories and the groups of them, by name. -/
def categoryNames : List (List String × List GeneralCategory) :=
  [(["l", "letter"], letters),
   (["lc", "casedletter"], [lu, ll, lt]),
   (["lu", "uppercaseletter"], [lu]),
   (["ll", "lowercaseletter"], [ll]),
   (["lt", "titlecaseletter"], [lt]),
   (["lm", "modifierletter"], [lm]),
   (["lo", "otherletter"], [lo]),
   (["m", "mark", "combiningmark"], marks),
   (["mn", "nonspacingmark"], [mn]),
   (["mc", "spacingmark"], [mc]),
   (["me", "enclosingmark"], [me]),
   (["n", "number"], [nd, nl, no]),
   (["nd", "decimalnumber", "digit"], [nd]),
   (["nl", "letternumber"], [nl]),
   (["no", "othernumber"], [no]),
   (["p", "punctuation", "punct"], [pc, pd, ps, pe, pi, pf, po]),
   (["pc", "connectorpunctuation"], [pc]),
   (["pd", "dashpunctuation"], [pd]),
   (["ps", "openpunctuation"], [ps]),
   (["pe", "closepunctuation"], [pe]),
   (["pi", "initialpunctuation"], [pi]),
   (["pf", "finalpunctuation"], [pf]),
   (["po", "otherpunctuation"], [po]),
   (["s", "symbol"], [sm, sc, sk, so]),
   (["sm", "mathsymbol"], [sm]),
   (["sc", "currencysymbol"], [sc]),
   (["sk", "modifiersymbol"], [sk]),
   (["so", "othersymbol"], [so]),
   (["z", "separator"], [zs, zl, zp]),
   (["zs", "spaceseparator"], [zs]),
   (["zl", "lineseparator"], [zl]),
   (["zp", "paragraphseparator"], [zp]),
   (["c", "other"], [cc, cf, co, cn]),
   (["cc", "control", "cntrl"], [cc]),
   (["cf", "format"], [cf]),
   (["co", "privateuse"], [co]),
   (["cn", "unassigned"], [cn])]

/-- A name without spaces, underscores, hyphens and what is not ASCII, in lower case, and without
a leading `is`; `isc` alone is kept whole. -/
def normalName (t : List Char) : String :=
  let kept := t.filter fun c => c != ' ' && c != '_' && c != '-' && c.toNat < 0x80
  let plain := kept.map Char.toLower
  match t.map Char.toLower with
  | 'i' :: 's' :: _ => if plain.drop 2 = ['c'] then "isc" else String.ofList (plain.drop 2)
  | _ => String.ofList plain

/-- The value of the general category: a category, a group, or one of three sets that stand beside
them. -/
def categoryNamed? (name : String) : Option RangeSet :=
  match name with
  | "any" => some (.range 0 RangeSet.lastPoint)
  | "assigned" => some cn.set.compl
  | "ascii" => some (.range 0 0x7F)
  | _ =>
    (categoryNames.find? fun entry => entry.1.contains name).map fun entry =>
      .unionAll (entry.2.map GeneralCategory.set)

/-- The set of a name: a binary property, a general category or a script. -/
def named? (t : List Char) : Option RangeSet :=
  let name := normalName t
  ((BinaryProperty.named? name).map BinaryProperty.set).or <|
    (categoryNamed? name).or ((Script.named? name).map Script.set)

/-- The set of the characters for which a kind of property has a value. -/
def valued? (kind value : List Char) : Option RangeSet :=
  let value := normalName value
  match normalName kind with
  | "generalcategory" | "gc" => categoryNamed? value
  | "script" | "sc" => (Script.named? value).map Script.set
  | "scriptextensions" | "scx" => (Script.named? value).map Script.extended
  | "age" => Age.set? value
  | "graphemeclusterbreak" | "gcb" => Break.grapheme? value
  | "wordbreak" | "wb" => Break.word? value
  | "sentencebreak" | "sb" => Break.sentence? value
  | _ => none

end TextScan.Unicode.Property
