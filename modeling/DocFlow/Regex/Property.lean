import DocFlow.Text.Table.Category
import DocFlow.Text.Table.Property
import DocFlow.Text.Table.Script

/-!
# Characters by the name of a property

The sets that a pattern names as `\p{Greek}`, `\p{L}` or `\p{script=Greek}`: binary properties,
general categories and scripts of the Unicode standard.  Names are compared without regard to case,
blanks, dashes, underscores and a leading `is`.
-/

namespace DocFlow.Regex.Property

open DocFlow.Text

/-- The characters of a name that count. -/
def letters (cs : List Char) : List Char :=
  (cs.filter fun c => c.toNat < 0x80 && c ≠ ' ' && c ≠ '_' && c ≠ '-').map Char.toLower

/-- The form in which names are compared. -/
def normalize (name : String) : String :=
  match name.toList with
  | a :: b :: cs =>
    if a.toLower = 'i' ∧ b.toLower = 's' then
      let rest := letters cs
      if rest = ['c'] then "isc" else String.ofList rest
    else String.ofList (letters (a :: b :: cs))
  | cs => String.ofList (letters cs)

def find? (table : List (List String × (Unit → CharSet))) (name : String) : Option CharSet :=
  (table.find? fun entry => entry.1.contains name).map fun entry => entry.2 ()

def binary : List (List String × (Unit → CharSet)) := [
  (["alphabetic", "alpha"], fun _ => Table.alphabetic),
  (["asciihexdigit", "ahex"], fun _ => .ofRanges [(0x30, 0x39), (0x41, 0x46), (0x61, 0x66)]),
  (["cased"], fun _ => Table.cased),
  (["caseignorable", "ci"], fun _ => Table.caseIgnorable),
  (["dash"], fun _ => Table.dash),
  (["defaultignorablecodepoint", "di"], fun _ => Table.defaultIgnorable),
  (["diacritic", "dia"], fun _ => Table.diacritic),
  (["emoji"], fun _ => Table.emoji),
  (["emojipresentation", "epres"], fun _ => Table.emojiPresentation),
  (["extendedpictographic", "extpict"], fun _ => Table.extendedPictographic),
  (["extender", "ext"], fun _ => Table.extender),
  (["graphemeextend", "grext"], fun _ => Table.graphemeExtend),
  (["hexdigit", "hex"], fun _ => Table.hexDigit),
  (["idcontinue", "idc"], fun _ => Table.idContinue),
  (["ideographic", "ideo"], fun _ => Table.ideographic),
  (["idstart", "ids"], fun _ => Table.idStart),
  (["joincontrol", "joinc"], fun _ => Table.joinControl),
  (["lowercase", "lower"], fun _ => Table.lowercase),
  (["math"], fun _ => Table.math),
  (["patternsyntax", "patsyn"], fun _ => Table.patternSyntax),
  (["patternwhitespace", "patws"], fun _ => Table.patternWhiteSpace),
  (["quotationmark", "qmark"], fun _ => Table.quotationMark),
  (["regionalindicator", "ri"], fun _ => Table.regionalIndicator),
  (["softdotted", "sd"], fun _ => Table.softDotted),
  (["terminalpunctuation", "term"], fun _ => Table.terminalPunctuation),
  (["unifiedideograph", "uideo"], fun _ => Table.unifiedIdeograph),
  (["uppercase", "upper"], fun _ => Table.uppercase),
  (["variationselector", "vs"], fun _ => Table.variationSelector),
  (["whitespace", "wspace", "space"], fun _ => Table.whiteSpace),
  (["xidcontinue", "xidc"], fun _ => Table.xidContinue),
  (["xidstart", "xids"], fun _ => Table.xidStart)]

def mark : CharSet := .unions [Table.mn, Table.mc, Table.me]

/-- The general categories, and the sets that are named like one. -/
def category : List (List String × (Unit → CharSet)) := [
  (["any"], fun _ => .all),
  (["ascii"], fun _ => .ofRanges [(0, 0x7F)]),
  (["assigned"], fun _ => Table.cn.compl),
  (["l", "letter"], fun _ => .unions [Table.lu, Table.ll, Table.lt, Table.lm, Table.lo]),
  (["lc", "casedletter"], fun _ => .unions [Table.lu, Table.ll, Table.lt]),
  (["lu", "uppercaseletter"], fun _ => Table.lu),
  (["ll", "lowercaseletter"], fun _ => Table.ll),
  (["lt", "titlecaseletter"], fun _ => Table.lt),
  (["lm", "modifierletter"], fun _ => Table.lm),
  (["lo", "otherletter"], fun _ => Table.lo),
  (["m", "mark", "combiningmark"], fun _ => mark),
  (["mn", "nonspacingmark"], fun _ => Table.mn),
  (["mc", "spacingmark"], fun _ => Table.mc),
  (["me", "enclosingmark"], fun _ => Table.me),
  (["n", "number"], fun _ => .unions [Table.nd, Table.nl, Table.no]),
  (["nd", "decimalnumber", "digit"], fun _ => Table.nd),
  (["nl", "letternumber"], fun _ => Table.nl),
  (["no", "othernumber"], fun _ => Table.no),
  (["p", "punctuation", "punct"], fun _ =>
    .unions [Table.pc, Table.pd, Table.ps, Table.pe, Table.pi, Table.pf, Table.po]),
  (["pc", "connectorpunctuation"], fun _ => Table.pc),
  (["pd", "dashpunctuation"], fun _ => Table.pd),
  (["ps", "openpunctuation"], fun _ => Table.ps),
  (["pe", "closepunctuation"], fun _ => Table.pe),
  (["pi", "initialpunctuation"], fun _ => Table.pi),
  (["pf", "finalpunctuation"], fun _ => Table.pf),
  (["po", "otherpunctuation"], fun _ => Table.po),
  (["s", "symbol"], fun _ => .unions [Table.sm, Table.sc, Table.sk, Table.so]),
  (["sm", "mathsymbol"], fun _ => Table.sm),
  (["sc", "currencysymbol"], fun _ => Table.sc),
  (["sk", "modifiersymbol"], fun _ => Table.sk),
  (["so", "othersymbol"], fun _ => Table.so),
  (["z", "separator"], fun _ => .unions [Table.zs, Table.zl, Table.zp]),
  (["zs", "spaceseparator"], fun _ => Table.zs),
  (["zl", "lineseparator"], fun _ => Table.zl),
  (["zp", "paragraphseparator"], fun _ => Table.zp),
  (["c", "other"], fun _ => .unions [Table.cc, Table.cf, Table.co, Table.cn]),
  (["cc", "control", "cntrl"], fun _ => Table.cc),
  (["cf", "format"], fun _ => Table.cf),
  (["co", "privateuse"], fun _ => Table.co),
  (["cn", "unassigned"], fun _ => Table.cn),
  (["cs", "surrogate"], fun _ => .empty)]

/-- The characters of the script with a name in normal form. -/
def script? (name : String) : Option CharSet :=
  (Table.scripts.find? fun (long, short, _) => normalize long = name || normalize short = name).map
    fun (_, _, ranges) => .ofHex ranges

/-- The set with a name of its own: a property, a category or a script, in this order. -/
def named? (name : String) : Option CharSet :=
  let name := normalize name
  (find? binary name <|> find? category name) <|> script? name

/-- The set of the characters whose property `name` has the value `value`. -/
def valued? (name value : String) : Option CharSet :=
  let name := normalize name
  let value := normalize value
  if name = "generalcategory" ∨ name = "gc" then find? category value
  else if name = "script" ∨ name = "sc" then script? value
  else none

end DocFlow.Regex.Property
