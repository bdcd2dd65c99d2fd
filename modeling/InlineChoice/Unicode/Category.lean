import InlineChoice.Unicode.Runs

/-!
# General categories

The property `General_Category`: its values by their two-letter abbreviations,
the groups of them that have names of their own, and the table.
-/

namespace InlineChoice

namespace Unicode

namespace Category

/-- The names of a category or of a group of categories, in the form in which
names are compared, and the abbreviations that it stands for. A surrogate is no
character, so its category cannot be named. -/
def names : List (List String × List String) :=
  [(["lu", "uppercaseletter"], ["Lu"]),
   (["ll", "lowercaseletter"], ["Ll"]),
   (["lt", "titlecaseletter"], ["Lt"]),
   (["lm", "modifierletter"], ["Lm"]),
   (["lo", "otherletter"], ["Lo"]),
   (["mn", "nonspacingmark"], ["Mn"]),
   (["mc", "spacingmark"], ["Mc"]),
   (["me", "enclosingmark"], ["Me"]),
   (["nd", "decimalnumber", "digit"], ["Nd"]),
   (["nl", "letternumber"], ["Nl"]),
   (["no", "othernumber"], ["No"]),
   (["pc", "connectorpunctuation"], ["Pc"]),
   (["pd", "dashpunctuation"], ["Pd"]),
   (["ps", "openpunctuation"], ["Ps"]),
   (["pe", "closepunctuation"], ["Pe"]),
   (["pi", "initialpunctuation"], ["Pi"]),
   (["pf", "finalpunctuation"], ["Pf"]),
   (["po", "otherpunctuation"], ["Po"]),
   (["sm", "mathsymbol"], ["Sm"]),
   (["sc", "currencysymbol"], ["Sc"]),
   (["sk", "modifiersymbol"], ["Sk"]),
   (["so", "othersymbol"], ["So"]),
   (["zs", "spaceseparator"], ["Zs"]),
   (["zl", "lineseparator"], ["Zl"]),
   (["zp", "paragraphseparator"], ["Zp"]),
   (["cc", "control", "cntrl"], ["Cc"]),
   (["cf", "format"], ["Cf"]),
   (["co", "privateuse"], ["Co"]),
   (["cn", "unassigned"], ["Cn"]),
   (["c", "other"], ["Cc", "Cf", "Cn", "Co", "Cs"]),
   (["l", "letter"], ["Lu", "Ll", "Lt", "Lm", "Lo"]),
   (["lc", "casedletter"], ["Lu", "Ll", "Lt"]),
   (["m", "mark", "combiningmark"], ["Mn", "Mc", "Me"]),
   (["n", "number"], ["Nd", "Nl", "No"]),
   (["p", "punctuation", "punct"], ["Pc", "Pd", "Ps", "Pe", "Pi", "Pf", "Po"]),
   (["s", "symbol"], ["Sm", "Sc", "Sk", "So"]),
   (["z", "separator"], ["Zs", "Zl", "Zp"]),
   (["assigned"], ["Lu", "Ll", "Lt", "Lm", "Lo", "Mn", "Mc", "Me", "Nd", "Nl", "No", "Pc", "Pd",
     "Ps", "Pe", "Pi", "Pf", "Po", "Sm", "Sc", "Sk", "So", "Zs", "Zl", "Zp", "Cc", "Cf", "Co",
     "Cs"])]

/-- The categories that a name stands for. -/
def named? (name : String) : Option (List String) :=
  (names.find? fun (known, _) => known.contains name).map (·.2)

/-- The category of every code point. -/
def table : RunTable :=
  RunTable.ofLines
    ["20:Cc Zs 3:Po Sc 3:Po Ps Pe Po Sm Po Pd 2:Po A:Nd 2:Po 3:Sm 2:Po 1A:Lu Ps Po Pe Sk Pc Sk",
     "1A:Ll Ps Sm Pe Sm 21:Cc Zs Po 4:Sc So Po Sk So Lo Pi Sm Cf So Sk So Sm 2:No Sk Ll 2:Po Sk No",
     "Lo Pf 3:No Po 17:Lu Sm 7:Lu 18:Ll Sm 8:Ll Lu Ll Lu Ll Lu Ll Lu Ll Lu Ll Lu Ll Lu Ll Lu Ll Lu",
     "Ll Lu Ll Lu Ll Lu Ll Lu Ll Lu Ll Lu Ll Lu Ll Lu Ll Lu Ll Lu Ll Lu Ll Lu Ll Lu Ll Lu Ll Lu Ll",
     "Lu Ll Lu Ll Lu Ll Lu 2:Ll Lu Ll Lu Ll Lu Ll Lu Ll Lu Ll Lu Ll Lu Ll Lu 2:Ll Lu Ll Lu Ll Lu",
     "Ll Lu Ll Lu Ll Lu Ll Lu Ll Lu Ll Lu Ll Lu Ll Lu Ll Lu Ll Lu Ll Lu Ll Lu Ll Lu Ll Lu Ll Lu Ll",
     "Lu Ll Lu Ll Lu Ll Lu Ll Lu Ll 2:Lu Ll Lu Ll Lu 3:Ll 2:Lu Ll Lu Ll 2:Lu Ll 3:Lu 2:Ll 4:Lu Ll",
     "2:Lu Ll 3:Lu 3:Ll 2:Lu Ll 2:Lu Ll Lu Ll Lu Ll 2:Lu Ll Lu 2:Ll Lu Ll 2:Lu Ll 3:Lu Ll Lu Ll",
     "2:Lu 2:Ll Lo Lu 3:Ll 4:Lo Lu Lt Ll Lu Lt Ll Lu Lt Ll Lu Ll Lu Ll Lu Ll Lu Ll Lu Ll Lu Ll Lu",
     "Ll Lu 2:Ll Lu Ll Lu Ll Lu Ll Lu Ll Lu Ll Lu Ll Lu Ll Lu Ll Lu 2:Ll Lu Lt Ll Lu Ll 3:Lu Ll Lu",
     "Ll Lu Ll Lu Ll Lu Ll Lu Ll Lu Ll Lu Ll Lu Ll Lu Ll Lu Ll Lu Ll Lu Ll Lu Ll Lu Ll Lu Ll Lu Ll",
     "Lu Ll Lu Ll Lu Ll Lu Ll Lu Ll Lu Ll Lu Ll Lu Ll Lu Ll Lu Ll Lu Ll Lu Ll Lu 7:Ll 2:Lu Ll 2:Lu",
     "2:Ll Lu Ll 4:Lu Ll Lu Ll Lu Ll Lu Ll Lu 45:Ll 2:Lo 1A:Ll 12:Lm 4:Sk C:Lm E:Sk 5:Lm 7:Sk Lm",
     "Sk Lm 11:Sk 70:Mn Lu Ll Lu Ll Lm Sk Lu Ll 2:Cn Lm 3:Ll Po Lu 4:Cn 2:Sk Lu Po 3:Lu Cn Lu Cn",
     "2:Lu Ll 11:Lu Cn 9:Lu 23:Ll Lu 2:Ll 3:Lu 3:Ll Lu Ll Lu Ll Lu Ll Lu Ll Lu Ll Lu Ll Lu Ll Lu",
     "Ll Lu Ll Lu Ll Lu Ll Lu 5:Ll Lu Ll Sm Lu Ll 2:Lu 2:Ll 33:Lu 30:Ll Lu Ll Lu Ll Lu Ll Lu Ll Lu",
     "Ll Lu Ll Lu Ll Lu Ll Lu Ll Lu Ll Lu Ll Lu Ll Lu Ll Lu Ll Lu Ll Lu Ll Lu Ll So 5:Mn 2:Me Lu",
     "Ll Lu Ll Lu Ll Lu Ll Lu Ll Lu Ll Lu Ll Lu Ll Lu Ll Lu Ll Lu Ll Lu Ll Lu Ll Lu Ll Lu Ll Lu Ll",
     "Lu Ll Lu Ll Lu Ll Lu Ll Lu Ll Lu Ll Lu Ll Lu Ll Lu Ll Lu Ll Lu Ll 2:Lu Ll Lu Ll Lu Ll Lu Ll",
     "Lu Ll Lu Ll Lu 2:Ll Lu Ll Lu Ll Lu Ll Lu Ll Lu Ll Lu Ll Lu Ll Lu Ll Lu Ll Lu Ll Lu Ll Lu Ll",
     "Lu Ll Lu Ll Lu Ll Lu Ll Lu Ll Lu Ll Lu Ll Lu Ll Lu Ll Lu Ll Lu Ll Lu Ll Lu Ll Lu Ll Lu Ll Lu",
     "Ll Lu Ll Lu Ll Lu Ll Lu Ll Lu Ll Lu Ll Lu Ll Lu Ll Lu Ll Lu Ll Lu Ll Lu Ll Lu Ll Lu Ll Lu Ll",
     "Lu Ll Lu Ll Lu Ll Lu Ll Lu Ll Cn 26:Lu 2:Cn Lm 6:Po 29:Ll Po Pd 2:Cn 2:So Sc Cn 2D:Mn Pd Mn",
     "Po 2:Mn Po 2:Mn Po Mn 8:Cn 1B:Lo 4:Cn 4:Lo 2:Po B:Cn 6:Cf 3:Sm 2:Po Sc 2:Po 2:So B:Mn Po Cf",
     "3:Po 20:Lo Lm A:Lo 15:Mn A:Nd 4:Po 2:Lo Mn 63:Lo Po Lo 7:Mn Cf So 6:Mn 2:Lm 2:Mn So 4:Mn",
     "2:Lo A:Nd 3:Lo 2:So Lo E:Po Cn Cf Lo Mn 1E:Lo 1B:Mn 2:Cn 59:Lo B:Mn Lo E:Cn A:Nd 21:Lo 9:Mn",
     "2:Lm So 3:Po Lm 2:Cn Mn 2:Sc 16:Lo 4:Mn Lm 9:Mn Lm 3:Mn Lm 5:Mn 2:Cn F:Po Cn 19:Lo 3:Mn 2:Cn",
     "Po Cn B:Lo 5:Cn 18:Lo Sk 7:Lo 2:Cf 5:Cn 9:Mn 29:Lo Lm 18:Mn Cf 20:Mn Mc 36:Lo Mn Mc Mn Lo",
     "3:Mc 8:Mn 4:Mc Mn 2:Mc Lo 7:Mn A:Lo 2:Mn 2:Po A:Nd Po Lm F:Lo Mn 2:Mc Cn 8:Lo 2:Cn 2:Lo 2:Cn",
     "16:Lo Cn 7:Lo Cn Lo 3:Cn 4:Lo 2:Cn Mn Lo 3:Mc 4:Mn 2:Cn 2:Mc 2:Cn 2:Mc Mn Lo 8:Cn Mc 4:Cn",
     "2:Lo Cn 3:Lo 2:Mn 2:Cn A:Nd 2:Lo 2:Sc 6:No So Sc Lo Po Mn 2:Cn 2:Mn Mc Cn 6:Lo 4:Cn 2:Lo",
     "2:Cn 16:Lo Cn 7:Lo Cn 2:Lo Cn 2:Lo Cn 2:Lo 2:Cn Mn Cn 3:Mc 2:Mn 4:Cn 2:Mn 2:Cn 3:Mn 3:Cn Mn",
     "7:Cn 4:Lo Cn Lo 7:Cn A:Nd 2:Mn 3:Lo Mn Po A:Cn 2:Mn Mc Cn 9:Lo Cn 3:Lo Cn 16:Lo Cn 7:Lo Cn",
     "2:Lo Cn 5:Lo 2:Cn Mn Lo 3:Mc 5:Mn Cn 2:Mn Mc Cn 2:Mc Mn 2:Cn Lo F:Cn 2:Lo 2:Mn 2:Cn A:Nd Po",
     "Sc 7:Cn Lo 6:Mn Cn Mn 2:Mc Cn 8:Lo 2:Cn 2:Lo 2:Cn 16:Lo Cn 7:Lo Cn 2:Lo Cn 5:Lo 2:Cn Mn Lo",
     "Mc Mn Mc 4:Mn 2:Cn 2:Mc 2:Cn 2:Mc Mn 7:Cn 2:Mn Mc 4:Cn 2:Lo Cn 3:Lo 2:Mn 2:Cn A:Nd So Lo",
     "6:No A:Cn Mn Lo Cn 6:Lo 3:Cn 3:Lo Cn 4:Lo 3:Cn 2:Lo Cn Lo Cn 2:Lo 3:Cn 2:Lo 3:Cn 3:Lo 3:Cn",
     "C:Lo 4:Cn 2:Mc Mn 2:Mc 3:Cn 3:Mc Cn 3:Mc Mn 2:Cn Lo 6:Cn Mc E:Cn A:Nd 3:No 6:So Sc So 5:Cn",
     "Mn 3:Mc Mn 8:Lo Cn 3:Lo Cn 17:Lo Cn 10:Lo 2:Cn Mn Lo 3:Mn 4:Mc Cn 3:Mn Cn 4:Mn 7:Cn 2:Mn Cn",
     "3:Lo Cn 2:Lo 2:Cn 2:Lo 2:Mn 2:Cn A:Nd 7:Cn Po 7:No So Lo Mn 2:Mc Po 8:Lo Cn 3:Lo Cn 17:Lo Cn",
     "A:Lo Cn 5:Lo 2:Cn Mn Lo Mc Mn 5:Mc Cn Mn 2:Mc Cn 2:Mc 2:Mn 7:Cn 2:Mc 5:Cn 3:Lo Cn 2:Lo 2:Mn",
     "2:Cn A:Nd Cn 2:Lo Mc C:Cn 2:Mn 2:Mc 9:Lo Cn 3:Lo Cn 29:Lo 2:Mn Lo 3:Mc 4:Mn Cn 3:Mc Cn 3:Mc",
     "Mn Lo So 4:Cn 3:Lo Mc 7:No 3:Lo 2:Mn 2:Cn A:Nd 9:No So 6:Lo Cn Mn 2:Mc Cn 12:Lo 3:Cn 18:Lo",
     "Cn 9:Lo Cn Lo 2:Cn 7:Lo 3:Cn Mn 4:Cn 3:Mc 3:Mn Cn Mn Cn 8:Mc 6:Cn A:Nd 2:Cn 2:Mc Po C:Cn",
     "30:Lo Mn 2:Lo 7:Mn 4:Cn Sc 6:Lo Lm 8:Mn Po A:Nd 2:Po 25:Cn 2:Lo Cn Lo Cn 5:Lo Cn 18:Lo Cn Lo",
     "Cn A:Lo Mn 2:Lo 9:Mn Lo 2:Cn 5:Lo Cn Lm Cn 7:Mn Cn A:Nd 2:Cn 4:Lo 20:Cn Lo 3:So F:Po So Po",
     "3:So 2:Mn 6:So A:Nd A:No So Mn So Mn So Mn Ps Pe Ps Pe 2:Mc 8:Lo Cn 24:Lo 4:Cn E:Mn Mc 5:Mn",
     "Po 2:Mn 5:Lo B:Mn Cn 24:Mn Cn 8:So Mn 6:So Cn 2:So 5:Po 4:So 2:Po 25:Cn 2B:Lo 2:Mc 4:Mn Mc",
     "6:Mn Mc 2:Mn 2:Mc 2:Mn Lo A:Nd 6:Po 6:Lo 2:Mc 2:Mn 4:Lo 3:Mn Lo 3:Mc 2:Lo 7:Mc 3:Lo 4:Mn",
     "D:Lo Mn 2:Mc 2:Mn 6:Mc Mn Lo Mc A:Nd 3:Mc Mn 2:So 26:Lu Cn Lu 5:Cn Lu 2:Cn 2B:Ll Po Lm 3:Ll",
     "149:Lo Cn 4:Lo 2:Cn 7:Lo Cn Lo Cn 4:Lo 2:Cn 29:Lo Cn 4:Lo 2:Cn 21:Lo Cn 4:Lo 2:Cn 7:Lo Cn Lo",
     "Cn 4:Lo 2:Cn F:Lo Cn 39:Lo Cn 4:Lo 2:Cn 43:Lo 2:Cn 3:Mn 9:Po 14:No 3:Cn 10:Lo A:So 6:Cn",
     "56:Lu 2:Cn 6:Ll 2:Cn Pd 26C:Lo So Po 11:Lo Zs 1A:Lo Ps Pe 3:Cn 4B:Lo 3:Po 3:Nl 8:Lo 7:Cn",
     "12:Lo 3:Mn Mc 9:Cn 13:Lo 2:Mn Mc 2:Po 9:Cn 12:Lo 2:Mn C:Cn D:Lo Cn 3:Lo Cn 2:Mn C:Cn 34:Lo",
     "2:Mn Mc 7:Mn 8:Mc Mn 2:Mc B:Mn 3:Po Lm 3:Po Sc Lo Mn 2:Cn A:Nd 6:Cn A:No 6:Cn 6:Po Pd 4:Po",
     "3:Mn Cf Mn A:Nd 6:Cn 23:Lo Lm 35:Lo 7:Cn 5:Lo 2:Mn 22:Lo Mn Lo 5:Cn 46:Lo A:Cn 1F:Lo Cn 3:Mn",
     "4:Mc 2:Mn 3:Mc 4:Cn 2:Mc Mn 6:Mc 3:Mn 4:Cn So 3:Cn 2:Po A:Nd 1E:Lo 2:Cn 5:Lo B:Cn 2C:Lo 4:Cn",
     "1A:Lo 6:Cn A:Nd No 3:Cn 22:So 17:Lo 2:Mn 2:Mc Mn 2:Cn 2:Po 35:Lo Mc Mn Mc 7:Mn Cn Mn Mc Mn",
     "2:Mc 8:Mn 6:Mc A:Mn 2:Cn Mn A:Nd 6:Cn A:Nd 6:Cn 7:Po Lm 6:Po 2:Cn E:Mn Me 1F:Mn 2:Cn C:Mn",
     "14:Cn 4:Mn Mc 2F:Lo Mn Mc 5:Mn Mc Mn 5:Mc Mn 2:Mc 8:Lo Cn 2:Po A:Nd 7:Po A:So 9:Mn 9:So 3:Po",
     "2:Mn Mc 1E:Lo Mc 4:Mn 2:Mc 2:Mn Mc 3:Mn 2:Lo A:Nd 2C:Lo Mn Mc 2:Mn 3:Mc Mn Mc 3:Mn 2:Mc 8:Cn",
     "4:Po 24:Lo 8:Mc 8:Mn 2:Mc 2:Mn 3:Cn 5:Po A:Nd 3:Cn 3:Lo A:Nd 1E:Lo 6:Lm 2:Po 9:Ll Lu Ll 5:Cn",
     "2B:Lu 2:Cn 3:Lu 8:Po 8:Cn 3:Mn Po D:Mn Mc 7:Mn 4:Lo Mn 6:Lo Mn 2:Lo Mc 2:Mn Lo 5:Cn 2C:Ll",
     "3F:Lm D:Ll Lm 22:Ll 25:Lm 40:Mn Lu Ll Lu Ll Lu Ll Lu Ll Lu Ll Lu Ll Lu Ll Lu Ll Lu Ll Lu Ll",
     "Lu Ll Lu Ll Lu Ll Lu Ll Lu Ll Lu Ll Lu Ll Lu Ll Lu Ll Lu Ll Lu Ll Lu Ll Lu Ll Lu Ll Lu Ll Lu",
     "Ll Lu Ll Lu Ll Lu Ll Lu Ll Lu Ll Lu Ll Lu Ll Lu Ll Lu Ll Lu Ll Lu Ll Lu Ll Lu Ll Lu Ll Lu Ll",
     "Lu Ll Lu Ll Lu Ll Lu Ll Lu Ll Lu Ll Lu Ll Lu Ll Lu Ll Lu Ll Lu Ll Lu Ll Lu Ll Lu Ll Lu Ll Lu",
     "Ll Lu Ll Lu Ll Lu Ll Lu Ll Lu Ll Lu Ll Lu Ll Lu Ll Lu Ll Lu Ll Lu Ll Lu Ll Lu Ll Lu Ll Lu Ll",
     "Lu Ll Lu Ll Lu 9:Ll Lu Ll Lu Ll Lu Ll Lu Ll Lu Ll Lu Ll Lu Ll Lu Ll Lu Ll Lu Ll Lu Ll Lu Ll",
     "Lu Ll Lu Ll Lu Ll Lu Ll Lu Ll Lu Ll Lu Ll Lu Ll Lu Ll Lu Ll Lu Ll Lu Ll Lu Ll Lu Ll Lu Ll Lu",
     "Ll Lu Ll Lu Ll Lu Ll Lu Ll Lu Ll Lu Ll Lu Ll Lu Ll Lu Ll Lu Ll Lu Ll Lu Ll Lu Ll Lu Ll Lu Ll",
     "Lu Ll Lu Ll Lu Ll Lu Ll Lu Ll Lu 9:Ll 8:Lu 6:Ll 2:Cn 6:Lu 2:Cn 8:Ll 8:Lu 8:Ll 8:Lu 6:Ll 2:Cn",
     "6:Lu 2:Cn 8:Ll Cn Lu Cn Lu Cn Lu Cn Lu 8:Ll 8:Lu E:Ll 2:Cn 8:Ll 8:Lt 8:Ll 8:Lt 8:Ll 8:Lt",
     "5:Ll Cn 2:Ll 4:Lu Lt Sk Ll 3:Sk 3:Ll Cn 2:Ll 4:Lu Lt 3:Sk 4:Ll 2:Cn 2:Ll 4:Lu Cn 3:Sk 8:Ll",
     "5:Lu 3:Sk 2:Cn 3:Ll Cn 2:Ll 4:Lu Lt 2:Sk Cn B:Zs 5:Cf 6:Pd 2:Po Pi Pf Ps 2:Pi Pf Ps Pi 8:Po",
     "Zl Zp 5:Cf Zs 9:Po Pi Pf 4:Po 2:Pc 3:Po Sm Ps Pe B:Po Sm Po Pc A:Po Zs 5:Cf Cn A:Cf No Lm",
     "2:Cn 6:No 3:Sm Ps Pe Lm A:No 3:Sm Ps Pe Cn D:Lm 3:Cn 22:Sc E:Cn D:Mn 4:Me Mn 3:Me C:Mn F:Cn",
     "2:So Lu 4:So Lu 2:So Ll 3:Lu 2:Ll 3:Lu Ll So Lu 2:So Sm 5:Lu 6:So Lu So Lu So Lu So 4:Lu So",
     "Ll 4:Lu Ll 4:Lo Ll 2:So 2:Ll 2:Lu 5:Sm Lu 4:Ll So Sm 2:So Ll So 10:No 23:Nl Lu Ll 4:Nl No",
     "2:So 4:Cn 5:Sm 5:So 2:Sm 4:So Sm 2:So Sm 2:So Sm 7:So Sm 1F:So 2:Sm 2:So Sm So Sm 1F:So",
     "10C:Sm 8:So Ps Pe Ps Pe 14:So 2:Sm 7:So Ps Pe 51:So Sm 1E:So 19:Sm 28:So 6:Sm 48:So 16:Cn",
     "B:So 15:Cn 3C:No 4E:So 16:No B7:So Sm 9:So Sm 36:So 8:Sm 6F:So Sm F8:So Ps Pe Ps Pe Ps Pe Ps",
     "Pe Ps Pe Ps Pe Ps Pe 1E:No 2C:So 5:Sm Ps Pe 1F:Sm Ps Pe Ps Pe Ps Pe Ps Pe Ps Pe 10:Sm 100:So",
     "83:Sm Ps Pe Ps Pe Ps Pe Ps Pe Ps Pe Ps Pe Ps Pe Ps Pe Ps Pe Ps Pe Ps Pe 3F:Sm Ps Pe Ps Pe",
     "20:Sm Ps Pe 102:Sm 30:So 15:Sm 2:So 6:Sm 27:So 2:Cn 8A:So 30:Lu 30:Ll Lu Ll 3:Lu 2:Ll Lu Ll",
     "Lu Ll Lu Ll 4:Lu Ll Lu 2:Ll Lu 6:Ll 2:Lm 3:Lu Ll Lu Ll Lu Ll Lu Ll Lu Ll Lu Ll Lu Ll Lu Ll",
     "Lu Ll Lu Ll Lu Ll Lu Ll Lu Ll Lu Ll Lu Ll Lu Ll Lu Ll Lu Ll Lu Ll Lu Ll Lu Ll Lu Ll Lu Ll Lu",
     "Ll Lu Ll Lu Ll Lu Ll Lu Ll Lu Ll Lu Ll Lu Ll Lu Ll Lu Ll Lu Ll Lu Ll Lu Ll Lu Ll Lu Ll Lu Ll",
     "Lu Ll Lu Ll Lu Ll Lu Ll Lu Ll Lu Ll Lu Ll Lu Ll Lu Ll Lu Ll Lu 2:Ll 6:So Lu Ll Lu Ll 3:Mn Lu",
     "Ll 5:Cn 4:Po No 2:Po 26:Ll Cn Ll 5:Cn Ll 2:Cn 38:Lo 7:Cn Lm Po E:Cn Mn 17:Lo 9:Cn 7:Lo Cn",
     "7:Lo Cn 7:Lo Cn 7:Lo Cn 7:Lo Cn 7:Lo Cn 7:Lo Cn 7:Lo Cn 20:Mn 2:Po Pi Pf Pi Pf 3:Po Pi Pf Po",
     "Pi Pf 9:Po Pd 2:Po Pd Po Pi Pf 2:Po Pi Pf Ps Pe Ps Pe Ps Pe Ps Pe 5:Po Lm A:Po 2:Pd 4:Po Pd",
     "Po Ps D:Po 2:So 3:Po Ps Pe Ps Pe Ps Pe Ps Pe Pd 22:Cn 1A:So Cn 59:So C:Cn D6:So 1A:Cn 10:So",
     "Zs 3:Po So Lm Lo Nl Ps Pe Ps Pe Ps Pe Ps Pe Ps Pe 2:So Ps Pe Ps Pe Ps Pe Ps Pe Pd Ps 2:Pe So",
     "9:Nl 4:Mn 2:Mc Pd 5:Lm 2:So 3:Nl Lm Lo Po 2:So Cn 56:Lo 2:Cn 2:Mn 2:Sk 2:Lm Lo Pd 5A:Lo Po",
     "3:Lm Lo 5:Cn 2B:Lo Cn 5E:Lo Cn 2:So 4:No A:So 20:Lo 26:So 9:Cn So 10:Lo 1F:So Cn A:No 1E:So",
     "8:No So F:No 20:So A:No 27:So F:No 140:So 19C0:Lo 40:So 5215:Lo Lm 477:Lo 3:Cn 37:So 9:Cn",
     "28:Lo 6:Lm 2:Po 10C:Lo Lm 3:Po 10:Lo A:Nd 2:Lo 14:Cn Lu Ll Lu Ll Lu Ll Lu Ll Lu Ll Lu Ll Lu",
     "Ll Lu Ll Lu Ll Lu Ll Lu Ll Lu Ll Lu Ll Lu Ll Lu Ll Lu Ll Lu Ll Lu Ll Lu Ll Lu Ll Lu Ll Lu Ll",
     "Lu Ll Lo Mn 3:Me Po A:Mn Po Lm Lu Ll Lu Ll Lu Ll Lu Ll Lu Ll Lu Ll Lu Ll Lu Ll Lu Ll Lu Ll",
     "Lu Ll Lu Ll Lu Ll Lu Ll 2:Lm 2:Mn 46:Lo A:Nl 2:Mn 6:Po 8:Cn 17:Sk 9:Lm 2:Sk Lu Ll Lu Ll Lu",
     "Ll Lu Ll Lu Ll Lu Ll Lu 3:Ll Lu Ll Lu Ll Lu Ll Lu Ll Lu Ll Lu Ll Lu Ll Lu Ll Lu Ll Lu Ll Lu",
     "Ll Lu Ll Lu Ll Lu Ll Lu Ll Lu Ll Lu Ll Lu Ll Lu Ll Lu Ll Lu Ll Lu Ll Lu Ll Lu Ll Lu Ll Lu Ll",
     "Lu Ll Lu Ll Lu Ll Lu Ll Lu Ll Lm 8:Ll Lu Ll Lu Ll 2:Lu Ll Lu Ll Lu Ll Lu Ll Lu Ll Lm 2:Sk Lu",
     "Ll Lu Ll Lo Lu Ll Lu 3:Ll Lu Ll Lu Ll Lu Ll Lu Ll Lu Ll Lu Ll Lu Ll Lu Ll Lu Ll Lu Ll 5:Lu",
     "Ll 5:Lu Ll Lu Ll Lu Ll Lu Ll Lu Ll Lu Ll Lu Ll Lu Ll 4:Lu Ll Lu Ll 2:Lu Ll Lu Ll Lu Ll Lu Ll",
     "Lu Ll Lu Ll Lu Ll Lu Ll Lu 14:Cn 4:Lm Lu Ll Lo 2:Lm Ll 7:Lo Mn 3:Lo Mn 4:Lo Mn 17:Lo 2:Mc",
     "2:Mn Mc 4:So Mn 3:Cn 6:No 2:So Sc So 6:Cn 34:Lo 4:Po 8:Cn 2:Mc 32:Lo 10:Mc 2:Mn 8:Cn 2:Po",
     "A:Nd 6:Cn 12:Mn 6:Lo 3:Po Lo Po 2:Lo Mn A:Nd 1C:Lo 8:Mn 2:Po 17:Lo B:Mn 2:Mc B:Cn Po 1D:Lo",
     "3:Cn 3:Mn Mc 2F:Lo Mn 2:Mc 4:Mn 2:Mc 2:Mn 3:Mc D:Po Cn Lm A:Nd 4:Cn 2:Po 5:Lo Mn Lm 9:Lo",
     "A:Nd 5:Lo Cn 29:Lo 6:Mn 2:Mc 2:Mn 2:Mc 2:Mn 9:Cn 3:Lo Mn 8:Lo Mn Mc 2:Cn A:Nd 2:Cn 4:Po",
     "10:Lo Lm 6:Lo 3:So Lo Mc Mn Mc 32:Lo Mn Lo 3:Mn 2:Lo 2:Mn 5:Lo 2:Mn Lo Mn Lo 18:Cn 2:Lo Lm",
     "2:Po B:Lo Mc 2:Mn 2:Mc 2:Po Lo 2:Lm Mc Mn A:Cn 6:Lo 2:Cn 6:Lo 2:Cn 6:Lo 9:Cn 7:Lo Cn 7:Lo Cn",
     "2B:Ll Sk 4:Lm 9:Ll Lm 2:Sk 4:Cn 50:Ll 23:Lo 2:Mc Mn 2:Mc Mn 2:Mc Po Mc Mn 2:Cn A:Nd 6:Cn",
     "2BA4:Lo C:Cn 17:Lo 4:Cn 31:Lo 4:Cn 800:Cs 1900:Co 16E:Lo 2:Cn 6A:Lo 26:Cn 7:Ll C:Cn 5:Ll",
     "5:Cn Lo Mn A:Lo Sm D:Lo Cn 5:Lo Cn Lo Cn 2:Lo Cn 2:Lo Cn 6C:Lo 11:Sk 10:So 16B:Lo Pe Ps",
     "10:So 40:Lo 2:So 36:Lo 8:So 20:Cn C:Lo Sc 3:So 10:Mn 7:Po Ps Pe Po 6:Cn 10:Mn Po 2:Pd 2:Pc",
     "Ps Pe Ps Pe Ps Pe Ps Pe Ps Pe Ps Pe Ps Pe Ps Pe 2:Po Ps Pe 4:Po 3:Pc 3:Po Cn 4:Po Pd Ps Pe",
     "Ps Pe Ps Pe 3:Po Sm Pd 3:Sm Cn Po Sc 2:Po 4:Cn 5:Lo Cn 87:Lo 2:Cn Cf Cn 3:Po Sc 3:Po Ps Pe",
     "Po Sm Po Pd 2:Po A:Nd 2:Po 3:Sm 2:Po 1A:Lu Ps Po Pe Sk Pc Sk 1A:Ll Ps Sm Pe Sm Ps Pe Po Ps",
     "Pe 2:Po A:Lo Lm 2D:Lo 2:Lm 1F:Lo 3:Cn 6:Lo 2:Cn 6:Lo 2:Cn 6:Lo 2:Cn 3:Lo 3:Cn 2:Sc Sm Sk So",
     "2:Sc Cn So 4:Sm 2:So A:Cn 3:Cf 2:So 2:Cn C:Lo Cn 1A:Lo Cn 13:Lo Cn 2:Lo Cn F:Lo 2:Cn E:Lo",
     "22:Cn 7B:Lo 5:Cn 3:Po 4:Cn 2D:No 3:Cn 9:So 35:Nl 4:No 11:So 2:No 3:So Cn D:So 3:Cn So 2F:Cn",
     "2D:So Mn 82:Cn 1D:Lo 3:Cn 31:Lo F:Cn Mn 1B:No 4:Cn 20:Lo 4:No 9:Cn 14:Lo Nl 8:Lo Nl 5:Cn",
     "26:Lo 5:Mn 5:Cn 1E:Lo Cn Po 24:Lo 4:Cn 8:Lo Po 5:Nl 2A:Cn 28:Lu 28:Ll 4E:Lo 2:Cn A:Nd 6:Cn",
     "24:Lu 4:Cn 24:Ll 4:Cn 28:Lo 8:Cn 34:Lo B:Cn Po B:Lu Cn F:Lu Cn 7:Lu Cn 2:Lu Cn B:Ll Cn F:Ll",
     "Cn 7:Ll Cn 2:Ll 3:Cn 34:Lo C:Cn 137:Lo 9:Cn 16:Lo A:Cn 8:Lo 18:Cn 6:Lm Cn 2A:Lm Cn 9:Lm",
     "45:Cn 6:Lo 2:Cn Lo Cn 2C:Lo Cn 2:Lo 3:Cn Lo 2:Cn 17:Lo Cn Po 8:No 17:Lo 2:So 7:No 1F:Lo 8:Cn",
     "9:No 30:Cn 13:Lo Cn 2:Lo 5:Cn 5:No 16:Lo 6:No 3:Cn Po 1A:Lo 5:Cn Po 1A:Lo 26:Cn 38:Lo 4:Cn",
     "2:No 2:Lo 10:No 2:Cn 2E:No Lo 3:Mn Cn 2:Mn 5:Cn 4:Mn 4:Lo Cn 3:Lo Cn 1D:Lo 2:Cn 3:Mn 4:Cn Mn",
     "9:No 7:Cn 9:Po 7:Cn 1D:Lo 2:No Po 1D:Lo 3:No 20:Cn 8:Lo So 1C:Lo 2:Mn 4:Cn 5:No 7:Po 9:Cn",
     "36:Lo 3:Cn 7:Po 16:Lo 2:Cn 8:No 13:Lo 5:Cn 8:No 12:Lo 7:Cn 4:Po C:Cn 7:No 50:Cn 49:Lo 37:Cn",
     "33:Lu D:Cn 33:Ll 7:Cn 6:No 24:Lo 4:Mn 8:Cn A:Nd 6:Cn A:Nd 4:Lo Lm Lo 16:Lu 3:Cn 5:Mn Pd Lm",
     "16:Ll 8:Cn 2:Sm D0:Cn 1F:No Cn 2A:Lo Cn 2:Mn Pd 2:Cn 2:Lo 10:Cn 3:Lo Lm 2:Lo 8:Cn Po 8:So",
     "21:Cn 6:Mn 1D:Lo A:No Lo 8:Cn 16:Lo B:Mn 4:No 5:Po 16:Cn 12:Lo 4:Mn 4:Po 26:Cn 15:Lo 7:No",
     "14:Cn 17:Lo 9:Cn Mc Mn Mc 35:Lo F:Mn 7:Po 4:Cn 14:No A:Nd Mn 2:Lo 2:Mn Lo 9:Cn 3:Mn Mc 2D:Lo",
     "3:Mc 4:Mn 2:Mc 2:Mn 2:Po Cf 4:Po Mn A:Cn Cf 2:Cn 19:Lo 7:Cn A:Nd 6:Cn 3:Mn 24:Lo 5:Mn Mc",
     "8:Mn Cn A:Nd 4:Po Lo 2:Mc Lo 8:Cn 23:Lo Mn 2:Po Lo 9:Cn 2:Mn Mc 30:Lo 3:Mc 9:Mn 2:Mc 4:Lo",
     "4:Po 4:Mn Po Mc Mn A:Nd Lo Po Lo 3:Po Cn 14:No B:Cn 12:Lo Cn 19:Lo 3:Mc 3:Mn 2:Mc Mn Mc 2:Mn",
     "6:Po Mn 2:Lo Mn 3E:Cn 7:Lo Cn Lo Cn 4:Lo Cn F:Lo Cn A:Lo Po 6:Cn 2F:Lo Mn 3:Mc 8:Mn 5:Cn",
     "A:Nd 6:Cn 2:Mn 2:Mc Cn 8:Lo 2:Cn 2:Lo 2:Cn 16:Lo Cn 7:Lo Cn 2:Lo Cn 5:Lo Cn 2:Mn Lo 2:Mc Mn",
     "4:Mc 2:Cn 2:Mc 2:Cn 3:Mc 2:Cn Lo 6:Cn Mc 5:Cn 5:Lo 2:Mc 2:Cn 7:Mn 3:Cn 5:Mn B:Cn A:Lo Cn Lo",
     "2:Cn Lo Cn 26:Lo Cn Lo 3:Mc 6:Mn Cn Mc 2:Cn Mc Cn 4:Mc Cn 2:Mc Mn Mc Mn Lo Mn Lo 2:Po Cn",
     "2:Po 8:Cn 2:Mn 1D:Cn 35:Lo 3:Mc 8:Mn 2:Mc 3:Mn Mc Mn 4:Lo 5:Po A:Nd 2:Po Cn Po Mn 3:Lo 1E:Cn",
     "30:Lo 3:Mc 6:Mn Mc Mn 4:Mc 2:Mn Mc 2:Mn 2:Lo Po Lo 8:Cn A:Nd A6:Cn 2F:Lo 3:Mc 4:Mn 2:Cn 4:Mc",
     "2:Mn Mc 2:Mn 17:Po 4:Lo 2:Mn 22:Cn 30:Lo 3:Mc 8:Mn 2:Mc Mn Mc 2:Mn 3:Po Lo B:Cn A:Nd 6:Cn",
     "D:Po 13:Cn 2B:Lo Mn Mc Mn 2:Mc 6:Mn Mc Mn Lo Po 6:Cn A:Nd 6:Cn 14:Nd 1C:Cn 1B:Lo 2:Cn Mn Mc",
     "Mn 2:Mc 4:Mn Mc 5:Mn 4:Cn A:Nd 2:No 3:Po So 7:Lo B9:Cn 2C:Lo 3:Mc 9:Mn Mc 2:Mn Po 64:Cn",
     "20:Lu 20:Ll A:Nd 9:No C:Cn 8:Lo 2:Cn Lo 2:Cn 8:Lo Cn 2:Lo Cn 18:Lo 6:Mc Cn 2:Mc 2:Cn 2:Mn Mc",
     "Mn Lo Mc Lo Mc Mn 3:Po 9:Cn A:Nd 46:Cn 8:Lo 2:Cn 27:Lo 3:Mc 4:Mn 2:Cn 2:Mn 4:Mc Mn Lo Po Lo",
     "Mc 1B:Cn Lo A:Mn 28:Lo 6:Mn Mc Lo 4:Mn 8:Po Mn 8:Cn Lo 6:Mn 2:Mc 3:Mn 2E:Lo D:Mn Mc 2:Mn",
     "3:Po Lo 5:Po D:Cn 49:Lo 7:Cn A:Po 56:Cn Mn Mc 3:Mn Mc Mn Mc 58:Cn 21:Lo Po E:Cn A:Nd 6:Cn",
     "9:Lo Cn 25:Lo Mc 7:Mn Cn 6:Mn Mc Mn Lo 5:Po A:Cn A:Nd 13:No 3:Cn 2:Po 1E:Lo 2:Cn 16:Mn Cn Mc",
     "7:Mn Mc 2:Mn Mc 2:Mn 49:Cn 7:Lo Cn 2:Lo Cn 26:Lo 6:Mn 3:Cn Mn Cn 2:Mn Cn 7:Mn Lo Mn 8:Cn",
     "A:Nd 6:Cn 6:Lo Cn 2:Lo Cn 20:Lo 5:Mc Cn 2:Mn Cn 2:Mc Mn Mc Mn Lo 7:Cn A:Nd 6:Cn 29:Lo Lm",
     "2:Lo 4:Cn A:Nd F6:Cn 13:Lo 2:Mn 2:Mc 2:Po 7:Cn 2:Mn Lo Mc D:Lo Cn 22:Lo 2:Mc 5:Mn 3:Cn 2:Mc",
     "Mn Mc Mn D:Po A:Nd Mn 55:Cn Lo F:Cn 15:No 8:So 4:Sc 11:So D:Cn Po 39A:Lo 66:Cn 6F:Nl Cn 5:Po",
     "B:Cn C4:Lo A4C:Cn 61:Lo 2:Po D:Cn 430:Lo 10:Cf Mn 6:Lo F:Mn A:Cn F9B:Lo 5:Cn 247:Lo 1AB9:Cn",
     "1E:Lo C:Mn 3:Mc 3:Mn A:Nd 6C6:Cn 239:Lo 7:Cn 1F:Lo Cn A:Nd 4:Cn 2:Po 4F:Lo Cn A:Nd 6:Cn",
     "1E:Lo 2:Cn 5:Mn Po A:Cn 30:Lo 7:Mn 5:Po 4:So 4:Lm Po So A:Cn A:Nd Cn 7:No Cn 15:Lo 5:Cn",
     "13:Lo 1B0:Cn 3:Lm 28:Lo 2:Lm 3:Po A:Nd C6:Cn 20:Lu 20:Ll 17:No 4:Po 5:Cn 19:Lu 2:Cn 19:Ll",
     "2C:Cn 4B:Lo 4:Cn Mn Lo 37:Mc 7:Cn 4:Mn D:Lm 40:Cn 2:Lm Po Lm Mn B:Cn 2:Mc 2:Lm 3:Nl 9:Cn",
     "1CD6:Lo 29:Cn 20:Lo 61:Cn 73:Lo 21FD:Cn 4:Lm Cn 7:Lm Cn 2:Lm Cn 123:Lo F:Cn Lo 1D:Cn 3:Lo",
     "2:Cn Lo E:Cn 4:Lo 8:Cn 18C:Lo 904:Cn 6B:Lo 5:Cn D:Lo 3:Cn 9:Lo 7:Cn A:Lo 2:Cn So 2:Mn Po",
     "4:Cf F5C:Cn F0:So A:Nd 3:So 3:Cn 1B4:So 6:Cn 17:So F:Cn 10:So Sm F:Cn 2E:Mn 2:Cn 17:Mn 9:Cn",
     "74:So 3C:Cn F6:So A:Cn 27:So 2:Cn 3C:So 2:Mc 3:Mn 3:So 6:Mc 8:Cf 8:Mn 2:So 7:Mn 1E:So 4:Mn",
     "3D:So 15:Cn 42:So 3:Mn So 7A:Cn 14:No C:Cn 14:No C:Cn 57:So 9:Cn 19:No 87:Cn 1A:Lu 1A:Ll",
     "1A:Lu 7:Ll Cn 12:Ll 1A:Lu 1A:Ll Lu Cn 2:Lu 2:Cn Lu 2:Cn 2:Lu 2:Cn 4:Lu Cn 8:Lu 4:Ll Cn Ll Cn",
     "7:Ll Cn B:Ll 1A:Lu 1A:Ll 2:Lu Cn 4:Lu 2:Cn 8:Lu Cn 7:Lu Cn 1A:Ll 2:Lu Cn 4:Lu Cn 5:Lu Cn Lu",
     "3:Cn 7:Lu Cn 1A:Ll 1A:Lu 1A:Ll 1A:Lu 1A:Ll 1A:Lu 1A:Ll 1A:Lu 1A:Ll 1A:Lu 1A:Ll 1A:Lu 1C:Ll",
     "2:Cn 19:Lu Sm 19:Ll Sm 6:Ll 19:Lu Sm 19:Ll Sm 6:Ll 19:Lu Sm 19:Ll Sm 6:Ll 19:Lu Sm 19:Ll Sm",
     "6:Ll 19:Lu Sm 19:Ll Sm 6:Ll Lu Ll 2:Cn 32:Nd 200:So 37:Mn 4:So 32:Mn 8:So Mn E:So Mn 2:So",
     "5:Po F:Cn 5:Mn Cn F:Mn 450:Cn A:Ll Lo 14:Ll 6:Cn 6:Ll D5:Cn 7:Mn Cn 11:Mn 2:Cn 7:Mn Cn 2:Mn",
     "Cn 5:Mn 5:Cn 3E:Lm 21:Cn Mn 70:Cn 2D:Lo 3:Cn 7:Mn 7:Lm 2:Cn A:Nd 4:Cn Lo So 140:Cn 1E:Lo Mn",
     "11:Cn 2C:Lo 4:Mn A:Nd 5:Cn Sc 1D0:Cn 1B:Lo Lm 4:Mn A:Nd D6:Cn 1E:Lo 2:Mn Lo A:Nd 4:Cn Po",
     "C0:Cn 1F:Lo Cn 3:Lo Mn 2:Lo Mn 7:Lo 2:Mn 5:Lo Mn 8:Cn Lo Lm E0:Cn 7:Lo Cn 4:Lo Cn 2:Lo Cn",
     "F:Lo Cn C5:Lo 2:Cn 9:No 7:Mn 29:Cn 22:Lu 22:Ll 7:Mn Lm 4:Cn A:Nd 4:Cn 2:Po 311:Cn 3B:No So",
     "3:No Sc 4:No 4C:Cn 2D:No So F:No C2:Cn 4:Lo Cn 1B:Lo Cn 2:Lo Cn Lo 2:Cn Lo Cn A:Lo Cn 4:Lo",
     "Cn Lo Cn Lo 6:Cn Lo 4:Cn Lo Cn Lo Cn Lo Cn 3:Lo Cn 2:Lo Cn Lo 2:Cn Lo Cn Lo Cn Lo Cn Lo Cn",
     "Lo Cn 2:Lo Cn Lo 2:Cn 4:Lo Cn 7:Lo Cn 4:Lo Cn 4:Lo Cn Lo Cn A:Lo Cn 11:Lo 5:Cn 3:Lo Cn 5:Lo",
     "Cn 11:Lo 34:Cn 2:Sm 10E:Cn 2C:So 4:Cn 64:So C:Cn F:So 2:Cn F:So Cn F:So Cn 25:So A:Cn D:No",
     "A1:So 38:Cn 1D:So D:Cn 2C:So 4:Cn 9:So 7:Cn 2:So E:Cn 6:So 9A:Cn FB:So 5:Sk 2D9:So 3:Cn",
     "11:So 3:Cn D:So 3:Cn DA:So 6:Cn C:So 4:Cn So F:Cn C:So 4:Cn 38:So 8:Cn A:So 6:Cn 28:So 8:Cn",
     "1E:So 2:Cn C:So 4:Cn 2:So E:Cn 9:Sm 27:Cn 158:So 8:Cn E:So 2:Cn D:So 3:Cn B:So 3:Cn 39:So Cn",
     "So 4:Cn 10:So 2:Cn C:So 4:Cn A:So 7:Cn 93:So Cn 5C:So A:Nd So 405:Cn A6E0:Lo 20:Cn 111E:Lo",
     "2:Cn 168E:Lo 2:Cn 1D31:Lo F:Cn 26E:Lo 9A2:Cn 21E:Lo 5E2:Cn 134B:Lo 5:Cn 212A:Lo ACB87:Cn Cf",
     "1E:Cn 60:Cf 80:Cn F0:Mn FE10:Cn FFFE:Co 2:Cn FFFE:Co 2:Cn"]

/-- Whether a character has one of some categories. -/
def isOneOf (categories : List String) (c : Char) : Bool :=
  categories.contains (table.value c)

end Category

end Unicode

end InlineChoice
